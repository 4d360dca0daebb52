import Mediatheque.Proofs.Json.Form
import Mediatheque.Proofs.Media.Progress
import Mathlib.Data.List.Induction

/-!
# The texts of progress

The texts that tell progress: the word for nothing, or a word and the number of a season, or a word
and the numbers of a season and an episode, with commas between them. A number is a run of digits,
led by zeros or not, and of at most 32 bits; zeros count as they do in stored numbers. These are the
texts that progress is read from, and no others (`ofText?_eq_some_iff`), however they come: by
themselves or as a string in JSON. Many texts tell the same progress, and each progress has one that
it is written as (`reads_texts_exactly`).
-/

namespace Mediatheque

/-! ### Numbers -/

namespace Numeral

/-- The digits write the number: each of them is worth ten times as much as the one after it. -/
inductive Writes : List Char → Nat → Prop where
  /-- A single digit. -/
  | digit {c : Char} : c.isDigit → Writes [c] (c.toNat - '0'.toNat)
  /-- One more digit at the end. -/
  | append {digits : List Char} {n : Nat} {c : Char} :
    Writes digits n → c.isDigit → Writes (digits ++ [c]) (10 * n + (c.toNat - '0'.toNat))

theorem Writes.isDigit {digits : List Char} {n : Nat} (h : Writes digits n) :
    ∀ c ∈ digits, c.isDigit := by
  induction h with
  | digit hc => exact List.forall_mem_singleton.2 hc
  | append _ hc ih => exact List.forall_mem_append.2 ⟨ih, List.forall_mem_singleton.2 hc⟩

/-- Digits are read as the number that they write. -/
theorem Writes.toNat?_eq {digits : List Char} {n : Nat} (h : Writes digits n) :
    toNat? digits = some n := by
  have nonempty : digits ≠ [] := by cases h <;> simp
  have value : Nat.ofDigitChars 10 digits 0 = n := by
    clear nonempty
    induction h with
    | digit => simp [Nat.ofDigitChars_cons]
    | append _ _ ih => rw [Nat.ofDigitChars_append, ih]; simp [Nat.ofDigitChars_cons]
  rw [toNat?, if_pos ⟨nonempty, List.all_eq_true.2 h.isDigit⟩, value]

/-- What digits are there, they write some number. -/
theorem exists_writes {digits : List Char} (nonempty : digits ≠ [])
    (h : ∀ c ∈ digits, c.isDigit) : ∃ n, Writes digits n := by
  induction digits using List.reverseRecOn with
  | nil => exact absurd rfl nonempty
  | append_singleton digits c ih =>
    obtain ⟨hdigits, hc⟩ := List.forall_mem_append.1 h
    have last : c.isDigit := hc c List.mem_cons_self
    by_cases single : digits = []
    · subst single
      exact ⟨_, .digit last⟩
    · obtain ⟨n, hn⟩ := ih single hdigits
      exact ⟨_, .append hn last⟩

/-- A number is read from the digits that write it. -/
theorem toNat?_eq_some_iff {digits : List Char} {n : Nat} :
    toNat? digits = some n ↔ Writes digits n := by
  refine ⟨fun h => ?_, Writes.toNat?_eq⟩
  have nonempty : digits ≠ [] := by
    rintro rfl
    cases h
  obtain ⟨m, hm⟩ := exists_writes nonempty (all_isDigit_of_toNat? h)
  rwa [Option.some.inj (h.symm.trans hm.toNat?_eq)]

end Numeral

namespace Progress

/-- The digits write a number of at most 32 bits. -/
def IsNumber (digits : List Char) (n : Nat) : Prop := Numeral.Writes digits n ∧ n ≤ 4294967295

theorem number?_eq_some_iff {digits : List Char} {i : Int64} :
    number? digits = some i ↔ ∃ n, IsNumber digits n ∧ i = Int64.ofNat n := by
  have size : UInt32.size = 4294967296 := rfl
  rw [number?, Option.bind_eq_some_iff]
  refine exists_congr fun n => ?_
  rw [Numeral.toNat?_eq_some_iff, IsNumber, and_assoc]
  refine and_congr_right fun _ => ?_
  split
  · next small =>
    rw [Option.some.injEq, eq_comm]
    exact ⟨fun h => ⟨by omega, h⟩, fun h => h.2⟩
  · next large =>
    exact ⟨fun h => absurd h.symm (Option.some_ne_none i), fun h => absurd h.1 (by omega)⟩

/-- There is no comma in a number. -/
theorem IsNumber.comma_notMem {digits : List Char} {n : Nat} (h : IsNumber digits n) :
    ',' ∉ digits := fun hc => absurd (h.1.isDigit _ hc) (by decide)

/-! ### What numbers come to -/

/-- The numbers of a season and an episode come to the progress. Without a season nothing was
watched, whatever the episode; without an episode the whole season was. -/
def Counts (n m : Nat) : Progress → Prop
  | .nothing => n = 0
  | .season s => n = s.number.toNat ∧ m = 0
  | .episode s e => n = s.number.toNat ∧ m = e.number.toNat

/-- Numbers come to one progress at most. -/
theorem Counts.unique {n m : Nat} {p q : Progress} (hp : Counts n m p) (hq : Counts n m q) :
    p = q := by
  cases p with
  | nothing =>
    cases q with
    | nothing => rfl
    | season s => exact absurd (hq.1.symm.trans hp) (Nat.ne_of_gt s.pos)
    | episode s e => exact absurd (hq.1.symm.trans hp) (Nat.ne_of_gt s.pos)
  | season s =>
    cases q with
    | nothing => exact absurd (hp.1.symm.trans hq) (Nat.ne_of_gt s.pos)
    | season t => rw [Ordinal.eq_of_toNat (hp.1.symm.trans hq.1)]
    | episode t e => exact absurd (hq.2.symm.trans hp.2) (Nat.ne_of_gt e.pos)
  | episode s e =>
    cases q with
    | nothing => exact absurd (hp.1.symm.trans hq) (Nat.ne_of_gt s.pos)
    | season t => exact absurd (hp.2.symm.trans hq.2) (Nat.ne_of_gt e.pos)
    | episode t f =>
      rw [Ordinal.eq_of_toNat (hp.1.symm.trans hq.1), Ordinal.eq_of_toNat (hp.2.symm.trans hq.2)]

/-- A stored zero is no ordinal, and any other number of 32 bits is the ordinal that it counts. -/
theorem ofInt?_ofNat {n : Nat} (h : n ≤ 4294967295) :
    (n = 0 ∧ Ordinal.ofInt? (Int64.ofNat n) = none) ∨
      ∃ o : Ordinal, n = o.number.toNat ∧ Ordinal.ofInt? (Int64.ofNat n) = some o := by
  rcases Nat.eq_zero_or_pos n with rfl | pos
  · exact .inl ⟨rfl, by decide⟩
  · have value : (Int64.ofNat n).toInt = n := Int64.toInt_ofNat_of_lt (by omega)
    have positive : 0 < Int64.ofNat n := by
      rw [Int64.lt_iff_toInt_lt, value]
      exact Int.natCast_pos.2 pos
    obtain ⟨o, ho, same⟩ := Ordinal.exists_ofInt?_eq_some positive (by omega)
    refine .inr ⟨o, ?_, ho⟩
    rw [← Int.ofNat_inj, ← value, ← same, Ordinal.toInt_toInt]

/-- Numbers of 32 bits come to the progress that they tell when they are stored. -/
theorem counts_ofNumbers {n m : Nat} (hn : n ≤ 4294967295) (hm : m ≤ 4294967295) :
    Counts n m (ofNumbers (Int64.ofNat n) (some (Int64.ofNat m))) := by
  rw [ofNumbers, Option.bind_some]
  rcases ofInt?_ofNat hn with ⟨zero, hs⟩ | ⟨s, number, hs⟩
  · rw [hs]
    exact zero
  · rw [hs]
    rcases ofInt?_ofNat hm with ⟨zero, he⟩ | ⟨e, episode, he⟩
    · rw [he]
      exact ⟨number, zero⟩
    · rw [he]
      exact ⟨number, episode⟩

theorem counts_ofNumbers_iff {n m : Nat} (hn : n ≤ 4294967295) (hm : m ≤ 4294967295)
    {p : Progress} : ofNumbers (Int64.ofNat n) (some (Int64.ofNat m)) = p ↔ Counts n m p :=
  ⟨fun h => h ▸ counts_ofNumbers hn hm, fun h => (counts_ofNumbers hn hm).unique h⟩

/-- No episode tells the same as an episode of number zero. -/
theorem ofNumbers_none (season : Int64) : ofNumbers season none = ofNumbers season (some 0) := by
  have zero : Ordinal.ofInt? 0 = none := by decide
  rw [ofNumbers, ofNumbers, Option.bind_some, zero, Option.bind_none]

/-! ### Texts -/

/-- The text tells the progress. -/
inductive Tells : List Char → Progress → Prop where
  /-- The word for nothing. -/
  | nothing : Tells "notWatched".toList .nothing
  /-- A season. -/
  | season {s : List Char} {n : Nat} {p : Progress} :
    IsNumber s n → Counts n 0 p → Tells ("season,".toList ++ s) p
  /-- A season and an episode. -/
  | episode {s e : List Char} {n m : Nat} {p : Progress} :
    IsNumber s n → IsNumber e m → Counts n m p → Tells ("episode,".toList ++ s ++ ',' :: e) p

/-- Texts are split at their commas as lists are split at an element. -/
theorem splitAtCommas_eq_splitOn (s : List Char) : splitAtCommas s = s.splitOn ',' := by
  induction s with
  | nil => rw [splitAtCommas, List.splitOn_nil]
  | cons c rest ih =>
    rw [List.splitOn_cons_eq_if_modifyHead, ← ih]
    by_cases hc : c = ','
    · subst hc
      rw [splitAtCommas, if_pos (beq_self_eq_true ',')]
    · rw [splitAtCommas, if_neg (by simpa using hc)]
      · cases parts : splitAtCommas rest with
        | nil => exact absurd (ih.symm.trans parts) (List.splitOn_ne_nil _ _)
        | cons part parts => rfl
      · exact hc

/-- The parts of a text make it up with commas between them. -/
theorem eq_intercalate_of_splitAtCommas {s : List Char} {parts : List (List Char)}
    (h : splitAtCommas s = parts) : s = [','].intercalate parts := by
  rw [← h, splitAtCommas_eq_splitOn, List.intercalate_splitOn]

/-- What progress is read from tells it. -/
theorem tells_of_ofText? {s : List Char} {p : Progress} (h : ofText? s = some p) : Tells s p := by
  rw [ofText?] at h
  split at h
  · next word parts =>
    rw [eq_intercalate_of_splitAtCommas parts, List.intercalate_singleton]
    split at h
    · next hword =>
      cases h
      rw [hword]
      exact .nothing
    · cases h
  · next word s parts =>
    rw [eq_intercalate_of_splitAtCommas parts, List.intercalate_cons_cons,
      List.intercalate_singleton]
    split at h
    · next hword =>
      obtain ⟨i, hi, rfl⟩ := Option.map_eq_some_iff.1 h
      obtain ⟨n, hn, rfl⟩ := number?_eq_some_iff.1 hi
      rw [hword, ofNumbers_none]
      exact .season hn (counts_ofNumbers hn.2 (Nat.zero_le _))
    · cases h
  · next word s e parts =>
    rw [eq_intercalate_of_splitAtCommas parts, List.intercalate_cons_cons,
      List.intercalate_cons_cons, List.intercalate_singleton]
    split at h
    · next hword =>
      obtain ⟨i, hi, h⟩ := Option.bind_eq_some_iff.1 h
      obtain ⟨j, hj, rfl⟩ := Option.map_eq_some_iff.1 h
      obtain ⟨n, hn, rfl⟩ := number?_eq_some_iff.1 hi
      obtain ⟨m, hm, rfl⟩ := number?_eq_some_iff.1 hj
      rw [hword, List.append_assoc s, List.singleton_append, ← List.append_assoc]
      exact .episode hn hm (counts_ofNumbers hn.2 hm.2)
    · cases h
  · cases h

/-- Progress is read from every text that tells it. -/
theorem Tells.ofText?_eq {s : List Char} {p : Progress} (h : Tells s p) : ofText? s = some p := by
  cases h with
  | nothing => decide
  | @season s n p hn counts =>
    have parts : splitAtCommas ("season,".toList ++ s) = [seasonWord, s] := by
      have word : ',' ∉ seasonWord := by decide
      rw [← splitAtCommas_of_not_mem hn.comma_notMem]
      exact splitAtCommas_append word s
    have read := number?_eq_some_iff.2 ⟨n, hn, rfl⟩
    simp only [ofText?, parts, ↓reduceIte, read, Option.map_some, ofNumbers_none]
    exact congrArg some ((counts_ofNumbers_iff hn.2 (Nat.zero_le _)).2 counts)
  | @episode s e n m p hn hm counts =>
    have parts : splitAtCommas ("episode,".toList ++ s ++ ',' :: e) = [episodeWord, s, e] := by
      have word : ',' ∉ episodeWord := by decide
      rw [← splitAtCommas_of_not_mem hm.comma_notMem, ← splitAtCommas_append hn.comma_notMem,
        List.append_assoc]
      exact splitAtCommas_append word _
    have readSeason := number?_eq_some_iff.2 ⟨n, hn, rfl⟩
    have readEpisode := number?_eq_some_iff.2 ⟨m, hm, rfl⟩
    simp only [ofText?, parts, ↓reduceIte, readSeason, readEpisode, Option.bind_some,
      Option.map_some]
    exact congrArg some ((counts_ofNumbers_iff hn.2 hm.2).2 counts)

/-- Progress is read from the texts that tell it. -/
theorem ofText?_eq_some_iff {s : List Char} {p : Progress} : ofText? s = some p ↔ Tells s p :=
  ⟨tells_of_ofText?, Tells.ofText?_eq⟩

/-- The texts that tell progress, without what they tell. -/
theorem exists_tells_iff {s : List Char} : (∃ p, Tells s p) ↔ s = "notWatched".toList ∨
    (∃ t n, IsNumber t n ∧ s = "season,".toList ++ t) ∨
      ∃ t n u m, IsNumber t n ∧ IsNumber u m ∧ s = "episode,".toList ++ t ++ ',' :: u := by
  constructor
  · rintro ⟨p, h⟩
    cases h with
    | nothing => exact .inl rfl
    | season hn => exact .inr (.inl ⟨_, _, hn, rfl⟩)
    | episode hn hm => exact .inr (.inr ⟨_, _, _, _, hn, hm, rfl⟩)
  · rintro (rfl | ⟨t, n, hn, rfl⟩ | ⟨t, n, u, m, hn, hm, rfl⟩)
    · exact ⟨_, .nothing⟩
    · exact ⟨_, .season hn (counts_ofNumbers hn.2 (Nat.zero_le _))⟩
    · exact ⟨_, .episode hn hm (counts_ofNumbers hn.2 hm.2)⟩

/-! ### Other ways to read -/

theorem parse_eq_elim (s : String) :
    parse s = (ofText? s.toList).elim (.error (.invalidProgress s)) .ok := by
  rw [parse]
  cases ofText? s.toList <;> rfl

/-- A JSON value is read as progress if it is a string whose text tells the progress. -/
theorem as?_eq_some_iff {manner : Json.Manner} {j : Json} {p : Progress} :
    j.as? Progress manner = some p ↔ ∃ s, j = .str s ∧ ofText? s.toList = some p := by
  show (j.str?.bind fun s => ofText? s.toList) = some p ↔ _
  cases j <;> simp [Json.str?]

/-- From a string in JSON the same is read as from the text by itself. -/
theorem ofText_textOf (s : String) : Json.ofText Progress (Json.textOf s) = ofText? s.toList := by
  have read : Json.ofText? (toJson s).toText = some (.str s) :=
    ((isExact_toJson s).readBack (Nat.zero_le _)).1
  rw [Json.ofText, Json.textOf, String.toList_ofList, read]
  rfl

/-! ### All together -/

/-- Progress is told apart by its text. -/
theorem toText_inj {p q : Progress} : p.toText = q.toText ↔ p = q :=
  ⟨fun h => Option.some.inj ((ofText?_toText p).symm.trans (h ▸ ofText?_toText q)),
    congrArg toText⟩

/-- **Progress is read from exactly the texts of its grammar, and as what they tell**: by itself, as
a value of the library, and as a string in JSON alike. Its own text is among them, and no other
progress has that text; so to read a text and to write what was read brings it into the one form of
all texts that tell the same. Stored numbers are read back too. -/
theorem reads_texts_exactly :
    (∀ (s : List Char) (p : Progress), ofText? s = some p ↔ Tells s p) ∧
    (∀ s : List Char, (ofText? s).isSome ↔ s = "notWatched".toList ∨
      (∃ t n, IsNumber t n ∧ s = "season,".toList ++ t) ∨
        ∃ t n u m, IsNumber t n ∧ IsNumber u m ∧ s = "episode,".toList ++ t ++ ',' :: u) ∧
    (∀ p : Progress, ofText? p.toText = some p) ∧
    (∀ p q : Progress, p.toText = q.toText ↔ p = q) ∧
    (∀ s : String, parse s = (ofText? s.toList).elim (.error (.invalidProgress s)) .ok) ∧
    (∀ (manner : Json.Manner) (j : Json) (p : Progress),
      j.as? Progress manner = some p ↔ ∃ s, j = .str s ∧ ofText? s.toList = some p) ∧
    (∀ s : String, Json.ofText Progress (Json.textOf s) = ofText? s.toList) ∧
    ∀ p : Progress, ofFields? (some p.toFields.1) p.toFields.2 = some p := by
  refine ⟨fun s p => ofText?_eq_some_iff, fun s => ?_, ofText?_toText, fun p q => toText_inj,
    parse_eq_elim, fun manner j p => as?_eq_some_iff, ofText_textOf,
    fun p => congrArg some p.ofNumbers_toFields⟩
  simp only [← exists_tells_iff, Option.isSome_iff_exists, ofText?_eq_some_iff]

/-- Zeros may lead a number, and a number of zero counts as a stored zero does. -/
example : ofText? "episode,007,000".toList = some (.season ⟨7, by decide⟩) ∧
    ofText? "season,0".toList = some .nothing ∧ ofText? "season,4294967296".toList = none := by
  decide

end Progress

end Mediatheque
