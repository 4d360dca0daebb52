import Mediatheque.Predicate.Value
import Mediatheque.Proofs.Calendar.Text
import Mediatheque.Proofs.Identity

/-!
# What a value shows

A message shows a value as text, and the text tells which value it is (`Value.toText_injective`).
The kind can be seen from the quotes and from the number of hyphens (`Value.kindOfText_toText`), and
among values of one kind the text is one that can be read back. Of a quoted text every character can
be read back from what is shown of it, whatever follows (`Text.scanShown?_append`).
-/

namespace Mediatheque

/-! ### Numerals -/

namespace Numeral

/-- Hexadecimal digits without leading zeros are read back. -/
theorem ofHex?_hex (n : Nat) : ofHex? (hex n) = some n := by
  induction n using Nat.strongRecOn with
  | ind n ih =>
    have last : hexValue? (n % 16).digitChar = some (n % 16) :=
      hexValue?_digitChar (Nat.mod_lt n (by decide))
    by_cases small : n < 16
    · rw [Nat.mod_eq_of_lt small] at last
      simp [hex, Nat.toDigits_of_lt_base small, ofHex?, ofHexFrom?, last]
    · have front : ofHexFrom? 0 (hex (n / 16)) = some (n / 16) := ih (n / 16) (by omega)
      have value : n / 16 * 16 + n % 16 = n := Nat.div_add_mod' n 16
      rw [hex, Nat.toDigits_of_base_le (by decide) (by omega), ← hex, ofHex?, ofHexFrom?_append,
        front]
      simp [ofHexFrom?, last, value]

/-- What is read as a hexadecimal number are hexadecimal digits. -/
theorem isSome_hexValue?_of_ofHexFrom? {high n : Nat} {digits : List Char}
    (h : ofHexFrom? high digits = some n) : ∀ c ∈ digits, (hexValue? c).isSome := by
  induction digits generalizing high with
  | nil => exact List.forall_mem_nil _
  | cons c digits ih =>
    obtain ⟨d, hd, rest⟩ := Option.bind_eq_some_iff.1 h
    exact List.forall_mem_cons.2 ⟨by rw [hd]; rfl, ih rest⟩

/-- The decimal numeral of an integer tells it. -/
theorem ofInt_injective : Function.Injective ofInt := by
  have digits : ∀ {m n : Nat}, ofNat m = ofNat n → m = n := fun {m n} h => by
    rw [← Option.some_inj, ← toNat?_ofNat m, h, toNat?_ofNat]
  have unsigned : ∀ {m n : Nat}, ofNat m ≠ '-' :: ofNat n := fun {m n} h => by
    have sign : '-' ∈ ofNat m := by rw [h]; exact List.mem_cons_self
    exact absurd (isDigit_of_mem_ofNat sign) (by decide)
  intro i j h
  cases i with
  | ofNat m =>
    cases j with
    | ofNat n => rw [digits h]
    | negSucc n => exact absurd h unsigned
  | negSucc m =>
    cases j with
    | ofNat n => exact absurd h.symm unsigned
    | negSucc n => rw [Nat.succ.inj (digits (List.cons.inj h).2)]

end Numeral

/-! ### Quoted texts -/

namespace Text

/-- Reads the digits of a code point in front of a text, up to the brace after them. -/
def scanCodePoint? (s : List Char) : Option (Char × List Char) :=
  let digits := s.takeWhile (· ≠ '\x7d')
  (Numeral.ofHex? digits).map fun n => (Char.ofNat n, s.drop (digits.length + 1))

/-- Reads what follows a backslash. -/
def scanEscape? : List Char → Option (Char × List Char)
  | 'n' :: rest => some ('\n', rest)
  | 'r' :: rest => some ('\r', rest)
  | 't' :: rest => some ('\t', rest)
  | '0' :: rest => some ('\x00', rest)
  | 'u' :: '\x7b' :: rest => scanCodePoint? rest
  | c :: rest => some (c, rest)
  | [] => none

/-- Reads the character that is shown in front of a text. -/
def scanShown? : List Char → Option (Char × List Char)
  | '\\' :: rest => scanEscape? rest
  | c :: rest => some (c, rest)
  | [] => none

theorem scanCodePoint?_append (c : Char) (s : List Char) :
    scanCodePoint? (Numeral.hex c.toNat ++ '\x7d' :: s) = some (c, s) := by
  have read := Numeral.ofHex?_hex c.toNat
  have digits : ∀ d ∈ Numeral.hex c.toNat, (d ≠ '\x7d' : Bool) := by
    intro d hd
    have known := Numeral.isSome_hexValue?_of_ofHexFrom? read d hd
    refine decide_eq_true fun brace => ?_
    rw [brace] at known
    exact absurd known (by decide)
  have front : (Numeral.hex c.toNat ++ '\x7d' :: s).takeWhile (· ≠ '\x7d') =
      Numeral.hex c.toNat := by
    rw [List.takeWhile_append_of_pos digits, List.takeWhile_cons_of_neg (by decide),
      List.append_nil]
  have rest : (Numeral.hex c.toNat ++ '\x7d' :: s).drop ((Numeral.hex c.toNat).length + 1) = s := by
    rw [List.drop_append, List.drop_eq_nil_of_le (by omega)]
    simp
  rw [scanCodePoint?, front, rest, read, Option.map_some, Char.ofNat_toNat]

/-- A character is read back from what is shown of it. -/
theorem scanShown?_append (c : Char) (s : List Char) :
    scanShown? (showChar c ++ s) = some (c, s) := by
  unfold showChar
  split
  · next h => rcases h with rfl | rfl <;> rfl
  · next plain =>
    split
    · next h => rw [h]; rfl
    split
    · next h => rw [h]; rfl
    split
    · next h => rw [h]; rfl
    split
    · next h => rw [h]; rfl
    split
    · exact scanShown?.eq_2 c s fun h => plain (.inr h)
    · rw [List.append_assoc]
      exact scanCodePoint?_append c s

theorem showChar_ne_nil (c : Char) : showChar c ≠ [] := by
  intro h
  have read := scanShown?_append c []
  rw [h] at read
  cases read

/-- What is shown of the characters of a text tells them. -/
theorem flatMap_showChar_injective :
    Function.Injective fun s : List Char => s.flatMap showChar := by
  intro s t h
  induction s generalizing t with
  | nil =>
    cases t with
    | nil => rfl
    | cons d t => exact absurd (List.append_eq_nil_iff.1 h.symm).1 (showChar_ne_nil d)
  | cons c s ih =>
    cases t with
    | nil => exact absurd (List.append_eq_nil_iff.1 h).1 (showChar_ne_nil c)
    | cons d t =>
      have same : some (c, s.flatMap showChar) = some (d, t.flatMap showChar) := by
        rw [← scanShown?_append c, ← scanShown?_append d]
        exact congrArg scanShown? h
      obtain ⟨rfl, rest⟩ := Prod.mk.inj (Option.some.inj same)
      rw [ih rest]

/-- A quoted text tells the text. -/
theorem quoted_injective : Function.Injective quoted := by
  intro s t h
  have shown := (List.cons.inj (String.ofList_inj.1 h)).2
  exact String.toList_inj.1 (flatMap_showChar_injective (List.append_cancel_right shown))

end Text

/-! ### Hyphens -/

namespace Numeral

/-- What is no digit does not occur among decimal digits. -/
theorem count_padded {c : Char} (h : ¬c.isDigit) (width n : Nat) :
    (padded width n).count c = 0 :=
  List.count_eq_zero.2 fun hc => h (all_isDigit_of_toNat? (toNat?_padded width n) c hc)

/-- What is no hexadecimal digit does not occur among them. -/
theorem not_mem_hexDigits {c : Char} (h : hexValue? c = none) (width n : Nat) :
    c ∉ hexDigits width n := by
  intro hc
  have known := isSome_hexValue?_of_ofHexFrom? (ofHex?_hexDigits width n) c hc
  rw [h] at known
  cases known

/-- The numeral of an integer is of digits, after a hyphen if there is a sign. -/
theorem hyphens_ofInt (i : Int) :
    (∀ c ∈ ofInt i, c = '-' ∨ c.isDigit) ∧ (ofInt i).count '-' ≤ 1 := by
  have digits : ∀ n, (ofNat n).count '-' = 0 := fun n =>
    List.count_eq_zero.2 fun h => absurd (isDigit_of_mem_ofNat h) (by decide)
  cases i with
  | ofNat n => exact ⟨fun c hc => .inr (isDigit_of_mem_ofNat hc), by simp [ofInt, digits]⟩
  | negSucc n =>
    refine ⟨List.forall_mem_cons.2 ⟨.inl rfl, fun c hc => .inr (isDigit_of_mem_ofNat hc)⟩, ?_⟩
    simp [ofInt, digits]

end Numeral

/-- A date has a hyphen before the month and one before the day, and maybe one as a sign. -/
theorem Date.hyphens_toText (d : Date) :
    '"' ∉ d.toText ∧ (d.toText.count '-' = 2 ∨ d.toText.count '-' = 3) := by
  rw [← List.count_eq_zero, toText, yearText]
  split
  · simp [Numeral.count_padded]
  · split <;> simp [Numeral.count_padded]

/-- An identifier has a hyphen between any two groups of its digits. -/
theorem Uuid.hyphens_toText (u : Uuid) : '"' ∉ u.toText ∧ u.toText.count '-' = 4 := by
  have quotes := Numeral.not_mem_hexDigits (c := '"') rfl 32 u.bits.toNat
  have hyphens := Numeral.not_mem_hexDigits (c := '-') rfl 32 u.bits.toNat
  unfold toText
  generalize Numeral.hexDigits 32 u.bits.toNat = l at quotes hyphens ⊢
  rw [← groups_eq (l := l)] at quotes hyphens
  simp only [List.mem_append, not_or] at quotes hyphens
  simp [quotes, List.count_eq_zero.2, hyphens]

/-! ### Values -/

namespace Value

/-- The kind of the value that a text shows. -/
def kindOfText (s : List Char) : ValueKind :=
  if '"' ∈ s then .text
  else if s = "null".toList then .null
  else if s = "true".toList ∨ s = "false".toList then .bool
  else if s.count '-' ≤ 1 then .int
  else if s.count '-' ≤ 3 then .date
  else .uuid

/-- A text of digits shows an integer, if no more than one hyphen is among them. -/
theorem kindOfText_of_digits {s : List Char} (chars : ∀ c ∈ s, c = '-' ∨ c.isDigit)
    (hyphens : s.count '-' ≤ 1) : kindOfText s = .int := by
  have letter : ∀ c, ¬(c = '-' ∨ c.isDigit) → ∀ w, c ∈ w → s ≠ w := by
    rintro c other w hc rfl
    exact other (chars c hc)
  have quotes : '"' ∉ s := fun h => absurd (chars _ h) (by decide)
  have constant : ¬(s = "true".toList ∨ s = "false".toList) :=
    not_or.2 ⟨letter 'e' (by decide) _ (by decide), letter 'e' (by decide) _ (by decide)⟩
  rw [kindOfText, if_neg quotes, if_neg (letter 'n' (by decide) _ (by decide)), if_neg constant,
    if_pos hyphens]

/-- A text without quotes but with hyphens shows a date or an identifier. -/
theorem kindOfText_of_hyphens {s : List Char} (quotes : '"' ∉ s) (hyphens : 1 < s.count '-') :
    kindOfText s = if s.count '-' ≤ 3 then .date else .uuid := by
  have word : ∀ w : List Char, w.count '-' = 0 → s ≠ w := by
    rintro w none rfl
    omega
  have constant : ¬(s = "true".toList ∨ s = "false".toList) :=
    not_or.2 ⟨word _ (by decide), word _ (by decide)⟩
  rw [kindOfText, if_neg quotes, if_neg (word _ (by decide)), if_neg constant, if_neg (by omega)]

/-- The kind of a value can be seen from what is shown of it. -/
theorem kindOfText_toText (v : Value) : kindOfText v.toText.toList = v.kind := by
  cases v with
  | null => rfl
  | bool b => cases b <;> rfl
  | int i =>
    obtain ⟨chars, hyphens⟩ := Numeral.hyphens_ofInt i.toInt
    show kindOfText (String.ofList (Numeral.ofInt i.toInt)).toList = .int
    rw [String.toList_ofList, kindOfText_of_digits chars hyphens]
  | date d =>
    obtain ⟨quotes, hyphens⟩ := d.hyphens_toText
    show kindOfText (String.ofList d.toText).toList = .date
    rw [String.toList_ofList, kindOfText_of_hyphens quotes (by omega), if_pos (by omega)]
  | text s => simp [kindOfText, toText, Text.quoted, kind]
  | uuid u =>
    obtain ⟨quotes, hyphens⟩ := u.hyphens_toText
    show kindOfText (String.ofList u.toText).toList = .uuid
    rw [String.toList_ofList, kindOfText_of_hyphens quotes (by omega), if_neg (by omega)]

/-- What is shown of a value tells it. -/
theorem toText_injective : Function.Injective toText := by
  intro v w h
  have kinds : v.kind = w.kind := by rw [← kindOfText_toText, h, kindOfText_toText]
  cases v <;> cases w <;> cases kinds
  case null => rfl
  case bool b c => cases b <;> cases c <;> first | rfl | exact absurd h (by decide)
  case int i j =>
    have digits := Numeral.ofInt_injective (String.ofList_inj.1 h)
    rw [Int64.toInt_inj.1 digits]
  case date d e =>
    have read : some d = some e := by
      rw [← d.ofText?_toText, String.ofList_inj.1 h, e.ofText?_toText]
    rw [Option.some.inj read]
  case text s t => rw [Text.quoted_injective h]
  case uuid u w =>
    have read : some u = some w := by
      rw [← u.ofText?_toText, String.ofList_inj.1 h, w.ofText?_toText]
    rw [Option.some.inj read]

end Value

end Mediatheque
