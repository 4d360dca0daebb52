import Mediatheque.Calendar.Date

/-!
# Dates are read back

A date is read back from its text, whatever its year: a year of four digits as one of up to four,
and any other after its sign (`Date.ofText?_toText`). The parts do not run together, because the
text after a number never begins with a digit.
-/

namespace Mediatheque

namespace Text

/-- A text that begins with a character that is not blank is kept. -/
theorem trimStart_cons {c : Char} (h : isBlank c = false) (s : List Char) :
    trimStart (c :: s) = c :: s :=
  List.dropWhile_cons_of_neg (by rw [h]; exact Bool.false_ne_true)

/-- A digit is not blank. -/
theorem isBlank_of_isDigit {c : Char} (h : c.isDigit) : isBlank c = false := by
  have range : 48 ≤ c.toNat ∧ c.toNat ≤ 57 := Char.isDigit_iff_toNat.1 h
  have code : ∀ n < 58, 48 ≤ n → CodePointSet.memberFrom false n blanks.boundaries = false := by
    decide
  exact code c.toNat (by omega) range.1

end Text

namespace Numeral

/-- What is read as a number are digits. -/
theorem all_isDigit_of_toNat? {digits : List Char} {n : Nat} (h : toNat? digits = some n) :
    ∀ c ∈ digits, c.isDigit := by
  unfold toNat? at h
  split at h
  · next hd => exact List.all_eq_true.1 hd.2
  · cases h

/-- Digits are read as their number, where no digit follows them. -/
theorem scan?_append {limit n : Nat} {digits s : List Char} (h : toNat? digits = some n)
    (room : digits.length ≤ limit) (stop : ∀ c ∈ s.head?, ¬c.isDigit) :
    scan? limit (digits ++ s) = some (n, s) := by
  have none : (s.take (limit - digits.length)).takeWhile Char.isDigit = [] := by
    cases s with
    | nil => rw [List.take_nil]; rfl
    | cons c s =>
      cases limit - digits.length with
      | zero => rfl
      | succ k => exact List.takeWhile_cons_of_neg (stop c rfl)
  have front : ((digits ++ s).take limit).takeWhile Char.isDigit = digits := by
    rw [List.take_append, List.take_of_length_le room,
      List.takeWhile_append_of_pos (all_isDigit_of_toNat? h), none, List.append_nil]
  simp only [scan?, front, h, Option.map_some, List.drop_left]

/-- A number below a power of ten has as many digits as the power has zeros. -/
theorem length_padded_of_lt {width n : Nat} (hw : 0 < width) (h : n < Nat.pow 10 width) :
    (padded width n).length = width :=
  length_padded ((Nat.length_toDigits_le_iff (by decide) hw).2 h)

/-- A padded numeral begins with a digit. -/
theorem padded_eq_cons (width n : Nat) : ∃ c rest, padded width n = c :: rest ∧ c.isDigit := by
  have nonempty : padded width n ≠ [] := fun h => ofNat_ne_nil n (List.append_eq_nil_iff.1 h).2
  obtain ⟨c, rest, h⟩ := List.exists_cons_of_ne_nil nonempty
  have digits := all_isDigit_of_toNat? (toNat?_padded width n)
  exact ⟨c, rest, h, digits c (by rw [h]; exact List.mem_cons_self)⟩

end Numeral

namespace Date

/-- A year is read back from its text. -/
theorem scanYear?_append (year : Int) {s : List Char} (stop : ∀ c ∈ s.head?, ¬c.isDigit) :
    scanYear? (yearText year ++ s) = some (year, s) := by
  unfold yearText
  by_cases small : 0 ≤ year ∧ year ≤ 9999
  · rw [if_pos small]
    have length : (Numeral.padded 4 year.toNat).length = 4 :=
      Numeral.length_padded_of_lt (by decide) (show year.toNat < 10000 by omega)
    obtain ⟨c, rest, text, digit⟩ := Numeral.padded_eq_cons 4 year.toNat
    have read := Numeral.scan?_append (Numeral.toNat?_padded 4 year.toNat) (Nat.le_of_eq length) stop
    have value : ((year.toNat : Nat) : Int) = year := by omega
    rw [text, List.cons_append] at read ⊢
    rw [scanYear?, Text.trimStart_cons (Text.isBlank_of_isDigit digit)]
    split
    · next h =>
      rw [(List.cons.inj h).1] at digit
      exact absurd digit (by decide)
    · next h =>
      rw [(List.cons.inj h).1] at digit
      exact absurd digit (by decide)
    · simp only [read, Option.map_some, value]
  · rw [if_neg small]
    have read : Numeral.scan? (Numeral.padded 4 year.natAbs ++ s).length
        (Numeral.padded 4 year.natAbs ++ s) = some (year.natAbs, s) :=
      Numeral.scan?_append (Numeral.toNat?_padded 4 year.natAbs) (by simp) stop
    by_cases negative : year < 0
    · have value : -((year.natAbs : Nat) : Int) = year := by omega
      rw [if_pos negative, List.cons_append, scanYear?, Text.trimStart_cons rfl]
      simp only [read, Option.map_some, value]
    · have value : ((year.natAbs : Nat) : Int) = year := by omega
      rw [if_neg negative, List.cons_append, scanYear?, Text.trimStart_cons rfl]
      simp only [read, Option.map_some, value]

/-- A number of two digits is read back from its text. -/
theorem scanPair?_append {n : Nat} (h : n < 100) {s : List Char}
    (stop : ∀ c ∈ s.head?, ¬c.isDigit) : scanPair? (Numeral.padded 2 n ++ s) = some (n, s) := by
  have length : (Numeral.padded 2 n).length = 2 := Numeral.length_padded_of_lt (by decide) h
  have read := Numeral.scan?_append (Numeral.toNat?_padded 2 n) (Nat.le_of_eq length) stop
  obtain ⟨c, rest, text, digit⟩ := Numeral.padded_eq_cons 2 n
  rw [text, List.cons_append] at read ⊢
  rw [scanPair?, Text.trimStart_cons (Text.isBlank_of_isDigit digit), read]

theorem daysInMonth_le (year : Int) (month : Nat) : daysInMonth year month ≤ 31 := by
  unfold daysInMonth
  split
  · split <;> decide
  all_goals decide

/-- Months and days have at most two digits. -/
theorem lt_hundred (d : Date) : d.month < 100 ∧ d.day < 100 := by
  have first := d.day_mem.1
  have last := d.day_mem.2
  have days := daysInMonth_le d.year d.month
  refine ⟨?_, by omega⟩
  rcases Nat.lt_or_ge d.month 100 with small | large
  · exact small
  · have none : daysInMonth d.year d.month = 0 := by
      unfold daysInMonth
      split <;> first | rfl | omega
    omega

/-- A date is read back from its text. -/
theorem ofText?_toText (d : Date) : ofText? d.toText = some d := by
  obtain ⟨month, day⟩ := d.lt_hundred
  have hyphen : ∀ s : List Char, ∀ c ∈ ('-' :: s).head?, ¬c.isDigit := by
    intro s c hc
    cases hc
    decide
  have last := scanPair?_append day (s := []) nofun
  rw [List.append_nil] at last
  have scanned : scan? d.toText = some (d, []) := by
    simp only [scan?, toText, List.append_assoc, List.cons_append, scanYear?_append d.year (hyphen _),
      Text.trimStart_cons (c := '-') rfl, after?, ↓reduceIte, scanPair?_append month (hyphen _), last,
      ofParts?_parts, Option.bind_eq_bind, Option.bind_some]
    rfl
  rw [ofText?, scanned]
  rfl

end Date

end Mediatheque
