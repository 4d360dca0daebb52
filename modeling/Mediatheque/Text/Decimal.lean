import Mediatheque.Text.Numeral

/-!
# Decimal numbers

The parts of a decimal number in front of a text: a sign, digits, a fraction after a point,
and an exponent after a letter. What is read of a text is never longer than the text
(`length_scanDigits?` and its companions), so that a reader of many numbers comes to an end.
-/

namespace Mediatheque.Decimal

/-- The digits in front of a text, if there are any, and the text after them. -/
def scanDigits? (s : List Char) : Option (List Char × List Char) :=
  match s.takeWhile Char.isDigit with
  | [] => none
  | digits => some (digits, s.dropWhile Char.isDigit)

/-- The fraction digits in front of a text, none if it does not begin with a point. -/
def scanFraction? : List Char → Option (List Char × List Char)
  | '.' :: rest => scanDigits? rest
  | s => some ([], s)

/-- Whether a text begins with a minus sign, and the text after the sign it may begin with. -/
def scanSign (plus : Bool) : List Char → Bool × List Char
  | '-' :: rest => (true, rest)
  | '+' :: rest => (false, if plus then rest else '+' :: rest)
  | s => (false, s)

/-- The exponent in front of a text, if it begins with the letter for one. -/
def scanExponent? : List Char → Option (Option Int × List Char)
  | 'e' :: rest | 'E' :: rest =>
    let (negative, rest) := scanSign true rest
    (scanDigits? rest).map fun (digits, rest) =>
      let n : Int := Nat.ofDigitChars 10 digits 0
      (some (if negative then -n else n), rest)
  | s => some (none, s)

theorem length_scanDigits? {s digits rest : List Char} (h : scanDigits? s = some (digits, rest)) :
    rest.length < s.length := by
  have lengths :=
    congrArg List.length (List.takeWhile_append_dropWhile (p := Char.isDigit) (l := s))
  rw [List.length_append] at lengths
  unfold scanDigits? at h
  split at h
  · cases h
  · next digits' hne =>
    cases h
    have : 0 < (s.takeWhile Char.isDigit).length := List.length_pos_iff.2 (by simpa using hne)
    omega

theorem length_scanFraction? {s digits rest : List Char}
    (h : scanFraction? s = some (digits, rest)) : rest.length ≤ s.length := by
  unfold scanFraction? at h
  split at h
  · have := length_scanDigits? h; simp; omega
  · cases h; simp

theorem length_scanSign (plus : Bool) (s : List Char) : (scanSign plus s).2.length ≤ s.length := by
  unfold scanSign
  split
  · simp
  · split <;> simp
  · simp

theorem length_scanExponent? {s rest : List Char} {exponent : Option Int}
    (h : scanExponent? s = some (exponent, rest)) : rest.length ≤ s.length := by
  unfold scanExponent? at h
  split at h
  case h_3 => cases h; simp
  all_goals
    rename_i rest'
    simp only [Option.map_eq_some_iff, Prod.exists, Prod.mk.injEq] at h
    obtain ⟨_, _, h, _, rfl⟩ := h
    have := length_scanDigits? h
    have := length_scanSign true rest'
    simp; omega

/-- Whether a mantissa times a power of ten rounds beyond the doubles. The digits tell
unless the product is close to the limit. -/
def isHuge (mantissa : Nat) (exponent : Int) : Bool :=
  let limit : Nat := Nat.pow 2 1024 - Nat.pow 2 970
  let size : Int := (Numeral.ofNat mantissa).length + exponent
  if mantissa = 0 ∨ size < 309 then false
  else if 310 < size then true
  else if 0 ≤ exponent then limit ≤ mantissa * Nat.pow 10 exponent.toNat
  else limit * Nat.pow 10 (-exponent).toNat ≤ mantissa

end Mediatheque.Decimal
