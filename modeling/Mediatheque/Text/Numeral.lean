/-!
# Numerals

Decimal and hexadecimal numerals as lists of digits. A decimal numeral is read back from
its digits whatever zeros lead it (`toNat?_padded`); a hexadecimal numeral of a fixed
width is read back modulo what the width can hold (`ofHex?_hexDigits`).
-/

namespace Mediatheque.Numeral

/-! ### Decimal numerals -/

/-- The decimal digits of a number, without leading zeros. -/
def ofNat (n : Nat) : List Char := Nat.toDigits 10 n

/-- The decimal digits of a number, led by zeros up to the given width. -/
def padded (width n : Nat) : List Char :=
  List.replicate (width - (ofNat n).length) '0' ++ ofNat n

/-- The decimal numeral of an integer: a minus sign if it is negative, and its digits. -/
def ofInt : Int → List Char
  | .ofNat n => ofNat n
  | .negSucc n => '-' :: ofNat (n + 1)

/-- The number written by a nonempty list of decimal digits. -/
def toNat? (digits : List Char) : Option Nat :=
  if digits ≠ [] ∧ digits.all Char.isDigit then some (Nat.ofDigitChars 10 digits 0) else none

/-- The number written by the decimal digits in front of a text, at most `limit` and at least
one of them, and the text after them. -/
def scan? (limit : Nat) (s : List Char) : Option (Nat × List Char) :=
  let digits := (s.take limit).takeWhile Char.isDigit
  (toNat? digits).map fun n => (n, s.drop digits.length)

theorem ofNat_ne_nil (n : Nat) : ofNat n ≠ [] := Nat.toDigits_ne_nil

theorem isDigit_of_mem_ofNat {n : Nat} {c : Char} (h : c ∈ ofNat n) : c.isDigit :=
  Nat.isDigit_of_mem_toDigits (by decide) (by decide) h

/-- Leading zeros do not change the number read. -/
theorem toNat?_zeros_append (k n : Nat) :
    toNat? (List.replicate k '0' ++ ofNat n) = some n := by
  have all : (List.replicate k '0' ++ ofNat n).all Char.isDigit := by
    rw [List.all_eq_true]
    intro c hc
    rcases List.mem_append.1 hc with hc | hc
    · rw [List.eq_of_mem_replicate hc]; decide
    · exact isDigit_of_mem_ofNat hc
  have value : Nat.ofDigitChars 10 (List.replicate k '0' ++ ofNat n) 0 = n := by
    rw [Nat.ofDigitChars_append, Nat.ofDigitChars_replicate_zero, Nat.mul_zero]
    exact Nat.ofDigitChars_ten_toDigits
  simp [toNat?, all, value, ofNat_ne_nil]

@[simp] theorem toNat?_padded (width n : Nat) : toNat? (padded width n) = some n :=
  toNat?_zeros_append _ n

@[simp] theorem toNat?_ofNat (n : Nat) : toNat? (ofNat n) = some n :=
  toNat?_zeros_append 0 n

/-- Numerals of a width the number fits into have exactly that width. -/
theorem length_padded {width n : Nat} (h : (ofNat n).length ≤ width) :
    (padded width n).length = width := by
  simp [padded]; omega

/-! ### Hexadecimal numerals -/

/-- The hexadecimal digits of a number in lower case, without leading zeros. -/
def hex (n : Nat) : List Char := Nat.toDigits 16 n

/-- The last `width` hexadecimal digits of a number, in lower case. -/
def hexDigits : Nat → Nat → List Char
  | 0, _ => []
  | width + 1, n => hexDigits width (n / 16) ++ [Nat.digitChar (n % 16)]

/-- The value of a hexadecimal digit of either case. -/
def hexValue? (c : Char) : Option Nat :=
  if '0' ≤ c ∧ c ≤ '9' then some (c.toNat - '0'.toNat)
  else if 'a' ≤ c ∧ c ≤ 'f' then some (c.toNat - 'a'.toNat + 10)
  else if 'A' ≤ c ∧ c ≤ 'F' then some (c.toNat - 'A'.toNat + 10)
  else none

/-- The number written by hexadecimal digits after digits worth `high`. -/
def ofHexFrom? : Nat → List Char → Option Nat
  | high, [] => some high
  | high, c :: rest => (hexValue? c).bind fun d => ofHexFrom? (high * 16 + d) rest

/-- The number written by hexadecimal digits of either case. -/
def ofHex? (digits : List Char) : Option Nat := ofHexFrom? 0 digits

@[simp] theorem length_hexDigits (width n : Nat) : (hexDigits width n).length = width := by
  induction width generalizing n with
  | zero => rfl
  | succ width ih => simp [hexDigits, ih]

theorem hexValue?_digitChar {d : Nat} (h : d < 16) : hexValue? (Nat.digitChar d) = some d := by
  revert d; decide

theorem ofHexFrom?_append (high : Nat) (l m : List Char) :
    ofHexFrom? high (l ++ m) = (ofHexFrom? high l).bind fun n => ofHexFrom? n m := by
  induction l generalizing high with
  | nil => simp [ofHexFrom?]
  | cons c l ih =>
    simp only [List.cons_append, ofHexFrom?, Option.bind_assoc]
    congr 1; funext d; exact ih _

theorem ofHexFrom?_hexDigits (high width n : Nat) :
    ofHexFrom? high (hexDigits width n) =
      some (high * Nat.pow 16 width + n % Nat.pow 16 width) := by
  induction width generalizing n with
  | zero => simp [hexDigits, ofHexFrom?, Nat.mod_one]
  | succ width ih =>
    have digit : hexValue? (Nat.digitChar (n % 16)) = some (n % 16) :=
      hexValue?_digitChar (Nat.mod_lt _ (by decide))
    rw [hexDigits, ofHexFrom?_append, ih]
    simp only [Option.bind_some, ofHexFrom?, digit]
    have power : Nat.pow 16 (width + 1) = 16 * Nat.pow 16 width := Nat.mul_comm _ _
    rw [power, Nat.mod_mul]
    congr 1
    rw [Nat.add_mul, Nat.mul_comm 16 (Nat.pow 16 width), Nat.mul_assoc]
    omega

/-- Hexadecimal digits of a fixed width hold the number modulo the width. -/
theorem ofHex?_hexDigits (width n : Nat) :
    ofHex? (hexDigits width n) = some (n % Nat.pow 16 width) := by
  simp [ofHex?, ofHexFrom?_hexDigits]

end Mediatheque.Numeral
