import Mediatheque.Text.Decimal

/-!
# JSON numbers

A number is an integer if it is written as one and fits 64 bits. Any other number is read
as a double, in few steps and so not always as the nearest one: as many digits as fit 64
bits make its significand, the digits after them count for their places at most, and the
significand is multiplied or divided by a power of ten. A number that this leads beyond the
doubles has no value.
-/

namespace Mediatheque.Json

/-- A number of JSON text. -/
inductive Number where
  /-- An integer. -/
  | int (i : Int)
  /-- Another number: a significand of 64 bits times a power of ten. -/
  | real (significand exponent : Int)
  /-- A number that is too large. -/
  | huge
  deriving DecidableEq, Repr

namespace Number

/-! ### Doubles -/

/-- The largest power of ten that a significand is multiplied or divided by in one step. -/
def maxPower : Nat := 308

/-- The double nearest to a power of ten. -/
def powerOfTen (n : Nat) : Float := Float.ofScientific 1 false n

/-- The double that a significand times a power of ten is read as. Every step rounds. Beyond
the powers that one step can take only zero stays finite, and below those of two steps all
is zero. -/
def double (significand : Nat) (exponent : Int) : Float :=
  let power := exponent.natAbs
  if 0 ≤ exponent then
    if power ≤ maxPower then Float.ofNat significand * powerOfTen power
    else if significand = 0 then 0 else 1 / 0
  else if power ≤ maxPower then Float.ofNat significand / powerOfTen power
  else if power ≤ 2 * maxPower then
    Float.ofNat significand / powerOfTen maxPower / powerOfTen (power - maxPower)
  else 0

/-- The significand with digits appended, as many as fit 64 bits, and the digits left over. -/
def appendDigits (significand : Nat) : List Char → Nat × List Char
  | [] => (significand, [])
  | c :: rest =>
    let longer := 10 * significand + (c.toNat - '0'.toNat)
    if longer < UInt64.size then appendDigits longer rest else (significand, c :: rest)

/-- The significand and the power of ten of a number with the given digits before and after
its point and the given exponent. A digit left over before the point raises the power, a
digit taken after it lowers the power. -/
def decimal (whole fraction : List Char) (exponent : Int) : Nat × Int :=
  let (start, surplus) := appendDigits 0 whole
  let (significand, dropped) := appendDigits start fraction
  (significand, exponent + surplus.length - (fraction.length - dropped.length))

/-! ### Reading -/

/-- The digits before the point: more than one only without a zero in front. -/
def scanWhole? (s : List Char) : Option (List Char × List Char) :=
  (Decimal.scanDigits? s).filter fun (digits, _) => digits == ['0'] || digits.head? != some '0'

/-- The number with the given sign, digits, fraction digits and exponent. -/
def ofParts (negative : Bool) (whole fraction : List Char) (exponent : Option Int) : Number :=
  let (significand, power) := decimal whole fraction (exponent.getD 0)
  let signed : Int := if negative then -significand else significand
  if fraction = [] ∧ exponent = none ∧ power = 0 ∧ Int64.minValue.toInt ≤ signed
      ∧ (negative → signed ≠ 0) then .int signed
  else if (double significand power).isInf then .huge
  else .real signed power

/-- The number in front of a text. -/
def scan? (s : List Char) : Option (Number × List Char) := do
  let (negative, s) := Decimal.scanSign false s
  let (whole, s) ← scanWhole? s
  let (fraction, s) ← Decimal.scanFraction? s
  let (exponent, s) ← Decimal.scanExponent? s
  return (ofParts negative whole fraction exponent, s)

/-- A number takes at least one character. -/
theorem length_scan? {s rest : List Char} {n : Number} (h : scan? s = some (n, rest)) :
    rest.length < s.length := by
  simp only [scan?, scanWhole?, Option.bind_eq_bind, Option.bind_eq_some_iff, Prod.exists,
    Option.pure_def, Option.some.injEq, Prod.mk.injEq, Option.filter_eq_some_iff] at h
  obtain ⟨_, _, ⟨hw, _⟩, _, _, hf, _, _, he, _, rfl⟩ := h
  have := Decimal.length_scanDigits? hw
  have := Decimal.length_scanFraction? hf
  have := Decimal.length_scanExponent? he
  have := Decimal.length_scanSign false s
  omega

/-! ### Writing -/

/-- A number as it is written. -/
def text : Number → List Char
  | .int i => Numeral.ofInt i
  | .real m e => Numeral.ofInt m ++ 'e' :: Numeral.ofInt e
  | .huge => "1e400".toList

end Number

end Mediatheque.Json
