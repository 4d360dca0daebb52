import Mediatheque.Error
import Mediatheque.Json.Form

/-!
# Star ratings

A personal rating from no stars to five, in steps of half a star, kept as the number of
half stars so that ratings compare exactly.
-/

namespace Mediatheque

open Std

/-- A rating from no stars to five. -/
structure StarRating where
  /-- The number of half stars. -/
  halfStars : Fin 11
  deriving DecidableEq, Repr

namespace StarRating

instance : Ord StarRating := ⟨compareOn StarRating.halfStars⟩

instance : TransOrd StarRating := inferInstanceAs (TransCmp (compareOn StarRating.halfStars))

instance : LawfulEqOrd StarRating :=
  lawfulEqCmp_compareOn fun {a b} h => by cases a; cases b; simp_all

/-- No stars. -/
def zero : StarRating := ⟨0⟩

/-- Five stars. -/
def five : StarRating := ⟨10⟩

/-- The rating of so many half stars, of at most ten. -/
def capped (halfStars : Nat) : StarRating := ⟨⟨min halfStars 10, by omega⟩⟩

/-- The rating of so many half stars, or the error that there are more than ten. -/
def ofHalfStars (halfStars : UInt8) : Except ModelError StarRating :=
  if h : halfStars.toNat < 11 then .ok ⟨⟨halfStars.toNat, h⟩⟩
  else .error (.ratingOutOfRange halfStars.toNat)

/-- The rating of so many whole stars, of at most five. -/
def ofStars (stars : UInt8) : StarRating := capped (2 * stars.toNat)

/-- The rating next to a number of stars; a quarter of a star counts up. -/
def nearest (stars : Float32) : StarRating :=
  let clamped := if stars < 0 then 0 else if stars > 5 then 5 else stars
  capped (clamped * 2).round.toUInt8.toNat

/-- The number of stars with one decimal. -/
def starsText (r : StarRating) : List Char :=
  Numeral.ofNat (r.halfStars.val / 2) ++ ['.', if r.halfStars.val % 2 = 0 then '0' else '5']

/-- The rating as it is shown. -/
def toText (r : StarRating) : List Char := r.starsText ++ ['★']

instance : JsonForm StarRating where
  toJson r := .int r.halfStars.val
  ofJson? _ j := (j.intWithin? 0 10).map fun i => capped i.toNat

@[simp] theorem capped_halfStars (r : StarRating) : capped r.halfStars.val = r := by
  obtain ⟨n, h⟩ := r
  simp [capped]; omega

end StarRating

end Mediatheque
