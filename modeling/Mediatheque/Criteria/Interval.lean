import Mediatheque.Media.StarRating

/-!
# Intervals

Closed intervals for criteria. Both bounds come together: half an interval is no interval.
Bounds that arrive in the wrong order change places.
-/

namespace Mediatheque

/-- An interval with both of its bounds. -/
structure Interval (α : Type) where
  /-- The lower bound. -/
  low : α
  /-- The upper bound. -/
  high : α
  deriving DecidableEq, Repr

namespace Interval

variable {α : Type} [Ord α]

/-- The interval with the given bounds, in whatever order they come. -/
def ofBounds (a b : α) : Interval α := if (compare b a).isLT then ⟨b, a⟩ else ⟨a, b⟩

/-- The interval with the given bounds, if both of them are there. -/
def ofBounds? (a b : Option α) : Option (Interval α) :=
  match a, b with
  | some a, some b => some (ofBounds a b)
  | _, _ => none

/-- Whether the bounds are in order. -/
def IsOrdered (i : Interval α) : Prop := (compare i.low i.high).isLE

/-- Whether a value lies in the interval. -/
def contains (i : Interval α) (a : α) : Bool :=
  (compare i.low a).isLE && (compare a i.high).isLE

/-- The bounds of an interval come out in order. -/
theorem isOrdered_ofBounds [Std.OrientedOrd α] (a b : α) : (ofBounds a b).IsOrdered := by
  unfold ofBounds IsOrdered
  split
  · next h => exact Ordering.isLE_of_eq_lt (Ordering.isLT_iff_eq_lt.1 h)
  · next h =>
    have swap : compare a b = (compare b a).swap := Std.OrientedCmp.eq_swap
    rw [swap]
    revert h
    cases compare b a <;> simp [Ordering.isLT]

/-! ### JSON form -/

variable [JsonForm α]

/-- Reads a record of two bounds, each of which may be missing. -/
def bounds? (manner : Json.Manner) (j : Json) : Option (Option α × Option α) := do
  let [a, b] ← j.record? manner ["min", "max"] | none
  return (← a.optional α, ← b.optional α)

instance : JsonForm (Interval α) where
  toJson i := .obj [("min", toJson i.low), ("max", toJson i.high)]
  ofJson? manner j := bounds? manner j |>.bind fun (a, b) => ofBounds? a b

/-- Reads an interval that need not be there: half an interval is no interval. -/
def lenient? : Json.Member → Option (Option (Interval α))
  | .given _ .null => some none
  | .given manner j => (bounds? manner j).map fun (a, b) => ofBounds? a b
  | _ => some none

end Interval

end Mediatheque
