import Mediatheque.Predicate.Basic

/-!
# Evaluation

What a predicate says of a record. A field that the record does not know satisfies nothing
but the question whether it is unknown; on a set-valued field a comparison holds if it holds
of some value in the set. This is the meaning that every form of a predicate has to keep.
-/

namespace Mediatheque

/-- What a record holds in a field. -/
inductive FieldValue where
  /-- A single value, missing if the record does not know it. -/
  | scalar (value : Value)
  /-- A set of values. -/
  | set (values : SortedSet Value)
  deriving DecidableEq

/-- What the record holds in a field. -/
def MediaRecord.fieldValue (r : MediaRecord) : Field → FieldValue
  | .id => .scalar (toValue r.id)
  | .kind => .scalar (toValue r.kind)
  | .isAdult => .scalar (toValue r.isAdult)
  | .genres => .set (r.genres.image toValue)
  | .rating => .scalar (toValue r.rating)
  | .releaseDate => .scalar (toValue r.releaseDate)
  | .status => .scalar (toValue r.status)
  | .format => .scalar (toValue r.format)
  | .seasonCount => .scalar (toValue r.seasonCount)
  | .watched => .scalar (toValue r.watched)
  | .watchAgain => .scalar (toValue r.watchAgain)
  | .lastSeason => .scalar (toValue r.lastSeason)
  | .lastEpisode => .scalar (toValue r.lastEpisode)
  | .tags => .set (r.tags.image toValue)
  | .isFavorite => .scalar (toValue r.isFavorite)
  | .isOnWatchlist => .scalar (toValue r.isOnWatchlist)

namespace Value

/-- Whether a value lies above a bound, or at it if the bound is closed. -/
def isAbove (bound : Option Value) (closed : Bool) (v : Value) : Bool :=
  match bound with
  | none => true
  | some b =>
    match v.compare? b with
    | some .gt => true
    | some .eq => closed
    | _ => false

/-- Whether a value lies below a bound, or at it if the bound is closed. -/
def isBelow (bound : Option Value) (closed : Bool) (v : Value) : Bool :=
  match bound with
  | none => true
  | some b =>
    match v.compare? b with
    | some .lt => true
    | some .eq => closed
    | _ => false

/-- Whether a value is there and lies between bounds. -/
def liesWithin (lower upper : Option Value) (lowerClosed upperClosed : Bool) (v : Value) : Bool :=
  !v.isNull && v.isAbove lower lowerClosed && v.isBelow upper upperClosed

end Value

namespace FieldValue

/-- Whether the field has the value. -/
def equals (value : Value) : FieldValue → Bool
  | .scalar actual => actual == value
  | .set actual => if value.isNull then actual.isEmpty else actual.contains value

/-- Whether the field has one of the values. -/
def oneOf (values : SortedSet Value) : FieldValue → Bool
  | .scalar actual => values.contains actual
  | .set actual => SortedSet.intersects actual values

/-- Whether the field has a value that passes a test. -/
def hasValue (test : Value → Bool) : FieldValue → Bool
  | .scalar actual => test actual
  | .set actual => actual.toList.any test

end FieldValue

namespace Predicate

mutual

/-- Whether a predicate holds of a record. -/
def holds (r : MediaRecord) : Predicate → Bool
  | .equals f v => (r.fieldValue f).equals v
  | .oneOf f values => (r.fieldValue f).oneOf values
  | .within f lower upper lowerClosed upperClosed =>
    (r.fieldValue f).hasValue (Value.liesWithin lower upper lowerClosed upperClosed)
  | .all operands => allHold r operands
  | .any operands => someHolds r operands
  | .always b => b

/-- Whether all of several predicates hold of a record. -/
def allHold (r : MediaRecord) : List Predicate → Bool
  | [] => true
  | p :: rest => holds r p && allHold r rest

/-- Whether some of several predicates holds of a record. -/
def someHolds (r : MediaRecord) : List Predicate → Bool
  | [] => false
  | p :: rest => holds r p || someHolds r rest

end

theorem allHold_eq_all (r : MediaRecord) (l : List Predicate) :
    allHold r l = l.all (holds r) := by
  induction l with
  | nil => rfl
  | cons p l ih => simp [allHold, ih]

theorem someHolds_eq_any (r : MediaRecord) (l : List Predicate) :
    someHolds r l = l.any (holds r) := by
  induction l with
  | nil => rfl
  | cons p l ih => simp [someHolds, ih]

@[simp] theorem holds_all (r : MediaRecord) (l : List Predicate) :
    holds r (.all l) = l.all (holds r) := by
  rw [holds, allHold_eq_all]

@[simp] theorem holds_any (r : MediaRecord) (l : List Predicate) :
    holds r (.any l) = l.any (holds r) := by
  rw [holds, someHolds_eq_any]

@[simp] theorem holds_always (r : MediaRecord) (b : Bool) : holds r (.always b) = b := by
  rw [holds]

end Predicate

end Mediatheque
