import Mediatheque.Predicate.Field
import Mediatheque.Predicate.Value

/-!
# Predicates

Predicates on records, as trees that can be evaluated, shown, stored and sent to a database.
`Predicate.and` and `Predicate.or` join predicates and simplify on the way: they drop the
constant that changes nothing, stop at the constant that decides, take the operands of an
operand of their own kind into their own, and keep a single operand as it is.
-/

namespace Mediatheque

/-- A predicate on records. -/
inductive Predicate where
  /-- The field has the value, or has it among its values; with the missing value: the field
  is unknown, or has no values. -/
  | equals (field : Field) (value : Value)
  /-- The field has one of the values, or has one of them among its values. -/
  | oneOf (field : Field) (values : SortedSet Value)
  /-- The field is known and lies between the bounds, or one of its values does; a missing
  bound leaves its side open. -/
  | within (field : Field) (lower upper : Option Value) (lowerClosed upperClosed : Bool)
  /-- All operands hold. -/
  | all (operands : List Predicate)
  /-- Some operand holds. -/
  | any (operands : List Predicate)
  /-- The constant predicate. -/
  | always (value : Bool)

namespace Predicate

/-! ### Construction -/

/-- The field is unknown, or has no values. -/
def isUnknown (field : Field) : Predicate := .equals field .null

/-- The field has the value. -/
def is {α : Type} [IsValue α] (field : Field) (a : α) : Predicate := .equals field (toValue a)

/-- The field has one of the values. -/
def isIn {α : Type} [IsValue α] (field : Field) (l : List α) : Predicate :=
  .oneOf field (SortedBy.ofList (l.map toValue))

/-- The field lies between the bounds or at one of them. -/
def between {α : Type} [IsValue α] (field : Field) (lower upper : α) : Predicate :=
  .within field (some (toValue lower)) (some (toValue upper)) true true

/-- The field lies between the bounds or at the lower one. -/
def halfOpen {α : Type} [IsValue α] (field : Field) (lower upper : α) : Predicate :=
  .within field (some (toValue lower)) (some (toValue upper)) true false

/-- The field is at the bound or above it. -/
def atLeast {α : Type} [IsValue α] (field : Field) (lower : α) : Predicate :=
  .within field (some (toValue lower)) none true false

/-- The field is above the bound. -/
def above {α : Type} [IsValue α] (field : Field) (lower : α) : Predicate :=
  .within field (some (toValue lower)) none false false

/-- The record is a movie. -/
def isMovie : Predicate := .is .kind MediaKind.movie

/-- The record is a show. -/
def isShow : Predicate := .is .kind MediaKind.series

/-- The operands of a conjunction of the given predicates, with `true` and conjunctions among
them dissolved; none if `false` is among them. -/
def conjuncts? : List Predicate → Option (List Predicate)
  | [] => some []
  | .always true :: rest => conjuncts? rest
  | .always false :: _ => none
  | .all operands :: rest => (conjuncts? rest).map (operands ++ ·)
  | p :: rest => (conjuncts? rest).map (p :: ·)

/-- The operands of a disjunction of the given predicates, with `false` and disjunctions among
them dissolved; none if `true` is among them. -/
def disjuncts? : List Predicate → Option (List Predicate)
  | [] => some []
  | .always false :: rest => disjuncts? rest
  | .always true :: _ => none
  | .any operands :: rest => (disjuncts? rest).map (operands ++ ·)
  | p :: rest => (disjuncts? rest).map (p :: ·)

/-- The conjunction of predicates. -/
def and (l : List Predicate) : Predicate :=
  match conjuncts? l with
  | none => .always false
  | some [] => .always true
  | some [p] => p
  | some operands => .all operands

/-- The disjunction of predicates. -/
def or (l : List Predicate) : Predicate :=
  match disjuncts? l with
  | none => .always true
  | some [] => .always false
  | some [p] => p
  | some operands => .any operands

/-! ### Parts -/

/-- Whether it is the constant that holds of every record. -/
def isAlwaysTrue : Predicate → Bool
  | .always true => true
  | _ => false

mutual

/-- The number of nodes of the tree. -/
def size : Predicate → Nat
  | .all operands => sizeAll operands + 1
  | .any operands => sizeAll operands + 1
  | _ => 1

/-- The number of nodes of several trees. -/
def sizeAll : List Predicate → Nat
  | [] => 0
  | p :: rest => size p + sizeAll rest

end

/-- A list with an item at its end, unless it has the item already. -/
def addOnce (fields : List Field) (f : Field) : List Field :=
  if f ∈ fields then fields else fields ++ [f]

mutual

/-- The fields that a predicate asks about, after those seen before it. -/
def fieldsAfter (seen : List Field) : Predicate → List Field
  | .equals f _ => addOnce seen f
  | .oneOf f _ => addOnce seen f
  | .within f _ _ _ _ => addOnce seen f
  | .all operands => fieldsOfAllAfter seen operands
  | .any operands => fieldsOfAllAfter seen operands
  | .always _ => seen

/-- The fields that several predicates ask about, after those seen before them. -/
def fieldsOfAllAfter (seen : List Field) : List Predicate → List Field
  | [] => seen
  | p :: rest => fieldsOfAllAfter (fieldsAfter seen p) rest

end

/-- The fields that a predicate asks about, each once and the first one first. -/
def fields (p : Predicate) : List Field := p.fieldsAfter []

/-! ### Text -/

/-- The sign for a lower bound before the field, or an upper bound after it. -/
def boundSign (closed : Bool) : String := if closed then " <= " else " < "

/-- A predicate on a field between bounds, as it is shown. -/
def rangeText (field : Field) (lower upper : Option Value) (lowerClosed upperClosed : Bool) :
    String :=
  match lower, upper with
  | some lo, some hi =>
    lo.toText ++ boundSign lowerClosed ++ field.name ++ boundSign upperClosed ++ hi.toText
  | some lo, none => field.name ++ (if lowerClosed then " >= " else " > ") ++ lo.toText
  | none, some hi => field.name ++ boundSign upperClosed ++ hi.toText
  | none, none => field.name ++ " IS NOT NULL"

mutual

/-- A predicate as it is shown. -/
def toText : Predicate → String
  | .equals f v =>
    if v.isNull then f.name ++ " IS NULL"
    else if f.isSetValued then f.name ++ " CONTAINS " ++ v.toText
    else f.name ++ " == " ++ v.toText
  | .oneOf f values =>
    f.name ++ (if f.isSetValued then " ANY IN [" else " IN [")
      ++ ", ".intercalate (values.toList.map Value.toText) ++ "]"
  | .within f lower upper lowerClosed upperClosed =>
    rangeText f lower upper lowerClosed upperClosed
  | .all operands => "(" ++ " AND ".intercalate (textsOf operands) ++ ")"
  | .any operands => "(" ++ " OR ".intercalate (textsOf operands) ++ ")"
  | .always true => "TRUE"
  | .always false => "FALSE"

/-- Several predicates as they are shown. -/
def textsOf : List Predicate → List String
  | [] => []
  | p :: rest => toText p :: textsOf rest

end

end Predicate

end Mediatheque
