import Mediatheque.Predicate.Basic
import Mediatheque.Sql.Statement

/-!
# Conditions

The conditions that a database checks on the row of a record, their text, and the condition
for a predicate. Genres and tags are arrays in a row. An array without elements counts as
unknown, and a column that is unknown satisfies no comparison, as predicates have it.

Every value in a condition is bound, so the text depends on the shape of the predicate and
on nothing else.
-/

namespace Mediatheque.Sql

/-! ### Conditions and their text -/

/-- A column of the table of records. -/
inductive Column where
  /-- The column of a field. -/
  | field (f : Field)
  /-- The title. -/
  | title
  /-- When a record was added. -/
  | createdAt
  deriving DecidableEq, Repr

/-- The name of a column. The arrays hold identities, and are named so. -/
def Column.name : Column → String
  | .field .genres => "genre_ids"
  | .field .tags => "tag_ids"
  | .field f => f.name
  | .title => "title"
  | .createdAt => "created_at"

/-- What a comparison compares. -/
inductive Operand where
  /-- A column. -/
  | column (c : Column)
  /-- The element of an array that is looked at. -/
  | element
  /-- A value that is bound. -/
  | parameter (p : Parameter)

/-- How two operands compare. -/
inductive Comparison where
  /-- They are the same. -/
  | eq
  /-- The first one is less. -/
  | lt
  /-- The first one is not greater. -/
  | le
  /-- The first one is greater. -/
  | gt
  /-- The first one is not less. -/
  | ge
  deriving DecidableEq, Repr

/-- The sign of a comparison. -/
def Comparison.sign : Comparison → String
  | .eq => " = "
  | .lt => " < "
  | .le => " <= "
  | .gt => " > "
  | .ge => " >= "

/-- A condition on a row. -/
inductive Condition where
  /-- Two operands compare in some way. -/
  | compare (a : Operand) (how : Comparison) (b : Operand)
  /-- The operand is unknown. -/
  | isNull (a : Operand)
  /-- The operand is known. -/
  | isNotNull (a : Operand)
  /-- The array has no elements, or is unknown. -/
  | isEmpty (array : Operand)
  /-- The operand is the same as some element of the array. -/
  | isAny (a array : Operand)
  /-- The arrays have an element in common. -/
  | overlap (array other : Operand)
  /-- Some element of the array meets all conditions. -/
  | someElement (array : Operand) (conditions : List Condition)
  /-- All conditions are met. -/
  | all (conditions : List Condition)
  /-- Some condition is met. -/
  | any (conditions : List Condition)
  /-- The constant condition. -/
  | constant (b : Bool)

/-- The pieces of an operand. -/
def Operand.pieces : Operand → List Piece
  | .column c => [.text c.name]
  | .element => [.text "elem"]
  | .parameter p => [.bound p]

namespace Condition

mutual

/-- The pieces of a condition. -/
def pieces : Condition → List Piece
  | .compare a how b => a.pieces ++ .text how.sign :: b.pieces
  | .isNull a => a.pieces ++ [.text " IS NULL"]
  | .isNotNull a => a.pieces ++ [.text " IS NOT NULL"]
  | .isEmpty array => .text "COALESCE(cardinality(" :: array.pieces ++ [.text "), 0) = 0"]
  | .isAny a array => a.pieces ++ .text " = ANY(" :: array.pieces ++ [.text ")"]
  | .overlap array other => array.pieces ++ .text " && " :: other.pieces
  | .someElement array conditions =>
    .text "EXISTS (SELECT 1 FROM UNNEST(" :: array.pieces ++ .text ") AS elem WHERE "
      :: joined " AND " conditions ++ [.text ")"]
  | .all conditions => .text "(" :: joined " AND " conditions ++ [.text ")"]
  | .any conditions => .text "(" :: joined " OR " conditions ++ [.text ")"]
  | .constant b => [.text (if b then "TRUE" else "FALSE")]

/-- The pieces of several conditions with a word between them. -/
def joined (word : String) : List Condition → List Piece
  | [] => []
  | c :: rest => pieces c ++ joinedAfter word rest

/-- The pieces of several conditions with a word before each of them. -/
def joinedAfter (word : String) : List Condition → List Piece
  | [] => []
  | c :: rest => .text word :: pieces c ++ joinedAfter word rest

end

/-! ### The condition for a predicate -/

/-- The condition that the field has the value. -/
def ofEquals (f : Field) (v : Value) : Except Fault Condition :=
  let column : Operand := .column (.field f)
  if v.isNull then .ok (if f.isSetValued then .isEmpty column else .isNull column)
  else (Parameter.ofValue v).map fun p =>
    if f.isSetValued then .isAny (.parameter p) column else .compare column .eq (.parameter p)

/-- The condition that the field has one of the values. -/
def ofOneOf (f : Field) (values : List Value) : Except Fault Condition :=
  let column : Operand := .column (.field f)
  match values with
  | [] => .ok (.constant false)
  | least :: others => (Parameter.ofValues least others).map fun p =>
    if f.isSetValued then .overlap column (.parameter p) else .isAny column (.parameter p)

/-- The condition for a bound, if there is one. -/
def ofBound (a : Operand) (how : Comparison) : Option Value → Except Fault (List Condition)
  | none => .ok []
  | some v => (Parameter.ofValue v).map fun p => [.compare a how (.parameter p)]

/-- The conditions that an operand is known and lies between bounds. -/
def ofBounds (a : Operand) (lower upper : Option Value) (lowerClosed upperClosed : Bool) :
    Except Fault (List Condition) := do
  let low ← ofBound a (if lowerClosed then .ge else .gt) lower
  let high ← ofBound a (if upperClosed then .le else .lt) upper
  return if (low ++ high).isEmpty then [.isNotNull a] else low ++ high

/-- The condition that the field lies between bounds. -/
def ofWithin (f : Field) (lower upper : Option Value) (lowerClosed upperClosed : Bool) :
    Except Fault Condition :=
  let column : Operand := .column (.field f)
  if f.isSetValued then
    (ofBounds .element lower upper lowerClosed upperClosed).map (.someElement column)
  else (ofBounds column lower upper lowerClosed upperClosed).map .all

mutual

/-- The condition for a predicate, or the first fault in it. -/
def ofPredicate : Predicate → Except Fault Condition
  | .equals f v => ofEquals f v
  | .oneOf f values => ofOneOf f values.toList
  | .within f lower upper lowerClosed upperClosed =>
    ofWithin f lower upper lowerClosed upperClosed
  | .all operands => (ofPredicates operands).map .all
  | .any operands => (ofPredicates operands).map .any
  | .always b => .ok (.constant b)

/-- The conditions for several predicates, or the first fault in them. -/
def ofPredicates : List Predicate → Except Fault (List Condition)
  | [] => .ok []
  | p :: rest =>
    match ofPredicate p with
    | .error fault => .error fault
    | .ok c => (ofPredicates rest).map (c :: ·)

end

end Condition

end Mediatheque.Sql
