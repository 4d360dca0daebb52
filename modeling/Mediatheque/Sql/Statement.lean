import Mediatheque.Predicate.Value

/-!
# Statements

A statement is put together from pieces: text as it stands, and values that are bound. In
the text of a statement every bound value is a placeholder with its number, counted from
one, and the values go along in the same order.

A parameter is a value of one of the types that a database knows, or an array of values of
one type; a missing value is none of them, and a set of values of different kinds is no
array.
-/

namespace Mediatheque.Sql

/-! ### Parameters -/

/-- A type of a value in a database. -/
inductive DataType where
  /-- Truth values. -/
  | bool
  /-- Integers of 64 bits. -/
  | int8
  /-- Dates. -/
  | date
  /-- Texts. -/
  | text
  /-- Identifiers. -/
  | uuid
  deriving DecidableEq, Repr

instance : Named DataType where
  all := [.bool, .int8, .date, .text, .uuid]
  name
    | .bool => "bool"
    | .int8 => "int8"
    | .date => "date"
    | .text => "text"
    | .uuid => "uuid"
  mem_all a := by cases a <;> decide
  nodup_names := by decide

/-- The values of a type. -/
abbrev DataType.Carrier : DataType → Type
  | .bool => Bool
  | .int8 => Int64
  | .date => Date
  | .text => String
  | .uuid => Uuid

/-- A value that a statement binds. -/
inductive Parameter where
  /-- A single value. -/
  | scalar (type : DataType) (value : type.Carrier)
  /-- An array of values. -/
  | array (type : DataType) (values : List type.Carrier)

/-- Why a predicate cannot be sent to a database. -/
inductive Fault where
  /-- A missing value where it cannot be checked for. -/
  | nullLiteral
  /-- A missing value in a set. -/
  | nullInSet
  /-- A set of values of different kinds, and the first one that differs from the least. -/
  | mixedSet (value : Value)
  deriving DecidableEq

/-- The words for why a predicate cannot be sent to a database. -/
def Fault.message : Fault → String
  | .nullLiteral => "null literal outside an IS NULL check"
  | .nullInSet => "null inside a set literal"
  | .mixedSet value => "mixed literal kinds in set near " ++ value.toText

/-- The type of a value; the missing value has none. -/
def dataType? : Value → Option DataType
  | .null => none
  | .bool _ => some .bool
  | .int _ => some .int8
  | .date _ => some .date
  | .text _ => some .text
  | .uuid _ => some .uuid

/-- What a value holds, if it is of the given type. -/
def DataType.content? : (t : DataType) → Value → Option t.Carrier
  | .bool, .bool b => some b
  | .int8, .int i => some i
  | .date, .date d => some d
  | .text, .text s => some s
  | .uuid, .uuid u => some u
  | _, _ => none

namespace Parameter

/-- The parameter for a value. -/
def ofValue : Value → Except Fault Parameter
  | .null => .error .nullLiteral
  | .bool b => .ok (.scalar .bool b)
  | .int i => .ok (.scalar .int8 i)
  | .date d => .ok (.scalar .date d)
  | .text s => .ok (.scalar .text s)
  | .uuid u => .ok (.scalar .uuid u)

/-- What the values of a set hold, if all are of the given type. -/
def contents (t : DataType) : List Value → Except Fault (List t.Carrier)
  | [] => .ok []
  | v :: rest =>
    match t.content? v with
    | none => .error (.mixedSet v)
    | some content => (contents t rest).map (content :: ·)

/-- The parameter for a set, from its least value and the others in order. -/
def ofValues (least : Value) (others : List Value) : Except Fault Parameter :=
  match dataType? least with
  | none => .error .nullInSet
  | some t => (contents t (least :: others)).map (.array t)

end Parameter

/-! ### Statements -/

/-- A piece of a statement. -/
inductive Piece where
  /-- Text as it stands. -/
  | text (s : String)
  /-- A value that is bound. -/
  | bound (p : Parameter)

/-- The text of a statement with the values bound to its placeholders. -/
structure Statement where
  /-- The text. -/
  text : String
  /-- The value of each placeholder, in order. -/
  parameters : List Parameter

namespace Statement

/-- The text of pieces after the given number of placeholders. -/
def textAfter (placeholders : Nat) : List Piece → String
  | [] => ""
  | .text s :: rest => s ++ textAfter placeholders rest
  | .bound _ :: rest =>
    "$" ++ String.ofList (Numeral.ofNat (placeholders + 1)) ++ textAfter (placeholders + 1) rest

/-- The values bound in pieces. -/
def bound : List Piece → List Parameter
  | [] => []
  | .text _ :: rest => bound rest
  | .bound p :: rest => p :: bound rest

/-- The statement of the given pieces. -/
def ofPieces (pieces : List Piece) : Statement := ⟨textAfter 0 pieces, bound pieces⟩

end Statement

end Mediatheque.Sql
