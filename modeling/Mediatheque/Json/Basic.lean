/-!
# JSON values

The values that JSON text stands for. Integers and other numbers are kept apart: a number
written with a fraction or an exponent, or beyond 64 bits, is no integer here, whatever its
value. Members of an object are kept in order and with repeated keys, because a reader may
care about either.

Text can follow the grammar and still stand for no value: a string with half of a surrogate
pair, a number too large for a double, or containers nested too deeply. Such a part is
`unreadable`; it spoils whoever reads it, but not those who skip it.
-/

namespace Mediatheque

/-- A value read from, or to be written as, JSON text. -/
inductive Json where
  /-- The value without content. -/
  | null
  /-- A truth value. -/
  | bool (b : Bool)
  /-- An integer. -/
  | int (i : Int)
  /-- A number that is not written as an integer: a significand times a power of ten. -/
  | real (significand exponent : Int)
  /-- A string. -/
  | str (s : String)
  /-- An array. -/
  | arr (items : List Json)
  /-- An object. -/
  | obj (members : List (String × Json))
  /-- A part of a text that follows the grammar and stands for no value. -/
  | unreadable
  deriving Repr

instance : Inhabited Json := ⟨.null⟩

namespace Json

/-- The deepest nesting of arrays and objects that is read as a value. -/
def maxDepth : Nat := 127

mutual

/-- Whether every part of a value is readable. -/
def isReadable : Json → Bool
  | .unreadable => false
  | .arr items => itemsReadable items
  | .obj members => membersReadable members
  | _ => true

/-- Whether every item of an array is readable. -/
def itemsReadable : List Json → Bool
  | [] => true
  | j :: rest => isReadable j && itemsReadable rest

/-- Whether every member of an object is readable. -/
def membersReadable : List (String × Json) → Bool
  | [] => true
  | (_, j) :: rest => isReadable j && membersReadable rest

end

mutual

/-- How many arrays and objects are nested in each other. -/
def depth : Json → Nat
  | .arr items => itemsDepth items + 1
  | .obj members => membersDepth members + 1
  | _ => 0

/-- The deepest nesting among the items of an array. -/
def itemsDepth : List Json → Nat
  | [] => 0
  | j :: rest => max (depth j) (itemsDepth rest)

/-- The deepest nesting among the members of an object. -/
def membersDepth : List (String × Json) → Nat
  | [] => 0
  | (_, j) :: rest => max (depth j) (membersDepth rest)

end

end Json

end Mediatheque
