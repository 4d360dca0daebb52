import Mediatheque.Predicate.Basic

/-!
# JSON form of predicates

A predicate is stored as a tagged record: its tag is kept under `op`, and its parts beside
it. Reading follows the tree of the JSON value: the operands that a node may have are read
first, and then the node itself, which needs them if its tag says so. All but the tag of
the outermost node is read after it was held. A text has to be readable throughout, also
where a part of it is skipped.
-/

namespace Mediatheque

namespace Predicate

/-! ### Writing -/

mutual

/-- The JSON form of a predicate. -/
def form : Predicate → Json
  | .equals f v => .obj [("op", .str "eq"), ("field", toJson f), ("value", toJson v)]
  | .oneOf f values => .obj [("op", .str "in_set"), ("field", toJson f), ("values", toJson values)]
  | .within f lower upper lowerClosed upperClosed => .obj
    [("op", .str "range"), ("field", toJson f), ("lower", toJson lower), ("upper", toJson upper),
     ("lower_inclusive", toJson lowerClosed), ("upper_inclusive", toJson upperClosed)]
  | .all operands => .obj [("op", .str "and"), ("exprs", .arr (forms operands))]
  | .any operands => .obj [("op", .str "or"), ("exprs", .arr (forms operands))]
  | .always b => .obj [("op", .str "always"), ("value", toJson b)]

/-- The JSON forms of several predicates. -/
def forms : List Predicate → List Json
  | [] => []
  | p :: rest => form p :: forms rest

end

/-! ### Reading -/

/-- The tags of the kinds of nodes. -/
def kinds : List String := ["eq", "in_set", "range", "and", "or", "always"]

/-- Reads a node without operands, from its tag and the record without it. -/
def leaf? (tag : String) (rest : Json) : Option Predicate :=
  match tag with
  | "eq" => do
    let [field, value] ← rest.record? .held ["field", "value"] | none
    return .equals (← field.required Field) (← value.required Value)
  | "in_set" => do
    let [field, values] ← rest.record? .held ["field", "values"] | none
    return .oneOf (← field.required Field) (← values.required (SortedSet Value))
  | "range" => do
    let [field, lower, upper, lowerClosed, upperClosed] ← rest.record? .held
      ["field", "lower", "upper", "lower_inclusive", "upper_inclusive"] | none
    return .within (← field.required Field) (← lower.optional Value) (← upper.optional Value)
      (← lowerClosed.required Bool) (← upperClosed.required Bool)
  | "always" => do
    let [value] ← rest.record? .held ["value"] | none
    return .always (← value.required Bool)
  | _ => none

/-- Reads a node, given the operands that its record has under their key or in their place. -/
def node? (manner : Json.Manner) (j : Json) (operands : Option (List Predicate)) :
    Option Predicate := do
  let (tag, rest) ← j.tagged? manner kinds "op"
  match tag with
  | "and" | "or" =>
    let [.given _ _] ← rest.record? .held ["exprs"] | none
    let operands ← operands
    return if tag = "and" then .all operands else .any operands
  | _ => leaf? tag rest

mutual

/-- Reads a predicate. -/
def ofForm? (manner : Json.Manner) : Json → Option Predicate
  | .obj members => node? manner (.obj members) (operandsAmong? members)
  | .arr (tag :: .arr items :: rest) =>
    node? manner (.arr (tag :: .arr items :: rest)) (ofForms? items)
  | j => node? manner j none

/-- Reads the operands among the members of an object. -/
def operandsAmong? : List (String × Json) → Option (List Predicate)
  | [] => none
  | (key, .arr items) :: rest => if key = "exprs" then ofForms? items else operandsAmong? rest
  | _ :: rest => operandsAmong? rest

/-- Reads the operands of a node, which were held with it. -/
def ofForms? : List Json → Option (List Predicate)
  | [] => some []
  | j :: rest => (ofForm? .held j).bind fun p => (ofForms? rest).map (p :: ·)

end

instance : JsonForm Predicate where
  toJson := form
  ofJson? := ofForm?

/-- The text under which a predicate is stored. -/
def storedText (p : Predicate) : String := Json.textOf p

/-- Reads a predicate from the text under which it is stored. -/
def ofStoredText (s : String) : Except LibraryError Predicate :=
  match Json.ofReadableText Predicate s with
  | some p => .ok p
  | none => .error .unreadable

end Predicate

end Mediatheque
