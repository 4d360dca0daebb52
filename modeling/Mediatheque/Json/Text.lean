import Mediatheque.Json.Basic
import Mediatheque.Json.Token

/-!
# JSON text

Values as compact text, and text read as a value. A value is written as its list of tokens
without blanks. Reading runs over the tokens of a text with a stack of the arrays and
objects that are still open; every token either moves on or ends in refusal, and what is
open at most says how deep the next value is nested.
-/

namespace Mediatheque.Json

/-! ### Writing -/

mutual

/-- The tokens of a value. -/
def tokens : Json → List Token
  | .null => [.null]
  | .bool b => [.bool b]
  | .int i => [.number (.int i)]
  | .real m e => [.number (.real m e)]
  | .str s => [.str (some s)]
  | .arr [] => [.openArray, .closeArray]
  | .arr (j :: rest) => .openArray :: tokens j ++ laterItems rest ++ [.closeArray]
  | .obj [] => [.openObject, .closeObject]
  | .obj ((k, j) :: rest) =>
    .openObject :: .str (some k) :: .colon :: tokens j ++ laterMembers rest ++ [.closeObject]
  | .unreadable => [.str none]

/-- The tokens of the items of an array after the first one. -/
def laterItems : List Json → List Token
  | [] => []
  | j :: rest => .comma :: tokens j ++ laterItems rest

/-- The tokens of the members of an object after the first one. -/
def laterMembers : List (String × Json) → List Token
  | [] => []
  | (k, j) :: rest => .comma :: .str (some k) :: .colon :: tokens j ++ laterMembers rest

end

/-- The compact text of a value. -/
def toText (j : Json) : List Char := j.tokens.flatMap Token.text

/-! ### Reading -/

/-- An array or object that is still open, and in which a value is due or has just ended. -/
inductive Frame where
  /-- An array with the items before the value, the last one first. -/
  | items (before : List Json)
  /-- An object with the members before the value, the last one first, and the value's key.
  A key without a text keeps the object from being read. -/
  | members (before : List (Option String × Json)) (key : Option String)

/-- What the next token has to be. -/
inductive Due where
  /-- A value, or the end of the array that has just been opened. -/
  | firstItem
  /-- A value. -/
  | value
  /-- A key, or the end of the object that has just been opened. -/
  | firstKey
  /-- A key, in an object with the given members before it. -/
  | key (before : List (Option String × Json))
  /-- The colon after a key. -/
  | colon (before : List (Option String × Json)) (key : Option String)
  /-- What follows a complete value. -/
  | next (value : Json)

/-- How far a text has been read: the containers around, the innermost first, and what is due. -/
structure Position where
  /-- The containers around. -/
  around : List Frame
  /-- What is due. -/
  due : Due

/-- A container as it is read at the given depth. -/
def contained (depth : Nat) (j : Json) : Json := if depth ≤ maxDepth then j else .unreadable

/-- The object with the given members, the last one first; unreadable if a key is. -/
def object (before : List (Option String × Json)) : Json :=
  match before.reverse.mapM fun (key, j) => key.map (·, j) with
  | some members => .obj members
  | none => .unreadable

/-- Goes on after a value at a place where a value is due. -/
def readValue (around : List Frame) : Token → Option Position
  | .null => some ⟨around, .next .null⟩
  | .bool b => some ⟨around, .next (.bool b)⟩
  | .number (.int i) => some ⟨around, .next (.int i)⟩
  | .number (.real m e) => some ⟨around, .next (.real m e)⟩
  | .number .huge => some ⟨around, .next .unreadable⟩
  | .str (some s) => some ⟨around, .next (.str s)⟩
  | .str none => some ⟨around, .next .unreadable⟩
  | .openArray => some ⟨.items [] :: around, .firstItem⟩
  | .openObject => some ⟨around, .firstKey⟩
  | _ => none

/-- Goes on after a token. -/
def Position.step (p : Position) (t : Token) : Option Position :=
  match p.due, t with
  | .firstItem, .closeArray => some ⟨p.around.tail, .next (contained p.around.length (.arr []))⟩
  | .firstItem, t => readValue p.around t
  | .value, t => readValue p.around t
  | .firstKey, .closeObject => some ⟨p.around, .next (contained (p.around.length + 1) (.obj []))⟩
  | .firstKey, .str k => some ⟨p.around, .colon [] k⟩
  | .key before, .str k => some ⟨p.around, .colon before k⟩
  | .colon before k, .colon => some ⟨.members before k :: p.around, .value⟩
  | .next j, t =>
    match p.around, t with
    | .items before :: around, .comma => some ⟨.items (j :: before) :: around, .value⟩
    | .items before :: around, .closeArray =>
      some ⟨around, .next (contained (around.length + 1) (.arr (j :: before).reverse))⟩
    | .members before k :: around, .comma => some ⟨around, .key ((k, j) :: before)⟩
    | .members before k :: around, .closeObject =>
      some ⟨around, .next (contained (around.length + 1) (object ((k, j) :: before)))⟩
    | _, _ => none
  | _, _ => none

/-- Goes on after a list of tokens. -/
def Position.run (p : Position) : List Token → Option Position
  | [] => some p
  | t :: rest => (p.step t).bind fun p => p.run rest

/-- The value of a list of tokens. -/
def ofTokens? (ts : List Token) : Option Json :=
  match Position.run ⟨[], .value⟩ ts with
  | some ⟨[], .next j⟩ => some j
  | _ => none

/-- Reads a text as a value. -/
def ofText? (s : List Char) : Option Json := (scan? s).bind ofTokens?

end Mediatheque.Json
