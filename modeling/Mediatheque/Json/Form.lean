import Mediatheque.Calendar.Instant
import Mediatheque.Identity
import Mediatheque.Json.Text
import Mediatheque.Named

/-!
# JSON forms

How values of the library are written as JSON and read back. A choice between names is
written as its name. A record is written as an object with its keys in a fixed order; it is
read from an object with the keys in any order and with unknown keys skipped, or from an
array of its members in order. A choice between records carries a tag beside its members.

What stands beside a tag cannot be read before the tag is known: it is held until then.
From a value that was held some forms are read more freely: an empty object counts as no
content, and a tag may be the number of its choice.
-/

namespace Mediatheque

/-- In what manner a form is read. -/
inductive Json.Manner where
  /-- At once. -/
  | direct
  /-- After it was held because a tag had to be known first. -/
  | held
  deriving DecidableEq, Repr

/-- A type whose values have a JSON form. -/
class JsonForm (α : Type) where
  /-- The form in which a value is written. -/
  toJson : α → Json
  /-- The value read from a form. -/
  ofJson? : Json.Manner → Json → Option α

export JsonForm (toJson)

namespace Json

/-- The value read from a form. -/
def as? (α : Type) [JsonForm α] (manner : Manner) (j : Json) : Option α :=
  JsonForm.ofJson? manner j

/-- Reads a text as a value; parts of the text that are skipped may be unreadable. -/
def ofText (α : Type) [JsonForm α] (s : String) : Option α :=
  (ofText? s.toList).bind (as? α .direct)

/-- Reads a text as a value, no part of which may be unreadable. -/
def ofReadableText (α : Type) [JsonForm α] (s : String) : Option α :=
  ((ofText? s.toList).filter isReadable).bind (as? α .direct)

/-- The compact text of a value's form. -/
def textOf {α : Type} [JsonForm α] (a : α) : String := String.ofList (toJson a).toText

/-! ### Plain values -/

/-- The integer, if it lies in an interval. -/
def intWithin? (low high : Int) : Json → Option Int
  | .int i => if low ≤ i ∧ i ≤ high then some i else none
  | _ => none

/-- The string. -/
def str? : Json → Option String
  | .str s => some s
  | _ => none

/-- Whether a value counts as no content. -/
def isVoid (manner : Manner) : Json → Bool
  | .null => true
  | .obj [] => manner == .held
  | _ => false

/-- The name that stands for a choice: a string, or an object with the name as the only key
and without content. -/
def name? (manner : Manner) : Json → Option String
  | .str s => some s
  | .obj [(s, content)] => if content.isVoid manner then some s else none
  | _ => none

/-- The form of a value that has a text of its own. -/
def ofChars (s : List Char) : Json := .str (String.ofList s)

end Json

instance : JsonForm Bool where
  toJson := .bool
  ofJson?
    | _, .bool b => some b
    | _, _ => none

instance : JsonForm String where
  toJson := .str
  ofJson? _ := Json.str?

instance : JsonForm UInt32 where
  toJson n := .int n.toNat
  ofJson? _ j := (j.intWithin? 0 (UInt32.size - 1)).map fun i => UInt32.ofNat i.toNat

instance : JsonForm Int32 where
  toJson i := .int i.toInt
  ofJson? _ j := (j.intWithin? Int32.minValue.toInt Int32.maxValue.toInt).map Int32.ofInt

instance : JsonForm Int64 where
  toJson i := .int i.toInt
  ofJson? _ j := (j.intWithin? Int64.minValue.toInt Int64.maxValue.toInt).map Int64.ofInt

instance : JsonForm Date where
  toJson d := .ofChars d.toText
  ofJson? _ j := j.str?.bind fun s => Date.ofText? s.toList

instance : JsonForm Instant where
  toJson t := .ofChars t.toText
  ofJson? _ j := j.str?.bind fun s => Instant.ofText? s.toList

instance : JsonForm Uuid where
  toJson u := .ofChars u.toText
  ofJson? _ j := j.str?.bind fun s => Uuid.ofText? s.toList

instance {kind : IdKind} : JsonForm (Id kind) where
  toJson i := toJson i.uuid
  ofJson? manner j := (j.as? Uuid manner).map Id.mk

instance {α : Type} [Named α] : JsonForm α where
  toJson a := .str (Named.name a)
  ofJson? manner j := (j.name? manner).bind Named.ofName?

instance {α : Type} [JsonForm α] : JsonForm (Option α) where
  toJson
    | some a => toJson a
    | none => .null
  ofJson?
    | _, .null => some none
    | manner, j => (j.as? α manner).map some

instance {α : Type} [JsonForm α] : JsonForm (List α) where
  toJson l := .arr (l.map toJson)
  ofJson?
    | manner, .arr items => items.mapM (Json.as? α manner)
    | _, _ => none

instance {α κ : Type} [Ord κ] [Std.TransOrd κ] {key : α → κ} [JsonForm α] :
    JsonForm (SortedBy key) where
  toJson s := toJson s.toList
  ofJson? manner j := (j.as? (List α) manner).map SortedBy.ofList

/-! ### Records -/

namespace Json

/-- A member of a record as it is found. -/
inductive Member where
  /-- The record has it, to be read in the manner of the record. -/
  | given (manner : Manner) (j : Json)
  /-- An object does not have its key. -/
  | absent
  /-- An array ends before it. -/
  | beyond

/-- The values given for a key. -/
def valuesAt (key : String) (members : List (String × Json)) : List Json :=
  (members.filter fun m => m.1 == key).map (·.2)

/-- The members of a record with the given keys, in order. No key may be given twice, and an
array may not have more items than there are keys. -/
def record? (manner : Manner) (keys : List String) : Json → Option (List Member)
  | .obj members =>
    keys.mapM fun key =>
      match valuesAt key members with
      | [] => some .absent
      | [j] => some (.given manner j)
      | _ => none
  | .arr items =>
    if items.length ≤ keys.length then
      some (items.map (.given manner) ++ List.replicate (keys.length - items.length) .beyond)
    else none
  | _ => none

namespace Member

/-- A member that has to be given. -/
def required (α : Type) [JsonForm α] : Member → Option α
  | .given manner j => j.as? α manner
  | _ => none

/-- A member whose key may be absent, which counts as no value. -/
def optional (α : Type) [JsonForm α] : Member → Option (Option α)
  | .given manner j => j.as? (Option α) manner
  | .absent => some none
  | .beyond => none

/-- A member that need not be given, with the value it has then. -/
def orElse {α : Type} [JsonForm α] (default : α) : Member → Option α
  | .given manner j => j.as? α manner
  | _ => some default

end Member

/-- The choice that a tag names; after it was held also by its number among the names. -/
def tag? (manner : Manner) (names : List String) : Json → Option String
  | .str s => some s
  | .int i => if manner = .held ∧ 0 ≤ i then names[i.toNat]? else none
  | _ => none

/-- The tag of a tagged record, under the given key or in front, and the record without it. -/
def tagged? (manner : Manner) (names : List String) (key : String) : Json → Option (String × Json)
  | .obj members =>
    match valuesAt key members with
    | [tag] => (tag.tag? manner names).map (·, .obj (members.filter fun m => m.1 != key))
    | _ => none
  | .arr (tag :: rest) => (tag.tag? manner names).map (·, .arr rest)
  | _ => none

/-- The tag and the content of a value that keeps them under two keys. An object may lack the
content, a pair may not. -/
def adjacent? (manner : Manner) (names : List String) (tagKey contentKey : String) :
    Json → Option (String × Option Json)
  | .obj members =>
    match valuesAt tagKey members, valuesAt contentKey members with
    | [tag], [] => (tag.name? manner).map (·, none)
    | [tag], [content] => (tag.name? manner).map (·, some content)
    | _, _ => none
  | .arr [tag, content] => (tag.tag? manner names).map (·, some content)
  | _ => none

end Json

end Mediatheque
