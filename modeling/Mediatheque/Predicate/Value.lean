import Mediatheque.Media.Record

/-!
# Values

The values that fields hold and predicates compare with. The choices of the vocabulary
appear as their names, ratings as half stars. Values of one kind compare; the missing value
compares with nothing. For sets there is besides a total order, by kind first.
-/

namespace Mediatheque

open Std

/-- The kinds of values. -/
inductive ValueKind where
  /-- No value. -/
  | null
  /-- A truth value. -/
  | bool
  /-- An integer. -/
  | int
  /-- A date. -/
  | date
  /-- A text. -/
  | text
  /-- An identifier. -/
  | uuid
  deriving DecidableEq, Repr

instance : Named ValueKind where
  all := [.null, .bool, .int, .date, .text, .uuid]
  name
    | .null => "null"
    | .bool => "bool"
    | .int => "int"
    | .date => "date"
    | .text => "text"
    | .uuid => "uuid"
  mem_all a := by cases a <;> decide
  nodup_names := by decide

/-- A value of a field, or one to compare it with. -/
inductive Value where
  /-- No value: what a record does not know. -/
  | null
  /-- A truth value. -/
  | bool (b : Bool)
  /-- An integer. -/
  | int (i : Int64)
  /-- A date. -/
  | date (d : Date)
  /-- A text. -/
  | text (s : String)
  /-- An identifier. -/
  | uuid (u : Uuid)
  deriving DecidableEq, Repr

namespace Value

/-- The kind of a value. -/
def kind : Value → ValueKind
  | .null => .null
  | .bool _ => .bool
  | .int _ => .int
  | .date _ => .date
  | .text _ => .text
  | .uuid _ => .uuid

/-- Whether it is the missing value. -/
def isNull (v : Value) : Bool := v == .null

/-! ### Order -/

/-- Compares two values of one kind; the missing value and mixed kinds do not compare. -/
def compare? : Value → Value → Option Ordering
  | .bool a, .bool b => some (compare a b)
  | .int a, .int b => some (compare a b)
  | .date a, .date b => some (compare a b)
  | .text a, .text b => some (compare a b)
  | .uuid a, .uuid b => some (compare a b)
  | _, _ => none

/-- The truth value, of a value that is one. -/
def bool? : Value → Option Bool
  | .bool b => some b
  | _ => none

/-- The integer, of a value that is one. -/
def int? : Value → Option Int64
  | .int i => some i
  | _ => none

/-- The date, of a value that is one. -/
def date? : Value → Option Date
  | .date d => some d
  | _ => none

/-- The text, of a value that is one. -/
def text? : Value → Option String
  | .text s => some s
  | _ => none

/-- The identifier, of a value that is one. -/
def uuid? : Value → Option Uuid
  | .uuid u => some u
  | _ => none

/-- Compares by kind, and values of one kind by what they hold. -/
def compareByKind : Value → Value → Ordering :=
  compareLex (compareOn fun v => v.kind.ctorIdx) <|
  compareLex (compareOn bool?) <| compareLex (compareOn int?) <| compareLex (compareOn date?) <|
  compareLex (compareOn text?) (compareOn uuid?)

instance : Ord Value := ⟨compareByKind⟩

instance : TransOrd Value :=
  inferInstanceAs (TransCmp
    (compareLex (compareOn fun v : Value => v.kind.ctorIdx) <|
      compareLex (compareOn bool?) <| compareLex (compareOn int?) <|
      compareLex (compareOn date?) <| compareLex (compareOn text?) (compareOn uuid?)))

theorem eq_of_parts {a b : Value} (hk : a.kind = b.kind) (hb : a.bool? = b.bool?)
    (hi : a.int? = b.int?) (hd : a.date? = b.date?) (ht : a.text? = b.text?)
    (hu : a.uuid? = b.uuid?) : a = b := by
  cases a <;> cases b <;> simp_all [kind, bool?, int?, date?, text?, uuid?]

instance : LawfulEqOrd Value where
  compare_self := ReflCmp.compare_self
  eq_of_compare {a b} h := by
    obtain ⟨hk, h⟩ := compareLex_eq_eq.1 h
    obtain ⟨hb, h⟩ := compareLex_eq_eq.1 h
    obtain ⟨hi, h⟩ := compareLex_eq_eq.1 h
    obtain ⟨hd, h⟩ := compareLex_eq_eq.1 h
    obtain ⟨ht, hu⟩ := compareLex_eq_eq.1 h
    have hk : a.kind.ctorIdx = b.kind.ctorIdx := LawfulEqOrd.eq_of_compare hk
    have hk : a.kind = b.kind := by
      rw [← ValueKind.ofNat_ctorIdx a.kind, hk, ValueKind.ofNat_ctorIdx]
    exact eq_of_parts hk (LawfulEqOrd.eq_of_compare hb) (LawfulEqOrd.eq_of_compare hi)
      (LawfulEqOrd.eq_of_compare hd) (LawfulEqOrd.eq_of_compare ht) (LawfulEqOrd.eq_of_compare hu)

/-! ### Text and JSON form -/

/-- A value as it is shown. -/
def toText : Value → String
  | .null => "null"
  | .bool true => "true"
  | .bool false => "false"
  | .int i => String.ofList (Numeral.ofInt i.toInt)
  | .date d => String.ofList d.toText
  | .text s => Text.quoted s
  | .uuid u => String.ofList u.toText

/-- The content of a value, beside its kind. -/
def content : Value → Json
  | .null => .null
  | .bool b => toJson b
  | .int i => toJson i
  | .date d => toJson d
  | .text s => toJson s
  | .uuid u => toJson u

/-- Reads the content of a value of the given kind; the missing value needs none. -/
def ofContent? (manner : Json.Manner) (kind : ValueKind) (content : Option Json) : Option Value :=
  match kind with
  | .null =>
    match content with
    | none | some .null => some .null
    | some _ => none
  | .bool => content.bind fun j => (j.as? Bool manner).map .bool
  | .int => content.bind fun j => (j.as? Int64 manner).map .int
  | .date => content.bind fun j => (j.as? Date manner).map .date
  | .text => content.bind fun j => (j.as? String manner).map .text
  | .uuid => content.bind fun j => (j.as? Uuid manner).map .uuid

instance : JsonForm Value where
  toJson v := .obj <|
    ("type", .str (Named.name v.kind)) :: if v.isNull then [] else [("value", v.content)]
  ofJson? manner j := do
    let kinds := (Named.all : List ValueKind).map Named.name
    let (name, content) ← j.adjacent? manner kinds "type" "value"
    let kind ← Named.ofName? name
    ofContent? manner kind content

end Value

/-! ### Values of attributes -/

/-- A type whose elements appear as values. -/
class IsValue (α : Type) where
  /-- The value as which an element appears. -/
  toValue : α → Value

export IsValue (toValue)

instance : IsValue Value := ⟨fun v => v⟩
instance : IsValue Bool := ⟨.bool⟩
instance : IsValue Int64 := ⟨.int⟩
instance : IsValue UInt32 := ⟨fun n => .int (Int64.ofNat n.toNat)⟩
instance : IsValue Date := ⟨.date⟩
instance : IsValue MediaKind := ⟨fun k => .text (Named.name k)⟩
instance : IsValue ProductionStatus := ⟨fun s => .text (Named.name s)⟩
instance : IsValue ShowFormat := ⟨fun f => .text (Named.name f)⟩
instance : IsValue StarRating := ⟨fun r => .int (Int64.ofNat r.halfStars.val)⟩
instance : IsValue Genre := ⟨fun g => toValue g.number⟩
instance {kind : IdKind} : IsValue (Id kind) := ⟨fun i => .uuid i.uuid⟩

/-- What is not known appears as the missing value. -/
instance {α : Type} [IsValue α] : IsValue (Option α) := ⟨fun o => o.elim .null toValue⟩

end Mediatheque
