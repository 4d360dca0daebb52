import Mathlib.Data.List.DropRight
import Mediatheque.Proofs.Sql.Truth
import Mediatheque.Sort.Comparison
import Mediatheque.Sql.Query

/-!
# The order of rows

What a database makes of the expressions it sorts by, and how two rows compare on a term of an
order. An expression has a type, and every part of it has to fit, the cases that are not taken
too. What it comes to on a row may be unknown: a test on something unknown is not met, and what is
unknown comes last in both directions.

As in conditions, values of one type compare as they do everywhere else. Texts are put in lower
case as titles are, but a database that trims a text drops nothing but spaces.
-/

namespace Mediatheque

/-- The text without the spaces at its ends. -/
def Text.trimSpaces (s : List Char) : List Char := (s.dropWhile (· == ' ')).rdropWhile (· == ' ')

namespace Sql

open Std

/-! ### Rows of the table -/

/-- A row of the table of records: what it has in the columns of the fields, and in those that no
predicate looks at. -/
structure TableRow where
  /-- The columns of the fields. -/
  fields : Row
  /-- The title. -/
  title : String
  /-- When the record was added. -/
  createdAt : Instant

/-- The row is one of the record. -/
structure TableRow.Represents (row : TableRow) (r : MediaRecord) : Prop where
  /-- What it has in the columns of the fields is what the record holds. -/
  fields : row.fields.Represents r
  /-- It has the title. -/
  title : row.title = r.title
  /-- It has the time. -/
  createdAt : row.createdAt = r.createdAt

/-- A row of a record in the table. -/
def tableRowOf (r : MediaRecord) : TableRow := ⟨rowOf r, r.title, r.createdAt⟩

/-- Every record has a row in the table. -/
theorem represents_tableRowOf (r : MediaRecord) : (tableRowOf r).Represents r :=
  ⟨represents_rowOf r, rfl, rfl⟩

/-! ### Types -/

/-- The type of what rows are sorted by. -/
inductive SortType where
  /-- The type of a single value. -/
  | data (type : DataType)
  /-- Points in time. -/
  | timestamp
  deriving DecidableEq, Repr

/-- The values of a type. -/
abbrev SortType.Carrier : SortType → Type
  | .data t => t.Carrier
  | .timestamp => Instant

instance : (t : SortType) → Ord t.Carrier
  | .data t => inferInstanceAs (Ord t.Carrier)
  | .timestamp => inferInstanceAs (Ord Instant)

/-- The type of a column, if rows can be sorted by it. -/
def Column.sortType? : Column → Option SortType
  | .field f => if f.isSetValued then none else some (.data f.dataType)
  | .title => some (.data .text)
  | .createdAt => some .timestamp

/-- The type of an expression, if its parts go together. -/
def SortExpression.type? : SortExpression → Option SortType
  | .column c => c.sortType?
  | .number _ | .asNumber _ => some (.data .int8)
  | .lower _ | .trimmed _ => some (.data .text)
  | .greatest a _ | .nullIf a _ | .coalesce a _ => a.type?
  | .choose ((_, e) :: _) _ => e.type?
  | .choose [] (some e) => e.type?
  | .choose [] none => none

/-! ### Values -/

/-- What a row has in a column, if the column is of the type. -/
def TableRow.column? (row : TableRow) : (t : SortType) → Column → Option (Option t.Carrier)
  | .data t, .field f =>
    match row.fields f with
    | .single t' value => if h : t' = t then some (h ▸ value) else none
    | .array .. => none
  | .data .text, .title => some (some row.title)
  | .timestamp, .createdAt => some (some row.createdAt)
  | _, _ => none

/-- Whether a column is known. -/
def TableRow.isKnown (row : TableRow) : Column → Bool
  | .field f => !(row.fields f).isNull
  | .title | .createdAt => true

namespace Truth

/-- The truth of a property of something that may be unknown. -/
def ofOption {α : Type} (p : α → Bool) (o : Option α) : Truth :=
  (o.map fun a => ofBool (p a)).getD .unknown

end Truth

/-- The truth of a test on a row, if its column has a fitting type. -/
def Test.truth? (row : TableRow) : Test → Option Truth
  | .holds c text => (row.column? (.data .text) c).map (Truth.ofOption (· == text))
  | .isTrue c => (row.column? (.data .bool) c).map (Truth.ofOption id)
  | .isPositive c => (row.column? (.data .int8) c).map (Truth.ofOption fun i : Int64 => 0 < i)
  | .isKnown c => some (.ofBool (row.isKnown c))

/-- The greater one of two values; the known one, if only one of them is. -/
def greatestOf {α : Type} [Ord α] : Option α → Option α → Option α :=
  Option.merge fun a b => if (compare a b).isGE then a else b

/-- The first value, unknown if it is the same as the second. -/
def unlessSame {α : Type} [Ord α] : Option α → Option α → Option α
  | some a, some b => if (compare a b).isEq then none else some a
  | a, _ => a

namespace SortExpression

mutual

/-- What an expression comes to on a row, if all its parts have types that go together and make it
one of the type. -/
def value? (row : TableRow) : (t : SortType) → SortExpression → Option (Option t.Carrier)
  | t, .column c => row.column? t c
  | .data .int8, .number n => if n ≤ 9223372036854775807 then some (some (Int64.ofNat n)) else none
  | .data .text, .lower e =>
    (value? row (.data .text) e).map (·.map fun s => String.ofList (Text.lower s.toList))
  | .data .text, .trimmed e =>
    (value? row (.data .text) e).map (·.map fun s => String.ofList (Text.trimSpaces s.toList))
  | .data .int8, .asNumber e =>
    (value? row (.data .bool) e).map (·.map fun b => if b then 1 else 0)
  | t, .greatest a b => do return greatestOf (← value? row t a) (← value? row t b)
  | t, .nullIf a b => do return unlessSame (← value? row t a) (← value? row t b)
  | t, .coalesce a b => do return (← value? row t a).or (← value? row t b)
  | t, .choose cases otherwise => casesValue? row t (otherwiseValue? row t otherwise) cases
  | _, _ => none

/-- What the first case comes to whose test is met; without one, what is left. -/
def casesValue? (row : TableRow) (t : SortType) (last : Option (Option t.Carrier)) :
    List (Test × SortExpression) → Option (Option t.Carrier)
  | [] => last
  | (test, e) :: rest => do
    let truth ← test.truth? row
    let value ← value? row t e
    let remaining ← casesValue? row t last rest
    return if truth = .yes then value else remaining

/-- What the last case comes to; without one it is unknown. -/
def otherwiseValue? (row : TableRow) (t : SortType) :
    Option SortExpression → Option (Option t.Carrier)
  | none => some none
  | some e => value? row t e

end

end SortExpression

/-! ### Comparison -/

/-- How two values compare in a direction. What is unknown comes last. -/
def compareNullsLast {α : Type} [Ord α] (d : SortDirection) (a b : Option α) : Ordering :=
  (compare a.isNone b.isNone).then <|
    match d with
    | .ascending => compare a b
    | .descending => compare b a

/-- How two rows compare by expressions in a direction, if these have types: as by the first one
that tells the rows apart. -/
def compareRows? (d : SortDirection) (row row' : TableRow) : List SortExpression → Option Ordering
  | [] => some .eq
  | e :: rest => do
    let t ← e.type?
    let first := compareNullsLast d (← e.value? row t) (← e.value? row' t)
    return first.then (← compareRows? d row row' rest)

section

variable {d : SortDirection} {row row' : TableRow} {e : SortExpression} {rest : List SortExpression}

/-- An expression that has values decides first. -/
theorem compareRows?_cons {t : SortType} {v w : Option t.Carrier} {o : Ordering}
    (ht : e.type? = some t) (hv : e.value? row t = some v) (hw : e.value? row' t = some w)
    (ho : compareRows? d row row' rest = some o) :
    compareRows? d row row' (e :: rest) = some ((compareNullsLast d v w).then o) := by
  simp only [compareRows?, ht, hv, hw, ho, Option.bind_eq_bind, Option.bind_some, Option.pure_def]

end

/-- Unknown values are compared as missing ones are. -/
theorem compareNullsLast_eq_compareMissingLast {α : Type} [Ord α] [OrientedOrd α]
    (d : SortDirection) (a b : Option α) : compareNullsLast d a b = d.compareMissingLast a b := by
  cases a with
  | none => cases b <;> cases d <;> rfl
  | some a =>
    cases b with
    | none => rfl
    | some b =>
      cases d with
      | ascending => rfl
      | descending => exact (OrientedCmp.eq_swap : compare b a = (compare a b).swap)

/-! ### Rows of records -/

namespace TableRow.Represents

variable {row : TableRow} {r : MediaRecord}

/-- A row has in the column of a field what the record holds. -/
theorem column?_field (h : row.Represents r) (f : Field) {v : Value}
    (hv : r.fieldValue f = .scalar v) :
    row.column? (.data f.dataType) (.field f) = some (f.dataType.content? v) := by
  simp only [column?, h.fields.single f v hv, ↓reduceDIte]

/-- A column of a row is known if the record knows the value. -/
theorem isKnown_field (h : row.Represents r) (f : Field) {v : Value}
    (hv : r.fieldValue f = .scalar v) :
    row.isKnown (.field f) = (f.dataType.content? v).isSome := by
  simp only [isKnown, h.fields.single f v hv, Datum.isNull, Option.not_isNone]

end TableRow.Represents

end Sql

end Mediatheque
