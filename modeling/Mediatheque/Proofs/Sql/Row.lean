import Mediatheque.Predicate.Evaluation
import Mediatheque.Sql.Condition

/-!
# Rows

What a database keeps of a record. A datum is of a type, and may be unknown; an array holds
elements of one type, none of which is unknown. The row of a record has for each field a datum of
the type of its column. For a single value it is unknown just if the record does not know the
value. For a set the array has the same elements, in any order and as often as it likes; of an
empty set the array is empty or unknown.
-/

namespace Mediatheque

open Std

/-! ### Types and values -/

namespace Sql.DataType

/-- What is held, as a value. -/
def value : (t : DataType) → t.Carrier → Value
  | .bool => .bool
  | .int8 => .int
  | .date => .date
  | .text => .text
  | .uuid => .uuid

instance : (t : DataType) → Ord t.Carrier
  | .bool => inferInstanceAs (Ord Bool)
  | .int8 => inferInstanceAs (Ord Int64)
  | .date => inferInstanceAs (Ord Date)
  | .text => inferInstanceAs (Ord String)
  | .uuid => inferInstanceAs (Ord Uuid)

instance : (t : DataType) → LawfulEqOrd t.Carrier
  | .bool => inferInstanceAs (LawfulEqOrd Bool)
  | .int8 => inferInstanceAs (LawfulEqOrd Int64)
  | .date => inferInstanceAs (LawfulEqOrd Date)
  | .text => inferInstanceAs (LawfulEqOrd String)
  | .uuid => inferInstanceAs (LawfulEqOrd Uuid)

variable {t : DataType}

@[simp] theorem dataType?_value (a : t.Carrier) : dataType? (t.value a) = some t := by
  cases t <;> rfl

@[simp] theorem content?_value (a : t.Carrier) : t.content? (t.value a) = some a := by
  cases t <;> rfl

@[simp] theorem content?_null : t.content? .null = none := by
  cases t <;> rfl

theorem value_of_content? {v : Value} {a : t.Carrier} (h : t.content? v = some a) :
    v = t.value a := by
  cases t <;> cases v <;> cases h <;> rfl

theorem value_ne_null (a : t.Carrier) : t.value a ≠ .null := by
  cases t <;> exact fun h => Value.noConfusion h

@[simp] theorem isNull_value (a : t.Carrier) : (t.value a).isNull = false :=
  beq_false_of_ne (value_ne_null a)

@[simp] theorem value_inj {a b : t.Carrier} : t.value a = t.value b ↔ a = b := by
  refine ⟨fun h => ?_, fun h => h ▸ rfl⟩
  have same := congrArg t.content? h
  rw [content?_value, content?_value] at same
  exact Option.some.inj same

/-- Values of one type compare as what they hold. -/
@[simp] theorem compare?_value (a b : t.Carrier) :
    (t.value a).compare? (t.value b) = some (compare a b) := by
  cases t <;> rfl

/-- A value of a type holds something. -/
theorem exists_value_of_dataType? {v : Value} (h : dataType? v = some t) :
    ∃ a : t.Carrier, v = t.value a := by
  cases v with
  | null => cases h
  | bool a => cases h; exact ⟨a, rfl⟩
  | int a => cases h; exact ⟨a, rfl⟩
  | date a => cases h; exact ⟨a, rfl⟩
  | text a => cases h; exact ⟨a, rfl⟩
  | uuid a => cases h; exact ⟨a, rfl⟩

end Sql.DataType

/-! ### Fields -/

namespace Field

/-- The type of the values that a field holds. -/
def dataType : Field → Sql.DataType
  | .id | .tags => .uuid
  | .kind | .status | .format => .text
  | .isAdult | .watched | .watchAgain | .isFavorite | .isOnWatchlist => .bool
  | .releaseDate => .date
  | .genres | .rating | .seasonCount | .lastSeason | .lastEpisode => .int8

/-- What a field holds. -/
abbrev Content (f : Field) : Type := f.dataType.Carrier

/-- A value of the type of a field, or the missing value. -/
def fits (f : Field) (v : Value) : Bool := v.isNull || Sql.dataType? v == some f.dataType

/-- A value that fits a field is missing or holds something of the type of the field. -/
theorem eq_null_or_value_of_fits {f : Field} {v : Value} (h : f.fits v) :
    v = .null ∨ ∃ a : f.Content, v = f.dataType.value a := by
  rcases Bool.or_eq_true_iff.1 h with h | h
  · exact .inl (eq_of_beq h)
  · exact .inr (Sql.DataType.exists_value_of_dataType? (eq_of_beq h))

/-- What a record holds in a field of single values fits the field. -/
theorem fits_of_fieldValue {f : Field} {r : MediaRecord} {v : Value}
    (h : r.fieldValue f = .scalar v) : f.fits v := by
  have known : ∀ {α : Type} [IsValue α] (o : Option α),
      (∀ a : α, f.fits (toValue a)) → f.fits (toValue o) := by
    intro α _ o ho
    cases o with
    | none => rfl
    | some a => exact ho a
  cases f with
  | genres => cases h
  | tags => cases h
  | id => cases h; rfl
  | kind => cases h; rfl
  | isAdult => cases h; rfl
  | isFavorite => cases h; rfl
  | isOnWatchlist => cases h; rfl
  | rating => cases h; exact known _ fun _ => rfl
  | releaseDate => cases h; exact known _ fun _ => rfl
  | status => cases h; exact known _ fun _ => rfl
  | format => cases h; exact known _ fun _ => rfl
  | seasonCount => cases h; exact known _ fun _ => rfl
  | watched => cases h; exact known _ fun _ => rfl
  | watchAgain => cases h; exact known _ fun _ => rfl
  | lastSeason => cases h; exact known _ fun _ => rfl
  | lastEpisode => cases h; exact known _ fun _ => rfl

/-- What a record holds in a field of sets are values of the type of the field. -/
theorem exists_value_of_fieldValue {f : Field} {r : MediaRecord} {s : SortedSet Value}
    (h : r.fieldValue f = .set s) {v : Value} (hv : v ∈ s) :
    ∃ a : f.Content, v = f.dataType.value a := by
  cases f with
  | genres =>
    cases h
    obtain ⟨g, -, rfl⟩ := SortedSet.mem_image.1 hv
    exact Sql.DataType.exists_value_of_dataType? rfl
  | tags =>
    cases h
    obtain ⟨i, -, rfl⟩ := SortedSet.mem_image.1 hv
    exact Sql.DataType.exists_value_of_dataType? rfl
  | _ => cases h

/-- A record holds a set in the fields of sets, and a single value in the others. -/
theorem isSetValued_iff (f : Field) (r : MediaRecord) :
    f.isSetValued ↔ ∃ s, r.fieldValue f = .set s := by
  cases f with
  | genres => exact ⟨fun _ => ⟨_, rfl⟩, fun _ => rfl⟩
  | tags => exact ⟨fun _ => ⟨_, rfl⟩, fun _ => rfl⟩
  | _ => exact ⟨fun h => (Bool.false_ne_true h).elim, fun ⟨_, h⟩ => FieldValue.noConfusion h⟩

end Field

/-! ### Rows -/

namespace Sql

/-- What a database has in a place. -/
inductive Datum where
  /-- A single value of a type, if it is known. -/
  | single (type : DataType) (value : Option type.Carrier)
  /-- An array of elements of a type, if it is known. -/
  | array (type : DataType) (elements : Option (List type.Carrier))

/-- What a database has in the columns of the fields. -/
abbrev Row := Field → Datum

/-- The row is one of the record. -/
structure Row.Represents (row : Row) (r : MediaRecord) : Prop where
  /-- A single value is in its column, which is unknown for the missing value. -/
  single : ∀ f v, r.fieldValue f = .scalar v →
    row f = .single f.dataType (f.dataType.content? v)
  /-- The elements of a set are those of the array in its column, which may be unknown if there
  are none. -/
  array : ∀ f s, r.fieldValue f = .set s →
    ∃ elements : Option (List f.Content), row f = .array f.dataType elements ∧
      ∀ a, a ∈ elements.getD [] ↔ f.dataType.value a ∈ s

/-- A row of a record. -/
def rowOf (r : MediaRecord) : Row := fun f =>
  match r.fieldValue f with
  | .scalar v => .single f.dataType (f.dataType.content? v)
  | .set s => .array f.dataType (some (s.toList.filterMap f.dataType.content?))

/-- Every record has a row. -/
theorem represents_rowOf (r : MediaRecord) : (rowOf r).Represents r := by
  refine ⟨fun f v h => ?_, fun f s h => ⟨some (s.toList.filterMap f.dataType.content?), ?_, ?_⟩⟩
  · rw [rowOf, h]
  · rw [rowOf, h]
  · intro a
    rw [Option.getD_some, List.mem_filterMap]
    constructor
    · rintro ⟨v, hv, ha⟩
      obtain ⟨b, rfl⟩ := Field.exists_value_of_fieldValue h hv
      rw [DataType.content?_value, Option.some.injEq] at ha
      exact ha ▸ hv
    · exact fun ha => ⟨f.dataType.value a, ha, DataType.content?_value a⟩

end Sql

end Mediatheque
