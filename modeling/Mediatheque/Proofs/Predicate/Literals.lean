import Mediatheque.Proofs.Predicate.Construction
import Mediatheque.Proofs.Sql.Row

/-!
# Literals

What the leaves of a predicate compare fields with. A field admits the values of the kind that
records hold in it, and for every field there is a record that holds something in it; so admitted
are just the values of the type of the field (`admits_iff`).
-/

namespace Mediatheque

/-- The value is what is held in a field, or among what is held, and it is not the missing one. -/
def FieldValue.Knows : FieldValue → Value → Prop
  | .scalar actual, v => actual = v ∧ v ≠ .null
  | .set actual, v => v ∈ actual

/-- A record that knows everything. -/
def MediaRecord.complete : MediaRecord where
  id := ⟨⟨1⟩⟩
  title := "The Bear"
  kind := .series
  isAdult := false
  genres := .ofList [⟨18⟩]
  rating := some .five
  releaseDate := some ⟨2022, 6, 23, by decide, by decide⟩
  status := some .ended
  format := some .scripted
  seasonCount := some 4
  seasons := [⟨1, 8, none⟩]
  watched := some true
  watchAgain := some true
  lastSeason := some 1
  lastEpisode := some 5
  tags := .ofList [⟨⟨2⟩⟩]
  isFavorite := true
  isOnWatchlist := false
  createdAt := ⟨⟨2020, 2, 29, by decide, by decide⟩, 0, 0, by decide, by decide⟩

namespace Field

/-- The value is not the missing one, and of the kind of whatever a record knows in the field. -/
def Admits (f : Field) (v : Value) : Prop :=
  v ≠ .null ∧ ∀ (r : MediaRecord) (w : Value), (r.fieldValue f).Knows w → v.kind = w.kind

/-- Something can be known in every field. -/
theorem exists_knows (f : Field) : ∃ (r : MediaRecord) (w : Value), (r.fieldValue f).Knows w := by
  refine ⟨.complete, ?_⟩
  cases f with
  | genres => exact ⟨_, SortedSet.mem_image.2 ⟨⟨18⟩, SortedSet.mem_ofList.2 (by simp), rfl⟩⟩
  | tags => exact ⟨_, SortedSet.mem_image.2 ⟨⟨⟨2⟩⟩, SortedSet.mem_ofList.2 (by simp), rfl⟩⟩
  | _ => exact ⟨_, rfl, fun h => Value.noConfusion h⟩

/-- What a record knows in a field is of the type of the field. -/
theorem dataType?_of_knows {f : Field} {r : MediaRecord} {w : Value}
    (h : (r.fieldValue f).Knows w) : Sql.dataType? w = some f.dataType := by
  cases hv : r.fieldValue f with
  | scalar v =>
    rw [hv] at h
    obtain ⟨rfl, hnull⟩ := h
    rcases eq_null_or_value_of_fits (fits_of_fieldValue hv) with rfl | ⟨a, rfl⟩
    · exact absurd rfl hnull
    · exact Sql.DataType.dataType?_value a
  | set s =>
    rw [hv] at h
    obtain ⟨a, rfl⟩ := exists_value_of_fieldValue hv h
    exact Sql.DataType.dataType?_value a

theorem kind_eq_iff {v w : Value} : v.kind = w.kind ↔ Sql.dataType? v = Sql.dataType? w := by
  cases v <;> cases w <;> simp [Value.kind, Sql.dataType?]

/-- A field admits the values of its type. -/
theorem admits_iff {f : Field} {v : Value} : f.Admits v ↔ Sql.dataType? v = some f.dataType := by
  constructor
  · rintro ⟨-, hkind⟩
    obtain ⟨r, w, hw⟩ := f.exists_knows
    rw [← dataType?_of_knows hw, ← kind_eq_iff]
    exact hkind r w hw
  · intro h
    refine ⟨?_, fun r w hw => ?_⟩
    · rintro rfl
      cases h
    · rw [kind_eq_iff, h, dataType?_of_knows hw]

end Field

namespace Predicate

/-- Of a leaf: its field admits what it is compared with. Whether a field is unknown can be asked
besides. -/
def ComparesInKind : Predicate → Prop
  | .equals f v => v = .null ∨ f.Admits v
  | .oneOf f values => ∀ v ∈ values, f.Admits v
  | .within f lower upper _ _ =>
    (∀ v, lower = some v → f.Admits v) ∧ ∀ v, upper = some v → f.Admits v
  | .all _ | .any _ | .always _ => True

/-- Of a leaf: it has something to choose from. -/
def HasChoice : Predicate → Prop
  | .oneOf _ values => values ≠ .empty
  | _ => True

end Predicate

end Mediatheque
