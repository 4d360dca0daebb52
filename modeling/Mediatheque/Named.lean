/-!
# Named alternatives

A choice between finitely many values, each with a fixed name, as it is stored and
exchanged. The values are listed in their order of declaration; that they are all
listed and that no two share a name is part of the class, so a name determines its
value and a value is found again under its name.
-/

namespace Mediatheque

/-- A type with finitely many values, each with a name of its own. -/
class Named (α : Type) where
  /-- Every value, in order of declaration. -/
  all : List α
  /-- The name of a value. -/
  name : α → String
  /-- Nothing is left out of `all`. -/
  mem_all : ∀ a, a ∈ all
  /-- No two values share a name. -/
  nodup_names : (all.map name).Nodup

namespace Named

variable {α : Type} [Named α]

/-- The value that has the given name, if any does. -/
def ofName? (s : String) : Option α := all.find? fun a => name a == s

theorem name_of_ofName? {s : String} {a : α} (h : ofName? s = some a) : name a = s := by
  simpa using List.find?_some h

theorem name_injective {a b : α} (h : name a = name b) : a = b := by
  have pairwise := List.pairwise_map.1 (nodup_names (α := α))
  have ha := mem_all a
  have hb := mem_all b
  obtain ⟨i, hi, rfl⟩ := List.mem_iff_getElem.1 ha
  obtain ⟨j, hj, rfl⟩ := List.mem_iff_getElem.1 hb
  rcases Nat.lt_trichotomy i j with hij | rfl | hij
  · exact absurd h (List.pairwise_iff_getElem.1 pairwise i j hi hj hij)
  · rfl
  · exact absurd h.symm (List.pairwise_iff_getElem.1 pairwise j i hj hi hij)

/-- A value is found under its own name. -/
@[simp] theorem ofName?_name (a : α) : ofName? (name a) = some a := by
  unfold ofName?
  cases h : all.find? (fun b : α => name b == name a) with
  | none => exact absurd (List.find?_eq_none.1 h a (mem_all a)) (by simp)
  | some b => rw [name_injective (by simpa using List.find?_some h : name b = name a)]

theorem ofName?_eq_some_iff {s : String} {a : α} : ofName? s = some a ↔ name a = s :=
  ⟨name_of_ofName?, fun h => h ▸ ofName?_name a⟩

end Named

end Mediatheque
