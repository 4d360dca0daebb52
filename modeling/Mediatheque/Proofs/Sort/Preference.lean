import Mediatheque.Listing.Preference
import Mediatheque.Proofs.Json.Form

/-!
# Sort preferences are read back

A choice that leaves the direction to its key is written without one, and is read back as a choice
that leaves it open; a direction that was chosen is kept even if it is the one the key has by
itself.
-/

namespace Mediatheque

open Json

namespace SortPreference

/-- The direction of a choice as it is found in its form. -/
def directionMember (manner : Manner) (p : SortPreference) : Member :=
  p.direction.elim .absent fun d => .given manner (toJson d)

theorem record?_toJson (manner : Manner) (p : SortPreference) :
    (toJson p).record? manner ["key", "direction"] =
      some [.given manner (toJson p.key), p.directionMember manner] := by
  obtain ⟨key, direction⟩ := p
  cases direction with
  | none => rfl
  | some d => rfl

theorem orElse_directionMember (manner : Manner) (p : SortPreference) :
    (p.directionMember manner).orElse none = some p.direction := by
  obtain ⟨key, direction⟩ := p
  cases direction with
  | none => rfl
  | some d => exact Member.orElse_toJson manner none (some d)

theorem depth_toJson (p : SortPreference) : (toJson p).depth = 1 := by
  obtain ⟨key, direction⟩ := p
  cases direction with
  | none => rfl
  | some d => rfl

end SortPreference

instance : LawfulJsonForm SortPreference where
  isExact_toJson p := by
    refine .obj (List.forall_mem_cons.2 ⟨isExact_toJson p.key, fun m hm => ?_⟩)
    obtain ⟨d, -, rfl⟩ := List.mem_map.1 hm
    exact isExact_toJson d
  as?_toJson manner p := by
    simp only [as?, JsonForm.ofJson?, p.record?_toJson, Option.bind_eq_bind, Option.bind_some,
      Member.required_toJson, p.orElse_directionMember]
    rfl

end Mediatheque
