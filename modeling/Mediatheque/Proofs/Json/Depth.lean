import Mediatheque.Json.Text
import Mediatheque.Proofs.Json.Token

/-!
# Depth of JSON values

A value is read inside the containers around it, and a container that is nested too deeply
becomes unreadable. What becomes of a value is `capped`: a value that is nested no deeper than
is read stays as it is (`capped_eq_self`), and any other holds an unreadable part
(`isReadable_capped_iff`).
-/

namespace Mediatheque.Json

/-! ### Parts of containers -/

theorem isReadable_arr_iff {items : List Json} :
    (arr items).isReadable ↔ ∀ j ∈ items, j.isReadable := by
  rw [isReadable]
  induction items with
  | nil => simp [itemsReadable]
  | cons j items ih => simp [itemsReadable, ih]

theorem isReadable_obj_iff {members : List (String × Json)} :
    (obj members).isReadable ↔ ∀ m ∈ members, m.2.isReadable := by
  rw [isReadable]
  induction members with
  | nil => simp [membersReadable]
  | cons m members ih => simp [membersReadable, ih]

theorem itemsDepth_le_iff {items : List Json} {n : Nat} :
    itemsDepth items ≤ n ↔ ∀ j ∈ items, j.depth ≤ n := by
  induction items with
  | nil => simp [itemsDepth]
  | cons j items ih => rw [itemsDepth, Nat.max_le, ih, List.forall_mem_cons]

theorem membersDepth_le_iff {members : List (String × Json)} {n : Nat} :
    membersDepth members ≤ n ↔ ∀ m ∈ members, m.2.depth ≤ n := by
  induction members with
  | nil => simp [membersDepth]
  | cons m members ih => rw [membersDepth, Nat.max_le, ih, List.forall_mem_cons]

/-- An array is nested deeper than its items. -/
theorem depth_arr_le_iff {items : List Json} {n : Nat} :
    (arr items).depth ≤ n ↔ 0 < n ∧ ∀ j ∈ items, j.depth < n := by
  constructor
  · intro h
    have bound : itemsDepth items < n := h
    refine ⟨Nat.zero_lt_of_lt bound, fun j hj => ?_⟩
    exact Nat.lt_of_le_of_lt (itemsDepth_le_iff.1 (Nat.le_refl _) j hj) bound
  · rintro ⟨room, h⟩
    have bound : itemsDepth items ≤ n - 1 :=
      itemsDepth_le_iff.2 fun j hj => Nat.le_sub_one_of_lt (h j hj)
    rw [depth]
    omega

/-- An object is nested deeper than its members. -/
theorem depth_obj_le_iff {members : List (String × Json)} {n : Nat} :
    (obj members).depth ≤ n ↔ 0 < n ∧ ∀ m ∈ members, m.2.depth < n := by
  constructor
  · intro h
    have bound : membersDepth members < n := h
    refine ⟨Nat.zero_lt_of_lt bound, fun m hm => ?_⟩
    exact Nat.lt_of_le_of_lt (membersDepth_le_iff.1 (Nat.le_refl _) m hm) bound
  · rintro ⟨room, h⟩
    have bound : membersDepth members ≤ n - 1 :=
      membersDepth_le_iff.2 fun m hm => Nat.le_sub_one_of_lt (h m hm)
    rw [depth]
    omega

theorem depth_lt_of_mem_arr {items : List Json} {j : Json} (h : j ∈ items) :
    j.depth < (arr items).depth :=
  (depth_arr_le_iff.1 (Nat.le_refl _)).2 j h

theorem depth_lt_of_mem_obj {members : List (String × Json)} {m : String × Json}
    (h : m ∈ members) : m.2.depth < (obj members).depth :=
  (depth_obj_le_iff.1 (Nat.le_refl _)).2 m h

theorem isReadable_contained_iff {level : Nat} {j : Json} :
    (contained level j).isReadable ↔ level ≤ maxDepth ∧ j.isReadable := by
  unfold contained
  split
  · next room => simp [room]
  · next room => simp [room, isReadable]

/-! ### Values that are written without loss -/

/-- A value that is written without loss: its numbers are integers of 64 bits, and no part of it
is unreadable. -/
inductive IsExact : Json → Prop where
  /-- The value without content is. -/
  | null : IsExact .null
  /-- Truth values are. -/
  | bool (b : Bool) : IsExact (.bool b)
  /-- Integers of 64 bits are. -/
  | int {i : Int} (h : Number.Fits i) : IsExact (.int i)
  /-- Strings are. -/
  | str (s : String) : IsExact (.str s)
  /-- An array is if its items are. -/
  | arr {items : List Json} (h : ∀ j ∈ items, IsExact j) : IsExact (.arr items)
  /-- An object is if its members are. -/
  | obj {members : List (String × Json)} (h : ∀ m ∈ members, IsExact m.2) : IsExact (.obj members)

/-! ### Reading inside of containers -/

mutual

/-- A value as it is read inside of a number of containers. -/
def capped (level : Nat) : Json → Json
  | .arr items => contained (level + 1) (.arr (cappedItems (level + 1) items))
  | .obj members => contained (level + 1) (.obj (cappedMembers (level + 1) members))
  | j => j

/-- The items of an array as they are read. -/
def cappedItems (level : Nat) : List Json → List Json
  | [] => []
  | j :: rest => capped level j :: cappedItems level rest

/-- The members of an object as they are read. -/
def cappedMembers (level : Nat) : List (String × Json) → List (String × Json)
  | [] => []
  | (k, j) :: rest => (k, capped level j) :: cappedMembers level rest

end

theorem cappedItems_eq_map (level : Nat) (items : List Json) :
    cappedItems level items = items.map (capped level) := by
  induction items with
  | nil => rfl
  | cons j items ih => rw [cappedItems, ih, List.map_cons]

theorem cappedMembers_eq_map (level : Nat) (members : List (String × Json)) :
    cappedMembers level members = members.map fun m => (m.1, capped level m.2) := by
  induction members with
  | nil => rfl
  | cons m members ih => rw [cappedMembers, ih, List.map_cons]

/-- A value that is not nested too deeply is read as it is. -/
theorem IsExact.capped_eq_self {j : Json} (exact : j.IsExact) {level : Nat}
    (h : j.depth ≤ maxDepth - level) : capped level j = j := by
  induction exact generalizing level with
  | @arr items _ ih =>
    obtain ⟨room, parts⟩ := depth_arr_le_iff.1 h
    have same : items.map (capped (level + 1)) = items.map fun j => j :=
      List.map_congr_left fun j hj => ih j hj (Nat.le_sub_one_of_lt (parts j hj))
    have fits : level + 1 ≤ maxDepth := Nat.lt_of_sub_pos room
    rw [capped, cappedItems_eq_map, contained, if_pos fits, same, List.map_id']
  | @obj members _ ih =>
    obtain ⟨room, parts⟩ := depth_obj_le_iff.1 h
    have same : (members.map fun m => (m.1, capped (level + 1) m.2)) = members.map fun m => m :=
      List.map_congr_left fun m hm =>
        congrArg (m.1, ·) (ih m hm (Nat.le_sub_one_of_lt (parts m hm)))
    have fits : level + 1 ≤ maxDepth := Nat.lt_of_sub_pos room
    rw [capped, cappedMembers_eq_map, contained, if_pos fits, same, List.map_id']
  | _ => rfl

/-- A value is read without an unreadable part if it is not nested too deeply. -/
theorem IsExact.isReadable_capped_iff {j : Json} (exact : j.IsExact) (level : Nat) :
    (capped level j).isReadable ↔ j.depth ≤ maxDepth - level := by
  induction exact generalizing level with
  | arr _ ih =>
    rw [capped, cappedItems_eq_map, isReadable_contained_iff, isReadable_arr_iff, List.forall_mem_map,
      depth_arr_le_iff]
    have fits : level + 1 ≤ maxDepth ↔ 0 < maxDepth - level := by omega
    rw [fits]
    refine and_congr_right fun room => forall₂_congr fun j hj => ?_
    rw [ih j hj]
    omega
  | obj _ ih =>
    rw [capped, cappedMembers_eq_map, isReadable_contained_iff, isReadable_obj_iff,
      List.forall_mem_map, depth_obj_le_iff]
    have fits : level + 1 ≤ maxDepth ↔ 0 < maxDepth - level := by omega
    rw [fits]
    refine and_congr_right fun room => forall₂_congr fun m hm => ?_
    rw [ih m hm]
    omega
  | _ => exact ⟨fun _ => Nat.zero_le _, fun _ => rfl⟩

end Mediatheque.Json
