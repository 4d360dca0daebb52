import Mediatheque.Proofs.Predicate.Construction
import Mathlib.Data.List.Basic

/-!
# The fields of a predicate

A predicate reports the fields of its leaves, each once and the one asked about first in front
(`inFirstOrder_fields`): to ask about one more field keeps that order (`InFirstOrder.addOnce`), and
the leaves of a tree ask one after the other (`fieldsAfter_eq_foldl`). All leaves count, also those
that a constant beside them makes idle. Other fields of a record are not seen
(`holds_congr_askedFields`).
-/

namespace Mediatheque.Predicate

variable {p : Predicate} {f : Field}

/-! ### Fields of leaves -/

/-- The fields that the leaves ask about from left to right, as often as they do. -/
def askedFields (p : Predicate) : List Field := p.leaves.filterMap leafField?

theorem mem_askedFields : f ∈ p.askedFields ↔ ∃ q ∈ p.leaves, q.leafField? = some f :=
  List.mem_filterMap

@[simp] theorem askedFields_always (b : Bool) : (Predicate.always b).askedFields = [] := by
  rw [askedFields, leaves_always]
  rfl

theorem askedFields_node (c : Connective) (l : List Predicate) :
    (c.node l).askedFields = l.flatMap askedFields := by
  rw [askedFields, c.leaves_node, List.filterMap_flatMap]
  rfl

/-- A predicate sees nothing of a record but the fields that its leaves ask about. -/
theorem holds_congr_askedFields {r r' : MediaRecord}
    (h : ∀ f ∈ p.askedFields, r.fieldValue f = r'.fieldValue f) : p.holds r = p.holds r' := by
  induction p using Connective.tree_induction with
  | leaf p hp =>
    refine holds_leaf_congr hp fun f hf => h f (mem_askedFields.2 ⟨p, ?_, hf⟩)
    rw [leaves_of_isLeaf hp]
    exact List.mem_cons_self
  | constant b => rw [holds_always, holds_always]
  | node c l ih =>
    refine c.holds_node_congr fun p hp => ih p hp fun f hf => h f ?_
    rw [askedFields_node]
    exact List.mem_flatMap.2 ⟨p, hp, hf⟩

/-! ### Each field once -/

/-- The fields are those that are asked about, in the order in which they first are. -/
structure InFirstOrder (fields asked : List Field) : Prop where
  /-- The fields are the same. -/
  mem_iff : ∀ f, f ∈ fields ↔ f ∈ asked
  /-- A field stands before those that are first asked about after it. -/
  pairwise : fields.Pairwise fun f g => asked.idxOf f < asked.idxOf g

namespace InFirstOrder

variable {fields asked : List Field}

theorem nil : InFirstOrder [] [] := ⟨fun _ => .rfl, .nil⟩

/-- No field stands before itself. -/
theorem nodup (h : InFirstOrder fields asked) : fields.Nodup :=
  h.pairwise.imp fun before same => Nat.ne_of_lt before (congrArg asked.idxOf same)

/-- One more field is asked about. -/
theorem addOnce (h : InFirstOrder fields asked) (f : Field) :
    InFirstOrder (addOnce fields f) (asked ++ [f]) := by
  -- what was asked about before is still first asked about at the same place
  have place : ∀ g ∈ fields, (asked ++ [f]).idxOf g = asked.idxOf g := fun g hg => by
    rw [List.idxOf_append, if_pos ((h.mem_iff g).1 hg)]
  have pairwise : fields.Pairwise fun g g' => (asked ++ [f]).idxOf g < (asked ++ [f]).idxOf g' :=
    h.pairwise.imp_of_mem fun hg hg' before => by rwa [place _ hg, place _ hg']
  unfold Predicate.addOnce
  split
  · next seen =>
    refine ⟨fun g => ?_, pairwise⟩
    rw [List.mem_append, List.mem_singleton, h.mem_iff, or_iff_left_of_imp]
    rintro rfl
    exact (h.mem_iff g).1 seen
  · next unseen =>
    refine ⟨fun g => ?_, ?_⟩
    · rw [List.mem_append, List.mem_append, h.mem_iff]
    · refine List.pairwise_append.2 ⟨pairwise, List.pairwise_singleton _ _, fun g hg g' hg' => ?_⟩
      obtain rfl := List.mem_singleton.1 hg'
      rw [place g hg, List.idxOf_append, if_neg (mt (h.mem_iff g').2 unseen)]
      exact Nat.lt_add_left _ (List.idxOf_lt_length_of_mem ((h.mem_iff g).1 hg))

/-- More fields are asked about, one after the other. -/
theorem foldl_addOnce (h : InFirstOrder fields asked) (more : List Field) :
    InFirstOrder (more.foldl Predicate.addOnce fields) (asked ++ more) := by
  induction more generalizing fields asked with
  | nil => rwa [List.append_nil]
  | cons f more ih =>
    have next := ih (h.addOnce f)
    rwa [List.append_assoc] at next

end InFirstOrder

/-! ### Reported fields -/

theorem fieldsOfAllAfter_eq_foldl (seen : List Field) (l : List Predicate) :
    fieldsOfAllAfter seen l = l.foldl fieldsAfter seen := by
  induction l generalizing seen with
  | nil => rfl
  | cons p l ih => rw [fieldsOfAllAfter, ih, List.foldl_cons]

theorem fieldsAfter_node (c : Connective) (seen : List Field) (l : List Predicate) :
    (c.node l).fieldsAfter seen = l.foldl fieldsAfter seen := by
  cases c with
  | conjunction => rw [Connective.node, fieldsAfter, fieldsOfAllAfter_eq_foldl]
  | disjunction => rw [Connective.node, fieldsAfter, fieldsOfAllAfter_eq_foldl]

theorem fieldsAfter_leaf (hp : p.isLeaf) (seen : List Field) :
    p.fieldsAfter seen = p.askedFields.foldl addOnce seen := by
  rw [askedFields, leaves_of_isLeaf hp]
  cases p with
  | equals f v => rfl
  | oneOf f values => rfl
  | within f lower upper lowerClosed upperClosed => rfl
  | all l => cases hp
  | any l => cases hp
  | always b => cases hp

/-- The fields of a tree are collected from leaf to leaf. -/
theorem fieldsAfter_eq_foldl (p : Predicate) (seen : List Field) :
    p.fieldsAfter seen = p.askedFields.foldl addOnce seen := by
  induction p using Connective.tree_induction generalizing seen with
  | leaf p hp => exact fieldsAfter_leaf hp seen
  | constant b => rw [askedFields_always, fieldsAfter, List.foldl_nil]
  | node c l ih =>
    rw [fieldsAfter_node, askedFields_node, List.foldl_flatMap]
    exact List.foldl_ext _ _ _ fun seen p hp => ih p hp seen

theorem fields_eq_foldl (p : Predicate) : p.fields = p.askedFields.foldl addOnce [] :=
  p.fieldsAfter_eq_foldl []

theorem inFirstOrder_fields (p : Predicate) : InFirstOrder p.fields p.askedFields := by
  rw [fields_eq_foldl]
  exact InFirstOrder.nil.foldl_addOnce p.askedFields

/-- **A predicate sees just the fields that it reports**: records that agree in them are not told
apart. What it reports are the fields of its leaves, of all of them, each field once and in the
order in which the leaves first ask about it from left to right. -/
theorem sees_reported_fields (p : Predicate) :
    (∀ r r' : MediaRecord,
      (∀ f ∈ p.fields, r.fieldValue f = r'.fieldValue f) → p.holds r = p.holds r') ∧
    p.fields.Nodup ∧
    (∀ f, f ∈ p.fields ↔ ∃ q ∈ p.leaves, q.leafField? = some f) ∧
    p.fields.Pairwise fun f g => p.askedFields.idxOf f < p.askedFields.idxOf g := by
  have first := p.inFirstOrder_fields
  refine ⟨fun r r' h => ?_, first.nodup, fun f => ?_, first.pairwise⟩
  · exact holds_congr_askedFields fun f hf => h f ((first.mem_iff f).2 hf)
  · rw [first.mem_iff, mem_askedFields]

/-- The rating is reported although the constant beside it decides. Two movies with different
titles, one of them watched, are not told apart. -/
theorem sees_reported_fields_idle :
    let p : Predicate :=
      .any [.all [.always false, .isUnknown .rating], .isMovie, .isUnknown .rating]
    let createdAt : Instant := ⟨⟨2023, 1, 1, by decide, by decide⟩, 0, 0, by decide, by decide⟩
    let r := MediaRecord.blank ⟨⟨1⟩⟩ "Alien" .movie createdAt
    let r' := { MediaRecord.blank ⟨⟨2⟩⟩ "Stalker" .movie createdAt with watched := some true }
    p.fields = [.rating, .kind] ∧ r ≠ r' ∧
      (∀ f ∈ p.fields, r.fieldValue f = r'.fieldValue f) ∧ p.holds r = p.holds r' := by
  intro p createdAt r r'
  have fields : p.fields = [.rating, .kind] := rfl
  have same : ∀ f ∈ p.fields, r.fieldValue f = r'.fieldValue f := by
    rw [fields]
    exact List.forall_mem_cons.2 ⟨rfl, List.forall_mem_singleton.2 rfl⟩
  exact ⟨fields, fun h => absurd (congrArg MediaRecord.title h) (by decide), same,
    p.sees_reported_fields.1 r r' same⟩

end Mediatheque.Predicate
