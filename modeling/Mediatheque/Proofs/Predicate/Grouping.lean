import Mediatheque.Proofs.Predicate.Fields

/-!
# Joining keeps what it joins

Joined by `Predicate.and` or `Predicate.or`, predicates say together what they say one by one,
whatever they are: constants, or nodes with any number of operands. So it does not matter in which
groups they are joined, and how often groups are joined again (`holds_join_of_isGrouping`).

Joining rewrites no leaf and moves none. Either it comes to a constant, or the leaves are those that
the operands have, in the same order (`filter_leaves_join`), and so are the fields.
-/

namespace Mediatheque.Predicate

/-! ### What asks about a field -/

theorem filter_leaves_always (b : Bool) : (Predicate.always b).leaves.filter isLeaf = [] := by
  rw [leaves_always]
  rfl

/-- Constants ask about nothing. -/
theorem askedFields_eq_filter (p : Predicate) :
    p.askedFields = (p.leaves.filter isLeaf).filterMap leafField? := by
  rw [askedFields, List.filterMap_filter]
  congr 1
  funext q
  cases q <;> rfl

namespace Connective

variable {c : Connective} {l m : List Predicate}

/-! ### Groups -/

/-- The second list is the first one in groups: some operands that stand together are replaced by
one predicate, in which they are joined or are the operands of a node, after they were put in groups
themselves. -/
inductive IsGrouping (c : Connective) : List Predicate → List Predicate → Prop where
  /-- There are no operands. -/
  | nil : IsGrouping c [] []
  /-- The first operand stays by itself. -/
  | keep (p : Predicate) {l m : List Predicate} : IsGrouping c l m → IsGrouping c (p :: l) (p :: m)
  /-- The first operands are joined. -/
  | join {group parts l m : List Predicate} :
    IsGrouping c group parts → IsGrouping c l m → IsGrouping c (group ++ l) (c.join parts :: m)
  /-- The first operands are put into a node as they are. -/
  | node {group parts l m : List Predicate} :
    IsGrouping c group parts → IsGrouping c l m → IsGrouping c (group ++ l) (c.node parts :: m)

theorem IsGrouping.refl (c : Connective) : ∀ l : List Predicate, c.IsGrouping l l
  | [] => .nil
  | p :: l => .keep p (refl c l)

/-- Operands may be joined in two groups. -/
theorem isGrouping_pair (c : Connective) (l m : List Predicate) :
    c.IsGrouping (l ++ m) [c.join l, c.join m] := by
  have second : c.IsGrouping (m ++ []) [c.join m] := .join (.refl c m) .nil
  rw [List.append_nil] at second
  exact .join (.refl c l) second

theorem holds_node_of_isGrouping (h : c.IsGrouping l m) (r : MediaRecord) :
    (c.node m).holds r = (c.node l).holds r := by
  induction h with
  | nil => rfl
  | keep p _ rest => rw [holds_node_cons, holds_node_cons, rest]
  | join _ _ group rest => rw [holds_node_cons, holds_join, holds_node_append, group, rest]
  | node _ _ group rest => rw [holds_node_cons, holds_node_append, group, rest]

/-- In whatever groups predicates are joined, they hold of the same records. -/
theorem holds_join_of_isGrouping (h : c.IsGrouping l m) (r : MediaRecord) :
    (c.join m).holds r = (c.join l).holds r := by
  rw [holds_join, holds_join, holds_node_of_isGrouping h]

/-! ### Leaves -/

/-- What is taken over from an operand that does not decide has the leaves of the operand. -/
theorem filter_leaves_parts {p : Predicate} (hp : p ≠ .always c.deciding) :
    ((c.parts p).flatMap leaves).filter isLeaf = p.leaves.filter isLeaf := by
  rcases c.parts_cases p with decides | ⟨rfl, none⟩ | ⟨m, rfl, inner⟩ | ⟨-, -, self⟩
  · exact absurd decides hp
  · rw [none, filter_leaves_always]
    rfl
  · rw [inner, leaves_node]
  · rw [self, List.flatMap_singleton]

theorem filter_leaves_flatMap_parts (hl : .always c.deciding ∉ l) :
    ((l.flatMap c.parts).flatMap leaves).filter isLeaf = (c.node l).leaves.filter isLeaf := by
  rw [leaves_node]
  induction l with
  | nil => rfl
  | cons p l ih =>
    rw [List.mem_cons, not_or] at hl
    rw [List.flatMap_cons, List.flatMap_append, List.filter_append,
      filter_leaves_parts (Ne.symm hl.1), ih hl.2, List.flatMap_cons, List.filter_append]

/-- Joining comes to a constant, or keeps the leaves and their order. -/
theorem filter_leaves_join (c : Connective) (l : List Predicate) :
    (∃ b, c.join l = .always b) ∨
      (c.join l).leaves.filter isLeaf = (c.node l).leaves.filter isLeaf := by
  rcases c.join_cases l with constant | ⟨hl, hone | ⟨-, hnode⟩⟩
  · exact .inl constant
  · rw [← filter_leaves_flatMap_parts hl, hone, List.flatMap_singleton]
    exact .inr rfl
  · rw [← filter_leaves_flatMap_parts hl, hnode, leaves_node]
    exact .inr rfl

theorem sublist_leaves_join (c : Connective) (l : List Predicate) :
    ((c.join l).leaves.filter isLeaf).Sublist (c.node l).leaves := by
  rcases c.filter_leaves_join l with ⟨b, constant⟩ | same
  · rw [constant, filter_leaves_always]
    exact List.nil_sublist _
  · rw [same]
    exact List.filter_sublist

/-- Joining comes to a constant, which has no fields, or keeps the fields and their order. -/
theorem sublist_fields_join (c : Connective) (l : List Predicate) :
    (c.join l).fields.Sublist (c.node l).fields := by
  rcases c.filter_leaves_join l with ⟨b, constant⟩ | same
  · rw [constant, fields_eq_foldl, askedFields_always]
    exact List.nil_sublist _
  · rw [fields_eq_foldl, fields_eq_foldl, askedFields_eq_filter, askedFields_eq_filter, same]

end Connective

/-- **Joined predicates mean what they mean one by one**: a conjunction holds if all its operands
do, and a disjunction if some operand does, whatever the operands are. So predicates that are joined
in groups, and groups of groups, hold of the same records as if they were joined all at once.

Joining comes to the constant that decides if that is among the operands. Otherwise it takes over
from the operands, in order, what they are or have as operands, and makes a constant of nothing, and
a node of several predicates. It neither adds a leaf nor moves one, and the fields that are left are
reported in the order in which the plain node of the operands reports them. -/
theorem joining_keeps_meaning (l : List Predicate) :
    (∀ r, (Predicate.and l).holds r ↔ ∀ p ∈ l, p.holds r) ∧
    (∀ r, (Predicate.or l).holds r ↔ ∃ p ∈ l, p.holds r) ∧
    ∀ c : Connective,
      (∀ m, c.IsGrouping l m → ∀ r, (c.join m).holds r = (c.join l).holds r) ∧
      (∀ m r, (c.join [c.join l, c.join m]).holds r = (c.join (l ++ m)).holds r) ∧
      (.always c.deciding ∈ l ∧ c.join l = .always c.deciding ∨
        .always c.deciding ∉ l ∧
          (l.flatMap c.parts = [] ∧ c.join l = .always !c.deciding ∨
            l.flatMap c.parts = [c.join l] ∨
            2 ≤ (l.flatMap c.parts).length ∧ c.join l = c.node (l.flatMap c.parts))) ∧
      ((c.join l).leaves.filter isLeaf).Sublist (c.node l).leaves ∧
      (c.join l).fields.Sublist (c.node l).fields := by
  refine ⟨fun r => ?_, fun r => ?_, fun c => ⟨fun m h => ?_, fun m => ?_, ?_, ?_, ?_⟩⟩
  · rw [holds_and, List.all_eq_true]
  · rw [holds_or, List.any_eq_true]
  · exact Connective.holds_join_of_isGrouping h
  · exact Connective.holds_join_of_isGrouping (c.isGrouping_pair l m)
  · exact c.join_eq_cases l
  · exact c.sublist_leaves_join l
  · exact c.sublist_fields_join l

/-- Of four operands, with constants among them, two go into a node, one of them joined by itself,
and two are joined. -/
theorem joining_keeps_meaning_nested :
    let l : List Predicate := [.isMovie, .all [], .always true, .isUnknown .watched]
    let m : List Predicate :=
      [.all [.isMovie, .and [.all []]], .and [.always true, .isUnknown .watched]]
    let r := MediaRecord.blank ⟨⟨1⟩⟩ "Alien" .movie
      ⟨⟨2023, 1, 1, by decide, by decide⟩, 0, 0, by decide, by decide⟩
    Connective.conjunction.IsGrouping l m ∧
      (Connective.conjunction.join m).holds r = (Connective.conjunction.join l).holds r ∧
      (Connective.conjunction.join l).holds r = true := by
  intro l m r
  have grouping : Connective.conjunction.IsGrouping l m :=
    .node (.keep .isMovie (.join (.keep (.all []) .nil) .nil))
      (.join (.refl .conjunction [.always true, .isUnknown .watched]) .nil)
  exact ⟨grouping, ((joining_keeps_meaning l).2.2 .conjunction).1 m grouping r, rfl⟩

end Mediatheque.Predicate
