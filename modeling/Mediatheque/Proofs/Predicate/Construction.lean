import Mediatheque.Predicate.Evaluation

/-!
# Predicates as they are built

`Predicate.and` and `Predicate.or` simplify on the way, and mean what the plain connectives mean
(`holds_join`). They look only one level into their operands. This is enough: joined by one of them,
reduced predicates give a reduced one (`isReduced_join`), and so a predicate that is built from
constants and leaves by these two alone is reduced (`IsMadeOf.isReduced`).

What is said of the two here is said of both at once, and rests on what each operand contributes
(`parts_cases`), on what joining can come to (`join_eq_cases`) and on where the operands of the
result come from (`isFrom_of_mem_parts`).
-/

namespace Mediatheque.Predicate

/-! ### Leaves -/

/-- Whether a predicate asks about a field. -/
def isLeaf : Predicate → Bool
  | .equals .. | .oneOf .. | .within .. => true
  | .all _ | .any _ | .always _ => false

/-- The field that a leaf asks about. -/
def leafField? : Predicate → Option Field
  | .equals f _ | .oneOf f _ | .within f .. => some f
  | .all _ | .any _ | .always _ => none

/-- A leaf sees nothing of a record but the value of its field. -/
theorem holds_leaf_congr {p : Predicate} (hp : p.isLeaf) {r r' : MediaRecord}
    (h : ∀ f, p.leafField? = some f → r.fieldValue f = r'.fieldValue f) : p.holds r = p.holds r' := by
  cases p with
  | equals f v => rw [holds, holds, h f rfl]
  | oneOf f values => rw [holds, holds, h f rfl]
  | within f lower upper lowerClosed upperClosed => rw [holds, holds, h f rfl]
  | all l => cases hp
  | any l => cases hp
  | always b => cases hp

mutual

/-- The leaves of a tree and the constants in it, from left to right. -/
def leaves : Predicate → List Predicate
  | .all operands => leavesOfAll operands
  | .any operands => leavesOfAll operands
  | p => [p]

/-- The leaves of several trees and the constants in them, from left to right. -/
def leavesOfAll : List Predicate → List Predicate
  | [] => []
  | p :: rest => leaves p ++ leavesOfAll rest

end

theorem leavesOfAll_eq_flatMap (l : List Predicate) : leavesOfAll l = l.flatMap leaves := by
  induction l with
  | nil => rfl
  | cons p l ih => rw [leavesOfAll, ih, List.flatMap_cons]

theorem leaves_of_isLeaf {p : Predicate} (h : p.isLeaf) : p.leaves = [p] := by
  cases p with
  | equals f v => rw [leaves] <;> simp
  | oneOf f values => rw [leaves] <;> simp
  | within f lower upper lowerClosed upperClosed => rw [leaves] <;> simp
  | all l => cases h
  | any l => cases h
  | always b => cases h

@[simp] theorem leaves_always (b : Bool) : (Predicate.always b).leaves = [.always b] := by
  rw [leaves] <;> simp

/-! ### Connectives -/

/-- The ways to join predicates. -/
inductive Connective where
  /-- All of them hold. -/
  | conjunction
  /-- Some of them holds. -/
  | disjunction

namespace Connective

/-- The node with the given operands. -/
def node : Connective → List Predicate → Predicate
  | .conjunction => .all
  | .disjunction => .any

/-- What is true of leaves and constants, and of a node if it is true of its operands, is true of
every tree. -/
@[elab_as_elim]
theorem tree_induction {P : Predicate → Prop} (leaf : ∀ p, p.isLeaf → P p)
    (constant : ∀ b, P (.always b)) (node : ∀ (c : Connective) (l), (∀ p ∈ l, P p) → P (c.node l))
    (p : Predicate) : P p :=
  @Predicate.rec P (fun l => ∀ p ∈ l, P p) (fun _ _ => leaf _ rfl) (fun _ _ => leaf _ rfl)
    (fun _ _ _ _ _ => leaf _ rfl) (node .conjunction) (node .disjunction) constant
    (fun _ h => nomatch h) (fun _ _ hp hl => List.forall_mem_cons.2 ⟨hp, hl⟩) p

/-- The predicates joined, and simplified on the way. -/
def join : Connective → List Predicate → Predicate
  | .conjunction => .and
  | .disjunction => .or

/-- What is left of operands when constants and nodes of the same connective are dissolved; none if
a constant decides. -/
def operands? : Connective → List Predicate → Option (List Predicate)
  | .conjunction => conjuncts?
  | .disjunction => disjuncts?

/-- A predicate is one of the given ones, neither constant nor a node of the connective, or it is
an operand of a node of the connective among them. -/
def IsFrom (c : Connective) (l : List Predicate) (q : Predicate) : Prop :=
  (q ∈ l ∧ (∀ b, q ≠ .always b) ∧ ∀ m, q ≠ c.node m) ∨ ∃ inner, c.node inner ∈ l ∧ q ∈ inner

/-- The constant that decides what joining comes to. -/
def deciding : Connective → Bool
  | .conjunction => false
  | .disjunction => true

/-- What joining takes over from an operand that does not decide: nothing from a constant, the
operands from a node of the same connective, and all else as it is. -/
def parts : Connective → Predicate → List Predicate
  | .conjunction, .always true => []
  | .disjunction, .always false => []
  | .conjunction, .all operands => operands
  | .disjunction, .any operands => operands
  | _, p => [p]

theorem operands?_cons_deciding (c : Connective) (l : List Predicate) :
    c.operands? (.always c.deciding :: l) = none := by
  cases c <;> rfl

theorem operands?_cons {c : Connective} {p : Predicate} (hp : p ≠ .always c.deciding)
    (l : List Predicate) : c.operands? (p :: l) = (c.operands? l).map (c.parts p ++ ·) := by
  have unchanged : (c.operands? l).map ([] ++ ·) = c.operands? l := Option.map_id'
  cases c with
  | conjunction =>
    cases p with
    | always b =>
      cases b with
      | true => exact unchanged.symm
      | false => exact absurd rfl hp
    | _ => rfl
  | disjunction =>
    cases p with
    | always b =>
      cases b with
      | true => exact absurd rfl hp
      | false => exact unchanged.symm
    | _ => rfl

/-- Unless an operand decides, what is left of operands is what is taken over from each of them, in
order. -/
theorem operands?_eq_some_iff {c : Connective} {l operands : List Predicate} :
    c.operands? l = some operands ↔ .always c.deciding ∉ l ∧ l.flatMap c.parts = operands := by
  induction l generalizing operands with
  | nil => cases c <;> simp [operands?, conjuncts?, disjuncts?]
  | cons p l ih =>
    by_cases hp : p = .always c.deciding
    · subst hp
      simp [operands?_cons_deciding]
    · rw [operands?_cons hp, Option.map_eq_some_iff, List.mem_cons, not_or, List.flatMap_cons]
      constructor
      · rintro ⟨more, hmore, rfl⟩
        obtain ⟨hl, rfl⟩ := ih.1 hmore
        exact ⟨⟨Ne.symm hp, hl⟩, rfl⟩
      · rintro ⟨⟨-, hl⟩, rfl⟩
        exact ⟨_, ih.2 ⟨hl, rfl⟩, rfl⟩

/-- An operand is the deciding constant or the other one, of which nothing is taken over, or a node
of the connective, whose operands are, or it is taken over itself. -/
theorem parts_cases (c : Connective) (p : Predicate) :
    p = .always c.deciding ∨ (p = .always !c.deciding ∧ c.parts p = []) ∨
      (∃ m, p = c.node m ∧ c.parts p = m) ∨
      ((∀ b, p ≠ .always b) ∧ (∀ m, p ≠ c.node m) ∧ c.parts p = [p]) := by
  cases c with
  | conjunction =>
    cases p with
    | always b =>
      cases b with
      | true => exact .inr (.inl ⟨rfl, rfl⟩)
      | false => exact .inl rfl
    | all m => exact .inr (.inr (.inl ⟨m, rfl, rfl⟩))
    | _ => exact .inr (.inr (.inr ⟨nofun, nofun, rfl⟩))
  | disjunction =>
    cases p with
    | always b =>
      cases b with
      | true => exact .inl rfl
      | false => exact .inr (.inl ⟨rfl, rfl⟩)
    | any m => exact .inr (.inr (.inl ⟨m, rfl, rfl⟩))
    | _ => exact .inr (.inr (.inr ⟨nofun, nofun, rfl⟩))

/-- What is left of operands comes from them. -/
theorem isFrom_of_mem_parts {c : Connective} {l : List Predicate} {q : Predicate}
    (hl : .always c.deciding ∉ l) (hq : q ∈ l.flatMap c.parts) : c.IsFrom l q := by
  obtain ⟨p, hp, hq⟩ := List.mem_flatMap.1 hq
  rcases c.parts_cases p with rfl | ⟨rfl, none⟩ | ⟨m, rfl, inner⟩ | ⟨constant, node, self⟩
  · exact absurd hp hl
  · rw [none] at hq
    cases hq
  · exact .inr ⟨m, hp, inner ▸ hq⟩
  · rw [self, List.mem_singleton] at hq
    exact .inl (hq ▸ ⟨hp, constant, node⟩)

theorem join_eq_match (c : Connective) (l : List Predicate) :
    c.join l = match c.operands? l with
      | none => .always c.deciding
      | some [] => .always !c.deciding
      | some [p] => p
      | some operands => c.node operands := by
  cases c <;> rfl

/-- Predicates joined are the deciding constant if it is among them. Otherwise they are the other
constant, or the one operand that is left of them, or a node with the operands that are left. -/
theorem join_eq_cases (c : Connective) (l : List Predicate) :
    (.always c.deciding ∈ l ∧ c.join l = .always c.deciding) ∨
    .always c.deciding ∉ l ∧
      (l.flatMap c.parts = [] ∧ c.join l = .always !c.deciding ∨
        l.flatMap c.parts = [c.join l] ∨
        2 ≤ (l.flatMap c.parts).length ∧ c.join l = c.node (l.flatMap c.parts)) := by
  rw [join_eq_match]
  cases h : c.operands? l with
  | none =>
    refine .inl ⟨Classical.byContradiction fun hl => ?_, rfl⟩
    rw [operands?_eq_some_iff.2 ⟨hl, rfl⟩] at h
    cases h
  | some operands =>
    obtain ⟨hl, rfl⟩ := operands?_eq_some_iff.1 h
    refine .inr ⟨hl, ?_⟩
    rcases l.flatMap c.parts with _ | ⟨p, _ | ⟨q, rest⟩⟩
    · exact .inl ⟨rfl, rfl⟩
    · exact .inr (.inl rfl)
    · exact .inr (.inr ⟨by simp, rfl⟩)

/-- Predicates joined are a constant, or the one operand that is left of them, or a node with the
operands that are left. -/
theorem join_cases (c : Connective) (l : List Predicate) :
    (∃ b, c.join l = .always b) ∨ .always c.deciding ∉ l ∧
      (l.flatMap c.parts = [c.join l] ∨
        2 ≤ (l.flatMap c.parts).length ∧ c.join l = c.node (l.flatMap c.parts)) := by
  rcases c.join_eq_cases l with ⟨-, constant⟩ | ⟨hl, ⟨-, constant⟩ | left⟩
  · exact .inl ⟨_, constant⟩
  · exact .inl ⟨_, constant⟩
  · exact .inr ⟨hl, left⟩

/-- What two parts of the operands say together. -/
def both : Connective → Bool → Bool → Bool
  | .conjunction => Bool.and
  | .disjunction => Bool.or

theorem holds_node_nil (c : Connective) (r : MediaRecord) : (c.node []).holds r = !c.deciding := by
  cases c <;> simp [node, deciding]

theorem holds_node_cons (c : Connective) (r : MediaRecord) (p : Predicate) (l : List Predicate) :
    (c.node (p :: l)).holds r = c.both (p.holds r) ((c.node l).holds r) := by
  cases c with
  | conjunction => simp only [node, both, holds_all, List.all_cons]
  | disjunction => simp only [node, both, holds_any, List.any_cons]

theorem holds_node_append (c : Connective) (r : MediaRecord) (l m : List Predicate) :
    (c.node (l ++ m)).holds r = c.both ((c.node l).holds r) ((c.node m).holds r) := by
  cases c with
  | conjunction => simp only [node, both, holds_all, List.all_append]
  | disjunction => simp only [node, both, holds_any, List.any_append]

theorem holds_node_singleton (c : Connective) (r : MediaRecord) (p : Predicate) :
    (c.node [p]).holds r = p.holds r := by
  cases c <;> simp [node]

theorem holds_node_of_deciding_mem {c : Connective} {l : List Predicate}
    (hl : .always c.deciding ∈ l) (r : MediaRecord) : (c.node l).holds r = c.deciding := by
  cases c with
  | conjunction =>
    rw [node, holds_all]
    exact List.all_eq_false.2 ⟨_, hl, by simp [deciding]⟩
  | disjunction =>
    rw [node, holds_any]
    exact List.any_eq_true.2 ⟨_, hl, by simp [deciding]⟩

/-- What is taken over from an operand that does not decide says what the operand says. -/
theorem holds_node_parts {c : Connective} {p : Predicate} (hp : p ≠ .always c.deciding)
    (r : MediaRecord) : (c.node (c.parts p)).holds r = p.holds r := by
  rcases c.parts_cases p with decides | ⟨rfl, none⟩ | ⟨m, rfl, inner⟩ | ⟨-, -, self⟩
  · exact absurd decides hp
  · rw [none, holds_node_nil, holds_always]
  · rw [inner]
  · rw [self, holds_node_singleton]

theorem holds_node_flatMap_parts {c : Connective} {l : List Predicate}
    (hl : .always c.deciding ∉ l) (r : MediaRecord) :
    (c.node (l.flatMap c.parts)).holds r = (c.node l).holds r := by
  induction l with
  | nil => rfl
  | cons p l ih =>
    rw [List.mem_cons, not_or] at hl
    rw [List.flatMap_cons, holds_node_append, holds_node_parts (Ne.symm hl.1), ih hl.2,
      holds_node_cons]

/-- A record meets a node of operands as it meets what joining them comes to. -/
theorem holds_join (c : Connective) (r : MediaRecord) (l : List Predicate) :
    (c.join l).holds r = (c.node l).holds r := by
  rcases c.join_eq_cases l with ⟨hl, constant⟩ | ⟨hl, ⟨hnil, constant⟩ | hone | ⟨-, hnode⟩⟩
  · rw [constant, holds_always, holds_node_of_deciding_mem hl]
  · rw [← holds_node_flatMap_parts hl, hnil, holds_node_nil, constant, holds_always]
  · rw [← holds_node_flatMap_parts hl, hone, holds_node_singleton]
  · rw [← holds_node_flatMap_parts hl, hnode]

theorem holds_node_congr (c : Connective) {r r' : MediaRecord} {l : List Predicate}
    (h : ∀ p ∈ l, p.holds r = p.holds r') : (c.node l).holds r = (c.node l).holds r' := by
  cases c with
  | conjunction =>
    rw [node, holds_all, holds_all, Bool.eq_iff_iff, List.all_eq_true, List.all_eq_true]
    exact forall₂_congr fun p hp => by rw [h p hp]
  | disjunction =>
    rw [node, holds_any, holds_any, Bool.eq_iff_iff, List.any_eq_true, List.any_eq_true]
    exact exists_congr fun p => and_congr_right fun hp => by rw [h p hp]

theorem leaves_node (c : Connective) (l : List Predicate) :
    (c.node l).leaves = l.flatMap leaves := by
  cases c with
  | conjunction => rw [node, leaves, leavesOfAll_eq_flatMap]
  | disjunction => rw [node, leaves, leavesOfAll_eq_flatMap]

@[simp] theorem mem_leaves_node {c : Connective} {q : Predicate} {l : List Predicate} :
    q ∈ (c.node l).leaves ↔ ∃ p ∈ l, q ∈ p.leaves := by
  rw [leaves_node, List.mem_flatMap]

/-- Joining adds nothing but constants. -/
theorem mem_leaves_of_join {c : Connective} {l : List Predicate} {q : Predicate}
    (hq : q ∈ (c.join l).leaves) : (∃ b, q = .always b) ∨ ∃ p ∈ l, q ∈ p.leaves := by
  have origin : ∀ {p : Predicate}, c.IsFrom l p → q ∈ p.leaves → ∃ p ∈ l, q ∈ p.leaves := by
    rintro p (⟨hp, -⟩ | ⟨inner, hinner, hp⟩) hq
    · exact ⟨p, hp, hq⟩
    · exact ⟨_, hinner, mem_leaves_node.2 ⟨p, hp, hq⟩⟩
  rcases c.join_cases l with ⟨b, hb⟩ | ⟨hl, hone | ⟨-, hnode⟩⟩
  · rw [hb, leaves_always, List.mem_singleton] at hq
    exact .inl ⟨b, hq⟩
  · exact .inr (origin (isFrom_of_mem_parts hl (hone ▸ List.mem_cons_self)) hq)
  · rw [hnode, mem_leaves_node] at hq
    obtain ⟨p, hp, hq⟩ := hq
    exact .inr (origin (isFrom_of_mem_parts hl hp) hq)

end Connective

/-- A conjunction holds if all of its operands do. -/
@[simp] theorem holds_and (r : MediaRecord) (l : List Predicate) :
    (Predicate.and l).holds r = l.all (holds r) :=
  (Connective.conjunction.holds_join r l).trans (holds_all r l)

/-- A disjunction holds if some of its operands does. -/
@[simp] theorem holds_or (r : MediaRecord) (l : List Predicate) :
    (Predicate.or l).holds r = l.any (holds r) :=
  (Connective.disjunction.holds_join r l).trans (holds_any r l)

/-! ### Reduced predicates -/

/-- There is no constant in the tree, and every node has at least two operands, none of which is
a node of the same connective. -/
inductive IsFlat : Predicate → Prop where
  /-- Leaves are. -/
  | leaf {p : Predicate} (h : p.isLeaf) : IsFlat p
  /-- A node is, if its operands are, and are at least two, and of other kinds. -/
  | node (c : Connective) {l : List Predicate} (two : 2 ≤ l.length) (flat : ∀ p ∈ l, IsFlat p)
    (alternating : ∀ p ∈ l, ∀ m, p ≠ c.node m) : IsFlat (c.node l)

/-- Constants stand at the root only, every node below has at least two operands, and none of them
is a node of the same connective. -/
def IsReduced (p : Predicate) : Prop := (∃ b, p = .always b) ∨ p.IsFlat

/-- The operands of a flat node are flat, and none of them is a node of the same connective. -/
theorem IsFlat.of_node {c : Connective} {l : List Predicate} (h : (c.node l).IsFlat)
    {q : Predicate} (hq : q ∈ l) : q.IsFlat ∧ ∀ m, q ≠ c.node m := by
  generalize hp : c.node l = p at h
  cases h with
  | leaf h => cases c <;> (rw [← hp] at h; cases h)
  | node c' _ flat alternating =>
    cases c <;> cases c' <;> cases hp <;> exact ⟨flat q hq, alternating q hq⟩

/-- Of reduced predicates what is left to be joined is flat, and of other kinds. -/
theorem Connective.IsFrom.isFlat {c : Connective} {l : List Predicate} {q : Predicate}
    (h : c.IsFrom l q) (hl : ∀ p ∈ l, p.IsReduced) : q.IsFlat ∧ ∀ m, q ≠ c.node m := by
  rcases h with ⟨hmem, hconstant, hkind⟩ | ⟨inner, hmem, hinner⟩
  · rcases hl q hmem with ⟨b, hb⟩ | hflat
    · exact absurd hb (hconstant b)
    · exact ⟨hflat, hkind⟩
  · rcases hl _ hmem with ⟨b, hb⟩ | hflat
    · cases c <;> cases hb
    · exact hflat.of_node hinner

/-- Reduced predicates joined give a reduced one. -/
theorem isReduced_join (c : Connective) {l : List Predicate} (hl : ∀ p ∈ l, p.IsReduced) :
    (c.join l).IsReduced := by
  rcases c.join_cases l with hconstant | ⟨hnot, hone | ⟨htwo, hnode⟩⟩
  · exact .inl hconstant
  · have left := Connective.isFrom_of_mem_parts hnot (hone ▸ List.mem_cons_self)
    exact .inr (left.isFlat hl).1
  · have left := fun q hq => (Connective.isFrom_of_mem_parts (q := q) hnot hq).isFlat hl
    rw [hnode]
    exact .inr (.node c htwo (fun q hq => (left q hq).1) fun q hq => (left q hq).2)

/-! ### Building -/

/-- The predicate is built by joining, from constants and from leaves of a certain kind. -/
inductive IsMadeOf (kind : Predicate → Prop) : Predicate → Prop where
  /-- Constants are. -/
  | always (b : Bool) : IsMadeOf kind (.always b)
  /-- Leaves of the kind are. -/
  | leaf {p : Predicate} (h : p.isLeaf) (hp : kind p) : IsMadeOf kind p
  /-- What is built can be joined. -/
  | join (c : Connective) {l : List Predicate} (h : ∀ p ∈ l, IsMadeOf kind p) :
    IsMadeOf kind (c.join l)

namespace IsMadeOf

variable {kind : Predicate → Prop} {p : Predicate}

/-- **What is built by joining alone is reduced.** -/
theorem isReduced (h : p.IsMadeOf kind) : p.IsReduced := by
  induction h with
  | always b => exact .inl ⟨b, rfl⟩
  | leaf h _ => exact .inr (.leaf h)
  | join c _ ih => exact isReduced_join c ih

/-- Its leaves are of the kind that it is built from. -/
theorem of_mem_leaves (h : p.IsMadeOf kind) {q : Predicate} (hq : q ∈ p.leaves) :
    (∃ b, q = .always b) ∨ kind q := by
  induction h with
  | always b => exact .inl ⟨b, by simpa using hq⟩
  | leaf h hp =>
    rw [leaves_of_isLeaf h, List.mem_singleton] at hq
    exact .inr (hq ▸ hp)
  | join c _ ih =>
    rcases Connective.mem_leaves_of_join hq with hconstant | ⟨p, hp, hq⟩
    · exact .inl hconstant
    · exact ih p hp hq

/-- Records that its leaves do not tell apart are not told apart by the predicate. -/
theorem holds_congr (h : p.IsMadeOf kind) {r r' : MediaRecord}
    (hkind : ∀ q, kind q → q.holds r = q.holds r') : p.holds r = p.holds r' := by
  induction h with
  | always b => rw [holds_always, holds_always]
  | leaf _ hp => exact hkind _ hp
  | join c _ ih => rw [c.holds_join, c.holds_join, c.holds_node_congr ih]

end IsMadeOf

/-- The predicate is built in the same way, with joins at most so often inside each other. -/
inductive IsMadeIn (kind : Predicate → Prop) : Nat → Predicate → Prop where
  /-- Constants are, without any join. -/
  | always (n : Nat) (b : Bool) : IsMadeIn kind n (.always b)
  /-- Leaves of the kind are, without any join. -/
  | leaf (n : Nat) {p : Predicate} (h : p.isLeaf) (hp : kind p) : IsMadeIn kind n p
  /-- One join more is needed to join what is built. -/
  | join (c : Connective) {n : Nat} {l : List Predicate} (h : ∀ p ∈ l, IsMadeIn kind n p) :
    IsMadeIn kind (n + 1) (c.join l)

namespace IsMadeIn

variable {kind : Predicate → Prop} {n : Nat} {p q : Predicate}

theorem isMadeOf (h : p.IsMadeIn kind n) : p.IsMadeOf kind := by
  induction h with
  | always _ b => exact .always b
  | leaf _ h hp => exact .leaf h hp
  | join c _ ih => exact .join c ih

/-- The conjunction of two built predicates. -/
theorem and_pair (hp : p.IsMadeIn kind n) (hq : q.IsMadeIn kind n) :
    (Predicate.and [p, q]).IsMadeIn kind (n + 1) :=
  .join .conjunction (by simp [hp, hq])

/-- The disjunction of two built predicates. -/
theorem or_pair (hp : p.IsMadeIn kind n) (hq : q.IsMadeIn kind n) :
    (Predicate.or [p, q]).IsMadeIn kind (n + 1) :=
  .join .disjunction (by simp [hp, hq])

end IsMadeIn

end Mediatheque.Predicate
