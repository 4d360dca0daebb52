import Mediatheque.Proofs.Predicate.Literals
import Mediatheque.Proofs.Predicate.ValueText
import Mediatheque.Proofs.Sql.Binding

/-!
# Faults

A predicate cannot be sent to a database if one of its literals cannot be bound: a missing value
as a bound, or a set that has the missing value or values of several kinds in it. Nothing else
stands in the way, wherever in the tree it is and whatever the fields are, and what is told are the
words for the first such literal from left to right (`fails_with_first_fault`), which tell the
reason and the value at fault (`Fault.message_injective`). In a set the missing value is the least
one (`eq_null_of_null_mem`), so it is met before values of other kinds.
-/

namespace Mediatheque

open Std

/-! ### The missing value comes first -/

namespace Value

/-- No value is less than the missing one. -/
theorem compare_null_ne_lt (v : Value) : compare v .null ≠ .lt := by
  cases v with
  | null => exact ne_of_eq_of_ne ReflCmp.compare_self (by decide)
  | bool b => exact nofun
  | int i => exact nofun
  | date d => exact nofun
  | text s => exact nofun
  | uuid u => exact nofun

/-- A value without a type is the missing one. -/
theorem dataType?_eq_none_iff {v : Value} : Sql.dataType? v = none ↔ v = .null := by
  cases v <;> simp [Sql.dataType?]

end Value

/-- The least value of a set with the missing value in it is the missing value. -/
theorem eq_null_of_null_mem {least : Value} {others : List Value}
    (increasing : (least :: others).Pairwise fun v w => compare v w = .lt)
    (h : .null ∈ least :: others) : least = .null := by
  rcases List.mem_cons.1 h with same | later
  · exact same.symm
  · exact absurd ((List.pairwise_cons.1 increasing).1 _ later) least.compare_null_ne_lt

/-! ### Literals that cannot be bound -/

namespace Literal

/-- The literal cannot be bound, for the given reason. -/
inductive HasFault : Literal → Sql.Fault → Prop where
  /-- A missing value. -/
  | nullLiteral : HasFault (.one .null) .nullLiteral
  /-- A set with the missing value in it, whatever else is in it. -/
  | nullInSet {values : List Value} : .null ∈ values → HasFault (.set values) .nullInSet
  /-- A set of values that are there but of several kinds; the first one that is not of the kind of
  the least one is told. -/
  | mixedSet {least v : Value} {same others : List Value} :
    .null ∉ least :: (same ++ v :: others) → (∀ w ∈ same, w.kind = least.kind) →
      v.kind ≠ least.kind → HasFault (.set (least :: (same ++ v :: others))) (.mixedSet v)

/-- The values of a set are in order. -/
def IsInOrder : Literal → Prop
  | .one _ => True
  | .set values => values.Pairwise fun v w => compare v w = .lt

end Literal

namespace Sql

/-- Why there is no result, if there is none. -/
def reason? {α : Type} : Except Fault α → Option Fault
  | .error fault => some fault
  | .ok _ => none

section Reason

variable {α β : Type} {x : Except Fault α} {fault : Fault}

@[simp] theorem reason?_eq_some_iff : reason? x = some fault ↔ x = .error fault := by
  cases x <;> simp [reason?]

@[simp] theorem reason?_map (f : α → β) : reason? (x.map f) = reason? x := by
  cases x <;> rfl

end Reason

/-- Why a literal cannot be bound, if it cannot. -/
def fault? : Literal → Option Fault
  | .one v => reason? (Parameter.ofValue v)
  | .set [] => none
  | .set (least :: others) => reason? (Parameter.ofValues least others)

namespace Parameter

variable {t : DataType} {fault : Fault}

theorem content?_eq_none_iff {v : Value} : t.content? v = none ↔ dataType? v ≠ some t := by
  cases t <;> cases v <;> simp [DataType.content?, dataType?]

/-- Values cannot be put into an array if one of them is of another type than the array, and the
first such value is told. -/
theorem contents_eq_error_iff {values : List Value} :
    contents t values = .error fault ↔ ∃ same v others, values = same ++ v :: others ∧
      (∀ w ∈ same, dataType? w = some t) ∧ dataType? v ≠ some t ∧ fault = .mixedSet v := by
  induction values with
  | nil =>
    refine ⟨nofun, ?_⟩
    rintro ⟨same, v, others, split, -⟩
    exact absurd split.symm (List.append_ne_nil_of_right_ne_nil _ (List.cons_ne_nil _ _))
  | cons w rest ih =>
    rw [contents]
    cases hw : t.content? w with
    | none =>
      have other : dataType? w ≠ some t := content?_eq_none_iff.1 hw
      constructor
      · intro h
        exact ⟨[], w, rest, rfl, List.forall_mem_nil _, other, (Except.error.inj h).symm⟩
      · rintro ⟨same, v, others, split, hsame, -, rfl⟩
        cases same with
        | nil => rw [(List.cons.inj split).1]
        | cons w' same =>
          rw [(List.cons.inj split).1] at other
          exact absurd (hsame w' List.mem_cons_self) other
    | some a =>
      have typed : dataType? w = some t := by
        rw [DataType.value_of_content? hw, DataType.dataType?_value]
      rw [← reason?_eq_some_iff, reason?_map, reason?_eq_some_iff, ih]
      constructor
      · rintro ⟨same, v, others, rfl, hsame, hv, rfl⟩
        exact ⟨w :: same, v, others, rfl, List.forall_mem_cons.2 ⟨typed, hsame⟩, hv, rfl⟩
      · rintro ⟨same, v, others, split, hsame, hv, rfl⟩
        cases same with
        | nil => exact absurd ((List.cons.inj split).1 ▸ typed) hv
        | cons w' same =>
          exact ⟨same, v, others, (List.cons.inj split).2,
            fun u hu => hsame u (List.mem_cons_of_mem _ hu), hv, rfl⟩

/-- A set cannot be bound if the missing value is in it or values of several kinds. -/
theorem ofValues_eq_error_iff {least : Value} {others : List Value}
    (increasing : (least :: others).Pairwise fun v w => compare v w = .lt) :
    ofValues least others = .error fault ↔ (Literal.set (least :: others)).HasFault fault := by
  rw [ofValues]
  cases ht : dataType? least with
  | none =>
    obtain rfl := Value.dataType?_eq_none_iff.1 ht
    constructor
    · intro h
      cases h
      exact .nullInSet List.mem_cons_self
    · intro h
      cases h with
      | nullInSet => rfl
      | mixedSet none => exact absurd List.mem_cons_self none
  | some t =>
    have known : .null ∉ least :: others := by
      intro h
      rw [eq_null_of_null_mem increasing h] at ht
      cases ht
    rw [← reason?_eq_some_iff, reason?_map, reason?_eq_some_iff, contents_eq_error_iff]
    constructor
    · rintro ⟨same, v, rest, split, hsame, hv, rfl⟩
      cases same with
      | nil => exact absurd ((List.cons.inj split).1 ▸ ht) hv
      | cons w same =>
        obtain ⟨rfl, rfl⟩ := List.cons.inj split
        refine .mixedSet known (fun u hu => ?_) fun h => hv ?_
        · rw [Field.kind_eq_iff, ht, hsame u (List.mem_cons_of_mem _ hu)]
        · rw [← ht, ← Field.kind_eq_iff, h]
    · intro h
      cases h with
      | nullInSet h => exact absurd h known
      | @mixedSet _ v same rest _ hsame hv =>
        refine ⟨least :: same, v, rest, rfl, List.forall_mem_cons.2 ⟨ht, fun w hw => ?_⟩, ?_, rfl⟩
        · rw [← ht, ← Field.kind_eq_iff, hsame w hw]
        · rwa [← ht, ne_eq, ← Field.kind_eq_iff]

end Parameter

/-- What is told of a literal that cannot be bound. -/
theorem fault?_eq_some_iff {x : Literal} (h : x.IsInOrder) {fault : Fault} :
    fault? x = some fault ↔ x.HasFault fault := by
  cases x with
  | one v =>
    rw [fault?, reason?_eq_some_iff]
    constructor
    · intro h
      cases v <;> cases h
      exact .nullLiteral
    · intro h
      cases h
      rfl
  | set values =>
    cases values with
    | nil =>
      refine ⟨nofun, fun h => ?_⟩
      cases h with
      | nullInSet h => cases h
    | cons least others => rw [fault?, reason?_eq_some_iff, Parameter.ofValues_eq_error_iff h]

/-! ### The first fault in a condition -/

namespace Condition

variable {f : Field}

theorem reason?_ofEquals (v : Value) :
    reason? (ofEquals f v) = (Predicate.equals f v).literals.findSome? fault? := by
  cases v <;> rfl

theorem reason?_ofOneOf (values : SortedSet Value) :
    reason? (ofOneOf f values.toList) = (Predicate.oneOf f values).literals.findSome? fault? := by
  rw [Predicate.literals, SortedBy.isEmpty]
  cases values.toList with
  | nil => rfl
  | cons least others => simp [ofOneOf, fault?]

theorem reason?_ofBound (a : Operand) (how : Comparison) (b : Option Value) :
    reason? (ofBound a how b) = (b.toList.map Literal.one).findSome? fault? := by
  cases b with
  | none => rfl
  | some v => simp [ofBound, fault?]

/-- The lower bound is met before the upper one. -/
theorem reason?_ofBounds (a : Operand) (lower upper : Option Value)
    (lowerClosed upperClosed : Bool) :
    reason? (ofBounds a lower upper lowerClosed upperClosed) =
      (lower.toList.map Literal.one ++ upper.toList.map Literal.one).findSome? fault? := by
  rw [List.findSome?_append, ← reason?_ofBound a (if lowerClosed then .ge else .gt),
    ← reason?_ofBound a (if upperClosed then .le else .lt), ofBounds]
  cases ofBound a (if lowerClosed then .ge else .gt) lower with
  | error fault => rfl
  | ok low =>
    cases ofBound a (if upperClosed then .le else .lt) upper with
    | error fault => rfl
    | ok high => rfl

theorem reason?_ofWithin (lower upper : Option Value) (lowerClosed upperClosed : Bool) :
    reason? (ofWithin f lower upper lowerClosed upperClosed) =
      (Predicate.within f lower upper lowerClosed upperClosed).literals.findSome? fault? := by
  rw [ofWithin, Predicate.literals]
  split
  · rw [reason?_map, reason?_ofBounds]
  · rw [reason?_map, reason?_ofBounds]

mutual

/-- The condition for a predicate fails with the first literal of it that cannot be bound. -/
theorem reason?_ofPredicate :
    ∀ p : Predicate, reason? (ofPredicate p) = p.literals.findSome? fault?
  | .equals f v => by rw [ofPredicate, reason?_ofEquals]
  | .oneOf f values => by rw [ofPredicate, reason?_ofOneOf]
  | .within f lower upper lowerClosed upperClosed => by rw [ofPredicate, reason?_ofWithin]
  | .all l => by rw [ofPredicate, reason?_map, reason?_ofPredicates l, Predicate.literals]
  | .any l => by rw [ofPredicate, reason?_map, reason?_ofPredicates l, Predicate.literals]
  | .always b => by rw [ofPredicate, Predicate.literals]; rfl

/-- The same of several predicates, of which the first one that fails decides. -/
theorem reason?_ofPredicates :
    ∀ l : List Predicate, reason? (ofPredicates l) = (Predicate.literalsOfAll l).findSome? fault?
  | [] => by rw [ofPredicates, Predicate.literalsOfAll]; rfl
  | p :: rest => by
    rw [Predicate.literalsOfAll, List.findSome?_append, ← reason?_ofPredicate p,
      ← reason?_ofPredicates rest, ofPredicates]
    cases ofPredicate p with
    | error fault => rfl
    | ok c => rw [reason?_map, reason?, Option.none_or]

end

end Condition

end Sql

/-! ### Literals in a tree -/

namespace Predicate

open Sql

theorem mem_literals_node {c : Connective} {l : List Predicate} {x : Literal} :
    x ∈ (c.node l).literals ↔ ∃ p ∈ l, x ∈ p.literals := by
  have several : x ∈ literalsOfAll l ↔ ∃ p ∈ l, x ∈ p.literals := by
    induction l with
    | nil => simp [literalsOfAll]
    | cons p l ih => simp [literalsOfAll, ih]
  cases c with
  | conjunction => rw [Connective.node, literals, several]
  | disjunction => rw [Connective.node, literals, several]

/-- The values of a set are in order. -/
theorem isInOrder_of_mem_literals {p : Predicate} {x : Literal} (hx : x ∈ p.literals) :
    x.IsInOrder := by
  induction p using Connective.tree_induction with
  | leaf p hp =>
    cases p with
    | equals f v =>
      rw [literals] at hx
      split at hx
      · cases hx
      · rw [List.mem_singleton.1 hx]
        trivial
    | oneOf f values =>
      rw [literals] at hx
      split at hx
      · cases hx
      · rw [List.mem_singleton.1 hx]
        exact values.increasing
    | within f lower upper lowerClosed upperClosed =>
      rw [literals, ← List.map_append] at hx
      obtain ⟨v, -, rfl⟩ := List.mem_map.1 hx
      trivial
    | all l => cases hp
    | any l => cases hp
    | always b => cases hp
  | constant b => cases hx
  | node c l ih =>
    obtain ⟨p, hp, hx⟩ := mem_literals_node.1 hx
    exact ih p hp hx

/-- Of a leaf: a bound is the missing value, or the values to choose from have the missing value
among them or are of several kinds. -/
def HasBadLiteral : Predicate → Prop
  | .equals _ _ => False
  | .oneOf _ values => .null ∈ values ∨ ∃ v ∈ values, ∃ w ∈ values, v.kind ≠ w.kind
  | .within _ lower upper _ _ => lower = some .null ∨ upper = some .null
  | .all _ | .any _ | .always _ => False

theorem hasFault_one_iff {v : Value} : (∃ fault, (Literal.one v).HasFault fault) ↔ v = .null := by
  constructor
  · rintro ⟨fault, h⟩
    cases h
    rfl
  · rintro rfl
    exact ⟨_, .nullLiteral⟩

theorem hasFault_set_iff {values : List Value} : (∃ fault, (Literal.set values).HasFault fault) ↔
    .null ∈ values ∨ ∃ v ∈ values, ∃ w ∈ values, v.kind ≠ w.kind := by
  constructor
  · rintro ⟨fault, h⟩
    cases h with
    | nullInSet h => exact .inl h
    | @mixedSet least v same others _ _ hv =>
      exact .inr ⟨v, by simp, least, List.mem_cons_self, hv⟩
  · intro h
    by_cases known : .null ∈ values
    · exact ⟨_, .nullInSet known⟩
    · obtain ⟨v, hv, w, hw, hkinds⟩ := h.resolve_left known
      cases values with
      | nil => cases hv
      | cons least others =>
        have differs : ∃ u ∈ others, u.kind ≠ least.kind := by
          by_contra! same
          have all : ∀ u ∈ least :: others, u.kind = least.kind :=
            List.forall_mem_cons.2 ⟨rfl, same⟩
          exact hkinds ((all v hv).trans (all w hw).symm)
        have found : (others.find? fun u => decide (u.kind ≠ least.kind)).isSome :=
          List.find?_isSome.2 (by simpa using differs)
        obtain ⟨u, hu⟩ := Option.isSome_iff_exists.1 found
        obtain ⟨hkind, same, rest, rfl, hsame⟩ := List.find?_eq_some_iff_append.1 hu
        exact ⟨_, .mixedSet known (by simpa using hsame) (by simpa using hkind)⟩

/-- A leaf has a literal that cannot be bound if it has a missing value out of place or values of
several kinds. -/
theorem exists_hasFault_iff {q : Predicate} (hq : q.isLeaf) :
    (∃ x ∈ q.literals, ∃ fault, x.HasFault fault) ↔ q.HasBadLiteral := by
  cases q with
  | equals f v =>
    rw [literals, HasBadLiteral, iff_false]
    rintro ⟨x, hx, fault, h⟩
    split at hx
    · cases hx
    · next known =>
      rw [List.mem_singleton.1 hx] at h
      exact known (beq_iff_eq.2 (hasFault_one_iff.1 ⟨fault, h⟩))
  | oneOf f values =>
    rw [literals, HasBadLiteral]
    split
    · next empty => rw [SortedBy.isEmpty_iff.1 empty]; simp
    · simp only [List.mem_singleton, exists_eq_left, hasFault_set_iff, SortedBy.mem_def]
  | within f lower upper lowerClosed upperClosed =>
    rw [literals, HasBadLiteral]
    cases lower <;> cases upper <;> simp [hasFault_one_iff, or_and_right, exists_or]
  | all l => cases hq
  | any l => cases hq
  | always b => cases hq

/-- A tree has a literal that cannot be bound if one of its leaves has. -/
theorem exists_hasFault_iff_leaves (p : Predicate) :
    (∃ x ∈ p.literals, ∃ fault, x.HasFault fault) ↔ ∃ q ∈ p.leaves, q.HasBadLiteral := by
  induction p using Connective.tree_induction with
  | leaf p hp => simp only [exists_hasFault_iff hp, leaves_of_isLeaf hp, List.mem_singleton,
      exists_eq_left]
  | constant b => simp [literals, HasBadLiteral]
  | node c l ih =>
    constructor
    · rintro ⟨x, hx, fault⟩
      obtain ⟨p, hp, hx⟩ := mem_literals_node.1 hx
      obtain ⟨q, hq, bad⟩ := (ih p hp).1 ⟨x, hx, fault⟩
      exact ⟨q, Connective.mem_leaves_node.2 ⟨p, hp, hq⟩, bad⟩
    · rintro ⟨q, hq, bad⟩
      obtain ⟨p, hp, hq⟩ := Connective.mem_leaves_node.1 hq
      obtain ⟨x, hx, fault⟩ := (ih p hp).2 ⟨q, hq, bad⟩
      exact ⟨x, mem_literals_node.2 ⟨p, hp, hx⟩, fault⟩

end Predicate

/-! ### What is told -/

/-- What is told of a literal that cannot be bound. -/
inductive Literal.IsToldAs : Literal → String → Prop where
  /-- Of a missing value, where it stands. -/
  | nullLiteral : IsToldAs (.one .null) "null literal outside an IS NULL check"
  /-- Of a set with the missing value in it, just that, whatever else is in it. -/
  | nullInSet {values : List Value} :
    .null ∈ values → IsToldAs (.set values) "null inside a set literal"
  /-- Of a set of several kinds, what the first value shows that is not of the kind of the least. -/
  | mixedSet {least v : Value} {same others : List Value} :
    .null ∉ least :: (same ++ v :: others) → (∀ w ∈ same, w.kind = least.kind) →
      v.kind ≠ least.kind → IsToldAs (.set (least :: (same ++ v :: others)))
        ("mixed literal kinds in set near " ++ v.toText)

/-- The words of the reason are told. -/
theorem Literal.isToldAs_iff {x : Literal} {message : String} :
    x.IsToldAs message ↔ ∃ fault, x.HasFault fault ∧ fault.message = message := by
  constructor
  · intro h
    cases h with
    | nullLiteral => exact ⟨_, .nullLiteral, rfl⟩
    | nullInSet h => exact ⟨_, .nullInSet h, rfl⟩
    | mixedSet known same other => exact ⟨_, .mixedSet known same other, rfl⟩
  · rintro ⟨fault, h, rfl⟩
    cases h with
    | nullLiteral => exact .nullLiteral
    | nullInSet h => exact .nullInSet h
    | mixedSet known same other => exact .mixedSet known same other

namespace Sql

namespace Fault

theorem head?_message_mixedSet (v : Value) : (mixedSet v).message.toList.head? = some 'm' := by
  have first : "mixed literal kinds in set near ".toList =
      'm' :: "ixed literal kinds in set near ".toList := rfl
  show ("mixed literal kinds in set near " ++ v.toText).toList.head? = some 'm'
  rw [String.toList_append, first]
  rfl

/-- The words tell the reason, and of a set of several kinds the value. -/
theorem message_injective : Function.Injective message := by
  have words : ∀ (s : String) (v : Value), s.toList.head? = some 'n' →
      s ≠ (mixedSet v).message := by
    intro s v hs h
    rw [h, head?_message_mixedSet] at hs
    exact absurd (Option.some.inj hs) (by decide)
  intro fault fault' h
  match fault, fault', h with
  | nullLiteral, nullLiteral, _ => rfl
  | nullLiteral, nullInSet, h => exact absurd h (by decide)
  | nullInSet, nullLiteral, h => exact absurd h (by decide)
  | nullInSet, nullInSet, _ => rfl
  | nullLiteral, mixedSet v, h => exact absurd h (words _ v rfl)
  | nullInSet, mixedSet v, h => exact absurd h (words _ v rfl)
  | mixedSet v, nullLiteral, h => exact absurd h.symm (words _ v rfl)
  | mixedSet v, nullInSet, h => exact absurd h.symm (words _ v rfl)
  | mixedSet v, mixedSet w, h =>
    have same : v.toText = w.toText := (String.append_right_inj _).1 h
    rw [Value.toText_injective same]

end Fault

/-- What is related to the first literal to which anything is. -/
def IsOfFirst {α : Type} (R : Literal → α → Prop) (l : List Literal) (a : α) : Prop :=
  ∃ before x after, l = before ++ x :: after ∧ (∀ y ∈ before, ∀ b, ¬R y b) ∧ R x a

/-- What is told first are the words of the first reason. -/
theorem isOfFirst_isToldAs_iff {l : List Literal} {message : String} :
    IsOfFirst Literal.IsToldAs l message ↔
      ∃ fault, IsOfFirst Literal.HasFault l fault ∧ fault.message = message := by
  constructor
  · rintro ⟨before, x, after, split, none, told⟩
    obtain ⟨fault, h, words⟩ := Literal.isToldAs_iff.1 told
    refine ⟨fault, ⟨before, x, after, split, fun y hy other hother => ?_, h⟩, words⟩
    exact none y hy other.message (Literal.isToldAs_iff.2 ⟨other, hother, rfl⟩)
  · rintro ⟨fault, ⟨before, x, after, split, none, h⟩, words⟩
    refine ⟨before, x, after, split, fun y hy other told => ?_,
      Literal.isToldAs_iff.2 ⟨fault, h, words⟩⟩
    obtain ⟨other, hother, -⟩ := Literal.isToldAs_iff.1 told
    exact none y hy other hother

theorem findSome?_eq_some_iff {l : List Literal} (h : ∀ x ∈ l, x.IsInOrder) {fault : Fault} :
    l.findSome? fault? = some fault ↔ IsOfFirst Literal.HasFault l fault := by
  rw [List.findSome?_eq_some_iff]
  constructor
  · rintro ⟨before, x, after, rfl, hx, hbefore⟩
    refine ⟨before, x, after, rfl, fun y hy other hother => ?_, ?_⟩
    · have found := (fault?_eq_some_iff (h y (List.mem_append_left _ hy))).2 hother
      rw [hbefore y hy] at found
      cases found
    · exact (fault?_eq_some_iff (h x (by simp))).1 hx
  · rintro ⟨before, x, after, rfl, hbefore, hx⟩
    refine ⟨before, x, after, rfl, (fault?_eq_some_iff (h x (by simp))).2 hx, fun y hy => ?_⟩
    cases found : fault? y with
    | none => rfl
    | some other =>
      have hother := (fault?_eq_some_iff (h y (List.mem_append_left _ hy))).1 found
      exact absurd hother (hbefore y hy other)

variable {p : Predicate} {fault : Fault}

/-- A predicate cannot be sent for the reason of the first literal that cannot be bound. -/
theorem conditionOf_eq_error_iff :
    conditionOf p = .error fault ↔ IsOfFirst Literal.HasFault p.literals fault := by
  rw [← reason?_eq_some_iff, conditionOf, reason?_map, Condition.reason?_ofPredicate,
    findSome?_eq_some_iff fun x => Predicate.isInOrder_of_mem_literals]

/-- An order adds no reason. -/
theorem select_eq_error_iff {o : SortOrder} :
    select p o = .error fault ↔ IsOfFirst Literal.HasFault p.literals fault := by
  rw [← conditionOf_eq_error_iff, ← reason?_eq_some_iff, ← reason?_eq_some_iff, select, conditionOf,
    reason?_map, reason?_map]

/-- There is a first reason if there is one at all. -/
theorem exists_isOfFirst_iff :
    (∃ fault, IsOfFirst Literal.HasFault p.literals fault) ↔ ∃ q ∈ p.leaves, q.HasBadLiteral := by
  rw [← p.exists_hasFault_iff_leaves]
  constructor
  · rintro ⟨fault, before, x, after, split, -, hx⟩
    exact ⟨x, by simp [split], fault, hx⟩
  · rintro ⟨x, hx, fault, hfault⟩
    have known := (fault?_eq_some_iff (Predicate.isInOrder_of_mem_literals hx)).2 hfault
    have found : (p.literals.findSome? fault?).isSome :=
      List.findSome?_isSome_iff.2 ⟨x, hx, by rw [known]; rfl⟩
    obtain ⟨first, hfirst⟩ := Option.isSome_iff_exists.1 found
    exact ⟨first, (findSome?_eq_some_iff fun x => Predicate.isInOrder_of_mem_literals).1 hfirst⟩

/-- What does not fail gives a statement. -/
theorem exists_ok_conditionOf (h : ∀ q ∈ p.leaves, ¬q.HasBadLiteral) :
    ∃ s, conditionOf p = .ok s := by
  cases hp : conditionOf p with
  | ok s => exact ⟨s, rfl⟩
  | error fault =>
    obtain ⟨q, hq, bad⟩ := exists_isOfFirst_iff.1 ⟨fault, conditionOf_eq_error_iff.1 hp⟩
    exact absurd bad (h q hq)

/-- **A predicate cannot be sent if and only if a literal of it cannot be bound**: somewhere in the
tree there is a missing value as a bound, or a set with the missing value or with values of several
kinds in it. What is told is an invalid query, in the words for the first such literal from left to
right, and the words tell the reason, and of a set of several kinds which value it was. The fields
play no part in it, nor does the order; and neither the question for a value, be it the missing one,
nor an empty set ever fails. -/
theorem fails_with_first_fault :
    (∀ p : Predicate, (∃ fault, conditionOf p = .error fault) ↔ ∃ q ∈ p.leaves, q.HasBadLiteral) ∧
    (∀ (p : Predicate) (fault : Fault),
      conditionOf p = .error fault ↔ IsOfFirst Literal.HasFault p.literals fault) ∧
    (∀ (p : Predicate) (e : LibraryError), (conditionOf p).mapError Fault.toError = .error e ↔
      ∃ message, IsOfFirst Literal.IsToldAs p.literals message ∧ e = .invalidQuery message) ∧
    (∀ fault fault' : Fault, fault.message = fault'.message ↔ fault = fault') ∧
    (∀ (p : Predicate) (o : SortOrder) (fault : Fault),
      select p o = .error fault ↔ conditionOf p = .error fault) ∧
    (∀ (f : Field) (v : Value), ∃ s, conditionOf (.equals f v) = .ok s) ∧
    ∀ f : Field, ∃ s, conditionOf (.oneOf f .empty) = .ok s := by
  refine ⟨fun p => ?_, fun p fault => conditionOf_eq_error_iff, fun p e => ?_,
    fun _ _ => Fault.message_injective.eq_iff, fun p o fault => ?_,
    fun f v => exists_ok_conditionOf ?_, fun f => exists_ok_conditionOf ?_⟩
  · simp only [conditionOf_eq_error_iff, exists_isOfFirst_iff]
  · simp only [isOfFirst_isToldAs_iff, ← conditionOf_eq_error_iff]
    cases conditionOf p with
    | error fault => simp [Except.mapError, Fault.toError, eq_comm]
    | ok s => simp [Except.mapError]
  · rw [select_eq_error_iff, conditionOf_eq_error_iff]
  · rw [Predicate.leaves_of_isLeaf rfl, List.forall_mem_singleton]
    exact id
  · rw [Predicate.leaves_of_isLeaf rfl, List.forall_mem_singleton]
    simp [Predicate.HasBadLiteral]

/-- What an evaluation would skip is told of all the same: beside a constant that does not hold, the
lower bound before the upper one, the missing value of a set before its several kinds, and of the
kinds the first value that is not of the least kind. -/
theorem fails_with_first_fault_skipped :
    let beside (p : Predicate) := (conditionOf (.all [.always false, p])).mapError Fault.toError
    beside (.within .rating (some .null) (some .null) true true) =
        .error (.invalidQuery "null literal outside an IS NULL check") ∧
      beside (.oneOf .genres (.ofList [.text "Drama", .int 18, .null])) =
        .error (.invalidQuery "null inside a set literal") ∧
      beside (.oneOf .genres (.ofList [.text "Drama", .int 18, .int 35, .uuid ⟨1⟩])) =
        .error (.invalidQuery "mixed literal kinds in set near \"Drama\"") := by
  intro beside
  have told {p x after message} (h : x.IsToldAs message) (literals : p.literals = x :: after) :
      (conditionOf p).mapError Fault.toError = .error (.invalidQuery message) :=
    (fails_with_first_fault.2.2.1 p _).2
      ⟨message, ⟨[], x, after, literals, List.forall_mem_nil _, h⟩, rfl⟩
  have shown : "mixed literal kinds in set near " ++ (Value.text "Drama").toText =
      "mixed literal kinds in set near \"Drama\"" := rfl
  have kinds : (Literal.set [.int 18, .int 35, .text "Drama", .uuid ⟨1⟩]).IsToldAs
      "mixed literal kinds in set near \"Drama\"" := by
    rw [← shown]
    show (Literal.set (.int 18 :: ([.int 35] ++ .text "Drama" :: [.uuid ⟨1⟩]))).IsToldAs _
    exact .mixedSet (by decide) (by decide) (by decide)
  exact ⟨told .nullLiteral rfl, told (.nullInSet (by decide)) rfl, told kinds rfl⟩

end Sql

end Mediatheque
