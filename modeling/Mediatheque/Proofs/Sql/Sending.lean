import Mediatheque.Proofs.Predicate.Literals
import Mediatheque.Proofs.Sql.Agreement
import Mediatheque.Sql.Query

/-!
# Predicates that can be sent

A predicate can be sent to a database if each of its leaves compares its field with values that
the field admits: every value is then bound with the type of the field (`exists_ok_select`).
-/

namespace Mediatheque.Sql

open Predicate (Connective)

/-- A result that a function is applied to is a result. -/
theorem exists_ok_map {ε α β : Type} {x : Except ε α} (f : α → β) (h : ∃ a, x = .ok a) :
    ∃ b, x.map f = .ok b := by
  obtain ⟨a, rfl⟩ := h
  exact ⟨f a, rfl⟩

namespace Parameter

variable {f : Field}

/-- A value that a field admits can be bound. -/
theorem exists_ok_ofValue {v : Value} (h : f.Admits v) : ∃ p, ofValue v = .ok p := by
  obtain ⟨a, rfl⟩ := DataType.exists_value_of_dataType? (Field.admits_iff.1 h)
  exact ⟨_, ofValue_value a⟩

/-- Values that a field admits are all of one type. -/
theorem exists_ok_contents {values : List Value} (h : ∀ v ∈ values, f.Admits v) :
    ∃ elements, contents f.dataType values = .ok elements := by
  induction values with
  | nil => exact ⟨[], rfl⟩
  | cons v rest ih =>
    obtain ⟨a, rfl⟩ :=
      DataType.exists_value_of_dataType? (Field.admits_iff.1 (h _ List.mem_cons_self))
    obtain ⟨elements, helements⟩ := ih fun v hv => h v (List.mem_cons_of_mem _ hv)
    refine ⟨a :: elements, ?_⟩
    rw [contents, DataType.content?_value, helements]
    rfl

/-- Values that a field admits can be bound as one array. -/
theorem exists_ok_ofValues {least : Value} {others : List Value}
    (h : ∀ v ∈ least :: others, f.Admits v) : ∃ p, ofValues least others = .ok p := by
  rw [ofValues, Field.admits_iff.1 (h _ List.mem_cons_self)]
  exact exists_ok_map _ (exists_ok_contents h)

end Parameter

namespace Condition

variable {f : Field}

theorem exists_ok_ofEquals {v : Value} (h : v = .null ∨ f.Admits v) :
    ∃ c, ofEquals f v = .ok c := by
  rcases h with rfl | h
  · exact ⟨_, ofEquals_null f⟩
  · obtain ⟨a, rfl⟩ := DataType.exists_value_of_dataType? (Field.admits_iff.1 h)
    exact ⟨_, ofEquals_value f a⟩

theorem exists_ok_ofOneOf {values : List Value} (h : ∀ v ∈ values, f.Admits v) :
    ∃ c, ofOneOf f values = .ok c := by
  cases values with
  | nil => exact ⟨_, rfl⟩
  | cons least others => exact exists_ok_map _ (Parameter.exists_ok_ofValues h)

theorem exists_ok_ofBound (a : Operand) (how : Comparison) {bound : Option Value}
    (h : ∀ v, bound = some v → f.Admits v) : ∃ l, ofBound a how bound = .ok l := by
  cases bound with
  | none => exact ⟨[], rfl⟩
  | some v => exact exists_ok_map _ (Parameter.exists_ok_ofValue (h v rfl))

theorem exists_ok_ofBounds {a : Operand} {lower upper : Option Value}
    {lowerClosed upperClosed : Bool} (hlower : ∀ v, lower = some v → f.Admits v)
    (hupper : ∀ v, upper = some v → f.Admits v) :
    ∃ l, ofBounds a lower upper lowerClosed upperClosed = .ok l := by
  obtain ⟨low, hlow⟩ := exists_ok_ofBound a (if lowerClosed then .ge else .gt) hlower
  obtain ⟨high, hhigh⟩ := exists_ok_ofBound a (if upperClosed then .le else .lt) hupper
  rw [ofBounds, hlow, hhigh]
  exact ⟨_, rfl⟩

theorem exists_ok_ofWithin {lower upper : Option Value} {lowerClosed upperClosed : Bool}
    (hlower : ∀ v, lower = some v → f.Admits v) (hupper : ∀ v, upper = some v → f.Admits v) :
    ∃ c, ofWithin f lower upper lowerClosed upperClosed = .ok c := by
  rw [ofWithin]
  split
  · exact exists_ok_map _ (exists_ok_ofBounds hlower hupper)
  · exact exists_ok_map _ (exists_ok_ofBounds hlower hupper)

theorem exists_ok_ofPredicates {l : List Predicate} (h : ∀ p ∈ l, ∃ c, ofPredicate p = .ok c) :
    ∃ cs, ofPredicates l = .ok cs := by
  induction l with
  | nil => exact ⟨[], by rw [ofPredicates]⟩
  | cons p rest ih =>
    obtain ⟨c, hc⟩ := h p List.mem_cons_self
    rw [ofPredicates, hc]
    exact exists_ok_map _ (ih fun q hq => h q (List.mem_cons_of_mem _ hq))

/-- There is a condition for a predicate if there is one for each of its leaves. -/
theorem exists_ok_ofPredicate {p : Predicate} (h : ∀ q ∈ p.leaves, q.ComparesInKind) :
    ∃ c, ofPredicate p = .ok c := by
  induction p using Connective.tree_induction with
  | leaf p hp =>
    have hp' := h p (by rw [Predicate.leaves_of_isLeaf hp]; exact List.mem_singleton_self p)
    cases p with
    | equals f v => rw [ofPredicate]; exact exists_ok_ofEquals hp'
    | oneOf f values => rw [ofPredicate]; exact exists_ok_ofOneOf hp'
    | within f lower upper lowerClosed upperClosed =>
      rw [ofPredicate]
      exact exists_ok_ofWithin hp'.1 hp'.2
    | all l => cases hp
    | any l => cases hp
    | always b => cases hp
  | constant b => exact ⟨_, by rw [ofPredicate]⟩
  | node c l ih =>
    have operands : ∃ cs, ofPredicates l = .ok cs :=
      exists_ok_ofPredicates fun p hp => ih p hp fun q hq =>
        h q (Connective.mem_leaves_node.2 ⟨p, hp, hq⟩)
    cases c with
    | conjunction => rw [Connective.node, ofPredicate]; exact exists_ok_map _ operands
    | disjunction => rw [Connective.node, ofPredicate]; exact exists_ok_map _ operands

end Condition

/-- A predicate whose leaves compare fields with what they admit can be sent, in every order. -/
theorem exists_ok_select {p : Predicate} (h : ∀ q ∈ p.leaves, q.ComparesInKind) (o : SortOrder) :
    ∃ s, select p o = .ok s :=
  exists_ok_map _ (Condition.exists_ok_ofPredicate h)

end Mediatheque.Sql
