import Mediatheque.Proofs.Sql.Rendering

/-!
# The meaning of the statement for a predicate

What a database makes of the text and the values that are sent to it for a predicate: it reads the
text as a condition, checks the types, and keeps the rows of which the condition is true. These
are the rows of the records that the predicate holds of (`truth?_conditionOf`).
-/

namespace Mediatheque.Sql

/-- The truth of a statement on a row, if it states a condition with types that go together. -/
def Statement.truth? (s : Statement) (row : Row) : Option Truth :=
  s.condition?.bind fun c => if c.isTyped none then some (c.truth row none) else none

namespace Condition

/-! ### No group is empty -/

theorem haveParts_ofBound {a : Operand} {how : Comparison} {bound : Option Value}
    {l : List Condition} (hl : ofBound a how bound = .ok l) : haveParts l := by
  cases bound with
  | none => cases hl; rfl
  | some v =>
    obtain ⟨p, -, rfl⟩ := map_eq_ok_iff.1 hl
    rfl

theorem haveParts_append {l m : List Condition} (hl : haveParts l) (hm : haveParts m) :
    haveParts (l ++ m) := by
  induction l with
  | nil => exact hm
  | cons c l ih =>
    obtain ⟨hc, hl⟩ := Bool.and_eq_true_iff.1 hl
    exact Bool.and_eq_true_iff.2 ⟨hc, ih hl⟩

/-- Bounds lead to a condition, even if there is none on either side. -/
theorem haveParts_ofBounds {a : Operand} {lower upper : Option Value}
    {lowerClosed upperClosed : Bool} {l : List Condition}
    (hl : ofBounds a lower upper lowerClosed upperClosed = .ok l) :
    l.isEmpty = false ∧ haveParts l := by
  obtain ⟨low, high, hlow, hhigh, rfl⟩ := of_ofBounds hl
  cases hempty : (low ++ high).isEmpty with
  | true => exact ⟨rfl, rfl⟩
  | false => exact ⟨hempty, haveParts_append (haveParts_ofBound hlow) (haveParts_ofBound hhigh)⟩

theorem hasParts_ofEquals {f : Field} {v : Value} {c : Condition} (hc : ofEquals f v = .ok c) :
    c.hasParts := by
  rw [ofEquals] at hc
  cases hv : v.isNull with
  | true =>
    rw [hv] at hc
    cases hc
    cases hf : f.isSetValued <;> rfl
  | false =>
    rw [hv, if_neg Bool.false_ne_true] at hc
    obtain ⟨p, -, rfl⟩ := map_eq_ok_iff.1 hc
    cases hf : f.isSetValued <;> rfl

theorem hasParts_ofOneOf {f : Field} {values : List Value} {c : Condition}
    (hc : ofOneOf f values = .ok c) : c.hasParts := by
  cases values with
  | nil => cases hc; rfl
  | cons least others =>
    obtain ⟨p, -, rfl⟩ := map_eq_ok_iff.1 hc
    cases hf : f.isSetValued <;> rfl

theorem hasParts_ofWithin {f : Field} {lower upper : Option Value}
    {lowerClosed upperClosed : Bool} {c : Condition}
    (hc : ofWithin f lower upper lowerClosed upperClosed = .ok c) : c.hasParts := by
  rcases of_ofWithin hc with ⟨-, l, rfl, hl⟩ | ⟨-, l, rfl, hl⟩
  · obtain ⟨nonempty, parts⟩ := haveParts_ofBounds hl
    rw [hasParts, nonempty, parts]
    rfl
  · obtain ⟨nonempty, parts⟩ := haveParts_ofBounds hl
    rw [hasParts, nonempty, parts]
    rfl

theorem isEmpty_ofPredicates {l : List Predicate} {cs : List Condition}
    (hcs : ofPredicates l = .ok cs) : cs.isEmpty = l.isEmpty := by
  cases l with
  | nil => cases hcs; rfl
  | cons p rest =>
    obtain ⟨c, cs, -, -, rfl⟩ := of_ofPredicates_cons hcs
    rfl

mutual

/-- If every group of a predicate has an operand, every group of its condition has one. -/
theorem hasParts_ofPredicate :
    ∀ (p : Predicate) {c : Condition}, p.hasOperands → ofPredicate p = .ok c → c.hasParts
  | .equals _ _, _, _, hc => hasParts_ofEquals hc
  | .oneOf _ _, _, _, hc => hasParts_ofOneOf hc
  | .within _ _ _ _ _, _, _, hc => hasParts_ofWithin hc
  | .all operands, c, hp, hc => by
    obtain ⟨nonempty, hp⟩ := Bool.and_eq_true_iff.1 hp
    rw [ofPredicate] at hc
    obtain ⟨cs, hcs, rfl⟩ := map_eq_ok_iff.1 hc
    rw [hasParts, isEmpty_ofPredicates hcs, nonempty, haveParts_ofPredicates operands hp hcs]
    rfl
  | .any operands, c, hp, hc => by
    obtain ⟨nonempty, hp⟩ := Bool.and_eq_true_iff.1 hp
    rw [ofPredicate] at hc
    obtain ⟨cs, hcs, rfl⟩ := map_eq_ok_iff.1 hc
    rw [hasParts, isEmpty_ofPredicates hcs, nonempty, haveParts_ofPredicates operands hp hcs]
    rfl
  | .always _, _, _, hc => by
    rw [ofPredicate] at hc
    cases hc
    rfl

/-- The same of several predicates. -/
theorem haveParts_ofPredicates :
    ∀ (l : List Predicate) {cs : List Condition}, Predicate.haveOperands l →
      ofPredicates l = .ok cs → haveParts cs
  | [], _, _, hcs => by
    rw [ofPredicates] at hcs
    cases hcs
    rfl
  | p :: rest, _, hp, hl => by
    obtain ⟨hp, hrest⟩ := Bool.and_eq_true_iff.1 hp
    obtain ⟨c, cs, hc, hcs, rfl⟩ := of_ofPredicates_cons hl
    rw [haveParts, hasParts_ofPredicate p hp hc, haveParts_ofPredicates rest hrest hcs]
    rfl

end

end Condition

/-! ### The statement -/

/-- The statement for a predicate has a meaning on the row of any record, and it is true of the
row if and only if the predicate holds of the record. -/
theorem truth?_conditionOf {p : Predicate} {s : Statement} {row : Row} {r : MediaRecord}
    (hoperands : p.hasOperands) (hkinds : p.isWellKinded) (hs : conditionOf p = .ok s)
    (hrow : row.Represents r) : ∃ t, s.truth? row = some t ∧ (t = .yes ↔ p.holds r) := by
  obtain ⟨c, hc, rfl⟩ := map_eq_ok_iff.1 hs
  have parts := Condition.hasParts_ofPredicate p hoperands hc
  obtain ⟨typed, agrees⟩ := Condition.agrees_ofPredicate hrow p hkinds hc
  have readTyped : (Condition.any [.all [c.asRead]]).isTyped none := by
    simp [Condition.isTyped, Condition.areTyped, Condition.isTyped_asRead, typed]
  have readTruth : (Condition.any [.all [c.asRead]]).truth row none = c.truth row none := by
    simp only [Condition.truth, Condition.truthOfAny, Condition.truthOfAll, Truth.or_no,
      Truth.and_yes, Condition.truth_asRead]
  refine ⟨c.truth row none, ?_, agrees⟩
  rw [Statement.truth?, Condition.condition?_ofPieces parts, Option.bind_some, if_pos readTyped,
    readTruth]

/-- A record without tags, genres and rating: what asks for them is not true of its row, in an
array as in a single column, and what asks whether they are there is. -/
theorem truth?_conditionOf_blank :
    let p : Predicate := .all
      [.any [.within .genres (some (.int 3)) none true false, .equals .tags .null],
       .any [.within .rating (some (.int 6)) (some (.int 9)) false true, .equals .rating .null]]
    let r := MediaRecord.blank ⟨⟨1⟩⟩ "Stalker" .movie
      ⟨⟨2020, 2, 29, by decide, by decide⟩, 0, 0, by decide, by decide⟩
    p.hasOperands ∧ p.isWellKinded ∧ (rowOf r).Represents r ∧
      ∃ s, conditionOf p = .ok s ∧ s.truth? (rowOf r) = some .yes := by
  intro p r
  have operands : p.hasOperands := by decide
  have kinds : p.isWellKinded := by decide
  have represents : (rowOf r).Represents r := represents_rowOf r
  have sent : ∃ s, conditionOf p = .ok s := ⟨_, rfl⟩
  obtain ⟨s, hs⟩ := sent
  obtain ⟨t, ht, holds⟩ := truth?_conditionOf operands kinds hs represents
  have yes : t = .yes := holds.2 (by decide)
  exact ⟨operands, kinds, represents, s, hs, yes ▸ ht⟩

end Mediatheque.Sql
