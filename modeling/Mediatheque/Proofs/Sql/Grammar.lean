import Mediatheque.Proofs.Predicate.Storage
import Mediatheque.Proofs.Sql.Meaning

/-!
# The grammar of conditions

The text of a condition as the dialect has it (`IsConditionText`): comparisons, questions, constants
and groups, each of which has at least one condition in it. The statement for a predicate keeps to
the grammar if and only if every conjunction and every disjunction in the predicate has an operand.
One without an operand leads to a pair of parentheses with nothing between them, which no text in
the grammar has (`isConditionText_conditionOf_iff`).
-/

namespace Mediatheque.Sql

open Statement (textAfter bound textAfter_append)

/-! ### The grammar -/

/-- The text of a column, of the element that is looked at, or of a placeholder. -/
inductive IsOperandText : String → Prop where
  /-- A column. -/
  | column (c : Column) : IsOperandText c.name
  /-- The element that is looked at. -/
  | element : IsOperandText "elem"
  /-- A placeholder. -/
  | placeholder (n : Nat) : IsOperandText ("$" ++ String.ofList (Numeral.ofNat (n + 1)))

/-- The text of a condition. -/
inductive IsConditionText : String → Prop where
  /-- Two operands compare in some way. -/
  | compare {a b : String} (how : Comparison) :
    IsOperandText a → IsOperandText b → IsConditionText (a ++ how.sign ++ b)
  /-- An operand is unknown. -/
  | isNull {a : String} : IsOperandText a → IsConditionText (a ++ " IS NULL")
  /-- An operand is known. -/
  | isNotNull {a : String} : IsOperandText a → IsConditionText (a ++ " IS NOT NULL")
  /-- An array has no elements. -/
  | isEmpty {a : String} :
    IsOperandText a → IsConditionText ("COALESCE(cardinality(" ++ a ++ "), 0) = 0")
  /-- An operand is the same as some element of an array. -/
  | isAny {a array : String} :
    IsOperandText a → IsOperandText array → IsConditionText (a ++ " = ANY(" ++ array ++ ")")
  /-- Two arrays have an element in common. -/
  | overlap {array other : String} :
    IsOperandText array → IsOperandText other → IsConditionText (array ++ " && " ++ other)
  /-- Some element of an array meets some conditions, of which there is at least one. -/
  | someElement {array : String} {l : List String} :
    IsOperandText array → l ≠ [] → (∀ c ∈ l, IsConditionText c) →
      IsConditionText ("EXISTS (SELECT 1 FROM UNNEST(" ++ array ++ ") AS elem WHERE "
        ++ " AND ".intercalate l ++ ")")
  /-- All of some conditions are met, of which there is at least one. -/
  | all {l : List String} :
    l ≠ [] → (∀ c ∈ l, IsConditionText c) → IsConditionText ("(" ++ " AND ".intercalate l ++ ")")
  /-- One of some conditions is met, of which there is at least one. -/
  | any {l : List String} :
    l ≠ [] → (∀ c ∈ l, IsConditionText c) → IsConditionText ("(" ++ " OR ".intercalate l ++ ")")
  /-- The constant condition. -/
  | constant (b : Bool) : IsConditionText (if b then "TRUE" else "FALSE")

/-! ### Conditions keep to the grammar -/

theorem isOperandText_pieces (a : Operand) (n : Nat) : IsOperandText (textAfter n a.pieces) := by
  cases a with
  | column c => simpa [Operand.pieces, textAfter] using IsOperandText.column c
  | element => exact .element
  | parameter p => simpa [Operand.pieces, textAfter] using IsOperandText.placeholder n

theorem textAfter_text (n : Nat) (s : String) (ps : List Piece) :
    textAfter n (.text s :: ps) = s ++ textAfter n ps := by
  rw [textAfter]

theorem textAfter_singleton (n : Nat) (s : String) : textAfter n [.text s] = s := by
  rw [textAfter, textAfter, String.append_empty]

namespace Condition

theorem textAfter_group (word : String) (l : List Condition) (n : Nat) :
    textAfter n (.text "(" :: joined word l ++ [.text ")"]) =
      "(" ++ textAfter n (joined word l) ++ ")" := by
  rw [textAfter_append, textAfter_text, textAfter_singleton]

theorem parts_of_group {l : List Condition} (h : !l.isEmpty && haveParts l) :
    l ≠ [] ∧ haveParts l := by
  simpa using h

mutual

/-- The text of a condition is in the grammar if every group of it has a condition. -/
theorem isConditionText_textAfter :
    ∀ c : Condition, c.hasParts → ∀ n, IsConditionText (textAfter n c.pieces)
  | .compare a how b, _, n => by
    rw [pieces, textAfter_append, textAfter_text, ← String.append_assoc]
    exact .compare how (isOperandText_pieces a _) (isOperandText_pieces b _)
  | .isNull a, _, n => by
    rw [pieces, textAfter_append, textAfter_singleton]
    exact .isNull (isOperandText_pieces a _)
  | .isNotNull a, _, n => by
    rw [pieces, textAfter_append, textAfter_singleton]
    exact .isNotNull (isOperandText_pieces a _)
  | .isEmpty array, _, n => by
    rw [pieces, textAfter_append, textAfter_text, textAfter_singleton]
    exact .isEmpty (isOperandText_pieces array _)
  | .isAny a array, _, n => by
    rw [pieces, textAfter_append, textAfter_append, textAfter_text, textAfter_singleton,
      ← String.append_assoc]
    exact .isAny (isOperandText_pieces a _) (isOperandText_pieces array _)
  | .overlap array other, _, n => by
    rw [pieces, textAfter_append, textAfter_text, ← String.append_assoc]
    exact .overlap (isOperandText_pieces array _) (isOperandText_pieces other _)
  | .constant b, _, n => by
    rw [pieces, textAfter_singleton]
    exact .constant b
  | .someElement array l, h, n => by
    obtain ⟨nonempty, hl⟩ := parts_of_group h
    obtain ⟨texts, htexts, hall, htext⟩ := exists_textAfter_joined " AND " l nonempty hl
      (n + (bound array.pieces).length)
    have split : textAfter n (someElement array l).pieces =
        "EXISTS (SELECT 1 FROM UNNEST(" ++ textAfter n array.pieces ++ ") AS elem WHERE "
          ++ " AND ".intercalate texts ++ ")" := by
      simp only [pieces, textAfter_append, textAfter, bound, htext, String.append_assoc,
        String.append_empty]
    rw [split]
    exact .someElement (isOperandText_pieces array n) htexts hall
  | .all l, h, n => by
    obtain ⟨nonempty, hl⟩ := parts_of_group h
    obtain ⟨texts, htexts, hall, htext⟩ := exists_textAfter_joined " AND " l nonempty hl n
    rw [pieces, textAfter_group, htext]
    exact .all htexts hall
  | .any l, h, n => by
    obtain ⟨nonempty, hl⟩ := parts_of_group h
    obtain ⟨texts, htexts, hall, htext⟩ := exists_textAfter_joined " OR " l nonempty hl n
    rw [pieces, textAfter_group, htext]
    exact .any htexts hall

/-- The same of several conditions: their texts are joined. -/
theorem exists_textAfter_joined (word : String) :
    ∀ l : List Condition, l ≠ [] → haveParts l → ∀ n, ∃ texts : List String,
      texts ≠ [] ∧ (∀ c ∈ texts, IsConditionText c) ∧
        textAfter n (joined word l) = word.intercalate texts
  | [], h, _, _ => absurd rfl h
  | [c], _, h, n => by
    obtain ⟨hc, -⟩ := Bool.and_eq_true_iff.1 h
    refine ⟨[textAfter n c.pieces], List.cons_ne_nil _ _,
      List.forall_mem_singleton.2 (isConditionText_textAfter c hc n), ?_⟩
    rw [joined, joinedAfter, List.append_nil, String.intercalate_singleton]
  | c :: d :: rest, _, h, n => by
    obtain ⟨hc, hrest⟩ := Bool.and_eq_true_iff.1 h
    obtain ⟨texts, htexts, hall, htext⟩ := exists_textAfter_joined word (d :: rest)
      (List.cons_ne_nil _ _) hrest (n + (bound c.pieces).length)
    refine ⟨textAfter n c.pieces :: texts, List.cons_ne_nil _ _,
      List.forall_mem_cons.2 ⟨isConditionText_textAfter c hc n, hall⟩, ?_⟩
    rw [String.intercalate_cons_of_ne_nil htexts, ← htext, joined, textAfter_append, joinedAfter,
      List.cons_append, textAfter_text, joined, String.append_assoc]

end

end Condition

/-! ### Groups without conditions -/

/-- Parentheses with nothing between them. -/
def HasEmptyGroup (s : String) : Prop := ['(', ')'] <:+: s.toList

variable {s t : String}

theorem HasEmptyGroup.append_right (h : HasEmptyGroup s) (t : String) : HasEmptyGroup (s ++ t) := by
  rw [HasEmptyGroup, String.toList_append]
  exact h.trans (List.prefix_append _ _).isInfix

theorem HasEmptyGroup.append_left (h : HasEmptyGroup t) (s : String) : HasEmptyGroup (s ++ t) := by
  rw [HasEmptyGroup, String.toList_append]
  exact h.trans (List.suffix_append _ _).isInfix

/-- An empty group of appended texts is in one of them, or begins at the end of the one and ends at
the beginning of the other. -/
theorem hasEmptyGroup_of_append (h : HasEmptyGroup (s ++ t)) :
    HasEmptyGroup s ∨ HasEmptyGroup t ∨
      s.toList.getLast? = some '(' ∧ t.toList.head? = some ')' := by
  rw [HasEmptyGroup, String.toList_append, List.infix_append_iff] at h
  rcases h with h | h | ⟨l, m, split, hl, hm⟩
  · exact .inl h
  · exact .inr (.inl h)
  · have parts : l = [] ∧ m = ['(', ')'] ∨ l = ['('] ∧ m = [')'] ∨ l = ['(', ')'] ∧ m = [] := by
      simp only [List.cons_eq_append_iff, List.nil_eq_append_iff] at split
      aesop
    rcases parts with ⟨rfl, rfl⟩ | ⟨rfl, rfl⟩ | ⟨rfl, rfl⟩
    · exact .inr (.inl hm.isInfix)
    · exact .inr (.inr ⟨List.singleton_suffix_iff_getLast?_eq_some.1 hl,
        List.singleton_prefix_iff_head?_eq_some.1 hm⟩)
    · exact .inl hl.isInfix

/-- Text without an empty group that does not begin with the end of one. -/
structure Opens (s : String) : Prop where
  /-- There is no empty group. -/
  noEmptyGroup : ¬HasEmptyGroup s
  /-- The first character ends no group. -/
  first : ∃ c ∈ s.toList.head?, c ≠ ')'

/-- Text without an empty group that does not end with the beginning of one. -/
structure Closes (s : String) : Prop where
  /-- There is no empty group. -/
  noEmptyGroup : ¬HasEmptyGroup s
  /-- The last character begins no group. -/
  last : ∃ c ∈ s.toList.getLast?, c ≠ '('

theorem exists_head?_append (h : ∃ c ∈ s.toList.head?, c ≠ ')') (t : String) :
    ∃ c ∈ (s ++ t).toList.head?, c ≠ ')' := by
  obtain ⟨c, hc, other⟩ := h
  refine ⟨c, ?_, other⟩
  rw [String.toList_append, List.head?_append, hc]
  rfl

theorem exists_getLast?_append (h : ∃ c ∈ t.toList.getLast?, c ≠ '(') (s : String) :
    ∃ c ∈ (s ++ t).toList.getLast?, c ≠ '(' := by
  obtain ⟨c, hc, other⟩ := h
  refine ⟨c, ?_, other⟩
  rw [String.toList_append, List.getLast?_append, hc]
  rfl

/-- Text that can stand between parentheses. -/
structure Whole (s : String) : Prop extends Opens s, Closes s

/-- Text in front of whole text makes up whole text with it, even if it begins a group. -/
theorem Opens.append (hs : Opens s) (ht : Whole t) : Whole (s ++ t) where
  noEmptyGroup h := by
    obtain ⟨c, hc, other⟩ := ht.first
    rcases hasEmptyGroup_of_append h with h | h | ⟨-, h⟩
    · exact hs.noEmptyGroup h
    · exact ht.noEmptyGroup h
    · exact other (Option.some.inj (hc.symm.trans h))
  first := exists_head?_append hs.first t
  last := exists_getLast?_append ht.last s

/-- Text behind whole text makes up whole text with it, even if it ends a group. -/
theorem Whole.append (hs : Whole s) (ht : Closes t) : Whole (s ++ t) where
  noEmptyGroup h := by
    obtain ⟨c, hc, other⟩ := hs.last
    rcases hasEmptyGroup_of_append h with h | h | ⟨h, -⟩
    · exact hs.noEmptyGroup h
    · exact ht.noEmptyGroup h
    · exact other (Option.some.inj (hc.symm.trans h))
  first := exists_head?_append hs.first t
  last := exists_getLast?_append ht.last s

/-- Text in which no group ends. -/
theorem opens_of_notMem (nonempty : s.toList ≠ []) (h : ')' ∉ s.toList) : Opens s where
  noEmptyGroup group := h (group.subset (List.mem_cons_of_mem _ List.mem_cons_self))
  first := ⟨_, List.head?_eq_some_head nonempty, fun same => h (same ▸ List.head_mem nonempty)⟩

/-- Text in which no group begins. -/
theorem closes_of_notMem (nonempty : s.toList ≠ []) (h : '(' ∉ s.toList) : Closes s where
  noEmptyGroup group := h (group.subset List.mem_cons_self)
  last := ⟨_, List.getLast?_eq_some_getLast nonempty,
    fun same => h (same ▸ List.getLast_mem nonempty)⟩

/-- Text without parentheses. -/
theorem whole_of_notMem (nonempty : s.toList ≠ []) (h : '(' ∉ s.toList ∧ ')' ∉ s.toList) :
    Whole s :=
  ⟨opens_of_notMem nonempty h.2, (closes_of_notMem nonempty h.1).last⟩

/-! ### The grammar has no empty groups -/

theorem whole_of_isOperandText (h : IsOperandText s) : Whole s := by
  cases h with
  | column c =>
    cases c with
    | field f => cases f <;> exact whole_of_notMem (by decide) (by decide)
    | title => exact whole_of_notMem (by decide) (by decide)
    | createdAt => exact whole_of_notMem (by decide) (by decide)
  | element => exact whole_of_notMem (by decide) (by decide)
  | placeholder n =>
    have plain : ∀ c, c.isDigit = false → c ≠ '$' → c ∉ '$' :: Numeral.ofNat (n + 1) := by
      intro c notDigit other h
      rcases List.mem_cons.1 h with same | h
      · exact other same
      · rw [Numeral.isDigit_of_mem_ofNat h] at notDigit
        cases notDigit
    have text : ("$" ++ String.ofList (Numeral.ofNat (n + 1))).toList =
        '$' :: Numeral.ofNat (n + 1) := by simp
    refine whole_of_notMem ?_ ?_
    · rw [text]
      exact List.cons_ne_nil _ _
    · rw [text]
      exact ⟨plain '(' rfl (by decide), plain ')' rfl (by decide)⟩

theorem whole_intercalate {word : String} (hword : Whole word) {l : List String} (nonempty : l ≠ [])
    (h : ∀ c ∈ l, Whole c) : Whole (word.intercalate l) := by
  induction l with
  | nil => exact absurd rfl nonempty
  | cons c l ih =>
    obtain ⟨hc, hl⟩ := List.forall_mem_cons.1 h
    by_cases last : l = []
    · rw [last, String.intercalate_singleton]
      exact hc
    · rw [String.intercalate_cons_of_ne_nil last]
      exact (hc.append hword.toCloses).append (ih last hl).toCloses

/-- Text in the grammar has no empty groups in it. -/
theorem whole_of_isConditionText (h : IsConditionText s) : Whole s := by
  have openT : Opens "(" := opens_of_notMem (by decide) (by decide)
  have closeT : Closes ")" := closes_of_notMem (by decide) (by decide)
  have andT : Whole " AND " := whole_of_notMem (by decide) (by decide)
  have orT : Whole " OR " := whole_of_notMem (by decide) (by decide)
  induction h with
  | compare how ha hb =>
    have sign : Whole how.sign := by cases how <;> exact whole_of_notMem (by decide) (by decide)
    exact ((whole_of_isOperandText ha).append sign.toCloses).append
      (whole_of_isOperandText hb).toCloses
  | isNull ha =>
    have words : Whole " IS NULL" := whole_of_notMem (by decide) (by decide)
    exact (whole_of_isOperandText ha).append words.toCloses
  | isNotNull ha =>
    have words : Whole " IS NOT NULL" := whole_of_notMem (by decide) (by decide)
    exact (whole_of_isOperandText ha).append words.toCloses
  | isEmpty ha =>
    have before : Opens "COALESCE(cardinality(" := opens_of_notMem (by decide) (by decide)
    have after : Closes "), 0) = 0" := closes_of_notMem (by decide) (by decide)
    exact (before.append (whole_of_isOperandText ha)).append after
  | @isAny a array ha harray =>
    have before : Opens " = ANY(" := opens_of_notMem (by decide) (by decide)
    have any := (before.append (whole_of_isOperandText harray)).append closeT
    have grouped : a ++ " = ANY(" ++ array ++ ")" = a ++ (" = ANY(" ++ array ++ ")") := by
      simp only [String.append_assoc]
    rw [grouped]
    exact (whole_of_isOperandText ha).append any.toCloses
  | overlap ha hb =>
    have sign : Whole " && " := whole_of_notMem (by decide) (by decide)
    exact ((whole_of_isOperandText ha).append sign.toCloses).append
      (whole_of_isOperandText hb).toCloses
  | someElement harray nonempty _ ih =>
    have before : Opens "EXISTS (SELECT 1 FROM UNNEST(" :=
      opens_of_notMem (by decide) (by decide)
    have between : Closes ") AS elem WHERE " := closes_of_notMem (by decide) (by decide)
    have chain := whole_intercalate andT nonempty ih
    exact (((before.append (whole_of_isOperandText harray)).append between).append
      chain.toCloses).append closeT
  | all nonempty _ ih => exact (openT.append (whole_intercalate andT nonempty ih)).append closeT
  | any nonempty _ ih => exact (openT.append (whole_intercalate orT nonempty ih)).append closeT
  | constant b => cases b <;> exact whole_of_notMem (by decide) (by decide)

/-! ### Predicates without operands -/

namespace Condition

theorem hasEmptyGroup_of_nil (word : String) (n : Nat) :
    HasEmptyGroup (textAfter n (.text "(" :: joined word [] ++ [.text ")"])) := by
  have nothing : textAfter n (joined word []) = "" := rfl
  rw [textAfter_group, nothing]
  exact ⟨[], [], by decide⟩

mutual

/-- A conjunction or disjunction without operands leads to an empty group. -/
theorem hasEmptyGroup_of_ofPredicate :
    ∀ (p : Predicate) {c : Condition}, p.hasOperands = false → ofPredicate p = .ok c →
      ∀ n, HasEmptyGroup (textAfter n c.pieces)
  | .equals _ _, _, h, _, _ => nomatch h
  | .oneOf _ _, _, h, _, _ => nomatch h
  | .within _ _ _ _ _, _, h, _, _ => nomatch h
  | .always _, _, h, _, _ => nomatch h
  | .all [], _, _, hc, n => by
    rw [ofPredicate, ofPredicates] at hc
    cases hc
    exact hasEmptyGroup_of_nil " AND " n
  | .any [], _, _, hc, n => by
    rw [ofPredicate, ofPredicates] at hc
    cases hc
    exact hasEmptyGroup_of_nil " OR " n
  | .all (p :: rest), _, h, hc, n => by
    rw [ofPredicate] at hc
    obtain ⟨cs, hcs, rfl⟩ := map_eq_ok_iff.1 hc
    have inner := hasEmptyGroup_of_ofPredicates " AND " (p :: rest) h hcs n
    rw [pieces, textAfter_group]
    exact (inner.append_left "(").append_right ")"
  | .any (p :: rest), _, h, hc, n => by
    rw [ofPredicate] at hc
    obtain ⟨cs, hcs, rfl⟩ := map_eq_ok_iff.1 hc
    have inner := hasEmptyGroup_of_ofPredicates " OR " (p :: rest) h hcs n
    rw [pieces, textAfter_group]
    exact (inner.append_left "(").append_right ")"

/-- The same of several predicates. -/
theorem hasEmptyGroup_of_ofPredicates (word : String) :
    ∀ (l : List Predicate) {cs : List Condition}, Predicate.haveOperands l = false →
      ofPredicates l = .ok cs → ∀ n, HasEmptyGroup (textAfter n (joined word cs))
  | [], _, h, _, _ => nomatch h
  | p :: rest, _, h, hl, n => by
    obtain ⟨c, cs, hc, hcs, rfl⟩ := of_ofPredicates_cons hl
    rw [joined, textAfter_append]
    rcases Bool.and_eq_false_iff.1 h with hp | hrest
    · exact (hasEmptyGroup_of_ofPredicate p hp hc n).append_right _
    · refine HasEmptyGroup.append_left ?_ _
      have later := hasEmptyGroup_of_ofPredicates word rest hrest hcs
        (n + (bound c.pieces).length)
      cases cs with
      | nil => exact later
      | cons d cs =>
        rw [joinedAfter, List.cons_append, textAfter_text]
        exact later.append_left word

end

end Condition

/-! ### The statement -/

/-- The statement for a predicate is in the grammar if and only if each of its conjunctions and
disjunctions has an operand, and otherwise there is an empty group in it. -/
theorem isConditionText_conditionOf_iff {p : Predicate} {s : Statement}
    (hs : conditionOf p = .ok s) :
    (IsConditionText s.text ↔ p.hasOperands) ∧ (HasEmptyGroup s.text ↔ ¬p.hasOperands) := by
  obtain ⟨c, hc, rfl⟩ := map_eq_ok_iff.1 hs
  have wellFormed (h : p.hasOperands) : IsConditionText (Statement.ofPieces c.pieces).text :=
    Condition.isConditionText_textAfter c (Condition.hasParts_ofPredicate p h hc) 0
  have empty (h : ¬p.hasOperands) : HasEmptyGroup (Statement.ofPieces c.pieces).text :=
    Condition.hasEmptyGroup_of_ofPredicate p (Bool.eq_false_iff.2 h) hc 0
  constructor
  · refine ⟨fun h => ?_, wellFormed⟩
    exact Decidable.by_contra fun none => (whole_of_isConditionText h).noEmptyGroup (empty none)
  · refine ⟨fun h operands => ?_, empty⟩
    exact (whole_of_isConditionText (wellFormed operands)).noEmptyGroup h

/-- Groups within groups, each of which has a condition, if only a constant. -/
theorem isConditionText_conditionOf_nested :
    let p : Predicate := .any
      [.all [.within .genres (some (.int 3)) none true false, .always true], .equals .tags .null]
    ∃ s, conditionOf p = .ok s ∧ IsConditionText s.text ∧ ¬HasEmptyGroup s.text := by
  intro p
  have sent : ∃ s, conditionOf p = .ok s := ⟨_, rfl⟩
  obtain ⟨s, hs⟩ := sent
  have operands : p.hasOperands := by decide
  obtain ⟨wellFormed, empty⟩ := isConditionText_conditionOf_iff hs
  exact ⟨s, hs, wellFormed.2 operands, fun h => empty.1 h operands⟩

/-- A conjunction without operands can be stored and read, and holds of everything; but its
statement is a pair of parentheses, which is not in the grammar. -/
theorem not_isConditionText_conditionOf_empty :
    let p : Predicate := .all []
    Predicate.ofStoredText p.storedText = .ok p ∧ (∀ r, p.holds r) ∧
      ∃ s, conditionOf p = .ok s ∧ s.text = "()" ∧ ¬IsConditionText s.text := by
  intro p
  have read : Json.ofReadableText Predicate (Json.textOf p) = some p := by
    rw [Json.ofReadableText_textOf, if_pos (by decide)]
  refine ⟨?_, fun r => rfl, ⟨"()", []⟩, rfl, rfl, fun h => ?_⟩
  · rw [Predicate.ofStoredText, Predicate.storedText, read]
  · exact (whole_of_isConditionText h).noEmptyGroup ⟨[], [], rfl⟩

end Mediatheque.Sql
