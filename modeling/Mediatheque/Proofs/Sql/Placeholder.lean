import Mediatheque.Proofs.Sql.Token

/-!
# Placeholders

The dollar signs in the text of a statement are those of its placeholders, which count from one
(`placeholders_textAfter`): no other piece of a condition has one in it, nor the text of an order,
and none begins with a digit that could be taken for one of a placeholder's number.
-/

namespace Mediatheque.Sql

open Statement (textAfter bound textAfter_append bound_append)

/-! ### Placeholders of a text -/

/-- The digits after each dollar sign of a text. -/
def placeholders : List Char → List (List Char)
  | [] => []
  | c :: rest =>
    if c = '$' then rest.takeWhile Char.isDigit :: placeholders rest else placeholders rest

theorem placeholders_append {s t : List Char} (h : '$' ∉ s) :
    placeholders (s ++ t) = placeholders t := by
  induction s with
  | nil => rfl
  | cons c s ih =>
    rw [List.mem_cons, not_or] at h
    rw [List.cons_append, placeholders, if_neg (Ne.symm h.1), ih h.2]

theorem dollar_notMem_ofNat (n : Nat) : '$' ∉ Numeral.ofNat n := fun h =>
  absurd (Numeral.isDigit_of_mem_ofNat h) (by decide)

/-- A dollar sign with a number after it that no further digit follows. -/
theorem placeholders_numeral {n : Nat} {t : List Char} (h : ∀ c ∈ t.head?, c.isDigit = false) :
    placeholders ('$' :: (Numeral.ofNat n ++ t)) = Numeral.ofNat n :: placeholders t := by
  have after : t.takeWhile Char.isDigit = [] := by
    cases t with
    | nil => rfl
    | cons c t => rw [List.takeWhile_cons, h c rfl]; rfl
  rw [placeholders, if_pos rfl, placeholders_append (dollar_notMem_ofNat n),
    List.takeWhile_append_of_pos fun c hc => Numeral.isDigit_of_mem_ofNat hc, after,
    List.append_nil]

/-! ### Plain pieces -/

/-- A text with a dollar sign in it. -/
def HasDollar (s : String) : Prop := '$' ∈ s.toList

instance (s : String) : Decidable (HasDollar s) := inferInstanceAs (Decidable (_ ∈ _))

/-- Text that cannot be taken for a placeholder or for the end of one. -/
def IsPlain (s : String) : Prop := ¬HasDollar s ∧ s.toList.head?.all fun c => !c.isDigit

instance (s : String) : Decidable (IsPlain s) := inferInstanceAs (Decidable (_ ∧ _))

namespace Piece

/-- The text in a piece is plain. -/
def IsPlain : Piece → Prop
  | .text s => Sql.IsPlain s
  | .bound _ => True

end Piece

/-- All pieces are plain. -/
def ArePlain (ps : List Piece) : Prop := ∀ p ∈ ps, p.IsPlain

variable {ps qs : List Piece}

@[simp] theorem arePlain_nil : ArePlain [] := fun _ h => nomatch h

@[simp] theorem arePlain_text {s : String} :
    ArePlain (.text s :: ps) ↔ IsPlain s ∧ ArePlain ps := List.forall_mem_cons

@[simp] theorem arePlain_bound {p : Parameter} : ArePlain (.bound p :: ps) ↔ ArePlain ps :=
  List.forall_mem_cons.trans (iff_of_eq (true_and _))

@[simp] theorem arePlain_append : ArePlain (ps ++ qs) ↔ ArePlain ps ∧ ArePlain qs :=
  List.forall_mem_append

theorem toList_textAfter_bound_cons (n : Nat) (p : Parameter) :
    (textAfter n (.bound p :: ps)).toList =
      '$' :: (Numeral.ofNat (n + 1) ++ (textAfter (n + 1) ps).toList) := by
  simp [textAfter]

theorem not_isDigit_head_textAfter (h : ArePlain ps) (n : Nat) :
    ∀ c ∈ (textAfter n ps).toList.head?, c.isDigit = false := by
  induction ps with
  | nil => intro c hc; cases hc
  | cons p ps ih =>
    intro c hc
    cases p with
    | text s =>
      rw [arePlain_text] at h
      rw [textAfter, String.toList_append, List.head?_append] at hc
      rcases Option.or_eq_some_iff.1 hc with hc | ⟨-, hc⟩
      · simpa using (Option.all_eq_true _ _).1 h.1.2 c hc
      · exact ih h.2 c hc
    | bound p =>
      rw [toList_textAfter_bound_cons, List.head?_cons] at hc
      cases hc
      rfl

/-- The placeholders of plain pieces count on from those before them. -/
theorem placeholders_textAfter (h : ArePlain ps) (n : Nat) :
    placeholders (textAfter n ps).toList =
      (List.range' (n + 1) (bound ps).length).map Numeral.ofNat := by
  induction ps generalizing n with
  | nil => rfl
  | cons p ps ih =>
    cases p with
    | text s =>
      rw [arePlain_text] at h
      rw [textAfter, String.toList_append, placeholders_append h.1.1, ih h.2, bound]
    | bound p =>
      rw [arePlain_bound] at h
      rw [toList_textAfter_bound_cons, placeholders_numeral (not_isDigit_head_textAfter h (n + 1)),
        ih h, bound, List.length_cons, List.range'_succ, List.map_cons]

/-! ### Pieces of conditions -/

theorem isPlain_name (c : Column) : IsPlain c.name := by
  cases c with
  | field f => cases f <;> decide
  | title => decide
  | createdAt => decide

theorem arePlain_operand (a : Operand) : ArePlain a.pieces := by
  have element : IsPlain "elem" := by decide
  cases a with
  | column c => simp [Operand.pieces, isPlain_name]
  | element => simp [Operand.pieces, element]
  | parameter p => simp [Operand.pieces]

namespace Condition

mutual

/-- The text of a condition has no dollar signs but those of placeholders. -/
theorem arePlain_pieces : ∀ c : Condition, ArePlain c.pieces
  | .compare a how b => by
    have sign : IsPlain how.sign := by cases how <;> decide
    simp [pieces, arePlain_operand, sign]
  | .isNull a => by
    have words : IsPlain " IS NULL" := by decide
    simp [pieces, arePlain_operand, words]
  | .isNotNull a => by
    have words : IsPlain " IS NOT NULL" := by decide
    simp [pieces, arePlain_operand, words]
  | .isEmpty a => by
    have words : IsPlain "COALESCE(cardinality(" ∧ IsPlain "), 0) = 0" := by decide
    simp [pieces, arePlain_operand, words]
  | .isAny a array => by
    have words : IsPlain " = ANY(" ∧ IsPlain ")" := by decide
    simp [pieces, arePlain_operand, words]
  | .overlap array other => by
    have sign : IsPlain " && " := by decide
    simp [pieces, arePlain_operand, sign]
  | .someElement array conditions => by
    have words : IsPlain "EXISTS (SELECT 1 FROM UNNEST(" ∧ IsPlain ") AS elem WHERE " ∧
      IsPlain ")" := by decide
    have word : IsPlain " AND " := by decide
    simp [pieces, arePlain_operand, words, arePlain_joined word conditions]
  | .all conditions => by
    have parentheses : IsPlain "(" ∧ IsPlain ")" := by decide
    have word : IsPlain " AND " := by decide
    simp [pieces, parentheses, arePlain_joined word conditions]
  | .any conditions => by
    have parentheses : IsPlain "(" ∧ IsPlain ")" := by decide
    have word : IsPlain " OR " := by decide
    simp [pieces, parentheses, arePlain_joined word conditions]
  | .constant b => by
    have word : IsPlain (if b then "TRUE" else "FALSE") := by cases b <;> decide
    simp [pieces, word]

/-- The same of several conditions with a word between them. -/
theorem arePlain_joined {word : String} (hword : IsPlain word) :
    ∀ l : List Condition, ArePlain (joined word l)
  | [] => by simp [joined]
  | c :: rest => by simp [joined, arePlain_pieces c, arePlain_joinedAfter hword rest]

/-- The same of several conditions with a word before each of them. -/
theorem arePlain_joinedAfter {word : String} (hword : IsPlain word) :
    ∀ l : List Condition, ArePlain (joinedAfter word l)
  | [] => by simp [joinedAfter]
  | c :: rest => by
    simp [joinedAfter, hword, arePlain_pieces c, arePlain_joinedAfter hword rest]

end

end Condition

/-! ### Orders -/

theorem hasDollar_append {s t : String} : HasDollar (s ++ t) ↔ HasDollar s ∨ HasDollar t := by
  rw [HasDollar, String.toList_append, List.mem_append]
  rfl

theorem not_hasDollar_ofNat (n : Nat) : ¬HasDollar (String.ofList (Numeral.ofNat n)) := by
  rw [HasDollar, String.toList_ofList]
  exact dollar_notMem_ofNat n

theorem hasDollar_join {l : List String} : HasDollar (String.join l) ↔ ∃ s ∈ l, HasDollar s := by
  induction l with
  | nil => simp [HasDollar, String.join]
  | cons s l ih => rw [String.join_cons, hasDollar_append, ih, List.exists_mem_cons_iff]

open SortExpression in
theorem not_hasDollar_ofKey {k : SortKey} {e : SortExpression} (he : e ∈ ofKey k) :
    ¬HasDollar e.toText := by
  cases k with
  | progress =>
    rcases List.mem_pair.1 he with rfl | rfl
    · simp only [progressSeason, isMovie, toText, casesText, otherwiseText, inCase, Test.toText,
        hasDollar_append, not_hasDollar_ofNat]
      decide
    · simp only [progressEpisode, isMovie, toText, casesText, otherwiseText, inCase, Test.toText,
        hasDollar_append, endOfSeason, not_hasDollar_ofNat]
      decide
  | _ => cases List.mem_singleton.1 he; decide

theorem not_hasDollar_termText (t : SortTerm) : ¬HasDollar (termText t) := by
  rw [termText, hasDollar_join]
  rintro ⟨_, hs, h⟩
  obtain ⟨e, he, rfl⟩ := List.mem_map.1 hs
  have keyword : ¬HasDollar t.direction.keyword := by cases t.direction <;> decide
  simp only [hasDollar_append, not_hasDollar_ofKey he, keyword] at h
  revert h
  decide

/-- An order has no placeholders in its text. -/
theorem isPlain_orderText (o : SortOrder) : IsPlain (orderText o) := by
  have terms : ¬HasDollar (String.join (o.terms.map termText)) := by
    rw [hasDollar_join]
    rintro ⟨_, hs, h⟩
    obtain ⟨t, -, rfl⟩ := List.mem_map.1 hs
    exact not_hasDollar_termText t h
  have ends : ¬HasDollar " ORDER BY " ∧ ¬HasDollar "id ASC" := by decide
  constructor
  · rw [orderText, hasDollar_append, hasDollar_append, not_or, not_or]
    exact ⟨⟨ends.1, terms⟩, ends.2⟩
  · rw [orderText, String.toList_append, String.toList_append, List.append_assoc,
      List.head?_append_of_ne_nil _ (by decide)]
    rfl

end Mediatheque.Sql
