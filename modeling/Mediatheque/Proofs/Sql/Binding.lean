import Mediatheque.Proofs.Predicate.Shape
import Mediatheque.Proofs.Sql.Agreement
import Mediatheque.Proofs.Sql.Placeholder

/-!
# Binding

No literal of a predicate gets into the text of a statement: the text depends on the shape of the
predicate alone (`frame_of_ofPredicate`), and what is bound to its placeholders are the literals of
the predicate from left to right (`literals_of_ofPredicate`).
-/

namespace Mediatheque.Sql

open Statement (textAfter bound bound_append)

/-! ### Text without values -/

/-- The text of a piece, without a value that is bound in it. -/
def Piece.fixed? : Piece → Option String
  | .text s => some s
  | .bound _ => none

variable {ps qs : List Piece}

/-- The values bound in pieces have no part in the text. -/
theorem textAfter_eq_of_fixed (h : ps.map Piece.fixed? = qs.map Piece.fixed?) (n : Nat) :
    textAfter n ps = textAfter n qs := by
  induction ps generalizing qs n with
  | nil => rw [List.map_eq_nil_iff.1 h.symm]
  | cons p ps ih =>
    cases qs with
    | nil => cases h
    | cons q qs =>
      obtain ⟨hpq, hrest⟩ := List.cons.inj h
      cases p with
      | text s =>
        cases q with
        | text t => cases hpq; rw [textAfter, textAfter, ih hrest]
        | bound q => cases hpq
      | bound p =>
        cases q with
        | text t => cases hpq
        | bound q => rw [textAfter, textAfter, ih hrest]

/-! ### Literals -/

namespace Parameter

/-- The literal that is bound. -/
def literal : Parameter → Literal
  | .scalar t a => .one (t.value a)
  | .array t elements => .set (elements.map t.value)

theorem literal_of_ofValue {v : Value} {p : Parameter} (h : ofValue v = .ok p) :
    p.literal = .one v := by
  cases v <;> cases h <;> rfl

theorem literal_of_ofValues {least : Value} {others : List Value} {p : Parameter}
    (h : ofValues least others = .ok p) : p.literal = .set (least :: others) := by
  rw [ofValues] at h
  cases ht : dataType? least with
  | none => rw [ht] at h; cases h
  | some t =>
    rw [ht] at h
    obtain ⟨elements, helements, rfl⟩ := map_eq_ok_iff.1 h
    rw [literal, eq_map_of_contents helements]

end Parameter

namespace Condition

/-! ### The text of a condition without its values -/

/-- The text of a condition, with gaps for the values. -/
def frame (c : Condition) : List (Option String) := c.pieces.map Piece.fixed?

variable {f : Field} {c d : Condition} {cs ds : List Condition} {word : String}

theorem fixed_joinedAfter (h : cs.map frame = ds.map frame) :
    (joinedAfter word cs).map Piece.fixed? = (joinedAfter word ds).map Piece.fixed? := by
  induction cs generalizing ds with
  | nil => rw [List.map_eq_nil_iff.1 h.symm]
  | cons c cs ih =>
    cases ds with
    | nil => cases h
    | cons d ds =>
      obtain ⟨hcd, hrest⟩ := List.cons.inj h
      rw [frame, frame] at hcd
      simp [joinedAfter, hcd, ih hrest]

theorem joined_eq_tail (cs : List Condition) : joined word cs = (joinedAfter word cs).tail := by
  cases cs with
  | nil => rfl
  | cons c cs => rw [joined, joinedAfter, List.cons_append, List.tail_cons]

theorem fixed_joined (h : cs.map frame = ds.map frame) :
    (joined word cs).map Piece.fixed? = (joined word ds).map Piece.fixed? := by
  rw [joined_eq_tail, joined_eq_tail, List.map_tail, List.map_tail, fixed_joinedAfter h]

/-! ### The literals of a condition -/

/-- The literals bound in a condition, from left to right. -/
def literals (c : Condition) : List Literal := (bound c.pieces).map Parameter.literal

theorem literals_joinedAfter (word : String) (cs : List Condition) :
    (bound (joinedAfter word cs)).map Parameter.literal = cs.flatMap literals := by
  induction cs with
  | nil => rfl
  | cons c cs ih =>
    rw [joinedAfter, List.cons_append, bound, bound_append, List.map_append, ih,
      List.flatMap_cons, literals]

theorem literals_joined (word : String) (cs : List Condition) :
    (bound (joined word cs)).map Parameter.literal = cs.flatMap literals := by
  cases cs with
  | nil => rfl
  | cons c cs =>
    rw [joined, bound_append, List.map_append, literals_joinedAfter, List.flatMap_cons, literals]

theorem literals_all (cs : List Condition) : (all cs).literals = cs.flatMap literals := by
  rw [← literals_joined " AND "]
  simp [literals, pieces, bound, bound_append]

theorem literals_any (cs : List Condition) : (any cs).literals = cs.flatMap literals := by
  rw [← literals_joined " OR "]
  simp [literals, pieces, bound, bound_append]

theorem literals_someElement {array : Operand} (ha : bound array.pieces = [])
    (cs : List Condition) : (someElement array cs).literals = cs.flatMap literals := by
  rw [← literals_joined " AND "]
  simp [literals, pieces, bound, bound_append, ha]

/-! ### Values and sets -/

/-- What is made of a value that is there. -/
theorem of_ofEquals {v : Value} (hv : v ≠ .null) (hc : ofEquals f v = .ok c) :
    ∃ p, p.literal = .one v ∧ c = if f.isSetValued then .isAny (.parameter p) (.column (.field f))
      else .compare (.column (.field f)) .eq (.parameter p) := by
  rw [ofEquals, Value.isNull, beq_false_of_ne hv, if_neg Bool.false_ne_true] at hc
  obtain ⟨p, hp, rfl⟩ := map_eq_ok_iff.1 hc
  exact ⟨p, Parameter.literal_of_ofValue hp, rfl⟩

theorem frame_of_ofEquals {v w : Value} (hv : v ≠ .null) (hw : w ≠ .null)
    (hc : ofEquals f v = .ok c) (hd : ofEquals f w = .ok d) : c.frame = d.frame := by
  obtain ⟨p, -, rfl⟩ := of_ofEquals hv hc
  obtain ⟨q, -, rfl⟩ := of_ofEquals hw hd
  split
  · simp [frame, pieces, Operand.pieces, Piece.fixed?]
  · simp [frame, pieces, Operand.pieces, Piece.fixed?]

theorem literals_of_ofEquals {v : Value} (hc : ofEquals f v = .ok c) :
    c.literals = (Predicate.equals f v).literals := by
  rw [Predicate.literals]
  by_cases hv : v = .null
  · subst hv
    cases hc
    split <;> rfl
  · obtain ⟨p, hp, rfl⟩ := of_ofEquals hv hc
    rw [Value.isNull, beq_false_of_ne hv, if_neg Bool.false_ne_true]
    split
    · simp [literals, pieces, Operand.pieces, bound, hp]
    · simp [literals, pieces, Operand.pieces, bound, hp]

/-- What is made of values to choose from. -/
theorem of_ofOneOf {values : SortedSet Value} (hvalues : values ≠ .empty)
    (hc : ofOneOf f values.toList = .ok c) :
    ∃ p, p.literal = .set values.toList ∧
      c = if f.isSetValued then .overlap (.column (.field f)) (.parameter p)
        else .isAny (.column (.field f)) (.parameter p) := by
  cases hlist : values.toList with
  | nil => exact absurd (SortedBy.ext hlist) hvalues
  | cons least others =>
    rw [hlist] at hc
    obtain ⟨p, hp, rfl⟩ := map_eq_ok_iff.1 hc
    exact ⟨p, Parameter.literal_of_ofValues hp, rfl⟩

theorem frame_of_ofOneOf {values others : SortedSet Value} (hvalues : values ≠ .empty)
    (hothers : others ≠ .empty) (hc : ofOneOf f values.toList = .ok c)
    (hd : ofOneOf f others.toList = .ok d) : c.frame = d.frame := by
  obtain ⟨p, -, rfl⟩ := of_ofOneOf hvalues hc
  obtain ⟨q, -, rfl⟩ := of_ofOneOf hothers hd
  split
  · simp [frame, pieces, Operand.pieces, Piece.fixed?]
  · simp [frame, pieces, Operand.pieces, Piece.fixed?]

theorem literals_of_ofOneOf {values : SortedSet Value} (hc : ofOneOf f values.toList = .ok c) :
    c.literals = (Predicate.oneOf f values).literals := by
  rw [Predicate.literals]
  by_cases hvalues : values = .empty
  · subst hvalues
    cases hc
    rfl
  · obtain ⟨p, hp, rfl⟩ := of_ofOneOf hvalues hc
    rw [if_neg fun h => hvalues (SortedBy.isEmpty_iff.1 h)]
    split
    · simp [literals, pieces, Operand.pieces, bound, hp]
    · simp [literals, pieces, Operand.pieces, bound, hp]

/-! ### Bounds -/

/-- What is made of a bound that is there. -/
theorem of_ofBound_some {a : Operand} {how : Comparison} {v : Value} {l : List Condition}
    (hl : ofBound a how (some v) = .ok l) :
    ∃ p, p.literal = .one v ∧ l = [.compare a how (.parameter p)] := by
  obtain ⟨p, hp, rfl⟩ := map_eq_ok_iff.1 hl
  exact ⟨p, Parameter.literal_of_ofValue hp, rfl⟩

/-- Bounds that are alike come to conditions that are alike. -/
theorem frame_of_ofBound (how : Bool → Comparison) {a : Operand} {b b' : Option Value}
    {closed closed' : Bool} {l m : List Condition} (h : Predicate.SameBound b closed b' closed')
    (hl : ofBound a (how closed) b = .ok l) (hm : ofBound a (how closed') b' = .ok m) :
    l.map frame = m.map frame := by
  cases h with
  | none => cases hl; cases hm; rfl
  | some =>
    obtain ⟨p, -, rfl⟩ := of_ofBound_some hl
    obtain ⟨q, -, rfl⟩ := of_ofBound_some hm
    simp [frame, pieces, Operand.pieces, Piece.fixed?]

/-- The literal of a bound, if it is there. -/
theorem literals_of_ofBound {a : Operand} (ha : bound a.pieces = []) {how : Comparison}
    {b : Option Value} {l : List Condition} (hl : ofBound a how b = .ok l) :
    l.flatMap literals = b.toList.map .one := by
  cases b with
  | none => cases hl; rfl
  | some v =>
    obtain ⟨p, hp, rfl⟩ := of_ofBound_some hl
    have value : (Operand.parameter p).pieces = [.bound p] := rfl
    simp [literals, pieces, bound_append, bound, ha, value, hp]

section Within

variable {a : Operand} {lower upper lower' upper' : Option Value}
  {lowerClosed upperClosed lowerClosed' upperClosed' : Bool} {l m : List Condition}

theorem frame_of_ofBounds (hlower : Predicate.SameBound lower lowerClosed lower' lowerClosed')
    (hupper : Predicate.SameBound upper upperClosed upper' upperClosed')
    (hl : ofBounds a lower upper lowerClosed upperClosed = .ok l)
    (hm : ofBounds a lower' upper' lowerClosed' upperClosed' = .ok m) :
    l.map frame = m.map frame := by
  obtain ⟨low, high, hlow, hhigh, rfl⟩ := of_ofBounds hl
  obtain ⟨low', high', hlow', hhigh', rfl⟩ := of_ofBounds hm
  have lows := frame_of_ofBound (fun closed => if closed then .ge else .gt) hlower hlow hlow'
  have highs := frame_of_ofBound (fun closed => if closed then .le else .lt) hupper hhigh hhigh'
  have all : (low ++ high).map frame = (low' ++ high').map frame := by
    rw [List.map_append, List.map_append, lows, highs]
  have empty : (low ++ high).isEmpty = (low' ++ high').isEmpty := by
    rw [← List.isEmpty_map, all, List.isEmpty_map]
  rw [empty]
  split
  · rfl
  · exact all

theorem literals_of_ofBounds (ha : bound a.pieces = [])
    (hl : ofBounds a lower upper lowerClosed upperClosed = .ok l) :
    l.flatMap literals = lower.toList.map .one ++ upper.toList.map .one := by
  obtain ⟨low, high, hlow, hhigh, rfl⟩ := of_ofBounds hl
  have all : (low ++ high).flatMap literals = lower.toList.map .one ++ upper.toList.map .one := by
    rw [List.flatMap_append, literals_of_ofBound ha hlow, literals_of_ofBound ha hhigh]
  split
  · next empty =>
    rw [List.isEmpty_iff.1 empty] at all
    rw [← all]
    simp [literals, pieces, bound_append, bound, ha]
  · exact all

theorem frame_of_ofWithin (hlower : Predicate.SameBound lower lowerClosed lower' lowerClosed')
    (hupper : Predicate.SameBound upper upperClosed upper' upperClosed')
    (hc : ofWithin f lower upper lowerClosed upperClosed = .ok c)
    (hd : ofWithin f lower' upper' lowerClosed' upperClosed' = .ok d) : c.frame = d.frame := by
  rcases of_ofWithin hc with ⟨hf, l, rfl, hl⟩ | ⟨hf, l, rfl, hl⟩
  · rcases of_ofWithin hd with ⟨-, m, rfl, hm⟩ | ⟨hf', -⟩
    · have same := frame_of_ofBounds hlower hupper hl hm
      simp [frame, pieces, fixed_joined same]
    · exact absurd (hf.symm.trans hf') Bool.false_ne_true
  · rcases of_ofWithin hd with ⟨hf', -⟩ | ⟨-, m, rfl, hm⟩
    · exact absurd (hf'.symm.trans hf) Bool.false_ne_true
    · have same := frame_of_ofBounds hlower hupper hl hm
      simp [frame, pieces, fixed_joined same]

theorem literals_of_ofWithin (hc : ofWithin f lower upper lowerClosed upperClosed = .ok c) :
    c.literals = (Predicate.within f lower upper lowerClosed upperClosed).literals := by
  rw [Predicate.literals]
  rcases of_ofWithin hc with ⟨hf, l, rfl, hl⟩ | ⟨hf, l, rfl, hl⟩
  · rw [literals_all, literals_of_ofBounds rfl hl]
  · rw [literals_someElement rfl, literals_of_ofBounds rfl hl]

end Within

/-! ### Trees -/

mutual

/-- Predicates of one shape come to conditions with one text. -/
theorem frame_of_ofPredicate : ∀ {p q : Predicate} {c d : Condition}, p.SameShape q →
    ofPredicate p = .ok c → ofPredicate q = .ok d → c.frame = d.frame
  | .equals f v, _, c, d, h, hc, hd => by
    cases h with
    | unknown => rw [Except.ok.inj (hc.symm.trans hd)]
    | equals hv hw =>
      rw [ofPredicate] at hc hd
      exact frame_of_ofEquals hv hw hc hd
  | .oneOf f values, _, c, d, h, hc, hd => by
    cases h with
    | noChoice => rw [Except.ok.inj (hc.symm.trans hd)]
    | oneOf hvalues hothers =>
      rw [ofPredicate] at hc hd
      exact frame_of_ofOneOf hvalues hothers hc hd
  | .within f _ _ _ _, _, c, d, h, hc, hd => by
    cases h with
    | within hlower hupper =>
      rw [ofPredicate] at hc hd
      exact frame_of_ofWithin hlower hupper hc hd
  | .all l, _, c, d, h, hc, hd => by
    cases h with
    | all h =>
      rw [ofPredicate] at hc hd
      obtain ⟨cs, hcs, rfl⟩ := map_eq_ok_iff.1 hc
      obtain ⟨ds, hds, rfl⟩ := map_eq_ok_iff.1 hd
      simp [frame, pieces, fixed_joined (frame_of_ofPredicates h hcs hds)]
  | .any l, _, c, d, h, hc, hd => by
    cases h with
    | any h =>
      rw [ofPredicate] at hc hd
      obtain ⟨cs, hcs, rfl⟩ := map_eq_ok_iff.1 hc
      obtain ⟨ds, hds, rfl⟩ := map_eq_ok_iff.1 hd
      simp [frame, pieces, fixed_joined (frame_of_ofPredicates h hcs hds)]
  | .always b, _, c, d, h, hc, hd => by
    cases h with
    | always => rw [Except.ok.inj (hc.symm.trans hd)]

/-- The same of several predicates, one by one. -/
theorem frame_of_ofPredicates : ∀ {l m : List Predicate} {cs ds : List Condition},
    Predicate.SameShapes l m → ofPredicates l = .ok cs → ofPredicates m = .ok ds →
      cs.map frame = ds.map frame
  | [], _, cs, ds, h, hcs, hds => by
    cases h with
    | nil => rw [Except.ok.inj (hcs.symm.trans hds)]
  | p :: l, _, cs, ds, h, hcs, hds => by
    cases h with
    | cons hp hl =>
      obtain ⟨c, _, hc, hrest, rfl⟩ := of_ofPredicates_cons hcs
      obtain ⟨d, _, hd, hrest', rfl⟩ := of_ofPredicates_cons hds
      rw [List.map_cons, List.map_cons, frame_of_ofPredicate hp hc hd,
        frame_of_ofPredicates hl hrest hrest']

end

mutual

/-- The literals bound in the condition for a predicate are those of the predicate. -/
theorem literals_of_ofPredicate : ∀ {p : Predicate} {c : Condition},
    ofPredicate p = .ok c → c.literals = p.literals
  | .equals f v, c, hc => by
    rw [ofPredicate] at hc
    exact literals_of_ofEquals hc
  | .oneOf f values, c, hc => by
    rw [ofPredicate] at hc
    exact literals_of_ofOneOf hc
  | .within f lower upper lowerClosed upperClosed, c, hc => by
    rw [ofPredicate] at hc
    exact literals_of_ofWithin hc
  | .all l, c, hc => by
    rw [ofPredicate] at hc
    obtain ⟨cs, hcs, rfl⟩ := map_eq_ok_iff.1 hc
    rw [literals_all, literals_of_ofPredicates hcs, Predicate.literals]
  | .any l, c, hc => by
    rw [ofPredicate] at hc
    obtain ⟨cs, hcs, rfl⟩ := map_eq_ok_iff.1 hc
    rw [literals_any, literals_of_ofPredicates hcs, Predicate.literals]
  | .always b, c, hc => by
    rw [ofPredicate] at hc
    cases hc
    rfl

/-- The same of several predicates. -/
theorem literals_of_ofPredicates : ∀ {l : List Predicate} {cs : List Condition},
    ofPredicates l = .ok cs → cs.flatMap literals = Predicate.literalsOfAll l
  | [], cs, hcs => by
    rw [ofPredicates] at hcs
    cases hcs
    rfl
  | p :: l, cs, hcs => by
    obtain ⟨c, _, hc, hrest, rfl⟩ := of_ofPredicates_cons hcs
    rw [List.flatMap_cons, literals_of_ofPredicate hc, literals_of_ofPredicates hrest,
      Predicate.literalsOfAll]

end

end Condition

/-! ### Statements -/

/-- The placeholders in the text count from one, and the literals of the predicate are bound to
them in order. -/
structure Statement.Binds (s : Statement) (p : Predicate) : Prop where
  /-- As many placeholders as there are values, in the order of their numbers. -/
  placeholders : Sql.placeholders s.text.toList =
    (List.range' 1 s.parameters.length).map Numeral.ofNat
  /-- The values are the literals from left to right. -/
  literals : s.parameters.map Parameter.literal = p.literals

/-- The pieces around a condition. -/
theorem binds_ofPieces {p : Predicate} (hplain : ArePlain ps)
    (hliterals : (bound ps).map Parameter.literal = p.literals) :
    (Statement.ofPieces ps).Binds p :=
  ⟨placeholders_textAfter hplain 0, hliterals⟩

/-- Literals never get into the text of a statement: predicates of one shape have one text. And
the values that go along are the literals of the predicate, one for each placeholder. -/
theorem literals_apart_from_text :
    (∀ (p q : Predicate) (s t : Statement), p.SameShape q →
      conditionOf p = .ok s → conditionOf q = .ok t → s.text = t.text) ∧
    (∀ (p : Predicate) (s : Statement), conditionOf p = .ok s → s.Binds p) ∧
    (∀ (p q : Predicate) (o : SortOrder) (s t : Statement), p.SameShape q →
      select p o = .ok s → select q o = .ok t → s.text = t.text) ∧
    ∀ (p : Predicate) (o : SortOrder) (s : Statement), select p o = .ok s → s.Binds p := by
  refine ⟨?_, ?_, ?_, ?_⟩
  · intro p q s t h hs ht
    obtain ⟨c, hc, rfl⟩ := map_eq_ok_iff.1 hs
    obtain ⟨d, hd, rfl⟩ := map_eq_ok_iff.1 ht
    exact textAfter_eq_of_fixed (Condition.frame_of_ofPredicate h hc hd) 0
  · intro p s hs
    obtain ⟨c, hc, rfl⟩ := map_eq_ok_iff.1 hs
    exact binds_ofPieces c.arePlain_pieces (Condition.literals_of_ofPredicate hc)
  · intro p q o s t h hs ht
    obtain ⟨c, hc, rfl⟩ := map_eq_ok_iff.1 hs
    obtain ⟨d, hd, rfl⟩ := map_eq_ok_iff.1 ht
    have same : c.pieces.map Piece.fixed? = d.pieces.map Piece.fixed? :=
      Condition.frame_of_ofPredicate h hc hd
    exact textAfter_eq_of_fixed (by simp [same]) 0
  · intro p o s hs
    obtain ⟨c, hc, rfl⟩ := map_eq_ok_iff.1 hs
    have start : IsPlain ("SELECT * FROM " ++ table ++ " WHERE ") := by decide
    refine binds_ofPieces ?_ ?_
    · simp [start, c.arePlain_pieces, isPlain_orderText]
    · rw [← Condition.literals_of_ofPredicate hc]
      simp [Condition.literals, bound, bound_append]

/-- A tag that reads like a condition with a placeholder in it is bound as any other tag. -/
theorem literals_apart_from_text_hostile :
    let p : Predicate := .any [.equals .tags (.text "classic"), .equals .rating .null,
      .within .rating (some (.int 4)) (some (.int 9)) true false]
    let q : Predicate := .any [.equals .tags (.text "$2) OR (TRUE"), .equals .rating .null,
      .within .rating (some (.int 7)) (some (.int 8)) true false]
    p.SameShape q ∧ ∃ s t, conditionOf p = .ok s ∧ conditionOf q = .ok t ∧ s.text = t.text ∧
      t.parameters.map Parameter.literal =
        [.one (.text "$2) OR (TRUE"), .one (.int 7), .one (.int 8)] := by
  intro p q
  have shape : p.SameShape q := .any (.cons (.equals nofun nofun) (.cons .unknown
    (.cons (.within .some .some) .nil)))
  obtain ⟨s, hs⟩ : ∃ s, conditionOf p = .ok s := ⟨_, rfl⟩
  obtain ⟨t, ht⟩ : ∃ t, conditionOf q = .ok t := ⟨_, rfl⟩
  obtain ⟨text, binds, -⟩ := literals_apart_from_text
  exact ⟨shape, s, t, hs, ht, text p q s t shape hs ht, (binds q t ht).literals⟩

end Mediatheque.Sql
