import Mediatheque.Proofs.Sql.Agreement
import Mediatheque.Proofs.Sql.Reading

/-!
# The text of conditions

The text of a condition is read as the condition itself. Its pieces do not run together, so the
tokens of the text are those of the pieces; and the machine, given the tokens of a condition where
a condition comes next, goes on as if it had met the condition (`readFrom_tokens`). A statement
made for a predicate thus states what the predicate says, down to the last character of it.
-/

namespace Mediatheque.Sql

variable {parameters : List Parameter}

/-! ### Tokens of conditions -/

namespace Condition

/-- The tokens of a condition. -/
def tokens (parameters : List Parameter) (c : Condition) : List Token :=
  c.pieces.flatMap (Piece.tokens parameters)

/-- The tokens of the conditions that follow the first one. -/
def tokensAfter (parameters : List Parameter) (word : String) (l : List Condition) : List Token :=
  (joinedAfter word l).flatMap (Piece.tokens parameters)

theorem tokens_operand (a : Operand) :
    a.pieces.flatMap (Piece.tokens parameters) = [.operand a] := by
  cases a with
  | column c =>
    cases c with
    | field f => cases f <;> rfl
    | title => rfl
    | createdAt => rfl
  | element => rfl
  | parameter p => rfl

theorem tokens_compare (a : Operand) (how : Comparison) (b : Operand) :
    tokens parameters (.compare a how b) = [.operand a, .comparison how, .operand b] := by
  rw [tokens, pieces, List.flatMap_append, List.flatMap_cons, tokens_operand, tokens_operand]
  cases how <;> rfl

theorem tokens_isNull (a : Operand) :
    tokens parameters (.isNull a) = [.operand a, .isT, .nullT] := by
  rw [tokens, pieces, List.flatMap_append, tokens_operand]
  rfl

theorem tokens_isNotNull (a : Operand) :
    tokens parameters (.isNotNull a) = [.operand a, .isT, .notT, .nullT] := by
  rw [tokens, pieces, List.flatMap_append, tokens_operand]
  rfl

theorem tokens_isEmpty (array : Operand) :
    tokens parameters (.isEmpty array) =
      [.coalesceT, .openT, .cardinalityT, .openT, .operand array, .closeT, .commaT, .number 0,
        .closeT, .comparison .eq, .number 0] := by
  rw [tokens, pieces, List.cons_append, List.flatMap_cons, List.flatMap_append, tokens_operand]
  rfl

theorem tokens_isAny (a array : Operand) :
    tokens parameters (.isAny a array) =
      [.operand a, .comparison .eq, .anyT, .openT, .operand array, .closeT] := by
  rw [tokens, pieces, List.flatMap_append, List.flatMap_append, List.flatMap_cons,
    tokens_operand, tokens_operand]
  rfl

theorem tokens_overlap (array other : Operand) :
    tokens parameters (.overlap array other) =
      [.operand array, .overlapT, .operand other] := by
  rw [tokens, pieces, List.flatMap_append, List.flatMap_cons, tokens_operand, tokens_operand]
  rfl

theorem tokens_constant (b : Bool) : tokens parameters (.constant b) = [.constant b] := by
  cases b <;> rfl

theorem tokens_someElement (array : Operand) (c : Condition) (rest : List Condition) :
    tokens parameters (.someElement array (c :: rest)) =
      [.existsT, .openT, .selectT, .number 1, .fromT, .unnestT, .openT, .operand array, .closeT,
        .asT, .operand .element, .whereT]
        ++ (c.tokens parameters ++ (tokensAfter parameters " AND " rest ++ [.closeT])) := by
  simp only [tokens, pieces, joined, List.cons_append, List.flatMap_cons, List.flatMap_append,
    tokens_operand, List.append_assoc]
  rfl

theorem tokens_all (c : Condition) (rest : List Condition) :
    tokens parameters (.all (c :: rest)) =
      .openT :: (c.tokens parameters ++ (tokensAfter parameters " AND " rest ++ [.closeT])) := by
  rw [tokens, pieces, joined, List.cons_append, List.flatMap_cons, List.flatMap_append,
    List.flatMap_append, List.append_assoc]
  rfl

theorem tokens_any (c : Condition) (rest : List Condition) :
    tokens parameters (.any (c :: rest)) =
      .openT :: (c.tokens parameters ++ (tokensAfter parameters " OR " rest ++ [.closeT])) := by
  rw [tokens, pieces, joined, List.cons_append, List.flatMap_cons, List.flatMap_append,
    List.flatMap_append, List.append_assoc]
  rfl

theorem tokensAfter_and (c : Condition) (rest : List Condition) :
    tokensAfter parameters " AND " (c :: rest) =
      .andT :: (c.tokens parameters ++ tokensAfter parameters " AND " rest) := by
  rw [tokensAfter, joinedAfter, List.cons_append, List.flatMap_cons, List.flatMap_append]
  rfl

theorem tokensAfter_or (c : Condition) (rest : List Condition) :
    tokensAfter parameters " OR " (c :: rest) =
      .orT :: (c.tokens parameters ++ tokensAfter parameters " OR " rest) := by
  rw [tokensAfter, joinedAfter, List.cons_append, List.flatMap_cons, List.flatMap_append]
  rfl

/-! ### Reading the tokens -/

variable {g : Group} {outer : List Group} {more : List Token}

theorem readFrom_open :
    readFrom (.openT :: more) ⟨g, outer, true⟩ =
      readFrom more ⟨⟨none, [], []⟩, g :: outer, true⟩ := rfl

theorem readFrom_close {inner : Group} :
    readFrom (.closeT :: more) ⟨inner, g :: outer, false⟩ =
      readFrom more ⟨g.meet inner.condition, outer, false⟩ := rfl

theorem readFrom_exists {a : Operand} :
    readFrom (.existsT :: .openT :: .selectT :: .number 1 :: .fromT :: .unnestT :: .openT
        :: .operand a :: .closeT :: .asT :: .operand .element :: .whereT :: more)
      ⟨g, outer, true⟩ = readFrom more ⟨⟨some a, [], []⟩, g :: outer, true⟩ := rfl

theorem readFrom_and :
    readFrom (.andT :: more) ⟨g, outer, false⟩ = readFrom more ⟨g, outer, true⟩ := rfl

theorem readFrom_or :
    readFrom (.orT :: more) ⟨g, outer, false⟩ = readFrom more ⟨g.join, outer, true⟩ := rfl

mutual

/-- Where a condition comes next, the machine meets the one whose tokens follow. -/
theorem readFrom_tokens :
    ∀ (c : Condition), c.hasParts → ∀ (g : Group) (outer : List Group) (more : List Token),
      readFrom (c.tokens parameters ++ more) ⟨g, outer, true⟩ =
        readFrom more ⟨g.meet c.asRead, outer, false⟩
  | .compare a how b, _, g, outer, more => by
    rw [tokens_compare]
    cases how <;> rfl
  | .isNull a, _, g, outer, more => by rw [tokens_isNull]; rfl
  | .isNotNull a, _, g, outer, more => by rw [tokens_isNotNull]; rfl
  | .isEmpty array, _, g, outer, more => by rw [tokens_isEmpty]; rfl
  | .isAny a array, _, g, outer, more => by rw [tokens_isAny]; rfl
  | .overlap array other, _, g, outer, more => by rw [tokens_overlap]; rfl
  | .constant b, _, g, outer, more => by rw [tokens_constant]; rfl
  | .someElement array [], h, _, _, _ => absurd h Bool.false_ne_true
  | .all [], h, _, _, _ => absurd h Bool.false_ne_true
  | .any [], h, _, _, _ => absurd h Bool.false_ne_true
  | .someElement array (c :: rest), h, g, outer, more => by
    obtain ⟨hc, hrest⟩ := Bool.and_eq_true_iff.1 h
    simp only [tokens_someElement, List.cons_append, List.nil_append, List.append_assoc]
    rw [readFrom_exists, readFrom_tokens c hc, readFrom_tokensAfter_and rest hrest, readFrom_close]
    rfl
  | .all (c :: rest), h, g, outer, more => by
    obtain ⟨hc, hrest⟩ := Bool.and_eq_true_iff.1 h
    rw [tokens_all, List.cons_append, List.append_assoc, List.append_assoc, readFrom_open,
      readFrom_tokens c hc, readFrom_tokensAfter_and rest hrest, List.singleton_append,
      readFrom_close]
    rfl
  | .any (c :: rest), h, g, outer, more => by
    obtain ⟨hc, hrest⟩ := Bool.and_eq_true_iff.1 h
    rw [tokens_any, List.cons_append, List.append_assoc, List.append_assoc, readFrom_open,
      readFrom_tokens c hc]
    obtain ⟨before, last, hread, hall⟩ :=
      readFrom_tokensAfter_or rest hrest none [] c.asRead (g :: outer) ([.closeT] ++ more)
    refine hread.trans ?_
    rw [List.singleton_append, readFrom_close, Group.condition, hall]
    rfl

/-- After a condition of a conjunction the machine meets those that follow. -/
theorem readFrom_tokensAfter_and :
    ∀ (l : List Condition), haveParts l → ∀ (g : Group) (outer : List Group) (more : List Token),
      readFrom (tokensAfter parameters " AND " l ++ more) ⟨g, outer, false⟩ =
        readFrom more ⟨{ g with conjuncts := g.conjuncts ++ asReadAll l }, outer, false⟩
  | [], _, g, outer, more => by
    rw [asReadAll, List.append_nil]
    rfl
  | c :: rest, h, g, outer, more => by
    obtain ⟨hc, hrest⟩ := Bool.and_eq_true_iff.1 h
    rw [tokensAfter_and, List.cons_append, List.append_assoc, readFrom_and, readFrom_tokens c hc,
      readFrom_tokensAfter_and rest hrest, asReadAll, Group.meet, List.append_assoc]
    rfl

/-- After a condition of a disjunction every one that follows begins a conjunction. -/
theorem readFrom_tokensAfter_or :
    ∀ (l : List Condition), haveParts l → ∀ (array : Option Operand) (before : List Condition)
      (last : Condition) (outer : List Group) (more : List Token), ∃ before' last',
        readFrom (tokensAfter parameters " OR " l ++ more) ⟨⟨array, before, [last]⟩, outer, false⟩ =
          readFrom more ⟨⟨array, before', [last']⟩, outer, false⟩ ∧
        before' ++ [.all [last']] = before ++ [.all [last]] ++ asReadEach l
  | [], _, array, before, last, outer, more => by
    refine ⟨before, last, rfl, ?_⟩
    rw [asReadEach, List.append_nil]
  | c :: rest, h, array, before, last, outer, more => by
    obtain ⟨hc, hrest⟩ := Bool.and_eq_true_iff.1 h
    obtain ⟨before', last', hread, hall⟩ := readFrom_tokensAfter_or rest hrest array
      (before ++ [.all [last]]) c.asRead outer more
    refine ⟨before', last', ?_, ?_⟩
    · rw [tokensAfter_or, List.cons_append, List.append_assoc, readFrom_or, readFrom_tokens c hc]
      exact hread
    · rw [hall, asReadEach, List.append_assoc (before ++ _)]
      rfl

end

end Condition

/-! ### Pieces do not run together -/

/-- The classes at the ends of a condition. -/
def CharClass.Solid (k : CharClass) : Prop := k = .word ∨ k = .mark

/-- The classes at the ends of what stands between conditions. -/
def CharClass.Loose (k : CharClass) : Prop := k = .blank ∨ k = .mark

theorem CharClass.Solid.apart {k k' : CharClass} (h : k.Solid) (h' : k'.Loose) : k.Apart k' := by
  rcases h with rfl | rfl
  · rcases h' with rfl | rfl <;> exact .inl (by decide)
  · exact .inr rfl

theorem CharClass.Loose.apart {k k' : CharClass} (h : k.Loose) (h' : k'.Solid) : k.Apart k' := by
  rcases h with rfl | rfl
  · rcases h' with rfl | rfl <;> exact .inl (by decide)
  · exact .inr rfl

/-- Pieces that can stand where a condition stands. -/
def Solid (ps : List Piece) : Prop := ∃ k l, k.Solid ∧ l.Solid ∧ Separated k ps l

namespace Solid

variable {ps qs : List Piece} {s : String} {k l : CharClass}

/-- Pieces between texts that begin or end at a blank or a mark. -/
theorem between (hp : Solid ps) (hq : Solid qs) (hk : (Piece.text s).firstClass? = some k)
    (hl : (Piece.text s).lastClass? = some l) (looseFirst : k.Loose) (looseLast : l.Loose) :
    Solid (ps ++ .text s :: qs) := by
  obtain ⟨kp, lp, solidFirst, solidLast, separated⟩ := hp
  obtain ⟨kq, lq, solidFirst', solidLast', separated'⟩ := hq
  exact ⟨kp, lq, solidFirst, solidLast',
    .append separated (.append (.piece hk hl) separated' (looseLast.apart solidFirst'))
      (solidLast.apart looseFirst)⟩

theorem after (hp : Solid ps) (hk : (Piece.text s).firstClass? = some k)
    (hl : (Piece.text s).lastClass? = some l) (loose : k.Loose) (solid : l.Solid) :
    Solid (ps ++ [.text s]) := by
  obtain ⟨kp, lp, solidFirst, solidLast, separated⟩ := hp
  exact ⟨kp, l, solidFirst, solid, .append separated (.piece hk hl) (solidLast.apart loose)⟩

theorem before (hp : Solid ps) (hk : (Piece.text s).firstClass? = some k)
    (hl : (Piece.text s).lastClass? = some l) (solid : k.Solid) (loose : l.Loose) :
    Solid (.text s :: ps) := by
  obtain ⟨kp, lp, solidFirst, solidLast, separated⟩ := hp
  exact ⟨k, lp, solid, solidLast, .append (.piece hk hl) separated (loose.apart solidFirst)⟩

end Solid

theorem solid_operand (a : Operand) : Solid a.pieces := by
  refine ⟨.word, .word, .inl rfl, .inl rfl, ?_⟩
  cases a with
  | column c =>
    cases c with
    | field f => cases f <;> exact .piece rfl rfl
    | title => exact .piece rfl rfl
    | createdAt => exact .piece rfl rfl
  | element => exact .piece rfl rfl
  | parameter p => exact .piece rfl rfl

namespace Condition

mutual

/-- The pieces of a condition do not run together. -/
theorem solid_pieces : ∀ c : Condition, c.hasParts → Solid c.pieces
  | .compare a how b, _ => by
    rw [pieces]
    cases how <;>
      exact (solid_operand a).between (solid_operand b) rfl rfl (.inl rfl) (.inl rfl)
  | .isNull a, _ => (solid_operand a).after rfl rfl (.inl rfl) (.inl rfl)
  | .isNotNull a, _ => (solid_operand a).after rfl rfl (.inl rfl) (.inl rfl)
  | .isEmpty array, _ =>
    ((solid_operand array).before rfl rfl (.inl rfl) (.inr rfl)).after rfl rfl (.inr rfl)
      (.inl rfl)
  | .isAny a array, _ =>
    ((solid_operand a).between (solid_operand array) rfl rfl (.inl rfl) (.inr rfl)).after rfl rfl
      (.inr rfl) (.inr rfl)
  | .overlap array other, _ =>
    (solid_operand array).between (solid_operand other) rfl rfl (.inl rfl) (.inl rfl)
  | .constant b, _ => by
    cases b <;> exact ⟨.word, .word, .inl rfl, .inl rfl, .piece rfl rfl⟩
  | .someElement array [], h => absurd h Bool.false_ne_true
  | .all [], h => absurd h Bool.false_ne_true
  | .any [], h => absurd h Bool.false_ne_true
  | .someElement array (c :: rest), h => by
    obtain ⟨hc, hrest⟩ := Bool.and_eq_true_iff.1 h
    have inner : Solid (joined " AND " (c :: rest)) :=
      solid_joinedAfter rest hrest (solid_pieces c hc) rfl rfl (.inl rfl) (.inl rfl)
    exact (((solid_operand array).between inner rfl rfl (.inr rfl) (.inl rfl)).before rfl rfl
      (.inl rfl) (.inr rfl)).after rfl rfl (.inr rfl) (.inr rfl)
  | .all (c :: rest), h => by
    obtain ⟨hc, hrest⟩ := Bool.and_eq_true_iff.1 h
    have inner : Solid (joined " AND " (c :: rest)) :=
      solid_joinedAfter rest hrest (solid_pieces c hc) rfl rfl (.inl rfl) (.inl rfl)
    exact (inner.before rfl rfl (.inr rfl) (.inr rfl)).after rfl rfl (.inr rfl) (.inr rfl)
  | .any (c :: rest), h => by
    obtain ⟨hc, hrest⟩ := Bool.and_eq_true_iff.1 h
    have inner : Solid (joined " OR " (c :: rest)) :=
      solid_joinedAfter rest hrest (solid_pieces c hc) rfl rfl (.inl rfl) (.inl rfl)
    exact (inner.before rfl rfl (.inr rfl) (.inr rfl)).after rfl rfl (.inr rfl) (.inr rfl)

/-- Nor do those of several conditions with a word before each, after others. -/
theorem solid_joinedAfter :
    ∀ (l : List Condition), haveParts l → ∀ {ps : List Piece} {word : String}
      {first last : CharClass}, Solid ps → (Piece.text word).firstClass? = some first →
        (Piece.text word).lastClass? = some last → first.Loose → last.Loose →
        Solid (ps ++ joinedAfter word l)
  | [], _, ps, _, _, _, hps, _, _, _, _ => by
    rw [joinedAfter, List.append_nil]
    exact hps
  | c :: rest, h, ps, word, _, _, hps, hfirst, hlast, loose, loose' => by
    obtain ⟨hc, hrest⟩ := Bool.and_eq_true_iff.1 h
    have further := solid_joinedAfter rest hrest
      (hps.between (solid_pieces c hc) hfirst hlast loose loose') hfirst hlast loose loose'
    rwa [List.append_assoc] at further

end

/-- The statement of a condition is read as the condition. -/
theorem condition?_ofPieces {c : Condition} (h : c.hasParts) :
    (Statement.ofPieces c.pieces).condition? = some (.any [.all [c.asRead]]) := by
  obtain ⟨k, l, -, -, separated⟩ := solid_pieces c h
  rw [Statement.condition?, tokens_ofPieces separated, Reading.start]
  have read : readFrom (c.tokens (Statement.bound c.pieces) ++ []) ⟨⟨none, [], []⟩, [], true⟩ =
      readFrom [] ⟨Group.meet ⟨none, [], []⟩ c.asRead, [], false⟩ := readFrom_tokens c h _ _ _
  rw [List.append_nil] at read
  exact read

end Condition

end Mediatheque.Sql
