import Mediatheque.Sql.Query
import Mathlib.Data.List.SplitBy

/-!
# Tokens of a statement

The text of a statement is cut where the class of its characters changes: into words, signs and
single marks, with blanks between them (`lexemes`). A placeholder is read as the value that is
bound to its number. Pieces whose characters do not run together at the ends are read one by one,
and the values bound in them come back in their places (`tokens_ofPieces`).
-/

namespace Mediatheque.Sql

/-! ### Lexemes -/

/-- The classes of characters. -/
inductive CharClass where
  /-- Blanks. -/
  | blank
  /-- Marks that stand for themselves. -/
  | mark
  /-- Characters of signs. -/
  | sign
  /-- Characters of words. -/
  | word
  deriving DecidableEq, Repr

/-- The class of a character. -/
def CharClass.of (c : Char) : CharClass :=
  if c = ' ' then .blank
  else if c = '(' ∨ c = ')' ∨ c = ',' then .mark
  else if c = '<' ∨ c = '>' ∨ c = '=' ∨ c = '&' then .sign
  else .word

/-- Whether two neighbours belong to one lexeme. -/
def joins (a b : Char) : Bool := CharClass.of a == CharClass.of b && CharClass.of a != .mark

/-- The lexemes of a text. -/
def lexemes (s : List Char) : List (List Char) :=
  (s.splitBy joins).filter fun run => run.any fun c => CharClass.of c != .blank

/-- Classes that do not run together where the one ends and the other begins. -/
def CharClass.Apart (k k' : CharClass) : Prop := k ≠ k' ∨ k = .mark

theorem joins_eq_false {a b : Char} (h : (CharClass.of a).Apart (CharClass.of b)) :
    joins a b = false := by
  rcases h with h | h
  · rw [joins, beq_false_of_ne h, Bool.false_and]
  · rw [joins, h]
    exact Bool.and_false _

/-- Texts that do not run together have the lexemes of the one and of the other. -/
theorem lexemes_append {s t : List Char}
    (h : ∀ a ∈ s.getLast?, ∀ b ∈ t.head?, (CharClass.of a).Apart (CharClass.of b)) :
    lexemes (s ++ t) = lexemes s ++ lexemes t := by
  rw [lexemes, List.splitBy_append fun a ha b hb => joins_eq_false (h a ha b hb),
    List.filter_append]
  rfl

/-- A word is one lexeme. -/
theorem lexemes_of_word {s : List Char} (hs : s ≠ []) (h : ∀ c ∈ s, CharClass.of c = .word) :
    lexemes s = [s] := by
  have chain : s.IsChain fun a b => joins a b := by
    refine List.Pairwise.isChain (List.pairwise_of_forall_mem_list fun a ha b hb => ?_)
    rw [joins, h a ha, h b hb]
    rfl
  obtain ⟨c, hc⟩ := List.exists_mem_of_ne_nil s hs
  rw [lexemes, List.splitBy_of_isChain hs chain]
  refine List.filter_eq_self.2 fun run hrun => ?_
  rw [List.mem_singleton.1 hrun]
  exact List.any_eq_true.2 ⟨c, hc, by rw [h c hc]; rfl⟩

theorem of_eq_word_of_isDigit {c : Char} (h : c.isDigit) : CharClass.of c = .word := by
  have ne : ∀ d : Char, d.isDigit = false → c ≠ d := by
    rintro d hd rfl
    rw [h] at hd
    cases hd
  rw [CharClass.of, if_neg (ne _ (by decide)), if_neg, if_neg]
  · exact fun hc => by
      rcases hc with hc | hc | hc | hc <;> exact ne _ (by decide) hc
  · exact fun hc => by
      rcases hc with hc | hc | hc <;> exact ne _ (by decide) hc

/-! ### Tokens -/

/-- A token of a statement. -/
inductive Token where
  /-- A column, the element that is looked at, or a value. -/
  | operand (a : Operand)
  /-- A sign of a comparison. -/
  | comparison (how : Comparison)
  /-- A constant. -/
  | constant (b : Bool)
  /-- A number. -/
  | number (n : Nat)
  /-- The sign for a common element. -/
  | overlapT
  /-- A parenthesis opens. -/
  | openT
  /-- A parenthesis closes. -/
  | closeT
  /-- A comma. -/
  | commaT
  /-- Conjunction. -/
  | andT
  /-- Disjunction. -/
  | orT
  /-- What is asked of an operand. -/
  | isT
  /-- Its negation. -/
  | notT
  /-- What is unknown. -/
  | nullT
  /-- Some element of an array. -/
  | anyT
  /-- There is a row. -/
  | existsT
  /-- What is taken from the rows. -/
  | selectT
  /-- Where the rows come from. -/
  | fromT
  /-- The elements of an array as rows. -/
  | unnestT
  /-- What they are called. -/
  | asT
  /-- The condition on the rows. -/
  | whereT
  /-- The first known one of several. -/
  | coalesceT
  /-- The number of elements. -/
  | cardinalityT
  /-- Anything else. -/
  | otherT (lexeme : List Char)

/-- Every column. -/
def columns : List Column := (Named.all : List Field).map .field ++ [.title, .createdAt]

/-- The tokens that have a fixed text. -/
def words : List (String × Token) :=
  [("(", .openT), (")", .closeT), (",", .commaT), ("&&", .overlapT), ("=", .comparison .eq),
   ("<", .comparison .lt), ("<=", .comparison .le), (">", .comparison .gt),
   (">=", .comparison .ge), ("AND", .andT), ("OR", .orT), ("IS", .isT), ("NOT", .notT),
   ("NULL", .nullT), ("TRUE", .constant true), ("FALSE", .constant false), ("ANY", .anyT),
   ("EXISTS", .existsT), ("SELECT", .selectT), ("FROM", .fromT), ("UNNEST", .unnestT),
   ("AS", .asT), ("WHERE", .whereT), ("COALESCE", .coalesceT), ("cardinality", .cardinalityT),
   ("0", .number 0), ("1", .number 1), ("elem", .operand .element)]
  ++ columns.map fun c => (c.name, .operand (.column c))

/-- The value bound to the placeholder with the number, counted from one. -/
def boundTo? (parameters : List Parameter) : Nat → Option Parameter
  | 0 => none
  | n + 1 => parameters[n]?

/-- The token that a lexeme is, with the values bound to placeholders. -/
def token (parameters : List Parameter) (lexeme : List Char) : Token :=
  match lexeme with
  | '$' :: digits =>
    match (Numeral.toNat? digits).bind (boundTo? parameters) with
    | some p => .operand (.parameter p)
    | none => .otherT lexeme
  | _ => (words.lookup (String.ofList lexeme)).getD (.otherT lexeme)

/-- The tokens of a text. -/
def tokensOf (parameters : List Parameter) (s : List Char) : List Token :=
  (lexemes s).map (token parameters)

/-- The tokens of a statement. -/
def Statement.tokens (s : Statement) : List Token := tokensOf s.parameters s.text.toList

theorem tokensOf_append {parameters : List Parameter} {s t : List Char}
    (h : ∀ a ∈ s.getLast?, ∀ b ∈ t.head?, (CharClass.of a).Apart (CharClass.of b)) :
    tokensOf parameters (s ++ t) = tokensOf parameters s ++ tokensOf parameters t := by
  rw [tokensOf, lexemes_append h, List.map_append]
  rfl

/-- A placeholder is read as the value that is bound to it. -/
theorem tokensOf_placeholder {parameters : List Parameter} {n : Nat} {p : Parameter}
    (h : parameters[n]? = some p) :
    tokensOf parameters ('$' :: Numeral.ofNat (n + 1)) = [.operand (.parameter p)] := by
  have word : ∀ c ∈ '$' :: Numeral.ofNat (n + 1), CharClass.of c = .word := by
    intro c hc
    rcases List.mem_cons.1 hc with rfl | hc
    · decide
    · exact of_eq_word_of_isDigit (Numeral.isDigit_of_mem_ofNat hc)
  rw [tokensOf, lexemes_of_word (List.cons_ne_nil _ _) word, List.map_singleton, token,
    Numeral.toNat?_ofNat, Option.bind_some, boundTo?, h]

/-! ### Pieces -/

namespace Piece

/-- The class of the first character of a piece. -/
def firstClass? : Piece → Option CharClass
  | .text s => s.toList.head?.map CharClass.of
  | .bound _ => some .word

/-- The class of the last character of a piece. -/
def lastClass? : Piece → Option CharClass
  | .text s => s.toList.getLast?.map CharClass.of
  | .bound _ => some .word

/-- The tokens of a piece. -/
def tokens (parameters : List Parameter) : Piece → List Token
  | .text s => tokensOf parameters s.toList
  | .bound p => [.operand (.parameter p)]

end Piece

/-- Pieces that do not run together, with the classes of their first and their last character. -/
inductive Separated : CharClass → List Piece → CharClass → Prop where
  /-- A piece that is not empty. -/
  | piece {p : Piece} {k l : CharClass} :
    p.firstClass? = some k → p.lastClass? = some l → Separated k [p] l
  /-- Pieces after others that do not run together with them. -/
  | append {ps qs : List Piece} {k l k' l' : CharClass} :
    Separated k ps l → Separated k' qs l' → l.Apart k' → Separated k (ps ++ qs) l'

namespace Statement

theorem textAfter_append (n : Nat) (ps qs : List Piece) :
    textAfter n (ps ++ qs) = textAfter n ps ++ textAfter (n + (bound ps).length) qs := by
  induction ps generalizing n with
  | nil => rw [List.nil_append, textAfter, String.empty_append]; rfl
  | cons p ps ih =>
    cases p with
    | text s => rw [List.cons_append, textAfter, textAfter, bound, ih, String.append_assoc]
    | bound p =>
      rw [List.cons_append, textAfter, textAfter, bound, ih, List.length_cons,
        Nat.add_right_comm, Nat.add_assoc, String.append_assoc, String.append_assoc,
        String.append_assoc]

theorem bound_append (ps qs : List Piece) : bound (ps ++ qs) = bound ps ++ bound qs := by
  induction ps with
  | nil => rfl
  | cons p ps ih =>
    cases p with
    | text s => rw [List.cons_append, bound, bound, ih]
    | bound p => rw [List.cons_append, bound, bound, ih, List.cons_append]

theorem toList_textAfter_text (n : Nat) (s : String) :
    (textAfter n [.text s]).toList = s.toList := by
  rw [textAfter, textAfter, String.append_empty]

theorem toList_textAfter_bound (n : Nat) (p : Parameter) :
    (textAfter n [.bound p]).toList = '$' :: Numeral.ofNat (n + 1) := by
  simp [textAfter]

end Statement

namespace Separated

open Statement

variable {ps : List Piece} {k l : CharClass}

/-- The first and the last character of the text of pieces, whatever the numbers in it. -/
theorem ends (h : Separated k ps l) (n : Nat) :
    (textAfter n ps).toList.head?.map CharClass.of = some k ∧
      (textAfter n ps).toList.getLast?.map CharClass.of = some l := by
  induction h generalizing n with
  | @piece p k l hk hl =>
    cases p with
    | text s => rw [toList_textAfter_text]; exact ⟨hk, hl⟩
    | bound p =>
      cases hk
      cases hl
      rw [toList_textAfter_bound]
      refine ⟨rfl, ?_⟩
      have nonempty := Numeral.ofNat_ne_nil (n + 1)
      rw [List.getLast?_cons_of_ne_nil nonempty, List.getLast?_eq_some_getLast nonempty,
        Option.map_some,
        of_eq_word_of_isDigit (Numeral.isDigit_of_mem_ofNat (List.getLast_mem nonempty))]
  | @append ps qs k l k' l' _ _ _ ihp ihq =>
    rw [textAfter_append, String.toList_append]
    obtain ⟨c, hc, hk⟩ := Option.map_eq_some_iff.1 (ihp n).1
    obtain ⟨d, hd, hl⟩ := Option.map_eq_some_iff.1 (ihq (n + (bound ps).length)).2
    rw [List.head?_append, hc, List.getLast?_append, hd]
    exact ⟨congrArg some hk, congrArg some hl⟩

/-- The tokens of the text of pieces are those of the pieces, if the values are bound to the
placeholders that follow a number. -/
theorem tokensOf_textAfter (h : Separated k ps l) {parameters later : List Parameter} {n : Nat}
    (hbound : parameters.drop n = bound ps ++ later) :
    tokensOf parameters (textAfter n ps).toList = ps.flatMap (Piece.tokens parameters) := by
  induction h generalizing n later with
  | @piece p k l _ _ =>
    cases p with
    | text s => rw [toList_textAfter_text, List.flatMap_singleton, Piece.tokens]
    | bound p =>
      have found : parameters[n]? = some p := by
        have head := congrArg (fun l => l[0]?) hbound
        rwa [List.getElem?_drop] at head
      rw [toList_textAfter_bound, List.flatMap_singleton, Piece.tokens, tokensOf_placeholder found]
  | @append ps qs k l k' l' hp hq hapart ihp ihq =>
    rw [bound_append, List.append_assoc] at hbound
    have rest : parameters.drop (n + (bound ps).length) = bound qs ++ later := by
      rw [← List.drop_drop, hbound, List.drop_left]
    rw [textAfter_append, String.toList_append, List.flatMap_append, tokensOf_append, ihp hbound,
      ihq rest]
    intro a ha b hb
    have hl := (hp.ends n).2
    have hk := (hq.ends (n + (bound ps).length)).1
    rw [ha, Option.map_some, Option.some.injEq] at hl
    rw [hb, Option.map_some, Option.some.injEq] at hk
    rw [hl, hk]
    exact hapart

end Separated

/-- A statement of pieces that do not run together has their tokens. -/
theorem tokens_ofPieces {ps : List Piece} {k l : CharClass} (h : Separated k ps l) :
    (Statement.ofPieces ps).tokens = ps.flatMap (Piece.tokens (Statement.bound ps)) := by
  have all : (Statement.bound ps).drop 0 = Statement.bound ps ++ [] := by
    rw [List.drop_zero, List.append_nil]
  exact h.tokensOf_textAfter all

end Mediatheque.Sql
