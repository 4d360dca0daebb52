import Mediatheque.Proofs.Listing.Leaves
import Mediatheque.Proofs.Predicate.Storage
import Mediatheque.Proofs.Sql.Sending

/-!
# What lists ask for

A predicate in normal form has no part that is there for nothing: no constant inside, no node that
its parent could take in, no choice between no values. What a list asks a store for is in normal
form, compares fields with what they admit, and so can be sent to a database in every order
(`normalForm_resolve`).

It can be stored as well. A predicate is read back from the text under which it is stored, unless it
is nested too deeply to be read at all, and neither what was read before nor what a list asks for is
nested so deeply (`Predicate.ofStoredText_storedText`).
-/

namespace Mediatheque

/-! ### Normal form -/

/-- Normal form: a constant stands at the root only, every node has at least two operands, none of
them is a node of the same connective, and every choice is one between values. -/
structure Predicate.IsNormal (p : Predicate) : Prop where
  /-- Constants and nodes are where they have to be. -/
  reduced : p.IsReduced
  /-- No choice is empty. -/
  choices : ∀ q ∈ p.leaves, q.HasChoice

namespace MediaList

variable {p q : Predicate}

/-- A constant has nothing to choose from and compares nothing. -/
theorem fits_of_mem_leaves (h : p.IsMadeOf Predicate.IsListLeaf) (hq : q ∈ p.leaves) :
    q.HasChoice ∧ q.ComparesInKind := by
  rcases h.of_mem_leaves hq with ⟨b, rfl⟩ | hleaf
  · exact ⟨trivial, trivial⟩
  · exact ⟨hleaf.hasChoice, hleaf.inKind⟩

/-- **Lists ask in normal form**, compare every field with values of the kind that records hold in
it, and can be sent to a database in every order. Moreover all that is built from constants and
leaves by joining alone is reduced, whatever the leaves. -/
theorem normalForm_resolve :
    (∀ (l : MediaList) (ctx : Context) (sort : Option SortTerm),
      let p := (l.resolve ctx sort).selection.predicate
      p.IsNormal ∧ (∀ q ∈ p.leaves, q.ComparesInKind) ∧
        ∀ o : SortOrder, ∃ s, Sql.select p o = .ok s) ∧
    ∀ p : Predicate, p.IsMadeOf (fun _ => True) → p.IsReduced := by
  refine ⟨fun l ctx sort => ?_, fun p h => h.isReduced⟩
  have made := l.isMadeOf_selection ctx
  have inKind := fun q hq => (fits_of_mem_leaves (q := q) made hq).2
  refine ⟨⟨made.isReduced, fun q hq => (fits_of_mem_leaves made hq).1⟩, inKind, fun o => ?_⟩
  exact Sql.exists_ok_select inKind o

end MediaList

/-! ### Storing -/

namespace Predicate

theorem ofStoredText_eq_ok_iff {s : String} {p : Predicate} :
    ofStoredText s = .ok p ↔ Json.ofReadableText Predicate s = some p := by
  rw [ofStoredText]
  cases Json.ofReadableText Predicate s with
  | none => simp
  | some q => simp

/-- **A stored predicate is read back just if it is nested no deeper than is read**, and is refused
otherwise. Whatever was read from a text, in which form it may have been, is read back from the
text under which it is stored then, and so is what a list asks for. -/
theorem ofStoredText_storedText :
    (∀ p : Predicate, ofStoredText p.storedText =
      if (toJson p).depth ≤ Json.maxDepth then .ok p else .error .unreadable) ∧
    (∀ (s : String) (p : Predicate), ofStoredText s = .ok p → ofStoredText p.storedText = .ok p) ∧
    ∀ (l : MediaList) (ctx : Context) (sort : Option SortTerm),
      let p := (l.resolve ctx sort).selection.predicate
      ofStoredText p.storedText = .ok p := by
  have readBack : ∀ p : Predicate, ofStoredText p.storedText =
      if (toJson p).depth ≤ Json.maxDepth then .ok p else .error .unreadable := by
    intro p
    rw [ofStoredText, storedText, Json.ofReadableText_textOf]
    by_cases h : (toJson p).depth ≤ Json.maxDepth
    · rw [if_pos h, if_pos h]
    · rw [if_neg h, if_neg h]
  have shallow : ∀ p : Predicate, (toJson p).depth ≤ Json.maxDepth →
      ofStoredText p.storedText = .ok p := by
    intro p h
    rw [readBack, if_pos h]
  refine ⟨readBack, fun s p read => ?_, fun l ctx sort => ?_⟩
  · exact shallow p (Json.depth_le_of_ofReadableText (ofStoredText_eq_ok_iff.1 read))
  · have few := (l.isMadeIn_selection ctx).depth_form_le
    exact shallow _ (Nat.le_trans few (by decide))

end Predicate

end Mediatheque
