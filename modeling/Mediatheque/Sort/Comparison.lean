import Mediatheque.Media.Record
import Mediatheque.Sort.Basic
import Mediatheque.Text.CharacterClass
import Mediatheque.Text.Lowercase

/-!
# Comparing records

How records compare under a sort order: term by term, and by identity in the end. What a
record does not know comes last under every key and in both directions. Titles compare
without regard to case and to blanks around them. Progress compares as progress does; a
movie that was watched ranks with a show whose first season was.

Every order is a lawful comparison, so sorting by it has one result.
-/

namespace Mediatheque

open Std

/-! ### Missing values -/

namespace SortDirection

variable {α : Type} [Ord α]

/-- Compares in a direction; what is missing comes last in both of them. -/
def compareMissingLast (d : SortDirection) : Option α → Option α → Ordering
  | none, none => .eq
  | none, some _ => .gt
  | some _, none => .lt
  | some a, some b => d.apply (compare a b)

theorem apply_swap (d : SortDirection) (o : Ordering) : d.apply o.swap = (d.apply o).swap := by
  cases d <;> rfl

theorem isLE_apply_trans [TransOrd α] (d : SortDirection) {a b c : α}
    (hab : (d.apply (compare a b)).isLE) (hbc : (d.apply (compare b c)).isLE) :
    (d.apply (compare a c)).isLE := by
  have swap : ∀ x y : α, (compare x y).swap = compare y x := fun _ _ => OrientedCmp.eq_swap.symm
  cases d with
  | ascending =>
    rw [apply] at *
    exact TransCmp.isLE_trans hab hbc
  | descending =>
    rw [apply, swap] at *
    exact TransCmp.isLE_trans hbc hab

instance [TransOrd α] (d : SortDirection) : TransCmp (d.compareMissingLast (α := α)) where
  eq_swap {a b} := by
    cases a with
    | none => cases b <;> rfl
    | some a =>
      cases b with
      | none => rfl
      | some b =>
        have swap : compare a b = (compare b a).swap := OrientedCmp.eq_swap
        rw [compareMissingLast, compareMissingLast, swap, apply_swap]
  isLE_trans {a b c} hab hbc := by
    cases a with
    | none =>
      cases b with
      | none => exact hbc
      | some b => exact absurd hab (by simp [compareMissingLast])
    | some a =>
      cases c with
      | none => rfl
      | some c =>
        cases b with
        | none => exact absurd hbc (by simp [compareMissingLast])
        | some b => exact d.isLE_apply_trans hab hbc

end SortDirection

/-! ### Keys -/

/-- A title as it is compared: without blanks around it, and in lower case. -/
def titleKey (title : String) : String := String.ofList (Text.lower (Text.trim title.toList))

/-- Progress as it is compared: a movie counts as a show of which the first season was watched,
or nothing. -/
def MediaRecord.comparableProgress (r : MediaRecord) : Option Progress :=
  match r.kind with
  | .series => r.progress
  | .movie => r.watched.map fun watched => .ofNumbers (if watched then 1 else 0) none

/-- What a key has to compare. -/
def SortKey.Carrier : SortKey → Type
  | .title => String
  | .releaseDate => Date
  | .rating => StarRating
  | .progress => Progress
  | .dateAdded => Instant

instance : (k : SortKey) → Ord k.Carrier
  | .title => inferInstanceAs (Ord String)
  | .releaseDate => inferInstanceAs (Ord Date)
  | .rating => inferInstanceAs (Ord StarRating)
  | .progress => inferInstanceAs (Ord Progress)
  | .dateAdded => inferInstanceAs (Ord Instant)

instance : (k : SortKey) → TransOrd k.Carrier
  | .title => inferInstanceAs (TransOrd String)
  | .releaseDate => inferInstanceAs (TransOrd Date)
  | .rating => inferInstanceAs (TransOrd StarRating)
  | .progress => inferInstanceAs (TransOrd Progress)
  | .dateAdded => inferInstanceAs (TransOrd Instant)

/-- What a record has under a key, if it knows it. -/
def MediaRecord.underKey (r : MediaRecord) : (k : SortKey) → Option k.Carrier
  | .title => some (titleKey r.title)
  | .releaseDate => r.releaseDate
  | .rating => r.rating
  | .progress => r.comparableProgress
  | .dateAdded => some r.createdAt

/-- Compares two records on one term. -/
def SortTerm.compare (t : SortTerm) (a b : MediaRecord) : Ordering :=
  t.direction.compareMissingLast (a.underKey t.key) (b.underKey t.key)

instance (t : SortTerm) : TransCmp t.compare where
  eq_swap := (inferInstance : OrientedCmp t.direction.compareMissingLast).eq_swap
  isLE_trans := (inferInstance : TransCmp t.direction.compareMissingLast).isLE_trans

/-! ### Orders -/

namespace SortOrder

/-- Compares two records term by term, and by identity if no term decides. -/
def compareBy : List SortTerm → MediaRecord → MediaRecord → Ordering
  | [] => compareOn MediaRecord.id
  | t :: rest => compareLex t.compare (compareBy rest)

/-- Compares two records under an order. -/
def compare (o : SortOrder) : MediaRecord → MediaRecord → Ordering := compareBy o.terms

theorem transCmp_compareBy (l : List SortTerm) : TransCmp (compareBy l) := by
  induction l with
  | nil => exact inferInstanceAs (TransCmp (compareOn MediaRecord.id))
  | cons t rest ih => exact inferInstanceAs (TransCmp (compareLex t.compare (compareBy rest)))

instance (o : SortOrder) : TransCmp o.compare := transCmp_compareBy o.terms

/-- Records that tie under an order are versions of one record. -/
theorem id_eq_of_compareBy {l : List SortTerm} {a b : MediaRecord}
    (h : compareBy l a b = .eq) : a.id = b.id := by
  induction l with
  | nil => exact LawfulEqOrd.eq_of_compare h
  | cons t rest ih => exact ih (compareLex_eq_eq.1 h).2

/-- The records in order; records that tie keep their places. -/
def sort (o : SortOrder) (l : List MediaRecord) : List MediaRecord :=
  l.mergeSort fun a b => (o.compare a b).isLE

end SortOrder

end Mediatheque
