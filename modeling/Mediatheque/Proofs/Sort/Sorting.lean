import Mediatheque.Sort.Comparison

/-!
# Sorting

Every order is a lawful comparison that tells records with different identities apart, so sorting
records with distinct identities has one result: the records in strictly increasing order
(`pairwise_lt_sort`), whatever the order in which they come (`sort_eq_of_mem_iff`).
-/

namespace Mediatheque.SortOrder

open Std

variable (o : SortOrder)

/-- The records, sorted, are the records. -/
theorem sort_perm (l : List MediaRecord) : (o.sort l).Perm l := List.mergeSort_perm _ _

@[simp] theorem mem_sort {l : List MediaRecord} {r : MediaRecord} : r ∈ o.sort l ↔ r ∈ l :=
  (o.sort_perm l).mem_iff

/-- No record comes before one that is less. -/
theorem pairwise_isLE_sort (l : List MediaRecord) :
    (o.sort l).Pairwise fun a b => (o.compare a b).isLE := by
  have trans : ∀ a b c : MediaRecord, (o.compare a b).isLE → (o.compare b c).isLE →
      (o.compare a c).isLE := fun _ _ _ => TransCmp.isLE_trans
  refine List.pairwise_mergeSort trans (fun a b => ?_) l
  have swap : o.compare a b = (o.compare b a).swap := OrientedCmp.eq_swap
  rw [swap]
  cases o.compare b a <;> rfl

/-- Records with different identities do not tie. -/
theorem compare_eq_lt_of_isLE {a b : MediaRecord} (hid : a.id ≠ b.id) (h : (o.compare a b).isLE) :
    o.compare a b = .lt := by
  rcases Ordering.isLE_iff_eq_lt_or_eq_eq.1 h with h | h
  · exact h
  · exact absurd (id_eq_of_compareBy h) hid

/-- Records with distinct identities are sorted in strictly increasing order. -/
theorem pairwise_lt_sort {l : List MediaRecord} (h : l.Pairwise fun a b => a.id ≠ b.id) :
    (o.sort l).Pairwise fun a b => o.compare a b = .lt := by
  have distinct : (o.sort l).Pairwise fun a b => a.id ≠ b.id :=
    h.perm (o.sort_perm l).symm fun hab => hab.symm
  exact (distinct.and (o.pairwise_isLE_sort l)).imp fun hab => o.compare_eq_lt_of_isLE hab.1 hab.2

/-- There is one strictly increasing list of given records. -/
theorem eq_of_pairwise_lt {l m : List MediaRecord}
    (hl : l.Pairwise fun a b => o.compare a b = .lt)
    (hm : m.Pairwise fun a b => o.compare a b = .lt) (h : ∀ r, r ∈ l ↔ r ∈ m) : l = m := by
  have irrefl : ∀ {l : List MediaRecord}, l.Pairwise (fun a b => o.compare a b = .lt) → l.Nodup :=
    fun hl => hl.imp fun {a b} hab heq => by
      subst heq
      have self : o.compare a a = .eq := ReflCmp.compare_self
      rw [self] at hab
      cases hab
  refine List.Perm.eq_of_pairwise (fun a b _ _ hab hba => ?_) hl hm
    ((List.perm_ext_iff_of_nodup (irrefl hl) (irrefl hm)).2 h)
  rw [OrientedCmp.gt_of_lt hab] at hba
  cases hba

/-- The order in which records with distinct identities come makes no difference to sorting. -/
theorem sort_eq_of_mem_iff {l m : List MediaRecord} (hl : l.Pairwise fun a b => a.id ≠ b.id)
    (hm : m.Pairwise fun a b => a.id ≠ b.id) (h : ∀ r, r ∈ l ↔ r ∈ m) : o.sort l = o.sort m :=
  o.eq_of_pairwise_lt (o.pairwise_lt_sort hl) (o.pairwise_lt_sort hm) fun r => by
    rw [o.mem_sort, o.mem_sort, h]

end Mediatheque.SortOrder
