import Mediatheque.Proofs.Sort.Sorting
import Mediatheque.Proofs.Store.History

/-!
# Fetching lists

What a list fetched from a store has in it, and that there is one order it can have. The store
may walk through its records in any order, as a table without order does; since the records of a
table have distinct identities and an order tells such records apart, sorting gives one result
(`fetchRows_eq_fetch`). The refinement of a list drops records and leaves the others in their
places, so it keeps what sorting has established.
-/

namespace Mediatheque

open Std

/-- The answers of a store that walks through its records in the given order. -/
def fetchRows (rows : List MediaRecord) : Fetch := fun p o =>
  .ok (o.sort (rows.filter fun r => p.holds r))

theorem fetch_eq_fetchRows (s : Store) : s.fetch = fetchRows s.toList := rfl

/-- Two walks through the same records, of distinct identities, lead to the same answers. -/
theorem fetchRows_congr {rows rows' : List MediaRecord}
    (distinct : rows.Pairwise fun a b => a.id ≠ b.id)
    (distinct' : rows'.Pairwise fun a b => a.id ≠ b.id) (h : ∀ r, r ∈ rows ↔ r ∈ rows') :
    fetchRows rows = fetchRows rows' := by
  funext p o
  have same : o.sort (rows.filter fun r => p.holds r) = o.sort (rows'.filter fun r => p.holds r) :=
    o.sort_eq_of_mem_iff (distinct.filter _) (distinct'.filter _) fun r => by
      rw [List.mem_filter, List.mem_filter, h]
  rw [fetchRows, fetchRows, same]

/-- A table answers as the store that has the same records, whatever the order of the walk. -/
theorem fetchRows_eq_fetch {t : Table} {s : Store} (h : t.Mirrors s) {rows : List MediaRecord}
    (hrows : t.Lists rows) : fetchRows rows = s.fetch := by
  rw [fetch_eq_fetchRows]
  exact fetchRows_congr (h.pairwise_id_ne_of_lists hrows) s.pairwise_id_ne fun _ =>
    h.mem_iff_of_lists hrows

/-! ### The records of a list -/

namespace MediaList

variable (s : Store) (ctx : Context) (sort : Option SortTerm) (l : MediaList)

/-- The records of a list in a store that answers. -/
def members : List MediaRecord :=
  (l.resolve ctx sort).selection.refine
    (s.select (l.resolve ctx sort).selection.predicate (l.resolve ctx sort).order)

theorem fetch_eq_members : l.fetch s.fetch ctx sort = .ok (l.members s ctx sort) := rfl

theorem mem_members {r : MediaRecord} :
    r ∈ l.members s ctx sort ↔ r ∈ s ∧ (l.resolve ctx sort).selection.selects r := by
  rw [members, Selection.refine, Store.select, List.mem_filter, SortOrder.mem_sort,
    List.mem_filter, Selection.selects, Bool.and_eq_true, and_assoc]
  rfl

/-- The records of a list are in strictly increasing order. -/
theorem pairwise_lt_members :
    (l.members s ctx sort).Pairwise fun a b => (l.resolve ctx sort).order.compare a b = .lt :=
  ((l.resolve ctx sort).order.pairwise_lt_sort (s.pairwise_id_ne.filter _)).filter _

/-- Their identities are distinct. -/
theorem nodup_id_members : ((l.members s ctx sort).map (·.id)).Nodup := by
  have sorted : (s.select (l.resolve ctx sort).selection.predicate
      (l.resolve ctx sort).order).Pairwise fun a b => a.id ≠ b.id :=
    (s.pairwise_id_ne.filter _).perm (SortOrder.sort_perm _ _).symm fun hab => hab.symm
  exact List.pairwise_map.2 (sorted.filter _)

end MediaList

/-! ### Everything in a store -/

/-- To ask for all records, in whatever order, returns each record that can be looked up, once. -/
theorem fetch_always (s : Store) (o : SortOrder) :
    ∃ all, s.fetch (.always true) o = .ok all ∧ all.length = s.size ∧
      ∀ i r, s.get? i = some r ↔ r ∈ all ∧ r.id = i := by
  have everything : (s.toList.filter fun r => (Predicate.always true).holds r) = s.toList :=
    List.filter_eq_self.2 fun _ _ => rfl
  refine ⟨o.sort s.toList, ?_, (o.sort_perm s.toList).length_eq, fun i r => ?_⟩
  · rw [Store.fetch, Store.select, everything]
  · rw [Store.get?_eq_some_iff, SortOrder.mem_sort]
    rfl

/-- After any history a list is fetched without failure. What is returned are the current records
that the list selects, each identity once, in strictly increasing order. A table answers the same
from any walk through its records, of which there is one, and any history with the same changes of
each identity leads to the same answer; what is looked up and counted agrees with what is listed. -/
theorem fetch_after_history (records : List MediaRecord) (changes : List Change) (l : MediaList)
    (ctx : Context) (sort : Option SortTerm) :
    let s := (Store.ofRecords records).applyAll changes
    let history := Change.history records changes
    let resolved := l.resolve ctx sort
    (∃ result, l.fetch s.fetch ctx sort = .ok result ∧
      (∀ r, r ∈ result ↔ Change.IsCurrent history r ∧ resolved.selection.selects r) ∧
      (result.map (·.id)).Nodup ∧
      (result.Pairwise fun a b => resolved.order.compare a b = .lt) ∧
      (∀ rows, (Table.ofHistory history).Lists rows →
        l.fetch (fetchRows rows) ctx sort = .ok result) ∧
      ∀ records' changes', Change.SameByIdentity history (Change.history records' changes') →
        l.fetch ((Store.ofRecords records').applyAll changes').fetch ctx sort = .ok result) ∧
    (Table.ofHistory history).Lists s.toList ∧
    (∀ i, s.get? i = Table.ofHistory history i) ∧
    ∀ o, ∃ all, s.fetch (.always true) o = .ok all ∧ all.length = s.size ∧
      ∀ i r, s.get? i = some r ↔ r ∈ all ∧ r.id = i := by
  intro s history resolved
  have hs : s = Store.applyAll SortedBy.empty history := Store.applyAll_ofRecords records changes
  have current : ∀ r, r ∈ s ↔ Change.IsCurrent history r := fun r => by
    rw [hs, Store.mem_applyAll_empty]
  have mirrors : (Table.ofHistory history).Mirrors s := by
    rw [hs]
    exact Table.mirrors_empty.applyAll history
  refine ⟨⟨l.members s ctx sort, l.fetch_eq_members s ctx sort, fun r => ?_,
    l.nodup_id_members s ctx sort, l.pairwise_lt_members s ctx sort, fun rows hrows => ?_,
    fun records' changes' same => ?_⟩, mirrors.lists, fun i => ?_, fetch_always s⟩
  · rw [MediaList.mem_members, current]
  · rw [fetchRows_eq_fetch mirrors hrows, MediaList.fetch_eq_members]
  · have stores : (Store.ofRecords records').applyAll changes' = s := by
      refine SortedBy.ext_mem fun r => ?_
      rw [Store.applyAll_ofRecords, Store.mem_applyAll_empty, ← same.isCurrent_iff, current]
    rw [stores, MediaList.fetch_eq_members]
  · rw [hs, Table.get?_applyAll]

end Mediatheque
