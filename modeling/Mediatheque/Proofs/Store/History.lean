import Mediatheque.Store

/-!
# The history of a store

A store is changed by storing and by removing records. What it holds after a history of changes
is told by the history alone: the records that were stored and whose identity no later change
concerns (`mem_applyAll_empty`). A table that keeps its records under keys of their own, in no
order, goes through the same history as the store does, step by step (`get?_applyAll`); so each
record in it is kept under its own identity.
-/

namespace Mediatheque

open Std

/-- A change of a store. -/
inductive Change where
  /-- A record is stored, instead of its version before. -/
  | upsert (r : MediaRecord)
  /-- The record with the identity is removed. -/
  | remove (id : MediaId)

namespace Change

/-- The identity that a change concerns. -/
def id : Change → MediaId
  | .upsert r => r.id
  | .remove id => id

/-- The record that a change stores, if it stores one. -/
def stored? : Change → Option MediaRecord
  | .upsert r => some r
  | .remove _ => none

/-- The history of a store that begins with some records: they are stored, and then the changes
follow. -/
def history (records : List MediaRecord) (changes : List Change) : List Change :=
  records.map .upsert ++ changes

/-- After a history the record is the current version under its identity: it was stored, and no
later change concerns its identity. -/
def IsCurrent (history : List Change) (r : MediaRecord) : Prop :=
  ∃ before after, history = before ++ .upsert r :: after ∧ ∀ c ∈ after, c.id ≠ r.id

/-- Two histories have the same changes of each identity, in the same order. -/
def SameByIdentity (h h' : List Change) : Prop :=
  ∀ i : MediaId, (h.filter fun c => c.id = i) = h'.filter fun c => c.id = i

theorem not_isCurrent_nil (r : MediaRecord) : ¬IsCurrent [] r := by
  rintro ⟨before, after, h, -⟩
  exact List.append_ne_nil_of_right_ne_nil before (List.cons_ne_nil _ _) h.symm

theorem isCurrent_cons {c : Change} {h : List Change} {r : MediaRecord} :
    IsCurrent (c :: h) r ↔ IsCurrent h r ∨ (c = .upsert r ∧ ∀ d ∈ h, d.id ≠ r.id) := by
  constructor
  · rintro ⟨before, after, heq, hafter⟩
    cases before with
    | nil =>
      obtain ⟨rfl, rfl⟩ := List.cons.inj heq
      exact .inr ⟨rfl, hafter⟩
    | cons d before =>
      obtain ⟨-, rfl⟩ := List.cons.inj heq
      exact .inl ⟨before, after, rfl, hafter⟩
  · rintro (⟨before, after, rfl, hafter⟩ | ⟨rfl, hafter⟩)
    · exact ⟨c :: before, after, rfl, hafter⟩
    · exact ⟨[], h, rfl, hafter⟩

/-- Only the changes of its own identity tell whether a record is current. -/
theorem isCurrent_filter_iff {h : List Change} {r : MediaRecord} :
    IsCurrent (h.filter fun c => c.id = r.id) r ↔ IsCurrent h r := by
  induction h with
  | nil => rfl
  | cons c h ih =>
    have quiet : (∀ d ∈ h.filter fun c => c.id = r.id, d.id ≠ r.id) ↔ ∀ d ∈ h, d.id ≠ r.id := by
      simp only [List.mem_filter, decide_eq_true_eq]
      exact ⟨fun hq d hd heq => hq d ⟨hd, heq⟩ heq, fun hq d hd => hq d hd.1⟩
    by_cases hc : c.id = r.id
    · rw [List.filter_cons_of_pos (by simpa using hc), isCurrent_cons, isCurrent_cons, ih, quiet]
    · rw [List.filter_cons_of_neg (by simpa using hc), isCurrent_cons, ih]
      exact ⟨.inl, fun hr => hr.resolve_right fun ⟨heq, _⟩ => hc (heq ▸ rfl)⟩

theorem SameByIdentity.isCurrent_iff {h h' : List Change} (same : SameByIdentity h h')
    {r : MediaRecord} : IsCurrent h r ↔ IsCurrent h' r := by
  rw [← isCurrent_filter_iff, same r.id, isCurrent_filter_iff]

end Change

/-! ### The store -/

namespace Store

/-- The store after a change. -/
def apply (s : Store) : Change → Store
  | .upsert r => s.upsert r
  | .remove id => s.remove id

/-- The store after several changes. -/
def applyAll (s : Store) (changes : List Change) : Store := changes.foldl apply s

/-- A record is there after a change if the change stored it, or if it was there and the change
concerns another one. -/
theorem mem_apply {s : Store} {c : Change} {r : MediaRecord} :
    r ∈ s.apply c ↔ c = .upsert r ∨ r ∈ s ∧ c.id ≠ r.id := by
  have other : ∀ i : MediaId, compare i r.id ≠ .eq ↔ i ≠ r.id :=
    fun i => not_congr LawfulEqOrd.compare_eq_iff_eq
  cases c with
  | upsert a =>
    rw [apply, upsert, SortedBy.mem_insert, other, Change.upsert.injEq, eq_comm]
    rfl
  | remove i =>
    rw [apply, remove, SortedBy.mem_erase, other]
    simp [Change.id]

/-- A record is there after several changes if it is current after them, or if it was there and
none of them concerns it. -/
theorem mem_applyAll {s : Store} {h : List Change} {r : MediaRecord} :
    r ∈ s.applyAll h ↔ Change.IsCurrent h r ∨ (r ∈ s ∧ ∀ c ∈ h, c.id ≠ r.id) := by
  induction h generalizing s with
  | nil => simp [applyAll, Change.not_isCurrent_nil]
  | cons c h ih =>
    have step : s.applyAll (c :: h) = (s.apply c).applyAll h := rfl
    rw [step, ih, mem_apply, Change.isCurrent_cons, List.forall_mem_cons]
    constructor
    · rintro (hr | ⟨heq | ⟨hr, hc⟩, later⟩)
      · exact .inl (.inl hr)
      · exact .inl (.inr ⟨heq, later⟩)
      · exact .inr ⟨hr, hc, later⟩
    · rintro ((hr | ⟨heq, later⟩) | ⟨hr, hc, later⟩)
      · exact .inl hr
      · exact .inr ⟨.inl heq, later⟩
      · exact .inr ⟨.inr ⟨hr, hc⟩, later⟩

/-- From the empty store, the records that are current are there. -/
theorem mem_applyAll_empty {h : List Change} {r : MediaRecord} :
    r ∈ applyAll SortedBy.empty h ↔ Change.IsCurrent h r := by
  rw [mem_applyAll]
  simp

/-- A store of some records has gone through the history that begins with them. -/
theorem applyAll_ofRecords (records : List MediaRecord) (changes : List Change) :
    (ofRecords records).applyAll changes =
      applyAll SortedBy.empty (Change.history records changes) := by
  have stored : ofRecords records = applyAll SortedBy.empty (records.map .upsert) := by
    rw [applyAll, List.foldl_map]
    rfl
  rw [stored, applyAll, applyAll, applyAll, Change.history, List.foldl_append]

/-- A record is found under its own identity. -/
theorem get?_eq_some_iff {s : Store} {i : MediaId} {r : MediaRecord} :
    s.get? i = some r ↔ r ∈ s ∧ r.id = i := by
  rw [get?, SortedBy.find?_eq_some_iff, LawfulEqOrd.compare_eq_iff_eq, eq_comm (a := i)]

/-- After a change, its identity leads to what it stored, and every other one to what was there. -/
theorem get?_apply {s : Store} {c : Change} {i : MediaId} :
    (s.apply c).get? i = if i = c.id then c.stored? else s.get? i := by
  refine Option.ext fun r => ?_
  rw [get?_eq_some_iff, mem_apply]
  by_cases hi : i = c.id
  · rw [if_pos hi]
    constructor
    · rintro ⟨rfl | ⟨-, hne⟩, hid⟩
      · rfl
      · exact absurd (hid.trans hi).symm hne
    · intro h
      cases c with
      | upsert a => cases h; exact ⟨.inl rfl, hi.symm⟩
      | remove j => cases h
  · rw [if_neg hi, get?_eq_some_iff]
    constructor
    · rintro ⟨rfl | ⟨hr, -⟩, hid⟩
      · exact absurd hid.symm hi
      · exact ⟨hr, hid⟩
    · rintro ⟨hr, rfl⟩
      exact ⟨.inr ⟨hr, fun h => hi h.symm⟩, rfl⟩

/-- The records of a store have distinct identities. -/
theorem pairwise_id_ne (s : Store) : s.toList.Pairwise fun a b => a.id ≠ b.id :=
  s.increasing.imp fun {a b} hab heq => by
    rw [heq, ReflOrd.compare_self] at hab
    cases hab

end Store

/-! ### Keyed tables -/

/-- A table that keeps records under keys. -/
abbrev Table := MediaId → Option MediaRecord

namespace Table

/-- The table without records. -/
def empty : Table := fun _ => none

/-- The table after a change: a record is put under its identity. -/
def apply (t : Table) : Change → Table
  | .upsert r => fun i => if i = r.id then some r else t i
  | .remove id => fun i => if i = id then none else t i

/-- The table after a history. -/
def ofHistory (h : List Change) : Table := h.foldl apply empty

/-- The records are those of the table, in the order of some walk through its keys. -/
def Lists (t : Table) (rows : List MediaRecord) : Prop :=
  ∃ keys : List MediaId, keys.Nodup ∧ (∀ i, i ∈ keys ↔ (t i).isSome) ∧ rows = keys.filterMap t

/-- The table and the store have the same record under every identity. -/
def Mirrors (t : Table) (s : Store) : Prop := ∀ i, t i = s.get? i

variable {t : Table} {s : Store}

theorem mirrors_empty : empty.Mirrors SortedBy.empty := fun _ => rfl

theorem apply_eq (c : Change) (i : MediaId) :
    t.apply c i = if i = c.id then c.stored? else t i := by
  cases c with
  | upsert r => rfl
  | remove j => rfl

/-- A change keeps the table and the store alike. -/
theorem Mirrors.apply (h : t.Mirrors s) (c : Change) : (t.apply c).Mirrors (s.apply c) := by
  intro i
  rw [apply_eq, Store.get?_apply, h i]

/-- So does a run of changes. -/
theorem Mirrors.applyAll (h : t.Mirrors s) (changes : List Change) :
    Mirrors (changes.foldl Table.apply t) (s.applyAll changes) := by
  induction changes generalizing t s with
  | nil => exact h
  | cons c changes ih => exact ih (h.apply c)

/-- Under every identity a history leaves the same record in a table as in a store. -/
theorem get?_applyAll (h : List Change) (i : MediaId) :
    (Store.applyAll SortedBy.empty h).get? i = ofHistory h i :=
  (mirrors_empty.applyAll h i).symm

/-- The identities of records that are in the table lead back to the records. -/
theorem filterMap_map_id {l : List MediaRecord} (h : ∀ r ∈ l, t r.id = some r) :
    (l.map (·.id)).filterMap t = l := by
  induction l with
  | nil => rfl
  | cons r l ih =>
    rw [List.map_cons, List.filterMap_cons_some (h r List.mem_cons_self),
      ih fun a ha => h a (List.mem_cons_of_mem r ha)]

/-- The records of the store are a walk through the table. -/
theorem Mirrors.lists (h : t.Mirrors s) : t.Lists s.toList := by
  have own : ∀ r ∈ s.toList, t r.id = some r := fun r hr => by
    rw [h r.id, Store.get?_eq_some_iff]
    exact ⟨hr, rfl⟩
  refine ⟨s.toList.map (·.id), List.pairwise_map.2 s.pairwise_id_ne, fun i => ?_,
    (filterMap_map_id own).symm⟩
  rw [List.mem_map, Option.isSome_iff_exists]
  constructor
  · rintro ⟨r, hr, rfl⟩
    exact ⟨r, own r hr⟩
  · rintro ⟨r, hr⟩
    rw [h i, Store.get?_eq_some_iff] at hr
    exact ⟨r, hr⟩

/-- A walk through the table meets the records of the store. -/
theorem Mirrors.mem_iff_of_lists (h : t.Mirrors s) {rows : List MediaRecord} (hrows : t.Lists rows)
    {r : MediaRecord} : r ∈ rows ↔ r ∈ s := by
  obtain ⟨keys, -, hkeys, rfl⟩ := hrows
  rw [List.mem_filterMap]
  constructor
  · rintro ⟨i, -, hi⟩
    rw [h i, Store.get?_eq_some_iff] at hi
    exact hi.1
  · intro hr
    have found : t r.id = some r := by rw [h r.id, Store.get?_eq_some_iff]; exact ⟨hr, rfl⟩
    exact ⟨r.id, (hkeys r.id).2 (by rw [found]; rfl), found⟩

/-- A walk through the table meets no identity twice, since every record is under its own. -/
theorem Mirrors.pairwise_id_ne_of_lists (h : t.Mirrors s) {rows : List MediaRecord}
    (hrows : t.Lists rows) : rows.Pairwise fun a b => a.id ≠ b.id := by
  obtain ⟨keys, hnodup, -, rfl⟩ := hrows
  have own : ∀ {i : MediaId} {r : MediaRecord}, t i = some r → r.id = i := by
    intro i r hi
    rw [h i, Store.get?_eq_some_iff] at hi
    exact hi.2
  refine List.Pairwise.filterMap t (fun i j hij a ha b hb heq => hij ?_) hnodup
  rw [← own ha, ← own hb, heq]

end Table

end Mediatheque
