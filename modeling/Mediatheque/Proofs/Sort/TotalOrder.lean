import Mediatheque.Proofs.Sort.Sorting

/-!
# Orders are total

Sorting relies on its comparison: if three values compared in a circle, or two values each came
before the other, there would be no order to bring them into. No order of records does so, whatever
its terms are (`compare_isTotal`): an order can repeat a term, contradict it or have none. Records
tie only if they are versions of one record, and what decides between two records is the first term
on which they differ (`compare_eq_first`). Progress compares by numbers, and the end of a season by
a number beyond all episodes; what the numbers come to is said without them (`IsBefore`).
-/

namespace Mediatheque

open Std

/-- A comparison by which values can be sorted, and under which only values with the same `key`
tie. -/
structure IsTotal {α β : Type} (cmp : α → α → Ordering) (key : α → β) : Prop where
  /-- A value ties with itself. -/
  self : ∀ a, cmp a a = .eq
  /-- The other way round, values compare the other way round. -/
  swap : ∀ a b, cmp b a = (cmp a b).swap
  /-- What comes before a value comes before everything that does not come before the value. -/
  lt_of_lt_of_isLE : ∀ a b c, cmp a b = .lt → (cmp b c).isLE → cmp a c = .lt
  /-- What does not come after a value comes before everything that comes after the value. -/
  lt_of_isLE_of_lt : ∀ a b c, (cmp a b).isLE → cmp b c = .lt → cmp a c = .lt
  /-- What ties with a value ties with everything that ties with the value. -/
  eq_trans : ∀ a b c, cmp a b = .eq → cmp b c = .eq → cmp a c = .eq
  /-- Values that tie have the same key. -/
  key_eq : ∀ a b, cmp a b = .eq → key a = key b

/-- A lawful comparison is total. -/
theorem isTotal_of_transCmp {α β : Type} {cmp : α → α → Ordering} [TransCmp cmp] {key : α → β}
    (h : ∀ a b, cmp a b = .eq → key a = key b) : IsTotal cmp key where
  self _ := ReflCmp.compare_self
  swap _ _ := OrientedCmp.eq_swap
  lt_of_lt_of_isLE _ _ _ := TransCmp.lt_of_lt_of_isLE
  lt_of_isLE_of_lt _ _ _ := TransCmp.lt_of_isLE_of_lt
  eq_trans _ _ _ := TransCmp.eq_trans
  key_eq := h

/-! ### Progress -/

namespace Progress

/-- Less was watched: nothing instead of something, an earlier season, a season without its end,
or an earlier episode of a season. -/
inductive IsBefore : Progress → Progress → Prop where
  /-- Nothing is before everything that was started. -/
  | nothing {q : Progress} (h : q.isStarted) : IsBefore .nothing q
  /-- An earlier season is before a later one, however far each was watched. -/
  | season {p q : Progress} {s t : Ordinal} (hp : p.season? = some s) (hq : q.season? = some t)
      (h : s.number < t.number) : IsBefore p q
  /-- Every episode of a season is before its end. -/
  | ending (s e : Ordinal) : IsBefore (.episode s e) (.season s)
  /-- An earlier episode of a season is before a later one. -/
  | episode (s : Ordinal) {e f : Ordinal} (h : e.number < f.number) :
      IsBefore (.episode s e) (.episode s f)

theorem compare_eq_lt_iff_ranks {p q : Progress} :
    compare p q = .lt ↔ p.seasonRank < q.seasonRank ∨
      p.seasonRank = q.seasonRank ∧ p.episodeRank < q.episodeRank := by
  show compareLex (compareOn seasonRank) (compareOn episodeRank) p q = .lt ↔ _
  rw [compareLex, Ordering.then_eq_lt, compareOn, compareOn, Nat.compare_eq_lt, Nat.compare_eq_eq,
    Nat.compare_eq_lt]

/-- The rank of a season that was begun is its number. -/
theorem seasonRank_of_season? {p : Progress} {s : Ordinal} (h : p.season? = some s) :
    p.seasonRank = s.number.toNat := by
  rw [seasonRank, h]
  rfl

/-- Less watched, in numbers. -/
theorem IsBefore.ranks_lt {p q : Progress} (h : p.IsBefore q) :
    p.seasonRank < q.seasonRank ∨ p.seasonRank = q.seasonRank ∧ p.episodeRank < q.episodeRank := by
  cases h with
  | nothing h =>
    obtain ⟨s, hs⟩ := Option.isSome_iff_exists.1 h
    rw [seasonRank_of_season? hs]
    exact .inl s.pos
  | season hp hq h =>
    rw [seasonRank_of_season? hp, seasonRank_of_season? hq]
    exact .inl h
  | ending s e =>
    have small := e.number.toNat_lt
    have size : UInt64.size = 18446744073709551616 := rfl
    refine .inr ⟨rfl, ?_⟩
    simp only [episodeRank]
    omega
  | episode s h => exact .inr ⟨rfl, h⟩

/-- Smaller numbers mean that less was watched. -/
theorem isBefore_of_ranks_lt {p q : Progress}
    (h : p.seasonRank < q.seasonRank ∨
      p.seasonRank = q.seasonRank ∧ p.episodeRank < q.episodeRank) : p.IsBefore q := by
  rcases h with later | ⟨same, later⟩
  · cases hq : q.season? with
    | none =>
      have none : q.seasonRank = 0 := by rw [seasonRank, hq]; rfl
      omega
    | some t =>
      cases hp : p.season? with
      | none =>
        cases p with
        | nothing => exact .nothing (by rw [isStarted, hq]; rfl)
        | season s => cases hp
        | episode s e => cases hp
      | some s =>
        rw [seasonRank_of_season? hp, seasonRank_of_season? hq] at later
        exact .season hp hq later
  · cases q with
    | nothing => exact absurd later (Nat.not_lt_zero _)
    | season t =>
      cases p with
      | nothing => exact absurd same.symm (Nat.ne_of_gt t.pos)
      | season s => exact absurd later (Nat.lt_irrefl _)
      | episode s e =>
        obtain rfl := Ordinal.eq_of_toNat same
        exact .ending s e
    | episode t f =>
      cases p with
      | nothing => exact absurd same.symm (Nat.ne_of_gt t.pos)
      | season s =>
        have small := f.number.toNat_lt
        have size : UInt64.size = 18446744073709551616 := rfl
        simp only [episodeRank] at later
        omega
      | episode s e =>
        obtain rfl := Ordinal.eq_of_toNat same
        exact .episode s later

/-- Progress comes before other progress just if less was watched. -/
theorem compare_eq_lt_iff {p q : Progress} : compare p q = .lt ↔ p.IsBefore q := by
  rw [compare_eq_lt_iff_ranks]
  exact ⟨isBefore_of_ranks_lt, IsBefore.ranks_lt⟩

end Progress

/-! ### Records -/

namespace SortOrder

/-- Records compare as on the first term that tells them apart, and by identity if none does. -/
theorem compare_eq_first (o : SortOrder) (a b : MediaRecord) :
    o.compare a b =
      ((o.terms.map fun t => t.compare a b).find? fun r => r != .eq).getD
        (Ord.compare a.id b.id) := by
  show compareBy o.terms a b = _
  induction o.terms with
  | nil => rfl
  | cons t rest ih =>
    rw [compareBy, compareLex, ih, List.map_cons, List.find?_cons]
    cases t.compare a b <;> rfl

/-- Records tie just if no term tells them apart and they are versions of one record. -/
theorem compare_eq_eq_iff (o : SortOrder) (a b : MediaRecord) :
    o.compare a b = .eq ↔ a.id = b.id ∧ ∀ t ∈ o.terms, t.compare a b = .eq := by
  show compareBy o.terms a b = _ ↔ _
  induction o.terms with
  | nil =>
    rw [compareBy, compareOn, LawfulEqOrd.compare_eq_iff_eq]
    simp
  | cons t rest ih =>
    rw [compareBy, compareLex_eq_eq, ih, List.forall_mem_cons, and_left_comm]

/-- **Records are in a total order under every list of terms**: the first term that tells two
records apart decides, only versions of one record tie, and so sorting puts any records in order.
Progress is in a total order too, in which only the same progress ties, and what comes first is
that less was watched. -/
theorem compare_isTotal :
    (∀ o : SortOrder, IsTotal o.compare MediaRecord.id) ∧
    (∀ (o : SortOrder) (a b : MediaRecord),
      o.compare a b =
        ((o.terms.map fun t => t.compare a b).find? fun r => r != .eq).getD
          (Ord.compare a.id b.id) ∧
      (o.compare a b = .eq ↔ a.id = b.id ∧ ∀ t ∈ o.terms, t.compare a b = .eq)) ∧
    (∀ (o : SortOrder) (l : List MediaRecord),
      (o.sort l).Perm l ∧ (o.sort l).Pairwise fun a b => (o.compare a b).isLE) ∧
    IsTotal (Ord.compare : Progress → Progress → Ordering) id ∧
    ∀ p q : Progress, Ord.compare p q = .lt ↔ p.IsBefore q := by
  refine ⟨fun o => ?_, fun o a b => ⟨o.compare_eq_first a b, o.compare_eq_eq_iff a b⟩,
    fun o l => ⟨o.sort_perm l, o.pairwise_isLE_sort l⟩, ?_, fun p q => Progress.compare_eq_lt_iff⟩
  · exact isTotal_of_transCmp fun a b h => id_eq_of_compareBy h
  · exact isTotal_of_transCmp fun p q h => LawfulEqOrd.eq_of_compare h

end SortOrder

end Mediatheque
