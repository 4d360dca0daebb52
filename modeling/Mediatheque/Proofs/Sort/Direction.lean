import Mediatheque.Proofs.Sort.Sorting
import Mathlib.Data.List.SplitBy

/-!
# Sorting the other way round

In the other direction a list is not the same list from its end. Records without a value under the
key stay last, and in the same order; the others fall into runs of records with the same value, and
it is the runs that change places: each of them keeps its own order, which the second term of the
sort order and the identities decide, in the same direction as before (`runs_sort_reverse`). What
the runs of a sorted list are is said by `AreRuns`, and that they can be read in both directions by
`AreRuns.reverse`.
-/

namespace Mediatheque

open Std

/-! ### Both directions -/

instance : (k : SortKey) → LawfulEqOrd k.Carrier
  | .title => inferInstanceAs (LawfulEqOrd String)
  | .releaseDate => inferInstanceAs (LawfulEqOrd Date)
  | .rating => inferInstanceAs (LawfulEqOrd StarRating)
  | .progress => inferInstanceAs (LawfulEqOrd Progress)
  | .dateAdded => inferInstanceAs (LawfulEqOrd Instant)

instance : (k : SortKey) → DecidableEq k.Carrier
  | .title => inferInstanceAs (DecidableEq String)
  | .releaseDate => inferInstanceAs (DecidableEq Date)
  | .rating => inferInstanceAs (DecidableEq StarRating)
  | .progress => inferInstanceAs (DecidableEq Progress)
  | .dateAdded => inferInstanceAs (DecidableEq Instant)

namespace SortDirection

variable {α : Type} [Ord α] (d : SortDirection)

/-- What ties in a direction is the same, or missing on both sides. -/
theorem compareMissingLast_eq_eq_iff [LawfulEqOrd α] {a b : Option α} :
    d.compareMissingLast a b = .eq ↔ a = b := by
  have apply_eq : ∀ o : Ordering, d.apply o = .eq ↔ o = .eq := by
    intro o
    cases d <;> cases o <;> decide
  cases a with
  | none => cases b <;> simp [compareMissingLast]
  | some a =>
    cases b with
    | none => simp [compareMissingLast]
    | some b => rw [compareMissingLast, apply_eq, LawfulEqOrd.compare_eq_iff_eq, Option.some.injEq]

/-- What is not missing compares the other way round in the other direction. -/
theorem compareMissingLast_reverse [OrientedOrd α] (a b : α) :
    d.reverse.compareMissingLast (some a) (some b) = d.compareMissingLast (some b) (some a) := by
  have swap : compare b a = (compare a b).swap := OrientedCmp.eq_swap
  cases d with
  | ascending => exact swap.symm
  | descending =>
    show compare a b = (compare b a).swap
    rw [swap, Ordering.swap_swap]

end SortDirection

namespace SortTerm

variable {t : SortTerm} {a b : MediaRecord}

/-- The same key in the other direction. -/
def reverse (t : SortTerm) : SortTerm := ⟨t.key, t.direction.reverse⟩

/-- The order of records that tie on a term. -/
def tieOrder (t : SortTerm) : SortOrder := ⟨[t.key.tieBreaker]⟩

/-- Records tie on a term if they have the same under its key, in whatever direction. -/
theorem compare_eq_eq_iff : t.compare a b = .eq ↔ a.underKey t.key = b.underKey t.key :=
  t.direction.compareMissingLast_eq_eq_iff

theorem compare_reverse_eq_eq_iff : t.reverse.compare a b = .eq ↔ t.compare a b = .eq := by
  rw [compare_eq_eq_iff, compare_eq_eq_iff]
  rfl

/-- Records that are known under a key compare the other way round in the other direction. -/
theorem compare_reverse (ha : (a.underKey t.key).isSome) (hb : (b.underKey t.key).isSome) :
    t.reverse.compare a b = t.compare b a := by
  obtain ⟨x, hx⟩ := Option.isSome_iff_exists.1 ha
  obtain ⟨y, hy⟩ := Option.isSome_iff_exists.1 hb
  rw [compare, compare, hx, hy]
  exact (congrArg₂ t.direction.reverse.compareMissingLast hx hy).trans
    (t.direction.compareMissingLast_reverse x y)

/-- Records that are not known under a key come after those that are. -/
theorem compare_eq_gt_of_missing (ha : a.underKey t.key = none)
    (hb : (b.underKey t.key).isSome) : t.compare a b = .gt := by
  obtain ⟨y, hy⟩ := Option.isSome_iff_exists.1 hb
  rw [compare, ha, hy]
  rfl

/-- Under the order of a term records compare on the term, and if they tie, by what is left. -/
theorem compare_toOrder_eq_lt_iff :
    t.toOrder.compare a b = .lt ↔
      t.compare a b = .lt ∨ t.compare a b = .eq ∧ t.tieOrder.compare a b = .lt :=
  Ordering.then_eq_lt

end SortTerm

/-! ### Runs -/

/-- The runs of a list: its records cut into lists, each as long as it can be, of records that have
the same under a key. -/
def SortKey.runs (k : SortKey) (l : List MediaRecord) : List (List MediaRecord) :=
  l.splitBy fun a b => a.underKey k = b.underKey k

/-- The runs are the list. -/
@[simp] theorem SortKey.flatten_runs (k : SortKey) (l : List MediaRecord) :
    (k.runs l).flatten = l := List.flatten_splitBy _ l

/-- Records of one run have the same under the key. -/
theorem SortKey.underKey_eq_of_mem {k : SortKey} {l run : List MediaRecord} (hrun : run ∈ k.runs l)
    {a b : MediaRecord} (ha : a ∈ run) (hb : b ∈ run) : a.underKey k = b.underKey k := by
  have neighbours : (run.map (·.underKey k)).IsChain Eq :=
    (List.isChain_map _).2 <| (List.isChain_of_mem_splitBy hrun).imp fun _ _ => of_decide_eq_true
  exact neighbours.pairwise.forall_of_forall (fun _ _ => rfl) (List.mem_map_of_mem ha)
    (List.mem_map_of_mem hb)

namespace SortTerm

/-- All records of a list come before all of a later one, which has some. -/
def IsBefore (t : SortTerm) (run later : List MediaRecord) : Prop :=
  later ≠ [] ∧ ∀ a ∈ run, ∀ b ∈ later, t.compare a b = .lt

instance (t : SortTerm) : Trans t.IsBefore t.IsBefore t.IsBefore where
  trans {_ middle _} h h' := by
    obtain ⟨c, hc⟩ := List.exists_mem_of_ne_nil middle h.1
    exact ⟨h'.1, fun a ha b hb => TransCmp.lt_trans (h.2 a ha c hc) (h'.2 c hc b hb)⟩

/-- The lists are the runs of a list that is sorted by a term: none of them is empty, in each of
them records tie and are in the order that is left, and each comes before all later ones. -/
structure AreRuns (t : SortTerm) (runs : List (List MediaRecord)) : Prop where
  nil_notMem : [] ∉ runs
  within : ∀ run ∈ runs, run.Pairwise fun a b => t.compare a b = .eq ∧ t.tieOrder.compare a b = .lt
  across : runs.Pairwise t.IsBefore

namespace AreRuns

variable {t : SortTerm} {runs : List (List MediaRecord)}

/-- One after another, the runs are a sorted list. -/
theorem pairwise_lt (h : t.AreRuns runs) :
    runs.flatten.Pairwise fun a b => t.toOrder.compare a b = .lt := by
  refine List.pairwise_flatten.2 ⟨fun run hrun => (h.within run hrun).imp fun hab => ?_,
    h.across.imp fun before a ha b hb => ?_⟩
  · exact compare_toOrder_eq_lt_iff.2 (.inr hab)
  · exact compare_toOrder_eq_lt_iff.2 (.inl (before.2 a ha b hb))

/-- They are the runs of that list. -/
theorem runs_flatten (h : t.AreRuns runs) : t.key.runs runs.flatten = runs := by
  refine List.splitBy_flatten h.nil_notMem (fun run hrun => ?_) ?_
  · refine ((h.within run hrun).imp fun hab => ?_).isChain
    exact decide_eq_true (compare_eq_eq_iff.1 hab.1)
  · refine (h.across.imp_of_mem fun {run later} hrun hlater before => ?_).isChain
    have nonempty : run ≠ [] := fun nil => h.nil_notMem (nil ▸ hrun)
    refine ⟨nonempty, before.1, decide_eq_false fun same => ?_⟩
    have lt := before.2 _ (List.getLast_mem nonempty) _ (List.head_mem before.1)
    rw [compare_eq_eq_iff.2 same] at lt
    cases lt

/-- In the other direction the runs come in the other order, and each is as it was. -/
theorem reverse (h : t.AreRuns runs)
    (known : ∀ run ∈ runs, ∀ a ∈ run, (a.underKey t.key).isSome) :
    t.reverse.AreRuns runs.reverse := by
  refine ⟨fun nil => h.nil_notMem (List.mem_reverse.1 nil), fun run hrun => ?_, ?_⟩
  · refine (h.within run (List.mem_reverse.1 hrun)).imp fun hab => ⟨?_, hab.2⟩
    exact compare_reverse_eq_eq_iff.2 hab.1
  · refine List.pairwise_reverse.2 (h.across.imp_of_mem fun hrun hlater before => ⟨?_, ?_⟩)
    · exact fun nil => h.nil_notMem (nil ▸ hrun)
    · intro a ha b hb
      rw [compare_reverse (known _ hlater a ha) (known _ hrun b hb)]
      exact before.2 b hb a ha

end AreRuns

/-- Where one run ends and the next one begins in a sorted list, all records of the one come before
all of the other. -/
theorem isBefore_of_mem_runs {t : SortTerm} {l run later : List MediaRecord}
    (hrun : run ∈ t.key.runs l) (hlater : later ∈ t.key.runs l)
    (sorted : ∀ a ∈ run, ∀ b ∈ later, t.toOrder.compare a b = .lt) {last first : MediaRecord}
    (hlast : last ∈ run) (hfirst : first ∈ later)
    (differ : last.underKey t.key ≠ first.underKey t.key) : t.IsBefore run later := by
  refine ⟨List.ne_nil_of_mem hfirst, fun a ha b hb => ?_⟩
  rcases compare_toOrder_eq_lt_iff.1 (sorted a ha b hb) with lt | ⟨tie, -⟩
  · exact lt
  · have same : last.underKey t.key = first.underKey t.key := calc
      last.underKey t.key = a.underKey t.key := SortKey.underKey_eq_of_mem hrun hlast ha
      _ = b.underKey t.key := compare_eq_eq_iff.1 tie
      _ = first.underKey t.key := SortKey.underKey_eq_of_mem hlater hb hfirst
    exact absurd same differ

/-- The runs of a sorted list are its runs in that sense. -/
theorem areRuns_runs {t : SortTerm} {l : List MediaRecord}
    (sorted : l.Pairwise fun a b => t.toOrder.compare a b = .lt) : t.AreRuns (t.key.runs l) := by
  rw [← t.key.flatten_runs l, List.pairwise_flatten] at sorted
  obtain ⟨inside, between⟩ := sorted
  refine ⟨List.nil_notMem_splitBy _ l, fun run hrun => ?_, ?_⟩
  · refine (inside run hrun).imp_of_mem fun ha hb lt => ?_
    have tie := compare_eq_eq_iff.2 (SortKey.underKey_eq_of_mem hrun ha hb)
    rw [compare_toOrder_eq_lt_iff, tie] at lt
    exact ⟨tie, by simpa using lt⟩
  · -- It is enough to look at neighbours, as runs are not empty.
    refine List.IsChain.pairwise (List.isChain_iff_getElem.2 fun i hi => ?_)
    obtain ⟨nonempty, nonempty', differ⟩ := (List.isChain_getLast_head_splitBy _ l).getElem i hi
    exact isBefore_of_mem_runs (List.getElem_mem _) (List.getElem_mem hi)
      (List.pairwise_iff_getElem.1 between i (i + 1) _ hi (Nat.lt_succ_self i))
      (List.getLast_mem nonempty) (List.head_mem nonempty') (of_decide_eq_false differ)

/-! ### Sorted lists -/

variable {t : SortTerm} {l : List MediaRecord}

/-- The records of a list that have something under a key. -/
def knownPart (t : SortTerm) (l : List MediaRecord) : List MediaRecord :=
  l.filter fun a => (a.underKey t.key).isSome

/-- The records of a list that have nothing under a key. -/
def missingPart (t : SortTerm) (l : List MediaRecord) : List MediaRecord :=
  l.filter fun a => !(a.underKey t.key).isSome

theorem mem_knownPart {a : MediaRecord} :
    a ∈ t.knownPart l ↔ a ∈ l ∧ (a.underKey t.key).isSome := List.mem_filter

theorem mem_missingPart {a : MediaRecord} :
    a ∈ t.missingPart l ↔ a ∈ l ∧ a.underKey t.key = none := by
  rw [missingPart, List.mem_filter, Bool.not_eq_true', Option.isSome_eq_false_iff,
    Option.isNone_iff_eq_none]

/-- In a sorted list what is missing stands last. -/
theorem knownPart_append_missingPart
    (sorted : l.Pairwise fun a b => t.toOrder.compare a b = .lt) :
    t.knownPart l ++ t.missingPart l = l := by
  induction l with
  | nil => rfl
  | cons a l ih =>
    obtain ⟨first, rest⟩ := List.pairwise_cons.1 sorted
    rw [knownPart, missingPart, List.filter_cons, List.filter_cons]
    cases ha : a.underKey t.key with
    | some x => exact congrArg (a :: ·) (ih rest)
    | none =>
      have none : ∀ b ∈ l, b.underKey t.key = none := by
        intro b hb
        refine Option.not_isSome_iff_eq_none.1 fun known => ?_
        have gt := compare_eq_gt_of_missing ha known
        have lt := first b hb
        rw [compare_toOrder_eq_lt_iff, gt] at lt
        simp at lt
      have known : t.knownPart l = [] := List.filter_eq_nil_iff.2 fun b hb => by simp [none b hb]
      have missing : t.missingPart l = l := List.filter_eq_self.2 fun b hb => by simp [none b hb]
      show t.knownPart l ++ a :: t.missingPart l = a :: l
      rw [known, missing, List.nil_append]

variable (distinct : l.Pairwise fun a b => a.id ≠ b.id)

include distinct

theorem pairwise_lt_knownPart :
    (t.knownPart (t.toOrder.sort l)).Pairwise fun a b => t.toOrder.compare a b = .lt :=
  (t.toOrder.pairwise_lt_sort distinct).filter _

/-- What is missing is in the order that is left. -/
theorem pairwise_lt_missingPart :
    (t.missingPart (t.toOrder.sort l)).Pairwise fun a b => t.tieOrder.compare a b = .lt := by
  refine ((t.toOrder.pairwise_lt_sort distinct).filter _).imp_of_mem fun {a b} ha hb lt => ?_
  have tie : t.compare a b = .eq :=
    compare_eq_eq_iff.2 ((mem_missingPart.1 ha).2.trans (mem_missingPart.1 hb).2.symm)
  rw [compare_toOrder_eq_lt_iff, tie] at lt
  simpa using lt

/-- What is missing is the same list in both directions. -/
theorem missingPart_sort_reverse :
    t.missingPart (t.reverse.toOrder.sort l) = t.missingPart (t.toOrder.sort l) := by
  refine t.tieOrder.eq_of_pairwise_lt (pairwise_lt_missingPart (t := t.reverse) distinct)
    (pairwise_lt_missingPart distinct) fun a => ?_
  rw [mem_missingPart, mem_missingPart, SortOrder.mem_sort, SortOrder.mem_sort]

/-- What is known is made of the same runs in both directions, which come the other way round. -/
theorem runs_knownPart_sort_reverse :
    t.key.runs (t.knownPart (t.reverse.toOrder.sort l)) =
      (t.key.runs (t.knownPart (t.toOrder.sort l))).reverse := by
  let runs := t.key.runs (t.knownPart (t.toOrder.sort l))
  have mem_runs : ∀ a, a ∈ runs.flatten ↔ a ∈ l ∧ (a.underKey t.key).isSome := fun a => by
    rw [SortKey.flatten_runs, mem_knownPart, SortOrder.mem_sort]
  have reversed : t.reverse.AreRuns runs.reverse := by
    refine (areRuns_runs (pairwise_lt_knownPart distinct)).reverse fun run hrun a ha => ?_
    exact ((mem_runs a).1 (List.mem_flatten.2 ⟨run, hrun, ha⟩)).2
  -- One after another the runs are sorted in the other direction, and there is one such list.
  have same : t.knownPart (t.reverse.toOrder.sort l) = runs.reverse.flatten := by
    refine t.reverse.toOrder.eq_of_pairwise_lt (pairwise_lt_knownPart (t := t.reverse) distinct)
      reversed.pairwise_lt fun a => ?_
    have reorder : a ∈ runs.reverse.flatten ↔ a ∈ runs.flatten := by
      simp only [List.mem_flatten, List.mem_reverse]
    rw [reorder, mem_runs]
    exact mem_knownPart.trans (and_congr_left' (SortOrder.mem_sort _))
  rw [same]
  exact reversed.runs_flatten

end SortTerm

/-! ### The other way round -/

namespace SortOrder

/-- **To sort the other way round is to reverse the runs, and nothing else**: ascending and
descending, a list with distinct identities comes out as records that are known under the key,
followed by those that are not. The latter are the same list in both directions. The former are cut
into the same runs of records that have the same under the key, which come the other way round;
within each of them, as among the records that are not known, the second term and then the identity
decide, and in the same direction. -/
theorem runs_sort_reverse (k : SortKey) {l : List MediaRecord}
    (distinct : l.Pairwise fun a b => a.id ≠ b.id) :
    let ascending := (SortTerm.mk k .ascending).toOrder.sort l
    let descending := (SortTerm.mk k .descending).toOrder.sort l
    ascending.Perm l ∧ descending.Perm l ∧
      ∃ up down missing, ascending = up ++ missing ∧ descending = down ++ missing ∧
        (∀ r ∈ up ++ down, (r.underKey k).isSome) ∧ (∀ r ∈ missing, r.underKey k = none) ∧
        k.runs down = (k.runs up).reverse ∧
        ∀ run ∈ missing :: k.runs up,
          run.Pairwise fun a b => (SortOrder.mk [k.tieBreaker]).compare a b = .lt := by
  intro ascending descending
  let t : SortTerm := ⟨k, .ascending⟩
  have sorted := t.toOrder.pairwise_lt_sort distinct
  have sorted' := t.reverse.toOrder.pairwise_lt_sort distinct
  have missing : t.missingPart descending = t.missingPart ascending :=
    SortTerm.missingPart_sort_reverse distinct
  refine ⟨sort_perm _ l, sort_perm _ l, t.knownPart ascending, t.knownPart descending,
    t.missingPart ascending, (SortTerm.knownPart_append_missingPart sorted).symm, ?_,
    fun r hr => ?_, fun r hr => (SortTerm.mem_missingPart.1 hr).2,
    SortTerm.runs_knownPart_sort_reverse distinct, fun run hrun => ?_⟩
  · rw [← missing]
    exact (SortTerm.knownPart_append_missingPart sorted').symm
  · rcases List.mem_append.1 hr with hr | hr
    · exact (SortTerm.mem_knownPart.1 hr).2
    · exact (SortTerm.mem_knownPart.1 hr).2
  · rcases List.mem_cons.1 hrun with rfl | hrun
    · exact SortTerm.pairwise_lt_missingPart (t := t) distinct
    · have runs := SortTerm.areRuns_runs (SortTerm.pairwise_lt_knownPart (t := t) distinct)
      exact (runs.within run hrun).imp And.right

/-- A movie with a rating, or without one. -/
def ratedMovie (createdAt : Instant) (number : BitVec 128) (title : String)
    (rating : Option StarRating) : MediaRecord :=
  { MediaRecord.blank ⟨⟨number⟩⟩ title .movie createdAt with rating }

/-- By rating, two movies with the same one stay in the order of their titles and change places
together with a third, and the one without a rating stays last. -/
theorem runs_sort_reverse_ratedMovies :
    let movie := ratedMovie ⟨⟨2023, 1, 1, by decide, by decide⟩, 0, 0, by decide, by decide⟩
    let heat := movie 1 "Heat" (some (.ofStars 4))
    let alien := movie 2 "Alien" (some (.ofStars 4))
    let drive := movie 3 "Drive" (some (.ofStars 3))
    let tenet := movie 4 "Tenet" none
    let l := [heat, alien, drive, tenet]
    (l.Pairwise fun a b => a.id ≠ b.id) ∧
      (SortTerm.mk .rating .ascending).toOrder.sort l = [drive, alien, heat] ++ [tenet] ∧
      (SortTerm.mk .rating .descending).toOrder.sort l = [alien, heat, drive] ++ [tenet] ∧
      (∀ r ∈ [drive, alien, heat], (r.underKey .rating).isSome) ∧ tenet.underKey .rating = none ∧
      SortKey.rating.runs [drive, alien, heat] = [[drive], [alien, heat]] ∧
      SortKey.rating.runs [alien, heat, drive] = [[alien, heat], [drive]] := by
  intro movie heat alien drive tenet l
  have distinct : l.Pairwise fun a b => a.id ≠ b.id := by decide
  have sorted {o : SortOrder} {m : List MediaRecord} (hm : ∀ r, r ∈ l ↔ r ∈ m)
      (increasing : m.Pairwise fun a b => o.compare a b = .lt) : o.sort l = m :=
    o.eq_of_pairwise_lt (o.pairwise_lt_sort distinct) increasing fun r => by rw [mem_sort, hm]
  have ascending : (SortTerm.mk .rating .ascending).toOrder.sort l =
      [drive, alien, heat] ++ [tenet] :=
    sorted (fun r => by simp only [l, List.mem_cons, List.mem_append]; tauto) (by decide)
  have descending : (SortTerm.mk .rating .descending).toOrder.sort l =
      [alien, heat, drive] ++ [tenet] :=
    sorted (fun r => by simp only [l, List.mem_cons, List.mem_append]; tauto) (by decide)
  obtain ⟨-, -, up, down, missing, hup, hdown, known, unknown, runs, -⟩ :=
    runs_sort_reverse .rating distinct
  have front {s : List MediaRecord} (hs : ∀ r ∈ s, (r.underKey .rating).isSome) :
      (s ++ missing).filter (fun r => (r.underKey .rating).isSome) = s := by
    have none : missing.filter (fun r => (r.underKey .rating).isSome) = [] :=
      List.filter_eq_nil_iff.2 fun r hr => by simp [unknown r hr]
    rw [List.filter_append, List.filter_eq_self.2 hs, none, List.append_nil]
  have up_eq : up = [drive, alien, heat] := by
    rw [← front fun r hr => known r (List.mem_append_left _ hr), ← hup, ascending]
    rfl
  have down_eq : down = [alien, heat, drive] := by
    rw [← front fun r hr => known r (List.mem_append_right _ hr), ← hdown, descending]
    rfl
  rw [up_eq] at known runs
  rw [down_eq] at runs
  exact ⟨distinct, ascending, descending, fun r hr => known r (List.mem_append_left _ hr), rfl, rfl,
    runs⟩

end SortOrder

end Mediatheque
