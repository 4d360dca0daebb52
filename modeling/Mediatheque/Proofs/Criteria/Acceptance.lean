import Mediatheque.Criteria.Selection
import Mediatheque.Proofs.Predicate.Meaning

/-!
# What criteria accept

The conditions of criteria as they are meant, field by field (`AcceptsFields`, `Accepts`), and
that the two stages of a selection decide them: the predicate holds of the records whose fields
meet the conditions, and the refinement keeps of these the shows that also answer as wanted
(`selects_select_iff_accepts`). A condition that is left open asks for nothing.

Years are compared by way of days. A year whose first day the calendar does not have leaves its
side of the interval open, as does the last year of 32 bits, after which there is no other.
-/

namespace Mediatheque

open Std

/-! ### The first day of a year -/

/-- The calendar has the year. -/
def OnCalendar (year : Int) : Prop := firstYear ≤ year ∧ year ≤ lastYear

namespace Date

/-- A month with days in it comes no earlier than the first. -/
theorem one_le_month (d : Date) : 1 ≤ d.month := by
  refine Nat.pos_of_ne_zero fun h => ?_
  have hd := d.day_mem
  rw [h] at hd
  exact absurd (Nat.le_trans hd.1 hd.2) (by simp [daysInMonth])

/-- A year without a first day is not on the calendar. -/
theorem not_onCalendar {year : Int} (h : startOfYear? year = none) : ¬OnCalendar year := by
  intro hy
  have start := ofParts?_parts ⟨year, 1, 1, hy, by simp [daysInMonth]⟩
  rw [startOfYear?] at h
  rw [h] at start
  cases start

/-- A day is not before the first day of a year if it is in that year or a later one. -/
theorem isGE_compare_start (d : Date) {s : Date} (hm : s.month = 1) (hd : s.day = 1) :
    (compare d s).isGE ↔ s.year ≤ d.year := by
  have hmonth : (compare d.month s.month).isGE := by
    rw [hm]; exact isGE_compare.2 d.one_le_month
  have hday : (compare d.day s.day).isGE := by
    rw [hd]; exact isGE_compare.2 d.day_mem.1
  rw [show compare d s = (compare d.year s.year).then
    ((compare d.month s.month).then (compare d.day s.day)) from rfl]
  rcases Int.lt_trichotomy d.year s.year with h | h | h
  · rw [compare_eq_lt.2 h]
    simp only [Ordering.then, Ordering.isGE, Bool.false_eq_true, false_iff]
    omega
  · have same : compare d.year s.year = .eq := by rw [h]; exact ReflOrd.compare_self
    rw [same]
    revert hmonth hday
    cases compare d.month s.month <;> simp [Ordering.then, h]
  · rw [compare_eq_gt.2 h]
    simp only [Ordering.then, Ordering.isGE, true_iff]
    omega

/-- A day is before the first day of a year if it is in an earlier one. -/
theorem isLT_compare_start (d : Date) {s : Date} (hm : s.month = 1) (hd : s.day = 1) :
    (compare d s).isLT ↔ d.year < s.year := by
  rw [← Int.not_le, ← d.isGE_compare_start hm hd]
  cases compare d s <;> simp

end Date

namespace Criteria

/-! ### The conditions -/

/-- The record is known to have been released within the years of an interval. A bound the first
day of which (of the year after it, for the last year) is not on the calendar is no bound. -/
def ReleasedWithin (years : Interval Int32) (r : MediaRecord) : Prop :=
  ∃ d, r.releaseDate = some d ∧
    (OnCalendar years.low.toInt → years.low.toInt ≤ d.year) ∧
    (OnCalendar (years.high.toInt + 1) → d.year ≤ years.high.toInt)

/-- The fields of a record meet the conditions of criteria. What was watched is asked of movies
only, and what belongs to shows of shows only. -/
structure AcceptsFields (c : Criteria) (r : MediaRecord) : Prop where
  isAdult : ∀ b, c.isAdult = some b → r.isAdult = b
  kind : ∀ k, c.kind = some k → r.kind = k
  rating : ∀ i, c.rating = some i →
    ∃ x, r.rating = some x ∧ i.low.halfStars ≤ x.halfStars ∧ x.halfStars ≤ i.high.halfStars
  year : ∀ i, c.year = some i → ReleasedWithin i r
  seasonCount : ∀ i, c.seasonCount = some i →
    r.kind = .movie ∨ ∃ n, r.seasonCount = some n ∧ i.low ≤ n ∧ n ≤ i.high
  watchedMovie : ∀ b, c.watched = some b → r.kind = .movie → r.watched = some b
  watchAgain : ∀ b, c.watchAgain = some b → r.watchAgain = some b
  genres : c.genres ≠ .empty → ∃ g ∈ c.genres, g ∈ r.genres
  statuses : c.statuses ≠ .empty → ∃ s, r.status = some s ∧ s ∈ c.statuses
  formats : c.formats ≠ .empty → r.kind = .movie ∨ ∃ f, r.format = some f ∧ f ∈ c.formats
  tags : c.tags ≠ .empty → ∃ t ∈ c.tags, t ∈ r.tags

/-- A record meets the conditions of criteria on a day: its fields do, and if what was watched is
asked for, a show answers by whether its owner is caught up. -/
structure Accepts (today : Date) (policy : SeasonPolicy) (c : Criteria) (r : MediaRecord) : Prop
    extends AcceptsFields c r where
  watchedShow : ∀ b, c.watched = some b → r.kind = .series → r.isCaughtUp today policy = some b

/-! ### The clauses -/

variable {r : MediaRecord}

/-- A condition on shows holds of a movie and of what meets it. -/
theorem holds_showOnly_iff (p : Predicate) :
    (showOnly p).holds r ↔ r.kind = .movie ∨ p.holds r := by
  simp only [showOnly, Predicate.holds_or, List.any_cons, List.any_nil, Predicate.holds_and,
    List.all_cons, List.all_nil, Bool.or_eq_true, Bool.and_eq_true, Predicate.holds_isMovie,
    Predicate.holds_isShow, Bool.false_eq_true, or_false, and_true]
  cases r.kind <;> simp

theorem holds_yearClause_iff (years : Interval Int32) :
    (yearClause years).holds r ↔ ReleasedWithin years r := by
  have lower : ∀ d : Date,
      (toValue d).isAbove ((Date.startOfYear? years.low.toInt).map toValue) true ↔
        (OnCalendar years.low.toInt → years.low.toInt ≤ d.year) := by
    intro d
    cases h : Date.startOfYear? years.low.toInt with
    | none => simp [Value.isAbove, Date.not_onCalendar h]
    | some s =>
      obtain ⟨hy, hm, hd⟩ := Date.ofParts?_eq_some_iff.1 h
      have on : OnCalendar years.low.toInt := hy ▸ s.year_mem
      rw [Option.map_some, Value.isAbove_closed, d.isGE_compare_start hm hd, hy]
      simp [on]
  have upper : ∀ d : Date,
      (toValue d).isBelow ((Date.startOfYear? (years.high.toInt + 1)).map toValue) false ↔
        (OnCalendar (years.high.toInt + 1) → d.year ≤ years.high.toInt) := by
    intro d
    cases h : Date.startOfYear? (years.high.toInt + 1) with
    | none => simp [Value.isBelow, Date.not_onCalendar h]
    | some s =>
      obtain ⟨hy, hm, hd⟩ := Date.ofParts?_eq_some_iff.1 h
      have on : OnCalendar (years.high.toInt + 1) := hy ▸ s.year_mem
      rw [Option.map_some, Value.isBelow_open, d.isLT_compare_start hm hd, hy, Int.lt_add_one_iff]
      simp [on]
  rw [yearClause, Predicate.holds_within_iff (o := r.releaseDate) rfl]
  simp only [lower, upper]
  rfl

theorem holds_ratingClause_iff (i : Interval StarRating) :
    (Predicate.between .rating i.low i.high).holds r ↔
      ∃ x, r.rating = some x ∧ i.low.halfStars ≤ x.halfStars ∧
        x.halfStars ≤ i.high.halfStars := by
  have order : ∀ x y : StarRating,
      ((compare x y).isGE ↔ y.halfStars ≤ x.halfStars) ∧
        ((compare x y).isLE ↔ x.halfStars ≤ y.halfStars) := fun x y =>
    ⟨isGE_compare (a := x.halfStars.val), isLE_compare (a := x.halfStars.val)⟩
  rw [Predicate.holds_between_iff (o := r.rating) rfl]
  simp only [order]

theorem holds_seasonCountClause_iff (i : Interval UInt32) :
    (showOnly (.between .seasonCount i.low i.high)).holds r ↔
      r.kind = .movie ∨ ∃ n, r.seasonCount = some n ∧ i.low ≤ n ∧ n ≤ i.high := by
  rw [holds_showOnly_iff, Predicate.holds_between_iff (o := r.seasonCount) rfl]
  simp only [isGE_compare, isLE_compare]

/-- The flag decides of movies; of shows it decides where movies only are asked for. -/
theorem holds_watchedClause_iff (kind : Option MediaKind) (b : Bool) :
    (watchedClause kind b).holds r ↔
      if kind = some .movie then r.watched = some b
      else r.kind = .movie → r.watched = some b := by
  have flag := Predicate.holds_is_iff (r := r) (f := .watched) (o := r.watched) (a := b) rfl
  unfold watchedClause
  split
  · exact flag
  · simp only [Predicate.holds_or, List.any_cons, List.any_nil, Predicate.holds_and,
      List.all_cons, List.all_nil, Bool.or_eq_true, Bool.and_eq_true, Predicate.holds_isMovie,
      Predicate.holds_isShow, flag, Bool.false_eq_true, or_false, and_true]
    cases r.kind <;> simp

/-- A condition that is there holds if its predicate does, whatever it asks for. -/
theorem forall_map_iff {α : Type} {o : Option α} {f : α → Predicate} :
    (∀ p, o.map f = some p → p.holds r) ↔ ∀ a, o = some a → (f a).holds r := by
  constructor
  · rintro h a rfl
    exact h _ rfl
  · intro h p hp
    obtain ⟨a, ha, rfl⟩ := Option.map_eq_some_iff.1 hp
    exact h a ha

/-- A choice is a condition unless there is nothing to choose from. -/
theorem forall_choiceClause_iff {α : Type} [Ord α] [IsValue α] {f : Field} {s : SortedSet α}
    {P : Predicate → Prop} :
    (∀ p, choiceClause f s = some p → P p) ↔ (s ≠ .empty → P (.isIn f s.toList)) := by
  unfold choiceClause
  split
  · next h => simp [SortedBy.isEmpty_iff.1 h]
  · next h =>
    rw [SortedBy.isEmpty_iff] at h
    constructor
    · intro hp _
      exact hp _ rfl
    · intro hp p hp'
      cases hp'
      exact hp h

theorem forall_genreClause_iff (c : Criteria) :
    (∀ p, choiceClause .genres c.genres = some p → p.holds r) ↔
      (c.genres ≠ .empty → ∃ g ∈ c.genres, g ∈ r.genres) := by
  rw [forall_choiceClause_iff, Predicate.holds_isIn_set_iff (s := r.genres) rfl]
  rfl

theorem forall_tagClause_iff (c : Criteria) :
    (∀ p, choiceClause .tags c.tags = some p → p.holds r) ↔
      (c.tags ≠ .empty → ∃ t ∈ c.tags, t ∈ r.tags) := by
  rw [forall_choiceClause_iff, Predicate.holds_isIn_set_iff (s := r.tags) rfl]
  rfl

theorem forall_statusClause_iff (c : Criteria) :
    (∀ p, choiceClause .status c.statuses = some p → p.holds r) ↔
      (c.statuses ≠ .empty → ∃ s, r.status = some s ∧ s ∈ c.statuses) := by
  rw [forall_choiceClause_iff, Predicate.holds_isIn_iff (o := r.status) rfl]
  rfl

theorem forall_formatClause_iff (c : Criteria) :
    (∀ p, choiceClause .format c.formats = some p → (showOnly p).holds r) ↔
      (c.formats ≠ .empty → r.kind = .movie ∨ ∃ f, r.format = some f ∧ f ∈ c.formats) := by
  rw [forall_choiceClause_iff (P := fun p => (showOnly p).holds r), holds_showOnly_iff,
    Predicate.holds_isIn_iff (o := r.format) rfl]
  rfl

/-! ### The selection -/

/-- The predicate of a selection holds if every clause that is there does. -/
theorem holds_select_iff_clauses (today : Date) (policy : SeasonPolicy) (c : Criteria) :
    (c.select today policy).predicate.holds r ↔
      ∀ clause ∈ c.clauses, ∀ p, clause = some p → p.holds r := by
  rw [select, Predicate.holds_and, List.all_eq_true]
  simp only [List.mem_filterMap, id]
  constructor
  · intro h clause hc p hp
    exact h p ⟨clause, hc, hp⟩
  · rintro h p ⟨clause, hc, hp⟩
    exact h clause hc p hp

/-- The predicate of a selection decides the conditions on fields. -/
theorem holds_select_iff (today : Date) (policy : SeasonPolicy) (c : Criteria) :
    (c.select today policy).predicate.holds r ↔ c.AcceptsFields r := by
  rw [holds_select_iff_clauses]
  simp only [clauses, List.forall_mem_cons, List.not_mem_nil, false_imp_iff, implies_true, and_true,
    forall_map_iff, forall_genreClause_iff, forall_tagClause_iff, forall_statusClause_iff,
    forall_formatClause_iff, holds_yearClause_iff, holds_ratingClause_iff,
    holds_seasonCountClause_iff, holds_watchedClause_iff,
    Predicate.holds_is_known_iff (r := r) (f := .isAdult) (b := r.isAdult) rfl,
    Predicate.holds_is_known_iff (r := r) (f := .kind) (b := r.kind) rfl,
    Predicate.holds_is_iff (r := r) (f := .watchAgain) (o := r.watchAgain) rfl]
  constructor
  · rintro ⟨isAdult, kind, rating, year, seasonCount, watched, watchAgain, genres, statuses,
      formats, tags⟩
    refine ⟨isAdult, kind, rating, year, seasonCount, fun b hb hm => ?_, watchAgain, genres,
      statuses, formats, tags⟩
    have flag := watched b hb
    split at flag
    · exact flag
    · exact flag hm
  · intro h
    refine ⟨h.isAdult, h.kind, h.rating, h.year, h.seasonCount, fun b hb => ?_, h.watchAgain,
      h.genres, h.statuses, h.formats, h.tags⟩
    split
    · next hm => exact h.watchedMovie b hb (h.kind _ hm)
    · exact h.watchedMovie b hb

/-- The refinement decides the condition on shows, among records whose fields meet theirs. -/
theorem passesRefinement_select_iff {today : Date} {policy : SeasonPolicy} {c : Criteria}
    (h : c.AcceptsFields r) :
    (c.select today policy).passesRefinement r ↔
      ∀ b, c.watched = some b → r.kind = .series → r.isCaughtUp today policy = some b := by
  simp only [select, Selection.passesRefinement, refinement]
  split
  · next hm => simp [h.kind _ hm]
  · cases c.watched with
    | none => simp
    | some b =>
      simp only [Option.map_some, Option.all_some, Refinement.keeps, MediaRecord.isShow,
        Bool.or_eq_true, beq_iff_eq, Bool.not_eq_true', beq_eq_false_iff_ne, Option.some.injEq,
        forall_eq']
      by_cases hs : r.kind = .series
      · simp [hs]
      · simp [hs]

/-- A show is asked for its progress, so its watched flag makes no difference. -/
theorem Accepts.withFlag {today : Date} {policy : SeasonPolicy} {c : Criteria}
    (hs : r.kind = .series) (flag : Option Bool) (h : c.Accepts today policy r) :
    c.Accepts today policy { r with watched := flag } := by
  obtain ⟨⟨isAdult, kind, rating, year, seasonCount, -, watchAgain, genres, statuses, formats,
    tags⟩, watchedShow⟩ := h
  refine ⟨⟨isAdult, kind, rating, year, seasonCount, fun b _ hm => ?_, watchAgain, genres,
    statuses, formats, tags⟩, fun b hb _ => ?_⟩
  · exact absurd (hs.symm.trans hm) (by simp)
  · rw [← watchedShow b hb hs]
    simp only [MediaRecord.isCaughtUp, hs]
    rfl

/-- **Criteria select what they accept**: of the two stages the predicate decides the conditions
on fields, and both together decide all of them; there is a second stage exactly if the criteria
need one; and the watched flag of a show makes no difference. -/
theorem selects_select_iff_accepts (today : Date) (policy : SeasonPolicy) (c : Criteria)
    (r : MediaRecord) :
    ((c.select today policy).selects r ↔ c.Accepts today policy r) ∧
      ((c.select today policy).predicate.holds r ↔ c.AcceptsFields r) ∧
      (c.select today policy).refinement.isSome = c.needsRefinement ∧
      (r.kind = .series → ∀ flag : Option Bool,
        (c.select today policy).selects { r with watched := flag } =
          (c.select today policy).selects r) := by
  have both : ∀ r : MediaRecord,
      (c.select today policy).selects r ↔ c.Accepts today policy r := by
    intro r
    rw [Selection.selects, Bool.and_eq_true, holds_select_iff]
    constructor
    · rintro ⟨h, hw⟩
      exact ⟨h, (passesRefinement_select_iff h).1 hw⟩
    · intro h
      exact ⟨h.toAcceptsFields, (passesRefinement_select_iff h.toAcceptsFields).2 h.watchedShow⟩
  refine ⟨both r, holds_select_iff today policy c, ?_, fun hs flag => ?_⟩
  · rw [select, refinement, needsRefinement]
    split
    · next hm => simp [hm]
    · next hm => simp [hm]
  · rw [Bool.eq_iff_iff, both, both]
    exact ⟨Accepts.withFlag (r := { r with watched := flag }) hs r.watched,
      fun h => h.withFlag hs flag⟩

end Criteria

end Mediatheque
