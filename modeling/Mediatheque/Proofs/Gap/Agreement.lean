import Mediatheque.Listing.MediaList
import Mediatheque.Proofs.Predicate.Meaning

/-!
# Gaps are what the predicate of gaps holds of

A record has a gap exactly if the predicate of gaps holds of it (`holds_predicate_eq_hasGap`), so
the list of problems is the list of the records with gaps. The gaps are told from the progress
that a record derives from its stored numbers, the predicate asks for the numbers themselves;
that these come to the same is what `isStarted_iff` says.
-/

namespace Mediatheque

namespace MediaRecord

/-- Progress is unknown if there is no stored season, whatever the stored episode. -/
theorem progress_eq_none_iff (r : MediaRecord) : r.progress = none ↔ r.lastSeason = none := by
  rw [progress, Progress.ofFields?, Option.map_eq_none_iff]

/-- A movie is started if it was watched, a show if its stored season is positive. -/
theorem isStarted_iff (r : MediaRecord) :
    r.isStarted = some true ↔
      (r.kind = .movie ∧ r.watched = some true) ∨
        (r.kind = .series ∧ ∃ season, r.lastSeason = some season ∧ 1 ≤ season.toInt) := by
  unfold isStarted
  cases r.kind with
  | movie => simp
  | series =>
    cases h : r.lastSeason with
    | none => simp [progress, Progress.ofFields?, h]
    | some season =>
      simp [progress, Progress.ofFields?, h, Progress.isStarted_ofNumbers]

end MediaRecord

namespace GapRules

open Predicate

variable {r : MediaRecord}

theorem holds_isWatchedMovie_iff :
    isWatchedMovie.holds r ↔ r.kind = .movie ∧ r.watched = some true := by
  have flag := holds_is_iff (r := r) (f := .watched) (o := r.watched) (a := true) rfl
  simp [isWatchedMovie, flag]

/-- The stored season is a first one or a later one. -/
theorem holds_someSeason_iff :
    (atLeast .lastSeason (1 : Int64)).holds r ↔
      ∃ season, r.lastSeason = some season ∧ 1 ≤ season.toInt := by
  have order : ∀ season : Int64, (compare season 1).isGE ↔ 1 ≤ season.toInt :=
    fun season => Std.isGE_compare.trans Int64.le_iff_toInt_le
  rw [holds_atLeast_iff (o := r.lastSeason) rfl]
  simp only [order]

theorem holds_isBegunShow_iff :
    isBegunShow.holds r ↔
      r.kind = .series ∧ ∃ season, r.lastSeason = some season ∧ 1 ≤ season.toInt := by
  simp [isBegunShow, holds_someSeason_iff]

/-- A record lacks a piece of information if the rules ask for it and its predicate holds. -/
theorem lacks_iff (rules : GapRules) (r : MediaRecord) (g : Gap) :
    r.lacks rules g ↔ rules.asksFor g ∧ (isGap g).holds r := by
  cases g with
  | watched =>
    have unknown := holds_isUnknown_iff (r := r) (f := .watched) (o := r.watched) rfl
    simp [MediaRecord.lacks, asksFor, isGap, MediaRecord.isMovie, unknown]
  | progress =>
    have unknown := holds_isUnknown_iff (r := r) (f := .lastSeason) (o := r.lastSeason) rfl
    simp [MediaRecord.lacks, asksFor, isGap, MediaRecord.isShow, unknown,
      MediaRecord.progress_eq_none_iff]
  | rating =>
    have unknown := holds_isUnknown_iff (r := r) (f := .rating) (o := r.rating) rfl
    simp only [MediaRecord.lacks, asksFor, isGap, Bool.and_eq_true, beq_iff_eq,
      MediaRecord.isStarted_iff, Option.isNone_iff_eq_none, holds_and, List.all_cons,
      List.all_nil, and_true, unknown, holds_or, List.any_cons, List.any_nil, Bool.or_eq_true,
      Bool.false_eq_true, or_false, holds_isWatchedMovie_iff, holds_isBegunShow_iff]
    rw [and_assoc, and_comm (b := r.rating = none)]
  | watchAgain =>
    have unknown := holds_isUnknown_iff (r := r) (f := .watchAgain) (o := r.watchAgain) rfl
    simp [MediaRecord.lacks, asksFor, isGap, MediaRecord.isMovie, unknown,
      holds_isWatchedMovie_iff, and_assoc]

/-- The predicate of gaps holds if the record lacks something. -/
theorem holds_predicate_iff (rules : GapRules) (r : MediaRecord) :
    rules.predicate.holds r ↔ ∃ g, g ∈ r.gaps rules := by
  rw [predicate, holds_or, List.any_map, List.any_filter, List.any_eq_true]
  simp only [MediaRecord.mem_gaps, lacks_iff, Named.mem_all, true_and, Bool.and_eq_true,
    Function.comp]

/-- **The predicate of gaps holds of the records with gaps**, under all rules; so under the rules
of the settings these are the records in the list of problems. -/
theorem holds_predicate_eq_hasGap (r : MediaRecord) :
    (∀ rules : GapRules, rules.predicate.holds r = r.hasGap rules ∧
      (rules.predicate.holds r ↔ r.gaps rules ≠ [])) ∧
    ∀ (ctx : Context) (sort : Option SortTerm),
      ((MediaList.builtIn .problems).resolve ctx sort).selection.selects r =
        r.hasGap ctx.settings.gaps := by
  have gaps : ∀ rules : GapRules, rules.predicate.holds r ↔ r.gaps rules ≠ [] := by
    intro rules
    rw [holds_predicate_iff, ← List.isEmpty_eq_false_iff_exists_mem, List.isEmpty_eq_false_iff]
  have same : ∀ rules : GapRules, rules.predicate.holds r = r.hasGap rules := by
    intro rules
    rw [Bool.eq_iff_iff, gaps, MediaRecord.hasGap, Bool.not_eq_true', List.isEmpty_eq_false_iff]
  refine ⟨fun rules => ⟨same rules, gaps rules⟩, fun ctx sort => ?_⟩
  -- a built-in list has no second stage
  rw [← same]
  exact Bool.and_true _

end GapRules

end Mediatheque
