import Mediatheque.Proofs.Gap.Agreement
import Mediatheque.Proofs.Listing.Leaves
import Mediatheque.Proofs.Media.Progress

/-!
# Restoring progress is invisible

A record that is restored from the text of its own progress may store other numbers than before:
an episode that is not positive is dropped, and a number beyond 32 bits is cut. But the numbers
tell the same progress (`TellsProgress`), and nothing that is asked of a record goes beyond the
progress they tell: not what its gaps are, not whether its owner is caught up, not how it compares,
and, because of the leaves they are built from, not the predicates of lists
(`restoreProgress_invisible`).
-/

namespace Mediatheque

namespace MediaRecord

/-- The record with other numbers for its progress. -/
def withNumbers (r : MediaRecord) (season episode : Option Int64) : MediaRecord :=
  { r with lastSeason := season, lastEpisode := episode }

/-- The numbers tell the progress that the record has. -/
def TellsProgress (r : MediaRecord) (season episode : Option Int64) : Prop :=
  (r.withNumbers season episode).progress = r.progress

variable {r : MediaRecord} {season episode : Option Int64}

/-! ### What follows from a record -/

/-- Whether anything was watched is told by the progress. -/
theorem TellsProgress.isStarted (h : r.TellsProgress season episode) :
    (r.withNumbers season episode).isStarted = r.isStarted := by
  unfold MediaRecord.isStarted
  rw [h]
  rfl

/-- Whether everything available was watched is told by the progress. -/
theorem TellsProgress.isCaughtUp (h : r.TellsProgress season episode) (today : Date)
    (policy : SeasonPolicy) :
    (r.withNumbers season episode).isCaughtUp today policy = r.isCaughtUp today policy := by
  unfold MediaRecord.isCaughtUp
  rw [h]
  rfl

/-- What a record lacks is told by the progress. -/
theorem TellsProgress.gaps (h : r.TellsProgress season episode) (rules : GapRules) :
    (r.withNumbers season episode).gaps rules = r.gaps rules := by
  have lacks : ∀ g, (r.withNumbers season episode).lacks rules g = r.lacks rules g := by
    intro g
    cases g with
    | watched => rfl
    | progress => rw [MediaRecord.lacks, h]; rfl
    | rating => rw [MediaRecord.lacks, h.isStarted]; rfl
    | watchAgain => rfl
  unfold MediaRecord.gaps
  rw [funext lacks]

/-! ### Order -/

/-- What is compared under a key is told by the progress. -/
theorem TellsProgress.underKey (h : r.TellsProgress season episode) (k : SortKey) :
    (r.withNumbers season episode).underKey k = r.underKey k := by
  cases k with
  | progress =>
    show (r.withNumbers season episode).comparableProgress = r.comparableProgress
    unfold comparableProgress
    rw [h]
    rfl
  | _ => rfl

/-- How a record compares is told by the progress. -/
theorem TellsProgress.compareBy (h : r.TellsProgress season episode) (l : List SortTerm)
    (x : MediaRecord) :
    SortOrder.compareBy l (r.withNumbers season episode) x = SortOrder.compareBy l r x ∧
      SortOrder.compareBy l x (r.withNumbers season episode) = SortOrder.compareBy l x r := by
  induction l with
  | nil => exact ⟨rfl, rfl⟩
  | cons t rest ih =>
    simp only [SortOrder.compareBy, compareLex, SortTerm.compare, h.underKey, ih, and_self]

/-! ### Predicates -/

/-- The numbers are asked for by the fields that store them only. -/
theorem fieldValue_withNumbers {f : Field} (hf : f.isStoredProgress = false) :
    (r.withNumbers season episode).fieldValue f = r.fieldValue f := by
  cases f <;> first | rfl | cases hf

/-- A season is there if there is progress. -/
theorem TellsProgress.lastSeason_eq_none_iff (h : r.TellsProgress season episode) :
    season = none ↔ r.lastSeason = none := by
  rw [← r.progress_eq_none_iff, ← h, progress_eq_none_iff]
  rfl

/-- A stored season is positive if anything was watched, as far as numbers tell. -/
theorem exists_positive_iff (r : MediaRecord) :
    (∃ s, r.lastSeason = some s ∧ 1 ≤ s.toInt) ↔ ∃ p, r.progress = some p ∧ p.isStarted := by
  rw [progress, Progress.ofFields?]
  cases r.lastSeason with
  | none => simp
  | some s => simp [Progress.isStarted_ofNumbers]

/-- A season is positive if the progress says that anything was watched. -/
theorem TellsProgress.positive_iff (h : r.TellsProgress season episode) :
    (∃ s, season = some s ∧ 1 ≤ s.toInt) ↔ ∃ s, r.lastSeason = some s ∧ 1 ≤ s.toInt := by
  rw [r.exists_positive_iff, ← h, ← exists_positive_iff]
  rfl

/-- A leaf of a list does not tell numbers apart that tell the same progress. -/
theorem TellsProgress.holds_leaf (h : r.TellsProgress season episode) {q : Predicate}
    (hq : q.IsListLeaf) : q.holds (r.withNumbers season episode) = q.holds r := by
  rcases hq.progress with hfield | rfl | rfl
  · exact Predicate.holds_leaf_congr hq.isLeaf fun f hf => fieldValue_withNumbers (hfield f hf)
  · have before := Predicate.holds_isUnknown_iff (r := r) (f := .lastSeason) (o := r.lastSeason) rfl
    have after := Predicate.holds_isUnknown_iff (r := r.withNumbers season episode)
      (f := .lastSeason) (o := season) rfl
    rw [Bool.eq_iff_iff, before, after, h.lastSeason_eq_none_iff]
  · rw [Bool.eq_iff_iff, GapRules.holds_someSeason_iff, GapRules.holds_someSeason_iff]
    exact h.positive_iff

/-- A list does not tell numbers apart that tell the same progress. -/
theorem TellsProgress.selects (h : r.TellsProgress season episode) (ctx : Context)
    (l : MediaList) :
    (l.selection ctx).selects (r.withNumbers season episode) = (l.selection ctx).selects r := by
  have keeps : ∀ s : Selection,
      s.passesRefinement (r.withNumbers season episode) = s.passesRefinement r := by
    intro s
    unfold Selection.passesRefinement Refinement.keeps
    simp only [h.isCaughtUp]
    rfl
  have holds := (l.isMadeOf_selection ctx).holds_congr fun q hq => h.holds_leaf hq
  rw [Selection.selects, Selection.selects, holds, keeps]

/-! ### Restoring -/

/-- The numbers of the progress of a record tell it. -/
theorem tellsProgress_restored (r : MediaRecord) :
    r.TellsProgress (r.restoreProgress r.progressText).lastSeason
      (r.restoreProgress r.progressText).lastEpisode := by
  rw [restoreProgress_progressText]
  exact r.progress_withProgress r.progress

/-- **Restoring progress from its own text is invisible**: the record has the progress that it
had, it differs in the numbers for it at most, and to restore it again changes nothing. All lists
select it as before, it has the same gaps under all rules, and compares in all orders as before.
And whatever progress a record is given, it has. -/
theorem restoreProgress_invisible (r : MediaRecord) :
    let r' := r.restoreProgress r.progressText
    r'.progress = r.progress ∧
      r' = { r with lastSeason := r'.lastSeason, lastEpisode := r'.lastEpisode } ∧
      r'.restoreProgress r.progressText = r' ∧ r'.restoreProgress r'.progressText = r' ∧
      (∀ (l : MediaList) (ctx : Context) (sort : Option SortTerm),
        (l.resolve ctx sort).selection.selects r' = (l.resolve ctx sort).selection.selects r) ∧
      (∀ rules : GapRules, r'.gaps rules = r.gaps rules) ∧
      (∀ (o : SortOrder) (x : MediaRecord),
        o.compare r' x = o.compare r x ∧ o.compare x r' = o.compare x r) ∧
      ∀ p : Option Progress, (r.withProgress p).progress = p := by
  intro r'
  have tells := r.tellsProgress_restored
  have same : r' = r.withNumbers r'.lastSeason r'.lastEpisode := rfl
  have told : r'.progress = r.progress := tells
  have text : r'.progressText = r.progressText := by
    rw [progressText, told, progressText]
  have again : r'.restoreProgress r.progressText = r' := rfl
  refine ⟨told, same, again, text ▸ again, fun l ctx sort => ?_, fun rules => ?_,
    fun o x => ?_, fun p => r.progress_withProgress p⟩
  · exact tells.selects ctx l
  · exact tells.gaps rules
  · exact tells.compareBy o.terms x

end MediaRecord

end Mediatheque
