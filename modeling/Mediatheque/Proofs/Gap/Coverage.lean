import Mediatheque.Proofs.Criteria.Acceptance
import Mediatheque.Proofs.Gap.Agreement

/-!
# No record falls between the lists

Whether everything available was watched has three answers: yes, no, and that it is not known. The
criteria that ask only for what was watched select the records with the answer wanted
(`selects_ofWatched_iff`), and a record has no answer just if it lacks its watched flag or its
progress (`isCaughtUp_eq_none_iff`). So every record is in exactly one of three places
(`selects_exactly_one`), and one that has no answer is in the list of problems, whatever the rules.
-/

namespace Mediatheque

namespace MediaRecord

/-- The record lacks its watched flag or its progress. -/
def LacksAnswer (rules : GapRules) (r : MediaRecord) : Prop :=
  .watched ∈ r.gaps rules ∨ .progress ∈ r.gaps rules

/-- Whether everything available was watched is not known of a movie without a flag and of a show
without progress, whatever the day and the rules. -/
theorem isCaughtUp_eq_none_iff (today : Date) (policy : SeasonPolicy) (rules : GapRules)
    {r : MediaRecord} : r.isCaughtUp today policy = none ↔ r.LacksAnswer rules := by
  simp only [LacksAnswer, mem_gaps, lacks, isMovie, isShow, isCaughtUp]
  cases r.kind with
  | movie => simp
  | series => simp

/-- A record that lacks its answer has a gap under all rules. -/
theorem LacksAnswer.exists_gap {rules : GapRules} {r : MediaRecord} (h : r.LacksAnswer rules)
    (rules' : GapRules) : ∃ g, g ∈ r.gaps rules' := by
  -- neither of the two gaps depends on the rules
  rcases h with h | h
  · rw [mem_gaps] at h
    exact ⟨.watched, mem_gaps.2 h⟩
  · rw [mem_gaps] at h
    exact ⟨.progress, mem_gaps.2 h⟩

/-- A text that tells no progress leaves a show without its answer. -/
theorem lacksAnswer_restoreProgress {r : MediaRecord} {text : Option String}
    (hs : r.kind = .series) (htext : storedProgress text = none) (rules : GapRules) :
    (r.restoreProgress text).LacksAnswer rules := by
  refine .inr (mem_gaps.2 ?_)
  have show' : (r.restoreProgress text).isShow := by
    rw [isShow, beq_iff_eq]
    exact hs
  have unknown : (r.restoreProgress text).progress = none := by
    rw [restoreProgress, htext]
    rfl
  rw [lacks, show', unknown]
  rfl

end MediaRecord

/-- In the list of problems are the records with gaps. -/
theorem MediaList.selects_problems_iff {ctx : Context} {sort : Option SortTerm} {r : MediaRecord} :
    ((builtIn .problems).resolve ctx sort).selection.selects r ↔
      ∃ g, g ∈ r.gaps ctx.settings.gaps := by
  rw [← GapRules.holds_predicate_iff]
  -- a built-in list has no second stage
  exact iff_of_eq (congrArg (· = true) (Bool.and_true _))

namespace Criteria

/-- The criteria that ask only for what was watched, or for what was not. -/
def ofWatched (b : Bool) : Criteria := { unrestricted with watched := some b }

/-- They ask nothing of the fields but the flag of a movie. -/
theorem acceptsFields_ofWatched_iff {b : Bool} {r : MediaRecord} :
    (ofWatched b).AcceptsFields r ↔ (r.kind = .movie → r.watched = some b) := by
  constructor
  · intro h
    exact h.watchedMovie b rfl
  · intro h
    refine ⟨nofun, nofun, nofun, nofun, nofun, ?_, nofun, fun hne => ?_, fun hne => ?_,
      fun hne => ?_, fun hne => ?_⟩
    · intro b' hb'
      cases hb'
      exact h
    · exact absurd rfl hne
    · exact absurd rfl hne
    · exact absurd rfl hne
    · exact absurd rfl hne

/-- They select the records of which the answer is known and as wanted. -/
theorem selects_ofWatched_iff {today : Date} {policy : SeasonPolicy} {b : Bool} {r : MediaRecord} :
    ((ofWatched b).select today policy).selects r ↔ r.isCaughtUp today policy = some b := by
  rw [Selection.selects, Bool.and_eq_true, holds_select_iff]
  constructor
  · rintro ⟨hfields, hpasses⟩
    cases hk : r.kind with
    | movie =>
      rw [MediaRecord.isCaughtUp, hk]
      exact acceptsFields_ofWatched_iff.1 hfields hk
    | series => exact (passesRefinement_select_iff hfields).1 hpasses b rfl hk
  · intro h
    have hfields : (ofWatched b).AcceptsFields r := by
      refine acceptsFields_ofWatched_iff.2 fun hk => ?_
      rw [MediaRecord.isCaughtUp, hk] at h
      exact h
    refine ⟨hfields, (passesRefinement_select_iff hfields).2 fun b' hb' _ => ?_⟩
    cases hb'
    exact h

/-- **No record falls between the lists**: on every day and under all settings it is watched, or
it is not, or it lacks its watched flag or its progress, and exactly one of the three. In the last
case it is in the list of problems under all settings; and a show is in it after its progress was
restored from a text that tells none. -/
theorem selects_exactly_one (r : MediaRecord) :
    (∀ ctx : Context,
      let watched := ((ofWatched true).select ctx.today ctx.settings.seasons).selects r
      let unwatched := ((ofWatched false).select ctx.today ctx.settings.seasons).selects r
      let lacks := r.LacksAnswer ctx.settings.gaps
      (watched ∧ ¬unwatched ∧ ¬lacks ∨ ¬watched ∧ unwatched ∧ ¬lacks ∨
        ¬watched ∧ ¬unwatched ∧ lacks) ∧
      (lacks → ∀ (ctx' : Context) (sort : Option SortTerm),
        ((MediaList.builtIn .problems).resolve ctx' sort).selection.selects r)) ∧
    (r.kind = .series → ∀ text : Option String, MediaRecord.storedProgress text = none →
      ∀ (ctx : Context) (sort : Option SortTerm),
        let r' := r.restoreProgress text
        r'.LacksAnswer ctx.settings.gaps ∧
          ((MediaList.builtIn .problems).resolve ctx sort).selection.selects r') := by
  have listed : ∀ {r : MediaRecord} {rules : GapRules}, r.LacksAnswer rules →
      ∀ (ctx : Context) (sort : Option SortTerm),
        ((MediaList.builtIn .problems).resolve ctx sort).selection.selects r := by
    intro r rules h ctx sort
    exact MediaList.selects_problems_iff.2 (h.exists_gap ctx.settings.gaps)
  refine ⟨fun ctx => ⟨?_, listed⟩, fun hs text htext ctx sort => ?_⟩
  · have unanswered := MediaRecord.isCaughtUp_eq_none_iff ctx.today ctx.settings.seasons
    simp only [selects_ofWatched_iff, ← unanswered]
    cases r.isCaughtUp ctx.today ctx.settings.seasons with
    | none => simp
    | some b => cases b <;> simp
  · have hlacks := MediaRecord.lacksAnswer_restoreProgress hs htext ctx.settings.gaps
    exact ⟨hlacks, listed hlacks ctx sort⟩

end Criteria

end Mediatheque
