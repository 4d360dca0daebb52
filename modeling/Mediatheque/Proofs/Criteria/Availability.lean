import Mediatheque.Proofs.Media.CaughtUp
import Mediatheque.Proofs.Predicate.Fields
import Mediatheque.Criteria.Selection

/-!
# The more there is to watch

As days pass and as the policy is relaxed, seasons become available and none is withdrawn. So the
last available season moves on, and whoever is caught up with more is caught up with less
(`isCaughtUp_of_later`); whether the answer is known at all depends on neither
(`isSome_isCaughtUp`).

A selection depends on the day and the policy through that answer alone (`selects_of_answer`). So
what was watched is selected of fewer and fewer shows, and what was not of more and more
(`selects_watched_antitone`).
-/

namespace Mediatheque

open Std

/-! ### Available seasons -/

/-- Seasons that count by the first policy count by the second one. -/
structure SeasonPolicy.IsRelaxedBy (policy policy' : SeasonPolicy) : Prop where
  /-- If seasons that have not aired count, they still do. -/
  countUnaired : policy.countUnaired → policy'.countUnaired
  /-- If seasons without episodes count, they still do. -/
  countEmpty : policy.countEmpty → policy'.countEmpty

variable {today today' : Date} {policy policy' : SeasonPolicy}

/-- What has aired by a day has aired by every later one. -/
theorem Season.hasAired_mono {s : Season} (later : today ≤ today') (h : s.hasAired today) :
    s.hasAired today' := by
  obtain ⟨d, known, aired⟩ := (Option.any_eq_true ..).1 h
  exact (Option.any_eq_true ..).2 ⟨d, known, TransCmp.isLE_trans aired later⟩

/-- No season is withdrawn. -/
theorem SeasonPolicy.isAvailable_mono {s : Season} (later : today ≤ today')
    (relaxed : policy.IsRelaxedBy policy') (h : policy.isAvailable s today) :
    policy'.isAvailable s today' := by
  rw [isAvailable, Bool.and_eq_true, Bool.and_eq_true, Bool.or_eq_true, Bool.or_eq_true] at h ⊢
  obtain ⟨⟨numbered, episodes⟩, aired⟩ := h
  exact ⟨⟨numbered, episodes.imp_left relaxed.countEmpty⟩,
    aired.imp relaxed.countUnaired (Season.hasAired_mono later)⟩

/-! ### Being caught up -/

/-- Progress that covers everything up to a season covers everything up to an earlier one. -/
theorem Progress.isCaughtUp_of_le {p : Progress} {last last' : UInt32} {episodes : UInt32 → UInt32}
    (earlier : last ≤ last') (h : p.isCaughtUp last' episodes) : p.isCaughtUp last episodes := by
  cases p with
  | nothing =>
    rw [isCaughtUp, beq_iff_eq] at h ⊢
    rw [h] at earlier
    exact UInt32.le_zero_iff.1 earlier
  | season s =>
    rw [isCaughtUp, decide_eq_true_iff] at h ⊢
    exact UInt32.le_trans earlier h
  | episode s e =>
    rw [isCaughtUp, Bool.and_eq_true, decide_eq_true_iff, decide_eq_true_iff] at h ⊢
    exact ⟨UInt32.le_trans earlier h.1, h.2⟩

namespace MediaRecord

variable {r : MediaRecord}

/-- The last available season moves on. -/
theorem lastAvailableSeason_mono (later : today ≤ today') (relaxed : policy.IsRelaxedBy policy') :
    r.lastAvailableSeason today policy ≤ r.lastAvailableSeason today' policy' := by
  refine lastAvailableSeason_le_iff.2 fun s hs available => ?_
  have still : policy'.isAvailable s today' :=
    SeasonPolicy.isAvailable_mono later relaxed available
  exact lastAvailableSeason_le_iff.1 (UInt32.le_refl _) s hs still

/-- Whether the answer is known depends on the record alone. -/
theorem isSome_isCaughtUp (r : MediaRecord) (today today' : Date) (policy policy' : SeasonPolicy) :
    (r.isCaughtUp today policy).isSome = (r.isCaughtUp today' policy').isSome := by
  rw [isCaughtUp, isCaughtUp]
  cases r.kind with
  | movie => rfl
  | series => rw [Option.isSome_map, Option.isSome_map]

/-- Whoever has watched everything has watched all that there was before. -/
theorem isCaughtUp_of_later (later : today ≤ today') (relaxed : policy.IsRelaxedBy policy')
    (h : r.isCaughtUp today' policy' = some true) : r.isCaughtUp today policy = some true := by
  rw [isCaughtUp] at h ⊢
  cases hk : r.kind with
  | movie => rwa [hk] at h
  | series =>
    rw [hk] at h
    obtain ⟨p, known, caughtUp⟩ := Option.map_eq_some_iff.1 h
    exact Option.map_eq_some_iff.2 ⟨p, known,
      Progress.isCaughtUp_of_le (lastAvailableSeason_mono later relaxed) caughtUp⟩

/-- Whoever has something left to watch will not have watched all that there is later. -/
theorem not_isCaughtUp_of_earlier (later : today ≤ today') (relaxed : policy.IsRelaxedBy policy')
    (h : r.isCaughtUp today policy = some false) : r.isCaughtUp today' policy' = some false := by
  have known : (r.isCaughtUp today' policy').isSome := by
    rw [r.isSome_isCaughtUp today' today policy' policy, h]
    rfl
  obtain ⟨b, answer⟩ := Option.isSome_iff_exists.1 known
  cases b with
  | false => exact answer
  | true =>
    rw [isCaughtUp_of_later later relaxed answer] at h
    cases h

end MediaRecord

/-! ### Selections -/

namespace Criteria

/-- A selection looks at the fields of a record and at whether its owner is caught up, and at
nothing else: it goes on to select what keeps its fields, and keeps the answer if it was the one
asked for. -/
theorem selects_of_answer {c : Criteria} {r r' : MediaRecord}
    (fields : ∀ f, r.fieldValue f = r'.fieldValue f) (kind : r.kind = r'.kind)
    (answer : ∀ b, c.watched = some b → r.isCaughtUp today policy = some b →
      r'.isCaughtUp today' policy' = some b)
    (h : (c.select today policy).selects r) : (c.select today' policy').selects r' := by
  rw [Selection.selects, Bool.and_eq_true] at h ⊢
  obtain ⟨holds, passes⟩ := h
  refine ⟨?_, ?_⟩
  · -- the first stage depends neither on the day nor on the policy
    rw [← holds]
    exact (Predicate.holds_congr_askedFields fun f _ => fields f).symm
  · simp only [select, Selection.passesRefinement, refinement] at passes ⊢
    split
    · rfl
    · next notMovies =>
      rw [if_neg notMovies] at passes
      cases asked : c.watched with
      | none => rfl
      | some b =>
        simp only [asked, Option.map_some, Option.all_some, Refinement.keeps, MediaRecord.isShow,
          Bool.or_eq_true, beq_iff_eq, ← kind] at passes ⊢
        exact passes.imp_right (answer b asked)

/-- **The more there is to watch, the less is watched**: on a later day and under a policy that is
relaxed the last available season is no earlier, and whether the owner is caught up is known of the
same records. Whoever is caught up then was so before. Criteria that ask for what was watched
select nothing that they did not select before, and criteria that ask for what was not watched
select all that they did. -/
theorem selects_watched_antitone (later : today ≤ today') (relaxed : policy.IsRelaxedBy policy')
    (r : MediaRecord) :
    r.lastAvailableSeason today policy ≤ r.lastAvailableSeason today' policy' ∧
    (r.isCaughtUp today policy).isSome = (r.isCaughtUp today' policy').isSome ∧
    (r.isCaughtUp today' policy' = some true → r.isCaughtUp today policy = some true) ∧
    ∀ c : Criteria,
      (c.watched = some true →
        (c.select today' policy').selects r → (c.select today policy).selects r) ∧
      (c.watched = some false →
        (c.select today policy).selects r → (c.select today' policy').selects r) := by
  have watched : r.isCaughtUp today' policy' = some true → r.isCaughtUp today policy = some true :=
    MediaRecord.isCaughtUp_of_later later relaxed
  have unwatched :
      r.isCaughtUp today policy = some false → r.isCaughtUp today' policy' = some false :=
    MediaRecord.not_isCaughtUp_of_earlier later relaxed
  refine ⟨MediaRecord.lastAvailableSeason_mono later relaxed,
    r.isSome_isCaughtUp today today' policy policy', watched, fun c => ⟨fun asked h => ?_,
      fun asked h => ?_⟩⟩
  · refine selects_of_answer (fun _ => rfl) rfl (fun b hb => ?_) h
    cases asked.symm.trans hb
    exact watched
  · refine selects_of_answer (fun _ => rfl) rfl (fun b hb => ?_) h
    cases asked.symm.trans hb
    exact unwatched

/-- A show with an episode left to watch is among those not watched, and stays there when its third
season has aired and when all seasons count. -/
theorem selects_watched_antitone_announced :
    let today : Date := ⟨2023, 6, 1, by decide, by decide⟩
    let today' : Date := ⟨2024, 1, 1, by decide, by decide⟩
    let r := MediaRecord.announced
      ⟨⟨2023, 1, 1, by decide, by decide⟩, 0, 0, by decide, by decide⟩ 2 5
    let c : Criteria := { unrestricted with kind := some .series, watched := some false }
    today ≤ today' ∧ SeasonPolicy.strict.IsRelaxedBy ⟨true, true⟩ ∧
      (c.select today .strict).selects r ∧ (c.select today' ⟨true, true⟩).selects r := by
  intro today today' r c
  have later : today ≤ today' := by decide
  have relaxed : SeasonPolicy.strict.IsRelaxedBy ⟨true, true⟩ := ⟨nofun, nofun⟩
  have unwatched : (c.select today .strict).selects r := by decide
  exact ⟨later, relaxed, unwatched,
    ((selects_watched_antitone later relaxed r).2.2.2 c).2 rfl unwatched⟩

end Criteria

end Mediatheque
