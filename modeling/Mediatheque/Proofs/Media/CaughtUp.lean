import Mediatheque.Media.Record
import Mathlib.Data.List.Nodup

/-!
# Being caught up

To be caught up with a show is to have covered every season of it that is available. What is
computed looks at the last available season in place of all of them, and holds the episode of the
progress against the length of its season, be it available or not. Both come to the same unless the
progress is within a season that is not available (`isCaughtUp_iff_covers`).
-/

namespace Mediatheque

/-! ### Covering a season -/

namespace Progress

/-- The progress goes beyond a season, or to the end of it. -/
def Covers (s : Season) : Progress → Prop
  | .nothing => False
  | .season n => s.number ≤ n.number
  | .episode n e => s.number < n.number ∨ s.number = n.number ∧ s.episodeCount ≤ e.number

instance (s : Season) : DecidablePred (Covers s)
  | .nothing => inferInstanceAs (Decidable False)
  | .season n => inferInstanceAs (Decidable (s.number ≤ n.number))
  | .episode n e => inferInstanceAs
    (Decidable (s.number < n.number ∨ s.number = n.number ∧ s.episodeCount ≤ e.number))

/-- The progress is an episode of a season that is not its last one. -/
def IsWithin (s : Season) : Progress → Prop
  | .nothing => False
  | .season _ => False
  | .episode n e => s.number = n.number ∧ e.number < s.episodeCount

instance (s : Season) : DecidablePred (IsWithin s)
  | .nothing => inferInstanceAs (Decidable False)
  | .season _ => inferInstanceAs (Decidable False)
  | .episode n e => inferInstanceAs (Decidable (s.number = n.number ∧ e.number < s.episodeCount))

end Progress

/-- An available season has a number. -/
theorem SeasonPolicy.pos_of_isAvailable {policy : SeasonPolicy} {s : Season} {today : Date}
    (h : policy.isAvailable s today) : 1 ≤ s.number := by
  rw [isAvailable, Bool.and_assoc, Bool.and_eq_true] at h
  exact of_decide_eq_true h.1

namespace MediaRecord

variable {r : MediaRecord} {today : Date} {policy : SeasonPolicy}

/-! ### The last available season -/

theorem foldl_max_le_iff (l : List UInt32) (a b : UInt32) :
    l.foldl max a ≤ b ↔ a ≤ b ∧ ∀ n ∈ l, n ≤ b := by
  induction l generalizing a with
  | nil => simp
  | cons n l ih =>
    have both : max a n ≤ b ↔ a ≤ b ∧ n ≤ b := by
      simp only [max]
      split <;> grind
    rw [List.foldl_cons, ih, both, List.forall_mem_cons, and_assoc]

/-- No available season is beyond the last one, which is the first number with that property. -/
theorem lastAvailableSeason_le_iff {n : UInt32} :
    r.lastAvailableSeason today policy ≤ n ↔
      ∀ s ∈ r.seasons, policy.isAvailable s today → s.number ≤ n := by
  rw [lastAvailableSeason, foldl_max_le_iff, List.forall_mem_map]
  simp [List.mem_filter]

/-- There is no last available season if no season is available. -/
theorem lastAvailableSeason_eq_zero_iff :
    r.lastAvailableSeason today policy = 0 ↔
      ∀ s ∈ r.seasons, ¬policy.isAvailable s today := by
  rw [← UInt32.le_zero_iff, lastAvailableSeason_le_iff]
  refine forall₂_congr fun s _ => ⟨fun h available => ?_, fun h available => absurd available h⟩
  have pos := SeasonPolicy.pos_of_isAvailable available
  have zero := UInt32.le_zero_iff.1 (h available)
  rw [zero] at pos
  exact absurd pos (by decide)

/-! ### Episodes -/

/-- Seasons are told apart by their numbers. -/
def HasDistinctSeasons (r : MediaRecord) : Prop := (r.seasons.map (·.number)).Nodup

instance (r : MediaRecord) : Decidable r.HasDistinctSeasons :=
  inferInstanceAs (Decidable (List.Nodup _))

/-- The episodes of a season are counted if no other season has its number. -/
theorem HasDistinctSeasons.episodeCount_eq (distinct : r.HasDistinctSeasons) {s : Season}
    (hs : s ∈ r.seasons) : r.episodeCount s.number = s.episodeCount := by
  have found : (r.seasons.find? (·.number == s.number)).isSome :=
    List.find?_isSome.2 ⟨s, hs, beq_self_eq_true _⟩
  obtain ⟨s', hs'⟩ := Option.isSome_iff_exists.1 found
  have same : s' = s := List.inj_on_of_nodup_map distinct (List.mem_of_find?_eq_some hs') hs
    (by simpa using List.find?_some hs')
  rw [episodeCount, hs', same, Option.elim_some]

/-- A number of episodes is enough for the season with a number if it is for every season that has
the number. -/
theorem HasDistinctSeasons.episodeCount_le_iff (distinct : r.HasDistinctSeasons) {n e : UInt32} :
    r.episodeCount n ≤ e ↔ ∀ s ∈ r.seasons, s.number = n → s.episodeCount ≤ e := by
  constructor
  · rintro h s hs rfl
    rwa [distinct.episodeCount_eq hs] at h
  · intro h
    cases found : r.seasons.find? (·.number == n) with
    | none =>
      rw [episodeCount, found]
      exact UInt32.zero_le
    | some s =>
      have hs := List.mem_of_find?_eq_some found
      have number : s.number = n := by simpa using List.find?_some found
      rw [← number, distinct.episodeCount_eq hs]
      exact h s hs number

/-! ### All available seasons -/

/-- The owner of a show is caught up if the progress covers every available season and is not within
a season that is not available. -/
theorem isCaughtUp_iff_covers {p : Progress} (series : r.kind = .series)
    (known : r.progress = some p) (distinct : r.HasDistinctSeasons) :
    r.isCaughtUp today policy = some true ↔
      (∀ s ∈ r.seasons, policy.isAvailable s today → p.Covers s) ∧
        ∀ s ∈ r.seasons, p.IsWithin s → policy.isAvailable s today := by
  have answer : r.isCaughtUp today policy = some true ↔
      p.isCaughtUp (r.lastAvailableSeason today policy) r.episodeCount = true := by
    rw [isCaughtUp, series, known, Option.map_some, Option.some.injEq]
  rw [answer]
  cases p with
  | nothing =>
    rw [Progress.isCaughtUp, beq_iff_eq, lastAvailableSeason_eq_zero_iff]
    exact ⟨fun h => ⟨h, fun s _ => False.elim⟩, fun h => h.1⟩
  | season n =>
    rw [Progress.isCaughtUp, decide_eq_true_iff, lastAvailableSeason_le_iff]
    exact ⟨fun h => ⟨h, fun s _ => False.elim⟩, fun h => h.1⟩
  | episode n e =>
    rw [Progress.isCaughtUp, Bool.and_eq_true, decide_eq_true_iff, decide_eq_true_iff,
      lastAvailableSeason_le_iff, distinct.episodeCount_le_iff]
    constructor
    · rintro ⟨last, enough⟩
      refine ⟨fun s hs available => ?_, fun s hs within => ?_⟩
      · rcases UInt32.le_iff_lt_or_eq.1 (last s hs available) with before | same
        · exact .inl before
        · exact .inr ⟨same, enough s hs same⟩
      · exact absurd (enough s hs within.1) (UInt32.not_le.2 within.2)
    · rintro ⟨covers, within⟩
      refine ⟨fun s hs available => ?_, fun s hs same => ?_⟩
      · rcases covers s hs available with before | ⟨same, -⟩
        · exact UInt32.le_iff_lt_or_eq.2 (.inl before)
        · exact UInt32.le_iff_lt_or_eq.2 (.inr same)
      · refine Decidable.by_contra fun short => ?_
        have available := within s hs ⟨same, UInt32.not_le.1 short⟩
        rcases covers s hs available with before | ⟨-, enough⟩
        · rw [same] at before
          exact absurd before (UInt32.lt_irrefl _)
        · exact short enough

/-- A show with two seasons that have aired and a third one that airs later, all of six episodes,
and with the given progress in it. -/
def announced (createdAt : Instant) (season episode : Int64) : MediaRecord :=
  { blank ⟨⟨1⟩⟩ "Slow Horses" .series createdAt with
    seasons := [⟨1, 6, Date.ofParts? 2022 4 1⟩, ⟨2, 6, Date.ofParts? 2022 12 2⟩,
      ⟨3, 6, Date.ofParts? 2023 11 29⟩]
    lastSeason := some season
    lastEpisode := some episode }

/-- With all of both aired seasons watched, the owner is caught up. -/
theorem isCaughtUp_announced :
    let today : Date := ⟨2023, 6, 1, by decide, by decide⟩
    let r := announced ⟨⟨2023, 1, 1, by decide, by decide⟩, 0, 0, by decide, by decide⟩ 2 6
    let p : Progress := .episode ⟨2, by decide⟩ ⟨6, by decide⟩
    r.kind = .series ∧ r.progress = some p ∧ r.HasDistinctSeasons ∧
      r.isCaughtUp today .strict = some true := by
  intro today r p
  have series : r.kind = .series := rfl
  have known : r.progress = some p := by decide
  have distinct : r.HasDistinctSeasons := by decide
  refine ⟨series, known, distinct, (isCaughtUp_iff_covers series known distinct).2 ⟨?_, ?_⟩⟩
  · decide
  · decide

/-- With two episodes of the third season seen before it airs, the owner is not caught up, although
both seasons that are available are covered. -/
theorem not_isCaughtUp_announced :
    let today : Date := ⟨2023, 6, 1, by decide, by decide⟩
    let r := announced ⟨⟨2023, 1, 1, by decide, by decide⟩, 0, 0, by decide, by decide⟩ 3 2
    let p : Progress := .episode ⟨3, by decide⟩ ⟨2, by decide⟩
    r.kind = .series ∧ r.progress = some p ∧ r.HasDistinctSeasons ∧
      (∀ s ∈ r.seasons, SeasonPolicy.strict.isAvailable s today → p.Covers s) ∧
      r.isCaughtUp today .strict ≠ some true := by
  decide

end MediaRecord

end Mediatheque
