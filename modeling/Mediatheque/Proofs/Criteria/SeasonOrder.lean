import Mediatheque.Proofs.Criteria.Availability
import Mediatheque.Proofs.Gap.Coverage

/-!
# The order of seasons

A record lists its seasons, and nothing keeps a season from being listed twice. In which order they
are listed makes no difference to the last available season. To the number of episodes it does:
the first of several entries counts. So the order can be seen exactly of a season whose entries
disagree (`hasOneCount_iff`), and it changes whether the owner is caught up exactly if the entries
disagree on whether the last episode watched was the last one there is (`hasClearEnding_iff`).
Seasons that are listed once may come in any order.
-/

namespace Mediatheque

namespace MediaRecord

variable {r : MediaRecord} {today : Date} {policy : SeasonPolicy} {l : List Season}

/-- The record with other seasons. -/
def withSeasons (r : MediaRecord) (l : List Season) : MediaRecord := { r with seasons := l }

/-! ### The last available season -/

/-- The order of seasons makes no difference to the last one that is available. -/
theorem lastAvailableSeason_withSeasons (h : l.Perm r.seasons) (today : Date)
    (policy : SeasonPolicy) :
    (r.withSeasons l).lastAvailableSeason today policy = r.lastAvailableSeason today policy := by
  have bound : ∀ n, (r.withSeasons l).lastAvailableSeason today policy ≤ n ↔
      r.lastAvailableSeason today policy ≤ n := by
    intro n
    rw [lastAvailableSeason_le_iff, lastAvailableSeason_le_iff]
    exact forall_congr' fun s => imp_congr_left h.mem_iff
  exact UInt32.le_antisymm ((bound _).2 (UInt32.le_refl _)) ((bound _).1 (UInt32.le_refl _))

/-! ### Episodes -/

/-- What is true of the number of episodes in one entry of a season is true of it in all entries of
the season. -/
def EntriesAgree (r : MediaRecord) (n : UInt32) (P : UInt32 → Prop) : Prop :=
  ∀ s ∈ r.seasons, ∀ s' ∈ r.seasons, s.number = n → s'.number = n →
    P s.episodeCount → P s'.episodeCount

/-- The number of episodes is that of the first entry of the season, if it has one. -/
theorem episodeCount_cases (r : MediaRecord) (n : UInt32) :
    ((∀ s ∈ r.seasons, s.number ≠ n) ∧ r.episodeCount n = 0) ∨
      ∃ s ∈ r.seasons, s.number = n ∧ r.episodeCount n = s.episodeCount := by
  rw [episodeCount]
  cases found : r.seasons.find? (·.number == n) with
  | none =>
    refine .inl ⟨fun s hs number => ?_, rfl⟩
    exact List.find?_eq_none.1 found s hs (beq_iff_eq.2 number)
  | some s =>
    have number := List.find?_some found
    exact .inr ⟨s, List.mem_of_find?_eq_some found, beq_iff_eq.1 number, rfl⟩

/-- Every entry of a season comes first in some order. -/
theorem exists_perm_episodeCount_eq {s : Season} (hs : s ∈ r.seasons) :
    ∃ l, l.Perm r.seasons ∧ (r.withSeasons l).episodeCount s.number = s.episodeCount := by
  refine ⟨s :: r.seasons.erase s, (List.perm_cons_erase hs).symm, ?_⟩
  show ((s :: r.seasons.erase s).find? (·.number == s.number)).elim 0 (·.episodeCount) = _
  rw [List.find?_cons, beq_self_eq_true]
  rfl

/-- What is true of the number of episodes in every order is what the entries agree on. -/
theorem entriesAgree_iff {n : UInt32} {P : UInt32 → Prop} :
    r.EntriesAgree n P ↔
      ∀ l, l.Perm r.seasons → (P ((r.withSeasons l).episodeCount n) ↔ P (r.episodeCount n)) := by
  constructor
  · intro agree l h
    rcases r.episodeCount_cases n with ⟨none, zero⟩ | ⟨s, hs, number, count⟩
    · rcases (r.withSeasons l).episodeCount_cases n with ⟨-, zero'⟩ | ⟨s', hs', number', -⟩
      · rw [zero, zero']
      · exact absurd number' (none s' (h.mem_iff.1 hs'))
    · rcases (r.withSeasons l).episodeCount_cases n with ⟨none', -⟩ | ⟨s', hs', number', count'⟩
      · exact absurd number (none' s (h.mem_iff.2 hs))
      · have hs' : s' ∈ r.seasons := h.mem_iff.1 hs'
        rw [count, count']
        exact ⟨agree s' hs' s hs number' number, agree s hs s' hs' number number'⟩
  · intro same s hs s' hs' number number' holds
    obtain ⟨l, h, count⟩ := exists_perm_episodeCount_eq hs
    obtain ⟨l', h', count'⟩ := exists_perm_episodeCount_eq hs'
    rw [number] at count
    rw [number'] at count'
    have first := same l h
    have second := same l' h'
    rw [count] at first
    rw [count'] at second
    exact second.2 (first.1 holds)

/-- All entries of the season with a number have the same number of episodes. -/
def HasOneCount (r : MediaRecord) (n : UInt32) : Prop :=
  ∀ s ∈ r.seasons, ∀ s' ∈ r.seasons, s.number = n → s'.number = n →
    s.episodeCount = s'.episodeCount

theorem HasOneCount.entriesAgree {n : UInt32} (h : r.HasOneCount n) (P : UInt32 → Prop) :
    r.EntriesAgree n P := by
  intro s hs s' hs' number number' holds
  rwa [← h s hs s' hs' number number']

/-- The number of episodes of a season does not depend on the order exactly if there is one such
number. -/
theorem hasOneCount_iff {n : UInt32} :
    r.HasOneCount n ↔
      ∀ l, l.Perm r.seasons → (r.withSeasons l).episodeCount n = r.episodeCount n := by
  constructor
  · intro one l h
    exact (entriesAgree_iff.1 (one.entriesAgree (· = r.episodeCount n)) l h).2 rfl
  · intro same s hs s' hs' number number'
    have agree : r.EntriesAgree n (· = s.episodeCount) :=
      entriesAgree_iff.2 fun l h => by rw [same l h]
    exact (agree s hs s' hs' number number' rfl).symm

/-- Seasons that are listed once have one number of episodes. -/
theorem HasDistinctSeasons.hasOneCount (distinct : r.HasDistinctSeasons) (n : UInt32) :
    r.HasOneCount n := by
  rintro s hs s' hs' rfl number'
  rw [← distinct.episodeCount_eq hs, ← distinct.episodeCount_eq hs', number']

/-! ### Being caught up -/

/-- If an episode of the last available season or of a later one was watched last, then by all
entries of its season there is none after it, or by all of them there is. -/
def HasClearEnding (r : MediaRecord) (today : Date) (policy : SeasonPolicy) : Prop :=
  r.kind = .series → ∀ n e : Ordinal, r.progress = some (.episode n e) →
    r.lastAvailableSeason today policy ≤ n.number → r.EntriesAgree n.number (· ≤ e.number)

/-- In another order of the seasons the owner is caught up as before, unless the last episode
watched was one of the last available season or of a later one: then the episodes of that season
decide. -/
theorem isCaughtUp_withSeasons_eq_iff (h : l.Perm r.seasons) :
    (r.withSeasons l).isCaughtUp today policy = r.isCaughtUp today policy ↔
      (r.kind = .series → ∀ n e : Ordinal, r.progress = some (.episode n e) →
        r.lastAvailableSeason today policy ≤ n.number →
          ((r.withSeasons l).episodeCount n.number ≤ e.number ↔
            r.episodeCount n.number ≤ e.number)) := by
  have kind : (r.withSeasons l).kind = r.kind := rfl
  have progress : (r.withSeasons l).progress = r.progress := rfl
  have flag : (r.withSeasons l).watched = r.watched := rfl
  rw [isCaughtUp, isCaughtUp, kind, progress, flag, lastAvailableSeason_withSeasons h]
  cases r.kind with
  | movie => simp
  | series =>
    cases r.progress with
    | none => simp
    | some p =>
      cases p with
      | nothing => simp [Progress.isCaughtUp]
      | season n => simp [Progress.isCaughtUp]
      | episode n e =>
        by_cases reached : r.lastAvailableSeason today policy ≤ n.number
        · simp [Progress.isCaughtUp, reached]
        · simp [Progress.isCaughtUp, reached]

/-- Whether the owner is caught up does not depend on the order of seasons exactly if it is clear
whether the last episode watched was the last one of its season. -/
theorem hasClearEnding_iff :
    r.HasClearEnding today policy ↔
      ∀ l, l.Perm r.seasons →
        (r.withSeasons l).isCaughtUp today policy = r.isCaughtUp today policy := by
  constructor
  · intro clear l h
    refine (isCaughtUp_withSeasons_eq_iff h).2 fun series n e known reached => ?_
    exact entriesAgree_iff.1 (clear series n e known reached) l h
  · intro same series n e known reached
    refine entriesAgree_iff.2 fun l h => ?_
    exact (isCaughtUp_withSeasons_eq_iff h).1 (same l h) series n e known reached

theorem hasClearEnding_of_hasOneCount (one : ∀ n, r.HasOneCount n) :
    r.HasClearEnding today policy :=
  fun _ n _ _ _ => (one n.number).entriesAgree _

end MediaRecord

/-! ### Selections -/

namespace Criteria

open MediaRecord

variable {r : MediaRecord} {today : Date} {policy : SeasonPolicy}

/-- Criteria select a record in every order of its seasons if they select it in one, exactly if it
is clear whether the last episode watched was the last one of its season. -/
theorem hasClearEnding_iff_selects :
    r.HasClearEnding today policy ↔
      ∀ l, l.Perm r.seasons → ∀ c : Criteria,
        (c.select today policy).selects (r.withSeasons l) = (c.select today policy).selects r := by
  rw [hasClearEnding_iff]
  refine forall₂_congr fun l h => ⟨fun same c => ?_, fun same => ?_⟩
  · rw [Bool.eq_iff_iff]
    constructor
    · exact selects_of_answer (fun f => by cases f <;> rfl) rfl fun b _ answer => same ▸ answer
    · exact selects_of_answer (fun f => by cases f <;> rfl) rfl fun b _ answer => same.symm ▸ answer
  · refine Option.ext fun b => ?_
    have answer := same (ofWatched b)
    rw [Bool.eq_iff_iff, selects_ofWatched_iff, selects_ofWatched_iff] at answer
    exact answer

/-- **The order of seasons can be seen only where a season is listed twice**: it makes no difference
to the last available season. The number of episodes of a season does not depend on it exactly if
all entries of the season have the same number; and whether the owner is caught up and what criteria
select do not exactly if all entries agree on whether the last episode watched was the last one. So
nothing depends on the order of seasons that are listed once. -/
theorem perm_seasons_invisible_iff (r : MediaRecord) (today : Date) (policy : SeasonPolicy) :
    (∀ l, l.Perm r.seasons →
      (r.withSeasons l).lastAvailableSeason today policy = r.lastAvailableSeason today policy) ∧
    (∀ n, (∀ l, l.Perm r.seasons → (r.withSeasons l).episodeCount n = r.episodeCount n) ↔
      r.HasOneCount n) ∧
    ((∀ l, l.Perm r.seasons →
      (r.withSeasons l).isCaughtUp today policy = r.isCaughtUp today policy) ↔
        r.HasClearEnding today policy) ∧
    ((∀ l, l.Perm r.seasons → ∀ c : Criteria,
      (c.select today policy).selects (r.withSeasons l) = (c.select today policy).selects r) ↔
        r.HasClearEnding today policy) ∧
    (r.HasDistinctSeasons → (∀ n, r.HasOneCount n) ∧ r.HasClearEnding today policy) := by
  refine ⟨fun l h => lastAvailableSeason_withSeasons h today policy,
    fun n => hasOneCount_iff.symm, hasClearEnding_iff.symm, hasClearEnding_iff_selects.symm,
    fun distinct => ?_⟩
  exact ⟨distinct.hasOneCount, hasClearEnding_of_hasOneCount distinct.hasOneCount⟩

/-- A show whose first season is listed twice: as it was announced, without episodes, and as it
aired, with six of them. Two were watched. -/
def announcedTwice (createdAt : Instant) : MediaRecord :=
  { blank ⟨⟨1⟩⟩ "Slow Horses" .series createdAt with
    seasons := [⟨1, 0, none⟩, ⟨1, 6, Date.ofParts? 2022 4 1⟩]
    lastSeason := some 1
    lastEpisode := some 2 }

/-- With the announcement in front the owner is caught up after two episodes of six. -/
theorem perm_seasons_visible_announcedTwice :
    let today : Date := ⟨2023, 6, 1, by decide, by decide⟩
    let r := announcedTwice ⟨⟨2023, 1, 1, by decide, by decide⟩, 0, 0, by decide, by decide⟩
    let r' := r.withSeasons r.seasons.reverse
    r.seasons.reverse.Perm r.seasons ∧
      r.episodeCount 1 = 0 ∧ r'.episodeCount 1 = 6 ∧
      r.isCaughtUp today .strict = some true ∧ r'.isCaughtUp today .strict = some false ∧
      ((ofWatched true).select today .strict).selects r ≠
        ((ofWatched true).select today .strict).selects r' := by
  intro today r r'
  exact ⟨List.reverse_perm _, by decide, by decide, by decide, by decide, by decide⟩

end Criteria

end Mediatheque
