import Mediatheque.Proofs.Criteria.Editing
import Mediatheque.Proofs.Criteria.Storage
import Mathlib.Data.List.Induction

/-!
# Sessions of editing

Criteria are edited in sessions, which start from criteria that ask for nothing or were read from
JSON. Whatever the steps of a session are given, the ranges that it ends with are in order
(`EditSession.hasOrderedRanges_result`). What it ends with is told condition by condition by the
steps after the last one that started anew (`isSettledBy_iff`), and its text and its fingerprint are
told by the values of its conditions (`agree_iff_eq`), in whatever order the values came.
-/

namespace Mediatheque

namespace Interval

variable {α : Type} [Ord α]

/-- The bounds of the interval are the two given ones, in order. -/
def HasBounds (i : Interval α) (a b : α) : Prop := i.IsOrdered ∧ (i = ⟨a, b⟩ ∨ i = ⟨b, a⟩)

/-- There is one interval with two bounds. -/
theorem hasBounds_iff [Std.OrientedOrd α] [Std.LawfulEqOrd α] {i : Interval α} {a b : α} :
    i.HasBounds a b ↔ i = ofBounds a b := by
  constructor
  · rintro ⟨ordered, rfl | rfl⟩
    · exact (sorted_eq_self_iff.2 ordered).symm
    · -- The bounds have changed places, also where it makes no difference.
      cases h : compare b a with
      | lt =>
        rw [ofBounds, h]
        rfl
      | eq =>
        obtain rfl := Std.LawfulEqOrd.eq_of_compare h
        exact (ite_self _).symm
      | gt =>
        rw [IsOrdered, h] at ordered
        cases ordered
  · rintro rfl
    exact ⟨isOrdered_ofBounds a b, ofBounds_eq_or a b⟩

/-- What a range becomes by steps that give bounds for it, or by steps that give none. -/
def IsSettled (bounds : Option (α × α)) (before after : Option (Interval α)) : Prop :=
  match bounds with
  | some (a, b) => ∃ i, after = some i ∧ i.HasBounds a b
  | none => after = before

theorem isSettled_iff [Std.OrientedOrd α] [Std.LawfulEqOrd α] {bounds : Option (α × α)}
    {before after : Option (Interval α)} :
    IsSettled bounds before after ↔
      after = (bounds.map fun (a, b) => ofBounds a b).or before := by
  cases bounds with
  | none => exact Iff.rfl
  | some bounds => simp [IsSettled, hasBounds_iff]

end Interval

namespace Criteria

open Edit (lastOf)

/-! ### Since the last start -/

/-- The last start in the steps is from `base`, and goes on with the steps `later`; if no step
starts anew, then `base` is where the steps started. -/
structure IsSince (start : Criteria) (steps : List Edit) (base : Criteria) (later : List Edit) :
    Prop where
  /-- No later step starts anew. -/
  goesOn : ∀ e ∈ later, e.restart? = none
  /-- The later steps are all there are, or come right after a step that starts anew. -/
  last : later = steps ∧ base = start ∨
    ∃ before e, steps = before ++ e :: later ∧ e.restart? = some base

theorem exists_isSince (start : Criteria) (steps : List Edit) :
    ∃ base later, IsSince start steps base later := by
  -- From the end: once a step starts anew, those before it do not matter.
  induction steps using List.reverseRecOn with
  | nil => exact ⟨start, [], List.forall_mem_nil _, .inl ⟨rfl, rfl⟩⟩
  | append_singleton steps e ih =>
    cases h : e.restart? with
    | some base => exact ⟨base, [], List.forall_mem_nil _, .inr ⟨steps, e, rfl, h⟩⟩
    | none =>
      obtain ⟨base, later, goesOn, last⟩ := ih
      refine ⟨base, later ++ [e], ?_, ?_⟩
      · exact List.forall_mem_append.2 ⟨goesOn, List.forall_mem_singleton.2 h⟩
      · rcases last with ⟨rfl, rfl⟩ | ⟨before, e', rfl, start⟩
        · exact .inl ⟨rfl, rfl⟩
        · exact .inr ⟨before, e', by simp, start⟩

theorem IsSince.editAll_eq {start base : Criteria} {steps later : List Edit}
    (h : IsSince start steps base later) : start.editAll steps = base.editAll later := by
  rcases h.last with ⟨rfl, rfl⟩ | ⟨before, e, rfl, start⟩
  · rfl
  · rw [editAll_append, editAll_cons, edit_of_restart? start]

/-! ### Condition by condition -/

/-- What criteria are after the steps `later` from `base`. -/
structure IsSettledBy (c base : Criteria) (later : List Edit) : Prop where
  /-- For adults, as it was set last. -/
  isAdult : c.isAdult = (lastOf Edit.adult? later).or base.isAdult
  /-- The kind, as it was set last. -/
  kind : c.kind = (lastOf Edit.kind? later).or base.kind
  /-- The rating, with the last bounds for it. -/
  rating : Interval.IsSettled (lastOf Edit.ratings? later) base.rating c.rating
  /-- The year, with the last bounds for it. -/
  year : Interval.IsSettled (lastOf Edit.years? later) base.year c.year
  /-- The number of seasons, with the last bounds for it. -/
  seasonCount : Interval.IsSettled (lastOf Edit.seasonCounts? later) base.seasonCount c.seasonCount
  /-- Watched, as it was set last. -/
  watched : c.watched = (lastOf Edit.watched? later).or base.watched
  /-- To be watched again, as it was set last. -/
  watchAgain : c.watchAgain = (lastOf Edit.watchAgain? later).or base.watchAgain
  /-- The genres, with all that were added. -/
  genres : ∀ g, g ∈ c.genres ↔ g ∈ base.genres ∨ ∃ e ∈ later, g ∈ e.newGenres
  /-- The statuses, with all that were added. -/
  statuses : ∀ s, s ∈ c.statuses ↔ s ∈ base.statuses ∨ ∃ e ∈ later, s ∈ e.newStatuses
  /-- The formats, with all that were added. -/
  formats : ∀ f, f ∈ c.formats ↔ f ∈ base.formats ∨ ∃ e ∈ later, f ∈ e.newFormats
  /-- The tags, with all that were added. -/
  tags : ∀ t, t ∈ c.tags ↔ t ∈ base.tags ∨ ∃ e ∈ later, t ∈ e.newTags

/-- Where bounds for a range are set, it is settled by the last of them. -/
theorem Setting.isSettled {α : Type} [Ord α] [Std.OrientedOrd α] [Std.LawfulEqOrd α]
    (s : Setting (Interval α)) {bounds? : Edit → Option (α × α)}
    (set : s.set? = fun e => (bounds? e).map fun (a, b) => .ofBounds a b) {base : Criteria}
    {later : List Edit} (goesOn : ∀ e ∈ later, e.restart? = none) :
    Interval.IsSettled (lastOf bounds? later) (s.get base) (s.get (base.editAll later)) := by
  rw [Interval.isSettled_iff, s.get_editAll goesOn, set, lastOf_map]

theorem isSettledBy_editAll {base : Criteria} {later : List Edit}
    (goesOn : ∀ e ∈ later, e.restart? = none) : (base.editAll later).IsSettledBy base later where
  isAdult := Setting.isAdult.get_editAll goesOn
  kind := Setting.kind.get_editAll goesOn
  rating := Setting.rating.isSettled rfl goesOn
  year := Setting.year.isSettled rfl goesOn
  seasonCount := Setting.seasonCount.isSettled rfl goesOn
  watched := Setting.watched.get_editAll goesOn
  watchAgain := Setting.watchAgain.get_editAll goesOn
  genres _ := Collection.genres.mem_editAll goesOn
  statuses _ := Collection.statuses.mem_editAll goesOn
  formats _ := Collection.formats.mem_editAll goesOn
  tags _ := Collection.tags.mem_editAll goesOn

/-- The conditions of two criteria have the same values. -/
structure Agree (c c' : Criteria) : Prop where
  /-- For adults, or not. -/
  isAdult : c.isAdult = c'.isAdult
  /-- The kind. -/
  kind : c.kind = c'.kind
  /-- The rating. -/
  rating : c.rating = c'.rating
  /-- The year. -/
  year : c.year = c'.year
  /-- The number of seasons. -/
  seasonCount : c.seasonCount = c'.seasonCount
  /-- Watched, or not. -/
  watched : c.watched = c'.watched
  /-- To be watched again, or not. -/
  watchAgain : c.watchAgain = c'.watchAgain
  /-- The genres. -/
  genres : ∀ g, g ∈ c.genres ↔ g ∈ c'.genres
  /-- The statuses. -/
  statuses : ∀ s, s ∈ c.statuses ↔ s ∈ c'.statuses
  /-- The formats. -/
  formats : ∀ f, f ∈ c.formats ↔ f ∈ c'.formats
  /-- The tags. -/
  tags : ∀ t, t ∈ c.tags ↔ t ∈ c'.tags

/-- Sets with the same members are the same, so criteria that agree are. -/
theorem agree_iff_eq {c c' : Criteria} : c.Agree c' ↔ c = c' := by
  constructor
  · intro h
    exact Criteria.ext h.isAdult h.kind h.rating h.year h.seasonCount h.watched h.watchAgain
      (SortedBy.ext_mem h.genres) (SortedBy.ext_mem h.statuses) (SortedBy.ext_mem h.formats)
      (SortedBy.ext_mem h.tags)
  · rintro rfl
    exact ⟨rfl, rfl, rfl, rfl, rfl, rfl, rfl, fun _ => Iff.rfl, fun _ => Iff.rfl, fun _ => Iff.rfl,
      fun _ => Iff.rfl⟩

/-- The steps settle every condition. -/
theorem isSettledBy_iff {c base : Criteria} {later : List Edit}
    (goesOn : ∀ e ∈ later, e.restart? = none) :
    c.IsSettledBy base later ↔ c = base.editAll later := by
  constructor
  · intro h
    have h' : (base.editAll later).IsSettledBy base later := isSettledBy_editAll goesOn
    refine agree_iff_eq.1 ⟨h.isAdult.trans h'.isAdult.symm, h.kind.trans h'.kind.symm, ?_, ?_, ?_,
      h.watched.trans h'.watched.symm, h.watchAgain.trans h'.watchAgain.symm, ?_, ?_, ?_, ?_⟩
    · rw [Interval.isSettled_iff.1 h.rating, Interval.isSettled_iff.1 h'.rating]
    · rw [Interval.isSettled_iff.1 h.year, Interval.isSettled_iff.1 h'.year]
    · rw [Interval.isSettled_iff.1 h.seasonCount, Interval.isSettled_iff.1 h'.seasonCount]
    · exact fun g => (h.genres g).trans (h'.genres g).symm
    · exact fun s => (h.statuses s).trans (h'.statuses s).symm
    · exact fun f => (h.formats f).trans (h'.formats f).symm
    · exact fun t => (h.tags t).trans (h'.tags t).symm
  · rintro rfl
    exact isSettledBy_editAll goesOn

/-! ### Ranges within their bounds -/

/-- Every range has its bounds in order, and no rating is beyond five stars. -/
structure HasSoundRanges (c : Criteria) : Prop where
  /-- Ratings are counted in half stars. -/
  rating : ∀ i, c.rating = some i →
    i.low.halfStars.val ≤ i.high.halfStars.val ∧ i.high.halfStars.val ≤ 10
  /-- The year. -/
  year : ∀ i, c.year = some i → i.low ≤ i.high
  /-- The number of seasons. -/
  seasonCount : ∀ i, c.seasonCount = some i → i.low ≤ i.high

theorem HasOrderedRanges.hasSoundRanges {c : Criteria} (h : c.HasOrderedRanges) :
    c.HasSoundRanges where
  rating i hi :=
    ⟨(Std.isLE_compare (a := i.low.halfStars.val)).1 (h.rating i hi),
      Nat.le_of_lt_succ i.high.halfStars.isLt⟩
  year i hi := Std.isLE_compare.1 (h.year i hi)
  seasonCount i hi := Std.isLE_compare.1 (h.seasonCount i hi)

/-- Criteria with their ranges in order are told by their text. -/
theorem textOf_eq_iff {c c' : Criteria} (h : c.HasOrderedRanges) (h' : c'.HasOrderedRanges) :
    Json.textOf c = Json.textOf c' ↔ c = c' := by
  constructor
  · intro same
    have read : Json.ofText Criteria (Json.textOf c) = Json.ofText Criteria (Json.textOf c') :=
      congrArg (Json.ofText Criteria) same
    rw [ofText_textOf_sorted, ofText_textOf_sorted, sorted_eq_self_iff.2 h,
      sorted_eq_self_iff.2 h'] at read
    exact Option.some.inj read
  · rintro rfl
    rfl

/-! ### Sessions -/

/-- Criteria from which editing starts: they ask for nothing, or were read from JSON. -/
def IsGiven (c : Criteria) : Prop :=
  c = unrestricted ∨ ∃ manner j, Json.as? Criteria manner j = some c

theorem IsGiven.hasOrderedRanges {c : Criteria} (h : c.IsGiven) : c.HasOrderedRanges := by
  rcases h with rfl | ⟨manner, j, read⟩
  · exact hasOrderedRanges_unrestricted
  · exact (rangesComeFrom_of_as? read).hasOrderedRanges

end Criteria

/-- Criteria that are edited in any number of steps. -/
structure EditSession where
  /-- The criteria from which the session starts. -/
  start : Criteria
  /-- The steps. -/
  steps : List Criteria.Edit
  /-- The session starts from given criteria. -/
  start_given : start.IsGiven
  /-- Criteria are replaced by given ones. -/
  replaced_given : ∀ c, .replace c ∈ steps → c.IsGiven

namespace EditSession

open Criteria

/-- The criteria at the end of a session. -/
def result (s : EditSession) : Criteria := s.start.editAll s.steps

theorem hasOrderedRanges_result (s : EditSession) : s.result.HasOrderedRanges :=
  s.start_given.hasOrderedRanges.editAll fun c hc => (s.replaced_given c hc).hasOrderedRanges

/-- **Sessions are told by their last steps.** Every range at the end of a session is in order, and
what the session ends with are just the criteria that are settled, condition by condition, by the
steps since the last start. Steps may change places if they concern different conditions or add to
a set. If and only if the conditions at the end of two sessions have the same values, the criteria
have the same text, and also the same fingerprint, whatever the hash function. -/
theorem result_isSettled :
    (∀ s : EditSession, s.result.HasSoundRanges ∧
      ∃ base later, IsSince s.start s.steps base later ∧
        ∀ c : Criteria, c.IsSettledBy base later ↔ c = s.result) ∧
    (∀ (c : Criteria) (before after : List Edit) (e f : Edit), e.Apart f →
      c.editAll (before ++ e :: f :: after) = c.editAll (before ++ f :: e :: after)) ∧
    ∀ s t : EditSession,
      (s.result.Agree t.result ↔ Json.textOf s.result = Json.textOf t.result) ∧
      (s.result.Agree t.result ↔
        ∀ hash, s.result.fingerprint hash = t.result.fingerprint hash) := by
  refine ⟨fun s => ⟨s.hasOrderedRanges_result.hasSoundRanges, ?_⟩,
    fun c before after e f => editAll_swap, fun s t => ⟨?_, ?_⟩⟩
  · obtain ⟨base, later, since⟩ := exists_isSince s.start s.steps
    refine ⟨base, later, since, fun c => ?_⟩
    rw [result, since.editAll_eq]
    exact isSettledBy_iff since.goesOn
  · rw [agree_iff_eq, textOf_eq_iff s.hasOrderedRanges_result t.hasOrderedRanges_result]
  · rw [agree_iff_eq, fingerprint_eq_iff]

/-- A session with whole stars beyond five, bounds in reverse and a genre that is added twice, all
of it after a start from the year 1999. -/
def reversed : EditSession where
  start := unrestricted
  steps := [.genre ⟨18⟩, .releasedIn 1999, .genre ⟨35⟩, .stars 9 3, .genre ⟨28⟩, .year 2020 1990,
    .genre ⟨35⟩]
  start_given := .inl rfl
  replaced_given := by simp

/-- It ends with ranges in order and with two genres; a genre and the stars may change places. -/
theorem result_isSettled_reversed :
    reversed.result.HasSoundRanges ∧ reversed.result.rating = some ⟨⟨6⟩, ⟨10⟩⟩ ∧
      reversed.result.year = some ⟨1990, 2020⟩ ∧ reversed.result.genres.toList = [⟨28⟩, ⟨35⟩] ∧
      (Edit.genre ⟨35⟩).Apart (.stars 9 3) ∧
      ∀ before after, unrestricted.editAll (before ++ .genre ⟨35⟩ :: .stars 9 3 :: after) =
        unrestricted.editAll (before ++ .stars 9 3 :: .genre ⟨35⟩ :: after) := by
  have apart : (Edit.genre ⟨35⟩).Apart (.stars 9 3) := ⟨_, _, rfl, rfl, .inl (by decide)⟩
  obtain ⟨sessions, swap, -⟩ := result_isSettled
  refine ⟨(sessions reversed).1, rfl, rfl, rfl, apart, fun before after => ?_⟩
  exact swap unrestricted before after _ _ apart

end EditSession

end Mediatheque
