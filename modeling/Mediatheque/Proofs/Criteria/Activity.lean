import Mediatheque.Proofs.Criteria.Acceptance
import Mediatheque.Proofs.Criteria.Editing
import Mathlib.Data.List.Forall2
import Mathlib.Data.List.TFAE
import Mathlib.Tactic.TFAE

/-!
# Active conditions

A condition of criteria is active if it asks for anything. The predicate of a selection is made of
one clause for each active condition, in the order in which criteria declare them: the clauses are
written out in `IsClause`, and joining them leaves each of them as it is, for none is a constant or
a conjunction (`forall₂_isClause`, `conjuncts?_eq_self`).

No condition is void. Of a record that is of the other kind, and of which nothing else is known, no
active condition holds (`stranger`), so criteria select every record only if none is active.
-/

namespace Mediatheque

/-! ### Joining -/

/-- Operands none of which is a constant or a conjunction are left as they are. -/
theorem Predicate.conjuncts?_eq_self {l : List Predicate}
    (h : ∀ p ∈ l, (∀ b, p ≠ .always b) ∧ ∀ m, p ≠ .all m) : conjuncts? l = some l := by
  induction l with
  | nil => rfl
  | cons p l ih =>
    obtain ⟨⟨constant, conjunction⟩, rest⟩ := List.forall_mem_cons.1 h
    rw [conjuncts?, ih rest]
    · rfl
    · exact constant true
    · exact constant false
    · exact conjunction

namespace Criteria

variable {c : Criteria}

/-! ### Conditions -/

/-- The conditions in the order in which criteria declare them. -/
def Condition.all : List Condition :=
  [.isAdult, .kind, .rating, .year, .seasonCount, .watched, .watchAgain, .genres, .statuses,
   .formats, .tags]

/-- Whether criteria ask for anything in a condition. -/
def isActive (c : Criteria) : Condition → Bool
  | .isAdult => c.isAdult.isSome
  | .kind => c.kind.isSome
  | .rating => c.rating.isSome
  | .year => c.year.isSome
  | .seasonCount => c.seasonCount.isSome
  | .watched => c.watched.isSome
  | .watchAgain => c.watchAgain.isSome
  | .genres => !c.genres.isEmpty
  | .statuses => !c.statuses.isEmpty
  | .formats => !c.formats.isEmpty
  | .tags => !c.tags.isEmpty

/-- The conditions in which criteria ask for something. -/
def activeConditions (c : Criteria) : List Condition := Condition.all.filter c.isActive

/-- The predicate is the clause for a condition of the criteria. What is asked of shows is put so
that movies pass, and what was watched is asked of movies alone; unless movies alone are asked for,
shows pass. -/
inductive IsClause (c : Criteria) : Condition → Predicate → Prop where
  | isAdult {b : Bool} (h : c.isAdult = some b) : IsClause c .isAdult (.is .isAdult b)
  | kind {k : MediaKind} (h : c.kind = some k) : IsClause c .kind (.is .kind k)
  | rating {i : Interval StarRating} (h : c.rating = some i) :
    IsClause c .rating (.between .rating i.low i.high)
  | year {i : Interval Int32} (h : c.year = some i) : IsClause c .year (yearClause i)
  | seasonCount {i : Interval UInt32} (h : c.seasonCount = some i) :
    IsClause c .seasonCount
      (.any [.isMovie, .all [.isShow, .between .seasonCount i.low i.high]])
  | watchedMovies {b : Bool} (kind : c.kind = some .movie) (h : c.watched = some b) :
    IsClause c .watched (.is .watched b)
  | watched {b : Bool} (kind : c.kind ≠ some .movie) (h : c.watched = some b) :
    IsClause c .watched (.any [.all [.isMovie, .is .watched b], .isShow])
  | watchAgain {b : Bool} (h : c.watchAgain = some b) :
    IsClause c .watchAgain (.is .watchAgain b)
  | genres (h : c.genres ≠ .empty) : IsClause c .genres (.isIn .genres c.genres.toList)
  | statuses (h : c.statuses ≠ .empty) : IsClause c .statuses (.isIn .status c.statuses.toList)
  | formats (h : c.formats ≠ .empty) :
    IsClause c .formats (.any [.isMovie, .all [.isShow, .isIn .format c.formats.toList]])
  | tags (h : c.tags ≠ .empty) : IsClause c .tags (.isIn .tags c.tags.toList)

/-- No clause is a constant or a conjunction. -/
theorem IsClause.ne {a : Condition} {p : Predicate} (h : c.IsClause a p) :
    (∀ b, p ≠ .always b) ∧ ∀ l, p ≠ .all l := by
  cases h <;> exact ⟨nofun, nofun⟩

/-- The entry for a condition among the clauses is there if the condition is active, and then it is
the clause for it. -/
def IsEntry (c : Criteria) (a : Condition) (entry : Option Predicate) : Prop :=
  c.isActive a = entry.isSome ∧ ∀ p, entry = some p → c.IsClause a p

theorem isEntry_map {α : Type} {a : Condition} {o : Option α} {clause : α → Predicate}
    (active : c.isActive a = o.isSome) (h : ∀ x, o = some x → c.IsClause a (clause x)) :
    c.IsEntry a (o.map clause) := by
  refine ⟨by rw [active, Option.isSome_map], fun p hp => ?_⟩
  obtain ⟨x, hx, rfl⟩ := Option.map_eq_some_iff.1 hp
  exact h x hx

theorem isEntry_choice {α : Type} [Ord α] {a : Condition} {s : SortedSet α} {p : Predicate}
    (active : c.isActive a = !s.isEmpty) (h : s ≠ .empty → c.IsClause a p) :
    c.IsEntry a (if s.isEmpty then none else some p) := by
  split
  · next empty => exact ⟨by rw [active, empty]; rfl, nofun⟩
  · next some =>
    refine ⟨by rw [active, Bool.eq_false_iff.2 some]; rfl, fun q hq => ?_⟩
    cases hq
    exact h (mt SortedBy.isEmpty_iff.2 some)

theorem isClause_watched {b : Bool} (h : c.watched = some b) :
    c.IsClause .watched (watchedClause c.kind b) := by
  unfold watchedClause
  split
  · next movies => exact .watchedMovies movies h
  · next shows => exact .watched shows h

/-- Every condition has its entry, in order. -/
theorem forall₂_isEntry (c : Criteria) : List.Forall₂ c.IsEntry Condition.all c.clauses := by
  have formats : (choiceClause .format c.formats).map showOnly =
      if c.formats.isEmpty then none else some (showOnly (.isIn .format c.formats.toList)) := by
    unfold choiceClause
    split <;> rfl
  refine .cons ?_ <| .cons ?_ <| .cons ?_ <| .cons ?_ <| .cons ?_ <| .cons ?_ <| .cons ?_ <|
    .cons ?_ <| .cons ?_ <| .cons ?_ <| .cons ?_ .nil
  · exact isEntry_map rfl fun _ => .isAdult
  · exact isEntry_map rfl fun _ => .kind
  · exact isEntry_map rfl fun _ => .rating
  · exact isEntry_map rfl fun _ => .year
  · exact isEntry_map rfl fun _ => .seasonCount
  · exact isEntry_map rfl fun _ => isClause_watched
  · exact isEntry_map rfl fun _ => .watchAgain
  · exact isEntry_choice rfl .genres
  · exact isEntry_choice rfl .statuses
  · rw [formats]
    exact isEntry_choice rfl .formats
  · exact isEntry_choice rfl .tags

/-- Of the entries that are there each is the clause for its condition. -/
theorem forall₂_filter_isClause {l : List Condition} {m : List (Option Predicate)}
    (h : List.Forall₂ c.IsEntry l m) :
    List.Forall₂ c.IsClause (l.filter c.isActive) (m.filterMap id) := by
  induction h with
  | nil => exact .nil
  | @cons a o l m entry _ ih =>
    rw [List.filter_cons, List.filterMap_cons]
    cases o with
    | none =>
      rw [if_neg (by rw [entry.1]; decide)]
      exact ih
    | some p =>
      rw [if_pos (by rw [entry.1]; rfl)]
      exact .cons (entry.2 p rfl) ih

/-- There is one clause for each active condition, in the order of the conditions. -/
theorem forall₂_isClause (c : Criteria) :
    List.Forall₂ c.IsClause c.activeConditions (c.clauses.filterMap id) :=
  forall₂_filter_isClause c.forall₂_isEntry

/-- Criteria count their active conditions. -/
theorem length_activeConditions (c : Criteria) : c.activeConditions.length = c.activeCount := by
  show _ = (Condition.all.map c.isActive).count true
  rw [List.count_eq_countP, List.countP_map, List.countP_eq_length_filter, activeConditions]
  exact congrArg List.length (List.filter_congr fun a _ => (beq_true _).symm)

theorem length_clauses (c : Criteria) : (c.clauses.filterMap id).length = c.activeCount := by
  rw [← c.forall₂_isClause.length_eq, length_activeConditions]

theorem ne_of_mem_clauses (c : Criteria) :
    ∀ p ∈ c.clauses.filterMap id, (∀ b, p ≠ .always b) ∧ ∀ l, p ≠ .all l := by
  have each : List.Forall₂ (fun p a => ((∀ b, p ≠ .always b) ∧ ∀ l, p ≠ .all l) ∧ c.IsClause a p)
      (c.clauses.filterMap id) c.activeConditions :=
    (c.forall₂_isClause.imp fun a p h => And.intro h.ne h).flip
  exact ((List.forall₂_and_left _ _).1 each).1

/-- The predicate of a selection is the conjunction of the clauses as they are: the constant if
there is none of them, and the clause itself if there is one. -/
theorem predicate_select_cases (today : Date) (policy : SeasonPolicy) (c : Criteria) :
    c.clauses.filterMap id = [] ∧ (c.select today policy).predicate = .always true ∨
      (∃ p, c.clauses.filterMap id = [p] ∧ (c.select today policy).predicate = p) ∨
      2 ≤ (c.clauses.filterMap id).length ∧
        (c.select today policy).predicate = .all (c.clauses.filterMap id) := by
  rw [select, Predicate.and, Predicate.conjuncts?_eq_self c.ne_of_mem_clauses]
  rcases c.clauses.filterMap id with _ | ⟨p, _ | ⟨q, rest⟩⟩
  · exact .inl ⟨rfl, rfl⟩
  · exact .inr (.inl ⟨p, rfl, rfl⟩)
  · exact .inr (.inr ⟨by simp, rfl⟩)

/-! ### No condition at all -/

theorem isReset_iff : c.isReset ↔ c = unrestricted := by
  constructor
  · intro h
    simp only [isReset, Bool.and_eq_true, Option.isNone_iff_eq_none, SortedBy.isEmpty_iff] at h
    obtain ⟨⟨⟨⟨⟨⟨⟨⟨⟨⟨isAdult, kind⟩, rating⟩, year⟩, seasonCount⟩, watched⟩, watchAgain⟩, genres⟩,
      statuses⟩, formats⟩, tags⟩ := h
    exact Criteria.ext isAdult kind rating year seasonCount watched watchAgain genres statuses
      formats tags
  · rintro rfl
    rfl

theorem isReset_iff_activeCount : c.isReset ↔ c.activeCount = 0 := by
  rw [activeCount, List.count_eq_zero]
  simp [activity, isReset, and_assoc]

/-- A record of which no condition holds that criteria ask for: it is of the other kind, it is not
for adults only if that is asked for and is otherwise, and nothing else is known of it. -/
def stranger (c : Criteria) (createdAt : Instant) : MediaRecord :=
  { MediaRecord.blank ⟨⟨0⟩⟩ "" (if c.kind = some .series then .movie else .series) createdAt with
    isAdult := c.isAdult = some false }

theorem eq_unrestricted_of_accepts_stranger {today : Date} {policy : SeasonPolicy}
    {createdAt : Instant} (h : c.Accepts today policy (c.stranger createdAt)) :
    c = unrestricted := by
  have isAdult : c.isAdult = none := by
    refine Option.eq_none_iff_forall_ne_some.2 fun b hb => ?_
    have same : decide (c.isAdult = some false) = b := h.isAdult b hb
    rw [hb] at same
    cases b <;> simp at same
  have kind : c.kind = none := by
    refine Option.eq_none_iff_forall_ne_some.2 fun k hk => ?_
    have same : (if c.kind = some .series then MediaKind.movie else .series) = k := h.kind k hk
    rw [hk] at same
    cases k <;> simp at same
  have series : (c.stranger createdAt).kind = .series := by
    show (if c.kind = some .series then MediaKind.movie else .series) = _
    rw [kind]
    rfl
  refine Criteria.ext isAdult kind ?_ ?_ ?_ ?_ ?_ ?_ ?_ ?_ ?_
  · refine Option.eq_none_iff_forall_ne_some.2 fun i hi => ?_
    obtain ⟨x, hx, -⟩ := h.rating i hi
    cases hx
  · refine Option.eq_none_iff_forall_ne_some.2 fun i hi => ?_
    obtain ⟨d, hd, -⟩ := h.year i hi
    cases hd
  · refine Option.eq_none_iff_forall_ne_some.2 fun i hi => ?_
    rcases h.seasonCount i hi with movie | ⟨n, hn, -⟩
    · rw [series] at movie
      cases movie
    · cases hn
  · refine Option.eq_none_iff_forall_ne_some.2 fun b hb => ?_
    have answer := h.watchedShow b hb series
    rw [MediaRecord.isCaughtUp, series] at answer
    cases answer
  · refine Option.eq_none_iff_forall_ne_some.2 fun b hb => ?_
    cases h.watchAgain b hb
  · refine Decidable.by_contra fun some => ?_
    obtain ⟨g, -, hg⟩ := h.genres some
    exact SortedBy.not_mem_empty hg
  · refine Decidable.by_contra fun some => ?_
    obtain ⟨s, hs, -⟩ := h.statuses some
    cases hs
  · refine Decidable.by_contra fun some => ?_
    rcases h.formats some with movie | ⟨f, hf, -⟩
    · rw [series] at movie
      cases movie
    · cases hf
  · refine Decidable.by_contra fun some => ?_
    obtain ⟨t, -, ht⟩ := h.tags some
    exact SortedBy.not_mem_empty ht

/-- Criteria that select every record ask for nothing. -/
theorem eq_unrestricted_of_selects {today : Date} {policy : SeasonPolicy}
    (h : ∀ r, (c.select today policy).selects r) : c = unrestricted := by
  have selected := h (c.stranger ⟨⟨1970, 1, 1, by decide, by decide⟩, 0, 0, by decide, by decide⟩)
  rw [Selection.selects, Bool.and_eq_true, holds_select_iff] at selected
  obtain ⟨fields, passes⟩ := selected
  exact eq_unrestricted_of_accepts_stranger ⟨fields, (passesRefinement_select_iff fields).1 passes⟩

/-- The predicate is constant only if there is no clause. -/
theorem activeCount_eq_zero_of_always {today : Date} {policy : SeasonPolicy} {b : Bool}
    (h : (c.select today policy).predicate = .always b) : c.activeCount = 0 := by
  rw [← c.length_clauses]
  rcases c.predicate_select_cases today policy with ⟨none, -⟩ | ⟨p, one, same⟩ | ⟨-, conjunction⟩
  · rw [none]
    rfl
  · have mem : p ∈ c.clauses.filterMap id := one ▸ List.mem_cons_self
    exact absurd (same.symm.trans h) ((c.ne_of_mem_clauses p mem).1 b)
  · cases conjunction.symm.trans h

/-- **The predicate of a selection mirrors the active conditions**. That criteria are reset, that
they count no active condition, that they are the unrestricted ones, that their predicate is the
constant, and that they select every record come to the same: each condition rejects some record.
For every active condition there is one clause, in order, which is neither a constant nor a
conjunction; a single clause is the predicate, and of several ones the predicate is the conjunction.
And whatever criteria were, reset they are unrestricted. -/
theorem selection_mirrors_activity (today : Date) (policy : SeasonPolicy) (c : Criteria) :
    [c.isReset = true, c.activeCount = 0, c = unrestricted,
      (c.select today policy).predicate = .always true,
      ∀ r, (c.select today policy).selects r = true].TFAE ∧
    (∃ clauses : List Predicate, List.Forall₂ c.IsClause c.activeConditions clauses ∧
      clauses.length = c.activeCount ∧
      (∀ p ∈ clauses, (∀ b, p ≠ .always b) ∧ ∀ l, p ≠ .all l) ∧
      (c.activeCount = 1 → clauses = [(c.select today policy).predicate]) ∧
      (2 ≤ c.activeCount → (c.select today policy).predicate = .all clauses)) ∧
    c.reset = unrestricted := by
  refine ⟨?_, ⟨c.clauses.filterMap id, c.forall₂_isClause, c.length_clauses, c.ne_of_mem_clauses,
    ?_, ?_⟩, rfl⟩
  · tfae_have 1 ↔ 2 := isReset_iff_activeCount
    tfae_have 1 ↔ 3 := isReset_iff
    tfae_have 3 → 4 := by
      rintro rfl
      rfl
    tfae_have 4 → 2 := activeCount_eq_zero_of_always
    tfae_have 3 → 5 := by
      rintro rfl r
      rfl
    tfae_have 5 → 3 := eq_unrestricted_of_selects
    tfae_finish
  · intro count
    rw [← c.length_clauses] at count
    rcases c.predicate_select_cases today policy with ⟨none, -⟩ | ⟨p, one, same⟩ | ⟨several, -⟩
    · rw [none] at count
      cases count
    · rw [one, same]
    · omega
  · intro count
    rw [← c.length_clauses] at count
    rcases c.predicate_select_cases today policy with ⟨none, -⟩ | ⟨p, one, -⟩ | ⟨-, conjunction⟩
    · rw [none] at count
      exact absurd count (by decide)
    · rw [one] at count
      exact absurd count (by simp)
    · exact conjunction

end Criteria

end Mediatheque
