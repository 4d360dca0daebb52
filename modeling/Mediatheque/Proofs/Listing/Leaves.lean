import Mediatheque.Listing.MediaList
import Mediatheque.Proofs.Predicate.Literals

/-!
# The leaves of lists

Every list asks a store for its records by a predicate that is built by joining from leaves of one
kind (`MediaList.isMadeOf_selection`). Such a leaf compares its field with what the field admits,
has something to choose from, and looks at stored progress only to see whether there is a season,
or a positive one. What is true of all that is built from these leaves is true of every list.
-/

namespace Mediatheque

/-- Whether a field is one of the numbers under which progress is stored. -/
def Field.isStoredProgress : Field → Bool
  | .lastSeason | .lastEpisode => true
  | _ => false

namespace Predicate

/-- A leaf as lists have them. -/
structure IsListLeaf (q : Predicate) : Prop where
  /-- It is a leaf. -/
  isLeaf : q.isLeaf
  /-- It compares its field with what the field admits. -/
  inKind : q.ComparesInKind
  /-- It has something to choose from. -/
  hasChoice : q.HasChoice
  /-- Of stored progress it asks whether the season is unknown or positive, and nothing else. -/
  progress : (∀ f, q.leafField? = some f → f.isStoredProgress = false) ∨
    q = .isUnknown .lastSeason ∨ q = .atLeast .lastSeason (1 : Int64)

variable {f : Field}

theorem IsListLeaf.isMadeIn {q : Predicate} (h : q.IsListLeaf) (n : Nat) :
    q.IsMadeIn IsListLeaf n :=
  .leaf n h.isLeaf h

/-- A leaf about a field that stores no progress. -/
theorem isListLeaf_of_field {q : Predicate} (hq : q.leafField? = some f)
    (hf : f.isStoredProgress = false) (inKind : q.ComparesInKind) (hasChoice : q.HasChoice) :
    q.IsListLeaf := by
  refine ⟨?_, inKind, hasChoice, .inl fun g hg => ?_⟩
  · cases q <;> first | rfl | cases hq
  · rw [Option.some.inj (hg.symm.trans hq), hf]

/-- To have a value. -/
theorem isListLeaf_is {α : Type} [IsValue α] {a : α}
    (ha : Sql.dataType? (toValue a) = some f.dataType) (hf : f.isStoredProgress = false) :
    (Predicate.is f a).IsListLeaf :=
  isListLeaf_of_field rfl hf (.inr (Field.admits_iff.2 ha)) trivial

/-- To be unknown. -/
theorem isListLeaf_isUnknown (hf : f.isStoredProgress = false) : (isUnknown f).IsListLeaf :=
  isListLeaf_of_field rfl hf (.inl rfl) trivial

/-- To lie within bounds. -/
theorem isListLeaf_within {lower upper : Option Value} {lowerClosed upperClosed : Bool}
    (hlower : ∀ v, lower = some v → Sql.dataType? v = some f.dataType)
    (hupper : ∀ v, upper = some v → Sql.dataType? v = some f.dataType)
    (hf : f.isStoredProgress = false) :
    (Predicate.within f lower upper lowerClosed upperClosed).IsListLeaf :=
  isListLeaf_of_field rfl hf
    ⟨fun v hv => Field.admits_iff.2 (hlower v hv), fun v hv => Field.admits_iff.2 (hupper v hv)⟩
    trivial

/-- To have one of several values, if there are any. -/
theorem isListLeaf_isIn {α : Type} [Ord α] [IsValue α] {s : SortedSet α}
    (hs : s.isEmpty = false) (hvalues : ∀ a : α, Sql.dataType? (toValue a) = some f.dataType)
    (hf : f.isStoredProgress = false) : (isIn f s.toList).IsListLeaf := by
  refine isListLeaf_of_field rfl hf (fun v hv => ?_) (fun hempty => ?_)
  · obtain ⟨a, -, rfl⟩ := List.mem_map.1 (SortedSet.mem_ofList.1 hv)
    exact Field.admits_iff.2 (hvalues a)
  · obtain ⟨a, ha⟩ := List.isEmpty_eq_false_iff_exists_mem.1 hs
    have member : toValue a ∈ (SortedBy.ofList (s.toList.map toValue) : SortedSet Value) :=
      SortedSet.mem_ofList.2 (List.mem_map_of_mem ha)
    rw [hempty] at member
    exact SortedBy.not_mem_empty member

theorem isListLeaf_isMovie : isMovie.IsListLeaf := isListLeaf_is rfl rfl

theorem isListLeaf_isShow : isShow.IsListLeaf := isListLeaf_is rfl rfl

end Predicate

open Predicate

/-! ### Criteria -/

namespace Criteria

/-- A choice is a leaf, if it is there. -/
theorem isListLeaf_choiceClause {α : Type} [Ord α] [IsValue α] {f : Field} {s : SortedSet α}
    {p : Predicate} (h : choiceClause f s = some p)
    (hvalues : ∀ a : α, Sql.dataType? (toValue a) = some f.dataType)
    (hf : f.isStoredProgress = false) : p.IsListLeaf := by
  rw [choiceClause] at h
  split at h
  · cases h
  · next hs =>
    cases h
    exact isListLeaf_isIn (eq_false_of_ne_true hs) hvalues hf

/-- A condition of criteria is a leaf, or a leaf for shows only, or the one on what was watched. -/
theorem clause_cases {c : Criteria} {p : Predicate} (h : some p ∈ c.clauses) :
    p.IsListLeaf ∨ (∃ q, q.IsListLeaf ∧ p = showOnly q) ∨ ∃ kind b, p = watchedClause kind b := by
  simp only [clauses, List.mem_cons, List.not_mem_nil, or_false] at h
  rcases h with h | h | h | h | h | h | h | h | h | h | h
  · obtain ⟨b, -, rfl⟩ := Option.map_eq_some_iff.1 h.symm
    exact .inl (isListLeaf_is rfl rfl)
  · obtain ⟨kind, -, rfl⟩ := Option.map_eq_some_iff.1 h.symm
    exact .inl (isListLeaf_is rfl rfl)
  · obtain ⟨i, -, rfl⟩ := Option.map_eq_some_iff.1 h.symm
    exact .inl (isListLeaf_within (fun _ hv => by cases hv; rfl) (fun _ hv => by cases hv; rfl) rfl)
  · obtain ⟨i, -, rfl⟩ := Option.map_eq_some_iff.1 h.symm
    refine .inl (isListLeaf_within (fun v hv => ?_) (fun v hv => ?_) rfl)
    · obtain ⟨d, -, rfl⟩ := Option.map_eq_some_iff.1 hv
      rfl
    · obtain ⟨d, -, rfl⟩ := Option.map_eq_some_iff.1 hv
      rfl
  · obtain ⟨i, -, rfl⟩ := Option.map_eq_some_iff.1 h.symm
    exact .inr (.inl ⟨_, isListLeaf_within (fun _ hv => by cases hv; rfl)
      (fun _ hv => by cases hv; rfl) rfl, rfl⟩)
  · obtain ⟨b, -, rfl⟩ := Option.map_eq_some_iff.1 h.symm
    exact .inr (.inr ⟨_, b, rfl⟩)
  · obtain ⟨b, -, rfl⟩ := Option.map_eq_some_iff.1 h.symm
    exact .inl (isListLeaf_is rfl rfl)
  · exact .inl (isListLeaf_choiceClause h.symm (fun _ => rfl) rfl)
  · exact .inl (isListLeaf_choiceClause h.symm (fun _ => rfl) rfl)
  · obtain ⟨q, hq, rfl⟩ := Option.map_eq_some_iff.1 h.symm
    exact .inr (.inl ⟨q, isListLeaf_choiceClause hq (fun _ => rfl) rfl, rfl⟩)
  · exact .inl (isListLeaf_choiceClause h.symm (fun _ => rfl) rfl)

theorem isMadeIn_showOnly {q : Predicate} (hq : q.IsListLeaf) (n : Nat) :
    (showOnly q).IsMadeIn IsListLeaf (n + 2) :=
  .or_pair (isListLeaf_isMovie.isMadeIn _) (.and_pair (isListLeaf_isShow.isMadeIn n) (hq.isMadeIn n))

theorem isMadeIn_watchedClause (kind : Option MediaKind) (b : Bool) (n : Nat) :
    (watchedClause kind b).IsMadeIn IsListLeaf (n + 2) := by
  have flag : (Predicate.is .watched b).IsListLeaf := isListLeaf_is rfl rfl
  unfold watchedClause
  split
  · exact flag.isMadeIn _
  · exact .or_pair (.and_pair (isListLeaf_isMovie.isMadeIn n) (flag.isMadeIn n))
      (isListLeaf_isShow.isMadeIn _)

theorem isMadeIn_clause {c : Criteria} {p : Predicate} (h : some p ∈ c.clauses) (n : Nat) :
    p.IsMadeIn IsListLeaf (n + 2) := by
  rcases clause_cases h with hp | ⟨q, hq, rfl⟩ | ⟨kind, b, rfl⟩
  · exact hp.isMadeIn _
  · exact isMadeIn_showOnly hq n
  · exact isMadeIn_watchedClause kind b n

theorem isMadeIn_select (today : Date) (policy : SeasonPolicy) (c : Criteria) (n : Nat) :
    (c.select today policy).predicate.IsMadeIn IsListLeaf (n + 3) := by
  refine .join .conjunction fun p hp => ?_
  obtain ⟨clause, hclause, rfl⟩ := List.mem_filterMap.1 hp
  exact isMadeIn_clause hclause n

end Criteria

/-! ### Gaps -/

namespace GapRules

theorem isMadeIn_isWatchedMovie (n : Nat) : isWatchedMovie.IsMadeIn IsListLeaf (n + 1) :=
  .and_pair (isListLeaf_isMovie.isMadeIn n) ((isListLeaf_is rfl rfl).isMadeIn n)

/-- Whether the season is known is asked of stored progress. -/
theorem isListLeaf_noSeason : (isUnknown .lastSeason).IsListLeaf :=
  ⟨rfl, .inl rfl, trivial, .inr (.inl rfl)⟩

/-- Whether the season is a first one or a later one is asked of stored progress. -/
theorem isListLeaf_someSeason : (atLeast .lastSeason (1 : Int64)).IsListLeaf := by
  refine ⟨rfl, ⟨fun v hv => ?_, fun v hv => ?_⟩, trivial, .inr (.inr rfl)⟩
  · cases hv
    exact Field.admits_iff.2 rfl
  · cases hv

theorem isMadeIn_isBegunShow (n : Nat) : isBegunShow.IsMadeIn IsListLeaf (n + 1) :=
  .and_pair (isListLeaf_isShow.isMadeIn n) (isListLeaf_someSeason.isMadeIn n)

theorem isMadeIn_isGap (g : Gap) (n : Nat) : (isGap g).IsMadeIn IsListLeaf (n + 3) := by
  cases g with
  | watched =>
    exact .and_pair (isListLeaf_isMovie.isMadeIn _) ((isListLeaf_isUnknown rfl).isMadeIn _)
  | progress =>
    exact .and_pair (isListLeaf_isShow.isMadeIn _) (isListLeaf_noSeason.isMadeIn _)
  | rating =>
    exact .and_pair ((isListLeaf_isUnknown rfl).isMadeIn _)
      (.or_pair (isMadeIn_isWatchedMovie n) (isMadeIn_isBegunShow n))
  | watchAgain =>
    exact .and_pair (isMadeIn_isWatchedMovie _) ((isListLeaf_isUnknown rfl).isMadeIn _)

theorem isMadeIn_predicate (rules : GapRules) (n : Nat) :
    rules.predicate.IsMadeIn IsListLeaf (n + 4) := by
  refine .join .disjunction fun p hp => ?_
  obtain ⟨g, -, rfl⟩ := List.mem_map.1 hp
  exact isMadeIn_isGap g n

end GapRules

/-! ### Lists -/

theorem BuiltInList.isMadeIn_predicate (ctx : Context) (l : BuiltInList) :
    (l.predicate ctx).IsMadeIn IsListLeaf 4 := by
  cases l with
  | favorites => exact (isListLeaf_is rfl rfl).isMadeIn 4
  | watchlist => exact (isListLeaf_is rfl rfl).isMadeIn 4
  | problems => exact GapRules.isMadeIn_predicate _ 0
  | upcoming =>
    have notYetReleased : (atLeast .releaseDate ctx.today).IsListLeaf :=
      isListLeaf_within (fun _ hv => by cases hv; rfl) (fun _ hv => by cases hv) rfl
    rw [predicate]
    split
    · exact notYetReleased.isMadeIn 4
    · exact .and_pair (isListLeaf_isMovie.isMadeIn 3) (notYetReleased.isMadeIn 3)

theorem CuratedList.isMadeIn_predicate (l : CuratedList) :
    l.predicate.IsMadeIn IsListLeaf 4 := by
  rw [predicate]
  split
  · exact .always 4 false
  · next h => exact (isListLeaf_isIn (eq_false_of_ne_true h) (fun _ => rfl) rfl).isMadeIn 4

/-- The predicate of every list is built from list leaves, with at most four joins inside each
other. -/
theorem MediaList.isMadeIn_selection (ctx : Context) (l : MediaList) :
    (l.selection ctx).predicate.IsMadeIn IsListLeaf 4 := by
  cases l with
  | builtIn l => exact l.isMadeIn_predicate ctx
  | dynamic l => exact Criteria.isMadeIn_select ctx.today ctx.settings.seasons l.content 1
  | curated l => exact CuratedList.isMadeIn_predicate l

/-- The predicate of every list is built from list leaves. -/
theorem MediaList.isMadeOf_selection (ctx : Context) (l : MediaList) :
    (l.selection ctx).predicate.IsMadeOf IsListLeaf :=
  (l.isMadeIn_selection ctx).isMadeOf

end Mediatheque
