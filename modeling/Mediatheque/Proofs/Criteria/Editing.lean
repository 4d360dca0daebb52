import Mediatheque.Proofs.Criteria.Fingerprint
import Mathlib.Data.List.Basic

/-!
# Steps of editing

A step of editing starts anew, or it concerns one of the eleven conditions of criteria. A condition
with one value, a `Setting`, is what the last of several steps sets it to (`Setting.get_editAll`); a
condition with a set of values, a `Collection`, gathers what all of them add
(`Collection.mem_editAll`). So two steps may change places unless they set the same condition
(`editAll_swap`).
-/

namespace Mediatheque

namespace Criteria

/-! ### What a step is about -/

/-- The conditions of criteria. -/
inductive Condition where
  /-- For adults only, or not. -/
  | isAdult
  /-- Movies only, or shows only. -/
  | kind
  /-- The rating. -/
  | rating
  /-- The year of release. -/
  | year
  /-- The number of seasons. -/
  | seasonCount
  /-- Watched, or not. -/
  | watched
  /-- To be watched again, or not. -/
  | watchAgain
  /-- The genres. -/
  | genres
  /-- The production statuses. -/
  | statuses
  /-- The formats. -/
  | formats
  /-- The tags. -/
  | tags
  deriving DecidableEq

/-- Whether a condition has a set of values. -/
def Condition.isSet : Condition → Bool
  | .genres | .statuses | .formats | .tags => true
  | _ => false

namespace Edit

/-- What is started from if a step starts anew. -/
def restart? : Edit → Option Criteria
  | .watchedOnly => some { unrestricted with watched := some true }
  | .releasedIn y => some { unrestricted with year := some ⟨y, y⟩ }
  | .reset => some unrestricted
  | .replace c => some c
  | _ => none

/-- The condition that a step concerns if it does not start anew. -/
def condition? : Edit → Option Condition
  | .movies | .shows => some .kind
  | .adult _ => some .isAdult
  | .stars _ _ | .rating _ _ => some .rating
  | .year _ _ => some .year
  | .seasonCount _ _ => some .seasonCount
  | .watched _ => some .watched
  | .watchAgain _ => some .watchAgain
  | .genre _ | .genres _ => some .genres
  | .status _ => some .statuses
  | .format _ => some .formats
  | .tag _ => some .tags
  | .watchedOnly | .releasedIn _ | .reset | .replace _ => none

/-- Two steps concern different conditions, or add to the same set. -/
def Apart (e f : Edit) : Prop :=
  ∃ a b, e.condition? = some a ∧ f.condition? = some b ∧ (a ≠ b ∨ a.isSet)

theorem restart?_eq_none_of_condition? {e : Edit} {a : Condition} (h : e.condition? = some a) :
    e.restart? = none := by
  cases e <;> first | rfl | cases h

theorem Apart.restart?_eq_none {e f : Edit} (h : e.Apart f) :
    e.restart? = none ∧ f.restart? = none := by
  obtain ⟨a, b, ha, hb, -⟩ := h
  exact ⟨restart?_eq_none_of_condition? ha, restart?_eq_none_of_condition? hb⟩

/-! ### Values -/

/-- What a step sets the condition of being for adults to. -/
def adult? : Edit → Option Bool
  | .adult b => some b
  | _ => none

/-- The kind that a step asks for. -/
def kind? : Edit → Option MediaKind
  | .movies => some .movie
  | .shows => some .series
  | _ => none

/-- The bounds of the rating in a step; five whole stars are the most there are. -/
def ratings? : Edit → Option (StarRating × StarRating)
  | .stars a b => some (.capped (2 * a.toNat), .capped (2 * b.toNat))
  | .rating a b => some (a, b)
  | _ => none

/-- The bounds of the year in a step. -/
def years? : Edit → Option (Int32 × Int32)
  | .year a b => some (a, b)
  | _ => none

/-- The bounds of the number of seasons in a step. -/
def seasonCounts? : Edit → Option (UInt32 × UInt32)
  | .seasonCount a b => some (a, b)
  | _ => none

/-- What a step sets the condition of being watched to. -/
def watched? : Edit → Option Bool
  | .watched b => some b
  | _ => none

/-- What a step sets the condition of being watched again to. -/
def watchAgain? : Edit → Option Bool
  | .watchAgain b => some b
  | _ => none

/-- The genres that a step adds. -/
def newGenres : Edit → List Genre
  | .genre g => [g]
  | .genres l => l
  | _ => []

/-- The production statuses that a step adds. -/
def newStatuses : Edit → List ProductionStatus
  | .status s => [s]
  | _ => []

/-- The formats that a step adds. -/
def newFormats : Edit → List ShowFormat
  | .format f => [f]
  | _ => []

/-- The tags that a step adds. -/
def newTags : Edit → List TagId
  | .tag t => [t]
  | _ => []

/-- What is found in the last of the steps in which it is found. -/
def lastOf {α : Type} (found? : Edit → Option α) (steps : List Edit) : Option α :=
  (steps.filterMap found?).getLast?

end Edit

open Edit (lastOf)

section Last

variable {α β : Type} {found? : Edit → Option α}

theorem lastOf_cons {e : Edit} {steps : List Edit} :
    lastOf found? (e :: steps) = (lastOf found? steps).or (found? e) := by
  rw [lastOf, lastOf, List.filterMap_cons]
  cases found? e with
  | none => exact (Option.or_none).symm
  | some a =>
    rw [List.getLast?_cons]
    cases (steps.filterMap found?).getLast? with
    | none => rfl
    | some b => rfl

theorem lastOf_map {f : α → β} {steps : List Edit} :
    lastOf (fun e => (found? e).map f) steps = (lastOf found? steps).map f := by
  rw [lastOf, lastOf, ← List.map_filterMap, List.getLast?_map]

end Last

/-! ### Several steps -/

theorem editAll_cons {c : Criteria} {e : Edit} {steps : List Edit} :
    c.editAll (e :: steps) = (c.edit e).editAll steps := rfl

theorem editAll_append {c : Criteria} {before after : List Edit} :
    c.editAll (before ++ after) = (c.editAll before).editAll after := List.foldl_append

/-- A step that starts anew leaves nothing of what was before. -/
theorem edit_of_restart? {c base : Criteria} {e : Edit} (h : e.restart? = some base) :
    c.edit e = base := by
  cases e with
  | watchedOnly => exact Option.some.inj h
  | releasedIn year =>
    have single : Interval.ofBounds year year = ⟨year, year⟩ := ite_self _
    rw [edit, releasedIn, single]
    exact Option.some.inj h
  | reset => exact Option.some.inj h
  | replace c' => exact Option.some.inj h
  | _ => cases h

/-- A condition with one value. -/
structure Setting (α : Type) where
  /-- The condition. -/
  condition : Condition
  /-- Its value, if it has one. -/
  get : Criteria → Option α
  /-- The value that a step sets it to. -/
  set? : Edit → Option α
  /-- It is no set. -/
  not_isSet : condition.isSet = false
  /-- It is set by steps that concern it. -/
  concerned : ∀ {e v}, set? e = some v → e.condition? = some condition
  /-- A step sets it, or leaves it as it is. -/
  get_edit : ∀ {c e}, e.restart? = none → get (edit c e) = (set? e).or (get c)

namespace Setting

variable {α : Type} (s : Setting α)

/-- After several steps the value is the one of the last step that sets it. -/
theorem get_editAll {c : Criteria} {steps : List Edit} (goesOn : ∀ e ∈ steps, e.restart? = none) :
    s.get (c.editAll steps) = (lastOf s.set? steps).or (s.get c) := by
  induction steps generalizing c with
  | nil => rfl
  | cons e steps ih =>
    obtain ⟨first, later⟩ := List.forall_mem_cons.1 goesOn
    rw [editAll_cons, ih later, s.get_edit first, lastOf_cons, Option.or_assoc]

/-- Of two steps apart from each other not both set the value. -/
theorem set?_eq_none_or {e f : Edit} (h : e.Apart f) : s.set? e = none ∨ s.set? f = none := by
  obtain ⟨a, b, ha, hb, different⟩ := h
  refine Decidable.or_iff_not_imp_left.2 fun set => ?_
  refine Option.eq_none_iff_forall_ne_some.2 fun w hw => ?_
  -- Both would concern the condition of the setting, which is no set.
  obtain ⟨v, hv⟩ := Option.ne_none_iff_exists'.1 set
  have first : a = s.condition := Option.some.inj (ha.symm.trans (s.concerned hv))
  have second : b = s.condition := Option.some.inj (hb.symm.trans (s.concerned hw))
  rcases different with different | isSet
  · exact different (first.trans second.symm)
  · rw [first, s.not_isSet] at isSet
    cases isSet

theorem get_swap {c : Criteria} {e f : Edit} (h : e.Apart f) :
    s.get ((c.edit e).edit f) = s.get ((c.edit f).edit e) := by
  obtain ⟨he, hf⟩ := h.restart?_eq_none
  rw [s.get_edit hf, s.get_edit he, s.get_edit he, s.get_edit hf]
  rcases s.set?_eq_none_or h with none | none
  · rw [none, Option.none_or, Option.none_or]
  · rw [none, Option.none_or, Option.none_or]

end Setting

/-- A condition with a set of values. -/
structure Collection (α : Type) [Ord α] [Std.TransOrd α] where
  /-- Its values. -/
  get : Criteria → SortedSet α
  /-- The values that a step adds. -/
  added : Edit → List α
  /-- A step adds its values. -/
  get_edit : ∀ {c e}, e.restart? = none → get (edit c e) = (get c).insertAll (added e)

namespace Collection

variable {α : Type} [Ord α] [Std.TransOrd α] [Std.LawfulEqOrd α] (s : Collection α)

/-- After several steps there are the values from before and those that were added. -/
theorem mem_editAll {c : Criteria} {steps : List Edit} (goesOn : ∀ e ∈ steps, e.restart? = none)
    {a : α} : a ∈ s.get (c.editAll steps) ↔ a ∈ s.get c ∨ ∃ e ∈ steps, a ∈ s.added e := by
  induction steps generalizing c with
  | nil => simp [editAll]
  | cons e steps ih =>
    obtain ⟨first, later⟩ := List.forall_mem_cons.1 goesOn
    rw [editAll_cons, ih later, s.get_edit first, SortedSet.mem_insertAll, or_assoc,
      List.exists_mem_cons_iff]

theorem get_swap {c : Criteria} {e f : Edit} (h : e.Apart f) :
    s.get ((c.edit e).edit f) = s.get ((c.edit f).edit e) := by
  obtain ⟨he, hf⟩ := h.restart?_eq_none
  refine SortedBy.ext_mem fun a => ?_
  rw [s.get_edit hf, s.get_edit he, s.get_edit he, s.get_edit hf, SortedSet.mem_insertAll,
    SortedSet.mem_insertAll, SortedSet.mem_insertAll, SortedSet.mem_insertAll, or_right_comm]

end Collection

/-! ### The conditions -/

-- A step starts anew, which is excluded, or is seen right away to do to a condition what is stated.

namespace Setting

/-- For adults only, or not. -/
def isAdult : Setting Bool where
  condition := .isAdult
  get := Criteria.isAdult
  set? := Edit.adult?
  not_isSet := rfl
  concerned {e v} h := by
    cases e with
    | adult b => rfl
    | _ => cases h
  get_edit {c e} h := by cases e <;> first | rfl | cases h

/-- Movies only, or shows only. -/
def kind : Setting MediaKind where
  condition := .kind
  get := Criteria.kind
  set? := Edit.kind?
  not_isSet := rfl
  concerned {e v} h := by
    cases e with
    | movies => rfl
    | shows => rfl
    | _ => cases h
  get_edit {c e} h := by cases e <;> first | rfl | cases h

/-- The rating. -/
def rating : Setting (Interval StarRating) where
  condition := .rating
  get := Criteria.rating
  set? e := e.ratings?.map fun (a, b) => .ofBounds a b
  not_isSet := rfl
  concerned {e v} h := by
    cases e with
    | stars a b => rfl
    | rating a b => rfl
    | _ => cases h
  get_edit {c e} h := by cases e <;> first | rfl | cases h

/-- The year of release. -/
def year : Setting (Interval Int32) where
  condition := .year
  get := Criteria.year
  set? e := e.years?.map fun (a, b) => .ofBounds a b
  not_isSet := rfl
  concerned {e v} h := by
    cases e with
    | year a b => rfl
    | _ => cases h
  get_edit {c e} h := by cases e <;> first | rfl | cases h

/-- The number of seasons. -/
def seasonCount : Setting (Interval UInt32) where
  condition := .seasonCount
  get := Criteria.seasonCount
  set? e := e.seasonCounts?.map fun (a, b) => .ofBounds a b
  not_isSet := rfl
  concerned {e v} h := by
    cases e with
    | seasonCount a b => rfl
    | _ => cases h
  get_edit {c e} h := by cases e <;> first | rfl | cases h

/-- Watched, or not. -/
def watched : Setting Bool where
  condition := .watched
  get := Criteria.watched
  set? := Edit.watched?
  not_isSet := rfl
  concerned {e v} h := by
    cases e with
    | watched b => rfl
    | _ => cases h
  get_edit {c e} h := by cases e <;> first | rfl | cases h

/-- To be watched again, or not. -/
def watchAgain : Setting Bool where
  condition := .watchAgain
  get := Criteria.watchAgain
  set? := Edit.watchAgain?
  not_isSet := rfl
  concerned {e v} h := by
    cases e with
    | watchAgain b => rfl
    | _ => cases h
  get_edit {c e} h := by cases e <;> first | rfl | cases h

end Setting

namespace Collection

/-- The genres. -/
def genres : Collection Genre where
  get := Criteria.genres
  added := Edit.newGenres
  get_edit {c e} h := by cases e <;> first | rfl | cases h

/-- The production statuses. -/
def statuses : Collection ProductionStatus where
  get := Criteria.statuses
  added := Edit.newStatuses
  get_edit {c e} h := by cases e <;> first | rfl | cases h

/-- The formats. -/
def formats : Collection ShowFormat where
  get := Criteria.formats
  added := Edit.newFormats
  get_edit {c e} h := by cases e <;> first | rfl | cases h

/-- The tags. -/
def tags : Collection TagId where
  get := Criteria.tags
  added := Edit.newTags
  get_edit {c e} h := by cases e <;> first | rfl | cases h

end Collection

/-! ### The order of steps -/

/-- Two steps apart from each other lead to the same criteria in either order. -/
theorem edit_swap {c : Criteria} {e f : Edit} (h : e.Apart f) :
    (c.edit e).edit f = (c.edit f).edit e :=
  Criteria.ext (Setting.isAdult.get_swap h) (Setting.kind.get_swap h) (Setting.rating.get_swap h)
    (Setting.year.get_swap h) (Setting.seasonCount.get_swap h) (Setting.watched.get_swap h)
    (Setting.watchAgain.get_swap h) (Collection.genres.get_swap h) (Collection.statuses.get_swap h)
    (Collection.formats.get_swap h) (Collection.tags.get_swap h)

/-- They may change places wherever they stand next to each other. -/
theorem editAll_swap {c : Criteria} {before after : List Edit} {e f : Edit} (h : e.Apart f) :
    c.editAll (before ++ e :: f :: after) = c.editAll (before ++ f :: e :: after) := by
  rw [editAll_append, editAll_append, editAll_cons, editAll_cons, edit_swap h, editAll_cons,
    editAll_cons]

end Criteria

end Mediatheque
