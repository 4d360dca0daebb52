import Mediatheque.Criteria.Basic
import Mediatheque.Proofs.Json.Record

/-!
# Criteria are read back

Criteria are read back from their JSON form with the bounds of every range in order
(`Criteria.as?_toJson_sorted`), so they are read back as they were just if the bounds had been in
order before. Whatever form criteria are read from, a range is one with both of its bounds there,
and no range otherwise (`Interval.ComesFrom`).
-/

namespace Mediatheque

open Json

/-! ### Numbers of criteria -/

instance : ContentJsonForm UInt32 := ⟨fun _ => nofun⟩

instance : ContentJsonForm Int32 := ⟨fun _ => nofun⟩

instance : ContentJsonForm StarRating := ⟨fun _ => nofun⟩

instance : LawfulJsonForm StarRating where
  isExact_toJson r := .int (fits_of_bounds (by omega) (by omega))
  as?_toJson _ r := by
    have within : 0 ≤ (r.halfStars.val : Int) ∧ (r.halfStars.val : Int) ≤ 10 := by omega
    simp only [as?, JsonForm.ofJson?, toJson, intWithin?, if_pos within, Option.map_some,
      Int.toNat_natCast, StarRating.capped_halfStars]

instance : LawfulJsonForm Genre where
  isExact_toJson g := isExact_toJson g.number
  as?_toJson manner g := by
    have read := as?_toJson manner g.number
    simp only [as?, JsonForm.ofJson?, toJson] at read ⊢
    rw [read, Option.map_some]

/-! ### Intervals -/

namespace Interval

variable {α : Type} [Ord α]

/-- The interval with its bounds in order. -/
def sorted (i : Interval α) : Interval α := ofBounds i.low i.high

theorem ofBounds_eq_or (a b : α) : ofBounds a b = ⟨a, b⟩ ∨ ofBounds a b = ⟨b, a⟩ := by
  unfold ofBounds
  split
  · exact .inr rfl
  · exact .inl rfl

/-- Bounds in order stay in their places. -/
theorem sorted_eq_self_iff [Std.OrientedOrd α] {i : Interval α} : i.sorted = i ↔ i.IsOrdered := by
  constructor
  · intro h
    rw [← h]
    exact isOrdered_ofBounds i.low i.high
  · intro h
    have swap : compare i.high i.low = (compare i.low i.high).swap := Std.OrientedCmp.eq_swap
    have upward : ¬ (compare i.high i.low).isLT := by
      unfold IsOrdered at h
      rw [swap]
      revert h
      cases compare i.low i.high <;> decide
    rw [sorted, ofBounds, if_neg upward]

theorem map_sorted_eq_self_iff [Std.OrientedOrd α] {o : Option (Interval α)} :
    o.map sorted = o ↔ ∀ i, o = some i → i.IsOrdered := by
  cases o with
  | none => simp
  | some i => simp [sorted_eq_self_iff]

variable [JsonForm α]

theorem isExact_toJson_interval [LawfulJsonForm α] (i : Interval α) : (toJson i).IsExact :=
  .obj (List.forall_mem_cons.2
    ⟨isExact_toJson i.low, List.forall_mem_singleton.2 (isExact_toJson i.high)⟩)

/-- Both bounds of an interval are found in its form. -/
theorem bounds?_toJson [LawfulJsonForm α] [ContentJsonForm α] (manner : Manner) (i : Interval α) :
    bounds? manner (toJson i) = some (some i.low, some i.high) := by
  have low : (Member.given manner (toJson i.low)).optional α = some (some i.low) :=
    as?_toJson manner (some i.low)
  have high : (Member.given manner (toJson i.high)).optional α = some (some i.high) :=
    as?_toJson manner (some i.high)
  have found : (toJson i).record? manner ["min", "max"] =
      some [.given manner (toJson i.low), .given manner (toJson i.high)] := rfl
  simp only [bounds?, found, Option.bind_eq_bind, Option.bind_some, low, high]
  rfl

theorem lenient?_of_content {j : Json} (h : j ≠ .null) (manner : Manner) :
    lenient? (.given manner j) =
      (bounds? manner j).map fun p : Option α × Option α => ofBounds? p.1 p.2 := by
  cases j with
  | null => exact absurd rfl h
  | _ => rfl

/-- An interval that need not be there is read back with its bounds in order. -/
theorem lenient?_toJson [LawfulJsonForm α] [ContentJsonForm α] (manner : Manner)
    (o : Option (Interval α)) : lenient? (.given manner (toJson o)) = some (o.map sorted) := by
  cases o with
  | none => rfl
  | some i =>
    have content : toJson i ≠ .null := nofun
    have read := lenient?_of_content (α := α) content manner
    rw [bounds?_toJson, Option.map_some] at read
    exact read

theorem depth_toJson_le (h : ∀ a : α, (toJson a).depth = 0) (i : Interval α) :
    (toJson i).depth ≤ 1 := by
  refine depth_obj_le_iff.2 ⟨Nat.zero_lt_one, List.forall_mem_cons.2 ⟨?_,
    List.forall_mem_singleton.2 ?_⟩⟩
  · rw [h]
    exact Nat.zero_lt_one
  · rw [h]
    exact Nat.zero_lt_one

/-! ### What an interval is read from -/

/-- What is told of a range in a part of a record: nothing without the part and its content, nor
by one bound alone, and an interval by both bounds, in whatever order they come. -/
inductive ComesFrom (manner : Manner) : Option (Interval α) → Option Json → Prop where
  /-- There is no such part. -/
  | absent : ComesFrom manner none none
  /-- There is no content. -/
  | null : ComesFrom manner none (some .null)
  /-- A bound is not there, or has no content. -/
  | half {j : Json} :
    ((∀ bound, j.part? "min" 0 = some bound → bound = .null) ∨
      ∀ bound, j.part? "max" 1 = some bound → bound = .null) →
    ComesFrom manner none (some j)
  /-- Both bounds are there. -/
  | whole {j low high : Json} {a b : α} {i : Interval α} :
    j.part? "min" 0 = some low → low.as? α manner = some a →
    j.part? "max" 1 = some high → high.as? α manner = some b →
    i.IsOrdered → i = ⟨a, b⟩ ∨ i = ⟨b, a⟩ → ComesFrom manner (some i) (some j)

variable {manner : Manner}

theorem ComesFrom.isOrdered {i : Interval α} {part : Option Json}
    (h : ComesFrom manner (some i) part) : i.IsOrdered := by
  cases h with
  | whole _ _ _ _ ordered _ => exact ordered

omit [Ord α] in
theorem of_bounds? {j : Json} {p : Option α × Option α} (h : bounds? manner j = some p) :
    ∃ low high : Member, low.StandsFor manner (j.part? "min" 0) ∧
      high.StandsFor manner (j.part? "max" 1) ∧ low.optional α = some p.1 ∧
      high.optional α = some p.2 := by
  rw [bounds?] at h
  obtain ⟨found, hfound, h⟩ := Option.bind_eq_some_iff.1 h
  obtain ⟨m, hm, low⟩ := standsFor_part? hfound 0 rfl
  obtain ⟨m', hm', high⟩ := standsFor_part? hfound 1 rfl
  split at h
  · cases hm
    cases hm'
    obtain ⟨o, ho, h⟩ := Option.bind_eq_some_iff.1 h
    obtain ⟨o', ho', h⟩ := Option.bind_eq_some_iff.1 h
    cases h
    exact ⟨_, _, low, high, ho, ho'⟩
  · cases h

/-- What is read leniently is what is told. -/
theorem comesFrom_of_lenient? [Std.OrientedOrd α] {m : Member} {part : Option Json}
    (hm : m.StandsFor manner part) {o : Option (Interval α)} (h : lenient? m = some o) :
    ComesFrom manner o part := by
  cases hm with
  | absent => cases h; exact .absent
  | beyond => cases h; exact .absent
  | given j =>
    by_cases content : j = .null
    · subst content
      cases h
      exact .null
    · rw [lenient?_of_content content] at h
      obtain ⟨p, hp, rfl⟩ := Option.map_eq_some_iff.1 h
      obtain ⟨low, high, hlow, hhigh, readLow, readHigh⟩ := of_bounds? hp
      obtain ⟨a, b⟩ := p
      rcases hlow.optional_cases readLow with ⟨rfl, missing⟩ | ⟨j₁, a, part, value, rfl⟩
      · exact .half (.inl missing)
      · rcases hhigh.optional_cases readHigh with ⟨rfl, missing⟩ | ⟨j₂, b, part', value', rfl⟩
        · exact .half (.inr missing)
        · exact .whole part value part' value' (isOrdered_ofBounds a b) (ofBounds_eq_or a b)

end Interval

/-! ### Criteria -/

namespace Criteria

/-- The bounds of every range are in order. -/
structure HasOrderedRanges (c : Criteria) : Prop where
  /-- Those of the rating. -/
  rating : ∀ i, c.rating = some i → i.IsOrdered
  /-- Those of the year. -/
  year : ∀ i, c.year = some i → i.IsOrdered
  /-- Those of the number of seasons. -/
  seasonCount : ∀ i, c.seasonCount = some i → i.IsOrdered

/-- Nothing is out of order where nothing is asked for. -/
theorem hasOrderedRanges_unrestricted : unrestricted.HasOrderedRanges where
  rating := nofun
  year := nofun
  seasonCount := nofun

/-- Editing keeps the bounds in order, whatever order they are given in. -/
theorem HasOrderedRanges.edit {c : Criteria} (h : c.HasOrderedRanges) {step : Edit}
    (replaced : ∀ c', step = .replace c' → c'.HasOrderedRanges) :
    (c.edit step).HasOrderedRanges := by
  have ordered : ∀ {α : Type} [Ord α] [Std.OrientedOrd α] (a b : α) (i : Interval α),
      some (Interval.ofBounds a b) = some i → i.IsOrdered := by
    intro α _ _ a b i hi
    cases hi
    exact Interval.isOrdered_ofBounds a b
  cases step with
  | stars a b => exact { h with rating := ordered _ _ }
  | rating a b => exact { h with rating := ordered a b }
  | year a b => exact { h with year := ordered a b }
  | seasonCount a b => exact { h with seasonCount := ordered a b }
  | releasedIn year => exact { hasOrderedRanges_unrestricted with year := ordered year year }
  | watchedOnly => exact { hasOrderedRanges_unrestricted with }
  | reset => exact hasOrderedRanges_unrestricted
  | replace c' => exact replaced c' rfl
  | _ => exact { h with }

theorem HasOrderedRanges.editAll {c : Criteria} (h : c.HasOrderedRanges) {steps : List Edit}
    (replaced : ∀ c', .replace c' ∈ steps → c'.HasOrderedRanges) :
    (c.editAll steps).HasOrderedRanges := by
  induction steps generalizing c with
  | nil => exact h
  | cons step steps ih =>
    rw [Criteria.editAll, List.foldl_cons]
    refine ih (h.edit fun c' same => replaced c' (same ▸ List.mem_cons_self)) fun c' hc' => ?_
    exact replaced c' (List.mem_cons_of_mem step hc')

/-- The criteria with the bounds of every range in order. -/
def sorted (c : Criteria) : Criteria :=
  { c with
    rating := c.rating.map Interval.sorted
    year := c.year.map Interval.sorted
    seasonCount := c.seasonCount.map Interval.sorted }

theorem sorted_eq_self_iff {c : Criteria} : c.sorted = c ↔ c.HasOrderedRanges := by
  have ranges : c.sorted = c ↔ c.rating.map Interval.sorted = c.rating ∧
      c.year.map Interval.sorted = c.year ∧
      c.seasonCount.map Interval.sorted = c.seasonCount := by
    constructor
    · intro h
      exact ⟨congrArg rating h, congrArg year h, congrArg seasonCount h⟩
    · rintro ⟨hrating, hyear, hcount⟩
      rw [sorted, hrating, hyear, hcount]
  rw [ranges, Interval.map_sorted_eq_self_iff, Interval.map_sorted_eq_self_iff,
    Interval.map_sorted_eq_self_iff]
  exact ⟨fun ⟨hrating, hyear, hcount⟩ => ⟨hrating, hyear, hcount⟩,
    fun h => ⟨h.rating, h.year, h.seasonCount⟩⟩

/-- The forms of the conditions, in the order of their keys. -/
def forms (c : Criteria) : List Json :=
  [toJson c.isAdult, toJson c.kind, toJson c.rating, toJson c.year, toJson c.seasonCount,
   toJson c.watched, toJson c.watchAgain, toJson c.genres, toJson c.statuses, toJson c.formats,
   toJson c.tags]

theorem isExact_toJson_criteria (c : Criteria) : (toJson c).IsExact := by
  have parts : ∀ j ∈ c.forms, j.IsExact := by
    simp only [forms, List.forall_mem_cons]
    exact ⟨isExact_toJson c.isAdult, isExact_toJson c.kind,
      isExact_toJson_option Interval.isExact_toJson_interval c.rating,
      isExact_toJson_option Interval.isExact_toJson_interval c.year,
      isExact_toJson_option Interval.isExact_toJson_interval c.seasonCount,
      isExact_toJson c.watched, isExact_toJson c.watchAgain, isExact_toJson c.genres,
      isExact_toJson c.statuses, isExact_toJson c.formats, isExact_toJson c.tags, nofun⟩
  exact .obj fun m hm => parts m.2 (List.of_mem_zip hm).2

/-- Criteria hold intervals and sets, and nothing deeper. -/
theorem depth_toJson_le (c : Criteria) : (toJson c).depth ≤ 2 := by
  have choice : ∀ {α : Type} [JsonForm α], (∀ a : α, (toJson a).depth = 0) →
      ∀ o : Option α, (toJson o).depth < 2 := fun h o =>
    Nat.lt_succ_of_le (Nat.le_succ_of_le (depth_toJson_option_le (fun a => Nat.le_of_eq (h a)) o))
  have range : ∀ {α : Type} [Ord α] [JsonForm α], (∀ a : α, (toJson a).depth = 0) →
      ∀ o : Option (Interval α), (toJson o).depth < 2 := fun h o =>
    Nat.lt_succ_of_le (depth_toJson_option_le (Interval.depth_toJson_le h) o)
  have set : ∀ {α : Type} [JsonForm α], (∀ a : α, (toJson a).depth = 0) →
      ∀ l : List α, (toJson l).depth < 2 := fun h l =>
    Nat.lt_succ_of_le (depth_toJson_list_le (fun a => Nat.le_of_eq (h a)) l)
  have parts : ∀ j ∈ c.forms, j.depth < 2 := by
    simp only [forms, List.forall_mem_cons]
    exact ⟨choice (fun _ => rfl) c.isAdult, choice (fun _ => rfl) c.kind,
      range (fun _ => rfl) c.rating, range (fun _ => rfl) c.year,
      range (fun _ => rfl) c.seasonCount, choice (fun _ => rfl) c.watched,
      choice (fun _ => rfl) c.watchAgain, set (fun _ => rfl) c.genres.toList,
      set (fun _ => rfl) c.statuses.toList, set (fun _ => rfl) c.formats.toList,
      set (fun _ => rfl) c.tags.toList, nofun⟩
  exact depth_obj_le_iff.2 ⟨Nat.zero_lt_two, fun m hm => parts m.2 (List.of_mem_zip hm).2⟩

/-- Criteria are read back with the bounds of every range in order. -/
theorem as?_toJson_sorted (manner : Manner) (c : Criteria) :
    (toJson c).as? Criteria manner = some c.sorted := by
  have found : (toJson c).record? manner keys = some (c.forms.map (.given manner)) :=
    record?_obj manner (keys.zip c.forms) keys rfl (by decide)
  simp only [as?, JsonForm.ofJson?, found, forms, List.map_cons, List.map_nil,
    Option.bind_eq_bind, Option.bind_some, Member.orElse_toJson, Interval.lenient?_toJson]
  rfl

/-- The text of criteria is read back with the bounds of every range in order. -/
theorem ofText_textOf_sorted (c : Criteria) :
    Json.ofText Criteria (Json.textOf c) = some c.sorted := by
  have shallow : (toJson c).depth ≤ maxDepth := Nat.le_trans c.depth_toJson_le (by decide)
  rw [ofText, textOf, String.toList_ofList, (c.isExact_toJson_criteria.readBack shallow).1,
    Option.bind_some, c.as?_toJson_sorted]

/-! ### What criteria are read from -/

/-- What is told of the ranges in a record of criteria. -/
structure RangesComeFrom (manner : Manner) (c : Criteria) (j : Json) : Prop where
  /-- Of the rating. -/
  rating : Interval.ComesFrom manner c.rating (j.part? "rating" 2)
  /-- Of the year. -/
  year : Interval.ComesFrom manner c.year (j.part? "year" 3)
  /-- Of the number of seasons. -/
  seasonCount : Interval.ComesFrom manner c.seasonCount (j.part? "season_count" 4)

theorem RangesComeFrom.hasOrderedRanges {manner : Manner} {c : Criteria} {j : Json}
    (h : c.RangesComeFrom manner j) : c.HasOrderedRanges where
  rating i hi := by
    have told := h.rating
    rw [hi] at told
    exact told.isOrdered
  year i hi := by
    have told := h.year
    rw [hi] at told
    exact told.isOrdered
  seasonCount i hi := by
    have told := h.seasonCount
    rw [hi] at told
    exact told.isOrdered

/-- The ranges of criteria are those that were told. -/
theorem rangesComeFrom_of_as? {manner : Manner} {j : Json} {c : Criteria}
    (h : j.as? Criteria manner = some c) : c.RangesComeFrom manner j := by
  simp only [as?, JsonForm.ofJson?] at h
  obtain ⟨found, hfound, h⟩ := Option.bind_eq_some_iff.1 h
  obtain ⟨m₂, hm₂, rating⟩ := standsFor_part? hfound 2 rfl
  obtain ⟨m₃, hm₃, year⟩ := standsFor_part? hfound 3 rfl
  obtain ⟨m₄, hm₄, seasonCount⟩ := standsFor_part? hfound 4 rfl
  split at h
  · cases hm₂
    cases hm₃
    cases hm₄
    simp only [Option.bind_eq_bind, Option.bind_eq_some_iff] at h
    obtain ⟨_, -, _, -, r, hr, y, hy, s, hs, _, -, _, -, _, -, _, -, _, -, _, -, h⟩ := h
    cases h
    exact ⟨Interval.comesFrom_of_lenient? rating hr, Interval.comesFrom_of_lenient? year hy,
      Interval.comesFrom_of_lenient? seasonCount hs⟩
  · cases h

end Criteria

end Mediatheque
