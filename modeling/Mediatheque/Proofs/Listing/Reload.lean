import Mediatheque.Listing.MediaList
import Mediatheque.Proofs.Criteria.Storage
import Mediatheque.Proofs.Sort.Preference

/-!
# Lists are read back

A stored list is read back as itself if the bounds of its ranges are in order, as they are in
criteria that were edited or read before; other bounds change places.
-/

namespace Mediatheque

open Json

/-! ### Lists of a user -/

namespace UserList

variable {α : Type} [JsonForm α]

/-- A list is read back from its members if its content is. -/
theorem ofRecord?_members (l : UserList α) (contentKey : String) {content : α}
    (nodup : ["id", "name", "icon_id", contentKey, "sort"].Nodup)
    (h : (toJson l.content).as? α .held = some content) :
    ofRecord? contentKey (.obj (l.members contentKey)) = some { l with content } := by
  have found : (obj (l.members contentKey)).record? .held
      ["id", "name", "icon_id", contentKey, "sort"] =
      some [.given .held (toJson l.id), .given .held (toJson l.name), .given .held (toJson l.icon),
        .given .held (toJson l.content), .given .held (toJson l.sort)] :=
    record?_obj .held (l.members contentKey) _ rfl nodup
  have body : (Member.given .held (toJson l.content)).required α = some content := h
  simp only [ofRecord?, found, Option.bind_eq_bind, Option.bind_some, Member.required_toJson,
    Member.orElse_toJson, body]
  rfl

theorem isExact_members {contentKey : String} (l : UserList α) (h : (toJson l.content).IsExact) :
    ∀ m ∈ l.members contentKey, m.2.IsExact := by
  simp only [members, List.forall_mem_cons]
  exact ⟨isExact_toJson l.id, isExact_toJson l.name, isExact_toJson l.icon, h,
    isExact_toJson l.sort, nofun⟩

theorem depth_lt_of_mem_members {contentKey : String} (l : UserList α)
    (h : (toJson l.content).depth ≤ 2) : ∀ m ∈ l.members contentKey, m.2.depth < 3 := by
  simp only [members, List.forall_mem_cons, l.sort.depth_toJson]
  exact ⟨Nat.zero_lt_succ 2, Nat.zero_lt_succ 2, Nat.zero_lt_succ 2, Nat.lt_succ_of_le h,
    by decide, nofun⟩

/-- The content of a list is read from the part with its key. -/
theorem exists_of_ofRecord? {contentKey : String} {j : Json} {l : UserList α}
    (h : ofRecord? contentKey j = some l) :
    ∃ c, j.part? contentKey 3 = some c ∧ c.as? α .held = some l.content := by
  obtain ⟨found, hfound, h⟩ := Option.bind_eq_some_iff.1 h
  obtain ⟨m, hm, content⟩ := standsFor_part? hfound 3 rfl
  split at h
  · cases hm
    simp only [Option.bind_eq_bind, Option.bind_eq_some_iff] at h
    obtain ⟨_, -, _, -, _, -, c, hc, _, -, h⟩ := h
    cases h
    exact content.exists_of_required hc
  · cases h

end UserList

namespace MediaList

/-! ### Reading back -/

/-- The bounds of every range in the list are in order. -/
def HasOrderedRanges : MediaList → Prop
  | .dynamic l => l.content.HasOrderedRanges
  | .builtIn _ | .curated _ => True

/-- The list with the bounds of every range in order. -/
def sorted : MediaList → MediaList
  | .dynamic l => .dynamic { l with content := l.content.sorted }
  | l => l

theorem sorted_eq_self_iff {l : MediaList} : l.sorted = l ↔ l.HasOrderedRanges := by
  cases l with
  | builtIn l => exact ⟨fun _ => trivial, fun _ => rfl⟩
  | curated l => exact ⟨fun _ => trivial, fun _ => rfl⟩
  | dynamic l =>
    rw [HasOrderedRanges, ← Criteria.sorted_eq_self_iff]
    constructor
    · intro h
      exact congrArg UserList.content (MediaList.dynamic.inj h)
    · intro h
      rw [sorted, h]

/-- A list is read back from its form with the bounds of every range in order. -/
theorem as?_toJson_sorted (l : MediaList) : (toJson l).as? MediaList .direct = some l.sorted := by
  cases l with
  | builtIn l =>
    have tag : (toJson (MediaList.builtIn l)).tagged? .direct kinds "kind" =
        some ("fixed", .obj [("list", toJson l)]) :=
      tagged?_obj .direct kinds "fixed" _ ["list"] rfl (by decide)
    have found : (obj [("list", toJson l)]).record? .held ["list"] =
        some [.given .held (toJson l)] := rfl
    simp only [as?, JsonForm.ofJson?, tag, found, Option.bind_eq_bind, Option.bind_some,
      Member.required_toJson]
    rfl
  | dynamic l =>
    have tag : (toJson (MediaList.dynamic l)).tagged? .direct kinds "kind" =
        some ("dynamic", .obj (l.members "criteria")) :=
      tagged?_obj .direct kinds "dynamic" _ ["id", "name", "icon_id", "criteria", "sort"] rfl
        (by decide)
    have content := l.content.as?_toJson_sorted .held
    have read := l.ofRecord?_members "criteria" (by decide) content
    simp only [as?, JsonForm.ofJson?, tag, Option.bind_eq_bind, Option.bind_some, read]
    rfl
  | curated l =>
    have tag : (toJson (MediaList.curated l)).tagged? .direct kinds "kind" =
        some ("membership", .obj (l.members "members")) :=
      tagged?_obj .direct kinds "membership" _ ["id", "name", "icon_id", "members", "sort"] rfl
        (by decide)
    have content := as?_toJson .held l.content
    have read := l.ofRecord?_members "members" (by decide) content
    simp only [as?, JsonForm.ofJson?, tag, Option.bind_eq_bind, Option.bind_some, read]
    rfl

theorem isExact_toJson_list (l : MediaList) : (toJson l).IsExact := by
  cases l with
  | builtIn l =>
    exact .obj (List.forall_mem_cons.2 ⟨.str _, List.forall_mem_singleton.2 (isExact_toJson l)⟩)
  | dynamic l =>
    exact .obj (List.forall_mem_cons.2
      ⟨.str _, l.isExact_members l.content.isExact_toJson_criteria⟩)
  | curated l =>
    exact .obj (List.forall_mem_cons.2 ⟨.str _, l.isExact_members (isExact_toJson l.content)⟩)

/-- A list holds criteria or a set beside its members, and nothing deeper. -/
theorem depth_toJson_le (l : MediaList) : (toJson l).depth ≤ 3 := by
  have tag : ∀ s : String, (Json.str s).depth < 3 := fun s => Nat.zero_lt_succ 2
  cases l with
  | builtIn l =>
    exact depth_obj_le_iff.2 ⟨Nat.zero_lt_succ 2, List.forall_mem_cons.2
      ⟨tag _, List.forall_mem_singleton.2 (tag _)⟩⟩
  | dynamic l =>
    exact depth_obj_le_iff.2 ⟨Nat.zero_lt_succ 2, List.forall_mem_cons.2
      ⟨tag _, l.depth_lt_of_mem_members l.content.depth_toJson_le⟩⟩
  | curated l =>
    have set : (toJson l.content).depth ≤ 2 := Nat.le_succ_of_le
      (depth_toJson_list_le (fun _ => Nat.le_of_eq rfl) l.content.toList)
    exact depth_obj_le_iff.2 ⟨Nat.zero_lt_succ 2, List.forall_mem_cons.2
      ⟨tag _, l.depth_lt_of_mem_members set⟩⟩

/-! ### What a list is read from -/

/-- The criteria of a list are read from the part with their key, behind the tag. -/
theorem exists_of_as?_dynamic {j : Json} {l : DynamicList}
    (h : j.as? MediaList .direct = some (.dynamic l)) :
    ∃ c, j.part? "criteria" 4 = some c ∧ c.as? Criteria .held = some l.content := by
  simp only [as?, JsonForm.ofJson?] at h
  obtain ⟨⟨tag, rest⟩, tagged, h⟩ := Option.bind_eq_some_iff.1 h
  rw [← part?_of_tagged? (by decide) tagged]
  dsimp only at h
  split at h
  · obtain ⟨found, -, h⟩ := Option.bind_eq_some_iff.1 h
    split at h
    · obtain ⟨_, -, h⟩ := Option.bind_eq_some_iff.1 h
      cases h
    · cases h
  · obtain ⟨l', hl', same⟩ := Option.map_eq_some_iff.1 h
    cases same
    exact UserList.exists_of_ofRecord? hl'
  · obtain ⟨l', -, same⟩ := Option.map_eq_some_iff.1 h
    cases same
  · cases h

/-! ### Texts -/

theorem ofStoredText_eq_ok_iff {s : String} {l : MediaList} :
    ofStoredText s = .ok l ↔ Json.ofReadableText MediaList s = some l := by
  rw [ofStoredText]
  cases Json.ofReadableText MediaList s with
  | none => simp
  | some l' => simp

/-- A stored list is read back with the bounds of every range in order. -/
theorem ofStoredText_storedText_sorted (l : MediaList) :
    ofStoredText l.storedText = .ok l.sorted := by
  have shallow : (toJson l).depth ≤ maxDepth := Nat.le_trans l.depth_toJson_le (by decide)
  obtain ⟨read, readable⟩ := l.isExact_toJson_list.readBack shallow
  rw [ofStoredText_eq_ok_iff, ofReadableText, storedText, textOf, String.toList_ofList, read,
    Option.filter_some, if_pos readable, Option.bind_some, l.as?_toJson_sorted]

/-- The ranges of a list that was read are those that were told. -/
theorem rangesComeFrom_of_ofStoredText {s : String} {l : DynamicList}
    (h : ofStoredText s = .ok (.dynamic l)) :
    ∃ j c, Json.ofText? s.toList = some j ∧ j.part? "criteria" 4 = some c ∧
      l.content.RangesComeFrom .held c := by
  obtain ⟨j, read, h⟩ := Option.bind_eq_some_iff.1 (ofStoredText_eq_ok_iff.1 h)
  obtain ⟨c, part, content⟩ := exists_of_as?_dynamic h
  exact ⟨j, c, (Option.filter_eq_some_iff.1 read).1, part, Criteria.rangesComeFrom_of_as? content⟩

theorem hasOrderedRanges_of_ofStoredText {s : String} {l : MediaList} (h : ofStoredText s = .ok l) :
    l.HasOrderedRanges := by
  cases l with
  | builtIn l => trivial
  | curated l => trivial
  | dynamic l =>
    obtain ⟨_, _, -, -, told⟩ := rangesComeFrom_of_ofStoredText h
    exact told.hasOrderedRanges

/-- **A saved list is read back as itself** just if the bounds of its ranges are in order, and then
it resolves to what it resolved to before. Editing keeps them in order, and so does reading: a list
that was read from any text is saved and read back as itself, and a range of it is the one that was
told with both of its bounds. The same holds of criteria that are saved alone. -/
theorem reloads_as_itself :
    (∀ l : MediaList, ofStoredText l.storedText = .ok l ↔ l.HasOrderedRanges) ∧
    (∀ l : MediaList, l.HasOrderedRanges → ∀ (ctx : Context) (sort : Option SortTerm),
      (ofStoredText l.storedText).map (·.resolve ctx sort) = .ok (l.resolve ctx sort)) ∧
    (∀ c : Criteria, Json.ofText Criteria (Json.textOf c) = some c ↔ c.HasOrderedRanges) ∧
    (∀ (c : Criteria) (steps : List Criteria.Edit), c.HasOrderedRanges →
      (∀ c', .replace c' ∈ steps → c'.HasOrderedRanges) → (c.editAll steps).HasOrderedRanges) ∧
    (∀ (s : String) (l : MediaList), ofStoredText s = .ok l →
      ofStoredText l.storedText = .ok l ∧ ∀ d, l = .dynamic d →
        ∃ j c, Json.ofText? s.toList = some j ∧ j.part? "criteria" 4 = some c ∧
          d.content.RangesComeFrom .held c) ∧
    ∀ (s : String) (c : Criteria), Json.ofText Criteria s = some c →
      Json.ofText Criteria (Json.textOf c) = some c ∧
        ∃ j, Json.ofText? s.toList = some j ∧ c.RangesComeFrom .direct j := by
  have list : ∀ l : MediaList, ofStoredText l.storedText = .ok l ↔ l.HasOrderedRanges := by
    intro l
    rw [ofStoredText_storedText_sorted, Except.ok.injEq, sorted_eq_self_iff]
  have criteria : ∀ c : Criteria,
      Json.ofText Criteria (Json.textOf c) = some c ↔ c.HasOrderedRanges := by
    intro c
    rw [c.ofText_textOf_sorted, Option.some.injEq, Criteria.sorted_eq_self_iff]
  refine ⟨list, ?_, criteria, fun c steps h => h.editAll, ?_, ?_⟩
  · intro l h ctx sort
    rw [(list l).2 h]
    rfl
  · intro s l h
    refine ⟨(list l).2 (hasOrderedRanges_of_ofStoredText h), ?_⟩
    rintro d rfl
    exact rangesComeFrom_of_ofStoredText h
  · intro s c h
    obtain ⟨j, read, value⟩ := Option.bind_eq_some_iff.1 h
    have told := Criteria.rangesComeFrom_of_as? value
    exact ⟨(criteria c).2 told.hasOrderedRanges, j, read, told⟩

/-- A list of what came out in the nineties is read back as itself, and resolves to the same. Had
the years been given the other way round without being put in order, it would not be. -/
theorem reloads_as_itself_nineties :
    let nineties (years : Interval Int32) : MediaList := .dynamic
      (.new ⟨⟨7⟩⟩ "The \"90s\"" "calendar" { Criteria.unrestricted with year := some years })
    (nineties ⟨1990, 1999⟩).HasOrderedRanges ∧
      ofStoredText (nineties ⟨1990, 1999⟩).storedText = .ok (nineties ⟨1990, 1999⟩) ∧
      (∀ (ctx : Context) (sort : Option SortTerm),
        (ofStoredText (nineties ⟨1990, 1999⟩).storedText).map (·.resolve ctx sort) =
          .ok ((nineties ⟨1990, 1999⟩).resolve ctx sort)) ∧
      ofStoredText (nineties ⟨1999, 1990⟩).storedText ≠ .ok (nineties ⟨1999, 1990⟩) := by
  intro nineties
  have ordered : (nineties ⟨1990, 1999⟩).HasOrderedRanges :=
    { Criteria.hasOrderedRanges_unrestricted with
      year := fun i hi => by cases hi; exact rfl }
  have reversed : ¬(nineties ⟨1999, 1990⟩).HasOrderedRanges := fun h =>
    absurd (h.year _ rfl) (show ¬(compare (1999 : Int32) 1990).isLE by decide)
  obtain ⟨reload, same, -⟩ := reloads_as_itself
  exact ⟨ordered, (reload _).2 ordered, same _ ordered, fun h => reversed ((reload _).1 h)⟩

end MediaList

end Mediatheque
