import Mediatheque.Listing.MediaList
import Mediatheque.Proofs.Sort.Preference
import Mathlib.Data.List.Induction

/-!
# The history of preferences

Preferences are changed by remembering and by forgetting what a list is sorted by, and they are
saved and read back in between. What they hold after a history of steps is told by the history
alone: the choices that were remembered, and for whose list nothing was remembered or forgotten
later (`SortPreferences.exists_after`). Saving and reading back is always possible, and it changes
nothing (`SortPreferences.readBack`).
-/

namespace Mediatheque

open Std

/-- A step in the history of preferences. -/
inductive PreferenceStep where
  /-- A choice for a list is remembered. -/
  | remember (list : ListId) (choice : SortPreference)
  /-- A key and a direction are remembered for a list. -/
  | rememberTerm (list : ListId) (t : SortTerm)
  /-- What was remembered for a list is forgotten. -/
  | forget (list : ListId)
  /-- The preferences are saved and read back. -/
  | reload

namespace PreferenceStep

/-- The list that a step concerns. -/
def list? : PreferenceStep → Option ListId
  | .remember list _ | .rememberTerm list _ | .forget list => some list
  | .reload => none

/-- The choice that a step remembers. -/
def choice? : PreferenceStep → Option SortPreference
  | .remember _ choice => some choice
  | .rememberTerm _ t => some (.ofTerm t)
  | .forget _ | .reload => none

/-- After the steps the choice is remembered for the list: a step remembered it, and no later step
concerns the list. -/
def IsRemembered (steps : List PreferenceStep) (list : ListId) (choice : SortPreference) : Prop :=
  ∃ before s after, steps = before ++ s :: after ∧ s.list? = some list ∧
    s.choice? = some choice ∧ ∀ s' ∈ after, s'.list? ≠ some list

variable {steps : List PreferenceStep} {list : ListId} {choice : SortPreference}

theorem not_isRemembered_nil : ¬IsRemembered [] list choice := by
  rintro ⟨before, s, after, h, -⟩
  exact List.append_ne_nil_of_right_ne_nil before (List.cons_ne_nil _ _) h.symm

/-- The last step decides if it concerns the list, and leaves everything as it is otherwise. -/
theorem isRemembered_concat {s : PreferenceStep} :
    IsRemembered (steps ++ [s]) list choice ↔
      if s.list? = some list then s.choice? = some choice else IsRemembered steps list choice := by
  constructor
  · rintro ⟨before, s', after, heq, hlist, hchoice, later⟩
    rcases List.eq_nil_or_concat after with rfl | ⟨after, last, rfl⟩
    · obtain ⟨-, same⟩ := List.append_inj' heq rfl
      cases same
      rw [if_pos hlist]
      exact hchoice
    · rw [List.concat_eq_append] at heq later
      rw [← List.cons_append, ← List.append_assoc] at heq
      obtain ⟨rfl, same⟩ := List.append_inj' heq rfl
      cases same
      rw [if_neg (later s (List.mem_append_right after (List.mem_singleton_self s)))]
      exact ⟨before, s', after, rfl, hlist, hchoice, fun s'' h =>
        later s'' (List.mem_append_left _ h)⟩
  · intro h
    by_cases hs : s.list? = some list
    · rw [if_pos hs] at h
      exact ⟨steps, s, [], rfl, hs, h, nofun⟩
    · rw [if_neg hs] at h
      obtain ⟨before, s', after, rfl, hlist, hchoice, later⟩ := h
      refine ⟨before, s', after ++ [s], by simp, hlist, hchoice, fun s'' h => ?_⟩
      rcases List.mem_append.1 h with h | h
      · exact later s'' h
      · rw [List.mem_singleton.1 h]
        exact hs

/-- Only the steps that concern a list tell what is remembered for it. -/
theorem isRemembered_filter_iff :
    IsRemembered (steps.filter fun s => s.list? = some list) list choice ↔
      IsRemembered steps list choice := by
  induction steps using List.reverseRecOn with
  | nil => rfl
  | append_singleton steps s ih =>
    rw [List.filter_append, isRemembered_concat]
    by_cases hs : s.list? = some list
    · rw [List.filter_cons_of_pos (by simpa using hs), List.filter_nil, isRemembered_concat,
        if_pos hs, if_pos hs]
    · rw [List.filter_cons_of_neg (by simpa using hs), List.filter_nil, List.append_nil, ih,
        if_neg hs]

/-- The term that the steps tell for a list: that of the choice which is remembered, or the given
one if none is. -/
def TellsTerm (steps : List PreferenceStep) (list : ListId) (fallback t : SortTerm) : Prop :=
  (∃ choice, IsRemembered steps list choice ∧ t = choice.term) ∨
    ((∀ choice, ¬IsRemembered steps list choice) ∧ t = fallback)

end PreferenceStep

namespace SortPreferences

open PreferenceStep (IsRemembered)

/-! ### Saving and reading back -/

theorem isExact_form (p : SortPreferences) : p.form.IsExact := .obj fun m hm => by
  obtain ⟨entry, -, rfl⟩ := List.mem_map.1 hm
  exact isExact_toJson entry.choice

theorem depth_form_le (p : SortPreferences) : p.form.depth ≤ 2 := by
  refine Json.depth_obj_le_iff.2 ⟨Nat.zero_lt_two, fun m hm => ?_⟩
  obtain ⟨entry, -, rfl⟩ := List.mem_map.1 hm
  rw [entry.choice.depth_toJson]
  exact Nat.one_lt_two

/-- Preferences are read back from their form. -/
theorem ofForm?_form (p : SortPreferences) : ofForm? p.form = some p := by
  have entries : (p.toList.map fun entry =>
      (String.ofList entry.list.uuid.toText, toJson entry.choice)).mapM entry? = some p.toList := by
    rw [List.mapM_map, Json.mapM_eq_some_map (g := id), List.map_id]
    intro entry _
    rw [Function.comp_apply, entry?, String.toList_ofList, Uuid.ofText?_toText, as?_toJson]
    rfl
  rw [form, ofForm?, entries, Option.map_some, SortedBy.ofList_toList]

/-- Preferences are read back from the text under which they are stored. -/
theorem readBack (p : SortPreferences) : ofStoredText p.storedText = .ok p := by
  have shallow : p.form.depth ≤ Json.maxDepth := Nat.le_trans p.depth_form_le (by decide)
  rw [ofStoredText, storedText, String.toList_ofList, (p.isExact_form.readBack shallow).1,
    Option.bind_some, ofForm?_form]

/-! ### Steps -/

/-- The preferences after a step. -/
def apply (p : SortPreferences) : PreferenceStep → Except LibraryError SortPreferences
  | .remember list choice => .ok (p.remember list choice)
  | .rememberTerm list t => .ok (p.remember list (.ofTerm t))
  | .forget list => .ok (p.forget list)
  | .reload => ofStoredText p.storedText

/-- The preferences after a history that begins without any. -/
def after (steps : List PreferenceStep) : Except LibraryError SortPreferences :=
  steps.foldlM apply SortedBy.empty

theorem get?_eq_some_iff {p : SortPreferences} {list : ListId} {choice : SortPreference} :
    p.get? list = some choice ↔ ⟨list, choice⟩ ∈ p := by
  rw [get?, Option.map_eq_some_iff]
  constructor
  · rintro ⟨entry, found, rfl⟩
    obtain ⟨member, same⟩ := SortedBy.find?_eq_some_iff.1 found
    rw [LawfulEqOrd.eq_of_compare same]
    exact member
  · intro member
    exact ⟨_, SortedBy.find?_eq_some_iff.2 ⟨member, ReflOrd.compare_self⟩, rfl⟩

/-- A choice that is remembered is the one for its list, and leaves the other ones. -/
theorem get?_remember {p : SortPreferences} {list i : ListId} {choice : SortPreference} :
    (p.remember list choice).get? i = if list = i then some choice else p.get? i := by
  refine Option.ext fun c => ?_
  rw [get?_eq_some_iff, mem_remember, ListPreference.mk.injEq, Ne, LawfulEqOrd.compare_eq_iff_eq]
  by_cases same : list = i
  · simp [same, eq_comm]
  · simp [same, Ne.symm same, get?_eq_some_iff]

/-- There is no choice for a list that is forgotten, and the other ones are left. -/
theorem get?_forget {p : SortPreferences} {list i : ListId} :
    (p.forget list).get? i = if list = i then none else p.get? i := by
  refine Option.ext fun c => ?_
  rw [get?_eq_some_iff, mem_forget, Ne, LawfulEqOrd.compare_eq_iff_eq]
  by_cases same : list = i
  · simp [same]
  · simp [same, get?_eq_some_iff]

/-- Every step can be made. The choice for a list is afterwards what the step remembers for it, and
what it was before if the step concerns another list or none. -/
theorem exists_apply (p : SortPreferences) (s : PreferenceStep) :
    ∃ p', p.apply s = .ok p' ∧
      ∀ list, p'.get? list = if s.list? = some list then s.choice? else p.get? list := by
  cases s with
  | remember list choice =>
    refine ⟨_, rfl, fun i => ?_⟩
    rw [get?_remember]
    simp [PreferenceStep.list?, PreferenceStep.choice?]
  | rememberTerm list t =>
    refine ⟨_, rfl, fun i => ?_⟩
    rw [get?_remember]
    simp [PreferenceStep.list?, PreferenceStep.choice?]
  | forget list =>
    refine ⟨_, rfl, fun i => ?_⟩
    rw [get?_forget]
    simp [PreferenceStep.list?, PreferenceStep.choice?]
  | reload => exact ⟨p, p.readBack, fun _ => rfl⟩

/-! ### Histories -/

/-- A history comes to preferences that hold what is remembered after it. -/
theorem exists_after (steps : List PreferenceStep) :
    ∃ p, after steps = .ok p ∧
      ∀ list choice, p.get? list = some choice ↔ IsRemembered steps list choice := by
  induction steps using List.reverseRecOn with
  | nil =>
    refine ⟨SortedBy.empty, rfl, fun list choice => ⟨nofun, fun h => ?_⟩⟩
    exact absurd h PreferenceStep.not_isRemembered_nil
  | append_singleton steps s ih =>
    obtain ⟨p, hp, held⟩ := ih
    obtain ⟨p', hp', step⟩ := p.exists_apply s
    refine ⟨p', ?_, fun list choice => ?_⟩
    · rw [after] at hp
      rw [after, List.foldlM_append, hp]
      exact (bind_pure (p.apply s)).trans hp'
    · rw [step, PreferenceStep.isRemembered_concat]
      split
      · rfl
      · exact held list choice

/-- What preferences hold after a history: the choices that are remembered. -/
structure Reflects (p : SortPreferences) (steps : List PreferenceStep) : Prop where
  /-- A choice is there if it is remembered. -/
  get?_iff : ∀ list choice, p.get? list = some choice ↔ IsRemembered steps list choice
  /-- A list is sorted by the term that the steps tell. -/
  termFor : ∀ list fallback, PreferenceStep.TellsTerm steps list fallback (p.termFor list fallback)
  /-- There are as many choices as there are lists for which one is remembered. -/
  size : ∃ lists : List ListId, lists.Nodup ∧
    (∀ list, list ∈ lists ↔ ∃ choice, IsRemembered steps list choice) ∧ p.size = lists.length
  /-- A list of a user is sorted by the term that the steps tell, or else by its own one. -/
  preferredSort : ∀ (l : MediaList) (id : ListId), l.id? = some id →
    PreferenceStep.TellsTerm steps id l.defaultSort (l.preferredSort p)
  /-- A built-in list is sorted by its own term. -/
  builtIn : ∀ l : BuiltInList,
    (MediaList.builtIn l).preferredSort p = (MediaList.builtIn l).defaultSort

theorem tellsTerm_termFor {p : SortPreferences} {steps : List PreferenceStep}
    (held : ∀ list choice, p.get? list = some choice ↔ IsRemembered steps list choice)
    (list : ListId) (fallback : SortTerm) :
    PreferenceStep.TellsTerm steps list fallback (p.termFor list fallback) := by
  rw [termFor]
  cases found : p.get? list with
  | none =>
    refine .inr ⟨fun choice h => ?_, rfl⟩
    rw [← held, found] at h
    cases h
  | some choice => exact .inl ⟨choice, (held list choice).1 found, rfl⟩

/-- The lists with a choice are told apart. -/
theorem nodup_lists (p : SortPreferences) : (p.toList.map (·.list)).Nodup :=
  List.pairwise_map.2 <| p.increasing.imp fun {a b} less same => by
    rw [same, ReflOrd.compare_self] at less
    cases less

theorem mem_lists_iff {p : SortPreferences} {list : ListId} :
    list ∈ p.toList.map (·.list) ↔ ∃ choice, p.get? list = some choice := by
  rw [List.mem_map]
  constructor
  · rintro ⟨entry, member, rfl⟩
    exact ⟨entry.choice, get?_eq_some_iff.2 member⟩
  · rintro ⟨choice, found⟩
    exact ⟨_, get?_eq_some_iff.1 found, rfl⟩

end SortPreferences

end Mediatheque
