import Mediatheque.Proofs.Json.Form

/-!
# Parts of records

A record is an object, in which a part is found under its key, or an array, in which it has its
place. Of which of the two a record is read makes no difference but for what is missing: an object
can lack any part, an array only the last ones (`standsFor_part?`). The parts of a tagged record
stand behind its tag (`part?_of_tagged?`).
-/

namespace Mediatheque.Json

variable {manner : Manner}

/-- What a record has under a key or, if it is an array, in a place. -/
def part? (key : String) (place : Nat) : Json → Option Json
  | .obj members => (valuesAt key members).head?
  | .arr items => items[place]?
  | _ => none

/-- What a part of a record is as a member of it. -/
inductive Member.StandsFor (manner : Manner) : Member → Option Json → Prop where
  /-- The part is there. -/
  | given (j : Json) : StandsFor manner (.given manner j) (some j)
  /-- An object lacks it. -/
  | absent : StandsFor manner .absent none
  /-- An array ends before it. -/
  | beyond : StandsFor manner .beyond none

theorem getElem?_of_mapM {α β : Type} {f : α → Option β} {l : List α} {m : List β}
    (h : l.mapM f = some m) {n : Nat} {a : α} (ha : l[n]? = some a) :
    ∃ b, m[n]? = some b ∧ f a = some b := by
  induction l generalizing m n with
  | nil => cases ha
  | cons a' l ih =>
    simp only [List.mapM_cons, Option.bind_eq_bind, Option.bind_eq_some_iff, Option.pure_def,
      Option.some.injEq] at h
    obtain ⟨b, hb, m, hm, rfl⟩ := h
    cases n with
    | zero => cases ha; exact ⟨b, rfl, hb⟩
    | succ n => exact ih hm ha

/-- The members of a record are its parts. -/
theorem standsFor_part? {j : Json} {keys : List String} {found : List Member}
    (h : j.record? manner keys = some found) (place : Nat) {key : String}
    (hkey : keys[place]? = some key) :
    ∃ m, found[place]? = some m ∧ m.StandsFor manner (j.part? key place) := by
  cases j with
  | obj members =>
    obtain ⟨m, hm, single⟩ := getElem?_of_mapM h hkey
    refine ⟨m, hm, ?_⟩
    rw [part?]
    split at single
    · next values =>
      cases single
      rw [values]
      exact .absent
    · next j values =>
      cases single
      rw [values]
      exact .given j
    · cases single
  | arr items =>
    rw [record?] at h
    split at h
    · cases h
      have bound : place < keys.length := (List.getElem?_eq_some_iff.1 hkey).1
      rw [part?]
      by_cases inside : place < items.length
      · refine ⟨.given manner items[place], ?_, ?_⟩
        · simp [List.getElem?_append, inside]
        · rw [List.getElem?_eq_getElem inside]
          exact .given _
      · refine ⟨.beyond, ?_, ?_⟩
        · simp [List.getElem?_append, inside, List.getElem?_replicate]
          omega
        · rw [List.getElem?_eq_none (Nat.le_of_not_lt inside)]
          exact .beyond
    · cases h
  | _ => cases h

/-- A member whose key may be absent has no value if there is no part, or one without content. -/
theorem Member.StandsFor.optional_cases {α : Type} [JsonForm α] {m : Member} {part : Option Json}
    (h : m.StandsFor manner part) {o : Option α} (read : m.optional α = some o) :
    (o = none ∧ ∀ j, part = some j → j = .null) ∨
      ∃ j a, part = some j ∧ j.as? α manner = some a ∧ o = some a := by
  cases h with
  | given j =>
    by_cases content : j = .null
    · subst content
      cases read
      exact .inl ⟨rfl, fun j h => (Option.some.inj h).symm⟩
    · have value : (j.as? α manner).map some = some o := (as?_option content manner).symm.trans read
      obtain ⟨a, ha, rfl⟩ := Option.map_eq_some_iff.1 value
      exact .inr ⟨j, a, rfl, ha, rfl⟩
  | absent =>
    cases read
    exact .inl ⟨rfl, nofun⟩
  | beyond => cases read

/-- A member that has to be given has the value of its part. -/
theorem Member.StandsFor.exists_of_required {α : Type} [JsonForm α] {m : Member}
    {part : Option Json} (h : m.StandsFor manner part) {a : α} (read : m.required α = some a) :
    ∃ j, part = some j ∧ j.as? α manner = some a := by
  cases h with
  | given j => exact ⟨j, rfl, read⟩
  | absent => cases read
  | beyond => cases read

theorem valuesAt_filter {key tagKey : String} (h : key ≠ tagKey) (members : List (String × Json)) :
    valuesAt key (members.filter fun m => m.1 != tagKey) = valuesAt key members := by
  rw [valuesAt, valuesAt, List.filter_filter]
  refine congrArg _ (List.filter_congr fun m _ => ?_)
  by_cases same : m.1 = key
  · simp [same, h]
  · simp [same]

/-- The parts of a tagged record stand behind its tag. -/
theorem part?_of_tagged? {j rest : Json} {names : List String} {key tagKey tag : String}
    (different : key ≠ tagKey) (h : j.tagged? manner names tagKey = some (tag, rest))
    (place : Nat) : rest.part? key place = j.part? key (place + 1) := by
  cases j with
  | obj members =>
    rw [tagged?] at h
    split at h
    · obtain ⟨_, -, same⟩ := Option.map_eq_some_iff.1 h
      cases same
      rw [part?, part?, valuesAt_filter different]
    · cases h
  | arr items =>
    cases items with
    | nil => cases h
    | cons first items =>
      obtain ⟨_, -, same⟩ := Option.map_eq_some_iff.1 h
      cases same
      rfl
  | _ => cases h

end Mediatheque.Json
