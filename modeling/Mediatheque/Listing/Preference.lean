import Mediatheque.Error
import Mediatheque.SortedBy
import Mediatheque.Sort.Basic

/-!
# Sort preferences

What a user chose to sort a list by, kept for each list. A choice may leave the direction
to its key. For every list the preferences hold the last choice that was remembered and not
forgotten since (`mem_remember`, `mem_forget`).
-/

namespace Mediatheque

open Std

/-- A choice of what to sort by; without a direction the key's own one is meant. -/
structure SortPreference where
  /-- The key. -/
  key : SortKey
  /-- The direction, if one was chosen. -/
  direction : Option SortDirection
  deriving DecidableEq, Repr

namespace SortPreference

/-- The choice of a list for which nothing was chosen. -/
def byTitle : SortPreference := ⟨.title, none⟩

/-- The choice of a key and a direction. -/
def ofTerm (t : SortTerm) : SortPreference := ⟨t.key, some t.direction⟩

/-- The term that a choice means. -/
def term (p : SortPreference) : SortTerm := ⟨p.key, p.direction.getD p.key.defaultDirection⟩

instance : JsonForm SortPreference where
  toJson p := .obj <|
    ("key", toJson p.key) :: p.direction.toList.map fun d => ("direction", toJson d)
  ofJson? manner j := do
    let [key, direction] ← j.record? manner ["key", "direction"] | none
    return { key := ← key.required SortKey, direction := ← direction.orElse none }

end SortPreference

/-- The choice for one list. -/
structure ListPreference where
  /-- The list. -/
  list : ListId
  /-- The choice. -/
  choice : SortPreference
  deriving DecidableEq, Repr

/-- The choices for lists, at most one for each. -/
abbrev SortPreferences := SortedBy ListPreference.list

namespace SortPreferences

/-- The choice for a list. -/
def get? (p : SortPreferences) (list : ListId) : Option SortPreference :=
  (p.find? list).map (·.choice)

/-- The preferences with a choice for a list instead of the one before. -/
def remember (p : SortPreferences) (list : ListId) (choice : SortPreference) : SortPreferences :=
  p.insert ⟨list, choice⟩

/-- The preferences without a choice for a list. -/
def forget (p : SortPreferences) (list : ListId) : SortPreferences := p.erase list

/-- The term for a list, or the given one if there is no choice for it. -/
def termFor (p : SortPreferences) (list : ListId) (fallback : SortTerm) : SortTerm :=
  ((p.get? list).map (·.term)).getD fallback

theorem mem_remember {p : SortPreferences} {list : ListId} {choice : SortPreference}
    {entry : ListPreference} :
    entry ∈ p.remember list choice ↔
      entry = ⟨list, choice⟩ ∨ entry ∈ p ∧ compare list entry.list ≠ .eq :=
  SortedBy.mem_insert

theorem mem_forget {p : SortPreferences} {list : ListId} {entry : ListPreference} :
    entry ∈ p.forget list ↔ entry ∈ p ∧ compare list entry.list ≠ .eq :=
  SortedBy.mem_erase

/-! ### JSON form -/

/-- The JSON form of preferences: an object with the lists as its keys. -/
def form (p : SortPreferences) : Json :=
  .obj (p.toList.map fun entry => (String.ofList entry.list.uuid.toText, toJson entry.choice))

/-- Reads the choice for one list. -/
def entry? : String × Json → Option ListPreference
  | (key, j) => do return ⟨⟨← Uuid.ofText? key.toList⟩, ← j.as? SortPreference .direct⟩

/-- Reads preferences; of several choices for one list the last one stays. -/
def ofForm? : Json → Option SortPreferences
  | .obj members => (members.mapM entry?).map SortedBy.ofList
  | _ => none

/-- The text under which preferences are stored. -/
def storedText (p : SortPreferences) : String := String.ofList p.form.toText

/-- Reads preferences from the text under which they are stored. -/
def ofStoredText (s : String) : Except LibraryError SortPreferences :=
  match (Json.ofText? s.toList).bind ofForm? with
  | some p => .ok p
  | none => .error .unreadable

end SortPreferences

end Mediatheque
