import Mediatheque.Criteria.Selection
import Mediatheque.Listing.Preference

/-!
# Lists of a user

A list that a user owns has a name, an icon and a sort preference, and something that says
what is in it: criteria, which are asked anew every time, or a set of records put together
by hand.
-/

namespace Mediatheque

/-- A list that a user owns, the content of which is given by an `α`. -/
structure UserList (α : Type) where
  /-- The identity. -/
  id : ListId
  /-- The name. -/
  name : String
  /-- The name of the icon. -/
  icon : String
  /-- What is in it. -/
  content : α
  /-- What it is sorted by. -/
  sort : SortPreference
  deriving DecidableEq

/-- A list of the records that meet criteria. -/
abbrev DynamicList := UserList Criteria

/-- A list put together by hand. -/
abbrev CuratedList := UserList (SortedSet MediaId)

namespace UserList

/-- A list sorted by title. -/
def new {α : Type} (id : ListId) (name icon : String) (content : α) : UserList α :=
  ⟨id, name, icon, content, .byTitle⟩

/-- The list with its content changed. -/
def mapContent {α : Type} (l : UserList α) (f : α → α) : UserList α :=
  { l with content := f l.content }

/-! ### JSON form -/

variable {α : Type} [JsonForm α]

/-- The members of a list's JSON form, with the content under the given key. -/
def members (contentKey : String) (l : UserList α) : List (String × Json) :=
  [("id", toJson l.id), ("name", toJson l.name), ("icon_id", toJson l.icon),
   (contentKey, toJson l.content), ("sort", toJson l.sort)]

/-- Reads a list with its content under the given key, after its record was held. -/
def ofRecord? (contentKey : String) (j : Json) : Option (UserList α) := do
  let [id, name, icon, content, sort] ←
    j.record? .held ["id", "name", "icon_id", contentKey, "sort"] | none
  return {
    id := ← id.required ListId
    name := ← name.required String
    icon := ← icon.required String
    content := ← content.required α
    sort := ← sort.orElse .byTitle }

end UserList

namespace DynamicList

/-- A list without any conditions. -/
def unrestricted (id : ListId) (name icon : String) : DynamicList := .new id name icon .unrestricted

/-- What the list selects on a day. -/
def select (l : DynamicList) (today : Date) (policy : SeasonPolicy) : Selection :=
  l.content.select today policy

end DynamicList

namespace CuratedList

/-- A list without any records. -/
def empty (id : ListId) (name icon : String) : CuratedList := .new id name icon .empty

/-- Whether a record is in the list. -/
def contains (l : CuratedList) (id : MediaId) : Bool := SortedBy.contains l.content id

/-- The list with a record. -/
def add (l : CuratedList) (id : MediaId) : CuratedList := l.mapContent (·.insert id)

/-- The list without a record. -/
def remove (l : CuratedList) (id : MediaId) : CuratedList := l.mapContent (·.erase id)

/-- The predicate of the records in the list. -/
def predicate (l : CuratedList) : Predicate :=
  if l.content.isEmpty then .always false else .isIn .id l.content.toList

end CuratedList

end Mediatheque
