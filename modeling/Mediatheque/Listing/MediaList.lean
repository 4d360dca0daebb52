import Mediatheque.Listing.BuiltIn
import Mediatheque.Listing.UserList
import Mediatheque.Sort.Comparison

/-!
# Lists

The built-in lists and those of a user, and what they have in common: every list resolves
to a selection and an order. To fetch a list, a store is asked for the records that the
selection's predicate holds of, in that order; what it returns is then refined.
-/

namespace Mediatheque

/-- A list of records. -/
inductive MediaList where
  /-- A list that every library has. -/
  | builtIn (list : BuiltInList)
  /-- A list of the records that meet criteria. -/
  | dynamic (list : DynamicList)
  /-- A list put together by hand. -/
  | curated (list : CuratedList)
  deriving DecidableEq

/-- A list as it is handed to a store. -/
structure ResolvedList where
  /-- Which records are in it. -/
  selection : Selection
  /-- How they are ordered. -/
  order : SortOrder

/-- How a store answers: with the records that a predicate holds of, in an order, or not at
all. -/
abbrev Fetch := Predicate → SortOrder → Except LibraryError (List MediaRecord)

namespace MediaList

/-- The identity of a list; built-in lists have none. -/
def id? : MediaList → Option ListId
  | .builtIn _ => none
  | .dynamic l => some l.id
  | .curated l => some l.id

/-- The name of a list, as it is shown. -/
def name : MediaList → String
  | .builtIn l => l.label
  | .dynamic l => l.name
  | .curated l => l.name

/-- The name of a list's icon. -/
def icon : MediaList → String
  | .builtIn l => l.icon
  | .dynamic l => l.icon
  | .curated l => l.icon

/-- Whether a user can change the list. -/
def isEditable : MediaList → Bool
  | .builtIn _ => false
  | _ => true

/-- What a list is sorted by if nothing is asked for. -/
def defaultSort : MediaList → SortTerm
  | .builtIn l => l.defaultSort
  | .dynamic l => l.sort.term
  | .curated l => l.sort.term

/-- What a list is sorted by under preferences. -/
def preferredSort (preferences : SortPreferences) (l : MediaList) : SortTerm :=
  match l.id? with
  | some id => preferences.termFor id l.defaultSort
  | none => l.defaultSort

/-- The records of a list. -/
def selection (ctx : Context) : MediaList → Selection
  | .builtIn l => .ofPredicate (l.predicate ctx)
  | .dynamic l => l.select ctx.today ctx.settings.seasons
  | .curated l => .ofPredicate l.predicate

/-- The list as it is handed to a store, sorted as asked for. -/
def resolve (ctx : Context) (sort : Option SortTerm) (l : MediaList) : ResolvedList :=
  ⟨l.selection ctx, (sort.getD l.defaultSort).toOrder⟩

/-- The records of a list in a store. -/
def fetch (ask : Fetch) (ctx : Context) (sort : Option SortTerm) (l : MediaList) :
    Except LibraryError (List MediaRecord) :=
  let resolved := l.resolve ctx sort
  (ask resolved.selection.predicate resolved.order).map resolved.selection.refine

/-! ### JSON form -/

/-- The tags of the kinds of lists. -/
def kinds : List String := ["fixed", "dynamic", "membership"]

instance : JsonForm MediaList where
  toJson
    | .builtIn l => .obj [("kind", .str "fixed"), ("list", toJson l)]
    | .dynamic l => .obj (("kind", .str "dynamic") :: l.members "criteria")
    | .curated l => .obj (("kind", .str "membership") :: l.members "members")
  ofJson? manner j := do
    let (kind, rest) ← j.tagged? manner kinds "kind"
    match kind with
    | "fixed" =>
      let [list] ← rest.record? .held ["list"] | none
      return .builtIn (← list.required BuiltInList)
    | "dynamic" => (UserList.ofRecord? "criteria" rest).map .dynamic
    | "membership" => (UserList.ofRecord? "members" rest).map .curated
    | _ => none

/-- The text under which a list is stored. -/
def storedText (l : MediaList) : String := Json.textOf l

/-- Reads a list from the text under which it is stored. -/
def ofStoredText (s : String) : Except LibraryError MediaList :=
  match Json.ofReadableText MediaList s with
  | some l => .ok l
  | none => .error .unreadable

end MediaList

end Mediatheque
