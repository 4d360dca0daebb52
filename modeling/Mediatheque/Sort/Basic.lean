import Mediatheque.Json.Form

/-!
# Sort orders

A user sorts a list by one key in one direction. What is handed to a store is an order of
several terms: the one that was chosen, and a second one that decides ties. Every key names
its own second term, so the result never depends on what a store would do by itself.
-/

namespace Mediatheque

/-- What a list can be sorted by. -/
inductive SortKey where
  /-- The title. -/
  | title
  /-- The release date. -/
  | releaseDate
  /-- The owner's rating. -/
  | rating
  /-- How far it was watched. -/
  | progress
  /-- When it was added. -/
  | dateAdded
  deriving DecidableEq, Repr

/-- From the least to the greatest, or the other way round. -/
inductive SortDirection where
  /-- The least first. -/
  | ascending
  /-- The greatest first. -/
  | descending
  deriving DecidableEq, Repr

/-- A key with the direction in which it is applied. -/
structure SortTerm where
  /-- The key. -/
  key : SortKey
  /-- The direction. -/
  direction : SortDirection
  deriving DecidableEq, Repr

/-- The terms of an order, the one that decides first in front. -/
structure SortOrder where
  /-- The terms. -/
  terms : List SortTerm
  deriving DecidableEq, Repr

namespace SortKey

instance : Named SortKey where
  all := [.title, .releaseDate, .rating, .progress, .dateAdded]
  name
    | .title => "title"
    | .releaseDate => "release_date"
    | .rating => "rating"
    | .progress => "watch_state"
    | .dateAdded => "date_added"
  mem_all a := by cases a <;> decide
  nodup_names := by decide

/-- The label of a key. -/
def label : SortKey → String
  | .title => "Title"
  | .releaseDate => "Release Date"
  | .rating => "Rating"
  | .progress => "Watch Progress"
  | .dateAdded => "Date Added"

/-- The direction of a key for which none was chosen: titles ascend, all else descends. -/
def defaultDirection : SortKey → SortDirection
  | .title => .ascending
  | _ => .descending

/-- The key in its default direction. -/
def term (k : SortKey) : SortTerm := ⟨k, k.defaultDirection⟩

/-- The term that decides between records that tie on a key. -/
def tieBreaker : SortKey → SortTerm
  | .title => term .releaseDate
  | _ => term .title

end SortKey

namespace SortDirection

instance : Named SortDirection where
  all := [.ascending, .descending]
  name
    | .ascending => "ascending"
    | .descending => "descending"
  mem_all a := by cases a <;> decide
  nodup_names := by decide

/-- The other direction. -/
def reverse : SortDirection → SortDirection
  | .ascending => .descending
  | .descending => .ascending

/-- Whether the greatest comes first. -/
def isDescending (d : SortDirection) : Bool := d == .descending

/-- The comparison in a direction, from the one in ascending order. -/
def apply : SortDirection → Ordering → Ordering
  | .ascending, o => o
  | .descending, o => o.swap

/-- The word for a direction in a query and in the text of an order. -/
def keyword : SortDirection → String
  | .ascending => "ASC"
  | .descending => "DESC"

end SortDirection

namespace SortTerm

/-- By title: the term for a list for which none was chosen. -/
def byTitle : SortTerm := SortKey.title.term

/-- The order in which a list sorted by one term is fetched. -/
def toOrder (t : SortTerm) : SortOrder := ⟨[t, t.key.tieBreaker]⟩

/-- A term as it is shown. -/
def toText (t : SortTerm) : String := Named.name t.key ++ " " ++ t.direction.keyword

instance : JsonForm SortTerm where
  toJson t := .obj [("key", toJson t.key), ("direction", toJson t.direction)]
  ofJson? manner j := do
    let [key, direction] ← j.record? manner ["key", "direction"] | none
    return { key := ← key.required SortKey, direction := ← direction.required SortDirection }

end SortTerm

namespace SortOrder

/-- By title: the order for a list for which none was chosen. -/
def byTitle : SortOrder := SortTerm.byTitle.toOrder

/-- The term that decides first. -/
def primary (o : SortOrder) : Option SortTerm := o.terms.head?

/-- An order as it is shown. -/
def toText (o : SortOrder) : String := ", ".intercalate (o.terms.map SortTerm.toText)

instance : JsonForm SortOrder where
  toJson o := toJson o.terms
  ofJson? manner j := (j.as? (List SortTerm) manner).map SortOrder.mk

end SortOrder

end Mediatheque
