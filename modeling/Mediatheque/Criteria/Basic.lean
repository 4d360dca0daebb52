import Mediatheque.Criteria.Interval
import Mediatheque.Media.Record

/-!
# Filter criteria

What a user asks of the records of a list. Every condition may be left open: a missing
value or an empty set asks for nothing. Criteria are edited in steps, each of which sets one
condition, adds to one set, or starts anew.
-/

namespace Mediatheque

/-- Conditions on records, each of which may be left open. -/
structure Criteria where
  /-- For adults only, or not. -/
  isAdult : Option Bool
  /-- Movies only, or shows only. -/
  kind : Option MediaKind
  /-- The rating. -/
  rating : Option (Interval StarRating)
  /-- The year of release, with both its ends. -/
  year : Option (Interval Int32)
  /-- The number of seasons of a show. -/
  seasonCount : Option (Interval UInt32)
  /-- Whether a movie was watched, and whether the owner is caught up with a show. -/
  watched : Option Bool
  /-- Whether the owner would watch it again. -/
  watchAgain : Option Bool
  /-- The genres, one of which has to be there. -/
  genres : SortedSet Genre
  /-- The production statuses to choose from. -/
  statuses : SortedSet ProductionStatus
  /-- The formats of a show to choose from. -/
  formats : SortedSet ShowFormat
  /-- The tags, one of which has to be there. -/
  tags : SortedSet TagId
  deriving DecidableEq

namespace Criteria

/-- The criteria that ask for nothing. -/
def unrestricted : Criteria where
  isAdult := none
  kind := none
  rating := none
  year := none
  seasonCount := none
  watched := none
  watchAgain := none
  genres := .empty
  statuses := .empty
  formats := .empty
  tags := .empty

/-- For each condition in turn, whether it asks for anything. -/
def activity (c : Criteria) : List Bool :=
  [c.isAdult.isSome, c.kind.isSome, c.rating.isSome, c.year.isSome, c.seasonCount.isSome,
   c.watched.isSome, c.watchAgain.isSome, !c.genres.isEmpty, !c.statuses.isEmpty,
   !c.formats.isEmpty, !c.tags.isEmpty]

/-- The number of conditions that ask for something. -/
def activeCount (c : Criteria) : Nat := c.activity.count true

/-- Whether no condition asks for anything. -/
def isReset (c : Criteria) : Bool :=
  c.isAdult.isNone && c.kind.isNone && c.rating.isNone && c.year.isNone && c.seasonCount.isNone
    && c.watched.isNone && c.watchAgain.isNone && c.genres.isEmpty && c.statuses.isEmpty
    && c.formats.isEmpty && c.tags.isEmpty

/-- Whether some condition cannot be decided from the fields of a record alone. -/
def needsRefinement (c : Criteria) : Bool := c.watched.isSome && c.kind != some .movie

/-! ### Editing -/

/-- The criteria with every condition left open. -/
def reset (c : Criteria) : Criteria :=
  { c with
    isAdult := none
    kind := none
    rating := none
    year := none
    seasonCount := none
    watched := none
    watchAgain := none
    genres := .empty
    statuses := .empty
    formats := .empty
    tags := .empty }

/-- A step of editing criteria. -/
inductive Edit where
  /-- Movies only. -/
  | movies
  /-- Shows only. -/
  | shows
  /-- For adults only, or not. -/
  | adult (b : Bool)
  /-- The rating lies between two numbers of whole stars. -/
  | stars (a b : UInt8)
  /-- The rating lies between two ratings. -/
  | rating (a b : StarRating)
  /-- The year of release lies between two years. -/
  | year (a b : Int32)
  /-- The number of seasons lies between two numbers. -/
  | seasonCount (a b : UInt32)
  /-- Watched, or not. -/
  | watched (b : Bool)
  /-- To be watched again, or not. -/
  | watchAgain (b : Bool)
  /-- One genre more. -/
  | genre (g : Genre)
  /-- Some genres more. -/
  | genres (l : List Genre)
  /-- One production status more. -/
  | status (s : ProductionStatus)
  /-- One format more. -/
  | format (f : ShowFormat)
  /-- One tag more. -/
  | tag (t : TagId)
  /-- Nothing but what was watched. -/
  | watchedOnly
  /-- Nothing but what was released in a year. -/
  | releasedIn (year : Int32)
  /-- Everything is left open. -/
  | reset
  /-- Other criteria instead. -/
  | replace (c : Criteria)

/-- The criteria that ask only for what was watched. -/
def watchedOnly : Criteria := { unrestricted with watched := some true }

/-- The criteria that ask only for what was released in a year. -/
def releasedIn (year : Int32) : Criteria :=
  { unrestricted with year := some (.ofBounds year year) }

/-- The criteria after a step of editing. -/
def edit (c : Criteria) : Edit → Criteria
  | .movies => { c with kind := some .movie }
  | .shows => { c with kind := some .series }
  | .adult b => { c with isAdult := some b }
  | .stars a b => { c with rating := some (.ofBounds (.ofStars a) (.ofStars b)) }
  | .rating a b => { c with rating := some (.ofBounds a b) }
  | .year a b => { c with year := some (.ofBounds a b) }
  | .seasonCount a b => { c with seasonCount := some (.ofBounds a b) }
  | .watched b => { c with watched := some b }
  | .watchAgain b => { c with watchAgain := some b }
  | .genre g => { c with genres := c.genres.insert g }
  | .genres l => { c with genres := c.genres.insertAll l }
  | .status s => { c with statuses := c.statuses.insert s }
  | .format f => { c with formats := c.formats.insert f }
  | .tag t => { c with tags := c.tags.insert t }
  | .watchedOnly => watchedOnly
  | .releasedIn year => releasedIn year
  | .reset => c.reset
  | .replace c' => c'

/-- The criteria after several steps of editing. -/
def editAll (c : Criteria) (steps : List Edit) : Criteria := steps.foldl edit c

/-! ### JSON form -/

/-- The keys of criteria, in order. -/
def keys : List String :=
  ["is_adult", "media_type", "rating", "year", "season_count", "watched", "watch_again", "genres",
   "statuses", "show_types", "tags"]

instance : JsonForm Criteria where
  toJson c := .obj (keys.zip
    [toJson c.isAdult, toJson c.kind, toJson c.rating, toJson c.year, toJson c.seasonCount,
     toJson c.watched, toJson c.watchAgain, toJson c.genres, toJson c.statuses,
     toJson c.formats, toJson c.tags])
  ofJson? manner j := do
    let [isAdult, kind, rating, year, seasonCount, watched, watchAgain, genres, statuses, formats,
      tags] ← j.record? manner keys | none
    return {
      isAdult := ← isAdult.orElse none
      kind := ← kind.orElse none
      rating := ← Interval.lenient? rating
      year := ← Interval.lenient? year
      seasonCount := ← Interval.lenient? seasonCount
      watched := ← watched.orElse none
      watchAgain := ← watchAgain.orElse none
      genres := ← genres.orElse .empty
      statuses := ← statuses.orElse .empty
      formats := ← formats.orElse .empty
      tags := ← tags.orElse .empty }

end Criteria

end Mediatheque
