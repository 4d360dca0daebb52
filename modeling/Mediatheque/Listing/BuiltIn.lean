import Mediatheque.Gap
import Mediatheque.Settings.Basic
import Mediatheque.Sort.Basic

/-!
# Built-in lists

The lists that every library has: the favourites, the watchlist, the records with gaps, and
what is still to be released.
-/

namespace Mediatheque

/-- What a list depends on besides the records: the day and the settings. -/
structure Context where
  /-- The day. -/
  today : Date
  /-- The settings. -/
  settings : Settings
  deriving DecidableEq

/-- A list that every library has. -/
inductive BuiltInList where
  /-- The favourites. -/
  | favorites
  /-- What the owner wants to watch. -/
  | watchlist
  /-- The records with gaps. -/
  | problems
  /-- What is released today or later. -/
  | upcoming
  deriving DecidableEq, Repr

namespace BuiltInList

instance : Named BuiltInList where
  all := [.favorites, .watchlist, .problems, .upcoming]
  name
    | .favorites => "favorites"
    | .watchlist => "watchlist"
    | .problems => "problems"
    | .upcoming => "upcoming"
  mem_all a := by cases a <;> decide
  nodup_names := by decide

/-- The label of a list. -/
def label : BuiltInList → String
  | .favorites => "Favorites"
  | .watchlist => "Watchlist"
  | .problems => "Problems"
  | .upcoming => "Upcoming"

/-- The name of a list's icon. -/
def icon : BuiltInList → String
  | .favorites => "heart.fill"
  | .watchlist => "bookmark.fill"
  | .problems => "exclamationmark.triangle.fill"
  | .upcoming => "calendar"

/-- What a list is sorted by if nothing was chosen. What is upcoming comes soonest first. -/
def defaultSort : BuiltInList → SortTerm
  | .favorites | .problems => .byTitle
  | .watchlist => SortKey.dateAdded.term
  | .upcoming => ⟨.releaseDate, .ascending⟩

/-- The predicate of the records in a list. -/
def predicate (ctx : Context) : BuiltInList → Predicate
  | .favorites => .is .isFavorite true
  | .watchlist => .is .isOnWatchlist true
  | .problems => ctx.settings.gaps.predicate
  | .upcoming =>
    let notYetReleased : Predicate := .atLeast .releaseDate ctx.today
    if ctx.settings.upcoming.includeShows then notYetReleased else .and [.isMovie, notYetReleased]

end BuiltInList

end Mediatheque
