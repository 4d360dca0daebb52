import Mediatheque.Json.Form

/-!
# Fields

The attributes of a record that a predicate can ask about. Most hold a single value or
none; genres and tags hold a set of values.
-/

namespace Mediatheque

/-- An attribute of a record that a predicate can ask about. -/
inductive Field where
  /-- The identity. -/
  | id
  /-- Movie or show. -/
  | kind
  /-- Whether it is for adults only. -/
  | isAdult
  /-- The genres. -/
  | genres
  /-- The owner's rating, in half stars. -/
  | rating
  /-- The release date. -/
  | releaseDate
  /-- The production status. -/
  | status
  /-- The format of a show. -/
  | format
  /-- The number of seasons. -/
  | seasonCount
  /-- The watched flag. -/
  | watched
  /-- Whether the owner would watch it again. -/
  | watchAgain
  /-- The stored season of the progress. -/
  | lastSeason
  /-- The stored episode of the progress. -/
  | lastEpisode
  /-- The tags. -/
  | tags
  /-- Whether it is a favourite. -/
  | isFavorite
  /-- Whether the owner wants to watch it. -/
  | isOnWatchlist
  deriving DecidableEq, Repr

namespace Field

instance : Named Field where
  all := [.id, .kind, .isAdult, .genres, .rating, .releaseDate, .status, .format, .seasonCount,
    .watched, .watchAgain, .lastSeason, .lastEpisode, .tags, .isFavorite, .isOnWatchlist]
  name
    | .id => "id"
    | .kind => "media_type"
    | .isAdult => "is_adult"
    | .genres => "genres"
    | .rating => "personal_rating"
    | .releaseDate => "release_date"
    | .status => "status"
    | .format => "show_type"
    | .seasonCount => "season_count"
    | .watched => "watched"
    | .watchAgain => "watch_again"
    | .lastSeason => "last_season_watched"
    | .lastEpisode => "last_episode_watched"
    | .tags => "tags"
    | .isFavorite => "is_favorite"
    | .isOnWatchlist => "is_on_watchlist"
  mem_all a := by cases a <;> decide
  nodup_names := by decide

/-- The name of a field. -/
abbrev name (f : Field) : String := Named.name f

/-- Whether a field holds a set of values. -/
def isSetValued : Field → Bool
  | .genres | .tags => true
  | _ => false

end Field

end Mediatheque
