import Mediatheque.Media.Progress
import Mediatheque.Media.Season
import Mediatheque.Media.StarRating
import Mediatheque.Media.Vocabulary

/-!
# Media records

A movie or a show with what its owner keeps about it, and what follows from a record: its
progress, the last season available, whether its owner is caught up. A movie answers from
its watched flag, a show from its progress; an answer that depends on something unknown is
unknown.
-/

namespace Mediatheque

/-- A movie or a show with what its owner keeps about it. -/
structure MediaRecord where
  /-- The identity. -/
  id : MediaId
  /-- The title. -/
  title : String
  /-- Movie or show. -/
  kind : MediaKind
  /-- Whether it is for adults only. -/
  isAdult : Bool
  /-- The genres. -/
  genres : SortedSet Genre
  /-- The owner's rating. -/
  rating : Option StarRating
  /-- When a movie is released, or a show airs first. -/
  releaseDate : Option Date
  /-- The status of its production. -/
  status : Option ProductionStatus
  /-- The format of a show. -/
  format : Option ShowFormat
  /-- How many seasons a show has. -/
  seasonCount : Option UInt32
  /-- The seasons of a show. -/
  seasons : List Season
  /-- Whether the owner has watched it; for movies. -/
  watched : Option Bool
  /-- Whether the owner would watch it again. -/
  watchAgain : Option Bool
  /-- The stored season of the progress. -/
  lastSeason : Option Int64
  /-- The stored episode of the progress. -/
  lastEpisode : Option Int64
  /-- The owner's tags. -/
  tags : SortedSet TagId
  /-- Whether it is one of the owner's favourites. -/
  isFavorite : Bool
  /-- Whether the owner wants to watch it. -/
  isOnWatchlist : Bool
  /-- When it was added. -/
  createdAt : Instant
  deriving DecidableEq

namespace MediaRecord

/-- A record of which nothing but its title is known. -/
def blank (id : MediaId) (title : String) (kind : MediaKind) (createdAt : Instant) :
    MediaRecord where
  id := id
  title := title
  kind := kind
  isAdult := false
  genres := .empty
  rating := none
  releaseDate := none
  status := none
  format := none
  seasonCount := none
  seasons := []
  watched := none
  watchAgain := none
  lastSeason := none
  lastEpisode := none
  tags := .empty
  isFavorite := false
  isOnWatchlist := false
  createdAt := createdAt

/-- Whether it is a movie. -/
def isMovie (r : MediaRecord) : Bool := r.kind == .movie

/-- Whether it is a show. -/
def isShow (r : MediaRecord) : Bool := r.kind == .series

/-- The year of its release. -/
def releaseYear (r : MediaRecord) : Option Int := r.releaseDate.map Date.year

/-! ### Progress -/

/-- How far it has been watched, if that is known. -/
def progress (r : MediaRecord) : Option Progress :=
  Progress.ofFields? r.lastSeason r.lastEpisode

/-- The record with the given progress. -/
def withProgress (r : MediaRecord) (p : Option Progress) : MediaRecord :=
  { r with
    lastSeason := p.map (·.toFields.1)
    lastEpisode := p.bind (·.toFields.2) }

/-- The progress that a stored text tells; a text that tells none leaves it unknown. -/
def storedProgress (text : Option String) : Option Progress :=
  text.bind fun s => Progress.ofText? s.toList

/-- The record with the progress that a stored text tells. -/
def restoreProgress (r : MediaRecord) (text : Option String) : MediaRecord :=
  r.withProgress (storedProgress text)

/-- The text under which the progress is stored, if it is known. -/
def progressText (r : MediaRecord) : Option String :=
  r.progress.map fun p => String.ofList p.toText

/-! ### Being caught up -/

/-- The last season that is available on a day, or zero if none is. -/
def lastAvailableSeason (r : MediaRecord) (today : Date) (policy : SeasonPolicy) : UInt32 :=
  ((r.seasons.filter (policy.isAvailable · today)).map (·.number)).foldl max 0

/-- The number of episodes of a season, or zero if the record does not have the season. Of
several seasons with the number the first one counts. -/
def episodeCount (r : MediaRecord) (season : UInt32) : UInt32 :=
  (r.seasons.find? (·.number == season)).elim 0 (·.episodeCount)

/-- Whether everything available on a day was watched, if that is known. -/
def isCaughtUp (r : MediaRecord) (today : Date) (policy : SeasonPolicy) : Option Bool :=
  match r.kind with
  | .movie => r.watched
  | .series =>
    r.progress.map (Progress.isCaughtUp (r.lastAvailableSeason today policy) r.episodeCount)

/-- Whether anything was watched, if that is known. -/
def isStarted (r : MediaRecord) : Option Bool :=
  match r.kind with
  | .movie => r.watched
  | .series => r.progress.map Progress.isStarted

/-! ### JSON form -/

/-- The keys of a record, in order. -/
def keys : List String :=
  ["id", "title", "media_type", "is_adult", "genres", "personal_rating", "release_date", "status",
   "show_type", "season_count", "seasons", "watched", "watch_again", "last_season_watched",
   "last_episode_watched", "tags", "is_favorite", "is_on_watchlist", "created_at"]

instance : JsonForm MediaRecord where
  toJson r := .obj (keys.zip
    [toJson r.id, toJson r.title, toJson r.kind, toJson r.isAdult, toJson r.genres,
     toJson r.rating, toJson r.releaseDate, toJson r.status, toJson r.format,
     toJson r.seasonCount, toJson r.seasons, toJson r.watched, toJson r.watchAgain,
     toJson r.lastSeason, toJson r.lastEpisode, toJson r.tags, toJson r.isFavorite,
     toJson r.isOnWatchlist, toJson r.createdAt])
  ofJson? manner j := do
    let [id, title, kind, isAdult, genres, rating, releaseDate, status, format, seasonCount,
      seasons, watched, watchAgain, lastSeason, lastEpisode, tags, isFavorite, isOnWatchlist,
      createdAt] ← j.record? manner keys | none
    return {
      id := ← id.required MediaId
      title := ← title.required String
      kind := ← kind.required MediaKind
      isAdult := ← isAdult.required Bool
      genres := ← genres.required (SortedSet Genre)
      rating := ← rating.optional StarRating
      releaseDate := ← releaseDate.optional Date
      status := ← status.optional ProductionStatus
      format := ← format.optional ShowFormat
      seasonCount := ← seasonCount.optional UInt32
      seasons := ← seasons.required (List Season)
      watched := ← watched.optional Bool
      watchAgain := ← watchAgain.optional Bool
      lastSeason := ← lastSeason.optional Int64
      lastEpisode := ← lastEpisode.optional Int64
      tags := ← tags.required (SortedSet TagId)
      isFavorite := ← isFavorite.required Bool
      isOnWatchlist := ← isOnWatchlist.required Bool
      createdAt := ← createdAt.required Instant }

end MediaRecord

end Mediatheque
