import Mediatheque.Json.Form

/-!
# Seasons

What is known of a season of a show, and which seasons count as available to watch. Season
zero holds specials and is never available; seasons without episodes and seasons that have
not aired are available only if the policy says so.
-/

namespace Mediatheque

/-- What is known of a season. -/
structure Season where
  /-- The number; specials have the number zero. -/
  number : UInt32
  /-- How many episodes there are. -/
  episodeCount : UInt32
  /-- When the season airs, if it is known. -/
  airDate : Option Date
  deriving DecidableEq, Repr

/-- Whether a season has aired by a day. -/
def Season.hasAired (s : Season) (today : Date) : Bool :=
  s.airDate.any fun d => (compare d today).isLE

/-- Which seasons count as available beyond the aired ones with episodes. -/
structure SeasonPolicy where
  /-- Seasons that have not aired count. -/
  countUnaired : Bool
  /-- Seasons without episodes count. -/
  countEmpty : Bool
  deriving DecidableEq, Repr

/-- The policy by which only aired seasons with episodes count. -/
def SeasonPolicy.strict : SeasonPolicy := ⟨false, false⟩

/-- Whether a season is available on a day. -/
def SeasonPolicy.isAvailable (policy : SeasonPolicy) (s : Season) (today : Date) : Bool :=
  1 ≤ s.number && (policy.countEmpty || 0 < s.episodeCount)
    && (policy.countUnaired || s.hasAired today)

/-! ### JSON form -/

instance : JsonForm Season where
  toJson s := .obj
    [("number", toJson s.number), ("episode_count", toJson s.episodeCount),
     ("air_date", toJson s.airDate)]
  ofJson? manner j := do
    let [number, episodeCount, airDate] ←
      j.record? manner ["number", "episode_count", "air_date"] | none
    return {
      number := ← number.required UInt32
      episodeCount := ← episodeCount.required UInt32
      airDate := ← airDate.optional Date }

instance : JsonForm SeasonPolicy where
  toJson p := .obj [("count_unaired", toJson p.countUnaired), ("count_empty", toJson p.countEmpty)]
  ofJson? manner j := do
    let [unaired, empty] ← j.record? manner ["count_unaired", "count_empty"] | none
    return { countUnaired := ← unaired.required Bool, countEmpty := ← empty.required Bool }

end Mediatheque
