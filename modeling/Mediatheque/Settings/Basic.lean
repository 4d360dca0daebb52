import Mediatheque.Gap

/-!
# Settings

The switches of the library, in three sections: which seasons count as available, which
gaps are asked for, and what counts as upcoming. Everything that is not set keeps its
standard position, be it a switch, a section or all of them.
-/

namespace Mediatheque

/-- What counts as upcoming. -/
structure UpcomingRules where
  /-- Shows count beside movies. -/
  includeShows : Bool
  deriving DecidableEq, Repr

/-- The switches of the library. -/
structure Settings where
  /-- Which seasons count as available. -/
  seasons : SeasonPolicy
  /-- Which gaps are asked for. -/
  gaps : GapRules
  /-- What counts as upcoming. -/
  upcoming : UpcomingRules
  deriving DecidableEq, Repr

namespace Settings

/-- All switches in their standard positions. -/
def standard : Settings := ⟨.strict, .standard, ⟨true⟩⟩

/-! ### Sections -/

/-- Reads a section of switches with the given names and standard positions. -/
def switches? (names : List String) (standard : List Bool) (manner : Json.Manner) (j : Json) :
    Option (List Bool) := do
  let members ← j.record? manner names
  (members.zip standard).mapM fun (member, position) => member.orElse position

/-- The names of the switches for seasons. -/
def seasonSwitches : List String := ["count_unaired_seasons", "count_empty_seasons"]

/-- The names of the switches for gaps. -/
def gapSwitches : List String := ["require_rating", "require_watch_again"]

/-- The names of the switches for what is upcoming. -/
def upcomingSwitches : List String := ["include_shows"]

/-- The section on seasons. -/
def seasonsForm (p : SeasonPolicy) : Json :=
  .obj (seasonSwitches.zip [.bool p.countUnaired, .bool p.countEmpty])

/-- Reads the section on seasons. -/
def seasons? (manner : Json.Manner) (j : Json) : Option SeasonPolicy := do
  let [unaired, empty] ← switches? seasonSwitches [false, false] manner j | none
  return ⟨unaired, empty⟩

/-- The section on gaps. -/
def gapsForm (r : GapRules) : Json :=
  .obj (gapSwitches.zip [.bool r.requireRating, .bool r.requireWatchAgain])

/-- Reads the section on gaps. -/
def gaps? (manner : Json.Manner) (j : Json) : Option GapRules := do
  let [rating, watchAgain] ← switches? gapSwitches [true, true] manner j | none
  return ⟨rating, watchAgain⟩

/-- The section on what is upcoming. -/
def upcomingForm (r : UpcomingRules) : Json :=
  .obj (upcomingSwitches.zip [.bool r.includeShows])

/-- Reads the section on what is upcoming. -/
def upcoming? (manner : Json.Manner) (j : Json) : Option UpcomingRules := do
  let [shows] ← switches? upcomingSwitches [true] manner j | none
  return ⟨shows⟩

/-! ### All sections -/

/-- The sections with the names of their switches. -/
def sections : List (String × List String) :=
  [("seasons", seasonSwitches), ("problems", gapSwitches), ("upcoming", upcomingSwitches)]

/-- A document without the items of arrays for which a section has no switch. -/
def withoutSurplus : Json → Json
  | .obj members => .obj <| members.map fun (key, j) =>
    match sections.lookup key, j with
    | some switches, .arr items => (key, .arr (items.take switches.length))
    | _, j => (key, j)
  | j => j

/-- Reads a section with the given reader, or takes its standard if it is not given. -/
def section? {α : Type} (read : Json.Manner → Json → Option α) (standard : α) :
    Json.Member → Option α
  | .given manner j => read manner j
  | _ => some standard

instance : JsonForm Settings where
  toJson s := .obj
    [("seasons", seasonsForm s.seasons), ("problems", gapsForm s.gaps),
     ("upcoming", upcomingForm s.upcoming)]
  ofJson? manner j := do
    let [seasons, gaps, upcoming] ← j.record? manner (sections.map (·.1)) | none
    return {
      seasons := ← section? seasons? standard.seasons seasons
      gaps := ← section? gaps? standard.gaps gaps
      upcoming := ← section? upcoming? standard.upcoming upcoming }

end Settings

end Mediatheque
