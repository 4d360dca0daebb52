import Mediatheque.Predicate.Evaluation

/-!
# Gaps

What a record should tell and does not: whether a movie was watched, how far a show was,
and, of what was watched, its rating and whether it is to be watched again. The last two
are asked for only if the rules say so.

The question whether a record has a gap is also put as a predicate, so that a store can
answer it. A show without a stored season has no progress, and one with a season from the
first on was begun.
-/

namespace Mediatheque

/-- A piece of information that a record lacks. -/
inductive Gap where
  /-- Whether a movie was watched. -/
  | watched
  /-- How far a show was watched. -/
  | progress
  /-- The rating of something that was watched. -/
  | rating
  /-- Whether a movie that was watched is to be watched again. -/
  | watchAgain
  deriving DecidableEq, Repr

namespace Gap

instance : Named Gap where
  all := [.watched, .progress, .rating, .watchAgain]
  name
    | .watched => "watched_flag"
    | .progress => "watch_progress"
    | .rating => "personal_rating"
    | .watchAgain => "watch_again"
  mem_all a := by cases a <;> decide
  nodup_names := by decide

/-- The label of a gap. -/
def label : Gap → String
  | .watched => "Watched status"
  | .progress => "Watch progress"
  | .rating => "Personal rating"
  | .watchAgain => "Watch again"

end Gap

/-- Which optional information is asked for. -/
structure GapRules where
  /-- What was watched has to be rated. -/
  requireRating : Bool
  /-- A movie that was watched has to tell whether it is to be watched again. -/
  requireWatchAgain : Bool
  deriving DecidableEq, Repr

/-- The rules that ask for everything. -/
def GapRules.standard : GapRules := ⟨true, true⟩

namespace MediaRecord

/-- Whether a record has a gap. -/
def lacks (rules : GapRules) (r : MediaRecord) : Gap → Bool
  | .watched => r.isMovie && r.watched.isNone
  | .progress => r.isShow && r.progress.isNone
  | .rating => rules.requireRating && r.isStarted == some true && r.rating.isNone
  | .watchAgain =>
    rules.requireWatchAgain && r.isMovie && r.watched == some true && r.watchAgain.isNone

/-- The gaps of a record, each once. -/
def gaps (rules : GapRules) (r : MediaRecord) : List Gap := Named.all.filter (r.lacks rules)

/-- Whether a record has any gap. -/
def hasGap (rules : GapRules) (r : MediaRecord) : Bool := !(r.gaps rules).isEmpty

@[simp] theorem mem_gaps {rules : GapRules} {r : MediaRecord} {g : Gap} :
    g ∈ r.gaps rules ↔ r.lacks rules g := by
  simp [gaps, Named.mem_all]

end MediaRecord

/-! ### Gaps as a predicate -/

namespace GapRules

/-- The record is a movie that was watched. -/
def isWatchedMovie : Predicate := .and [.isMovie, .is .watched true]

/-- The record is a show that was begun. -/
def isBegunShow : Predicate := .and [.isShow, .atLeast .lastSeason (1 : Int64)]

/-- The record has the gap. -/
def isGap : Gap → Predicate
  | .watched => .and [.isMovie, .isUnknown .watched]
  | .progress => .and [.isShow, .isUnknown .lastSeason]
  | .rating => .and [.isUnknown .rating, .or [isWatchedMovie, isBegunShow]]
  | .watchAgain => .and [isWatchedMovie, .isUnknown .watchAgain]

/-- Whether the rules ask for the information. -/
def asksFor (rules : GapRules) : Gap → Bool
  | .watched | .progress => true
  | .rating => rules.requireRating
  | .watchAgain => rules.requireWatchAgain

/-- The record has a gap. -/
def predicate (rules : GapRules) : Predicate :=
  .or ((Named.all.filter rules.asksFor).map isGap)

end GapRules

end Mediatheque
