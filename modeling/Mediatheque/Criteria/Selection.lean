import Mediatheque.Criteria.Basic
import Mediatheque.Predicate.Evaluation

/-!
# Selections

What criteria select, in two stages. The first stage is a predicate, which a store can
evaluate. Whether the owner is caught up with a show depends on all of its seasons and on
the day, so the predicate lets every show pass, and a refinement decides afterwards. The
predicate never rejects what the criteria accept, and the refinement never adds anything.
-/

namespace Mediatheque

/-- The second stage of a selection: a show is kept if the answer whether its owner is caught
up is known and as wanted. -/
structure Refinement where
  /-- The day. -/
  today : Date
  /-- Which seasons count. -/
  policy : SeasonPolicy
  /-- The answer wanted. -/
  wanted : Bool
  deriving DecidableEq

/-- Whether the refinement keeps a record. -/
def Refinement.keeps (f : Refinement) (r : MediaRecord) : Bool :=
  !r.isShow || r.isCaughtUp f.today f.policy == some f.wanted

/-- What criteria select: a predicate, and perhaps a refinement. -/
structure Selection where
  /-- The first stage. -/
  predicate : Predicate
  /-- The second stage. -/
  refinement : Option Refinement

namespace Selection

/-- The selection of a predicate alone. -/
def ofPredicate (p : Predicate) : Selection := ⟨p, none⟩

/-- Whether the second stage keeps a record. -/
def passesRefinement (s : Selection) (r : MediaRecord) : Bool :=
  s.refinement.all (·.keeps r)

/-- Whether a record is selected. -/
def selects (s : Selection) (r : MediaRecord) : Bool :=
  s.predicate.holds r && s.passesRefinement r

/-- The records that the second stage keeps, in their order. -/
def refine (s : Selection) (l : List MediaRecord) : List MediaRecord :=
  l.filter s.passesRefinement

end Selection

namespace Criteria

/-- A condition on shows, which every movie passes. -/
def showOnly (p : Predicate) : Predicate := .or [.isMovie, .and [.isShow, p]]

/-- The condition on the year of release, as one on the date: not before the first day of the
first year, and before the first day of the year after the last one. A day that the calendar
does not have leaves its side open. -/
def yearClause (i : Interval Int32) : Predicate :=
  .within .releaseDate ((Date.startOfYear? i.low.toInt).map toValue)
    ((Date.startOfYear? (i.high.toInt + 1)).map toValue) true false

/-- The condition on what was watched: movies answer by their flag. Unless there are movies
only, every show passes. -/
def watchedClause (kind : Option MediaKind) (watched : Bool) : Predicate :=
  let flag : Predicate := .is .watched watched
  if kind = some .movie then flag else .or [.and [.isMovie, flag], .isShow]

/-- A condition on a field that has to have one of several values, if there are any. -/
def choiceClause {α : Type} [Ord α] [IsValue α] (field : Field) (s : SortedSet α) :
    Option Predicate :=
  if s.isEmpty then none else some (.isIn field s.toList)

/-- For each condition in turn, the predicate for it, if it asks for anything. -/
def clauses (c : Criteria) : List (Option Predicate) :=
  [c.isAdult.map (.is .isAdult),
   c.kind.map (.is .kind),
   c.rating.map fun i => .between .rating i.low i.high,
   c.year.map yearClause,
   c.seasonCount.map fun i => showOnly (.between .seasonCount i.low i.high),
   c.watched.map (watchedClause c.kind),
   c.watchAgain.map (.is .watchAgain),
   choiceClause .genres c.genres,
   choiceClause .status c.statuses,
   (choiceClause .format c.formats).map showOnly,
   choiceClause .tags c.tags]

/-- The refinement that the condition on what was watched needs, unless there are movies only. -/
def refinement (today : Date) (policy : SeasonPolicy) (c : Criteria) : Option Refinement :=
  if c.kind = some .movie then none else c.watched.map (⟨today, policy, ·⟩)

/-- What the criteria select on a day. -/
def select (today : Date) (policy : SeasonPolicy) (c : Criteria) : Selection :=
  ⟨.and (c.clauses.filterMap id), c.refinement today policy⟩

end Criteria

end Mediatheque
