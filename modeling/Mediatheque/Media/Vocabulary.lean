import Mediatheque.Json.Form

/-!
# Vocabulary

The fixed choices that describe media: its kind, the status of its production and the
format of a show. Each has a name for storage and a label for display.
-/

namespace Mediatheque

open Std

/-- The two kinds of media. -/
inductive MediaKind where
  /-- A single feature film. -/
  | movie
  /-- An episodic show with seasons. -/
  | series
  deriving DecidableEq, Repr

namespace MediaKind

instance : Named MediaKind where
  all := [.movie, .series]
  name
    | .movie => "movie"
    | .series => "show"
  mem_all a := by cases a <;> decide
  nodup_names := by decide

instance : Ord MediaKind := ⟨compareOn MediaKind.ctorIdx⟩

instance : TransOrd MediaKind := inferInstanceAs (TransCmp (compareOn MediaKind.ctorIdx))

instance : LawfulEqOrd MediaKind :=
  lawfulEqCmp_compareOn fun {a b} h => by rw [← ofNat_ctorIdx a, h, ofNat_ctorIdx]

/-- The label of a kind. -/
def label : MediaKind → String
  | .movie => "Movie"
  | .series => "Show"

/-- Whether media of this kind has episodes. -/
def isEpisodic (k : MediaKind) : Bool := k == .series

end MediaKind

/-- How far the production of a title is. -/
inductive ProductionStatus where
  /-- Talked about only. -/
  | rumored
  /-- Announced. -/
  | planned
  /-- Being made. -/
  | inProduction
  /-- Made, and being finished. -/
  | postProduction
  /-- Out. -/
  | released
  /-- Given up. -/
  | canceled
  /-- A show with its first episode only. -/
  | pilot
  /-- A show that goes on. -/
  | returningSeries
  /-- A show that is over. -/
  | ended
  deriving DecidableEq, Repr

namespace ProductionStatus

instance : Named ProductionStatus where
  all := [.rumored, .planned, .inProduction, .postProduction, .released, .canceled, .pilot,
    .returningSeries, .ended]
  name
    | .rumored => "rumored"
    | .planned => "planned"
    | .inProduction => "in_production"
    | .postProduction => "post_production"
    | .released => "released"
    | .canceled => "canceled"
    | .pilot => "pilot"
    | .returningSeries => "returning_series"
    | .ended => "ended"
  mem_all a := by cases a <;> decide
  nodup_names := by decide

instance : Ord ProductionStatus := ⟨compareOn ProductionStatus.ctorIdx⟩

instance : TransOrd ProductionStatus :=
  inferInstanceAs (TransCmp (compareOn ProductionStatus.ctorIdx))

instance : LawfulEqOrd ProductionStatus :=
  lawfulEqCmp_compareOn fun {a b} h => by rw [← ofNat_ctorIdx a, h, ofNat_ctorIdx]

/-- The label of a status. -/
def label : ProductionStatus → String
  | .rumored => "Rumored"
  | .planned => "Planned"
  | .inProduction => "In Production"
  | .postProduction => "Post Production"
  | .released => "Released"
  | .canceled => "Canceled"
  | .pilot => "Pilot"
  | .returningSeries => "Returning Series"
  | .ended => "Ended"

end ProductionStatus

/-- The format of a show; movies have none. -/
inductive ShowFormat where
  /-- A documentary. -/
  | documentary
  /-- News. -/
  | news
  /-- A story told in one season. -/
  | miniseries
  /-- Reality television. -/
  | reality
  /-- Fiction from a script. -/
  | scripted
  /-- A talk show. -/
  | talkShow
  /-- Other video. -/
  | video
  deriving DecidableEq, Repr

namespace ShowFormat

instance : Named ShowFormat where
  all := [.documentary, .news, .miniseries, .reality, .scripted, .talkShow, .video]
  name
    | .documentary => "documentary"
    | .news => "news"
    | .miniseries => "miniseries"
    | .reality => "reality"
    | .scripted => "scripted"
    | .talkShow => "talk_show"
    | .video => "video"
  mem_all a := by cases a <;> decide
  nodup_names := by decide

instance : Ord ShowFormat := ⟨compareOn ShowFormat.ctorIdx⟩

instance : TransOrd ShowFormat := inferInstanceAs (TransCmp (compareOn ShowFormat.ctorIdx))

instance : LawfulEqOrd ShowFormat :=
  lawfulEqCmp_compareOn fun {a b} h => by rw [← ofNat_ctorIdx a, h, ofNat_ctorIdx]

/-- The label of a format. -/
def label : ShowFormat → String
  | .documentary => "Documentary"
  | .news => "News"
  | .miniseries => "Miniseries"
  | .reality => "Reality"
  | .scripted => "Scripted"
  | .talkShow => "Talk Show"
  | .video => "Video"

end ShowFormat

/-- A genre, by the number its catalogue gives it. -/
structure Genre where
  /-- The number. -/
  number : UInt32
  deriving DecidableEq, Repr

namespace Genre

instance : Ord Genre := ⟨compareOn Genre.number⟩

instance : TransOrd Genre := inferInstanceAs (TransCmp (compareOn Genre.number))

instance : LawfulEqOrd Genre :=
  lawfulEqCmp_compareOn fun {a b} h => by cases a; cases b; simp_all

instance : JsonForm Genre where
  toJson g := toJson g.number
  ofJson? manner j := (j.as? UInt32 manner).map Genre.mk

end Genre

end Mediatheque
