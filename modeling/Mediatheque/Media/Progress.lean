import Mediatheque.Error
import Mediatheque.Json.Form

/-!
# Watch progress

How far a show has been watched: not at all, through the end of a season, or through an
episode of a season. Progress is stored as two numbers, of which the first may be missing
(progress unknown), or as a text. Old stored numbers can be zero or negative; such a season
means that nothing was watched, and such an episode that the whole season was.
-/

namespace Mediatheque

open Std

/-! ### Ordinals -/

/-- The number of a season or an episode, counted from one. -/
structure Ordinal where
  /-- The number. -/
  number : UInt32
  /-- The first one has the number one. -/
  pos : 0 < number.toNat
  deriving DecidableEq, Repr

/-- The ordinal for a stored number: none unless it is positive, and the largest ordinal for
numbers beyond it. -/
def Ordinal.ofInt? (i : Int64) : Option Ordinal :=
  let n := UInt32.ofNat (min i.toInt.toNat (UInt32.size - 1))
  if h : 0 < n.toNat then some ⟨n, h⟩ else none

theorem Ordinal.isSome_ofInt? (i : Int64) : (ofInt? i).isSome ↔ 1 ≤ i.toInt := by
  have small : (UInt32.ofNat (min i.toInt.toNat (UInt32.size - 1))).toNat =
      min i.toInt.toNat (UInt32.size - 1) :=
    UInt32.toNat_ofNat_of_lt (Nat.lt_of_le_of_lt (Nat.min_le_right ..) (by decide))
  have size : UInt32.size = 4294967296 := rfl
  simp only [ofInt?]
  split
  · next h => rw [small] at h; simp only [Option.isSome_some, true_iff]; omega
  · next h => rw [small] at h; simp only [Option.isSome_none, Bool.false_eq_true, false_iff]; omega

/-- An ordinal is told by its number. -/
theorem Ordinal.eq_of_toNat {o o' : Ordinal} (h : o.number.toNat = o'.number.toNat) : o = o' := by
  cases o
  cases o'
  simpa using UInt32.toNat.inj h

/-- The stored number of an ordinal. -/
def Ordinal.toInt (o : Ordinal) : Int64 := Int64.ofNat o.number.toNat

/-! ### Progress -/

/-- How far a show has been watched. -/
inductive Progress where
  /-- Nothing was watched. -/
  | nothing
  /-- Everything through the end of a season was watched. -/
  | season (season : Ordinal)
  /-- Everything through an episode of a season was watched. -/
  | episode (season episode : Ordinal)
  deriving DecidableEq, Repr

namespace Progress

/-- The progress that stored numbers tell, when the season is known. -/
def ofNumbers (season : Int64) (episode : Option Int64) : Progress :=
  match Ordinal.ofInt? season with
  | none => .nothing
  | some s =>
    match episode.bind Ordinal.ofInt? with
    | none => .season s
    | some e => .episode s e

/-- The progress that stored numbers tell; without a season it is unknown. -/
def ofFields? (season episode : Option Int64) : Option Progress :=
  season.map fun s => ofNumbers s episode

/-- The numbers under which progress is stored. -/
def toFields : Progress → Int64 × Option Int64
  | .nothing => (0, none)
  | .season s => (s.toInt, none)
  | .episode s e => (s.toInt, some e.toInt)

/-- The season that was last watched in. -/
def season? : Progress → Option Ordinal
  | .nothing => none
  | .season s => some s
  | .episode s _ => some s

/-- The episode that was last watched, unless it ended a season. -/
def episode? : Progress → Option Ordinal
  | .episode _ e => some e
  | _ => none

/-- Whether anything was watched. -/
def isStarted (p : Progress) : Bool := p.season?.isSome

theorem isStarted_ofNumbers (season : Int64) (episode : Option Int64) :
    (ofNumbers season episode).isStarted ↔ 1 ≤ season.toInt := by
  rw [← Ordinal.isSome_ofInt?]
  unfold ofNumbers
  split
  · next h => simp [isStarted, season?, h]
  · next s h => split <;> simp [isStarted, season?, h]

/-- Whether everything available was watched, when `lastSeason` is the last available season,
zero if there is none, and `episodes` counts the episodes of a season. -/
def isCaughtUp (lastSeason : UInt32) (episodes : UInt32 → UInt32) : Progress → Bool
  | .nothing => lastSeason == 0
  | .season s => lastSeason ≤ s.number
  | .episode s e => lastSeason ≤ s.number && episodes s.number ≤ e.number

/-! ### Order -/

/-- The season by which progress compares first; nothing watched is before all seasons. -/
def seasonRank (p : Progress) : Nat := p.season?.elim 0 (·.number.toNat)

/-- The episode by which progress within a season compares; its end is after all episodes. -/
def episodeRank : Progress → Nat
  | .nothing => 0
  | .season _ => UInt64.size - 1
  | .episode _ e => e.number.toNat

/-- Progress compares by season, then by episode. -/
instance : Ord Progress := ⟨compareLex (compareOn seasonRank) (compareOn episodeRank)⟩

instance : TransOrd Progress :=
  inferInstanceAs (TransCmp (compareLex (compareOn seasonRank) (compareOn episodeRank)))

theorem eq_of_ranks {p q : Progress} (hs : p.seasonRank = q.seasonRank)
    (he : p.episodeRank = q.episodeRank) : p = q := by
  have small : ∀ o : Ordinal, o.number.toNat < 4294967296 := fun o => o.number.toNat_lt
  cases p with
  | nothing =>
    cases q with
    | nothing => rfl
    | season s => have := s.pos; simp [seasonRank, season?] at hs; omega
    | episode s e => have := s.pos; simp [seasonRank, season?] at hs; omega
  | season s =>
    cases q with
    | nothing => have := s.pos; simp [seasonRank, season?] at hs; omega
    | season s' => rw [Ordinal.eq_of_toNat hs]
    | episode s' e => have := small e; simp [episodeRank] at he; omega
  | episode s e =>
    cases q with
    | nothing => have := s.pos; simp [seasonRank, season?] at hs; omega
    | season s' => have := small e; simp [episodeRank] at he; omega
    | episode s' e' => rw [Ordinal.eq_of_toNat hs, Ordinal.eq_of_toNat he]

instance : LawfulEqOrd Progress where
  compare_self := ReflCmp.compare_self
  eq_of_compare h := by
    obtain ⟨hs, he⟩ := compareLex_eq_eq.1 h
    exact eq_of_ranks (LawfulEqOrd.eq_of_compare hs) (LawfulEqOrd.eq_of_compare he)

/-! ### Text -/

/-- The parts of a text between its commas. -/
def splitAtCommas : List Char → List (List Char)
  | [] => [[]]
  | ',' :: rest => [] :: splitAtCommas rest
  | c :: rest =>
    match splitAtCommas rest with
    | [] => [[c]]
    | part :: parts => (c :: part) :: parts

/-- The word for nothing watched. -/
def nothingWord : List Char := "notWatched".toList

/-- The word before the number of a season. -/
def seasonWord : List Char := "season".toList

/-- The word before the numbers of a season and an episode. -/
def episodeWord : List Char := "episode".toList

/-- Reads the number of a season or an episode: digits only, and at most 32 bits. -/
def number? (s : List Char) : Option Int64 :=
  (Numeral.toNat? s).bind fun n => if n < UInt32.size then some (Int64.ofNat n) else none

/-- Reads progress. Numbers that are zero count as stored zeros do. -/
def ofText? (s : List Char) : Option Progress :=
  match splitAtCommas s with
  | [word] => if word = nothingWord then some .nothing else none
  | [word, s] =>
    if word = seasonWord then (number? s).map fun n => ofNumbers n none else none
  | [word, s, e] =>
    if word = episodeWord then
      (number? s).bind fun n => (number? e).map fun m => ofNumbers n (some m)
    else none
  | _ => none

/-- The text of progress. -/
def toText : Progress → List Char
  | .nothing => nothingWord
  | .season s => seasonWord ++ ',' :: Numeral.ofNat s.number.toNat
  | .episode s e =>
    episodeWord ++ ',' :: Numeral.ofNat s.number.toNat ++ ',' :: Numeral.ofNat e.number.toNat

/-- Reads progress, or tells that the text has none. -/
def parse (s : String) : Except ModelError Progress :=
  match ofText? s.toList with
  | some p => .ok p
  | none => .error (.invalidProgress s)

instance : JsonForm Progress where
  toJson p := .ofChars p.toText
  ofJson? _ j := j.str?.bind fun s => ofText? s.toList

end Progress

end Mediatheque
