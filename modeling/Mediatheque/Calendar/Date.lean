import Mediatheque.SortedBy
import Mediatheque.Text.CharacterClass
import Mediatheque.Text.Numeral

/-!
# Calendar dates

Days of the Gregorian calendar, extended to all years from -262143 to 262142, with a year
zero. A date is written as year, month and day between hyphens; years outside 0 to 9999
carry a sign. It is read more freely than it is written: month and day may have one digit,
blank characters may stand around the numbers, and a sign allows any number of digits for
the year.
-/

namespace Mediatheque

open Std

/-! ### The calendar -/

/-- Whether a year has a 29th of February. -/
def isLeapYear (year : Int) : Bool :=
  year % 4 == 0 && (year % 100 != 0 || year % 400 == 0)

/-- The number of days in a month, counted from one; other months have none. -/
def daysInMonth (year : Int) : Nat → Nat
  | 2 => if isLeapYear year then 29 else 28
  | 4 | 6 | 9 | 11 => 30
  | 1 | 3 | 5 | 7 | 8 | 10 | 12 => 31
  | _ => 0

/-- The first year of the calendar. -/
def firstYear : Int := -262143

/-- The last year of the calendar. -/
def lastYear : Int := 262142

/-- A day of the calendar. -/
structure Date where
  /-- The year; zero is the year before one. -/
  year : Int
  /-- The month, from 1. -/
  month : Nat
  /-- The day of the month, from 1. -/
  day : Nat
  /-- The calendar has this year. -/
  year_mem : firstYear ≤ year ∧ year ≤ lastYear
  /-- The month has this day. -/
  day_mem : 1 ≤ day ∧ day ≤ daysInMonth year month
  deriving DecidableEq, Repr

namespace Date

/-- The day with the given parts, if the calendar has it. -/
def ofParts? (year : Int) (month day : Nat) : Option Date :=
  if hy : firstYear ≤ year ∧ year ≤ lastYear then
    if hd : 1 ≤ day ∧ day ≤ daysInMonth year month then some ⟨year, month, day, hy, hd⟩ else none
  else none

theorem ofParts?_eq_some_iff {year : Int} {month day : Nat} {d : Date} :
    ofParts? year month day = some d ↔ d.year = year ∧ d.month = month ∧ d.day = day := by
  constructor
  · intro h
    unfold ofParts? at h
    split at h
    · split at h
      · cases h; exact ⟨rfl, rfl, rfl⟩
      · cases h
    · cases h
  · rintro ⟨rfl, rfl, rfl⟩
    simp [ofParts?, d.year_mem, d.day_mem]

@[simp] theorem ofParts?_parts (d : Date) : ofParts? d.year d.month d.day = some d :=
  ofParts?_eq_some_iff.2 ⟨rfl, rfl, rfl⟩

/-- The first day of a year, if the calendar has the year. -/
def startOfYear? (year : Int) : Option Date := ofParts? year 1 1

/-- The day after, unless the calendar ends. -/
def next? (d : Date) : Option Date :=
  (ofParts? d.year d.month (d.day + 1)) <|> (ofParts? d.year (d.month + 1) 1)
    <|> ofParts? (d.year + 1) 1 1

/-- The day before, unless the calendar begins. -/
def previous? (d : Date) : Option Date :=
  if 1 < d.day then ofParts? d.year d.month (d.day - 1)
  else if 1 < d.month then ofParts? d.year (d.month - 1) (daysInMonth d.year (d.month - 1))
  else ofParts? (d.year - 1) 12 31

/-! ### Order -/

/-- Dates compare by year, then by month, then by day. -/
instance : Ord Date :=
  ⟨compareLex (compareOn Date.year) (compareLex (compareOn Date.month) (compareOn Date.day))⟩

instance : TransOrd Date :=
  inferInstanceAs (TransCmp (compareLex (compareOn Date.year)
    (compareLex (compareOn Date.month) (compareOn Date.day))))

instance : LawfulEqOrd Date where
  compare_self := ReflCmp.compare_self
  eq_of_compare {a b} h := by
    obtain ⟨hy, h⟩ := compareLex_eq_eq.1 h
    obtain ⟨hm, hd⟩ := compareLex_eq_eq.1 h
    have hy : a.year = b.year := LawfulEqOrd.eq_of_compare hy
    have hm : a.month = b.month := LawfulEqOrd.eq_of_compare hm
    have hd : a.day = b.day := LawfulEqOrd.eq_of_compare hd
    cases a; cases b
    simp_all

instance : LE Date := leOfOrd

/-! ### Text -/

/-- The text of a year: four digits, and a sign outside the years 0 to 9999. -/
def yearText (year : Int) : List Char :=
  if 0 ≤ year ∧ year ≤ 9999 then Numeral.padded 4 year.toNat
  else (if year < 0 then '-' else '+') :: Numeral.padded 4 year.natAbs

/-- The text of a date. -/
def toText (d : Date) : List Char :=
  yearText d.year ++ '-' :: Numeral.padded 2 d.month ++ '-' :: Numeral.padded 2 d.day

/-- Reads a year in front of a text: up to four digits, or a sign and any number of them. -/
def scanYear? (s : List Char) : Option (Int × List Char) :=
  match Text.trimStart s with
  | '-' :: rest => (Numeral.scan? rest.length rest).map fun (n, rest) => (-(n : Int), rest)
  | '+' :: rest => (Numeral.scan? rest.length rest).map fun (n, rest) => ((n : Int), rest)
  | s => (Numeral.scan? 4 s).map fun (n, rest) => ((n : Int), rest)

/-- Reads a number of one or two digits in front of a text, after blank characters. -/
def scanPair? (s : List Char) : Option (Nat × List Char) := Numeral.scan? 2 (Text.trimStart s)

/-- The rest of a text that begins with the given character. -/
def after? (c : Char) : List Char → Option (List Char)
  | [] => none
  | d :: rest => if d = c then some rest else none

/-- The date in front of a text. Blank characters may stand before the numbers and the hyphens. -/
def scan? (s : List Char) : Option (Date × List Char) := do
  let (year, s) ← scanYear? s
  let s ← after? '-' (Text.trimStart s)
  let (month, s) ← scanPair? s
  let s ← after? '-' (Text.trimStart s)
  let (day, s) ← scanPair? s
  let date ← ofParts? year month day
  return (date, s)

/-- Reads a date. -/
def ofText? (s : List Char) : Option Date := do
  let (date, s) ← scan? s
  if Text.trimStart s = [] then return date else none

end Date

end Mediatheque
