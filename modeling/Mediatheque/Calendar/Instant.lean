import Mediatheque.Calendar.Date

/-!
# Points in time

A point in time to the nanosecond, in universal time. It is written as date and time with
the letters T and Z, and with as many of 0, 3, 6 or 9 fraction digits as it needs. Texts
with another offset are read and moved to universal time. A leap second is the second 60
of its minute: its nanoseconds count on past the full second before it.
-/

namespace Mediatheque

open Std

/-- A point in time. -/
structure Instant where
  /-- The day. -/
  date : Date
  /-- The second of the day. -/
  second : Nat
  /-- The nanosecond of the second; a leap second counts on from a billion. -/
  nanosecond : Nat
  /-- A day has 86400 seconds. -/
  second_lt : second < 86400
  /-- Only the last second of a minute may be followed by a leap second. -/
  nanosecond_lt : nanosecond < (if second % 60 = 59 then 2000000000 else 1000000000)
  deriving DecidableEq, Repr

namespace Instant

/-- The point in time with the given parts, if there is one. -/
def ofParts? (date : Date) (second nanosecond : Nat) : Option Instant :=
  if hs : second < 86400 then
    if hn : nanosecond < (if second % 60 = 59 then 2000000000 else 1000000000) then
      some ⟨date, second, nanosecond, hs, hn⟩
    else none
  else none

/-! ### Order -/

/-- Points in time compare by day, then by second, then by nanosecond. -/
instance : Ord Instant :=
  ⟨compareLex (compareOn Instant.date)
    (compareLex (compareOn Instant.second) (compareOn Instant.nanosecond))⟩

instance : TransOrd Instant :=
  inferInstanceAs (TransCmp (compareLex (compareOn Instant.date)
    (compareLex (compareOn Instant.second) (compareOn Instant.nanosecond))))

instance : LawfulEqOrd Instant where
  compare_self := ReflCmp.compare_self
  eq_of_compare {a b} h := by
    obtain ⟨hd, h⟩ := compareLex_eq_eq.1 h
    obtain ⟨hs, hn⟩ := compareLex_eq_eq.1 h
    have hd : a.date = b.date := LawfulEqOrd.eq_of_compare hd
    have hs : a.second = b.second := LawfulEqOrd.eq_of_compare hs
    have hn : a.nanosecond = b.nanosecond := LawfulEqOrd.eq_of_compare hn
    cases a; cases b
    simp_all

/-! ### Text -/

/-- The fraction of a second, with the fewest of 0, 3, 6 or 9 digits that are exact. -/
def fractionText (nanosecond : Nat) : List Char :=
  if nanosecond = 0 then []
  else if nanosecond % 1000000 = 0 then '.' :: Numeral.padded 3 (nanosecond / 1000000)
  else if nanosecond % 1000 = 0 then '.' :: Numeral.padded 6 (nanosecond / 1000)
  else '.' :: Numeral.padded 9 nanosecond

/-- The text of a point in time. -/
def toText (t : Instant) : List Char :=
  let leap := if t.nanosecond < 1000000000 then 0 else 1
  t.date.toText ++ 'T' :: Numeral.padded 2 (t.second / 3600)
    ++ ':' :: Numeral.padded 2 (t.second / 60 % 60)
    ++ ':' :: Numeral.padded 2 (t.second % 60 + leap)
    ++ fractionText (t.nanosecond % 1000000000) ++ ['Z']

/-- The nanoseconds in front of a text that begins with a point; digits after the ninth are
read and dropped. -/
def scanFraction? (s : List Char) : Option (Nat × List Char) :=
  match s with
  | '.' :: rest =>
    let digits := (rest.take 9).takeWhile Char.isDigit
    (Numeral.toNat? digits).map fun n =>
      (n * Nat.pow 10 (9 - digits.length), (rest.drop digits.length).dropWhile Char.isDigit)
  | s => some (0, s)

/-- The time of day in front of a text, as a second of the day and its nanoseconds. Blank
characters may stand before the numbers and the colons. -/
def scanTime? (s : List Char) : Option ((Nat × Nat) × List Char) := do
  let (hour, s) ← Date.scanPair? s
  let s ← Date.after? ':' (Text.trimStart s)
  let (minute, s) ← Date.scanPair? s
  let s ← Date.after? ':' (Text.trimStart s)
  let (second, s) ← Date.scanPair? s
  let (nanosecond, s) ← scanFraction? s
  if hour < 24 ∧ minute < 60 ∧ second < 60 then
    return ((hour * 3600 + minute * 60 + second, nanosecond), s)
  else if hour < 24 ∧ minute < 60 ∧ second = 60 then
    return ((hour * 3600 + minute * 60 + 59, nanosecond + 1000000000), s)
  else none

/-- The two digits in front of a text. -/
def scanTwo? : List Char → Option (Nat × List Char)
  | a :: b :: rest => (Numeral.toNat? [a, b]).map fun n => (n, rest)
  | _ => none

/-- The amount of an offset in seconds: two digits of hours, colons or blank characters, and
two digits of minutes. -/
def scanAmount? (s : List Char) : Option (Nat × List Char) := do
  let (hours, s) ← scanTwo? s
  let (minutes, s) ← scanTwo? (s.dropWhile fun c => c == ':' || Text.isBlank c)
  if minutes < 60 then return (hours * 3600 + minutes * 60, s) else none

/-- The offset from universal time in front of a text, in seconds. -/
def scanOffset? (s : List Char) : Option (Int × List Char) :=
  if (s.take 3).map Char.toUpper = ['U', 'T', 'C'] then some (0, s.drop 3)
  else
    match s with
    | 'Z' :: rest | 'z' :: rest => some (0, rest)
    | '+' :: rest => (scanAmount? rest).map fun (n, rest) => ((n : Int), rest)
    | '-' :: rest | '−' :: rest => (scanAmount? rest).map fun (n, rest) => (-(n : Int), rest)
    | _ => none

/-- The point in universal time at which a clock `offset` seconds ahead shows the given time. -/
def ofLocal? (date : Date) (second nanosecond : Nat) (offset : Int) : Option Instant :=
  let shifted := (second : Int) - offset
  if offset.natAbs < 86400 then
    if shifted < 0 then
      date.previous?.bind fun d => ofParts? d (shifted + 86400).toNat nanosecond
    else if 86400 ≤ shifted then
      date.next?.bind fun d => ofParts? d (shifted - 86400).toNat nanosecond
    else ofParts? date shifted.toNat nanosecond
  else none

/-- Reads a point in time. -/
def ofText? (s : List Char) : Option Instant := do
  let (date, s) ← Date.scan? s
  let s ← match s with
    | 'T' :: rest | 't' :: rest | ' ' :: rest => some rest
    | _ => none
  let ((second, nanosecond), s) ← scanTime? s
  let (offset, s) ← scanOffset? (Text.trimStart s)
  if Text.trimStart s = [] then ofLocal? date second nanosecond offset else none

end Instant

end Mediatheque
