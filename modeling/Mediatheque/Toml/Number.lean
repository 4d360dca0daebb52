import Mediatheque.Calendar.Date
import Mediatheque.Text.Decimal
import Mediatheque.Toml.Table
import Mediatheque.Toml.Text

/-!
# TOML numbers and dates

The values that are written as bare words: truth values, integers in four bases, other
numbers, dates and times. Digits may be grouped by underscores. A date has to be one of the
calendar. Whether a word with digits is a number of its base, has at most 128 bits, or lies
within the doubles is not part of the grammar: a word that fails there is a value that
cannot be read.
-/

namespace Mediatheque.Toml

/-! ### Numbers -/

/-- A text without the underscores in it, each of which has to stand between two digits;
`afterDigit` tells whether a digit stands before the text. -/
def ungroup? (isDigit : Char → Bool) (afterDigit : Bool) : List Char → Option (List Char)
  | [] => some []
  | '_' :: rest =>
    if afterDigit && rest.head?.any isDigit then ungroup? isDigit false rest else none
  | c :: rest => (ungroup? isDigit (isDigit c) rest).map (c :: ·)

/-- Whether a character is a digit of a base up to sixteen. -/
def isDigitOf (base : Nat) (c : Char) : Bool := (Numeral.hexValue? c).any (· < base)

/-- The integer that digits of a base write. There has to be one at least, and the integer has
at most 128 bits. -/
def integer (base : Nat) (negative : Bool) (digits : List Char) : Value :=
  let n := digits.foldl (fun n c => n * base + (Numeral.hexValue? c).getD 0) 0
  if digits = [] ∨ !digits.all (isDigitOf base) then .unreadable
  else if negative then if n ≤ Nat.pow 2 127 then .int (-(n : Int)) else .unreadable
  else if n < Nat.pow 2 128 then .int n else .unreadable

/-- Reads the digits of a base after the mark for it. -/
def afterMark? (base : Nat) (s : List Char) : Option Value :=
  if s.all fun c => c == '_' || isDigitOf base c then
    (ungroup? (isDigitOf base) false s).map (integer base false)
  else none

/-- Reads a decimal number without a fraction and an exponent. -/
def whole? (word : List Char) : Option Value :=
  (ungroup? (isDigitOf 16) false word).map fun text =>
    let (negative, digits) := Decimal.scanSign true text
    integer 10 negative digits

/-- Reads a decimal number with a fraction, an exponent or both. Only a single digit before
them may be a zero in front, if there is one. -/
def real? (leadingZero : Bool) (word : List Char) : Option Value := do
  let text ← ungroup? Char.isDigit false word
  let (whole, s) ← Decimal.scanDigits? (Decimal.scanSign true text).2
  let (fraction, s) ← Decimal.scanFraction? s
  let (exponent, s) ← Decimal.scanExponent? s
  if s ≠ [] ∨ leadingZero ∧ whole.length ≠ 1 then none
  else
    let mantissa := Nat.ofDigitChars 10 (whole ++ fraction) 0
    if Decimal.isHuge mantissa (exponent.getD 0 - fraction.length) then return .unreadable
    else return .real (String.ofList word)

/-! ### Dates and times -/

/-- The number that exactly so many digits in front of a text write. -/
def digits? (count : Nat) (s : List Char) : Option (Nat × List Char) :=
  if (s.take count).length = count then
    (Numeral.toNat? (s.take count)).map fun n => (n, s.drop count)
  else none

/-- The text after a character in front of it. -/
def after? (c : Char) : List Char → Option (List Char)
  | [] => none
  | d :: rest => if c = d then some rest else none

/-- The text after a date. -/
def afterDate? (s : List Char) : Option (List Char) := do
  let (year, s) ← digits? 4 s
  let (month, s) ← digits? 2 (← after? '-' s)
  let (day, s) ← digits? 2 (← after? '-' s)
  if 1 ≤ day ∧ day ≤ daysInMonth year month then return s else none

/-- The text after the seconds of a time, which may be missing. -/
def afterSeconds? (s : List Char) : Option (List Char) :=
  match s with
  | ':' :: rest => do
    let (second, s) ← digits? 2 rest
    if 60 < second then none
    else
      match s with
      | '.' :: rest =>
        if rest.head?.any Char.isDigit then some (rest.dropWhile Char.isDigit) else none
      | s => some s
  | s => some s

/-- The text after a time of day. -/
def afterTime? (s : List Char) : Option (List Char) := do
  let (hour, s) ← digits? 2 s
  let (minute, s) ← digits? 2 (← after? ':' s)
  if hour < 24 ∧ minute < 60 then afterSeconds? s else none

/-- Whether a text is empty or an offset from universal time. -/
def isOffset (s : List Char) : Bool :=
  match s with
  | [] | ['Z'] | ['z'] => true
  | c :: rest => (c == '+' || c == '-') && (amount? rest).isSome
where
  /-- Reads an amount of hours and minutes. -/
  amount? (s : List Char) : Option Unit := do
    let (hour, s) ← digits? 2 s
    let (minute, s) ← digits? 2 (← after? ':' s)
    if hour < 24 ∧ minute < 60 ∧ s = [] then pure () else none

/-- Whether a text is a date, a time, or both. -/
def isDateTime (s : List Char) : Bool :=
  match afterDate? s with
  | none => afterTime? s == some []
  | some [] => true
  | some (c :: rest) => (c == 'T' || c == 't' || c == ' ') && (afterTime? rest).any isOffset

/-! ### Bare words -/

/-- Whether a character may stand in a bare word. -/
def isWordChar (c : Char) : Bool := !"=,[]\x7b\x7d# \t\r\n".toList.contains c

/-- Whether a bare word may go on with a text after blanks. -/
def goesOn (s : List Char) : Bool :=
  s.head?.any fun c => isWordChar c && c != '.' && c != '"' && c != '\''

/-- The bare word in front of a text, with the words after it that only blanks lead to. -/
def word : List Char → List Char × List Char
  | [] => ([], [])
  | c :: rest =>
    if isWordChar c || isBlank c && goesOn (rest.dropWhile isBlank) then
      let (w, rest) := word rest
      (c :: w, rest)
    else ([], c :: rest)

/-- Reads a word that begins with digits after a sign, given also without the sign. What the
digits end at tells dates and times from numbers. -/
def numeric? (word unsigned : List Char) : Option Value :=
  let rest := unsigned.dropWhile Char.isDigit
  let leadingZero := unsigned.head? == some '0'
  if rest.head? == some '-' || rest.head? == some ':' || rest.contains ' ' then
    if isDateTime word then some (.dateTime (String.ofList word)) else none
  else if rest.any fun c => c == '.' || c == 'e' || c == 'E' then real? leadingZero word
  else if !leadingZero && (rest.isEmpty || rest.head? == some '_') then whole? word
  else none

/-- The value that a bare word writes. -/
def ofWord? (word : List Char) : Option Value :=
  let unsigned := (Decimal.scanSign true word).2
  if word = "true".toList then some (.bool true)
  else if word = "false".toList then some (.bool false)
  else if unsigned = "inf".toList ∨ unsigned = "nan".toList then
    some (.real (String.ofList word))
  else if unsigned = ['0'] then some (.int 0)
  else
    match word with
    | '0' :: 'x' :: digits => afterMark? 16 digits
    | '0' :: 'o' :: digits => afterMark? 8 digits
    | '0' :: 'b' :: digits => afterMark? 2 digits
    | word =>
      if unsigned.head?.any Char.isDigit then numeric? word unsigned else none

end Mediatheque.Toml
