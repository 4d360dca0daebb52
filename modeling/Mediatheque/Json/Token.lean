import Mediatheque.Json.Number

/-!
# JSON tokens

The words of JSON text, with their written form and the scanner that splits a text into
them. Blank characters may stand between tokens and are dropped. A string whose escapes
leave half of a surrogate pair is a token without a text.
-/

namespace Mediatheque.Json

/-- A word of JSON text. -/
inductive Token where
  /-- An opening bracket. -/
  | openArray
  /-- A closing bracket. -/
  | closeArray
  /-- An opening brace. -/
  | openObject
  /-- A closing brace. -/
  | closeObject
  /-- The colon between a key and its value. -/
  | colon
  /-- The comma between items. -/
  | comma
  /-- The word for the value without content. -/
  | null
  /-- The word for a truth value. -/
  | bool (b : Bool)
  /-- A number. -/
  | number (n : Number)
  /-- A string, unless half of a surrogate pair is in it. -/
  | str (s : Option String)
  deriving DecidableEq, Repr

/-! ### Strings -/

/-- A character as it is written inside a string. -/
def escapeChar (c : Char) : List Char :=
  if c = '"' ∨ c = '\\' then ['\\', c]
  else if c = '\x08' then ['\\', 'b']
  else if c = '\x0c' then ['\\', 'f']
  else if c = '\n' then ['\\', 'n']
  else if c = '\r' then ['\\', 'r']
  else if c = '\t' then ['\\', 't']
  else if c.toNat < 0x20 then ['\\', 'u'] ++ Numeral.hexDigits 4 c.toNat
  else [c]

/-- The character that an escape of one letter stands for. -/
def unescape? : Char → Option Char
  | '"' => some '"'
  | '\\' => some '\\'
  | '/' => some '/'
  | 'b' => some '\x08'
  | 'f' => some '\x0c'
  | 'n' => some '\n'
  | 'r' => some '\r'
  | 't' => some '\t'
  | _ => none

/-- The code units of a string up to its closing quote, and the text after it. A character
counts as one unit here, an escape with four digits as the unit it names. -/
def scanUnits? : List Char → Option (List Nat × List Char)
  | [] => none
  | '"' :: rest => some ([], rest)
  | '\\' :: 'u' :: a :: b :: c :: d :: rest => do
    let unit ← Numeral.ofHex? [a, b, c, d]
    let (units, rest) ← scanUnits? rest
    return (unit :: units, rest)
  | '\\' :: c :: rest => do
    let char ← unescape? c
    let (units, rest) ← scanUnits? rest
    return (char.toNat :: units, rest)
  | c :: rest =>
    if c.toNat < 0x20 ∨ c = '\\' then none
    else (scanUnits? rest).map fun (units, rest) => (c.toNat :: units, rest)

/-- Whether a unit is the first half of a surrogate pair. -/
def isHighSurrogate (unit : Nat) : Bool := 0xD800 ≤ unit && unit < 0xDC00

/-- Whether a unit is the second half of a surrogate pair. -/
def isLowSurrogate (unit : Nat) : Bool := 0xDC00 ≤ unit && unit < 0xE000

/-- The characters that code units stand for, if no half of a surrogate pair stands alone. -/
def joinUnits? : List Nat → Option (List Char)
  | [] => some []
  | [unit] =>
    if isHighSurrogate unit || isLowSurrogate unit then none else some [Char.ofNat unit]
  | high :: low :: rest =>
    if isHighSurrogate high then
      if isLowSurrogate low then
        (joinUnits? rest).map
          (Char.ofNat (0x10000 + (high - 0xD800) * 0x400 + (low - 0xDC00)) :: ·)
      else none
    else if isLowSurrogate high then none
    else (joinUnits? (low :: rest)).map (Char.ofNat high :: ·)

/-- The string after its opening quote, and the text after it. -/
def scanString? (s : List Char) : Option (Token × List Char) :=
  (scanUnits? s).map fun (units, rest) => (.str ((joinUnits? units).map String.ofList), rest)

/-! ### Texts -/

/-- Whether a character may stand between tokens. -/
def isBlank (c : Char) : Bool := c == ' ' || c == '\t' || c == '\n' || c == '\r'

/-- The token in front of a text that does not begin with a blank character. -/
def scanToken? : List Char → Option (Token × List Char)
  | '[' :: rest => some (.openArray, rest)
  | ']' :: rest => some (.closeArray, rest)
  | '\x7b' :: rest => some (.openObject, rest)
  | '\x7d' :: rest => some (.closeObject, rest)
  | ':' :: rest => some (.colon, rest)
  | ',' :: rest => some (.comma, rest)
  | '"' :: rest => scanString? rest
  | 'n' :: 'u' :: 'l' :: 'l' :: rest => some (.null, rest)
  | 't' :: 'r' :: 'u' :: 'e' :: rest => some (.bool true, rest)
  | 'f' :: 'a' :: 'l' :: 's' :: 'e' :: rest => some (.bool false, rest)
  | s => (Number.scan? s).map fun (n, rest) => (.number n, rest)

theorem length_scanUnits? {s : List Char} {units : List Nat} {rest : List Char}
    (h : scanUnits? s = some (units, rest)) : rest.length < s.length := by
  fun_induction scanUnits? s generalizing units rest with
  | case1 => cases h
  | case2 rest' => cases h; simp
  | case3 a b c d rest' ih =>
    simp only [Option.bind_eq_bind, Option.bind_eq_some_iff, Prod.exists, Option.pure_def,
      Option.some.injEq, Prod.mk.injEq] at h
    obtain ⟨_, _, _, _, h, _, rfl⟩ := h
    have := ih h
    simp; omega
  | case4 c rest' _ ih =>
    simp only [Option.bind_eq_bind, Option.bind_eq_some_iff, Prod.exists, Option.pure_def,
      Option.some.injEq, Prod.mk.injEq] at h
    obtain ⟨_, _, _, _, h, _, rfl⟩ := h
    have := ih h
    simp; omega
  | case5 => cases h
  | case6 c rest' _ _ _ _ ih =>
    simp only [Option.map_eq_some_iff, Prod.exists, Prod.mk.injEq] at h
    obtain ⟨_, _, h, _, rfl⟩ := h
    have := ih h
    simp; omega

theorem length_scanString? {s rest : List Char} {t : Token} (h : scanString? s = some (t, rest)) :
    rest.length < s.length := by
  obtain ⟨⟨units, rest'⟩, hu, heq⟩ := Option.map_eq_some_iff.1 h
  cases heq
  exact length_scanUnits? hu

/-- A token takes at least one character. -/
theorem length_scanToken? {s rest : List Char} {t : Token} (h : scanToken? s = some (t, rest)) :
    rest.length < s.length := by
  unfold scanToken? at h
  split at h
  case h_7 rest' => exact Nat.lt_succ_of_lt (length_scanString? h)
  case h_11 =>
    obtain ⟨⟨n, rest'⟩, hn, heq⟩ := Option.map_eq_some_iff.1 h
    cases heq
    exact Number.length_scan? hn
  all_goals
    cases h
    grind

/-- The tokens of a text. -/
def scan? (s : List Char) : Option (List Token) :=
  match s with
  | [] => some []
  | c :: rest =>
    if isBlank c then scan? rest
    else
      match h : scanToken? (c :: rest) with
      | none => none
      | some (t, rest') =>
        have := length_scanToken? h
        (scan? rest').map (t :: ·)
termination_by s.length
decreasing_by
  · exact Nat.lt_succ_self rest.length
  · exact this

/-! ### Written forms -/

/-- A token as it is written; a string without a text as half of a surrogate pair. -/
def Token.text : Token → List Char
  | .openArray => ['[']
  | .closeArray => [']']
  | .openObject => ['\x7b']
  | .closeObject => ['\x7d']
  | .colon => [':']
  | .comma => [',']
  | .null => "null".toList
  | .bool true => "true".toList
  | .bool false => "false".toList
  | .number n => n.text
  | .str (some s) => '"' :: s.toList.flatMap escapeChar ++ ['"']
  | .str none => "\"\\ud800\"".toList

end Mediatheque.Json
