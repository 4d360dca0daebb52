import Mediatheque.Text.Numeral

/-!
# TOML strings and keys

Strings in the four ways TOML writes them: between quotes or apostrophes, single or triple.
Between quotes escapes are read; between triple ones lines may break, and a backslash at the
end of a line swallows the break and all blanks after it. Keys are bare words or strings of
one line, with dots between them.
-/

namespace Mediatheque.Toml

/-- Whether a character may stand in a string or comment as it is. -/
def isPlain (c : Char) : Bool := c == '\t' || (0x20 ≤ c.toNat && c.toNat != 0x7F)

/-- Whether a character is a blank within a line. -/
def isBlank (c : Char) : Bool := c == ' ' || c == '\t'

/-- The text after a line break in front of it. -/
def afterBreak? : List Char → Option (List Char)
  | '\n' :: rest => some rest
  | '\r' :: '\n' :: rest => some rest
  | _ => none

/-- The character with the code point that hexadecimal digits write. -/
def ofCodePoint? (digits : List Char) : Option Char :=
  (Numeral.ofHex? digits).bind fun n => if h : n.isValidChar then some (Char.ofNatAux n h) else none

/-- The character that an escape of one letter stands for. -/
def unescape? : Char → Option Char
  | '"' => some '"'
  | '\\' => some '\\'
  | 'b' => some '\x08'
  | 'e' => some '\x1b'
  | 'f' => some '\x0c'
  | 'n' => some '\n'
  | 'r' => some '\r'
  | 't' => some '\t'
  | _ => none

/-- A character, if there is one, in front of what the text after it reads as. -/
def push (c : Option Char) (s : Option (List Char × List Char)) : Option (List Char × List Char) :=
  c.bind fun c => s.map fun (read, rest) => (c :: read, rest)

/-- The string after its opening quote. -/
def quoted? : List Char → Option (List Char × List Char)
  | '"' :: rest => some ([], rest)
  | '\\' :: 'x' :: a :: b :: rest =>
    push (ofCodePoint? [a, b]) (quoted? rest)
  | '\\' :: 'u' :: a :: b :: c :: d :: rest =>
    push (ofCodePoint? [a, b, c, d]) (quoted? rest)
  | '\\' :: 'U' :: a :: b :: c :: d :: e :: f :: g :: h :: rest =>
    push (ofCodePoint? [a, b, c, d, e, f, g, h]) (quoted? rest)
  | '\\' :: c :: rest => push (unescape? c) (quoted? rest)
  | c :: rest => if isPlain c then push (some c) (quoted? rest) else none
  | [] => none

/-- The string after its opening apostrophe. -/
def literal? : List Char → Option (List Char × List Char)
  | '\'' :: rest => some ([], rest)
  | c :: rest => if isPlain c then push (some c) (literal? rest) else none
  | [] => none

/-- How blanks in a string between triple quotes are read. -/
inductive Blanks where
  /-- They belong to the string. -/
  | kept
  /-- They lead from a backslash to the end of its line. -/
  | toBreak
  /-- They follow such a line and are dropped. -/
  | dropped
  deriving DecidableEq

/-- The string after its opening triple quotes. Up to two quotes may stand before the closing
ones. -/
def longQuoted? (blanks : Blanks) : List Char → Option (List Char × List Char)
  | '\r' :: '\n' :: rest =>
    if blanks = .kept then push (some '\r') (push (some '\n') (longQuoted? .kept rest))
    else longQuoted? .dropped rest
  | '\n' :: rest =>
    if blanks = .kept then push (some '\n') (longQuoted? .kept rest) else longQuoted? .dropped rest
  | c :: rest =>
    if blanks ≠ .kept ∧ isBlank c then longQuoted? blanks rest
    else if blanks = .toBreak then none
    else
      match c, rest with
      | '"', '"' :: '"' :: '"' :: '"' :: rest => some (['"', '"'], rest)
      | '"', '"' :: '"' :: '"' :: rest => some (['"'], rest)
      | '"', '"' :: '"' :: rest => some ([], rest)
      | '\\', 'x' :: a :: b :: rest =>
        push (ofCodePoint? [a, b]) (longQuoted? .kept rest)
      | '\\', 'u' :: a :: b :: c :: d :: rest =>
        push (ofCodePoint? [a, b, c, d]) (longQuoted? .kept rest)
      | '\\', 'U' :: a :: b :: c :: d :: e :: f :: g :: h :: rest =>
        push (ofCodePoint? [a, b, c, d, e, f, g, h]) (longQuoted? .kept rest)
      | '\\', c :: rest =>
        match unescape? c with
        | some c => push (some c) (longQuoted? .kept rest)
        | none => longQuoted? .toBreak (c :: rest)
      | '\\', [] => none
      | c, rest => if isPlain c then push (some c) (longQuoted? .kept rest) else none
  | [] => none

/-- The string after its opening triple apostrophes. Up to two apostrophes may stand before
the closing ones. -/
def longLiteral? : List Char → Option (List Char × List Char)
  | '\'' :: '\'' :: '\'' :: '\'' :: '\'' :: rest => some (['\'', '\''], rest)
  | '\'' :: '\'' :: '\'' :: '\'' :: rest => some (['\''], rest)
  | '\'' :: '\'' :: '\'' :: rest => some ([], rest)
  | '\r' :: '\n' :: rest => push (some '\r') (push (some '\n') (longLiteral? rest))
  | '\n' :: rest => push (some '\n') (longLiteral? rest)
  | c :: rest => if isPlain c then push (some c) (longLiteral? rest) else none
  | [] => none

/-- The string in front of a text. A line break right after triple marks is dropped. -/
def string? : List Char → Option (List Char × List Char)
  | '"' :: '"' :: '"' :: rest => longQuoted? .kept ((afterBreak? rest).getD rest)
  | '\'' :: '\'' :: '\'' :: rest => longLiteral? ((afterBreak? rest).getD rest)
  | '"' :: rest => quoted? rest
  | '\'' :: rest => literal? rest
  | _ => none

/-! ### Keys -/

/-- Whether a character may stand in a bare key. -/
def isBare (c : Char) : Bool := c.isAlphanum || c == '_' || c == '-'

/-- The key in front of a text, without any dots. -/
def simpleKey? (s : List Char) : Option (String × List Char) :=
  match s with
  | '"' :: '"' :: '"' :: _ => none
  | '\'' :: '\'' :: '\'' :: _ => none
  | '"' :: rest => (quoted? rest).map fun (key, rest) => (String.ofList key, rest)
  | '\'' :: rest => (literal? rest).map fun (key, rest) => (String.ofList key, rest)
  | s =>
    match s.takeWhile isBare with
    | [] => none
    | key => some (String.ofList key, s.dropWhile isBare)

/-- The most keys with dots between. -/
def maxKeys : Nat := 80

/-- The keys in front of a text, with dots between, and at most `limit` of them: those on the
way, and the last one. The text after them begins behind any blanks. -/
def keys? (limit : Nat) (s : List Char) : Option ((List String × String) × List Char) :=
  match limit with
  | 0 => none
  | limit + 1 => do
    let (key, s) ← simpleKey? (s.dropWhile isBlank)
    match s.dropWhile isBlank with
    | '.' :: rest =>
      let ((path, last), rest) ← keys? limit rest
      return ((key :: path, last), rest)
    | rest => return (([], key), rest)

end Mediatheque.Toml
