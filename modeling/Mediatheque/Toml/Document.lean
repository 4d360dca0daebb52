import Mediatheque.Toml.Number

/-!
# TOML documents

A document is a list of lines. A line assigns a value to a key of the current table, opens
another table by a header, or is blank; a comment may end it. Arrays and tables in braces
may run over several lines and end with a comma, and are nested in each other up to a limit;
in braces lines may also break around the sign of an assignment.
-/

namespace Mediatheque.Toml

/-- The deepest nesting of arrays and tables in braces. -/
def maxNesting : Nat := 80

/-- The text after the blanks and the comment in front of it. -/
def lineEnd? (s : List Char) : Option (List Char) :=
  match s.dropWhile isBlank with
  | '#' :: rest =>
    let rest := rest.dropWhile isPlain
    if rest.isEmpty || (afterBreak? rest).isSome then some rest else none
  | rest => some rest

/-- The text after all blanks, line breaks and comments in front of it. -/
def gap? (fuel : Nat) (s : List Char) : Option (List Char) :=
  match fuel with
  | 0 => none
  | fuel + 1 => do
    let s ← lineEnd? s
    match afterBreak? s with
    | some rest => gap? fuel rest
    | none => return s

mutual

/-- The value in front of a text, in which so many more containers may be nested. -/
def value? (fuel depth : Nat) (s : List Char) : Option (Value × List Char) :=
  match fuel, s with
  | 0, _ => none
  | fuel + 1, '[' :: rest =>
    if depth = 0 then none else (items? fuel (depth - 1) rest).map fun (l, rest) => (.arr l, rest)
  | fuel + 1, '\x7b' :: rest =>
    if depth = 0 then none
    else (entries? fuel (depth - 1) [] rest).map fun (l, rest) => (.table .braces l, rest)
  | _ + 1, '"' :: rest =>
    (string? ('"' :: rest)).map fun (s, rest) => (.str (String.ofList s), rest)
  | _ + 1, '\'' :: rest =>
    (string? ('\'' :: rest)).map fun (s, rest) => (.str (String.ofList s), rest)
  | _ + 1, s =>
    let (word, rest) := word s
    (ofWord? word).map fun v => (v, rest)

/-- The items of an array up to its closing bracket. -/
def items? (fuel depth : Nat) (s : List Char) : Option ((List Value) × List Char) :=
  match fuel with
  | 0 => none
  | fuel + 1 => do
    match ← gap? fuel s with
    | ']' :: rest => return ([], rest)
    | s =>
      let (v, s) ← value? fuel depth s
      match ← gap? fuel s with
      | ']' :: rest => return ([v], rest)
      | ',' :: rest =>
        let (l, rest) ← items? fuel depth rest
        return (v :: l, rest)
      | _ => none

/-- The entries of a table up to its closing brace, after those before. -/
def entries? (fuel depth : Nat) (before : Entries) (s : List Char) : Option (Entries × List Char) :=
  match fuel with
  | 0 => none
  | fuel + 1 => do
    match ← gap? fuel s with
    | '\x7d' :: rest => return (before, rest)
    | s =>
      let ((path, key), s) ← keys? maxKeys s
      let s ← after? '=' (← gap? fuel s)
      let (v, s) ← value? fuel depth (← gap? fuel s)
      let entries ← Entries.assign path key v .braces before
      match ← gap? fuel s with
      | '\x7d' :: rest => return (entries, rest)
      | ',' :: rest => entries? fuel depth entries rest
      | _ => none

end

/-- How far a document has been read: its tables, and the path to the current one. -/
structure Progress where
  /-- The entries of the document. -/
  entries : Entries
  /-- The keys that lead to the current table. -/
  current : List String

/-- Reads a line that opens a table, after its first bracket. -/
def header? (p : Progress) (s : List Char) : Option (Progress × List Char) :=
  match s with
  | '[' :: rest => do
    let ((path, key), s) ← keys? maxKeys rest
    let s ← after? ']' (← after? ']' s)
    let entries ← Entries.change false (Entries.openNext key) path .header p.entries
    return (⟨entries, path ++ [key]⟩, s)
  | s => do
    let ((path, key), s) ← keys? maxKeys s
    let s ← after? ']' s
    let entries ← Entries.change false (Entries.openTable key) path .header p.entries
    return (⟨entries, path ++ [key]⟩, s)

/-- Reads a line that assigns a value. -/
def assignment? (fuel : Nat) (p : Progress) (s : List Char) : Option (Progress × List Char) := do
  let ((path, key), s) ← keys? maxKeys s
  let (v, s) ← value? fuel maxNesting ((← after? '=' s).dropWhile isBlank)
  let entries ← Entries.change false (Entries.assign path key v) p.current .header p.entries
  return ({ p with entries }, s)

/-- Reads all lines. -/
def lines? (fuel : Nat) (p : Progress) (s : List Char) : Option Entries :=
  match fuel with
  | 0 => none
  | fuel + 1 => do
    match ← gap? fuel s with
    | [] => return p.entries
    | c :: rest =>
      let (p, s) ← if c = '[' then header? p rest else assignment? fuel p (c :: rest)
      let s ← lineEnd? s
      match afterBreak? s with
      | some rest => lines? fuel p rest
      | none => if s.isEmpty then return p.entries else none

/-- Reads a document as a table; a mark of the byte order may lead it. -/
def ofText? (s : List Char) : Option Entries :=
  let s := if s.head? = some '\uFEFF' then s.drop 1 else s
  lines? (2 * s.length + 2) ⟨[], []⟩ s

/-- The JSON object with the content of a document. -/
def jsonOfText? (s : List Char) : Option Json := (ofText? s).map fun l => .obj (entriesToJson l)

end Mediatheque.Toml
