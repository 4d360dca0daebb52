import Mediatheque.Json.Basic

/-!
# TOML tables

The values of a TOML document, and how its tables come about. A table can be defined by a
header, by being on the way to one, by a dotted key, or in braces; what may be added to it
later depends on that. A header opens a table that was at most on the way to another one; a
dotted key only reaches into tables that no header has defined; braces close a table for
good.
-/

namespace Mediatheque.Toml

/-- How a table has come about. -/
inductive Origin where
  /-- By a header of its own, or as the whole document. -/
  | header
  /-- On the way to the table of a header. -/
  | implied
  /-- By a dotted key. -/
  | dotted
  /-- In braces. -/
  | braces
  deriving DecidableEq, Repr

/-- A value of a TOML document. -/
inductive Value where
  /-- A truth value. -/
  | bool (b : Bool)
  /-- An integer. -/
  | int (i : Int)
  /-- Another number, as it is written. -/
  | real (text : String)
  /-- A number that follows the grammar and stands for no value. -/
  | unreadable
  /-- A date, a time, or both, as it is written. -/
  | dateTime (text : String)
  /-- A string. -/
  | str (s : String)
  /-- An array in brackets. -/
  | arr (items : List Value)
  /-- A table, with its keys in order of appearance. -/
  | table (origin : Origin) (entries : List (String × Value))
  /-- Tables under a header in double brackets. -/
  | tables (items : List (List (String × Value)))

/-- The entries of a table. -/
abbrev Entries := List (String × Value)

namespace Entries

/-- The entries with another value under a key that is there. -/
def replace (entries : Entries) (key : String) (v : Value) : Entries :=
  entries.map fun e => if e.1 == key then (key, v) else e

/-- Whether a key may lead into a table, be it dotted or part of a header. -/
def mayEnter (dotted : Bool) (origin : Origin) : Bool :=
  if dotted then origin == .implied || origin == .dotted else origin != .braces

/-- Changes the table at the end of a path. The tables on the way have to be open; those that
are missing come about. Of tables in double brackets the last one is meant. -/
def change (dotted : Bool) (f : Origin → Entries → Option Entries) :
    List String → Origin → Entries → Option Entries
  | [], origin, entries => f origin entries
  | key :: path, _, entries =>
    match entries.lookup key with
    | none =>
      let origin : Origin := if dotted then .dotted else .implied
      (change dotted f path origin []).map fun inner => entries ++ [(key, .table origin inner)]
    | some (.table origin inner) =>
      if mayEnter dotted origin then
        (change dotted f path origin inner).map fun inner =>
          entries.replace key (.table origin inner)
      else none
    | some (.tables items) =>
      (change dotted f path .header (items.getLast?.getD [])).map fun inner =>
        entries.replace key (.tables (items.dropLast ++ [inner]))
    | some _ => none

/-- Puts a value under a key that is not there yet. A dotted key adds to tables of dotted keys
only, a plain one only to others. -/
def put (dotted : Bool) (key : String) (v : Value) (origin : Origin) (entries : Entries) :
    Option Entries :=
  if (origin == .dotted) == dotted && (entries.lookup key).isNone then some (entries ++ [(key, v)])
  else none

/-- Assigns a value to a key after a path of keys with dots between. -/
def assign (path : List String) (key : String) (v : Value) (origin : Origin) (entries : Entries) :
    Option Entries :=
  change true (put (!path.isEmpty) key v) path origin entries

/-- Opens the table of a header. -/
def openTable (key : String) (_ : Origin) (entries : Entries) : Option Entries :=
  match entries.lookup key with
  | none => some (entries ++ [(key, .table .header [])])
  | some (.table .implied inner) => some (entries.replace key (.table .header inner))
  | some _ => none

/-- Opens one more table of a header in double brackets. -/
def openNext (key : String) (_ : Origin) (entries : Entries) : Option Entries :=
  match entries.lookup key with
  | none => some (entries ++ [(key, .tables [[]])])
  | some (.tables items) => some (entries.replace key (.tables (items ++ [[]])))
  | some _ => none

end Entries

/-! ### JSON values -/

mutual

/-- The JSON value with the same content. A date or time is an object with a key that nothing
else has. -/
def Value.toJson : Value → Json
  | .bool b => .bool b
  | .int i => .int i
  | .real text => .str text
  | .unreadable => .unreadable
  | .dateTime text => .obj [("date-time", .str text)]
  | .str s => .str s
  | .arr items => .arr (itemsToJson items)
  | .table _ entries => .obj (entriesToJson entries)
  | .tables items => .arr (tablesToJson items)

/-- The JSON values of the items of an array. -/
def itemsToJson : List Value → List Json
  | [] => []
  | v :: rest => v.toJson :: itemsToJson rest

/-- The members of the JSON object of a table. -/
def entriesToJson : List (String × Value) → List (String × Json)
  | [] => []
  | (key, v) :: rest => (key, v.toJson) :: entriesToJson rest

/-- The JSON objects of several tables. -/
def tablesToJson : List (List (String × Value)) → List Json
  | [] => []
  | entries :: rest => .obj (entriesToJson entries) :: tablesToJson rest

end

end Mediatheque.Toml
