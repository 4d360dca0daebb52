/-!
# Files

A snapshot of the files that settings are looked up in: a tree of directories, and the
directory in which relative paths begin.
-/

namespace Mediatheque

/-- A file or a directory. -/
inductive FileTree where
  /-- A file, and its content if that is text. -/
  | file (text : Option String)
  /-- A directory with the names of what is in it. -/
  | directory (entries : List (String × FileTree))

/-- Files, and where relative paths begin. -/
structure Files where
  /-- The directory that holds everything. -/
  root : FileTree
  /-- The names that lead from there to where relative paths begin. -/
  workingDirectory : List String

/-- The parts of a path between its slashes. -/
def pathSegments (path : String) : List String := path.splitOn "/"

namespace FileTree

/-- The tree with another one at the end of a path; missing directories come about. -/
def add (t : FileTree) (path : List String) (leaf : FileTree) : FileTree :=
  match path with
  | [] =>
    match leaf, t with
    | .directory [], .directory entries => .directory entries
    | leaf, _ => leaf
  | name :: path =>
    match t with
    | .file text => .file text
    | .directory entries =>
      match entries.lookup name with
      | none => .directory (entries ++ [(name, add (.directory []) path leaf)])
      | some inner =>
        .directory (entries.map fun e => if e.1 == name then (name, add inner path leaf) else e)

/-- What a path leads to from a directory, given the directories around it, the nearest first.
Only directories lead on. -/
def walk (here : FileTree) (around : List FileTree) : List String → Option FileTree
  | [] => some here
  | name :: path =>
    match here with
    | .file _ => none
    | .directory entries =>
      if name = "" ∨ name = "." then walk here around path
      else if name = ".." then
        match around with
        | [] => walk here [] path
        | above :: around => walk above around path
      else
        match entries.lookup name with
        | none => none
        | some inner => walk inner (here :: around) path

end FileTree

namespace Files

/-- What a path leads to, if anywhere. -/
def find? (files : Files) (path : String) : Option FileTree :=
  let start := if path.startsWith "/" then [] else files.workingDirectory
  files.root.walk [] (start ++ pathSegments path)

/-- Whether a path leads to a file. -/
def hasFile (files : Files) (path : String) : Bool :=
  match files.find? path with
  | some (.file _) => true
  | _ => false

/-- The text of the file to which a path leads. -/
def read? (files : Files) (path : String) : Option String :=
  match files.find? path with
  | some (.file text) => text
  | _ => none

end Files

end Mediatheque
