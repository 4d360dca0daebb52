import Mediatheque.Settings.Basic
import Mediatheque.Settings.Files
import Mediatheque.Text.CharacterClass
import Mediatheque.Toml.Document

/-!
# Where settings come from

Settings are read from the first of these that is there: a file that was asked for, a text
that was passed along, a file with one of the usual names, and the standard. A file that is
there and cannot be read is an error, and not passed over. Files are in JSON or in TOML, as
their extension says; without a known extension either will do.
-/

namespace Mediatheque

/-- Where settings were found. -/
inductive SettingsSource where
  /-- Nowhere. -/
  | standard
  /-- In the file that was asked for. -/
  | requested (path : String)
  /-- In the text that was passed along. -/
  | passed
  /-- In a file with one of the usual names. -/
  | found (path : String)
  deriving DecidableEq, Repr

/-- Why there are no settings. -/
inductive SettingsError where
  /-- A file is missing, is a directory, or holds no text. -/
  | unreadableFile (path : String)
  /-- A file does not hold settings in the format of its extension. -/
  | invalidFile (path : String)
  /-- The text that was passed along does not hold settings. -/
  | invalidPassed
  /-- A text holds settings in neither format. -/
  | invalidText (origin : String)
  /-- A text does not hold settings in JSON. -/
  | invalidJson
  deriving DecidableEq, Repr

/-- The words for why there are no settings. -/
def SettingsError.message : SettingsError → String
  | .unreadableFile path => "failed to read mediashelf config from " ++ path
  | .invalidFile path => "invalid mediashelf config " ++ path
  | .invalidPassed => "failed to parse MEDIASHELF_CONFIG_JSON"
  | .invalidText origin => "failed to parse mediashelf config " ++ origin
  | .invalidJson => "invalid mediashelf config json"

namespace Settings

/-! ### Texts -/

/-- Reads settings in JSON. -/
def ofJsonText (s : String) : Except SettingsError Settings :=
  match Json.ofText Settings s with
  | some settings => .ok settings
  | none => .error .invalidJson

/-- Reads settings in TOML. Surplus items of a section's array are skipped whatever they are;
every other part of the document has to be readable. -/
def ofTomlText? (s : String) : Option Settings :=
  (((Toml.jsonOfText? s.toList).map withoutSurplus).filter Json.isReadable).bind
    (Json.as? Settings .direct)

/-- Reads settings in TOML, or else in JSON. -/
def ofEitherText (s origin : String) : Except SettingsError Settings :=
  match ofTomlText? s <|> Json.ofText Settings s with
  | some settings => .ok settings
  | none => .error (.invalidText origin)

/-! ### Files -/

/-- The last part of a path. -/
def fileName (path : String) : List Char :=
  ((path.toList.reverse).takeWhile (· != '/')).reverse

/-- The extension of a path: what follows the last dot of the file's name, unless the dot leads
the name. -/
def extension? (path : String) : Option String :=
  let reversed := (fileName path).reverse
  match reversed.dropWhile (· != '.') with
  | [] | ['.'] => none
  | _ => some (String.ofList (reversed.takeWhile (· != '.')).reverse)

/-- Reads settings from a file. -/
def ofFile (files : Files) (path : String) : Except SettingsError Settings :=
  match files.read? path with
  | none => .error (.unreadableFile path)
  | some text =>
    match extension? path with
    | some "json" => (ofJsonText text).mapError fun _ => .invalidFile path
    | some "toml" => (ofTomlText? text).elim (.error (.invalidFile path)) .ok
    | _ => ofEitherText text path

/-- The usual names of files with settings. -/
def usualFiles : List String :=
  ["mediashelf.toml", "mediashelf.json", "config/mediashelf.toml", "config/mediashelf.json"]

/-- The path of something in a directory. -/
def pathIn (directory name : String) : String :=
  if directory = "" ∨ directory.endsWith "/" then directory ++ name else directory ++ "/" ++ name

/-- The first file with a usual name in a directory. -/
def usualFile? (files : Files) (directory : String) : Option String :=
  (usualFiles.map (pathIn directory)).find? files.hasFile

/-! ### Resolution -/

/-- Whether a text is there and not blank. -/
def isGiven (s : String) : Bool := !(Text.trim s.toList).isEmpty

/-- The settings, from the file that is asked for, the text that is passed along, a usual file
of the directory, or the standard. Blank arguments count as missing. -/
def resolve (files : Files) (path passed : Option String) (directory : String) :
    Except SettingsError (Settings × SettingsSource) :=
  match path.filter isGiven, passed.filter isGiven, usualFile? files directory with
  | some path, _, _ => (ofFile files path).map (·, .requested path)
  | none, some text, _ =>
    ((ofJsonText text).map (·, .passed)).mapError fun _ => .invalidPassed
  | none, none, some path => (ofFile files path).map (·, .found path)
  | none, none, none => .ok (standard, .standard)

end Settings

end Mediatheque
