/-
# The settings file of a report

The settings of a report stand in a file of a fixed name, next to the report or in a directory
above it.  The search starts at the parent of the report's path, or at the working directory if
that parent says nothing; if the start can be written as an absolute path without links, the
search goes up that path, otherwise it goes up the start as it is written.

The nearest file settles the matter: if it cannot be read or is not valid, it is ignored, and no
file further up takes its place.  What makes it invalid is told in the words of the TOML reader;
they come with the file and are passed on as they are.
-/
import FindingsDigest.FileTree
import FindingsDigest.Settings

namespace FindingsDigest

/-- Why a settings file is ignored. -/
inductive SettingsError where
  /-- It cannot be read. -/
  | unreadable (path : String) (fault : Fault)
  /-- It is not a TOML document, or it binds a setting to a value of the wrong kind; the TOML
  reader gives the reason. -/
  | invalid (path reason : String)
  deriving DecidableEq, Repr

namespace SettingsError

/-- One line of text that tells what could not be done. -/
def message : SettingsError → String
  | unreadable path _ => "could not read " ++ path
  | invalid path _ => "could not parse " ++ path

/-- What is behind an error. -/
def cause : SettingsError → String
  | unreadable _ fault => fault.message
  | invalid _ reason => reason

/-- What could not be done, and why. -/
def explanation (e : SettingsError) : String :=
  e.message ++ ": " ++ e.cause

end SettingsError

/-- A settings file with what came of reading it. -/
structure SettingsFile where
  path : String
  text : Except Fault String
  /-- What the TOML reader says of a text that gives no settings. -/
  refusal : String → String

namespace Settings

/-- The name of a settings file. -/
def fileName : String := ".misra-summary.toml"

/-- Where the search for the settings of a report starts. -/
def searchStart (report : String) : String :=
  match Path.parent? report with
  | some parent => if parent = "" then "." else parent
  | none => "."

/-- The paths at which a search from `start` looks, the nearest first. -/
def candidates (start : String) : List String :=
  (Path.ancestors start).map fun directory => Path.join directory fileName

/-- The settings in a settings file. -/
def ofFile (file : SettingsFile) : Except SettingsError Settings :=
  match file.text with
  | .error fault => .error (.unreadable file.path fault)
  | .ok text =>
    match ofText? text with
    | some settings => .ok settings
    | none => .error (.invalid file.path (file.refusal text))

end Settings

namespace Disk

/-- The path of the nearest settings file of a report. -/
def findSettings? (d : Disk) (report : String) : Option String :=
  let start := Settings.searchStart report
  (Settings.candidates ((d.canonical? start).getD start)).find? d.isFile

/-- Reads the settings file at a path. -/
def settingsFile (d : Disk) (path : String) : SettingsFile :=
  ⟨path, d.read path, d.refusal⟩

/-- The nearest settings file of a report. -/
def settingsFile? (d : Disk) (report : String) : Option SettingsFile :=
  (d.findSettings? report).map d.settingsFile

/-- The settings in the nearest settings file of a report, if there is one and it is valid. -/
def settings? (d : Disk) (report : String) : Option Settings :=
  (d.settingsFile? report).bind fun file => (Settings.ofFile file).toOption

end Disk

end FindingsDigest
