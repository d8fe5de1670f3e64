/-
# A run of the program

A run takes the command line and what it finds around it: the nearest settings file, the report,
and whether the environment asks for no colors.  It makes notes, and it ends in one of two ways:
it prints the page of the report's digest, or it fails because the report cannot be read or has
a malformed line.  The page is made only after the whole report has been read, so a run that
fails prints nothing.

What is found around a run is gathered first, so the run itself is a function.  `Disk.run` is
that function on a tree of files.
-/
import FindingsDigest.Log
import FindingsDigest.Options.Help
import FindingsDigest.Page
import FindingsDigest.Settings.Search

namespace FindingsDigest

/-- What a run finds around it. -/
structure Surroundings where
  /-- The nearest settings file. -/
  settings : Option SettingsFile
  /-- The text of the report. -/
  report : Except Fault String
  /-- Whether the environment asks for no colors. -/
  noColor : Bool

/-- Why a run prints nothing. -/
inductive Failure where
  /-- The report cannot be read. -/
  | unreadable (path : String) (fault : Fault)
  /-- The report has a malformed line. -/
  | malformed (m : Malformed)
  deriving DecidableEq, Repr

namespace Failure

/-- What went wrong. -/
def message : Failure → String
  | unreadable path _ => "failed to read report " ++ path
  | malformed m => m.message

/-- The fault behind a failure, if there is one. -/
def cause? : Failure → Option Fault
  | unreadable _ fault => some fault
  | malformed _ => none

/-- The text in which the program tells a failure, with its cause below. -/
def explanation (f : Failure) : String :=
  match f.cause? with
  | some fault => "Error: " ++ f.message ++ "\n\nCaused by:\n    " ++ fault.message ++ "\n"
  | none => "Error: " ++ f.message ++ "\n"

end Failure

/-- How a run ends. -/
inductive Ending where
  /-- A page is printed; `found` tells whether it shows findings. -/
  | printed (page : Page) (color : Bool) (found : Bool)
  | failed (f : Failure)
  deriving DecidableEq, Repr

/-- What a run comes to: all notes, and its end. -/
structure Outcome where
  notes : List Note
  ending : Ending
  deriving DecidableEq, Repr

/-- The level up to which notes are shown. -/
def Options.level (o : Options) : Level :=
  if o.verbose then .debug else if o.quiet then .error else .warn

namespace SettingsFile

/-- The settings in a settings file that is used, or the defaults. -/
def chosen (file : SettingsFile) : Settings :=
  (Settings.ofFile file).toOption.getD {}

/-- The notes about a settings file: that it was found, and what came of it. -/
def notes (file : SettingsFile) : List Note :=
  let found : Note := ⟨.debug, "Found config: " ++ file.path⟩
  match Settings.ofFile file with
  | .ok _ => [found, ⟨.info, "Loaded config from " ++ file.path⟩]
  | .error e => [found, ⟨.warn, "Ignoring " ++ file.path ++ ": " ++ e.explanation⟩]

end SettingsFile

namespace Surroundings

/-- The settings file that the options let a run use. -/
def settingsFile? (s : Surroundings) (o : Options) : Option SettingsFile :=
  if o.noConfig then none else s.settings

/-- The settings of a run. -/
def chosenSettings (s : Surroundings) (o : Options) : Settings :=
  ((s.settingsFile? o).map SettingsFile.chosen).getD {}

/-- Whether the page of a run has colors: only if nothing speaks against them. -/
def chosenColor (s : Surroundings) (o : Options) : Bool :=
  (s.chosenSettings o).color && !o.noColor && !s.noColor

/-- The notes that a run makes before it reads the report. -/
def openingNotes (s : Surroundings) (o : Options) : List Note :=
  [⟨.info, "misra-summary v" ++ Options.programVersion⟩] ++
    ((s.settingsFile? o).map SettingsFile.notes).getD [] ++
    [⟨.debug, "color output: " ++ toString (s.chosenColor o)⟩]

end Surroundings

namespace Report

/-- The notes about reading a report. -/
def readingNotes (r : Report) : List Note :=
  [⟨.info, "Read " ++ toString r.lines.length ++ " lines from " ++ r.path⟩,
   ⟨.debug, "analyzing " ++ r.path ++ " (" ++ toString r.lines.length ++ " lines)"⟩]

/-- The note about the lines that repeat an earlier one. -/
def repetitionNote (r : Report) : Note :=
  ⟨.debug, toString r.repetitions ++ " duplicate lines skipped"⟩

/-- The notes about digesting a report, given what came of it. -/
def digestNotes (r : Report) (result : Except Malformed Digest) : List Note :=
  match result with
  | .ok .clean => [⟨.info, "Report is empty"⟩]
  | .ok (.findings c) =>
    [r.repetitionNote,
      ⟨.info, toString c.size ++ " violations across " ++ toString c.fileCount ++ " files"⟩]
  | .error _ => [r.repetitionNote]

end Report

/-- Runs the program with the given options in the given surroundings. -/
def run (o : Options) (s : Surroundings) : Outcome :=
  match s.report with
  | .error fault => ⟨s.openingNotes o, .failed (.unreadable o.report fault)⟩
  | .ok text =>
    let r := Report.ofText o.report text
    let result := r.digest
    let notes := s.openingNotes o ++ r.readingNotes ++ r.digestNotes result
    match result with
    | .error m => ⟨notes, .failed (.malformed m)⟩
    | .ok d =>
      ⟨notes, .printed (Page.ofDigest (s.chosenSettings o).columnWidth d) (s.chosenColor o)
        d.hasFindings⟩

/-- What leaves the program: its exit code and its two streams of text. -/
structure Printed where
  exitCode : UInt8
  output : String
  diagnostics : String
  deriving DecidableEq, Repr

namespace Ending

/-- The exit code: 127 tells that there are findings. -/
def exitCode : Ending → UInt8
  | printed _ _ found => if found then 127 else 0
  | failed _ => 1

/-- What is printed on standard output. -/
def output : Ending → String
  | printed page color _ => page.text color
  | failed _ => ""

/-- What is told after the log. -/
def complaint : Ending → String
  | printed _ _ _ => ""
  | failed f => f.explanation

end Ending

/-- What leaves the program when a run is over; notes are shown up to `level`, in colors if
`color` is true. -/
def Outcome.printed (level : Level) (color : Bool) (r : Outcome) : Printed :=
  ⟨r.ending.exitCode, r.ending.output,
    Note.lines color (Note.upTo level r.notes) ++ r.ending.complaint⟩

/-- What leaves the program when it is stopped by its command line. -/
def Stop.printed (s : Stop) : Printed :=
  ⟨s.exitCode, s.output, s.complaint⟩

/-- Whether a value of the environment variable `NO_COLOR` asks for no colors. -/
def asksNoColor : Option String → Bool
  | none => false
  | some value => value ≠ ""

namespace Disk

/-- What a run finds around it on a tree of files. -/
def surroundings (d : Disk) (noColor : Option String) (o : Options) : Surroundings where
  settings := d.settingsFile? o.report
  report := d.read o.report
  noColor := asksNoColor noColor

/-- Runs the program on a tree of files. -/
def run (d : Disk) (noColor : Option String) (o : Options) : Outcome :=
  FindingsDigest.run o (d.surroundings noColor o)

/-- What the program prints for a command line on a tree of files, if memory has no end; see
`Disk.performInMemory` for a memory that has one. -/
def perform (d : Disk) (noColor : Option String) (arguments : List String) : Printed :=
  match Options.parse arguments with
  | .ok o => (d.run noColor o).printed o.level (!asksNoColor noColor)
  | .error stop => stop.printed

end Disk

end FindingsDigest
