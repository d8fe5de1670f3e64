/-
# The program

Gathers what a run finds around it from the file system and the environment, lets the run take
place, and prints what comes of it.
-/
import FindingsDigest.Memory

namespace FindingsDigest

/-- The fault of a system error.  Its number may come with either sign, and the faults that are
known by their number have a fixed description. -/
def Fault.ofNumber (number : UInt32) (description : String) : Fault :=
  let n := min number.toNat (UInt32.size - number.toNat)
  let known := [Fault.notFound, .notDirectory, .isDirectory, .nameTooLong, .tooManyLinks,
    .refused "Permission denied" 13, .refused "Input/output error" 5]
  let named := known.find? fun
    | .refused _ m => m = n
    | _ => false
  named.getD (.refused description.capitalize n)

/-- The fault that the system reports. -/
def Fault.ofSystem : IO.Error → Fault
  | .alreadyExists _ n d => .ofNumber n d
  | .otherError n d => .ofNumber n d
  | .resourceBusy n d => .ofNumber n d
  | .resourceVanished n d => .ofNumber n d
  | .unsupportedOperation n d => .ofNumber n d
  | .hardwareFault n d => .ofNumber n d
  | .unsatisfiedConstraints n d => .ofNumber n d
  | .illegalOperation n d => .ofNumber n d
  | .protocolError n d => .ofNumber n d
  | .timeExpired n d => .ofNumber n d
  | .interrupted _ n d => .ofNumber n d
  | .noFileOrDirectory _ n d => .ofNumber n d
  | .invalidArgument _ n d => .ofNumber n d
  | .permissionDenied _ n d => .ofNumber n d
  | .resourceExhausted _ n d => .ofNumber n d
  | .inappropriateType _ n d => .ofNumber n d
  | .noSuchThing _ n d => .ofNumber n d
  | .unexpectedEof => .ofNumber 0 "unexpected end of file"
  | .userError d => .ofNumber 0 d

/-- Reads the text of a file. -/
def readText (path : String) : IO (Except Fault String) := do
  try
    let bytes ← IO.FS.readBinFile path
    match String.fromUTF8? bytes with
    | some text => return .ok text
    | none => return .error .notText
  catch e => return .error (.ofSystem e)

/-- The absolute path without links that leads to the same entry as a path. -/
def canonicalPath? (path : String) : IO (Option String) := do
  try return some (← IO.FS.realPath path).toString
  catch _ => return none

/-- Whether a path leads to a file. -/
def leadsToFile (path : String) : IO Bool := do
  try return (← (← IO.FS.realPath path).metadata).type matches .file
  catch _ => return false

/-- What is said of a text that gives no settings.  The reader of this library gives no reason, so
these are only the words with which every reason begins. -/
def refusal (_ : String) : String :=
  "TOML parse error"

/-- The nearest settings file of a report. -/
def nearestSettings? (report : String) : IO (Option SettingsFile) := do
  let start := Settings.searchStart report
  let top := (← canonicalPath? start).getD start
  match ← (Settings.candidates top).findM? leadsToFile with
  | some path => return some ⟨path, ← readText path, refusal⟩
  | none => return none

/-- Gathers what a run finds around it. -/
def gatherSurroundings (noColor : Bool) (o : Options) : IO Surroundings := do
  let settings ← if o.noConfig then pure none else nearestSettings? o.report
  return ⟨settings, ← readText o.report, noColor⟩

/-- Runs the program and prints what comes of it; the result is the exit code. -/
def runProgram (arguments : List String) : IO UInt32 := do
  let noColor := asksNoColor (← IO.getEnv "NO_COLOR")
  let printed ← match Options.parse arguments with
    | .ok o =>
      pure ((run o (← gatherSurroundings noColor o)).printedInMemory o.level (!noColor))
    | .error stop => pure stop.printed
  IO.eprint printed.diagnostics
  IO.print printed.output
  return printed.exitCode.toUInt32

end FindingsDigest

/-- Runs the program. -/
def main (arguments : List String) : IO UInt32 :=
  FindingsDigest.runProgram arguments
