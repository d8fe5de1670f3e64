/-
# The command line

The program takes one report and a few options.  A long option begins with two dashes, a short
one is a letter after a single dash, and several letters may follow one dash.  A dash alone is a
report, and after two dashes alone every argument is one.

The arguments are read from left to right and the first thing that is wrong is told.  Asking for
help or for the version ends the reading at once.  What needs all the arguments is looked at
last: first whether the report has a name, then whether options exclude each other, then whether
there is a report at all.  An empty report name is told earlier if another option follows it.
-/

namespace FindingsDigest

/-- What the command line asks for. -/
structure Options where
  /-- The path of the report. -/
  report : String
  /-- Whether to log everything. -/
  verbose : Bool := false
  /-- Whether to log errors only. -/
  quiet : Bool := false
  /-- Whether to print without colors. -/
  noColor : Bool := false
  /-- Whether to ignore settings files. -/
  noConfig : Bool := false
  deriving DecidableEq, Repr

/-- An option that is either given or not. -/
inductive Flag where
  | verbose
  | quiet
  | noColor
  | noConfig
  deriving DecidableEq, Repr

/-- What an option asks for. -/
inductive Switch where
  | flag (f : Flag)
  | help
  | version
  deriving DecidableEq, Repr

/-- Why a command line is refused. -/
inductive Refusal where
  /-- There is no such option, or one report too many. -/
  | unknownArgument
  /-- A value was joined to an option that takes none. -/
  | superfluousValue
  /-- An option was given twice, or two options exclude each other. -/
  | conflict
  /-- The report is missing. -/
  | missingReport
  /-- The report has an empty name. -/
  | emptyReport
  deriving DecidableEq, Repr

/-- Why a command line does not lead to a run. -/
inductive Stop where
  | refused (why : Refusal)
  /-- Help was asked for, in full or in short. -/
  | help (full : Bool)
  | version
  deriving DecidableEq, Repr

namespace Options

/-- The option of a letter. -/
def ofLetter? : Char → Option Switch
  | 'v' => some (.flag .verbose)
  | 'q' => some (.flag .quiet)
  | 'h' => some .help
  | 'V' => some .version
  | _ => none

/-- The option of a long name. -/
def ofName? : String → Option Switch
  | "verbose" => some (.flag .verbose)
  | "quiet" => some (.flag .quiet)
  | "no-color" => some (.flag .noColor)
  | "no-config" => some (.flag .noConfig)
  | "help" => some .help
  | "version" => some .version
  | _ => none

/-- What has been read of a command line. -/
structure Progress where
  report : Option String := none
  /-- The flags so far, the latest first. -/
  flags : List Flag := []
  /-- Whether two dashes alone have been read. -/
  onlyReports : Bool := false
  deriving DecidableEq, Repr

namespace Progress

/-- Takes a report. -/
def takeReport (p : Progress) (report : String) : Except Stop Progress :=
  match p.report with
  | none => .ok { p with report := some report }
  | some _ => .error (.refused .unknownArgument)

/-- Takes an option, which was written in full or as a letter. -/
def takeSwitch (p : Progress) (full : Bool) (s : Switch) : Except Stop Progress :=
  if p.report = some "" then .error (.refused .emptyReport)
  else
    match s with
    | .help => .error (.help full)
    | .version => .error .version
    | .flag f =>
      if f ∈ p.flags then .error (.refused .conflict) else .ok { p with flags := f :: p.flags }

/-- Takes the option of a letter. -/
def takeLetter (p : Progress) (letter : Char) : Except Stop Progress :=
  match ofLetter? letter with
  | some s => p.takeSwitch false s
  | none => .error (.refused .unknownArgument)

/-- Takes the option of a long name, to which a value may be joined by an equality sign. -/
def takeLong (p : Progress) (text : List Char) : Except Stop Progress :=
  let name := text.takeWhile (· ≠ '=')
  match ofName? (String.ofList name) with
  | some s =>
    if name.length = text.length then p.takeSwitch true s
    else .error (.refused .superfluousValue)
  | none => .error (.refused .unknownArgument)

/-- Takes one argument. -/
def take (p : Progress) (argument : String) : Except Stop Progress :=
  if p.onlyReports then p.takeReport argument
  else
    match argument.toList with
    | ['-', '-'] => .ok { p with onlyReports := true }
    | '-' :: '-' :: text => p.takeLong text
    | '-' :: c :: letters => (c :: letters).foldlM takeLetter p
    | _ => p.takeReport argument

/-- The options, when all arguments have been taken. -/
def finish (p : Progress) : Except Stop Options :=
  if p.report = some "" then .error (.refused .emptyReport)
  else if .verbose ∈ p.flags ∧ .quiet ∈ p.flags then .error (.refused .conflict)
  else
    match p.report with
    | none => .error (.refused .missingReport)
    | some report =>
      .ok {
        report
        verbose := .verbose ∈ p.flags
        quiet := .quiet ∈ p.flags
        noColor := .noColor ∈ p.flags
        noConfig := .noConfig ∈ p.flags }

end Progress

/-- Reads a command line, without the name of the program. -/
def parse (arguments : List String) : Except Stop Options :=
  arguments.foldlM Progress.take {} >>= Progress.finish

end Options

end FindingsDigest
