/-
# Help texts

What the program prints when it is asked for help or for its version.  The short help has one
line for each option, the full help also tells what the program does and how it ends.
-/
import FindingsDigest.Options

namespace FindingsDigest

namespace Options

/-- The version of the program. -/
def programVersion : String := "0.2.0"

/-- Lines as one text. -/
def asText (lines : List String) : String :=
  String.join (lines.map (· ++ "\n"))

/-- The help with one line for each option. -/
def shortHelp : List String :=
  [
    "Summarize a cppcheck MISRA C 2012 report",
    "",
    "Usage: misra-summary [OPTIONS] <REPORT>",
    "",
    "Arguments:",
    "  <REPORT>  Report file to summarize",
    "",
    "Options:",
    "  -v, --verbose    Enable verbose diagnostics on stderr (debug level)",
    "  -q, --quiet      Suppress all diagnostics except errors",
    "      --no-color   Print the report without ANSI colors",
    "      --no-config  Ignore .misra-summary.toml config files",
    "  -h, --help       Print help (see more with '--help')",
    "  -V, --version    Print version"]

/-- The help that also tells what the program does and how it ends. -/
def fullHelp : List String :=
  [
    "Reads a pre-processed cppcheck MISRA report (one `file:line:rule` per line),",
    "drops duplicate lines and prints the violations grouped by file.",
    "",
    "Exit codes: 0 = empty report, 127 = violations found, 1 = error.",
    "",
    "Usage: misra-summary [OPTIONS] <REPORT>",
    "",
    "Arguments:",
    "  <REPORT>",
    "          Report file to summarize",
    "",
    "Options:",
    "  -v, --verbose",
    "          Enable verbose diagnostics on stderr (debug level)",
    "",
    "  -q, --quiet",
    "          Suppress all diagnostics except errors",
    "",
    "      --no-color",
    "          Print the report without ANSI colors",
    "",
    "      --no-config",
    "          Ignore .misra-summary.toml config files",
    "",
    "  -h, --help",
    "          Print help (see a summary with '-h')",
    "",
    "  -V, --version",
    "          Print version"]

end Options

namespace Refusal

/-- One line of text that tells why a command line is refused. -/
def message : Refusal → String
  | unknownArgument => "unexpected argument"
  | superfluousValue => "unexpected value for an option"
  | conflict => "options that cannot be used together"
  | missingReport => "the report is missing"
  | emptyReport => "the report has an empty name"

end Refusal

namespace Stop

/-- What is printed on standard output. -/
def output : Stop → String
  | refused _ => ""
  | help false => Options.asText Options.shortHelp
  | help true => Options.asText Options.fullHelp
  | version => "misra-summary " ++ Options.programVersion ++ "\n"

/-- What is told on standard error. -/
def complaint : Stop → String
  | refused why => "error: " ++ why.message ++ "\n\nFor more information, try '--help'.\n"
  | help _ => ""
  | version => ""

/-- The exit code. -/
def exitCode : Stop → UInt8
  | refused _ => 2
  | help _ => 0
  | version => 0

end Stop

end FindingsDigest
