/-
# Findings and the lines that record them

A static checker reports that a rule is broken at a line of a source file.  One line of its
report records one such finding as `file:line:rule`, possibly followed by further fields that
carry no information here.

The three fields are kept as they stand: the line number is not read as a number, and nothing
is trimmed, but for line feeds at the end of the rule.  A line with fewer than two colons
records nothing; it is malformed, and the error tells where it stands and how many fields it
has.
-/
import FindingsDigest.Text.Quoted

namespace FindingsDigest

/-- A broken rule at a line of some file. -/
structure Finding where
  /-- The line number as the checker wrote it. -/
  line : String
  /-- The name of the rule, such as `21.1`. -/
  rule : String
  deriving DecidableEq, Repr

/-- A finding with the file that it was made in. -/
structure Record where
  file : String
  finding : Finding
  deriving DecidableEq, Repr

/-- A report line that records nothing. -/
structure Malformed where
  /-- The position of the line in the report, counted from one. -/
  lineNo : Nat
  /-- The line itself. -/
  content : String
  /-- How many fields its colons separate. -/
  fields : Nat
  deriving DecidableEq, Repr

/-- One line of text that tells what is wrong with a malformed line. -/
def Malformed.message (m : Malformed) : String :=
  "malformed report line " ++ toString m.lineNo ++ ": expected `file:line:rule`, got " ++
    toString m.fields ++ " field(s) in " ++ Text.quoted m.content

namespace Record

/-- The text without the line feeds at its end. -/
def dropLineFeeds (text : List Char) : List Char :=
  (text.reverse.dropWhile (· = '\n')).reverse

/-- Reads the record on the line at position `lineNo` of a report. -/
def parse (lineNo : Nat) (line : String) : Except Malformed Record :=
  match line.toList.splitOn ':' with
  | file :: number :: rule :: _ =>
    .ok {
      file := String.ofList file
      finding := ⟨String.ofList number, String.ofList (dropLineFeeds rule)⟩ }
  | fields => .error ⟨lineNo, line, fields.length⟩

end Record

end FindingsDigest
