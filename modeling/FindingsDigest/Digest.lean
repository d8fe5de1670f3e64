/-
# The digest of a report

A report is a file of lines.  Its digest forgets repeated lines and gathers the findings that
the remaining lines record into a catalogue.  The lines are read in order and each keeps its
position in the whole report, so the first malformed line is the one that is told.  A report
without any line is clean.
-/
import FindingsDigest.Catalogue
import FindingsDigest.Distinct
import FindingsDigest.Text.Lines

namespace FindingsDigest

/-- A report as it was read. -/
structure Report where
  /-- The path under which the report was asked for. -/
  path : String
  /-- The lines without their endings. -/
  lines : List String
  deriving DecidableEq, Repr

/-- What a report comes down to. -/
inductive Digest where
  /-- There is nothing to tell. -/
  | clean
  /-- These findings were reported. -/
  | findings (catalogue : Catalogue)

/-- Whether anything was found. -/
def Digest.hasFindings : Digest → Bool
  | clean => false
  | findings _ => true

namespace Report

/-- The report with the given text. -/
def ofText (path text : String) : Report :=
  ⟨path, Text.linesOf text⟩

/-- The lines that are not repetitions of an earlier one, with their positions. -/
def distinctLines (r : Report) : List (Nat × String) :=
  firstOccurrences r.lines

/-- How many lines repeat an earlier one. -/
def repetitions (r : Report) : Nat :=
  r.lines.length - r.distinctLines.length

/-- Enters the records of numbered lines into a catalogue, up to the first malformed line. -/
def gather (c : Catalogue) (numbered : List (Nat × String)) : Except Malformed Catalogue :=
  numbered.foldlM (fun c l => return c.add (← Record.parse l.1 l.2)) c

/-- The digest of a report, or its first malformed line. -/
def digest (r : Report) : Except Malformed Digest :=
  if r.lines.isEmpty then .ok .clean
  else .findings <$> gather .empty r.distinctLines

end Report

end FindingsDigest
