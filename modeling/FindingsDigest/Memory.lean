/-
# Pages that are too wide for memory

A row of blanks is put together in memory before it is printed, and no text in memory is longer
than a signed number of 64 bits can count.  The width of the column comes from the settings, where
it may be twice as much, and nothing between them looks at it again.  So the line of a
finding may ask for more blanks than can be had.

A line is made as a whole before any of it is printed.  If a line cannot be made, then the program
breaks off: the lines in front of it have been printed by then, and they are all that is.

What comes of writing a page to a sink is `Sink.render`, and what a run prints is
`Disk.performInMemory`; `Disk.perform` tells what it would print if memory had no end.  That there
is memory for every shorter row is taken for granted.
-/
import FindingsDigest.Page.Sink
import FindingsDigest.Run

namespace FindingsDigest

/-- The length of the longest row of blanks, 2 ^ 63 - 1: as far as a signed number of 64 bits
counts. -/
def longestRow : Nat := UInt64.size / 2 - 1

/-- Whether a piece can be made. -/
def Piece.fits : Piece → Bool
  | colored _ _ => true
  | blanks count => count ≤ longestRow
  | lineEnd => true

namespace Page

/-- A page that breaks off at a line that cannot be made. -/
structure BrokenOff where
  /-- The lines in front of it. -/
  written : Page
  deriving DecidableEq, Repr

/-- What is told when a page breaks off; the place in the program is left out. -/
def BrokenOff.message (_ : BrokenOff) : String :=
  "capacity overflow"

/-- The lines of a page that have come to their end. -/
def wholeLines (page : Page) : Page :=
  (page.reverse.dropWhile (· ≠ .lineEnd)).reverse

/-- Makes a page, line by line. -/
def make (page : Page) : Except BrokenOff Page :=
  if page.all Piece.fits then .ok page else .error ⟨wholeLines (page.takeWhile Piece.fits)⟩

end Page

namespace Sink

/-- How it ends to write a page to a sink. -/
inductive Rendered where
  /-- All of the page was taken. -/
  | done (s : Sink)
  /-- The sink was full before that. -/
  | full (f : Full)
  /-- The page broke off, and the sink holds the lines in front of the break. -/
  | brokenOff (s : Sink) (b : Page.BrokenOff)
  deriving DecidableEq, Repr

/-- Writes a page to a sink as far as it can be made.  A line is written before the next one is
made, so the sink may be full before the page breaks off. -/
def render (p : Palette) (s : Sink) (page : Page) : Rendered :=
  match page.make with
  | .ok page =>
    match s.writePage p page with
    | .ok s => .done s
    | .error f => .full f
  | .error b =>
    match s.writePage p b.written with
    | .ok s => .brokenOff s b
    | .error f => .full f

end Sink

/-- What leaves the program at the end of a run, besides its log.  If the page breaks off, then the
exit code tells that the program came to no end of its own. -/
def Ending.inMemory (e : Ending) : Printed :=
  match e with
  | failed _ => ⟨e.exitCode, e.output, e.complaint⟩
  | printed page color _ =>
    match page.make with
    | .ok _ => ⟨e.exitCode, e.output, e.complaint⟩
    | .error broken => ⟨101, broken.written.text color, broken.message ++ "\n"⟩

/-- What leaves the program when a run is over, as far as memory allows. -/
def Outcome.printedInMemory (level : Level) (color : Bool) (r : Outcome) : Printed :=
  let last := r.ending.inMemory
  ⟨last.exitCode, last.output, Note.lines color (Note.upTo level r.notes) ++ last.diagnostics⟩

/-- What the program prints for a command line on a tree of files, as far as memory allows. -/
def Disk.performInMemory (d : Disk) (noColor : Option String) (arguments : List String) :
    Printed :=
  match Options.parse arguments with
  | .ok o => (d.run noColor o).printedInMemory o.level (!asksNoColor noColor)
  | .error stop => stop.printed

end FindingsDigest
