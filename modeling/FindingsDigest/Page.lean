/-
# The printed page

A digest is printed as a page.  A clean report gives one sentence.  Findings give one line each
between a head and a foot, in the order of the catalogue; the file names stand in a column that
is padded with blanks up to a given width, counted in code points, and never cut.

A page is a list of pieces that know their role but not their look.  Only when a page is turned
into text is it decided whether the roles are drawn in color: each colored piece opens with the
code of its role and closes with the code that resets it, also when it is empty, and blanks and
line ends stand outside all colors.
-/
import FindingsDigest.Digest

namespace FindingsDigest

/-- The role of a colored piece of text. -/
inductive Role where
  /-- Banners and the fixed words of a finding. -/
  | alert
  /-- File names, rules and line numbers. -/
  | highlight
  /-- The sentence for a clean report. -/
  | success
  deriving DecidableEq, Repr

/-- The terminal code that opens the color of a role: bold bright red, yellow or green. -/
def Role.opening : Role → String
  | alert => "\x1b[91;1m"
  | highlight => "\x1b[93;1m"
  | success => "\x1b[92;1m"

/-- The terminal code that ends every color. -/
def Role.closing : String := "\x1b[0m"

/-- A piece of a page. -/
inductive Piece where
  /-- Text in the color of a role. -/
  | colored (role : Role) (text : String)
  /-- A number of blanks. -/
  | blanks (count : Nat)
  /-- The end of a line. -/
  | lineEnd
  deriving DecidableEq, Repr

/-- The characters of a piece, with or without colors. -/
def Piece.chars (color : Bool) : Piece → List Char
  | colored role text =>
    if color then role.opening.toList ++ text.toList ++ Role.closing.toList else text.toList
  | blanks count => List.replicate count ' '
  | lineEnd => ['\n']

/-- What is printed, piece by piece. -/
abbrev Page := List Piece

namespace Page

/-- The sentence for a clean report. -/
def cleanSentence : String :=
  "Static analysis for MISRA compliance complete. No errors found."

/-- The title over the findings, with the blanks that center it. -/
def title : String :=
  "       Static analysis results: Error Summary        "

/-- The rule drawn above and below the findings. -/
def divider : String :=
  String.ofList (List.replicate 49 '=')

/-- The blanks that pad a file name, with the word before it, to the width of the column. -/
def padding (width : Nat) (file : String) : Nat :=
  width - ("File ".length + file.length)

/-- The line for one finding, without its end. -/
def findingLine (width : Nat) (file : String) (f : Finding) : Page :=
  [.colored .alert "File ", .colored .highlight file, .blanks (padding width file),
   .blanks 1, .colored .alert "violates rule",
   .blanks 1, .colored .highlight ("#" ++ f.rule),
   .blanks 1, .colored .alert "of the MISRA C 2012 standard",
   .blanks 1, .colored .alert "at line",
   .blanks 1, .colored .highlight f.line]

/-- The lines for the findings of one file. -/
def fileLines (width : Nat) (file : String) (findings : List Finding) : Page :=
  findings.flatMap fun f => findingLine width file f ++ [.lineEnd]

/-- What stands above the findings. -/
def head : Page :=
  [.colored .alert divider, .lineEnd, .lineEnd, .colored .alert title, .lineEnd, .lineEnd]

/-- What stands below the findings. -/
def foot : Page :=
  [.lineEnd, .lineEnd, .colored .alert divider, .lineEnd]

/-- The page for a catalogue of findings. -/
def ofCatalogue (width : Nat) (c : Catalogue) : Page :=
  head ++ c.toList.flatMap (fun g => fileLines width g.1 g.2) ++ foot

/-- The page for a digest. -/
def ofDigest (width : Nat) : Digest → Page
  | .clean => [.colored .success cleanSentence, .lineEnd]
  | .findings c => ofCatalogue width c

/-- The characters of a page. -/
def chars (color : Bool) (page : Page) : List Char :=
  page.flatMap (Piece.chars color)

/-- A page as one string, however wide it is. -/
def text (color : Bool) (page : Page) : String :=
  String.ofList (page.chars color)

/-! ### Elementary laws -/

@[simp]
theorem chars_nil (color : Bool) : chars color [] = [] := rfl

@[simp]
theorem chars_append (color : Bool) (p q : Page) :
    chars color (p ++ q) = chars color p ++ chars color q :=
  List.flatMap_append

end Page

end FindingsDigest
