/-
# The log

While it works the program notes what it does.  A note has a level, and a run shows the notes
up to a chosen level, in the order in which they were made: for each the name of the level in five
columns, possibly colored, a space, and the text, with a line feed behind it.

A text may hold a path, and a path may hold anything, so the controls a terminal acts on are
shown by their code instead.  Line feeds are not among them, so a text of several lines is
written as it is.
-/

namespace FindingsDigest

/-- How important a note is. -/
inductive Level where
  | error
  | warn
  | info
  | debug
  deriving DecidableEq, Repr

namespace Level

/-- The rank of a level, the most important first. -/
def rank : Level → Nat
  | error => 0
  | warn => 1
  | info => 2
  | debug => 3

/-- The name of a level, right-aligned in five columns. -/
def label : Level → String
  | error => "ERROR"
  | warn => " WARN"
  | info => " INFO"
  | debug => "DEBUG"

/-- The terminal code that opens the color of a level: red, yellow, green or blue. -/
def opening : Level → String
  | error => "\x1b[31m"
  | warn => "\x1b[33m"
  | info => "\x1b[32m"
  | debug => "\x1b[34m"

end Level

/-- A note in the log. -/
structure Note where
  level : Level
  text : String
  deriving DecidableEq, Repr

namespace Note

/-- How a character of a text is shown: the controls a terminal acts on by their code. -/
def showChar (c : Char) : List Char :=
  if c = '\x1b' then ['\\', 'x', '1', 'b']
  else if c = '\x07' then ['\\', 'x', '0', '7']
  else if c = '\x08' then ['\\', 'x', '0', '8']
  else if c = '\x0c' then ['\\', 'x', '0', 'c']
  else if c = '\x7f' then ['\\', 'x', '7', 'f']
  else if 0x80 ≤ c.toNat && c.toNat ≤ 0x9f then
    ['\\', 'u', '\x7b'] ++ Nat.toDigits 16 c.toNat ++ ['\x7d']
  else [c]

/-- How a text is shown. -/
def shown (text : String) : String :=
  String.ofList (text.toList.flatMap showChar)

/-- The line of a note, with its end. -/
def line (color : Bool) (n : Note) : String :=
  let label := if color then n.level.opening ++ n.level.label ++ "\x1b[0m" else n.level.label
  label ++ " " ++ shown n.text ++ "\n"

/-- The notes up to a level. -/
def upTo (level : Level) (notes : List Note) : List Note :=
  notes.filter fun n => n.level.rank ≤ level.rank

/-- The lines of the notes, as one text. -/
def lines (color : Bool) (notes : List Note) : String :=
  String.join (notes.map (line color))

end Note

end FindingsDigest
