/-
# Blanks, line ends and comments

Blanks are the space and the tab.  A line ends at a line feed, which a carriage return may
precede; a carriage return alone is nowhere allowed.  A comment runs from a number sign to the
end of its line and may hold any character but controls.

Between the parts of an array or of a table in braces, line ends and comments may stand
wherever blanks may: that is a gap.
-/

namespace FindingsDigest.Toml

/-- A space or a tab. -/
def isBlank (c : Char) : Bool :=
  c = ' ' || c = '\t'

/-- A tab or any character that is not a control of ASCII. -/
def isPlain (c : Char) : Bool :=
  c = '\t' || (0x20 ≤ c.toNat && c.toNat ≠ 0x7f)

/-- What is left after the blanks in front. -/
def skipBlanks (s : List Char) : List Char :=
  s.dropWhile isBlank

/-- What is left after a line end. -/
def lineEnd? : List Char → Option (List Char)
  | '\n' :: rest => some rest
  | '\r' :: '\n' :: rest => some rest
  | _ => none

/-- What is left after a comment, if there is one in front. -/
def skipComment : List Char → List Char
  | '#' :: rest => rest.dropWhile isPlain
  | s => s

/-- What is left after the rest of a line on which only blanks and a comment may follow. -/
def lineRest? (s : List Char) : Option (List Char) :=
  match skipComment (skipBlanks s) with
  | [] => some []
  | s => lineEnd? s

/-- What is left after a gap, given whether a comment has begun. -/
def skipGapFrom (inComment : Bool) : List Char → List Char
  | [] => []
  | '\n' :: rest => skipGapFrom false rest
  | '\r' :: '\n' :: rest => skipGapFrom false rest
  | c :: rest =>
    if inComment then
      if isPlain c then skipGapFrom true rest else c :: rest
    else if isBlank c then skipGapFrom false rest
    else if c = '#' then skipGapFrom true rest
    else c :: rest

/-- What is left after a gap. -/
def skipGap (s : List Char) : List Char :=
  skipGapFrom false s

end FindingsDigest.Toml
