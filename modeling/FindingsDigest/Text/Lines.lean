/-
# The lines of a text

A line ends at a line feed, at a carriage return, or at a carriage return directly followed by
a line feed, which counts as one ending.  A last line without an ending is a line if it holds
at least one character; so the empty text has no lines, and an ending at the very end of a
text opens no further line.

`lines` reads the text once from left to right, one character at a time.  A line is closed as
soon as its carriage return is seen, and a line feed that comes right after it is dropped, so
no character has to be looked at twice.
-/

namespace FindingsDigest.Text

/-- Where the reading of lines stands between two characters. -/
structure LineScan where
  /-- The lines that have ended, the latest first. -/
  closed : List (List Char) := []
  /-- The characters of the open line, the latest first. -/
  line : List Char := []
  /-- Whether the latest character was a carriage return. -/
  afterReturn : Bool := false
  deriving DecidableEq, Repr

namespace LineScan

/-- Ends the open line. -/
def close (s : LineScan) (afterReturn : Bool) : LineScan :=
  ⟨s.line.reverse :: s.closed, [], afterReturn⟩

/-- Reads one character. -/
def step (s : LineScan) (c : Char) : LineScan :=
  if c = '\r' then s.close true
  else if c = '\n' then
    if s.afterReturn then { s with afterReturn := false } else s.close false
  else ⟨s.closed, c :: s.line, false⟩

/-- The lines read so far, the open one too if it holds a character. -/
def lines (s : LineScan) : List (List Char) :=
  (if s.line.isEmpty then s.closed else s.line.reverse :: s.closed).reverse

end LineScan

/-- The lines of a text, without their endings. -/
def lines (text : List Char) : List (List Char) :=
  (text.foldl LineScan.step {}).lines

/-- The lines of a string, without their endings. -/
def linesOf (text : String) : List String :=
  (lines text.toList).map String.ofList

/-! ### Elementary laws -/

@[simp]
theorem lines_nil : lines [] = [] := rfl

/-- Closed lines only wait to be put in front of what follows. -/
theorem LineScan.foldl_step_closed (older : List (List Char)) (s : LineScan) (text : List Char) :
    text.foldl step { s with closed := s.closed ++ older } =
      { text.foldl step s with closed := (text.foldl step s).closed ++ older } := by
  induction text generalizing s with
  | nil => rfl
  | cons c rest ih =>
    have hstep : step { s with closed := s.closed ++ older } c =
        { step s c with closed := (step s c).closed ++ older } := by
      unfold step close
      split
      · rfl
      · split
        · split <;> rfl
        · rfl
    rw [List.foldl_cons, List.foldl_cons, hstep, ih]

end FindingsDigest.Text
