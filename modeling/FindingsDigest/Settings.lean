/-
# Settings of the printed page

Two things about the page can be set: whether it has colors, and how wide the column of file
names is.  A settings file is a TOML document whose table `output` binds `color` to a boolean
and `column_width` to an integer of at most 64 bits without sign; either may be missing, and
everything else in the document is ignored, as long as it is valid.

The two may also be given by position, as the first two items of an array; items after them are
not looked at, so nothing is asked of the numbers there.  A date stands for a table without any
key.
-/
import FindingsDigest.Toml.Document

namespace FindingsDigest

/-- How the page is to look. -/
structure Settings where
  /-- Whether the page has colors. -/
  color : Bool := true
  /-- The width of the column of file names. -/
  columnWidth : Nat := 75
  deriving DecidableEq, Repr

namespace Settings

open Toml (Value Entries)

/-- Reads a boolean; where there is none, the fallback is taken. -/
def boolean? (fallback : Bool) : Option Value → Option Bool
  | none => some fallback
  | some (.boolean b) => some b
  | some _ => none

/-- Reads an integer that 64 bits without sign can hold; where there is none, the fallback is
taken. -/
def width? (fallback : Nat) : Option Value → Option Nat
  | none => some fallback
  | some (.integer n) => if 0 ≤ n && n < UInt64.size then some n.toNat else none
  | some _ => none

/-- The settings that two optional values give. -/
def ofValues? (color columnWidth : Option Value) : Option Settings := do
  return ⟨← boolean? ({} : Settings).color color, ← width? ({} : Settings).columnWidth columnWidth⟩

/-- The settings in the value of `output`. -/
def ofOutput? : Value → Option Settings
  | .table _ es => do
    if Toml.entriesRepresentable es then
      ofValues? (es.lookup "color") (es.lookup "column_width")
    else none
  | .array items => ofValues? items[0]? items[1]?
  | .moment => some {}
  | _ => none

/-- The settings in the table of a document. -/
def ofEntries? (es : Entries) : Option Settings :=
  if Toml.entriesRepresentable (es.filter (·.1 ≠ "output")) then
    match es.lookup "output" with
    | none => some {}
    | some v => ofOutput? v
  else none

/-- The settings in the text of a settings file. -/
def ofText? (text : String) : Option Settings :=
  (Toml.document? text.toList).bind ofEntries?

end Settings

end FindingsDigest
