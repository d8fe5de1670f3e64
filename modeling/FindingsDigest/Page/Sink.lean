/-
# Writing a page where room is short

A sink takes bytes until it is full.  A write that goes past its room is taken in part, and a
write to a full sink takes nothing; to write a piece means to go on until all of its bytes are
taken, and to give up as soon as a write takes none of them.  A page is written piece by piece,
so what a full sink holds is the beginning of the page, wherever the cut falls.

The codes that draw the roles are left open: a palette gives any codes to each role.  The program
has two of them, one with the codes of `Role.opening` and `Role.closing` and one without any.

Pages are written here as they are given; that a page may be too wide to be made is the matter of
`Sink.render`.
-/
import FindingsDigest.Page

namespace FindingsDigest

/-- The codes that stand in front of and behind the colored pieces of each role. -/
structure Palette where
  before : Role → String
  behind : Role → String

namespace Palette

/-- The palette of the program, with colors or without. -/
def ofColor : Bool → Palette
  | true => ⟨Role.opening, fun _ => Role.closing⟩
  | false => ⟨fun _ => "", fun _ => ""⟩

/-- The characters of a piece. -/
def chars (p : Palette) : Piece → List Char
  | .colored role text => (p.before role).toList ++ text.toList ++ (p.behind role).toList
  | .blanks count => List.replicate count ' '
  | .lineEnd => ['\n']

/-- The bytes of a piece, in UTF-8. -/
def bytes (p : Palette) (piece : Piece) : List UInt8 :=
  (p.chars piece).flatMap String.utf8EncodeChar

/-- A page as one string. -/
def text (p : Palette) (page : Page) : String :=
  String.ofList (page.flatMap p.chars)

end Palette

/-- A place to write to that takes a limited number of bytes. -/
structure Sink where
  /-- How many bytes can still be taken. -/
  room : Nat
  /-- The bytes taken so far. -/
  taken : Array UInt8 := #[]
  deriving DecidableEq, Repr

/-- A sink that was full before all was written. -/
structure Sink.Full where
  /-- The bytes that had been taken by then. -/
  taken : Array UInt8
  deriving DecidableEq, Repr

namespace Sink

/-- The text of the error that a full sink gives. -/
def Full.message (_ : Full) : String :=
  "failed to write whole buffer"

/-- Offers bytes once; the answer tells how many were taken. -/
def offer (s : Sink) (bytes : List UInt8) : Nat × Sink :=
  let n := min s.room bytes.length
  (n, ⟨s.room - n, s.taken ++ bytes.take n⟩)

/-- Offers bytes until all are taken, or none of those that are left. -/
def write (s : Sink) (bytes : List UInt8) : Except Full Sink :=
  match bytes with
  | [] => .ok s
  | b :: rest =>
    if _h : (s.offer (b :: rest)).1 = 0 then .error ⟨(s.offer (b :: rest)).2.taken⟩
    else (s.offer (b :: rest)).2.write ((b :: rest).drop (s.offer (b :: rest)).1)
termination_by bytes.length
decreasing_by
  simp only [List.length_drop, List.length_cons]
  omega

/-- Writes a page piece by piece, drawn with a palette. -/
def writePage (p : Palette) (s : Sink) (page : Page) : Except Full Sink :=
  page.foldlM (fun s piece => s.write (p.bytes piece)) s

end Sink

end FindingsDigest
