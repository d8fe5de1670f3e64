/-
# TOML documents

A document is read line by line, though a value may reach over several lines.  A line binds a
key, opens a table by a header in brackets, opens the next table of an array by a header in
double brackets, or is blank.  A byte order mark in front is ignored.

What the lines say is collected first, as statements, and then carried out in order on the
table of the whole document: bindings go into the table that the latest header opened.
-/
import FindingsDigest.Toml.Expression

namespace FindingsDigest.Toml

/-- What a line of a document says. -/
inductive Statement where
  /-- Bind a dotted key: the keys before the last, the last, and the value. -/
  | binding (path : List String) (key : String) (value : Value)
  /-- Open a table. -/
  | header (path : List String) (key : String)
  /-- Open the next table of an array. -/
  | nextHeader (path : List String) (key : String)
  deriving Repr

/-- Reads a header after its opening bracket, without the rest of its line. -/
def header? (s : List Char) : Option (Statement × List Char) :=
  match s with
  | '[' :: s => do
    let ((path, key), rest) ← dottedKey? (skipBlanks s)
    match rest with
    | ']' :: ']' :: rest => return (.nextHeader path key, rest)
    | _ => none
  | _ => do
    let ((path, key), rest) ← dottedKey? (skipBlanks s)
    match rest with
    | ']' :: rest => return (.header path key, rest)
    | _ => none

/-- Reads a binding, without the rest of its line. -/
def binding? (s : List Char) : Option (Statement × List Char) := do
  let ((path, key), rest) ← dottedKey? s
  match rest with
  | '=' :: rest =>
    let (v, rest) ← value? (skipBlanks rest)
    return (.binding path key v, rest)
  | _ => none

/-- Reads one line, which says at most one thing. -/
def line? (s : List Char) : Option (List Statement × List Char) :=
  match lineRest? s with
  | some rest => some ([], rest)
  | none => do
    let (statement, rest) ←
      match skipBlanks s with
      | '[' :: s => header? s
      | s => binding? s
    return ([statement], ← lineRest? rest)

/-- Reads all lines in at most `rounds` rounds. -/
def statementsIn? : (rounds : Nat) → List Char → Option (List Statement)
  | _, [] => some []
  | 0, _ => none
  | n + 1, s => do
    let (statements, rest) ← line? s
    return statements ++ (← statementsIn? n rest)

/-- The statements of a document. -/
def statements? (text : List Char) : Option (List Statement) :=
  match text with
  | '\ufeff' :: s => statementsIn? s.length s
  | s => statementsIn? s.length s

/-- The table of a document and the path of the latest header, while statements are
carried out. -/
structure Filling where
  root : Entries := []
  /-- The keys that lead to the table that the latest header opened. -/
  place : List String := []

/-- Carries out one statement. -/
def Filling.carryOut? (f : Filling) : Statement → Option Filling
  | .binding path key v => do
    return { f with root := ← f.root.descend? f.place (Entries.assign? path key v) }
  | .header path key => return ⟨← f.root.open? path key, path ++ [key]⟩
  | .nextHeader path key => return ⟨← f.root.openNext? path key, path ++ [key]⟩

/-- The table that a row of statements fills. -/
def fill? (statements : List Statement) : Option Entries :=
  (statements.foldlM Filling.carryOut? {}).map (·.root)

/-- The table of a document, if it is valid. -/
def document? (text : List Char) : Option Entries :=
  (statements? text).bind fill?

end FindingsDigest.Toml
