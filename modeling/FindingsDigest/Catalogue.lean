/-
# The catalogue of findings

A catalogue holds findings grouped by file.  The groups stand in the order in which their files
were first entered, and each group keeps its findings in the order of entry.  So that a group
is found without a search, the catalogue also keeps the place of every file's group.
-/
import FindingsDigest.Record
import Std.Data.TreeMap

namespace FindingsDigest

/-- The findings of one file. -/
structure Group where
  file : String
  findings : Array Finding
  deriving DecidableEq, Repr

/-- Findings grouped by file, in the order of entry. -/
structure Catalogue where
  /-- The groups, in the order in which their files were first entered. -/
  groups : Array Group := #[]
  /-- The place of each file's group among the groups. -/
  place : Std.TreeMap String Nat := ∅

namespace Catalogue

/-- The catalogue without findings. -/
def empty : Catalogue := {}

/-- Enters a finding at the end of its file's group, which is made if there is none. -/
def push (c : Catalogue) (file : String) (finding : Finding) : Catalogue :=
  match c.place[file]? with
  | some i =>
    { c with groups := c.groups.modify i fun g => { g with findings := g.findings.push finding } }
  | none =>
    { groups := c.groups.push ⟨file, #[finding]⟩
      place := c.place.insert file c.groups.size }

/-- Enters a record. -/
def add (c : Catalogue) (r : Record) : Catalogue :=
  c.push r.file r.finding

/-- The findings of a file, if it has any. -/
def get? (c : Catalogue) (file : String) : Option (List Finding) :=
  c.place[file]?.bind fun i => c.groups[i]?.map (·.findings.toList)

/-- The files with their findings, in the order of entry. -/
def toList (c : Catalogue) : List (String × List Finding) :=
  c.groups.toList.map fun g => (g.file, g.findings.toList)

/-- The number of files. -/
def fileCount (c : Catalogue) : Nat :=
  c.groups.size

/-- The number of findings in all files together. -/
def size (c : Catalogue) : Nat :=
  c.toList.foldr (fun group n => group.2.length + n) 0

/-- Whether there is no file. -/
def isEmpty (c : Catalogue) : Bool :=
  c.groups.isEmpty

/-- Two catalogues are the same if their groups are and each file has the same place. -/
instance : BEq Catalogue :=
  ⟨fun c d => c.groups == d.groups && c.place == d.place⟩

/-! ### Elementary laws -/

@[simp]
theorem toList_empty : toList empty = [] := rfl

@[simp]
theorem size_empty : size empty = 0 := rfl

@[simp]
theorem length_toList (c : Catalogue) : c.toList.length = c.fileCount := by
  simp [toList, fileCount]

end Catalogue

end FindingsDigest
