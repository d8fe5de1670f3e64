/-
# Trees of files

A tree holds files, directories and symbolic links, each at its location: the row of names that
leads to it from the root.  The root itself is a directory.

A path is resolved name by name.  The point stays, the double point goes to the directory above
(the root is above itself), any other name goes to the entry of that name; only directories can
be left by a further name, and a slash at the end of a path asks for a directory too.  A link is
replaced by the path it holds, read from the directory that the link is in; after 40 links a
path is given up.  So the number of links still allowed bounds the recursion, and between two
links the names that are left.

To look up what a path leads to, only the path itself has to be short enough, however deep the
way goes.  The absolute path without links is found by asking for each location on the way by
its own absolute path, so each of these has to be short enough as well.
-/
import FindingsDigest.Path

namespace FindingsDigest

/-- Why a file could not be read. -/
inductive Fault where
  /-- The system refused, with a description and its number. -/
  | refused (description : String) (number : Nat)
  /-- The path holds a NUL. -/
  | nulInPath
  /-- The bytes of the file are not UTF-8. -/
  | notText
  deriving DecidableEq, Repr

namespace Fault

/-- A name on the path has no entry. -/
def notFound : Fault := refused "No such file or directory" 2

/-- A further name follows an entry that is no directory. -/
def notDirectory : Fault := refused "Not a directory" 20

/-- The path leads to a directory where a file is wanted. -/
def isDirectory : Fault := refused "Is a directory" 21

/-- A name or the whole path has too many bytes. -/
def nameTooLong : Fault := refused "File name too long" 36

/-- There are too many links on the way. -/
def tooManyLinks : Fault := refused "Too many levels of symbolic links" 40

/-- One line of text that tells the fault. -/
def message : Fault → String
  | refused description number => description ++ " (os error " ++ toString number ++ ")"
  | nulInPath => "file name contained an unexpected NUL byte"
  | notText => "stream did not contain valid UTF-8"

end Fault

/-- What is found at a location. -/
inductive Entry where
  | file (bytes : ByteArray)
  | directory
  /-- A link, with the path it holds. -/
  | link (target : String)

/-- The row of names that leads from the root to an entry. -/
abbrev Location := List String

/-- The entries of a tree, each with its location; of two at one location the first counts. -/
structure FileTree where
  entries : List (Location × Entry) := []

namespace FileTree

/-- The entry at a location. -/
def entry? (t : FileTree) (l : Location) : Option Entry :=
  if l = [] then some .directory else t.entries.lookup l

/-- How many links are followed on the way along one path. -/
def mostLinks : Nat := 40

/-- How many bytes a name may have. -/
def longestName : Nat := 255

/-- How many bytes a path may have. -/
def longestPath : Nat := 4095

/-- The names along a path; a slash at its end counts as a point. -/
def steps (path : String) : List String :=
  let names := (path.toList.splitOn '/').map String.ofList
  names.filter (· ≠ "") ++ if path.toList.getLast? = some '/' then ["."] else []

/-- Where a path is read from: the root if it begins with a slash, else the given directory. -/
def origin (here : Location) (path : String) : Location :=
  if path.toList.head? = some '/' then [] else here

/-- Follows names from a location, with a number of links still allowed; `fits` tells which
locations may be met on the way. -/
def follow (t : FileTree) (fits : Location → Bool) (links : Nat) (here : Location)
    (names : List String) : Except Fault Location :=
  match names with
  | [] => .ok here
  | name :: rest =>
    match t.entry? here with
    | some .directory =>
      if name = "." then t.follow fits links here rest
      else if name = ".." then t.follow fits links here.dropLast rest
      else if longestName < name.utf8ByteSize || !fits (here ++ [name]) then .error .nameTooLong
      else
        match t.entry? (here ++ [name]) with
        | none => .error .notFound
        | some (.link target) =>
          match links with
          | 0 => .error .tooManyLinks
          | links + 1 => t.follow fits links (origin here target) (steps target ++ rest)
        | some _ => t.follow fits links (here ++ [name]) rest
    | _ => .error .notDirectory
termination_by (links, names.length)

/-- Where a path leads, read from a directory, if all locations on the way fit. -/
def resolveWithin (t : FileTree) (fits : Location → Bool) (here : Location) (path : String) :
    Except Fault Location :=
  if path = "" then .error .notFound
  else if path.toList.contains '\x00' then .error .nulInPath
  else t.follow fits mostLinks (origin here path) (steps path)

/-- Where a path leads, read from a directory. -/
def resolve (t : FileTree) (here : Location) (path : String) : Except Fault Location :=
  t.resolveWithin (fun _ => true) here path

/-- The path of a location from the root. -/
def absolutePath (l : Location) : String :=
  "/" ++ "/".intercalate l

/-- Whether a location can be asked for by its path from the root. -/
def isAskable (l : Location) : Bool :=
  (absolutePath l).utf8ByteSize ≤ longestPath

/-- Puts an entry at the end of a row of names, with a number of links still allowed. -/
def putAlong (t : FileTree) (e : Entry) (links : Nat) (here : Location) (names : List String) :
    FileTree :=
  match names with
  | [] => t
  | name :: rest =>
    if name = "." then t.putAlong e links here rest
    else if name = ".." then t.putAlong e links here.dropLast rest
    else
      match t.entry? (here ++ [name]) with
      | some (.link target) =>
        match links with
        | 0 => t
        | links + 1 => t.putAlong e links (origin here target) (steps target ++ rest)
      | some .directory => t.putAlong e links (here ++ [name]) rest
      | _ =>
        if rest.isEmpty then ⟨(here ++ [name], e) :: t.entries⟩
        else
          putAlong ⟨(here ++ [name], .directory) :: t.entries⟩ e links (here ++ [name]) rest
termination_by (links, names.length)

/-- Puts an entry at a path, and the directories that are missing on the way; links on the way
and at the end are followed. -/
def put (t : FileTree) (here : Location) (path : String) (e : Entry) : FileTree :=
  t.putAlong e mostLinks (origin here path) (steps path)

end FileTree

/-- A tree together with the working directory, and with the words of the TOML reader, which are
not told here. -/
structure Disk where
  tree : FileTree
  here : Location
  /-- What the TOML reader says of a text that gives no settings. -/
  refusal : String → String

namespace Disk

/-- The absolute path without links that leads to the same entry as a path. -/
def canonical? (d : Disk) (path : String) : Option String :=
  (d.tree.resolveWithin FileTree.isAskable d.here path).toOption.map FileTree.absolutePath

/-- Looks up what a path leads to. -/
def lookUp (d : Disk) (path : String) : Except Fault Entry :=
  if path.toList.contains '\x00' then .error .nulInPath
  else if FileTree.longestPath < path.utf8ByteSize then .error .nameTooLong
  else do
    match d.tree.entry? (← d.tree.resolve d.here path) with
    | some e => return e
    | none => .error .notFound

/-- Whether a path leads to a file. -/
def isFile (d : Disk) (path : String) : Bool :=
  match d.lookUp path with
  | .ok (.file _) => true
  | _ => false

/-- Reads the text of the file that a path leads to. -/
def read (d : Disk) (path : String) : Except Fault String := do
  match ← d.lookUp path with
  | .file bytes =>
    match String.fromUTF8? bytes with
    | some text => return text
    | none => .error .notText
  | _ => .error .isDirectory

end Disk

end FindingsDigest
