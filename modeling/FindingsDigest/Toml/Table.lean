/-
# Filling the tables of a TOML document

A path of keys leads from a table through the tables inside it; what is missing on the way is
made.  Who may pass, and what may stand at the end, depends on how the path was written.

A header passes through every table but those in braces, and through an array of tables into
its latest table.  At its end a header opens a new table, or one that was only implied so far;
a header of an array of tables begins the array or adds a table to it.

A dotted key passes through tables that were implied or made by dotted keys.  It binds its last
key in the table it started from or in one made by dotted keys, and only if that key is free.
-/
import FindingsDigest.Toml.Value

namespace FindingsDigest.Toml

namespace Entries

/-- Binds a key that is bound already to another value. -/
def rebind (key : String) (v : Value) (es : Entries) : Entries :=
  es.map fun e => if e.1 = key then (key, v) else e

/-- Binds a key, if it is free. -/
def bind? (key : String) (v : Value) (es : Entries) : Option Entries :=
  match es.lookup key with
  | some _ => none
  | none => some (es ++ [(key, v)])

/-- Changes the table at the end of a path by `act`, which is told how that table came about;
`made` is how tables made on the way come about, and `passes` tells which may be passed. -/
def alter? (made : Origin) (passes : Origin → Bool) (act : Origin → Entries → Option Entries) :
    List String → Origin → Entries → Option Entries
  | [], origin, es => act origin es
  | key :: path, _, es =>
    match es.lookup key with
    | none => do
      let inner ← alter? made passes act path made []
      bind? key (.table made inner) es
    | some (.table origin inner) =>
      if passes origin then do
        let inner ← alter? made passes act path origin inner
        return rebind key (.table origin inner) es
      else none
    | some (.tables latest earlier) => do
      let latest ← alter? made passes act path .header latest
      return rebind key (.tables latest earlier) es
    | some _ => none

/-- Binds the last key of a dotted key. -/
def assign? (path : List String) (key : String) (v : Value) (es : Entries) : Option Entries :=
  alter? .dotted (fun o => o = .implied || o = .dotted)
    (fun origin inner =>
      if path.isEmpty || origin = .dotted then bind? key v inner else none)
    path .header es

/-- Goes to the table that a header path leads to. -/
def descend? (path : List String) (act : Entries → Option Entries) (es : Entries) :
    Option Entries :=
  alter? .implied (· ≠ .braces) (fun _ inner => act inner) path .header es

/-- Opens the table of a header. -/
def open? (path : List String) (key : String) (es : Entries) : Option Entries :=
  descend? path (fun inner =>
    match inner.lookup key with
    | none => bind? key (.table .header []) inner
    | some (.table .implied entries) => some (rebind key (.table .header entries) inner)
    | some _ => none) es

/-- Opens the next table of the array of tables of a header. -/
def openNext? (path : List String) (key : String) (es : Entries) : Option Entries :=
  descend? path (fun inner =>
    match inner.lookup key with
    | none => bind? key (.tables [] []) inner
    | some (.tables latest earlier) => some (rebind key (.tables [] (latest :: earlier)) inner)
    | some _ => none) es

end Entries

end FindingsDigest.Toml
