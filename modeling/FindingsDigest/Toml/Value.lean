/-
# Values of a TOML document

A document is a table, and a table binds keys to values.  A table remembers how it came about,
because that decides who may add to it later: a table in braces is complete, a table opened by
a header is filled below that header only, a table that a longer header implies may still be
opened by its own header, and a table made by a dotted key is filled by further dotted keys.

Numbers are kept exactly.  Whether a machine can hold one is a question of its own, and so is
answered apart (`Value.representable`): an integer must fit into 128 bits, signed or unsigned,
and a finite decimal must not be so large that the nearest double is infinite.  A misspelt
integer stands for no number at all, so none can be held for it.
-/

namespace FindingsDigest.Toml

/-- A number in floating point notation. -/
inductive Decimal where
  /-- Infinity with either sign. -/
  | infinite
  /-- Not a number. -/
  | undefined
  /-- The number `± digits * 10 ^ exponent`. -/
  | finite (negative : Bool) (digits : Nat) (exponent : Int)
  deriving DecidableEq, Repr

/-- How a table came about. -/
inductive Origin where
  /-- It was written in braces. -/
  | braces
  /-- A header opened it. -/
  | header
  /-- A header of a table inside it implied it. -/
  | implied
  /-- A dotted key made it. -/
  | dotted
  deriving DecidableEq, Repr

/-- A value of a document. -/
inductive Value where
  | boolean (b : Bool)
  | integer (n : Int)
  /-- A word that begins as an integer does but does not go on as one. -/
  | misspelt
  | decimal (d : Decimal)
  | text (s : String)
  /-- A date, a time of day, or both. -/
  | moment
  /-- An array in brackets. -/
  | array (items : List Value)
  /-- An array of tables with a header each: the latest table, and the earlier ones. -/
  | tables (latest : List (String × Value)) (earlier : List (List (String × Value)))
  | table (origin : Origin) (entries : List (String × Value))
  deriving Repr

/-- The bindings of a table, in the order in which the keys were first seen. -/
abbrev Entries := List (String × Value)

/-- The least number whose nearest double is infinite. -/
def doubleLimit : Nat := Nat.pow 2 1024 - Nat.pow 2 970

/-- Whether the nearest double of a number is infinite though the number is not.  The number of
places before the point decides in all but the close cases. -/
def Decimal.overflows : Decimal → Bool
  | infinite => false
  | undefined => false
  | finite _ digits exponent =>
    let places := (Nat.toDigits 10 digits).length + exponent
    if digits = 0 || places < 300 then false
    else if 310 < places then true
    else if 0 ≤ exponent then decide (doubleLimit ≤ digits * Nat.pow 10 exponent.toNat)
    else decide (doubleLimit * Nat.pow 10 (-exponent).toNat ≤ digits)

mutual

/-- Whether all numbers in a value can be held. -/
def Value.representable : Value → Bool
  | .integer n => decide (-Int.pow 2 127 ≤ n) && decide (n < Int.pow 2 128)
  | .misspelt => false
  | .decimal d => !d.overflows
  | .array items => allRepresentable items
  | .tables latest earlier => entriesRepresentable latest && tablesRepresentable earlier
  | .table _ entries => entriesRepresentable entries
  | _ => true

/-- `Value.representable` for each of several values. -/
def allRepresentable : List Value → Bool
  | [] => true
  | v :: vs => v.representable && allRepresentable vs

/-- `Value.representable` for each value of a table. -/
def entriesRepresentable : List (String × Value) → Bool
  | [] => true
  | (_, v) :: es => v.representable && entriesRepresentable es

/-- `Value.representable` for each value of several tables. -/
def tablesRepresentable : List (List (String × Value)) → Bool
  | [] => true
  | es :: ts => entriesRepresentable es && tablesRepresentable ts

end

end FindingsDigest.Toml
