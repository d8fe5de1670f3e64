/-
# First occurrences

A list is sieved once from left to right: an element passes if it has not been seen before,
and it takes along its position, counted from one.  Two elements are the same only if they
compare as equal, so texts that differ in a trailing blank both pass.
-/
import Std.Data.TreeSet

namespace FindingsDigest

/-- Where the sieving of a list stands between two elements. -/
structure Sieve (α : Type) [Ord α] where
  /-- The elements that have passed. -/
  seen : Std.TreeSet α := ∅
  /-- The position of the next element. -/
  position : Nat := 1
  /-- What has passed with its positions, the latest first. -/
  passed : List (Nat × α) := []

namespace Sieve

variable {α : Type} [Ord α]

/-- Lets one element pass, or holds it back. -/
def step (s : Sieve α) (x : α) : Sieve α :=
  if s.seen.contains x then { s with position := s.position + 1 }
  else ⟨s.seen.insert x, s.position + 1, (s.position, x) :: s.passed⟩

end Sieve

/-- The first occurrence of each element of a list, in order, with its position from one. -/
def firstOccurrences {α : Type} [Ord α] (xs : List α) : List (Nat × α) :=
  (xs.foldl Sieve.step {}).passed.reverse

end FindingsDigest
