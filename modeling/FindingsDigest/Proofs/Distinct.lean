/-
# What passes the sieve

After it has looked at a list, the sieve has seen exactly the elements of the list and stands
at the position behind it.  So the sieve lets one more element pass if and only if the element
is new, which says how `firstOccurrences` grows with the list; what it does to two lists one
after the other, and to a list that is cut at a new element, follows.
-/
import FindingsDigest.Distinct
import FindingsDigest.Proofs.FirstSeen
import Std.Data.TreeSet.Lemmas

namespace FindingsDigest

variable {α : Type} [Ord α] [Std.TransOrd α] [Std.LawfulEqOrd α]

namespace Sieve

/-- What the sieve knows when it has looked at a list. -/
structure After (s : Sieve α) (xs : List α) : Prop where
  contains_seen : ∀ x, s.seen.contains x = true ↔ x ∈ xs
  position_eq : s.position = xs.length + 1

omit [Std.TransOrd α] [Std.LawfulEqOrd α] in
lemma after_nil : (({} : Sieve α)).After [] where
  contains_seen x := by simp
  position_eq := rfl

lemma After.step {s : Sieve α} {xs : List α} (h : s.After xs) (x : α) :
    (s.step x).After (xs ++ [x]) := by
  unfold Sieve.step
  split
  · next hx =>
    -- nothing is added to what was seen, since `x` is among it
    refine ⟨fun y => ?_, by simp [h.position_eq]⟩
    rw [List.mem_append, List.mem_singleton, h.contains_seen]
    constructor
    · exact Or.inl
    · rintro (hy | rfl)
      · exact hy
      · exact (h.contains_seen _).mp hx
  · refine ⟨fun y => ?_, by simp [h.position_eq]⟩
    rw [Std.TreeSet.contains_insert, Bool.or_eq_true, beq_iff_eq, Std.LawfulEqOrd.compare_eq_iff_eq,
      h.contains_seen, List.mem_append, List.mem_singleton, or_comm, eq_comm]

/-- The invariant of a whole run of the sieve. -/
lemma after_foldl_step (xs : List α) : (xs.foldl Sieve.step {}).After xs := by
  induction xs using List.reverseRecOn with
  | nil => exact after_nil
  | append_singleton xs x ih =>
    rw [List.foldl_append]
    exact ih.step x

end Sieve

/-! ### The laws of first occurrences -/

omit [Std.TransOrd α] [Std.LawfulEqOrd α] in
@[simp]
lemma firstOccurrences_nil : firstOccurrences ([] : List α) = [] := rfl

variable [DecidableEq α]

/-- A new element passes at the end, an old one does not. -/
lemma firstOccurrences_concat (xs : List α) (x : α) :
    firstOccurrences (xs ++ [x]) =
      firstOccurrences xs ++ if x ∈ xs then [] else [(xs.length + 1, x)] := by
  have h := Sieve.after_foldl_step xs
  unfold firstOccurrences
  rw [List.foldl_append, List.foldl_cons, List.foldl_nil, Sieve.step]
  by_cases hx : x ∈ xs
  · rw [if_pos ((h.contains_seen x).mpr hx), if_pos hx, List.append_nil]
  · rw [if_neg fun hc => hx ((h.contains_seen x).mp hc), if_neg hx, List.reverse_cons,
      h.position_eq]

/-- What passes is the list in the order of first sight. -/
lemma map_snd_firstOccurrences (xs : List α) :
    (firstOccurrences xs).map Prod.snd = xs.eraseDups := by
  induction xs using List.reverseRecOn with
  | nil => rfl
  | append_singleton xs x ih =>
    rw [firstOccurrences_concat, eraseDups_concat, List.map_append, ih]
    split <;> rfl

lemma mem_of_mem_firstOccurrences {xs : List α} {p : ℕ × α} (hp : p ∈ firstOccurrences xs) :
    p.2 ∈ xs := by
  rw [← List.mem_eraseDups, ← map_snd_firstOccurrences]
  exact List.mem_map_of_mem hp

/-- Of a second list, what did not occur in the first passes, further behind. -/
lemma firstOccurrences_append (xs ys : List α) :
    firstOccurrences (xs ++ ys) = firstOccurrences xs ++
      ((firstOccurrences ys).filter (·.2 ∉ xs)).map fun p => (xs.length + p.1, p.2) := by
  induction ys using List.reverseRecOn with
  | nil => simp
  | append_singleton ys y ih =>
    rw [← List.append_assoc, firstOccurrences_concat, firstOccurrences_concat, ih,
      List.filter_append, List.map_append, List.append_assoc]
    congr 2
    -- the last element passes unless it is in one of the two lists
    by_cases hxs : y ∈ xs <;> by_cases hys : y ∈ ys <;> simp [hxs, hys, Nat.add_assoc]

/-- An element that did not occur before passes with its own position. -/
lemma exists_firstOccurrences_append_cons {xs : List α} {x : α} (hx : x ∉ xs) (ys : List α) :
    ∃ rest, firstOccurrences (xs ++ x :: ys) =
      firstOccurrences xs ++ (xs.length + 1, x) :: rest := by
  rw [List.append_cons, firstOccurrences_append, firstOccurrences_concat, if_neg hx,
    List.append_assoc]
  exact ⟨_, rfl⟩

end FindingsDigest
