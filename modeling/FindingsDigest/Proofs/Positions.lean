/-
# First occurrences by position

What passes the sieve can be told without one: an element of a list passes just if no earlier
position of the list holds it (`firstOccurrences_eq`).  A list without repetitions therefore passes
as it is, numbered from one, and so does what has passed once.

The lines of a report are counted twice when it is told how many of them are repetitions, and the
second count is never the larger one.
-/
import FindingsDigest.Digest
import FindingsDigest.Proofs.Distinct
import Mathlib.Data.List.Nodup

namespace FindingsDigest

section Positions

variable {α : Type}

/-- A position of a list, counted from one, with what it holds. -/
def numbered (xs : List α) (i : Fin xs.length) : ℕ × α :=
  (i + 1, xs[i])

/-- Whether no earlier position holds the same. -/
def IsNewAt (xs : List α) (i : Fin xs.length) : Prop :=
  ∀ j < i, xs[j] ≠ xs[i]

instance [DecidableEq α] (xs : List α) (i : Fin xs.length) : Decidable (IsNewAt xs i) :=
  inferInstanceAs (Decidable (∀ j < i, xs[j] ≠ xs[i]))

lemma isNewAt_iff (xs : List α) (i : Fin xs.length) : IsNewAt xs i ↔ xs[i] ∉ xs.take i := by
  rw [List.mem_take_iff_getElem]
  constructor
  · rintro h ⟨j, hj, heq⟩
    have hlt : j < i := by omega
    exact h ⟨j, by omega⟩ hlt heq
  · intro h j hj heq
    exact h ⟨j, by omega, heq⟩

lemma isNewAt_of_nodup {xs : List α} (h : xs.Nodup) (i : Fin xs.length) : IsNewAt xs i := by
  intro j hj heq
  have hindex : j.val = i.val := (h.getElem_inj_iff).mp heq
  omega

lemma zipIdx_eq_map_finRange (xs : List α) :
    xs.zipIdx = (List.finRange xs.length).map fun i => (xs[i], i.val) := by
  refine List.ext_getElem (by simp) fun i hi _ => ?_
  simp

variable [Ord α] [Std.TransOrd α] [Std.LawfulEqOrd α] [DecidableEq α]

lemma firstOccurrences_eq_zipIdx (xs : List α) :
    firstOccurrences xs =
      (xs.zipIdx.filter fun p => p.1 ∉ xs.take p.2).map fun p => (p.2 + 1, p.1) := by
  induction xs using List.reverseRecOn with
  | nil => rfl
  | append_singleton xs x ih =>
    -- in front of an old position nothing is new
    have hold : xs.zipIdx.filter (fun p => p.1 ∉ (xs ++ [x]).take p.2) =
        xs.zipIdx.filter fun p => p.1 ∉ xs.take p.2 := by
      refine List.filter_congr fun p hp => ?_
      have hlt : p.2 < xs.length := List.snd_lt_of_mem_zipIdx hp
      rw [List.take_append_of_le_length (Nat.le_of_lt hlt)]
    rw [firstOccurrences_concat, ih, List.zipIdx_append, List.filter_append, hold, List.map_append]
    congr 1
    by_cases hx : x ∈ xs <;> simp [hx]

/-- The elements that are new at their position pass, in order. -/
lemma firstOccurrences_eq (xs : List α) :
    firstOccurrences xs = ((List.finRange xs.length).filter (IsNewAt xs ·)).map (numbered xs) := by
  rw [firstOccurrences_eq_zipIdx, zipIdx_eq_map_finRange, List.filter_map, List.map_map]
  refine congrArg _ (List.filter_congr fun i _ => ?_)
  simp only [Function.comp_apply, isNewAt_iff]

lemma firstOccurrences_of_nodup {xs : List α} (h : xs.Nodup) :
    firstOccurrences xs = (List.finRange xs.length).map (numbered xs) := by
  rw [firstOccurrences_eq, List.filter_eq_self.mpr fun i _ => by simpa using isNewAt_of_nodup h i]

lemma length_firstOccurrences_le (xs : List α) : (firstOccurrences xs).length ≤ xs.length := by
  calc
    (firstOccurrences xs).length
      = ((List.finRange xs.length).filter (IsNewAt xs ·)).length := by
        rw [firstOccurrences_eq, List.length_map]
    _ ≤ (List.finRange xs.length).length := List.length_filter_le _ _
    _ = xs.length := List.length_finRange

end Positions

/-- **What passes the sieve.**  Of the lines of a report pass those that are new at their position,
each with this position, in order.  So no text passes twice and none is lost, and not more pass than
there are.  Of a second row of lines pass, further behind, those that pass it alone and are not
among the first; and what has passed once passes again as it is, numbered anew. -/
theorem firstOccurrences_told_by_positions (xs : List String) :
    firstOccurrences xs = ((List.finRange xs.length).filter (IsNewAt xs ·)).map (numbered xs) ∧
      ((firstOccurrences xs).map Prod.snd).Nodup ∧
      (∀ x, x ∈ (firstOccurrences xs).map Prod.snd ↔ x ∈ xs) ∧
      (firstOccurrences xs).length ≤ xs.length ∧
      (∀ path, (Report.mk path xs).repetitions + (Report.mk path xs).distinctLines.length =
        xs.length) ∧
      (∀ ys, firstOccurrences (xs ++ ys) = firstOccurrences xs ++
        ((firstOccurrences ys).filter (·.2 ∉ xs)).map fun p => (p.1 + xs.length, p.2)) ∧
      firstOccurrences ((firstOccurrences xs).map Prod.snd) =
        (List.finRange ((firstOccurrences xs).map Prod.snd).length).map
          (numbered ((firstOccurrences xs).map Prod.snd)) := by
  have htexts : (firstOccurrences xs).map Prod.snd = xs.eraseDups := map_snd_firstOccurrences xs
  have hnodup : ((firstOccurrences xs).map Prod.snd).Nodup := htexts ▸ nodup_eraseDups xs
  have hle : (firstOccurrences xs).length ≤ xs.length := length_firstOccurrences_le xs
  refine ⟨firstOccurrences_eq xs, hnodup, fun x => ?_, hle, fun path => ?_, fun ys => ?_,
    firstOccurrences_of_nodup hnodup⟩
  · rw [htexts, List.mem_eraseDups]
  · exact Nat.sub_add_cancel hle
  · simp only [Nat.add_comm _ xs.length]
    exact firstOccurrences_append xs ys

end FindingsDigest
