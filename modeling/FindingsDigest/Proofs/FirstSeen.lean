/-
# Lists in the order of first sight

`xs.eraseDups` lists the elements of `xs` in the order in which they are first seen.  This file
collects what the digest of a report needs to know about that order: how it grows with the
list, that it goes by the first index, that it may be taken before or after a map, and when it
does not show an exchange of two neighbours.

The last section is about groups.  If the elements of a list are put into groups by a key, and
the groups are written one after another in the order of a rank of their keys, then the result
is the list sorted by that rank, and the sort is stable.  No group is lost in it.
-/
import Mathlib.Data.List.Basic
import Mathlib.Data.List.Induction

namespace FindingsDigest

variable {α β : Type}

/-! ### How the order grows -/

section Order

variable [BEq α] [LawfulBEq α]

/-- A new element goes to the end, an old one changes nothing. -/
lemma eraseDups_concat (xs : List α) (x : α) :
    (xs ++ [x]).eraseDups = xs.eraseDups ++ if x ∈ xs then [] else [x] := by
  rw [List.eraseDups_append]
  split <;> simp_all [List.removeAll, List.eraseDups_cons]

/-- The order of first sight is the order of the first indices. -/
lemma pairwise_idxOf_eraseDups (xs : List α) :
    xs.eraseDups.Pairwise fun a b => xs.idxOf a < xs.idxOf b := by
  induction xs using List.reverseRecOn with
  | nil => exact List.Pairwise.nil
  | append_singleton xs x ih =>
    have hold : xs.eraseDups.Pairwise fun a b =>
        (xs ++ [x]).idxOf a < (xs ++ [x]).idxOf b := by
      refine ih.imp_of_mem fun ha hb hab => ?_
      rw [List.mem_eraseDups] at ha hb
      rwa [List.idxOf_append_of_mem ha, List.idxOf_append_of_mem hb]
    rw [eraseDups_concat]
    split
    · rwa [List.append_nil]
    · next hx =>
      -- a new element has the last index, which is greater than all others
      refine List.pairwise_append.mpr ⟨hold, List.pairwise_singleton _ _, fun a ha b hb => ?_⟩
      rw [List.mem_eraseDups] at ha
      rw [List.mem_singleton.mp hb, List.idxOf_append_of_mem ha, List.idxOf_append_of_notMem hx]
      have := List.idxOf_lt_length_of_mem ha
      omega

lemma nodup_eraseDups (xs : List α) : xs.eraseDups.Nodup :=
  (pairwise_idxOf_eraseDups xs).imp fun h heq => by simp [heq] at h

/-- A repeated element shows no new image. -/
lemma eraseDups_map_eraseDups [BEq β] [LawfulBEq β] (f : α → β) (xs : List α) :
    (xs.eraseDups.map f).eraseDups = (xs.map f).eraseDups := by
  induction xs using List.reverseRecOn with
  | nil => rfl
  | append_singleton xs x ih =>
    rw [eraseDups_concat, List.map_append, List.map_append, List.map_singleton, eraseDups_concat,
      ← ih]
    split
    · next hx =>
      rw [if_pos (List.mem_map_of_mem hx), List.map_nil, List.append_nil, List.append_nil]
    · have hmem : f x ∈ xs.eraseDups.map f ↔ f x ∈ xs.map f := by
        simp only [List.mem_map, List.mem_eraseDups]
      rw [List.map_singleton, eraseDups_concat, if_congr hmem rfl rfl]

lemma eraseDups_eraseDups (xs : List α) : xs.eraseDups.eraseDups = xs.eraseDups := by
  have := eraseDups_map_eraseDups id xs
  rwa [List.map_id, List.map_id] at this

/-- If different elements have different images, the images are seen in the order of the
elements. -/
lemma eraseDups_map [BEq β] [LawfulBEq β] {f : α → β} {xs : List α}
    (hf : ∀ x ∈ xs, ∀ y ∈ xs, f x = f y → x = y) : (xs.map f).eraseDups = xs.eraseDups.map f := by
  induction xs using List.reverseRecOn with
  | nil => rfl
  | append_singleton xs x ih =>
    have hold : ∀ a ∈ xs, ∀ b ∈ xs, f a = f b → a = b := by
      intro a ha b hb
      exact hf a (List.mem_append_left _ ha) b (List.mem_append_left _ hb)
    have hmem : f x ∈ xs.map f ↔ x ∈ xs := by
      constructor
      · intro h
        obtain ⟨y, hy, hxy⟩ := List.mem_map.mp h
        have : y = x := hf y (List.mem_append_left _ hy) x (by simp) hxy
        rwa [← this]
      · exact List.mem_map_of_mem
    rw [List.map_append, List.map_singleton, eraseDups_concat, eraseDups_concat, List.map_append,
      ih hold, if_congr hmem rfl rfl]
    split <;> rfl

/-- What is left out is not seen, and the rest is seen in the same order. -/
lemma filter_eraseDups (p : α → Bool) (xs : List α) :
    xs.eraseDups.filter p = (xs.filter p).eraseDups := by
  induction xs using List.reverseRecOn with
  | nil => rfl
  | append_singleton xs x ih =>
    rw [eraseDups_concat, List.filter_append, List.filter_append, ih]
    cases hp : p x with
    | false => split <;> simp [hp]
    | true =>
      have hmem : x ∈ xs.filter p ↔ x ∈ xs := by simp [hp]
      rw [List.filter_singleton, hp, cond_true, eraseDups_concat, if_congr hmem rfl rfl]
      split <;> simp [hp]

/-- In another order the same elements are seen. -/
lemma eraseDups_perm {xs ys : List α} (h : xs.Perm ys) : xs.eraseDups.Perm ys.eraseDups := by
  refine (List.perm_ext_iff_of_nodup (nodup_eraseDups xs) (nodup_eraseDups ys)).mpr fun x => ?_
  rw [List.mem_eraseDups, List.mem_eraseDups, h.mem_iff]

omit [BEq α] [LawfulBEq α] in
lemma mem_insert_old {x : α} {l : List α} (hx : x ∈ l) (m : List α) (y : α) :
    y ∈ l ++ x :: m ↔ y ∈ l ++ m := by
  simp only [List.mem_append, List.mem_cons]
  constructor
  · rintro (hy | rfl | hy)
    · exact Or.inl hy
    · exact Or.inl hx
    · exact Or.inr hy
  · rintro (hy | hy)
    · exact Or.inl hy
    · exact Or.inr (Or.inr hy)

/-- A repetition is not seen. -/
lemma eraseDups_insert_old {x : α} {l : List α} (hx : x ∈ l) (m : List α) :
    (l ++ x :: m).eraseDups = (l ++ m).eraseDups := by
  have hdrop : (x :: m).removeAll l = m.removeAll l := by simp [List.removeAll, hx]
  rw [List.eraseDups_append, List.eraseDups_append, hdrop]

/-- A row of different elements, each repeated in its place, is seen as this row. -/
lemma eraseDups_flatMap {ks : List α} (hks : ks.Nodup) {g : α → List α}
    (hne : ∀ k ∈ ks, g k ≠ []) (hg : ∀ k ∈ ks, ∀ x ∈ g k, x = k) :
    (ks.flatMap g).eraseDups = ks := by
  induction ks with
  | nil => rfl
  | cons k ks ih =>
    rw [List.nodup_cons] at hks
    have hk := hg k List.mem_cons_self
    have hrest : ∀ j ∈ ks, ∀ x ∈ g j, x = j := fun j hj => hg j (List.mem_cons_of_mem k hj)
    -- the copies of `k` are seen once, and none of them comes up later
    have hfirst : (g k).eraseDups = [k] := by
      rcases hgk : g k with _ | ⟨x, xs⟩
      · exact absurd hgk (hne k List.mem_cons_self)
      · obtain rfl : x = k := hk x (hgk ▸ List.mem_cons_self)
        have hxs : xs.filter (fun y => !y == x) = [] := by
          refine List.filter_eq_nil_iff.mpr fun y hy => ?_
          simp [hk y (hgk ▸ List.mem_cons_of_mem x hy)]
        rw [List.eraseDups_cons, hxs, List.eraseDups_nil]
    have hlater : (ks.flatMap g).removeAll (g k) = ks.flatMap g := by
      refine List.filter_eq_self.mpr fun x hx => ?_
      obtain ⟨j, hj, hxj⟩ := List.mem_flatMap.mp hx
      have hxk : x ∉ g k := fun hmem => hks.1 (hk x hmem ▸ hrest j hj x hxj ▸ hj)
      simpa using hxk
    rw [List.flatMap_cons, List.eraseDups_append, hfirst, hlater,
      ih hks.2 (fun j hj => hne j (List.mem_cons_of_mem k hj)) hrest]
    rfl

/-- Two different neighbours may be exchanged just if one of them has been seen before. -/
lemma eraseDups_exchange_iff {x y : α} (hxy : x ≠ y) (l m : List α) :
    (l ++ x :: y :: m).eraseDups = (l ++ y :: x :: m).eraseDups ↔ x ∈ l ∨ y ∈ l := by
  have hsplit : ∀ a b : α, (l ++ a :: b :: m).eraseDups =
      (l ++ [a] ++ [b]).eraseDups ++ (m.removeAll (l ++ [a] ++ [b])).eraseDups := by
    intro a b
    rw [← List.eraseDups_append]
    simp
  -- of what follows the same is new in both orders
  have hrest : m.removeAll (l ++ [x] ++ [y]) = m.removeAll (l ++ [y] ++ [x]) := by
    refine List.filter_congr fun z _ => ?_
    simp [or_comm]
  rw [hsplit, hsplit, hrest, List.append_cancel_right_eq, eraseDups_concat, eraseDups_concat,
    eraseDups_concat, eraseDups_concat]
  by_cases hx : x ∈ l <;> by_cases hy : y ∈ l <;> simp [hx, hy, hxy, hxy.symm]

end Order

/-! ### Groups and the stable sort -/

section Groups

variable (rank : α → ℕ)

/-- A list that is sorted by a rank is determined by its parts of equal rank. -/
lemma eq_of_filter_rank_eq {l m : List α} (hl : l.Pairwise fun a b => rank a ≤ rank b)
    (hm : m.Pairwise fun a b => rank a ≤ rank b)
    (h : ∀ n, l.filter (rank · = n) = m.filter (rank · = n)) : l = m := by
  have hmem : ∀ a, a ∈ l ↔ a ∈ m := fun a => by
    have := congrArg (a ∈ ·) (h (rank a))
    simpa using this
  induction l generalizing m with
  | nil =>
    cases m with
    | nil => rfl
    | cons b m => exact absurd ((hmem b).mpr List.mem_cons_self) List.not_mem_nil
  | cons a l ih =>
    cases m with
    | nil => exact absurd ((hmem a).mp List.mem_cons_self) List.not_mem_nil
    | cons b m =>
      have hle : ∀ {c d : α} {k : List α}, (c :: k).Pairwise (fun a b => rank a ≤ rank b) →
          d ∈ c :: k → rank c ≤ rank d := by
        intro c d k hk hd
        rcases List.mem_cons.mp hd with rfl | hd
        · exact Nat.le_refl _
        · exact List.rel_of_pairwise_cons hk hd
      -- each head has the least rank of its list, and the lists have the same elements
      have hrank : rank a = rank b :=
        Nat.le_antisymm (hle hl ((hmem b).mpr List.mem_cons_self))
          (hle hm ((hmem a).mp List.mem_cons_self))
      have hhead := h (rank a)
      rw [List.filter_cons_of_pos (by simp), List.filter_cons_of_pos (by simp [hrank])] at hhead
      obtain rfl : a = b := (List.cons.inj hhead).1
      have htail : ∀ n, l.filter (rank · = n) = m.filter (rank · = n) := by
        intro n
        have := h n
        rw [List.filter_cons, List.filter_cons] at this
        split at this
        · exact (List.cons.inj this).2
        · exact this
      rw [ih hl.of_cons hm.of_cons htail fun c => by
        have := congrArg (c ∈ ·) (htail (rank c))
        simpa using this]

/-- The sort is stable: elements of equal rank keep their order. -/
lemma filter_rank_mergeSort (xs : List α) (n : ℕ) :
    (xs.mergeSort fun a b => rank a ≤ rank b).filter (rank · = n) =
      xs.filter (rank · = n) := by
  have hequal : (xs.filter (rank · = n)).Pairwise fun a b => decide (rank a ≤ rank b) = true := by
    refine List.pairwise_of_forall_mem_list fun a ha b hb => ?_
    have ha := List.of_mem_filter ha
    have hb := List.of_mem_filter hb
    simp only [decide_eq_true_eq] at ha hb ⊢
    omega
  -- sorting keeps a sublist that is sorted already; here it also keeps the length
  have hsub := (List.sublist_mergeSort
    (fun a b c => by simp only [decide_eq_true_eq]; omega)
    (fun a b => by simp only [Bool.or_eq_true, decide_eq_true_eq]; omega)
    hequal (List.filter_sublist (l := xs))).filter (rank · = n)
  rw [List.filter_filter] at hsub
  simp only [Bool.and_self] at hsub
  exact (hsub.eq_of_length ((List.mergeSort_perm xs _).filter _).length_eq.symm).symm

variable {rank} {key : β → α} {ks : List α}

/-- The elements of one rank all stand in one group. -/
lemma filter_rank_flatMap_filter [DecidableEq α] (hks : ks.Pairwise fun a b => rank a < rank b)
    (xs : List β) (n : ℕ) :
    (ks.flatMap fun k => xs.filter (key · = k)).filter (fun x => rank (key x) = n) =
      xs.filter fun x => key x ∈ ks ∧ rank (key x) = n := by
  induction ks with
  | nil => simp
  | cons k ks ih =>
    rw [List.flatMap_cons, List.filter_append, ih hks.of_cons, List.filter_filter]
    have hlater : ∀ j ∈ ks, rank k < rank j := fun j hj => List.rel_of_pairwise_cons hks hj
    by_cases hk : rank k = n
    · -- the group of `k` has the rank, so none of the later groups has it
      have hrest : (xs.filter fun x => key x ∈ ks ∧ rank (key x) = n) = [] := by
        refine List.filter_eq_nil_iff.mpr fun x _ => ?_
        simp only [decide_eq_true_eq]
        rintro ⟨hx, rfl⟩
        exact absurd hk (Nat.ne_of_lt (hlater _ hx))
      rw [hrest, List.append_nil]
      refine List.filter_congr fun x _ => ?_
      rw [← Bool.decide_and, decide_eq_decide]
      constructor
      · rintro ⟨hx, rfl⟩
        exact ⟨List.mem_cons_self, hx⟩
      · rintro ⟨hx, hn⟩
        rcases List.mem_cons.mp hx with rfl | hx
        · exact ⟨hn, rfl⟩
        · exact absurd (hk.trans hn.symm) (Nat.ne_of_lt (hlater _ hx))
    · -- the group of `k` does not have the rank and adds nothing
      have hfirst : (xs.filter fun x => decide (rank (key x) = n) && decide (key x = k)) = [] := by
        refine List.filter_eq_nil_iff.mpr fun x _ => ?_
        simp only [Bool.and_eq_true, decide_eq_true_eq]
        rintro ⟨hn, rfl⟩
        exact hk hn
      rw [hfirst, List.nil_append]
      refine List.filter_congr fun x _ => ?_
      rw [decide_eq_decide, List.mem_cons]
      constructor
      · exact fun ⟨hx, hn⟩ => ⟨Or.inr hx, hn⟩
      · rintro ⟨rfl | hx, hn⟩
        · exact absurd hn hk
        · exact ⟨hx, hn⟩

/-- Out of the row of all groups each group can be taken back. -/
lemma filter_flatMap_filter [DecidableEq α] (hks : ks.Nodup) {k : α} (hk : k ∈ ks)
    (xs : List β) :
    (ks.flatMap fun j => xs.filter (key · = j)).filter (key · = k) = xs.filter (key · = k) := by
  induction ks with
  | nil => exact absurd hk List.not_mem_nil
  | cons j ks ih =>
    rw [List.nodup_cons] at hks
    rw [List.flatMap_cons, List.filter_append]
    rcases List.mem_cons.mp hk with rfl | hlater
    · -- all other groups are of other keys
      have hlater : (ks.flatMap fun j => xs.filter (key · = j)).filter (key · = k) = [] := by
        refine List.filter_eq_nil_iff.mpr fun x hx => ?_
        obtain ⟨j, hj, hxj⟩ := List.mem_flatMap.mp hx
        obtain rfl : key x = j := by simpa using List.of_mem_filter hxj
        rw [decide_eq_true_eq]
        rintro rfl
        exact hks.1 hj
      rw [hlater, List.append_nil, List.filter_filter]
      simp
    · have hfirst : (xs.filter (key · = j)).filter (key · = k) = [] := by
        refine List.filter_eq_nil_iff.mpr fun x hx => ?_
        obtain rfl : key x = j := by simpa using List.of_mem_filter hx
        rw [decide_eq_true_eq]
        rintro rfl
        exact hks.1 hlater
      rw [hfirst, List.nil_append, ih hks.2 hlater]

/-- **Grouping is a stable sort.**  The groups of a list, one after another in the order of the
rank of their keys, are the list sorted by that rank. -/
lemma flatMap_filter_eq_mergeSort [DecidableEq α]
    (hks : ks.Pairwise fun a b => rank a < rank b) {xs : List β} (hxs : ∀ x ∈ xs, key x ∈ ks) :
    (ks.flatMap fun k => xs.filter (key · = k)) =
      xs.mergeSort fun a b => rank (key a) ≤ rank (key b) := by
  refine eq_of_filter_rank_eq (fun x => rank (key x)) ?_ ?_ fun n => ?_
  · -- within a group all ranks are equal, and from group to group they grow
    refine List.pairwise_flatMap.mpr ⟨fun k _ => ?_, hks.imp fun {j k} hjk x hx y hy => ?_⟩
    · refine List.pairwise_of_forall_mem_list fun a ha b hb => ?_
      have ha := List.of_mem_filter ha
      have hb := List.of_mem_filter hb
      simp only [decide_eq_true_eq] at ha hb
      exact Nat.le_of_eq (by rw [ha, hb])
    · have hx := List.of_mem_filter hx
      have hy := List.of_mem_filter hy
      simp only [decide_eq_true_eq] at hx hy
      rw [hx, hy]
      exact Nat.le_of_lt hjk
  · refine (List.pairwise_mergeSort ?_ ?_ xs).imp fun h => of_decide_eq_true h
    · intro a b c
      simp only [decide_eq_true_eq]
      omega
    · intro a b
      simp only [Bool.or_eq_true, decide_eq_true_eq]
      omega
  · rw [filter_rank_mergeSort fun x => rank (key x), filter_rank_flatMap_filter hks]
    refine List.filter_congr fun x hx => ?_
    simp [hxs x hx]

end Groups

end FindingsDigest
