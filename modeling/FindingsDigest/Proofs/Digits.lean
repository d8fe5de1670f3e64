/-
# Numbers written in digits

A number written in digits of a base is read back from their values (`exists_mapM_toDigits`).  In
the decimal writing of an integer the digits are not joined by underscores and do not begin with a
needless zero, so an integer is read back from it whatever its sign (`integer?_toString`).
-/
import FindingsDigest.Toml.Number
import Mathlib.Data.Nat.Init

namespace FindingsDigest

section Digits

variable {base : ℕ}

/-- The digits of a number are those of its base. -/
lemma exists_digitChar_of_mem_toDigits (hbase : 1 < base) {n : ℕ} {c : Char}
    (hc : c ∈ Nat.toDigits base n) : ∃ d < base, c = Nat.digitChar d := by
  induction n using Nat.strong_induction_on with
  | _ n ih =>
    rw [Nat.toDigits_eq_if hbase] at hc
    split at hc
    · next hn => exact ⟨n, hn, List.mem_singleton.mp hc⟩
    · next hn =>
      rcases List.mem_append.mp hc with hc | hc
      · exact ih (n / base) (Nat.div_lt_self (by omega) hbase) hc
      · exact ⟨n % base, Nat.mod_lt n (by omega), List.mem_singleton.mp hc⟩

lemma hexDigit?_digitChar {d : ℕ} (h : d < 16) : Toml.hexDigit? (Nat.digitChar d) = some d := by
  revert d
  decide

/-- The values of the digits make up the number. -/
lemma exists_mapM_toDigits (hbase : 1 < base) {value : Char → Option ℕ}
    (hvalue : ∀ d < base, value (Nat.digitChar d) = some d) (n : ℕ) :
    ∃ ds, (Nat.toDigits base n).mapM value = some ds ∧ Toml.ofDigits base ds = n := by
  induction n using Nat.strong_induction_on with
  | _ n ih =>
    rw [Nat.toDigits_eq_if hbase]
    split
    · next hn => exact ⟨[n], by simp [hvalue n hn], by simp [Toml.ofDigits]⟩
    · next hn =>
      obtain ⟨ds, hds, hnumber⟩ := ih (n / base) (Nat.div_lt_self (by omega) hbase)
      have hlast : n % base < base := Nat.mod_lt n (by omega)
      refine ⟨ds ++ [n % base], by simp [List.mapM_append, hds, hvalue _ hlast], ?_⟩
      rw [Toml.ofDigits] at hnumber ⊢
      rw [List.foldl_append, hnumber]
      exact Nat.div_add_mod n base

end Digits

namespace Toml

/-! ### Decimal integers -/

/-- Without underscores the digits are read one by one. -/
lemma digits?_eq_mapM {base : ℕ} {cs : List Char} (hne : cs ≠ []) (h : '_' ∉ cs) :
    digits? base cs = cs.mapM (digits?.digit? base) := by
  induction cs with
  | nil => exact absurd rfl hne
  | cons c cs ih =>
    cases cs with
    | nil => rcases hdigit : digits?.digit? base c with _ | d <;> simp [digits?, hdigit]
    | cons next cs =>
      have hnext : next ≠ '_' := fun heq => h (by simp [heq])
      rw [List.mapM_cons, ← ih (by simp) fun hmem => h (List.mem_cons_of_mem c hmem), digits?]
      · intro hnil
        cases hnil
      · intro rest hrest
        exact hnext (List.cons.inj hrest).1

lemma not_mem_toDigits {c : Char} (hc : c.isDigit = false) (n : ℕ) : c ∉ Nat.toDigits 10 n := by
  intro hmem
  have := Nat.isDigit_of_mem_toDigits (by decide) (by decide) hmem
  simp [hc] at this

/-- Only zero is written with a zero in front. -/
lemma eq_zero_of_head?_toDigits {n : ℕ} (h : (Nat.toDigits 10 n).head? = some '0') : n = 0 := by
  induction n using Nat.strong_induction_on with
  | _ n ih =>
    rw [Nat.toDigits_eq_if (by decide)] at h
    split at h
    · next hn =>
      have hzero : ∀ d < 10, Nat.digitChar d = '0' → d = 0 := by decide
      exact hzero n hn (by simpa using h)
    · next hn =>
      obtain ⟨d, ds, hdigits⟩ := List.exists_cons_of_ne_nil (Nat.toDigits_ne_nil (n := n / 10))
      have hfront : n / 10 = 0 := ih (n / 10) (by omega) (by rw [hdigits] at h ⊢; exact h)
      omega

lemma exists_wholeDigits?_toDigits (n : ℕ) :
    ∃ ds, wholeDigits? (Nat.toDigits 10 n) = some ds ∧ ofDigits 10 ds = n := by
  have hwhole : wholeDigits? (Nat.toDigits 10 n) = digits? 10 (Nat.toDigits 10 n) := by
    unfold wholeDigits?
    split
    · next c cs hdigits =>
      have hzero : n = 0 := eq_zero_of_head?_toDigits (by rw [hdigits]; rfl)
      subst hzero
      cases hdigits
    · rfl
  rw [hwhole, digits?_eq_mapM Nat.toDigits_ne_nil (not_mem_toDigits (by decide) n)]
  refine exists_mapM_toDigits (by decide) (fun d hd => ?_) n
  rw [digits?.digit?, hexDigit?_digitChar (by omega), Option.filter_some,
    if_pos (by simpa using hd)]

/-- A number without sign is read back from its digits, and with a minus in front it is read as the
opposite number. -/
lemma integer?_toDigits (n : ℕ) : integer? (Nat.toDigits 10 n) = some (n : ℤ) := by
  obtain ⟨ds, hds, hnumber⟩ := exists_wholeDigits?_toDigits n
  have hother : ∀ c : Char, c.isDigit = false → c ∉ Nat.toDigits 10 n :=
    fun _ hc => not_mem_toDigits hc n
  have hsign : splitSign (Nat.toDigits 10 n) = (false, Nat.toDigits 10 n) := by
    unfold splitSign
    split
    · next hdigits => simpa [hdigits] using hother '-' (by decide)
    · next hdigits => simpa [hdigits] using hother '+' (by decide)
    · rfl
  -- neither a base nor a sign is written
  unfold integer?
  split
  · next hdigits => simpa [hdigits] using hother 'x' (by decide)
  · next hdigits => simpa [hdigits] using hother 'o' (by decide)
  · next hdigits => simpa [hdigits] using hother 'b' (by decide)
  · simp [hsign, hds, hnumber]

lemma integer?_minus_toDigits (n : ℕ) : integer? ('-' :: Nat.toDigits 10 n) = some (-(n : ℤ)) := by
  obtain ⟨ds, hds, rfl⟩ := exists_wholeDigits?_toDigits n
  simp [integer?, splitSign, hds]

/-- An integer is read back from its decimal writing. -/
lemma integer?_toString (n : ℤ) : integer? (toString n).toList = some n := by
  rw [Int.toString_eq_repr, Int.repr_eq_if]
  split
  · next hn => rw [Nat.toList_repr, integer?_toDigits, Int.toNat_of_nonneg hn]
  · next hn =>
    have hneg : 0 ≤ -n := by omega
    rw [String.toList_append, Nat.toList_repr]
    refine (integer?_minus_toDigits _).trans ?_
    rw [Int.toNat_of_nonneg hneg, Int.neg_neg]

end Toml

end FindingsDigest
