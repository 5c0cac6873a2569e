import Mathlib

/-!
# Polynomial division in a shift register

A shift register divides by a monic polynomial `P` of degree `n`, one coefficient of the dividend
after the other, the leading one first.  It has the remainder of what it was given so far, times
`X ^ n`.  So after a word of coefficients it has the remainder of the word, times `X ^ n`, and of
what it had before, moved up by the length of the word (`divide_eq`).

When the last coefficient of `P` is a unit, a register that begins with zero does not end with zero
if the word is not zero, and zero outside of `n` coefficients in a row (`divide_burst_ne_zero`).
-/

open Polynomial

namespace ShiftRegister

variable {R : Type*} [CommRing R]

/-- The polynomial with these coefficients, the leading one first.
-/
noncomputable def word : List R → R[X]
  | [] => 0
  | b :: bits => C b * X ^ bits.length + word bits

/-- Shift one more coefficient into a register. -/
noncomputable def step (P r : R[X]) (b : R) : R[X] :=
  (X * r + C b * X ^ P.natDegree) %ₘ P

noncomputable def divide (P r : R[X]) (bits : List R) : R[X] :=
  bits.foldl (step P) r

/-! ### Words -/

theorem word_append (bits bits' : List R) :
  word (bits ++ bits') = word bits * X ^ bits'.length + word bits'
  := by
  induction bits with
  | nil =>
      simp [word]
  | cons b bits ih =>
      rw [List.cons_append, word, word, ih, List.length_append, pow_add]
      ring

theorem word_eq_zero {bits : List R} (h : ∀ b ∈ bits, b = 0) :
  word bits = 0
  := by
  induction bits with
  | nil =>
      rfl
  | cons b bits ih =>
      rw [word, h b List.mem_cons_self, ih (fun b hb => h b (List.mem_cons_of_mem _ hb))]
      simp

theorem word_zipWith_add {bits bits' : List R} (h : bits.length = bits'.length) :
  word (List.zipWith (· + ·) bits bits') = word bits + word bits'
  := by
  induction bits generalizing bits' with
  | nil =>
      rw [List.length_nil, eq_comm, List.length_eq_zero_iff] at h
      simp [h, word]
  | cons b bits ih =>
      cases bits' with
      | nil =>
          cases h
      | cons b' bits' =>
          rw [List.length_cons, List.length_cons, Nat.add_right_cancel_iff] at h
          rw [List.zipWith_cons_cons, word, word, word, ih h, List.length_zipWith, ← h,
            Nat.min_self, C_add]
          ring

theorem degree_word_lt (bits : List R) :
  (word bits).degree < bits.length
  := by
  induction bits with
  | nil =>
      rw [word, degree_zero]
      apply WithBot.bot_lt_coe
  | cons b bits ih =>
      rw [word]
      apply (degree_add_le _ _).trans_lt
      apply max_lt
      · apply (degree_C_mul_X_pow_le _ _).trans_lt
        exact_mod_cast Nat.lt_succ_self bits.length
      · apply ih.trans
        exact_mod_cast Nat.lt_succ_self bits.length

/-- A word is zero only if all its coefficients are. -/
theorem eq_zero_of_word_eq_zero {bits : List R} (h : word bits = 0) :
  ∀ b ∈ bits, b = 0
  := by
  induction bits with
  | nil =>
      nofun
  | cons b bits ih =>
      have hb : b = 0 := by
        have hcoeff := congrArg (fun p : R[X] => p.coeff bits.length) h
        simpa [word, coeff_eq_zero_of_degree_lt (degree_word_lt bits)] using hcoeff
      rw [word, hb, C_0, zero_mul, zero_add] at h
      intro b' hb'
      rcases List.mem_cons.mp hb' with rfl | hb'
      · apply hb
      · apply ih h b' hb'

/-! ### Division -/

variable {P r : R[X]}

/-- Only the remainder of what is multiplied matters for the remainder. -/
theorem mul_modByMonic_add_modByMonic (hP : P.Monic) (p q s : R[X]) :
  (p * (q %ₘ P) + s) %ₘ P = (p * q + s) %ₘ P
  := by
  apply modByMonic_eq_of_dvd_sub hP
  have hdvd : P ∣ p * (q %ₘ P - q) := (dvd_modByMonic_sub q P).mul_left p
  have hsub : p * (q %ₘ P) + s - (p * q + s) = p * (q %ₘ P - q) := by ring
  rw [hsub]
  apply hdvd

theorem divide_eq (hP : P.Monic) (hr : r %ₘ P = r) (bits : List R) :
  divide P r bits = (X ^ bits.length * r + X ^ P.natDegree * word bits) %ₘ P
  := by
  induction bits generalizing r with
  | nil =>
      rw [divide, List.foldl_nil, word, List.length_nil, pow_zero, one_mul, mul_zero, add_zero, hr]
  | cons b bits ih =>
      have hstep : step P r b %ₘ P = step P r b := by
        apply modByMonic_eq_of_dvd_sub hP
        apply dvd_modByMonic_sub
      have hmoved := mul_modByMonic_add_modByMonic hP (X ^ bits.length)
        (X * r + C b * X ^ P.natDegree) (X ^ P.natDegree * word bits)
      rw [divide, List.foldl_cons, ← divide, ih hstep, step, hmoved, word, List.length_cons]
      congr 1
      ring

/-! ### Bursts -/

theorem isCoprime_X (hunit : IsUnit (P.coeff 0)) :
  IsCoprime P X
  := by
  obtain ⟨c, hc⟩ := hunit.exists_left_inv
  have hsplit : X * P.divX + C (P.coeff 0) = P := X_mul_divX_add P
  use C c, -(C c * P.divX)
  calc C c * P + -(C c * P.divX) * X
      = C c * (P - X * P.divX) := by ring
    _ = C c * C (P.coeff 0) := by rw [sub_eq_of_eq_add' hsplit.symm]
    _ = 1 := by rw [← C_mul, hc, C_1]

/-- A polynomial of a smaller degree is not divided by `P`, wherever it is moved to. -/
theorem not_dvd_X_pow_mul (hP : P.Monic) (hunit : IsUnit (P.coeff 0)) {B : R[X]} (hB : B ≠ 0)
    (hdegree : B.degree < P.degree) (m : ℕ) :
  ¬ P ∣ X ^ m * B
  := by
  intro hdvd
  apply hP.not_dvd_of_degree_lt hB hdegree
  apply ((isCoprime_X hunit).pow_right).dvd_of_dvd_mul_left hdvd

/-- The word of a burst is that of at most `n` coefficients, moved up by what follows them. -/
theorem word_of_burst {bits : List R} {start n : ℕ} (hne : ∃ b ∈ bits, b ≠ 0)
    (hburst : ∀ i b, bits[i]? = some b → b ≠ 0 → start ≤ i ∧ i < start + n) :
  ∃ burst m, burst.length ≤ n ∧ word bits = X ^ m * word burst ∧ word burst ≠ 0
  := by
  have hbefore : ∀ b ∈ bits.take start, b = 0 := by
    intro b hb
    obtain ⟨i, hi⟩ := List.mem_iff_getElem?.mp hb
    by_contra hb
    rw [List.getElem?_take] at hi
    split at hi
    · have := (hburst i b hi hb).1
      omega
    · cases hi
  have hafter : ∀ b ∈ (bits.drop start).drop n, b = 0 := by
    intro b hb
    rw [List.drop_drop] at hb
    obtain ⟨i, hi⟩ := List.mem_iff_getElem?.mp hb
    by_contra hb
    rw [List.getElem?_drop] at hi
    have := (hburst _ b hi hb).2
    omega
  have hsplit : bits
      = bits.take start ++ ((bits.drop start).take n ++ (bits.drop start).drop n) := by
    rw [List.take_append_drop, List.take_append_drop]
  have hword : word bits
      = X ^ ((bits.drop start).drop n).length * word ((bits.drop start).take n) := by
    conv_lhs => rw [hsplit]
    rw [word_append, word_append, word_eq_zero hbefore, word_eq_zero hafter]
    ring
  refine ⟨_, _, List.length_take_le n _, hword, ?_⟩
  intro hzero
  obtain ⟨b, hb, hbne⟩ := hne
  rw [hsplit, List.mem_append, List.mem_append] at hb
  rcases hb with hb | hb | hb
  · apply hbne (hbefore b hb)
  · apply hbne (eq_zero_of_word_eq_zero hzero b hb)
  · apply hbne (hafter b hb)

/-- A burst of at most as many coefficients as the degree leaves a remainder. -/
theorem divide_burst_ne_zero [Nontrivial R] (hP : P.Monic) (hunit : IsUnit (P.coeff 0))
    {bits : List R} {start : ℕ} (hne : ∃ b ∈ bits, b ≠ 0)
    (hburst : ∀ i b, bits[i]? = some b → b ≠ 0 → start ≤ i ∧ i < start + P.natDegree) :
  divide P 0 bits ≠ 0
  := by
  obtain ⟨burst, m, hlength, hword, hburstNe⟩ := word_of_burst hne hburst
  have hdegree : (word burst).degree < P.degree := by
    rw [degree_eq_natDegree hP.ne_zero]
    apply (degree_word_lt burst).trans_le
    exact_mod_cast hlength
  rw [divide_eq hP (zero_modByMonic P), mul_zero, zero_add, hword, ← mul_assoc, ← pow_add, ne_eq,
    modByMonic_eq_zero_iff_dvd hP]
  apply not_dvd_X_pow_mul hP hunit hburstNe hdegree

end ShiftRegister
