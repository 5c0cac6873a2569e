import Mathlib

/-!
# Digits, the most significant one first

`places b v` are the digits of `v` to the base `b`, the most significant one first, and `padded b n
v` are the same digits with zeros in front of them, up to `n` digits.  Splitting off the most
significant one of `n + 1` digits leaves the `n` digits of the remainder (`padded_succ`).
-/

namespace Digits

variable {b n v : ℕ}

/-- The digits of a number, the most significant one first. -/
def places (b v : ℕ) : List ℕ :=
  (Nat.digits b v).reverse

/-- The digits of a number with zeros in front of them. -/
def padded (b n v : ℕ) : List ℕ :=
  List.replicate (n - (places b v).length) 0 ++ places b v

@[simp]
theorem places_zero (b : ℕ) :
  places b 0 = []
  := by
  simp [places]

theorem length_places (b v : ℕ) :
  (places b v).length = (Nat.digits b v).length
  := List.length_reverse

theorem length_places_pos (b : ℕ) (hv : v ≠ 0) :
  0 < (places b v).length
  := by
  rw [length_places]
  apply List.length_pos_iff.mpr (Nat.digits_ne_nil_iff_ne_zero.mpr hv)

theorem length_places_le_iff (hb : 1 < b) :
  (places b v).length ≤ n ↔ v < b ^ n
  := by
  rw [length_places]
  apply Nat.digits_length_le_iff hb

theorem length_padded (hb : 1 < b) (hv : v < b ^ n) :
  (padded b n v).length = n
  := by
  have hle := (length_places_le_iff hb).mpr hv
  rw [padded, List.length_append, List.length_replicate, Nat.sub_add_cancel hle]

/-- Without a most significant digit, there is one zero more in front. -/
theorem padded_succ_of_lt (hb : 1 < b) (hv : v < b ^ n) :
  padded b (n + 1) v = 0 :: padded b n v
  := by
  have hle := (length_places_le_iff hb).mpr hv
  rw [padded, Nat.succ_sub hle, List.replicate_succ, List.cons_append, padded]

/-- The most significant digit is followed by the padded digits of the remainder. -/
theorem places_eq_cons (hb : 1 < b) (hquotient : v / b ^ n ≠ 0) (hv : v < b ^ (n + 1)) :
  places b v = v / b ^ n :: padded b n (v % b ^ n)
  := by
  have hpos : 0 < b ^ n := Nat.pow_pos (Nat.zero_lt_of_lt hb)
  have hlt : v / b ^ n < b := by
    apply Nat.div_lt_of_lt_mul
    rwa [← Nat.pow_succ]
  have hle : (Nat.digits b (v % b ^ n)).length ≤ n := by
    rw [← length_places, length_places_le_iff hb]
    apply Nat.mod_lt v hpos
  have hsplit := Nat.digits_append_zeroes_append_digits (b := b)
    (k := n - (Nat.digits b (v % b ^ n)).length) (m := v / b ^ n) (n := v % b ^ n) hb
    (Nat.pos_of_ne_zero hquotient)
  rw [Nat.add_sub_cancel' hle, Nat.mod_add_div, Nat.digits_of_lt b _ hquotient hlt] at hsplit
  rw [padded, length_places, places, places, ← hsplit]
  simp

/-- The most significant one of `n + 1` digits is followed by the digits of the remainder. -/
theorem padded_succ (hb : 1 < b) (hv : v < b ^ (n + 1)) :
  padded b (n + 1) v = v / b ^ n :: padded b n (v % b ^ n)
  := by
  by_cases hquotient : v / b ^ n = 0
  · have hlt : v < b ^ n := by
      apply (Nat.div_eq_zero_iff_lt _).mp hquotient
      apply Nat.pow_pos (Nat.zero_lt_of_lt hb)
    rw [padded_succ_of_lt hb hlt, hquotient, Nat.mod_eq_of_lt hlt]
  · have hplaces := places_eq_cons hb hquotient hv
    have hlength : (places b v).length = n + 1 := by
      rw [hplaces, List.length_cons, length_padded hb]
      apply Nat.mod_lt
      apply Nat.pow_pos (Nat.zero_lt_of_lt hb)
    rw [padded, hlength, Nat.sub_self, List.replicate_zero, List.nil_append, hplaces]

end Digits
