import Mathlib

/-!
# Bit fields

Two numbers are packed into one word by moving the first above the second: `a <<< k ||| b`, where
`b` fits into the `k` lower bits.  The word has `w` bits, so the upper bits of `a` may be lost.
Packing adds (`shiftLeft_mod_lor`), so each field is found again by a division or a remainder.
-/

namespace BitField

theorem shiftLeft_lor {a b k : ℕ} (hb : b < 2 ^ k) :
  a <<< k ||| b = a * 2 ^ k + b
  := by
  rw [← Nat.shiftLeft_add_eq_or_of_lt hb, Nat.shiftLeft_eq]

/-- In a word the upper field keeps only its lower bits. -/
theorem shiftLeft_mod {a k w : ℕ} (hk : k ≤ w) :
  a <<< k % 2 ^ w = (a % 2 ^ (w - k)) <<< k
  := by
  have hw : 2 ^ w = 2 ^ (w - k) * 2 ^ k := by
    rw [← Nat.pow_add, Nat.sub_add_cancel hk]
  rw [Nat.shiftLeft_eq, Nat.shiftLeft_eq, hw, Nat.mul_mod_mul_right]

/-- Packing two fields into a word is an addition. -/
theorem shiftLeft_mod_lor {a b k w : ℕ} (hk : k ≤ w) (hb : b < 2 ^ k) :
  a <<< k % 2 ^ w ||| b = a % 2 ^ (w - k) * 2 ^ k + b
  := by
  rw [shiftLeft_mod hk, shiftLeft_lor hb]

/-- Packing fields that fit into the word. -/
theorem shiftLeft_mod_lor_of_lt {a b k w : ℕ} (hk : k ≤ w) (ha : a < 2 ^ (w - k))
    (hb : b < 2 ^ k) :
  a <<< k % 2 ^ w ||| b = a * 2 ^ k + b
  := by
  rw [shiftLeft_mod_lor hk hb, Nat.mod_eq_of_lt ha]

end BitField

/-! ### Two bytes make a word -/

/-- The word of two bytes. -/
theorem UInt16.toNat_twoBytes (high low : UInt8) :
  ((high.toUInt16 <<< 8) ||| low.toUInt16).toNat = high.toNat * 256 + low.toNat
  := by
  simp only [UInt16.toNat_or, UInt16.toNat_shiftLeft, UInt8.toNat_toUInt16]
  exact BitField.shiftLeft_mod_lor_of_lt (by simp) high.toNat_lt low.toNat_lt

/-! ### Two nibbles make a byte -/

theorem UInt8.toNat_nibbles (high : UInt8) {low : UInt8} (hlow : low.toNat < 16) :
  ((high <<< 4) ||| low).toNat = high.toNat % 16 * 16 + low.toNat
  := by
  rw [UInt8.toNat_or, UInt8.toNat_shiftLeft]
  exact BitField.shiftLeft_mod_lor (by simp) hlow

theorem UInt8.highNibble (high : UInt8) {low : UInt8} (hlow : low.toNat < 16) :
  (((high <<< 4) ||| low) >>> 4) &&& 0b1111 = high &&& 0b1111
  := by
  apply UInt8.toNat_inj.mp
  rw [UInt8.toNat_and, UInt8.toNat_and, UInt8.toNat_shiftRight, UInt8.toNat_nibbles high hlow]
  simp only [UInt8.reduceToNat, Nat.reduceMod]
  rw [Nat.and_two_pow_sub_one_eq_mod _ 4, Nat.and_two_pow_sub_one_eq_mod _ 4,
    Nat.shiftRight_eq_div_pow]
  omega

theorem UInt8.lowNibble (high : UInt8) {low : UInt8} (hlow : low.toNat < 16) :
  ((high <<< 4) ||| low) &&& 0b1111 = low
  := by
  apply UInt8.toNat_inj.mp
  rw [UInt8.toNat_and, UInt8.toNat_nibbles high hlow]
  simp only [UInt8.reduceToNat]
  rw [Nat.and_two_pow_sub_one_eq_mod _ 4]
  omega

/-- The upper nibble is alone when the lower one is shifted in. -/
theorem UInt8.shiftLeft_and_f0 (byte : UInt8) :
  (byte <<< (4 : UInt8)) &&& (0xF0 : UInt8) = byte <<< (4 : UInt8)
  := by
  apply UInt8.toNat_inj.mp
  rw [UInt8.toNat_and, UInt8.toNat_shiftLeft]
  simp only [UInt8.reduceToNat, Nat.reduceMod]
  have hshift : byte.toNat <<< 4 % 2 ^ 8 = (byte.toNat % 2 ^ (8 - 4)) <<< 4 :=
    BitField.shiftLeft_mod (by simp)
  have hmask : 240 = (2 ^ 4 - 1) <<< 4 := by simp
  rw [hshift, hmask, ← Nat.shiftLeft_and_distrib, Nat.and_two_pow_sub_one_eq_mod, Nat.mod_mod]

theorem UInt8.toNat_and_0f_lt (byte : UInt8) :
  (byte &&& 0x0F).toNat < 16
  := by
  rw [UInt8.toNat_and]
  simp only [UInt8.reduceToNat]
  rw [Nat.and_two_pow_sub_one_eq_mod _ 4]
  apply Nat.mod_lt _ (by simp)

theorem UInt8.and_0f_of_lt {byte : UInt8} (h : byte.toNat < 16) :
  byte &&& 0x0F = byte
  := by
  apply UInt8.toNat_inj.mp
  rw [UInt8.toNat_and]
  have hpow : byte.toNat < 2 ^ 4 := h
  apply Nat.and_two_pow_sub_one_of_lt_two_pow hpow
