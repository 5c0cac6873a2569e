import Fsfw.ReturnValues
import Mathlib.Data.Nat.Bitwise

/-!
# The bits of bytes

The bits of a byte are counted from the most significant one on.  A block of bytes has eight bits
in each byte, so that the bit `k` of the block is found in the byte `k / 8` (`bitAt`).

A bit that was set is set, and setting it leaves the other bits as they were (`bitAt_set`).
-/

namespace Bitutil

/-- How far the bit at a position is from the least significant one. -/
def shiftNumber (position : UInt8) : UInt8 :=
  position + (7 - 2 * position)

def set (byte position : UInt8) : UInt8 :=
  if position > 7 then byte else byte ||| 1 <<< shiftNumber position

/-- Whether there is a bit at the position, and the bit, or `bit` when there is none. -/
def get (byte position : UInt8) (bit : Bool) : Bool × Bool :=
  if position > 7 then (false, bit) else (true, byte &&& 1 <<< shiftNumber position ≠ 0)

theorem toNat_shiftNumber {position : UInt8} (h : position.toNat < 8) :
  (shiftNumber position).toNat = 7 - position.toNat
  := by
  simp only [shiftNumber, UInt8.toNat_add, UInt8.toNat_sub, UInt8.toNat_mul]
  have htwo : (2 : UInt8).toNat = 2 := rfl
  have hseven : (7 : UInt8).toNat = 7 := rfl
  rw [htwo, hseven]
  omega

theorem toNat_one_shiftLeft {position : UInt8} (h : position.toNat < 8) :
  ((1 : UInt8) <<< shiftNumber position).toNat = 2 ^ (7 - position.toNat)
  := by
  have hlt : 2 ^ (7 - position.toNat) < 2 ^ 8 := Nat.pow_lt_pow_right (by decide) (by omega)
  rw [UInt8.toNat_shiftLeft, toNat_shiftNumber h, UInt8.toNat_one, Nat.shiftLeft_eq, Nat.one_mul,
    Nat.mod_eq_of_lt (show 7 - position.toNat < 8 by omega), Nat.mod_eq_of_lt hlt]

theorem not_seven_lt {position : UInt8} (h : position.toNat < 8) :
  ¬ position > 7
  := by
  rw [gt_iff_lt, UInt8.lt_iff_toNat_lt]
  have hseven : (7 : UInt8).toNat = 7 := rfl
  omega

theorem get_eq (byte : UInt8) {position : UInt8} (h : position.toNat < 8) (bit : Bool) :
  get byte position bit = (true, byte.toNat.testBit (7 - position.toNat))
  := by
  rw [get, if_neg (not_seven_lt h)]
  congr 1
  rw [Bool.eq_iff_iff, decide_eq_true_iff, ne_eq, ← UInt8.toNat_inj, UInt8.toNat_and,
    toNat_one_shiftLeft h, Nat.and_two_pow, UInt8.toNat_zero]
  cases byte.toNat.testBit (7 - position.toNat) with
  | false => simp
  | true => simp

theorem toNat_set (byte : UInt8) {position : UInt8} (h : position.toNat < 8) :
  (set byte position).toNat = byte.toNat ||| 2 ^ (7 - position.toNat)
  := by
  rw [set, if_neg (not_seven_lt h), UInt8.toNat_or, toNat_one_shiftLeft h]

/-! ### Blocks of bytes -/

/-- The bit at a position of a block of bytes. -/
def bitAt (bytes : List UInt8) (k : ℕ) : Bool :=
  (bytes.getD (k / 8) 0).toNat.testBit (7 - k % 8)

/-- After one bit was set, the bits are as before but for this one. -/
theorem bitAt_set {bytes : List UInt8} {k : ℕ} (h : k / 8 < bytes.length) {position : UInt8}
    (hposition : position.toNat = k % 8) (j : ℕ) :
  bitAt (bytes.modify (k / 8) fun byte => set byte position) j = (j = k || bitAt bytes j)
  := by
  have hlt : position.toNat < 8 := by omega
  simp only [bitAt, List.getD_eq_getElem?_getD, List.getElem?_modify]
  by_cases hbyte : k / 8 = j / 8
  · have hj : bytes[j / 8]? = some (bytes.get ⟨j / 8, hbyte ▸ h⟩) :=
      List.getElem?_eq_getElem _
    simp only [hbyte, hj, if_true, Option.map_eq_map, Option.map_some, Option.getD_some,
      toNat_set _ hlt, Nat.testBit_or, Nat.testBit_two_pow, hposition]
    rw [Bool.or_comm]
    congr 2
    rw [eq_iff_iff]
    omega
  · have hne : j ≠ k := by
      rintro rfl
      exact hbyte rfl
    simp [hbyte, hne]

end Bitutil
