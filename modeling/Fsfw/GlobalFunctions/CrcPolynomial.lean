import Fsfw.GlobalFunctions.CRC
import Fsfw.Library.PolynomialDivision

/-!
# The checksum as a remainder

The checksum is worked out with a table, a byte at a time.  This is the same as a shift register of
16 bits that takes the bits of the bytes, the most significant one first, and is divided by
`0x1021` (`crc16ccitt_eq_crcSerial`).  Its content is the remainder of a polynomial over two
elements (`remainder_crcSerial`).

So the checksum of a string goes on from that of its beginning, and a string followed by its
checksum has the checksum zero, which a change of bits within 16 in a row never keeps
(`crc16ccitt_checks`).
-/

open Polynomial ShiftRegister

namespace CRC

/-- What is subtracted from the register when a bit leaves it.
-/
def feedback (bit : Bool) : UInt16 :=
  if bit then 0x1021 else 0

/-- Shift one more bit into the register. -/
def shiftBit (crc : UInt16) (bit : Bool) : UInt16 :=
  (crc <<< 1) ^^^ feedback (crc.toBitVec.msb ^^ bit)

def crcSerial (input : List Bool) (startingCrc : UInt16) : UInt16 :=
  input.foldl shiftBit startingCrc

/-- The bits of a word, the most significant one first. -/
def wordBits {w : ℕ} (word : BitVec w) : List Bool :=
  (List.range w).map word.getMsbD

/-- The bits of a string of bytes. -/
def bits (input : List UInt8) : List Bool :=
  input.flatMap fun byte => wordBits byte.toBitVec

/-! ### The table -/

theorem feedback_xor (bit bit' : Bool) :
  feedback (bit ^^ bit') = feedback bit ^^^ feedback bit'
  := by
  cases bit <;> cases bit' <;> rfl

/-- Shifting is linear. -/
theorem shiftBit_xor (crc crc' : UInt16) (bit bit' : Bool) :
  shiftBit (crc ^^^ crc') (bit ^^ bit') = shiftBit crc bit ^^^ shiftBit crc' bit'
  := by
  have hfeedback : feedback ((crc ^^^ crc').toBitVec.msb ^^ (bit ^^ bit'))
      = feedback (crc.toBitVec.msb ^^ bit) ^^^ feedback (crc'.toBitVec.msb ^^ bit') := by
    rw [UInt16.toBitVec_xor, BitVec.msb_xor, ← feedback_xor]
    rw [Bool.xor_assoc, Bool.xor_assoc, Bool.xor_left_comm bit]
  rw [shiftBit, shiftBit, shiftBit, hfeedback, UInt16.shiftLeft_xor]
  ac_rfl

theorem crcSerial_xor {input input' : List Bool} (h : input.length = input'.length)
    (crc crc' : UInt16) :
  crcSerial (List.zipWith (· ^^ ·) input input') (crc ^^^ crc')
    = crcSerial input crc ^^^ crcSerial input' crc'
  := by
  induction input generalizing input' crc crc' with
  | nil =>
      rw [List.length_nil, eq_comm, List.length_eq_zero_iff] at h
      rw [h]
      rfl
  | cons bit input ih =>
      cases input' with
      | nil => cases h
      | cons bit' input' =>
          rw [List.length_cons, List.length_cons, Nat.add_right_cancel_iff] at h
          rw [List.zipWith_cons_cons, crcSerial, List.foldl_cons, shiftBit_xor]
          apply ih h

/-- A register goes on as its parts would, to which the bits are added in any way. -/
theorem crcSerial_zeros (input : List Bool) (crc crc' : UInt16) :
  crcSerial input (crc ^^^ crc')
    = crcSerial input crc ^^^ crcSerial (List.replicate input.length false) crc'
  := by
  have hzeros : List.zipWith (· ^^ ·) input (List.replicate input.length false) = input := by
    rw [← List.map_const', List.zipWith_map_right, List.zipWith_self]
    simp
  rw [← crcSerial_xor (by rw [List.length_replicate]), hzeros]

theorem crcSerial_append (input input' : List Bool) (startingCrc : UInt16) :
  crcSerial (input ++ input') startingCrc = crcSerial input' (crcSerial input startingCrc)
  := List.foldl_append

/-- The table has what the register is after a byte and eight zeros. -/
theorem crcSerial_table :
  ∀ n < 256,
    crcSerial (List.replicate 8 false) (UInt16.ofNat n <<< 8) = crc16ccittTable.getD n 0
  := by
  decide +kernel

/-- A byte that is already in the upper half of the register empties it. -/
theorem crcSerial_byte :
  ∀ n < 256, crcSerial (wordBits (UInt8.ofNat n).toBitVec) (UInt16.ofNat n <<< 8) = 0
  := by
  decide +kernel

/-- The lower half of the register moves into the upper one. -/
theorem crcSerial_lower :
  ∀ n < 256, crcSerial (List.replicate 8 false) (UInt16.ofNat n) = UInt16.ofNat n <<< 8
  := by
  decide +kernel

/-- The halves of a register. -/
theorem xor_halves (crc : UInt16) :
  ((crc >>> 8) <<< 8) ^^^ (crc &&& 0xff) = crc
  := by
  apply UInt16.toBitVec_inj.mp
  ext i hi
  simp
  interval_cases i <;> simp

theorem lower_shiftLeft (crc : UInt16) :
  (crc &&& 0xff) <<< 8 = crc <<< 8
  := by
  apply UInt16.toBitVec_inj.mp
  ext i hi
  simp
  interval_cases i <;> simp

theorem index_eq (crc : UInt16) (data : UInt8) :
  ((crc >>> 8) ^^^ data.toUInt16) &&& (0xff : UInt16) = (crc >>> 8) ^^^ data.toUInt16
  := by
  apply UInt16.toBitVec_inj.mp
  ext i hi
  simp
  interval_cases i <;> simp

/-- The byte, the index into the table and the lower half of a register make up the register. -/
theorem xor_parts (crc : UInt16) (data : UInt8) :
  (data.toUInt16 <<< 8) ^^^ ((((crc >>> 8) ^^^ data.toUInt16) <<< 8) ^^^ (crc &&& 0xff)) = crc
  := by
  rw [UInt16.shiftLeft_xor, UInt16.xor_comm ((crc >>> 8) <<< 8), UInt16.xor_assoc,
    ← UInt16.xor_assoc (data.toUInt16 <<< 8), UInt16.xor_self, UInt16.zero_xor, xor_halves]

/-- What is in the upper half of the register goes through the table, together with the byte. -/
theorem crc16ccittStep_eq_crcSerial (crc : UInt16) (data : UInt8) :
  crc16ccittStep crc data = crcSerial (wordBits data.toBitVec) crc
  := by
  have hlength : (wordBits data.toBitVec).length = 8 := by
    rw [wordBits, List.length_map, List.length_range]
  have hindex : ((crc >>> 8) ^^^ data.toUInt16).toNat < 256 := by
    rw [← index_eq, UInt16.toNat_and]
    exact Nat.and_lt_two_pow _ (by decide : (0xff : UInt16).toNat < 2 ^ 8)
  have htable := crcSerial_table _ hindex
  have hbyte := crcSerial_byte data.toNat data.toNat_lt
  have hlower := crcSerial_lower (crc &&& 0xff).toNat (by
    rw [UInt16.toNat_and]
    exact Nat.and_lt_two_pow _ (by decide : (0xff : UInt16).toNat < 2 ^ 8))
  rw [UInt16.ofNat_toNat] at htable hlower
  rw [UInt8.ofNat_toNat, UInt16.ofNat_uInt8ToNat] at hbyte
  conv_rhs => rw [← xor_parts crc data]
  rw [crcSerial_zeros, hlength, hbyte, crcSerial_zeros, List.length_replicate, htable, hlower,
    lower_shiftLeft, UInt16.zero_xor, crc16ccittStep, index_eq, and_ffff]

theorem crc16ccitt_eq_crcSerial (input : List UInt8) (startingCrc : UInt16) :
  crc16ccitt input startingCrc = crcSerial (bits input) startingCrc
  := by
  rw [crc16ccitt, and_ffff]
  induction input generalizing startingCrc with
  | nil =>
      rfl
  | cons data input ih =>
      rw [List.foldl_cons, ih, crc16ccittStep_eq_crcSerial, ← crcSerial_append]
      rfl

/-! ### The remainder -/

/-- The polynomial with the lower coefficients `0x1021`. -/
noncomputable def generator : (ZMod 2)[X] :=
  X ^ 16 + (X ^ 12 + X ^ 5 + 1)

def coefficient (bit : Bool) : ZMod 2 :=
  if bit then 1 else 0

/-- The polynomial that a register has. -/
noncomputable def remainder (crc : UInt16) : (ZMod 2)[X] :=
  word ((wordBits crc.toBitVec).map coefficient)

theorem monic_generator :
  generator.Monic
  := by
  apply monic_X_pow_add
  compute_degree!

theorem natDegree_generator :
  generator.natDegree = 16
  := by
  rw [generator]
  compute_degree!

theorem isUnit_coeff_generator :
  IsUnit (generator.coeff 0)
  := by
  simp [generator]

theorem coefficient_xor (bit bit' : Bool) :
  coefficient (bit ^^ bit') = coefficient bit + coefficient bit'
  := by
  cases bit <;> cases bit' <;> decide

theorem wordBits_xor {w : ℕ} (a b : BitVec w) :
  wordBits (a ^^^ b) = List.zipWith (· ^^ ·) (wordBits a) (wordBits b)
  := by
  simp [wordBits, List.zipWith_map, List.zipWith_self]

theorem remainder_xor (crc crc' : UInt16) :
  remainder (crc ^^^ crc') = remainder crc + remainder crc'
  := by
  rw [remainder, UInt16.toBitVec_xor, wordBits_xor, remainder, remainder, ← word_zipWith_add]
  · simp [List.map_zipWith, List.zipWith_map, coefficient_xor]
  · simp [wordBits]

/-- The polynomial of the bits that stay in the register when it is shifted. -/
noncomputable def lower (crc : UInt16) : (ZMod 2)[X] :=
  word (((List.range 15).map fun i => crc.toBitVec.getMsbD (i + 1)).map coefficient)

theorem remainder_eq (crc : UInt16) :
  remainder crc = C (coefficient crc.toBitVec.msb) * X ^ 15 + lower crc
  := by
  rw [remainder, wordBits, List.range_succ_eq_map, List.map_cons, List.map_cons, word, lower]
  simp [BitVec.msb, Function.comp_def]

theorem remainder_shiftLeft (crc : UInt16) :
  remainder (crc <<< 1) = lower crc * X
  := by
  have hbits : wordBits (crc <<< 1).toBitVec
      = ((List.range 15).map fun i => crc.toBitVec.getMsbD (i + 1)) ++ [false] := by
    rw [wordBits, List.range_succ]
    simp
  rw [remainder, hbits, List.map_append, word_append, lower]
  simp [word, coefficient]

theorem degree_remainder_lt (crc : UInt16) :
  (remainder crc).degree < generator.degree
  := by
  rw [degree_eq_natDegree monic_generator.ne_zero, natDegree_generator]
  apply (degree_word_lt _).trans_eq
  simp [wordBits]

theorem remainder_modByMonic (crc : UInt16) :
  remainder crc %ₘ generator = remainder crc
  := (modByMonic_eq_self_iff monic_generator).mpr (degree_remainder_lt crc)

theorem remainder_feedback (bit : Bool) :
  remainder (feedback bit) = C (coefficient bit) * (X ^ 12 + X ^ 5 + 1)
  := by
  have hzero : wordBits (0 : UInt16).toBitVec = List.replicate 16 false := by decide
  have hpolynomial : wordBits (0x1021 : UInt16).toBitVec
      = [false, false, false, true, false, false, false, false, false, false, true, false, false,
        false, false, true] := by decide
  cases bit with
  | false =>
      rw [feedback, if_neg (by decide), remainder, hzero, word_eq_zero (by simp [coefficient])]
      simp [coefficient]
  | true =>
      rw [feedback, if_pos rfl, remainder, hpolynomial]
      simp [coefficient, word, add_assoc]

/-- One step of the register is one of the division. -/
theorem remainder_shiftBit (crc : UInt16) (bit : Bool) :
  remainder (shiftBit crc bit) = step generator (remainder crc) (coefficient bit)
  := by
  have hdegree := degree_remainder_lt (shiftBit crc bit)
  have htwice := CharTwo.add_self_eq_zero
    (C (coefficient crc.toBitVec.msb + coefficient bit) * (X ^ 12 + X ^ 5 + 1) : (ZMod 2)[X])
  rw [step, natDegree_generator, eq_comm]
  apply (div_modByMonic_unique (C (coefficient crc.toBitVec.msb + coefficient bit)) _
    monic_generator ⟨_, hdegree⟩).2
  rw [shiftBit, remainder_xor, remainder_shiftLeft, remainder_feedback, coefficient_xor,
    remainder_eq, generator]
  simp only [C_add] at htwice ⊢
  linear_combination htwice

theorem remainder_crcSerial (input : List Bool) (startingCrc : UInt16) :
  remainder (crcSerial input startingCrc)
    = divide generator (remainder startingCrc) (input.map coefficient)
  := by
  induction input generalizing startingCrc with
  | nil =>
      rfl
  | cons bit input ih =>
      rw [crcSerial, List.foldl_cons, ← crcSerial, ih, remainder_shiftBit]
      rfl

/-! ### Errors -/

theorem wordBits_inj {w : ℕ} {a b : BitVec w} :
  wordBits a = wordBits b ↔ a = b
  := by
  constructor
  · intro h
    apply BitVec.eq_of_getMsbD_eq
    intro i hi
    apply List.map_inj_left.mp h i (List.mem_range.mpr hi)
  · apply congrArg

theorem length_bits (input : List UInt8) :
  (bits input).length = 8 * input.length
  := by
  simp [bits, wordBits, List.length_flatMap, Nat.mul_comm]

theorem bits_inj {input input' : List UInt8} (h : bits input = bits input') :
  input = input'
  := by
  have hlength := congrArg List.length h
  rw [length_bits, length_bits] at hlength
  induction input generalizing input' with
  | nil =>
      rw [eq_comm, ← List.length_eq_zero_iff]
      simp only [List.length_nil] at hlength
      omega
  | cons byte input ih =>
      cases input' with
      | nil => cases hlength
      | cons byte' input' =>
          rw [bits, List.flatMap_cons, bits, List.flatMap_cons] at h
          obtain ⟨hbyte, hrest⟩ := List.append_inj h (by simp [wordBits])
          rw [List.length_cons, List.length_cons] at hlength
          rw [UInt8.toBitVec_inj.mp (wordBits_inj.mp hbyte), ih hrest (by omega)]

/-- What is received instead of a string: as many bytes, of which only bits within 16 in a row are
others. -/
structure Corrupts (code corrupted : List UInt8) : Prop where
  length_eq : corrupted.length = code.length
  ne : corrupted ≠ code
  window : ∃ start, ∀ i, (bits corrupted)[i]? ≠ (bits code)[i]? → start ≤ i ∧ i < start + 16

/-- The bits that are others. -/
def errors (code corrupted : List UInt8) : List Bool :=
  List.zipWith (· ^^ ·) (bits corrupted) (bits code)

theorem errors_eq_true_iff {code corrupted : List UInt8} (h : corrupted.length = code.length)
    (i : ℕ) :
  (errors code corrupted)[i]? = some true ↔ (bits corrupted)[i]? ≠ (bits code)[i]?
  := by
  have hlength : (bits corrupted).length = (bits code).length := by
    rw [length_bits, length_bits, h]
  by_cases hi : i < (bits code).length
  · rw [errors, List.getElem?_zipWith, List.getElem?_eq_getElem hi,
      List.getElem?_eq_getElem (hlength ▸ hi)]
    simp
  · rw [errors, List.getElem?_zipWith, List.getElem?_eq_none (by omega),
      List.getElem?_eq_none (by omega)]
    simp

/-- The errors alone leave a remainder. -/
theorem Corrupts.crcSerial_errors_ne_zero {code corrupted : List UInt8}
    (h : Corrupts code corrupted) :
  crcSerial (errors code corrupted) 0 ≠ 0
  := by
  obtain ⟨start, hwindow⟩ := h.window
  obtain ⟨i, hi⟩ : ∃ i, (bits corrupted)[i]? ≠ (bits code)[i]? := by
    by_contra hsame
    push Not at hsame
    apply h.ne (bits_inj (List.ext_getElem? hsame))
  intro hzero
  have hremainder : remainder 0 = 0 := by
    simpa [feedback, coefficient] using remainder_feedback false
  have hdivide := remainder_crcSerial (errors code corrupted) 0
  rw [hzero, hremainder, eq_comm] at hdivide
  apply divide_burst_ne_zero monic_generator isUnit_coeff_generator _ _ hdivide
  · use start
  · use 1
    constructor
    · apply List.mem_map_of_mem
        (List.mem_of_getElem? ((errors_eq_true_iff h.length_eq i).mpr hi))
    · decide
  · intro i b hb hne
    rw [List.getElem?_map, Option.map_eq_some_iff] at hb
    obtain ⟨bit, hbit, rfl⟩ := hb
    cases bit with
    | false => cases hne rfl
    | true =>
        rw [natDegree_generator]
        apply hwindow i ((errors_eq_true_iff h.length_eq i).mp hbit)

/-- The polynomial of a string. -/
noncomputable def message (input : List UInt8) : (ZMod 2)[X] :=
  word ((bits input).map coefficient)

theorem crc16ccitt_append (input input' : List UInt8) (startingCrc : UInt16) :
  crc16ccitt (input ++ input') startingCrc = crc16ccitt input' (crc16ccitt input startingCrc)
  := by
  simp only [crc16ccitt, and_ffff, List.foldl_append]

theorem remainder_crc16ccitt (input : List UInt8) (startingCrc : UInt16) :
  remainder (crc16ccitt input startingCrc)
    = (X ^ (8 * input.length) * remainder startingCrc + X ^ 16 * message input) %ₘ generator
  := by
  rw [crc16ccitt_eq_crcSerial, remainder_crcSerial,
    divide_eq monic_generator (remainder_modByMonic startingCrc), List.length_map, length_bits,
    natDegree_generator, message]

/-- A string that has the checksum zero does not have it any more after a corruption. -/
theorem Corrupts.crc16ccitt_ne_zero {code corrupted : List UInt8} {startingCrc : UInt16}
    (h : Corrupts code corrupted) (hvalid : crc16ccitt code startingCrc = 0) :
  crc16ccitt corrupted startingCrc ≠ 0
  := by
  have hlength : (bits corrupted).length = (bits code).length := by
    rw [length_bits, length_bits, h.length_eq]
  intro hzero
  apply h.crcSerial_errors_ne_zero
  have hxor := crcSerial_xor hlength startingCrc startingCrc
  rw [UInt16.xor_self, ← crc16ccitt_eq_crcSerial, ← crc16ccitt_eq_crcSerial, hzero, hvalid,
    UInt16.xor_self] at hxor
  apply hxor

/-- The checksum is that of the shift register, and the remainder of the division; it goes on from
that of the beginning of a string; and a string with its checksum has the checksum zero, unlike
anything with errors within 16 bits in a row that is received instead. -/
theorem crc16ccitt_checks (input : List UInt8) (startingCrc : UInt16) :
  crc16ccitt input startingCrc = crcSerial (bits input) startingCrc ∧
    remainder (crc16ccitt input startingCrc)
      = (X ^ (8 * input.length) * remainder startingCrc + X ^ 16 * message input) %ₘ generator ∧
    (∀ input', crc16ccitt (input ++ input') startingCrc
      = crc16ccitt input' (crc16ccitt input startingCrc)) ∧
    crc16ccitt (input ++ [highByte (crc16ccitt input startingCrc),
      lowByte (crc16ccitt input startingCrc)]) startingCrc = 0 ∧
    ∀ corrupted, Corrupts (input ++ [highByte (crc16ccitt input startingCrc),
      lowByte (crc16ccitt input startingCrc)]) corrupted →
        crc16ccitt corrupted startingCrc ≠ 0
  := by
  have hvalid := crc16ccitt_append_crc input startingCrc
  use crc16ccitt_eq_crcSerial input startingCrc, remainder_crc16ccitt input startingCrc,
    fun input' => crc16ccitt_append input input' startingCrc, hvalid
  intro corrupted h
  apply h.crc16ccitt_ne_zero hvalid

end CRC
