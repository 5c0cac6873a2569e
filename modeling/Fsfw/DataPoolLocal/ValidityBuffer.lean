import Fsfw.DataPoolLocal.LocalPoolDataSetBase

/-!
# Sets with a validity buffer

A set with a validity buffer should be written in as many bytes as it announces and be read back
from them, with the buffer pointers and the numbers of bytes moved by as much, so that sets can be
written and read one behind another (`Composes`).

The values and the flags of a set with at least one and at most 2040 variables are recovered.  But
the buffer pointer stays in front of the validity buffer when a set is written, and both the
pointer and the number of remaining bytes stay there when it is read; and a set without variables
is refused when it is read.  So no set composes (`not_composes`).
-/

namespace LocalPoolDataSetBase

open Serializer

/-! ### Positions in the validity buffer -/

namespace ValidityPosition

/-- The position of the flag of the variable `k`. -/
def ofNat (k : ℕ) : ValidityPosition :=
  ⟨UInt8.ofNat (k / 8), UInt8.ofNat (k % 8)⟩

theorem next_ofNat (k : ℕ) :
  (ofNat k).next = ofNat (k + 1)
  := by
  have hseven : (7 : UInt8) = UInt8.ofNat 7 := rfl
  have hone : (1 : UInt8) = UInt8.ofNat 1 := rfl
  have hbit : UInt8.ofNat (k % 8) = 7 ↔ k % 8 = 7 := by
    rw [← UInt8.toNat_inj, hseven, UInt8.toNat_ofNat', UInt8.toNat_ofNat']
    omega
  rw [next, ofNat, ofNat]
  simp only [hbit]
  split_ifs with hlast
  · rw [show (k + 1) / 8 = k / 8 + 1 by omega, show (k + 1) % 8 = 0 by omega, UInt8.ofNat_add]
    rfl
  · rw [show (k + 1) / 8 = k / 8 by omega, show (k + 1) % 8 = k % 8 + 1 by omega,
      UInt8.ofNat_add]
    rfl

theorem toNat_bit (k : ℕ) :
  (ofNat k).validBufferIndexBit.toNat = k % 8
  := by
  rw [ofNat, UInt8.toNat_ofNat']
  omega

theorem toNat_index {k : ℕ} (h : k / 8 < 2 ^ 8) :
  (ofNat k).validBufferIndex.toNat = k / 8
  := by
  rw [ofNat, UInt8.toNat_ofNat', Nat.mod_eq_of_lt h]

end ValidityPosition

theorem setValidityBit_ofNat {mask : List UInt8} (hmask : mask.length < 2 ^ 8) {k : ℕ}
    (h : k / 8 < mask.length) :
  ∃ mask', setValidityBit mask (.ofNat k) = some mask' ∧ mask'.length = mask.length ∧
    ∀ j, Bitutil.bitAt mask' j = (j = k || Bitutil.bitAt mask j)
  := by
  have hindex := ValidityPosition.toNat_index (k := k) (by omega)
  rw [setValidityBit, hindex, if_pos h]
  refine ⟨_, rfl, List.length_modify .., ?_⟩
  intro j
  exact Bitutil.bitAt_set h (ValidityPosition.toNat_bit k) j

/-- Afterwards the bit of the variable is its flag, if it was not set before. -/
theorem markValidity_ofNat (v : LocalPoolVariable) {mask : List UInt8}
    (hmask : mask.length < 2 ^ 8) {k : ℕ} (h : k / 8 < mask.length) :
  ∃ mask', markValidity v mask (.ofNat k) = some mask' ∧ mask'.length = mask.length ∧
    ∀ j, Bitutil.bitAt mask' j = (Bitutil.bitAt mask j || (j = k && v.valid))
  := by
  rw [markValidity]
  cases v.valid with
  | false => exact ⟨mask, rfl, rfl, by simp⟩
  | true =>
      obtain ⟨mask', hset, hlength, hbits⟩ := setValidityBit_ofNat hmask h
      refine ⟨mask', hset, hlength, ?_⟩
      intro j
      rw [hbits, Bool.and_true, Bool.or_comm]

theorem getValidityBit_ofNat {memory : List UInt8} {k : ℕ} (hk : k / 8 < 2 ^ 8)
    (h : k / 8 < memory.length) :
  getValidityBit memory (.ofNat k) = some (Bitutil.bitAt memory k)
  := by
  have hbit := ValidityPosition.toNat_bit k
  rw [getValidityBit, ValidityPosition.toNat_index hk, List.getElem?_eq_getElem h,
    Option.map_some, Bitutil.get_eq _ (by omega), hbit, Bitutil.bitAt, List.getD_eq_getElem _ _ h]

/-! ### Writing a set -/

/-- The flag of the variable `j` of a list. -/
def flagAt (vs : List LocalPoolVariable) (j : ℕ) : Bool :=
  vs[j]?.any LocalPoolVariable.valid

/-- The bytes of the values of variables. -/
def valueBytes (vs : List LocalPoolVariable) (e : Endianness) : List UInt8 :=
  vs.flatMap fun v => v.bytes e

/-- With room for them, the values are written, and the flags are added to the mask. -/
theorem serializeVariables_eq {maxSize : ℕ} {e : Endianness} {vs : List LocalPoolVariable}
    {mask : List UInt8} (hmask : mask.length < 2 ^ 8) {k : ℕ}
    (hk : k + vs.length ≤ 8 * mask.length) {b : SerialBuffer}
    (hroom : b.size + (valueBytes vs e).length ≤ maxSize) :
  ∃ mask', serializeVariables maxSize e vs mask (.ofNat k) b
      = some (.ok, mask', b.put (valueBytes vs e)) ∧ mask'.length = mask.length ∧
    ∀ j, Bitutil.bitAt mask' j = (Bitutil.bitAt mask j || (k ≤ j && flagAt vs (j - k)))
  := by
  induction vs generalizing mask k b with
  | nil =>
      refine ⟨mask, ?_, rfl, ?_⟩
      · simp [serializeVariables, valueBytes]
      · simp [flagAt]
  | cons v vs ih =>
      rw [valueBytes, List.flatMap_cons, List.length_append] at hroom
      rw [List.length_cons] at hk
      have hv := v.writesGivenRoom_serialize e (show b.size + _ ≤ maxSize by omega)
      obtain ⟨mask₁, hmark, hlength, hbits⟩ := markValidity_ofNat v hmask (k := k) (by omega)
      obtain ⟨mask', hrest, hlength', hbits'⟩ := ih (show mask₁.length < 2 ^ 8 by omega)
        (show k + 1 + vs.length ≤ 8 * mask₁.length by omega)
        (show (b.put (v.bytes e)).size + _ ≤ maxSize by
          rw [SerialBuffer.size_put]
          exact (Nat.add_assoc ..).trans_le hroom)
      refine ⟨mask', ?_, by omega, ?_⟩
      · simp only [serializeVariables, hmark, Option.bind_eq_bind, Option.bind_some, hv, if_true,
          ValidityPosition.next_ofNat, hrest, SerialBuffer.put_put]
        rfl
      · intro j
        rw [hbits', hbits, Bool.or_assoc]
        congr 1
        -- The flag `j` is the one of the first variable, or one of the others.
        rcases Nat.lt_trichotomy j k with hlt | rfl | hgt
        · have h₁ : ¬ k ≤ j := by omega
          have h₂ : ¬ k + 1 ≤ j := by omega
          have h₃ : j ≠ k := by omega
          simp [h₁, h₂, h₃]
        · simp [flagAt]
        · obtain ⟨i, rfl⟩ : ∃ i, j = k + 1 + i := ⟨j - (k + 1), by omega⟩
          have hne : k + 1 + i ≠ k := by omega
          have hle : k ≤ k + 1 + i := by omega
          have hsub : k + 1 + i - k = i + 1 := by omega
          simp [flagAt, hne, hle, hsub]

/-! ### Reading a set -/

/-- Variables that have the values of others are given their flags. -/
theorem setValidities_eq {memory : List UInt8} {vs ws : List LocalPoolVariable}
    (hvs : List.Forall₂ (fun v w => v.setValid w.valid = w) vs ws) {k : ℕ}
    (hk : k + vs.length ≤ 8 * 2 ^ 8) (hmemory : k + vs.length ≤ 8 * memory.length)
    (hbits : ∀ j < ws.length, Bitutil.bitAt memory (k + j) = flagAt ws j) :
  setValidities memory vs (.ofNat k) = some ws
  := by
  induction hvs generalizing k with
  | nil => rfl
  | @cons v w vs ws hv _ ih =>
      rw [List.length_cons] at hk hmemory
      have hbit : Bitutil.bitAt memory k = w.valid := hbits 0 (Nat.succ_pos _)
      have hrest : ∀ j < ws.length, Bitutil.bitAt memory (k + 1 + j) = flagAt ws j := by
        intro j hj
        rw [Nat.add_assoc, Nat.add_comm 1]
        exact hbits (j + 1) (Nat.succ_lt_succ hj)
      simp only [setValidities, getValidityBit_ofNat (show k / 8 < 2 ^ 8 by omega)
        (show k / 8 < memory.length by omega), hbit, Option.bind_eq_bind, Option.bind_some,
        ValidityPosition.next_ofNat, ih (by omega) (by omega) hrest, hv]
      rfl

/-- Variables of the same layout take the values from their bytes, and keep their flags. -/
theorem exists_values {e : Endianness} {olds vs : List LocalPoolVariable}
    (h : List.Forall₂ (fun old v => old.layout = v.layout) olds vs) :
  ∃ news, List.Forall₂ (fun old new : LocalPoolVariable => ∀ rest,
        LocalPoolVariable.deSerialize e old (new.bytes e ++ rest) = (.ok, new, rest)) olds news ∧
    valueBytes news e = valueBytes vs e ∧
    List.Forall₂ (fun new v => new.setValid v.valid = v) news vs
  := by
  induction h with
  | nil => exact ⟨[], .nil, rfl, .nil⟩
  | @cons old v olds vs hlayout _ ih =>
      obtain ⟨news, hread, hbytes, hvalues⟩ := ih
      refine ⟨v.setValid old.valid :: news, .cons ?_ hread, ?_, .cons ?_ hvalues⟩
      · intro rest
        exact LocalPoolVariable.deSerialize_bytes hlayout e rest
      · rw [valueBytes, List.flatMap_cons, LocalPoolVariable.bytes_setValid, ← valueBytes, hbytes]
        rfl
      · exact v.setValid_setValid_self old.valid

/-! ### The announced size -/

variable {set : LocalPoolDataSetBase}

theorem length_valueBytes (vs : List LocalPoolVariable) (e : Endianness) :
  (valueBytes vs e).length = (vs.map LocalPoolVariable.getSerializedSize).sum
  := by
  rw [valueBytes, List.length_flatMap]
  simp only [LocalPoolVariable.length_bytes]

theorem toNat_foldl_add (vs : List LocalPoolVariable) (size : UInt32) :
  (vs.foldl (fun (size : UInt32) v => size + UInt32.ofNat v.getSerializedSize) size).toNat
    = (size.toNat + (vs.map LocalPoolVariable.getSerializedSize).sum) % 2 ^ 32
  := by
  induction vs generalizing size with
  | nil => simp [Nat.mod_eq_of_lt size.toNat_lt]
  | cons v vs ih =>
      rw [List.foldl_cons, ih, UInt32.toNat_add, UInt32.toNat_ofNat', List.map_cons, List.sum_cons]
      omega

theorem validityMaskSize_eq_some (h : set.fillCount ≤ 2040) :
  set.validityMaskSize = some ((set.fillCount + 7) / 8)
  := by
  rw [validityMaskSize, if_pos (by omega)]

theorem validityMaskSize_eq_none (h : 2040 < set.fillCount) :
  set.validityMaskSize = none
  := by
  rw [validityMaskSize, if_neg (by omega)]

/-- The sizes of the values of up to 2040 variables are added up without an overflow. -/
theorem getSerializedSize_eq (hvalidity : set.withValidityBuffer = true)
    (h : set.fillCount ≤ 2040) (e : Endianness) :
  set.getSerializedSize
    = some ((set.fillCount + 7) / 8 + (valueBytes set.registeredVariables e).length)
  := by
  have hsum : (set.registeredVariables.map LocalPoolVariable.getSerializedSize).sum
      ≤ set.fillCount * 2 ^ 19 := by
    have hle := List.sum_le_card_nsmul
      (set.registeredVariables.map LocalPoolVariable.getSerializedSize) (2 ^ 19) (by
        intro size hsize
        obtain ⟨v, -, rfl⟩ := List.mem_map.mp hsize
        exact v.getSerializedSize_lt.le)
    rwa [List.length_map, smul_eq_mul] at hle
  have hvalues : set.getValuesSerializedSize = (valueBytes set.registeredVariables e).length := by
    rw [getValuesSerializedSize, toNat_foldl_add, length_valueBytes, UInt32.toNat_zero,
      Nat.zero_add, Nat.mod_eq_of_lt (by omega)]
  rw [getSerializedSize, if_pos hvalidity, validityMaskSize_eq_some h, hvalues]
  rfl

/-! ### What is to hold -/

/-- The bytes in the memory from where the buffer pointer was on. -/
def SetOutput.memory (out : SetOutput) (b : SerialBuffer) : List UInt8 :=
  (out.buffer.written ++ out.behind).drop b.written.length

/-- Two sets that have the same variables, up to the values and the flags of these. -/
structure SameLayout (set set' : LocalPoolDataSetBase) : Prop where
  layouts : List.Forall₂ (fun v w => v.layout = w.layout) set.registeredVariables
    set'.registeredVariables
  validityBuffer : set.withValidityBuffer = set'.withValidityBuffer

/-- With room for the announced size, the set is written in as many bytes, and the buffer pointer
and the number of used bytes are moved by as much. -/
def WritesAnnounced (set : LocalPoolDataSetBase) : Prop :=
  ∃ n ∈ set.getSerializedSize, ∀ {maxSize : ℕ} (e : Endianness) {b : SerialBuffer},
    b.size + n ≤ maxSize →
    ∃ bytes, bytes.length = n ∧ set.serialize maxSize e b = some ⟨.ok, b.put bytes, []⟩

/-- With room for the announced size, the set is written in as many bytes, and a set of the same
layout takes its values and its flags from them. -/
def RecoversValues (set : LocalPoolDataSetBase) : Prop :=
  ∃ n ∈ set.getSerializedSize, ∀ {maxSize : ℕ} (e : Endianness) {b : SerialBuffer},
    b.size + n ≤ maxSize →
    ∃ out, set.serialize maxSize e b = some out ∧ out.result = .ok ∧ (out.memory b).length = n ∧
      ∀ (old : LocalPoolDataSetBase) (trailing : List UInt8), old.SameLayout set →
        ∃ rest, old.deSerialize e (out.memory b ++ trailing) = some (.ok, set, rest)

/-- The set is written in as many bytes as it announces, and is read back from them in front of
any others, with the pointers and the numbers of bytes moved by as much. -/
structure Composes (set : LocalPoolDataSetBase) : Prop where
  writes : set.WritesAnnounced
  reads : ∀ {maxSize : ℕ} {e : Endianness} {b : SerialBuffer} {out : SetOutput},
    set.serialize maxSize e b = some out → out.result = .ok →
    ∀ (old : LocalPoolDataSetBase) (trailing : List UInt8), old.SameLayout set →
      old.deSerialize e (out.memory b ++ trailing) = some (.ok, set, trailing)

/-! ### What holds -/

/-- What writing a set leads to: the validity buffer is behind the buffer pointer. -/
theorem serialize_eq (hvalidity : set.withValidityBuffer = true) (h : set.fillCount ≤ 2040)
    {maxSize : ℕ} {e : Endianness} {b : SerialBuffer} (hroom : b.size
      + ((set.fillCount + 7) / 8 + (valueBytes set.registeredVariables e).length) ≤ maxSize) :
  ∃ mask, set.serialize maxSize e b = some ⟨.ok,
      { b.put (valueBytes set.registeredVariables e) with
        size := b.size + (valueBytes set.registeredVariables e).length
          + (set.fillCount + 7) / 8 }, mask⟩ ∧
    mask.length = (set.fillCount + 7) / 8 ∧
    ∀ j, Bitutil.bitAt mask j = flagAt set.registeredVariables j
  := by
  have hcount : set.registeredVariables.length = set.fillCount := rfl
  obtain ⟨mask, hvariables, hmask, hbits⟩ := serializeVariables_eq (e := e)
    (show (List.replicate ((set.fillCount + 7) / 8) 0).length < 2 ^ 8 by
      rw [List.length_replicate]
      omega)
    (show 0 + set.registeredVariables.length ≤ _ by
      rw [List.length_replicate]
      omega)
    (show b.size + _ ≤ maxSize by omega)
  rw [List.length_replicate] at hmask
  refine ⟨mask, ?_, hmask, ?_⟩
  · have hstart : ValidityPosition.start = .ofNat 0 := rfl
    rw [serialize, if_pos hvalidity, serializeWithValidityBuffer, validityMaskSize_eq_some h]
    simp only [Option.bind_eq_bind, Option.bind_some, hstart, hvariables, ne_eq,
      not_true_eq_false, if_false]
    rw [if_neg (by simp only [SerialBuffer.size_put]; omega)]
    rfl
  · intro j
    have hzero : Bitutil.bitAt (List.replicate ((set.fillCount + 7) / 8) 0) j = false := by
      rw [Bitutil.bitAt, List.getD_eq_getElem?_getD, List.getElem?_replicate]
      split_ifs
      · exact Nat.zero_testBit _
      · exact Nat.zero_testBit _
    rw [hbits, hzero]
    simp

/-- A set of the same layout takes the values and the flags, and leaves the validity buffer in
front of the trailing bytes. -/
theorem deSerialize_eq {old : LocalPoolDataSetBase} (hold : old.SameLayout set)
    (hvalidity : set.withValidityBuffer = true) (hne : 0 < set.fillCount)
    (h : set.fillCount ≤ 2040) {mask : List UInt8} (hmask : mask.length = (set.fillCount + 7) / 8)
    (hbits : ∀ j, Bitutil.bitAt mask j = flagAt set.registeredVariables j) (e : Endianness)
    (trailing : List UInt8) :
  old.deSerialize e (valueBytes set.registeredVariables e ++ mask ++ trailing)
    = some (.ok, set, mask ++ trailing)
  := by
  obtain ⟨news, hread, hbytes, hvalues⟩ := exists_values (e := e) hold.layouts
  have hlength : old.registeredVariables.length = set.registeredVariables.length :=
    hold.layouts.length_eq
  have hnews : news.length = set.registeredVariables.length := hvalues.length_eq
  have hcount : set.registeredVariables.length = set.fillCount := rfl
  have holdne : old.registeredVariables ≠ [] := by
    rw [← List.length_pos_iff]
    omega
  have hloop := Deserializer.loop_flatMap hread
    (show old.registeredVariables = [] → ReturnValue.failed = .ok from
      fun hnil => absurd hnil holdne)
    (mask ++ trailing)
  rw [← valueBytes, hbytes, ← List.append_assoc] at hloop
  have hflags : setValidities (mask ++ trailing) news .start = some set.registeredVariables := by
    apply setValidities_eq hvalues (k := 0)
    · omega
    · rw [List.length_append]
      omega
    · intro j hj
      rw [Nat.zero_add, ← hbits, Bitutil.bitAt, Bitutil.bitAt,
        List.getD_append _ _ _ _ (by omega)]
  rw [deSerialize, if_pos (hold.validityBuffer.trans hvalidity), deSerializeWithValidityBuffer]
  simp only [deSerializeValues, hloop, withVariables, ne_eq, not_true_eq_false, false_and, if_false,
    fillCount, List.length_append]
  rw [if_neg (by omega)]
  split
  · rename_i hnone
    simp only [hloop, hflags] at hnone
    cases hnone
  · rename_i vs hsome
    simp only [hloop, hflags] at hsome
    cases hsome
    obtain ⟨-, hbuffer⟩ := hold
    simp only [hbuffer]

theorem SameLayout.refl (set : LocalPoolDataSetBase) :
  set.SameLayout set
  := ⟨List.forall₂_same.mpr fun _ _ => rfl, rfl⟩

/-- A set without variables is refused when it is read. -/
theorem deSerialize_of_empty (hset : set.fillCount = 0) (e : Endianness) (buffer : List UInt8) :
  ∃ set' rest, set.deSerialize e buffer = some (.failed, set', rest)
  := by
  obtain ⟨registered, withValidityBuffer, hlt⟩ := set
  obtain rfl : registered = [] := List.length_eq_zero_iff.mp hset
  rw [deSerialize]
  split_ifs
  · have hlength : ¬ buffer.length < (0 + 7) / 8 := Nat.not_lt_zero _
    refine ⟨⟨[], withValidityBuffer, hlt⟩, buffer, ?_⟩
    rw [deSerializeWithValidityBuffer]
    simp only [deSerializeValues, Deserializer.loop, withVariables, fillCount, List.length_nil,
      ne_eq, not_true_eq_false, and_false, if_false, hlength]
    rfl
  · exact ⟨_, _, rfl⟩

/-- The pointer is moved over everything that is written only if there is nothing to write. -/
theorem writesAnnounced_iff (hvalidity : set.withValidityBuffer = true) :
  set.WritesAnnounced ↔ set.fillCount = 0
  := by
  constructor
  · rintro ⟨n, hn, hwrites⟩
    have hle : set.fillCount ≤ 2040 := by
      by_contra hgt
      rw [getSerializedSize, if_pos hvalidity, validityMaskSize_eq_none (by omega)] at hn
      cases hn
    rw [getSerializedSize_eq hvalidity hle .big] at hn
    cases hn
    obtain ⟨bytes, -, hserialize⟩ := hwrites .big (b := ⟨[], 0⟩) le_rfl
    obtain ⟨mask, hserialize', hmask, -⟩ := serialize_eq hvalidity hle (e := .big) (b := ⟨[], 0⟩)
      le_rfl
    rw [hserialize] at hserialize'
    have hnil : [] = mask := (SetOutput.mk.inj (Option.some.inj hserialize')).2.2
    rw [← hnil, List.length_nil] at hmask
    omega
  · intro hzero
    have hnil : set.registeredVariables = [] := List.length_eq_zero_iff.mp hzero
    refine ⟨_, getSerializedSize_eq hvalidity (by omega) .big, ?_⟩
    intro maxSize e b hroom
    refine ⟨[], ?_, ?_⟩
    · simp [hzero, hnil, valueBytes]
    · obtain ⟨mask, hserialize, hmask, -⟩ := serialize_eq hvalidity (by omega) (e := e)
        (show b.size + _ ≤ maxSize by simpa [hzero, hnil, valueBytes] using hroom)
      obtain rfl : mask = [] := List.length_eq_zero_iff.mp (by omega)
      simpa [hzero, hnil, valueBytes] using hserialize

/-- The values and the flags are recovered exactly from sets with 1 to 2040 variables. -/
theorem recoversValues_iff (hvalidity : set.withValidityBuffer = true) :
  set.RecoversValues ↔ 0 < set.fillCount ∧ set.fillCount ≤ 2040
  := by
  constructor
  · rintro ⟨n, hn, hrecovers⟩
    constructor
    · by_contra hzero
      obtain ⟨out, -, -, -, hread⟩ := hrecovers .big (b := ⟨[], 0⟩) le_rfl
      obtain ⟨rest, hset⟩ := hread set [] (.refl set)
      obtain ⟨_, _, hfailed⟩ := deSerialize_of_empty (show set.fillCount = 0 by omega) .big
        (out.memory ⟨[], 0⟩ ++ [])
      rw [hset] at hfailed
      cases hfailed
    · by_contra hgt
      rw [getSerializedSize, if_pos hvalidity, validityMaskSize_eq_none (by omega)] at hn
      cases hn
  · rintro ⟨hpos, hle⟩
    refine ⟨_, getSerializedSize_eq hvalidity hle .big, ?_⟩
    intro maxSize e b hroom
    have hlength : (valueBytes set.registeredVariables .big).length
        = (valueBytes set.registeredVariables e).length := by
      rw [length_valueBytes, length_valueBytes]
    obtain ⟨mask, hserialize, hmask, hbits⟩ := serialize_eq hvalidity hle (e := e)
      (show b.size + _ ≤ maxSize by omega)
    have hmemory : ∀ size, SetOutput.memory ⟨.ok,
        { b.put (valueBytes set.registeredVariables e) with size := size }, mask⟩ b
        = valueBytes set.registeredVariables e ++ mask := by
      intro size
      rw [SetOutput.memory, SerialBuffer.written_put, List.append_assoc, List.drop_left]
    refine ⟨_, hserialize, rfl, ?_, ?_⟩
    · rw [hmemory, List.length_append]
      omega
    · intro old trailing hold
      rw [hmemory]
      exact ⟨_, deSerialize_eq hold hvalidity hpos hle hmask hbits e trailing⟩

/-- No set with a validity buffer can be written and read one behind another.  The buffer pointer
is moved over all that is written only for a set without variables, which is refused when it is
read, and the values and the flags are recovered exactly from sets with 1 to 2040 variables. -/
theorem not_composes (set : LocalPoolDataSetBase) (hvalidity : set.withValidityBuffer = true) :
  ¬ set.Composes ∧ (set.WritesAnnounced ↔ set.fillCount = 0) ∧
    (set.RecoversValues ↔ 0 < set.fillCount ∧ set.fillCount ≤ 2040)
  := by
  refine ⟨?_, writesAnnounced_iff hvalidity, recoversValues_iff hvalidity⟩
  rintro ⟨hwrites, hreads⟩
  have hzero := (writesAnnounced_iff hvalidity).mp hwrites
  obtain ⟨n, -, hwrites⟩ := hwrites
  obtain ⟨bytes, -, hserialize⟩ := hwrites .big (b := ⟨[], 0⟩) le_rfl
  have hread := hreads hserialize rfl set [] (.refl set)
  obtain ⟨_, _, hfailed⟩ := deSerialize_of_empty hzero .big
    (SetOutput.memory ⟨.ok, SerialBuffer.put ⟨[], 0⟩ bytes, []⟩ ⟨[], 0⟩ ++ [])
  rw [hread] at hfailed
  cases hfailed

/-- A set of one valid variable of one byte. -/
def oneVariable : LocalPoolDataSetBase where
  registeredVariables := [⟨3, 1, [7], true, by decide, by decide, by decide, by decide⟩]
  withValidityBuffer := true
  fillCount_lt := by decide

theorem not_composes_oneVariable :
  oneVariable.withValidityBuffer = true ∧ ¬ oneVariable.Composes
  := ⟨rfl, (not_composes oneVariable rfl).1⟩

/-- The byte with the flag of the variable is written behind the buffer pointer. -/
theorem oneVariable_not_writesAnnounced :
  (oneVariable.getSerializedSize = some 2 ∧
      oneVariable.serialize 2 .big ⟨[], 0⟩ = some ⟨.ok, ⟨[7], 2⟩, [0x80]⟩ ∧
      (oneVariable.deSerialize .big [7, 0x80, 1]).map (fun (r, _, rest) => (r, rest))
        = some (.ok, [0x80, 1])) ∧
    ¬ ∀ set : LocalPoolDataSetBase, set.withValidityBuffer = true → set.Composes
  := by
  refine ⟨⟨rfl, rfl, rfl⟩, ?_⟩
  intro h
  obtain ⟨hwrites, -⟩ := h oneVariable rfl
  have hzero := (writesAnnounced_iff rfl).mp hwrites
  cases hzero

end LocalPoolDataSetBase
