import Fsfw.GlobalFunctions.BitUtility
import Fsfw.Serialize.SerialBuffer

/-!
# Data sets of pool variables

A data set has a list of registered variables, each with a value, or a vector of values, of one
type, and a flag that says whether they are valid.  A set is serialized as the values of its
variables, one after another, and after them its validity buffer, with one bit for each variable.
The ids of the variables are serialized apart from the values.

The validity buffer is copied to where the buffer pointer is, and the number of used bytes is
increased, but the pointer is not moved: the bytes that are written behind it are kept apart
(`SetOutput`).  A set that is read back does not move anything over its validity buffer either.
The size of the validity buffer is rounded up as a number of floating point and converted to one
byte, which is undefined (`none`) for more than 255 bytes.
-/

/-! ### Loops with a result -/

/-- Serialize the items of a list one after another, up to the first failure.  Without any items
it is the result that was there before. -/
def Serializer.loop {α : Type*} (serialize : α → Serializer) (result : ReturnValue) :
    List α → Serializer
  | [], _, _, b => (result, b)
  | x :: xs, maxSize, e, b =>
      andThen (serialize x maxSize e b) fun b₁ => loop serialize .ok xs maxSize e b₁

/-- Read the objects of a list one after another, up to the first failure. -/
def Deserializer.loop {α : Type*} (read : Deserializer α) (result : ReturnValue) :
    Deserializer (List α)
  | _, [], buffer => (result, [], buffer)
  | e, x :: xs, buffer =>
      let (result₁, x, buffer) := read e x buffer
      if result₁ = .ok then
        let (result₂, xs, buffer) := loop read .ok e xs buffer
        (result₂, x :: xs, buffer)
      else
        (result₁, x :: xs, buffer)

namespace Serializer

variable {α : Type*} {serialize : α → Serializer}

theorem loop_ok (xs : List α) :
  loop serialize .ok xs = all serialize xs
  := by
  induction xs with
  | nil => rfl
  | cons x xs ih =>
      funext maxSize e b
      rw [loop, all, ih]

theorem loop_of_ne_nil {xs : List α} (h : xs ≠ []) (result : ReturnValue) :
  loop serialize result xs = all serialize xs
  := by
  cases xs with
  | nil => cases h rfl
  | cons x xs =>
      rw [← loop_ok]
      rfl

end Serializer

namespace Deserializer

variable {α : Type*} {read : Deserializer α}

theorem length_loop (result : ReturnValue) (e : Endianness) (xs : List α) (buffer : List UInt8) :
  (loop read result e xs buffer).2.1.length = xs.length
  := by
  induction xs generalizing result buffer with
  | nil => rfl
  | cons x xs ih =>
      simp only [loop]
      split_ifs
      · simp only [List.length_cons, ih]
      · rfl

/-- What holds of the objects before, and of every object that is read, holds of them then. -/
theorem loop_forall {P : α → Prop} (hread : ∀ e x buffer, P x → P (read e x buffer).2.1)
    (result : ReturnValue) (e : Endianness) {xs : List α} (hxs : ∀ x ∈ xs, P x)
    (buffer : List UInt8) :
  ∀ x ∈ (loop read result e xs buffer).2.1, P x
  := by
  induction xs generalizing result buffer with
  | nil => exact hxs
  | cons x xs ih =>
      obtain ⟨hx, hxs⟩ := List.forall_mem_cons.mp hxs
      have hx' := hread e x buffer hx
      simp only [loop]
      split_ifs
      · exact List.forall_mem_cons.mpr ⟨hx', ih .ok hxs _⟩
      · exact List.forall_mem_cons.mpr ⟨hx', hxs⟩

/-- Objects that are read one after another from their bytes. -/
theorem loop_flatMap {bytes : α → List UInt8} {e : Endianness} {olds news : List α}
    (h : List.Forall₂ (fun old new => ∀ rest, read e old (bytes new ++ rest) = (.ok, new, rest))
      olds news)
    {result : ReturnValue} (hresult : olds = [] → result = .ok) (rest : List UInt8) :
  loop read result e olds (news.flatMap bytes ++ rest) = (.ok, news, rest)
  := by
  induction h generalizing result with
  | nil => rw [loop, hresult rfl, List.flatMap_nil, List.nil_append]
  | cons hread _ ih =>
      rw [List.flatMap_cons, List.append_assoc, loop, hread]
      simp only [if_true]
      rw [ih fun _ => rfl]

end Deserializer

namespace SerializeAdapter

theorem convertBigEndian_lt (bytes : List UInt8) :
  convertBigEndian bytes < 2 ^ (8 * bytes.length)
  := by
  induction bytes using List.reverseRecOn with
  | nil => exact Nat.one_pos
  | append_singleton bytes byte ih =>
      have hbyte : byte.toNat < 2 ^ 8 := byte.toNat_lt
      rw [convertBigEndian] at ih ⊢
      rw [List.foldl_append, List.foldl_cons, List.foldl_nil, List.length_append,
        List.length_singleton, Nat.mul_add, Nat.pow_add]
      omega

theorem deSerializeNumber_lt (width : ℕ) (e : Endianness) {old : ℕ}
    (h : old < 2 ^ (8 * width)) (buffer : List UInt8) :
  (deSerializeNumber width e old buffer).2.1 < 2 ^ (8 * width)
  := by
  simp only [deSerializeNumber]
  split_ifs with hlength
  · have htake : (buffer.take width).length = width := List.length_take_of_le hlength
    cases e with
    | big => simpa only [htake] using convertBigEndian_lt (buffer.take width)
    | little =>
        simpa only [List.length_reverse, htake] using
          convertBigEndian_lt (buffer.take width).reverse
  · exact h

end SerializeAdapter

/-! ### Variables -/

/-- A pool variable with its values, numbers of `width` bytes.  A vector has as many of them as
its size says, and any other variable has one. -/
structure LocalPoolVariable where
  localPoolId : UInt32
  width : ℕ
  values : List ℕ
  valid : Bool
  width_mem : width ∈ [1, 2, 4, 8]
  values_ne_nil : values ≠ []
  length_values : values.length < 2 ^ 16
  values_lt : ∀ n ∈ values, n < 2 ^ (8 * width)

namespace LocalPoolVariable

theorem oneByte_mem :
  1 ∈ [1, 2, 4, 8]
  := by
  decide

def serialize (v : LocalPoolVariable) : Serializer :=
  Serializer.loop (SerializeAdapter.serialize v.width) .failed v.values

def getSerializedSize (v : LocalPoolVariable) : ℕ :=
  v.values.length * v.width

/-- The bytes of the values. -/
def bytes (v : LocalPoolVariable) (e : Endianness) : List UInt8 :=
  v.values.flatMap fun n => SerializeAdapter.bytesOf v.width n e

/-- Read other values. -/
def deSerialize : Deserializer LocalPoolVariable :=
  fun e v buffer =>
    let read := SerializeAdapter.deSerializeNumber v.width
    let values := Deserializer.loop read .failed e v.values buffer
    (values.1,
      { v with
        values := values.2.1
        values_ne_nil := by
          rw [← List.length_pos_iff, Deserializer.length_loop, List.length_pos_iff]
          exact v.values_ne_nil
        length_values := by
          rw [Deserializer.length_loop]
          exact v.length_values
        values_lt := by
          apply Deserializer.loop_forall
          · intro e n buffer hn
            exact SerializeAdapter.deSerializeNumber_lt v.width e hn buffer
          · exact v.values_lt },
      values.2.2)

def setValid (v : LocalPoolVariable) (valid : Bool) : LocalPoolVariable :=
  { v with valid := valid }

/-- What does not change: the id of a variable, and the type and the number of its values. -/
def layout (v : LocalPoolVariable) : UInt32 × ℕ × ℕ :=
  (v.localPoolId, v.width, v.values.length)

theorem width_pos (v : LocalPoolVariable) :
  0 < v.width
  := by
  have hwidth := v.width_mem
  simp only [List.mem_cons, List.not_mem_nil, or_false] at hwidth
  omega

@[simp]
theorem length_bytes (v : LocalPoolVariable) (e : Endianness) :
  (v.bytes e).length = v.getSerializedSize
  := by
  simp [bytes, getSerializedSize]

theorem getSerializedSize_lt (v : LocalPoolVariable) :
  v.getSerializedSize < 2 ^ 19
  := by
  have hlength := v.length_values
  have hwidth := v.width_mem
  simp only [List.mem_cons, List.not_mem_nil, or_false] at hwidth
  rw [getSerializedSize]
  rcases hwidth with hw | hw | hw | hw
  all_goals
    rw [hw]
    omega

theorem writesGivenRoom_serialize (v : LocalPoolVariable) :
  Serializer.WritesGivenRoom v.serialize v.bytes
  := by
  rw [serialize, Serializer.loop_of_ne_nil v.values_ne_nil]
  apply Serializer.writesGivenRoom_all
  intro n _
  exact SerializeAdapter.writesGivenRoom_serialize v.width_pos n

/-- A variable with the values of another one only needs its flag. -/
@[simp]
theorem setValid_setValid_self (v : LocalPoolVariable) (valid : Bool) :
  (v.setValid valid).setValid v.valid = v
  := rfl

@[simp]
theorem bytes_setValid (v : LocalPoolVariable) (valid : Bool) (e : Endianness) :
  (v.setValid valid).bytes e = v.bytes e
  := rfl

/-- A variable of the same layout takes the values from their bytes. -/
theorem deSerialize_bytes {old v : LocalPoolVariable} (h : old.layout = v.layout)
    (e : Endianness) (rest : List UInt8) :
  deSerialize e old (v.bytes e ++ rest) = (.ok, v.setValid old.valid, rest)
  := by
  obtain ⟨localPoolId, width, values, valid, hwidth, hne, hlength, hlt⟩ := v
  obtain ⟨localPoolId', width', values', valid', hwidth', hne', hlength', hlt'⟩ := old
  simp only [layout, Prod.mk.injEq] at h
  obtain ⟨rfl, rfl, hlengths⟩ := h
  have hvalues : Deserializer.loop (SerializeAdapter.deSerializeNumber width') .failed e values'
      ((values.flatMap fun n => SerializeAdapter.bytesOf width' n e) ++ rest)
      = (.ok, values, rest) := by
    apply Deserializer.loop_flatMap
    · apply List.forall₂_iff_get.mpr
      refine ⟨hlengths, ?_⟩
      intro i _ hi rest
      exact SerializeAdapter.deSerializeNumber_bytesOf (hlt _ (List.get_mem _ _)) e _ rest
    · intro hnil
      cases hne' hnil
  simp only [deSerialize, bytes, setValid, hvalues]

end LocalPoolVariable

/-! ### Data sets -/

/-- A data set, with as many variables as a number of 16 bits can count. -/
structure LocalPoolDataSetBase where
  registeredVariables : List LocalPoolVariable
  withValidityBuffer : Bool
  fillCount_lt : registeredVariables.length < 2 ^ 16

namespace LocalPoolDataSetBase

open Serializer

def fillCount (set : LocalPoolDataSetBase) : ℕ :=
  set.registeredVariables.length

/-! #### The ids of the variables -/

/-- The number of variables is cut to eight bits. -/
def serializeLocalPoolIds (set : LocalPoolDataSetBase) (serializeFillCount : Bool) :
    Serializer :=
  fun maxSize e b =>
    let fillCount := set.fillCount % 2 ^ 8
    -- The result of serializing the number is dropped.
    let b := if serializeFillCount then (SerializeAdapter.serialize 1 fillCount maxSize e b).2
      else b
    all (fun v => SerializeAdapter.serialize 4 v.localPoolId.toNat)
      (set.registeredVariables.take fillCount) maxSize e b

-- The size has eight bits.
def getLocalPoolIdsSerializedSize (set : LocalPoolDataSetBase) (serializeFillCount : Bool) :
    UInt8 :=
  if serializeFillCount then UInt8.ofNat (set.fillCount * 4 + 1)
  else UInt8.ofNat (set.fillCount * 4)

/-! #### The validity buffer -/

/-- A position in the validity buffer: a byte, and a bit of it. -/
structure ValidityPosition where
  validBufferIndex : UInt8
  validBufferIndexBit : UInt8

namespace ValidityPosition

def start : ValidityPosition := ⟨0, 0⟩

def next (p : ValidityPosition) : ValidityPosition :=
  if p.validBufferIndexBit = 7 then ⟨p.validBufferIndex + 1, 0⟩
  else ⟨p.validBufferIndex, p.validBufferIndexBit + 1⟩

end ValidityPosition

/-- The number of bytes with the validity flags, as a number of eight bits. -/
def validityMaskSize (set : LocalPoolDataSetBase) : Option ℕ :=
  let size := (set.fillCount + 7) / 8
  if size < 2 ^ 8 then some size else none

/-- Set a bit of the validity buffer. -/
def setValidityBit (mask : List UInt8) (p : ValidityPosition) : Option (List UInt8) :=
  if p.validBufferIndex.toNat < mask.length then
    some (mask.modify p.validBufferIndex.toNat fun byte => Bitutil.set byte p.validBufferIndexBit)
  else
    none

/-- Set the bit of a variable if it is valid. -/
def markValidity (v : LocalPoolVariable) (mask : List UInt8) (p : ValidityPosition) :
    Option (List UInt8) :=
  if v.valid then setValidityBit mask p else some mask

/-- Read a bit of the validity buffer, from the memory behind the buffer pointer. -/
def getValidityBit (memory : List UInt8) (p : ValidityPosition) : Option Bool :=
  memory[p.validBufferIndex.toNat]?.map fun byte => (Bitutil.get byte p.validBufferIndexBit false).2

/-! #### Serialization of a set -/

/-- What serializing a set leads to: the result, the buffer, and the bytes that were written
where the buffer pointer is. -/
structure SetOutput where
  result : ReturnValue
  buffer : SerialBuffer
  behind : List UInt8

/-- Serialize variables, with their flags in the mask from a position on. -/
def serializeVariables (maxSize : ℕ) (e : Endianness) :
    List LocalPoolVariable → List UInt8 → ValidityPosition → SerialBuffer →
      Option (ReturnValue × List UInt8 × SerialBuffer)
  | [], mask, _, b => some (.ok, mask, b)
  | v :: vs, mask, p, b => do
      let mask ← markValidity v mask p
      let (result, b) := v.serialize maxSize e b
      if result = .ok then
        serializeVariables maxSize e vs mask p.next b
      else
        some (result, mask, b)

def serializeWithValidityBuffer (set : LocalPoolDataSetBase) (maxSize : ℕ) (e : Endianness)
    (b : SerialBuffer) : Option SetOutput := do
  let validityMaskSize ← set.validityMaskSize
  let validityMask := List.replicate validityMaskSize 0
  let (result, validityMask, b) ←
    serializeVariables maxSize e set.registeredVariables validityMask .start b
  if result ≠ .ok then
    return ⟨result, b, []⟩
  else if b.size + validityMaskSize > maxSize then
    return ⟨SerializeIF.bufferTooShort, b, []⟩
  else
    return ⟨.ok, { b with size := b.size + validityMaskSize }, validityMask⟩

/-- The values only. -/
def serializeValues (set : LocalPoolDataSetBase) : Serializer :=
  loop LocalPoolVariable.serialize .failed set.registeredVariables

def serialize (set : LocalPoolDataSetBase) (maxSize : ℕ) (e : Endianness) (b : SerialBuffer) :
    Option SetOutput :=
  if set.withValidityBuffer then
    set.serializeWithValidityBuffer maxSize e b
  else
    let (result, b) := set.serializeValues maxSize e b
    some ⟨result, b, []⟩

/-- The sizes of the values are added up in a number of 32 bits. -/
def getValuesSerializedSize (set : LocalPoolDataSetBase) : ℕ :=
  (set.registeredVariables.foldl
    (fun (size : UInt32) v => size + UInt32.ofNat v.getSerializedSize) 0).toNat

def getSerializedSize (set : LocalPoolDataSetBase) : Option ℕ :=
  if set.withValidityBuffer then do
    let validityMaskSize ← set.validityMaskSize
    return validityMaskSize + set.getValuesSerializedSize
  else
    some set.getValuesSerializedSize

/-! #### Reading a set -/

/-- The set with other contents of its variables. -/
def withVariables (set : LocalPoolDataSetBase) (vs : List LocalPoolVariable)
    (h : vs.length = set.registeredVariables.length) : LocalPoolDataSetBase where
  registeredVariables := vs
  withValidityBuffer := set.withValidityBuffer
  fillCount_lt := h ▸ set.fillCount_lt

/-- Read the values only. -/
def deSerializeValues (set : LocalPoolDataSetBase) (e : Endianness) (buffer : List UInt8) :
    ReturnValue × LocalPoolDataSetBase × List UInt8 :=
  let read := Deserializer.loop LocalPoolVariable.deSerialize .failed e
    set.registeredVariables buffer
  (read.1, set.withVariables read.2.1 (Deserializer.length_loop _ _ _ _), read.2.2)

/-- Give variables the flags that are read from the memory behind the buffer pointer, from a
position on. -/
def setValidities (memory : List UInt8) :
    List LocalPoolVariable → ValidityPosition → Option (List LocalPoolVariable)
  | [], _ => some []
  | v :: vs, p => do
      let nextVarValid ← getValidityBit memory p
      let vs ← setValidities memory vs p.next
      return v.setValid nextVarValid :: vs

theorem length_setValidities {memory : List UInt8} {vs vs' : List LocalPoolVariable}
    {p : ValidityPosition} (h : setValidities memory vs p = some vs') :
  vs'.length = vs.length
  := by
  induction vs generalizing p vs' with
  | nil =>
      cases h
      rfl
  | cons v vs ih =>
      simp only [setValidities, Option.bind_eq_bind, Option.bind_eq_some_iff] at h
      obtain ⟨_, -, tail, htail, h⟩ := h
      cases h
      rw [List.length_cons, List.length_cons, ih htail]

def deSerializeWithValidityBuffer (set : LocalPoolDataSetBase) (e : Endianness)
    (buffer : List UInt8) : Option (ReturnValue × LocalPoolDataSetBase × List UInt8) :=
  let (result, set, buffer) := set.deSerializeValues e buffer
  -- A set without variables goes on with the result that was there before.
  if result ≠ .ok ∧ set.registeredVariables ≠ [] then
    some (result, set, buffer)
  else if buffer.length < (set.fillCount + 7) / 8 then
    some (SerializeIF.streamTooShort, set, buffer)
  else
    match h : setValidities buffer set.registeredVariables .start with
    | none => none
    | some vs => some (result, set.withVariables vs (length_setValidities h), buffer)

def deSerialize (set : LocalPoolDataSetBase) (e : Endianness) (buffer : List UInt8) :
    Option (ReturnValue × LocalPoolDataSetBase × List UInt8) :=
  if set.withValidityBuffer then
    set.deSerializeWithValidityBuffer e buffer
  else
    some (set.deSerializeValues e buffer)

end LocalPoolDataSetBase
