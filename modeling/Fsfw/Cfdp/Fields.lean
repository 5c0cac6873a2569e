import Fsfw.Cfdp.Definitions
import Fsfw.Serialize.SerialBuffer

/-!
# Fields of variable width

A `VarLenField` is a number with a width of one, two or four bytes, in a union of which the
member of this width is used.  Other widths can be set, but are not serialized.  A `FileSize`
takes eight bytes when it is the one of a large file, and four bytes else, of which the upper
half is cut off.
-/

namespace Cfdp

open Serializer

/-- A number with its width.  `value` is the member of the union that belongs to the width,
and zero for the widths without a member. -/
structure VarLenField where
  width : WidthInBytes
  value : ℕ
  value_lt : value < 2 ^ (8 * width.toNat)

namespace VarLenField

/-- The field of width one with the value zero. -/
def default : VarLenField where
  width := .oneByte
  value := 0
  value_lt := by decide

/-- Zero fits in a field of any width. -/
theorem zero_lt (width : WidthInBytes) :
  0 < 2 ^ (8 * width.toNat)
  := by
  apply Nat.two_pow_pos

/-- Set the value.  A value that does not fit is rejected, and the field then left alone. -/
def setValue (field : VarLenField) (widthInBytes : WidthInBytes) (value : ℕ) :
    ReturnValue × VarLenField :=
  if widthInBytes = .oneByte ∨ widthInBytes = .twoBytes ∨ widthInBytes = .fourBytes then
    if hvalue : value < 2 ^ (8 * widthInBytes.toNat) then
      (.ok, ⟨widthInBytes, value, hvalue⟩)
    else
      (.failed, field)
  else
    (.ok, ⟨widthInBytes, 0, zero_lt widthInBytes⟩)

/-- The field with the given width and value, or the default one when the value does not
fit. -/
def new (width : WidthInBytes) (value : ℕ) : VarLenField :=
  (setValue default width value).2

def getSerializedSize (field : VarLenField) : ℕ :=
  field.width.toNat

/-- The width has a member of the union. -/
def Supported (width : WidthInBytes) : Prop :=
  width = .oneByte ∨ width = .twoBytes ∨ width = .fourBytes

instance (width : WidthInBytes) : Decidable (Supported width) :=
  inferInstanceAs (Decidable (_ ∨ _ ∨ _))

theorem Supported.pos {width : WidthInBytes} (h : Supported width) :
  0 < width.toNat
  := by
  rcases h with hw | hw | hw <;> rw [hw] <;> decide

-- A byte is written as such, and the wider members by the adapter.
def serialize (field : VarLenField) : Serializer :=
  fun maxSize e b =>
    if field.width = .oneByte then
      if maxSize < b.size + 1 then
        (SerializeIF.bufferTooShort, b)
      else
        (.ok, b.put [UInt8.ofNat field.value])
    else if field.width = .twoBytes then
      SerializeAdapter.serialize 2 field.value maxSize e b
    else if field.width = .fourBytes then
      SerializeAdapter.serialize 4 field.value maxSize e b
    else
      (.failed, b)

/-- The bytes of a field. -/
def bytes (field : VarLenField) : Endianness → List UInt8 :=
  SerializeAdapter.bytesOf field.width.toNat field.value

@[simp]
theorem length_bytes (field : VarLenField) (e : Endianness) :
  (field.bytes e).length = field.width.toNat
  := SerializeAdapter.length_bytesOf _ _ _

/-- A field of a supported width is written when there is room for it. -/
theorem serialize_eq (field : VarLenField) (maxSize : ℕ) (e : Endianness) (b : SerialBuffer) :
  field.serialize maxSize e b
    = if ¬ Supported field.width then (.failed, b)
      else if b.size + field.width.toNat ≤ maxSize then (.ok, b.put (field.bytes e))
      else (SerializeIF.bufferTooShort, b)
  := by
  obtain ⟨width, value, hvalue⟩ := field
  simp only [serialize, bytes, Supported, WidthInBytes.oneByte, WidthInBytes.twoBytes,
    WidthInBytes.fourBytes]
  by_cases h₁ : width = 1
  · have hone : SerializeAdapter.bytesOf 1 value e = [UInt8.ofNat value] := by
      cases e with
      | big => rfl
      | little => rfl
    by_cases hle : b.size + 1 ≤ maxSize
    · simp [h₁, hone, hle, Nat.not_lt.mpr hle]
    · simp [h₁, hle, Nat.lt_of_not_le hle]
  · by_cases h₂ : width = 2
    · simp [h₂, SerializeAdapter.serialize_eq]
    · by_cases h₄ : width = 4
      · simp [h₄, SerializeAdapter.serialize_eq]
      · simp [h₁, h₂, h₄]

theorem serialize_of_le {field : VarLenField} (hwidth : Supported field.width)
    {maxSize : ℕ} {b : SerialBuffer} (e : Endianness)
    (h : b.size + field.width.toNat ≤ maxSize) :
  field.serialize maxSize e b = (.ok, b.put (field.bytes e))
  := by
  rw [serialize_eq, if_neg (not_not.mpr hwidth), if_pos h]

/-- A field that is serialized has a supported width, and its bytes are written. -/
theorem serialize_eq_ok {field : VarLenField} {maxSize : ℕ} {e : Endianness}
    {b b' : SerialBuffer} (h : field.serialize maxSize e b = (.ok, b')) :
  Supported field.width ∧ b.size + field.width.toNat ≤ maxSize ∧ b' = b.put (field.bytes e)
  := by
  rw [serialize_eq] at h
  split at h
  · cases h
  · rename_i hwidth
    split at h
    · rename_i hle
      cases h
      exact ⟨not_not.mp hwidth, hle, rfl⟩
    · cases h

theorem writes_serialize (field : VarLenField) :
  Writes field.serialize field.bytes
  := fun h => (serialize_eq_ok h).2.2

end VarLenField

/-- The size of a file, or an offset into it. -/
structure FileSize where
  fileSize : UInt64
  largeFile : Bool

namespace FileSize

/-- The number of bytes of a file size, from the flag for large files. -/
def width (largeFile : Bool) : ℕ :=
  if largeFile then 8 else 4

def getSerializedSize (size : FileSize) : ℕ :=
  width size.largeFile

def serialize (size : FileSize) : Serializer :=
  if size.largeFile then
    SerializeAdapter.serialize 8 size.fileSize.toNat
  else
    SerializeAdapter.serialize 4 (size.fileSize.toNat % 2 ^ 32)

/-- Serialize with the flag for large files replaced by `isLarge`, which the object keeps. -/
def serializeAs (isLarge : Bool) (size : FileSize) : Serializer :=
  serialize { size with largeFile := isLarge }

/-- The bytes of a file size. -/
def bytes (size : FileSize) : Endianness → List UInt8 :=
  if size.largeFile then
    SerializeAdapter.bytesOf 8 size.fileSize.toNat
  else
    SerializeAdapter.bytesOf 4 (size.fileSize.toNat % 2 ^ 32)

@[simp]
theorem length_bytes (size : FileSize) (e : Endianness) :
  (size.bytes e).length = size.getSerializedSize
  := by
  obtain ⟨_, largeFile⟩ := size
  cases largeFile with
  | false => simp [bytes, getSerializedSize, width]
  | true => simp [bytes, getSerializedSize, width]

theorem serialize_eq (size : FileSize) (maxSize : ℕ) (e : Endianness) (b : SerialBuffer) :
  size.serialize maxSize e b
    = if b.size + size.getSerializedSize ≤ maxSize then (.ok, b.put (size.bytes e))
      else (SerializeIF.bufferTooShort, b)
  := by
  obtain ⟨_, largeFile⟩ := size
  cases largeFile with
  | false =>
      simp [serialize, bytes, getSerializedSize, width,
        SerializeAdapter.serialize_eq (show 0 < 4 by decide)]
  | true =>
      simp [serialize, bytes, getSerializedSize, width,
        SerializeAdapter.serialize_eq (show 0 < 8 by decide)]

theorem writesGivenRoom_serialize (size : FileSize) :
  WritesGivenRoom size.serialize size.bytes
  := by
  intro e maxSize b hroom
  rw [length_bytes] at hroom
  rw [serialize_eq, if_pos hroom]

theorem writes_serialize (size : FileSize) :
  Writes size.serialize size.bytes
  := by
  intro maxSize e b b' h
  rw [serialize_eq] at h
  split at h
  · cases h
    rfl
  · cases h

end FileSize

end Cfdp
