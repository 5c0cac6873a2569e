import Fsfw.Cfdp.ReadBuffer

/-!
# Round trips of entity ids and fault handlers

A field that is written with enough room should take as many bytes as it announces, and be read
back from every buffer that begins with these bytes, with the buffer pointer and the number of
remaining bytes moved by as much (`Decodes`).  When it cannot be read, the number should not have
grown (`NeverGrows`).

Nothing grows when reading fails.  But a field of one byte is left in the buffer and counted as one
more byte that remains, and so is an entity id of one byte, while the length and the codes of an
override of a fault handler are added to the number of remaining bytes (`decodes_iff`).
-/

namespace Cfdp

open ReadBuffer

/-! ### Overrides of fault handlers -/

namespace FaultHandlerOverrideTlv

def getSerializedSize (tlv : FaultHandlerOverrideTlv) : ℕ :=
  tlv.getLengthField.toNat + 2

/-- An object that an override is read into. The codes are casts of four bits. -/
structure Received where
  conditionCode : ℕ
  handlerCode : ℕ

namespace Received

def getLengthField (_ : Received) : UInt8 := 1

/-- Move the buffer pointer, and add the bytes to the ones that remain. -/
def advanceAdding (b : ReadBuffer) (n : ℕ) : ReadBuffer where
  memory := b.memory.drop n
  size := b.size + n

-- The type is taken from the remaining bytes, and the length and the codes are added to them.
def deSerialize (tlv : Received) (b : ReadBuffer) : Option (ReadResult Received) :=
  if b.size < 3 then
    some (SerializeIF.streamTooShort, tlv, b)
  else do
    let detectedType ← b.byte
    if detectedType.toNat ≠ TlvType.faultHandler.code then
      return (invalidTlvType, tlv, b)
    else
      let b := b.advance 1
      let detectedSize ← b.byte
      if detectedSize ≠ tlv.getLengthField then
        return (.failed, tlv, b)
      else
        let b := advanceAdding b 1
        let codes ← b.byte
        return (.ok, ⟨((codes >>> 4) &&& 0x0f).toNat, (codes &&& 0x0f).toNat⟩, advanceAdding b 1)

/-- The object holds the override. -/
structure Holds (object : Received) (tlv : FaultHandlerOverrideTlv) : Prop where
  conditionCode_eq : object.conditionCode = tlv.conditionCode.code
  handlerCode_eq : object.handlerCode = tlv.handlerCode.code

end Received

/-- The codes are read back from their byte, the condition code without its upper half. -/
theorem codes_byte (conditionCode : ConditionCode) (handlerCode : FaultHandlerCode) :
  (((UInt8.ofNat (conditionCode.code <<< 4 ||| handlerCode.code)) >>> 4) &&& 0x0f).toNat
      = conditionCode.code % 2 ^ 4 ∧
    ((UInt8.ofNat (conditionCode.code <<< 4 ||| handlerCode.code)) &&& 0x0f).toNat
      = handlerCode.code
  := by
  cases conditionCode <;> cases handlerCode <;> decide

theorem serialize_of_le (tlv : FaultHandlerOverrideTlv) {maxSize : ℕ} (e : Endianness)
    {b : SerialBuffer} (hroom : b.size + tlv.getSerializedSize ≤ maxSize) :
  tlv.serialize maxSize e b = (.ok, b.put tlv.bytes)
  := by
  have hsize : tlv.getSerializedSize = 3 := rfl
  rw [serialize, if_neg (by omega)]

/-- What is read from the bytes of an override. -/
theorem deSerialize_bytes (tlv : FaultHandlerOverrideTlv) (object : Received)
    (trailing : List UInt8) (k : ℕ) :
  object.deSerialize ⟨tlv.bytes ++ trailing, tlv.bytes.length + k⟩
    = some (.ok, ⟨tlv.conditionCode.code % 2 ^ 4, tlv.handlerCode.code⟩, ⟨trailing, k + 4⟩)
  := by
  obtain ⟨hcondition, hhandler⟩ := codes_byte tlv.conditionCode tlv.handlerCode
  have htype : (UInt8.ofNat TlvType.faultHandler.code).toNat = TlvType.faultHandler.code := rfl
  have hlength : tlv.getLengthField = object.getLengthField := rfl
  have hthree : tlv.bytes.length = 3 := rfl
  rw [Received.deSerialize, if_neg (by simp only [hthree]; omega), hthree, bytes, hlength]
  simp only [List.cons_append, List.nil_append, byte_cons, Option.bind_eq_bind,
    Option.bind_some, htype, ne_eq, not_true_eq_false, if_false, Received.advanceAdding,
    ReadBuffer.advance, List.drop_succ_cons, List.drop_zero, hcondition, hhandler]
  rw [show 3 + k - 1 + 1 + 1 = k + 4 by omega]
  rfl

end FaultHandlerOverrideTlv

/-! ### What is to hold -/

/-- A field is written with enough room in as many bytes as it announces, and is read back from
them, with the buffer pointer and the number of remaining bytes moved by as much. -/
def Decodes {α : Type} (serialize : Serializer) (announced : ℕ)
    (read : ReadBuffer → Option (ReadResult α)) (Holds : α → Prop) (maxSize : ℕ) (e : Endianness)
    (b : SerialBuffer) (trailing : List UInt8) (k : ℕ) : Prop :=
  ∃ bytes object, serialize maxSize e b = (.ok, b.put bytes) ∧ bytes.length = announced ∧
    read ⟨bytes ++ trailing, bytes.length + k⟩ = some (.ok, object, ⟨trailing, k⟩) ∧ Holds object

/-- Where reading fails, no more bytes remain than before. -/
def NeverGrows {α : Type} (read : ReadBuffer → Option (ReadResult α)) : Prop :=
  ∀ b result object b', read b = some (result, object, b') → result ≠ .ok → b'.size ≤ b.size

section

variable {α : Type} {serialize : Serializer} {announced : ℕ}
  {read : ReadBuffer → Option (ReadResult α)} {Holds : α → Prop} {maxSize : ℕ} {e : Endianness}
  {b : SerialBuffer} {trailing : List UInt8} {k : ℕ}

/-- Of a field that is written, it depends on the bytes. -/
theorem decodes_iff_of_written {bytes : List UInt8}
    (h : serialize maxSize e b = (.ok, b.put bytes)) :
  Decodes serialize announced read Holds maxSize e b trailing k ↔
    bytes.length = announced ∧
      ∃ object, read ⟨bytes ++ trailing, bytes.length + k⟩ = some (.ok, object, ⟨trailing, k⟩) ∧
        Holds object
  := by
  constructor
  · rintro ⟨bytes', object, hput, hlength, hread, hholds⟩
    rw [h] at hput
    obtain rfl := SerialBuffer.put_injective (Prod.ext_iff.mp hput).2
    exact ⟨hlength, object, hread, hholds⟩
  · rintro ⟨hlength, object, hread, hholds⟩
    exact ⟨bytes, object, h, hlength, hread, hholds⟩

/-- It is not read back when the number of bytes that remain is another one. -/
theorem not_decodes_of_size {bytes : List UInt8} {object : α} {b' : ReadBuffer}
    (h : serialize maxSize e b = (.ok, b.put bytes))
    (hread : read ⟨bytes ++ trailing, bytes.length + k⟩ = some (.ok, object, b'))
    (hsize : b'.size ≠ k) :
  ¬ Decodes serialize announced read Holds maxSize e b trailing k
  := by
  rw [decodes_iff_of_written h]
  rintro ⟨-, object', hread', -⟩
  rw [hread] at hread'
  cases hread'
  exact hsize rfl

end

/-! ### Fields of variable width -/

namespace VarLenField

/-- A field of one byte is read without taking the byte. -/
theorem deSerialize_oneByte (field : VarLenField) {source : VarLenField}
    (hwidth : source.width = .oneByte) (e : Endianness) (trailing : List UInt8) (size : ℕ) :
  field.deSerialize source.width e ⟨source.bytes e ++ trailing, size⟩
    = some (.ok, source, ⟨source.bytes e ++ trailing, size + 1⟩)
  := by
  obtain ⟨width, value, hvalue⟩ := source
  have hone : width = .oneByte := hwidth
  subst hone
  have hlt : value < 2 ^ 8 := hvalue
  have hbytes : bytes ⟨.oneByte, value, hvalue⟩ e = [UInt8.ofNat value] := by
    cases e with
    | big => rfl
    | little => rfl
  have hbyte : (UInt8.ofNat value).toNat = value := by
    rw [UInt8.toNat_ofNat', Nat.mod_eq_of_lt hlt]
  rw [hbytes]
  simp only [deSerialize, List.cons_append, List.nil_append, byte_cons, Option.bind_eq_bind,
    Option.bind_some, if_true, hbyte, setValue, dif_pos hvalue]
  rfl

theorem neverGrows (field : VarLenField) (width : WidthInBytes) (e : Endianness) :
  NeverGrows fun b => field.deSerialize width e b
  := by
  intro b result object b' hread hfail
  simp only [deSerialize] at hread
  split_ifs at hread
  · obtain ⟨byte, -, hread⟩ := Option.bind_eq_some_iff.mp hread
    cases hread
    cases hfail rfl
  · obtain ⟨⟨result', value, b₁⟩, hnumber, hread⟩ := Option.bind_eq_some_iff.mp hread
    cases hread
    rw [deSerializeNumber] at hnumber
    split_ifs at hnumber
    · cases hnumber
      exact Nat.le_refl _
    · obtain ⟨bytes, -, hnumber⟩ := Option.bind_eq_some_iff.mp hnumber
      cases hnumber
      apply Nat.sub_le
  · cases hread
    exact Nat.le_refl _

/-- A field is read back when its width is two or four. -/
theorem decodes_iff {source : VarLenField} (old : VarLenField) (hwidth : Supported source.width)
    {maxSize : ℕ} (e : Endianness) {b : SerialBuffer}
    (hroom : b.size + source.getSerializedSize ≤ maxSize) (trailing : List UInt8) (k : ℕ) :
  Decodes source.serialize source.getSerializedSize
      (fun b => old.deSerialize source.width e b) (· = source) maxSize e b trailing k
    ↔ source.width ≠ .oneByte
  := by
  have hwritten := serialize_of_le hwidth e hroom
  constructor
  · intro hdecodes hone
    have hread := deSerialize_oneByte old hone e trailing ((source.bytes e).length + k)
    refine not_decodes_of_size hwritten hread ?_ hdecodes
    simp only
    omega
  · intro hone
    rw [decodes_iff_of_written hwritten]
    exact ⟨length_bytes source e, source, reads old (hwidth.resolve_left hone) e trailing k, rfl⟩

end VarLenField

/-! ### Entity ids -/

namespace EntityIdTlv

/-- Read an entity id from a TLV. The first two bytes of the value are skipped, and the width is the
serialized size of the TLV less two, which wraps around. -/
def deSerializeTlv (tlv : EntityIdTlv) (raw : Tlv) (e : Endianness) :
    Option (ReturnValue × EntityIdTlv) := do
  let remSz := (raw.getSerializedSize + 2 ^ 64 - 2) % 2 ^ 64
  let (result, entityId, _) ← tlv.entityId.deSerialize (UInt8.ofNat remSz) e
    ⟨(raw.value.buffer.getD []).drop 2, remSz⟩
  return (result, ⟨entityId⟩)

theorem serialize_of_le {source : EntityIdTlv}
    (hwidth : VarLenField.Supported source.entityId.width) {maxSize : ℕ} (e : Endianness)
    {b : SerialBuffer} (hroom : b.size + source.getSerializedSize ≤ maxSize) :
  source.serialize maxSize e b = (.ok, b.put (source.bytes e)) ∧
    (source.bytes e).length = source.getSerializedSize
  := by
  have hsize : source.getSerializedSize = 2 + source.entityId.width.toNat := by
    rw [getSerializedSize, getLengthField, VarLenField.getSerializedSize]
    rcases hwidth with hw | hw | hw <;> rw [hw] <;> rfl
  constructor
  · rw [serialize, if_neg (by omega)]
    simp only [SerialBuffer.put_put]
    rw [VarLenField.serialize_of_le hwidth e, SerialBuffer.put_put]
    · rfl
    · rw [SerialBuffer.size_put, List.length_append, List.length_singleton, List.length_singleton]
      omega
  · rw [bytes, List.length_append, VarLenField.length_bytes, hsize]
    rfl

/-- An entity id of one byte is read without taking the byte. -/
theorem deSerialize_oneByte (old : EntityIdTlv) {source : EntityIdTlv}
    (hwidth : source.entityId.width = .oneByte) (e : Endianness) (trailing : List UInt8) (k : ℕ) :
  old.deSerialize e ⟨source.bytes e ++ trailing, (source.bytes e).length + k⟩
    = some (.ok, source, ⟨source.entityId.bytes e ++ trailing, k + 2⟩)
  := by
  have hfield := VarLenField.deSerialize_oneByte old.entityId hwidth e trailing (1 + k)
  have hlength : (source.entityId.bytes e).length = 1 := by
    rw [VarLenField.length_bytes, hwidth]
    rfl
  have hcode : (UInt8.ofNat TlvType.entityId.code).toNat = TlvType.entityId.code := rfl
  have hwidth' : UInt8.ofNat source.entityId.getSerializedSize = source.entityId.width :=
    UInt8.ofNat_toNat
  have hone : source.entityId.width.toNat = 1 := by
    rw [hwidth]
    rfl
  rw [bytes, hwidth', deSerialize, if_neg (by simp [hone])]
  simp only [List.cons_append, List.nil_append, List.length_cons, Nat.add_right_comm _ _ k,
    byte_cons, advance_cons, Option.bind_eq_bind, Option.bind_some, hcode, ne_eq,
    not_true_eq_false, if_false, hone, hlength]
  rw [if_neg (by omega), hfield, andThen_ok]
  rw [show 1 + k + 1 = k + 2 by omega]
  rfl

theorem neverGrows (tlv : EntityIdTlv) (e : Endianness) :
  NeverGrows fun b => tlv.deSerialize e b
  := by
  intro b result object b' hread hfail
  simp only [deSerialize] at hread
  split_ifs at hread
  · cases hread
    exact Nat.le_refl _
  · obtain ⟨type, -, hread⟩ := Option.bind_eq_some_iff.mp hread
    split_ifs at hread
    · cases hread
      exact Nat.le_refl _
    · obtain ⟨width, -, hread⟩ := Option.bind_eq_some_iff.mp hread
      split_ifs at hread
      · cases hread
        apply Nat.sub_le
      · obtain ⟨⟨result', field, b₁⟩, hfield, hread⟩ := Option.bind_eq_some_iff.mp hread
        simp only at hread
        split_ifs at hread with hok
        · cases hread
          cases hfail rfl
        · cases hread
          have hgrows := tlv.entityId.neverGrows width e _ _ _ _ hfield hok
          simp only [ReadBuffer.advance] at hgrows
          omega

/-- An entity id is read back when its width is two or four. -/
theorem decodes_iff {source : EntityIdTlv} (old : EntityIdTlv)
    (hwidth : VarLenField.Supported source.entityId.width) {maxSize : ℕ} (e : Endianness)
    {b : SerialBuffer} (hroom : b.size + source.getSerializedSize ≤ maxSize)
    (trailing : List UInt8) (k : ℕ) :
  Decodes source.serialize source.getSerializedSize (fun b => old.deSerialize e b) (· = source)
      maxSize e b trailing k
    ↔ source.entityId.width ≠ .oneByte
  := by
  obtain ⟨hwritten, hlength⟩ := serialize_of_le hwidth e hroom
  constructor
  · intro hdecodes hone
    refine not_decodes_of_size hwritten (deSerialize_oneByte old hone e trailing k) ?_ hdecodes
    simp only
    omega
  · intro hone
    rw [decodes_iff_of_written hwritten]
    exact ⟨hlength, source, reads old (hwidth.resolve_left hone) e trailing k, rfl⟩

/-- Of a TLV that an entity id has been read into, no entity id is read: that would take bytes from
behind the value. -/
theorem deSerializeTlv_receive (tlv : EntityIdTlv) (raw : Tlv) {source : EntityIdTlv}
    (hwidth : VarLenField.Supported source.entityId.width) (e e' : Endianness) :
  tlv.deSerializeTlv (raw.receive .entityId (source.entityId.bytes e)) e' = none
  := by
  have hpos := hwidth.pos
  have hlength := source.entityId.length_bytes e
  have hne : source.entityId.bytes e ≠ [] := by
    rw [← List.length_pos_iff]
    omega
  have hsize : Tlv.getSerializedSize
      ⟨false, .entityId, .setConstBuffer (some (source.entityId.bytes e))⟩
        = source.entityId.width.toNat + 2 := by
    simp [Tlv.getSerializedSize, SerialBufferAdapter.getSerializedSize,
      SerialBufferAdapter.setConstBuffer, hlength]
  rw [Tlv.receive, if_neg hne, deSerializeTlv, hsize]
  have hdrop : ((source.entityId.bytes e).drop 2).length = source.entityId.width.toNat - 2 := by
    rw [List.length_drop, hlength]
  simp only [SerialBufferAdapter.setConstBuffer, Option.getD_some]
  generalize (source.entityId.bytes e).drop 2 = memory at hdrop
  rcases hwidth with hw | hw | hw
  · rw [hw] at hdrop ⊢
    obtain rfl := List.length_eq_zero_iff.mp hdrop
    rfl
  · rw [hw] at hdrop ⊢
    obtain rfl := List.length_eq_zero_iff.mp hdrop
    rfl
  · rw [hw] at hdrop ⊢
    have hslice : ReadBuffer.slice ⟨memory, 4⟩ 0 4 = none := by
      rw [slice, if_neg (by simp only [hdrop]; decide)]
    change (Option.bind (ReadBuffer.deSerializeNumber 4 e' 0 ⟨memory, 4⟩) _).bind _ = none
    rw [deSerializeNumber, if_neg (Nat.lt_irrefl 4), hslice]
    rfl

end EntityIdTlv

/-! ### Overrides -/

namespace FaultHandlerOverrideTlv

theorem Received.neverGrows (tlv : Received) :
  NeverGrows tlv.deSerialize
  := by
  intro b result object b' hread hfail
  rw [deSerialize] at hread
  split_ifs at hread
  · cases hread
    exact Nat.le_refl _
  · obtain ⟨type, -, hread⟩ := Option.bind_eq_some_iff.mp hread
    split_ifs at hread
    · cases hread
      exact Nat.le_refl _
    · obtain ⟨length, -, hread⟩ := Option.bind_eq_some_iff.mp hread
      split_ifs at hread
      · cases hread
        apply Nat.sub_le
      · obtain ⟨codes, -, hread⟩ := Option.bind_eq_some_iff.mp hread
        cases hread
        cases hfail rfl

/-- After an override has been read, four bytes too many remain. -/
theorem not_decodes (source : FaultHandlerOverrideTlv) (old : Received) {maxSize : ℕ}
    (e : Endianness) {b : SerialBuffer} (hroom : b.size + source.getSerializedSize ≤ maxSize)
    (trailing : List UInt8) (k : ℕ) :
  ¬ Decodes source.serialize source.getSerializedSize old.deSerialize (·.Holds source)
      maxSize e b trailing k
  := by
  apply not_decodes_of_size (source.serialize_of_le e hroom)
    (source.deSerialize_bytes old trailing k)
  simp

end FaultHandlerOverrideTlv

/-! ### All of them -/

/-- Written with enough room, fields of variable width and entity ids decode what they encode
exactly when they do not have a width of one byte, and overrides of fault handlers never do.  When
reading fails, no more bytes remain than before. -/
theorem fields_decode_iff (maxSize : ℕ) (e : Endianness) (b : SerialBuffer)
    (trailing : List UInt8) (k : ℕ) :
  (∀ source old : VarLenField, VarLenField.Supported source.width →
    b.size + source.getSerializedSize ≤ maxSize →
      (Decodes source.serialize source.getSerializedSize
          (fun b => old.deSerialize source.width e b) (· = source) maxSize e b trailing k
        ↔ source.width ≠ .oneByte)) ∧
  (∀ source old : EntityIdTlv, VarLenField.Supported source.entityId.width →
    b.size + source.getSerializedSize ≤ maxSize →
      (Decodes source.serialize source.getSerializedSize (fun b => old.deSerialize e b)
          (· = source) maxSize e b trailing k
        ↔ source.entityId.width ≠ .oneByte)) ∧
  (∀ (source : FaultHandlerOverrideTlv) (old : FaultHandlerOverrideTlv.Received),
    b.size + source.getSerializedSize ≤ maxSize →
      ¬ Decodes source.serialize source.getSerializedSize old.deSerialize (·.Holds source)
        maxSize e b trailing k) ∧
  (∀ (old : VarLenField) (width : WidthInBytes), NeverGrows fun b => old.deSerialize width e b) ∧
  (∀ old : EntityIdTlv, NeverGrows fun b => old.deSerialize e b) ∧
  ∀ old : FaultHandlerOverrideTlv.Received, NeverGrows old.deSerialize
  := by
  refine ⟨?_, ?_, ?_, ?_, ?_, ?_⟩
  · intro source old hwidth hroom
    apply VarLenField.decodes_iff old hwidth e hroom
  · intro source old hwidth hroom
    apply EntityIdTlv.decodes_iff old hwidth e hroom
  · intro source old hroom
    apply FaultHandlerOverrideTlv.not_decodes source old e hroom
  · intro old width
    apply old.neverGrows
  · intro old
    apply old.neverGrows
  · intro old
    apply old.neverGrows

/-- An entity id of two bytes, followed by a byte. -/
theorem fields_decode_twoBytes :
  Decodes (EntityIdTlv.serialize ⟨.new .twoBytes 0x0102⟩)
    (EntityIdTlv.getSerializedSize ⟨.new .twoBytes 0x0102⟩)
    (fun b => EntityIdTlv.deSerialize ⟨.default⟩ .big b) (· = ⟨.new .twoBytes 0x0102⟩) 64 .big
    ⟨[], 0⟩ [7] 1
  := by
  have hentityId := (fields_decode_iff 64 .big ⟨[], 0⟩ [7] 1).2.1
  exact (hentityId ⟨.new .twoBytes 0x0102⟩ ⟨.default⟩ (by decide) (by decide)).mpr (by decide)

/-- An entity id of one byte is left in the buffer. -/
theorem not_decodes_oneByte :
  ¬ Decodes (EntityIdTlv.serialize ⟨.new .oneByte 5⟩)
    (EntityIdTlv.getSerializedSize ⟨.new .oneByte 5⟩)
    (fun b => EntityIdTlv.deSerialize ⟨.default⟩ .big b) (· = ⟨.new .oneByte 5⟩) 64 .big
    ⟨[], 0⟩ [7] 1
  := by
  intro hdecodes
  have hsupported : VarLenField.Supported (EntityIdTlv.mk (.new .oneByte 5)).entityId.width := by
    decide
  have hone := (EntityIdTlv.decodes_iff ⟨.default⟩ hsupported .big (by decide) [7] 1).mp hdecodes
  exact hone rfl

end Cfdp
