import Fsfw.Cfdp.Fields

/-!
# Length-value and type-length-value fields

An `Lv` is a block of bytes behind its length, and a `Tlv` has a type in front.  Both keep a
flag for the empty block, which is serialized as the length zero.  The entity id, the
filestore requests and responses and the overrides of fault handlers have TLVs of their own.

The size that a field announces is the number of bytes it writes when it is serialized, except
for a filestore response: its size is computed from the length field, which has eight bits
and counts a second file name that is not written (`FilestoreResponseTlv.writtenLength`).
-/

namespace Cfdp

open Serializer

/-- A length-value field. -/
structure Lv where
  zeroLen : Bool
  value : SerialBufferAdapter

namespace Lv

/-- The field of a block of bytes. -/
def new (data : List UInt8) : Lv where
  zeroLen := data.length = 0
  value := .new data

def getSerializedSize (lv : Lv) : ℕ :=
  if lv.zeroLen then 1
  else if lv.value.buffer.isNone then 0
  else lv.value.getSerializedSize

def serialize (lv : Lv) : Serializer :=
  fun maxSize e b =>
    if maxSize < 1 then (SerializeIF.bufferTooShort, b)
    else if lv.zeroLen then (.ok, b.put [0])
    else lv.value.serialize maxSize e b

/-- The bytes of a field. -/
def bytes (lv : Lv) : List UInt8 :=
  if lv.zeroLen then [0] else lv.value.bytes

/-- A field that is serialized writes as many bytes as it announces. -/
theorem serialize_eq_ok {lv : Lv} {maxSize : ℕ} {e : Endianness} {b b' : SerialBuffer}
    (h : lv.serialize maxSize e b = (.ok, b')) :
  b' = b.put lv.bytes ∧ lv.bytes.length = lv.getSerializedSize
  := by
  rw [serialize] at h
  split at h
  · cases h
  · split at h
    · rename_i hzero
      cases h
      simp [bytes, getSerializedSize, hzero]
    · rename_i hzero
      have hbytes := lv.value.writes_serialize h
      refine ⟨?_, ?_⟩
      · rw [hbytes, bytes, if_neg hzero]
      · obtain ⟨data, hdata⟩ := SerialBufferAdapter.buffer_of_serialize h
        rw [bytes, if_neg hzero, getSerializedSize, if_neg hzero, hdata,
          SerialBufferAdapter.length_bytes hdata]
        rfl

end Lv

/-- A type-length-value field. -/
structure Tlv where
  zeroLen : Bool
  type : TlvType
  value : SerialBufferAdapter

namespace Tlv

/-- The field of a block of bytes. -/
def new (type : TlvType) (data : List UInt8) : Tlv where
  zeroLen := data.length = 0
  type := type
  value := .new data

def getSerializedSize (tlv : Tlv) : ℕ :=
  if tlv.zeroLen then 2
  else if tlv.value.buffer.isNone then 0
  else tlv.value.getSerializedSize + 1

def serialize (tlv : Tlv) : Serializer :=
  fun maxSize e b =>
    if maxSize < b.size + 2 then (SerializeIF.bufferTooShort, b)
    else if tlv.type = .invalidTlv then (invalidTlvType, b)
    else
      let b₁ := b.put [UInt8.ofNat tlv.type.code]
      if tlv.zeroLen then (.ok, b₁.put [0])
      else if tlv.value.buffer.isNone then (.failed, b₁)
      else tlv.value.serialize maxSize e b₁

/-- The bytes of a field. -/
def bytes (tlv : Tlv) : List UInt8 :=
  UInt8.ofNat tlv.type.code :: if tlv.zeroLen then [0] else tlv.value.bytes

/-- A field that is serialized writes as many bytes as it announces. -/
theorem serialize_eq_ok {tlv : Tlv} {maxSize : ℕ} {e : Endianness} {b b' : SerialBuffer}
    (h : tlv.serialize maxSize e b = (.ok, b')) :
  b' = b.put tlv.bytes ∧ tlv.bytes.length = tlv.getSerializedSize
  := by
  rw [serialize] at h
  split at h
  · cases h
  · split at h
    · cases h
    · simp only at h
      split at h
      · rename_i hzero
        cases h
        simp [bytes, getSerializedSize, hzero]
      · rename_i hzero
        split at h
        · cases h
        · have hbytes := tlv.value.writes_serialize h
          refine ⟨?_, ?_⟩
          · rw [hbytes, bytes, if_neg hzero, SerialBuffer.put_put]
            rfl
          · obtain ⟨data, hdata⟩ := SerialBufferAdapter.buffer_of_serialize h
            rw [bytes, if_neg hzero, getSerializedSize, if_neg hzero, hdata, List.length_cons,
              SerialBufferAdapter.length_bytes hdata]
            rfl

theorem takes_serialize (tlv : Tlv) :
  Takes tlv.serialize tlv.getSerializedSize
  := fun h => ⟨_, serialize_eq_ok h⟩

end Tlv

/-- The TLV of an entity id. -/
structure EntityIdTlv where
  entityId : VarLenField

namespace EntityIdTlv

-- The length fields of the TLVs have eight bits.
def getLengthField (tlv : EntityIdTlv) : UInt8 :=
  UInt8.ofNat (1 + tlv.entityId.getSerializedSize)

def getSerializedSize (tlv : EntityIdTlv) : ℕ :=
  tlv.getLengthField.toNat + 1

def serialize (tlv : EntityIdTlv) : Serializer :=
  fun maxSize e b =>
    if maxSize < tlv.getSerializedSize then (SerializeIF.bufferTooShort, b)
    else
      let b₁ := (b.put [UInt8.ofNat TlvType.entityId.code]).put
        [UInt8.ofNat tlv.entityId.getSerializedSize]
      tlv.entityId.serialize maxSize e b₁

/-- The bytes of the field. -/
def bytes (tlv : EntityIdTlv) (e : Endianness) : List UInt8 :=
  [UInt8.ofNat TlvType.entityId.code, UInt8.ofNat tlv.entityId.getSerializedSize] ++
    tlv.entityId.bytes e

/-- A field that is serialized writes as many bytes as it announces. -/
theorem serialize_eq_ok {tlv : EntityIdTlv} {maxSize : ℕ} {e : Endianness}
    {b b' : SerialBuffer} (h : tlv.serialize maxSize e b = (.ok, b')) :
  b' = b.put (tlv.bytes e) ∧ (tlv.bytes e).length = tlv.getSerializedSize
  := by
  rw [serialize] at h
  split at h
  · cases h
  · obtain ⟨hwidth, -, hput⟩ := VarLenField.serialize_eq_ok h
    refine ⟨?_, ?_⟩
    · rw [hput]
      simp [bytes]
    · rw [bytes, List.length_append, VarLenField.length_bytes, getSerializedSize,
        getLengthField, VarLenField.getSerializedSize]
      rcases hwidth with hw | hw | hw <;> rw [hw] <;> rfl

end EntityIdTlv

/-- The TLV of a filestore response. -/
structure FilestoreResponseTlv where
  actionCode : FilestoreActionCode
  statusCode : UInt8
  firstFileName : Lv
  secondFileName : Option Lv
  filestoreMsg : Option Lv

namespace FilestoreResponseTlv

/-- The sum that the length field holds the lower eight bits of. -/
def valueLength (tlv : FilestoreResponseTlv) : ℕ :=
  1 + tlv.firstFileName.getSerializedSize +
    ((tlv.secondFileName.map Lv.getSerializedSize).getD 0 +
      (tlv.filestoreMsg.map Lv.getSerializedSize).getD 1)

def getLengthField (tlv : FilestoreResponseTlv) : UInt8 :=
  UInt8.ofNat tlv.valueLength

def getSerializedSize (tlv : FilestoreResponseTlv) : ℕ :=
  tlv.getLengthField.toNat + 2

def requiresSecondFileName (tlv : FilestoreResponseTlv) : Bool :=
  tlv.actionCode = .renameFile || tlv.actionCode = .appendFile || tlv.actionCode = .replaceFile

/-- The type, the length field, and the action and status codes. -/
def commonBytes (tlv : FilestoreResponseTlv) : List UInt8 :=
  [UInt8.ofNat TlvType.filestoreResponse.code, tlv.getLengthField,
    UInt8.ofNat (tlv.actionCode.code <<< 4) ||| tlv.statusCode]

def commonSerialize (tlv : FilestoreResponseTlv) : Serializer :=
  fun maxSize _ b =>
    if maxSize < 3 then (SerializeIF.bufferTooShort, b) else (.ok, b.put tlv.commonBytes)

-- A second file name is required for some actions, but is not written.
def serialize (tlv : FilestoreResponseTlv) : Serializer :=
  fun maxSize e b =>
    andThen (tlv.commonSerialize maxSize e b) fun b₁ =>
      andThen (tlv.firstFileName.serialize maxSize e b₁) fun b₂ =>
        if tlv.requiresSecondFileName ∧ tlv.secondFileName.isNone then
          (filestoreRequiresSecondFile, b₂)
        else
          match tlv.filestoreMsg with
          | some msg => msg.serialize maxSize e b₂
          | none =>
              if b₂.size = maxSize then (SerializeIF.bufferTooShort, b₂)
              else (.ok, b₂.put [0])

/-- The bytes that are written. -/
def bytes (tlv : FilestoreResponseTlv) : List UInt8 :=
  tlv.commonBytes ++ tlv.firstFileName.bytes ++ (tlv.filestoreMsg.map Lv.bytes).getD [0]

/-- The number of bytes that are written. -/
def writtenLength (tlv : FilestoreResponseTlv) : ℕ :=
  3 + tlv.firstFileName.getSerializedSize +
    (tlv.filestoreMsg.map Lv.getSerializedSize).getD 1

theorem serialize_eq_ok {tlv : FilestoreResponseTlv} {maxSize : ℕ} {e : Endianness}
    {b b' : SerialBuffer} (h : tlv.serialize maxSize e b = (.ok, b')) :
  b' = b.put tlv.bytes ∧ tlv.bytes.length = tlv.writtenLength
  := by
  obtain ⟨b₁, hcommon, h₁⟩ := andThen_eq_ok h
  obtain ⟨b₂, hfirst, h₂⟩ := andThen_eq_ok h₁
  obtain ⟨hb₂, hfirstLength⟩ := Lv.serialize_eq_ok hfirst
  have hb₁ : b₁ = b.put tlv.commonBytes := by
    rw [commonSerialize] at hcommon
    split at hcommon
    · cases hcommon
    · cases hcommon
      rfl
  have hcommonLength : tlv.commonBytes.length = 3 := rfl
  split at h₂
  · cases h₂
  · cases hmsg : tlv.filestoreMsg with
    | some msg =>
        simp only [hmsg] at h₂
        obtain ⟨hb', hmsgLength⟩ := Lv.serialize_eq_ok h₂
        simp [bytes, writtenLength, hmsg, hb', hb₂, hb₁, hfirstLength, hmsgLength,
          hcommonLength]
        omega
    | none =>
        simp only [hmsg] at h₂
        split at h₂
        · cases h₂
        · cases h₂
          simp [bytes, writtenLength, hmsg, hb₂, hb₁, hfirstLength, hcommonLength]
          omega

theorem takes_serialize (tlv : FilestoreResponseTlv) :
  Takes tlv.serialize tlv.writtenLength
  := fun h => ⟨_, serialize_eq_ok h⟩

/-- What the announced size has too much, and what was cut from the length field. -/
theorem getSerializedSize_add (tlv : FilestoreResponseTlv) :
  tlv.getSerializedSize + 256 * (tlv.valueLength / 256)
    = tlv.writtenLength + (tlv.secondFileName.map Lv.getSerializedSize).getD 0
  := by
  rw [getSerializedSize, getLengthField, UInt8.toNat_ofNat']
  have hvalue : tlv.valueLength + 2
      = tlv.writtenLength + (tlv.secondFileName.map Lv.getSerializedSize).getD 0 := by
    rw [valueLength, writtenLength]
    omega
  omega

end FilestoreResponseTlv

/-- The TLV of a filestore request. -/
structure FilestoreRequestTlv where
  actionCode : FilestoreActionCode
  firstFileName : Lv
  secondFileName : Option Lv

namespace FilestoreRequestTlv

def requiresSecondFileName (tlv : FilestoreRequestTlv) : Bool :=
  tlv.actionCode = .renameFile || tlv.actionCode = .appendFile || tlv.actionCode = .replaceFile

def getLengthField (tlv : FilestoreRequestTlv) : UInt8 :=
  UInt8.ofNat (1 + tlv.firstFileName.getSerializedSize +
    if tlv.requiresSecondFileName then
      (tlv.secondFileName.map Lv.getSerializedSize).getD 0
    else
      0)

def getSerializedSize (tlv : FilestoreRequestTlv) : ℕ :=
  tlv.getLengthField.toNat + 2

/-- The type, the length field, and the action code. -/
def commonBytes (tlv : FilestoreRequestTlv) : List UInt8 :=
  [UInt8.ofNat TlvType.filestoreRequest.code, tlv.getLengthField,
    UInt8.ofNat (tlv.actionCode.code <<< 4)]

def commonSerialize (tlv : FilestoreRequestTlv) : Serializer :=
  fun maxSize _ b =>
    if maxSize < 3 then (SerializeIF.bufferTooShort, b) else (.ok, b.put tlv.commonBytes)

-- The result of serializing the second file name is dropped.
def serializeSecondFileName (tlv : FilestoreRequestTlv) : Serializer :=
  fun maxSize e b =>
    if tlv.requiresSecondFileName then
      match tlv.secondFileName with
      | some secondFileName => (.ok, (secondFileName.serialize maxSize e b).2)
      | none => (filestoreRequiresSecondFile, b)
    else
      (.ok, b)

def serialize (tlv : FilestoreRequestTlv) : Serializer :=
  fun maxSize e b =>
    andThen (tlv.commonSerialize maxSize e b) fun b₁ =>
      andThen (tlv.firstFileName.serialize maxSize e b₁) fun b₂ =>
        tlv.serializeSecondFileName maxSize e b₂

end FilestoreRequestTlv

/-- The TLV that overrides the handler of a fault. -/
structure FaultHandlerOverrideTlv where
  conditionCode : ConditionCode
  handlerCode : FaultHandlerCode

namespace FaultHandlerOverrideTlv

def getLengthField (_ : FaultHandlerOverrideTlv) : UInt8 := 1

/-- The bytes of the field. -/
def bytes (tlv : FaultHandlerOverrideTlv) : List UInt8 :=
  [UInt8.ofNat TlvType.faultHandler.code, tlv.getLengthField,
    UInt8.ofNat (tlv.conditionCode.code <<< 4 ||| tlv.handlerCode.code)]

def serialize (tlv : FaultHandlerOverrideTlv) : Serializer :=
  fun maxSize _ b =>
    if maxSize < 3 ∨ maxSize < b.size + 3 then (SerializeIF.bufferTooShort, b)
    else (.ok, b.put tlv.bytes)

end FaultHandlerOverrideTlv

end Cfdp
