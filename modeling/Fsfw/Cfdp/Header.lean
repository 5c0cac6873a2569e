import Fsfw.Cfdp.Fields

/-!
# The header of a protocol data unit

A `HeaderCreator` writes the header of a PDU: four bytes of flags and lengths, and the source
entity id, the sequence number and the destination entity id, whose widths are given by the
fourth byte.  A `PduHeaderReader` keeps pointers to the parts of a header, given here as
positions in the bytes it was handed.

What a reader makes of a header that was written is what the creator was given
(`parseData_serialize`).
-/

namespace Cfdp

open Serializer

/-- The configuration that the PDUs of a transaction share. -/
structure PduConfig where
  mode : TransmissionMode
  seqNum : VarLenField
  sourceId : VarLenField
  destId : VarLenField
  crcFlag : Bool
  largeFile : Bool
  direction : Direction

/-- The widths of the ids are supported, and the entity ids have one width. -/
structure PduConfig.Regular (conf : PduConfig) : Prop where
  sourceId : VarLenField.Supported conf.sourceId.width
  seqNum : VarLenField.Supported conf.seqNum.width
  destId : conf.destId.width = conf.sourceId.width

structure HeaderCreator where
  pduType : PduType
  segmentMetadataFlag : SegmentMetadataFlag
  segmentationCtrl : SegmentationControl
  pduDataFieldLen : ℕ
  pduConf : PduConfig

namespace HeaderCreator

def getSerializedSize (h : HeaderCreator) : ℕ :=
  h.pduConf.seqNum.width.toNat + h.pduConf.sourceId.width.toNat * 2 + 4

def getWholePduSize (h : HeaderCreator) : ℕ :=
  h.pduDataFieldLen + h.getSerializedSize

def firstByte (h : HeaderCreator) : UInt8 :=
  UInt8.ofNat (versionBits ||| h.pduType.code <<< 4 ||| h.pduConf.direction.code <<< 3 |||
    h.pduConf.mode.code <<< 2 ||| h.pduConf.crcFlag.toNat <<< 1 ||| h.pduConf.largeFile.toNat)

def fourthByte (h : HeaderCreator) : UInt8 :=
  UInt8.ofNat (h.segmentationCtrl.code <<< 7 ||| h.pduConf.sourceId.width.toNat <<< 4 |||
    h.segmentMetadataFlag.code <<< 3 ||| h.pduConf.seqNum.width.toNat)

/-- The four bytes in front of the ids. -/
def fixedBytes (h : HeaderCreator) : List UInt8 :=
  [h.firstByte, UInt8.ofNat ((h.pduDataFieldLen &&& 0xff00) >>> 8),
    UInt8.ofNat (h.pduDataFieldLen &&& 0x00ff), h.fourthByte]

def serialize (h : HeaderCreator) : Serializer :=
  fun maxSize e b =>
    if maxSize < h.getSerializedSize then
      (SerializeIF.bufferTooShort, b)
    else
      andThen (h.pduConf.sourceId.serialize maxSize e (b.put h.fixedBytes)) fun b₁ =>
        andThen (h.pduConf.seqNum.serialize maxSize e b₁) fun b₂ =>
          h.pduConf.destId.serialize maxSize e b₂

/-- The bytes of a header. -/
def bytes (h : HeaderCreator) (e : Endianness) : List UInt8 :=
  h.fixedBytes ++ h.pduConf.sourceId.bytes e ++ h.pduConf.seqNum.bytes e ++
    h.pduConf.destId.bytes e

/-- The number of bytes of a header. -/
def length (conf : PduConfig) : ℕ :=
  4 + conf.sourceId.width.toNat + conf.seqNum.width.toNat + conf.destId.width.toNat

@[simp]
theorem length_bytes (h : HeaderCreator) (e : Endianness) :
  (h.bytes e).length = length h.pduConf
  := by
  simp only [bytes, fixedBytes, length, List.length_append, VarLenField.length_bytes,
    List.length_cons, List.length_nil]

/-- The announced size counts the entity ids as if they had one width. -/
theorem length_bytes_of_width {h : HeaderCreator}
    (hdest : h.pduConf.destId.width = h.pduConf.sourceId.width) (e : Endianness) :
  (h.bytes e).length = h.getSerializedSize
  := by
  rw [length_bytes, length, getSerializedSize, hdest]
  omega

/-- A header that is written has ids and a sequence number of supported widths. -/
theorem serialize_eq_ok {h : HeaderCreator} {maxSize : ℕ} {e : Endianness}
    {b b' : SerialBuffer} (hok : h.serialize maxSize e b = (.ok, b')) :
  b' = b.put (h.bytes e) ∧ VarLenField.Supported h.pduConf.sourceId.width ∧
    VarLenField.Supported h.pduConf.seqNum.width ∧
    VarLenField.Supported h.pduConf.destId.width
  := by
  rw [serialize] at hok
  split at hok
  · cases hok
  · obtain ⟨b₁, hsource, hok₁⟩ := andThen_eq_ok hok
    obtain ⟨b₂, hseq, hdest⟩ := andThen_eq_ok hok₁
    obtain ⟨hwsource, -, rfl⟩ := VarLenField.serialize_eq_ok hsource
    obtain ⟨hwseq, -, rfl⟩ := VarLenField.serialize_eq_ok hseq
    obtain ⟨hwdest, -, rfl⟩ := VarLenField.serialize_eq_ok hdest
    refine ⟨?_, hwsource, hwseq, hwdest⟩
    simp [bytes]

/-- A header with ids of one width is written when there is room for it. -/
theorem serialize_of_le {h : HeaderCreator}
    (hsource : VarLenField.Supported h.pduConf.sourceId.width)
    (hseq : VarLenField.Supported h.pduConf.seqNum.width)
    (hdest : h.pduConf.destId.width = h.pduConf.sourceId.width)
    {maxSize : ℕ} {b : SerialBuffer} (e : Endianness)
    (hroom : b.size + h.getSerializedSize ≤ maxSize) :
  h.serialize maxSize e b = (.ok, b.put (h.bytes e))
  := by
  have hfixed : h.fixedBytes.length = 4 := rfl
  have hdest' : VarLenField.Supported h.pduConf.destId.width := hdest ▸ hsource
  have hwidth : h.pduConf.destId.width.toNat = h.pduConf.sourceId.width.toNat := by rw [hdest]
  rw [getSerializedSize] at hroom
  rw [serialize, if_neg (by rw [getSerializedSize]; omega),
    VarLenField.serialize_of_le hsource e (by simp [hfixed]; omega), andThen_ok,
    VarLenField.serialize_of_le hseq e (by simp [hfixed]; omega), andThen_ok,
    VarLenField.serialize_of_le hdest' e (by simp [hfixed]; omega)]
  simp [bytes]

end HeaderCreator

/-- A reader of headers.  The pointers to the ids are positions in the data, and the pointers
that may be null are optional. -/
structure PduHeaderReader where
  rawPtr : Option (List UInt8)
  fixedHeader : Option (List UInt8)
  sourceIdRaw : ℕ
  seqNumRaw : ℕ
  destIdRaw : ℕ
  dataFieldStart : Option ℕ

namespace PduHeaderReader

/-- A reader that was handed data: it refuses less than seven bytes. -/
def new (data : List UInt8) : PduHeaderReader where
  rawPtr := if data.length < 7 then none else some data
  fixedHeader := none
  sourceIdRaw := 0
  seqNumRaw := 0
  destIdRaw := 0
  dataFieldStart := none

-- The fixed header lies in the seven bytes that every reader has been handed.
def fixedByte (r : PduHeaderReader) (i : ℕ) : UInt8 :=
  (((r.fixedHeader.getD [])[i]?).getD 0)

def getPduType (r : PduHeaderReader) : PduType :=
  .ofCode ((r.fixedByte 0 >>> 4) &&& 0x01).toNat

def getDirection (r : PduHeaderReader) : Direction :=
  .ofCode ((r.fixedByte 0 >>> 3) &&& 0x01).toNat

def getTransmissionMode (r : PduHeaderReader) : TransmissionMode :=
  .ofCode ((r.fixedByte 0 >>> 2) &&& 0x01).toNat

def getCrcFlag (r : PduHeaderReader) : Bool :=
  (r.fixedByte 0 >>> 1) &&& 0x01 ≠ 0

def getLargeFileFlag (r : PduHeaderReader) : Bool :=
  r.fixedByte 0 &&& 0x01 ≠ 0

def getPduDataFieldLen (r : PduHeaderReader) : ℕ :=
  ((r.fixedByte 1).toNat <<< 8) ||| (r.fixedByte 2).toNat

def getSegmentationControl (r : PduHeaderReader) : SegmentationControl :=
  .ofCode ((r.fixedByte 3 >>> 7) &&& 0x01).toNat

def getLenEntityIds (r : PduHeaderReader) : WidthInBytes :=
  (r.fixedByte 3 >>> 4) &&& 0x07

def getLenSeqNum (r : PduHeaderReader) : WidthInBytes :=
  r.fixedByte 3 &&& 0x07

def getSegmentMetadataFlag (r : PduHeaderReader) : SegmentMetadataFlag :=
  .ofCode ((r.fixedByte 3 >>> 3) &&& 0x01).toNat

def getHeaderSize (r : PduHeaderReader) : ℕ :=
  if r.fixedHeader.isSome then
    r.getLenEntityIds.toNat * 2 + r.getLenSeqNum.toNat + 4
  else
    0

def getWholePduSize (r : PduHeaderReader) : ℕ :=
  r.getPduDataFieldLen + r.getHeaderSize

def parseData (r : PduHeaderReader) : ReturnValue × PduHeaderReader :=
  match r.rawPtr with
  | none => (.failed, r)
  | some data =>
      if data.length < 7 then
        (SerializeIF.streamTooShort, r)
      else
        let r₁ := { r with fixedHeader := some data, sourceIdRaw := 4 }
        let widthEntityIds := r₁.getLenEntityIds
        let widthSeqNum := r₁.getLenSeqNum
        let r₂ := { r₁ with
          seqNumRaw := r₁.sourceIdRaw + widthEntityIds.toNat
          destIdRaw := r₁.sourceIdRaw + widthEntityIds.toNat + widthSeqNum.toNat }
        if r₂.getHeaderSize < r₂.getWholePduSize then
          (.ok, { r₂ with dataFieldStart := some (r₂.destIdRaw + widthEntityIds.toNat) })
        else
          (.ok, { r₂ with dataFieldStart := none })

/-- The `n` bytes at a position, unless they reach outside of the data. -/
def bytesAt (r : PduHeaderReader) (position n : ℕ) : Option (List UInt8) :=
  let data := r.rawPtr.getD []
  if position + n ≤ data.length then some ((data.drop position).take n) else none

/-- Set a field from the bytes at a position.  A width that is not supported leaves the field
alone; reading outside of the data is undefined. -/
def assignVarLenField (r : PduHeaderReader) (field : VarLenField) (width : WidthInBytes)
    (source : ℕ) : Option VarLenField :=
  if VarLenField.Supported width then do
    let bytes ← r.bytesAt source width.toNat
    return (field.setValue width (SerializeAdapter.convertBigEndian bytes)).2
  else
    some field

def getSourceId (r : PduHeaderReader) (sourceId : VarLenField) : Option VarLenField :=
  r.assignVarLenField sourceId r.getLenEntityIds r.sourceIdRaw

def getDestId (r : PduHeaderReader) (destId : VarLenField) : Option VarLenField :=
  r.assignVarLenField destId r.getLenEntityIds r.destIdRaw

def getTransactionSeqNum (r : PduHeaderReader) (seqNum : VarLenField) : Option VarLenField :=
  r.assignVarLenField seqNum r.getLenSeqNum r.seqNumRaw

end PduHeaderReader

/-! ### Reading what was written -/

namespace HeaderCreator

/-- The bits of a byte that the reader looks at. -/
theorem toNat_bits (byte : UInt8) :
  ((byte >>> 7) &&& 0x01).toNat = byte.toNat / 2 ^ 7 % 2 ∧
    ((byte >>> 4) &&& 0x01).toNat = byte.toNat / 2 ^ 4 % 2 ∧
    ((byte >>> 4) &&& 0x07).toNat = byte.toNat / 2 ^ 4 % 2 ^ 3 ∧
    ((byte >>> 3) &&& 0x01).toNat = byte.toNat / 2 ^ 3 % 2 ∧
    ((byte >>> 2) &&& 0x01).toNat = byte.toNat / 2 ^ 2 % 2 ∧
    ((byte >>> 1) &&& 0x01).toNat = byte.toNat / 2 % 2 ∧
    (byte &&& 0x01).toNat = byte.toNat % 2 ∧
    (byte &&& 0x07).toNat = byte.toNat % 2 ^ 3
  := by
  have hone : (0x01 : UInt8).toNat = 2 ^ 1 - 1 := rfl
  have hseven : (0x07 : UInt8).toNat = 2 ^ 3 - 1 := rfl
  simp only [UInt8.toNat_and, UInt8.toNat_shiftRight, hone, hseven,
    Nat.and_two_pow_sub_one_eq_mod, Nat.shiftRight_eq_div_pow]
  simp

theorem toNat_firstByte (h : HeaderCreator) :
  h.firstByte.toNat = 32 + 16 * h.pduType.code + 8 * h.pduConf.direction.code +
    4 * h.pduConf.mode.code + 2 * h.pduConf.crcFlag.toNat + h.pduConf.largeFile.toNat
  := by
  rw [firstByte, UInt8.toNat_ofNat']
  generalize h.pduConf.crcFlag = crcFlag
  generalize h.pduConf.largeFile = largeFile
  cases h.pduType <;> cases h.pduConf.direction <;> cases h.pduConf.mode <;>
    cases crcFlag <;> cases largeFile <;> rfl

theorem toNat_fourthByte {h : HeaderCreator}
    (hsource : VarLenField.Supported h.pduConf.sourceId.width)
    (hseq : VarLenField.Supported h.pduConf.seqNum.width) :
  h.fourthByte.toNat = 128 * h.segmentationCtrl.code + 16 * h.pduConf.sourceId.width.toNat +
    8 * h.segmentMetadataFlag.code + h.pduConf.seqNum.width.toNat
  := by
  rw [fourthByte, UInt8.toNat_ofNat']
  rcases hsource with hs | hs | hs <;> rcases hseq with hq | hq | hq <;> rw [hs, hq] <;>
    cases h.segmentationCtrl <;> cases h.segmentMetadataFlag <;> rfl

/-- The two bytes of a length hold its lower sixteen bits. -/
theorem lengthBytes_mod (n : ℕ) :
  ((UInt8.ofNat ((n &&& 0xff00) >>> 8)).toNat <<< 8) ||| (UInt8.ofNat (n &&& 0x00ff)).toNat
    = n % 2 ^ 16
  := by
  have hlow : n &&& 0x00ff = n % 2 ^ 8 := Nat.and_two_pow_sub_one_eq_mod n 8
  have hhigh : (n &&& 0xff00) >>> 8 = n / 2 ^ 8 % 2 ^ 8 := by
    rw [Nat.shiftRight_and_distrib, Nat.shiftRight_eq_div_pow]
    apply Nat.and_two_pow_sub_one_eq_mod _ 8
  rw [hlow, hhigh, UInt8.toNat_ofNat', UInt8.toNat_ofNat',
    ← Nat.shiftLeft_add_eq_or_of_lt (by omega), Nat.shiftLeft_eq]
  omega

end HeaderCreator

namespace VarLenField

/-- Setting a field from the bytes of another one makes it the other one. -/
theorem setValue_bytes {source : VarLenField} (h : Supported source.width)
    (field : VarLenField) :
  (field.setValue source.width
    (SerializeAdapter.convertBigEndian (source.bytes .big))).2 = source
  := by
  have hvalue := SerializeAdapter.convertBigEndian_bigEndianBytes source.value_lt
  have hbytes : source.bytes .big
      = SerializeAdapter.bigEndianBytes source.width.toNat source.value := rfl
  rw [hbytes, hvalue, setValue, if_pos (by exact h), dif_pos source.value_lt]

end VarLenField

namespace PduHeaderReader

/-- Every getter of the reader returns what the creator was given. -/
structure Agrees (r : PduHeaderReader) (h : HeaderCreator) : Prop where
  pduType : r.getPduType = h.pduType
  direction : r.getDirection = h.pduConf.direction
  mode : r.getTransmissionMode = h.pduConf.mode
  crcFlag : r.getCrcFlag = h.pduConf.crcFlag
  largeFile : r.getLargeFileFlag = h.pduConf.largeFile
  segmentationCtrl : r.getSegmentationControl = h.segmentationCtrl
  segmentMetadataFlag : r.getSegmentMetadataFlag = h.segmentMetadataFlag
  pduDataFieldLen : r.getPduDataFieldLen = h.pduDataFieldLen
  lenEntityIds : r.getLenEntityIds = h.pduConf.sourceId.width
  lenSeqNum : r.getLenSeqNum = h.pduConf.seqNum.width
  sourceId : ∀ field, r.getSourceId field = some h.pduConf.sourceId
  destId : ∀ field, r.getDestId field = some h.pduConf.destId
  seqNum : ∀ field, r.getTransactionSeqNum field = some h.pduConf.seqNum
  headerSize : r.getHeaderSize = h.getSerializedSize
  wholePduSize : r.getWholePduSize = h.getWholePduSize

/-- The bytes of a field between other bytes are found at its position. -/
theorem assignVarLenField_append {r : PduHeaderReader} (before after : List UInt8)
    {source : VarLenField} (hwidth : VarLenField.Supported source.width)
    (hdata : r.rawPtr = some (before ++ source.bytes .big ++ after)) (field : VarLenField) :
  r.assignVarLenField field source.width before.length = some source
  := by
  have hbytes : r.bytesAt before.length source.width.toNat = some (source.bytes .big) := by
    rw [bytesAt, hdata]
    simp only [Option.getD_some, List.length_append, VarLenField.length_bytes]
    rw [if_pos (by omega), List.append_assoc, List.drop_left, List.take_left' (by simp)]
  rw [assignVarLenField, if_pos hwidth, hbytes]
  simp only [Option.bind_eq_bind, Option.bind_some, VarLenField.setValue_bytes hwidth]
  rfl

/-- The fixed header that a reader of written bytes looks at. -/
theorem agrees_fixed {r : PduHeaderReader} {h : HeaderCreator} {data : List UInt8}
    (hdata : r.fixedHeader = some (h.fixedBytes ++ data)) :
  r.fixedByte 0 = h.firstByte ∧ r.fixedByte 3 = h.fourthByte ∧
    (h.pduDataFieldLen < 2 ^ 16 → r.getPduDataFieldLen = h.pduDataFieldLen)
  := by
  have hbyte : ∀ i, r.fixedByte i = ((h.fixedBytes ++ data)[i]?).getD 0 := by
    intro i
    rw [fixedByte, hdata, Option.getD_some]
  refine ⟨hbyte 0, hbyte 3, ?_⟩
  intro hlen
  rw [getPduDataFieldLen, hbyte 1, hbyte 2]
  exact (HeaderCreator.lengthBytes_mod _).trans (Nat.mod_eq_of_lt hlen)

/-- Seven bytes are enough for `parseData` to set the pointers. -/
theorem parseData_eq_ok {data : List UInt8} (hlen : 7 ≤ data.length) :
  ∃ r, (new data).parseData = (.ok, r) ∧ r.rawPtr = some data ∧ r.fixedHeader = some data ∧
    r.sourceIdRaw = 4 ∧ r.seqNumRaw = 4 + r.getLenEntityIds.toNat ∧
    r.destIdRaw = 4 + r.getLenEntityIds.toNat + r.getLenSeqNum.toNat
  := by
  have hraw : (new data).rawPtr = some data := if_neg (Nat.not_lt.mpr hlen)
  rw [parseData, hraw]
  simp only [if_neg (Nat.not_lt.mpr hlen)]
  split
  · exact ⟨_, rfl, rfl, rfl, rfl, rfl, rfl⟩
  · exact ⟨_, rfl, rfl, rfl, rfl, rfl, rfl⟩

/-- A byte that holds a flag tells it. -/
theorem decide_ne_zero {byte : UInt8} {flag : Bool} (h : byte.toNat = flag.toNat) :
  decide (byte ≠ 0) = flag
  := by
  have hzero : byte = 0 ↔ byte.toNat = 0 := by rw [← UInt8.toNat_inj, UInt8.toNat_zero]
  cases flag with
  | false =>
      rw [decide_eq_false_iff_not, not_not, hzero, h]
      rfl
  | true =>
      rw [decide_eq_true_eq, ne_eq, hzero, h]
      decide

section Agreement

variable {h : HeaderCreator} {trailing : List UInt8} {r : PduHeaderReader}

/-- The flags of the first byte. -/
theorem agrees_firstByte (hfirst : r.fixedByte 0 = h.firstByte) :
  r.getPduType = h.pduType ∧ r.getDirection = h.pduConf.direction ∧
    r.getTransmissionMode = h.pduConf.mode ∧ r.getCrcFlag = h.pduConf.crcFlag ∧
    r.getLargeFileFlag = h.pduConf.largeFile
  := by
  obtain ⟨-, h₄, -, h₃, h₂, h₁, h₀, -⟩ := HeaderCreator.toNat_bits h.firstByte
  have hfirstNat := h.toNat_firstByte
  have hpduType := h.pduType.code_lt
  have hdirection := h.pduConf.direction.code_lt
  have hmode := h.pduConf.mode.code_lt
  have hcrcFlag := h.pduConf.crcFlag.toNat_lt
  have hlargeFile := h.pduConf.largeFile.toNat_lt
  simp only [getPduType, getDirection, getTransmissionMode, getCrcFlag, getLargeFileFlag,
    hfirst]
  refine ⟨?_, ?_, ?_, ?_, ?_⟩
  · rw [h₄, show h.firstByte.toNat / 2 ^ 4 % 2 = h.pduType.code by omega]
    apply PduType.ofCode_code
  · rw [h₃, show h.firstByte.toNat / 2 ^ 3 % 2 = h.pduConf.direction.code by omega]
    apply Direction.ofCode_code
  · rw [h₂, show h.firstByte.toNat / 2 ^ 2 % 2 = h.pduConf.mode.code by omega]
    apply TransmissionMode.ofCode_code
  · apply decide_ne_zero
    omega
  · apply decide_ne_zero
    omega

/-- The flags and widths of the fourth byte. -/
theorem agrees_fourthByte (hsource : VarLenField.Supported h.pduConf.sourceId.width)
    (hseq : VarLenField.Supported h.pduConf.seqNum.width)
    (hfourth : r.fixedByte 3 = h.fourthByte) :
  r.getSegmentationControl = h.segmentationCtrl ∧
    r.getLenEntityIds = h.pduConf.sourceId.width ∧
    r.getSegmentMetadataFlag = h.segmentMetadataFlag ∧
    r.getLenSeqNum = h.pduConf.seqNum.width
  := by
  obtain ⟨h₇, -, hids, h₃, -, -, -, hnum⟩ := HeaderCreator.toNat_bits h.fourthByte
  have hfourthNat := HeaderCreator.toNat_fourthByte hsource hseq
  have hsegmentation := h.segmentationCtrl.code_lt
  have hmetadata := h.segmentMetadataFlag.code_lt
  have hwidth : ∀ width, VarLenField.Supported width → width.toNat < 8 := by
    rintro width (hw | hw | hw) <;> rw [hw] <;> decide
  have hsourceWidth := hwidth _ hsource
  have hseqWidth := hwidth _ hseq
  simp only [getSegmentationControl, getLenEntityIds, getSegmentMetadataFlag, getLenSeqNum,
    hfourth]
  refine ⟨?_, ?_, ?_, ?_⟩
  · rw [h₇, show h.fourthByte.toNat / 2 ^ 7 % 2 = h.segmentationCtrl.code by omega]
    apply SegmentationControl.ofCode_code
  · apply UInt8.toNat_inj.mp
    omega
  · rw [h₃, show h.fourthByte.toNat / 2 ^ 3 % 2 = h.segmentMetadataFlag.code by omega]
    apply SegmentMetadataFlag.ofCode_code
  · apply UInt8.toNat_inj.mp
    omega

/-- The reader of a written header agrees with the creator. -/
theorem agrees_of_bytes (hlen : h.pduDataFieldLen < 2 ^ 16)
    (hsource : VarLenField.Supported h.pduConf.sourceId.width)
    (hseq : VarLenField.Supported h.pduConf.seqNum.width)
    (hdest : h.pduConf.destId.width = h.pduConf.sourceId.width)
    (hraw : r.rawPtr = some (h.bytes .big ++ trailing))
    (hfixed : r.fixedHeader = some (h.bytes .big ++ trailing))
    (hsourceRaw : r.sourceIdRaw = 4)
    (hseqRaw : r.seqNumRaw = 4 + r.getLenEntityIds.toNat)
    (hdestRaw : r.destIdRaw = 4 + r.getLenEntityIds.toNat + r.getLenSeqNum.toNat) :
  r.Agrees h
  := by
  have hfixed' := hfixed
  simp only [HeaderCreator.bytes, List.append_assoc] at hfixed' hraw
  obtain ⟨hfirst, hfourth, hfieldLen⟩ := agrees_fixed hfixed'
  obtain ⟨hpduType, hdirection, hmode, hcrcFlag, hlargeFile⟩ := agrees_firstByte hfirst
  obtain ⟨hsegmentation, hids, hmetadata, hnum⟩ := agrees_fourthByte hsource hseq hfourth
  have hheader : r.getHeaderSize = h.getSerializedSize := by
    rw [getHeaderSize, hfixed, HeaderCreator.getSerializedSize, hids, hnum]
    simp only [Option.isSome_some, if_true]
    omega
  constructor
  · exact hpduType
  · exact hdirection
  · exact hmode
  · exact hcrcFlag
  · exact hlargeFile
  · exact hsegmentation
  · exact hmetadata
  · exact hfieldLen hlen
  · exact hids
  · exact hnum
  · intro field
    rw [getSourceId, hids, hsourceRaw]
    apply assignVarLenField_append h.fixedBytes
      (h.pduConf.seqNum.bytes .big ++ h.pduConf.destId.bytes .big ++ trailing) hsource
    rw [hraw]
    simp
  · intro field
    rw [getDestId, hids, hdestRaw, hids, hnum, ← hdest]
    have hlength : 4 + h.pduConf.sourceId.width.toNat + h.pduConf.seqNum.width.toNat
        = (h.fixedBytes ++ h.pduConf.sourceId.bytes .big ++
          h.pduConf.seqNum.bytes .big).length := by
      simp [HeaderCreator.fixedBytes]
      omega
    rw [hdest, hlength, ← hdest]
    apply assignVarLenField_append _ trailing (hdest ▸ hsource)
    rw [hraw]
    simp
  · intro field
    have hlength : 4 + h.pduConf.sourceId.width.toNat
        = (h.fixedBytes ++ h.pduConf.sourceId.bytes .big).length := by
      simp [HeaderCreator.fixedBytes]
      omega
    rw [getTransactionSeqNum, hnum, hseqRaw, hids, hlength]
    apply assignVarLenField_append _ (h.pduConf.destId.bytes .big ++ trailing) hseq
    rw [hraw]
    simp
  · exact hheader
  · rw [getWholePduSize, hfieldLen hlen, hheader]
    rfl

end Agreement

/-- A header with ids of one width and a data field of at most 65535 bytes is written into
every buffer with room for it, and takes `getSerializedSize` bytes.  Written in network byte
order, and followed by at least the data field, it is read back as it was. -/
theorem parseData_serialize {h : HeaderCreator} (hlen : h.pduDataFieldLen ≤ 65535)
    (hsource : VarLenField.Supported h.pduConf.sourceId.width)
    (hseq : VarLenField.Supported h.pduConf.seqNum.width)
    (hdest : h.pduConf.destId.width = h.pduConf.sourceId.width)
    {maxSize : ℕ} {b : SerialBuffer} (hroom : b.size + h.getSerializedSize ≤ maxSize)
    (e : Endianness) :
  ∃ header, h.serialize maxSize e b = (.ok, b.put header) ∧
    header.length = h.getSerializedSize ∧
    (e = .big → ∀ trailing : List UInt8, h.pduDataFieldLen ≤ trailing.length →
      ∃ reader, (new (header ++ trailing)).parseData = (.ok, reader) ∧ reader.Agrees h)
  := by
  have hlength := HeaderCreator.length_bytes_of_width hdest e
  use h.bytes e, HeaderCreator.serialize_of_le hsource hseq hdest e hroom, hlength
  rintro rfl trailing -
  have hseven : 7 ≤ (h.bytes .big ++ trailing).length := by
    have hsourcePos := hsource.pos
    have hseqPos := hseq.pos
    rw [List.length_append, hlength, HeaderCreator.getSerializedSize]
    omega
  obtain ⟨r, hok, hraw, hfixed, hsourceRaw, hseqRaw, hdestRaw⟩ := parseData_eq_ok hseven
  use r, hok
  apply agrees_of_bytes (by omega) hsource hseq hdest hraw hfixed hsourceRaw hseqRaw hdestRaw

/-- The header of a file data PDU of ten bytes, between entities with ids of two bytes. -/
def tenBytes : HeaderCreator where
  pduType := .fileData
  segmentMetadataFlag := .present
  segmentationCtrl := .recordBoundariesPreservation
  pduDataFieldLen := 10
  pduConf :=
    { mode := .unacknowledged
      seqNum := .new .fourBytes 0x01020304
      sourceId := .new .twoBytes 0xabcd
      destId := .new .twoBytes 7
      crcFlag := true
      largeFile := false
      direction := .towardsSender }

theorem parseData_serialize_tenBytes :
  ∃ header, tenBytes.serialize 12 .big ⟨[], 0⟩ = (.ok, SerialBuffer.put ⟨[], 0⟩ header) ∧
    header.length = tenBytes.getSerializedSize ∧
    (Endianness.big = .big → ∀ trailing : List UInt8, tenBytes.pduDataFieldLen ≤ trailing.length →
      ∃ reader, (new (header ++ trailing)).parseData = (.ok, reader) ∧ reader.Agrees tenBytes)
  := parseData_serialize (by decide) (by decide) (by decide) (by decide) (by decide) _

end PduHeaderReader

end Cfdp
