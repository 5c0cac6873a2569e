import Fsfw.Cfdp.Header
import Fsfw.Cfdp.Tlv

/-!
# The creators of protocol data units

Each kind of PDU has a creator, which is given the configuration of the transaction and the
contents of the PDU.  When it is constructed it computes the length of the data field from
the contents; when it serializes the PDU it writes the header with this length, and then goes
through the contents once more.  The file directives have a directive code in front of the
other contents.

The arrays of pointers in the contents are lists, empty ones for null pointers, and the other
pointers that may be null are optional.
-/

namespace Cfdp

open Serializer

/-- A creator of file directives, with the length of the parameters of the directive. -/
structure FileDirectiveCreator where
  pduConf : PduConfig
  directiveCode : FileDirective
  directiveParamFieldLen : ℕ

namespace FileDirectiveCreator

/-- The header counts the directive code. -/
def header (c : FileDirectiveCreator) : HeaderCreator where
  pduType := .fileDirective
  segmentMetadataFlag := .notPresent
  segmentationCtrl := .noRecordBoundariesPreservation
  pduDataFieldLen := c.directiveParamFieldLen + 1
  pduConf := c.pduConf

def getWholePduSize (c : FileDirectiveCreator) : ℕ :=
  c.header.getWholePduSize

def serialize (c : FileDirectiveCreator) : Serializer :=
  fun maxSize e b =>
    if maxSize < c.getWholePduSize then (SerializeIF.bufferTooShort, b)
    else
      andThen (c.header.serialize maxSize e b) fun b₁ =>
        if maxSize ≤ b₁.size then (SerializeIF.bufferTooShort, b₁)
        else (.ok, b₁.put [UInt8.ofNat c.directiveCode.code])

/-- With room for the whole PDU, the header and the directive code are written. -/
theorem serialize_of_le {c : FileDirectiveCreator} (hconf : c.pduConf.Regular) {maxSize : ℕ}
    (e : Endianness) {b : SerialBuffer} (hroom : b.size + c.getWholePduSize ≤ maxSize) :
  c.serialize maxSize e b
    = (.ok, b.put (c.header.bytes e ++ [UInt8.ofNat c.directiveCode.code]))
  := by
  have hlength : (c.header.bytes e).length = c.header.getSerializedSize :=
    HeaderCreator.length_bytes_of_width hconf.destId e
  have hwhole : c.getWholePduSize = c.directiveParamFieldLen + 1 + c.header.getSerializedSize :=
    rfl
  rw [serialize, if_neg (by omega),
    HeaderCreator.serialize_of_le hconf.sourceId hconf.seqNum hconf.destId e (by omega),
    andThen_ok, if_neg (by rw [SerialBuffer.size_put]; omega), SerialBuffer.put_put]

end FileDirectiveCreator

/-! ### End of file -/

structure EofInfo where
  conditionCode : ConditionCode
  checksum : UInt32
  fileSize : FileSize
  faultLoc : Option EntityIdTlv

namespace EofInfo

/-- The fault location, unless there is no error. -/
def reportedFaultLoc (info : EofInfo) : Option EntityIdTlv :=
  if info.conditionCode = .noError then none else info.faultLoc

def getSerializedSize (info : EofInfo) (fssLarge : Bool) : ℕ :=
  5 + (if fssLarge then 8 else 4) +
    (info.reportedFaultLoc.map EntityIdTlv.getSerializedSize).getD 0

end EofInfo

structure EofPduCreator where
  pduConf : PduConfig
  info : EofInfo

namespace EofPduCreator

def directive (c : EofPduCreator) : FileDirectiveCreator where
  pduConf := c.pduConf
  directiveCode := .eofDirective
  directiveParamFieldLen := c.info.getSerializedSize c.pduConf.largeFile

def getSerializedSize (c : EofPduCreator) : ℕ :=
  c.directive.getWholePduSize

-- The file size is written by its own flag.  A fault location is serialized behind a file size
-- that failed as well, and its result is then the one that is returned.
def serialize (c : EofPduCreator) : Serializer :=
  fun maxSize e b =>
    andThen (c.directive.serialize maxSize e b) fun b₁ =>
      if maxSize < b₁.size + 1 then (SerializeIF.bufferTooShort, b₁)
      else
        let b₂ := b₁.put [UInt8.ofNat (c.info.conditionCode.code <<< 4)]
        andThen (SerializeAdapter.serialize 4 c.info.checksum.toNat maxSize e b₂) fun b₃ =>
          let r := c.info.fileSize.serialize maxSize e b₃
          match c.info.reportedFaultLoc with
          | some faultLoc => faultLoc.serialize maxSize e r.2
          | none => r

end EofPduCreator

/-! ### Finished -/

structure FinishedInfo where
  conditionCode : ConditionCode
  deliveryCode : FileDeliveryCode
  fileStatus : FileDeliveryStatus
  fsResponses : List FilestoreResponseTlv
  faultLocation : Option EntityIdTlv

namespace FinishedInfo

def getSerializedSize (info : FinishedInfo) : ℕ :=
  1 + (info.fsResponses.map FilestoreResponseTlv.getSerializedSize).sum +
    (info.faultLocation.map EntityIdTlv.getSerializedSize).getD 0

end FinishedInfo

structure FinishPduCreator where
  pduConf : PduConfig
  finishInfo : FinishedInfo

namespace FinishPduCreator

def directive (c : FinishPduCreator) : FileDirectiveCreator where
  pduConf := c.pduConf
  directiveCode := .finish
  directiveParamFieldLen := c.finishInfo.getSerializedSize

def getSerializedSize (c : FinishPduCreator) : ℕ :=
  c.directive.getWholePduSize

def serialize (c : FinishPduCreator) : Serializer :=
  fun maxSize e b =>
    andThen (c.directive.serialize maxSize e b) fun b₁ =>
      if maxSize < b₁.size + 1 then (SerializeIF.bufferTooShort, b₁)
      else
        let b₂ := b₁.put [UInt8.ofNat (c.finishInfo.conditionCode.code <<< 4 |||
          c.finishInfo.deliveryCode.code <<< 2 ||| c.finishInfo.fileStatus.code)]
        andThen (all FilestoreResponseTlv.serialize c.finishInfo.fsResponses maxSize e b₂)
          fun b₃ =>
            match c.finishInfo.faultLocation with
            | some entityId => entityId.serialize maxSize e b₃
            | none => (.ok, b₃)

end FinishPduCreator

/-! ### Acknowledgement -/

structure AckInfo where
  ackedDirective : FileDirective
  ackedConditionCode : ConditionCode
  transactionStatus : AckTransactionStatus
  directiveSubtypeCode : UInt8

structure AckPduCreator where
  pduConf : PduConfig
  ackInfo : AckInfo

namespace AckPduCreator

def directive (c : AckPduCreator) : FileDirectiveCreator where
  pduConf := c.pduConf
  directiveCode := .ack
  directiveParamFieldLen := 2

def getSerializedSize (c : AckPduCreator) : ℕ :=
  c.directive.getWholePduSize

-- Only the finished and the end of file PDUs are acknowledged.
def serialize (c : AckPduCreator) : Serializer :=
  fun maxSize e b =>
    andThen (c.directive.serialize maxSize e b) fun b₁ =>
      if c.ackInfo.ackedDirective ≠ .finish ∧ c.ackInfo.ackedDirective ≠ .eofDirective then
        (.failed, b₁)
      else if maxSize < b₁.size + 2 then (SerializeIF.bufferTooShort, b₁)
      else
        (.ok, b₁.put
          [UInt8.ofNat (c.ackInfo.ackedDirective.code <<< 4 |||
              c.ackInfo.directiveSubtypeCode.toNat),
            UInt8.ofNat (c.ackInfo.ackedConditionCode.code <<< 4 |||
              c.ackInfo.transactionStatus.code)])

end AckPduCreator

/-! ### Metadata -/

structure MetadataInfo where
  closureRequested : Bool
  checksumType : ChecksumType
  fileSize : FileSize
  sourceFileName : Lv
  destFileName : Lv
  options : List Tlv

namespace MetadataInfo

def getSerializedSize (info : MetadataInfo) (fssLarge : Bool) : ℕ :=
  5 + (if fssLarge then 4 else 0) + info.sourceFileName.getSerializedSize +
    info.destFileName.getSerializedSize + (info.options.map Tlv.getSerializedSize).sum

end MetadataInfo

structure MetadataPduCreator where
  pduConf : PduConfig
  info : MetadataInfo

namespace MetadataPduCreator

def directive (c : MetadataPduCreator) : FileDirectiveCreator where
  pduConf := c.pduConf
  directiveCode := .metadata
  directiveParamFieldLen := c.info.getSerializedSize c.pduConf.largeFile

def getSerializedSize (c : MetadataPduCreator) : ℕ :=
  c.directive.getWholePduSize

-- The check in front of the flags wants room for one byte more.
def serialize (c : MetadataPduCreator) : Serializer :=
  fun maxSize e b =>
    andThen (c.directive.serialize maxSize e b) fun b₁ =>
      if maxSize ≤ b₁.size + 1 then (SerializeIF.bufferTooShort, b₁)
      else
        let b₂ := b₁.put
          [UInt8.ofNat (c.info.closureRequested.toNat <<< 6 ||| c.info.checksumType.code)]
        andThen (c.info.fileSize.serialize maxSize e b₂) fun b₃ =>
          andThen (c.info.sourceFileName.serialize maxSize e b₃) fun b₄ =>
            andThen (c.info.destFileName.serialize maxSize e b₄) fun b₅ =>
              all Tlv.serialize c.info.options maxSize e b₅

end MetadataPduCreator

/-! ### Prompt -/

structure PromptPduCreator where
  pduConf : PduConfig
  responseRequired : PromptResponseRequired

namespace PromptPduCreator

def directive (c : PromptPduCreator) : FileDirectiveCreator where
  pduConf := c.pduConf
  directiveCode := .prompt
  directiveParamFieldLen := 1

def getSerializedSize (c : PromptPduCreator) : ℕ :=
  c.directive.getWholePduSize

def serialize (c : PromptPduCreator) : Serializer :=
  fun maxSize e b =>
    andThen (c.directive.serialize maxSize e b) fun b₁ =>
      if maxSize < b₁.size + 1 then (SerializeIF.bufferTooShort, b₁)
      else (.ok, b₁.put [UInt8.ofNat (c.responseRequired.code <<< 7)])

end PromptPduCreator

/-! ### Negative acknowledgement -/

/-- The scope of the request, and the segments that are requested. -/
structure NakInfo where
  startOfScope : FileSize
  endOfScope : FileSize
  segmentRequests : List (FileSize × FileSize)

namespace NakInfo

def getSerializedSize (info : NakInfo) (fssLarge : Bool) : ℕ :=
  8 + (if fssLarge then 8 else 0) +
    if fssLarge then info.segmentRequests.length * 16 else info.segmentRequests.length * 8

end NakInfo

structure NakPduCreator where
  pduConf : PduConfig
  nakInfo : NakInfo

namespace NakPduCreator

def directive (c : NakPduCreator) : FileDirectiveCreator where
  pduConf := c.pduConf
  directiveCode := .nak
  directiveParamFieldLen := c.nakInfo.getSerializedSize c.pduConf.largeFile

def getSerializedSize (c : NakPduCreator) : ℕ :=
  c.directive.getWholePduSize

/-- Serialize the two ends of a segment. -/
def serializeSegment (segment : FileSize × FileSize) : Serializer :=
  fun maxSize e b =>
    andThen (segment.1.serialize maxSize e b) fun b₁ => segment.2.serialize maxSize e b₁

def serialize (c : NakPduCreator) : Serializer :=
  fun maxSize e b =>
    andThen (c.directive.serialize maxSize e b) fun b₁ =>
      andThen (c.nakInfo.startOfScope.serialize maxSize e b₁) fun b₂ =>
        andThen (c.nakInfo.endOfScope.serialize maxSize e b₂) fun b₃ =>
          all serializeSegment c.nakInfo.segmentRequests maxSize e b₃

end NakPduCreator

/-! ### Keep alive -/

structure KeepAlivePduCreator where
  pduConf : PduConfig
  progress : FileSize

namespace KeepAlivePduCreator

def directive (c : KeepAlivePduCreator) : FileDirectiveCreator where
  pduConf := c.pduConf
  directiveCode := .keepAlive
  directiveParamFieldLen := if c.pduConf.largeFile then 8 else 4

def getSerializedSize (c : KeepAlivePduCreator) : ℕ :=
  c.directive.getWholePduSize

def serialize (c : KeepAlivePduCreator) : Serializer :=
  fun maxSize e b =>
    andThen (c.directive.serialize maxSize e b) fun b₁ =>
      c.progress.serializeAs c.pduConf.largeFile maxSize e b₁

end KeepAlivePduCreator

/-! ### File data -/

/-- A part of a file.  The file data and the metadata are the bytes that the pointers and the
lengths belonging to them give. -/
structure FileDataInfo where
  segmentMetadataFlag : SegmentMetadataFlag
  segCtrl : SegmentationControl
  recContState : RecordContinuationState
  segmentMetadata : List UInt8
  offset : FileSize
  fileData : List UInt8

namespace FileDataInfo

def getSerializedSize (info : FileDataInfo) (largeFile : Bool) : ℕ :=
  (if info.segmentMetadataFlag = .present then 1 + info.segmentMetadata.length else 0) +
    (if largeFile then 8 else 4) + info.fileData.length

end FileDataInfo

structure FileDataCreator where
  pduConf : PduConfig
  info : FileDataInfo

namespace FileDataCreator

def header (c : FileDataCreator) : HeaderCreator where
  pduType := .fileData
  segmentMetadataFlag := c.info.segmentMetadataFlag
  segmentationCtrl := c.info.segCtrl
  pduDataFieldLen := c.info.getSerializedSize c.pduConf.largeFile
  pduConf := c.pduConf

def getSerializedSize (c : FileDataCreator) : ℕ :=
  c.header.getSerializedSize + c.info.getSerializedSize c.pduConf.largeFile

/-- The metadata with the byte in front of it. -/
def metadataBytes (c : FileDataCreator) : List UInt8 :=
  if c.info.segmentMetadataFlag = .present then
    UInt8.ofNat (c.info.recContState.code <<< 6 ||| c.info.segmentMetadata.length) ::
      c.info.segmentMetadata
  else
    []

theorem length_metadataBytes (c : FileDataCreator) :
  c.metadataBytes.length
    = if c.info.segmentMetadataFlag = .present then 1 + c.info.segmentMetadata.length else 0
  := by
  rw [metadataBytes]
  split
  · rw [List.length_cons, Nat.add_comm]
  · rfl

def serialize (c : FileDataCreator) : Serializer :=
  fun maxSize e b =>
    if maxSize < b.size + c.getSerializedSize then (SerializeIF.bufferTooShort, b)
    else
      andThen (c.header.serialize maxSize e b) fun b₁ =>
        andThen (c.info.offset.serializeAs c.pduConf.largeFile maxSize e
            (b₁.put c.metadataBytes)) fun b₂ =>
          if maxSize < b₂.size + c.info.fileData.length then
            (SerializeIF.bufferTooShort, b₂)
          else
            (.ok, b₂.put c.info.fileData)

end FileDataCreator

/-- The creators of PDUs. -/
inductive PduCreator where
  | eof (c : EofPduCreator)
  | finished (c : FinishPduCreator)
  | ack (c : AckPduCreator)
  | metadata (c : MetadataPduCreator)
  | prompt (c : PromptPduCreator)
  | nak (c : NakPduCreator)
  | keepAlive (c : KeepAlivePduCreator)
  | fileData (c : FileDataCreator)

namespace PduCreator

/-- The header that a creator was constructed with. -/
def header : PduCreator → HeaderCreator
  | eof c => c.directive.header
  | finished c => c.directive.header
  | ack c => c.directive.header
  | metadata c => c.directive.header
  | prompt c => c.directive.header
  | nak c => c.directive.header
  | keepAlive c => c.directive.header
  | fileData c => c.header

def getSerializedSize : PduCreator → ℕ
  | eof c => c.getSerializedSize
  | finished c => c.getSerializedSize
  | ack c => c.getSerializedSize
  | metadata c => c.getSerializedSize
  | prompt c => c.getSerializedSize
  | nak c => c.getSerializedSize
  | keepAlive c => c.getSerializedSize
  | fileData c => c.getSerializedSize

def serialize : PduCreator → Serializer
  | eof c => c.serialize
  | finished c => c.serialize
  | ack c => c.serialize
  | metadata c => c.serialize
  | prompt c => c.serialize
  | nak c => c.serialize
  | keepAlive c => c.serialize
  | fileData c => c.serialize

end PduCreator

end Cfdp
