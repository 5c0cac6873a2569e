import Fsfw.Cfdp.Header
import Fsfw.Cfdp.ReadBuffer

/-!
# The readers of file directives

A reader is handed a packet, and parses it into the info object it was constructed with.  It
parses the header and the directive code first, and then reads the parameters of the directive
from the bytes that the header declares.

The objects that are read into are structures of their own (`Received`).  Their enumerations are
numbers, since a cast can make one that has no name, and their arrays come with the number of
places that the reader goes by.  Using a place behind the end of an array is undefined (`none`).
-/

namespace Cfdp

open ReadBuffer

/-! ### The directive code -/

/-- A reader of a file directive. -/
structure FileDirectiveReader extends PduHeaderReader where
  fileDirective : ℕ

namespace FileDirectiveReader

def new (data : List UInt8) : FileDirectiveReader where
  toPduHeaderReader := .new data
  fileDirective := FileDirective.invalidDirective.code

def checkFileDirective (rawByte : UInt8) : Bool :=
  ¬ (rawByte.toNat < FileDirective.eofDirective.code ∨
    (FileDirective.prompt.code < rawByte.toNat ∧ rawByte.toNat ≠ FileDirective.keepAlive.code))

/-- The header with the directive code. -/
def getHeaderSize (r : FileDirectiveReader) : ℕ :=
  r.toPduHeaderReader.getHeaderSize + 1

def parseData (r : FileDirectiveReader) : Option (ReturnValue × FileDirectiveReader) :=
  let (result, header) := r.toPduHeaderReader.parseData
  let r := { r with toPduHeaderReader := header }
  let data := r.rawPtr.getD []
  if result ≠ .ok then
    some (result, r)
  else if r.getPduDataFieldLen < 1 then
    some (invalidPduDatafieldLen, r)
  else if data.length < r.getWholePduSize then
    some (SerializeIF.streamTooShort, r)
  else do
    let rawByte ← data[r.toPduHeaderReader.getHeaderSize]?
    if checkFileDirective rawByte then
      return (.ok, { r with fileDirective := rawByte.toNat })
    else
      return (invalidDirectiveField, r)

/-- How the readers of directives begin: they parse the header and the directive code, and go on
with `next` at the index of the parameters, of which there has to be one byte. -/
def parseThen {α : Type} (data : List UInt8) (info : α)
    (next : ℕ → ReadBuffer → Option (ReadResult α)) : Option (ReturnValue × α) := do
  let (result, r) ← parseData (new data)
  if result ≠ .ok then
    return (result, info)
  else
    let currentIdx := r.getHeaderSize
    let remSize := r.getWholePduSize - currentIdx
    if remSize < 1 then
      return (SerializeIF.streamTooShort, info)
    else
      let (result, info, _) ← next currentIdx ⟨data.drop currentIdx, remSize⟩
      return (result, info)

end FileDirectiveReader

/-! ### Negative acknowledgement -/

/-- An info object that a NAK PDU is read into. The array of segment requests may be missing. -/
structure NakInfo.Received where
  startOfScope : FileSize
  endOfScope : FileSize
  segmentRequests : Option (List (FileSize × FileSize))
  segmentRequestsLen : ℕ
  maxSegmentRequestsLen : ℕ

namespace NakInfo.Received

def canHoldSegmentRequests (info : Received) : Bool :=
  info.segmentRequests.isSome ∧ 0 < info.maxSegmentRequestsLen

end NakInfo.Received

namespace NakPduReader

open NakInfo (Received)

/-- Read the two ends of a segment. -/
def deSerializeSegment (segment : FileSize × FileSize) (b : ReadBuffer) :
    Option (ReadResult (FileSize × FileSize)) :=
  andThen (segment.1.deSerialize .big b) (fun first => (first, segment.2)) fun segment b =>
    andThen (segment.2.deSerialize .big b) (fun second => (segment.1, second)) fun segment b =>
      some (.ok, segment, b)

def parseParameters (info : Received) (b : ReadBuffer) : Option (ReadResult Received) :=
  andThen (info.startOfScope.deSerialize .big b)
      (fun size => { info with startOfScope := size }) fun info b =>
    andThen (info.endOfScope.deSerialize .big b)
        (fun size => { info with endOfScope := size }) fun info b =>
      let info := { info with segmentRequestsLen := 0 }
      if b.size = 0 then
        some (.ok, info, b)
      else if ¬ info.canHoldSegmentRequests then
        some (nakCantParseOptions, info, b)
      else
        andThen (readArray deSerializeSegment nakCantParseOptions info.maxSegmentRequestsLen 0
            (info.segmentRequests.getD []) b)
          (fun (idx, segReqs) =>
            { info with segmentRequests := some segReqs, segmentRequestsLen := idx })
          fun info b => some (.ok, info, b)

def parseData (data : List UInt8) (info : Received) : Option (ReturnValue × Received) :=
  FileDirectiveReader.parseThen data info fun _ b => parseParameters info b

end NakPduReader

/-! ### Metadata -/

/-- An info object that a metadata PDU is read into. The array of options may be missing. -/
structure MetadataInfo.Received where
  closureRequested : Bool
  checksumType : ℕ
  fileSize : FileSize
  sourceFileName : Lv
  destFileName : Lv
  optionsArray : Option (List Tlv)
  optionsLen : ℕ
  maxOptionsLen : ℕ

namespace MetadataInfo.Received

def canHoldOptions (info : Received) : Bool :=
  info.optionsArray.isSome ∧ 0 < info.maxOptionsLen

end MetadataInfo.Received

namespace MetadataPduReader

open MetadataInfo (Received)

-- The index is only compared with the number of places by `>`, so there is one round more.
def parseParameters (info : Received) (b : ReadBuffer) : Option (ReadResult Received) := do
  let byte ← b.byte
  let info :=
    { info with
      closureRequested := (byte >>> 6) &&& 0x01 ≠ 0
      checksumType := (byte &&& 0x0f).toNat }
  andThen (info.fileSize.deSerialize .big (b.advance 1))
      (fun size => { info with fileSize := size }) fun info b =>
    andThen (info.sourceFileName.deSerialize b)
        (fun lv => { info with sourceFileName := lv }) fun info b =>
      andThen (info.destFileName.deSerialize b)
          (fun lv => { info with destFileName := lv }) fun info b =>
        let info := { info with optionsLen := 0 }
        if b.size = 0 then
          some (.ok, info, b)
        else if ¬ info.canHoldOptions then
          some (metadataCantParseOptions, info, b)
        else
          andThen (readArray Tlv.deSerialize metadataCantParseOptions (info.maxOptionsLen + 1) 0
              (info.optionsArray.getD []) b)
            (fun (idx, options) => { info with optionsArray := some options, optionsLen := idx })
            fun info b => some (.ok, info, b)

def parseData (data : List UInt8) (info : Received) : Option (ReturnValue × Received) :=
  FileDirectiveReader.parseThen data info fun _ b => parseParameters info b

end MetadataPduReader

/-! ### Finished -/

/-- An info object that a finished PDU is read into. The array of filestore responses and the
fault location may be missing. -/
structure FinishedInfo.Received where
  conditionCode : ℕ
  deliveryCode : ℕ
  fileStatus : ℕ
  fsResponses : Option (List FilestoreResponseTlv.Received)
  fsResponsesLen : ℕ
  fsResponsesMaxLen : ℕ
  faultLocation : Option EntityIdTlv

namespace FinishedInfo.Received

def canHoldFsResponses (info : Received) : Bool :=
  info.fsResponses.isSome ∧ 0 < info.fsResponsesMaxLen

def setFsResponse (info : Received) (idx : ℕ) (tlv : FilestoreResponseTlv.Received) : Received :=
  { info with fsResponses := info.fsResponses.map fun responses => responses.set idx tlv }

end FinishedInfo.Received

namespace FinishPduReader

open FinishedInfo (Received)

/-- The loop over the remaining bytes, with a bound on the number of rounds. The current index is
compared with the size of the buffer, and stays the same. -/
def parseTlvsLoop (maxSize currentIdx : ℕ) :
    ℕ → ℕ → Received → ReadBuffer → Option (ReadResult Received)
  | rounds, fsResponsesIdx, info, b =>
      if b.size = 0 then
        some (.ok, { info with fsResponsesLen := fsResponsesIdx }, b)
      else
        match rounds with
        | 0 => none
        | rounds + 1 => do
            if maxSize < currentIdx + 2 then
              return (SerializeIF.streamTooShort, info, b)
            else
              let nextTlv ← b.byte
              if nextTlv.toNat = TlvType.filestoreResponse.code then
                if ¬ info.canHoldFsResponses ∨ fsResponsesIdx = info.fsResponsesMaxLen then
                  return (finishedCantParseFsResponses, info, b)
                else
                  let tlv ← (info.fsResponses.getD [])[fsResponsesIdx]?
                  andThen (tlv.deSerialize b) (info.setFsResponse fsResponsesIdx) fun info b =>
                    parseTlvsLoop maxSize currentIdx rounds (fsResponsesIdx + 1) info b
              else if nextTlv.toNat = TlvType.entityId.code then
                if info.conditionCode = ConditionCode.noError.code ∨
                    info.conditionCode = ConditionCode.unsupportedChecksumType.code then
                  return (invalidTlvType, info, b)
                else
                  match info.faultLocation with
                  | none => return (.failed, info, b)
                  | some tlv =>
                      andThen (tlv.deSerialize .big b)
                          (fun tlv => { info with faultLocation := some tlv }) fun info b =>
                        parseTlvsLoop maxSize currentIdx rounds fsResponsesIdx info b
              else
                return (invalidTlvType, info, b)

def parseParameters (maxSize currentIdx : ℕ) (info : Received) (b : ReadBuffer) :
    Option (ReadResult Received) := do
  let firstByte ← b.byte
  let info :=
    { info with
      conditionCode := ((firstByte >>> 4) &&& 0x0f).toNat
      deliveryCode := ((firstByte >>> 2) &&& 0b1).toNat
      fileStatus := (firstByte &&& 0b11).toNat }
  let b := b.advance 1
  if b.size = 0 then
    return (.ok, info, b)
  else
    parseTlvsLoop maxSize (currentIdx + 1) (b.size + 1) 0 info b

def parseData (data : List UInt8) (info : Received) : Option (ReturnValue × Received) :=
  FileDirectiveReader.parseThen data info fun currentIdx b =>
    parseParameters data.length currentIdx info b

end FinishPduReader

/-! ### Headers that were written -/

/-- What a reader makes of the fixed part of a header. -/
theorem PduHeaderReader.parseData_fixed {h : HeaderCreator} (rest : List UInt8)
    (hsource : VarLenField.Supported h.pduConf.sourceId.width)
    (hseq : VarLenField.Supported h.pduConf.seqNum.width)
    (hlen : 7 ≤ (h.fixedBytes ++ rest).length) :
  ∃ r, (new (h.fixedBytes ++ rest)).parseData = (.ok, r) ∧
    r.rawPtr = some (h.fixedBytes ++ rest) ∧ r.getHeaderSize = h.getSerializedSize ∧
    r.getPduDataFieldLen = h.pduDataFieldLen % 2 ^ 16
  := by
  obtain ⟨r, hok, hraw, hfixed, -⟩ := parseData_eq_ok hlen
  have hbyte (i : ℕ) : r.fixedByte i = ((h.fixedBytes ++ rest)[i]?).getD 0 := by
    rw [fixedByte, hfixed, Option.getD_some]
  obtain ⟨-, hids, -, hnum⟩ := agrees_fourthByte hsource hseq (hbyte 3)
  refine ⟨r, hok, hraw, ?_, ?_⟩
  · rw [getHeaderSize, hfixed, Option.isSome_some, if_pos rfl, hids, hnum,
      HeaderCreator.getSerializedSize]
    omega
  · rw [getPduDataFieldLen, hbyte 1, hbyte 2]
    apply HeaderCreator.lengthBytes_mod

namespace FileDirectiveReader

section

variable {α : Type} {h : HeaderCreator} (info : α)
  (next : ℕ → ReadBuffer → Option (ReadResult α))

/-- A packet that is shorter than its header declares is refused. -/
theorem parseThen_short (hsource : VarLenField.Supported h.pduConf.sourceId.width)
    (hseq : VarLenField.Supported h.pduConf.seqNum.width) {data rest : List UInt8}
    (hdata : data <+: h.fixedBytes ++ rest)
    (hlen : data.length < h.getSerializedSize + h.pduDataFieldLen % 2 ^ 16) :
  ∃ result, parseThen data info next = some (result, info) ∧ result ≠ .ok
  := by
  suffices hparse : ∃ result r, parseData (new data) = some (result, r) ∧ result ≠ .ok by
    obtain ⟨result, r, hparse, hne⟩ := hparse
    refine ⟨result, ?_, hne⟩
    rw [parseThen, hparse]
    simp [hne]
  by_cases hseven : 7 ≤ data.length
  · have hfixed : h.fixedBytes <+: data := by
      apply List.prefix_of_prefix_length_le (List.prefix_append _ _) hdata
      have hfour : h.fixedBytes.length = 4 := rfl
      omega
    obtain ⟨rest', rfl⟩ := hfixed
    obtain ⟨r, hok, hraw, hheader, hfield⟩ :=
      PduHeaderReader.parseData_fixed rest' hsource hseq hseven
    simp only [parseData, new, hok, hraw, Option.getD_some, PduHeaderReader.getWholePduSize,
      hheader, hfield, ne_eq, not_true_eq_false, if_false]
    by_cases hzero : h.pduDataFieldLen % 2 ^ 16 < 1
    · rw [if_pos hzero]
      exact ⟨_, _, rfl, ReturnValue.noConfusion⟩
    · rw [if_neg hzero, if_pos (by omega)]
      exact ⟨_, _, rfl, ReturnValue.noConfusion⟩
  · have hraw : (PduHeaderReader.new data).rawPtr = none := if_pos (by omega)
    simp only [parseData, new, PduHeaderReader.parseData, hraw]
    exact ⟨_, _, rfl, ReturnValue.noConfusion⟩

/-- Of a packet that is long enough, the parameters are read. -/
theorem parseThen_bytes (hsource : VarLenField.Supported h.pduConf.sourceId.width)
    (hseq : VarLenField.Supported h.pduConf.seqNum.width)
    (hdest : h.pduConf.destId.width = h.pduConf.sourceId.width) {code : UInt8}
    (hcode : checkFileDirective code) {rest : List UInt8}
    (hpos : 1 < h.pduDataFieldLen % 2 ^ 16)
    (hlen : h.pduDataFieldLen % 2 ^ 16 ≤ rest.length + 1) :
  parseThen (h.bytes .big ++ code :: rest) info next
    = (next (h.getSerializedSize + 1) ⟨rest, h.pduDataFieldLen % 2 ^ 16 - 1⟩).map
      fun (result, info, _) => (result, info)
  := by
  have hsize := HeaderCreator.length_bytes_of_width hdest .big
  have hdata : h.bytes .big ++ code :: rest = h.fixedBytes ++ (h.pduConf.sourceId.bytes .big ++
      (h.pduConf.seqNum.bytes .big ++ (h.pduConf.destId.bytes .big ++ code :: rest))) := by
    simp [HeaderCreator.bytes]
  have hseven : 7 ≤ (h.bytes .big ++ code :: rest).length := by
    have hsourcePos := VarLenField.Supported.pos hsource
    have hseqPos := VarLenField.Supported.pos hseq
    rw [List.length_append, hsize, HeaderCreator.getSerializedSize]
    omega
  rw [hdata] at hseven
  obtain ⟨r, hok, hraw, hheader, hfield⟩ := PduHeaderReader.parseData_fixed _ hsource hseq hseven
  rw [← hdata] at hok hraw
  have hcodeAt : (h.bytes .big ++ code :: rest)[h.getSerializedSize]? = some code := by
    rw [← hsize, List.getElem?_append_right (Nat.le_refl _), Nat.sub_self]
    rfl
  have hdrop : (h.bytes .big ++ code :: rest).drop (h.getSerializedSize + 1) = rest := by
    rw [← hsize, List.drop_append]
    simp
  have hwhole : ¬ (h.bytes .big ++ code :: rest).length
      < h.pduDataFieldLen % 2 ^ 16 + h.getSerializedSize := by
    rw [List.length_append, hsize, List.length_cons]
    omega
  have hparse : parseData (new (h.bytes .big ++ code :: rest))
      = some (.ok, ⟨r, code.toNat⟩) := by
    simp only [parseData, new, hok, hraw, Option.getD_some, PduHeaderReader.getWholePduSize,
      hheader, hfield, ne_eq, not_true_eq_false, if_false, hwhole, hcodeAt]
    rw [if_neg (by omega), Option.bind_eq_bind, Option.bind_some, if_pos hcode]
    rfl
  rw [parseThen, hparse]
  simp only [Option.bind_eq_bind, Option.bind_some, ne_eq, not_true_eq_false, if_false,
    getHeaderSize, PduHeaderReader.getWholePduSize, hheader, hfield, hdrop]
  rw [if_neg (by omega), show h.pduDataFieldLen % 2 ^ 16 + h.getSerializedSize -
    (h.getSerializedSize + 1) = h.pduDataFieldLen % 2 ^ 16 - 1 by omega]
  exact (Option.map_eq_bind ..).symm

end

end FileDirectiveReader

end Cfdp
