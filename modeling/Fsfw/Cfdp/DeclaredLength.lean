import Fsfw.Cfdp.PduCreators

/-!
# The length that a header declares

A creator computes the length of the data field before it serializes the PDU.  The two agree
when the flags for large files in the contents are the one of the configuration, the filestore
responses announce what they write, the data field has at most 65535 bytes and the two entity
ids have one width (`lengthsReal_iff`).
-/

namespace Cfdp

open Serializer

/-- The length in the second and the third byte of a header. -/
def declaredLength (header : List UInt8) : ℕ :=
  (((header[1]?).getD 0).toNat <<< 8) ||| ((header[2]?).getD 0).toNat

theorem declaredLength_bytes (h : HeaderCreator) (e : Endianness) :
  declaredLength (h.bytes e) = h.pduDataFieldLen % 2 ^ 16
  := by
  simp only [declaredLength, HeaderCreator.bytes, HeaderCreator.fixedBytes, List.cons_append,
    List.getElem?_cons_succ, List.getElem?_cons_zero, Option.getD_some]
  apply HeaderCreator.lengthBytes_mod

/-! ### What the creators write -/

theorem FileDirectiveCreator.serialize_eq_ok {c : FileDirectiveCreator} {maxSize : ℕ}
    {e : Endianness} {b b' : SerialBuffer} (h : c.serialize maxSize e b = (.ok, b')) :
  b' = b.put (c.header.bytes e ++ [UInt8.ofNat c.directiveCode.code])
  := by
  rw [serialize] at h
  split at h
  · cases h
  · obtain ⟨b₁, hheader, hcode⟩ := andThen_eq_ok h
    obtain ⟨rfl, -⟩ := HeaderCreator.serialize_eq_ok hheader
    split at hcode
    · cases hcode
    · cases hcode
      simp

section Creators

variable {maxSize : ℕ} {e : Endianness} {b b' : SerialBuffer}

/-- An entity id that may be missing takes as many bytes as it announces. -/
theorem serialize_faultLocation {faultLocation : Option EntityIdTlv}
    (h : (match faultLocation with
      | some entityId => entityId.serialize maxSize e b
      | none => (.ok, b)) = (.ok, b')) :
  ∃ bytes, b' = b.put bytes ∧
    bytes.length = (faultLocation.map EntityIdTlv.getSerializedSize).getD 0
  := by
  cases faultLocation with
  | some entityId =>
      obtain ⟨hb', hlength⟩ := EntityIdTlv.serialize_eq_ok h
      exact ⟨_, hb', hlength⟩
  | none =>
      cases h
      exact ⟨[], by simp, rfl⟩

/-- The width of a file size tells its flag. -/
theorem FileSize.width_inj {large large' : Bool} :
  width large = width large' ↔ large = large'
  := by
  cases large <;> cases large' <;> decide

namespace EofPduCreator

/-- The file size is one that the length was computed for, and it fits into the buffer. -/
def Agrees (c : EofPduCreator) (maxSize : ℕ) (b : SerialBuffer) : Prop :=
  c.info.fileSize.largeFile = c.pduConf.largeFile ∧
    b.size + (HeaderCreator.length c.pduConf + 6 + c.info.fileSize.getSerializedSize)
      ≤ maxSize

theorem serialize_eq_ok {c : EofPduCreator} (h : c.serialize maxSize e b = (.ok, b')) :
  ∃ data, b' = b.put (c.directive.header.bytes e ++ data) ∧
    (c.directive.header.pduDataFieldLen = data.length ↔ c.Agrees maxSize b)
  := by
  obtain ⟨b₁, hdirective, h₁⟩ := andThen_eq_ok h
  have hb₁ := FileDirectiveCreator.serialize_eq_ok hdirective
  split at h₁
  · cases h₁
  · obtain ⟨b₃, hchecksum, h₃⟩ := andThen_eq_ok h₁
    have hb₃ := SerializeAdapter.writes_serialize _ _ hchecksum
    simp only [hb₁, SerialBuffer.put_put, List.append_assoc] at hb₃
    have hlen : c.directive.header.pduDataFieldLen
        = 6 + FileSize.width c.pduConf.largeFile +
          (c.info.reportedFaultLoc.map EntityIdTlv.getSerializedSize).getD 0 := by
      simp only [directive, FileDirectiveCreator.header, EofInfo.getSerializedSize,
        FileSize.width]
      omega
    have hsize : b₃.size = b.size + (HeaderCreator.length c.pduConf + 6) := by
      rw [hb₃, SerialBuffer.size_put]
      simp [directive, FileDirectiveCreator.header]
    have hfile := c.info.fileSize.serialize_eq maxSize e b₃
    rw [hlen, Agrees, ← FileSize.width_inj]
    by_cases hroom : b₃.size + c.info.fileSize.getSerializedSize ≤ maxSize
    · rw [if_pos hroom] at hfile
      simp only [hfile] at h₃
      obtain ⟨fault, hfault, hfaultLength⟩ := serialize_faultLocation h₃
      simp only [hb₃, SerialBuffer.put_put, List.append_assoc] at hfault
      refine ⟨_, hfault, ?_⟩
      have hwidth : FileSize.width c.info.fileSize.largeFile
          = c.info.fileSize.getSerializedSize := rfl
      simp [hfaultLength]
      omega
    · rw [if_neg hroom] at hfile
      simp only [hfile] at h₃
      -- Only a fault location behind the missing file size can have succeeded.
      cases hloc : c.info.reportedFaultLoc with
      | none =>
          rw [hloc] at h₃
          cases h₃
      | some faultLoc =>
          rw [hloc] at h₃
          obtain ⟨hfault, hfaultLength⟩ := EntityIdTlv.serialize_eq_ok h₃
          simp only [hb₃, SerialBuffer.put_put, List.append_assoc] at hfault
          refine ⟨_, hfault, ?_⟩
          have hpos : 0 < FileSize.width c.pduConf.largeFile := by
            cases c.pduConf.largeFile <;> decide
          simp [hfaultLength]
          omega

end EofPduCreator

namespace FinishPduCreator

/-- What the filestore responses announce for second file names, which are not written, is
what is cut from their length fields. -/
def Agrees (c : FinishPduCreator) : Prop :=
  (c.finishInfo.fsResponses.map fun tlv =>
      (tlv.secondFileName.map Lv.getSerializedSize).getD 0).sum
    = (c.finishInfo.fsResponses.map fun tlv => 256 * (tlv.valueLength / 256)).sum

/-- The announced sizes of the responses are the written ones when this is so. -/
theorem sum_getSerializedSize_iff (tlvs : List FilestoreResponseTlv) :
  (tlvs.map FilestoreResponseTlv.getSerializedSize).sum
      = (tlvs.map FilestoreResponseTlv.writtenLength).sum
    ↔ (tlvs.map fun tlv => (tlv.secondFileName.map Lv.getSerializedSize).getD 0).sum
      = (tlvs.map fun tlv => 256 * (tlv.valueLength / 256)).sum
  := by
  have hsum : (tlvs.map FilestoreResponseTlv.getSerializedSize).sum +
      (tlvs.map fun tlv => 256 * (tlv.valueLength / 256)).sum
      = (tlvs.map FilestoreResponseTlv.writtenLength).sum +
        (tlvs.map fun tlv => (tlv.secondFileName.map Lv.getSerializedSize).getD 0).sum := by
    rw [← List.sum_map_add, ← List.sum_map_add]
    congr 1
    apply List.map_congr_left
    intro tlv _
    apply FilestoreResponseTlv.getSerializedSize_add
  omega

theorem serialize_eq_ok {c : FinishPduCreator} (h : c.serialize maxSize e b = (.ok, b')) :
  ∃ data, b' = b.put (c.directive.header.bytes e ++ data) ∧
    (c.directive.header.pduDataFieldLen = data.length ↔ c.Agrees)
  := by
  obtain ⟨b₁, hdirective, h₁⟩ := andThen_eq_ok h
  have hb₁ := FileDirectiveCreator.serialize_eq_ok hdirective
  split at h₁
  · cases h₁
  · obtain ⟨b₃, hresponses, h₃⟩ := andThen_eq_ok h₁
    obtain ⟨responses, hb₃, hresponsesLength⟩ :=
      takes_all FilestoreResponseTlv.takes_serialize _ hresponses
    obtain ⟨fault, hfault, hfaultLength⟩ := serialize_faultLocation h₃
    simp only [hb₃, hb₁, SerialBuffer.put_put, List.append_assoc] at hfault
    refine ⟨_, hfault, ?_⟩
    rw [Agrees, ← sum_getSerializedSize_iff]
    simp only [directive, FileDirectiveCreator.header, FinishedInfo.getSerializedSize,
      List.length_append, hresponsesLength, hfaultLength, List.length_cons, List.length_nil]
    omega

end FinishPduCreator

theorem AckPduCreator.serialize_eq_ok {c : AckPduCreator}
    (h : c.serialize maxSize e b = (.ok, b')) :
  ∃ data, b' = b.put (c.directive.header.bytes e ++ data) ∧
    c.directive.header.pduDataFieldLen = data.length
  := by
  obtain ⟨b₁, hdirective, h₁⟩ := andThen_eq_ok h
  have hb₁ := FileDirectiveCreator.serialize_eq_ok hdirective
  split at h₁
  · cases h₁
  · split at h₁
    · cases h₁
    · cases h₁
      rw [hb₁, SerialBuffer.put_put, List.append_assoc]
      exact ⟨_, rfl, rfl⟩

namespace MetadataPduCreator

/-- The file size is one that the length was computed for. -/
def Agrees (c : MetadataPduCreator) : Prop :=
  c.info.fileSize.largeFile = c.pduConf.largeFile

theorem serialize_eq_ok {c : MetadataPduCreator} (h : c.serialize maxSize e b = (.ok, b')) :
  ∃ data, b' = b.put (c.directive.header.bytes e ++ data) ∧
    (c.directive.header.pduDataFieldLen = data.length ↔ c.Agrees)
  := by
  obtain ⟨b₁, hdirective, h₁⟩ := andThen_eq_ok h
  have hb₁ := FileDirectiveCreator.serialize_eq_ok hdirective
  split at h₁
  · cases h₁
  · obtain ⟨b₃, hfileSize, h₃⟩ := andThen_eq_ok h₁
    obtain ⟨b₄, hsource, h₄⟩ := andThen_eq_ok h₃
    obtain ⟨b₅, hdest, h₅⟩ := andThen_eq_ok h₄
    have hb₃ := FileSize.writes_serialize _ hfileSize
    obtain ⟨hb₄, hsourceLength⟩ := Lv.serialize_eq_ok hsource
    obtain ⟨hb₅, hdestLength⟩ := Lv.serialize_eq_ok hdest
    obtain ⟨options, hb', hoptionsLength⟩ :=
      takes_all Tlv.takes_serialize _ h₅
    simp only [hb₅, hb₄, hb₃, hb₁, SerialBuffer.put_put, List.append_assoc] at hb'
    refine ⟨_, hb', ?_⟩
    have hwidth : (if c.pduConf.largeFile then 4 else 0) + 4
        = FileSize.width c.pduConf.largeFile := by
      cases c.pduConf.largeFile <;> rfl
    rw [Agrees, ← FileSize.width_inj]
    simp only [directive, FileDirectiveCreator.header, MetadataInfo.getSerializedSize,
      List.length_append, hsourceLength, hdestLength, hoptionsLength, FileSize.length_bytes,
      FileSize.getSerializedSize, List.length_cons, List.length_nil]
    omega

end MetadataPduCreator

theorem PromptPduCreator.serialize_eq_ok {c : PromptPduCreator}
    (h : c.serialize maxSize e b = (.ok, b')) :
  ∃ data, b' = b.put (c.directive.header.bytes e ++ data) ∧
    c.directive.header.pduDataFieldLen = data.length
  := by
  obtain ⟨b₁, hdirective, h₁⟩ := andThen_eq_ok h
  have hb₁ := FileDirectiveCreator.serialize_eq_ok hdirective
  split at h₁
  · cases h₁
  · cases h₁
    rw [hb₁, SerialBuffer.put_put, List.append_assoc]
    exact ⟨_, rfl, rfl⟩

namespace NakPduCreator

/-- The bytes that the two ends of a segment take. -/
def segmentLength (segment : FileSize × FileSize) : ℕ :=
  segment.1.getSerializedSize + segment.2.getSerializedSize

theorem takes_serializeSegment (segment : FileSize × FileSize) :
  Takes (serializeSegment segment) (segmentLength segment)
  := by
  intro maxSize e b b' h
  obtain ⟨b₁, hfirst, hsecond⟩ := andThen_eq_ok h
  rw [FileSize.writes_serialize _ hsecond, FileSize.writes_serialize _ hfirst,
    SerialBuffer.put_put]
  refine ⟨_, rfl, ?_⟩
  simp [segmentLength]

/-- A segment has the flag for large files when both ends have. -/
def HasFlag (largeFile : Bool) (segment : FileSize × FileSize) : Prop :=
  segment.1.largeFile = largeFile ∧ segment.2.largeFile = largeFile

/-- The segments with the flag are those of extremal length. -/
theorem segmentLength_cases (largeFile : Bool) (segment : FileSize × FileSize) :
  (segmentLength segment = 2 * FileSize.width largeFile ↔ HasFlag largeFile segment) ∧
    (largeFile = true → segmentLength segment ≤ 2 * FileSize.width largeFile) ∧
    (largeFile = false → 2 * FileSize.width largeFile ≤ segmentLength segment)
  := by
  obtain ⟨⟨_, first⟩, ⟨_, second⟩⟩ := segment
  cases largeFile <;> cases first <;> cases second <;>
    simp [segmentLength, HasFlag, FileSize.getSerializedSize, FileSize.width]

/-- The segments together have the length for the flag only when each of them has the flag. -/
theorem sum_segmentLength_iff (largeFile : Bool) (segments : List (FileSize × FileSize)) :
  ((segments.map segmentLength).sum = segments.length * (2 * FileSize.width largeFile)
      ↔ ∀ segment ∈ segments, HasFlag largeFile segment) ∧
    (largeFile = true →
      (segments.map segmentLength).sum ≤ segments.length * (2 * FileSize.width largeFile)) ∧
    (largeFile = false →
      segments.length * (2 * FileSize.width largeFile) ≤ (segments.map segmentLength).sum)
  := by
  induction segments with
  | nil => simp
  | cons segment segments ih =>
      obtain ⟨hiff, hle, hge⟩ := ih
      obtain ⟨hiff', hle', hge'⟩ := segmentLength_cases largeFile segment
      rw [List.forall_mem_cons, ← hiff, ← hiff', List.map_cons, List.sum_cons,
        List.length_cons, Nat.succ_mul]
      cases largeFile with
      | false =>
          have hge := hge rfl
          have hge' := hge' rfl
          refine ⟨by omega, by simp, by omega⟩
      | true =>
          have hle := hle rfl
          have hle' := hle' rfl
          refine ⟨by omega, by omega, by simp⟩

/-- The scope and the requested segments are ones that the length was computed for. -/
def Agrees (c : NakPduCreator) : Prop :=
  ∀ segment ∈ (c.nakInfo.startOfScope, c.nakInfo.endOfScope) :: c.nakInfo.segmentRequests,
    HasFlag c.pduConf.largeFile segment

theorem serialize_eq_ok {c : NakPduCreator} (h : c.serialize maxSize e b = (.ok, b')) :
  ∃ data, b' = b.put (c.directive.header.bytes e ++ data) ∧
    (c.directive.header.pduDataFieldLen = data.length ↔ c.Agrees)
  := by
  obtain ⟨b₁, hdirective, h₁⟩ := andThen_eq_ok h
  have hb₁ := FileDirectiveCreator.serialize_eq_ok hdirective
  obtain ⟨b₂, hstart, h₂⟩ := andThen_eq_ok h₁
  obtain ⟨b₃, hend, h₃⟩ := andThen_eq_ok h₂
  have hb₂ := FileSize.writes_serialize _ hstart
  have hb₃ := FileSize.writes_serialize _ hend
  obtain ⟨requests, hb', hrequestsLength⟩ := takes_all takes_serializeSegment _ h₃
  simp only [hb₃, hb₂, hb₁, SerialBuffer.put_put, List.append_assoc] at hb'
  refine ⟨_, hb', ?_⟩
  have hlen : c.directive.header.pduDataFieldLen
      = 1 + (c.nakInfo.segmentRequests.length + 1) * (2 * FileSize.width c.pduConf.largeFile)
      := by
    simp only [directive, FileDirectiveCreator.header, NakInfo.getSerializedSize]
    cases c.pduConf.largeFile with
    | false =>
        simp [FileSize.width]
        omega
    | true =>
        simp [FileSize.width]
        omega
  have hiff := (sum_segmentLength_iff c.pduConf.largeFile
    ((c.nakInfo.startOfScope, c.nakInfo.endOfScope) :: c.nakInfo.segmentRequests)).1
  rw [Agrees, ← hiff, hlen, List.map_cons, List.sum_cons]
  simp only [segmentLength, List.length_append, hrequestsLength, FileSize.length_bytes,
    List.length_cons, List.length_nil]
  omega

end NakPduCreator

/-- A file size that is serialized by a given flag has the length for it. -/
theorem FileSize.takes_serializeAs (largeFile : Bool) (size : FileSize) :
  Takes (size.serializeAs largeFile) (if largeFile then 8 else 4)
  := by
  intro maxSize e b b' h
  rw [writes_serialize _ h]
  refine ⟨_, rfl, ?_⟩
  rw [length_bytes]
  rfl

theorem KeepAlivePduCreator.serialize_eq_ok {c : KeepAlivePduCreator}
    (h : c.serialize maxSize e b = (.ok, b')) :
  ∃ data, b' = b.put (c.directive.header.bytes e ++ data) ∧
    c.directive.header.pduDataFieldLen = data.length
  := by
  obtain ⟨b₁, hdirective, h₁⟩ := andThen_eq_ok h
  have hb₁ := FileDirectiveCreator.serialize_eq_ok hdirective
  obtain ⟨progress, hb', hlength⟩ := FileSize.takes_serializeAs _ _ h₁
  rw [hb', hb₁, SerialBuffer.put_put, List.append_assoc]
  refine ⟨_, rfl, ?_⟩
  rw [List.length_append, hlength]
  apply Nat.add_comm

theorem FileDataCreator.serialize_eq_ok {c : FileDataCreator}
    (h : c.serialize maxSize e b = (.ok, b')) :
  ∃ data, b' = b.put (c.header.bytes e ++ data) ∧ c.header.pduDataFieldLen = data.length
  := by
  rw [serialize] at h
  split at h
  · cases h
  · obtain ⟨b₁, hheader, h₁⟩ := andThen_eq_ok h
    obtain ⟨hb₁, -⟩ := HeaderCreator.serialize_eq_ok hheader
    obtain ⟨b₂, hoffset, h₂⟩ := andThen_eq_ok h₁
    obtain ⟨offset, hb₂, hlength⟩ := FileSize.takes_serializeAs _ _ hoffset
    split at h₂
    · cases h₂
    · cases h₂
      rw [hb₂, hb₁, SerialBuffer.put_put, SerialBuffer.put_put, SerialBuffer.put_put]
      refine ⟨_, rfl, ?_⟩
      simp only [header, FileDataInfo.getSerializedSize, List.length_append,
        length_metadataBytes, hlength]
      omega

end Creators

namespace PduCreator

/-- What was written behind `b` is a header and a data field: the header declares the length
of the data field, the two take the announced size, and the data field has at most 65535
bytes. -/
def LengthsReal (c : PduCreator) (b b' : SerialBuffer) : Prop :=
  ∃ header data, b' = b.put (header ++ data) ∧
    header.length = HeaderCreator.length c.header.pduConf ∧
    declaredLength header = data.length ∧
    c.getSerializedSize = header.length + data.length ∧
    data.length ≤ 65535

theorem getSerializedSize_eq (c : PduCreator) :
  c.getSerializedSize = c.header.getWholePduSize
  := by
  cases c with
  | eof => rfl
  | finished => rfl
  | ack => rfl
  | metadata => rfl
  | prompt => rfl
  | nak => rfl
  | keepAlive => rfl
  | fileData => apply Nat.add_comm

/-- The lengths are the real ones when the data field has the length the creator was
constructed with, this length has sixteen bits, and the entity ids have one width. -/
theorem lengthsReal_put {c : PduCreator} {b : SerialBuffer} {e : Endianness}
    {data : List UInt8} :
  c.LengthsReal b (b.put (c.header.bytes e ++ data))
    ↔ c.header.pduDataFieldLen = data.length ∧ c.header.pduDataFieldLen ≤ 65535 ∧
      c.header.pduConf.destId.width = c.header.pduConf.sourceId.width
  := by
  have hsource := c.header.pduConf.sourceId.width.toNat_lt
  have hdest := c.header.pduConf.destId.width.toNat_lt
  have hwidth : c.header.pduConf.destId.width = c.header.pduConf.sourceId.width
      ↔ c.header.pduConf.destId.width.toNat = c.header.pduConf.sourceId.width.toNat :=
    UInt8.toNat_inj.symm
  have hwhole : c.getSerializedSize = c.header.pduDataFieldLen +
      (c.header.pduConf.seqNum.width.toNat + c.header.pduConf.sourceId.width.toNat * 2 + 4) :=
    c.getSerializedSize_eq
  rw [hwidth]
  constructor
  · rintro ⟨header, data', hput, hheader, hdeclared, hsize, hmax⟩
    have hwritten : c.header.bytes e ++ data = header ++ data' :=
      List.append_cancel_left (congrArg SerialBuffer.written hput)
    have hlength : (c.header.bytes e).length = header.length := by
      rw [HeaderCreator.length_bytes, hheader]
    obtain ⟨rfl, rfl⟩ := List.append_inj hwritten hlength
    rw [declaredLength_bytes] at hdeclared
    rw [hheader, hwhole, HeaderCreator.length] at hsize
    omega
  · rintro ⟨hdata, hmax, hids⟩
    refine ⟨c.header.bytes e, data, rfl, HeaderCreator.length_bytes _ _, ?_, ?_, ?_⟩
    · rw [declaredLength_bytes]
      omega
    · rw [HeaderCreator.length_bytes, hwhole, HeaderCreator.length]
      omega
    · omega

/-- The contents take the length that the creator was constructed with. -/
def Agrees (c : PduCreator) (maxSize : ℕ) (b : SerialBuffer) : Prop :=
  match c with
  | eof c => c.Agrees maxSize b
  | finished c => c.Agrees
  | metadata c => c.Agrees
  | nak c => c.Agrees
  | ack _ | prompt _ | keepAlive _ | fileData _ => True

theorem serialize_eq_ok {c : PduCreator} {maxSize : ℕ} {e : Endianness} {b b' : SerialBuffer}
    (h : c.serialize maxSize e b = (.ok, b')) :
  ∃ data, b' = b.put (c.header.bytes e ++ data) ∧
    (c.header.pduDataFieldLen = data.length ↔ c.Agrees maxSize b)
  := by
  have always : ∀ {header : HeaderCreator},
      (∃ data, b' = b.put (header.bytes e ++ data) ∧ header.pduDataFieldLen = data.length) →
      ∃ data, b' = b.put (header.bytes e ++ data) ∧
        (header.pduDataFieldLen = data.length ↔ True) := by
    rintro header ⟨data, hb', hlength⟩
    exact ⟨data, hb', iff_of_true hlength trivial⟩
  cases c with
  | eof c => exact EofPduCreator.serialize_eq_ok h
  | finished c => exact FinishPduCreator.serialize_eq_ok h
  | ack c => exact always (AckPduCreator.serialize_eq_ok h)
  | metadata c => exact MetadataPduCreator.serialize_eq_ok h
  | prompt c => exact always (PromptPduCreator.serialize_eq_ok h)
  | nak c => exact NakPduCreator.serialize_eq_ok h
  | keepAlive c => exact always (KeepAlivePduCreator.serialize_eq_ok h)
  | fileData c => exact always (FileDataCreator.serialize_eq_ok h)

/-- A PDU that is serialized has its real lengths in the header and in its announced size
exactly when the contents agree with the configuration, the data field has at most 65535
bytes and the entity ids have one width. -/
theorem lengthsReal_iff {c : PduCreator} {maxSize : ℕ} {e : Endianness}
    {b b' : SerialBuffer} (h : c.serialize maxSize e b = (.ok, b')) :
  c.LengthsReal b b'
    ↔ c.Agrees maxSize b ∧ c.header.pduDataFieldLen ≤ 65535 ∧
      c.header.pduConf.destId.width = c.header.pduConf.sourceId.width
  := by
  obtain ⟨data, rfl, hagrees⟩ := serialize_eq_ok h
  rw [lengthsReal_put, hagrees]

/-- A configuration with ids of one byte. -/
def oneByteIds : PduConfig where
  mode := .acknowledged
  seqNum := .new .twoBytes 258
  sourceId := .new .oneByte 1
  destId := .new .oneByte 2
  crcFlag := false
  largeFile := false
  direction := .towardsReceiver

/-- The end of a file of five bytes. -/
def endOfFive : PduCreator :=
  eof
    { pduConf := oneByteIds
      info :=
        { conditionCode := .noError
          checksum := 0x01020304
          fileSize := ⟨5, false⟩
          faultLoc := none } }

theorem lengthsReal_endOfFive :
  endOfFive.LengthsReal ⟨[], 0⟩ (endOfFive.serialize 18 .big ⟨[], 0⟩).2
  := by
  have hok : (endOfFive.serialize 18 .big ⟨[], 0⟩).1 = .ok := by decide
  exact (lengthsReal_iff (Prod.ext hok rfl)).mpr ⟨⟨rfl, by decide⟩, by decide, rfl⟩

/-- The end of a transaction in which the file `a` was renamed to `b`. -/
def renamed : PduCreator :=
  finished
    { pduConf := oneByteIds
      finishInfo :=
        { conditionCode := .noError
          deliveryCode := .dataComplete
          fileStatus := .retainedInFilestore
          fsResponses := [⟨.renameFile, 0, .new [0x61], some (.new [0x62]), none⟩]
          faultLocation := none } }

/-- The second file name is counted, but not written. -/
theorem exists_not_lengthsReal :
  ¬ ∀ (c : PduCreator) (maxSize : ℕ) (e : Endianness) (b b' : SerialBuffer),
    c.serialize maxSize e b = (.ok, b') → c.LengthsReal b b'
  := by
  intro hall
  have hok : (renamed.serialize 64 .big ⟨[], 0⟩).1 = .ok := by decide
  have hreal := hall renamed 64 .big ⟨[], 0⟩ _ (Prod.ext hok rfl)
  obtain ⟨data, hput, hagrees⟩ :=
    serialize_eq_ok (show renamed.serialize 64 .big ⟨[], 0⟩ = (.ok, _) from Prod.ext hok rfl)
  rw [hput, lengthsReal_put, hagrees] at hreal
  have hsum : (2 : ℕ) = 0 := hreal.1
  cases hsum

end PduCreator

end Cfdp
