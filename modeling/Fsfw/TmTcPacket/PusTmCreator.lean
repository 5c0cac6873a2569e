import Fsfw.TmTcPacket.PusUserData

/-!
# The creator of telemetry packets

A telemetry packet has a time stamp behind its secondary header.  The creator has it written by a
time stamper, and the reader of the packet has it read by a reader of time stamps, which has to know
its length.

The reader finds everything again exactly when the source data are not a block of bytes whose length
the adapter cannot keep (`PusTmCreator.tmRoundTrips_iff`).
-/

structure PusTmParams where
  service : UInt8
  subservice : UInt8
  timeStamper : Option Serializable := none
  pusVersion : UInt8 := 2
  scTimeRefStatus : UInt8 := 0
  messageTypeCounter : UInt16 := 0
  destId : UInt16 := 0
  sourceData : PusUserData := .none

namespace PusTmParams

/-- The size of the time stamp. -/
def timestampSize (params : PusTmParams) : ℕ :=
  match params.timeStamper with
  | some timeStamper => timeStamper.getSerializedSize
  | none => 0

/-- The bytes of the time stamp. -/
def timestamp (params : PusTmParams) : List UInt8 :=
  match params.timeStamper with
  | some timeStamper => timeStamper.bytes .big
  | none => []

def serializeTimestamp (params : PusTmParams) : Serializer :=
  match params.timeStamper with
  | some timeStamper => timeStamper.serialize
  | none => fun _ _ b => (.ok, b)

theorem length_timestamp (params : PusTmParams) :
  params.timestamp.length = params.timestampSize
  := by
  rw [timestamp, timestampSize]
  cases params.timeStamper with
  | none => rfl
  | some timeStamper => apply timeStamper.length_bytes

theorem serializeTimestamp_eq (params : PusTmParams) {maxSize : ℕ} {b : SerialBuffer}
    (hroom : b.size + params.timestampSize ≤ maxSize) :
  params.serializeTimestamp maxSize .big b = (.ok, b.put params.timestamp)
  := by
  rw [timestampSize] at hroom
  rw [serializeTimestamp, timestamp]
  cases htimeStamper : params.timeStamper with
  | none => simp
  | some timeStamper =>
      rw [htimeStamper] at hroom
      apply timeStamper.serialize_eq _ hroom

end PusTmParams

structure PusTmCreator where
  spCreator : SpacePacketCreator
  pusParams : PusTmParams
  calculateCrcOnSerialization : Bool := true

namespace PusTmCreator

open Serializer SerializeAdapter PusUserData

def disableCrcCalculation (c : PusTmCreator) : PusTmCreator :=
  { c with calculateCrcOnSerialization := false }

def enableCrcCalculation (c : PusTmCreator) : PusTmCreator :=
  { c with calculateCrcOnSerialization := true }

/-- The secondary header has 7 bytes without the time stamp, and the checksum 2. -/
def updateSpLengthField (c : PusTmCreator) : PusTmCreator :=
  { c with
    spCreator :=
      c.spCreator.setCcsdsLenFromTotalDataFieldLen
        (7 + 2 + c.pusParams.sourceData.getSerializedSize + c.pusParams.timestampSize) }

def setup (c : PusTmCreator) : PusTmCreator :=
  { c.updateSpLengthField with
    spCreator :=
      ((c.updateSpLengthField.spCreator.setPacketType .tm).setSecHeaderFlag).setSeqFlags
        .unsegmented }

def new (spParams : SpacePacketParams) (pusParams : PusTmParams) : PusTmCreator :=
  setup { spCreator := .ofParams spParams, pusParams }

def setTimeStamper (c : PusTmCreator) (timeStamper : Serializable) : PusTmCreator :=
  updateSpLengthField { c with pusParams.timeStamper := some timeStamper }

def setApid (c : PusTmCreator) (apid : UInt16) : PusTmCreator :=
  { c with spCreator := c.spCreator.setApid apid }

def setService (c : PusTmCreator) (service : UInt8) : PusTmCreator :=
  { c with pusParams.service := service }

def setSubservice (c : PusTmCreator) (subservice : UInt8) : PusTmCreator :=
  { c with pusParams.subservice := subservice }

def setMessageTypeCounter (c : PusTmCreator) (messageTypeCounter : UInt16) : PusTmCreator :=
  { c with pusParams.messageTypeCounter := messageTypeCounter }

/-- A creator that is constructed without parameters. -/
def default : PusTmCreator :=
  setup { spCreator := {}, pusParams := { service := 0, subservice := 0 } }

/-- A null pointer and an empty block of bytes stand for no source data. -/
def setRawUserData (c : PusTmCreator) (data : Option (List UInt8)) : PusTmCreator :=
  if data.getD [] = [] then
    updateSpLengthField { c with pusParams.sourceData := .none }
  else
    updateSpLengthField { c with pusParams.sourceData := .raw data }

def setSerializableUserData (c : PusTmCreator) (serializable : Serializable) : PusTmCreator :=
  updateSpLengthField { c with pusParams.sourceData := .serializable serializable }

def getFullPacketLen (c : PusTmCreator) : ℕ :=
  PusTcReader.headerLen + c.spCreator.params.dataLen.toNat + 1

def getSerializedSize (c : PusTmCreator) : ℕ :=
  c.getFullPacketLen

/-- The first three bytes of the secondary header. -/
def secHeader (c : PusTmCreator) : List UInt8 :=
  [((c.pusParams.pusVersion <<< 4) &&& 0xF0) ||| (c.pusParams.scTimeRefStatus &&& 0x0F),
    c.pusParams.service, c.pusParams.subservice]

/-- Without a checksum the two bytes that it would take are left as they stand in the buffer. -/
def serialize (c : PusTmCreator) (untouched : UInt8 × UInt8) : Serializer :=
  fun maxSize e b =>
    if maxSize < b.size + c.getSerializedSize then
      (SerializeIF.bufferTooShort, b)
    else
      andThen (c.spCreator.serialize maxSize e b) fun b₁ =>
      andThen
        (SerializeAdapter.serialize 2 c.pusParams.messageTypeCounter.toNat maxSize e
          (b₁.put c.secHeader)) fun b₂ =>
      andThen (SerializeAdapter.serialize 2 c.pusParams.destId.toNat maxSize e b₂) fun b₃ =>
      andThen (c.pusParams.serializeTimestamp maxSize e b₃) fun b₄ =>
      andThen (c.pusParams.sourceData.serialize maxSize e b₄) fun b₅ =>
      if c.calculateCrcOnSerialization then
        SerializeAdapter.serialize 2
          (CRC.crc16ccitt
            ((b₅.written.drop b.written.length).take (c.getFullPacketLen - 2))).toNat
          maxSize e b₅
      else
        (.ok, b₅.put [untouched.1, untouched.2])

/-! ### A new creator -/

section

variable (spParams : SpacePacketParams) (pusParams : PusTmParams)

/-- Setting the data or the time stamper of a new creator comes to the same as giving them in the
parameters. -/
theorem setRawUserData_new (data : Option (List UInt8)) :
  (new spParams pusParams).setRawUserData data
    = new spParams { pusParams with sourceData := if data.getD [] = [] then .none else .raw data }
  := by
  rw [setRawUserData]
  split <;> simp [new, setup, updateSpLengthField,
    SpacePacketCreator.setCcsdsLenFromTotalDataFieldLen, SpacePacketCreator.setDataLenField,
    SpacePacketCreator.setPacketType, SpacePacketCreator.setSecHeaderFlag,
    SpacePacketCreator.setSeqFlags, PusTmParams.timestampSize]

theorem setSerializableUserData_new (serializable : Serializable) :
  (new spParams pusParams).setSerializableUserData serializable
    = new spParams { pusParams with sourceData := .serializable serializable }
  := by
  simp [new, setup, setSerializableUserData, updateSpLengthField,
    SpacePacketCreator.setCcsdsLenFromTotalDataFieldLen, SpacePacketCreator.setDataLenField,
    SpacePacketCreator.setPacketType, SpacePacketCreator.setSecHeaderFlag,
    SpacePacketCreator.setSeqFlags, PusTmParams.timestampSize]

theorem setTimeStamper_new (timeStamper : Serializable) :
  (new spParams pusParams).setTimeStamper timeStamper
    = new spParams { pusParams with timeStamper := some timeStamper }
  := by
  simp [new, setup, setTimeStamper, updateSpLengthField,
    SpacePacketCreator.setCcsdsLenFromTotalDataFieldLen, SpacePacketCreator.setDataLenField,
    SpacePacketCreator.setPacketType, SpacePacketCreator.setSecHeaderFlag,
    SpacePacketCreator.setSeqFlags, PusTmParams.timestampSize]

theorem updateSpLengthField_new :
  (new spParams pusParams).updateSpLengthField = new spParams pusParams
  := by
  simp [new, setup, updateSpLengthField,
    SpacePacketCreator.setCcsdsLenFromTotalDataFieldLen, SpacePacketCreator.setDataLenField,
    SpacePacketCreator.setPacketType, SpacePacketCreator.setSecHeaderFlag,
    SpacePacketCreator.setSeqFlags, PusTmParams.timestampSize]

theorem setService_new (service : UInt8) :
  (new spParams pusParams).setService service = new spParams { pusParams with service := service }
  := rfl

theorem setSubservice_new (subservice : UInt8) :
  (new spParams pusParams).setSubservice subservice
    = new spParams { pusParams with subservice := subservice }
  := rfl

theorem setMessageTypeCounter_new (messageTypeCounter : UInt16) :
  (new spParams pusParams).setMessageTypeCounter messageTypeCounter
    = new spParams { pusParams with messageTypeCounter := messageTypeCounter }
  := rfl

/-- An APID that a header has no room for is not set. -/
theorem setApid_default (apid : UInt16) :
  default.setApid apid
    = new { packetId.apid := if apid < Ccsds.limitApid then apid else 0 }
        { service := 0, subservice := 0 }
  := by
  rw [setApid, SpacePacketCreator.setApid, default, new, setup, setup]
  split_ifs with h
  · have hle : ¬ Ccsds.limitApid < apid := UInt16.lt_asymm h
    simp [hle, updateSpLengthField, SpacePacketCreator.setCcsdsLenFromTotalDataFieldLen,
      SpacePacketCreator.setDataLenField, SpacePacketCreator.setPacketType,
      SpacePacketCreator.setSecHeaderFlag, SpacePacketCreator.setSeqFlags,
      SpacePacketCreator.checkFieldValidity, SpacePacketCreator.ofParams,
      PusTmParams.timestampSize]
  · simp [updateSpLengthField, SpacePacketCreator.setCcsdsLenFromTotalDataFieldLen,
      SpacePacketCreator.setDataLenField, SpacePacketCreator.setPacketType,
      SpacePacketCreator.setSecHeaderFlag, SpacePacketCreator.setSeqFlags,
      SpacePacketCreator.checkFieldValidity, SpacePacketCreator.ofParams,
      PusTmParams.timestampSize]

end

/-- The header of a new creator. -/
def header (spParams : SpacePacketParams) (pusParams : PusTmParams) : SpacePacketParams :=
  { spParams with
    packetId.packetType := .tm
    packetId.secHeaderFlag := true
    packetSeqCtrl.seqFlags := .unsegmented
    dataLen :=
      UInt16.ofNat (8 + pusParams.sourceData.getSerializedSize + pusParams.timestampSize) }

theorem params_new (spParams : SpacePacketParams) (pusParams : PusTmParams) :
  (new spParams pusParams).spCreator.params = header spParams pusParams
  := by
  have hlength : 7 + 2 + pusParams.sourceData.getSerializedSize + pusParams.timestampSize - 1
      = 8 + pusParams.sourceData.getSerializedSize + pusParams.timestampSize := by
    omega
  rw [new, setup, updateSpLengthField, SpacePacketCreator.setCcsdsLenFromTotalDataFieldLen,
    if_neg (by simp), hlength]
  rfl

theorem valid_new {spParams : SpacePacketParams} (pusParams : PusTmParams)
    (hapid : spParams.packetId.apid < Ccsds.limitApid)
    (hcount : spParams.packetSeqCtrl.seqCount < Ccsds.limitSequenceCount) :
  (new spParams pusParams).spCreator.valid = true
  := by
  rw [new, setup, updateSpLengthField, SpacePacketCreator.setCcsdsLenFromTotalDataFieldLen,
    if_neg (by simp)]
  apply SpacePacketCreator.valid_ofParams hapid hcount

/-! ### What is serialized -/

/-- What stands behind the primary header, in front of the time stamp. -/
def fields (params : PusTmParams) : List UInt8 :=
  [(params.pusVersion <<< 4) ||| (params.scTimeRefStatus &&& 0x0F), params.service,
    params.subservice, CRC.highByte params.messageTypeCounter,
    CRC.lowByte params.messageTypeCounter, CRC.highByte params.destId, CRC.lowByte params.destId]

/-- The packet without its checksum. -/
def body (c : PusTmCreator) : List UInt8 :=
  c.spCreator.bytes .big
    ++ (fields c.pusParams ++ (c.pusParams.timestamp ++ c.pusParams.sourceData.written))

theorem length_body (c : PusTmCreator) :
  c.body.length = 13 + c.pusParams.timestampSize + c.pusParams.sourceData.getSerializedSize
  := by
  simp [body, fields, length_written, PusTmParams.length_timestamp,
    SpacePacketCreator.getSerializedSize, PusTcReader.headerLen]
  omega

/-- The length in the header is that of the packet. -/
theorem getFullPacketLen_new (spParams : SpacePacketParams) {pusParams : PusTmParams}
    (hsize : 15 + pusParams.timestampSize + pusParams.sourceData.getSerializedSize ≤ 65542) :
  (new spParams pusParams).getFullPacketLen = (sealed (new spParams pusParams).body).length
  := by
  have hparams : (new spParams pusParams).pusParams = pusParams := rfl
  rw [getFullPacketLen, params_new, header, length_sealed, length_body, hparams,
    PusTcReader.headerLen]
  simp only [UInt16.toNat_ofNat']
  omega

theorem serialize_eq {c : PusTmCreator} (hvalid : c.spCreator.valid = true)
    (hset : c.pusParams.sourceData.IsSet) (hcrc : c.calculateCrcOnSerialization = true)
    (hlength : c.getFullPacketLen = (sealed c.body).length) (untouched : UInt8 × UInt8)
    {maxSize : ℕ} {b : SerialBuffer} (hroom : b.size + c.getSerializedSize ≤ maxSize) :
  c.serialize untouched maxSize .big b = (.ok, b.put (sealed c.body))
  := by
  have hbody := c.length_body
  have hfull : c.getFullPacketLen - 2 = c.body.length := by
    rw [hlength, length_sealed, Nat.add_sub_cancel]
  have hroom' : b.size + (c.body.length + 2) ≤ maxSize := by
    rwa [getSerializedSize, hlength, length_sealed] at hroom
  have hheader : (c.spCreator.bytes .big).length = 6 := c.spCreator.length_bytes .big
  have hthree : c.secHeader.length = 3 := rfl
  rw [serialize, if_neg (not_lt.mpr hroom)]
  rw [c.spCreator.serialize_eq .big
    (by rw [SpacePacketCreator.getSerializedSize, PusTcReader.headerLen]; omega), if_pos hvalid,
    andThen_ok]
  rw [SerializeAdapter.serialize_eq (by simp),
    if_pos (by simp only [SerialBuffer.size_put, hheader, hthree]; omega), andThen_ok]
  rw [SerializeAdapter.serialize_eq (by simp),
    if_pos (by simp only [SerialBuffer.size_put, hheader, hthree, length_bytesOf]; omega),
    andThen_ok]
  rw [c.pusParams.serializeTimestamp_eq
    (by simp only [SerialBuffer.size_put, hheader, hthree, length_bytesOf]; omega), andThen_ok]
  rw [PusUserData.serialize_eq hset
    (by simp only [SerialBuffer.size_put, hheader, hthree, length_bytesOf,
          PusTmParams.length_timestamp]; omega), andThen_ok, if_pos hcrc]
  have hput : (((((b.put (c.spCreator.bytes .big)).put c.secHeader).put
      (bytesOf 2 c.pusParams.messageTypeCounter.toNat .big)).put
      (bytesOf 2 c.pusParams.destId.toNat .big)).put c.pusParams.timestamp).put
      c.pusParams.sourceData.written = b.put c.body := by
    simp [body, fields, secHeader, bytesOf_two_big, UInt8.shiftLeft_and_f0]
  rw [hput, SerializeAdapter.serialize_eq (by simp), if_pos (by simp; omega), hfull]
  simp [sealed, bytesOf_two_big]

/-- A creator with a null pointer for its data is not serialized. -/
theorem isSet_of_serialize {c : PusTmCreator} {untouched : UInt8 × UInt8} {maxSize : ℕ}
    {e : Endianness} {b b' : SerialBuffer} (h : c.serialize untouched maxSize e b = (.ok, b')) :
  c.pusParams.sourceData.IsSet
  := by
  rw [serialize] at h
  split at h
  · cases h
  · obtain ⟨b₁, -, h₁⟩ := andThen_eq_ok h
    obtain ⟨b₂, -, h₂⟩ := andThen_eq_ok h₁
    obtain ⟨b₃, -, h₃⟩ := andThen_eq_ok h₂
    obtain ⟨b₄, -, h₄⟩ := andThen_eq_ok h₃
    obtain ⟨b₅, hdata, -⟩ := andThen_eq_ok h₄
    by_contra hset
    apply serialize_null hset maxSize e b₄
    rw [hdata]

/-! ### The round trip -/

/-- The reader of time stamps takes the time stamps that the creator writes: it reads as many bytes
as the time stamper writes. -/
def ReadsTimestamps {σ : Type*} (pusParams : PusTmParams) (timeReader : TimeReaderIF σ) : Prop :=
  ∀ (behind : List UInt8) (maxSize : UInt64) (time : σ),
    pusParams.timestampSize ≤ maxSize.toNat →
      ∃ time', timeReader.readTimeStamp (pusParams.timestamp ++ behind) maxSize time = (.ok, time')
        ∧ (timeReader.getTimestampSize time').toNat = pusParams.timestampSize

open PusTcReader SpacePacketReader in
/-- The reader returns what the creator was given. -/
structure Recovers {σ : Type*} (spParams : SpacePacketParams) (pusParams : PusTmParams)
    (r : PusTmReader.State σ) : Prop where
  packetType : getPacketType r.header = .tm
  secHeaderFlag : hasSecHeader r.header = true
  apid : getApid r.header = spParams.packetId.apid
  seqFlags : getSequenceFlags r.header = .unsegmented
  seqCount : getSequenceCount r.header = spParams.packetSeqCtrl.seqCount
  pusVersion : r.getPusVersion = pusParams.pusVersion
  scTimeRefStatus : r.getScTimeRefStatus = pusParams.scTimeRefStatus
  service : r.getService = pusParams.service
  subservice : r.getSubService = pusParams.subservice
  messageTypeCounter : r.getMessageTypeCounter = pusParams.messageTypeCounter
  destId : r.getDestId = pusParams.destId
  userData : r.getUserData = pusParams.sourceData.given

/-- The packet is serialized into every buffer with room for it, and each reader that takes its time
stamp recovers it. -/
def RoundTrips {σ : Type*} (spParams : SpacePacketParams) (pusParams : PusTmParams)
    (timeReader : TimeReaderIF σ) : Prop :=
  ∀ (untouched : UInt8 × UInt8) (maxSize : ℕ) (b : SerialBuffer),
    b.size + (new spParams pusParams).getSerializedSize ≤ maxSize →
      ∃ packet, (new spParams pusParams).serialize untouched maxSize .big b = (.ok, b.put packet)
        ∧ packet.length = (new spParams pusParams).getSerializedSize
        ∧ ∀ r : PusTmReader.State σ, r.timeReader = some timeReader →
          ∃ r', r.read (some packet) packet.length true = (.ok, r')
            ∧ Recovers spParams pusParams r'

/-- The two bytes of the checksum of a packet. -/
def crcBytes (c : PusTmCreator) : List UInt8 :=
  [CRC.highByte (CRC.crc16ccitt c.body), CRC.lowByte (CRC.crc16ccitt c.body)]

theorem sealed_body (c : PusTmCreator) :
  sealed c.body = c.spCreator.bytes .big
    ++ (fields c.pusParams ++ (c.pusParams.timestamp
      ++ (c.pusParams.sourceData.written ++ c.crcBytes)))
  := by
  rw [sealed, crcBytes]
  nth_rewrite 1 [body]
  simp only [List.append_assoc]

/-- The time stamp begins behind 13 bytes. -/
theorem drop_sealed_body (c : PusTmCreator) :
  (sealed c.body).drop 13
    = c.pusParams.timestamp ++ (c.pusParams.sourceData.written ++ c.crcBytes)
  := by
  have hheaders : (c.spCreator.bytes .big ++ fields c.pusParams).length = 13 := by
    simp [SpacePacketCreator.getSerializedSize, PusTcReader.headerLen, fields]
  rw [sealed_body, ← List.append_assoc, ← hheaders, List.drop_left]

section

variable {σ : Type*} {spParams : SpacePacketParams} {pusParams : PusTmParams}

/-- The source data stand between the time stamp and the checksum. -/
theorem getUserData_locate {r : PusTmReader.State σ} {packet : List UInt8} {timestampLen : UInt64}
    (hpacket : packet = sealed (new spParams pusParams).body)
    (hfull : PusTcReader.getFullPacketLen packet = packet.length)
    (htimestampLen : timestampLen.toNat = pusParams.timestampSize) :
  (r.locate packet packet timestampLen).getUserData = pusParams.sourceData.written
  := by
  have hlength : packet.length
      = pusParams.sourceData.written.length + (15 + pusParams.timestampSize) := by
    have hparams : (new spParams pusParams).pusParams = pusParams := rfl
    rw [hpacket, length_sealed, length_body, length_written, hparams]
    omega
  have hdrop : packet.drop (13 + pusParams.timestampSize)
      = pusParams.sourceData.written ++ (new spParams pusParams).crcBytes := by
    rw [hpacket, ← List.drop_drop, drop_sealed_body, ← PusTmParams.length_timestamp]
    apply List.drop_left
  rw [r.getUserData_locate (by omega), htimestampLen, hdrop, hfull, hlength,
    Nat.add_sub_cancel, List.take_left]

variable (hsize : 15 + pusParams.timestampSize + pusParams.sourceData.getSerializedSize ≤ 65542)

include hsize

/-- The packet of a new creator is accepted, and the time stamp in it is read. -/
theorem readsTime_body {timeReader : TimeReaderIF σ}
    (htimeReader : ReadsTimestamps pusParams timeReader) {r : PusTmReader.State σ}
    (hr : r.timeReader = some timeReader) :
  PusTcReader.Accepts (sealed (new spParams pusParams).body)
      (sealed (new spParams pusParams).body).length true
    ∧ PusTcReader.getFullPacketLen (sealed (new spParams pusParams).body)
      = (sealed (new spParams pusParams).body).length
    ∧ ∃ time, r.ReadsTime timeReader (sealed (new spParams pusParams).body)
        (sealed (new spParams pusParams).body).length time
      ∧ (timeReader.getTimestampSize time).toNat = pusParams.timestampSize
  := by
  obtain ⟨haccepts, hfull⟩ : PusTcReader.Accepts (sealed (new spParams pusParams).body)
      (sealed (new spParams pusParams).body).length true
        ∧ PusTcReader.getFullPacketLen (sealed (new spParams pusParams).body)
          = (sealed (new spParams pusParams).body).length :=
    accepts_sealed (getFullPacketLen_new spParams hsize)
  have hlength : (sealed (new spParams pusParams).body).length
      = 15 + pusParams.timestampSize + pusParams.sourceData.getSerializedSize := by
    have hparams : (new spParams pusParams).pusParams = pusParams := rfl
    rw [length_sealed, length_body, hparams]
    omega
  have hrest : (PusTcReader.fullPacketLen (sealed (new spParams pusParams).body) - 13).toNat
      = 2 + pusParams.timestampSize + pusParams.sourceData.getSerializedSize := by
    simp only [UInt64.toNat_sub, PusTcReader.toNat_fullPacketLen, hfull, hlength,
      UInt64.reduceToNat]
    omega
  obtain ⟨time, htime, hlen⟩ := htimeReader
    (pusParams.sourceData.written ++ (new spParams pusParams).crcBytes) _ r.time
    (by rw [hrest]; omega)
  refine ⟨haccepts, hfull, time, ⟨hr, ?_, ?_⟩, hlen⟩
  · rw [drop_sealed_body]
    exact htime
  · simp only [UInt64.toNat_add, hlen, hlength, UInt64.reduceToNat]
    omega

variable (hapid : spParams.packetId.apid < Ccsds.limitApid)
  (hcount : spParams.packetSeqCtrl.seqCount < Ccsds.limitSequenceCount)

include hapid hcount

/-- What serializing a new creator into a buffer with room for it does. -/
theorem serialize_new (hset : pusParams.sourceData.IsSet) (untouched : UInt8 × UInt8)
    {maxSize : ℕ} {b : SerialBuffer}
    (hroom : b.size + (new spParams pusParams).getSerializedSize ≤ maxSize) :
  (new spParams pusParams).serialize untouched maxSize .big b
    = (.ok, b.put (sealed (new spParams pusParams).body))
  := by
  apply serialize_eq (valid_new pusParams hapid hcount) hset rfl _ untouched hroom
  apply getFullPacketLen_new spParams hsize

variable (hversion : pusParams.pusVersion < 16) (hstatus : pusParams.scTimeRefStatus < 16)

include hversion hstatus

omit hsize in
/-- The reader recovers the packet of a new creator, if all of the source data are written. -/
theorem recovers_locate {r : PusTmReader.State σ} {timestampLen : UInt64}
    (hheader : r.header = sealed (new spParams pusParams).body)
    (hstart : r.pointers.secHeaderStart
      = some ⟨sealed (new spParams pusParams).body, PusTcReader.headerLen⟩)
    (hfull : PusTcReader.getFullPacketLen (sealed (new spParams pusParams).body)
      = (sealed (new spParams pusParams).body).length)
    (htimestampLen : timestampLen.toNat = pusParams.timestampSize)
    (hwritten : pusParams.sourceData.written = pusParams.sourceData.given) :
  Recovers spParams pusParams
    (r.locate (sealed (new spParams pusParams).body) (sealed (new spParams pusParams).body)
      timestampLen)
  := by
  have hparams : SpacePacketReader.getParams (r.locate (sealed (new spParams pusParams).body)
      (sealed (new spParams pusParams).body) timestampLen).header
      = { header spParams pusParams with version := 0 } := by
    change SpacePacketReader.getParams r.header = _
    rw [hheader, sealed_body, SpacePacketCreator.getParams_of_lt, params_new]
    · rwa [params_new]
    · rwa [params_new]
  rw [sealed_body] at hstart
  have hlow : (pusParams.scTimeRefStatus &&& 0x0F) = pusParams.scTimeRefStatus :=
    UInt8.and_0f_of_lt (UInt8.lt_iff_toNat_lt.mp hstatus)
  have hfirst : r.pointers.secHeader 0
      = (pusParams.pusVersion <<< 4) ||| (pusParams.scTimeRefStatus &&& 0x0F) :=
    PusPointers.secHeader_eq hstart 0
  have hnibble := UInt8.toNat_and_0f_lt pusParams.scTimeRefStatus
  constructor
  · exact congrArg (·.packetId.packetType) hparams
  · exact congrArg (·.packetId.secHeaderFlag) hparams
  · exact congrArg (·.packetId.apid) hparams
  · exact congrArg (·.packetSeqCtrl.seqFlags) hparams
  · exact congrArg (·.packetSeqCtrl.seqCount) hparams
  · change (r.pointers.secHeader 0 >>> 4) &&& 0b1111 = _
    rw [hfirst, UInt8.highNibble _ hnibble]
    apply UInt8.and_0f_of_lt (UInt8.lt_iff_toNat_lt.mp hversion)
  · change r.pointers.secHeader 0 &&& 0b1111 = _
    rw [hfirst, UInt8.lowNibble _ hnibble, hlow]
  · apply PusPointers.secHeader_eq hstart
  · apply PusPointers.secHeader_eq hstart
  · apply (PusPointers.secHeaderWord_eq hstart 3).trans
    apply (PusTcReader.readUInt16_append [_, _, _] _ 0).trans
    apply PusTcReader.readUInt16_words
  · apply (PusPointers.secHeaderWord_eq hstart 5).trans
    apply (PusTcReader.readUInt16_append [_, _, _, _, _] _ 0).trans
    apply PusTcReader.readUInt16_words
  · rw [getUserData_locate rfl hfull htimestampLen, hwritten]

/-- The packet of a new creator is read without errors, and its data are those that are written. -/
theorem read_body {timeReader : TimeReaderIF σ}
    (htimeReader : ReadsTimestamps pusParams timeReader) {r : PusTmReader.State σ}
    (hr : r.timeReader = some timeReader) :
  ∃ r', r.read (some (sealed (new spParams pusParams).body))
      (sealed (new spParams pusParams).body).length true = (.ok, r')
    ∧ (Recovers spParams pusParams r'
      ↔ pusParams.sourceData.written = pusParams.sourceData.given)
  := by
  obtain ⟨haccepts, hfull, time, hreads, hlen⟩ := readsTime_body hsize htimeReader hr
  refine ⟨_, PusTmReader.State.read_eq_ok_iff.mpr ⟨haccepts, timeReader, time, hreads, rfl⟩, ?_, ?_⟩
  · intro hrecovers
    rw [← hrecovers.userData, getUserData_locate rfl hfull hlen]
  · apply recovers_locate hapid hcount hversion hstatus rfl rfl hfull hlen

omit hsize

theorem fitsAdapter_of_roundTrips {timeReader : TimeReaderIF σ}
    (hsize : 15 + pusParams.timestampSize + pusParams.sourceData.given.length ≤ 65542)
    (htimeReader : ReadsTimestamps pusParams timeReader) (time : σ)
    (h : RoundTrips spParams pusParams timeReader) :
  pusParams.sourceData.FitsAdapter
  := by
  have hle := pusParams.sourceData.getSerializedSize_le
  have hsize' : 15 + pusParams.timestampSize + pusParams.sourceData.getSerializedSize ≤ 65542 := by
    omega
  obtain ⟨packet, hserialize, -, hread⟩ :=
    h (0, 0) (new spParams pusParams).getSerializedSize ⟨[], 0⟩ (by simp)
  have hset : pusParams.sourceData.IsSet := isSet_of_serialize hserialize
  rw [serialize_new hsize' hapid hcount hset _ (by simp)] at hserialize
  cases SerialBuffer.put_injective (congrArg Prod.snd hserialize)
  have hr : (⟨{}, {}, 0, some timeReader, time⟩ : PusTmReader.State σ).timeReader
      = some timeReader := rfl
  obtain ⟨r', hok, hrecovers⟩ := hread _ hr
  obtain ⟨r'', hok', hiff⟩ := read_body hsize' hapid hcount hversion hstatus htimeReader hr
  cases hok.symm.trans hok'
  apply (written_eq_given_iff hset).mp (hiff.mp hrecovers)

theorem roundTrips_of_fitsAdapter {timeReader : TimeReaderIF σ}
    (hsize : 15 + pusParams.timestampSize + pusParams.sourceData.given.length ≤ 65542)
    (htimeReader : ReadsTimestamps pusParams timeReader)
    (h : pusParams.sourceData.FitsAdapter) :
  RoundTrips spParams pusParams timeReader
  := by
  have hle := pusParams.sourceData.getSerializedSize_le
  have hsize' : 15 + pusParams.timestampSize + pusParams.sourceData.getSerializedSize ≤ 65542 := by
    omega
  have hwritten := (written_eq_given_iff h.isSet).mpr h
  intro untouched maxSize b hroom
  refine ⟨_, serialize_new hsize' hapid hcount h.isSet untouched hroom, ?_, ?_⟩
  · rw [getSerializedSize, getFullPacketLen_new spParams hsize']
  · intro r hr
    obtain ⟨r', hok, hiff⟩ := read_body hsize' hapid hcount hversion hstatus htimeReader hr
    exact ⟨r', hok, hiff.mpr hwritten⟩

/-- The packet makes the round trip exactly when no byte of the data is lost in the adapter. -/
theorem tmRoundTrips_iff [Nonempty σ] {timeReader : TimeReaderIF σ}
    (hsize : 15 + pusParams.timestampSize + pusParams.sourceData.given.length ≤ 65542)
    (htimeReader : ReadsTimestamps pusParams timeReader) :
  RoundTrips spParams pusParams timeReader ↔ pusParams.sourceData.FitsAdapter
  := by
  constructor
  · obtain ⟨time⟩ := ‹Nonempty σ›
    apply fitsAdapter_of_roundTrips hapid hcount hversion hstatus hsize htimeReader time
  · apply roundTrips_of_fitsAdapter hapid hcount hversion hstatus hsize htimeReader

end

/-- A time stamp of two bytes. -/
def twoBytes : Serializable where
  serialize := fun maxSize _ b =>
    if b.size + 2 ≤ maxSize then (.ok, b.put [7, 9]) else (SerializeIF.bufferTooShort, b)
  getSerializedSize := 2
  bytes := fun _ => [7, 9]
  length_bytes := fun _ => rfl
  serialize_eq := fun _ _ hroom => if_pos hroom

/-- A reader of time stamps of two bytes, which it keeps. -/
def twoBytesReader : TimeReaderIF (List UInt8) where
  readTimeStamp := fun buf maxSize time =>
    if 2 ≤ maxSize then (.ok, buf.take 2) else (SerializeIF.streamTooShort, time)
  getTimestampSize := fun _ => 2

theorem readsTimestamps_twoBytes {pusParams : PusTmParams}
    (h : pusParams.timeStamper = some twoBytes) :
  ReadsTimestamps pusParams twoBytesReader
  := by
  intro behind maxSize time hmax
  rw [PusTmParams.timestampSize, h] at hmax
  have hle : (2 : UInt64) ≤ maxSize := UInt64.le_iff_toNat_le.mpr hmax
  refine ⟨_, if_pos hle, ?_⟩
  rw [PusTmParams.timestampSize, h]
  rfl

theorem tmRoundTrips_iff_two :
  RoundTrips { packetId.apid := 2, packetSeqCtrl.seqCount := 0x34 }
      { service := 17, subservice := 2, timeStamper := some twoBytes,
        sourceData := .raw (some [1, 2, 3]) } twoBytesReader
    ↔ (PusUserData.raw (some [1, 2, 3])).FitsAdapter
  := tmRoundTrips_iff (by decide) (by decide) (by decide) (by decide) (by decide)
    (readsTimestamps_twoBytes rfl)

/-- The adapter takes a block of 256 bytes for an empty one. -/
theorem not_tmRoundTrips_block :
  ¬ ∀ (spParams : SpacePacketParams) (pusParams : PusTmParams)
      (timeReader : TimeReaderIF (List UInt8)),
    spParams.packetId.apid < Ccsds.limitApid →
    spParams.packetSeqCtrl.seqCount < Ccsds.limitSequenceCount →
    pusParams.pusVersion < 16 → pusParams.scTimeRefStatus < 16 →
    15 + pusParams.timestampSize + pusParams.sourceData.given.length ≤ 65542 →
    ReadsTimestamps pusParams timeReader → RoundTrips spParams pusParams timeReader
  := by
  intro h
  obtain ⟨block, hblock⟩ : ∃ block : List UInt8, block.length = 256 :=
    ⟨List.replicate 256 0, List.length_replicate⟩
  have hsize : 15 + 2 + (PusUserData.raw (some block)).given.length ≤ 65542 := by
    rw [given, Option.getD_some, hblock]
    decide
  have hnibble : (2 : UInt8) < 16 := by decide
  have hround := h {} ⟨17, 2, some twoBytes, 2, 2, 0, 0, .raw (some block)⟩
    twoBytesReader (by decide) (by decide) hnibble hnibble hsize (readsTimestamps_twoBytes rfl)
  have hfits : (PusUserData.raw (some block)).FitsAdapter := by
    apply fitsAdapter_of_roundTrips _ _ hnibble hnibble _ (readsTimestamps_twoBytes rfl) [] hround
    · decide
    · decide
    · exact hsize
  obtain ⟨_, ⟨⟩, hlt⟩ := hfits _ rfl
  omega

end PusTmCreator
