import Fsfw.TmTcPacket.PusUserData

/-!
# The creator of telecommand packets

The creator sets the length in the primary header from the size of the application data, and
serializes the headers, the data and the checksum.

The reader finds all of this again exactly when the application data are not a block of bytes whose
length the adapter cannot keep (`PusTcCreator.tcRoundTrips_iff`).
-/

namespace Ecss

def pusC : UInt8 := 2

end Ecss

structure PusTcParams where
  service : UInt8
  subservice : UInt8
  ackFlags : UInt8 := 0b1111
  sourceId : UInt16 := 0
  appData : PusUserData := .none
  pusVersion : UInt8 := Ecss.pusC

structure PusTcCreator where
  spCreator : SpacePacketCreator
  pusParams : PusTcParams

namespace PusTcCreator

open Serializer SerializeAdapter PusUserData

/-- The secondary header has 5 bytes, and the checksum 2. -/
def updateSpLengthField (c : PusTcCreator) : PusTcCreator :=
  { c with
    spCreator :=
      c.spCreator.setCcsdsLenFromTotalDataFieldLen (5 + 2 + c.pusParams.appData.getSerializedSize) }

def setup (c : PusTcCreator) : PusTcCreator :=
  updateSpLengthField
    { c with
      spCreator :=
        ((c.spCreator.setPacketType .tc).setSecHeaderFlag).setSeqFlags .unsegmented }

def new (spParams : SpacePacketParams) (pusParams : PusTcParams) : PusTcCreator :=
  setup ⟨.ofParams spParams, pusParams⟩

def setRawUserData (c : PusTcCreator) (data : Option (List UInt8)) : PusTcCreator :=
  updateSpLengthField { c with pusParams.appData := .raw data }

def setSerializableUserData (c : PusTcCreator) (serializable : Serializable) : PusTcCreator :=
  updateSpLengthField { c with pusParams.appData := .serializable serializable }

def getFullPacketLen (c : PusTcCreator) : ℕ :=
  PusTcReader.headerLen + c.spCreator.params.dataLen.toNat + 1

def getSerializedSize (c : PusTcCreator) : ℕ :=
  c.getFullPacketLen

/-- The first three bytes of the secondary header. -/
def secHeader (c : PusTcCreator) : List UInt8 :=
  [(c.pusParams.pusVersion <<< 4) ||| c.pusParams.ackFlags, c.pusParams.service,
    c.pusParams.subservice]

/-- The checksum is over the packet from its start, without the last two bytes. -/
def serialize (c : PusTcCreator) : Serializer :=
  fun maxSize e b =>
    if maxSize < b.size + c.getSerializedSize then
      (SerializeIF.bufferTooShort, b)
    else if c.pusParams.pusVersion ≠ Ecss.pusC then
      (PusIF.invalidPusVersion, b)
    else
      andThen (c.spCreator.serialize maxSize e b) fun b₁ =>
      andThen
        (SerializeAdapter.serialize 2 c.pusParams.sourceId.toNat maxSize e (b₁.put c.secHeader))
        fun b₂ =>
      andThen (c.pusParams.appData.serialize maxSize e b₂) fun b₃ =>
      SerializeAdapter.serialize 2
        (CRC.crc16ccitt
          ((b₃.written.drop b.written.length).take (c.getFullPacketLen - 2))).toNat
        maxSize e b₃

/-! ### A new creator -/

section

variable (spParams : SpacePacketParams) (pusParams : PusTcParams)

/-- Setting the user data of a new creator comes to the same as giving them in the parameters. -/
theorem setRawUserData_new (data : Option (List UInt8)) :
  (new spParams pusParams).setRawUserData data = new spParams { pusParams with appData := .raw data }
  := by
  simp [new, setup, setRawUserData, updateSpLengthField,
    SpacePacketCreator.setCcsdsLenFromTotalDataFieldLen, SpacePacketCreator.setDataLenField]

theorem setSerializableUserData_new (serializable : Serializable) :
  (new spParams pusParams).setSerializableUserData serializable
    = new spParams { pusParams with appData := .serializable serializable }
  := by
  simp [new, setup, setSerializableUserData, updateSpLengthField,
    SpacePacketCreator.setCcsdsLenFromTotalDataFieldLen, SpacePacketCreator.setDataLenField]

/-- The header of a new creator. -/
def header : SpacePacketParams :=
  { spParams with
    packetId.packetType := .tc
    packetId.secHeaderFlag := true
    packetSeqCtrl.seqFlags := .unsegmented
    dataLen := UInt16.ofNat (6 + pusParams.appData.getSerializedSize) }

theorem params_new :
  (new spParams pusParams).spCreator.params = header spParams pusParams
  := by
  rw [new, setup, updateSpLengthField, SpacePacketCreator.setCcsdsLenFromTotalDataFieldLen,
    if_neg (by simp)]
  simp only [show 5 + 2 + pusParams.appData.getSerializedSize - 1
    = 6 + pusParams.appData.getSerializedSize by omega]
  rfl

theorem valid_new {spParams : SpacePacketParams} (pusParams : PusTcParams)
    (hapid : spParams.packetId.apid < Ccsds.limitApid)
    (hcount : spParams.packetSeqCtrl.seqCount < Ccsds.limitSequenceCount) :
  (new spParams pusParams).spCreator.valid = true
  := by
  rw [new, setup, updateSpLengthField, SpacePacketCreator.setCcsdsLenFromTotalDataFieldLen,
    if_neg (by simp)]
  apply SpacePacketCreator.valid_ofParams hapid hcount

end

/-! ### What is serialized -/

/-- The packet without its checksum. -/
def body (c : PusTcCreator) : List UInt8 :=
  c.spCreator.bytes .big
    ++ (c.secHeader ++ bytesOf 2 c.pusParams.sourceId.toNat .big ++ c.pusParams.appData.written)

/-- The length in the header is that of the packet. -/
theorem getFullPacketLen_new (spParams : SpacePacketParams) {pusParams : PusTcParams}
    (hsize : pusParams.appData.getSerializedSize ≤ 65529) :
  (new spParams pusParams).getFullPacketLen = (sealed (new spParams pusParams).body).length
  := by
  have hparams : (new spParams pusParams).pusParams = pusParams := rfl
  rw [getFullPacketLen, params_new, header, length_sealed, body]
  simp [hparams, secHeader, length_written, SpacePacketCreator.getSerializedSize,
    PusTcReader.headerLen, UInt16.toNat_ofNat']
  omega

theorem serialize_eq {c : PusTcCreator} (hvalid : c.spCreator.valid = true)
    (hversion : c.pusParams.pusVersion = Ecss.pusC) (hset : c.pusParams.appData.IsSet)
    (hlength : c.getFullPacketLen = (sealed c.body).length) {maxSize : ℕ} {b : SerialBuffer}
    (hroom : b.size + c.getSerializedSize ≤ maxSize) :
  c.serialize maxSize .big b = (.ok, b.put (sealed c.body))
  := by
  have hbody : c.body.length = 6 + (3 + 2 + c.pusParams.appData.getSerializedSize) := by
    simp [body, secHeader, length_written, SpacePacketCreator.getSerializedSize,
      PusTcReader.headerLen]
    omega
  have hfull : c.getFullPacketLen - 2 = c.body.length := by
    rw [hlength, length_sealed, Nat.add_sub_cancel]
  have hroom' : b.size + (c.body.length + 2) ≤ maxSize := by
    rwa [getSerializedSize, hlength, length_sealed] at hroom
  rw [serialize, if_neg (not_lt.mpr hroom), if_neg (not_not.mpr hversion)]
  rw [c.spCreator.serialize_eq .big
    (by rw [SpacePacketCreator.getSerializedSize, PusTcReader.headerLen]; omega), if_pos hvalid,
    andThen_ok]
  rw [SerializeAdapter.serialize_eq (by simp), if_pos
    (by simp [secHeader, SpacePacketCreator.getSerializedSize, PusTcReader.headerLen]; omega),
    andThen_ok]
  rw [PusUserData.serialize_eq hset
    (by simp [secHeader, SpacePacketCreator.getSerializedSize, PusTcReader.headerLen]; omega),
    andThen_ok]
  have hput : (((b.put (c.spCreator.bytes .big)).put c.secHeader).put
      (bytesOf 2 c.pusParams.sourceId.toNat .big)).put c.pusParams.appData.written
      = b.put c.body := by
    simp [body]
  rw [hput, SerializeAdapter.serialize_eq (by simp), if_pos (by simp; omega), hfull]
  simp [sealed, bytesOf_two_big]

/-! ### The round trip -/

open PusTcReader SpacePacketReader in
/-- The reader returns what the creator was given. -/
structure Recovers (spParams : SpacePacketParams) (pusParams : PusTcParams)
    (r : PusTcReader.State) : Prop where
  packetType : getPacketType r.header = .tc
  secHeaderFlag : hasSecHeader r.header = true
  apid : getApid r.header = spParams.packetId.apid
  seqFlags : getSequenceFlags r.header = .unsegmented
  seqCount : getSequenceCount r.header = spParams.packetSeqCtrl.seqCount
  pusVersion : r.getPusVersion = Ecss.pusC
  ackFlags : r.getAcknowledgeFlags = pusParams.ackFlags
  service : r.getService = pusParams.service
  subservice : r.getSubService = pusParams.subservice
  sourceId : r.getSourceId = pusParams.sourceId
  userData : r.getUserData = pusParams.appData.given

/-- The packet is serialized into every buffer with room for it, and the reader recovers it. -/
def RoundTrips (spParams : SpacePacketParams) (pusParams : PusTcParams) : Prop :=
  ∀ (maxSize : ℕ) (b : SerialBuffer),
    b.size + (new spParams pusParams).getSerializedSize ≤ maxSize →
      ∃ packet, (new spParams pusParams).serialize maxSize .big b = (.ok, b.put packet)
        ∧ packet.length = (new spParams pusParams).getSerializedSize
        ∧ ∀ r : PusTcReader.State, ∃ r', r.read (some packet) packet.length true = (.ok, r')
          ∧ Recovers spParams pusParams r'

/-- What stands behind the primary header. -/
def behindHeader (pusParams : PusTcParams) (crc : UInt16) : List UInt8 :=
  [(pusParams.pusVersion <<< 4) ||| pusParams.ackFlags, pusParams.service, pusParams.subservice,
    CRC.highByte pusParams.sourceId, CRC.lowByte pusParams.sourceId]
    ++ (pusParams.appData.written ++ [CRC.highByte crc, CRC.lowByte crc])

theorem sealed_body (spParams : SpacePacketParams) (pusParams : PusTcParams) :
  sealed (new spParams pusParams).body
    = (new spParams pusParams).spCreator.bytes .big
      ++ behindHeader pusParams (CRC.crc16ccitt (new spParams pusParams).body)
  := by
  rw [sealed]
  nth_rewrite 1 [body]
  rw [bytesOf_two_big]
  simp only [secHeader, behindHeader, List.append_assoc, List.cons_append, List.nil_append]
  rfl

/-- A creator with a null pointer for its data is not serialized. -/
theorem isSet_of_serialize {c : PusTcCreator} {maxSize : ℕ} {e : Endianness} {b b' : SerialBuffer}
    (h : c.serialize maxSize e b = (.ok, b')) :
  c.pusParams.appData.IsSet
  := by
  rw [serialize] at h
  split at h
  · cases h
  · split at h
    · cases h
    · obtain ⟨b₁, -, h₁⟩ := andThen_eq_ok h
      obtain ⟨b₂, -, h₂⟩ := andThen_eq_ok h₁
      obtain ⟨b₃, hdata, -⟩ := andThen_eq_ok h₂
      by_contra hset
      apply serialize_null hset maxSize e b₂
      rw [hdata]

section

variable {spParams : SpacePacketParams} {pusParams : PusTcParams}

/-- The application data stand between the headers and the checksum. -/
theorem getUserData_locate {r : PusTcReader.State} {packet : List UInt8}
    (hpacket : packet = sealed (new spParams pusParams).body)
    (hfull : PusTcReader.getFullPacketLen packet = packet.length) :
  (r.locate packet packet).getUserData = pusParams.appData.written
  := by
  rw [sealed_body] at hpacket
  have hlength : packet.length = pusParams.appData.written.length + 13 := by
    simp [hpacket, behindHeader, SpacePacketCreator.getSerializedSize, PusTcReader.headerLen]
    omega
  have hdrop : packet.drop 11 = pusParams.appData.written
      ++ [CRC.highByte (CRC.crc16ccitt (new spParams pusParams).body),
          CRC.lowByte (CRC.crc16ccitt (new spParams pusParams).body)] := by
    rw [hpacket, show 11 = ((new spParams pusParams).spCreator.bytes .big).length + 5 by
      simp [SpacePacketCreator.getSerializedSize, PusTcReader.headerLen], List.drop_append]
    rfl
  rw [r.getUserData_locate (by omega), hfull, hlength, hdrop, Nat.add_sub_cancel,
    List.take_left]

variable (hapid : spParams.packetId.apid < Ccsds.limitApid)
  (hcount : spParams.packetSeqCtrl.seqCount < Ccsds.limitSequenceCount)
  (hversion : pusParams.pusVersion = Ecss.pusC) (hack : pusParams.ackFlags < 16)

include hapid hcount hversion hack

/-- The reader recovers the packet of a new creator, if all of the application data are written. -/
theorem recovers_locate {r : PusTcReader.State} {packet : List UInt8}
    (hpacket : packet = sealed (new spParams pusParams).body) (hheader : r.header = packet)
    (hfull : PusTcReader.getFullPacketLen packet = packet.length)
    (hwritten : pusParams.appData.written = pusParams.appData.given) :
  Recovers spParams pusParams (r.locate packet packet)
  := by
  have hparams : SpacePacketReader.getParams (r.locate packet packet).header
      = { header spParams pusParams with version := 0 } := by
    change SpacePacketReader.getParams r.header = _
    rw [hheader, hpacket, sealed_body, SpacePacketCreator.getParams_of_lt, params_new]
    · rwa [params_new]
    · rwa [params_new]
  have hstart : (r.locate packet packet).pointers.secHeaderStart
      = some ⟨(new spParams pusParams).spCreator.bytes .big
          ++ behindHeader pusParams (CRC.crc16ccitt (new spParams pusParams).body),
          PusTcReader.headerLen⟩ := by
    rw [← sealed_body, ← hpacket]
    rfl
  constructor
  · exact congrArg (·.packetId.packetType) hparams
  · exact congrArg (·.packetId.secHeaderFlag) hparams
  · exact congrArg (·.packetId.apid) hparams
  · exact congrArg (·.packetSeqCtrl.seqFlags) hparams
  · exact congrArg (·.packetSeqCtrl.seqCount) hparams
  · rw [PusTcReader.State.getPusVersion, PusPointers.secHeader_eq hstart]
    apply (UInt8.highNibble _ (UInt8.lt_iff_toNat_lt.mp hack)).trans
    rw [hversion]
    rfl
  · rw [PusTcReader.State.getAcknowledgeFlags, PusPointers.secHeader_eq hstart]
    apply UInt8.lowNibble _ (UInt8.lt_iff_toNat_lt.mp hack)
  · apply PusPointers.secHeader_eq hstart
  · apply PusPointers.secHeader_eq hstart
  · apply (PusPointers.secHeaderWord_eq hstart 3).trans
    apply (PusTcReader.readUInt16_append [_, _, _] _ 0).trans
    apply PusTcReader.readUInt16_words
  · rw [getUserData_locate hpacket hfull, hwritten]

/-- The packet of a new creator is read without errors, and its data are those that are written. -/
theorem read_body (hsize : pusParams.appData.getSerializedSize ≤ 65529) (r : PusTcReader.State) :
  ∃ r', r.read (some (sealed (new spParams pusParams).body))
      (sealed (new spParams pusParams).body).length true = (.ok, r')
    ∧ (Recovers spParams pusParams r'
      ↔ pusParams.appData.written = pusParams.appData.given)
  := by
  obtain ⟨haccepts, hfull⟩ : PusTcReader.Accepts (sealed (new spParams pusParams).body)
      (sealed (new spParams pusParams).body).length true ∧ _ :=
    accepts_sealed (getFullPacketLen_new spParams hsize)
  refine ⟨_, PusTcReader.State.read_eq_ok_iff.mpr ⟨haccepts, rfl⟩, ?_, ?_⟩
  · intro hrecovers
    rw [← hrecovers.userData, getUserData_locate rfl hfull]
  · apply recovers_locate hapid hcount hversion hack rfl _ hfull
    apply r.header_setData hfull.le

omit hack in
/-- What serializing a new creator into a buffer with room for it does. -/
theorem serialize_new (hsize : pusParams.appData.getSerializedSize ≤ 65529)
    (hset : pusParams.appData.IsSet) {maxSize : ℕ} {b : SerialBuffer}
    (hroom : b.size + (new spParams pusParams).getSerializedSize ≤ maxSize) :
  (new spParams pusParams).serialize maxSize .big b
    = (.ok, b.put (sealed (new spParams pusParams).body))
  := by
  apply serialize_eq (valid_new pusParams hapid hcount) hversion hset _ hroom
  apply getFullPacketLen_new spParams hsize

theorem fitsAdapter_of_roundTrips (hsize : pusParams.appData.given.length ≤ 65529)
    (h : RoundTrips spParams pusParams) :
  pusParams.appData.FitsAdapter
  := by
  have hsize' := pusParams.appData.getSerializedSize_le.trans hsize
  obtain ⟨packet, hserialize, -, hread⟩ :=
    h (new spParams pusParams).getSerializedSize ⟨[], 0⟩ (by simp)
  have hset : pusParams.appData.IsSet := isSet_of_serialize hserialize
  rw [serialize_new hapid hcount hversion hsize' hset (by simp)] at hserialize
  cases SerialBuffer.put_injective (congrArg Prod.snd hserialize)
  obtain ⟨r', hok, hrecovers⟩ := hread {}
  obtain ⟨r'', hok', hiff⟩ := read_body hapid hcount hversion hack hsize' {}
  cases hok.symm.trans hok'
  apply (written_eq_given_iff hset).mp (hiff.mp hrecovers)

theorem roundTrips_of_fitsAdapter (hsize : pusParams.appData.given.length ≤ 65529)
    (h : pusParams.appData.FitsAdapter) :
  RoundTrips spParams pusParams
  := by
  have hsize' := pusParams.appData.getSerializedSize_le.trans hsize
  have hwritten := (written_eq_given_iff h.isSet).mpr h
  intro maxSize b hroom
  refine ⟨_, serialize_new hapid hcount hversion hsize' h.isSet hroom, ?_, ?_⟩
  · rw [getSerializedSize, getFullPacketLen_new spParams hsize']
  · intro r
    obtain ⟨r', hok, hiff⟩ := read_body hapid hcount hversion hack hsize' r
    exact ⟨r', hok, hiff.mpr hwritten⟩

/-- The packet makes the round trip exactly when no byte of the data is lost in the adapter. -/
theorem tcRoundTrips_iff (hsize : pusParams.appData.given.length ≤ 65529) :
  RoundTrips spParams pusParams ↔ pusParams.appData.FitsAdapter
  := by
  constructor
  · apply fitsAdapter_of_roundTrips hapid hcount hversion hack hsize
  · apply roundTrips_of_fitsAdapter hapid hcount hversion hack hsize

end

theorem tcRoundTrips_iff_three :
  RoundTrips { packetId.apid := 2, packetSeqCtrl.seqCount := 0x34 }
      { service := 17, subservice := 1, appData := .raw (some [1, 2, 3]) }
    ↔ (PusUserData.raw (some [1, 2, 3])).FitsAdapter
  := tcRoundTrips_iff (by decide) (by decide) rfl (by decide) (by decide)

/-- The adapter takes a block of 256 bytes for an empty one. -/
theorem not_tcRoundTrips_block :
  ¬ ∀ (spParams : SpacePacketParams) (pusParams : PusTcParams),
    spParams.packetId.apid < Ccsds.limitApid →
    spParams.packetSeqCtrl.seqCount < Ccsds.limitSequenceCount →
    pusParams.pusVersion = Ecss.pusC → pusParams.ackFlags < 16 →
    pusParams.appData.given.length ≤ 65529 → RoundTrips spParams pusParams
  := by
  intro h
  have hsize : (PusUserData.raw (some (List.replicate 256 0))).given.length ≤ 65529 := by
    rw [given, Option.getD_some, List.length_replicate]
    decide
  have hround := h {} ⟨17, 1, 0, 0, .raw (some (List.replicate 256 0)), Ecss.pusC⟩
    (by decide) (by decide) rfl (by decide) hsize
  have hfits : (PusUserData.raw (some (List.replicate 256 0))).FitsAdapter :=
    fitsAdapter_of_roundTrips (by decide) (by decide) rfl (by decide) hsize hround
  obtain ⟨_, ⟨⟩, hlt⟩ := hfits _ rfl
  rw [List.length_replicate] at hlt
  apply absurd hlt
  decide

end PusTcCreator
