import Fsfw.TmTcPacket.SpacePacket

/-!
# The creator of space packet headers

A creator holds the fields of a primary header and a flag that says whether they are valid.  The
constructors with arguments set the flag, and so do the setters of the APID and of the sequence
count; the other setters leave it as it is.  `serialize` looks at the flag only.

The header makes the round trip in the state that a run of constructor and setter calls leads to
exactly when that state is `Sound` (`SpacePacketCreator.headerRoundTrips_iff`).
-/

structure SpacePacketParams where
  packetId : PacketId := {}
  packetSeqCtrl : PacketSeqCtrl := {}
  dataLen : UInt16 := 0
  version : UInt8 := 0b000
  deriving DecidableEq, Repr

namespace SpacePacketParams

/-- Every field fits its bit width. -/
def Fits (params : SpacePacketParams) : Prop :=
  params.packetId.apid.toNat < 2 ^ 11
    ∧ params.packetSeqCtrl.seqCount.toNat < 2 ^ 14
    ∧ params.version.toNat < 2 ^ 3

instance (params : SpacePacketParams) : Decidable params.Fits := by
  rw [Fits]
  infer_instance

end SpacePacketParams

structure SpacePacketCreator where
  valid : Bool := false
  params : SpacePacketParams := {}
  deriving DecidableEq, Repr

namespace SpacePacketCreator

open Serializer SerializeAdapter

def checkFieldValidity (c : SpacePacketCreator) : SpacePacketCreator where
  valid :=
    ! (Ccsds.limitApid < c.params.packetId.apid
      || Ccsds.limitSequenceCount < c.params.packetSeqCtrl.seqCount)
  params := c.params

/-! ### Constructors and setters -/

def ofParams (params : SpacePacketParams) : SpacePacketCreator :=
  checkFieldValidity { params }

def ofFields (packetType : PacketType) (secHeaderFlag : Bool) (apid : UInt16)
    (seqFlags : SequenceFlags) (seqCount dataLen : UInt16) (version : UInt8) :
    SpacePacketCreator :=
  checkFieldValidity
    { params := { packetId := { packetType, secHeaderFlag, apid }
                  packetSeqCtrl := { seqFlags, seqCount }
                  dataLen
                  version } }

def setParams (c : SpacePacketCreator) (params : SpacePacketParams) : SpacePacketCreator :=
  { c with params }

def setSecHeaderFlag (c : SpacePacketCreator) : SpacePacketCreator :=
  { c with params.packetId.secHeaderFlag := true }

def setPacketType (c : SpacePacketCreator) (type : PacketType) : SpacePacketCreator :=
  { c with params.packetId.packetType := type }

def setApid (c : SpacePacketCreator) (apid : UInt16) : SpacePacketCreator :=
  if apid < Ccsds.limitApid then
    checkFieldValidity { c with params.packetId.apid := apid }
  else
    checkFieldValidity c

def setSeqCount (c : SpacePacketCreator) (seqCount : UInt16) : SpacePacketCreator :=
  if seqCount < Ccsds.limitSequenceCount then
    checkFieldValidity { c with params.packetSeqCtrl.seqCount := seqCount }
  else
    checkFieldValidity c

def setSeqFlags (c : SpacePacketCreator) (flags : SequenceFlags) : SpacePacketCreator :=
  { c with params.packetSeqCtrl.seqFlags := flags }

def setDataLenField (c : SpacePacketCreator) (dataLen : UInt16) : SpacePacketCreator :=
  { c with params.dataLen := dataLen }

/-- The length without one is cut to a word. -/
def setCcsdsLenFromTotalDataFieldLen (c : SpacePacketCreator) (actualLength : ℕ) :
    SpacePacketCreator :=
  if actualLength = 0 then c else c.setDataLenField (UInt16.ofNat (actualLength - 1))

/-- A call of a constructor. -/
inductive Constructor where
  | default
  | ofParams (params : SpacePacketParams)
  | ofFields (packetType : PacketType) (secHeaderFlag : Bool) (apid : UInt16)
      (seqFlags : SequenceFlags) (seqCount dataLen : UInt16) (version : UInt8)

/-- A call of a setter. -/
inductive SetterCall where
  | setParams (params : SpacePacketParams)
  | setSecHeaderFlag
  | setPacketType (type : PacketType)
  | setApid (apid : UInt16)
  | setSeqCount (seqCount : UInt16)
  | setSeqFlags (flags : SequenceFlags)
  | setDataLenField (dataLen : UInt16)
  | setCcsdsLenFromTotalDataFieldLen (actualLength : ℕ)

def construct : Constructor → SpacePacketCreator
  | .default => {}
  | .ofParams params => ofParams params
  | .ofFields packetType secHeaderFlag apid seqFlags seqCount dataLen version =>
      ofFields packetType secHeaderFlag apid seqFlags seqCount dataLen version

def call (c : SpacePacketCreator) : SetterCall → SpacePacketCreator
  | .setParams params => c.setParams params
  | .setSecHeaderFlag => c.setSecHeaderFlag
  | .setPacketType type => c.setPacketType type
  | .setApid apid => c.setApid apid
  | .setSeqCount seqCount => c.setSeqCount seqCount
  | .setSeqFlags flags => c.setSeqFlags flags
  | .setDataLenField dataLen => c.setDataLenField dataLen
  | .setCcsdsLenFromTotalDataFieldLen actualLength =>
      c.setCcsdsLenFromTotalDataFieldLen actualLength

/-- A constructor call and setter calls after it. -/
def run (constructor : Constructor) (calls : List SetterCall) : SpacePacketCreator :=
  calls.foldl call (construct constructor)

/-! ### When the flag is up to date -/

/-- The flag is what the check says about the fields. -/
def Checked (c : SpacePacketCreator) : Prop :=
  c.checkFieldValidity = c

theorem checked_checkFieldValidity (c : SpacePacketCreator) :
  c.checkFieldValidity.Checked
  := rfl

theorem checked_iff {c : SpacePacketCreator} :
  c.Checked ↔ (c.valid ↔ c.params.packetId.apid.toNat ≤ 2 ^ 11
    ∧ c.params.packetSeqCtrl.seqCount.toNat ≤ 2 ^ 14)
  := by
  obtain ⟨valid, params⟩ := c
  simp only [Checked, checkFieldValidity, mk.injEq, and_true, Ccsds.limitApid,
    Ccsds.limitSequenceCount, UInt16.lt_iff_toNat_lt]
  cases valid <;> simp

/-- Only `setParams` lets the flag get out of date. -/
theorem Checked.call {c : SpacePacketCreator} (hc : c.Checked) :
    ∀ {setter : SetterCall} (_ : ∀ params, setter ≠ .setParams params),
  (c.call setter).Checked
  := by
  rintro (params | _ | _ | apid | seqCount | _ | _ | actualLength) hsetter
  · exact absurd rfl (hsetter params)
  · exact congrArg setSecHeaderFlag hc
  · exact congrArg (setPacketType · _) hc
  · simp only [SpacePacketCreator.call, setApid]
    split <;> apply checked_checkFieldValidity
  · simp only [SpacePacketCreator.call, setSeqCount]
    split <;> apply checked_checkFieldValidity
  · exact congrArg (setSeqFlags · _) hc
  · exact congrArg (setDataLenField · _) hc
  · simp only [SpacePacketCreator.call, setCcsdsLenFromTotalDataFieldLen]
    split
    · exact hc
    · exact congrArg (setDataLenField · _) hc

theorem checked_construct (constructor : Constructor) (h : constructor ≠ .default) :
  (construct constructor).Checked
  := by
  cases constructor with
  | default => exact absurd rfl h
  | ofParams params => apply checked_checkFieldValidity
  | ofFields => apply checked_checkFieldValidity

theorem valid_ofParams {params : SpacePacketParams} (hapid : params.packetId.apid < Ccsds.limitApid)
    (hcount : params.packetSeqCtrl.seqCount < Ccsds.limitSequenceCount) :
  (ofParams params).valid = true
  := by
  apply (checked_iff.mp (checked_construct (.ofParams params) (by simp))).mpr
  use (UInt16.lt_iff_toNat_lt.mp hapid).le, (UInt16.lt_iff_toNat_lt.mp hcount).le

/-- A creator made with arguments has its flag up to date, until the fields are replaced. -/
theorem checked_run {constructor : Constructor} {calls : List SetterCall}
    (hconstructor : constructor ≠ .default)
    (hcalls : ∀ setter ∈ calls, ∀ params, setter ≠ .setParams params) :
  (run constructor calls).Checked
  := by
  rw [run]
  induction calls using List.reverseRecOn with
  | nil => apply checked_construct constructor hconstructor
  | append_singleton calls setter ih =>
      rw [List.foldl_append]
      apply (ih fun s hs => hcalls s (by simp [hs])).call
      exact hcalls setter (by simp)

/-! ### Serializing -/

/-- The first word of the header. -/
def packetIdAndVersion (c : SpacePacketCreator) : UInt16 :=
  (c.params.version.toUInt16 <<< 13) ||| c.params.packetId.raw

def getSerializedSize (_c : SpacePacketCreator) : ℕ :=
  PusTcReader.headerLen

/-- Only the header is serialized. -/
def serialize (c : SpacePacketCreator) : Serializer :=
  fun maxSize e b =>
    if c.valid then
      andThen (SerializeAdapter.serialize 2 c.packetIdAndVersion.toNat maxSize e b) fun b₁ =>
        andThen (SerializeAdapter.serialize 2 c.params.packetSeqCtrl.raw.toNat maxSize e b₁)
          fun b₂ => SerializeAdapter.serialize 2 c.params.dataLen.toNat maxSize e b₂
    else
      (.failed, b)

/-- The bytes of a header. -/
def bytes (c : SpacePacketCreator) (e : Endianness) : List UInt8 :=
  bytesOf 2 c.packetIdAndVersion.toNat e ++ bytesOf 2 c.params.packetSeqCtrl.raw.toNat e
    ++ bytesOf 2 c.params.dataLen.toNat e

@[simp]
theorem length_bytes (c : SpacePacketCreator) (e : Endianness) :
  (c.bytes e).length = c.getSerializedSize
  := by
  simp [bytes, getSerializedSize, PusTcReader.headerLen]

/-- With room for the header, the flag decides about the result. -/
theorem serialize_eq (c : SpacePacketCreator) {maxSize : ℕ} (e : Endianness) {b : SerialBuffer}
    (hroom : b.size + c.getSerializedSize ≤ maxSize) :
  c.serialize maxSize e b = if c.valid then (.ok, b.put (c.bytes e)) else (.failed, b)
  := by
  rw [getSerializedSize, PusTcReader.headerLen] at hroom
  rw [serialize]
  split
  · rw [SerializeAdapter.serialize_eq (by simp), if_pos (by omega), andThen_ok,
      SerializeAdapter.serialize_eq (by simp), if_pos (by simp; omega), andThen_ok,
      SerializeAdapter.serialize_eq (by simp), if_pos (by simp; omega)]
    simp [bytes]
  · rfl

/-- The header in big endian byte order, word by word. -/
theorem bytes_big (c : SpacePacketCreator) :
  c.bytes .big =
    [CRC.highByte c.packetIdAndVersion, CRC.lowByte c.packetIdAndVersion,
     CRC.highByte c.params.packetSeqCtrl.raw, CRC.lowByte c.params.packetSeqCtrl.raw,
     CRC.highByte c.params.dataLen, CRC.lowByte c.params.dataLen]
  := by
  rw [bytes, bytesOf_two_big, bytesOf_two_big, bytesOf_two_big]
  rfl

theorem toNat_packetIdAndVersion (c : SpacePacketCreator) :
  c.packetIdAndVersion.toNat
    = c.params.version.toNat % 8 * 8192 + c.params.packetId.raw.toNat
  := by
  rw [packetIdAndVersion, UInt16.toNat_or, UInt16.toNat_shiftLeft, UInt8.toNat_toUInt16]
  exact BitField.shiftLeft_mod_lor (by simp) c.params.packetId.toNat_raw_lt

end SpacePacketCreator

/-! ### What the reader finds -/

namespace SpacePacketReader

open PusTcReader

/-- What the getters of the reader return. -/
def getParams (data : List UInt8) : SpacePacketParams where
  packetId :=
    { packetType := getPacketType data
      secHeaderFlag := hasSecHeader data
      apid := getApid data }
  packetSeqCtrl :=
    { seqFlags := getSequenceFlags data
      seqCount := getSequenceCount data }
  dataLen := getPacketDataLen data
  version := (getVersion data).toUInt8

/-- The version is never found. -/
theorem version_getParams (data : List UInt8) :
  (getParams data).version = 0
  := by
  have hversion : getVersion data = 0 := by
    apply UInt16.toNat_inj.mp
    rw [getVersion, getPacketIdRaw]
    simp only [UInt16.toNat_and, UInt16.toNat_shiftRight, UInt16.reduceToNat]
    rw [Nat.and_two_pow_sub_one_eq_mod _ 13]
    simp [Nat.shiftRight_eq_div_pow]
  simp [getParams, hversion]

/-! The three words of a header at the start of a packet. -/

theorem getPacketIdRaw_header (c : SpacePacketCreator) (rest : List UInt8) :
  getPacketIdRaw (c.bytes .big ++ rest) = c.params.packetId.raw
  := by
  have hlt := c.params.packetId.toNat_raw_lt
  rw [getPacketIdRaw, c.bytes_big]
  simp only [List.cons_append]
  rw [readUInt16_words]
  apply UInt16.toNat_inj.mp
  rw [UInt16.toNat_and, c.toNat_packetIdAndVersion]
  simp only [UInt16.reduceToNat]
  rw [Nat.and_two_pow_sub_one_eq_mod _ 13]
  omega

theorem getPacketSeqCtrlRaw_header (c : SpacePacketCreator) (rest : List UInt8) :
  getPacketSeqCtrlRaw (c.bytes .big ++ rest) = c.params.packetSeqCtrl.raw
  := by
  rw [getPacketSeqCtrlRaw, c.bytes_big]
  simp only [List.cons_append]
  apply (readUInt16_append [_, _] _ 0).trans
  apply readUInt16_words

theorem getPacketDataLen_header (c : SpacePacketCreator) (rest : List UInt8) :
  getPacketDataLen (c.bytes .big ++ rest) = c.params.dataLen
  := by
  rw [getPacketDataLen, c.bytes_big]
  simp only [List.cons_append]
  apply (readUInt16_append [_, _, _, _] _ 0).trans
  apply readUInt16_words

/-- The reader finds the fields of the creator, without the version and without the bits that do
not fit. -/
theorem getParams_header (c : SpacePacketCreator) (rest : List UInt8) :
  getParams (c.bytes .big ++ rest)
    = { c.params with
        packetId.apid := c.params.packetId.apid &&& 0x7FF
        packetSeqCtrl.seqCount := c.params.packetSeqCtrl.seqCount &&& 0x3FFF
        version := 0 }
  := by
  have hversion := version_getParams (c.bytes .big ++ rest)
  simp only [getParams] at hversion
  simp only [getParams, hversion, getPacketType, hasSecHeader, getApid, getSequenceFlags,
    getSequenceCount, getPacketIdRaw_header, getPacketSeqCtrlRaw_header, getPacketDataLen_header,
    PacketId.packetType_raw, PacketId.secHeaderFlag_raw, PacketId.apid_raw,
    PacketSeqCtrl.seqFlags_raw, PacketSeqCtrl.seqCount_raw]

end SpacePacketReader

/-! ### The round trip -/

namespace SpacePacketCreator

/-- The header makes the round trip through a buffer with room for it. -/
structure RoundTrips (c : SpacePacketCreator) : Prop where
  ok_iff : ∀ (maxSize : ℕ) (e : Endianness) (b : SerialBuffer),
    b.size + c.getSerializedSize ≤ maxSize →
      ((c.serialize maxSize e b).1 = .ok ↔ c.params.Fits)
  reads : ∀ (maxSize : ℕ) (b b' : SerialBuffer),
    b.size + c.getSerializedSize ≤ maxSize → c.serialize maxSize .big b = (.ok, b') →
      ∃ bytes, b' = b.put bytes ∧ bytes.length = 6 ∧ SpacePacketReader.getParams bytes = c.params

/-- A creator with a set flag has fields below the limits, and version zero; one with a cleared
flag has a field that does not fit. -/
def Sound (c : SpacePacketCreator) : Prop :=
  if c.valid then
    c.params.packetId.apid < Ccsds.limitApid
      ∧ c.params.packetSeqCtrl.seqCount < Ccsds.limitSequenceCount
      ∧ c.params.version = 0
  else
    Ccsds.limitApid ≤ c.params.packetId.apid
      ∨ Ccsds.limitSequenceCount ≤ c.params.packetSeqCtrl.seqCount
      ∨ 8 ≤ c.params.version

theorem not_fits_iff (params : SpacePacketParams) :
  ¬ params.Fits ↔ Ccsds.limitApid ≤ params.packetId.apid
    ∨ Ccsds.limitSequenceCount ≤ params.packetSeqCtrl.seqCount ∨ 8 ≤ params.version
  := by
  simp only [SpacePacketParams.Fits, Ccsds.limitApid, Ccsds.limitSequenceCount,
    UInt16.le_iff_toNat_le, UInt8.le_iff_toNat_le, UInt16.reduceToNat, UInt8.reduceToNat]
  omega

/-- For a creator with its flag up to date, the limits themselves and the versions are what is
left to go wrong. -/
theorem Checked.sound_iff {c : SpacePacketCreator} (h : c.Checked) :
  c.Sound ↔ Ccsds.limitApid < c.params.packetId.apid
    ∨ Ccsds.limitSequenceCount < c.params.packetSeqCtrl.seqCount
    ∨ c.params.packetId.apid ≠ Ccsds.limitApid
      ∧ c.params.packetSeqCtrl.seqCount ≠ Ccsds.limitSequenceCount ∧ c.params.version = 0
  := by
  rw [checked_iff] at h
  rw [Sound]
  simp only [Ccsds.limitApid, Ccsds.limitSequenceCount, UInt16.lt_iff_toNat_lt,
    UInt16.le_iff_toNat_le, ne_eq, ← UInt16.toNat_inj, UInt16.reduceToNat]
  split
  · rename_i hvalid
    obtain ⟨hapid, hcount⟩ := h.mp hvalid
    have hlt : c.params.packetId.apid.toNat < 2048 ↔ ¬ c.params.packetId.apid.toNat = 2048 := by
      omega
    have hlt' : c.params.packetSeqCtrl.seqCount.toNat < 16384
        ↔ ¬ c.params.packetSeqCtrl.seqCount.toNat = 16384 := by
      omega
    rw [or_iff_right (by omega), or_iff_right (by omega), hlt, hlt']
  · rename_i hvalid
    have hlarge := mt h.mpr hvalid
    apply iff_of_true <;> omega

/-- Fields below the limits keep all their bits in the header. -/
theorem getParams_of_lt {c : SpacePacketCreator} (hapid : c.params.packetId.apid < Ccsds.limitApid)
    (hcount : c.params.packetSeqCtrl.seqCount < Ccsds.limitSequenceCount) (rest : List UInt8) :
  SpacePacketReader.getParams (c.bytes .big ++ rest) = { c.params with version := 0 }
  := by
  rw [SpacePacketReader.getParams_header, PacketId.apid_and_of_lt hapid,
    PacketSeqCtrl.seqCount_and_of_lt hcount]

theorem RoundTrips.sound {c : SpacePacketCreator} (h : c.RoundTrips) :
  c.Sound
  := by
  have hroom : (⟨[], 0⟩ : SerialBuffer).size + c.getSerializedSize ≤ 6 := by rfl
  have hserialize := c.serialize_eq .big hroom
  have hok := h.ok_iff 6 .big ⟨[], 0⟩ hroom
  rw [Sound]
  split
  · rename_i hvalid
    rw [if_pos hvalid] at hserialize
    obtain ⟨bytes, -, -, hparams⟩ := h.reads _ _ _ hroom hserialize
    have hversion : c.params.version = 0 := by
      rw [← hparams]
      apply SpacePacketReader.version_getParams
    obtain ⟨hapid, hcount, -⟩ := hok.mp (by rw [hserialize])
    use UInt16.lt_iff_toNat_lt.mpr hapid, UInt16.lt_iff_toNat_lt.mpr hcount, hversion
  · rename_i hvalid
    rw [if_neg hvalid] at hserialize
    apply (not_fits_iff _).mp
    intro hfits
    have hfailed := hok.mpr hfits
    rw [hserialize] at hfailed
    cases hfailed

theorem Sound.roundTrips {c : SpacePacketCreator} (h : c.Sound) :
  c.RoundTrips
  := by
  rw [Sound] at h
  split at h
  · rename_i hvalid
    obtain ⟨hapid, hcount, hversion⟩ := h
    constructor
    · intro maxSize e b hroom
      rw [c.serialize_eq e hroom, if_pos hvalid]
      apply iff_of_true rfl
      use UInt16.lt_iff_toNat_lt.mp hapid, UInt16.lt_iff_toNat_lt.mp hcount
      simp [hversion]
    · intro maxSize b b' hroom hok
      rw [c.serialize_eq .big hroom, if_pos hvalid] at hok
      cases hok
      use c.bytes .big, rfl, c.length_bytes .big
      rw [← (c.bytes .big).append_nil, getParams_of_lt hapid hcount, ← hversion]
  · rename_i hvalid
    constructor
    · intro maxSize e b hroom
      rw [c.serialize_eq e hroom, if_neg hvalid]
      apply iff_of_false (by simp) ((not_fits_iff _).mpr h)
    · intro maxSize b b' hroom hok
      rw [c.serialize_eq .big hroom, if_neg hvalid] at hok
      cases hok

/-- The header makes the round trip exactly when the calls have led to a sound creator. -/
theorem headerRoundTrips_iff (constructor : Constructor) (calls : List SetterCall) :
  (run constructor calls).RoundTrips ↔ (run constructor calls).Sound
  := by
  constructor
  · apply RoundTrips.sound
  · apply Sound.roundTrips

/-- The first APID that needs one more bit is accepted. -/
theorem not_headerRoundTrips_limit :
  ¬ ∀ (constructor : Constructor) (calls : List SetterCall), (run constructor calls).RoundTrips
  := by
  intro h
  obtain ⟨hapid, -⟩ := (h (.ofFields .tc true 2048 .unsegmented 0 0 0) []).sound
  apply absurd hapid
  decide

end SpacePacketCreator
