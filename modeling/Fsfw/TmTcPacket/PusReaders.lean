import Fsfw.GlobalFunctions.CRC
import Fsfw.TmTcPacket.PusTcReader

/-!
# Parsing PUS packets

A reader of a telecommand or of a telemetry packet is pointed to some bytes first, and then told to
parse them.  Parsing finds the secondary header, the user data and the checksum in the packet, and
keeps pointers to them.  The bytes are those from the address on that the reader is given; how many
of them it may look at is passed along, and what lies behind the bytes is read as zero.

The length of the user data is what is left of the packet length without the headers and the
checksum, a subtraction of unsigned numbers of 64 bits.  The user data lie in the packet exactly
when each packet that passes the checks has room for the headers and the checksum
(`PusReaders.exposesOnly_iff`).
-/

/-- A byte of a block of memory. -/
structure BytePointer where
  memory : List UInt8
  offset : ℕ
  deriving DecidableEq, Repr

/-- What the readers remember of a packet. -/
structure PusPointers where
  spHeaderStart : Option (List UInt8) := none
  secHeaderStart : Option BytePointer := none
  userDataStart : Option BytePointer := none
  crcStart : Option BytePointer := none

namespace PusPointers

/-- A byte of the secondary header.  There is none before a packet has been parsed. -/
def secHeader (pointers : PusPointers) (index : ℕ) : UInt8 :=
  match pointers.secHeaderStart with
  | some start => start.memory.getD (start.offset + index) 0
  | none => 0

def secHeaderWord (pointers : PusPointers) (index : ℕ) : UInt16 :=
  ((pointers.secHeader index).toUInt16 <<< 8) ||| (pointers.secHeader (index + 1)).toUInt16

/-- The user data, of which the pointers know the start only. -/
def userData (pointers : PusPointers) (length : UInt64) : List UInt8 :=
  match pointers.userDataStart with
  | some start => (start.memory.drop start.offset).take length.toNat
  | none => []

end PusPointers

namespace SpacePacketReader

/-- The reader of space packets. -/
structure State where
  spHeader : Option (List UInt8) := none
  packetDataField : Option (List UInt8) := none
  bufSize : ℕ := 0

namespace State

def checkSize (r : State) : ReturnValue :=
  match r.spHeader with
  | some header =>
      if r.bufSize < PusTcReader.getFullPacketLen header then SerializeIF.streamTooShort else .ok
  | none => .failed

/-- The reader that is pointed to a packet with room for the header. -/
def redirect (r : State) (data : Option (List UInt8)) (maxSize : ℕ) : State where
  spHeader := data
  packetDataField :=
    if PusTcReader.headerLen < maxSize then
      data.map (·.drop PusTcReader.headerLen)
    else
      r.packetDataField
  bufSize := maxSize

/-- Without room for the header only the size changes. -/
def setInternalFields (r : State) (data : Option (List UInt8)) (maxSize : ℕ) :
    ReturnValue × State :=
  if maxSize < PusTcReader.headerLen then
    (SerializeIF.streamTooShort, { r with bufSize := maxSize })
  else
    ((r.redirect data maxSize).checkSize, r.redirect data maxSize)

end State

end SpacePacketReader

/-- The length of the packet, as a number of 64 bits. -/
def PusTcReader.fullPacketLen (header : List UInt8) : UInt64 :=
  UInt64.ofNat (getFullPacketLen header)

/-- The checksum over the whole packet. -/
def PusTcReader.checksum (header : List UInt8) : UInt16 :=
  CRC.crc16ccitt (header.take (getFullPacketLen header))

/-! ### Telecommands -/

namespace PusTcReader

structure State where
  spReader : SpacePacketReader.State := {}
  pointers : PusPointers := {}
  appDataSize : UInt64 := 0

namespace State

/-- The bytes that the getters for the primary header look into. -/
def header (r : State) : List UInt8 :=
  r.spReader.spHeader.getD []

def setData (r : State) (pData : Option (List UInt8)) (size : ℕ) : ReturnValue × State :=
  let (result, spReader) := r.spReader.setInternalFields pData size
  (result, { r with spReader, pointers.spHeaderStart := pData })

/-- Behind the primary header of 6 and the secondary header of 5 bytes the user data begin.  The
checksum takes 2 bytes. -/
def locate (r : State) (start header : List UInt8) : State :=
  let appDataSize := fullPacketLen header - 11 - 2
  { r with
    pointers.secHeaderStart := some ⟨start, headerLen⟩
    pointers.userDataStart := if 0 < appDataSize then some ⟨start, 11⟩ else none
    pointers.crcStart := some ⟨start, (11 + appDataSize).toNat⟩
    appDataSize }

def parseData (r : State) (withCrc : Bool) : ReturnValue × State :=
  match r.pointers.spHeaderStart, r.spReader.spHeader with
  | some start, some header =>
      if r.spReader.checkSize ≠ .ok then
        (r.spReader.checkSize, r)
      else if withCrc ∧ checksum header ≠ 0 then
        (PusIF.invalidCrc16, r.locate start header)
      else
        (.ok, r.locate start header)
  | _, _ => (.failed, r)

def getPusVersion (r : State) : UInt8 :=
  (r.pointers.secHeader 0 >>> 4) &&& 0b1111

def getAcknowledgeFlags (r : State) : UInt8 :=
  r.pointers.secHeader 0 &&& 0b1111

def getService (r : State) : UInt8 :=
  r.pointers.secHeader 1

def getSubService (r : State) : UInt8 :=
  r.pointers.secHeader 2

def getSourceId (r : State) : UInt16 :=
  r.pointers.secHeaderWord 3

def getUserData (r : State) : List UInt8 :=
  r.pointers.userData r.appDataSize

/-- Point the reader to some bytes and parse them. -/
def read (r : State) (data : Option (List UInt8)) (maxSize : ℕ) (withCrc : Bool) :
    ReturnValue × State :=
  (r.setData data maxSize).2.parseData withCrc

end State

end PusTcReader

/-! ### Telemetry -/

/-- A reader of time stamps, with its state. -/
structure TimeReaderIF (σ : Type*) where
  readTimeStamp : List UInt8 → UInt64 → σ → ReturnValue × σ
  getTimestampSize : σ → UInt64

namespace PusTmReader

open PusTcReader

structure State (σ : Type*) where
  spReader : SpacePacketReader.State := {}
  pointers : PusPointers := {}
  sourceDataLen : UInt64 := 0
  timeReader : Option (TimeReaderIF σ)
  time : σ

namespace State

variable {σ : Type*}

/-- The bytes that the getters for the primary header look into. -/
def header (r : State σ) : List UInt8 :=
  r.spReader.spHeader.getD []

def setData (r : State σ) (dataPtr : Option (List UInt8)) (size : ℕ) : ReturnValue × State σ :=
  let (result, spReader) := r.spReader.setInternalFields dataPtr size
  (result, { r with spReader, pointers.spHeaderStart := dataPtr })

/-- The time stamp lies between the headers of 6 and of 7 bytes and the source data. -/
def locate (r : State σ) (start header : List UInt8) (timestampLen : UInt64) : State σ :=
  let sourceDataLen := fullPacketLen header - (13 + timestampLen) - 2
  { r with
    pointers.userDataStart :=
      if 0 < sourceDataLen then some ⟨start, (13 + timestampLen).toNat⟩ else none
    pointers.crcStart := some ⟨start, (13 + timestampLen + sourceDataLen).toNat⟩
    sourceDataLen }

/-- What is left to do after the time stamp has been read. -/
def parseSourceData (r : State σ) (crcCheck : Bool) (start header : List UInt8)
    (timestampLen : UInt64) : ReturnValue × State σ :=
  if r.spReader.bufSize < (13 + timestampLen).toNat then
    (SerializeIF.streamTooShort, r)
  else if crcCheck ∧ checksum header ≠ 0 then
    (PusIF.invalidCrc16, r.locate start header timestampLen)
  else
    (.ok, r.locate start header timestampLen)

def parseData (r : State σ) (crcCheck : Bool) : ReturnValue × State σ :=
  match r.pointers.spHeaderStart, r.spReader.spHeader, r.timeReader with
  | some start, some header, some timeReader =>
      if r.spReader.checkSize ≠ .ok then
        (r.spReader.checkSize, r)
      else
        match timeReader.readTimeStamp (start.drop 13) (fullPacketLen header - 13) r.time with
        | (.ok, time) =>
            parseSourceData
              { r with pointers.secHeaderStart := some ⟨start, headerLen⟩, time }
              crcCheck start header (timeReader.getTimestampSize time)
        | (result, time) =>
            (result, { r with pointers.secHeaderStart := some ⟨start, headerLen⟩, time })
  | _, _, _ => (.failed, r)

def getPusVersion (r : State σ) : UInt8 :=
  (r.pointers.secHeader 0 >>> 4) &&& 0b1111

def getScTimeRefStatus (r : State σ) : UInt8 :=
  r.pointers.secHeader 0 &&& 0b1111

def getService (r : State σ) : UInt8 :=
  r.pointers.secHeader 1

def getSubService (r : State σ) : UInt8 :=
  r.pointers.secHeader 2

def getMessageTypeCounter (r : State σ) : UInt16 :=
  r.pointers.secHeaderWord 3

def getDestId (r : State σ) : UInt16 :=
  r.pointers.secHeaderWord 5

def getUserData (r : State σ) : List UInt8 :=
  r.pointers.userData r.sourceDataLen

/-- Point the reader to some bytes and parse them. -/
def read (r : State σ) (data : Option (List UInt8)) (maxSize : ℕ) (crcCheck : Bool) :
    ReturnValue × State σ :=
  (r.setData data maxSize).2.parseData crcCheck

end State

end PusTmReader

/-! ### What parsing accepts -/

namespace PusTcReader

theorem headerLen_lt_getFullPacketLen (header : List UInt8) :
  headerLen < getFullPacketLen header
  := by
  rw [getFullPacketLen]
  omega

theorem getFullPacketLen_le (header : List UInt8) :
  getFullPacketLen header ≤ 65542
  := by
  have hlt := (getPacketDataLen header).toNat_lt
  rw [getFullPacketLen, headerLen]
  omega

@[simp]
theorem toNat_fullPacketLen (header : List UInt8) :
  (fullPacketLen header).toNat = getFullPacketLen header
  := by
  have hle := getFullPacketLen_le header
  rw [fullPacketLen, UInt64.toNat_ofNat']
  omega

/-- The packet lies in the bytes, and its checksum is right where it is looked at. -/
def Accepts (packet : List UInt8) (maxSize : ℕ) (withCrc : Bool) : Prop :=
  getFullPacketLen packet ≤ maxSize ∧ (withCrc = true → checksum packet = 0)

end PusTcReader

namespace SpacePacketReader.State

open PusTcReader

theorem checkSize_redirect (r : State) {packet : List UInt8} {maxSize : ℕ} :
  (r.redirect (some packet) maxSize).checkSize = .ok ↔ getFullPacketLen packet ≤ maxSize
  := by
  simp [checkSize, redirect]

theorem setInternalFields_of_le (r : State) {packet : List UInt8} {maxSize : ℕ}
    (hle : getFullPacketLen packet ≤ maxSize) :
  r.setInternalFields (some packet) maxSize = (.ok, r.redirect (some packet) maxSize)
  := by
  have hlt := headerLen_lt_getFullPacketLen packet
  rw [setInternalFields, if_neg (by omega), r.checkSize_redirect.mpr hle]

/-- After the reader has been pointed to bytes, a positive check of the size is about them. -/
theorem of_checkSize_setInternalFields {r : State} {data : Option (List UInt8)} {maxSize : ℕ}
    (h : (r.setInternalFields data maxSize).2.checkSize = .ok) :
  ∃ packet, data = some packet ∧ getFullPacketLen packet ≤ maxSize
  := by
  rw [setInternalFields] at h
  split at h
  · rename_i hshort
    -- The header may be that of an earlier packet: it asks for more bytes than there are.
    rw [checkSize] at h
    split at h
    · rename_i header _
      have hlt := headerLen_lt_getFullPacketLen header
      rw [if_pos (by simp only; omega)] at h
      cases h
    · cases h
  · cases data with
    | none => cases h
    | some packet => use packet, rfl, r.checkSize_redirect.mp h

end SpacePacketReader.State

namespace PusTcReader.State

/-- The reader that is pointed to a packet. -/
theorem setData_of_le (r : State) {packet : List UInt8} {maxSize : ℕ}
    (hle : getFullPacketLen packet ≤ maxSize) :
  r.setData (some packet) maxSize
    = (.ok, { r with
        spReader := r.spReader.redirect (some packet) maxSize
        pointers.spHeaderStart := some packet })
  := by
  rw [setData, r.spReader.setInternalFields_of_le hle]

/-- Only a packet within the size is parsed. -/
theorem of_read_eq_ok {r r' : State} {data : Option (List UInt8)} {maxSize : ℕ} {withCrc : Bool}
    (h : r.read data maxSize withCrc = (.ok, r')) :
  ∃ packet, data = some packet ∧ getFullPacketLen packet ≤ maxSize
  := by
  rw [read, parseData] at h
  split at h
  · split at h
    · rename_i hcheck
      apply absurd (congrArg Prod.fst h) hcheck
    · rename_i hcheck
      apply SpacePacketReader.State.of_checkSize_setInternalFields (not_not.mp hcheck)
  · cases h

/-- Parsing a packet within the size. -/
theorem read_of_le (r : State) {packet : List UInt8} {maxSize : ℕ} (withCrc : Bool)
    (hle : getFullPacketLen packet ≤ maxSize) :
  r.read (some packet) maxSize withCrc
    = (if withCrc = true ∧ checksum packet ≠ 0 then PusIF.invalidCrc16 else .ok,
        (r.setData (some packet) maxSize).2.locate packet packet)
  := by
  have hcheck := r.spReader.checkSize_redirect.mpr hle
  rw [read, r.setData_of_le hle, parseData]
  change (if (r.spReader.redirect (some packet) maxSize).checkSize ≠ .ok then _ else _) = _
  rw [if_neg (by rw [hcheck]; simp)]
  split <;> rfl

end PusTcReader.State

namespace PusTmReader.State

open PusTcReader

variable {σ : Type*}

/-- The reader that is pointed to a packet. -/
theorem setData_of_le (r : State σ) {packet : List UInt8} {maxSize : ℕ}
    (hle : getFullPacketLen packet ≤ maxSize) :
  r.setData (some packet) maxSize
    = (.ok, { r with
        spReader := r.spReader.redirect (some packet) maxSize
        pointers.spHeaderStart := some packet })
  := by
  rw [setData, r.spReader.setInternalFields_of_le hle]

/-- Only a packet within the size is parsed, and only with a reader of time stamps. -/
theorem of_read_eq_ok {r r' : State σ} {data : Option (List UInt8)} {maxSize : ℕ}
    {crcCheck : Bool} (h : r.read data maxSize crcCheck = (.ok, r')) :
  ∃ packet timeReader, data = some packet ∧ r.timeReader = some timeReader
    ∧ getFullPacketLen packet ≤ maxSize
  := by
  rw [read, parseData] at h
  split at h
  · rename_i start header timeReader _ _ htimeReader
    split at h
    · rename_i hcheck
      apply absurd (congrArg Prod.fst h) hcheck
    · rename_i hcheck
      obtain ⟨packet, hpacket, hle⟩ :=
        SpacePacketReader.State.of_checkSize_setInternalFields (not_not.mp hcheck)
      use packet, timeReader, hpacket, htimeReader, hle
  · cases h

/-- The reader that is about to look for the source data of a packet. -/
def atSourceData (r : State σ) (packet : List UInt8) (maxSize : ℕ) (time : σ) : State σ :=
  { r with
    spReader := r.spReader.redirect (some packet) maxSize
    pointers.spHeaderStart := some packet
    pointers.secHeaderStart := some ⟨packet, headerLen⟩
    time }

@[simp]
theorem header_atSourceData (r : State σ) (packet : List UInt8) (maxSize : ℕ) (time : σ) :
  (r.atSourceData packet maxSize time).header = packet
  := rfl

@[simp]
theorem bufSize_atSourceData (r : State σ) (packet : List UInt8) (maxSize : ℕ) (time : σ) :
  (r.atSourceData packet maxSize time).spReader.bufSize = maxSize
  := rfl

@[simp]
theorem time_locate (r : State σ) (start header : List UInt8) (timestampLen : UInt64) :
  (r.locate start header timestampLen).time = r.time
  := rfl

@[simp]
theorem time_atSourceData (r : State σ) (packet : List UInt8) (maxSize : ℕ) (time : σ) :
  (r.atSourceData packet maxSize time).time = time
  := rfl

/-- Parsing a packet within the size: first the time stamp is read. -/
theorem read_of_le (r : State σ) {packet : List UInt8} {timeReader : TimeReaderIF σ}
    {maxSize : ℕ} (crcCheck : Bool) (htimeReader : r.timeReader = some timeReader)
    (hle : getFullPacketLen packet ≤ maxSize) {result : ReturnValue} {time : σ}
    (htime : timeReader.readTimeStamp (packet.drop 13) (fullPacketLen packet - 13) r.time
      = (result, time)) :
  r.read (some packet) maxSize crcCheck
    = if result = .ok then
        (r.atSourceData packet maxSize time).parseSourceData crcCheck packet packet
          (timeReader.getTimestampSize time)
      else
        (result, r.atSourceData packet maxSize time)
  := by
  have hcheck := r.spReader.checkSize_redirect.mpr hle
  obtain ⟨spReader, pointers, sourceDataLen, _, _⟩ := r
  cases htimeReader
  rw [read, setData_of_le _ hle, parseData]
  change (if (spReader.redirect (some packet) maxSize).checkSize ≠ .ok then _ else _) = _
  rw [if_neg (by rw [hcheck]; simp), htime]
  cases result <;> rfl

end PusTmReader.State

/-! ### What parsing exposes -/

namespace PusReaders

open PusTcReader

/-- The packet lies within the size.  The user data begin right behind the headers and end in front
of the checksum, which is the last two bytes of the packet. -/
structure Exposes (packet : List UInt8) (maxSize headers : ℕ) (pointers : PusPointers)
    (length : UInt64) : Prop where
  fits : getFullPacketLen packet ≤ maxSize
  starts : ∀ p ∈ pointers.userDataStart, p = ⟨packet, headers⟩
  ends : headers + length.toNat + 2 ≤ getFullPacketLen packet
  crc : pointers.crcStart = some ⟨packet, getFullPacketLen packet - 2⟩

end PusReaders

namespace PusTcReader.State

/-- Whenever parsing succeeds, the user data lie in the packet. -/
def ExposesOnly (r : State) (data : Option (List UInt8)) (maxSize : ℕ) (withCrc : Bool) : Prop :=
  ∀ r', r.read data maxSize withCrc = (.ok, r') →
    ∃ packet, data = some packet
      ∧ PusReaders.Exposes packet maxSize 11 r'.pointers r'.appDataSize

/-- A packet that is accepted has room for the headers and the checksum. -/
def HasRoom (data : Option (List UInt8)) (maxSize : ℕ) (withCrc : Bool) : Prop :=
  ∀ packet, data = some packet → Accepts packet maxSize withCrc → 13 ≤ getFullPacketLen packet

theorem read_eq_ok_iff {r r' : State} {packet : List UInt8} {maxSize : ℕ} {withCrc : Bool} :
  r.read (some packet) maxSize withCrc = (.ok, r')
    ↔ Accepts packet maxSize withCrc
      ∧ r' = (r.setData (some packet) maxSize).2.locate packet packet
  := by
  constructor
  · intro h
    obtain ⟨_, ⟨⟩, hle⟩ := of_read_eq_ok h
    rw [r.read_of_le withCrc hle] at h
    split at h
    · cases h
    · rename_i hcrc
      cases h
      use ⟨hle, by simpa using hcrc⟩
  · rintro ⟨⟨hle, hcrc⟩, rfl⟩
    rw [r.read_of_le withCrc hle, if_neg (by simpa using hcrc)]

theorem header_setData (r : State) {packet : List UInt8} {maxSize : ℕ}
    (hle : getFullPacketLen packet ≤ maxSize) :
  (r.setData (some packet) maxSize).2.header = packet
  := by
  rw [r.setData_of_le hle]
  rfl

/-- The number of bytes of user data is computed without an overflow. -/
theorem toNat_userDataLen {packet : List UInt8} (hroom : 13 ≤ getFullPacketLen packet) :
  (fullPacketLen packet - 11 - 2).toNat = getFullPacketLen packet - 13
  := by
  have hmax := getFullPacketLen_le packet
  simp only [UInt64.toNat_sub, toNat_fullPacketLen, UInt64.reduceToNat]
  omega

/-- What is found in a packet with room for the headers and the checksum. -/
theorem exposes_locate (r : State) {packet : List UInt8} {maxSize : ℕ}
    (hle : getFullPacketLen packet ≤ maxSize) (hroom : 13 ≤ getFullPacketLen packet) :
  PusReaders.Exposes packet maxSize 11 (r.locate packet packet).pointers
    (r.locate packet packet).appDataSize
  := by
  have hmax := getFullPacketLen_le packet
  have hsize := toNat_userDataLen hroom
  constructor
  · exact hle
  · intro p hp
    simp only [locate] at hp
    split at hp
    · cases hp
      rfl
    · cases hp
  · simp only [locate]
    omega
  · simp only [locate, UInt64.toNat_add, hsize, UInt64.reduceToNat]
    congr
    omega

/-- The user data that are found in a packet. -/
theorem getUserData_locate (r : State) {packet : List UInt8}
    (hroom : 13 ≤ getFullPacketLen packet) :
  (r.locate packet packet).getUserData = (packet.drop 11).take (getFullPacketLen packet - 13)
  := by
  have hsize := toNat_userDataLen hroom
  simp only [getUserData, locate, PusPointers.userData]
  split
  · rename_i start hstart
    split at hstart
    · cases hstart
      rw [hsize]
    · cases hstart
  · rename_i hnone
    split at hnone
    · cases hnone
    · rename_i hzero
      rw [UInt64.lt_iff_toNat_lt, hsize] at hzero
      have hempty : getFullPacketLen packet - 13 = 0 := Nat.le_zero.mp (not_lt.mp hzero)
      rw [hempty, List.take_zero]

theorem exposesOnly_iff_hasRoom (r : State) (data : Option (List UInt8)) (maxSize : ℕ)
    (withCrc : Bool) :
  r.ExposesOnly data maxSize withCrc ↔ HasRoom data maxSize withCrc
  := by
  constructor
  · rintro h packet rfl haccepts
    obtain ⟨_, ⟨⟩, hexposes⟩ := h _ (read_eq_ok_iff.mpr ⟨haccepts, rfl⟩)
    have hends := hexposes.ends
    omega
  · intro h r' hread
    obtain ⟨packet, rfl, -⟩ := of_read_eq_ok hread
    obtain ⟨haccepts, rfl⟩ := read_eq_ok_iff.mp hread
    use packet, rfl
    apply exposes_locate _ haccepts.1 (h packet rfl haccepts)

end PusTcReader.State

namespace PusTmReader.State

open PusTcReader

variable {σ : Type*}

/-- Whenever parsing succeeds, the source data lie in the packet, behind the time stamp. -/
def ExposesOnly (r : State σ) (data : Option (List UInt8)) (maxSize : ℕ) (crcCheck : Bool) :
    Prop :=
  ∀ r', r.read data maxSize crcCheck = (.ok, r') →
    ∃ packet timeReader, data = some packet ∧ r.timeReader = some timeReader
      ∧ PusReaders.Exposes packet maxSize (13 + (timeReader.getTimestampSize r'.time).toNat)
          r'.pointers r'.sourceDataLen

/-- The reader of time stamps reads the time stamp of the packet, which is not longer than the
size allows. -/
def ReadsTime (r : State σ) (timeReader : TimeReaderIF σ) (packet : List UInt8) (maxSize : ℕ)
    (time : σ) : Prop :=
  r.timeReader = some timeReader
    ∧ timeReader.readTimeStamp (packet.drop 13) (fullPacketLen packet - 13) r.time = (.ok, time)
    ∧ (13 + timeReader.getTimestampSize time).toNat ≤ maxSize

/-- A packet that is accepted has room for the headers, the time stamp and the checksum. -/
def HasRoom (r : State σ) (data : Option (List UInt8)) (maxSize : ℕ) (crcCheck : Bool) : Prop :=
  ∀ packet timeReader time, data = some packet → Accepts packet maxSize crcCheck →
    r.ReadsTime timeReader packet maxSize time →
      15 + (timeReader.getTimestampSize time).toNat ≤ getFullPacketLen packet

theorem read_eq_ok_iff {r r' : State σ} {packet : List UInt8} {maxSize : ℕ} {crcCheck : Bool} :
  r.read (some packet) maxSize crcCheck = (.ok, r')
    ↔ Accepts packet maxSize crcCheck
      ∧ ∃ timeReader time, r.ReadsTime timeReader packet maxSize time
        ∧ r' = (r.atSourceData packet maxSize time).locate packet packet
            (timeReader.getTimestampSize time)
  := by
  constructor
  · intro h
    obtain ⟨_, timeReader, ⟨⟩, htimeReader, hle⟩ := of_read_eq_ok h
    obtain ⟨⟨result, time⟩, htime⟩ :
        ∃ read, timeReader.readTimeStamp (packet.drop 13) (fullPacketLen packet - 13) r.time = read :=
      ⟨_, rfl⟩
    rw [r.read_of_le crcCheck htimeReader hle htime] at h
    split at h
    · rename_i hok
      rw [parseSourceData] at h
      split at h
      · cases h
      · rename_i hsize
        split at h
        · cases h
        · rename_i hcrc
          cases h
          use ⟨hle, by simpa using hcrc⟩, timeReader, time,
            ⟨htimeReader, hok ▸ htime, Nat.le_of_not_lt hsize⟩
    · rename_i hfail
      cases h
      cases hfail rfl
  · rintro ⟨⟨hle, hcrc⟩, timeReader, time, ⟨htimeReader, htime, hsize⟩, rfl⟩
    rw [r.read_of_le crcCheck htimeReader hle htime, if_pos rfl, parseSourceData,
      bufSize_atSourceData, if_neg (not_lt.mpr hsize), if_neg (by simpa using hcrc)]

/-- Where the source data begin, and how many bytes they have, is computed without an overflow. -/
theorem toNat_sourceData {packet : List UInt8} {timestampLen : UInt64}
    (hroom : 15 + timestampLen.toNat ≤ getFullPacketLen packet) :
  (13 + timestampLen).toNat = 13 + timestampLen.toNat ∧
    (fullPacketLen packet - (13 + timestampLen) - 2).toNat
      = getFullPacketLen packet - (15 + timestampLen.toNat)
  := by
  have hmax := getFullPacketLen_le packet
  have hheaders : (13 + timestampLen).toNat = 13 + timestampLen.toNat := by
    simp only [UInt64.toNat_add, UInt64.reduceToNat]
    omega
  constructor
  · apply hheaders
  · simp only [UInt64.toNat_sub, hheaders, toNat_fullPacketLen, UInt64.reduceToNat]
    omega

/-- What is found in a packet with room for the headers, the time stamp and the checksum. -/
theorem exposes_locate (r : State σ) {packet : List UInt8} {maxSize : ℕ} {timestampLen : UInt64}
    (hle : getFullPacketLen packet ≤ maxSize)
    (hroom : 15 + timestampLen.toNat ≤ getFullPacketLen packet) :
  PusReaders.Exposes packet maxSize (13 + timestampLen.toNat)
    (r.locate packet packet timestampLen).pointers
    (r.locate packet packet timestampLen).sourceDataLen
  := by
  have hmax := getFullPacketLen_le packet
  obtain ⟨hheaders, hsize⟩ := toNat_sourceData hroom
  constructor
  · exact hle
  · intro p hp
    simp only [locate, hheaders] at hp
    split at hp
    · cases hp
      rfl
    · cases hp
  · simp only [locate]
    omega
  · simp only [locate]
    rw [UInt64.toNat_add, hsize, hheaders]
    congr
    omega

/-- The source data that are found in a packet. -/
theorem getUserData_locate (r : State σ) {packet : List UInt8} {timestampLen : UInt64}
    (hroom : 15 + timestampLen.toNat ≤ getFullPacketLen packet) :
  (r.locate packet packet timestampLen).getUserData
    = (packet.drop (13 + timestampLen.toNat)).take
        (getFullPacketLen packet - (15 + timestampLen.toNat))
  := by
  obtain ⟨hheaders, hsize⟩ := toNat_sourceData hroom
  simp only [getUserData, locate, PusPointers.userData]
  split
  · rename_i start hstart
    split at hstart
    · cases hstart
      rw [hsize, hheaders]
    · cases hstart
  · rename_i hnone
    split at hnone
    · cases hnone
    · rename_i hzero
      rw [UInt64.lt_iff_toNat_lt, hsize] at hzero
      have hempty : getFullPacketLen packet - (15 + timestampLen.toNat) = 0 :=
        Nat.le_zero.mp (not_lt.mp hzero)
      rw [hempty, List.take_zero]

theorem exposesOnly_iff_hasRoom (r : State σ) (data : Option (List UInt8)) (maxSize : ℕ)
    (crcCheck : Bool) :
  r.ExposesOnly data maxSize crcCheck ↔ r.HasRoom data maxSize crcCheck
  := by
  constructor
  · rintro h packet timeReader time rfl haccepts hreads
    obtain ⟨_, timeReader', ⟨⟩, htimeReader, hexposes⟩ :=
      h _ (read_eq_ok_iff.mpr ⟨haccepts, timeReader, time, hreads, rfl⟩)
    cases hreads.1.symm.trans htimeReader
    have hends := hexposes.ends
    rw [time_locate, time_atSourceData] at hends
    omega
  · intro h r' hread
    obtain ⟨packet, -, rfl, -, -⟩ := of_read_eq_ok hread
    obtain ⟨haccepts, timeReader, time, hreads, rfl⟩ := read_eq_ok_iff.mp hread
    use packet, timeReader, rfl, hreads.1
    apply exposes_locate _ haccepts.1 (h packet timeReader time rfl haccepts hreads)

end PusTmReader.State

namespace PusReaders

/-- The readers of both kinds expose bytes of the packet only, exactly when the packets that they
accept have room for what they take away from the length. -/
theorem exposesOnly_iff {σ : Type*} (tc : PusTcReader.State) (tm : PusTmReader.State σ)
    (data : Option (List UInt8)) (maxSize : ℕ) (withCrc : Bool) :
  (tc.ExposesOnly data maxSize withCrc ↔ PusTcReader.State.HasRoom data maxSize withCrc)
    ∧ (tm.ExposesOnly data maxSize withCrc ↔ tm.HasRoom data maxSize withCrc)
  := by
  constructor
  · apply tc.exposesOnly_iff_hasRoom
  · apply tm.exposesOnly_iff_hasRoom

/-- A telecommand with a valid checksum right behind the primary header. -/
theorem not_exposesOnly_eight :
  ¬ ∀ (tc : PusTcReader.State) (tm : PusTmReader.State Unit) (data : Option (List UInt8))
      (maxSize : ℕ) (withCrc : Bool),
    tc.ExposesOnly data maxSize withCrc ∧ tm.ExposesOnly data maxSize withCrc
  := by
  intro h
  have hroom := (PusTcReader.State.exposesOnly_iff_hasRoom _ _ _ _).mp
    (h {} ⟨{}, {}, 0, none, ()⟩ (some [0x18, 0x01, 0xC0, 0x00, 0x00, 0x01, 0x10, 0x02]) 8 true).1
  have hlength := hroom _ rfl ⟨by decide, by decide +kernel⟩
  revert hlength
  decide

end PusReaders
