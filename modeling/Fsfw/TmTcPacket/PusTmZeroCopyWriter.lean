import Fsfw.Library.Run
import Fsfw.TmTcPacket.PusReaders
import Fsfw.TmTcPacket.SpacePacket

/-!
# Updating telemetry packets

A writer is a reader of telemetry packets that also sets the sequence count of a packet and its
checksum, where the packet lies.

The upper six bits of a sequence count share a byte with the sequence flags.  They are added to the
bits that are set there, so that a bit once set is never cleared.  Updating a packet with one count
after another leaves the last one, and a packet that is the same but for its count and its checksum,
exactly when no count that was set before has an upper bit that the last one has not
(`PusTmZeroCopyWriter.updatesTo_iff`).
-/

namespace Ccsds

/-- The upper six bits of a sequence count.
-/
def upperCount (seqCount : UInt16) : UInt8 :=
  ((seqCount >>> 8) &&& 0x3F).toUInt8

def lowerCount (seqCount : UInt16) : UInt8 :=
  (seqCount &&& 0xFF).toUInt8

def setSequenceCount (header : List UInt8) (seqCount : UInt16) : List UInt8 :=
  (header.set 2 (header.getD 2 0 ||| upperCount seqCount)).set 3 (lowerCount seqCount)

end Ccsds

namespace PusTmZeroCopyWriter

open PusTcReader SpacePacketReader Ccsds

variable {σ : Type}

abbrev State (σ : Type) := PusTmReader.State σ

namespace State

def isNull (w : State σ) : Bool :=
  w.spReader.spHeader.isNone || w.pointers.secHeaderStart.isNone

/-- The bytes of the packet are others, which all pointers to it see. -/
def rewrite (w : State σ) (packet : List UInt8) : State σ :=
  let move (p : BytePointer) : BytePointer := { p with memory := packet }
  { w with
    spReader :=
      { w.spReader with
        spHeader := w.spReader.spHeader.map fun _ => packet
        packetDataField := w.spReader.packetDataField.map fun _ => packet.drop headerLen }
    pointers :=
      { spHeaderStart := w.pointers.spHeaderStart.map fun _ => packet
        secHeaderStart := w.pointers.secHeaderStart.map move
        userDataStart := w.pointers.userDataStart.map move
        crcStart := w.pointers.crcStart.map move } }

/-- Writing to a pointer that has not been set is undefined. -/
def setSequenceCount (w : State σ) (seqCount : UInt16) : Option (State σ) :=
  if w.isNull then
    some w
  else do
    let spHeader ← w.pointers.spHeaderStart
    return w.rewrite (Ccsds.setSequenceCount spHeader seqCount)

def updateErrorControl (w : State σ) : Option (State σ) :=
  if w.isNull then
    some w
  else do
    let crcStart ← w.pointers.crcStart
    let crc16 := CRC.crc16ccitt (w.header.take (getFullPacketLen w.header - 2))
    return w.rewrite
      ((crcStart.memory.set crcStart.offset ((crc16 >>> 8) &&& 0xff).toUInt8).set
        (crcStart.offset + 1) (crc16 &&& 0xff).toUInt8)

end State

/-- Set the sequence count, and then the checksum. -/
def update : Step (State σ) UInt16 Unit :=
  fun w seqCount => do
    let w ← w.setSequenceCount seqCount
    let w ← w.updateErrorControl
    return (w, ())

/-! ### The bytes of a packet -/

/-- The bytes of a packet after it has been updated. -/
def updated (packet : List UInt8) (seqCount : UInt16) : List UInt8 :=
  let counted := Ccsds.setSequenceCount packet seqCount
  let crcStart := getFullPacketLen packet - 2
  let crc16 := CRC.crc16ccitt (counted.take crcStart)
  (counted.set crcStart ((crc16 >>> 8) &&& 0xff).toUInt8).set (crcStart + 1)
    (crc16 &&& 0xff).toUInt8

section Bytes

variable {packet : List UInt8} {seqCount : UInt16}

theorem getElem?_setSequenceCount {i : ℕ} (h : i ≠ 2) (h' : i ≠ 3) :
  (Ccsds.setSequenceCount packet seqCount)[i]? = packet[i]?
  := by
  rw [Ccsds.setSequenceCount, List.getElem?_set_ne h'.symm, List.getElem?_set_ne h.symm]

theorem getFullPacketLen_congr {packet' : List UInt8} (h : packet'[4]? = packet[4]?)
    (h' : packet'[5]? = packet[5]?) :
  getFullPacketLen packet' = getFullPacketLen packet
  := by
  simp only [getFullPacketLen, getPacketDataLen, readUInt16, List.getD_eq_getElem?_getD, h, h']

@[simp]
theorem length_updated :
  (updated packet seqCount).length = packet.length
  := by
  simp [updated, Ccsds.setSequenceCount]

/-- Only the count and the checksum change. -/
theorem getElem?_updated {i : ℕ} (h : i ≠ 2) (h' : i ≠ 3) (hhigh : i ≠ getFullPacketLen packet - 2)
    (hlow : i ≠ getFullPacketLen packet - 1) (hlen : 2 ≤ getFullPacketLen packet) :
  (updated packet seqCount)[i]? = packet[i]?
  := by
  simp only [updated]
  rw [List.getElem?_set_ne (by omega), List.getElem?_set_ne hhigh.symm,
    getElem?_setSequenceCount h h']

/-- There is room for the headers and the checksum, and the packet lies in its buffer. -/
structure Roomy (packet : List UInt8) : Prop where
  room : 15 ≤ getFullPacketLen packet
  fits : getFullPacketLen packet ≤ packet.length

theorem getFullPacketLen_updated (h : Roomy packet) :
  getFullPacketLen (updated packet seqCount) = getFullPacketLen packet
  := by
  have hroom := h.room
  apply getFullPacketLen_congr
  · apply getElem?_updated <;> omega
  · apply getElem?_updated <;> omega

theorem Roomy.updated (h : Roomy packet) :
  Roomy (updated packet seqCount)
  where
  room := by
    rw [getFullPacketLen_updated h]
    apply h.room
  fits := by
    rw [getFullPacketLen_updated h, length_updated]
    apply h.fits

theorem getD_two_updated (h : Roomy packet) :
  (PusTmZeroCopyWriter.updated packet seqCount).getD 2 0 = packet.getD 2 0 ||| upperCount seqCount
  := by
  obtain ⟨hroom, hfits⟩ := h
  have hlen : 2 < packet.length := by omega
  simp only [PusTmZeroCopyWriter.updated, List.getD_eq_getElem?_getD]
  rw [List.getElem?_set_ne (by omega), List.getElem?_set_ne (by omega), Ccsds.setSequenceCount,
    List.getElem?_set_ne (by omega), List.getElem?_set_self hlen]
  simp

theorem getD_three_updated (h : Roomy packet) :
  (PusTmZeroCopyWriter.updated packet seqCount).getD 3 0 = lowerCount seqCount
  := by
  obtain ⟨hroom, hfits⟩ := h
  simp only [PusTmZeroCopyWriter.updated, List.getD_eq_getElem?_getD]
  rw [List.getElem?_set_ne (by omega), List.getElem?_set_ne (by omega), Ccsds.setSequenceCount,
    List.getElem?_set_self (by rw [List.length_set]; omega)]
  rfl

/-- Bytes that are set behind the beginning of a string. -/
theorem take_set_set {bytes : List UInt8} {k : ℕ} (h : k + 1 < bytes.length) (a b : UInt8) :
  ((bytes.set k a).set (k + 1) b).take (k + 2) = bytes.take k ++ [a, b]
  := by
  rw [List.take_add_one, List.take_add_one]
  simp [List.take_set_of_le, h, Nat.lt_of_succ_lt h]

theorem toUInt8_shiftRight (crc16 : UInt16) :
  ((crc16 >>> 8) &&& 0xff).toUInt8 = CRC.highByte crc16
  := by
  apply UInt8.toNat_inj.mp
  have hlt := crc16.toNat_lt
  rw [CRC.toNat_highByte, UInt16.toNat_toUInt8, UInt16.toNat_and, UInt16.toNat_shiftRight]
  simp only [UInt16.reduceToNat, Nat.reduceMod]
  rw [Nat.and_two_pow_sub_one_eq_mod _ 8, Nat.shiftRight_eq_div_pow]
  omega

theorem checksum_updated (h : Roomy packet) :
  checksum (PusTmZeroCopyWriter.updated packet seqCount) = 0
  := by
  have hlen : getFullPacketLen (updated packet seqCount) = getFullPacketLen packet :=
    getFullPacketLen_updated h
  obtain ⟨hroom, hfits⟩ := h
  obtain ⟨k, hk⟩ : ∃ k, getFullPacketLen packet = k + 2 := ⟨getFullPacketLen packet - 2, by omega⟩
  rw [checksum, hlen, PusTmZeroCopyWriter.updated, hk, Nat.add_sub_cancel,
    take_set_set (by simp [Ccsds.setSequenceCount]; omega), toUInt8_shiftRight]
  apply CRC.crc16ccitt_append_crc

/-! ### Counts -/

theorem toNat_upperCount (seqCount : UInt16) :
  (upperCount seqCount).toNat = seqCount.toNat / 256 % 64
  := by
  rw [upperCount, UInt16.toNat_toUInt8, UInt16.toNat_and, UInt16.toNat_shiftRight]
  simp only [UInt16.reduceToNat, Nat.reduceMod]
  rw [Nat.and_two_pow_sub_one_eq_mod _ 6, Nat.shiftRight_eq_div_pow]
  omega

theorem toNat_lowerCount (seqCount : UInt16) :
  (lowerCount seqCount).toNat = seqCount.toNat % 256
  := by
  rw [lowerCount, UInt16.toNat_toUInt8, UInt16.toNat_and]
  simp only [UInt16.reduceToNat]
  rw [Nat.and_two_pow_sub_one_eq_mod _ 8]
  omega

theorem toNat_getSequenceCount (packet : List UInt8) :
  (getSequenceCount packet).toNat = (packet.getD 2 0).toNat % 64 * 256 + (packet.getD 3 0).toNat
  := by
  have hlt := (packet.getD 3 0).toNat_lt
  rw [getSequenceCount, getPacketSeqCtrlRaw, readUInt16, UInt16.toNat_and, UInt16.toNat_twoBytes]
  simp only [UInt16.reduceToNat, Nat.reduceAdd]
  rw [Nat.and_two_pow_sub_one_eq_mod _ 14]
  omega

theorem upperCount_getSequenceCount (packet : List UInt8) :
  upperCount (getSequenceCount packet) = packet.getD 2 0 &&& 0x3F
  := by
  have hlt := (packet.getD 3 0).toNat_lt
  apply UInt8.toNat_inj.mp
  rw [toNat_upperCount, toNat_getSequenceCount, UInt8.toNat_and]
  simp only [UInt8.reduceToNat]
  rw [Nat.and_two_pow_sub_one_eq_mod _ 6]
  omega

/-- A count is in two bytes. -/
theorem getSequenceCount_eq_iff (hcount : seqCount.toNat < 2 ^ 14) :
  getSequenceCount packet = seqCount ↔
    packet.getD 2 0 &&& 0x3F = upperCount seqCount ∧ packet.getD 3 0 = lowerCount seqCount
  := by
  have hlt := (packet.getD 3 0).toNat_lt
  rw [← upperCount_getSequenceCount, ← UInt16.toNat_inj, ← UInt8.toNat_inj, ← UInt8.toNat_inj,
    toNat_upperCount, toNat_upperCount, toNat_lowerCount, toNat_getSequenceCount]
  omega

theorem upperCount_and (seqCount : UInt16) :
  upperCount seqCount &&& 0x3F = upperCount seqCount
  := by
  apply UInt8.toNat_inj.mp
  rw [UInt8.toNat_and, toNat_upperCount]
  simp only [UInt8.reduceToNat]
  rw [Nat.and_two_pow_sub_one_eq_mod _ 6, Nat.mod_mod]

/-- The flags are the upper bits of the byte that has the upper bits of the count. -/
theorem getSequenceFlags_eq (packet : List UInt8) :
  getSequenceFlags packet = .ofBits (packet.getD 2 0 >>> 6).toUInt16
  := by
  have hbits : (getPacketSeqCtrlRaw packet >>> 14) &&& (0b11 : UInt16)
      = (packet.getD 2 0 >>> 6).toUInt16 := by
    have hlt := (packet.getD 3 0).toNat_lt
    have hlt' := (packet.getD 2 0).toNat_lt
    apply UInt16.toNat_inj.mp
    rw [getPacketSeqCtrlRaw, readUInt16, UInt16.toNat_and, UInt16.toNat_shiftRight,
      UInt16.toNat_twoBytes, UInt8.toNat_toUInt16, UInt8.toNat_shiftRight]
    simp only [UInt16.reduceToNat, UInt8.reduceToNat, Nat.reduceMod, Nat.reduceAdd]
    rw [Nat.and_two_pow_sub_one_eq_mod _ 2, Nat.shiftRight_eq_div_pow, Nat.shiftRight_eq_div_pow]
    omega
  rw [getSequenceFlags, hbits]

theorem upperCount_shiftRight (seqCount : UInt16) :
  upperCount seqCount >>> 6 = 0
  := by
  apply UInt8.toNat_inj.mp
  rw [UInt8.toNat_shiftRight, toNat_upperCount]
  simp only [UInt8.reduceToNat, Nat.reduceMod, Nat.shiftRight_eq_div_pow]
  omega

theorem getSequenceFlags_updated (h : Roomy packet) :
  getSequenceFlags (updated packet seqCount) = getSequenceFlags packet
  := by
  rw [getSequenceFlags_eq, getSequenceFlags_eq, getD_two_updated h, UInt8.shiftRight_or,
    upperCount_shiftRight, UInt8.or_zero]

theorem or_and (a b c : UInt8) :
  (a ||| b) &&& c = (a &&& c) ||| (b &&& c)
  := by
  apply UInt8.toNat_inj.mp
  simp only [UInt8.toNat_and, UInt8.toNat_or, Nat.and_or_distrib_right]

/-- The upper bits of the count that is found afterwards are those of both counts. -/
theorem upperCount_updated (h : Roomy packet) :
  upperCount (getSequenceCount (updated packet seqCount))
    = upperCount (getSequenceCount packet) ||| upperCount seqCount
  := by
  rw [upperCount_getSequenceCount, upperCount_getSequenceCount, getD_two_updated h,
    or_and, upperCount_and]

theorem or_absorbed_iff {a b c : UInt8} :
  a ||| b ||| c = c ↔ a ||| c = c ∧ b ||| c = c
  := by
  constructor
  · intro h
    constructor
    · calc
        a ||| c = a ||| (a ||| b ||| c) := by rw [h]
        _ = a ||| b ||| c := by rw [← UInt8.or_assoc, ← UInt8.or_assoc, UInt8.or_self]
        _ = c := h
    · calc
        b ||| c = b ||| (b ||| a ||| c) := by rw [UInt8.or_comm b a, h]
        _ = b ||| a ||| c := by rw [← UInt8.or_assoc, ← UInt8.or_assoc, UInt8.or_self]
        _ = c := by rw [UInt8.or_comm b a, h]
  · rintro ⟨ha, hb⟩
    rw [UInt8.or_assoc, hb, ha]

/-- The count that is found afterwards is the one that was set, exactly when the count before has no
other upper bits. -/
theorem getSequenceCount_updated_iff (h : Roomy packet) (hcount : seqCount.toNat < 2 ^ 14) :
  getSequenceCount (updated packet seqCount) = seqCount
    ↔ upperCount (getSequenceCount packet) ||| upperCount seqCount = upperCount seqCount
  := by
  rw [getSequenceCount_eq_iff hcount, ← upperCount_getSequenceCount, upperCount_updated h,
    getD_three_updated h, and_iff_left rfl]

end Bytes

/-! ### Sequences of counts -/

/-- The packet is the same but for its count and its checksum. -/
structure Keeps (packet packet' : List UInt8) : Prop where
  roomy : Roomy packet'
  fullPacketLen : getFullPacketLen packet' = getFullPacketLen packet
  length : packet'.length = packet.length
  flags : getSequenceFlags packet' = getSequenceFlags packet
  bytes (i : ℕ) (h : i ≠ 2) (h' : i ≠ 3) (hhigh : i ≠ getFullPacketLen packet - 2)
    (hlow : i ≠ getFullPacketLen packet - 1) : packet'[i]? = packet[i]?

theorem Keeps.refl {packet : List UInt8} (h : Roomy packet) :
  Keeps packet packet
  where
  roomy := h
  fullPacketLen := rfl
  length := rfl
  flags := rfl
  bytes _ _ _ _ _ := rfl

theorem Keeps.updated {packet packet' : List UInt8} (h : Keeps packet packet')
    (seqCount : UInt16) :
  Keeps packet (PusTmZeroCopyWriter.updated packet' seqCount)
  := by
  have hlen := h.fullPacketLen
  have hroom := h.roomy.room
  constructor
  · apply h.roomy.updated
  · rw [getFullPacketLen_updated h.roomy, hlen]
  · rw [length_updated, h.length]
  · rw [getSequenceFlags_updated h.roomy, h.flags]
  · intro i h₂ h₃ hhigh hlow
    rw [getElem?_updated h₂ h₃ (by omega) (by omega) (by omega), h.bytes i h₂ h₃ hhigh hlow]

theorem Keeps.foldl {packet packet' : List UInt8} (h : Keeps packet packet')
    (seqCounts : List UInt16) :
  Keeps packet (seqCounts.foldl PusTmZeroCopyWriter.updated packet')
  := by
  induction seqCounts generalizing packet' with
  | nil =>
      apply h
  | cons seqCount seqCounts ih =>
      apply ih (h.updated seqCount)

/-- The upper bits of all counts remain. -/
theorem upperCount_foldl_absorbed_iff {packet : List UInt8} (h : Roomy packet)
    (seqCounts : List UInt16) (bits : UInt8) :
  upperCount (getSequenceCount (seqCounts.foldl updated packet)) ||| bits = bits
    ↔ ∀ seqCount ∈ getSequenceCount packet :: seqCounts, upperCount seqCount ||| bits = bits
  := by
  induction seqCounts generalizing packet with
  | nil =>
      simp
  | cons seqCount seqCounts ih =>
      simp only [List.foldl_cons, ih h.updated, List.forall_mem_cons, upperCount_updated h,
        or_absorbed_iff, and_assoc]

/-! ### Runs -/

/-- The packet has the sequence count, and a valid checksum, and is otherwise the same. -/
structure UpdatesTo (packet packet' : List UInt8) (seqCount : UInt16) : Prop where
  keeps : Keeps packet packet'
  count : getSequenceCount packet' = seqCount
  valid : checksum packet' = 0

/-- The pointers of the writer are those into a packet. -/
structure State.Parsed (w : State σ) (packet : List UInt8) : Prop where
  spHeader : w.spReader.spHeader = some packet
  spHeaderStart : w.pointers.spHeaderStart = some packet
  secHeaderStart : w.pointers.secHeaderStart.isSome
  crcStart : w.pointers.crcStart = some ⟨packet, getFullPacketLen packet - 2⟩

namespace State.Parsed

variable {w : State σ} {packet : List UInt8}

theorem isNull (h : w.Parsed packet) :
  w.isNull = false
  := by
  simp [State.isNull, h.spHeader, h.secHeaderStart]

theorem header (h : w.Parsed packet) :
  w.header = packet
  := by
  simp [PusTmReader.State.header, h.spHeader]

theorem rewrite (h : w.Parsed packet) {packet' : List UInt8}
    (hlen : getFullPacketLen packet' = getFullPacketLen packet) :
  (w.rewrite packet').Parsed packet'
  where
  spHeader := by simp [State.rewrite, h.spHeader]
  spHeaderStart := by simp [State.rewrite, h.spHeaderStart]
  secHeaderStart := by simp [State.rewrite, h.secHeaderStart]
  crcStart := by simp [State.rewrite, h.crcStart, hlen]

theorem setSequenceCount (h : w.Parsed packet) (seqCount : UInt16) :
  w.setSequenceCount seqCount = some (w.rewrite (Ccsds.setSequenceCount packet seqCount))
  := by
  rw [State.setSequenceCount, h.isNull, h.spHeaderStart]
  rfl

theorem updateErrorControl (h : w.Parsed packet) :
  w.updateErrorControl
    = (let crcStart := getFullPacketLen packet - 2
      let crc16 := CRC.crc16ccitt (packet.take crcStart)
      some (w.rewrite ((packet.set crcStart ((crc16 >>> 8) &&& 0xff).toUInt8).set (crcStart + 1)
        (crc16 &&& 0xff).toUInt8)))
  := by
  rw [State.updateErrorControl, h.isNull, h.crcStart, h.header]
  rfl

/-- One step. -/
theorem update (h : w.Parsed packet) (hroomy : Roomy packet) (seqCount : UInt16) :
  ∃ w', PusTmZeroCopyWriter.update w seqCount = some (w', ()) ∧ w'.Parsed (updated packet seqCount)
  := by
  have hcounted : getFullPacketLen (Ccsds.setSequenceCount packet seqCount)
      = getFullPacketLen packet := by
    apply getFullPacketLen_congr
    · apply getElem?_setSequenceCount <;> simp
    · apply getElem?_setSequenceCount <;> simp
  have hset := h.rewrite hcounted
  have hlen : getFullPacketLen (updated packet seqCount)
      = getFullPacketLen (Ccsds.setSequenceCount packet seqCount) := by
    rw [getFullPacketLen_updated hroomy, hcounted]
  have hupdated := hset.rewrite hlen
  refine ⟨_, ?_, hupdated⟩
  rw [PusTmZeroCopyWriter.update, h.setSequenceCount, Option.bind_eq_bind, Option.bind_some,
    hset.updateErrorControl, hcounted]
  rfl

/-- The run of all steps. -/
theorem run (h : w.Parsed packet) (hroomy : Roomy packet) (seqCounts : List UInt16) :
  ∃ w' os, Step.run PusTmZeroCopyWriter.update w seqCounts = some (w', os)
    ∧ w'.Parsed (seqCounts.foldl updated packet)
  := by
  induction seqCounts generalizing w packet with
  | nil =>
      use w, [], rfl
      apply h
  | cons seqCount seqCounts ih =>
      obtain ⟨w₁, hstep, h₁⟩ := h.update hroomy seqCount
      obtain ⟨w', os, hrun, h'⟩ := ih h₁ hroomy.updated
      use w', () :: os, Step.run_cons hstep hrun
      apply h'

end State.Parsed

theorem parsed_of_read {r w : State σ} {packet : List UInt8} {maxSize : ℕ} {crcCheck : Bool}
    (hread : r.read (some packet) maxSize crcCheck = (.ok, w)) (hsize : maxSize ≤ packet.length)
    (hroom : r.HasRoom (some packet) maxSize crcCheck) :
  w.Parsed packet ∧ Roomy packet
  := by
  obtain ⟨haccepts, timeReader, time, hreads, rfl⟩ := PusTmReader.State.read_eq_ok_iff.mp hread
  have hlen := hroom packet timeReader time rfl haccepts hreads
  have hcrc := ((r.atSourceData packet maxSize time).exposes_locate haccepts.1 hlen).crc
  constructor
  · constructor
    · rfl
    · rfl
    · rfl
    · apply hcrc
  · constructor
    · omega
    · apply haccepts.1.trans hsize

/-- Setting one count after another and updating the checksum each time leaves the last count in an
otherwise unchanged packet, exactly when the last one has all upper bits of those before. -/
theorem updatesTo_iff {r w : State σ} {packet : List UInt8} {maxSize : ℕ} {crcCheck : Bool}
    (hread : r.read (some packet) maxSize crcCheck = (.ok, w)) (hsize : maxSize ≤ packet.length)
    (hroom : r.HasRoom (some packet) maxSize crcCheck) (seqCounts : List UInt16)
    {seqCount : UInt16} (hcount : seqCount < limitSequenceCount) :
  ∃ w' os, Step.run update w (seqCounts ++ [seqCount]) = some (w', os)
    ∧ (UpdatesTo packet w'.header seqCount
      ↔ ∀ m ∈ getSequenceCount packet :: seqCounts,
          upperCount m ||| upperCount seqCount = upperCount seqCount)
  := by
  obtain ⟨hparsed, hroomy⟩ := parsed_of_read hread hsize hroom
  obtain ⟨w', os, hrun, h'⟩ := hparsed.run hroomy (seqCounts ++ [seqCount])
  use w', os, hrun
  have hkeeps := (Keeps.refl hroomy).foldl seqCounts
  rw [h'.header, List.foldl_append, List.foldl_cons, List.foldl_nil,
    ← upperCount_foldl_absorbed_iff hroomy, ← getSequenceCount_updated_iff hkeeps.roomy hcount]
  constructor
  · intro h
    apply h.count
  · intro h
    use hkeeps.updated seqCount, h, checksum_updated hkeeps.roomy

/-! ### A packet with a count of 256 -/

/-- A reader of time stamps that are empty. -/
def emptyStampReader : TimeReaderIF Unit where
  readTimeStamp := fun _ _ time => (.ok, time)
  getTimestampSize := fun _ => 0

/-- A ping reply without a time stamp and without source data. -/
def reply : List UInt8 :=
  [0x08, 0x01, 0xC1, 0x00, 0x00, 0x08, 0x20, 17, 2, 0, 0, 0, 0, 0x5E, 0x9E]

def unreadWriter : State Unit where
  timeReader := some emptyStampReader
  time := ()

def replyWriter : State Unit :=
  (unreadWriter.read (some reply) 15 true).2

theorem read_reply :
  unreadWriter.read (some reply) 15 true = (.ok, replyWriter)
  := by
  have hcrc : checksum reply = 0 := by decide +kernel
  have haccepts : Accepts reply 15 true := ⟨by decide, fun _ => hcrc⟩
  have hreads : unreadWriter.ReadsTime emptyStampReader reply 15 () := ⟨rfl, rfl, by decide⟩
  rw [replyWriter, PusTmReader.State.read_eq_ok_iff.mpr
    ⟨haccepts, emptyStampReader, (), hreads, rfl⟩]

theorem hasRoom_reply :
  unreadWriter.HasRoom (some reply) 15 true
  := by
  rintro _ _ _ ⟨⟩ _ ⟨⟨⟩, _⟩
  change 15 ≤ getFullPacketLen reply
  decide

theorem updatesTo_iff_reply :
  ∃ w' os, Step.run update replyWriter ([5, 0x0117] ++ [0x0300]) = some (w', os)
    ∧ (UpdatesTo reply w'.header 0x0300
      ↔ ∀ m ∈ getSequenceCount reply :: [5, 0x0117],
          upperCount m ||| upperCount 0x0300 = upperCount 0x0300)
  := updatesTo_iff read_reply (by decide) hasRoom_reply [5, 0x0117] (by decide)

/-- The count 23 becomes 279. -/
theorem not_updatesTo_reply :
  ¬ ∀ (r w : State Unit) (packet : List UInt8) (maxSize : ℕ) (crcCheck : Bool)
      (seqCounts : List UInt16) (seqCount : UInt16),
    r.read (some packet) maxSize crcCheck = (.ok, w) → maxSize ≤ packet.length →
    r.HasRoom (some packet) maxSize crcCheck → seqCount < limitSequenceCount →
    ∃ w' os, Step.run update w (seqCounts ++ [seqCount]) = some (w', os)
      ∧ UpdatesTo packet w'.header seqCount
  := by
  intro h
  obtain ⟨w', os, hrun, hupdates⟩ :=
    h _ _ _ _ _ [] 23 read_reply (by decide) hasRoom_reply (by decide)
  obtain ⟨hparsed, hroomy⟩ := parsed_of_read read_reply (by decide) hasRoom_reply
  obtain ⟨_, _, hrun', h'⟩ := hparsed.run hroomy [23]
  cases hrun.symm.trans hrun'
  have hcount := hupdates.count
  rw [h'.header, List.foldl_cons, List.foldl_nil, getSequenceCount_updated_iff hroomy (by decide)]
    at hcount
  revert hcount
  decide

end PusTmZeroCopyWriter
