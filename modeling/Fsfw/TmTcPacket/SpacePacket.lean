import Fsfw.GlobalFunctions.CRC
import Fsfw.Library.BitField
import Fsfw.Serialize.SerialBuffer
import Fsfw.TmTcPacket.PusTcReader

/-!
# Space packets

The primary header of a space packet is three words: the version and the packet id, the sequence
control, and the data length.  A packet id packs the packet type, the secondary header flag and the
APID, and a sequence control packs the sequence flags and the sequence count.

The reader of a space packet looks into the bytes of the packet.  The methods that the telecommand
reader has as well stand in `PusTcReader`.
-/

inductive PacketType where
  | tm
  | tc
  deriving DecidableEq, Repr

namespace PacketType

def toUInt16 : PacketType → UInt16
  | tm => 0
  | tc => 1

/-- The packet type that a bit stands for. -/
def ofBit (bit : UInt16) : PacketType :=
  if bit = 0 then tm else tc

end PacketType

inductive SequenceFlags where
  | continuation
  | firstSegment
  | lastSegment
  | unsegmented
  deriving DecidableEq, Repr

namespace SequenceFlags

def toUInt16 : SequenceFlags → UInt16
  | continuation => 0b00
  | firstSegment => 0b01
  | lastSegment => 0b10
  | unsegmented => 0b11

/-- The sequence flags that two bits stand for. -/
def ofBits (bits : UInt16) : SequenceFlags :=
  if bits = 0b00 then continuation
  else if bits = 0b01 then firstSegment
  else if bits = 0b10 then lastSegment
  else unsegmented

theorem toNat_toUInt16_lt (flags : SequenceFlags) :
  flags.toUInt16.toNat < 2 ^ 2
  := by
  cases flags <;> decide

end SequenceFlags

namespace Ccsds

def limitApid : UInt16 := 2048

def limitSequenceCount : UInt16 := 16384

end Ccsds

/-! ### The packet id -/

structure PacketId where
  packetType : PacketType := .tm
  secHeaderFlag : Bool := false
  apid : UInt16 := 0
  deriving DecidableEq, Repr

namespace PacketId

/-- The bits of an APID that is too large are cut off. -/
def raw (id : PacketId) : UInt16 :=
  (id.packetType.toUInt16 <<< 12) ||| (id.secHeaderFlag.toUInt16 <<< 11) ||| (id.apid &&& 0x7ff)

theorem toNat_toUInt16 (flag : Bool) :
  flag.toUInt16.toNat = flag.toNat
  := by
  cases flag <;> rfl

theorem toNat_raw (id : PacketId) :
  id.raw.toNat
    = id.packetType.toUInt16.toNat * 4096 + id.secHeaderFlag.toNat * 2048 + id.apid.toNat % 2048
  := by
  have hapid : (id.apid &&& 0x7ff).toNat = id.apid.toNat % 2048 := by
    rw [UInt16.toNat_and]
    exact Nat.and_two_pow_sub_one_eq_mod _ 11
  have hlow : id.apid.toNat % 2048 < 2 ^ 11 := Nat.mod_lt _ (by simp)
  have hflag : ((id.secHeaderFlag.toUInt16 <<< 11) ||| (id.apid &&& 0x7ff)).toNat
      = id.secHeaderFlag.toNat * 2048 + id.apid.toNat % 2048 := by
    rw [UInt16.toNat_or, UInt16.toNat_shiftLeft, hapid, toNat_toUInt16]
    apply BitField.shiftLeft_mod_lor_of_lt (by simp) _ hlow
    cases id.secHeaderFlag <;> simp
  have hrest : id.secHeaderFlag.toNat * 2048 + id.apid.toNat % 2048 < 2 ^ 12 := by
    have hle := Bool.toNat_le id.secHeaderFlag
    omega
  rw [raw, UInt16.or_assoc, UInt16.toNat_or, UInt16.toNat_shiftLeft, hflag, Nat.add_assoc]
  apply BitField.shiftLeft_mod_lor_of_lt (by simp) _ hrest
  cases id.packetType <;> decide

/-- A packet id has 13 bits. -/
theorem toNat_raw_lt (id : PacketId) :
  id.raw.toNat < 2 ^ 13
  := by
  have htype : id.packetType.toUInt16.toNat ≤ 1 := by cases id.packetType <;> decide
  have hflag := Bool.toNat_le id.secHeaderFlag
  rw [toNat_raw]
  omega

/-! The fields are found in the packed word. -/

theorem packetType_raw (id : PacketId) :
  PacketType.ofBit ((id.raw >>> 12) &&& 0b1) = id.packetType
  := by
  have hflag := Bool.toNat_le id.secHeaderFlag
  have hbit : (id.raw >>> 12) &&& 0b1 = id.packetType.toUInt16 := by
    apply UInt16.toNat_inj.mp
    rw [UInt16.toNat_and, UInt16.toNat_shiftRight, id.toNat_raw]
    simp only [UInt16.reduceToNat, Nat.reduceMod]
    rw [Nat.and_two_pow_sub_one_eq_mod _ 1, Nat.shiftRight_eq_div_pow]
    cases id.packetType <;> simp [PacketType.toUInt16] <;> omega
  rw [hbit]
  cases id.packetType <;> rfl

theorem secHeaderFlag_raw (id : PacketId) :
  decide ((id.raw >>> 11) &&& 0b1 = 1) = id.secHeaderFlag
  := by
  have hbit : (id.raw >>> 11) &&& 0b1 = id.secHeaderFlag.toUInt16 := by
    apply UInt16.toNat_inj.mp
    have hflag := Bool.toNat_le id.secHeaderFlag
    rw [UInt16.toNat_and, UInt16.toNat_shiftRight, id.toNat_raw]
    simp only [UInt16.reduceToNat, Nat.reduceMod]
    rw [Nat.and_two_pow_sub_one_eq_mod _ 1, Nat.shiftRight_eq_div_pow, toNat_toUInt16]
    omega
  rw [hbit]
  cases id.secHeaderFlag <;> rfl

theorem apid_raw (id : PacketId) :
  id.raw &&& 0x7FF = id.apid &&& 0x7FF
  := by
  apply UInt16.toNat_inj.mp
  rw [UInt16.toNat_and, UInt16.toNat_and, id.toNat_raw]
  simp only [UInt16.reduceToNat]
  rw [Nat.and_two_pow_sub_one_eq_mod _ 11, Nat.and_two_pow_sub_one_eq_mod _ 11]
  omega

/-- An APID below the limit keeps all its bits. -/
theorem apid_and_of_lt {apid : UInt16} (h : apid < Ccsds.limitApid) :
  apid &&& 0x7FF = apid
  := by
  have hlt : apid.toNat < 2 ^ 11 := UInt16.lt_iff_toNat_lt.mp h
  apply UInt16.toNat_inj.mp
  rw [UInt16.toNat_and]
  apply Nat.and_two_pow_sub_one_of_lt_two_pow hlt

end PacketId

/-! ### The sequence control -/

structure PacketSeqCtrl where
  seqFlags : SequenceFlags := .continuation
  seqCount : UInt16 := 0
  deriving DecidableEq, Repr

namespace PacketSeqCtrl

/-- The bits of a sequence count that is too large are cut off. -/
def raw (psc : PacketSeqCtrl) : UInt16 :=
  (psc.seqFlags.toUInt16 <<< 14) ||| (psc.seqCount &&& 0x3FFF)

theorem toNat_raw (psc : PacketSeqCtrl) :
  psc.raw.toNat = psc.seqFlags.toUInt16.toNat * 16384 + psc.seqCount.toNat % 16384
  := by
  have hcount : (psc.seqCount &&& 0x3FFF).toNat = psc.seqCount.toNat % 16384 := by
    rw [UInt16.toNat_and]
    exact Nat.and_two_pow_sub_one_eq_mod _ 14
  rw [raw, UInt16.toNat_or, UInt16.toNat_shiftLeft, hcount]
  apply BitField.shiftLeft_mod_lor_of_lt (by simp) psc.seqFlags.toNat_toUInt16_lt
  exact Nat.mod_lt _ (by simp)

theorem seqFlags_raw (psc : PacketSeqCtrl) :
  SequenceFlags.ofBits ((psc.raw >>> 14) &&& 0b11) = psc.seqFlags
  := by
  have hbits : (psc.raw >>> 14) &&& 0b11 = psc.seqFlags.toUInt16 := by
    apply UInt16.toNat_inj.mp
    have hlt := psc.seqFlags.toNat_toUInt16_lt
    rw [UInt16.toNat_and, UInt16.toNat_shiftRight, psc.toNat_raw]
    simp only [UInt16.reduceToNat, Nat.reduceMod]
    rw [Nat.and_two_pow_sub_one_eq_mod _ 2, Nat.shiftRight_eq_div_pow]
    omega
  rw [hbits]
  cases psc.seqFlags <;> rfl

theorem seqCount_raw (psc : PacketSeqCtrl) :
  psc.raw &&& 0x3FFF = psc.seqCount &&& 0x3FFF
  := by
  apply UInt16.toNat_inj.mp
  rw [UInt16.toNat_and, UInt16.toNat_and, psc.toNat_raw]
  simp only [UInt16.reduceToNat]
  rw [Nat.and_two_pow_sub_one_eq_mod _ 14, Nat.and_two_pow_sub_one_eq_mod _ 14]
  omega

/-- A sequence count below the limit keeps all its bits. -/
theorem seqCount_and_of_lt {seqCount : UInt16} (h : seqCount < Ccsds.limitSequenceCount) :
  seqCount &&& 0x3FFF = seqCount
  := by
  have hlt : seqCount.toNat < 2 ^ 14 := UInt16.lt_iff_toNat_lt.mp h
  apply UInt16.toNat_inj.mp
  rw [UInt16.toNat_and]
  apply Nat.and_two_pow_sub_one_of_lt_two_pow hlt

end PacketSeqCtrl

/-! ### Reading words from a packet -/

namespace SerializeAdapter

/-- A word is written as its two bytes. -/
theorem bytesOf_two_big (word : UInt16) :
  bytesOf 2 word.toNat .big = [CRC.highByte word, CRC.lowByte word]
  := by
  have hhigh : UInt8.ofNat (word.toNat / 2 ^ 8) = CRC.highByte word := by
    apply UInt8.toNat_inj.mp
    have hlt := word.toNat_lt
    rw [CRC.toNat_highByte, UInt8.toNat_ofNat']
    omega
  have hlow : UInt8.ofNat word.toNat = CRC.lowByte word := by
    apply UInt8.toNat_inj.mp
    rw [CRC.toNat_lowByte, UInt8.toNat_ofNat']
  simp only [bytesOf, bigEndianBytes, List.nil_append, List.singleton_append, hhigh, hlow]

end SerializeAdapter

namespace PusTcReader

theorem readUInt16_words (word : UInt16) (rest : List UInt8) :
  readUInt16 (CRC.highByte word :: CRC.lowByte word :: rest) 0 = word
  := by
  apply UInt16.toNat_inj.mp
  rw [readUInt16, UInt16.toNat_twoBytes]
  simp only [List.getD_cons_zero, List.getD_cons_succ, CRC.toNat_highByte, CRC.toNat_lowByte]
  omega

theorem readUInt16_append (before after : List UInt8) (index : ℕ) :
  readUInt16 (before ++ after) (before.length + index) = readUInt16 after index
  := by
  simp only [readUInt16]
  rw [List.getD_append_right _ _ _ _ (by omega), List.getD_append_right _ _ _ _ (by omega)]
  rw [show before.length + index - before.length = index by omega,
    show before.length + index + 1 - before.length = index + 1 by omega]

end PusTcReader

namespace SpacePacketReader

open PusTcReader

def getPacketType (data : List UInt8) : PacketType :=
  .ofBit ((getPacketIdRaw data >>> 12) &&& 0b1)

def getSequenceFlags (data : List UInt8) : SequenceFlags :=
  .ofBits ((getPacketSeqCtrlRaw data >>> 14) &&& 0b11)

end SpacePacketReader
