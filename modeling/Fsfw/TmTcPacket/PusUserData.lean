import Fsfw.Serialize.SerialBuffer
import Fsfw.TmTcPacket.PusReaders
import Fsfw.TmTcPacket.SpacePacketCreator

/-!
# The user data of PUS packets

The creators of telecommands and of telemetry take their user data as a block of bytes or as an
object that serializes itself.  A block goes through an adapter that keeps its length in one byte,
so that only the length modulo 256 of it is written.

What both creators write is a header, some bytes and the checksum over all of this.  A reader finds
such a packet whole when the length in the header is that of the packet (`PusUserData.accepts_sealed`).
-/

/-- The user data that a creator is given.  A block of bytes may be a null pointer. -/
inductive PusUserData where
  | none
  | raw (data : Option (List UInt8))
  | serializable (object : Serializable)

namespace PusUserData

def getSerializedSize : PusUserData → ℕ
  | none => 0
  | raw data => (SerialBufferAdapter.setConstBuffer data).bufferLength.toNat
  | serializable object => object.getSerializedSize

def serialize : PusUserData → Serializer
  | none => fun _ _ b => (.ok, b)
  | raw data => (SerialBufferAdapter.setConstBuffer data).serializeBuffer
  | serializable object => object.serialize

/-- The bytes that are to be sent. -/
def given : PusUserData → List UInt8
  | none => []
  | raw data => data.getD []
  | serializable object => object.bytes .big

/-- The bytes that are written. -/
def written : PusUserData → List UInt8
  | none => []
  | raw data => (data.getD []).take ((data.getD []).length % 256)
  | serializable object => object.bytes .big

/-- There is no null pointer for a block of bytes. -/
def IsSet : PusUserData → Prop
  | raw data => data ≠ Option.none
  | _ => True

/-- Every byte is written: a block of bytes is there, and is shorter than 256 bytes. -/
def FitsAdapter (userData : PusUserData) : Prop :=
  ∀ data, userData = raw data → ∃ block, data = some block ∧ block.length < 256

theorem length_written (userData : PusUserData) :
  userData.written.length = userData.getSerializedSize
  := by
  cases userData with
  | none => rfl
  | raw data =>
      simp only [written, getSerializedSize, SerialBufferAdapter.setConstBuffer, List.length_take,
        UInt8.toNat_ofNat']
      omega
  | serializable object => apply object.length_bytes

theorem getSerializedSize_le (userData : PusUserData) :
  userData.getSerializedSize ≤ userData.given.length
  := by
  cases userData with
  | none => rfl
  | raw data =>
      simp only [getSerializedSize, SerialBufferAdapter.setConstBuffer, UInt8.toNat_ofNat', given]
      apply Nat.mod_le
  | serializable object => exact (object.length_bytes .big).ge

theorem serialize_eq {userData : PusUserData} (hset : userData.IsSet) {maxSize : ℕ}
    {b : SerialBuffer} (hroom : b.size + userData.getSerializedSize ≤ maxSize) :
  userData.serialize maxSize .big b = (.ok, b.put userData.written)
  := by
  cases userData with
  | none => simp [serialize, written]
  | raw data =>
      cases data with
      | none => cases hset rfl
      | some block =>
          rw [getSerializedSize] at hroom
          rw [serialize, SerialBufferAdapter.serializeBuffer, if_neg (not_lt.mpr hroom)]
          simp [SerialBufferAdapter.setConstBuffer, written]
  | serializable object => apply object.serialize_eq _ hroom

/-- A null pointer is not serialized. -/
theorem serialize_null {userData : PusUserData} (hset : ¬ userData.IsSet) (maxSize : ℕ)
    (e : Endianness) (b : SerialBuffer) :
  (userData.serialize maxSize e b).1 ≠ .ok
  := by
  cases userData with
  | none => cases hset trivial
  | raw data =>
      rw [show data = Option.none from not_not.mp hset, serialize,
        SerialBufferAdapter.serializeBuffer]
      split <;> simp [SerialBufferAdapter.setConstBuffer]
  | serializable object => cases hset trivial

theorem FitsAdapter.isSet {userData : PusUserData} (h : userData.FitsAdapter) :
  userData.IsSet
  := by
  cases userData with
  | none => trivial
  | raw data =>
      obtain ⟨block, rfl, -⟩ := h data rfl
      simp [IsSet]
  | serializable object => trivial

/-- What is written is what was given exactly when the adapter can keep the length. -/
theorem written_eq_given_iff {userData : PusUserData} (hset : userData.IsSet) :
  userData.written = userData.given ↔ userData.FitsAdapter
  := by
  cases userData with
  | none => exact iff_of_true rfl (by rintro _ ⟨⟩)
  | raw data =>
      cases data with
      | none => cases hset rfl
      | some block =>
          constructor
          · rintro hwritten _ ⟨⟩
            have hlength := congrArg List.length hwritten
            simp only [written, given, Option.getD_some, List.length_take] at hlength
            use block, rfl
            omega
          · intro hfits
            obtain ⟨_, ⟨⟩, hlt⟩ := hfits _ rfl
            simp only [written, given, Option.getD_some]
            rw [Nat.mod_eq_of_lt hlt, List.take_length]
  | serializable object => exact iff_of_true rfl (by rintro _ ⟨⟩)

/-! ### Packets with a checksum -/

open PusTcReader

/-- Some bytes with their checksum behind them. -/
def sealed (body : List UInt8) : List UInt8 :=
  body ++ [CRC.highByte (CRC.crc16ccitt body), CRC.lowByte (CRC.crc16ccitt body)]

@[simp]
theorem length_sealed (body : List UInt8) :
  (sealed body).length = body.length + 2
  := by
  simp [sealed]

/-- A packet is accepted when its header tells its length. -/
theorem accepts_sealed {c : SpacePacketCreator} {rest : List UInt8}
    (hlength : PusTcReader.headerLen + c.params.dataLen.toNat + 1
      = (sealed (c.bytes .big ++ rest)).length) :
  Accepts (sealed (c.bytes .big ++ rest)) (sealed (c.bytes .big ++ rest)).length true
    ∧ getFullPacketLen (sealed (c.bytes .big ++ rest))
      = (sealed (c.bytes .big ++ rest)).length
  := by
  have hfull : getFullPacketLen (sealed (c.bytes .big ++ rest))
      = (sealed (c.bytes .big ++ rest)).length := by
    rw [getFullPacketLen, sealed, List.append_assoc,
      SpacePacketReader.getPacketDataLen_header, ← List.append_assoc, ← sealed, hlength]
  refine ⟨⟨hfull.le, fun _ => ?_⟩, hfull⟩
  rw [checksum, hfull, List.take_length]
  apply CRC.crc16ccitt_append_crc

end PusUserData

/-! ### Looking behind the primary header -/

section

variable {c : SpacePacketCreator} {rest : List UInt8} {pointers : PusPointers}
  (hstart : pointers.secHeaderStart = some ⟨c.bytes .big ++ rest, PusTcReader.headerLen⟩)

include hstart

theorem PusPointers.secHeader_eq (index : ℕ) :
  pointers.secHeader index = rest.getD index 0
  := by
  simp only [secHeader, hstart]
  rw [List.getD_append_right _ _ _ _
    (by rw [c.length_bytes, SpacePacketCreator.getSerializedSize]; omega)]
  rw [c.length_bytes, SpacePacketCreator.getSerializedSize, Nat.add_sub_cancel_left]

theorem PusPointers.secHeaderWord_eq (index : ℕ) :
  pointers.secHeaderWord index = PusTcReader.readUInt16 rest index
  := by
  rw [secHeaderWord, secHeader_eq hstart, secHeader_eq hstart]
  rfl

end
