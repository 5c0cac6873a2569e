import Fsfw.DataPoolLocal.LocalPoolDataSetBase

/-!
# Structure reports

A `HousekeepingSetPacket` describes a data set: the id of the set, whether it is reported and
valid and in which interval, and the ids of its variables behind their number.

The size that is announced for the ids has eight bits.  A report is complete, with as many bytes
as it announces, exactly when there are at most 63 variables (`listsPoolIds_iff`).
-/

open Serializer

structure HousekeepingSetPacket where
  objectId : UInt32
  setId : UInt32
  reportingEnabled : Bool
  valid : Bool
  /-- The interval as the bytes of a number of floating point. -/
  collectionIntervalSeconds : UInt32
  dataSet : LocalPoolDataSetBase

namespace HousekeepingSetPacket

/-- The linked elements in front of the ids, with their number of bytes. -/
def links (packet : HousekeepingSetPacket) : List (ℕ × ℕ) :=
  [(4, packet.objectId.toNat), (4, packet.setId.toNat), (1, packet.reportingEnabled.toNat),
    (1, packet.valid.toNat), (4, packet.collectionIntervalSeconds.toNat)]

def serialize (packet : HousekeepingSetPacket) : Serializer :=
  fun maxSize e b =>
    andThen (all (fun link => SerializeAdapter.serialize link.1 link.2) packet.links maxSize e b)
      fun b₁ => packet.dataSet.serializeLocalPoolIds true maxSize e b₁

def getSerializedSize (packet : HousekeepingSetPacket) : ℕ :=
  (packet.links.map Prod.fst).sum + (packet.dataSet.getLocalPoolIdsSerializedSize true).toNat

/-- The bytes of the linked elements. -/
def linkBytes (packet : HousekeepingSetPacket) (e : Endianness) : List UInt8 :=
  packet.links.flatMap fun link => SerializeAdapter.bytesOf link.1 link.2 e

end HousekeepingSetPacket

namespace LocalPoolDataSetBase

/-- The bytes of the number of variables, and of the ids of all of them in their order. -/
def localPoolIdBytes (set : LocalPoolDataSetBase) (e : Endianness) : List UInt8 :=
  SerializeAdapter.bytesOf 1 set.fillCount e ++
    set.registeredVariables.flatMap fun v => SerializeAdapter.bytesOf 4 v.localPoolId.toNat e

theorem length_localPoolIdBytes (set : LocalPoolDataSetBase) (e : Endianness) :
  (set.localPoolIdBytes e).length = set.fillCount * 4 + 1
  := by
  have hids : (set.registeredVariables.flatMap fun v =>
      SerializeAdapter.bytesOf 4 v.localPoolId.toNat e).length = set.fillCount * 4 := by
    rw [List.length_flatMap]
    simp [fillCount]
  rw [localPoolIdBytes, List.length_append, hids, SerializeAdapter.length_bytesOf, Nat.add_comm]

/-- Up to 255 variables, all of them are listed. -/
theorem writesGivenRoom_serializeLocalPoolIds {set : LocalPoolDataSetBase}
    (h : set.fillCount < 2 ^ 8) :
  WritesGivenRoom (set.serializeLocalPoolIds true) set.localPoolIdBytes
  := by
  have hcount := SerializeAdapter.writesGivenRoom_serialize Nat.one_pos set.fillCount
  have hids := writesGivenRoom_all fun v (_ : v ∈ set.registeredVariables) =>
    SerializeAdapter.writesGivenRoom_serialize four_pos v.localPoolId.toNat
  intro e maxSize b hroom
  rw [localPoolIdBytes, List.length_append] at hroom
  rw [serializeLocalPoolIds, Nat.mod_eq_of_lt h, if_pos rfl]
  simp only [hcount e (show b.size + _ ≤ maxSize by omega)]
  have htake : set.registeredVariables.take set.fillCount = set.registeredVariables :=
    List.take_length
  rw [htake, hids e (by simp only [SerialBuffer.size_put]; omega), SerialBuffer.put_put]
  rfl

theorem toNat_getLocalPoolIdsSerializedSize (set : LocalPoolDataSetBase) :
  (set.getLocalPoolIdsSerializedSize true).toNat = (set.fillCount * 4 + 1) % 2 ^ 8
  := by
  rw [getLocalPoolIdsSerializedSize, if_pos rfl, UInt8.toNat_ofNat']

end LocalPoolDataSetBase

namespace HousekeepingSetPacket

/-- With room for the announced size, the report is written in as many bytes, with the number of
variables and the ids of all of them behind the linked elements. -/
structure ListsPoolIds (packet : HousekeepingSetPacket) (e : Endianness) (b : SerialBuffer) :
    Prop where
  serialize_eq : ∀ {maxSize : ℕ}, b.size + packet.getSerializedSize ≤ maxSize →
    packet.serialize maxSize e b
      = (.ok, b.put (packet.linkBytes e ++ packet.dataSet.localPoolIdBytes e))
  size_eq : (packet.linkBytes e ++ packet.dataSet.localPoolIdBytes e).length
    = packet.getSerializedSize

theorem length_linkBytes (packet : HousekeepingSetPacket) (e : Endianness) :
  (packet.linkBytes e).length = 14
  := by
  simp [linkBytes, links]

theorem getSerializedSize_eq (packet : HousekeepingSetPacket) :
  packet.getSerializedSize = 14 + (packet.dataSet.fillCount * 4 + 1) % 2 ^ 8
  := by
  rw [getSerializedSize, LocalPoolDataSetBase.toNat_getLocalPoolIdsSerializedSize]
  rfl

/-- With room for all of its bytes, the report of up to 255 variables is written. -/
theorem writesGivenRoom_serialize {packet : HousekeepingSetPacket}
    (h : packet.dataSet.fillCount < 2 ^ 8) :
  WritesGivenRoom packet.serialize fun e =>
    packet.linkBytes e ++ packet.dataSet.localPoolIdBytes e
  := by
  apply WritesGivenRoom.andThen
  · apply writesGivenRoom_all
    intro link hlink
    apply SerializeAdapter.writesGivenRoom_serialize
    simp only [links, List.mem_cons, List.not_mem_nil, or_false] at hlink
    rcases hlink with rfl | rfl | rfl | rfl | rfl
    all_goals apply Nat.succ_pos
  · exact LocalPoolDataSetBase.writesGivenRoom_serializeLocalPoolIds h

/-- A report lists all of the variables in the announced size exactly when there are at most 63 of
them. -/
theorem listsPoolIds_iff (packet : HousekeepingSetPacket) (e : Endianness) (b : SerialBuffer) :
  packet.ListsPoolIds e b ↔ packet.dataSet.fillCount ≤ 63
  := by
  have hlength : (packet.linkBytes e ++ packet.dataSet.localPoolIdBytes e).length
      = 14 + (packet.dataSet.fillCount * 4 + 1) := by
    rw [List.length_append, length_linkBytes, LocalPoolDataSetBase.length_localPoolIdBytes]
  have hsize := packet.getSerializedSize_eq
  constructor
  · rintro ⟨-, hannounced⟩
    omega
  · intro hle
    constructor
    · intro maxSize hroom
      apply writesGivenRoom_serialize (by omega) e
      rw [hlength]
      omega
    · omega

/-- The report of a set of 64 variables of one byte. -/
def sixtyFourVariables : HousekeepingSetPacket where
  objectId := 1
  setId := 2
  reportingEnabled := true
  valid := true
  collectionIntervalSeconds := 0
  dataSet :=
    { registeredVariables :=
        List.replicate 64
          ⟨3, 1, [0], true, LocalPoolVariable.oneByte_mem, by decide, by decide, by decide⟩
      withValidityBuffer := true
      fillCount_lt := by decide }

/-- The report of 64 variables announces 15 bytes, and is not written into them. -/
theorem not_listsPoolIds_sixtyFour :
  (sixtyFourVariables.dataSet.fillCount ≤ 255 ∧ sixtyFourVariables.getSerializedSize = 15 ∧
      (sixtyFourVariables.serialize 15 .big ⟨[], 0⟩).1 = SerializeIF.bufferTooShort) ∧
    ¬ ∀ (packet : HousekeepingSetPacket) (e : Endianness) (b : SerialBuffer),
      packet.dataSet.fillCount ≤ 255 → packet.ListsPoolIds e b
  := by
  have hcount : sixtyFourVariables.dataSet.fillCount = 64 := rfl
  have hsize : sixtyFourVariables.getSerializedSize = 15 := rfl
  have hresult : (sixtyFourVariables.serialize 15 .big ⟨[], 0⟩).1 = SerializeIF.bufferTooShort :=
    rfl
  refine ⟨⟨by omega, hsize, hresult⟩, ?_⟩
  intro h
  have hok := (h sixtyFourVariables .big ⟨[], 0⟩ (by omega)).serialize_eq
    (show _ ≤ 15 by rw [hsize])
  rw [hok] at hresult
  cases hresult

end HousekeepingSetPacket
