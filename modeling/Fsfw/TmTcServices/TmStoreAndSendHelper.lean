import Fsfw.Ipc.MessageQueueIF
import Fsfw.StorageManager.PacketStore
import Fsfw.TmTcPacket.PusTmCreator

/-!
# Storing and sending telemetry

A service makes telemetry packets with a creator that it keeps.  A packet is serialized into the
telemetry store, with the time at which this is done, and its address is sent to the receiver of
telemetry.  When it cannot be sent, it is deleted again.

Either the packet is in the store and its address has been sent, or the store is as it was before
(`TmStoreAndSendWrapper.storeAndSendTmPacket_cases`).
-/

/-- A writer of time stamps, which have the same size at all times. -/
structure TimeWriterIF (τ : Type*) where
  getSerializedSize : ℕ
  stamp : τ → Serializable
  size_stamp : ∀ now, (stamp now).getSerializedSize = getSerializedSize

structure TmStoreHelper where
  creator : PusTmCreator
  currentAddr : StoreAddress

/-- The default destination of the queue of the helper is `queue`, if there is a queue. -/
structure TmSendHelper where
  queue : Option MessageQueueId
  ignoreFault : Bool := false
  errReporter : Bool

structure TmStoreAndSendWrapper where
  defaultService : UInt8
  storeHelper : TmStoreHelper
  sendHelper : TmSendHelper
  sendCounter : UInt16 := 0
  incrementSendCounter : Bool := true
  delOnFailure : Bool := true

/-- What comes of a packet: the result of storing it, the result of the call, the address that was
sent, and whether the error reporter was told that telemetry has been lost. -/
structure TmOutcome where
  stored : ReturnValue
  result : ReturnValue
  sent : Option (MessageQueueId × StoreAddress) := none
  lostTm : Bool := false
  deriving DecidableEq, Repr

variable {σ τ : Type*}

namespace TmStoreHelper

def new (defaultApid : UInt16) : TmStoreHelper where
  creator := PusTmCreator.default.setApid defaultApid
  currentAddr := .invalid

def preparePacket (h : TmStoreHelper) (service subservice : UInt8) (counter : UInt16) :
    TmStoreHelper :=
  { h with
    creator :=
      ((h.creator.setService service).setSubservice subservice).setMessageTypeCounter counter }

def setSourceDataRaw (h : TmStoreHelper) (data : Option (List UInt8)) : TmStoreHelper :=
  { h with creator := h.creator.setRawUserData data }

def setSourceDataSerializable (h : TmStoreHelper) (serializable : Serializable) : TmStoreHelper :=
  { h with creator := h.creator.setSerializableUserData serializable }

/-- Put the packet into the store.  Where the creator does not write, the bytes stay as they are
there. -/
def addPacketToStore (h : TmStoreHelper) (S : PacketStoreIF σ) (T : TimeWriterIF τ) (now : τ)
    (tmStore : σ) : ReturnValue × TmStoreHelper × σ :=
  let creator := h.creator.setTimeStamper (T.stamp now)
  let (result, currentAddr, tmStore) := S.getFreeElement creator.getSerializedSize tmStore
  if result = .ok then
    let last := (S.getData currentAddr tmStore).2.drop (creator.getSerializedSize - 2)
    let (result, written) := creator.serialize (last.getD 0 0, last.getD 1 0)
      creator.getSerializedSize .big ⟨[], 0⟩
    (result, { creator, currentAddr }, S.write currentAddr written.written tmStore)
  else
    (result, { creator, currentAddr }, tmStore)

def deletePacket (h : TmStoreHelper) (S : PacketStoreIF σ) (tmStore : σ) :
    ReturnValue × TmStoreHelper × σ :=
  let (result, tmStore) := S.deleteData h.currentAddr tmStore
  (result, if result = .ok then { h with currentAddr := .invalid } else h, tmStore)

end TmStoreHelper

namespace TmSendHelper

/-- Send an address to the default destination.  The result of this is `queueStatus`. -/
def sendPacket (h : TmSendHelper) (storeId : StoreAddress) (queueStatus : ReturnValue) :
    TmOutcome :=
  match h.queue with
  | none => { stored := .ok, result := .failed }
  | some dest =>
      if queueStatus = .ok then
        { stored := .ok, result := .ok, sent := some (dest, storeId) }
      else
        { stored := .ok, result := queueStatus, lostTm := h.errReporter && !h.ignoreFault }

end TmSendHelper

namespace TmStoreAndSendWrapper

def storeAndSendTmPacket (w : TmStoreAndSendWrapper) (S : PacketStoreIF σ) (T : TimeWriterIF τ)
    (now : τ) (queueStatus : ReturnValue) (tmStore : σ) : TmOutcome × TmStoreAndSendWrapper × σ :=
  let (stored, storeHelper, tmStore) := w.storeHelper.addPacketToStore S T now tmStore
  if stored = .ok then
    let outcome := w.sendHelper.sendPacket storeHelper.currentAddr queueStatus
    if outcome.result = .ok then
      (outcome,
        { w with
          storeHelper
          sendCounter := if w.incrementSendCounter then w.sendCounter + 1 else w.sendCounter },
        tmStore)
    else if w.delOnFailure then
      let (_, storeHelper, tmStore) := storeHelper.deletePacket S tmStore
      (outcome, { w with storeHelper }, tmStore)
    else
      (outcome, { w with storeHelper }, tmStore)
  else
    ({ stored, result := stored }, { w with storeHelper }, tmStore)

def prepareTmPacketRaw (w : TmStoreAndSendWrapper) (subservice : UInt8)
    (data : Option (List UInt8)) : TmStoreAndSendWrapper :=
  { w with
    storeHelper :=
      (w.storeHelper.preparePacket w.defaultService subservice w.sendCounter).setSourceDataRaw
        data }

def prepareTmPacketSerializable (w : TmStoreAndSendWrapper) (subservice : UInt8)
    (sourceData : Serializable) : TmStoreAndSendWrapper :=
  { w with
    storeHelper :=
      (w.storeHelper.preparePacket w.defaultService subservice
        w.sendCounter).setSourceDataSerializable sourceData }

end TmStoreAndSendWrapper

/-! ### The packet in the store -/

namespace TimeWriterIF

variable (T : TimeWriterIF τ) (now : τ) (apid : UInt16) (pusParams : PusTmParams)

/-- The parameters of a packet that is stored at some time. -/
def stamped : PusTmParams :=
  { pusParams with timeStamper := some (T.stamp now) }

/-- The creator of a packet that is stored at some time. -/
def creator : PusTmCreator :=
  .new { packetId.apid := apid } (T.stamped now pusParams)

/-- The packet that is stored. -/
def packet : List UInt8 :=
  PusUserData.sealed (T.creator now apid pusParams).body

/-- The source data are there, and a packet has room for them and a time stamp. -/
structure Fits : Prop where
  isSet : pusParams.sourceData.IsSet
  room : 15 + T.getSerializedSize + pusParams.sourceData.getSerializedSize ≤ 65542

variable {T now apid pusParams}

theorem Fits.size_le (h : T.Fits pusParams) (now : τ) :
  15 + (T.stamped now pusParams).timestampSize
    + (T.stamped now pusParams).sourceData.getSerializedSize ≤ 65542
  := by
  rw [show (T.stamped now pusParams).timestampSize = T.getSerializedSize from T.size_stamp now]
  exact h.room

theorem Fits.length_packet (h : T.Fits pusParams) :
  (T.packet now apid pusParams).length = (T.creator now apid pusParams).getSerializedSize
  := (PusTmCreator.getFullPacketLen_new _ (h.size_le now)).symm

/-- The creator writes the packet. -/
theorem Fits.serialize (h : T.Fits pusParams) (hapid : apid < Ccsds.limitApid)
    (untouched : UInt8 × UInt8) :
  (T.creator now apid pusParams).serialize untouched
      (T.creator now apid pusParams).getSerializedSize .big ⟨[], 0⟩
    = (.ok, SerialBuffer.put ⟨[], 0⟩ (T.packet now apid pusParams))
  := by
  have hroom : (⟨[], 0⟩ : SerialBuffer).size + (T.creator now apid pusParams).getSerializedSize
      ≤ (T.creator now apid pusParams).getSerializedSize := (Nat.zero_add _).le
  have hcount : (0 : UInt16) < Ccsds.limitSequenceCount := by decide
  exact PusTmCreator.serialize_new (h.size_le now) hapid hcount h.isSet untouched hroom

end TimeWriterIF

namespace TmStoreHelper

variable {S : PacketStoreIF σ} (laws : S.Reliable) {T : TimeWriterIF τ} {h : TmStoreHelper}
  {apid : UInt16} {pusParams : PusTmParams} {now : τ} {s : σ}

/-- When there is no room in the store, it stays as it is. -/
theorem addPacketToStore_full
    (hcreator : h.creator = .new { packetId.apid := apid } pusParams)
    (hfull : (S.getFreeElement (T.creator now apid pusParams).getSerializedSize s).1 ≠ .ok) :
  ∃ h' s', h.addPacketToStore S T now s =
      ((S.getFreeElement (T.creator now apid pusParams).getSerializedSize s).1, h', s')
    ∧ h'.creator = T.creator now apid pusParams
    ∧ laws.contents s' = laws.contents s
  := by
  have hstamped : h.creator.setTimeStamper (T.stamp now) = T.creator now apid pusParams := by
    rw [hcreator, PusTmCreator.setTimeStamper_new]
    rfl
  rw [addPacketToStore, hstamped]
  dsimp only
  rw [if_neg hfull]
  exact ⟨_, _, rfl, rfl, laws.contents_getFreeElement_failed _ s hfull⟩

/-- A packet that is stored stands at an address that was free. -/
theorem addPacketToStore_ok
    (hcreator : h.creator = .new { packetId.apid := apid } pusParams)
    (hapid : apid < Ccsds.limitApid) (hfits : T.Fits pusParams)
    (hfree : (S.getFreeElement (T.creator now apid pusParams).getSerializedSize s).1 = .ok) :
  ∃ h' s', h.addPacketToStore S T now s = (.ok, h', s')
    ∧ h'.creator = T.creator now apid pusParams
    ∧ laws.contents s h'.currentAddr = none
    ∧ laws.contents s' = Function.update (laws.contents s) h'.currentAddr
        (some (T.packet now apid pusParams))
  := by
  have hstamped : h.creator.setTimeStamper (T.stamp now) = T.creator now apid pusParams := by
    rw [hcreator, PusTmCreator.setTimeStamper_new]
    rfl
  obtain ⟨old, hlength, hcontents⟩ := laws.contents_getFreeElement _ s hfree
  have hold : laws.contents
      (S.getFreeElement (T.creator now apid pusParams).getSerializedSize s).2.2
      (S.getFreeElement (T.creator now apid pusParams).getSerializedSize s).2.1 = some old := by
    rw [hcontents, Function.update_self]
  rw [addPacketToStore, hstamped]
  dsimp only
  rw [if_pos hfree, hfits.serialize hapid]
  refine ⟨_, _, rfl, rfl, laws.free_of_getFreeElement _ s hfree, ?_⟩
  dsimp only
  rw [laws.contents_write _ _ _ _ hold, hcontents, Function.update_idem]
  congr 2
  rw [SerialBuffer.written_put, List.nil_append, hfits.length_packet, ← hlength, List.drop_length,
    List.append_nil]

end TmStoreHelper

/-! ### The packet that is sent -/

/-- What comes of a packet: the packet is in the store and its address has been sent, or nothing has
changed. -/
structure TmOutcome.Settles {S : PacketStoreIF σ} (laws : S.Reliable) (packet : List UInt8)
    (dest : MessageQueueId) (errReporter : Bool) (queueStatus : ReturnValue) (s s' : σ)
    (outcome : TmOutcome) : Prop where
  result : outcome.result = if outcome.stored = .ok then queueStatus else outcome.stored
  sent : outcome.result = .ok → ∃ storeId, outcome.sent = some (dest, storeId)
    ∧ laws.contents s storeId = none
    ∧ laws.contents s' = Function.update (laws.contents s) storeId (some packet)
  unsent : outcome.result ≠ .ok → outcome.sent = none ∧ laws.contents s' = laws.contents s
  lostTm : outcome.lostTm = true
    ↔ outcome.stored = .ok ∧ outcome.result ≠ .ok ∧ errReporter = true

namespace TmStoreAndSendWrapper

/-- The wrapper of a service that has been initialised. -/
structure Ready (apid : UInt16) (dest : MessageQueueId) (errReporter : Bool)
    (pusParams : PusTmParams) (w : TmStoreAndSendWrapper) : Prop where
  creator : w.storeHelper.creator = .new { packetId.apid := apid } pusParams
  sendHelper : w.sendHelper = { queue := some dest, errReporter }
  delOnFailure : w.delOnFailure = true

variable {S : PacketStoreIF σ} (laws : S.Reliable) {T : TimeWriterIF τ}
  {w : TmStoreAndSendWrapper} {apid : UInt16} {dest : MessageQueueId} {errReporter : Bool}
  {pusParams : PusTmParams}

/-- A packet is stored and sent, or nothing is changed. -/
theorem storeAndSendTmPacket_settles (h : w.Ready apid dest errReporter pusParams)
    (hapid : apid < Ccsds.limitApid) (hfits : T.Fits pusParams) (now : τ)
    (queueStatus : ReturnValue) (s : σ) :
  ∃ outcome w' s', w.storeAndSendTmPacket S T now queueStatus s = (outcome, w', s')
    ∧ w'.Ready apid dest errReporter (T.stamped now pusParams)
    ∧ outcome.stored = (S.getFreeElement (T.creator now apid pusParams).getSerializedSize s).1
    ∧ outcome.Settles laws (T.packet now apid pusParams) dest errReporter queueStatus s s'
  := by
  by_cases hfree : (S.getFreeElement (T.creator now apid pusParams).getSerializedSize s).1 = .ok
  · obtain ⟨h', s₁, hstored, hcreator, hnone, hcontents⟩ :=
      TmStoreHelper.addPacketToStore_ok laws h.creator hapid hfits hfree
    by_cases hstatus : queueStatus = .ok
    · have hsend : w.sendHelper.sendPacket h'.currentAddr queueStatus
          = { stored := .ok, result := .ok, sent := some (dest, h'.currentAddr) } := by
        rw [h.sendHelper, TmSendHelper.sendPacket]
        dsimp only
        rw [if_pos hstatus]
      rw [storeAndSendTmPacket, hstored]
      dsimp only
      rw [if_pos rfl, hsend]
      dsimp only
      rw [if_pos rfl]
      refine ⟨_, _, _, rfl, ⟨hcreator, h.sendHelper, h.delOnFailure⟩, hfree.symm, ?_⟩
      constructor
      · exact hstatus.symm
      · intro _
        exact ⟨_, rfl, hnone, hcontents⟩
      · intro hne
        exact absurd rfl hne
      · simp
    · have hsend : w.sendHelper.sendPacket h'.currentAddr queueStatus
          = { stored := .ok, result := queueStatus, lostTm := errReporter } := by
        rw [h.sendHelper, TmSendHelper.sendPacket]
        dsimp only
        rw [if_neg hstatus, Bool.not_false, Bool.and_true]
      rw [storeAndSendTmPacket, hstored]
      dsimp only
      rw [if_pos rfl, hsend]
      dsimp only
      rw [if_neg hstatus, if_pos h.delOnFailure, TmStoreHelper.deletePacket]
      dsimp only
      refine ⟨_, _, _, rfl, ⟨?_, h.sendHelper, h.delOnFailure⟩, hfree.symm, ?_⟩
      · split_ifs
        · exact hcreator
        · exact hcreator
      · constructor
        · rfl
        · intro hok
          exact absurd hok hstatus
        · intro _
          use rfl
          rw [laws.contents_deleteData_eq, hcontents, Function.update_idem, ← hnone,
            Function.update_eq_self]
        · simp [hstatus]
  · obtain ⟨h', s₁, hstored, hcreator, hcontents⟩ :=
      TmStoreHelper.addPacketToStore_full laws h.creator hfree
    rw [storeAndSendTmPacket, hstored]
    dsimp only
    rw [if_neg hfree]
    refine ⟨_, _, _, rfl, ⟨hcreator, h.sendHelper, h.delOnFailure⟩, rfl, ?_⟩
    constructor
    · rw [if_neg hfree]
    · intro hok
      exact absurd hok hfree
    · intro _
      exact ⟨rfl, hcontents⟩
    · simp [hfree]

end TmStoreAndSendWrapper
