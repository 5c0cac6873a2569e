import Fsfw.TcDistribution.TcDistributorBase
import Fsfw.TmTcPacket.PusTcReader

/-!
# The distributor of space packets

Space packets are distributed by their APID.  A destination may have asked for packets without
their header: the rest of the packet is then stored anew, and the packet is deleted.  A packet
that cannot be distributed is deleted by its accessor, which goes out of scope when the
destination has been selected.

Every packet that is received is either sent to its destination and in the store once, or not sent
and not in the store any more (`conserves_of_run`).
-/

/-! ### The check of a packet -/

/-- The check that is made unless a distributor is given another one. -/
structure CcsdsPacketChecker where
  apid : Option UInt16 := none
  isTc : Bool
  ccsdsVersion : UInt16 := 0

def CcsdsPacketChecker.checkPacket (checker : CcsdsPacketChecker) (currentPacket : List UInt8) :
    ReturnValue :=
  if checker.apid.any (· ≠ PusTcReader.getApid currentPacket) then
    TmtcDistrib.invalidApid
  else if PusTcReader.getVersion currentPacket ≠ checker.ccsdsVersion then
    TmtcDistrib.invalidCcsdsVersion
  else if PusTcReader.isTc currentPacket ≠ checker.isTc then
    TmtcDistrib.invalidPacketType
  else if PusTcReader.getFullPacketLen currentPacket ≠ currentPacket.length then
    TmtcDistrib.incompletePacket
  else
    .ok

/-! ### The distributor -/

/-- A destination of packets. -/
structure DestInfo where
  apid : UInt16
  destId : MessageQueueId
  removeHeader : Bool

structure CcsdsDistributor (σ : Type*) where
  defaultApid : UInt16
  tcStore : PacketStoreIF σ
  packetChecker : List UInt8 → ReturnValue
  receiverMap : UInt16 → Option DestInfo

namespace CcsdsDistributor

variable {σ : Type*}

/-- An APID that has a destination keeps it. -/
def registerApplication (D : CcsdsDistributor σ) (info : DestInfo) :
    ReturnValue × CcsdsDistributor σ :=
  match D.receiverMap info.apid with
  | some _ => (.failed, D)
  | none => (.ok, { D with receiverMap := Function.update D.receiverMap info.apid (some info) })

/-- The accessor to a packet goes out of scope. -/
def destroyAccessor (D : CcsdsDistributor σ) (storeId : StoreAddress) (released : Bool) (s : σ) :
    σ :=
  if released then s else (D.tcStore.deleteData storeId s).2

/-- Store the packet without its header.  The result is the address of what is stored. -/
def handleCcsdsHeaderRemoval (D : CcsdsDistributor σ) (packet : List UInt8) (s : σ) :
    Except ReturnValue StoreAddress × σ :=
  match D.tcStore.addData (packet.drop PusTcReader.headerLen) s with
  | (.ok, newStoreId, s) => (.ok newStoreId, s)
  | (result, _, s) => (.error result, s)

/-- The destination for an APID, or else the one for the default APID. -/
def findDestination (D : CcsdsDistributor σ) (apid : UInt16) : Option DestInfo :=
  match D.receiverMap apid with
  | some info => some info
  | none => D.receiverMap D.defaultApid

def selectDestination (D : CcsdsDistributor σ) (currentMessage : StoreAddress) (s : σ) :
    Except ReturnValue MessageQueueId × StoreAddress × σ :=
  match D.tcStore.getData currentMessage s with
  | (.ok, packet) =>
      if packet.length < PusTcReader.headerLen + 1 then
        (.error SerializeIF.streamTooShort, currentMessage,
          D.destroyAccessor currentMessage false s)
      else
        match D.packetChecker packet with
        | .ok =>
            match D.findDestination (PusTcReader.getApid packet) with
            | none =>
                (.error TcDistributorBase.destinationNotFound, currentMessage,
                  D.destroyAccessor currentMessage false s)
            | some info =>
                if info.removeHeader then
                  -- The accessor is not released, so that the old packet is deleted.
                  match D.handleCcsdsHeaderRemoval packet s with
                  | (.ok newStoreId, s) =>
                      (.ok info.destId, newStoreId, D.destroyAccessor currentMessage false s)
                  | (.error result, s) =>
                      (.error result, currentMessage, D.destroyAccessor currentMessage false s)
                else
                  (.ok info.destId, currentMessage, D.destroyAccessor currentMessage true s)
        | result =>
            (.error result, currentMessage, D.destroyAccessor currentMessage false s)
  | (result, _) =>
      (.error result, currentMessage, D.destroyAccessor currentMessage false s)

def callbackAfterSending (D : CcsdsDistributor σ) (queueStatus : ReturnValue)
    (currentMessage : StoreAddress) (s : σ) : ReturnValue × σ :=
  if queueStatus ≠ .ok then
    (.ok, (D.tcStore.deleteData currentMessage s).2)
  else
    (.ok, s)

/-- The distributor has no state of its own, and issues no reports. -/
def toBase (D : CcsdsDistributor σ) : TcDistributorBase σ Unit Empty where
  selectDestination currentMessage d :=
    match D.selectDestination currentMessage d.2 with
    | (selected, currentMessage, s) => some (selected, currentMessage, (), s)
  callbackAfterSending queueStatus currentMessage d :=
    match D.callbackAfterSending queueStatus currentMessage d.2 with
    | (result, s) => (result, [], (), s)

/-! ### Conservation -/

variable {D : CcsdsDistributor σ} (laws : D.tcStore.Reliable)

/-- What the selection of a destination can lead to: the packet is dropped, or it is kept for its
destination, or it is kept without its header. -/
inductive Selection (currentMessage : StoreAddress) (s : σ) :
    Except ReturnValue MessageQueueId × StoreAddress × σ → Prop where
  | dropped (result : ReturnValue) (s' : σ)
      (hdeleted : laws.contents s' = Function.update (laws.contents s) currentMessage none) :
      Selection currentMessage s (.error result, currentMessage, s')
  | kept (packet : List UInt8) (info : DestInfo)
      (hpacket : laws.contents s currentMessage = some packet)
      (hinfo : D.findDestination (PusTcReader.getApid packet) = some info)
      (hremove : info.removeHeader = false) :
      Selection currentMessage s (.ok info.destId, currentMessage, s)
  | stripped (packet : List UInt8) (info : DestInfo) (address : StoreAddress) (s' : σ)
      (hpacket : laws.contents s currentMessage = some packet)
      (hinfo : D.findDestination (PusTcReader.getApid packet) = some info)
      (hremove : info.removeHeader = true)
      (hfree : laws.contents s address = none)
      (hstored : laws.contents s' = Function.update
        (Function.update (laws.contents s) currentMessage none) address (some (packet.drop 6))) :
      Selection currentMessage s (.ok info.destId, address, s')

/-- Selecting a destination with the header removed leads to a selection. -/
theorem selection_headerRemoval {currentMessage : StoreAddress} {s : σ} {packet : List UInt8}
    {info : DestInfo} (hpacket : laws.contents s currentMessage = some packet)
    (hinfo : D.findDestination (PusTcReader.getApid packet) = some info)
    (hremove : info.removeHeader = true) :
  Selection laws currentMessage s
    (match D.handleCcsdsHeaderRemoval packet s with
    | (.ok newStoreId, s) =>
        (.ok info.destId, newStoreId, D.destroyAccessor currentMessage false s)
    | (.error result, s) =>
        (.error result, currentMessage, D.destroyAccessor currentMessage false s))
  := by
  simp only [handleCcsdsHeaderRemoval, PusTcReader.headerLen]
  have hok := laws.contents_addData (packet.drop 6) s
  have hfree := laws.free_of_addData (packet.drop 6) s
  have hfailed := laws.contents_addData_failed (packet.drop 6) s
  generalize D.tcStore.addData (packet.drop 6) s = added at hok hfree hfailed
  obtain ⟨result, address, s'⟩ := added
  cases result with
  | ok =>
      -- The new address was free, hence it is not the one of the packet.
      have hne : address ≠ currentMessage := by
        intro h
        rw [h, hpacket] at hfree
        cases hfree rfl
      apply Selection.stripped packet info address _ hpacket hinfo hremove (hfree rfl)
      simp only [destroyAccessor, Bool.false_eq_true, if_false]
      rw [laws.contents_deleteData_eq, hok rfl, Function.update_comm hne]
  | failed =>
      apply Selection.dropped
      simp only [destroyAccessor, Bool.false_eq_true, if_false]
      rw [laws.contents_deleteData_eq, hfailed (by simp)]
  | makeCode classId number =>
      apply Selection.dropped
      simp only [destroyAccessor, Bool.false_eq_true, if_false]
      rw [laws.contents_deleteData_eq, hfailed (by simp)]

theorem selection_selectDestination (currentMessage : StoreAddress) (s : σ) :
  Selection laws currentMessage s (D.selectDestination currentMessage s)
  := by
  have hdrop : ∀ result, Selection laws currentMessage s
      (.error result, currentMessage, D.destroyAccessor currentMessage false s) := by
    intro result
    apply Selection.dropped
    apply laws.contents_deleteData_eq
  cases hpacket : laws.contents s currentMessage with
  | none =>
      have hgone := laws.getData_of_none currentMessage s hpacket
      simp only [selectDestination]
      apply hdrop
  | some packet =>
      simp only [selectDestination, laws.getData_of_some currentMessage s packet hpacket]
      split
      · apply hdrop
      · split
        · split
          · apply hdrop
          · rename_i info hinfo
            cases hremove : info.removeHeader with
            | true =>
                rw [if_pos rfl]
                apply selection_headerRemoval laws hpacket hinfo hremove
            | false =>
                apply Selection.kept packet info hpacket hinfo hremove
        · apply hdrop

/-- A packet was sent: a single message has gone to its destination.  The message refers to the
packet, which is still in the store, or to the packet without its header, which was stored at a
free address while the packet was deleted.  Nothing else has changed in the store. -/
def Forwarded (s s' : σ) (currentMessage : StoreAddress) (handling : Handling Empty) : Prop :=
  ∃ packet info address,
    laws.contents s currentMessage = some packet ∧
    D.findDestination (PusTcReader.getApid packet) = some info ∧
    handling.sent = [(info.destId, address)] ∧
    if info.removeHeader then
      laws.contents s address = none ∧
      laws.contents s' = Function.update
        (Function.update (laws.contents s) currentMessage none) address (some (packet.drop 6))
    else
      address = currentMessage ∧ laws.contents s' = laws.contents s

/-- A packet was not sent, and is not in the store any more.  Nothing else has changed there. -/
def Discarded (s s' : σ) (currentMessage : StoreAddress) (handling : Handling Empty) : Prop :=
  handling.sent = [] ∧
    laws.contents s' = Function.update (laws.contents s) currentMessage none

/-- A message is handled, and its packet is either forwarded or discarded. -/
def Conserves (s : Unit × σ) : TcDistributorBase.Input σ → Prop
  | .received currentMessage queueStatus =>
      ∃ s' handling, D.toBase.handlePacket currentMessage queueStatus s = some (s', handling) ∧
        Xor (Forwarded laws s.2 s'.2 currentMessage handling)
          (Discarded laws s.2 s'.2 currentMessage handling)
  | .others _ => True

/-- A packet is not forwarded when nothing is sent. -/
theorem not_forwarded_of_sent_nil {s s' : σ} {currentMessage : StoreAddress}
    {handling : Handling Empty} (h : handling.sent = []) :
  ¬ Forwarded laws s s' currentMessage handling
  := by
  rintro ⟨_, _, _, _, _, hsent, _⟩
  rw [h] at hsent
  cases hsent

/-- A message that is received is handled, and its packet is either forwarded or discarded. -/
theorem conserves_received (s : Unit × σ) (currentMessage : StoreAddress)
    (queueStatus : ReturnValue) :
  Conserves laws s (.received currentMessage queueStatus)
  := by
  have hselect := selection_selectDestination laws currentMessage s.2
  simp only [Conserves, TcDistributorBase.handlePacket, toBase]
  generalize D.selectDestination currentMessage s.2 = selected at hselect
  cases hselect with
  | dropped result s' hdeleted =>
      use ((), s'), ⟨[], [], result⟩, rfl
      apply Or.inr ⟨⟨rfl, hdeleted⟩, not_forwarded_of_sent_nil laws rfl⟩
  | kept packet info hpacket hinfo hremove =>
      by_cases hqueue : queueStatus = .ok
      · simp only [callbackAfterSending, hqueue, ne_eq, not_true_eq_false, if_false, if_true]
        use ((), s.2), ⟨[(info.destId, currentMessage)], [], .ok⟩, rfl
        left
        constructor
        · use packet, info, currentMessage, hpacket, hinfo, rfl
          simp [hremove]
        · rintro ⟨hsent, _⟩
          cases hsent
      · simp only [callbackAfterSending, hqueue, ne_eq, not_false_eq_true, if_true, if_false]
        use ((), (D.tcStore.deleteData currentMessage s.2).2), ⟨[], [], .ok⟩, rfl
        right
        refine ⟨⟨rfl, ?_⟩, not_forwarded_of_sent_nil laws rfl⟩
        apply laws.contents_deleteData_eq
  | stripped packet info address s' hpacket hinfo hremove hfree hstored =>
      by_cases hqueue : queueStatus = .ok
      · simp only [callbackAfterSending, hqueue, ne_eq, not_true_eq_false, if_false, if_true]
        use ((), s'), ⟨[(info.destId, address)], [], .ok⟩, rfl
        left
        constructor
        · use packet, info, address, hpacket, hinfo, rfl
          rw [if_pos hremove]
          use hfree, hstored
        · rintro ⟨hsent, _⟩
          cases hsent
      · simp only [callbackAfterSending, hqueue, ne_eq, not_false_eq_true, if_true, if_false]
        use ((), (D.tcStore.deleteData address s').2), ⟨[], [], .ok⟩, rfl
        right
        refine ⟨⟨rfl, ?_⟩, not_forwarded_of_sent_nil laws rfl⟩
        -- What was stored is deleted again, from an address that was free.
        have hne : address ≠ currentMessage := by
          intro h
          rw [h, hpacket] at hfree
          cases hfree
        rw [laws.contents_deleteData_eq, hstored, Function.update_idem]
        funext storeId
        by_cases h : storeId = address
        · rw [h, Function.update_self, Function.update_of_ne hne, hfree]
        · rw [Function.update_of_ne h]

/-- Whatever messages are received, whatever the packets are, whatever becomes of sending them on,
and whatever the other users of the store do in between: every packet that is received is either
forwarded or discarded. -/
theorem conserves_of_run (D : CcsdsDistributor σ) (laws : D.tcStore.Reliable) (s : Unit × σ)
    (inputs : List (TcDistributorBase.Input σ)) :
  D.toBase.step.Along (Conserves laws) s inputs
  := by
  induction inputs generalizing s with
  | nil =>
      trivial
  | cons input inputs ih =>
      constructor
      · cases input with
        | received currentMessage queueStatus =>
            apply conserves_received
        | others store =>
            trivial
      · intro s' handling _
        apply ih

/-- A distributor with one destination, for the APID 1, that wants packets without headers. -/
def stripping : CcsdsDistributor (StoreAddress → Option (List UInt8)) where
  defaultApid := 4
  tcStore := tableStore 2
  packetChecker := CcsdsPacketChecker.checkPacket ⟨none, true, 0⟩
  receiverMap := fun apid => if apid = 1 then some ⟨1, 3, true⟩ else none

def stripping_reliable : stripping.tcStore.Reliable :=
  tableStore.reliable 2

/-- A store with a packet whose APID is 1. -/
def strippingStore : StoreAddress → Option (List UInt8) :=
  Function.update (fun _ => none) ⟨0, 0⟩ (some [0x18, 1, 0xC0, 0, 0, 1, 7, 8])

/-- The data field of the packet is sent on, from the second place of the store. -/
theorem conserves_stripping :
  stripping.toBase.step.Along (Conserves stripping_reliable) ((), strippingStore)
      [.received ⟨0, 0⟩ .ok] ∧
    (stripping.toBase.handlePacket ⟨0, 0⟩ .ok ((), strippingStore)).map
      (fun out => (out.2.sent, out.1.2 ⟨0, 0⟩, out.1.2 ⟨0, 1⟩)) =
        some ([(3, ⟨0, 1⟩)], none, some [7, 8])
  := by
  constructor
  · apply conserves_of_run stripping
  · decide +kernel

end CcsdsDistributor
