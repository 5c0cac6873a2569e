import Fsfw.DataPoolLocal.LocalDataPoolManager

/-!
# The store elements of housekeeping packets

Packets are generated by the manager in an element of the store that is reserved for them.  When
the packet cannot be serialized or the message with its address cannot be sent, only the packets
about the structure of a data set are deleted.  So the other ones do not leak exactly when nothing
fails after the element has been reserved (`leakFree_iff`).
-/

open MessageQueueIF

namespace LocalDataPoolManager

variable {σ : Type*}

/-- The ways in which packets are generated. -/
inductive Generation where
  | housekeeping (sid : Sid) (dataSet : Option DataSet) (destination : MessageQueueId)
  | setStructure (sid : Sid) (isDiagnostics : Bool) (lastPartner : MessageQueueId)
  | snapshot (receiver : HkReceiver)

/-- Generate a packet.  The result has the messages that were sent and the store. -/
def generate (M : LocalDataPoolManager σ) (s : State σ) (outcome : Outcome) :
    Generation → Option (List (MessageQueueId × HkMessage) × σ)
  | .housekeeping sid dataSet destination =>
      some (M.generateHousekeepingPacket sid dataSet destination outcome s.store).2
  | .setStructure sid isDiagnostics lastPartner =>
      (M.generateSetStructurePacket sid isDiagnostics lastPartner outcome s.pool s.store).map
        Prod.snd
  | .snapshot receiver =>
      (M.handleNotificationSnapshot receiver outcome .ok s).map fun handled =>
        (handled.sent, handled.state.store)

/-! ### Leaks -/

/-- Every element that was reserved is either free again, or a single message has its address. -/
def Accounted (contents contents' : StoreAddress → Option (List UInt8))
    (sent : List (MessageQueueId × HkMessage)) : Prop :=
  ∀ storeId, contents storeId = none →
    contents' storeId = none ∨ (sent.filter (·.2.storeId? = some storeId)).length = 1

section

variable {contents : StoreAddress → Option (List UInt8)} {storeId : StoreAddress}

/-- No element is leaked where none is reserved. -/
theorem accounted_refl (sent : List (MessageQueueId × HkMessage)) :
  Accounted contents contents sent
  := by
  intro storeId h
  apply Or.inl h

/-- An element that is in use and whose address is in a message is not leaked. -/
theorem accounted_sent {destination : MessageQueueId} {message : HkMessage} {data : List UInt8}
    (h : message.storeId? = some storeId) :
  Accounted contents (Function.update contents storeId (some data)) [(destination, message)]
  := by
  intro storeId' hfree
  by_cases h' : storeId' = storeId
  · right
    simp [h, h']
  · left
    rw [Function.update_of_ne h', hfree]

/-- An element that is in use while there is no message is leaked. -/
theorem not_accounted_unsent {data : List UInt8} (hfree : contents storeId = none) :
  ¬ Accounted contents (Function.update contents storeId (some data)) []
  := by
  intro h
  have h := h storeId hfree
  simp at h

end

theorem storeId?_housekeepingReport (isDiagnostics : Bool) (sid : Sid) (storeId : StoreAddress) :
  (housekeepingReport isDiagnostics sid storeId).storeId? = some storeId
  := by
  cases isDiagnostics <;> rfl

theorem storeId?_structureReport (isDiagnostics : Bool) (sid : Sid) (storeId : StoreAddress) :
  (structureReport isDiagnostics sid storeId).storeId? = some storeId
  := by
  cases isDiagnostics <;> rfl

theorem storeId?_updateSnapshot (M : LocalDataPoolManager σ) (storeId : StoreAddress)
    (dataType : DataType) (dataId : DataId) :
  (M.updateSnapshot storeId dataType dataId).storeId? = some storeId
  := by
  cases dataType <;> rfl

/-! ### Reserving elements -/

variable {M : LocalDataPoolManager σ} (laws : M.ipcStore.Reliable)

/-- When an element is reserved and written to, it was free before, and is in use after. -/
theorem contents_reserve (bytes : List UInt8) {size : ℕ} {s s' : σ} {storeId : StoreAddress}
    (h : M.ipcStore.getFreeElement size s = (.ok, storeId, s')) :
  laws.contents s storeId = none ∧
    ∃ data, laws.contents (M.ipcStore.write storeId bytes s') =
      Function.update (laws.contents s) storeId (some data)
  := by
  have hfree := laws.free_of_getFreeElement size s
  have hcontents := laws.contents_getFreeElement size s
  rw [h] at hfree hcontents
  obtain ⟨data, _, hdata⟩ := hcontents rfl
  use hfree rfl, bytes ++ data.drop bytes.length
  rw [laws.contents_write storeId bytes s' data, hdata, Function.update_idem]
  rw [hdata, Function.update_self]

/-- When no element is reserved, nothing changes in the store. -/
theorem contents_not_reserved {size : ℕ} {s s' : σ} {result : ReturnValue}
    {storeId : StoreAddress} (h : M.ipcStore.getFreeElement size s = (result, storeId, s'))
    (hresult : result ≠ .ok) :
  laws.contents s' = laws.contents s
  := by
  have hcontents := laws.contents_getFreeElement_failed size s
  rw [h] at hcontents
  apply hcontents hresult

/-- What was reserved is free again after it was deleted. -/
theorem contents_delete_reserved {s s' : σ} {storeId : StoreAddress} {data : List UInt8}
    (hfree : laws.contents s storeId = none)
    (h : laws.contents s' = Function.update (laws.contents s) storeId (some data)) :
  laws.contents (M.ipcStore.deleteData storeId s').2 = laws.contents s
  := by
  rw [laws.contents_deleteData_eq, h, Function.update_idem, ← hfree, Function.update_eq_self]

/-! ### What is needed for a packet not to leak -/

/-- Everything that comes after the reservation of an element for a housekeeping packet works. -/
def DeliversHousekeeping (M : LocalDataPoolManager σ) (destination : MessageQueueId)
    (outcome : Outcome) : Prop :=
  outcome.serializeStatus = .ok ∧ outcome.bytes ≠ [] ∧ M.hkQueue = true ∧
    (destination ≠ noQueue ∨ M.hkDestinationId ≠ noQueue) ∧ outcome.sendStatus = .ok

/-- The condition for a packet not to leak: there is nothing to report, or there is no room for
the packet, or everything after that works. -/
def Delivers (M : LocalDataPoolManager σ) (s : State σ) (outcome : Outcome) : Generation → Prop
  | .housekeeping _ dataSet destination =>
      dataSet = none ∨ (M.ipcStore.getFreeElement outcome.size s.store).1 ≠ .ok ∨
        M.DeliversHousekeeping destination outcome
  | .setStructure _ _ _ => True
  | .snapshot receiver =>
      s.pool.hasChanged receiver.dataType receiver.dataId ≠ some true ∨
        (M.ipcStore.getFreeElement outcome.size s.store).1 ≠ .ok ∨
        (outcome.serializeStatus = .ok ∧ (M.hkQueue = true → outcome.sendStatus = .ok))

/-- When a call returns, no element of the store is leaked. -/
def LeakFree (s : State σ) (outcome : Outcome) (generation : Generation) : Prop :=
  ∀ sent store, M.generate s outcome generation = some (sent, store) →
    Accounted (laws.contents s.store) (laws.contents store) sent

/-- What is left in the store and sent for a housekeeping packet whose element was reserved. -/
theorem generateHousekeepingPacket_of_reserved {outcome : Outcome} {s s' : σ}
    {storeId : StoreAddress}
    (h : M.ipcStore.getFreeElement outcome.size s = (.ok, storeId, s')) (sid : Sid)
    (dataSet : DataSet) (destination : MessageQueueId) :
  (M.generateHousekeepingPacket sid (some dataSet) destination outcome s).2.2 =
      M.ipcStore.write storeId outcome.bytes s' ∧
    ((M.DeliversHousekeeping destination outcome ∧
        ∃ destination' message, message.storeId? = some storeId ∧
          (M.generateHousekeepingPacket sid (some dataSet) destination outcome s).2.1 =
            [(destination', message)]) ∨
      (¬ M.DeliversHousekeeping destination outcome ∧
        (M.generateHousekeepingPacket sid (some dataSet) destination outcome s).2.1 = []))
  := by
  simp only [generateHousekeepingPacket, serializeHkPacketIntoStore, h, DeliversHousekeeping]
  by_cases hserialize : outcome.serializeStatus ≠ .ok ∨ outcome.bytes.length = 0
  · rw [if_pos hserialize]
    use rfl
    right
    refine ⟨?_, rfl⟩
    rintro ⟨hok, hbytes, _⟩
    simp [hok, hbytes] at hserialize
  · rw [if_neg hserialize]
    obtain ⟨hok, hbytes⟩ : outcome.serializeStatus = .ok ∧ outcome.bytes ≠ [] := by
      simpa using hserialize
    by_cases hqueue : M.hkQueue = true
    · rw [if_neg (by simpa using hqueue)]
      by_cases hdestination : destination = noQueue ∧ M.hkDestinationId = noQueue
      · rw [if_pos hdestination]
        use rfl
        right
        refine ⟨?_, rfl⟩
        rintro ⟨_, _, _, hvalid, _⟩
        tauto
      · rw [if_neg hdestination]
        use rfl
        by_cases hsend : outcome.sendStatus = .ok
        · left
          refine ⟨⟨hok, hbytes, hqueue, by tauto, hsend⟩, ?_⟩
          simp only [sentIf, if_pos hsend]
          refine ⟨_, _, storeId?_housekeepingReport _ _ _, rfl⟩
        · right
          simp [sentIf, hsend]
    · rw [if_pos (by simpa using hqueue)]
      use rfl
      right
      simp [hqueue]

/-- Nothing is sent when no element was reserved. -/
theorem generateHousekeepingPacket_of_not_reserved {outcome : Outcome} {s s' : σ}
    {result : ReturnValue} {storeId : StoreAddress}
    (h : M.ipcStore.getFreeElement outcome.size s = (result, storeId, s'))
    (hresult : result ≠ .ok) (sid : Sid) (dataSet : DataSet) (destination : MessageQueueId) :
  (M.generateHousekeepingPacket sid (some dataSet) destination outcome s).2 = ([], s')
  := by
  cases result with
  | ok =>
      cases hresult rfl
  | failed =>
      simp [generateHousekeepingPacket, serializeHkPacketIntoStore, h]
  | makeCode classId number =>
      simp [generateHousekeepingPacket, serializeHkPacketIntoStore, h]

theorem leakFree_housekeeping_iff (s : State σ) (outcome : Outcome) (sid : Sid)
    (dataSet : Option DataSet) (destination : MessageQueueId) :
  LeakFree laws s outcome (.housekeeping sid dataSet destination) ↔
    M.Delivers s outcome (.housekeeping sid dataSet destination)
  := by
  have hleak : LeakFree laws s outcome (.housekeeping sid dataSet destination) ↔
      Accounted (laws.contents s.store)
        (laws.contents (M.generateHousekeepingPacket sid dataSet destination outcome s.store).2.2)
        (M.generateHousekeepingPacket sid dataSet destination outcome s.store).2.1 := by
    simp only [LeakFree, generate, Option.some.injEq]
    constructor
    · intro h
      apply h _ _ rfl
    · rintro h sent store hgenerate
      rw [hgenerate] at h
      apply h
  rw [hleak, Delivers]
  cases dataSet with
  | none =>
      simp only [true_or, iff_true]
      apply accounted_refl
  | some dataSet =>
      simp only [reduceCtorEq, false_or]
      cases hreserve : M.ipcStore.getFreeElement outcome.size s.store with
      | mk result rest =>
          obtain ⟨storeId, store⟩ := rest
          by_cases hresult : result = .ok
          · subst hresult
            obtain ⟨hstore, hsent⟩ :=
              generateHousekeepingPacket_of_reserved hreserve sid dataSet destination
            obtain ⟨hfree, data, hdata⟩ := contents_reserve laws outcome.bytes hreserve
            rw [hstore, hdata]
            simp only [ne_eq, not_true_eq_false, false_or]
            rcases hsent with ⟨hdelivers, destination', message, hmessage, hsent⟩ |
              ⟨hdelivers, hsent⟩
            · rw [hsent]
              simp only [hdelivers, iff_true]
              apply accounted_sent hmessage
            · rw [hsent]
              simp only [hdelivers, iff_false]
              apply not_accounted_unsent hfree
          · simp only [ne_eq, hresult, not_false_eq_true, true_or, iff_true]
            rw [generateHousekeepingPacket_of_not_reserved hreserve hresult,
              contents_not_reserved laws hreserve hresult]
            apply accounted_refl

theorem leakFree_setStructure (s : State σ) (outcome : Outcome) (sid : Sid) (isDiagnostics : Bool)
    (lastPartner : MessageQueueId) :
  LeakFree laws s outcome (.setStructure sid isDiagnostics lastPartner)
  := by
  intro sent store hgenerate
  simp only [generate, Option.map_eq_some_iff, Prod.exists] at hgenerate
  obtain ⟨result, sent, store, hgenerate, hout⟩ := hgenerate
  cases hout
  simp only [generateSetStructurePacket] at hgenerate
  split at hgenerate
  · cases hgenerate
    apply accounted_refl
  · split at hgenerate
    · cases hgenerate
      apply accounted_refl
    · split at hgenerate
      · cases hgenerate
      · split at hgenerate
        · rename_i storeId store' hreserve
          obtain ⟨hfree, data, hdata⟩ := contents_reserve laws outcome.bytes hreserve
          have hdeleted := contents_delete_reserved laws hfree hdata
          split at hgenerate
          · cases hgenerate
            rw [hdeleted]
            apply accounted_refl
          · split at hgenerate
            · cases hgenerate
            · split at hgenerate
              · cases hgenerate
                rw [hdeleted]
                apply accounted_refl
              · cases hgenerate
                rw [hdata]
                apply accounted_sent (storeId?_structureReport _ _ _)
        · rename_i result' storeId store' hresult hreserve
          cases hgenerate
          rw [contents_not_reserved laws hreserve hresult]
          apply accounted_refl

/-- What is left in the store and sent for a snapshot whose element was reserved. -/
theorem generate_snapshot_of_reserved {s : State σ} {outcome : Outcome} {receiver : HkReceiver}
    {storeId : StoreAddress} {store : σ}
    (hchanged : s.pool.hasChanged receiver.dataType receiver.dataId = some true)
    (h : M.ipcStore.getFreeElement outcome.size s.store = (.ok, storeId, store)) :
  M.generate s outcome (.snapshot receiver) =
    if outcome.serializeStatus ≠ .ok then
      some ([], M.ipcStore.write storeId outcome.bytes store)
    else if ¬ M.hkQueue then
      none
    else
      some (sentIf outcome.sendStatus receiver.destinationQueue
        (M.updateSnapshot storeId receiver.dataType receiver.dataId),
          M.ipcStore.write storeId outcome.bytes store)
  := by
  simp only [generate, handleNotificationSnapshot, addUpdateToStore, hchanged, h]
  cases outcome.serializeStatus with
  | ok =>
      cases M.hkQueue <;> rfl
  | failed =>
      rfl
  | makeCode classId number =>
      rfl

/-- Nothing is sent when no element was reserved for a snapshot. -/
theorem generate_snapshot_of_not_reserved {s : State σ} {outcome : Outcome}
    {receiver : HkReceiver} {result : ReturnValue} {storeId : StoreAddress} {store : σ}
    (hchanged : s.pool.hasChanged receiver.dataType receiver.dataId = some true)
    (h : M.ipcStore.getFreeElement outcome.size s.store = (result, storeId, store))
    (hresult : result ≠ .ok) :
  M.generate s outcome (.snapshot receiver) = some ([], store)
  := by
  simp only [generate, handleNotificationSnapshot, addUpdateToStore, hchanged, h]
  cases result with
  | ok =>
      cases hresult rfl
  | failed =>
      rfl
  | makeCode classId number =>
      rfl

theorem leakFree_snapshot_iff (s : State σ) (outcome : Outcome) (receiver : HkReceiver) :
  LeakFree laws s outcome (.snapshot receiver) ↔ M.Delivers s outcome (.snapshot receiver)
  := by
  by_cases hchanged : s.pool.hasChanged receiver.dataType receiver.dataId = some true
  · obtain ⟨result, storeId, store, hreserve⟩ : ∃ result storeId store,
        M.ipcStore.getFreeElement outcome.size s.store = (result, storeId, store) :=
      ⟨_, _, _, rfl⟩
    by_cases hresult : result = .ok
    · subst hresult
      obtain ⟨hfree, data, hdata⟩ := contents_reserve laws outcome.bytes hreserve
      simp only [LeakFree, generate_snapshot_of_reserved hchanged hreserve, Delivers, hchanged,
        hreserve, ne_eq, not_true_eq_false, false_or]
      by_cases hserialize : outcome.serializeStatus = .ok
      · by_cases hqueue : M.hkQueue = true
        · by_cases hsend : outcome.sendStatus = .ok
          · simp [hserialize, hqueue, hsend, sentIf, hdata,
              accounted_sent (storeId?_updateSnapshot M storeId _ _)]
          · simp [hserialize, hqueue, hsend, sentIf, hdata, not_accounted_unsent hfree]
        · simp [hserialize, hqueue]
      · simp [hserialize, hdata, not_accounted_unsent hfree]
    · simp [LeakFree, generate_snapshot_of_not_reserved hchanged hreserve hresult, Delivers,
        hreserve, hresult, contents_not_reserved laws hreserve hresult, accounted_refl]
  · simp only [Delivers, ne_eq, hchanged, not_false_eq_true, true_or, iff_true]
    intro sent store hgenerate
    simp only [generate, handleNotificationSnapshot] at hgenerate
    split at hgenerate
    · cases hgenerate
      apply accounted_refl
    · cases hgenerate
      apply accounted_refl
    · rename_i h
      cases hchanged h

/-- Whatever the results of serializing a packet and sending a message are: generating a packet
leaks no element of the store exactly when the packet is delivered, or nothing is reserved. -/
theorem leakFree_iff (M : LocalDataPoolManager σ) (laws : M.ipcStore.Reliable) (s : State σ)
    (outcome : Outcome) (generation : Generation) :
  LeakFree laws s outcome generation ↔ M.Delivers s outcome generation
  := by
  cases generation with
  | housekeeping sid dataSet destination =>
      apply leakFree_housekeeping_iff
  | setStructure sid isDiagnostics lastPartner =>
      apply iff_of_true (leakFree_setStructure laws s outcome sid isDiagnostics lastPartner)
      trivial
  | snapshot receiver =>
      apply leakFree_snapshot_iff

/-- A manager with a store for a single packet. -/
def smallManager : LocalDataPoolManager (StoreAddress → Option (List UInt8)) where
  ipcStore := tableStore 1
  ownerObjectId := 7
  hkQueue := true
  hkDestinationId := 3

def smallManager_reliable : smallManager.ipcStore.Reliable :=
  tableStore.reliable 1

/-- A data set that has changed. -/
def changedSet : DataSet where
  changed := true
  reportingEnabled := true
  isDiagnostics := false
  periodicHelper := none

/-- A pool whose data sets have changed, and an empty store. -/
def changedState : State (StoreAddress → Option (List UInt8)) where
  pool := ⟨fun _ => some changedSet, fun _ => none⟩
  hkReceivers := []
  hkUpdateResetList := []
  store := fun _ => none

/-- A housekeeping packet that is sent does not leak. -/
theorem leakFree_sent :
  LeakFree smallManager_reliable changedState ⟨4, [1, 2, 3, 4], .ok, .ok⟩
    (.housekeeping ⟨7, 1⟩ (some changedSet) noQueue)
  := by
  apply (leakFree_iff smallManager smallManager_reliable _ _ _).mpr
  right
  right
  use rfl, by decide, rfl, Or.inr (by decide)

/-- A housekeeping packet whose message cannot be sent leaks. -/
theorem not_leakFree_unsent :
  ¬ LeakFree smallManager_reliable changedState ⟨4, [1, 2, 3, 4], .ok, .failed⟩
    (.housekeeping ⟨7, 1⟩ (some changedSet) noQueue)
  := by
  intro h
  have hleft := h [] (smallManager.generateHousekeepingPacket ⟨7, 1⟩ (some changedSet) noQueue
    ⟨4, [1, 2, 3, 4], .ok, .failed⟩ changedState.store).2.2 rfl ⟨0, 0⟩ rfl
  revert hleft
  decide +kernel

end LocalDataPoolManager
