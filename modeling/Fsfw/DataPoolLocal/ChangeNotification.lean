import Fsfw.DataPoolLocal.UpdateCounters

/-!
# Notification of changes

Every subscriber of a data set or a variable that has changed should be sent one message by an
operation of the manager, and the change should be reset after that.  This fails in two ways.
Packets with the data of a set go to the default destination instead of the one of the subscriber.
And the counters of a data set and a variable are confused when the pool id of the variable is the
object id of the set, since the list of counters is searched by ids alone.  There are no other ways
(`notifies_iff`).
-/

open MessageQueueIF

namespace LocalDataPoolManager

variable {σ : Type*}

/-! ### Subscriptions -/

inductive Subscription where
  | updatePacket (sid : Sid) (receiver : MessageQueueId) (isDiagnostics : Bool)
  | setUpdate (setId : UInt32) (targetQueueId : MessageQueueId) (generateSnapshot : Bool)
  | variableUpdate (localPoolId : UInt32) (targetQueueId : MessageQueueId)
      (generateSnapshot : Bool)

/-- What a subscription does. -/
def subscribe (M : LocalDataPoolManager σ) (s : State σ) : Subscription → State σ
  | .updatePacket sid receiver isDiagnostics =>
      M.subscribeForUpdatePacket sid receiver isDiagnostics s
  | .setUpdate setId targetQueueId generateSnapshot =>
      M.subscribeForSetUpdateMessage setId targetQueueId generateSnapshot s
  | .variableUpdate localPoolId targetQueueId generateSnapshot =>
      subscribeForVariableUpdateMessage localPoolId targetQueueId generateSnapshot s

/-- The state after subscriptions to a manager that had none. -/
def subscribed (M : LocalDataPoolManager σ) (pool : Pool) (store : σ)
    (subscriptions : List Subscription) : State σ :=
  subscriptions.foldl M.subscribe ⟨pool, [], [], store⟩

namespace Subscription

/-- The item that a subscription is for. -/
def item (M : LocalDataPoolManager σ) : Subscription → Item
  | updatePacket sid _ _ => .set sid
  | setUpdate setId _ _ => .set ⟨M.ownerObjectId, setId⟩
  | variableUpdate localPoolId _ _ => .poolVariable localPoolId

/-- The queue to which the subscriber wants messages to be sent. -/
def destination (M : LocalDataPoolManager σ) : Subscription → MessageQueueId
  | updatePacket _ receiver _ => if receiver = noQueue then M.hkDestinationId else receiver
  | setUpdate _ targetQueueId _ => targetQueueId
  | variableUpdate _ targetQueueId _ => targetQueueId

/-- A message is of the kind that the subscriber wants, about the right item. -/
def Wants (M : LocalDataPoolManager σ) : Subscription → HkMessage → Prop
  | updatePacket sid _ _, .hkReport sid' _ => sid' = sid
  | updatePacket sid _ _, .diagnosticsReport sid' _ => sid' = sid
  | setUpdate setId _ false, .updateNotificationSet sid => sid = ⟨M.ownerObjectId, setId⟩
  | setUpdate setId _ true, .updateSnapshotSet sid _ => sid = ⟨M.ownerObjectId, setId⟩
  | variableUpdate localPoolId _ false, .updateNotificationVariable objectId localPoolId' =>
      objectId = M.ownerObjectId ∧ localPoolId' = localPoolId
  | variableUpdate localPoolId _ true, .updateSnapshotVariable objectId localPoolId' _ =>
      objectId = M.ownerObjectId ∧ localPoolId' = localPoolId
  | _, _ => False

/-- A message is the one that the subscriber wants, and goes to its own queue. -/
def Reached (M : LocalDataPoolManager σ) (subscription : Subscription)
    (message : MessageQueueId × HkMessage) : Prop :=
  message.1 = subscription.destination M ∧ subscription.Wants M message.2

/-- Packets with the data of a set are sent to the default destination, so this has to be the one
that the subscriber wants. -/
def WellDirected (M : LocalDataPoolManager σ) : Subscription → Prop
  | updatePacket _ receiver _ =>
      M.hkDestinationId ≠ noQueue ∧ (receiver = noQueue ∨ receiver = M.hkDestinationId)
  | _ => True

end Subscription

/-! ### What the operation should do -/

/-- The operations of the store and of the queue work, as far as it depends on the outcome. -/
def Outcome.Succeeds (outcome : Outcome) : Prop :=
  outcome.serializeStatus = .ok ∧ outcome.bytes ≠ [] ∧ outcome.sendStatus = .ok

/-- There is room for `n` more packets, of any size. -/
def HasRoom (S : PacketStoreIF σ) : ℕ → σ → Prop
  | 0, _ => True
  | n + 1, s => ∀ size bytes, (S.getFreeElement size s).1 = .ok ∧
      HasRoom S n s ∧
      HasRoom S n (S.write (S.getFreeElement size s).2.1 bytes (S.getFreeElement size s).2.2)

/-- The operation sends each subscriber of an item that has changed one message, and no other
messages.  Then all flags are reset, so that a second operation sends nothing. -/
def Notifies (M : LocalDataPoolManager σ) (subscriptions : List Subscription) (store : σ)
    (outcomes : ℕ → Outcome) (pool : Pool) : Prop :=
  ∃ status sent s,
    M.performHkOperation outcomes (M.subscribed pool store subscriptions) =
      some (status, sent, s) ∧
    List.Forall₂ (Subscription.Reached M)
      (subscriptions.filter fun subscription => pool.changed? (subscription.item M) = some true)
      sent ∧
    (∀ subscription ∈ subscriptions, s.pool.changed? (subscription.item M) ≠ some true) ∧
    ∀ outcomes', ∃ status' s', M.performHkOperation outcomes' s = some (status', [], s')

/-! ### The state after subscriptions -/

/-- The receiver that a subscription adds. -/
def Subscription.toReceiver (M : LocalDataPoolManager σ) (subscription : Subscription) :
    HkReceiver where
  dataType := (subscription.item M).dataType
  dataId := (subscription.item M).dataId
  reportingType :=
    match subscription with
    | updatePacket _ _ _ => .updateHk
    | setUpdate _ _ generateSnapshot | variableUpdate _ _ generateSnapshot =>
        if generateSnapshot then .updateSnapshot else .updateNotification
  destinationQueue := subscription.destination M

theorem changed?_modifyDataSet (pool : Pool) (sid : Sid) (f : DataSet → DataSet)
    (hf : ∀ dataSet, (f dataSet).changed = dataSet.changed) (item : Item) :
  (pool.modifyDataSet sid f).changed? item = pool.changed? item
  := by
  cases item with
  | poolVariable localPoolId =>
      rfl
  | set sid' =>
      simp only [Pool.changed?, Pool.hasChanged, Pool.modifyDataSet, Item.dataType, Item.dataId]
      by_cases h : sid' = sid
      · rw [h, Function.update_self]
        cases pool.getDataSetHandle sid with
        | none =>
            rfl
        | some dataSet =>
            apply congrArg some (hf dataSet)
      · rw [Function.update_of_ne h]

/-- What subscriptions change, and what they leave alone. -/
theorem foldl_subscribe (M : LocalDataPoolManager σ) (subscriptions : List Subscription)
    (s : State σ) :
  (subscriptions.foldl M.subscribe s).hkReceivers =
      s.hkReceivers ++ subscriptions.map (Subscription.toReceiver M) ∧
    (subscriptions.foldl M.subscribe s).hkUpdateResetList =
      insertAll (subscriptions.map (Subscription.item M)) s.hkUpdateResetList ∧
    (subscriptions.foldl M.subscribe s).pool.changed? = s.pool.changed? ∧
    (subscriptions.foldl M.subscribe s).store = s.store
  := by
  induction subscriptions generalizing s with
  | nil =>
      simp [insertAll]
  | cons subscription subscriptions ih =>
      obtain ⟨hreceivers, hcounters, hchanged, hstore⟩ := ih (M.subscribe s subscription)
      have hpool : (M.subscribe s subscription).pool.changed? = s.pool.changed? := by
        cases subscription with
        | updatePacket sid receiver isDiagnostics =>
            funext item
            apply changed?_modifyDataSet
            intro dataSet
            rfl
        | setUpdate setId targetQueueId generateSnapshot =>
            rfl
        | variableUpdate localPoolId targetQueueId generateSnapshot =>
            rfl
      have hreceiver : (M.subscribe s subscription).hkReceivers =
          s.hkReceivers ++ [subscription.toReceiver M] := by
        cases subscription <;> rfl
      have hinsert : (M.subscribe s subscription).hkUpdateResetList =
          handleHkUpdateResetListInsertion (subscription.item M).dataType
            (subscription.item M).dataId s.hkUpdateResetList := by
        cases subscription <;> rfl
      have hsame : (M.subscribe s subscription).store = s.store := by
        cases subscription <;> rfl
      rw [List.foldl_cons]
      refine ⟨?_, ?_, ?_, ?_⟩
      · rw [hreceivers, hreceiver, List.map_cons, List.append_assoc, List.singleton_append]
      · rw [hcounters, hinsert]
        rfl
      · rw [hchanged, hpool]
      · rw [hstore, hsame]

/-- The state after subscriptions to a manager that had none. -/
theorem subscribed_spec (M : LocalDataPoolManager σ) (subscriptions : List Subscription)
    (pool : Pool) (store : σ) :
  (M.subscribed pool store subscriptions).hkReceivers =
      subscriptions.map (Subscription.toReceiver M) ∧
    (M.subscribed pool store subscriptions).hkUpdateResetList =
      insertAll (subscriptions.map (Subscription.item M)) [] ∧
    (M.subscribed pool store subscriptions).pool.changed? = pool.changed? ∧
    (M.subscribed pool store subscriptions).store = store
  := by
  apply foldl_subscribe M subscriptions ⟨pool, [], [], store⟩

/-! ### Telling a receiver -/

/-- The state after a receiver of an item has been told about a change. -/
def told (item : Item) (s : State σ) : State σ :=
  handleChangeResetLogic item.dataType item.dataId s

/-- Whether telling one more receiver of an item resets the change. -/
def Resets (item : Item) (s : State σ) : Prop :=
  ∃ count ∈ counters item s.hkUpdateResetList, count.1 ≤ 1 ∨ count.2 ≤ 1

theorem changed?_setUnchanged (pool : Pool) (item item' : Item) :
  (pool.setUnchanged item.dataType item.dataId).changed? item' =
    if item' = item then (pool.changed? item).map fun _ => false else pool.changed? item'
  := by
  cases item with
  | set sid =>
      cases item' with
      | set sid' =>
          simp only [Pool.changed?, Pool.hasChanged, Pool.setUnchanged, Pool.modifyDataSet,
            Item.dataType, Item.dataId, Item.set.injEq]
          split_ifs with h
          · rw [h, Function.update_self]
            cases pool.getDataSetHandle sid <;> rfl
          · rw [Function.update_of_ne h]
      | poolVariable localPoolId' =>
          rfl
  | poolVariable localPoolId =>
      cases item' with
      | set sid' =>
          rfl
      | poolVariable localPoolId' =>
          simp only [Pool.changed?, Pool.hasChanged, Pool.setUnchanged, Item.dataType, Item.dataId,
            DataId.ofLocalPoolId, DataId.localPoolId, Item.poolVariable.injEq]
          split_ifs with h
          · rw [h, Function.update_self]
          · rw [Function.update_of_ne h]

theorem changed?_told (item item' : Item) (s : State σ) [Decidable (Resets item s)] :
  (told item s).pool.changed? item' =
    if item' = item ∧ Resets item s then
      (s.pool.changed? item).map fun _ => false
    else
      s.pool.changed? item'
  := by
  have hresets : (countDown item.dataType item.dataId s.hkUpdateResetList).1 = true ↔
      Resets item s := by
    rw [countDown_fst, Option.any_eq_true]
    simp [Resets]
  simp only [told, handleChangeResetLogic]
  by_cases h : Resets item s
  · rw [if_pos (hresets.mpr h), changed?_setUnchanged]
    simp [h]
  · rw [if_neg (hresets.not.mpr h)]
    simp [h]

theorem counters_told (item item' : Item) (s : State σ) :
  counters item' (told item s).hkUpdateResetList =
    (counters item' s.hkUpdateResetList).map fun count =>
      if item' = item ∧ ¬ count.1 ≤ 1 then (count.1, count.2 - 1) else count
  := by
  apply counters_countDown

/-- Telling a receiver does nothing to an item without counters. -/
theorem told_of_counters_eq_none {item item' : Item} {s : State σ}
    (h : counters item' s.hkUpdateResetList = none) :
  counters item' (told item s).hkUpdateResetList = none ∧
    (told item s).pool.changed? item' = s.pool.changed? item'
  := by
  classical
  constructor
  · rw [counters_told, h]
    rfl
  · rw [changed?_told, if_neg]
    rintro ⟨rfl, count, hcount, _⟩
    rw [h] at hcount
    cases hcount

variable {M : LocalDataPoolManager σ} {s : State σ} {subscription : Subscription}

/-- Whether a receiver gets a message or a snapshot, it is handled alike when its item has not
changed. -/
theorem handleNotification_of_unchanged (M : LocalDataPoolManager σ) (receiver : HkReceiver)
    (h : s.pool.hasChanged receiver.dataType receiver.dataId ≠ some true) (outcome : Outcome)
    (status : ReturnValue) :
  ∃ result, M.handleNotificationUpdate receiver outcome status s = some ⟨result, status, [], s⟩ ∧
    M.handleNotificationSnapshot receiver outcome status s = some ⟨result, status, [], s⟩
  := by
  simp only [handleNotificationUpdate, handleNotificationSnapshot]
  cases hchanged : s.pool.hasChanged receiver.dataType receiver.dataId with
  | none =>
      refine ⟨_, rfl, rfl⟩
  | some changed =>
      cases changed with
      | false =>
          refine ⟨_, rfl, rfl⟩
      | true =>
          cases h hchanged

/-- A receiver of an item that has not changed is sent nothing. -/
theorem handleReceiver_of_unchanged
    (h : s.pool.changed? (subscription.item M) ≠ some true) (outcome : Outcome)
    (status : ReturnValue) :
  ∃ handled, M.handleReceiver (subscription.toReceiver M) outcome status s = some handled ∧
    handled.sent = [] ∧
    (handled.state = s ∨ handled.state = told (subscription.item M) s)
  := by
  obtain ⟨result, hupdate, hsnapshot⟩ :=
    handleNotification_of_unchanged M (subscription.toReceiver M) h outcome status
  cases subscription with
  | updatePacket sid receiver isDiagnostics =>
      simp only [handleReceiver, Subscription.toReceiver, handleHkUpdate, Subscription.item,
        Item.dataType, Item.dataId, reduceCtorEq, if_false]
      simp only [Pool.changed?, Pool.hasChanged, Subscription.item, Item.dataType,
        Item.dataId] at h
      cases hset : s.pool.getDataSetHandle sid with
      | none =>
          refine ⟨_, rfl, rfl, Or.inl rfl⟩
      | some dataSet =>
          rw [hset] at h
          have hflag : dataSet.changed = false := by
            simpa using h
          simp only [hflag, Bool.false_eq_true, if_false]
          refine ⟨_, rfl, rfl, Or.inr rfl⟩
  | setUpdate setId targetQueueId generateSnapshot =>
      cases generateSnapshot with
      | false =>
          refine ⟨_, hupdate, rfl, Or.inl rfl⟩
      | true =>
          refine ⟨_, hsnapshot, rfl, Or.inl rfl⟩
  | variableUpdate localPoolId targetQueueId generateSnapshot =>
      cases generateSnapshot with
      | false =>
          refine ⟨_, hupdate, rfl, Or.inl rfl⟩
      | true =>
          refine ⟨_, hsnapshot, rfl, Or.inl rfl⟩

/-- A message has the data of a set. -/
def HkMessage.IsHousekeeping : HkMessage → Prop
  | hkReport _ _ | diagnosticsReport _ _ => True
  | _ => False

/-- A housekeeping packet is sent to the default destination, if there is one. -/
theorem generateHousekeepingPacket_of_succeeds (hqueue : M.hkQueue = true) {outcome : Outcome}
    (houtcome : outcome.Succeeds) {n : ℕ} {store : σ} (hroom : HasRoom M.ipcStore (n + 1) store)
    (sid : Sid) (dataSet : DataSet) :
  ∃ result sent store', M.generateHousekeepingPacket sid (some dataSet) noQueue outcome store =
      (result, sent, store') ∧ HasRoom M.ipcStore n store' ∧
    if M.hkDestinationId = noQueue then
      sent = []
    else
      ∃ storeId, sent = [(M.hkDestinationId,
        housekeepingReport dataSet.isDiagnostics sid storeId)]
  := by
  obtain ⟨hserialize, hbytes, hsend⟩ := houtcome
  obtain ⟨hok, _, hrest⟩ := hroom outcome.size outcome.bytes
  simp only [generateHousekeepingPacket, serializeHkPacketIntoStore]
  generalize M.ipcStore.getFreeElement outcome.size store = reserved at hok hrest
  obtain ⟨result, storeId, store'⟩ := reserved
  cases hok
  simp only [hserialize, ne_eq, not_true_eq_false, List.length_eq_zero_iff, hbytes, or_false,
    if_false, hqueue, true_and, if_true]
  split_ifs with hdestination
  · refine ⟨_, _, _, rfl, hrest, rfl⟩
  · refine ⟨_, _, _, rfl, hrest, storeId, ?_⟩
    simp [sentIf, hsend]

/-- What becomes of a receiver of an item that has changed: it is told so, and when it is directed
well, it is sent the message it wants. -/
def Informed (M : LocalDataPoolManager σ) (subscription : Subscription) (n : ℕ) (s : State σ)
    (handled : Handled σ) : Prop :=
  (∃ store, handled.state = { told (subscription.item M) s with store := store } ∧
      HasRoom M.ipcStore n store) ∧
    (subscription.WellDirected M →
      ∃ message, handled.sent = [message] ∧ subscription.Reached M message) ∧
    ∀ message ∈ handled.sent, message.2.IsHousekeeping →
      message.1 = M.hkDestinationId ∧ M.hkDestinationId ≠ noQueue

/-- A receiver that is to be notified or sent a snapshot is told about the change, and gets the
message. -/
theorem handleNotification_of_changed (hqueue : M.hkQueue = true) {outcome : Outcome}
    (houtcome : outcome.Succeeds) {n : ℕ} (hroom : HasRoom M.ipcStore (n + 1) s.store)
    (receiver : HkReceiver) (h : s.pool.hasChanged receiver.dataType receiver.dataId = some true)
    (status : ReturnValue) :
  M.handleNotificationUpdate receiver outcome status s = some ⟨.ok, status,
      [(receiver.destinationQueue, M.updateNotification receiver.dataType receiver.dataId)],
      handleChangeResetLogic receiver.dataType receiver.dataId s⟩ ∧
    ∃ storeId store, HasRoom M.ipcStore n store ∧
      M.handleNotificationSnapshot receiver outcome status s = some ⟨.ok, status,
        [(receiver.destinationQueue, M.updateSnapshot storeId receiver.dataType receiver.dataId)],
        handleChangeResetLogic receiver.dataType receiver.dataId { s with store := store }⟩
  := by
  obtain ⟨hserialize, hbytes, hsend⟩ := houtcome
  obtain ⟨hok, _, hrest⟩ := hroom outcome.size outcome.bytes
  constructor
  · simp [handleNotificationUpdate, h, hqueue, hsend, sentIf]
  · simp only [handleNotificationSnapshot, addUpdateToStore, h]
    generalize M.ipcStore.getFreeElement outcome.size s.store = reserved at hok hrest
    obtain ⟨result, storeId, store⟩ := reserved
    cases hok
    use storeId, M.ipcStore.write storeId outcome.bytes store, hrest
    simp [hserialize, hqueue, hsend, sentIf]

/-- Every receiver of an item that has changed is informed. -/
theorem handleReceiver_of_changed (hqueue : M.hkQueue = true) {outcome : Outcome}
    (houtcome : outcome.Succeeds) {n : ℕ} (hroom : HasRoom M.ipcStore (n + 1) s.store)
    (h : s.pool.changed? (subscription.item M) = some true) (status : ReturnValue) :
  ∃ handled, M.handleReceiver (subscription.toReceiver M) outcome status s = some handled ∧
    Informed M subscription n s handled
  := by
  have hroom' : HasRoom M.ipcStore n s.store := (hroom 0 []).2.1
  obtain ⟨hupdate, storeId, store, hstore, hsnapshot⟩ :=
    handleNotification_of_changed hqueue houtcome hroom (subscription.toReceiver M) h status
  cases subscription with
  | updatePacket sid receiver isDiagnostics =>
      obtain ⟨dataSet, hset, hflag⟩ := Option.map_eq_some_iff.mp h
      obtain ⟨result, sent, store, hgenerate, hroom'', hsent⟩ :=
        generateHousekeepingPacket_of_succeeds hqueue houtcome hroom sid dataSet
      change s.pool.getDataSetHandle sid = some dataSet at hset
      simp only [handleReceiver, Subscription.toReceiver, handleHkUpdate, Subscription.item,
        Item.dataType, Item.dataId, reduceCtorEq, if_false, hset, hflag, if_true, hgenerate]
      refine ⟨_, rfl, ⟨store, rfl, hroom''⟩, ?_, ?_⟩
      · rintro ⟨hdefault, hreceiver⟩
        rw [if_neg hdefault] at hsent
        obtain ⟨storeId, rfl⟩ := hsent
        refine ⟨_, rfl, ?_, ?_⟩
        · rcases hreceiver with hreceiver | hreceiver
          · simp [Subscription.destination, hreceiver]
          · simp [Subscription.destination, hreceiver]
        · cases hdiagnostics : dataSet.isDiagnostics <;>
            simp [housekeepingReport, Subscription.Wants]
      · intro message hmessage _
        split_ifs at hsent with hdefault
        · simp only [hsent] at hmessage
          cases hmessage
        · obtain ⟨storeId, rfl⟩ := hsent
          cases List.mem_singleton.mp hmessage
          use rfl
  | setUpdate setId targetQueueId generateSnapshot =>
      cases generateSnapshot with
      | false =>
          refine ⟨_, hupdate, ⟨s.store, rfl, hroom'⟩, fun _ => ⟨_, rfl, rfl, rfl⟩, ?_⟩
          simp [HkMessage.IsHousekeeping, updateNotification, Subscription.toReceiver,
            Subscription.item, Item.dataType]
      | true =>
          refine ⟨_, hsnapshot, ⟨store, rfl, hstore⟩, fun _ => ⟨_, rfl, rfl, rfl⟩, ?_⟩
          simp [HkMessage.IsHousekeeping, updateSnapshot, Subscription.toReceiver,
            Subscription.item, Item.dataType]
  | variableUpdate localPoolId targetQueueId generateSnapshot =>
      cases generateSnapshot with
      | false =>
          refine ⟨_, hupdate, ⟨s.store, rfl, hroom'⟩, fun _ => ⟨_, rfl, rfl, rfl, rfl⟩, ?_⟩
          simp [HkMessage.IsHousekeeping, updateNotification, Subscription.toReceiver,
            Subscription.item, Item.dataType]
      | true =>
          refine ⟨_, hsnapshot, ⟨store, rfl, hstore⟩, fun _ => ⟨_, rfl, rfl, rfl, rfl⟩, ?_⟩
          simp [HkMessage.IsHousekeeping, updateSnapshot, Subscription.toReceiver,
            Subscription.item, Item.dataType]

/-! ### The operation -/

/-- Telling a receiver marks nothing as changed. -/
theorem changed?_of_told {item item' : Item} (h : (told item s).pool.changed? item' = some true) :
  s.pool.changed? item' = some true
  := by
  classical
  rw [changed?_told] at h
  split_ifs at h
  · simp at h
  · apply h

/-- Nothing is sent when nothing has changed. -/
theorem handleReceivers_of_unchanged {subscriptions : List Subscription}
    (h : ∀ subscription ∈ subscriptions, s.pool.changed? (subscription.item M) ≠ some true)
    (outcomes : ℕ → Outcome) (status : ReturnValue) :
  ∃ status' s', M.handleReceivers (subscriptions.map (Subscription.toReceiver M)) outcomes status
    s = some (status', [], s')
  := by
  induction subscriptions generalizing outcomes status s with
  | nil =>
      use status, s
      rfl
  | cons subscription subscriptions ih =>
      rw [List.forall_mem_cons] at h
      obtain ⟨handled, hhandled, hsent, hstate⟩ :=
        handleReceiver_of_unchanged h.1 (outcomes 0) status
      have hrest : ∀ subscription ∈ subscriptions,
          handled.state.pool.changed? (subscription.item M) ≠ some true := by
        intro subscription' hmem hchanged
        apply h.2 subscription' hmem
        rcases hstate with hstate | hstate
        · rw [← hstate]
          apply hchanged
        · rw [hstate] at hchanged
          apply changed?_of_told hchanged
      obtain ⟨status', s', hrun⟩ := ih hrest (fun n => outcomes (n + 1)) handled.status
      use status', s'
      simp [handleReceivers, hhandled, hrun, hsent]

/-- The counters of the items that have changed fit to the receivers that have still to be told. -/
def Counted (M : LocalDataPoolManager σ) (subscriptions : List Subscription) (s : State σ) : Prop :=
  ∀ item ∈ subscriptions.map (Subscription.item M), s.pool.changed? item = some true →
    ∃ count ∈ counters item s.hkUpdateResetList,
      (count.1 ≤ 1 ∧ (subscriptions.map (Subscription.item M)).count item = 1) ∨
        (1 < count.1 ∧ count.2 = (subscriptions.map (Subscription.item M)).count item)

/-- The change is reset exactly when there are no further receivers to be told. -/
theorem Counted.resets_iff {subscriptions : List Subscription}
    (h : Counted M (subscription :: subscriptions) s)
    (hchanged : s.pool.changed? (subscription.item M) = some true) :
  Resets (subscription.item M) s ↔
    subscription.item M ∉ subscriptions.map (Subscription.item M)
  := by
  obtain ⟨count, hcount, hfits⟩ := h _ List.mem_cons_self hchanged
  have hcons : ((subscription :: subscriptions).map (Subscription.item M)).count
      (subscription.item M) =
      (subscriptions.map (Subscription.item M)).count (subscription.item M) + 1 := by
    simp
  rw [hcons] at hfits
  rw [← List.count_eq_zero]
  constructor
  · rintro ⟨count', hcount', hlast⟩
    obtain rfl : count = count' := Option.mem_unique hcount hcount'
    omega
  · intro hzero
    use count, hcount
    omega

/-- The counters still fit after a receiver has been told. -/
theorem Counted.told {subscriptions : List Subscription}
    (h : Counted M (subscription :: subscriptions) s) :
  Counted M subscriptions (told (subscription.item M) s)
  := by
  intro item hmem hchanged
  have hbefore := changed?_of_told hchanged
  obtain ⟨count, hcount, hfits⟩ := h item (List.mem_cons_of_mem _ hmem) hbefore
  rw [counters_told]
  by_cases heq : item = subscription.item M
  · subst heq
    -- There are further receivers of the item, so it has more than one.
    have hpos : 0 < (subscriptions.map (Subscription.item M)).count (subscription.item M) :=
      List.count_pos_iff.mpr hmem
    rw [List.map_cons, List.count_cons_self] at hfits
    have hmore : ¬ count.1 ≤ 1 := by
      omega
    use (count.1, count.2 - 1)
    constructor
    · rw [Option.mem_def] at hcount
      rw [hcount]
      simp [hmore]
    · right
      simp only
      omega
  · use count
    constructor
    · rw [Option.mem_def] at hcount
      rw [hcount]
      simp [heq]
    · rw [List.map_cons, List.count_cons_of_ne (Ne.symm heq)] at hfits
      apply hfits

theorem Counted.of_unchanged {subscriptions : List Subscription}
    (h : Counted M (subscription :: subscriptions) s)
    (hchanged : s.pool.changed? (subscription.item M) ≠ some true) :
  Counted M subscriptions s
  := by
  intro item hmem hitem
  obtain ⟨count, hcount, hfits⟩ := h item (List.mem_cons_of_mem _ hmem) hitem
  have hne : subscription.item M ≠ item := by
    rintro rfl
    cases hchanged hitem
  rw [List.map_cons, List.count_cons_of_ne hne] at hfits
  use count, hcount

/-- What is changed after a receiver has been told. -/
theorem Counted.changed?_told_iff {subscriptions : List Subscription}
    (h : Counted M (subscription :: subscriptions) s) (item : Item) :
  (LocalDataPoolManager.told (subscription.item M) s).pool.changed? item = some true ↔
    s.pool.changed? item = some true ∧
      (item = subscription.item M → item ∈ subscriptions.map (Subscription.item M))
  := by
  classical
  rw [changed?_told]
  by_cases heq : item = subscription.item M
  · subst heq
    by_cases hchanged : s.pool.changed? (subscription.item M) = some true
    · by_cases hmem : subscription.item M ∈ subscriptions.map (Subscription.item M)
      · have hresets := (h.resets_iff hchanged).not.mpr (not_not.mpr hmem)
        simp [hresets, hchanged, hmem]
      · have hresets := (h.resets_iff hchanged).mpr hmem
        simp [hresets, hmem]
    · split_ifs <;> simp [hchanged]
  · simp [heq]

/-- When the counters fit, every receiver of an item that has changed is sent its message, and no
item that has receivers is marked as changed after that. -/
theorem handleReceivers_of_counted (hqueue : M.hkQueue = true) {outcomes : ℕ → Outcome}
    (houtcomes : ∀ n, (outcomes n).Succeeds) {subscriptions : List Subscription}
    (hdirected : ∀ subscription ∈ subscriptions, subscription.WellDirected M)
    (hroom : HasRoom M.ipcStore subscriptions.length s.store) (hcounted : Counted M subscriptions s)
    (status : ReturnValue) :
  ∃ status' sent s', M.handleReceivers (subscriptions.map (Subscription.toReceiver M)) outcomes
      status s = some (status', sent, s') ∧
    List.Forall₂ (Subscription.Reached M)
      (subscriptions.filter fun subscription =>
        s.pool.changed? (subscription.item M) = some true) sent ∧
    s'.hkReceivers = s.hkReceivers ∧
    ∀ item, s'.pool.changed? item = some true ↔
      s.pool.changed? item = some true ∧ item ∉ subscriptions.map (Subscription.item M)
  := by
  induction subscriptions generalizing s outcomes status with
  | nil =>
      refine ⟨status, [], s, rfl, .nil, rfl, ?_⟩
      simp
  | cons subscription subscriptions ih =>
      rw [List.forall_mem_cons] at hdirected
      by_cases hchanged : s.pool.changed? (subscription.item M) = some true
      · obtain ⟨handled, hhandled, ⟨store, hstate, hroom'⟩, hinformed, _⟩ :=
          handleReceiver_of_changed hqueue (houtcomes 0) hroom hchanged status
        obtain ⟨message, hsent, hreached⟩ := hinformed hdirected.1
        obtain ⟨status', sent, s', hrun, hall, hreceivers, hflags⟩ :=
          ih (s := { told (subscription.item M) s with store := store })
            (fun n => houtcomes (n + 1)) hdirected.2 hroom' hcounted.told handled.status
        refine ⟨status', message :: sent, s', ?_, ?_, hreceivers, ?_⟩
        · simp [handleReceivers, hhandled, hstate, hrun, hsent]
        · rw [List.filter_cons_of_pos (by simpa using hchanged)]
          apply List.Forall₂.cons hreached
          convert hall using 1
          apply List.filter_congr
          intro subscription' hmem
          rw [decide_eq_decide, hcounted.changed?_told_iff]
          have := List.mem_map_of_mem (f := Subscription.item M) hmem
          tauto
        · intro item
          rw [hflags item, hcounted.changed?_told_iff, List.map_cons, List.mem_cons]
          tauto
      · obtain ⟨handled, hhandled, hsent, hstate⟩ :=
          handleReceiver_of_unchanged hchanged (outcomes 0) status
        -- Whether the receiver was told or not, the same items are marked as changed.
        have hsame : ∀ item, handled.state.pool.changed? item = some true ↔
            s.pool.changed? item = some true := by
          intro item
          rcases hstate with hstate | hstate
          · rw [hstate]
          · rw [hstate, hcounted.changed?_told_iff]
            constructor
            · rintro ⟨h, _⟩
              apply h
            · intro h
              use h
              rintro rfl
              cases hchanged h
        have hcounted' : Counted M subscriptions handled.state := by
          rcases hstate with hstate | hstate
          · rw [hstate]
            apply hcounted.of_unchanged hchanged
          · rw [hstate]
            apply hcounted.told
        have hkeeps : handled.state.store = s.store ∧
            handled.state.hkReceivers = s.hkReceivers := by
          rcases hstate with hstate | hstate
          · rw [hstate]
            use rfl
          · rw [hstate]
            constructor <;> rfl
        have hroom' : HasRoom M.ipcStore subscriptions.length handled.state.store := by
          rw [hkeeps.1]
          apply (hroom 0 []).2.1
        obtain ⟨status', sent, s', hrun, hall, hreceivers, hflags⟩ :=
          ih (fun n => houtcomes (n + 1)) hdirected.2 hroom' hcounted' handled.status
        refine ⟨status', sent, s', ?_, ?_, hreceivers.trans hkeeps.2, ?_⟩
        · simp [handleReceivers, hhandled, hrun, hsent]
        · rw [List.filter_cons_of_neg (by simpa using hchanged)]
          convert hall using 1
          apply List.filter_congr
          intro subscription' _
          rw [decide_eq_decide, hsame]
        · intro item
          rw [hflags item, hsame item, List.map_cons, List.mem_cons]
          constructor
          · rintro ⟨h, hmem⟩
            use h
            rintro (rfl | hmem')
            · cases hchanged h
            · cases hmem hmem'
          · tauto

/-! ### When subscribers are notified -/

/-- When the counters of the items do not clash, they fit at first. -/
theorem counted_subscribed (M : LocalDataPoolManager σ) {subscriptions : List Subscription}
    (hclash : Item.ClashFree [] (subscriptions.map (Subscription.item M)))
    (hcount : ∀ item, (subscriptions.map (Subscription.item M)).count item ≤ 255) (pool : Pool)
    (store : σ) :
  Counted M subscriptions (M.subscribed pool store subscriptions)
  := by
  have htracked : Tracked (subscriptions.map (Subscription.item M))
      (M.subscribed pool store subscriptions).hkUpdateResetList := by
    rw [(subscribed_spec M subscriptions pool store).2.1]
    apply tracked_nil.insertAll hclash hcount
  intro item hmem _
  use ((subscriptions.map (Subscription.item M)).count item,
    (subscriptions.map (Subscription.item M)).count item), htracked.counted item hmem
  have hpos := List.count_pos_iff.mpr hmem
  simp only [and_true]
  omega

/-- Subscribers that are directed well and whose items do not clash are notified. -/
theorem notifies_of_clashFree (hqueue : M.hkQueue = true) {subscriptions : List Subscription}
    (hdirected : ∀ subscription ∈ subscriptions, subscription.WellDirected M)
    (hclash : Item.ClashFree [] (subscriptions.map (Subscription.item M)))
    (hcount : ∀ item, (subscriptions.map (Subscription.item M)).count item ≤ 255) {store : σ}
    (hroom : HasRoom M.ipcStore subscriptions.length store) {outcomes : ℕ → Outcome}
    (houtcomes : ∀ n, (outcomes n).Succeeds) (pool : Pool) :
  M.Notifies subscriptions store outcomes pool
  := by
  obtain ⟨hreceivers, _, hpool, hstore⟩ := subscribed_spec M subscriptions pool store
  rw [← hstore] at hroom
  obtain ⟨status, sent, s', hrun, hall, hkeeps, hflags⟩ :=
    handleReceivers_of_counted hqueue houtcomes hdirected hroom
      (counted_subscribed M hclash hcount pool store) .ok
  rw [← hreceivers] at hrun
  rw [hpool] at hall hflags
  have hunchanged : ∀ subscription ∈ subscriptions,
      s'.pool.changed? (subscription.item M) ≠ some true := by
    intro subscription hmem hchanged
    apply ((hflags _).mp hchanged).2 (List.mem_map_of_mem hmem)
  refine ⟨status, sent, { s' with
    hkUpdateResetList := resetHkUpdateResetHelper s'.hkUpdateResetList }, ?_, hall, hunchanged, ?_⟩
  · simp only [performHkOperation, hrun]
  · intro outcomes'
    obtain ⟨status', s'', hrun'⟩ := handleReceivers_of_unchanged (s := { s' with
      hkUpdateResetList := resetHkUpdateResetHelper s'.hkUpdateResetList }) hunchanged outcomes' .ok
    rw [← hreceivers, ← hkeeps] at hrun'
    use status', { s'' with
      hkUpdateResetList := resetHkUpdateResetHelper s''.hkUpdateResetList }
    simp only [performHkOperation, hrun']

/-- Whatever the counters are, packets with data go to the default destination, and an item without
counters stays as it was. -/
theorem handleReceivers_of_succeeds (hqueue : M.hkQueue = true) {outcomes : ℕ → Outcome}
    (houtcomes : ∀ n, (outcomes n).Succeeds) {subscriptions : List Subscription}
    (hroom : HasRoom M.ipcStore subscriptions.length s.store) (status : ReturnValue) :
  ∃ status' sent s', M.handleReceivers (subscriptions.map (Subscription.toReceiver M)) outcomes
      status s = some (status', sent, s') ∧
    (∀ message ∈ sent, message.2.IsHousekeeping →
      message.1 = M.hkDestinationId ∧ M.hkDestinationId ≠ noQueue) ∧
    ∀ item, counters item s.hkUpdateResetList = none →
      s'.pool.changed? item = s.pool.changed? item
  := by
  induction subscriptions generalizing s outcomes status with
  | nil =>
      refine ⟨status, [], s, rfl, ?_, fun _ _ => rfl⟩
      simp
  | cons subscription subscriptions ih =>
      -- What the handling of the first receiver does.
      have hfirst : ∃ handled,
          M.handleReceiver (subscription.toReceiver M) (outcomes 0) status s = some handled ∧
          HasRoom M.ipcStore subscriptions.length handled.state.store ∧
          (∀ message ∈ handled.sent, message.2.IsHousekeeping →
            message.1 = M.hkDestinationId ∧ M.hkDestinationId ≠ noQueue) ∧
          ∀ item, counters item s.hkUpdateResetList = none →
            counters item handled.state.hkUpdateResetList = none ∧
              handled.state.pool.changed? item = s.pool.changed? item := by
        by_cases hchanged : s.pool.changed? (subscription.item M) = some true
        · obtain ⟨handled, hhandled, ⟨store, hstate, hroom'⟩, _, hsent⟩ :=
            handleReceiver_of_changed hqueue (houtcomes 0) hroom hchanged status
          refine ⟨handled, hhandled, ?_, hsent, ?_⟩
          · rw [hstate]
            apply hroom'
          · intro item hnone
            rw [hstate]
            apply told_of_counters_eq_none hnone
        · obtain ⟨handled, hhandled, hsent, hstate⟩ :=
            handleReceiver_of_unchanged hchanged (outcomes 0) status
          refine ⟨handled, hhandled, ?_, ?_, ?_⟩
          · rcases hstate with hstate | hstate
            · rw [hstate]
              apply (hroom 0 []).2.1
            · rw [hstate]
              apply (hroom 0 []).2.1
          · rw [hsent]
            simp
          · intro item hnone
            rcases hstate with hstate | hstate
            · rw [hstate]
              use hnone
            · rw [hstate]
              apply told_of_counters_eq_none hnone
      obtain ⟨handled, hhandled, hroom', hsent, hkeeps⟩ := hfirst
      obtain ⟨status', sent, s', hrun, hsent', hkeeps'⟩ :=
        ih (fun n => houtcomes (n + 1)) hroom' handled.status
      refine ⟨status', handled.sent ++ sent, s', ?_, ?_, ?_⟩
      · simp [handleReceivers, hhandled, hrun]
      · intro message hmem
        rcases List.mem_append.mp hmem with hmem | hmem
        · apply hsent message hmem
        · apply hsent' message hmem
      · intro item hnone
        obtain ⟨hnone', hsame⟩ := hkeeps item hnone
        rw [hkeeps' item hnone', hsame]

theorem exists_reached {subscriptions : List Subscription}
    {sent : List (MessageQueueId × HkMessage)}
    (h : List.Forall₂ (Subscription.Reached M) subscriptions sent)
    (hmem : subscription ∈ subscriptions) :
  ∃ message ∈ sent, subscription.Reached M message
  := by
  induction h with
  | nil =>
      cases hmem
  | @cons _ message _ sent hreached _ ih =>
      rcases List.mem_cons.mp hmem with rfl | hmem
      · use message, List.mem_cons_self
      · obtain ⟨message', hmessage', hreached'⟩ := ih hmem
        use message', List.mem_cons_of_mem _ hmessage'

/-- A pool in which everything has changed. -/
def allChanged : Pool where
  getDataSetHandle _ := some ⟨true, true, false, none⟩
  getPoolObjectHandle _ := some true

theorem changed?_allChanged (item : Item) :
  allChanged.changed? item = some true
  := by
  cases item <;> rfl

/-- When subscribers are notified although everything has changed, they are directed well and their
items do not clash. -/
theorem clashFree_of_notifies (hqueue : M.hkQueue = true) {subscriptions : List Subscription}
    (hcount : ∀ item, (subscriptions.map (Subscription.item M)).count item ≤ 255) {store : σ}
    (hroom : HasRoom M.ipcStore subscriptions.length store) {outcomes : ℕ → Outcome}
    (houtcomes : ∀ n, (outcomes n).Succeeds)
    (h : M.Notifies subscriptions store outcomes allChanged) :
  (∀ subscription ∈ subscriptions, subscription.WellDirected M) ∧
    Item.ClashFree [] (subscriptions.map (Subscription.item M))
  := by
  obtain ⟨hreceivers, hinsert, hpool, hstore⟩ :=
    subscribed_spec M subscriptions allChanged store
  rw [← hstore] at hroom
  obtain ⟨status, sent, s', hrun, hdestination, hkeeps⟩ :=
    handleReceivers_of_succeeds hqueue houtcomes hroom .ok
  rw [← hreceivers] at hrun
  obtain ⟨status', sent', s'', hrun', hall, hflags, _⟩ := h
  simp only [performHkOperation, hrun, Option.some.injEq, Prod.mk.injEq] at hrun'
  obtain ⟨_, rfl, rfl⟩ := hrun'
  constructor
  · intro subscription hmem
    cases subscription with
    | updatePacket sid receiver isDiagnostics =>
        rw [List.filter_eq_self.mpr fun _ _ => by simp [changed?_allChanged]] at hall
        obtain ⟨message, hmessage, hqueue, hwants⟩ := exists_reached hall hmem
        have hdata : message.2.IsHousekeeping := by
          revert hwants
          cases message.2 <;> simp [Subscription.Wants, HkMessage.IsHousekeeping]
        obtain ⟨hdefault, hvalid⟩ := hdestination message hmessage hdata
        use hvalid
        rw [hdefault, Subscription.destination] at hqueue
        split_ifs at hqueue with hreceiver
        · left
          apply hreceiver
        · right
          apply hqueue.symm
    | setUpdate setId targetQueueId generateSnapshot =>
        trivial
    | variableUpdate localPoolId targetQueueId generateSnapshot =>
        trivial
  · by_contra hclash
    obtain ⟨item, hmem, hnone⟩ := tracked_nil.exists_counters_eq_none hclash hcount
    obtain ⟨subscription, hsubscription, rfl⟩ := List.mem_map.mp hmem
    apply hflags subscription hsubscription
    rw [← hinsert] at hnone
    rw [hkeeps _ hnone, hpool, changed?_allChanged]

/-- With a queue, with room in the store and with operations that succeed, subscribers are notified
of all patterns of changes exactly when each is directed well and no items clash. -/
theorem notifies_iff (M : LocalDataPoolManager σ) (hqueue : M.hkQueue = true)
    (subscriptions : List Subscription)
    (hcount : ∀ item, (subscriptions.map (Subscription.item M)).count item ≤ 255) (store : σ)
    (hroom : HasRoom M.ipcStore subscriptions.length store) (outcomes : ℕ → Outcome)
    (houtcomes : ∀ n, (outcomes n).Succeeds) :
  (∀ pool, M.Notifies subscriptions store outcomes pool) ↔
    (∀ subscription ∈ subscriptions, subscription.WellDirected M) ∧
      Item.ClashFree [] (subscriptions.map (Subscription.item M))
  := by
  constructor
  · intro h
    apply clashFree_of_notifies hqueue hcount hroom houtcomes (h allChanged)
  · rintro ⟨hdirected, hclash⟩ pool
    apply notifies_of_clashFree hqueue hdirected hclash hcount hroom houtcomes

/-! ### Small examples -/

/-- A manager with a store for two packets. -/
def pairManager : LocalDataPoolManager (StoreAddress → Option (List UInt8)) where
  ipcStore := tableStore 2
  ownerObjectId := 7
  hkQueue := true
  hkDestinationId := 3

theorem hasRoom_pairManager :
  HasRoom pairManager.ipcStore 2 fun _ => none
  := by
  intro size bytes
  refine ⟨rfl, fun _ _ => ⟨rfl, trivial, trivial⟩, fun _ _ => ⟨?_, trivial, trivial⟩⟩
  simp [pairManager, tableStore, tableStore.freePlace, List.range_succ]

/-- All packets are serialized to the same bytes and sent. -/
def sentOutcome : Outcome :=
  ⟨4, [1, 2, 3, 4], .ok, .ok⟩

/-- A subscriber of packets and one of snapshots are notified. -/
theorem notifies_pairManager :
  pairManager.Notifies [.updatePacket ⟨7, 1⟩ 3 false, .variableUpdate 5 9 true]
    (fun _ => none) (fun _ => sentOutcome) allChanged
  := by
  have hcount : ∀ item, (([.updatePacket ⟨7, 1⟩ 3 false, .variableUpdate 5 9 true] :
      List Subscription).map (Subscription.item pairManager)).count item ≤ 255 := by
    intro item
    apply le_trans List.count_le_length
    decide
  have houtcome : sentOutcome.Succeeds := ⟨rfl, by decide, rfl⟩
  apply (notifies_iff pairManager rfl _ hcount _ hasRoom_pairManager _ fun _ => houtcome).mpr
  constructor
  · simp [Subscription.WellDirected, pairManager, noQueue]
  · simp [Item.ClashFree, Item.Clashes, Subscription.item]

/-- A subscriber of packets that wants them at a queue of its own is not sent any. -/
theorem not_notifies_ownQueue :
  ¬ pairManager.Notifies [.updatePacket ⟨7, 1⟩ 9 false] (fun _ => none) (fun _ => sentOutcome)
    allChanged
  := by
  rintro ⟨status, sent, s, hrun, hall, _⟩
  have hsent : ((pairManager.performHkOperation (fun _ => sentOutcome) (pairManager.subscribed
      allChanged (fun _ => none) [.updatePacket ⟨7, 1⟩ 9 false])).map fun result =>
        result.2.1) = some [(3, .hkReport ⟨7, 1⟩ ⟨0, 0⟩)] := by
    decide +kernel
  rw [hrun] at hsent
  cases hsent
  cases hall with
  | cons hreached _ =>
      cases hreached.1

end LocalDataPoolManager
