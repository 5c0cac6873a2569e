import Fsfw.Ipc.MessageQueueIF
import Fsfw.StorageManager.PacketStore

/-!
# The manager of a local data pool

The manager generates housekeeping messages about the data sets and the pool variables of its
owner.  Receivers subscribe for packets with the data of a set, in periods or whenever the set has
changed, or for messages that a set or a variable has changed, with or without a snapshot of the
data.  A list of counters keeps track of how many receivers have still to be told about a change,
so that the last one resets the flag of the set or the variable.

Data sets are found by their structure ids, which we take to identify them, and pool variables by
their pool ids.  What a packet is serialized to, and whether this works, is up to the data in the
pool, and whether a message is sent to the queue: both are given as an `Outcome`.
-/

open MessageQueueIF

namespace LocalDataPoolManager

/-! ### Identifiers -/

/-- The id of a data set: the id of the object it belongs to, and its id there. -/
structure Sid where
  objectId : UInt32
  ownerSetId : UInt32
  deriving DecidableEq, Repr

inductive DataType where
  | localPoolVariable
  | dataSet
  deriving DecidableEq, Repr

/-- The union of a structure id and a pool id.  The pool id lies over the object id. -/
structure DataId where
  sid : Sid
  deriving DecidableEq, Repr

namespace DataId

def localPoolId (dataId : DataId) : UInt32 :=
  dataId.sid.objectId

/-- A pool id is written into a union that holds the invalid structure id. -/
def ofLocalPoolId (localPoolId : UInt32) : DataId :=
  ⟨⟨localPoolId, 0xFFFFFFFF⟩⟩

end DataId

/-! ### The pool -/

structure PeriodicHousekeepingHelper where
  collectionIntervalTicks : UInt32
  internalTickCounter : UInt32

def PeriodicHousekeepingHelper.checkOpNecessary (helper : PeriodicHousekeepingHelper) :
    Bool × PeriodicHousekeepingHelper :=
  if helper.internalTickCounter ≥ helper.collectionIntervalTicks then
    (true, { helper with internalTickCounter := 1 })
  else
    (false, { helper with internalTickCounter := helper.internalTickCounter + 1 })

structure DataSet where
  changed : Bool
  reportingEnabled : Bool
  isDiagnostics : Bool
  periodicHelper : Option PeriodicHousekeepingHelper

/-- What the owner of the pool has: the data sets, and the flags of the pool variables that say
whether they have changed. -/
structure Pool where
  getDataSetHandle : Sid → Option DataSet
  getPoolObjectHandle : UInt32 → Option Bool

namespace Pool

/-- Whether a data set or a variable has changed, if there is one. -/
def hasChanged (pool : Pool) : DataType → DataId → Option Bool
  | .dataSet, dataId => (pool.getDataSetHandle dataId.sid).map DataSet.changed
  | .localPoolVariable, dataId => pool.getPoolObjectHandle dataId.localPoolId

/-- Change a data set. -/
def modifyDataSet (pool : Pool) (sid : Sid) (f : DataSet → DataSet) : Pool :=
  { pool with
    getDataSetHandle :=
      Function.update pool.getDataSetHandle sid ((pool.getDataSetHandle sid).map f) }

/-- Mark a data set or a variable as unchanged. -/
def setUnchanged (pool : Pool) : DataType → DataId → Pool
  | .dataSet, dataId => pool.modifyDataSet dataId.sid fun dataSet =>
      { dataSet with changed := false }
  | .localPoolVariable, dataId =>
      { pool with
        getPoolObjectHandle :=
          Function.update pool.getPoolObjectHandle dataId.localPoolId
            ((pool.getPoolObjectHandle dataId.localPoolId).map fun _ => false) }

end Pool

/-! ### Messages and receivers -/

/-- The messages that the manager sends.  Some of them have the address of a packet. -/
inductive HkMessage where
  | hkReport (sid : Sid) (storeId : StoreAddress)
  | diagnosticsReport (sid : Sid) (storeId : StoreAddress)
  | hkStructureReport (sid : Sid) (storeId : StoreAddress)
  | diagnosticsStructureReport (sid : Sid) (storeId : StoreAddress)
  | updateNotificationSet (sid : Sid)
  | updateNotificationVariable (objectId localPoolId : UInt32)
  | updateSnapshotSet (sid : Sid) (storeId : StoreAddress)
  | updateSnapshotVariable (objectId localPoolId : UInt32) (storeId : StoreAddress)
  deriving DecidableEq, Repr

/-- The address of the packet that a message has. -/
def HkMessage.storeId? : HkMessage → Option StoreAddress
  | hkReport _ storeId => some storeId
  | diagnosticsReport _ storeId => some storeId
  | hkStructureReport _ storeId => some storeId
  | diagnosticsStructureReport _ storeId => some storeId
  | updateNotificationSet _ => none
  | updateNotificationVariable _ _ => none
  | updateSnapshotSet _ storeId => some storeId
  | updateSnapshotVariable _ _ storeId => some storeId

inductive ReportingType where
  | periodic
  | updateHk
  | updateNotification
  | updateSnapshot
  deriving DecidableEq, Repr

structure HkReceiver where
  dataType : DataType
  dataId : DataId
  reportingType : ReportingType
  destinationQueue : MessageQueueId

/-- How many receivers a data set or a variable has, and how many of them have still to be told
about a change. -/
structure HkUpdateResetHelper where
  dataType : DataType
  dataId : DataId
  updateCounter : UInt8
  currentUpdateCounter : UInt8

/-- What a packet is serialized to, with the size that is reserved for it, and the results of
serializing the packet and of sending the message. -/
structure Outcome where
  size : ℕ
  bytes : List UInt8
  serializeStatus : ReturnValue
  sendStatus : ReturnValue

end LocalDataPoolManager

open LocalDataPoolManager

structure LocalDataPoolManager (σ : Type*) where
  ipcStore : PacketStoreIF σ
  ownerObjectId : UInt32
  /-- Whether there is a queue to send messages with. -/
  hkQueue : Bool
  hkDestinationId : MessageQueueId

namespace LocalDataPoolManager

structure State (σ : Type*) where
  pool : Pool
  hkReceivers : List HkReceiver
  hkUpdateResetList : List HkUpdateResetHelper
  store : σ

variable {σ : Type*}

/-- The messages that are sent with this result. -/
def sentIf (sendStatus : ReturnValue) (destination : MessageQueueId) (message : HkMessage) :
    List (MessageQueueId × HkMessage) :=
  if sendStatus = .ok then [(destination, message)] else []

/-! ### Generating packets -/

/-- The message with the data of a data set. -/
def housekeepingReport (isDiagnostics : Bool) (sid : Sid) (storeId : StoreAddress) : HkMessage :=
  if isDiagnostics then .diagnosticsReport sid storeId else .hkReport sid storeId

/-- The message with the structure of a data set. -/
def structureReport (isDiagnostics : Bool) (sid : Sid) (storeId : StoreAddress) : HkMessage :=
  if isDiagnostics then .diagnosticsStructureReport sid storeId else .hkStructureReport sid storeId

def serializeHkPacketIntoStore (M : LocalDataPoolManager σ) (outcome : Outcome) (s : σ) :
    ReturnValue × StoreAddress × ℕ × σ :=
  match M.ipcStore.getFreeElement outcome.size s with
  | (.ok, storeId, s) =>
      (outcome.serializeStatus, storeId, outcome.bytes.length,
        M.ipcStore.write storeId outcome.bytes s)
  | (result, storeId, s) => (result, storeId, 0, s)

def generateHousekeepingPacket (M : LocalDataPoolManager σ) (sid : Sid) (dataSet : Option DataSet)
    (destination : MessageQueueId) (outcome : Outcome) (s : σ) :
    ReturnValue × List (MessageQueueId × HkMessage) × σ :=
  match dataSet with
  | none => (datasetNotFound, [], s)
  | some dataSet =>
      match M.serializeHkPacketIntoStore outcome s with
      | (result, storeId, serializedSize, s) =>
          if result ≠ .ok ∨ serializedSize = 0 then
            (result, [], s)
          else
            let hkMessage := housekeepingReport dataSet.isDiagnostics sid storeId
            if ¬ M.hkQueue then
              (queueOrDestinationInvalid, [], s)
            else if destination = noQueue ∧ M.hkDestinationId = noQueue then
              (queueOrDestinationInvalid, [], s)
            else
              let destination := if destination = noQueue then M.hkDestinationId else destination
              (outcome.sendStatus, sentIf outcome.sendStatus destination hkMessage, s)

/-- The reply goes to the sender of the last message that was received.  The result is not defined
when there is no queue, or the data set has no periodic helper. -/
def generateSetStructurePacket (M : LocalDataPoolManager σ) (sid : Sid) (isDiagnostics : Bool)
    (lastPartner : MessageQueueId) (outcome : Outcome) (pool : Pool) (s : σ) :
    Option (ReturnValue × List (MessageQueueId × HkMessage) × σ) :=
  match pool.getDataSetHandle sid with
  | none => some (datasetNotFound, [], s)
  | some dataSet =>
      if dataSet.isDiagnostics ≠ isDiagnostics then
        some (wrongHkPacketType, [], s)
      else if dataSet.periodicHelper.isNone then
        none
      else
        match M.ipcStore.getFreeElement outcome.size s with
        | (.ok, storeId, s) =>
            let s := M.ipcStore.write storeId outcome.bytes s
            if outcome.serializeStatus ≠ .ok then
              some (outcome.serializeStatus, [], (M.ipcStore.deleteData storeId s).2)
            else
              if ¬ M.hkQueue then
                none
              else if outcome.sendStatus ≠ .ok then
                some (outcome.sendStatus, [], (M.ipcStore.deleteData storeId s).2)
              else
                some (outcome.sendStatus, [(lastPartner, structureReport isDiagnostics sid storeId)], s)
        | (result, _, s) => some (result, [], s)

def addUpdateToStore (M : LocalDataPoolManager σ) (outcome : Outcome) (s : σ) :
    ReturnValue × StoreAddress × σ :=
  match M.ipcStore.getFreeElement outcome.size s with
  | (.ok, storeId, s) =>
      (outcome.serializeStatus, storeId, M.ipcStore.write storeId outcome.bytes s)
  | (result, storeId, s) => (result, storeId, s)

/-! ### Resetting the flags -/

/-- Whether an entry of the list of counters is for a data set or a variable. -/
def HkUpdateResetHelper.isFor (changeInfo : HkUpdateResetHelper) (type : DataType)
    (dataId : DataId) : Bool :=
  changeInfo.dataType = type ∧
    (changeInfo.dataType = .dataSet → changeInfo.dataId.sid = dataId.sid) ∧
    (changeInfo.dataType = .localPoolVariable →
      changeInfo.dataId.localPoolId = dataId.localPoolId)

/-- Count a receiver of a change.  The result is whether the change is to be reset. -/
def countDown (type : DataType) (dataId : DataId) :
    List HkUpdateResetHelper → Bool × List HkUpdateResetHelper
  | [] => (false, [])
  | changeInfo :: changeInfos =>
      if changeInfo.isFor type dataId then
        if changeInfo.updateCounter ≤ 1 then
          (true, changeInfo :: changeInfos)
        else if changeInfo.currentUpdateCounter ≤ 1 then
          (true, { changeInfo with currentUpdateCounter := 0 } :: changeInfos)
        else
          (false, { changeInfo with
            currentUpdateCounter := changeInfo.currentUpdateCounter - 1 } :: changeInfos)
      else
        let (reset, changeInfos) := countDown type dataId changeInfos
        (reset, changeInfo :: changeInfos)

def handleChangeResetLogic (type : DataType) (dataId : DataId) (s : State σ) : State σ :=
  let (reset, changeInfos) := countDown type dataId s.hkUpdateResetList
  { s with
    hkUpdateResetList := changeInfos
    pool := if reset then s.pool.setUnchanged type dataId else s.pool }

def resetHkUpdateResetHelper (changeInfos : List HkUpdateResetHelper) :
    List HkUpdateResetHelper :=
  changeInfos.map fun changeInfo =>
    { changeInfo with currentUpdateCounter := changeInfo.updateCounter }

/-! ### Handling receivers -/

/-- What the handling of a receiver leads to: the result, the status of the whole operation, the
messages that were sent, and the state. -/
structure Handled (σ : Type*) where
  result : ReturnValue
  status : ReturnValue
  sent : List (MessageQueueId × HkMessage)
  state : State σ

def performPeriodicHkGeneration (M : LocalDataPoolManager σ) (receiver : HkReceiver)
    (outcome : Outcome) (s : State σ) : List (MessageQueueId × HkMessage) × State σ :=
  let sid := receiver.dataId.sid
  match s.pool.getDataSetHandle sid with
  | none => ([], s)
  | some dataSet =>
      if ¬ dataSet.reportingEnabled then
        ([], s)
      else
        match dataSet.periodicHelper with
        | none => ([], s)
        | some helper =>
            let (necessary, helper) := helper.checkOpNecessary
            let s := { s with pool := s.pool.modifyDataSet sid fun dataSet =>
              { dataSet with periodicHelper := some helper } }
            if necessary then
              match M.generateHousekeepingPacket sid (some dataSet) noQueue outcome s.store with
              | (_, sent, store) => (sent, { s with store := store })
            else
              ([], s)

/-- The packet goes to the default destination, whatever the destination of the receiver is. -/
def handleHkUpdate (M : LocalDataPoolManager σ) (receiver : HkReceiver) (outcome : Outcome)
    (status : ReturnValue) (s : State σ) : Handled σ :=
  if receiver.dataType = .localPoolVariable then
    ⟨.failed, status, [], s⟩
  else
    match s.pool.getDataSetHandle receiver.dataId.sid with
    | none => ⟨datasetNotFound, status, [], s⟩
    | some dataSet =>
        if dataSet.changed then
          match M.generateHousekeepingPacket receiver.dataId.sid (some dataSet) noQueue outcome
              s.store with
          | (result, sent, store) =>
              ⟨.ok, if result ≠ .ok then result else status, sent,
                handleChangeResetLogic receiver.dataType receiver.dataId
                  { s with store := store }⟩
        else
          ⟨.ok, status, [], handleChangeResetLogic receiver.dataType receiver.dataId s⟩

/-- The result when there is no data set or no variable with the id of the receiver. -/
def notFound : DataType → ReturnValue
  | .localPoolVariable => poolobjectNotFound
  | .dataSet => datasetNotFound

/-- The message that a data set or a variable has changed. -/
def updateNotification (M : LocalDataPoolManager σ) : DataType → DataId → HkMessage
  | .localPoolVariable, dataId => .updateNotificationVariable M.ownerObjectId dataId.localPoolId
  | .dataSet, dataId => .updateNotificationSet dataId.sid

/-- The message with a snapshot of a data set or a variable. -/
def updateSnapshot (M : LocalDataPoolManager σ) (storeId : StoreAddress) :
    DataType → DataId → HkMessage
  | .localPoolVariable, dataId =>
      .updateSnapshotVariable M.ownerObjectId dataId.localPoolId storeId
  | .dataSet, dataId => .updateSnapshotSet dataId.sid storeId

/-- The result is not defined when there is a change, but no queue. -/
def handleNotificationUpdate (M : LocalDataPoolManager σ) (receiver : HkReceiver)
    (outcome : Outcome) (status : ReturnValue) (s : State σ) : Option (Handled σ) :=
  match s.pool.hasChanged receiver.dataType receiver.dataId with
  | none => some ⟨notFound receiver.dataType, status, [], s⟩
  | some false => some ⟨.ok, status, [], s⟩
  | some true =>
      if ¬ M.hkQueue then
        none
      else
        some ⟨.ok, if outcome.sendStatus ≠ .ok then outcome.sendStatus else status,
          sentIf outcome.sendStatus receiver.destinationQueue
            (M.updateNotification receiver.dataType receiver.dataId),
          handleChangeResetLogic receiver.dataType receiver.dataId s⟩

/-- The result is not defined when there is a change and room for the snapshot, but no queue. -/
def handleNotificationSnapshot (M : LocalDataPoolManager σ) (receiver : HkReceiver)
    (outcome : Outcome) (status : ReturnValue) (s : State σ) : Option (Handled σ) :=
  match s.pool.hasChanged receiver.dataType receiver.dataId with
  | none => some ⟨notFound receiver.dataType, status, [], s⟩
  | some false => some ⟨.ok, status, [], s⟩
  | some true =>
      match M.addUpdateToStore outcome s.store with
      | (.ok, storeId, store) =>
          if ¬ M.hkQueue then
            none
          else
            some ⟨.ok, if outcome.sendStatus ≠ .ok then outcome.sendStatus else status,
              sentIf outcome.sendStatus receiver.destinationQueue
                (M.updateSnapshot storeId receiver.dataType receiver.dataId),
              handleChangeResetLogic receiver.dataType receiver.dataId { s with store := store }⟩
      | (result, _, store) => some ⟨result, status, [], { s with store := store }⟩

/-- Handle a receiver, as its reporting type says. -/
def handleReceiver (M : LocalDataPoolManager σ) (receiver : HkReceiver) (outcome : Outcome)
    (status : ReturnValue) (s : State σ) : Option (Handled σ) :=
  match receiver.reportingType with
  | .periodic =>
      if receiver.dataType = .localPoolVariable then
        some ⟨.ok, status, [], s⟩
      else
        match M.performPeriodicHkGeneration receiver outcome s with
        | (sent, s) => some ⟨.ok, status, sent, s⟩
  | .updateHk => some (M.handleHkUpdate receiver outcome status s)
  | .updateNotification => M.handleNotificationUpdate receiver outcome status s
  | .updateSnapshot => M.handleNotificationSnapshot receiver outcome status s

/-- Handle receivers one after another.  The outcome `n` is for the `n`-th of them. -/
def handleReceivers (M : LocalDataPoolManager σ) :
    List HkReceiver → (ℕ → Outcome) → ReturnValue → State σ →
    Option (ReturnValue × List (MessageQueueId × HkMessage) × State σ)
  | [], _, status, s => some (status, [], s)
  | receiver :: receivers, outcomes, status, s =>
      match M.handleReceiver receiver (outcomes 0) status s with
      | none => none
      | some handled =>
          match M.handleReceivers receivers (fun n => outcomes (n + 1)) handled.status
              handled.state with
          | none => none
          | some (status, sent, s) => some (status, handled.sent ++ sent, s)

def performHkOperation (M : LocalDataPoolManager σ) (outcomes : ℕ → Outcome) (s : State σ) :
    Option (ReturnValue × List (MessageQueueId × HkMessage) × State σ) :=
  match M.handleReceivers s.hkReceivers outcomes .ok s with
  | none => none
  | some (status, sent, s) =>
      some (status, sent,
        { s with hkUpdateResetList := resetHkUpdateResetHelper s.hkUpdateResetList })

/-! ### Subscriptions -/

/-- Whether an entry of the list of counters is taken for the one of a data set or a variable.
The type of the entry is not looked at. -/
def HkUpdateResetHelper.isTakenFor (changeInfo : HkUpdateResetHelper) (dataType : DataType)
    (dataId : DataId) : Bool :=
  match dataType with
  | .dataSet => changeInfo.dataId.sid = dataId.sid
  | .localPoolVariable => changeInfo.dataId.localPoolId = dataId.localPoolId

def handleHkUpdateResetListInsertion (dataType : DataType) (dataId : DataId) :
    List HkUpdateResetHelper → List HkUpdateResetHelper
  | [] => [⟨dataType, dataId, 1, 1⟩]
  | changeInfo :: changeInfos =>
      if changeInfo.isTakenFor dataType dataId then
        { changeInfo with
          updateCounter := changeInfo.updateCounter + 1
          currentUpdateCounter := changeInfo.currentUpdateCounter + 1 } :: changeInfos
      else
        changeInfo :: handleHkUpdateResetListInsertion dataType dataId changeInfos

/-- Add a receiver that is told about changes. -/
def addReceiver (receiver : HkReceiver) (s : State σ) : State σ :=
  { s with
    hkReceivers := s.hkReceivers ++ [receiver]
    hkUpdateResetList :=
      handleHkUpdateResetListInsertion receiver.dataType receiver.dataId s.hkUpdateResetList }

/-- The helper says in which periods packets are generated.  Its numbers of ticks are worked out
from the collection interval and the frequency of the owner. -/
def subscribeForPeriodicPacket (M : LocalDataPoolManager σ) (sid : Sid) (receiver : MessageQueueId)
    (enableReporting isDiagnostics : Bool) (periodicHelper : PeriodicHousekeepingHelper)
    (s : State σ) : State σ :=
  { s with
    hkReceivers := s.hkReceivers ++ [⟨.dataSet, ⟨sid⟩, .periodic,
      if receiver = noQueue then M.hkDestinationId else receiver⟩]
    pool := s.pool.modifyDataSet sid fun dataSet =>
      { dataSet with
        reportingEnabled := enableReporting
        isDiagnostics := isDiagnostics
        periodicHelper := some periodicHelper } }

def subscribeForUpdatePacket (M : LocalDataPoolManager σ) (sid : Sid) (receiver : MessageQueueId)
    (isDiagnostics : Bool) (s : State σ) : State σ :=
  addReceiver ⟨.dataSet, ⟨sid⟩, .updateHk,
      if receiver = noQueue then M.hkDestinationId else receiver⟩
    { s with pool := s.pool.modifyDataSet sid fun dataSet =>
      { dataSet with reportingEnabled := true, isDiagnostics := isDiagnostics } }

def subscribeForSetUpdateMessage (M : LocalDataPoolManager σ) (setId : UInt32)
    (targetQueueId : MessageQueueId) (generateSnapshot : Bool) (s : State σ) : State σ :=
  addReceiver ⟨.dataSet, ⟨⟨M.ownerObjectId, setId⟩⟩,
    if generateSnapshot then .updateSnapshot else .updateNotification, targetQueueId⟩ s

def subscribeForVariableUpdateMessage (localPoolId : UInt32) (targetQueueId : MessageQueueId)
    (generateSnapshot : Bool) (s : State σ) : State σ :=
  addReceiver ⟨.localPoolVariable, .ofLocalPoolId localPoolId,
    if generateSnapshot then .updateSnapshot else .updateNotification, targetQueueId⟩ s

end LocalDataPoolManager
