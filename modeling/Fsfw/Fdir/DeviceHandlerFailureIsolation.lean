import Fsfw.Events.Event
import Fsfw.Fdir.FaultCounter
import Fsfw.Health.HealthTable
import Fsfw.ReturnValues

/-!
# Failure isolation of device handlers

The failure isolation of a device handler gets the events about its device.  When they show that
the device is not in order, it counts faults, asks its parent or the power unit whose fault it was,
starts a recovery of the device, or turns it off.  When it has started a recovery too often, the
device is turned off as well.

While the failure isolation waits for the effect of what it has started, and while the device is
faulty, it ignores the events about the device.  It does not ignore late confirmations of faults.

What it does is written to a log, with what it finds when it starts a recovery or turns the device
off.
-/

inductive FdirState where
  | none
  | recoveryOngoing
  | deviceMightBeOff
  | awaitShutdown
  deriving DecidableEq, Repr

def FdirState.toUInt32 : FdirState → UInt32
  | none => 0
  | recoveryOngoing => 1
  | deviceMightBeOff => 2
  | awaitShutdown => 3

/-- A recovery is started, or the device is turned off, for a reason, and the health of the device
and the state of the failure isolation are found. -/
inductive FdirEntry where
  | startsRecovery (reason : UInt16) (health : Option HealthState) (fdirState : FdirState)
  | turnsOffDevice (reason : UInt16) (health : Option HealthState) (fdirState : FdirState)
  | changedState (newState oldState : FdirState)
  | triggered (report : EventReport)
  | requested (destination : Option MessageQueueId) (report : EventReport) (result : ReturnValue)
  | replied (destination : MessageQueueId) (report : EventReport)
  | recoveryDecremented
  deriving DecidableEq, Repr

/-- The owner has a health, if there is an owner.  A destination for requests is set when there is a
parent in the fault tree. -/
structure DeviceHandlerFailureIsolation where
  ownerId : ObjectId
  owner : Option HealthState
  eventQueue : MessageQueueId
  faultTreeParent : Option MessageQueueId
  powerConfirmation : MessageQueueId
  strangeReplyCount : FaultCounter
  missedReplyCount : FaultCounter
  recoveryCounter : FaultCounter
  fdirState : FdirState
  log : List FdirEntry
  deriving DecidableEq, Repr

namespace DeviceHandlerFailureIsolation

def defaultMaxReboot : UInt32 := 1

def defaultRebootTimeMs : UInt32 := 180000

def defaultMaxStrangeReplies : UInt32 := 10

def defaultStrangeRepliesTimeMs : UInt32 := 10000

def defaultMaxMissedReplyCount : UInt32 := 5

def defaultMissedReplyTimeMs : UInt32 := 10000

def new (ownerId : ObjectId) (eventQueue : MessageQueueId)
    (faultTreeParent : Option MessageQueueId) (powerConfirmation : MessageQueueId)
    (currentTime : UInt32) : DeviceHandlerFailureIsolation where
  ownerId := ownerId
  owner := some .healthy
  eventQueue := eventQueue
  faultTreeParent := faultTreeParent
  powerConfirmation := powerConfirmation
  strangeReplyCount := .new defaultMaxStrangeReplies defaultStrangeRepliesTimeMs currentTime
  missedReplyCount := .new defaultMaxMissedReplyCount defaultMissedReplyTimeMs currentTime
  recoveryCounter := .new defaultMaxReboot defaultRebootTimeMs currentTime
  fdirState := .none
  log := []

variable (F : DeviceHandlerFailureIsolation)

def record (entry : FdirEntry) : DeviceHandlerFailureIsolation :=
  { F with log := F.log ++ [entry] }

def isFdirDisabledForSeverity (severity : UInt8) : Bool :=
  match F.owner with
  | some health => severity ≠ Severity.info ∧ health = .externalControl
  | none => false

def setFdirState (state : FdirState) : DeviceHandlerFailureIsolation :=
  { F.record (.changedState state F.fdirState) with fdirState := state }

/-- The message about an event of the owner. -/
def ownerReport (event : Event) (parameter1 parameter2 : UInt32) : EventReport :=
  .new event F.ownerId parameter1 parameter2 F.eventQueue

def isFdirInActionOrAreWeFaulty (report : EventReport) : Bool × DeviceHandlerFailureIsolation :=
  if F.fdirState ≠ .none then
    let F :=
      if report.parameter1 = HealthState.healthy.toUInt32 ∧
          report.event = HasHealthIF.healthInfo then
        F.setFdirState .none
      else
        F
    let F :=
      if report.event = HasModesIF.modeInfo ∧ F.fdirState ≠ .recoveryOngoing then
        F.setFdirState .none
      else
        F
    (true, F)
  else
    match F.owner with
    | none => (false, F)
    | some health => (health = .faulty ∨ health = .permanentFaulty, F)

/-- The owner sets its health.  It triggers an event about it before, which is handled like all
other events that the owner triggers (`setOwnerHealth_eq_triggerEvent`). -/
def setOwnerHealth (health : HealthState) : DeviceHandlerFailureIsolation :=
  match F.owner with
  | none => F
  | some oldHealth =>
      let report := F.ownerReport HasHealthIF.healthInfo health.toUInt32 oldHealth.toUInt32
      let (_, F) := (F.record (.triggered report)).isFdirInActionOrAreWeFaulty report
      { F with owner := some health }

def startRecovery (reason : Event) : DeviceHandlerFailureIsolation :=
  let F := F.record (.startsRecovery reason.eventId F.owner F.fdirState)
  (F.setOwnerHealth .needsRecovery).setFdirState .recoveryOngoing

def setFaulty (reason : Event) : DeviceHandlerFailureIsolation :=
  let F := F.record (.turnsOffDevice reason.eventId F.owner F.fdirState)
  (F.setOwnerHealth .faulty).setFdirState .awaitShutdown

def clearFaultCounters : DeviceHandlerFailureIsolation :=
  { F with
    strangeReplyCount := F.strangeReplyCount.clear
    missedReplyCount := F.missedReplyCount.clear }

def handleRecovery (reason : Event) (currentTime : UInt32) : DeviceHandlerFailureIsolation :=
  let F := F.clearFaultCounters
  let (above, recoveryCounter) := F.recoveryCounter.incrementAndCheck currentTime
  let F := { F with recoveryCounter := recoveryCounter }
  if ¬ above then F.startRecovery reason else F.setFaulty reason

/-- Ask the given queue, or the parent in the fault tree when none is given. -/
def sendConfirmationRequest (report : EventReport) (destination : MessageQueueId)
    (sendResult : ReturnValue) : ReturnValue × DeviceHandlerFailureIsolation :=
  let report := { report with messageId := .confirmationRequest }
  if destination ≠ MessageQueueIF.noQueue then
    (sendResult, F.record (.requested (some destination) report sendResult))
  else if F.faultTreeParent.isSome then
    (sendResult, F.record (.requested F.faultTreeParent report sendResult))
  else
    (.failed, F)

/-- A strange reply is counted. -/
def countStrangeReply (reason : Event) (currentTime : UInt32) : DeviceHandlerFailureIsolation :=
  let (above, strangeReplyCount) := F.strangeReplyCount.incrementAndCheck currentTime
  let F := { F with strangeReplyCount := strangeReplyCount }
  if above then F.handleRecovery reason currentTime else F

/-- A missed reply is counted. -/
def countMissedReply (reason : Event) (currentTime : UInt32) : DeviceHandlerFailureIsolation :=
  let (above, missedReplyCount) := F.missedReplyCount.incrementAndCheck currentTime
  let F := { F with missedReplyCount := missedReplyCount }
  if above then F.handleRecovery reason currentTime else F

/-- These faults all mean that there were strange replies from a device. -/
def strangeReplies : List Event :=
  [DeviceHandlerIF.deviceInterpretingReplyFailed, DeviceHandlerIF.deviceReadingReplyFailed,
    DeviceHandlerIF.deviceUnrequestedReply, DeviceHandlerIF.deviceUnknownReply,
    DeviceHandlerIF.deviceBuildingCommandFailed]

/-- These faults all mean that replies were missed. -/
def missedReplies : List Event :=
  [DeviceHandlerIF.deviceSendingCommandFailed, DeviceHandlerIF.deviceRequestingReplyFailed,
    DeviceHandlerIF.deviceMissedReply]

/-- The events that need no reaction. -/
def noReaction : List Event :=
  [StorageManagerIF.getDataFailed, StorageManagerIF.storeDataFailed,
    DeviceHandlerIF.invalidDeviceCommand, HasHealthIF.healthInfo, HasModesIF.modeInfo,
    HasModesIF.changingMode, ThermalComponentIF.tempNotInOpRange]

/-- The events after which the device is turned off. -/
def turnOffReasons : List Event :=
  [Fuse.fuseWentOff, Fuse.powerAboveHighLimit, ThermalComponentIF.componentTempLow,
    ThermalComponentIF.componentTempHigh, ThermalComponentIF.componentTempOolLow,
    ThermalComponentIF.componentTempOolHigh]

/-- The events after which a recovery is tried at once. -/
def recoveryReasons : List Event :=
  [HasModesIF.modeTransitionFailed, HasModesIF.objectInInvalidMode, Fuse.powerBelowLowLimit]

/-- The switch of the device went off: ask the power unit. -/
def switchWentOff (report : EventReport) (sendResult : ReturnValue) :
    DeviceHandlerFailureIsolation :=
  if F.powerConfirmation ≠ MessageQueueIF.noQueue then
    let (result, F) := F.sendConfirmationRequest report F.powerConfirmation sendResult
    if result = .ok then F.setFdirState .deviceMightBeOff else F
  else
    F

def eventReceived (report : EventReport) (currentTime : UInt32) (sendResult : ReturnValue) :
    ReturnValue × DeviceHandlerFailureIsolation :=
  let (isIgnored, F) := F.isFdirInActionOrAreWeFaulty report
  if isIgnored then
    (.ok, F)
  else if report.event ∈ recoveryReasons then
    (.ok, F.handleRecovery report.event currentTime)
  else if report.event ∈ strangeReplies then
    (.ok, F.countStrangeReply report.event currentTime)
  else if report.event ∈ missedReplies then
    let (result, F) := F.sendConfirmationRequest report MessageQueueIF.noQueue sendResult
    (.ok, if result = .ok then F else F.countMissedReply report.event currentTime)
  else if report.event ∈ noReaction then
    (.ok, F)
  else if report.event = PowerSwitchIF.switchWentOff then
    (.ok, F.switchWentOff report sendResult)
  else if report.event ∈ turnOffReasons then
    (.ok, F.setFaulty report.event)
  else
    (.failed, F)

def eventConfirmed (report : EventReport) (currentTime : UInt32) :
    DeviceHandlerFailureIsolation :=
  if report.event ∈ missedReplies then
    F.countMissedReply report.event currentTime
  else if report.event = PowerSwitchIF.switchWentOff then
    F.handleRecovery report.event currentTime
  else
    F

/-- The parent is at fault, and nothing is done. -/
def wasParentsFault (_ : EventReport) : DeviceHandlerFailureIsolation := F

/-- The device never takes the blame. -/
def confirmFault (_ : EventReport) : ReturnValue := ConfirmsFailuresIF.yourFault

def doConfirmFault (report : EventReport) : DeviceHandlerFailureIsolation :=
  let result := confirmFault report
  if result = ConfirmsFailuresIF.yourFault then
    F.record (.replied report.sender { report with messageId := .yourFault })
  else if result = ConfirmsFailuresIF.myFault then
    F.record (.replied report.sender { report with messageId := .myFault })
  else
    F

def decrementFaultCounters (currentTime : UInt32) : DeviceHandlerFailureIsolation :=
  let (decremented, recoveryCounter) := F.recoveryCounter.checkForDecrement currentTime
  let F :=
    { F with
      strangeReplyCount := (F.strangeReplyCount.checkForDecrement currentTime).2
      missedReplyCount := (F.missedReplyCount.checkForDecrement currentTime).2
      recoveryCounter := recoveryCounter }
  if decremented then F.record .recoveryDecremented else F

/-- A message from the queue.  What the failure isolation has sent itself is skipped. -/
def handleMessage (report : EventReport) (currentTime : UInt32) (sendResult : ReturnValue) :
    DeviceHandlerFailureIsolation :=
  if report.sender = F.eventQueue then
    F
  else
    match report.messageId with
    | .eventMessage =>
        if F.isFdirDisabledForSeverity report.severity then
          F
        else
          (F.eventReceived report currentTime sendResult).2
    | .confirmationRequest => F.doConfirmFault report
    | .yourFault => F.eventConfirmed report currentTime
    | .myFault => F.wasParentsFault report
    | .other _ => F

/-- Handle all messages from the queue, each at its time and with its result of sending. -/
def checkForFailures (messages : List (EventReport × UInt32 × ReturnValue)) (currentTime : UInt32) :
    DeviceHandlerFailureIsolation :=
  (messages.foldl (fun F (report, time, sendResult) => F.handleMessage report time sendResult)
    F).decrementFaultCounters currentTime

/-- The owner triggers an event.  Errors are not reported while the failure isolation acts, nor
while the owner is controlled externally. -/
def triggerEvent (event : Event) (parameter1 parameter2 currentTime : UInt32)
    (sendResult : ReturnValue) : DeviceHandlerFailureIsolation :=
  if F.fdirState = .none ∨ event.severity = Severity.info then
    if F.isFdirDisabledForSeverity event.severity then
      F
    else
      let report := F.ownerReport event parameter1 parameter2
      ((F.record (.triggered report)).eventReceived report currentTime sendResult).2
  else
    F

variable {F}

/-- Nothing is done about the health of the owner, after it has been checked whether the event is
ignored. -/
theorem eventReceived_healthInfo {report : EventReport} (h : report.event = HasHealthIF.healthInfo)
    (currentTime : UInt32) (sendResult : ReturnValue) :
  F.eventReceived report currentTime sendResult = (.ok, (F.isFdirInActionOrAreWeFaulty report).2)
  := by
  have hrecovery : HasHealthIF.healthInfo ∉ recoveryReasons := by decide
  have hstrange : HasHealthIF.healthInfo ∉ strangeReplies := by decide
  have hmissed : HasHealthIF.healthInfo ∉ missedReplies := by decide
  have hnoReaction : HasHealthIF.healthInfo ∈ noReaction := by decide
  unfold eventReceived
  dsimp only
  rw [h, if_neg hrecovery, if_neg hstrange, if_neg hmissed, if_pos hnoReaction, ite_self]

/-- An owner that sets its health triggers the event about it before. -/
theorem setOwnerHealth_eq_triggerEvent {oldHealth : HealthState} (h : F.owner = some oldHealth)
    (health : HealthState) (currentTime : UInt32) (sendResult : ReturnValue) :
  F.setOwnerHealth health =
    { F.triggerEvent HasHealthIF.healthInfo health.toUInt32 oldHealth.toUInt32 currentTime
        sendResult with
      owner := some health }
  := by
  have hinfo : F.isFdirDisabledForSeverity HasHealthIF.healthInfo.severity = false := by
    rw [isFdirDisabledForSeverity, h]
    simp [HasHealthIF.healthInfo, makeEvent]
  rw [setOwnerHealth, h, triggerEvent, if_pos (.inr rfl), hinfo, if_neg Bool.false_ne_true]
  dsimp only [ownerReport]
  rw [eventReceived_healthInfo (EventReport.event_new ..)]

end DeviceHandlerFailureIsolation
