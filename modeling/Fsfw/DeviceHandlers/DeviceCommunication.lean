import Fsfw.DeviceHandlers.DeviceHandlerBase
import Fsfw.DeviceHandlers.DeviceModes

/-!
# Communication with devices

A device handler sends commands to its device in cycles: it reads a message, which may be an action
or raw data to be sent, or builds a command of its own; it writes the command, finds out whether it
was written, requests a reply, and reads what the device has sent.  The replies that a command
expects are enabled after it was written, and time out when they do not come.

The commander of an action gets a step reply when the command was written or could not be written,
and a finish reply when it is over.  These replies, and the actions that are accepted and rejected,
are written to a log.

What the child class builds, the results of the communication interface, and the mode that the state
machine leads to are given with each call.  An iterator into the command map is a key, and at the
end it is none; the end must not be dereferenced. -/

namespace DeviceHandlerIF

def rawCommandId : DeviceCommandId := -1

end DeviceHandlerIF

namespace StorageManagerIF

def invalidAddress : UInt32 := 0xFFFFFFFF

end StorageManagerIF

inductive CookieState where
  | unused
  | writeReady
  | writeSent
  | readSent
  deriving DecidableEq, Repr

inductive DeviceActionEvent where
  | accepted (commandedBy : MessageQueueId) (actionId : DeviceCommandId)
  | rejected (commandedBy : MessageQueueId) (actionId : DeviceCommandId) (result : ReturnValue)
  | step (reportTo : MessageQueueId) (commandId : DeviceCommandId) (result : ReturnValue)
  | finish (success : Bool) (reportTo : MessageQueueId) (commandId : DeviceCommandId)
      (result : ReturnValue)
  | returnvalue (status : ReturnValue) (parameter : UInt32)
  | deleteData (address : UInt32)
  deriving DecidableEq, Repr

/-- The messages about actions, and raw data. For an action the result of building its command is
given, and for raw data the result of getting it from the store. -/
inductive DeviceMessage where
  | action (commandedBy : MessageQueueId) (actionId : DeviceCommandId) (built : ReturnValue)
  | raw (address : UInt32) (stored : ReturnValue)
  | other
  deriving DecidableEq, Repr

namespace DeviceReplyInfo

/-- A reply that is expected for a command. -/
def enable (info : DeviceReplyInfo) (command : DeviceCommandId) (currentTime : UInt32) :
    DeviceReplyInfo :=
  { info with
    delayCycles := info.maxDelayCycles
    command := some command
    countdown := info.countdown.map (·.resetTimer currentTime)
    active := true }

/-- The countdown or the delay cycles of a reply in one cycle, and whether it has timed out. -/
def decrement (info : DeviceReplyInfo) (currentTime : UInt32) : DeviceReplyInfo × Bool :=
  let (info, timedOut) :=
    if info.active ∧ info.countdown.any (·.hasTimedOut currentTime) then
      (info.resetTimeoutControlledReply currentTime, true)
    else
      (info, false)
  if info.delayCycles ≠ 0 ∧ info.countdown = none then
    let info := { info with delayCycles := info.delayCycles - 1 }
    if info.delayCycles = 0 then
      (info.resetDelayCyclesControlledReply, true)
    else
      (info, timedOut)
  else
    (info, timedOut)

end DeviceReplyInfo

/-- A device handler that communicates. `alternativeReplyId` are the replies of the commands that
use another reply id than their own. -/
structure DeviceCommunication (σ : Type*) where
  base : DeviceHandlerBase σ
  alternativeReplyId : DeviceCommandId → Option DeviceCommandId
  pendingCommand : Option DeviceCommandId
  cookieState : CookieState
  ignoreMissedRepliesCount : UInt32
  storedRawData : UInt32
  log : List DeviceActionEvent

namespace DeviceCommunication

open DeviceHandlerIF

variable {σ : Type*}

/-- The finish replies among what was sent. -/
def finishes (sent : List DeviceHandlerOutput) : List DeviceActionEvent :=
  sent.filterMap fun
    | .finish success reportTo commandId result => some (.finish success reportTo commandId result)
    | _ => none

/-- The base class has gone on. -/
def withBase (D : DeviceCommunication σ) (base : DeviceHandlerBase σ) : DeviceCommunication σ :=
  { D with base := base, log := D.log ++ finishes (base.sent.drop D.base.sent.length) }

def record (D : DeviceCommunication σ) (event : DeviceActionEvent) : DeviceCommunication σ :=
  { D with log := D.log ++ [event] }

def triggerEvent (D : DeviceCommunication σ) (event : Event) (parameter1 parameter2 : UInt32) :
    DeviceCommunication σ :=
  { D with base := D.base.triggerEvent event parameter1 parameter2 }

/-- The id of the reply to a command. -/
def replyId (D : DeviceCommunication σ) (command : DeviceCommandId) : DeviceCommandId :=
  (D.alternativeReplyId command).getD command

def setCommand (D : DeviceCommunication σ) (command : DeviceCommandId) (info : DeviceCommandInfo) :
    DeviceCommunication σ :=
  { D with base := { D.base with deviceCommandMap := D.base.deviceCommandMap.insert command info } }

def setReply (D : DeviceCommunication σ) (reply : DeviceCommandId) (info : DeviceReplyInfo) :
    DeviceCommunication σ :=
  { D with base := { D.base with deviceReplyMap := D.base.deviceReplyMap.insert reply info } }

/-! ### Commands -/

def acceptExternalDeviceCommands (D : DeviceCommunication σ) : ReturnValue :=
  if D.base.mode ≠ HasModesIF.modeOn ∧ D.base.mode ≠ modeNormal then wrongModeForCommand else .ok

def executeAction (D : DeviceCommunication σ) (actionId : DeviceCommandId)
    (commandedBy : MessageQueueId) (built : ReturnValue) : ReturnValue × DeviceCommunication σ :=
  if D.acceptExternalDeviceCommands ≠ .ok then
    (D.acceptExternalDeviceCommands, D)
  else
    match D.base.deviceCommandMap[actionId]? with
    | none => (commandNotSupported, D)
    | some info =>
        if info.isExecuting then
          (commandAlreadySent, D)
        else
          let info := { info with sendReplyTo := commandedBy }
          if built = .ok then
            (built,
              { D.setCommand actionId { info with isExecuting := true } with
                pendingCommand := some actionId
                cookieState := .writeReady })
          else
            (built, D.setCommand actionId info)

/-- An action, and whether it was accepted. -/
def handleActionMessage (D : DeviceCommunication σ) (actionId : DeviceCommandId)
    (commandedBy : MessageQueueId) (built : ReturnValue) : DeviceCommunication σ :=
  let (result, D) := D.executeAction actionId commandedBy built
  D.record
    (if result = .ok then .accepted commandedBy actionId
    else .rejected commandedBy actionId result)

def replyReturnvalueToCommand (D : DeviceCommunication σ) (status : ReturnValue)
    (parameter : UInt32) : DeviceCommunication σ :=
  D.record (.returnvalue status parameter)

/-- Raw data that is to be sent. -/
def buildRawDeviceCommand (D : DeviceCommunication σ) (address : UInt32) (stored : ReturnValue) :
    Option (DeviceCommunication σ) :=
  if D.base.mode ≠ modeRaw then
    some ((D.record (.deleteData address)).replyReturnvalueToCommand wrongModeForCommand 0)
  else if stored ≠ .ok then
    some
      { (D.triggerEvent StorageManagerIF.getDataFailed stored.toUInt16.toUInt32
        address).replyReturnvalueToCommand stored rawCommandId with
        storedRawData := StorageManagerIF.invalidAddress }
  else
    D.base.deviceCommandMap[rawCommandId]?.map fun info =>
      { D.setCommand rawCommandId { info with isExecuting := true } with
        pendingCommand := some rawCommandId
        cookieState := .writeReady
        storedRawData := address }

def readCommandQueue (D : DeviceCommunication σ) :
    DeviceMessage → Option (DeviceCommunication σ)
  | .action commandedBy actionId built => some (D.handleActionMessage actionId commandedBy built)
  | .raw address stored => D.buildRawDeviceCommand address stored
  | .other => some D

/-- A command that the child class has built for the mode. -/
def buildInternalCommand (D : DeviceCommunication σ) (built : ReturnValue)
    (deviceCommandId : DeviceCommandId) : DeviceCommunication σ :=
  let child : Option (ReturnValue × DeviceCommandId) :=
    if D.base.mode = modeNormal then
      some (if built = busy then DeviceHandlerBase.nothingToSend else built, deviceCommandId)
    else if D.base.mode = modeRaw then
      some (built, rawCommandId)
    else if D.base.mode &&& transitionModeChildActionMask ≠ 0 then
      some (built, deviceCommandId)
    else
      none
  match child with
  | none => D
  | some (result, deviceCommandId) =>
      if result = DeviceHandlerBase.nothingToSend then
        D
      else if result = .ok then
        match D.base.deviceCommandMap[deviceCommandId]? with
        | none =>
            D.triggerEvent deviceBuildingCommandFailed commandNotSupported.toUInt16.toUInt32
              deviceCommandId
        | some info =>
            if info.isExecuting then
              D
            else
              { D.setCommand deviceCommandId
                  { info with sendReplyTo := MessageQueueIF.noQueue, isExecuting := true } with
                pendingCommand := some deviceCommandId
                cookieState := .writeReady }
      else
        D.triggerEvent deviceBuildingCommandFailed result.toUInt16.toUInt32 deviceCommandId

/-! ### Writing -/

/-- Reply to the pending command. -/
def replyToCommand (D : DeviceCommunication σ) (command : DeviceCommandId)
    (info : DeviceCommandInfo) (status : ReturnValue) : DeviceCommunication σ :=
  if command = rawCommandId then
    (D.replyReturnvalueToCommand (if status = noReplyExpected then .ok else status) 0).record
      (.deleteData D.storedRawData)
  else if info.sendReplyTo ≠ MessageQueueIF.noQueue then
    if status = noReplyExpected then
      D.record (.finish true info.sendReplyTo command .ok)
    else
      D.record (.step info.sendReplyTo command status)
  else
    D

/-- Expect the replies to a command. -/
def enableReplyInReplyMap (D : DeviceCommunication σ) (command : DeviceCommandId)
    (info : DeviceCommandInfo) (expectedReplies : UInt8) : ReturnValue × DeviceCommunication σ :=
  match D.base.deviceReplyMap[D.replyId command]? with
  | none => (noReplyExpected, D)
  | some reply =>
      (.ok,
        (D.setCommand command { info with expectedReplies := expectedReplies }).setReply
          (D.replyId command) (reply.enable command D.base.currentTime))

/-- The pending command, which must not be at the end. -/
def pending (D : DeviceCommunication σ) : Option (DeviceCommandId × DeviceCommandInfo) :=
  D.pendingCommand.bind fun command =>
    D.base.deviceCommandMap[command]?.map fun info => (command, info)

def doSendWrite (D : DeviceCommunication σ) (result : ReturnValue) :
    Option (DeviceCommunication σ) :=
  if D.cookieState = .writeReady then
    if result = .ok then
      some { D with cookieState := .writeSent }
    else
      D.pending.map fun (command, info) =>
        let D := D.triggerEvent deviceSendingCommandFailed result.toUInt16.toUInt32 command
        let D := { D.replyToCommand command info result with cookieState := .unused }
        D.setCommand command { info with isExecuting := false }
  else
    some D

def doGetWrite (D : DeviceCommunication σ) (sendSuccess : ReturnValue) :
    Option (DeviceCommunication σ) :=
  if D.cookieState ≠ .writeSent then
    some D
  else
    D.pending.map fun (command, info) =>
      let D := { D with cookieState := .unused }
      let (result, D) :=
        if sendSuccess = .ok then
          D.enableReplyInReplyMap command info 1
        else
          (sendSuccess,
            D.triggerEvent deviceSendingCommandFailed sendSuccess.toUInt16.toUInt32 command)
      let D := if result ≠ .ok then D.setCommand command { info with isExecuting := false } else D
      D.replyToCommand command info result

/-! ### Reading -/

def doSendRead (D : DeviceCommunication σ) (hook result : ReturnValue) : DeviceCommunication σ :=
  if hook ≠ .ok then
    D
  else if result = .ok then
    { D with cookieState := .readSent }
  else
    { D.triggerEvent deviceRequestingReplyFailed result.toUInt16.toUInt32 0 with
      ignoreMissedRepliesCount := D.ignoreMissedRepliesCount + 1
      cookieState := .unused }

def doGetRead (C : DeviceHandlerChild σ) (D : DeviceCommunication σ) (result : ReturnValue)
    (receivedData : List UInt8) : Option (DeviceCommunication σ) :=
  if D.cookieState ≠ .readSent then
    some { D with cookieState := .unused }
  else
    let D := { D with cookieState := .unused }
    if result ≠ .ok then
      some { D.triggerEvent deviceRequestingReplyFailed result.toUInt16.toUInt32 0 with
        ignoreMissedRepliesCount := D.ignoreMissedRepliesCount + 1 }
    else if receivedData = [] then
      some D
    else
      let base :=
        if D.base.wiretappingMode = .raw ∧ D.base.requestedRawTraffic ≠ MessageQueueIF.noQueue then
          { D.base with
            sent := D.base.sent ++
              [.rawReply 0 receivedData.length D.base.requestedRawTraffic] }
        else
          D.base
      if base.mode = modeRaw then
        if base.defaultRawReceiver ≠ MessageQueueIF.noQueue then
          some (D.withBase (base.replyRawReplyIfnotWiretapped 0 receivedData.length))
        else
          some (D.withBase base)
      else
        (base.parseReply C (receivedData.length + 1) receivedData).map fun (_, base) =>
          D.withBase base

/-! ### Timeouts -/

def missedReply (D : DeviceCommunication σ) (id : DeviceCommandId) : DeviceCommunication σ :=
  if D.ignoreMissedRepliesCount > 0 then
    { D with ignoreMissedRepliesCount := D.ignoreMissedRepliesCount - 1 }
  else
    D.triggerEvent deviceMissedReply id 0

/-- The body of the loop over the replies. -/
def decrementReply (D : DeviceCommunication σ) (id : DeviceCommandId) : DeviceCommunication σ :=
  match D.base.deviceReplyMap[id]? with
  | none => D
  | some info =>
      let (info, timedOut) := info.decrement D.base.currentTime
      let D := D.setReply id info
      if timedOut then
        (D.withBase (D.base.replyToReply id info timeout)).missedReply id
      else
        D

def decrementDeviceReplyMap (D : DeviceCommunication σ) : DeviceCommunication σ :=
  D.base.deviceReplyMap.keys.foldl decrementReply D

end DeviceCommunication

/-! ### Cycles -/

/-- The calls in the slots of a cycle, with the time and what they get from others. -/
inductive DeviceCommunicationInput where
  | performOperation (message : DeviceMessage) (mode : Mode) (currentTime : UInt32)
  | sendWrite (built : ReturnValue) (deviceCommandId : DeviceCommandId) (result : ReturnValue)
  | getWrite (sendSuccess : ReturnValue) (currentTime : UInt32)
  | sendRead (hook result : ReturnValue)
  | getRead (result : ReturnValue) (receivedData : List UInt8) (currentTime : UInt32)

namespace DeviceCommunication

variable {σ : Type*}

def setTime (D : DeviceCommunication σ) (currentTime : UInt32) : DeviceCommunication σ :=
  { D with base := { D.base with currentTime := currentTime } }

def withMode (D : DeviceCommunication σ) (mode : Mode) : DeviceCommunication σ :=
  { D with base := { D.base with mode := mode } }

def performOperation (D : DeviceCommunication σ) (message : DeviceMessage) (mode : Mode)
    (currentTime : UInt32) : Option (DeviceCommunication σ) :=
  let D := { D.setTime currentTime with cookieState := .unused }
  (D.readCommandQueue message).map fun D => (D.withMode mode).decrementDeviceReplyMap

/-- The other slots do nothing while the device is off. -/
def unlessOff (D : DeviceCommunication σ)
    (slot : DeviceCommunication σ → Option (DeviceCommunication σ)) :
    Option (DeviceCommunication σ) :=
  if D.base.mode = HasModesIF.modeOff then some D else slot D

def sendWrite (D : DeviceCommunication σ) (built : ReturnValue) (deviceCommandId : DeviceCommandId)
    (result : ReturnValue) : Option (DeviceCommunication σ) :=
  if D.cookieState = .unused then
    (D.buildInternalCommand built deviceCommandId).doSendWrite result
  else
    D.doSendWrite result

def next (C : DeviceHandlerChild σ) (D : DeviceCommunication σ) :
    DeviceCommunicationInput → Option (DeviceCommunication σ)
  | .performOperation message mode currentTime => D.performOperation message mode currentTime
  | .sendWrite built deviceCommandId result =>
      D.unlessOff fun D => D.sendWrite built deviceCommandId result
  | .getWrite sendSuccess currentTime =>
      D.unlessOff fun D => (D.setTime currentTime).doGetWrite sendSuccess
  | .sendRead hook result => D.unlessOff fun D => some (D.doSendRead hook result)
  | .getRead result receivedData currentTime =>
      D.unlessOff fun D => (D.setTime currentTime).doGetRead C result receivedData

def step (C : DeviceHandlerChild σ) : Step (DeviceCommunication σ) DeviceCommunicationInput Unit :=
  fun D input => (D.next C input).map (·, ())

end DeviceCommunication
