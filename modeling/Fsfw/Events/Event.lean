import Fsfw.Events.EventMatchTree
import Fsfw.Ipc.MessageQueueIF

/-!
# Events

An event has an id and a severity.  The id is made of the number of a subsystem and a number within
the subsystem.  The events an interface defines are collected in a namespace under its name.
-/

structure Event where
  eventId : UInt16
  severity : UInt8
  deriving DecidableEq, Repr

namespace Severity

def info : UInt8 := 1

def low : UInt8 := 2

def medium : UInt8 := 3

end Severity

/-- The subsystems that define the events used here. -/
inductive SubsystemId where
  | obsw
  | cdh
  | pcdu1
  | pcdu2
  | heater
  | tcs1
  | fdir1
  | fdir2
  | systemManager
  | systemManager1
  deriving DecidableEq, Repr

def SubsystemId.toUInt16 : SubsystemId → UInt16
  | obsw => 26
  | cdh => 28
  | pcdu1 => 42
  | pcdu2 => 43
  | heater => 50
  | tcs1 => 59
  | fdir1 => 71
  | fdir2 => 72
  | systemManager => 74
  | systemManager1 => 75

def makeEvent (subsystemId : SubsystemId) (uniqueEventId : UInt16) (severity : UInt8) : Event :=
  ⟨subsystemId.toUInt16 * 100 + uniqueEventId, severity⟩

inductive EventMessageId where
  | eventMessage
  | confirmationRequest
  | yourFault
  | myFault
  | other (messageId : UInt8)
  deriving DecidableEq, Repr

/-- The whole message about an event. -/
structure EventReport extends EventMessage where
  messageId : EventMessageId
  severity : UInt8
  parameter1 : UInt32
  parameter2 : UInt32
  sender : MessageQueueId
  deriving DecidableEq, Repr

namespace EventReport

def event (report : EventReport) : Event :=
  ⟨report.eventId, report.severity⟩

/-- The message with which an object reports an event. -/
def new (event : Event) (reporter : ObjectId) (parameter1 parameter2 : UInt32)
    (sender : MessageQueueId) : EventReport where
  eventId := event.eventId
  reporter := reporter
  messageId := .eventMessage
  severity := event.severity
  parameter1 := parameter1
  parameter2 := parameter2
  sender := sender

@[simp]
theorem event_new (event : Event) (reporter : ObjectId) (parameter1 parameter2 : UInt32)
    (sender : MessageQueueId) :
  (new event reporter parameter1 parameter2 sender).event = event
  := rfl

end EventReport

namespace StorageManagerIF

def getDataFailed : Event := makeEvent .obsw 0 Severity.low

def storeDataFailed : Event := makeEvent .obsw 1 Severity.low

end StorageManagerIF

namespace DeviceHandlerIF

def deviceBuildingCommandFailed : Event := makeEvent .cdh 0 Severity.low

def deviceSendingCommandFailed : Event := makeEvent .cdh 1 Severity.low

def deviceRequestingReplyFailed : Event := makeEvent .cdh 2 Severity.low

def deviceReadingReplyFailed : Event := makeEvent .cdh 3 Severity.low

def deviceInterpretingReplyFailed : Event := makeEvent .cdh 4 Severity.low

def deviceMissedReply : Event := makeEvent .cdh 5 Severity.low

def deviceUnknownReply : Event := makeEvent .cdh 6 Severity.low

def deviceUnrequestedReply : Event := makeEvent .cdh 7 Severity.low

def invalidDeviceCommand : Event := makeEvent .cdh 8 Severity.low

end DeviceHandlerIF

namespace Fuse

def fuseWentOff : Event := makeEvent .pcdu1 2 Severity.low

def powerAboveHighLimit : Event := makeEvent .pcdu1 4 Severity.low

def powerBelowLowLimit : Event := makeEvent .pcdu1 5 Severity.low

end Fuse

namespace PowerSwitchIF

def switchWentOff : Event := makeEvent .pcdu2 0 Severity.low

end PowerSwitchIF

namespace ThermalComponentIF

def componentTempLow : Event := makeEvent .tcs1 1 Severity.low

def componentTempHigh : Event := makeEvent .tcs1 2 Severity.low

def componentTempOolLow : Event := makeEvent .tcs1 3 Severity.low

def componentTempOolHigh : Event := makeEvent .tcs1 4 Severity.low

def tempNotInOpRange : Event := makeEvent .tcs1 5 Severity.low

end ThermalComponentIF

namespace FailureIsolationBase

def fdirChangedState : Event := makeEvent .fdir1 1 Severity.info

def fdirStartsRecovery : Event := makeEvent .fdir1 2 Severity.medium

def fdirTurnsOffDevice : Event := makeEvent .fdir1 3 Severity.medium

end FailureIsolationBase

namespace HasModesIF

def changingMode : Event := makeEvent .systemManager 0 Severity.info

def modeInfo : Event := makeEvent .systemManager 1 Severity.info

def modeTransitionFailed : Event := makeEvent .systemManager 3 Severity.low

def objectInInvalidMode : Event := makeEvent .systemManager 5 Severity.low

end HasModesIF

namespace HasHealthIF

def healthInfo : Event := makeEvent .systemManager1 6 Severity.info

end HasHealthIF
