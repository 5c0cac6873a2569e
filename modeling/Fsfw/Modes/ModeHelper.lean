import Fsfw.Modes.ModeMessage
import Fsfw.TimeManager.Countdown

/-!
# Mode helpers

A mode helper handles the mode messages of its owner.  It asks the owner whether a commanded mode
can be reached, remembers the commander and the commanded mode, and lets the owner start the
transition.  When the owner has changed its mode, the commander gets a reply, and the parent is
informed when it has not commanded the change.

What a helper does, and what its owner decides, is written to a log.
-/

/-- What the owner of a helper may call at any time. -/
inductive ModeOwnerCall where
  | modeChanged (ownerMode : Mode) (ownerSubmode : Submode)
  | startTimer (currentTime timeoutMs : UInt32)
  | setForced (forced : Bool)
  deriving DecidableEq, Repr

/-- What the owner answers while a message is handled: the result of checking a mode command with
the time to reach the mode, its calls while it starts a transition, and its mode. -/
structure ModeOwner where
  currentTime : UInt32
  checkModeCommand : ReturnValue
  msToReachTheMode : UInt32
  startTransition : List ModeOwnerCall
  mode : Mode
  submode : Submode

inductive ModeEvent where
  | accepted (sender : MessageQueueId) (mode : Mode) (submode : Submode)
  | rejected (sender : MessageQueueId) (reason : ReturnValue)
  | asked (sender : MessageQueueId) (mode : Mode) (submode : Submode)
  | changed (mode : Mode) (submode : Submode)
  | setToExternalControl
  | announced (recursively : Bool)
  | sent (target : MessageQueueId) (message : ModeMessage)
  deriving DecidableEq, Repr

structure ModeHelper where
  theOneWhoCommandedAMode : MessageQueueId
  commandedMode : Mode
  commandedSubmode : Submode
  parentQueueId : MessageQueueId
  countdown : Countdown
  forced : Bool
  log : List ModeEvent
  deriving DecidableEq, Repr

namespace ModeHelper

/-- A helper without a parent. -/
def new : ModeHelper where
  theOneWhoCommandedAMode := MessageQueueIF.noQueue
  commandedMode := HasModesIF.modeOff
  commandedSubmode := HasModesIF.submodeNone
  parentQueueId := MessageQueueIF.noQueue
  countdown := ⟨0, 0⟩
  forced := false
  log := []

def setParentQueue (H : ModeHelper) (parentQueueId : MessageQueueId) : ModeHelper :=
  { H with parentQueueId := parentQueueId }

def record (H : ModeHelper) (event : ModeEvent) : ModeHelper :=
  { H with log := H.log ++ [event] }

def sendMessage (H : ModeHelper) (target : MessageQueueId) (message : ModeMessage) : ModeHelper :=
  H.record (.sent target message)

def sendModeReplyMessage (H : ModeHelper) (ownerMode : Mode) (ownerSubmode : Submode) :
    ModeHelper :=
  if H.theOneWhoCommandedAMode ≠ MessageQueueIF.noQueue then
    H.sendMessage H.theOneWhoCommandedAMode
      (if ownerMode ≠ H.commandedMode ∨ ownerSubmode ≠ H.commandedSubmode then
        .wrongModeReply ownerMode ownerSubmode
      else
        .modeReply ownerMode ownerSubmode)
  else
    H

def sendModeInfoMessage (H : ModeHelper) (ownerMode : Mode) (ownerSubmode : Submode) :
    ModeHelper :=
  if H.theOneWhoCommandedAMode ≠ H.parentQueueId ∧ H.parentQueueId ≠ MessageQueueIF.noQueue then
    H.sendMessage H.parentQueueId (.modeInfo ownerMode ownerSubmode)
  else
    H

def modeChanged (H : ModeHelper) (ownerMode : Mode) (ownerSubmode : Submode) : ModeHelper :=
  let H := { H.record (.changed ownerMode ownerSubmode) with forced := false }
  let H := H.sendModeReplyMessage ownerMode ownerSubmode
  let H := H.sendModeInfoMessage ownerMode ownerSubmode
  { H with theOneWhoCommandedAMode := MessageQueueIF.noQueue }

def startTimer (H : ModeHelper) (currentTime timeoutMs : UInt32) : ModeHelper :=
  { H with countdown := .setTimeout currentTime timeoutMs }

def isTimedOut (H : ModeHelper) (currentTime : UInt32) : Bool :=
  H.countdown.hasTimedOut currentTime

def isForced (H : ModeHelper) : Bool := H.forced

def setForced (H : ModeHelper) (forced : Bool) : ModeHelper :=
  { H with forced := forced }

def call (H : ModeHelper) : ModeOwnerCall → ModeHelper
  | .modeChanged ownerMode ownerSubmode => H.modeChanged ownerMode ownerSubmode
  | .startTimer currentTime timeoutMs => H.startTimer currentTime timeoutMs
  | .setForced forced => H.setForced forced

/-- The part of `handleModeCommand` that plain and forced commands share. -/
def commandMode (H : ModeHelper) (sender : MessageQueueId) (mode : Mode) (submode : Submode)
    (owner : ModeOwner) : ModeHelper :=
  if owner.checkModeCommand ≠ .ok then
    (H.record (.rejected sender owner.checkModeCommand)).sendMessage sender
      (.cantReachMode owner.checkModeCommand)
  else
    let H :=
      { H.record (.accepted sender mode submode) with
        theOneWhoCommandedAMode := sender
        commandedMode := mode
        commandedSubmode := submode }
    let H :=
      if H.parentQueueId ≠ MessageQueueIF.noQueue ∧ H.theOneWhoCommandedAMode ≠ H.parentQueueId then
        H.record .setToExternalControl
      else
        H
    owner.startTransition.foldl call
      { H with countdown := .setTimeout owner.currentTime owner.msToReachTheMode }

def handleModeCommand (H : ModeHelper) (sender : MessageQueueId) (owner : ModeOwner) :
    ModeMessage → ReturnValue × ModeHelper
  | .modeCommandForced mode submode =>
      (.ok, commandMode { H with forced := true } sender mode submode owner)
  | .modeCommand mode submode => (.ok, H.commandMode sender mode submode owner)
  | .modeRead =>
      (.ok, (H.record (.asked sender owner.mode owner.submode)).sendMessage sender
        (.modeReply owner.mode owner.submode))
  | .modeAnnounce => (.ok, H.record (.announced false))
  | .modeAnnounceRecursively => (.ok, H.record (.announced true))
  | _ => (.failed, H)

end ModeHelper
