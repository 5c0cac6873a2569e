import Fsfw.Events.Event
import Fsfw.Modes.ModeMessage
import Fsfw.ReturnValues
import Fsfw.TimeManager.Countdown

/-!
# Replies of devices

A device handler gets the bytes that its device has sent.  Its child class finds the replies in them
and interprets them; the base class keeps track of the replies that are expected, and reports what
goes wrong.

The bytes are parsed in rounds.  In every round the child class scans the bytes from a position on,
and tells the id and the length of the reply that it has found there.  The variables for the id and
the length keep their values from round to round, and the child class may leave them as they are.
-/

abbrev DeviceCommandId := UInt32

namespace DeviceHandlerIF

def noCommandId : DeviceCommandId := -2

def modeWaitOff : Mode := 0x10 ||| 3

end DeviceHandlerIF

structure DeviceCommandInfo where
  isExecuting : Bool
  expectedReplies : UInt8
  sendReplyTo : MessageQueueId
  deriving DecidableEq, Repr

structure DeviceReplyInfo where
  maxDelayCycles : UInt16
  delayCycles : UInt16
  periodic : Bool
  command : Option DeviceCommandId
  countdown : Option Countdown
  active : Bool
  deriving DecidableEq, Repr

namespace DeviceReplyInfo

def resetTimeoutControlledReply (info : DeviceReplyInfo) (currentTime : UInt32) :
    DeviceReplyInfo :=
  if info.periodic then
    { info with countdown := info.countdown.map (·.resetTimer currentTime) }
  else
    { info with
      active := false
      countdown := info.countdown.map (·.timeOut currentTime) }

def resetDelayCyclesControlledReply (info : DeviceReplyInfo) : DeviceReplyInfo :=
  if info.periodic then
    { info with delayCycles := info.maxDelayCycles }
  else
    { info with delayCycles := 0, active := false }

/-- The reply is expected. -/
def isPending (info : DeviceReplyInfo) : Bool :=
  (info.delayCycles ≠ 0 ∧ info.countdown = none) ∨ (info.active ∧ info.countdown ≠ none)

/-- What becomes of the entry of a reply that was interpreted. -/
def reset (info : DeviceReplyInfo) (currentTime : UInt32) : DeviceReplyInfo :=
  if info.active ∧ info.countdown ≠ none then
    info.resetTimeoutControlledReply currentTime
  else if info.delayCycles ≠ 0 then
    info.resetDelayCyclesControlledReply
  else
    info

end DeviceReplyInfo

inductive WiretappingMode where
  | off
  | raw
  | tm
  deriving DecidableEq, Repr

/-- What a device handler sends.  Raw replies are slices of the received bytes. -/
inductive DeviceHandlerOutput where
  | rawReply (position len : ℕ) (sendTo : MessageQueueId)
  | event (event : Event) (parameter1 parameter2 : UInt32)
  | finish (success : Bool) (reportTo : MessageQueueId) (commandId : DeviceCommandId)
      (result : ReturnValue)
  deriving DecidableEq, Repr

/-- A device handler, with the state `child` of its child class, the time, and all that it has
sent. -/
structure DeviceHandlerBase (σ : Type*) where
  mode : Mode
  wiretappingMode : WiretappingMode
  defaultRawReceiver : MessageQueueId
  requestedRawTraffic : MessageQueueId
  deviceCommandMap : Std.TreeMap DeviceCommandId DeviceCommandInfo
  deviceReplyMap : Std.TreeMap DeviceCommandId DeviceReplyInfo
  currentTime : UInt32
  child : σ
  sent : List DeviceHandlerOutput

/-- The functions that a child class implements.  They may change the base class as well.  When a
child class scans bytes, it leaves the length as it is, or reports one that does not exceed the
number of the bytes. -/
structure DeviceHandlerChild (σ : Type*) where
  scanForReply : (start : List UInt8) → (foundId : DeviceCommandId) → (foundLen : ℕ) →
    DeviceHandlerBase σ → ReturnValue × DeviceCommandId × ℕ × DeviceHandlerBase σ
  interpretDeviceReply : (id : DeviceCommandId) → (packet : List UInt8) → DeviceHandlerBase σ →
    ReturnValue × DeviceHandlerBase σ
  scanForReply_len : ∀ start foundId foundLen D,
    (scanForReply start foundId foundLen D).2.2.1 = foundLen ∨
    (scanForReply start foundId foundLen D).2.2.1 ≤ start.length

namespace DeviceHandlerBase

variable {σ : Type*}

def triggerEvent (D : DeviceHandlerBase σ) (event : Event) (parameter1 parameter2 : UInt32) :
    DeviceHandlerBase σ :=
  { D with sent := D.sent ++ [.event event parameter1 parameter2] }

def replyRawReplyIfnotWiretapped (D : DeviceHandlerBase σ) (position len : ℕ) :
    DeviceHandlerBase σ :=
  if D.wiretappingMode = .raw ∧ D.defaultRawReceiver = D.requestedRawTraffic then
    D
  else
    { D with sent := D.sent ++ [.rawReply position len D.defaultRawReceiver] }

def replyToReply (D : DeviceHandlerBase σ) (command : DeviceCommandId)
    (replyInfo : DeviceReplyInfo) (status : ReturnValue) : DeviceHandlerBase σ :=
  match replyInfo.command with
  | none => D
  | some key =>
      match D.deviceCommandMap[key]? with
      | none => D
      | some info =>
          let expectedReplies :=
            if info.expectedReplies > 0 then info.expectedReplies - 1 else info.expectedReplies
          let info := { info with expectedReplies := expectedReplies }
          if expectedReplies = 0 then
            { D with
              deviceCommandMap := D.deviceCommandMap.insert key { info with isExecuting := false }
              sent := D.sent ++
                if info.sendReplyTo ≠ MessageQueueIF.noQueue then
                  [.finish (status = .ok) info.sendReplyTo command status]
                else
                  [] }
          else
            { D with deviceCommandMap := D.deviceCommandMap.insert key info }

def handleReply (C : DeviceHandlerChild σ) (D : DeviceHandlerBase σ) (receivedData : List UInt8)
    (position : ℕ) (foundId : DeviceCommandId) (foundLen : UInt32) : DeviceHandlerBase σ :=
  match D.deviceReplyMap[foundId]? with
  | none =>
      (D.replyRawReplyIfnotWiretapped position foundLen.toNat).triggerEvent
        DeviceHandlerIF.deviceUnknownReply foundId 0
  | some info =>
      if info.isPending then
        let (result, D) := C.interpretDeviceReply foundId (receivedData.drop position) D
        if result = ignoreReplyData then
          D
        else
          let info := ((D.deviceReplyMap[foundId]?).getD info).reset D.currentTime
          let D := { D with deviceReplyMap := D.deviceReplyMap.insert foundId info }
          let D :=
            if result ≠ .ok then
              (D.replyRawReplyIfnotWiretapped position foundLen.toNat).triggerEvent
                DeviceHandlerIF.deviceInterpretingReplyFailed result.toUInt16.toUInt32 foundId
            else
              D
          D.replyToReply foundId info result
      else if D.mode ≠ DeviceHandlerIF.modeWaitOff then
        D.triggerEvent DeviceHandlerIF.deviceUnrequestedReply foundId 0
      else
        D

/-! ### Parsing -/

/-- The variables of the loop.  A pointer into the received bytes is a position. -/
structure ParseState (σ : Type*) where
  count : UInt32
  position : ℕ
  remainingLength : UInt32
  foundId : DeviceCommandId
  foundLen : ℕ
  base : DeviceHandlerBase σ

/-- A round of the loop: what was scanned, the result, and the length of the reply that was
found. -/
structure ParseRound where
  position : ℕ
  remainingLength : ℕ
  result : ReturnValue
  foundLen : ℕ
  deriving DecidableEq, Repr

namespace ParseState

/-- What the child class answers when it scans the rest of the bytes. -/
def scan (C : DeviceHandlerChild σ) (receivedData : List UInt8) (S : ParseState σ) :
    ReturnValue × DeviceCommandId × ℕ × DeviceHandlerBase σ :=
  C.scanForReply ((receivedData.drop S.position).take S.remainingLength.toNat) S.foundId S.foundLen
    S.base

/-- The body of the loop.  It goes on with new variables, or returns. -/
def parseRound (C : DeviceHandlerChild σ) (receivedData : List UInt8) (S : ParseState σ) :
    ParseRound × (ParseState σ ⊕ DeviceHandlerBase σ) :=
  let (result, foundId, foundLen, D) := S.scan C receivedData
  let round := ⟨S.position, S.remainingLength.toNat, result, foundLen⟩
  let S := { S with count := S.count + 1, foundId := foundId, foundLen := foundLen }
  if result = ignoreReplyData then
    (round, .inl { S with base := D })
  else if result = ignoreFullPacket then
    (round, .inr D)
  else
    let D :=
      if result = .ok then
        D.handleReply C receivedData S.position foundId (.ofNat foundLen)
      else if result = aperiodicReply then
        let (result, D) := C.interpretDeviceReply foundId (receivedData.drop S.position) D
        if result ≠ .ok then
          (D.replyRawReplyIfnotWiretapped S.position foundLen).triggerEvent
            DeviceHandlerIF.deviceInterpretingReplyFailed result.toUInt16.toUInt32 foundId
        else
          D
      else
        (D.replyRawReplyIfnotWiretapped S.position foundLen).triggerEvent
          DeviceHandlerIF.deviceReadingReplyFailed result.toUInt16.toUInt32 (.ofNat foundLen)
    if S.remainingLength.toNat > foundLen then
      (round, .inl { S with
        position := S.position + foundLen
        remainingLength := S.remainingLength - .ofNat foundLen
        base := D })
    else
      (round, .inr D)

end ParseState

/-- The loop, as long as there is fuel, with its rounds. -/
def parseLoop (C : DeviceHandlerChild σ) (receivedData : List UInt8) :
    ℕ → ParseState σ → Option (List ParseRound × DeviceHandlerBase σ)
  | 0, _ => none
  | fuel + 1, S =>
      if S.count.toNat < receivedData.length then
        match S.parseRound C receivedData with
        | (round, .inr D) => some ([round], D)
        | (round, .inl S) =>
            (parseLoop C receivedData fuel S).map fun (rounds, D) => (round :: rounds, D)
      else
        some ([], S.base)

/-- The variables before the loop. -/
def parseStart (D : DeviceHandlerBase σ) (receivedData : List UInt8) : ParseState σ where
  count := 0
  position := 0
  remainingLength := .ofNat receivedData.length
  foundId := DeviceHandlerIF.noCommandId
  foundLen := 0
  base := D

def parseReply (C : DeviceHandlerChild σ) (fuel : ℕ) (D : DeviceHandlerBase σ)
    (receivedData : List UInt8) : Option (List ParseRound × DeviceHandlerBase σ) :=
  parseLoop C receivedData fuel (D.parseStart receivedData)

end DeviceHandlerBase
