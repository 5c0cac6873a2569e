import Fsfw.Container.FIFOBase
import Fsfw.Container.FixedMap
import Fsfw.Ipc.MessageQueueIF
import Fsfw.TmTcServices.PusServiceBase

/-!
# The base of services that relay telecommands

A commanding service takes requests from a queue, which hold the addresses of telecommands in
a store.  It lets its child prepare a command for each telecommand, and sends it to the queue of
the target.  While a command is active, the command map has an entry for the queue of its target,
and further telecommands for the target wait in the FIFO of the entry.  Replies of the target
settle the command, and then the next telecommand in the FIFO is started, or the entry is erased.
A command without a reply is given up after a time.

An entry of the command map is changed where it is, and what happens to one entry does not touch
the others.  The functions that work on an entry return it, or nothing when it is to be erased,
and the map is changed at the end (`settle`).  The child and its surroundings have states `γ`, and
the store has states `σ`; a message that the child receives or sends is known by its sender, its
command, and the reason of a rejection.
-/

/-- A message between components. -/
structure CommandMessage where
  sender : MessageQueueId
  command : UInt16
  replyRejectedReason : ReturnValue
  deriving DecidableEq

namespace CommandMessage

/-- The command that stands for none. -/
def cmdNone : UInt16 := 0

def replyRejected : UInt16 := 2

end CommandMessage

/-- What reports say of a telecommand. -/
structure TcInfo where
  ackFlags : UInt8
  tcPacketId : UInt16
  tcSequenceControl : UInt16
  deriving DecidableEq

/-- An entry of the command map. The FIFO holds the addresses of the telecommands that wait. -/
structure CommandInfo where
  tcInfo : TcInfo
  uptimeOfStart : UInt32
  step : UInt8
  subservice : UInt8
  state : UInt32
  command : UInt16
  objectId : ObjectId
  fifo : FIFOBase StoreAddress

/-- A report with the flags that say which reports are wanted. All are, unless the flags of the
telecommand have been stored. -/
structure CommandReport extends RequestReport where
  ackFlags : UInt8 := 0b1111
  deriving DecidableEq

/-- What the child makes of a telecommand: a result, a command for the target, and the state of
the communication. -/
structure PreparedCommand where
  result : ReturnValue
  message : CommandMessage
  state : UInt32

/-- What the child makes of a reply: a result, a next command, the state of the communication,
whether it is a step, and the failure parameters that it has set. -/
structure HandledReply where
  result : ReturnValue
  nextCommand : CommandMessage
  state : UInt32
  isStep : Bool
  failureParameter1 : Option UInt32 := none
  failureParameter2 : Option UInt32 := none

/-- A child of a commanding service, the queue that it sends commands with, and the clock. -/
structure CommandingServiceChild (γ : Type) where
  isValidSubservice : UInt8 → γ → ReturnValue
  getMessageQueueAndObject : UInt8 → List UInt8 → γ → ReturnValue × MessageQueueId × ObjectId × γ
  prepareCommand : UInt8 → List UInt8 → UInt32 → ObjectId → γ → PreparedCommand × γ
  handleReply : CommandMessage → UInt16 → UInt32 → ObjectId → γ → HandledReply × γ
  handleUnrequestedReply : CommandMessage → γ → γ
  doPeriodicOperation : γ → γ
  sendMessage : MessageQueueId → CommandMessage → γ → ReturnValue × γ
  clearCommandMessage : CommandMessage → γ → γ
  getUptime : γ → UInt32 × γ

/-- A commanding service. An entry that is new has the contents of `newInfo`, apart from what is
set at once. -/
structure CommandingServiceBase (σ γ : Type) where
  tcStore : PacketStoreIF σ
  child : CommandingServiceChild γ
  timeoutSeconds : UInt16
  newInfo : CommandInfo

/-- The state of a commanding service, with the reports that it has sent so far. -/
structure CommandingServiceState (σ γ : Type) where
  commandMap : FixedMap MessageQueueId CommandInfo
  tcReader : List UInt8
  failParams : CommandReport
  successParams : CommandReport
  failureParameter1 : UInt32
  failureParameter2 : UInt32
  reports : List CommandReport
  tcStore : σ
  child : γ

namespace CommandingServiceBase

variable {σ γ : Type}

/-! ### Reports -/

/-- Send the report of a failure that has been prepared. -/
def sendFailureReport (c : CommandingServiceState σ γ) : CommandingServiceState σ γ :=
  { c with reports := c.reports ++ [c.failParams] }

/-- Send the report of a success that has been prepared. -/
def sendSuccessReport (c : CommandingServiceState σ γ) : CommandingServiceState σ γ :=
  { c with reports := c.reports ++ [c.successParams] }

/-- Neither this function nor the next ones set the step. -/
def prepareVerificationFailureWithNoTcInfo (reportId : TcVerif) (errorCode : ReturnValue)
    (setCachedFailParams : Bool) (c : CommandingServiceState σ γ) : CommandingServiceState σ γ :=
  { c with
    failParams :=
      { reportId := reportId
        tcPacketId := 0
        tcPsc := 0
        errorCode := errorCode
        step := c.failParams.step
        errorParam1 := if setCachedFailParams then c.failureParameter1 else 0
        errorParam2 := if setCachedFailParams then c.failureParameter2 else 0
        ackFlags := 0 } }

def prepareVerificationFailureWithFullInfo (reportId : TcVerif) (tcInfo : TcInfo)
    (errorCode : ReturnValue) (setCachedFailParams : Bool) (c : CommandingServiceState σ γ) :
    CommandingServiceState σ γ :=
  { c with
    failParams :=
      { reportId := reportId
        tcPacketId := tcInfo.tcPacketId
        tcPsc := tcInfo.tcSequenceControl
        errorCode := errorCode
        step := c.failParams.step
        errorParam1 := if setCachedFailParams then c.failureParameter1 else 0
        errorParam2 := if setCachedFailParams then c.failureParameter2 else 0
        ackFlags := tcInfo.ackFlags } }

def prepareVerificationSuccessWithFullInfo (reportId : TcVerif) (tcInfo : TcInfo)
    (c : CommandingServiceState σ γ) : CommandingServiceState σ γ :=
  { c with
    successParams :=
      { c.successParams with
        reportId := reportId
        tcPacketId := tcInfo.tcPacketId
        tcPsc := tcInfo.tcSequenceControl
        ackFlags := tcInfo.ackFlags } }

/-- Set the reader to the telecommand at an address. -/
def setUpTcReader (B : CommandingServiceBase σ γ) (storeId : StoreAddress)
    (c : CommandingServiceState σ γ) : ReturnValue × CommandingServiceState σ γ :=
  let (result, tcReader) :=
    PusServiceBase.prepareTcReader B.tcStore c.tcStore storeId c.tcReader
  (result, { c with tcReader := tcReader })

def deleteTc (B : CommandingServiceBase σ γ) (tcStoreId : StoreAddress)
    (c : CommandingServiceState σ γ) : CommandingServiceState σ γ :=
  { c with tcStore := (B.tcStore.deleteData tcStoreId c.tcStore).2 }

def rejectPacketInvalidTc (B : CommandingServiceBase σ γ) (errorCode : ReturnValue)
    (tcStoreId : StoreAddress) (c : CommandingServiceState σ γ) : CommandingServiceState σ γ :=
  let c := { c with failureParameter1 := invalidTc.toUInt16.toUInt32 }
  let c := prepareVerificationFailureWithNoTcInfo .startFailure errorCode true c
  let c := if tcStoreId ≠ StoreAddress.invalid then B.deleteTc tcStoreId c else c
  sendFailureReport c

/-- Report a failure of the telecommand that the reader is set to, and delete a telecommand. -/
def rejectPacket (B : CommandingServiceBase σ γ) (reportId : TcVerif) (tcStoreId : StoreAddress)
    (errorCode : ReturnValue) (c : CommandingServiceState σ γ) : CommandingServiceState σ γ :=
  B.deleteTc tcStoreId
    { c with
      reports := c.reports ++
        [{ toVerificationReport := .failure reportId c.tcReader errorCode }] }

/-- Report a success of the telecommand that the reader is set to. -/
def reportSuccess (reportId : TcVerif) (c : CommandingServiceState σ γ) :
    CommandingServiceState σ γ :=
  { c with
    reports := c.reports ++ [{ toVerificationReport := .success reportId c.tcReader }] }

def acceptPacket (B : CommandingServiceBase σ γ) (reportId : TcVerif) (tcStoreId : StoreAddress)
    (c : CommandingServiceState σ γ) : CommandingServiceState σ γ :=
  B.deleteTc tcStoreId (reportSuccess reportId c)

/-! ### Starting commands -/

/-- Send a command to the target, unless it is none. -/
def sendCommand (B : CommandingServiceBase σ γ) (queue : MessageQueueId)
    (message : CommandMessage) (c : CommandingServiceState σ γ) :
    ReturnValue × CommandingServiceState σ γ :=
  if message.command ≠ CommandMessage.cmdNone then
    let (result, child) := B.child.sendMessage queue message c.child
    (result, { c with child := child })
  else
    (.ok, c)

/-- Start the telecommand that the reader is set to. When it is not active afterwards, `next`
says what becomes of the entry. -/
def startExecutionThen (B : CommandingServiceBase σ γ)
    (next : CommandInfo → CommandingServiceState σ γ →
      Option CommandInfo × CommandingServiceState σ γ)
    (storeId : StoreAddress) (queue : MessageQueueId) (info : CommandInfo)
    (c : CommandingServiceState σ γ) : Option CommandInfo × CommandingServiceState σ γ :=
  let info := { info with subservice := PusTcReader.getSubService c.tcReader }
  let (prepared, child) := B.child.prepareCommand info.subservice
    (PusTcReader.getUserData c.tcReader) info.state info.objectId c.child
  let info := { info with state := prepared.state }
  let c := { c with child := child }
  if prepared.result = .ok then
    match B.sendCommand queue prepared.message c with
    | (.ok, c) =>
        let (uptime, child) := B.child.getUptime c.child
        let info :=
          { info with
            uptimeOfStart := uptime
            step := 0
            subservice := PusTcReader.getSubService c.tcReader
            command := prepared.message.command
            tcInfo :=
              { ackFlags := PusTcReader.getAcknowledgeFlags c.tcReader
                tcPacketId := PusTcReader.getPacketIdRaw c.tcReader
                tcSequenceControl := PusTcReader.getPacketSeqCtrlRaw c.tcReader } }
        (some info, B.acceptPacket .startSuccess storeId { c with child := child })
    | (sendResult, c) =>
        let c := { c with child := B.child.clearCommandMessage prepared.message c.child }
        next info (B.rejectPacket .startFailure storeId sendResult c)
  else if prepared.result = executionComplete then
    match B.sendCommand queue prepared.message c with
    | (.ok, c) =>
        next info (B.acceptPacket .completionSuccess storeId (reportSuccess .startSuccess c))
    | (sendResult, c) =>
        let c := { c with child := B.child.clearCommandMessage prepared.message c.child }
        next info (B.rejectPacket .startFailure storeId sendResult c)
  else
    next info (B.rejectPacket .startFailure storeId prepared.result c)

/-- Start the next telecommand in the FIFO of an entry. The entry is to be erased when there is
none. The number of rounds is a bound on the telecommands in the FIFO. -/
def checkAndExecuteFifo (B : CommandingServiceBase σ γ) (queue : MessageQueueId) :
    ℕ → CommandInfo → CommandingServiceState σ γ →
    Option CommandInfo × CommandingServiceState σ γ
  | 0, _, c => (none, c)
  | rounds + 1, info, c =>
      match info.fifo.retrieve with
      | (.ok, some address, fifo) =>
          let info := { info with fifo := fifo }
          match B.setUpTcReader address c with
          | (.ok, c) =>
              B.startExecutionThen (checkAndExecuteFifo B queue rounds) address queue info c
          | (result, c) => (some info, B.rejectPacket .startFailure address result c)
      | _ => (none, c)

/-- Go on with the FIFO of an entry. -/
def executeFifo (B : CommandingServiceBase σ γ) (queue : MessageQueueId) (info : CommandInfo)
    (c : CommandingServiceState σ γ) : Option CommandInfo × CommandingServiceState σ γ :=
  B.checkAndExecuteFifo queue (info.fifo.currentSize + 1) info c

def startExecution (B : CommandingServiceBase σ γ) (storeId : StoreAddress)
    (queue : MessageQueueId) (info : CommandInfo) (c : CommandingServiceState σ γ) :
    Option CommandInfo × CommandingServiceState σ γ :=
  B.startExecutionThen (B.executeFifo queue) storeId queue info c

/-- Change the entry under an iterator, or erase it. The second component is the iterator
afterwards. -/
def settle (iter : ℕ) (queue : MessageQueueId)
    (r : Option CommandInfo × CommandingServiceState σ γ) :
    Option (ℤ × CommandingServiceState σ γ) :=
  match r with
  | (some info, c) => do
      let commandMap ← c.commandMap.write iter (queue, info)
      return ((iter : ℤ), { c with commandMap := commandMap })
  | (none, c) => do
      let (_, iter', commandMap) ← c.commandMap.eraseIterator iter
      return (iter', { c with commandMap := commandMap })

/-! ### Requests -/

/-- Handle a request. -/
def handleRequest (B : CommandingServiceBase σ γ) (address : StoreAddress)
    (c : CommandingServiceState σ γ) : Option (CommandingServiceState σ γ) :=
  match B.setUpTcReader address c with
  | (.ok, c) =>
      let subservice := PusTcReader.getSubService c.tcReader
      if subservice = 0 ∨ B.child.isValidSubservice subservice c.child ≠ .ok then
        some (B.rejectPacket .startFailure address AcceptsTelecommandsIF.invalidSubservice c)
      else
        let (result, queue, objectId, child) := B.child.getMessageQueueAndObject subservice
          (PusTcReader.getUserData c.tcReader) c.child
        let c := { c with child := child }
        if result ≠ .ok then
          some (B.rejectPacket .startFailure address result c)
        else do
          let iter ← c.commandMap.find queue
          if iter ≠ c.commandMap.size then
            let (_, info) ← c.commandMap.read iter
            let (result, fifo) := info.fifo.insert address
            let commandMap ← c.commandMap.write iter (queue, { info with fifo := fifo })
            let c := { c with commandMap := commandMap }
            if result ≠ .ok then
              return B.rejectPacket .startFailure address objectBusy c
            else
              return c
          else
            let newInfo := { B.newInfo with objectId := objectId }
            let (result, iter, commandMap) ← c.commandMap.insert queue newInfo
            let c := { c with commandMap := commandMap }
            if result ≠ .ok then
              return B.rejectPacket .startFailure address busy c
            else
              let iter ← iter
              let (_, c) ← settle iter queue (B.startExecution address queue newInfo c)
              return c
  | (result, c) => some (B.rejectPacketInvalidTc result address c)

/-! ### Replies -/

/-- Go on after a reply that the child has accepted. -/
def handleReplyHandlerResult (B : CommandingServiceBase σ γ) (result : ReturnValue)
    (queue : MessageQueueId) (info : CommandInfo) (nextCommand : CommandMessage) (isStep : Bool)
    (c : CommandingServiceState σ γ) : Option CommandInfo × CommandingServiceState σ γ :=
  let info := { info with command := nextCommand.command }
  match B.sendCommand queue nextCommand c with
  | (.ok, c) =>
      if isStep ∧ result ≠ noStepMessage then
        let c := prepareVerificationSuccessWithFullInfo .progressSuccess info.tcInfo c
        let info := { info with step := info.step + 1 }
        let c := { c with successParams := { c.successParams with step := info.step } }
        (some info, sendSuccessReport c)
      else
        let c := prepareVerificationSuccessWithFullInfo .completionSuccess info.tcInfo c
        B.executeFifo queue info (sendSuccessReport c)
  | (_, c) =>
      let reportId := if isStep then TcVerif.progressFailure else TcVerif.completionFailure
      let c := prepareVerificationFailureWithFullInfo reportId info.tcInfo result true c
      let info := if isStep then { info with step := info.step + 1 } else info
      let c :=
        if isStep then { c with failParams := { c.failParams with step := info.step } } else c
      let c := { c with child := B.child.clearCommandMessage nextCommand c.child }
      let c := sendFailureReport c
      B.executeFifo queue info { c with failureParameter1 := 0, failureParameter2 := 0 }

/-- Go on after a reply that the child has refused with a code of its own. -/
def handleReplyFailure (B : CommandingServiceBase σ γ) (result : ReturnValue)
    (queue : MessageQueueId) (info : CommandInfo) (isStep : Bool)
    (c : CommandingServiceState σ γ) : Option CommandInfo × CommandingServiceState σ γ :=
  let reportId := if isStep then TcVerif.progressFailure else TcVerif.completionFailure
  let c := prepareVerificationFailureWithFullInfo reportId info.tcInfo result true c
  let info := if isStep then { info with step := info.step + 1 } else info
  let c := if isStep then { c with failParams := { c.failParams with step := info.step } } else c
  let c := sendFailureReport c
  B.executeFifo queue info { c with failureParameter1 := 0, failureParameter2 := 0 }

/-- Handle a reply. -/
def handleCommandMessage (B : CommandingServiceBase σ γ) (reply : CommandMessage)
    (c : CommandingServiceState σ γ) : Option (CommandingServiceState σ γ) := do
  let unrequested (c : CommandingServiceState σ γ) : CommandingServiceState σ γ :=
    { c with child := B.child.handleUnrequestedReply reply c.child }
  let iter ← c.commandMap.find reply.sender
  if reply.sender = MessageQueueIF.noQueue ∨ iter = c.commandMap.size then
    return unrequested c
  else
    let (queue, info) ← c.commandMap.read iter
    let (handled, child) :=
      B.child.handleReply reply info.command info.state info.objectId c.child
    let info := { info with state := handled.state }
    let c :=
      { c with
        child := child
        failureParameter1 := handled.failureParameter1.getD c.failureParameter1
        failureParameter2 := handled.failureParameter2.getD c.failureParameter2 }
    let rejected : Bool := reply.command = CommandMessage.replyRejected ∧
      (handled.result = .failed ∨ handled.result = invalidReply)
    let result := if rejected then reply.replyRejectedReason else handled.result
    let c := if rejected then { c with failureParameter1 := info.command.toUInt32 } else c
    if result = executionComplete ∨ result = .ok ∨ result = noStepMessage then
      let (_, c) ← settle iter queue
        (B.handleReplyHandlerResult result queue info handled.nextCommand handled.isStep c)
      return c
    else if result = invalidReply then
      let (_, c) ← settle iter queue (some info, unrequested c)
      return c
    else
      let (_, c) ← settle iter queue (B.handleReplyFailure result queue info handled.isStep c)
      return c

/-! ### Timeouts -/

/-- An entry that the loop over the command map has looked at, and whether a timeout was reported
of it. -/
structure Visit where
  queue : MessageQueueId
  info : CommandInfo
  reported : Bool

/-- The loop over the command map from the iterator on, with a bound on the number of rounds. The
entries that it looks at are listed. -/
def checkTimeoutLoop (B : CommandingServiceBase σ γ) (uptime : UInt32) :
    ℕ → ℕ → CommandingServiceState σ γ → Option (CommandingServiceState σ γ × List Visit)
  | 0, _, _ => none
  | rounds + 1, iter, c =>
      if iter = c.commandMap.size then
        some (c, [])
      else do
        let (queue, info) ← c.commandMap.read iter
        if info.uptimeOfStart + B.timeoutSeconds.toUInt32 * 1000 < uptime then
          let c := prepareVerificationFailureWithFullInfo .completionFailure info.tcInfo
            AcceptsTelecommandsIF.timeout false c
          let c := sendFailureReport c
          let (iter', c) ← settle iter queue (B.executeFifo queue info c)
          let (c, visits) ← checkTimeoutLoop B uptime rounds (iter' + 1).toNat c
          return (c, ⟨queue, info, true⟩ :: visits)
        else
          let (c, visits) ← checkTimeoutLoop B uptime rounds (iter + 1) c
          return (c, ⟨queue, info, false⟩ :: visits)

def checkTimeout (B : CommandingServiceBase σ γ) (c : CommandingServiceState σ γ) :
    Option (CommandingServiceState σ γ × List Visit) :=
  let (uptime, child) := B.child.getUptime c.child
  let c := { c with child := child }
  B.checkTimeoutLoop uptime (c.commandMap.size + 1) 0 c

/-! ### Cycles -/

/-- Handle the messages of a queue one after another. -/
def handleAll {α : Type} (handle : α → CommandingServiceState σ γ →
    Option (CommandingServiceState σ γ)) :
    List α → CommandingServiceState σ γ → Option (CommandingServiceState σ γ)
  | [], c => some c
  | x :: xs, c => do
      let c ← handle x c
      handleAll handle xs c

/-- A cycle, in which replies and requests are received until the queues are empty. -/
def performOperation (B : CommandingServiceBase σ γ) (replies : List CommandMessage)
    (requests : List StoreAddress) (c : CommandingServiceState σ γ) :
    Option (CommandingServiceState σ γ) := do
  let c ← handleAll B.handleCommandMessage replies c
  let c ← handleAll B.handleRequest requests c
  let (c, _) ← B.checkTimeout c
  return { c with child := B.child.doPeriodicOperation c.child }

end CommandingServiceBase
