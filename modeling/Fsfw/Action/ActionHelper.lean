import Fsfw.Action.ActionMessage
import Fsfw.Library.Run
import Fsfw.StorageManager.PacketStore

/-!
# Helpers that execute actions

A helper reads the data of a command from the store and lets its owner execute the action, who
may call the helper while it does so.  The owner finishes the action at once, refuses it, or ends
it by a later call.  An `ActionHelper` has no memory.  A `SimpleActionHelper` executes one action
at a time, and remembers who commanded it.
-/

/-- What an owner tells an `ActionHelper` about an action. -/
inductive OwnerCall where
  | step (step : UInt8) (reportTo : MessageQueueId) (commandId : ActionId) (result : ReturnValue)
  | finish (success : Bool) (reportTo : MessageQueueId) (commandId : ActionId)
      (result : ReturnValue)

/-- What an owner tells a `SimpleActionHelper` about the action that is executed. -/
inductive SimpleOwnerCall where
  | step (result : ReturnValue)
  | finish (result : ReturnValue)

/-- What executing an action does: the calls of the helper, the state in which it leaves the
store, and its result. -/
structure Execution (γ σ : Type) where
  calls : List γ
  ipcStore : σ
  result : ReturnValue

/-- What happens at a helper. -/
inductive ActionEvent where
  | received (command : ActionCommand) (storeId : StoreAddress)
  | busy (command : ActionCommand) (storeId : StoreAddress)
  | read (command : ActionCommand) (storeId : StoreAddress) (result : ReturnValue)
  | called (call : OwnerCall)
  | executed (command : ActionCommand) (result : ReturnValue)
  | deleted (storeId : StoreAddress)
  | sent (target : MessageQueueId) (message : ActionMessage)

/-- The store that a helper uses, and what has happened at it. -/
structure ActionHelper (σ : Type) where
  ipcStore : σ
  log : List ActionEvent

structure SimpleActionHelper (σ : Type) extends ActionHelper σ where
  isExecuting : Bool
  lastCommander : MessageQueueId
  lastAction : ActionId
  stepCount : UInt8

/-- What happens to a helper.  Others change the store. -/
inductive ActionInput (γ σ : Type) where
  | message (sender : MessageQueueId) (command : ActionMessage) (execution : Execution γ σ)
  | call (call : γ)
  | others (ipcStore : σ)

namespace ActionHelper

variable {σ : Type} (S : PacketStoreIF σ)

def stepOffset : UInt8 := 1

def new (ipcStore : σ) : ActionHelper σ where
  ipcStore := ipcStore
  log := []

def record (c : ActionHelper σ) (event : ActionEvent) : ActionHelper σ :=
  { c with log := c.log ++ [event] }

def deleteData (c : ActionHelper σ) (storeId : StoreAddress) : ActionHelper σ :=
  { c with ipcStore := (S.deleteData storeId c.ipcStore).2 }.record (.deleted storeId)

def sendMessage (c : ActionHelper σ) (sendTo : MessageQueueId) (message : ActionMessage) :
    ActionHelper σ :=
  c.record (.sent sendTo message)

def step (c : ActionHelper σ) (step : UInt8) (reportTo : MessageQueueId) (commandId : ActionId)
    (result : ReturnValue) : ActionHelper σ :=
  c.sendMessage reportTo (.setStepReply commandId (step + stepOffset) result)

def finish (c : ActionHelper σ) (success : Bool) (reportTo : MessageQueueId)
    (commandId : ActionId) (result : ReturnValue) : ActionHelper σ :=
  c.sendMessage reportTo (.setCompletionReply commandId success result)

/-- The owner calls the helper. -/
def call (c : ActionHelper σ) (call : OwnerCall) : ActionHelper σ :=
  let c := c.record (.called call)
  match call with
  | .step step reportTo commandId result => c.step step reportTo commandId result
  | .finish success reportTo commandId result => c.finish success reportTo commandId result

/-- The owner executes an action. -/
def executeAction (c : ActionHelper σ) (command : ActionCommand)
    (execution : Execution OwnerCall σ) : ReturnValue × ActionHelper σ :=
  let c := execution.calls.foldl call c
  (execution.result,
    { c with ipcStore := execution.ipcStore }.record (.executed command execution.result))

def prepareExecution (c : ActionHelper σ) (commandedBy : MessageQueueId) (actionId : ActionId)
    (dataAddress : StoreAddress) (execution : Execution OwnerCall σ) : ActionHelper σ :=
  let (result, _) := S.getData dataAddress c.ipcStore
  let c := c.record (.read ⟨commandedBy, actionId⟩ dataAddress result)
  if result ≠ .ok then
    c.sendMessage commandedBy (.setStepReply actionId 0 result)
  else
    let (result, c) := c.executeAction ⟨commandedBy, actionId⟩ execution
    let c := c.deleteData S dataAddress
    let c :=
      if result = HasActionsIF.executionFinished then
        c.sendMessage commandedBy (.setCompletionReply actionId true result)
      else
        c
    if result ≠ .ok then
      c.sendMessage commandedBy (.setStepReply actionId 0 result)
    else
      c

def handleActionMessage (c : ActionHelper σ) (sender : MessageQueueId)
    (execution : Execution OwnerCall σ) : ActionMessage → ReturnValue × ActionHelper σ
  | .executeAction actionId storeId =>
      let c := c.record (.received ⟨sender, actionId⟩ storeId)
      (.ok, c.prepareExecution S sender actionId storeId execution)
  | _ => (CommandMessageIF.unknownCommand, c)

/-- One step, with the value that is returned. -/
def next : Step (ActionHelper σ) (ActionInput OwnerCall σ) ReturnValue
  | c, .message sender command execution =>
      let (result, c) := c.handleActionMessage S sender execution command
      some (c, result)
  | c, .call call => some (c.call call, .ok)
  | c, .others ipcStore => some ({ c with ipcStore }, .ok)

end ActionHelper

namespace SimpleActionHelper

variable {σ : Type} (S : PacketStoreIF σ)

def new (ipcStore : σ) : SimpleActionHelper σ where
  toActionHelper := ActionHelper.new ipcStore
  isExecuting := false
  lastCommander := MessageQueueIF.noQueue
  lastAction := 0
  stepCount := 0

def record (c : SimpleActionHelper σ) (event : ActionEvent) : SimpleActionHelper σ :=
  { c with toActionHelper := c.toActionHelper.record event }

def deleteData (c : SimpleActionHelper σ) (storeId : StoreAddress) : SimpleActionHelper σ :=
  { c with toActionHelper := c.toActionHelper.deleteData S storeId }

def sendMessage (c : SimpleActionHelper σ) (sendTo : MessageQueueId) (message : ActionMessage) :
    SimpleActionHelper σ :=
  { c with toActionHelper := c.toActionHelper.sendMessage sendTo message }

def resetHelper (c : SimpleActionHelper σ) : SimpleActionHelper σ :=
  { c with stepCount := 0, isExecuting := false, lastAction := 0, lastCommander := 0 }

def step (c : SimpleActionHelper σ) (result : ReturnValue) : SimpleActionHelper σ :=
  let c := { c with
    toActionHelper := c.toActionHelper.step (c.stepCount - ActionHelper.stepOffset)
      c.lastCommander c.lastAction result }
  if result ≠ .ok then
    c.resetHelper
  else
    c

/-- The arguments are taken for whether it was a success, the queue to report to and the id of the
command. -/
def finish (c : SimpleActionHelper σ) (result : ReturnValue) : SimpleActionHelper σ :=
  { c with
    toActionHelper := c.toActionHelper.finish (c.lastCommander ≠ 0) c.lastAction
      result.toUInt16.toUInt32 .ok }.resetHelper

/-- What the owner means by a call: it is about the command that is executed. -/
def meaning (c : SimpleActionHelper σ) : SimpleOwnerCall → OwnerCall
  | .step result =>
      .step (c.stepCount - ActionHelper.stepOffset) c.lastCommander c.lastAction result
  | .finish result => .finish (result = .ok) c.lastCommander c.lastAction result

/-- The owner calls the helper. -/
def call (c : SimpleActionHelper σ) (call : SimpleOwnerCall) : SimpleActionHelper σ :=
  let c := c.record (.called (c.meaning call))
  match call with
  | .step result => c.step result
  | .finish result => c.finish result

/-- The owner executes an action. -/
def executeAction (c : SimpleActionHelper σ) (command : ActionCommand)
    (execution : Execution SimpleOwnerCall σ) : ReturnValue × SimpleActionHelper σ :=
  let c := execution.calls.foldl call c
  (execution.result,
    { c with ipcStore := execution.ipcStore }.record (.executed command execution.result))

/-- A command is refused while another one is executed. -/
def refuse (c : SimpleActionHelper σ) (commandedBy : MessageQueueId) (actionId : ActionId)
    (dataAddress : StoreAddress) : SimpleActionHelper σ :=
  let c := c.record (.busy ⟨commandedBy, actionId⟩ dataAddress)
  let c := c.deleteData S dataAddress
  c.sendMessage commandedBy (.setStepReply actionId 0 HasActionsIF.isBusy)

/-- The command is looked at further after it has been refused. -/
def prepareExecution (c : SimpleActionHelper σ) (commandedBy : MessageQueueId)
    (actionId : ActionId) (dataAddress : StoreAddress)
    (execution : Execution SimpleOwnerCall σ) : SimpleActionHelper σ :=
  let c := if c.isExecuting then c.refuse S commandedBy actionId dataAddress else c
  let (result, _) := S.getData dataAddress c.ipcStore
  let c := c.record (.read ⟨commandedBy, actionId⟩ dataAddress result)
  if result ≠ .ok then
    c.sendMessage commandedBy (.setStepReply actionId 0 result)
  else
    let c := { c with lastCommander := commandedBy, lastAction := actionId }
    let (result, c) := c.executeAction ⟨commandedBy, actionId⟩ execution
    let c := c.deleteData S dataAddress
    if result = .ok then
      { c with isExecuting := true, stepCount := c.stepCount + 1 }
    else if result = HasActionsIF.executionFinished then
      c.sendMessage commandedBy (.setCompletionReply actionId true .ok)
    else
      c.sendMessage commandedBy (.setStepReply actionId 0 result)

def handleActionMessage (c : SimpleActionHelper σ) (sender : MessageQueueId)
    (execution : Execution SimpleOwnerCall σ) :
    ActionMessage → ReturnValue × SimpleActionHelper σ
  | .executeAction actionId storeId =>
      let c := c.record (.received ⟨sender, actionId⟩ storeId)
      (.ok, c.prepareExecution S sender actionId storeId execution)
  | _ => (CommandMessageIF.unknownCommand, c)

/-- One step, with the value that is returned. -/
def next : Step (SimpleActionHelper σ) (ActionInput SimpleOwnerCall σ) ReturnValue
  | c, .message sender command execution =>
      let (result, c) := c.handleActionMessage S sender execution command
      some (c, result)
  | c, .call call => some (c.call call, .ok)
  | c, .others ipcStore => some ({ c with ipcStore }, .ok)

end SimpleActionHelper
