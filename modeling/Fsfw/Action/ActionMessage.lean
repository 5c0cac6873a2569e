import Fsfw.ReturnValues
import Fsfw.Ipc.MessageQueueIF
import Fsfw.StorageManager.StorageManagerIF

/-!
# Action messages

A commander asks for an action with a message that holds the id of the action and the address of
its data in a store.  The replies to it hold the id again.  A failed step and a completion end
the action.
-/

abbrev ActionId := UInt32

/-- The messages that command actions, and those that reply to them.  The parameter of other
messages has no meaning here. -/
inductive ActionMessage where
  | executeAction (actionId : ActionId) (storeId : StoreAddress)
  | stepSuccess (actionId : ActionId) (step : UInt8)
  | stepFailed (actionId : ActionId) (step : UInt8) (returnCode : ReturnValue)
  | dataReply (actionId : ActionId) (storeId : StoreAddress)
  | completionSuccess (actionId : ActionId) (returnCode : ReturnValue)
  | completionFailed (actionId : ActionId) (returnCode : ReturnValue)
  | other (parameter : UInt32)
  deriving DecidableEq

namespace ActionMessage

def setCommand (fid : ActionId) (parameters : StoreAddress) : ActionMessage :=
  .executeAction fid parameters

def setStepReply (fid : ActionId) (step : UInt8) (result : ReturnValue) : ActionMessage :=
  if result = .ok then
    .stepSuccess fid step
  else
    .stepFailed fid step result

def setCompletionReply (fid : ActionId) (success : Bool) (result : ReturnValue) : ActionMessage :=
  if success then
    .completionSuccess fid result
  else
    .completionFailed fid result

def getActionId : ActionMessage → ActionId
  | .executeAction actionId _ | .stepSuccess actionId _ | .stepFailed actionId _ _
  | .dataReply actionId _ | .completionSuccess actionId _ | .completionFailed actionId _ => actionId
  | .other parameter => parameter

/-- The action is over for the commander who receives this message. -/
def isTerminal : ActionMessage → Bool
  | .stepFailed .. | .completionSuccess .. | .completionFailed .. => true
  | _ => false

@[simp]
theorem isTerminal_stepFailed (fid : ActionId) (step : UInt8) (result : ReturnValue) :
  (stepFailed fid step result).isTerminal = true
  := rfl

@[simp]
theorem getActionId_setStepReply (fid : ActionId) (step : UInt8) (result : ReturnValue) :
  (setStepReply fid step result).getActionId = fid
  := by
  rw [setStepReply]
  split <;> rfl

@[simp]
theorem getActionId_setCompletionReply (fid : ActionId) (success : Bool) (result : ReturnValue) :
  (setCompletionReply fid success result).getActionId = fid
  := by
  cases success <;> rfl

/-- A step reply is terminal when the step failed. -/
@[simp]
theorem isTerminal_setStepReply (fid : ActionId) (step : UInt8) (result : ReturnValue) :
  (setStepReply fid step result).isTerminal = decide (result ≠ .ok)
  := by
  rw [setStepReply]
  split <;> simp [isTerminal, *]

@[simp]
theorem isTerminal_setCompletionReply
    (fid : ActionId) (success : Bool) (result : ReturnValue) :
  (setCompletionReply fid success result).isTerminal = true
  := by
  cases success <;> rfl

end ActionMessage

/-- A command for an action, as its commander knows it. -/
structure ActionCommand where
  commander : MessageQueueId
  actionId : ActionId
  deriving DecidableEq
