import Fsfw.Action.ActionMessage
import Fsfw.Library.Run
import Fsfw.StorageManager.PacketStore

/-!
# Commanding actions

A commander stores the data of a command, sends the command to a receiver, and counts its
commands until terminal replies arrive.  It listens to the receiver of the latest command only.

The count is the number of the commands that were sent successfully and have not been terminated
(`Counts`) in every run in which every sending succeeds, fewer than 256 commands wait, and the
terminal replies from the receiver of the latest command are those to commands that wait (`Sound`).
-/

/-- The data of a command: bytes, or an object with the size that it needs, and with the result
and the bytes of serializing it into a buffer. -/
inductive CommandData where
  | bytes (data : List UInt8)
  | object (serializedSize : ℕ) (serialize : ℕ → ReturnValue × List UInt8)

/-- What a commander calls: the store, the receivers of commands, and the queues. -/
structure CommandEnvironment (σ : Type) where
  ipcStore : PacketStoreIF σ
  commandQueue : ObjectId → Option MessageQueueId
  sendMessage : MessageQueueId → ActionMessage → σ → ReturnValue × σ

/-- What the owner is told about a reply. -/
inductive ReplyReceived where
  | stepSuccessful (actionId : ActionId) (step : UInt8)
  | stepFailed (actionId : ActionId) (step : UInt8) (returnCode : ReturnValue)
  | data (actionId : ActionId) (data : List UInt8)
  | completionSuccessful (actionId : ActionId)
  | completionFailed (actionId : ActionId) (returnCode : ReturnValue)

/-- What happens at a commander. -/
inductive CommandEvent where
  | sent (target : MessageQueueId) (actionId : ActionId) (result : ReturnValue)
  | replied (sender : MessageQueueId) (reply : ActionMessage)
  | told (received : ReplyReceived)

structure CommandActionHelper (σ : Type) where
  commandCount : UInt8
  lastTarget : MessageQueueId
  outside : σ
  log : List CommandEvent

/-- What happens to a commander.  Others change its environment. -/
inductive CommandInput (σ : Type) where
  | commandAction (commandTo : ObjectId) (actionId : ActionId) (data : CommandData)
  | reply (sender : MessageQueueId) (reply : ActionMessage)
  | others (outside : σ)

namespace CommandActionHelper

variable {σ : Type} (E : CommandEnvironment σ)

def new (outside : σ) : CommandActionHelper σ where
  commandCount := 0
  lastTarget := 0
  outside := outside
  log := []

def record (c : CommandActionHelper σ) (event : CommandEvent) : CommandActionHelper σ :=
  { c with log := c.log ++ [event] }

/-- Put the data of a command into the store.  What cannot be serialized stays there. -/
def storeData (s : σ) : CommandData → ReturnValue × StoreAddress × σ
  | .bytes data => E.ipcStore.addData data s
  | .object serializedSize serialize =>
      match E.ipcStore.getFreeElement serializedSize s with
      | (.ok, storeId, s) =>
          let (result, bytes) := serialize serializedSize
          (result, storeId, E.ipcStore.write storeId bytes s)
      | (result, storeId, s) => (result, storeId, s)

/-- The command is counted whether it could be sent or not. -/
def sendCommand (c : CommandActionHelper σ) (queueId : MessageQueueId) (actionId : ActionId)
    (storeId : StoreAddress) : ReturnValue × CommandActionHelper σ :=
  let (result, outside) := E.sendMessage queueId (.setCommand actionId storeId) c.outside
  let outside := if result = .ok then outside else (E.ipcStore.deleteData storeId outside).2
  (result, { c with
    outside := outside
    lastTarget := queueId
    commandCount := c.commandCount + 1 }.record (.sent queueId actionId result))

def commandAction (c : CommandActionHelper σ) (commandTo : ObjectId) (actionId : ActionId)
    (data : CommandData) : ReturnValue × CommandActionHelper σ :=
  match E.commandQueue commandTo with
  | none => (CommandsActionsIF.objectHasNoFunctions, c)
  | some queueId =>
      match storeData E c.outside data with
      | (.ok, storeId, outside) => sendCommand E { c with outside } queueId actionId storeId
      | (result, _, outside) => (result, { c with outside })

def extractDataForOwner (c : CommandActionHelper σ) (actionId : ActionId)
    (storeId : StoreAddress) : CommandActionHelper σ :=
  match E.ipcStore.getData storeId c.outside with
  | (.ok, data) =>
      { c with outside := (E.ipcStore.deleteData storeId c.outside).2 }.record
        (.told (.data actionId data))
  | _ => c

def handleReply (c : CommandActionHelper σ) (sender : MessageQueueId) (reply : ActionMessage) :
    ReturnValue × CommandActionHelper σ :=
  let c := c.record (.replied sender reply)
  if sender ≠ c.lastTarget then
    (.failed, c)
  else
    match reply with
    | .completionSuccess actionId _ =>
        (.ok, { c with commandCount := c.commandCount - 1 }.record
          (.told (.completionSuccessful actionId)))
    | .completionFailed actionId returnCode =>
        (.ok, { c with commandCount := c.commandCount - 1 }.record
          (.told (.completionFailed actionId returnCode)))
    | .stepSuccess actionId step => (.ok, c.record (.told (.stepSuccessful actionId step)))
    | .stepFailed actionId step returnCode =>
        (.ok, { c with commandCount := c.commandCount - 1 }.record
          (.told (.stepFailed actionId step returnCode)))
    | .dataReply actionId storeId => (.ok, c.extractDataForOwner E actionId storeId)
    | _ => (.failed, c)

/-- One step, with the value that is returned. -/
def next : Step (CommandActionHelper σ) (CommandInput σ) ReturnValue
  | c, .commandAction commandTo actionId data =>
      let (result, c) := c.commandAction E commandTo actionId data
      some (c, result)
  | c, .reply sender reply =>
      let (result, c) := c.handleReply E sender reply
      some (c, result)
  | c, .others outside => some ({ c with outside }, .ok)

/-! ### Counting -/

/-- The commands that wait after an event. -/
def enter (commands : List (MessageQueueId × ActionId)) :
    CommandEvent → List (MessageQueueId × ActionId)
  | .sent target actionId .ok => commands ++ [(target, actionId)]
  | .replied sender reply =>
      if reply.isTerminal then commands.erase (sender, reply.getActionId) else commands
  | _ => commands

/-- The commands that were sent successfully and have not been terminated. -/
def waiting (c : CommandActionHelper σ) : List (MessageQueueId × ActionId) :=
  c.log.foldl enter []

def Counts (c : CommandActionHelper σ) : Prop :=
  c.commandCount.toNat = c.waiting.length

instance (c : CommandActionHelper σ) : Decidable c.Counts :=
  inferInstanceAs (Decidable (_ = _))

/-- A command that is to be sent can be sent and counted, and the terminal replies from the
receiver of the latest command are those to commands that wait. -/
def Sound (c : CommandActionHelper σ) : CommandInput σ → Prop
  | .commandAction commandTo actionId data =>
      ∀ queueId storeId outside, E.commandQueue commandTo = some queueId →
        storeData E c.outside data = (.ok, storeId, outside) →
          (E.sendMessage queueId (.setCommand actionId storeId) outside).1 = .ok ∧
          c.waiting.length < 255
  | .reply sender reply =>
      reply.isTerminal = true →
        (sender = c.lastTarget ↔ (sender, reply.getActionId) ∈ c.waiting)
  | .others _ => True

variable {E}

theorem waiting_record (c : CommandActionHelper σ) (event : CommandEvent) :
  (c.record event).waiting = enter c.waiting event
  := by
  rw [waiting, record, List.foldl_append]
  rfl

/-- A command that has been sent is counted. -/
theorem Counts.commandAction {c : CommandActionHelper σ} {commandTo : ObjectId}
    {actionId : ActionId} {data : CommandData} (h : c.Counts)
    (hsound : c.Sound E (.commandAction commandTo actionId data)) :
  (c.commandAction E commandTo actionId data).2.Counts
  := by
  rw [CommandActionHelper.commandAction]
  split
  · apply h
  · rename_i queueId hqueue
    split
    · rename_i storeId outside hstore
      obtain ⟨hsend, hlength⟩ := hsound queueId storeId outside hqueue hstore
      have hwaiting : (sendCommand E { c with outside } queueId actionId storeId).2.waiting
          = c.waiting ++ [(queueId, actionId)] := by
        rw [sendCommand, waiting_record, hsend]
        rfl
      have hcount : (sendCommand E { c with outside } queueId actionId storeId).2.commandCount
          = c.commandCount + 1 := rfl
      rw [Counts] at h
      rw [Counts, hwaiting, hcount, UInt8.toNat_add, h, List.length_append, Nat.mod_eq_of_lt]
      · rfl
      · simpa using Nat.succ_lt_succ hlength
    · apply h

/-- What the owner is told is not counted. -/
theorem Counts.told {c : CommandActionHelper σ} (h : c.Counts) (received : ReplyReceived) :
  (c.record (.told received)).Counts
  := by
  rw [Counts, waiting_record]
  apply h

/-- A reply that terminates no command is not counted. -/
theorem Counts.replied {c : CommandActionHelper σ} {sender : MessageQueueId}
    {reply : ActionMessage} (h : c.Counts)
    (hreply : reply.isTerminal = true → (sender, reply.getActionId) ∉ c.waiting) :
  (c.record (.replied sender reply)).Counts
  := by
  rw [Counts, waiting_record, enter]
  split
  · rename_i hterminal
    rw [List.erase_of_not_mem (hreply hterminal)]
    apply h
  · apply h

/-- A reply that terminates a command is counted. -/
theorem Counts.terminated {c : CommandActionHelper σ} {sender : MessageQueueId}
    {reply : ActionMessage} (h : c.Counts) (hterminal : reply.isTerminal = true)
    (hreply : (sender, reply.getActionId) ∈ c.waiting) :
  Counts { c.record (.replied sender reply) with commandCount := c.commandCount - 1 }
  := by
  have hwaiting : waiting { c.record (.replied sender reply) with
      commandCount := c.commandCount - 1 } = c.waiting.erase (sender, reply.getActionId) := by
    apply (waiting_record c _).trans
    rw [enter, if_pos hterminal]
  have hpos := List.length_pos_of_mem hreply
  rw [Counts] at h
  rw [Counts, hwaiting, List.length_erase_of_mem hreply, UInt8.toNat_sub_of_le, h]
  · rfl
  · rw [UInt8.le_iff_toNat_le, h]
    apply hpos

theorem Counts.extractDataForOwner {c : CommandActionHelper σ} (h : c.Counts)
    (actionId : ActionId) (storeId : StoreAddress) :
  (c.extractDataForOwner E actionId storeId).Counts
  := by
  rw [CommandActionHelper.extractDataForOwner]
  split
  · apply Counts.told
    apply h
  · apply h

/-- A sound reply keeps the count. -/
theorem Counts.handleReply {c : CommandActionHelper σ} {sender : MessageQueueId}
    {reply : ActionMessage} (h : c.Counts) (hsound : c.Sound E (.reply sender reply)) :
  (c.handleReply E sender reply).2.Counts
  := by
  by_cases hsender : sender ≠ c.lastTarget
  · have heq : c.handleReply E sender reply = (.failed, c.record (.replied sender reply)) :=
      if_pos hsender
    rw [heq]
    apply h.replied
    intro hterminal hmem
    apply hsender
    apply (hsound hterminal).mpr hmem
  · have hlast : ¬ sender ≠ (c.record (.replied sender reply)).lastTarget := hsender
    simp only [CommandActionHelper.handleReply]
    rw [if_neg hlast]
    have hmem := fun hterminal => (hsound hterminal).mp (not_not.mp hsender)
    cases reply with
    | completionSuccess _ _ | completionFailed _ _ | stepFailed _ _ _ =>
        apply Counts.told
        apply h.terminated rfl (hmem rfl)
    | stepSuccess _ _ =>
        apply Counts.told
        apply h.replied
        intro hterminal
        cases hterminal
    | dataReply actionId storeId =>
        apply Counts.extractDataForOwner
        apply h.replied
        intro hterminal
        cases hterminal
    | executeAction _ _ | other _ =>
        apply h.replied
        intro hterminal
        cases hterminal

/-- A sound step keeps the count. -/
theorem Counts.next {c : CommandActionHelper σ} {i : CommandInput σ} (h : c.Counts)
    (hsound : c.Sound E i) :
  ∃ c' result, next E c i = some (c', result) ∧ c'.Counts
  := by
  cases i with
  | commandAction commandTo actionId data =>
      exact ⟨_, _, rfl, h.commandAction hsound⟩
  | reply sender reply =>
      exact ⟨_, _, rfl, h.handleReply hsound⟩
  | others outside =>
      exact ⟨_, _, rfl, h⟩

end CommandActionHelper
