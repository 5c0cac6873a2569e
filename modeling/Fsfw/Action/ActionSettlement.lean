import Fsfw.Action.ActionHelper

/-!
# Settling action commands

A terminal message tells a commander that an action is over.  The log of a helper settles its
commands when the terminal messages are those that busy helpers, missing data, the results of
executing actions and the calls of the owner ask for, every command gets at most one, those that
get none are those that the owner has accepted and not ended, and the data of every command is
deleted once (`Settles`).

An `ActionHelper` settles its commands as long as no action is finished at once, and its owner
ends only commands that are not settled (`ActionHelper.Sound`).  A `SimpleActionHelper` does as
long as no command arrives while another one is executed, and its owner ends actions by steps
that fail (`SimpleActionHelper.Sound`).
-/

/-- The command that a call ends. -/
def OwnerCall.ends : OwnerCall → Option ActionCommand
  | .step _ reportTo commandId result =>
      if result = .ok then none else some ⟨reportTo, commandId⟩
  | .finish _ reportTo commandId _ => some ⟨reportTo, commandId⟩

/-- The terminal message that a call asks for. -/
def OwnerCall.outcome : OwnerCall → Option (MessageQueueId × ActionMessage)
  | .step done reportTo commandId result =>
      if result = .ok then none else some (reportTo, .stepFailed commandId (done + 1) result)
  | .finish true reportTo commandId result => some (reportTo, .completionSuccess commandId result)
  | .finish false reportTo commandId result => some (reportTo, .completionFailed commandId result)

namespace ActionEvent

def receivedCommand : ActionEvent → Option ActionCommand
  | .received command _ => some command
  | _ => none

def acceptedCommand : ActionEvent → Option ActionCommand
  | .executed command .ok => some command
  | _ => none

def endedCommand : ActionEvent → Option ActionCommand
  | .called call => call.ends
  | _ => none

/-- The command that a message settles. -/
def settledCommand : ActionEvent → Option ActionCommand
  | .sent target message =>
      if message.isTerminal then some ⟨target, message.getActionId⟩ else none
  | _ => none

def terminal : ActionEvent → Option (MessageQueueId × ActionMessage)
  | .sent target message => if message.isTerminal then some (target, message) else none
  | _ => none

/-- The terminal message that an event asks for.  The result `finished` is reported for an action
that is finished at once. -/
def outcome (finished : ReturnValue) : ActionEvent → Option (MessageQueueId × ActionMessage)
  | .busy command _ =>
      some (command.commander, .stepFailed command.actionId 0 HasActionsIF.isBusy)
  | .read command _ result =>
      if result = .ok then none
      else some (command.commander, .stepFailed command.actionId 0 result)
  | .executed command result =>
      if result = .ok then none
      else if result = HasActionsIF.executionFinished then
        some (command.commander, .completionSuccess command.actionId finished)
      else some (command.commander, .stepFailed command.actionId 0 result)
  | .called call => call.outcome
  | _ => none

def deletedId : ActionEvent → Option StoreAddress
  | .deleted storeId => some storeId
  | _ => none

/-- The address of data that is to be deleted. -/
def takenId : ActionEvent → Option StoreAddress
  | .busy _ storeId => some storeId
  | .read _ storeId .ok => some storeId
  | _ => none

/-- The commands that have been received and not settled. -/
def unsettled (log : List ActionEvent) : Multiset ActionCommand :=
  (log.filterMap receivedCommand : Multiset ActionCommand)
    - (log.filterMap settledCommand : Multiset ActionCommand)

/-- The terminal messages are those that are asked for, every command has been settled once or is
not settled, those that are not settled have been accepted and not been ended, and the data of the
commands has been deleted once. -/
structure Settles (finished : ReturnValue) (log : List ActionEvent) : Prop where
  answered : log.filterMap terminal = log.filterMap (outcome finished)
  once : (log.filterMap receivedCommand : Multiset ActionCommand)
    = (log.filterMap settledCommand : Multiset ActionCommand) + unsettled log
  accepted : (log.filterMap acceptedCommand : Multiset ActionCommand)
    = (log.filterMap endedCommand : Multiset ActionCommand) + unsettled log
  deleted : log.filterMap deletedId = log.filterMap takenId

/-! ### Books -/

/-- The books about commands that are not settled, commands that are executed right now, and data
that is still to be deleted. -/
structure Books (finished : ReturnValue) (waiting executing : Multiset ActionCommand)
    (undeleted : List StoreAddress) (log : List ActionEvent) : Prop where
  answered : log.filterMap terminal = log.filterMap (outcome finished)
  received : (log.filterMap receivedCommand : Multiset ActionCommand)
    = (log.filterMap settledCommand : Multiset ActionCommand) + waiting
  accepted : (log.filterMap acceptedCommand : Multiset ActionCommand) + executing
    = (log.filterMap endedCommand : Multiset ActionCommand) + waiting
  deleted : log.filterMap deletedId ++ undeleted = log.filterMap takenId

namespace Books

variable {finished : ReturnValue} {u v x y : Multiset ActionCommand} {d e : List StoreAddress}
  {log events : List ActionEvent} {command : ActionCommand} {storeId : StoreAddress}

theorem nil :
  Books finished 0 0 [] []
  := by
  constructor <;> rfl

theorem unsettled_eq (h : Books finished u x d log) :
  unsettled log = u
  := by
  rw [unsettled, h.received, add_tsub_cancel_left]

/-- Books without commands that are executed, and without data to be deleted, are settled. -/
theorem settles (h : Books finished u 0 [] log) :
  Settles finished log
  where
  answered := h.answered
  once := by
    rw [h.unsettled_eq]
    apply h.received
  accepted := by
    rw [h.unsettled_eq]
    apply (add_zero _).symm.trans h.accepted
  deleted := by
    rw [← h.deleted, List.append_nil]

/-- Events are entered into the books. -/
theorem append (h : Books finished u x d log)
    (hanswered : events.filterMap terminal = events.filterMap (outcome finished))
    (hreceived : u + (events.filterMap receivedCommand : Multiset ActionCommand)
      = (events.filterMap settledCommand : Multiset ActionCommand) + v)
    (haccepted : (events.filterMap acceptedCommand : Multiset ActionCommand) + y + u
      = (events.filterMap endedCommand : Multiset ActionCommand) + x + v)
    (hdeleted : events.filterMap deletedId ++ e = d ++ events.filterMap takenId) :
  Books finished v y e (log ++ events)
  where
  answered := by
    rw [List.filterMap_append, List.filterMap_append, h.answered, hanswered]
  received := by
    rw [List.filterMap_append, List.filterMap_append, ← Multiset.coe_add, ← Multiset.coe_add,
      h.received, add_assoc, add_assoc, hreceived]
  accepted := by
    rw [List.filterMap_append, List.filterMap_append, ← Multiset.coe_add, ← Multiset.coe_add]
    ext command
    have hold := congrArg (Multiset.count command) h.accepted
    have hnew := congrArg (Multiset.count command) haccepted
    simp only [Multiset.count_add] at hold hnew ⊢
    omega
  deleted := by
    rw [List.filterMap_append, List.filterMap_append, List.append_assoc, hdeleted,
      ← List.append_assoc, h.deleted]

end Books

end ActionEvent

/-! ### Calls -/

open ActionEvent

namespace OwnerCall

/-- The message that a call sends, and its receiver. -/
def reply : OwnerCall → MessageQueueId × ActionMessage
  | .step done reportTo commandId result =>
      (reportTo, .setStepReply commandId (done + ActionHelper.stepOffset) result)
  | .finish success reportTo commandId result =>
      (reportTo, .setCompletionReply commandId success result)

/-- A call sends the terminal message that it asks for. -/
theorem terminal_reply (call : OwnerCall) :
  terminal (.sent call.reply.1 call.reply.2) = call.outcome
  := by
  cases call with
  | step done reportTo commandId result =>
      by_cases hok : result = .ok
      · simp [terminal, reply, outcome, hok]
      · simp [terminal, reply, outcome, hok, ActionMessage.setStepReply, ActionHelper.stepOffset]
  | finish success reportTo commandId result =>
      cases success <;> rfl

/-- A call settles the command that it ends. -/
theorem settledCommand_reply (call : OwnerCall) :
  settledCommand (.sent call.reply.1 call.reply.2) = call.ends
  := by
  cases call with
  | step done reportTo commandId result =>
      by_cases hok : result = .ok <;> simp [settledCommand, reply, ends, hok]
  | finish success reportTo commandId result =>
      simp [settledCommand, reply, ends]

end OwnerCall

namespace ActionEvent.Books

variable {finished : ReturnValue} {u x : Multiset ActionCommand} {d : List StoreAddress}
  {log : List ActionEvent} {command : ActionCommand} {storeId : StoreAddress}

/-- A call that ends a command settles it. -/
theorem call (call : OwnerCall)
    (h : Books finished ((call.ends.toList : Multiset ActionCommand) + u) x d log) :
  Books finished u x d (log ++ [.called call, .sent call.reply.1 call.reply.2])
  := by
  have hterminal := call.terminal_reply
  have hsettled := call.settledCommand_reply
  apply h.append
  · simp only [List.filterMap_cons, List.filterMap_nil, hterminal]
    cases hcall : call.outcome <;> simp [terminal, outcome, hcall]
  · simp only [List.filterMap_cons, List.filterMap_nil, hsettled]
    cases call.ends <;> simp [receivedCommand, settledCommand]
  · simp only [List.filterMap_cons, List.filterMap_nil, endedCommand]
    cases call.ends <;> simp [acceptedCommand, add_comm x]
  · simp [List.filterMap_cons, deletedId, takenId]

/-- A command whose data is missing is settled at once. -/
theorem missing {result : ReturnValue} (h : Books finished u x d log) (hresult : result ≠ .ok) :
  Books finished u x d (log ++ [.received command storeId, .read command storeId result,
    .sent command.commander (.setStepReply command.actionId 0 result)])
  := by
  apply h.append
  · simp [List.filterMap_cons, terminal, outcome, hresult, ActionMessage.setStepReply]
  · simp [List.filterMap_cons, receivedCommand, settledCommand, hresult, add_comm u]
  · simp [List.filterMap_cons, acceptedCommand, endedCommand, add_comm x]
  · cases result <;> simp_all [List.filterMap_cons, deletedId, takenId]

/-- A command whose data has been read is executed. -/
theorem read (h : Books finished u x [] log) (command : ActionCommand)
    (storeId : StoreAddress) :
  Books finished (command ::ₘ u) (command ::ₘ x) [storeId]
    (log ++ [.received command storeId, .read command storeId .ok])
  := by
  apply h.append
  · simp [List.filterMap_cons, terminal, outcome]
  · simp [List.filterMap_cons, receivedCommand, settledCommand, add_comm u]
  · simp [List.filterMap_cons, acceptedCommand, endedCommand]
  · simp [List.filterMap_cons, deletedId, takenId]

/-- A command that is accepted waits for its end. -/
theorem accept (h : Books finished u (command ::ₘ x) [storeId] log) :
  Books finished u x [] (log ++ [.executed command .ok, .deleted storeId])
  := by
  apply h.append
  · simp [List.filterMap_cons, terminal, outcome]
  · simp [List.filterMap_cons, receivedCommand, settledCommand]
  · simp [List.filterMap_cons, acceptedCommand, endedCommand]
  · simp [List.filterMap_cons, deletedId, takenId]

/-- A command that is not accepted is settled by the message that its result asks for. -/
theorem reject (result : ReturnValue) (message : ActionMessage)
    (h : Books finished (command ::ₘ u) (command ::ₘ x) [storeId] log)
    (houtcome : outcome finished (.executed command result) = some (command.commander, message))
    (hterminal : message.isTerminal = true) (hid : message.getActionId = command.actionId) :
  Books finished u x []
    (log ++ [.executed command result, .deleted storeId, .sent command.commander message])
  := by
  have hresult : result ≠ .ok := by
    rintro rfl
    cases houtcome
  apply h.append
  · simp only [List.filterMap_cons, List.filterMap_nil, houtcome]
    simp [terminal, outcome, hterminal]
  · simp [List.filterMap_cons, receivedCommand, settledCommand, hterminal, hid]
  · cases result <;> simp_all [List.filterMap_cons, acceptedCommand, endedCommand]
  · simp [List.filterMap_cons, deletedId, takenId]

end ActionEvent.Books

/-! ### Action helpers -/

namespace ActionHelper

variable {σ : Type} {S : PacketStoreIF σ}

/-- The owner finishes no action at once, and ends no command that is settled.  What it ends while
it executes an action may be that action, if it accepts it. -/
def Sound (S : PacketStoreIF σ) (c : ActionHelper σ) : ActionInput OwnerCall σ → Prop
  | .message sender (.executeAction actionId storeId) execution =>
      (S.getData storeId c.ipcStore).1 = .ok →
        execution.result ≠ HasActionsIF.executionFinished ∧
        (execution.calls.filterMap OwnerCall.ends : Multiset ActionCommand)
          ≤ (if execution.result = .ok then ⟨sender, actionId⟩ ::ₘ unsettled c.log
            else unsettled c.log)
  | .call call => ∀ command, call.ends = some command → command ∈ unsettled c.log
  | _ => True

/-- A call sends its reply. -/
theorem call_eq (c : ActionHelper σ) (call : OwnerCall) :
  c.call call =
    { c with log := c.log ++ [.called call, .sent call.reply.1 call.reply.2] }
  := by
  cases call <;>
    simp [ActionHelper.call, ActionHelper.step, ActionHelper.finish, sendMessage, record,
      OwnerCall.reply]

/-- The calls that are made while an action is executed settle the commands that they end. -/
theorem books_calls
    {finished : ReturnValue} {u x : Multiset ActionCommand} {d : List StoreAddress}
    {calls : List OwnerCall} {c : ActionHelper σ}
    (h : Books finished
      ((calls.filterMap OwnerCall.ends : Multiset ActionCommand) + u) x d c.log) :
  Books finished u x d (calls.foldl call c).log
  := by
  induction calls generalizing c with
  | nil =>
      apply (zero_add u).subst (motive := fun u => Books finished u x d c.log) h
  | cons call calls ih =>
      have hends : ((call :: calls).filterMap OwnerCall.ends : Multiset ActionCommand)
          = (call.ends.toList : Multiset ActionCommand)
            + (calls.filterMap OwnerCall.ends : Multiset ActionCommand) := by
        rw [List.filterMap_cons]
        cases call.ends <;> rfl
      apply ih
      rw [call_eq]
      apply Books.call
      rw [← add_assoc, ← hends]
      apply h

/-- A command whose data is missing is answered. -/
theorem handleActionMessage_missing {c : ActionHelper σ} {sender : MessageQueueId}
    {execution : Execution OwnerCall σ} {actionId : ActionId} {storeId : StoreAddress}
    (hread : (S.getData storeId c.ipcStore).1 ≠ .ok) :
  c.handleActionMessage S sender execution (.executeAction actionId storeId) = (.ok, { c with
    log := c.log ++ [.received ⟨sender, actionId⟩ storeId,
      .read ⟨sender, actionId⟩ storeId (S.getData storeId c.ipcStore).1,
      .sent sender (.setStepReply actionId 0 (S.getData storeId c.ipcStore).1)] })
  := by
  simp [handleActionMessage, prepareExecution, record, sendMessage, hread]

/-- The books before an action is executed. -/
theorem books_read
    {finished : ReturnValue} {u : Multiset ActionCommand} {c : ActionHelper σ}
    (command : ActionCommand) (storeId : StoreAddress) (h : Books finished u 0 [] c.log) :
  Books finished (command ::ₘ u) {command} [storeId]
    ((c.record (.received command storeId)).record (.read command storeId .ok)).log
  := by
  have := h.read command storeId
  simpa [record] using this

/-- A sound message leaves the books in order. -/
theorem books_message
    {c : ActionHelper σ} {sender : MessageQueueId} {command : ActionMessage}
    {execution : Execution OwnerCall σ}
    (h : Books HasActionsIF.executionFinished (unsettled c.log) 0 [] c.log)
    (hsound : c.Sound S (.message sender command execution)) :
  ∃ u, Books HasActionsIF.executionFinished u 0 []
    (c.handleActionMessage S sender execution command).2.log
  := by
  cases command with
  | executeAction actionId storeId =>
      by_cases hread : (S.getData storeId c.ipcStore).1 = .ok
      · obtain ⟨hfinished, hends⟩ := hsound hread
        have hbooks := books_read ⟨sender, actionId⟩ storeId h
        by_cases hok : execution.result = .ok
        · rw [if_pos hok] at hends
          obtain ⟨u, hu⟩ := exists_add_of_le hends
          rw [hu] at hbooks
          use u
          have := (books_calls hbooks).accept
          simpa [handleActionMessage, prepareExecution, executeAction, deleteData, record, hread,
            hok] using this
        · rw [if_neg hok] at hends
          obtain ⟨u, hu⟩ := exists_add_of_le hends
          rw [hu, ← Multiset.add_cons] at hbooks
          use u
          have := (books_calls hbooks).reject execution.result
            (.setStepReply actionId 0 execution.result)
            (by simp [outcome, hok, hfinished, ActionMessage.setStepReply])
            (by simp [hok]) (by simp)
          simpa [handleActionMessage, prepareExecution, executeAction, deleteData, record,
            sendMessage, hread, hok, hfinished] using this
      · use unsettled c.log
        rw [handleActionMessage_missing hread]
        apply h.missing hread
  | stepSuccess _ _ | stepFailed _ _ _ | dataReply _ _ | completionSuccess _ _
  | completionFailed _ _ | other _ =>
      use unsettled c.log
      apply h

/-- The data of a command is gone when the command has been handled. -/
theorem contents_handleActionMessage (laws : S.Reliable) (c : ActionHelper σ)
    (sender : MessageQueueId) (actionId : ActionId) (storeId : StoreAddress)
    (execution : Execution OwnerCall σ) :
  laws.contents
      (c.handleActionMessage S sender execution (.executeAction actionId storeId)).2.ipcStore
      storeId = none
  := by
  by_cases hread : (S.getData storeId c.ipcStore).1 = .ok
  · have hgone : ∀ s, laws.contents (S.deleteData storeId s).2 storeId = none := by
      intro s
      rw [laws.contents_deleteData_eq, Function.update_self]
    by_cases hok : execution.result = .ok
    · simp [handleActionMessage, prepareExecution, executeAction, deleteData, record, hread, hok,
        hgone]
    · by_cases hfinished : execution.result = HasActionsIF.executionFinished <;>
        simp [handleActionMessage, prepareExecution, executeAction, deleteData, record,
          sendMessage, hread, hok, hfinished, hgone]
  · rw [handleActionMessage_missing hread]
    by_contra hsome
    obtain ⟨data, hdata⟩ := Option.ne_none_iff_exists'.mp hsome
    apply hread
    rw [laws.getData_of_some _ _ _ hdata]

/-- A sound step leaves the books in order. -/
theorem books_next {c : ActionHelper σ} {i : ActionInput OwnerCall σ}
    (h : Books HasActionsIF.executionFinished (unsettled c.log) 0 [] c.log)
    (hsound : c.Sound S i) :
  ∃ c' result, next S c i = some (c', result) ∧
    Books HasActionsIF.executionFinished (unsettled c'.log) 0 [] c'.log
  := by
  cases i with
  | message sender command execution =>
      obtain ⟨u, hu⟩ := books_message h hsound
      use (c.handleActionMessage S sender execution command).2,
        (c.handleActionMessage S sender execution command).1, rfl
      rw [hu.unsettled_eq]
      apply hu
  | call call =>
      refine ⟨_, _, rfl, ?_⟩
      have hends : (call.ends.toList : Multiset ActionCommand) ≤ unsettled c.log := by
        cases hcall : call.ends with
        | none => apply Multiset.zero_le
        | some command =>
            apply Multiset.singleton_le.mpr
            apply hsound command hcall
      obtain ⟨u, hu⟩ := exists_add_of_le hends
      rw [hu] at h
      rw [call_eq, h.call.unsettled_eq]
      apply h.call
  | others ipcStore =>
      exact ⟨_, _, rfl, h⟩

end ActionHelper

/-! ### Simple action helpers -/

namespace SimpleActionHelper

variable {σ : Type} {S : PacketStoreIF σ}

/-- No command arrives while another one is executed, and the owner ends an action only by a step
that fails, while it is executed. -/
def Sound (S : PacketStoreIF σ) (c : SimpleActionHelper σ) : ActionInput SimpleOwnerCall σ → Prop
  | .message _ (.executeAction _ storeId) execution =>
      c.isExecuting = false ∧
        ((S.getData storeId c.ipcStore).1 = .ok → ∀ call ∈ execution.calls, call = .step .ok)
  | .call (.step result) => result ≠ .ok → c.isExecuting = true
  | .call (.finish _) => False
  | _ => True

/-- The command that is executed. -/
def executing (c : SimpleActionHelper σ) : Multiset ActionCommand :=
  if c.isExecuting then {⟨c.lastCommander, c.lastAction⟩} else 0

/-- A step that succeeds is reported. -/
theorem call_step_ok (c : SimpleActionHelper σ) :
  c.call (.step .ok) = { c with
    toActionHelper := c.toActionHelper.call (c.meaning (.step .ok)) }
  := by
  simp [call, step, meaning, ActionHelper.call, record]

/-- A step that fails is reported, and ends the action. -/
theorem call_step_failed (c : SimpleActionHelper σ) {result : ReturnValue}
    (hresult : result ≠ .ok) :
  c.call (.step result) = { c with
    toActionHelper := c.toActionHelper.call (c.meaning (.step result)) }.resetHelper
  := by
  simp [call, step, meaning, ActionHelper.call, record, hresult]

/-- Steps that succeed change the log only. -/
theorem foldl_call_step_ok
    {calls : List SimpleOwnerCall} (hcalls : ∀ call ∈ calls, call = .step .ok)
    (c : SimpleActionHelper σ) :
  ∃ H, calls.foldl call c = { c with toActionHelper := H } ∧
    ∀ {finished : ReturnValue} {u x : Multiset ActionCommand} {d : List StoreAddress},
      Books finished u x d c.log → Books finished u x d H.log
  := by
  induction calls generalizing c with
  | nil =>
      use c.toActionHelper, rfl
      exact id
  | cons call calls ih =>
      obtain rfl := hcalls call List.mem_cons_self
      obtain ⟨H, hH, hbooks⟩ :=
        ih (fun call hcall => hcalls call (List.mem_cons_of_mem _ hcall)) (c.call (.step .ok))
      rw [call_step_ok] at hH hbooks
      use H
      rw [List.foldl_cons, call_step_ok, hH]
      use rfl
      intro finished u x d h
      apply hbooks
      rw [ActionHelper.call_eq]
      apply Books.call
      apply (zero_add u).symm.subst (motive := fun u => Books finished u x d c.log) h

/-- A command whose data is missing is answered. -/
theorem handleActionMessage_missing {c : SimpleActionHelper σ} {sender : MessageQueueId}
    {execution : Execution SimpleOwnerCall σ} {actionId : ActionId} {storeId : StoreAddress}
    (hidle : c.isExecuting = false) (hread : (S.getData storeId c.ipcStore).1 ≠ .ok) :
  (c.handleActionMessage S sender execution (.executeAction actionId storeId)).2 = { c with
    log := c.log ++ [.received ⟨sender, actionId⟩ storeId,
      .read ⟨sender, actionId⟩ storeId (S.getData storeId c.ipcStore).1,
      .sent sender (.setStepReply actionId 0 (S.getData storeId c.ipcStore).1)] }
  := by
  simp [handleActionMessage, prepareExecution, record, sendMessage, ActionHelper.record,
    ActionHelper.sendMessage, hread, hidle]

/-- A sound message leaves the books in order. -/
theorem books_message
    {c : SimpleActionHelper σ} {sender : MessageQueueId} {command : ActionMessage}
    {execution : Execution SimpleOwnerCall σ} (h : Books .ok c.executing 0 [] c.log)
    (hsound : c.Sound S (.message sender command execution)) :
  Books .ok (c.handleActionMessage S sender execution command).2.executing 0 []
    (c.handleActionMessage S sender execution command).2.log
  := by
  cases command with
  | executeAction actionId storeId =>
      obtain ⟨hidle, hcalls⟩ := hsound
      by_cases hread : (S.getData storeId c.ipcStore).1 = .ok
      · rw [executing, if_neg (by simp [hidle])] at h
        -- The state in which the action is executed, and the log after it.
        obtain ⟨H, hH, hbooks⟩ := foldl_call_step_ok (hcalls hread)
          { ipcStore := c.ipcStore
            log := c.log ++ [.received ⟨sender, actionId⟩ storeId,
              .read ⟨sender, actionId⟩ storeId .ok]
            isExecuting := false
            lastCommander := sender
            lastAction := actionId
            stepCount := c.stepCount }
        have hexecuted := hbooks (h.read ⟨sender, actionId⟩ storeId)
        by_cases hok : execution.result = .ok
        · have := hexecuted.accept
          simpa [handleActionMessage, prepareExecution, executeAction, record,
            ActionHelper.record, deleteData, ActionHelper.deleteData, hidle, hread, hok, hH,
            executing] using this
        · by_cases hfinished : execution.result = HasActionsIF.executionFinished
          · have := hexecuted.reject execution.result
              (.setCompletionReply actionId true .ok)
              (by simp [outcome, hfinished, ActionMessage.setCompletionReply]) rfl rfl
            simpa [handleActionMessage, prepareExecution, executeAction, record,
              ActionHelper.record, deleteData, ActionHelper.deleteData, sendMessage,
              ActionHelper.sendMessage, hidle, hread, hfinished, hH, executing] using this
          · have := hexecuted.reject execution.result
              (.setStepReply actionId 0 execution.result)
              (by simp [outcome, hok, hfinished, ActionMessage.setStepReply])
              (by simp [hok]) (by simp)
            simpa [handleActionMessage, prepareExecution, executeAction, record,
              ActionHelper.record, deleteData, ActionHelper.deleteData, sendMessage,
              ActionHelper.sendMessage, hidle, hread, hok, hfinished, hH, executing] using this
      · rw [handleActionMessage_missing hidle hread]
        apply h.missing hread
  | stepSuccess _ _ | stepFailed _ _ _ | dataReply _ _ | completionSuccess _ _
  | completionFailed _ _ | other _ =>
      apply h

/-- The data of a command is gone when the command has been handled. -/
theorem contents_handleActionMessage (laws : S.Reliable) (c : SimpleActionHelper σ)
    (sender : MessageQueueId) (actionId : ActionId) (storeId : StoreAddress)
    (execution : Execution SimpleOwnerCall σ) :
  laws.contents
      (c.handleActionMessage S sender execution (.executeAction actionId storeId)).2.ipcStore
      storeId = none
  := by
  have hgone : ∀ s, laws.contents (S.deleteData storeId s).2 storeId = none := by
    intro s
    rw [laws.contents_deleteData_eq, Function.update_self]
  have hmissing : ∀ s, (S.getData storeId s).1 ≠ .ok → laws.contents s storeId = none := by
    intro s hread
    by_contra hsome
    obtain ⟨data, hdata⟩ := Option.ne_none_iff_exists'.mp hsome
    apply hread
    rw [laws.getData_of_some _ _ _ hdata]
  simp only [handleActionMessage, prepareExecution]
  generalize (if (c.record (.received ⟨sender, actionId⟩ storeId)).isExecuting then _ else _) = c'
  by_cases hread : (S.getData storeId c'.ipcStore).1 = .ok
  · by_cases hok : execution.result = .ok
    · simp [executeAction, record, ActionHelper.record, deleteData, ActionHelper.deleteData,
        hread, hok, hgone]
    · by_cases hfinished : execution.result = HasActionsIF.executionFinished <;>
        simp [executeAction, record, ActionHelper.record, deleteData, ActionHelper.deleteData,
          sendMessage, ActionHelper.sendMessage, hread, hok, hfinished, hgone]
  · simp [record, ActionHelper.record, sendMessage, ActionHelper.sendMessage, hread,
      hmissing _ hread]

/-- A sound step leaves the books in order. -/
theorem books_next {c : SimpleActionHelper σ} {i : ActionInput SimpleOwnerCall σ}
    (h : Books .ok c.executing 0 [] c.log) (hsound : c.Sound S i) :
  ∃ c' result, next S c i = some (c', result) ∧ Books .ok c'.executing 0 [] c'.log
  := by
  cases i with
  | message sender command execution =>
      use (c.handleActionMessage S sender execution command).2,
        (c.handleActionMessage S sender execution command).1, rfl
      apply books_message h hsound
  | call call =>
      use c.call call, .ok, rfl
      cases call with
      | step result =>
          by_cases hok : result = .ok
          · rw [hok, call_step_ok, ActionHelper.call_eq]
            apply Books.call
            apply (zero_add _).symm.subst (motive := fun u => Books .ok u 0 [] c.log) h
          · rw [executing, if_pos (hsound hok)] at h
            rw [call_step_failed c hok, ActionHelper.call_eq]
            apply Books.call
            simpa [OwnerCall.ends, meaning, hok, resetHelper, executing] using h
      | finish result =>
          apply hsound.elim
  | others ipcStore =>
      exact ⟨_, _, rfl, h⟩

end SimpleActionHelper
