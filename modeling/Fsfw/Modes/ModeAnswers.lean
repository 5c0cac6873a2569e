import Fsfw.Library.Run
import Fsfw.Modes.ModeHelper

/-!
# Answers to mode commands

The answers that are due follow from what the log of a helper says of commands and changes of the
mode: a command that has been rejected gets the reason, and when the mode has changed, all commands
that wait get a reply, and the parent is informed when it waits for none.

A helper gives the answers that are due, and is left unchanged by commands that it rejects, in every
run in which no command is accepted while a commander is remembered, and no forced command is
rejected while the helper is not forced (`ModeHelper.answers_of_run`).
-/

/-- A command that has been accepted. -/
structure WaitingCommand where
  sender : MessageQueueId
  mode : Mode
  submode : Submode
  deriving DecidableEq, Repr

/-- The reply to a command that waits when a mode has been reached. -/
def WaitingCommand.answer (mode : Mode) (submode : Submode) (command : WaitingCommand) :
    MessageQueueId × ModeMessage :=
  (command.sender,
    if mode = command.mode ∧ submode = command.submode then .modeReply mode submode
    else .wrongModeReply mode submode)

namespace ModeEvent

/-- Messages to no queue reach nobody. -/
def delivered : ModeEvent → Option (MessageQueueId × ModeMessage)
  | .sent target message =>
      if target = MessageQueueIF.noQueue then none else some (target, message)
  | _ => none

/-- The commands that wait after an event. -/
def waitingAfter (waiting : List WaitingCommand) : ModeEvent → List WaitingCommand
  | .accepted sender mode submode => waiting ++ [⟨sender, mode, submode⟩]
  | .changed _ _ => []
  | _ => waiting

/-- The messages that are due at an event. -/
def due (parent : MessageQueueId) (waiting : List WaitingCommand) :
    ModeEvent → List (MessageQueueId × ModeMessage)
  | .rejected sender reason => [(sender, .cantReachMode reason)]
  | .asked sender mode submode => [(sender, .modeReply mode submode)]
  | .changed mode submode =>
      waiting.map (WaitingCommand.answer mode submode) ++
        if ∃ command ∈ waiting, command.sender = parent then []
        else [(parent, .modeInfo mode submode)]
  | _ => []

/-- The messages that are due in the course of a log. -/
def dues (parent : MessageQueueId) :
    List WaitingCommand → List ModeEvent → List (MessageQueueId × ModeMessage)
  | _, [] => []
  | waiting, event :: log =>
      event.due parent waiting ++ dues parent (event.waitingAfter waiting) log

/-- The messages that are delivered are those that are due. -/
def Answers (parent : MessageQueueId) (log : List ModeEvent) : Prop :=
  log.filterMap delivered
    = (dues parent [] log).filter fun message => message.1 ≠ MessageQueueIF.noQueue

instance (parent : MessageQueueId) (log : List ModeEvent) : Decidable (Answers parent log) :=
  inferInstanceAs (Decidable (_ = _))

variable {parent : MessageQueueId} {waiting : List WaitingCommand} {log events : List ModeEvent}

theorem dues_append :
  dues parent waiting (log ++ events)
    = dues parent waiting log ++ dues parent (log.foldl waitingAfter waiting) events
  := by
  induction log generalizing waiting with
  | nil =>
      rfl
  | cons event log ih =>
      rw [List.cons_append, dues, dues, ih, List.append_assoc, List.foldl_cons]

/-- Messages that are sent one after another. -/
def sends (messages : List (MessageQueueId × ModeMessage)) : List ModeEvent :=
  messages.map fun message => .sent message.1 message.2

/-- The messages that are sent to a queue are delivered. -/
theorem filterMap_delivered_sends (messages : List (MessageQueueId × ModeMessage)) :
  (sends messages).filterMap delivered
    = messages.filter fun message => message.1 ≠ MessageQueueIF.noQueue
  := by
  rw [sends, List.filterMap_map, ← List.filterMap_eq_filter]
  apply List.filterMap_congr
  rintro ⟨target, message⟩ _
  by_cases hnone : target = MessageQueueIF.noQueue <;> simp [delivered, Option.guard, hnone]

/-- Nobody waits for less or more when messages are sent. -/
theorem foldl_waitingAfter_sends (messages : List (MessageQueueId × ModeMessage)) :
  (sends messages).foldl waitingAfter waiting = waiting
  := by
  induction messages with
  | nil =>
      rfl
  | cons message messages ih =>
      apply ih

/-- No messages are due when messages are sent. -/
theorem dues_sends (messages : List (MessageQueueId × ModeMessage)) :
  dues parent waiting (sends messages) = []
  := by
  induction messages with
  | nil =>
      rfl
  | cons message messages ih =>
      apply ih

/-- The replies that reach a queue are those to commands from a queue. -/
theorem filter_answers (mode : Mode) (submode : Submode) :
  (waiting.map (WaitingCommand.answer mode submode)).filter
      (fun message => message.1 ≠ MessageQueueIF.noQueue)
    = (waiting.filter fun command => command.sender ≠ MessageQueueIF.noQueue).map
        (WaitingCommand.answer mode submode)
  := by
  rw [List.filter_map]
  rfl

/-- The parent waits when it is among those that come from a queue. -/
theorem exists_sender_eq (hparent : parent ≠ MessageQueueIF.noQueue) :
  (∃ command ∈ waiting, command.sender = parent) ↔
    ∃ command ∈ waiting.filter (fun command => command.sender ≠ MessageQueueIF.noQueue),
      command.sender = parent
  := by
  constructor
  · rintro ⟨command, hmem, rfl⟩
    use command, List.mem_filter.mpr ⟨hmem, decide_eq_true hparent⟩
  · rintro ⟨command, hmem, rfl⟩
    use command, List.mem_of_mem_filter hmem

end ModeEvent

/-- What happens to a helper. -/
inductive ModeInput where
  | message (sender : MessageQueueId) (command : ModeMessage) (owner : ModeOwner)
  | call (call : ModeOwnerCall)

namespace ModeHelper

open ModeEvent Step

variable {H H' : ModeHelper} {events : List ModeEvent} {owner : ModeOwner}
  {sender parent : MessageQueueId} {mode : Mode} {submode : Submode}

def next (H : ModeHelper) : ModeInput → ModeHelper
  | .message sender command owner => (H.handleModeCommand sender owner command).2
  | .call call => H.call call

/-- A run takes messages and calls in any order. -/
def step : Step ModeHelper ModeInput Unit :=
  fun H input => some (H.next input, ())

/-- What a command that is rejected should leave as it is. -/
structure Unchanged (H H' : ModeHelper) : Prop where
  commandedMode : H'.commandedMode = H.commandedMode
  commandedSubmode : H'.commandedSubmode = H.commandedSubmode
  commander : H'.theOneWhoCommandedAMode = H.theOneWhoCommandedAMode
  forced : H'.forced = H.forced
  countdown : H'.countdown = H.countdown

/-- If the input is a command that is rejected, then it leaves the helper unchanged. -/
def LeavesUnchanged (H : ModeHelper) : ModeInput → Prop
  | .message sender (.modeCommand mode submode) owner =>
      owner.checkModeCommand ≠ .ok →
        H.Unchanged (H.next (.message sender (.modeCommand mode submode) owner))
  | .message sender (.modeCommandForced mode submode) owner =>
      owner.checkModeCommand ≠ .ok →
        H.Unchanged (H.next (.message sender (.modeCommandForced mode submode) owner))
  | _ => True

/-- No command is accepted while a commander is remembered, and no forced command is rejected while
the helper is not forced. -/
def Sound (H : ModeHelper) : ModeInput → Prop
  | .message _ (.modeCommand _ _) owner =>
      owner.checkModeCommand = .ok → H.theOneWhoCommandedAMode = MessageQueueIF.noQueue
  | .message _ (.modeCommandForced _ _) owner =>
      if owner.checkModeCommand = .ok then H.theOneWhoCommandedAMode = MessageQueueIF.noQueue
      else H.forced = true
  | _ => True

/-- The command that waits for the owner to end a transition. -/
def waitingCommand (H : ModeHelper) : List WaitingCommand :=
  if H.theOneWhoCommandedAMode = MessageQueueIF.noQueue then []
  else [⟨H.theOneWhoCommandedAMode, H.commandedMode, H.commandedSubmode⟩]

/-- The answers that are due have been given, and the command that the helper remembers is the only
one that waits. -/
structure Answering (H : ModeHelper) (parent : MessageQueueId) : Prop where
  parentQueueId : H.parentQueueId = parent
  answers : Answers parent H.log
  waiting : (H.log.foldl waitingAfter []).filter
      (fun command => command.sender ≠ MessageQueueIF.noQueue) = H.waitingCommand

/-- An event at which the messages that are due are sent. -/
theorem Answering.event (h : H.Answering parent) (event : ModeEvent)
    (messages : List (MessageQueueId × ModeMessage))
    (hlog : H'.log = H.log ++ event :: sends messages)
    (hparent : H'.parentQueueId = H.parentQueueId)
    (hdue : messages.filter (fun message => message.1 ≠ MessageQueueIF.noQueue)
      = (event.due parent (H.log.foldl waitingAfter [])).filter
          fun message => message.1 ≠ MessageQueueIF.noQueue)
    (hwaiting : (event.waitingAfter (H.log.foldl waitingAfter [])).filter
      (fun command => command.sender ≠ MessageQueueIF.noQueue) = H'.waitingCommand)
    (hevent : event.delivered = none) :
  H'.Answering parent
  where
  parentQueueId := hparent.trans h.parentQueueId
  answers := by
    rw [Answers, hlog, List.filterMap_append, dues_append, List.filter_append, ← h.answers,
      dues, dues_sends, List.append_nil, ← hdue, List.filterMap_cons_none hevent,
      filterMap_delivered_sends]
  waiting := by
    rw [hlog, List.foldl_append, List.foldl_cons, foldl_waitingAfter_sends]
    apply hwaiting

/-- The messages of a change of the mode: a reply to the command that waits, and information for
the parent when it is not the commander. -/
def changeMessages (H : ModeHelper) (mode : Mode) (submode : Submode) :
    List (MessageQueueId × ModeMessage) :=
  H.waitingCommand.map (WaitingCommand.answer mode submode) ++
    if H.theOneWhoCommandedAMode = H.parentQueueId ∨ H.parentQueueId = MessageQueueIF.noQueue then []
    else [(H.parentQueueId, .modeInfo mode submode)]

theorem sendModeReplyMessage_eq (H : ModeHelper) (mode : Mode) (submode : Submode) :
  H.sendModeReplyMessage mode submode =
    { H with
      log := H.log ++ sends (H.waitingCommand.map (WaitingCommand.answer mode submode)) }
  := by
  by_cases hnone : H.theOneWhoCommandedAMode = MessageQueueIF.noQueue
  · rw [sendModeReplyMessage, if_neg (not_not.mpr hnone), waitingCommand, if_pos hnone, List.map_nil,
      sends, List.map_nil, List.append_nil]
  · rw [sendModeReplyMessage, if_pos hnone, waitingCommand, if_neg hnone]
    by_cases hreached : mode = H.commandedMode ∧ submode = H.commandedSubmode
    · simp [sends, hreached, WaitingCommand.answer, sendMessage, record]
    · simp [sends, hreached, not_and_or.mp hreached, WaitingCommand.answer, sendMessage, record]

theorem sendModeInfoMessage_eq (H : ModeHelper) (mode : Mode) (submode : Submode) :
  H.sendModeInfoMessage mode submode =
    { H with
      log := H.log ++ sends
        (if H.theOneWhoCommandedAMode = H.parentQueueId ∨ H.parentQueueId = MessageQueueIF.noQueue
        then [] else [(H.parentQueueId, .modeInfo mode submode)]) }
  := by
  by_cases hparent :
      H.theOneWhoCommandedAMode = H.parentQueueId ∨ H.parentQueueId = MessageQueueIF.noQueue
  · rw [if_pos hparent, sends, List.map_nil, List.append_nil]
    apply if_neg
    rwa [← not_or, not_not]
  · rw [if_neg hparent]
    apply if_pos
    rwa [← not_or]

theorem modeChanged_eq (H : ModeHelper) (mode : Mode) (submode : Submode) :
  H.modeChanged mode submode =
    { H with
      theOneWhoCommandedAMode := MessageQueueIF.noQueue
      forced := false
      log := H.log ++ .changed mode submode :: sends (H.changeMessages mode submode) }
  := by
  simp only [ModeHelper.modeChanged, sendModeReplyMessage_eq, sendModeInfoMessage_eq, record,
    changeMessages, sends, List.map_append, List.append_assoc, List.cons_append, List.nil_append]
  rfl

/-- The messages that a helper sends are those that are due when the mode changes. -/
theorem Answering.changeMessages (h : H.Answering parent) (mode : Mode) (submode : Submode) :
  (H.changeMessages mode submode).filter (fun message => message.1 ≠ MessageQueueIF.noQueue)
    = (due parent (H.log.foldl waitingAfter []) (.changed mode submode)).filter
        fun message => message.1 ≠ MessageQueueIF.noQueue
  := by
  obtain rfl := h.parentQueueId
  rw [ModeHelper.changeMessages, due, List.filter_append, List.filter_append, filter_answers,
    filter_answers, ← h.waiting, List.filter_filter]
  congr 1
  · simp
  · by_cases hparent : H.parentQueueId = MessageQueueIF.noQueue
    · split <;> split <;> simp_all
    · congr 1
      apply if_congr _ rfl rfl
      rw [exists_sender_eq hparent, h.waiting, or_iff_left hparent, waitingCommand]
      constructor
      · intro hcommander
        rw [if_neg (hcommander.trans_ne hparent)]
        exact ⟨_, List.mem_singleton_self _, hcommander⟩
      · rintro ⟨command, hmem, hsender⟩
        split at hmem
        · cases hmem
        · rw [← hsender, List.mem_singleton.mp hmem]

theorem Answering.modeChanged (h : H.Answering parent) (mode : Mode) (submode : Submode) :
  (H.modeChanged mode submode).Answering parent
  := by
  rw [modeChanged_eq]
  apply h.event (.changed mode submode) (H.changeMessages mode submode)
  · rfl
  · rfl
  · apply h.changeMessages
  · rfl
  · rfl

/-- The log and what it is compared with do not depend on the timer and on whether the mode is
forced. -/
theorem Answering.congr (h : H.Answering parent) (hlog : H'.log = H.log)
    (hparent : H'.parentQueueId = H.parentQueueId)
    (hwaiting : H'.waitingCommand = H.waitingCommand) :
  H'.Answering parent
  where
  parentQueueId := hparent.trans h.parentQueueId
  answers := by
    rw [hlog]
    apply h.answers
  waiting := by
    rw [hlog, hwaiting]
    apply h.waiting

theorem Answering.call (h : H.Answering parent) (call : ModeOwnerCall) :
  (H.call call).Answering parent
  := by
  cases call with
  | modeChanged mode submode => apply h.modeChanged
  | startTimer currentTime timeoutMs => exact h.congr rfl rfl rfl
  | setForced forced => exact h.congr rfl rfl rfl

theorem Answering.calls (h : H.Answering parent) (calls : List ModeOwnerCall) :
  (calls.foldl ModeHelper.call H).Answering parent
  := by
  induction calls generalizing H with
  | nil =>
      apply h
  | cons call calls ih =>
      apply ih (h.call call)

/-- An event at which nothing is due. -/
theorem Answering.record (h : H.Answering parent) (event : ModeEvent)
    (hdue : ∀ waiting, event.due parent waiting = [])
    (hwaiting : ∀ waiting, event.waitingAfter waiting = waiting) (hevent : event.delivered = none) :
  (H.record event).Answering parent
  := by
  apply h.event event []
  · rfl
  · rfl
  · rw [hdue]
  · rw [hwaiting]
    apply h.waiting
  · apply hevent

/-- An event at which the sender of a message gets an answer at once. -/
theorem Answering.reply (h : H.Answering parent) (event : ModeEvent) (message : ModeMessage)
    (hdue : ∀ waiting, event.due parent waiting = [(sender, message)])
    (hwaiting : ∀ waiting, event.waitingAfter waiting = waiting) (hevent : event.delivered = none) :
  ((H.record event).sendMessage sender message).Answering parent
  := by
  apply h.event event [(sender, message)]
  · simp [sendMessage, ModeHelper.record, sends]
  · rfl
  · rw [hdue]
  · rw [hwaiting]
    apply h.waiting
  · apply hevent

/-- A command that is rejected gets the reason. -/
theorem Answering.rejected (h : H.Answering parent) (hcheck : owner.checkModeCommand ≠ .ok) :
  (H.commandMode sender mode submode owner).Answering parent
  := by
  rw [commandMode, if_pos hcheck]
  apply h.reply _ _ (fun _ => rfl) (fun _ => rfl) rfl

/-- When no commander is remembered, a command that is accepted is the only one that waits. -/
theorem Answering.accepted (h : H.Answering parent) (hcheck : owner.checkModeCommand = .ok)
    (hnone : H.theOneWhoCommandedAMode = MessageQueueIF.noQueue) :
  (H.commandMode sender mode submode owner).Answering parent
  := by
  have haccepted : { H.record (.accepted sender mode submode) with
      theOneWhoCommandedAMode := sender
      commandedMode := mode
      commandedSubmode := submode }.Answering parent := by
    apply h.event (.accepted sender mode submode) []
    · rfl
    · rfl
    · rfl
    · rw [waitingAfter, List.filter_append, h.waiting, waitingCommand, if_pos hnone,
        List.nil_append, waitingCommand]
      by_cases hsender : sender = MessageQueueIF.noQueue <;> simp [hsender]
    · rfl
  rw [commandMode, if_neg (not_not.mpr hcheck)]
  apply Answering.calls
  dsimp only
  split
  · exact (haccepted.record .setToExternalControl (fun _ => rfl) (fun _ => rfl) rfl).congr rfl rfl rfl
  · exact haccepted.congr rfl rfl rfl

/-- A sound input keeps the answers. -/
theorem Answering.next (h : H.Answering parent) {input : ModeInput} (hsound : H.Sound input) :
  (H.next input).Answering parent
  := by
  cases input with
  | call call => apply h.call
  | message sender command owner =>
      cases command with
      | modeCommand mode submode =>
          by_cases hcheck : owner.checkModeCommand = .ok
          · apply h.accepted hcheck (hsound hcheck)
          · apply h.rejected hcheck
      | modeCommandForced mode submode =>
          have hforced : { H with forced := true }.Answering parent := h.congr rfl rfl rfl
          by_cases hcheck : owner.checkModeCommand = .ok
          · rw [Sound, if_pos hcheck] at hsound
            apply hforced.accepted hcheck hsound
          · apply hforced.rejected hcheck
      | modeRead => apply h.reply _ _ (fun _ => rfl) (fun _ => rfl) rfl
      | modeAnnounce => apply h.record _ (fun _ => rfl) (fun _ => rfl) rfl
      | modeAnnounceRecursively => apply h.record _ (fun _ => rfl) (fun _ => rfl) rfl
      | modeReply _ _ | modeInfo _ _ | cantReachMode _ | wrongModeReply _ _ | other _ => apply h

/-- A sound command that is rejected leaves the helper unchanged. -/
theorem leavesUnchanged_of_sound {input : ModeInput} (hsound : H.Sound input) :
  H.LeavesUnchanged input
  := by
  cases input with
  | call call => trivial
  | message sender command owner =>
      cases command with
      | modeCommand mode submode =>
          intro hcheck
          change H.Unchanged (H.commandMode sender mode submode owner)
          rw [commandMode, if_pos hcheck]
          exact ⟨rfl, rfl, rfl, rfl, rfl⟩
      | modeCommandForced mode submode =>
          intro hcheck
          rw [Sound, if_neg hcheck] at hsound
          change H.Unchanged (commandMode { H with forced := true } sender mode submode owner)
          rw [commandMode, if_pos hcheck]
          exact ⟨rfl, rfl, rfl, hsound.symm, rfl⟩
      | _ => trivial

/-- A new helper, which knows its parent, has nothing to answer. -/
theorem answering_setParentQueue (parent : MessageQueueId) :
  (new.setParentQueue parent).Answering parent
  := by
  constructor <;> rfl

/-- In every run of sound inputs the answers that are due are given, and commands that are rejected
leave the helper unchanged. -/
theorem answers_of_run {inputs : List ModeInput} {outputs : List Unit}
    (hsound : step.Along Sound (new.setParentQueue parent) inputs)
    (hrun : step.run (new.setParentQueue parent) inputs = some (H, outputs)) :
  Answers parent H.log ∧ step.Along LeavesUnchanged (new.setParentQueue parent) inputs
  := by
  constructor
  · have hanswering : H.Answering parent := by
      apply run_preserves_along (I := fun H => H.Answering parent) _
        (answering_setParentQueue parent) hsound hrun
      intro H input H' _ h hsound hstep
      cases hstep
      apply h.next hsound
    apply hanswering.answers
  · apply along_mono _ hsound
    intro H input
    apply leavesUnchanged_of_sound

/-- A command of somebody else than the parent, the change of the mode it asks for, and a command of
the parent that is rejected. -/
theorem answers_of_run_threeInputs :
  ∃ H, step.run (new.setParentQueue 7)
        [.message 9 (.modeCommandForced 1 0) ⟨5, .ok, 100, [.startTimer 6 50], 0, 0⟩,
          .call (.modeChanged 1 0),
          .message 7 (.modeCommand 2 0) ⟨8, .failed, 0, [], 1, 0⟩] = some (H, [(), (), ()]) ∧
      Answers 7 H.log ∧
      step.Along LeavesUnchanged (new.setParentQueue 7)
        [.message 9 (.modeCommandForced 1 0) ⟨5, .ok, 100, [.startTimer 6 50], 0, 0⟩,
          .call (.modeChanged 1 0),
          .message 7 (.modeCommand 2 0) ⟨8, .failed, 0, [], 1, 0⟩]
  := by
  refine ⟨_, rfl, answers_of_run ?_ rfl⟩
  use rfl
  rintro _ _ ⟨⟩
  use trivial
  rintro _ _ ⟨⟩
  use nofun
  rintro _ _ ⟨⟩
  trivial

/-- A command that is accepted while another one waits takes its place, and a forced command that is
rejected forces the helper. -/
theorem not_answers :
  (∃ H, step.run (new.setParentQueue 7)
        [.message 7 (.modeCommand 1 0) ⟨5, .ok, 100, [], 0, 0⟩,
          .message 9 (.modeCommand 2 0) ⟨6, .ok, 100, [], 0, 0⟩,
          .call (.modeChanged 2 0)] = some (H, [(), (), ()]) ∧
      ¬ Answers 7 H.log) ∧
    ¬ LeavesUnchanged (new.setParentQueue 7)
      (.message 9 (.modeCommandForced 2 0) ⟨6, .failed, 0, [], 0, 0⟩)
  := by
  constructor
  · refine ⟨_, rfl, ?_⟩
    decide
  · intro h
    obtain ⟨_, _, _, hforced, _⟩ := h nofun
    cases hforced

end ModeHelper
