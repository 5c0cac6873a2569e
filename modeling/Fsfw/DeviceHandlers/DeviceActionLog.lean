import Fsfw.DeviceHandlers.DeviceCommunication

/-!
# The log of device commands

An action that a device handler has accepted should be over once: its commander gets a step reply
that tells that it could not be written, or a finish reply, and no other action with the same id is
accepted before.  Whether this is so is read off the log (`DeviceActionEvent.settled`).

A reply that is waited for, and is not periodic, goes on being expected until it has timed out or
was interpreted.
-/

open DeviceHandlerIF

namespace DeviceActionEvent

/-- The commander that waits for the end of a command, if the event may happen to it. -/
def settle (command reply : DeviceCommandId) (commander : Option MessageQueueId) :
    DeviceActionEvent → Option (Option MessageQueueId)
  | .accepted commandedBy actionId =>
      if actionId = command then
        if commander = none then
          some (if commandedBy = MessageQueueIF.noQueue then none else some commandedBy)
        else
          none
      else
        some commander
  | .step reportTo commandId result =>
      if commandId = command then
        if commander = some reportTo then some (if result = .ok then commander else none) else none
      else
        some commander
  | .finish _ reportTo commandId _ =>
      if commandId = command ∨ commandId = reply then
        if commander = some reportTo then some none else none
      else
        some commander
  | .rejected _ _ _ | .returnvalue _ _ | .deleteData _ => some commander

/-- The commander that waits after a log in which every command ends as it should. -/
def settled (command reply : DeviceCommandId) (log : List DeviceActionEvent) :
    Option (Option MessageQueueId) :=
  log.foldlM (settle command reply) none

/-- Events that do not belong to a command. -/
def Foreign (command reply : DeviceCommandId) (events : List DeviceActionEvent) : Prop :=
  ∀ event ∈ events, ∀ commander, event.settle command reply commander = some commander

variable {command reply : DeviceCommandId} {log events : List DeviceActionEvent}
  {commander : Option MessageQueueId}

theorem settled_append :
  settled command reply (log ++ events)
    = (settled command reply log).bind (events.foldlM (settle command reply))
  := List.foldlM_append

theorem Foreign.foldlM (h : Foreign command reply events) (commander : Option MessageQueueId) :
  events.foldlM (settle command reply) commander = some commander
  := by
  induction events with
  | nil => rfl
  | cons event events ih =>
      rw [List.foldlM_cons, h event List.mem_cons_self]
      exact ih fun event' hmem => h event' (List.mem_cons_of_mem _ hmem)

theorem settled_append_of_foreign (h : Foreign command reply events) :
  settled command reply (log ++ events) = settled command reply log
  := by
  rw [settled_append]
  cases settled command reply log with
  | none => rfl
  | some commander => exact h.foldlM commander

/-- Events that can only belong to a command. -/
def Concerns (command reply : DeviceCommandId) : DeviceActionEvent → Prop
  | .accepted _ actionId => actionId = command
  | .step _ commandId _ => commandId = command
  | .finish _ _ commandId _ => commandId = command ∨ commandId = reply
  | .rejected _ _ _ | .returnvalue _ _ | .deleteData _ => True

theorem foreign_of_concerns {other otherReply : DeviceCommandId}
    (h : ∀ event ∈ events, event.Concerns command reply) (hother : other ≠ command)
    (hreply : reply ≠ other) (hotherReply : otherReply ≠ command) (hreplies : otherReply ≠ reply) :
  Foreign other otherReply events
  := by
  intro event hevent commander
  have hconcerns := h event hevent
  cases event with
  | accepted commandedBy actionId =>
      obtain rfl : actionId = command := hconcerns
      rw [settle, if_neg hother.symm]
  | step reportTo commandId result =>
      obtain rfl : commandId = command := hconcerns
      rw [settle, if_neg hother.symm]
  | finish success reportTo commandId result =>
      rw [settle, if_neg]
      obtain rfl | rfl : commandId = command ∨ commandId = reply := hconcerns
      · exact not_or.mpr ⟨hother.symm, hotherReply.symm⟩
      · exact not_or.mpr ⟨hreply, hreplies.symm⟩
  | rejected _ _ _ | returnvalue _ _ | deleteData _ => rfl

end DeviceActionEvent

namespace DeviceReplyInfo

variable {info : DeviceReplyInfo}

/-- What the child class has told about a reply: it is not periodic, and waited for. -/
structure Once (info : DeviceReplyInfo) : Prop where
  periodic : info.periodic = false
  waits : info.countdown = none → info.maxDelayCycles ≠ 0

/-- Nothing happens to a reply that is not expected. -/
theorem decrement_of_not_pending (h : info.isPending = false) (currentTime : UInt32) :
  info.decrement currentTime = (info, false)
  := by
  obtain ⟨maxDelayCycles, delayCycles, periodic, command, countdown, active⟩ := info
  cases countdown with
  | none => simp_all [isPending, decrement]
  | some countdown => simp_all [isPending, decrement]

/-- A reply that is expected goes on being expected, or times out. -/
theorem decrement_of_pending (honce : info.Once) (h : info.isPending = true)
    (currentTime : UInt32) :
  (info.decrement currentTime).1.Once ∧
    (info.decrement currentTime).1.command = info.command ∧
    (info.decrement currentTime).1.isPending = !(info.decrement currentTime).2
  := by
  obtain ⟨maxDelayCycles, delayCycles, periodic, command, countdown, active⟩ := info
  obtain ⟨hperiodic, hwaits⟩ := honce
  cases hperiodic
  cases countdown with
  | none =>
      have hdelay : delayCycles ≠ 0 := by simpa [isPending] using h
      by_cases hlast : delayCycles - 1 = 0
      · have honce' : Once ⟨maxDelayCycles, 0, false, command, none, false⟩ := ⟨rfl, hwaits⟩
        simpa [decrement, isPending, hdelay, hlast, resetDelayCyclesControlledReply] using honce'
      · have honce' : Once ⟨maxDelayCycles, delayCycles - 1, false, command, none, active⟩ :=
          ⟨rfl, hwaits⟩
        simpa [decrement, isPending, hdelay, hlast] using honce'
  | some countdown =>
      have hactive : active = true := by simpa [isPending] using h
      by_cases htimeout : countdown.hasTimedOut currentTime
      · have honce' : Once ⟨maxDelayCycles, delayCycles, false, command,
            some (countdown.timeOut currentTime), false⟩ := ⟨rfl, fun hnone => by cases hnone⟩
        simpa [decrement, isPending, hactive, htimeout, resetTimeoutControlledReply] using honce'
      · have honce' : Once ⟨maxDelayCycles, delayCycles, false, command, some countdown, true⟩ :=
          ⟨rfl, fun hnone => by cases hnone⟩
        simpa [decrement, isPending, hactive, htimeout] using honce'

theorem Once.enable (honce : info.Once) (command : DeviceCommandId) (currentTime : UInt32) :
  (info.enable command currentTime).Once
  := by
  refine ⟨honce.periodic, fun hnone => honce.waits ?_⟩
  exact Option.map_eq_none_iff.mp hnone

theorem Once.isPending_enable (honce : info.Once) (command : DeviceCommandId)
    (currentTime : UInt32) :
  (info.enable command currentTime).isPending = true
  := by
  have hwaits := honce.waits
  cases hcountdown : info.countdown with
  | none => simp [DeviceReplyInfo.enable, isPending, hcountdown, hwaits hcountdown]
  | some countdown => simp [DeviceReplyInfo.enable, isPending, hcountdown]

/-- A reply that was interpreted is not expected any more. -/
theorem reset_of_pending (honce : info.Once) (h : info.isPending = true) (currentTime : UInt32) :
  (info.reset currentTime).Once ∧ (info.reset currentTime).command = info.command ∧
    (info.reset currentTime).isPending = false
  := by
  obtain ⟨maxDelayCycles, delayCycles, periodic, command, countdown, active⟩ := info
  obtain ⟨hperiodic, hwaits⟩ := honce
  cases hperiodic
  cases countdown with
  | none =>
      have hdelay : delayCycles ≠ 0 := by simpa [isPending] using h
      have honce' : Once ⟨maxDelayCycles, 0, false, command, none, false⟩ := ⟨rfl, hwaits⟩
      simpa [reset, isPending, hdelay, resetDelayCyclesControlledReply] using honce'
  | some countdown =>
      have hactive : active = true := by simpa [isPending] using h
      have honce' : Once ⟨maxDelayCycles, delayCycles, false, command,
          some (countdown.timeOut currentTime), false⟩ := ⟨rfl, fun hnone => by cases hnone⟩
      simpa [reset, isPending, hactive, resetTimeoutControlledReply] using honce'

end DeviceReplyInfo
