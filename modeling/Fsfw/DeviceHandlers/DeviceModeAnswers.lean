import Fsfw.DeviceHandlers.DeviceModes
import Fsfw.Modes.ModeAnswers

/-!
# Answers of device handlers

A device handler rejects mode commands during a transition, and tells its mode helper of every mode
that is not transitional.  So its mode helper remembers a commander only during a transition, and
no command takes the place of another one that waits: in every run the answers that are due are
given, and outside of transitions every command has been answered (`answered_of_run`).
-/

open HasModesIF DeviceHandlerIF

namespace DeviceModes

variable {γ : Type} {C : DeviceModeChild γ} {D D' D'' : DeviceModes γ}

/-! ### Logs -/

@[simp]
theorem ownerCalls_append (log new : List DeviceModeEvent) :
  ownerCalls (log ++ new) = ownerCalls log ++ ownerCalls new
  := List.filterMap_append

theorem log_setMode (D : DeviceModes γ) (currentUptime : UInt32) (newMode : Mode)
    (newSubmode : Submode) :
  (D.setMode currentUptime newMode newSubmode).log = D.log ++
    if transitional newMode then []
    else [.modeChanged newMode newSubmode, .event modeInfo newMode newSubmode.toUInt32]
  := by
  cases h : transitional newMode <;>
    simp [setMode, isTransitionalMode, announceMode, triggerEvent, record, h]

@[simp]
theorem mode_setMode (D : DeviceModes γ) (currentUptime : UInt32) (newMode : Mode)
    (newSubmode : Submode) :
  (D.setMode currentUptime newMode newSubmode).mode = newMode
  := by
  cases h : transitional newMode <;>
    simp [setMode, isTransitionalMode, announceMode, triggerEvent, record, h]

@[simp]
theorem submode_setMode (D : DeviceModes γ) (currentUptime : UInt32) (newMode : Mode)
    (newSubmode : Submode) :
  (D.setMode currentUptime newMode newSubmode).submode = newSubmode
  := by
  cases h : transitional newMode <;>
    simp [setMode, isTransitionalMode, announceMode, triggerEvent, record, h]

@[simp]
theorem transitionSourceMode_setMode (D : DeviceModes γ) (currentUptime : UInt32) (newMode : Mode)
    (newSubmode : Submode) :
  (D.setMode currentUptime newMode newSubmode).transitionSourceMode = D.transitionSourceMode
  := by
  cases h : transitional newMode <;>
    simp [setMode, isTransitionalMode, announceMode, triggerEvent, record, h]

@[simp]
theorem transitionSourceSubMode_setMode (D : DeviceModes γ) (currentUptime : UInt32)
    (newMode : Mode) (newSubmode : Submode) :
  (D.setMode currentUptime newMode newSubmode).transitionSourceSubMode = D.transitionSourceSubMode
  := by
  cases h : transitional newMode <;>
    simp [setMode, isTransitionalMode, announceMode, triggerEvent, record, h]

/-! ### Answers -/

/-- The log grows, and the handler stays in a transition unless its mode helper is told of a mode.
-/
def Tracks (D D' : DeviceModes γ) : Prop :=
  ∃ new, D'.log = D.log ++ new ∧
    (ownerCalls new = [] → D.isTransitionalMode = true → D'.isTransitionalMode = true)

theorem Tracks.trans (h : Tracks D D') (h' : Tracks D' D'') :
  Tracks D D''
  := by
  obtain ⟨new, hnew, htransition⟩ := h
  obtain ⟨new', hnew', htransition'⟩ := h'
  refine ⟨new ++ new', by rw [hnew', hnew, List.append_assoc], fun hcalls hD => ?_⟩
  rw [ownerCalls_append, List.append_eq_nil_iff] at hcalls
  exact htransition' hcalls.2 (htransition hcalls.1 hD)

theorem tracks_of_mode {new : List DeviceModeEvent} (hlog : D'.log = D.log ++ new)
    (hmode : D'.mode = D.mode) :
  Tracks D D'
  := by
  refine ⟨new, hlog, fun _ hD => ?_⟩
  rw [isTransitionalMode, hmode]
  exact hD

/-- A mode that is set is transitional, or announced. -/
theorem tracks_setMode (D : DeviceModes γ) (currentUptime : UInt32) (newMode : Mode)
    (newSubmode : Submode) :
  Tracks D (D.setMode currentUptime newMode newSubmode)
  := by
  refine ⟨_, log_setMode D currentUptime newMode newSubmode, fun hcalls _ => ?_⟩
  rw [isTransitionalMode, mode_setMode]
  cases h : transitional newMode with
  | true => rfl
  | false => simp [h, ownerCalls] at hcalls

theorem Tracks.setMode (h : Tracks D D') (currentUptime : UInt32) (newMode : Mode)
    (newSubmode : Submode) :
  Tracks D (D'.setMode currentUptime newMode newSubmode)
  := h.trans (tracks_setMode _ _ _ _)

theorem tracks_record (D : DeviceModes γ) (event : DeviceModeEvent) :
  Tracks D (D.record event)
  := tracks_of_mode rfl rfl

theorem tracks_setModes (D : DeviceModes γ) (currentUptime : UInt32)
    (modes : List (Mode × Option Submode)) :
  Tracks D (D.setModes currentUptime modes)
  := by
  induction modes generalizing D with
  | nil => exact tracks_of_mode (List.append_nil _).symm rfl
  | cons m modes ih => exact (tracks_setMode _ _ _ _).trans (ih _)

theorem tracks_takeTurn (D : DeviceModes γ) (currentUptime : UInt32) (turn : ChildTurn γ) :
  Tracks D (D.takeTurn currentUptime turn)
  := by
  have hturn : Tracks D
      { D with
        child := turn.child
        childTransitionFailure := turn.transitionFailure.getD D.childTransitionFailure } :=
    tracks_of_mode (List.append_nil _).symm rfl
  exact hturn.trans (tracks_setModes _ _ _)

theorem tracks_callChildStatemachine (D : DeviceModes γ) (currentUptime : UInt32) :
  Tracks D (D.callChildStatemachine C currentUptime)
  := by
  rw [callChildStatemachine]
  split_ifs
  · apply tracks_takeTurn
  · apply tracks_takeTurn
  · apply tracks_takeTurn
  · exact tracks_of_mode (List.append_nil _).symm rfl

theorem tracks_commandSwitch (D : DeviceModes γ) (onOff : ReturnValue) :
  Tracks D (D.commandSwitch C onOff)
  := by
  rw [commandSwitch]
  split
  · exact tracks_of_mode (List.append_nil _).symm rfl
  · dsimp only
    split_ifs
    · exact tracks_of_mode rfl rfl
    · exact tracks_of_mode (List.append_nil _).symm rfl

theorem tracks_doStateMachine (D : DeviceModes γ) (readings : DeviceReadings) :
  Tracks D (D.doStateMachine C readings)
  := by
  have hsame : Tracks D D := tracks_of_mode (List.append_nil _).symm rfl
  simp only [doStateMachine]
  split_ifs
  · simp only [doChildTransition]
    have hcall := tracks_callChildStatemachine (C := C) D readings.currentUptime
    split_ifs
    · exact (hcall.trans (tracks_record _ _)).setMode _ _ _
    · exact hcall
  · exact (tracks_commandSwitch _ _).setMode _ _ _
  · exact (tracks_commandSwitch _ _).setMode _ _ _
  · simp only [doWaitOn]
    split_ifs
    · apply Tracks.trans _ (tracks_callChildStatemachine _ _)
      exact (tracks_record _ _).setMode _ _ _
    · apply Tracks.trans _ (tracks_callChildStatemachine _ _)
      apply Tracks.setMode
      exact tracks_of_mode rfl rfl
    · exact hsame
  · rw [doWaitOff]
    split
    · exact (tracks_record _ _).setMode _ _ _
    · dsimp only
      split_ifs
      · exact (tracks_record _ _).setMode _ _ _
      · exact (tracks_record _ _).setMode _ _ _
      · exact hsame
  · apply tracks_takeTurn
  · apply tracks_takeTurn
  · exact hsame
  · apply tracks_setMode
  · exact (tracks_record _ _).setMode _ _ _

/-- The child class accepts commands for the modes that can be commanded only. -/
def CommandsModes (C : DeviceModeChild γ) : Prop :=
  ∀ mode submode child, C.isModeCombinationValid mode submode child = .ok →
    mode = modeOff ∨ mode = modeOn ∨ mode = modeNormal ∨ mode = modeRaw

/-- The default does. -/
theorem commandable_of_valid {mode : Mode} {submode : Submode}
    (h : isModeCombinationValid mode submode = .ok) :
  mode = modeOff ∨ mode = modeOn ∨ mode = modeNormal ∨ mode = modeRaw
  := by
  rw [isModeCombinationValid] at h
  split at h
  · assumption
  · cases h

/-- The log grows, and the handler is in a transition unless its mode helper is told of a mode. -/
def Begins (D D' : DeviceModes γ) : Prop :=
  ∃ new, D'.log = D.log ++ new ∧ (ownerCalls new = [] → D'.isTransitionalMode = true)

theorem Begins.tracks (h : Begins D D') :
  Tracks D D'
  := by
  obtain ⟨new, hlog, htransition⟩ := h
  exact ⟨new, hlog, fun hcalls _ => htransition hcalls⟩

theorem begins_of_transitional {new : List DeviceModeEvent} (hlog : D'.log = D.log ++ new)
    (hmode : transitional D'.mode = true) :
  Begins D D'
  := ⟨new, hlog, fun _ => hmode⟩

theorem begins_setTransition {modeTo : Mode}
    (hmode : transitional (modeTo ||| transitionModeChildActionMask) = true)
    (currentUptime : UInt32) (submodeTo : Submode) :
  Begins D (D.setTransition C currentUptime modeTo submodeTo)
  := by
  apply begins_of_transitional
  · rw [setTransition, log_setMode, hmode, if_pos rfl, List.append_nil]
    rfl
  · rw [setTransition, mode_setMode]
    exact hmode

/-- A command that is accepted begins a transition, or is over at once. -/
theorem begins_startTransition (hC : CommandsModes C) {commandedMode : Mode}
    {commandedSubmode : Submode}
    (hcheck : D.checkModeCommand C commandedMode commandedSubmode = .ok)
    (currentUptime : UInt32) :
  Begins D (D.startTransition C currentUptime commandedMode commandedSubmode)
  := by
  rw [checkModeCommand] at hcheck
  split_ifs at hcheck with htransitional herror hnormal
  obtain rfl | rfl | rfl | rfl := hC _ _ _ hcheck
  · rw [startTransition, if_neg (by decide), if_pos rfl]
    split_ifs
    · apply begins_of_transitional
      · rw [log_setMode, triggerEvent, record, List.append_assoc]
      · rw [mode_setMode]
        decide
    · apply begins_of_transitional
      · rw [triggerEvent, record, log_setMode, List.append_assoc]
      · rw [triggerEvent, record, mode_setMode]
        decide
  · rw [startTransition, if_pos rfl, handleTransitionToOnMode]
    split_ifs
    · apply begins_of_transitional
      · rw [triggerEvent, record, log_setMode, List.append_assoc]
      · rw [triggerEvent, record, mode_setMode]
        decide
    · exact begins_setTransition (by decide) _ _
  · have hoff : D.mode ≠ modeOff := fun hoff => hnormal ⟨rfl, hoff⟩
    rw [startTransition, if_neg (by decide), if_neg (by decide), if_neg (by decide), if_pos rfl,
      if_pos hoff]
    exact begins_setTransition (by decide) _ _
  · rw [startTransition, if_neg (by decide), if_neg (by decide), if_pos rfl]
    split_ifs
    · exact begins_setTransition (by decide) _ _
    · refine ⟨_, log_setMode _ _ _ _, fun hcalls => ?_⟩
      cases hcalls

/-- The mode helper has given the answers that are due, and remembers a commander only while the
handler is in a transition. -/
structure Answered (parent : MessageQueueId) (S : DeviceModes γ × ModeHelper) : Prop where
  answering : S.2.Answering parent
  transition : S.2.theOneWhoCommandedAMode ≠ MessageQueueIF.noQueue →
    S.1.isTransitionalMode = true

/-- No commander is remembered after the mode helper has been told of a mode. -/
theorem commander_calls {new : List DeviceModeEvent} (hnew : ownerCalls new ≠ [])
    (H : ModeHelper) :
  ((ownerCalls new).foldl ModeHelper.call H).theOneWhoCommandedAMode = MessageQueueIF.noQueue
  := by
  induction new using List.reverseRecOn with
  | nil => exact absurd rfl hnew
  | append_singleton new event ih =>
      rw [ownerCalls_append, List.foldl_append]
      cases event with
      | modeChanged mode submode =>
          rw [show ownerCalls [.modeChanged mode submode] = [.modeChanged mode submode] from rfl,
            List.foldl_cons, List.foldl_nil, ModeHelper.call, ModeHelper.modeChanged_eq]
      | _ =>
          rw [ownerCalls_append] at hnew
          exact ih fun hcalls => hnew (by rw [hcalls]; rfl)

theorem drop_of_log {new : List DeviceModeEvent} (hlog : D'.log = D.log ++ new) :
  D'.log.drop D.log.length = new
  := by
  rw [hlog, List.drop_left]

/-- The calls that a handler makes keep the answers. -/
theorem Answered.calls {parent : MessageQueueId} {H : ModeHelper} (h : Answered parent (D, H))
    (htracks : Tracks D D') :
  Answered parent (D', (ownerCalls (D'.log.drop D.log.length)).foldl ModeHelper.call H)
  := by
  obtain ⟨new, hlog, htransition⟩ := htracks
  rw [drop_of_log hlog]
  refine ⟨h.answering.calls _, fun hcommander => ?_⟩
  by_cases hcalls : ownerCalls new = []
  · rw [hcalls] at hcommander
    exact htransition hcalls (h.transition hcommander)
  · exact absurd (commander_calls hcalls H) hcommander

/-- A command that is accepted, plain or forced. -/
theorem Answered.accepted {parent sender : MessageQueueId} {H : ModeHelper} {mode : Mode}
    {submode : Submode} {owner : ModeOwner} (h : Answered parent (D, H))
    (hcheck : owner.checkModeCommand = .ok) (hD : D.isTransitionalMode = false)
    (hbegins : Begins D D')
    (howner : owner.startTransition = ownerCalls (D'.log.drop D.log.length)) :
  Answered parent (D', H.commandMode sender mode submode owner)
  := by
  have hnone : H.theOneWhoCommandedAMode = MessageQueueIF.noQueue := by
    by_contra hcommander
    rw [h.transition hcommander] at hD
    cases hD
  refine ⟨h.answering.accepted hcheck hnone, ?_⟩
  obtain ⟨new, hlog, htransition⟩ := hbegins
  intro hcommander
  apply htransition
  by_contra hcalls
  apply hcommander
  rw [ModeHelper.commandMode, if_neg (not_not.mpr hcheck), howner, drop_of_log hlog]
  exact commander_calls hcalls _

theorem Answered.rejected {parent sender : MessageQueueId} {H : ModeHelper} {mode : Mode}
    {submode : Submode} {owner : ModeOwner} (h : Answered parent (D, H))
    (hcheck : owner.checkModeCommand ≠ .ok) :
  Answered parent (D, H.commandMode sender mode submode owner)
  := by
  refine ⟨h.answering.rejected hcheck, ?_⟩
  rw [ModeHelper.commandMode, if_pos hcheck]
  exact h.transition

/-- No command is accepted during a transition. -/
theorem not_transitional_of_ok {commandedMode : Mode} {commandedSubmode : Submode}
    (hcheck : D.checkModeCommand C commandedMode commandedSubmode = .ok) :
  D.isTransitionalMode = false
  := by
  by_contra htransition
  rw [checkModeCommand, if_pos (Bool.not_eq_false _ ▸ htransition)] at hcheck
  cases hcheck

/-- A mode command, plain or forced. -/
theorem Answered.command (hC : CommandsModes C) {parent : MessageQueueId} {H : ModeHelper}
    (h : Answered parent (D, H)) {command : ModeMessage} {mode : Mode} {submode : Submode}
    (hcheck : D.checkModeMessage C command = D.checkModeCommand C mode submode)
    (hhandle : ∀ currentUptime, D.handleModeMessage C command currentUptime =
      if D.checkModeCommand C mode submode = .ok then
        D.startTransition C currentUptime mode submode
      else D)
    (sender : MessageQueueId) (currentUptime msToReachTheMode : UInt32) :
  Answered parent
    (D.handleModeMessage C command currentUptime,
      H.commandMode sender mode submode (D.modeOwner C command currentUptime msToReachTheMode))
  := by
  by_cases hok : D.checkModeCommand C mode submode = .ok
  · apply h.accepted (hcheck.trans hok) (not_transitional_of_ok hok)
    · rw [hhandle, if_pos hok]
      exact begins_startTransition hC hok currentUptime
    · rfl
  · rw [hhandle, if_neg hok]
    apply h.rejected
    rw [modeOwner, hcheck]
    exact hok

/-- What happens to a handler keeps the answers. -/
theorem Answered.step (hC : CommandsModes C) {parent : MessageQueueId}
    {S S' : DeviceModes γ × ModeHelper} {input : DeviceModeInput γ} {output : Unit}
    (h : Answered parent S) (hstep : step C S input = some (S', output)) :
  Answered parent S'
  := by
  obtain ⟨D, H⟩ := S
  cases input with
  | doStateMachine readings =>
      cases hstep
      exact h.calls (tracks_doStateMachine D readings)
  | checkSwitchState readings =>
      cases hstep
      refine ⟨h.answering, fun hcommander => ?_⟩
      rw [← h.transition hcommander, isTransitionalMode, checkSwitchState]
      split_ifs <;> rfl
  | childTurn turn currentUptime =>
      cases hstep
      exact h.calls (tracks_takeTurn D currentUptime turn)
  | modeMessage sender command currentUptime msToReachTheMode =>
      cases hstep
      cases command with
      | modeCommand mode submode => exact h.command hC rfl (fun _ => rfl) _ _ _
      | modeCommandForced mode submode =>
          have hforced : Answered parent (D, { H with forced := true }) :=
            ⟨h.answering.congr rfl rfl rfl, h.transition⟩
          exact hforced.command hC rfl (fun _ => rfl) _ _ _
      | modeRead =>
          refine ⟨?_, h.transition⟩
          exact h.answering.reply _ _ (fun _ => rfl) (fun _ => rfl) rfl
      | modeAnnounce | modeAnnounceRecursively =>
          refine ⟨?_, fun hcommander => ?_⟩
          · exact h.answering.record _ (fun _ => rfl) (fun _ => rfl) rfl
          · rw [← h.transition hcommander]
            rfl
      | modeReply _ _ | modeInfo _ _ | cantReachMode _ | wrongModeReply _ _ | other _ => exact h

/-- A device handler whose child class accepts the modes that can be commanded only gives the
answers that are due in every run, and has answered every command when it is not in a transition. -/
theorem answered_of_run (hC : CommandsModes C) {child : γ} {setStartupImmediately : Bool}
    {currentUptime : UInt32} {parent : MessageQueueId} {H : ModeHelper}
    {inputs : List (DeviceModeInput γ)} {outputs : List Unit}
    (hrun : (step C).run
      ((new child).initializeAfterTaskCreation C setStartupImmediately currentUptime,
        ModeHelper.new.setParentQueue parent) inputs = some ((D, H), outputs)) :
  ModeEvent.Answers parent H.log ∧
    (D.isTransitionalMode = false → ∀ command ∈ H.log.foldl ModeEvent.waitingAfter [],
      command.sender = MessageQueueIF.noQueue)
  := by
  have hstart : Answered parent
      ((new child).initializeAfterTaskCreation C setStartupImmediately currentUptime,
        ModeHelper.new.setParentQueue parent) :=
    ⟨ModeHelper.answering_setParentQueue parent, fun hcommander => absurd rfl hcommander⟩
  have h : Answered parent (D, H) :=
    Step.run_preserves (fun _ _ _ _ => Answered.step hC) hstart hrun
  refine ⟨h.answering.answers, fun hD command hmem => ?_⟩
  have hnone : H.theOneWhoCommandedAMode = MessageQueueIF.noQueue := by
    by_contra hcommander
    rw [h.transition hcommander] at hD
    cases hD
  have hwaiting := h.answering.waiting
  rw [ModeHelper.waitingCommand, if_pos hnone, List.filter_eq_nil_iff] at hwaiting
  simpa using hwaiting command hmem

/-- A command for a mode, and its answer after the transition. -/
theorem answered_of_run_simple :
  ∃ D H outputs, (step .simple).run
        ((new ()).initializeAfterTaskCreation .simple false 0, ModeHelper.new.setParentQueue 7)
        [.modeMessage 9 (.modeCommand modeOn 0) 5 100, .doStateMachine ⟨6, fun _ => .ok⟩,
          .doStateMachine ⟨7, fun _ => .ok⟩, .doStateMachine ⟨8, fun _ => .ok⟩]
        = some ((D, H), outputs) ∧
      ModeEvent.Answers 7 H.log ∧
      (D.isTransitionalMode = false → ∀ command ∈ H.log.foldl ModeEvent.waitingAfter [],
        command.sender = MessageQueueIF.noQueue)
  := by
  obtain ⟨⟨⟨D, H⟩, outputs⟩, hrun⟩ : ∃ result, (step .simple).run
      ((new ()).initializeAfterTaskCreation .simple false 0, ModeHelper.new.setParentQueue 7)
      [.modeMessage 9 (.modeCommand modeOn 0) 5 100, .doStateMachine ⟨6, fun _ => .ok⟩,
        .doStateMachine ⟨7, fun _ => .ok⟩, .doStateMachine ⟨8, fun _ => .ok⟩] = some result :=
    ⟨_, rfl⟩
  refine ⟨D, H, outputs, hrun, answered_of_run ?_ hrun⟩
  intro mode submode _ hvalid
  exact commandable_of_valid hvalid

end DeviceModes
