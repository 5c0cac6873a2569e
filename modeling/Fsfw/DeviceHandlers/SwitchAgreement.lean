import Fsfw.DeviceHandlers.DeviceModeAnswers

/-!
# Modes of devices and their switches

A device counts as switched on after its switches have been found on, or when its handler has given
up waiting for them to be off, and as switched off after they have been found off.

When the child class sets the modes that it may set, and raw mode is not commanded while the device
is off, a handler announces that its device is on only while it is switched on, and that it is off
only while it is switched off (`agrees_of_run`).

A child class that leaves starting up and shutting down to the timeout does not bring the handler
to cutting the power: once the switches have been found on, the handler starts up or shuts down for
ever, rejects every command, commands no switch, and announces no mode (`stuck_of_run`).
-/

open HasModesIF DeviceHandlerIF

namespace DeviceModeEvent

/-- Whether the device is switched on after an event. -/
def switchedAfter (switched : Bool) : DeviceModeEvent → Bool
  | .switchesOn => true
  | .switchesOff => false
  | .modeChanged mode _ => switched || mode == modeErrorOn
  | .event .. | .switchCommand .. | .reply .. => switched

/-- The modes in which the device is on. -/
def onModes : List Mode := [modeOn, modeNormal, modeRaw]

/-- The modes that agree with the switches when they are announced. -/
def announcedModes (switched : Bool) : List Mode :=
  modeErrorOn :: if switched then onModes else [modeOff]

/-- A mode that is announced agrees with the switches. -/
def Agrees (switched : Bool) : DeviceModeEvent → Prop
  | .modeChanged mode _ => mode ∈ announcedModes switched
  | _ => True

/-- Every mode that is announced agrees with the switches. -/
def AllAgree : Bool → List DeviceModeEvent → Prop
  | _, [] => True
  | switched, head :: log => head.Agrees switched ∧ AllAgree (head.switchedAfter switched) log

theorem allAgree_append {switched : Bool} {log new : List DeviceModeEvent} :
  AllAgree switched (log ++ new)
    ↔ AllAgree switched log ∧ AllAgree (log.foldl switchedAfter switched) new
  := by
  induction log generalizing switched with
  | nil => simp [AllAgree]
  | cons head log ih => simp [AllAgree, ih, and_assoc]

end DeviceModeEvent

namespace DeviceModes

open DeviceModeEvent

variable {γ : Type} {C : DeviceModeChild γ} {D D' : DeviceModes γ}

/-! ### Agreement -/

def switched (D : DeviceModes γ) : Bool :=
  D.log.foldl switchedAfter false

/-- The modes in which the switches are commanded, or waited for. -/
def switchingModes : List Mode := [modePowerDown, modePowerOn, modeWaitOn, modeWaitOff]

/-- The other modes of a device that is switched on. -/
def switchedOnModes : List Mode :=
  [modeErrorOn, modeStartUp, modeShutDown, modeToOn, modeToNormal, modeToRaw] ++ onModes

/-- The other modes of a device that is switched off. -/
def switchedOffModes : List Mode := [modeOff, modeSwitchIsOff]

/-- The modes that a child class may set, and where it may do so. -/
def MaySet (mode newMode : Mode) : Prop :=
  mode ∈ [modeStartUp, modeShutDown, modeToOn, modeToNormal, modeToRaw] ++ onModes ∧
    newMode ∈ [modeShutDown, modePowerDown, modeToOn, modeToNormal, modeToRaw] ++ onModes

/-- The child class sets modes that it may set, one after another. -/
def MaySetAll : Mode → List (Mode × Option Submode) → Prop
  | _, [] => True
  | mode, (newMode, _) :: modes => MaySet mode newMode ∧ MaySetAll newMode modes

/-- The child class sets the modes that it may set. -/
structure SetsModes (C : DeviceModeChild γ) : Prop where
  commands : CommandsModes C
  doStartUp : ∀ child, MaySetAll modeStartUp (C.doStartUp child).modes
  doShutDown : ∀ child, MaySetAll modeShutDown (C.doShutDown child).modes
  doTransition : ∀ mode sourceMode sourceSubmode child,
    mode ∈ [modeToOn, modeToNormal, modeToRaw] →
      MaySetAll mode (C.doTransition mode sourceMode sourceSubmode child).modes
  doOnActivity : ∀ child, MaySetAll modeOn (C.doOnActivity child).modes
  doOffActivity : ∀ child, (C.doOffActivity child).modes = []

/-- The modes that have been announced agree with the switches, and so does the mode. -/
structure AgreesWithSwitches (D : DeviceModes γ) : Prop where
  allAgree : AllAgree false D.log
  mode : D.mode ∈ switchingModes ∨
    D.mode ∈ if D.switched then switchedOnModes else switchedOffModes
  source : D.transitionSourceMode ∈ [modeShutDown, modePowerDown] ++ onModes

theorem switched_of_log {new : List DeviceModeEvent} (hlog : D'.log = D.log ++ new) :
  D'.switched = new.foldl switchedAfter D.switched
  := by
  rw [switched, hlog, List.foldl_append, switched]

/-- The modes that may be set. -/
def settableModes (switched : Bool) : List Mode :=
  modeErrorOn :: switchingModes ++ if switched then switchedOnModes else switchedOffModes

theorem transitional_settable (switched : Bool) :
  ∀ mode ∈ settableModes switched, transitional mode = true →
    mode ∈ switchingModes ∨ mode ∈ if switched then switchedOnModes else switchedOffModes
  := by
  intro mode hmode htransitional
  rw [settableModes, List.cons_append, List.mem_cons, List.mem_append] at hmode
  obtain rfl | hmode := hmode
  · cases htransitional
  · exact hmode

theorem announced_settable (switched : Bool) :
  ∀ mode ∈ settableModes switched, transitional mode = false → mode ∈ announcedModes switched
  := by
  intro mode hmode
  cases switched <;> fin_cases hmode <;> decide

theorem sides_of_announced {switched : Bool} {mode : Mode}
    (hmode : mode ∈ announcedModes switched) :
  mode ∈ if switched || mode == modeErrorOn then switchedOnModes else switchedOffModes
  := by
  rw [announcedModes, List.mem_cons] at hmode
  obtain rfl | hmode := hmode
  · rw [beq_self_eq_true, Bool.or_true]
    exact List.mem_cons_self
  · cases switched with
    | true => exact List.mem_append_right _ hmode
    | false =>
        obtain rfl := List.mem_singleton.mp hmode
        decide

/-- A mode may be set when it agrees with the switches, or when the switches are given up. -/
theorem AgreesWithSwitches.setMode (h : AgreesWithSwitches D) {newMode : Mode}
    (hmode : newMode ∈ settableModes D.switched) (currentUptime : UInt32) (newSubmode : Submode) :
  AgreesWithSwitches (D.setMode currentUptime newMode newSubmode)
  := by
  have hlog := log_setMode D currentUptime newMode newSubmode
  have hswitched := switched_of_log hlog
  cases htransitional : transitional newMode with
  | true =>
      rw [htransitional, if_pos rfl] at hlog hswitched
      constructor
      · rw [hlog, List.append_nil]
        exact h.allAgree
      · rw [mode_setMode, hswitched]
        exact transitional_settable _ _ hmode htransitional
      · rw [transitionSourceMode_setMode]
        exact h.source
  | false =>
      rw [htransitional, if_neg Bool.false_ne_true] at hlog hswitched
      have hagrees := announced_settable _ _ hmode htransitional
      constructor
      · rw [hlog, allAgree_append]
        exact ⟨h.allAgree, hagrees, trivial, trivial⟩
      · rw [mode_setMode, hswitched]
        exact .inr (sides_of_announced hagrees)
      · rw [transitionSourceMode_setMode]
        exact h.source

/-- Events at which nothing is announced, and the switches are as before, or do not matter. -/
theorem AgreesWithSwitches.events (h : AgreesWithSwitches D) {new : List DeviceModeEvent}
    (hlog : D'.log = D.log ++ new) (hmode : D'.mode = D.mode)
    (hsource : D'.transitionSourceMode ∈ [modeShutDown, modePowerDown] ++ onModes)
    (hagrees : AllAgree D.switched new)
    (hswitched : D.mode ∈ switchingModes ∨ new.foldl switchedAfter D.switched = D.switched) :
  AgreesWithSwitches D'
  where
  allAgree := by
    rw [hlog, allAgree_append]
    exact ⟨h.allAgree, hagrees⟩
  mode := by
    rw [hmode, switched_of_log hlog]
    obtain hswitching | hswitched := hswitched
    · exact .inl hswitching
    · rw [hswitched]
      exact h.mode
  source := hsource

/-- What agrees with the switches does not depend on delays. -/
theorem AgreesWithSwitches.congr (h : AgreesWithSwitches D) (hlog : D'.log = D.log)
    (hmode : D'.mode = D.mode)
    (hsource : D'.transitionSourceMode ∈ [modeShutDown, modePowerDown] ++ onModes) :
  AgreesWithSwitches D'
  := h.events (hlog.trans (List.append_nil _).symm) hmode hsource trivial (.inr rfl)

theorem AgreesWithSwitches.triggerEvent (h : AgreesWithSwitches D) (event : Event)
    (parameter1 parameter2 : UInt32) :
  AgreesWithSwitches (D.triggerEvent event parameter1 parameter2)
  := h.events rfl rfl h.source ⟨trivial, trivial⟩ (.inr rfl)

/-- What is found of the switches in a mode in which they are waited for. -/
theorem AgreesWithSwitches.found (h : AgreesWithSwitches D) (hmode : D.mode ∈ switchingModes)
    {event : DeviceModeEvent} (hevent : event = .switchesOn ∨ event = .switchesOff) :
  AgreesWithSwitches (D.record event)
  := by
  have hagrees : AllAgree D.switched [event] := by
    obtain rfl | rfl := hevent
    · exact ⟨trivial, trivial⟩
    · exact ⟨trivial, trivial⟩
  exact h.events rfl rfl h.source hagrees (.inl hmode)

theorem AgreesWithSwitches.commandSwitch (h : AgreesWithSwitches D) (onOff : ReturnValue) :
  AgreesWithSwitches (D.commandSwitch C onOff)
  := by
  have hcommands (switched : Bool) (switches : List UInt8) :
      AllAgree switched (switches.map fun switch => .switchCommand switch onOff) ∧
      (switches.map fun switch => DeviceModeEvent.switchCommand switch onOff).foldl switchedAfter
        switched = switched := by
    induction switches with
    | nil => exact ⟨trivial, rfl⟩
    | cons switch switches ih => exact ⟨⟨trivial, ih.1⟩, ih.2⟩
  rw [DeviceModes.commandSwitch]
  split
  · exact h
  · dsimp only
    split_ifs
    · exact h.events rfl rfl h.source (hcommands _ _).1 (.inr (hcommands _ _).2)
    · exact h

/-! ### The child class -/

/-- The modes in which the child class may set modes. -/
def childModes : List Mode :=
  [modeStartUp, modeShutDown, modeToOn, modeToNormal, modeToRaw] ++ onModes

theorem not_childMode :
  ∀ mode ∈ switchingModes ++ switchedOffModes, mode ∉ childModes
  := by
  intro mode hmode
  fin_cases hmode <;> decide

/-- The child class may set modes only when its device is switched on. -/
theorem AgreesWithSwitches.switched_eq_true (h : AgreesWithSwitches D)
    (hmode : D.mode ∈ childModes) :
  D.switched = true
  := by
  by_contra hswitched
  apply not_childMode D.mode _ hmode
  rw [List.mem_append]
  simpa [hswitched] using h.mode

theorem settable_of_child :
  ∀ mode ∈ [modeShutDown, modePowerDown, modeToOn, modeToNormal, modeToRaw] ++ onModes,
    mode ∈ settableModes true
  := by
  intro mode hmode
  fin_cases hmode <;> decide

theorem AgreesWithSwitches.setModes (h : AgreesWithSwitches D)
    {modes : List (Mode × Option Submode)} (hmodes : MaySetAll D.mode modes)
    (currentUptime : UInt32) :
  AgreesWithSwitches (D.setModes currentUptime modes)
  := by
  induction modes generalizing D with
  | nil => exact h
  | cons m modes ih =>
      obtain ⟨newMode, newSubmode⟩ := m
      obtain ⟨⟨hmode, hnew⟩, hrest⟩ := hmodes
      apply ih
      · apply h.setMode
        rw [h.switched_eq_true hmode]
        exact settable_of_child _ hnew
      · rw [mode_setMode]
        exact hrest

theorem AgreesWithSwitches.takeTurn (h : AgreesWithSwitches D) {turn : ChildTurn γ}
    (hturn : MaySetAll D.mode turn.modes) (currentUptime : UInt32) :
  AgreesWithSwitches (D.takeTurn currentUptime turn)
  := by
  have hchild : AgreesWithSwitches
      { D with
        child := turn.child
        childTransitionFailure := turn.transitionFailure.getD D.childTransitionFailure } :=
    ⟨h.allAgree, h.mode, h.source⟩
  exact hchild.setModes hturn currentUptime

theorem toMode_of_childAction (switched : Bool) :
  ∀ mode ∈ settableModes switched, mode &&& transitionModeChildActionMask ≠ 0 →
    mode ≠ modeStartUp → mode ≠ modeShutDown → mode ∈ [modeToOn, modeToNormal, modeToRaw]
  := by
  intro mode hmode
  cases switched <;> fin_cases hmode <;> decide

/-- The mode may be set. -/
theorem AgreesWithSwitches.settable (h : AgreesWithSwitches D) :
  D.mode ∈ settableModes D.switched
  := by
  rw [settableModes, List.cons_append, List.mem_cons, List.mem_append]
  exact .inr h.mode

theorem AgreesWithSwitches.callChildStatemachine (h : AgreesWithSwitches D) (hC : SetsModes C)
    (currentUptime : UInt32) :
  AgreesWithSwitches (D.callChildStatemachine C currentUptime)
  := by
  rw [DeviceModes.callChildStatemachine]
  split_ifs with hstart hshut hchild
  · apply h.takeTurn
    rw [hstart]
    apply hC.doStartUp
  · apply h.takeTurn
    rw [hshut]
    apply hC.doShutDown
  · apply h.takeTurn
    apply hC.doTransition
    exact toMode_of_childAction _ _ h.settable hchild hstart hshut
  · exact h

/-! ### The state machine -/

theorem settable_of_source :
  ∀ mode ∈ [modeShutDown, modePowerDown] ++ onModes, mode ∈ settableModes true
  := by
  intro mode hmode
  fin_cases hmode <;> decide

/-- The modes in which the switches are commanded or waited for may be set at any time. -/
theorem settable_of_switching {mode : Mode} (hmode : mode ∈ switchingModes) (switched : Bool) :
  mode ∈ settableModes switched
  := by
  rw [settableModes, List.cons_append, List.mem_cons, List.mem_append]
  exact .inr (.inl hmode)

theorem switched_switchesOn (D : DeviceModes γ) :
  (D.record .switchesOn).switched = true
  := by
  rw [switched, record, List.foldl_append]
  rfl

theorem switched_switchesOff (D : DeviceModes γ) :
  (D.record .switchesOff).switched = false
  := by
  rw [switched, record, List.foldl_append]
  rfl

theorem switched_triggerEvent (D : DeviceModes γ) (event : Event) (parameter1 parameter2 : UInt32) :
  (D.triggerEvent event parameter1 parameter2).switched = D.switched
  := by
  rw [switched, triggerEvent, record, List.foldl_append]
  rfl

theorem AgreesWithSwitches.doChildTransition (h : AgreesWithSwitches D) (hC : SetsModes C)
    (hmode : D.mode ∈ childModes) (currentUptime : UInt32) :
  AgreesWithSwitches (D.doChildTransition C currentUptime)
  := by
  simp only [DeviceModes.doChildTransition]
  have hcall := h.callChildStatemachine hC currentUptime
  split_ifs with htimeout
  · apply (hcall.triggerEvent _ _ _).setMode
    rw [switched_triggerEvent, hcall.switched_eq_true (htimeout.1 ▸ hmode)]
    exact settable_of_source _ hcall.source
  · exact hcall

theorem AgreesWithSwitches.doWaitOn (h : AgreesWithSwitches D) (hC : SetsModes C)
    (hmode : D.mode = modeWaitOn) (readings : DeviceReadings) :
  AgreesWithSwitches (D.doWaitOn C readings)
  := by
  simp only [DeviceModes.doWaitOn]
  split_ifs
  · refine ((h.triggerEvent _ _ _).setMode ?_ _ _).callChildStatemachine hC _
    exact settable_of_switching (by decide) _
  · have hstart : AgreesWithSwitches
        { D with
          childTransitionFailure := DeviceHandlerBase.childTimeout
          transitionSourceMode := modeShutDown
          transitionSourceSubMode := submodeNone } :=
      ⟨h.allAgree, h.mode, List.mem_cons_self⟩
    have hwait : D.mode ∈ switchingModes := hmode ▸ by decide
    refine ((hstart.found hwait (.inl rfl)).setMode ?_ _ _).callChildStatemachine hC _
    rw [switched_switchesOn]
    decide
  · exact h

theorem AgreesWithSwitches.doWaitOff (h : AgreesWithSwitches D) (hmode : D.mode = modeWaitOff)
    (readings : DeviceReadings) :
  AgreesWithSwitches (D.doWaitOff C readings)
  := by
  have hwait : D.mode ∈ switchingModes := hmode ▸ by decide
  rw [DeviceModes.doWaitOff]
  split
  · apply (h.found hwait (.inr rfl)).setMode
    rw [switched_switchesOff]
    decide
  · dsimp only
    split_ifs
    · apply (h.triggerEvent _ _ _).setMode
      exact List.mem_cons_self
    · apply (h.found hwait (.inr rfl)).setMode
      rw [switched_switchesOff]
      decide
    · exact h

/-- The mode is set to off after the switches have been found off. -/
theorem AgreesWithSwitches.switchIsOff (h : AgreesWithSwitches D)
    (hmode : D.mode = modeSwitchIsOff) :
  D.switched = false
  := by
  by_contra hswitched
  have hsides := h.mode
  rw [hmode, if_pos (Bool.not_eq_false _ ▸ hswitched)] at hsides
  revert hsides
  decide

theorem AgreesWithSwitches.doStateMachine (h : AgreesWithSwitches D) (hC : SetsModes C)
    (readings : DeviceReadings) :
  AgreesWithSwitches (D.doStateMachine C readings)
  := by
  simp only [DeviceModes.doStateMachine]
  split_ifs with htransition hpowerDown hpowerOn hwaitOn hwaitOff hoff hon hstable hswitchIsOff
  · apply h.doChildTransition hC
    obtain hmode | hmode | hmode | hmode | hmode := htransition <;> rw [hmode] <;> decide
  · exact (h.commandSwitch _).setMode (settable_of_switching (by decide) _) _ _
  · exact (h.commandSwitch _).setMode (settable_of_switching (by decide) _) _ _
  · exact h.doWaitOn hC hwaitOn readings
  · exact h.doWaitOff hwaitOff readings
  · apply h.takeTurn
    rw [hC.doOffActivity]
    trivial
  · apply h.takeTurn
    rw [hon]
    apply hC.doOnActivity
  · exact h
  · apply h.setMode
    rw [h.switchIsOff hswitchIsOff]
    decide
  · exact (h.triggerEvent _ _ _).setMode (settable_of_switching (by decide) _) _ _

/-! ### Commands -/

theorem on_or_transitional :
  ∀ mode ∈ settableModes true, transitional mode = false → mode ∈ modeErrorOn :: onModes
  := announced_settable true

theorem off_or_transitional :
  ∀ mode ∈ switchingModes ++ switchedOffModes, transitional mode = false → mode = modeOff
  := by
  intro mode hmode
  fin_cases hmode <;> decide

/-- A handler that accepts a command is off, or its device is switched on. -/
theorem AgreesWithSwitches.switched_of_ne_off (h : AgreesWithSwitches D)
    (hD : D.isTransitionalMode = false) (hoff : D.mode ≠ modeOff) :
  D.switched = true
  := by
  by_contra hswitched
  apply hoff
  apply off_or_transitional _ _ hD
  rw [List.mem_append]
  simpa [hswitched] using h.mode

theorem to_settable :
  ∀ mode ∈ onModes, mode ||| transitionModeChildActionMask ∈ settableModes true
  := by
  intro mode hmode
  fin_cases hmode <;> decide

theorem AgreesWithSwitches.setTransition (h : AgreesWithSwitches D) {modeTo : Mode}
    (hmode : D.mode ∈ onModes) (hto : modeTo ∈ onModes) (currentUptime : UInt32)
    (submodeTo : Submode) :
  AgreesWithSwitches (D.setTransition C currentUptime modeTo submodeTo)
  := by
  rw [DeviceModes.setTransition]
  apply AgreesWithSwitches.setMode
  · apply (h.triggerEvent changingMode modeTo submodeTo.toUInt32).congr
    · rfl
    · rfl
    · exact List.mem_append_right _ hmode
  · change _ ∈ settableModes (D.triggerEvent changingMode modeTo submodeTo.toUInt32).switched
    rw [switched_triggerEvent, h.switched_eq_true (List.mem_append_right _ hmode)]
    exact to_settable _ hto

theorem modePowerDown_source :
  modePowerDown ∈ [modeShutDown, modePowerDown] ++ onModes
  := List.mem_append_left _ (List.mem_cons_of_mem _ List.mem_cons_self)

theorem AgreesWithSwitches.powerOn (h : AgreesWithSwitches D) (hoff : D.mode = modeOff)
    (currentUptime : UInt32) (commandedMode : Mode) (commandedSubmode : Submode) :
  AgreesWithSwitches (D.handleTransitionToOnMode C currentUptime commandedMode commandedSubmode)
  := by
  simp only [handleTransitionToOnMode, if_pos hoff]
  apply AgreesWithSwitches.triggerEvent
  have hsource : AgreesWithSwitches
      { D with transitionSourceMode := modePowerDown, transitionSourceSubMode := submodeNone } := by
    apply h.congr
    · rfl
    · rfl
    · exact modePowerDown_source
  have hset : AgreesWithSwitches
      (DeviceModes.setMode _ currentUptime modePowerOn commandedSubmode) :=
    hsource.setMode (settable_of_switching (by decide) _) _ _
  exact hset.congr rfl rfl hset.source

/-- Commands that are accepted, but for raw mode while the device is off. -/
theorem AgreesWithSwitches.startTransition (h : AgreesWithSwitches D) (hC : CommandsModes C)
    {commandedMode : Mode} {commandedSubmode : Submode}
    (hcheck : D.checkModeCommand C commandedMode commandedSubmode = .ok)
    (hraw : commandedMode = modeRaw → D.mode ≠ modeOff) (currentUptime : UInt32) :
  AgreesWithSwitches (D.startTransition C currentUptime commandedMode commandedSubmode)
  := by
  have hD := not_transitional_of_ok hcheck
  rw [checkModeCommand] at hcheck
  split_ifs at hcheck with htransitional herror hnormal
  have hon (hcommand : commandedMode ≠ modeOff) (hoff : D.mode ≠ modeOff) : D.mode ∈ onModes := by
    have hsettable := h.settable
    rw [h.switched_of_ne_off hD hoff] at hsettable
    obtain hmode | hmode := List.mem_cons.mp (on_or_transitional _ hsettable hD)
    · exact absurd ⟨hmode, hcommand⟩ herror
    · exact hmode
  obtain rfl | rfl | rfl | rfl := hC _ _ _ hcheck
  · rw [DeviceModes.startTransition, if_neg (by decide), if_pos rfl]
    split_ifs with hoff
    · exact (h.triggerEvent _ _ _).setMode (settable_of_switching (by decide) _) _ _
    · apply AgreesWithSwitches.triggerEvent
      apply AgreesWithSwitches.setMode
      · apply h.congr
        · rfl
        · rfl
        · exact modePowerDown_source
      · change _ ∈ settableModes D.switched
        rw [h.switched_of_ne_off hD hoff]
        decide
  · rw [DeviceModes.startTransition, if_pos rfl]
    by_cases hoff : D.mode = modeOff
    · exact h.powerOn hoff _ _ _
    · rw [handleTransitionToOnMode, if_neg hoff]
      exact h.setTransition (hon (by decide) hoff) (by decide) _ _
  · have hoff : D.mode ≠ modeOff := fun hoff => hnormal ⟨rfl, hoff⟩
    rw [DeviceModes.startTransition, if_neg (by decide), if_neg (by decide), if_neg (by decide),
      if_pos rfl, if_pos hoff]
    exact h.setTransition (hon (by decide) hoff) (by decide) _ _
  · rw [DeviceModes.startTransition, if_neg (by decide), if_neg (by decide), if_pos rfl,
      if_pos (hraw rfl)]
    exact h.setTransition (hon (by decide) (hraw rfl)) (by decide) _ _

/-! ### Runs -/

/-- Raw mode is not commanded while the device is off. -/
def NotRawWhileOff (D : DeviceModes γ) : ModeMessage → Prop
  | .modeCommand mode _ | .modeCommandForced mode _ => mode = modeRaw → D.mode ≠ modeOff
  | _ => True

/-- The child class sets the modes that it may set, also when it handles a reply, and raw mode is
not commanded while the device is off. -/
def Proper (S : DeviceModes γ × ModeHelper) : DeviceModeInput γ → Prop
  | .childTurn turn _ => MaySetAll S.1.mode turn.modes
  | .modeMessage _ command _ _ => S.1.NotRawWhileOff command
  | _ => True

theorem AgreesWithSwitches.handleModeMessage (h : AgreesWithSwitches D) (hC : CommandsModes C)
    {command : ModeMessage} (hraw : D.NotRawWhileOff command) (currentUptime : UInt32) :
  AgreesWithSwitches (D.handleModeMessage C command currentUptime)
  := by
  cases command with
  | modeCommand mode submode | modeCommandForced mode submode =>
      unfold DeviceModes.handleModeMessage
      dsimp only
      by_cases hcheck : D.checkModeCommand C mode submode = .ok
      · rw [if_pos hcheck]
        exact h.startTransition hC hcheck hraw _
      · rw [if_neg hcheck]
        exact h
  | modeAnnounce | modeAnnounceRecursively => exact h.triggerEvent _ _ _
  | modeRead | modeReply _ _ | modeInfo _ _ | cantReachMode _ | wrongModeReply _ _ | other _ =>
      exact h

theorem AgreesWithSwitches.step (hC : SetsModes C) {S S' : DeviceModes γ × ModeHelper}
    {input : DeviceModeInput γ} {output : Unit} (h : AgreesWithSwitches S.1)
    (hproper : Proper S input) (hstep : DeviceModes.step C S input = some (S', output)) :
  AgreesWithSwitches S'.1
  := by
  obtain ⟨D, H⟩ := S
  cases input with
  | doStateMachine readings =>
      cases hstep
      exact h.doStateMachine hC readings
  | checkSwitchState readings =>
      cases hstep
      dsimp only
      rw [checkSwitchState]
      split_ifs
      · have hreported := h.triggerEvent PowerSwitchIF.switchWentOff 0 0
        exact hreported.congr rfl rfl hreported.source
      · exact h
      · exact h.congr rfl rfl h.source
  | childTurn turn currentUptime =>
      cases hstep
      exact h.takeTurn hproper currentUptime
  | modeMessage sender command currentUptime msToReachTheMode =>
      cases hstep
      exact h.handleModeMessage hC.commands hproper currentUptime

/-- The child class leaves starting up and shutting down to the timeout. -/
structure WaitsForTimeout (C : DeviceModeChild γ) : Prop where
  doStartUp : ∀ child, (C.doStartUp child).modes = []
  doShutDown : ∀ child, (C.doShutDown child).modes = []

/-- It sets no mode when it handles a reply either. -/
def SetsNoMode (_ : DeviceModes γ × ModeHelper) : DeviceModeInput γ → Prop
  | .childTurn turn _ => turn.modes = []
  | _ => True

/-- The handler goes on starting up or shutting down, and only events are written to its log. -/
structure Waits (D D' : DeviceModes γ) : Prop where
  mode : D'.mode = modeStartUp ∨ D'.mode = modeShutDown
  source : D'.transitionSourceMode = modeShutDown
  log : ∃ new, D'.log = D.log ++ new ∧ ∀ e ∈ new, ∃ event parameter1 parameter2,
    e = DeviceModeEvent.event event parameter1 parameter2

theorem Waits.trans {D'' : DeviceModes γ} (h : Waits D D') (h' : Waits D' D'') :
  Waits D D''
  where
  mode := h'.mode
  source := h'.source
  log := by
    obtain ⟨new, hlog, hnew⟩ := h.log
    obtain ⟨new', hlog', hnew'⟩ := h'.log
    refine ⟨new ++ new', by rw [hlog', hlog, List.append_assoc], fun e he => ?_⟩
    obtain he | he := List.mem_append.mp he
    · exact hnew e he
    · exact hnew' e he

/-- Nothing is written. -/
theorem Waits.silent (h : Waits D D') {D'' : DeviceModes γ} (hmode : D''.mode = D'.mode)
    (hsource : D''.transitionSourceMode = D'.transitionSourceMode) (hlog : D''.log = D'.log) :
  Waits D D''
  where
  mode := hmode ▸ h.mode
  source := hsource.trans h.source
  log := hlog ▸ h.log

theorem Waits.triggerEvent (h : Waits D D') (event : Event) (parameter1 parameter2 : UInt32) :
  Waits D (D'.triggerEvent event parameter1 parameter2)
  where
  mode := h.mode
  source := h.source
  log := by
    obtain ⟨new, hlog, hnew⟩ := h.log
    refine ⟨new ++ [.event event parameter1 parameter2], ?_, fun e he => ?_⟩
    · rw [DeviceModes.triggerEvent, record, hlog, List.append_assoc]
    · obtain he | he := List.mem_append.mp he
      · exact hnew e he
      · exact ⟨event, parameter1, parameter2, List.mem_singleton.mp he⟩

theorem Waits.isTransitionalMode (h : Waits D D') :
  D'.isTransitionalMode = true
  := by
  rw [DeviceModes.isTransitionalMode]
  obtain hmode | hmode := h.mode <;> rw [hmode] <;> decide

theorem Waits.takeTurn (h : Waits D D') {turn : ChildTurn γ} (hturn : turn.modes = [])
    (currentUptime : UInt32) :
  Waits D (D'.takeTurn currentUptime turn)
  := by
  rw [DeviceModes.takeTurn, hturn]
  exact h.silent rfl rfl rfl

theorem Waits.callChildStatemachine (h : Waits D D') (hC : WaitsForTimeout C)
    (currentUptime : UInt32) :
  Waits D (D'.callChildStatemachine C currentUptime)
  := by
  rw [DeviceModes.callChildStatemachine]
  obtain hmode | hmode := h.mode
  · rw [if_pos hmode]
    exact h.takeTurn (hC.doStartUp _) _
  · rw [if_neg (hmode ▸ by decide), if_pos hmode]
    exact h.takeTurn (hC.doShutDown _) _

/-- The handler goes back to shutting down when it shuts down. -/
theorem Waits.doStateMachine (h : Waits D D') (hC : WaitsForTimeout C)
    (readings : DeviceReadings) :
  Waits D (D'.doStateMachine C readings)
  := by
  have hmode : D'.mode = modeStartUp ∨ D'.mode = modeShutDown ∨ D'.mode = modeToNormal ∨
      D'.mode = modeToOn ∨ D'.mode = modeToRaw :=
    h.mode.imp_right .inl
  simp only [DeviceModes.doStateMachine, if_pos hmode, doChildTransition]
  have hcall := h.callChildStatemachine hC readings.currentUptime
  split_ifs
  · have hevent := hcall.triggerEvent modeTransitionFailed
      (D'.callChildStatemachine C readings.currentUptime).childTransitionFailure.toUInt16.toUInt32 0
    have hshut : transitional
        (D'.callChildStatemachine C readings.currentUptime).transitionSourceMode = true := by
      rw [hcall.source]
      decide
    constructor
    · rw [mode_setMode]
      exact .inr hcall.source
    · rw [transitionSourceMode_setMode]
      exact hcall.source
    · rw [log_setMode, hshut, if_pos rfl, List.append_nil]
      exact hevent.log
  · exact hcall

/-- The handler waits since its log was that of `D`, and its mode helper still remembers who has
commanded the mode. -/
structure Stuck (D : DeviceModes γ) (H : ModeHelper) (S : DeviceModes γ × ModeHelper) : Prop where
  waits : Waits D S.1
  commander : S.2.theOneWhoCommandedAMode = H.theOneWhoCommandedAMode

/-- The mode helper is not told of any mode. -/
theorem ownerCalls_of_waits (h : Waits D D') :
  ownerCalls (D'.log.drop D.log.length) = []
  := by
  obtain ⟨new, hlog, hnew⟩ := h.log
  rw [drop_of_log hlog, ownerCalls, List.filterMap_eq_nil_iff]
  intro e he
  obtain ⟨event, parameter1, parameter2, rfl⟩ := hnew e he
  rfl

theorem Waits.refl (h : Waits D D') :
  Waits D' D'
  where
  mode := h.mode
  source := h.source
  log := ⟨[], (List.append_nil _).symm, fun _ he => absurd he List.not_mem_nil⟩

theorem Stuck.silentStep {D'' : DeviceModes γ} {H H' : ModeHelper} (h : Stuck D H (D', H'))
    (hwaits : Waits D' D'') :
  Stuck D H (D'', (ownerCalls (D''.log.drop D'.log.length)).foldl ModeHelper.call H')
  := by
  rw [ownerCalls_of_waits hwaits]
  exact ⟨h.waits.trans hwaits, h.commander⟩

/-- Every command is rejected. -/
theorem Stuck.rejected {H H' : ModeHelper} (h : Stuck D H (D', H')) (mode : Mode)
    (submode : Submode) :
  D'.checkModeCommand C mode submode ≠ .ok
  := by
  rw [checkModeCommand, if_pos h.waits.isTransitionalMode]
  decide

theorem Stuck.command {H H' : ModeHelper} {sender : MessageQueueId} {mode : Mode}
    {submode : Submode} {owner : ModeOwner} (h : Stuck D H (D', H'))
    (hcheck : owner.checkModeCommand ≠ .ok) :
  Stuck D H (D', H'.commandMode sender mode submode owner)
  := by
  refine ⟨h.waits, ?_⟩
  rw [ModeHelper.commandMode, if_pos hcheck]
  exact h.commander

theorem Stuck.modeMessage {H H' : ModeHelper} (h : Stuck D H (D', H')) (sender : MessageQueueId)
    (command : ModeMessage) (currentUptime msToReachTheMode : UInt32) :
  Stuck D H
    (D'.handleModeMessage C command currentUptime,
      (H'.handleModeCommand sender (D'.modeOwner C command currentUptime msToReachTheMode)
        command).2)
  := by
  cases command with
  | modeCommand mode submode =>
      have hrejected := h.rejected (C := C) mode submode
      rw [show D'.handleModeMessage C (.modeCommand mode submode) currentUptime = D' from
        if_neg hrejected]
      exact h.command hrejected
  | modeCommandForced mode submode =>
      have hrejected := h.rejected (C := C) mode submode
      rw [show D'.handleModeMessage C (.modeCommandForced mode submode) currentUptime = D' from
        if_neg hrejected]
      have hforced : Stuck D H (D', { H' with forced := true }) := ⟨h.waits, h.commander⟩
      exact hforced.command hrejected
  | modeAnnounce | modeAnnounceRecursively => exact ⟨h.waits.triggerEvent _ _ _, h.commander⟩
  | modeRead => exact ⟨h.waits, h.commander⟩
  | modeReply _ _ | modeInfo _ _ | cantReachMode _ | wrongModeReply _ _ | other _ => exact h

theorem Stuck.step (hC : WaitsForTimeout C) {H : ModeHelper} {S S' : DeviceModes γ × ModeHelper}
    {input : DeviceModeInput γ} {output : Unit} (h : Stuck D H S) (hnone : SetsNoMode S input)
    (hstep : DeviceModes.step C S input = some (S', output)) :
  Stuck D H S'
  := by
  obtain ⟨D', H'⟩ := S
  cases input with
  | doStateMachine readings =>
      cases hstep
      exact h.silentStep (h.waits.refl.doStateMachine hC readings)
  | checkSwitchState readings =>
      cases hstep
      have hmode : ¬ (D'.mode = modeOn ∨ D'.mode = modeNormal) := by
        obtain hmode | hmode := h.waits.mode <;> rw [hmode] <;> decide
      rw [checkSwitchState, if_neg hmode]
      exact ⟨h.waits.silent rfl rfl rfl, h.commander⟩
  | childTurn turn currentUptime =>
      cases hstep
      exact h.silentStep (h.waits.refl.takeTurn hnone currentUptime)
  | modeMessage sender command currentUptime msToReachTheMode =>
      cases hstep
      exact h.modeMessage sender command currentUptime msToReachTheMode

/-- The handler starts up when it has found the switches on. -/
theorem waits_of_found (hC : WaitsForTimeout C) (hmode : D.mode = modeWaitOn)
    {readings : DeviceReadings}
    (hdelay : (C.powerSwitcher.any fun delay => D.hasElapsed readings.currentUptime delay) = false)
    (hon : D.getStateOfSwitches C readings = PowerSwitchIF.switchOn ∨
      D.getStateOfSwitches C readings = DeviceHandlerBase.noSwitch) :
  Waits (D.record .switchesOn) (D.doStateMachine C readings)
  := by
  have hstart : Waits (D.record .switchesOn)
      (({ D with
        childTransitionFailure := DeviceHandlerBase.childTimeout
        transitionSourceMode := modeShutDown
        transitionSourceSubMode := submodeNone }.record .switchesOn).setOnlyMode
        readings.currentUptime modeStartUp) := by
    constructor
    · rw [setOnlyMode, mode_setMode]
      exact .inl rfl
    · rw [setOnlyMode, transitionSourceMode_setMode]
      rfl
    · refine ⟨[], ?_, fun _ he => absurd he List.not_mem_nil⟩
      rw [setOnlyMode, log_setMode, if_pos (by decide)]
      rfl
  have hwaitOn : D.doStateMachine C readings = D.doWaitOn C readings := by
    simp only [DeviceModes.doStateMachine, hmode]
    rfl
  rw [hwaitOn]
  simp only [doWaitOn, hdelay, Bool.false_eq_true, if_false, if_pos hon]
  exact hstart.callChildStatemachine hC _

/-- When the child class leaves starting up and shutting down to the timeout, a handler whose
switches have been found on goes on starting up or shutting down for ever: it rejects every command,
does not command the switches, and announces no mode. -/
theorem stuck_of_run (hC : WaitsForTimeout C) (hmode : D.mode = modeWaitOn)
    {readings : DeviceReadings}
    (hdelay : (C.powerSwitcher.any fun delay => D.hasElapsed readings.currentUptime delay) = false)
    (hon : D.getStateOfSwitches C readings = PowerSwitchIF.switchOn ∨
      D.getStateOfSwitches C readings = DeviceHandlerBase.noSwitch)
    {H H' : ModeHelper} {inputs : List (DeviceModeInput γ)} {outputs : List Unit}
    (hnone : (step C).Along SetsNoMode (D, H) (.doStateMachine readings :: inputs))
    (hrun : (step C).run (D, H) (.doStateMachine readings :: inputs) = some ((D', H'), outputs)) :
  (D'.mode = modeStartUp ∨ D'.mode = modeShutDown) ∧
    H'.theOneWhoCommandedAMode = H.theOneWhoCommandedAMode ∧
    ∃ new, D'.log = D.log ++ .switchesOn :: new ∧
      ∀ e ∈ new, ∃ event parameter1 parameter2,
        e = DeviceModeEvent.event event parameter1 parameter2
  := by
  obtain ⟨S, _, _, hfirst, hrest, rfl⟩ := Step.run_cons_inv hrun
  have hwaits := waits_of_found hC hmode hdelay hon
  have hstart : Stuck (D.record .switchesOn) H S := by
    cases hfirst
    refine ⟨hwaits, ?_⟩
    obtain ⟨new, hlog, hnew⟩ := hwaits.log
    have hcalls := ownerCalls_of_waits hwaits
    rw [drop_of_log hlog] at hcalls
    rw [record, List.append_assoc] at hlog
    rw [drop_of_log hlog, ownerCalls_append, hcalls]
    rfl
  have h : Stuck (D.record .switchesOn) H (D', H') :=
    Step.run_preserves_along (fun _ _ _ _ h hnone => Stuck.step hC h hnone) hstart
      (hnone.2 _ _ hfirst) hrest
  obtain ⟨new, hlog, hnew⟩ := h.waits.log
  rw [record, List.append_assoc] at hlog
  exact ⟨h.waits.mode, h.commander, new, hlog, hnew⟩

/-- A child class that does nothing when it should start up or shut down. -/
def passiveChild : DeviceModeChild Unit :=
  { DeviceModeChild.simple with
    doStartUp := fun child => { child }
    doShutDown := fun child => { child } }

/-- Start-up times out, a command is rejected, and shutting down times out. -/
theorem stuck_of_run_passive :
  ∃ D H outputs, (step passiveChild).run
        (((new ()).startTransition passiveChild 0 modeOn 0).doStateMachine passiveChild
          ⟨1, fun _ => .ok⟩, ModeHelper.new)
        [.doStateMachine ⟨2, fun _ => .ok⟩, .doStateMachine ⟨6000, fun _ => .ok⟩,
          .modeMessage 9 (.modeCommand modeOff 0) 6001 100,
          .doStateMachine ⟨20000, fun _ => .ok⟩]
        = some ((D, H), outputs) ∧
      (D.mode = modeStartUp ∨ D.mode = modeShutDown) ∧
        H.theOneWhoCommandedAMode = MessageQueueIF.noQueue ∧
        ∃ new', D.log = (((new ()).startTransition passiveChild 0 modeOn 0).doStateMachine
            passiveChild ⟨1, fun _ => .ok⟩).log ++ .switchesOn :: new' ∧
          ∀ e ∈ new', ∃ event parameter1 parameter2,
            e = DeviceModeEvent.event event parameter1 parameter2
  := by
  obtain ⟨⟨⟨D, H⟩, outputs⟩, hrun⟩ : ∃ result, (step passiveChild).run
      (((new ()).startTransition passiveChild 0 modeOn 0).doStateMachine passiveChild
        ⟨1, fun _ => .ok⟩, ModeHelper.new)
      [.doStateMachine ⟨2, fun _ => .ok⟩, .doStateMachine ⟨6000, fun _ => .ok⟩,
        .modeMessage 9 (.modeCommand modeOff 0) 6001 100,
        .doStateMachine ⟨20000, fun _ => .ok⟩] = some result :=
    ⟨_, rfl⟩
  refine ⟨D, H, outputs, hrun, stuck_of_run ⟨fun _ => rfl, fun _ => rfl⟩ rfl rfl (.inr rfl) ?_ hrun⟩
  refine ⟨trivial, fun _ _ _ => ⟨trivial, fun _ _ _ => ⟨trivial, fun _ _ _ => ⟨trivial, ?_⟩⟩⟩⟩
  exact fun _ _ _ => trivial

end DeviceModes
