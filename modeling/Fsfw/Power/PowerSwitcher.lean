import Fsfw.Library.Run
import Fsfw.ReturnValues

/-!
# Power switchers

A power switcher commands one switch, or two switches together, and waits until they report that
they are on, or off.

With two switches it reads the first one twice.  It follows both of them in the runs in which the
second one reports what is waited for whenever it is read and the first one does so
(`PowerSwitcher.along_follows_iff`).
-/

namespace PowerSwitcher

inductive SwitcherState where
  | waitOff
  | waitOn
  | switchIsOff
  | switchIsOn
  deriving DecidableEq, Repr

def noSwitch : UInt8 := 0xFF

structure Switcher where
  state : SwitcherState
  firstSwitch : UInt8
  secondSwitch : UInt8
  deriving DecidableEq, Repr

/-- What the switches report at some moment.
-/
abbrev Readings := UInt8 → ReturnValue

inductive SwitchReturn where
  | oneSwitch
  | twoSwitches
  deriving DecidableEq, Repr

/-- A command to a switch. -/
abbrev SwitchCommand := UInt8 × ReturnValue

namespace Switcher

def new (setSwitch1 setSwitch2 : UInt8) (setStartState : SwitcherState) : Switcher where
  state := setStartState
  firstSwitch := setSwitch1
  secondSwitch := setSwitch2

variable (s : Switcher) (getSwitchState : Readings)

def howManySwitches : SwitchReturn :=
  if s.secondSwitch = noSwitch then .oneSwitch else .twoSwitches

-- The first switch is read for the second one, too.
def getStateOfSwitches : ReturnValue :=
  match s.howManySwitches with
  | .oneSwitch => getSwitchState s.firstSwitch
  | .twoSwitches =>
      let firstSwitchState := getSwitchState s.firstSwitch
      let secondSwitchState := getSwitchState s.firstSwitch
      if firstSwitchState = PowerSwitchIF.switchOn ∧ secondSwitchState = PowerSwitchIF.switchOn then
        PowerSwitchIF.switchOn
      else if firstSwitchState = PowerSwitchIF.switchOff
          ∧ secondSwitchState = PowerSwitchIF.switchOff then
        PowerSwitchIF.switchOff
      else
        .failed

/-- The commands in their order. -/
def commandSwitches (onOff : ReturnValue) : List SwitchCommand :=
  match s.howManySwitches with
  | .oneSwitch => [(s.firstSwitch, onOff)]
  | .twoSwitches => [(s.secondSwitch, onOff), (s.firstSwitch, onOff)]

def turnOn (checkCurrentState : Bool) : Switcher × List SwitchCommand :=
  if checkCurrentState ∧ s.getStateOfSwitches getSwitchState = PowerSwitchIF.switchOn then
    ({ s with state := .switchIsOn }, [])
  else
    ({ s with state := .waitOn }, s.commandSwitches PowerSwitchIF.switchOn)

def turnOff (checkCurrentState : Bool) : Switcher × List SwitchCommand :=
  if checkCurrentState ∧ s.getStateOfSwitches getSwitchState = PowerSwitchIF.switchOff then
    ({ s with state := .switchIsOff }, [])
  else
    ({ s with state := .waitOff }, s.commandSwitches PowerSwitchIF.switchOff)

def doStateMachine : Switcher :=
  match s.state with
  | .switchIsOff | .switchIsOn => s
  | .waitOff =>
      if s.getStateOfSwitches getSwitchState = PowerSwitchIF.switchOff then
        { s with state := .switchIsOff }
      else
        s
  | .waitOn =>
      if s.getStateOfSwitches getSwitchState = PowerSwitchIF.switchOn then
        { s with state := .switchIsOn }
      else
        s

def checkSwitchState : ReturnValue :=
  match s.state with
  | .waitOff | .waitOn => PowerSwitcher.inPowerTransition
  | .switchIsOff =>
      if s.getStateOfSwitches getSwitchState = PowerSwitchIF.switchOff then
        .ok
      else
        PowerSwitcher.switchStateMismatch
  | .switchIsOn =>
      if s.getStateOfSwitches getSwitchState = PowerSwitchIF.switchOn then
        .ok
      else
        PowerSwitcher.switchStateMismatch

/-- The switches that are there. -/
def switches : List UInt8 :=
  match s.howManySwitches with
  | .oneSwitch => [s.firstSwitch]
  | .twoSwitches => [s.firstSwitch, s.secondSwitch]

end Switcher

/-! ### Runs -/

inductive Call where
  | turnOn (checkCurrentState : Bool)
  | turnOff (checkCurrentState : Bool)
  | doStateMachine
  | checkSwitchState
  deriving DecidableEq, Repr

/-- A call, and what the switches report meanwhile. -/
structure Input where
  call : Call
  getSwitchState : Readings

/-- The commands that are sent, and what is returned. -/
structure Answer where
  sent : List SwitchCommand := []
  result : Option ReturnValue := none
  deriving DecidableEq, Repr

def step : Step Switcher Input Answer :=
  fun s input =>
    match input.call with
    | .turnOn checkCurrentState =>
        let (s', sent) := s.turnOn input.getSwitchState checkCurrentState
        some (s', { sent })
    | .turnOff checkCurrentState =>
        let (s', sent) := s.turnOff input.getSwitchState checkCurrentState
        some (s', { sent })
    | .doStateMachine => some (s.doStateMachine input.getSwitchState, {})
    | .checkSwitchState => some (s, { result := some (s.checkSwitchState input.getSwitchState) })

/-- What the switches report in a state in which they have been switched. -/
def SwitcherState.report : SwitcherState → Option ReturnValue
  | switchIsOff => some PowerSwitchIF.switchOff
  | switchIsOn => some PowerSwitchIF.switchOn
  | waitOff | waitOn => none

/-- The state machine enters a state in which the switches have been switched, and the state is
confirmed, only when all switches report it.  A command goes to all switches. -/
structure Follows (s : Switcher) (input : Input) : Prop where
  enters : input.call = .doStateMachine →
    ∀ s' answer, step s input = some (s', answer) → s'.state ≠ s.state →
      ∀ report ∈ s'.state.report, ∀ switch ∈ s.switches, input.getSwitchState switch = report
  confirms : input.call = .checkSwitchState →
    ∀ s' answer, step s input = some (s', answer) → answer.result = some .ok →
      ∀ report ∈ s.state.report, ∀ switch ∈ s.switches, input.getSwitchState switch = report
  commands : ∀ s' answer, step s input = some (s', answer) →
    ∀ command ∈ answer.sent, ∀ switch ∈ s.switches, (switch, command.2) ∈ answer.sent

/-- What the switches are read for. -/
def awaited (s : Switcher) : Call → Option ReturnValue
  | .doStateMachine =>
      match s.state with
      | .waitOff => some PowerSwitchIF.switchOff
      | .waitOn => some PowerSwitchIF.switchOn
      | .switchIsOff | .switchIsOn => none
  | .checkSwitchState => s.state.report
  | .turnOn _ | .turnOff _ => none

/-- All switches report what is waited for when the first one does. -/
def Agrees (s : Switcher) (input : Input) : Prop :=
  ∀ report ∈ awaited s input.call, input.getSwitchState s.firstSwitch = report →
    ∀ switch ∈ s.switches, input.getSwitchState switch = report

/-! ### What the switches are read for -/

section

variable {s : Switcher} {input : Input}

/-- The state that is found is the one of the first switch. -/
theorem getStateOfSwitches_eq_iff {getSwitchState : Readings} {report : ReturnValue}
    (h : report = PowerSwitchIF.switchOn ∨ report = PowerSwitchIF.switchOff) :
  s.getStateOfSwitches getSwitchState = report ↔ getSwitchState s.firstSwitch = report
  := by
  rw [Switcher.getStateOfSwitches]
  cases s.howManySwitches with
  | oneSwitch =>
      rfl
  | twoSwitches =>
      simp only [and_self]
      rcases h with rfl | rfl
      · split
        · simp [*]
        · split <;> simp [*]
      · split
        · simp [*]
        · split <;> simp [*]

theorem commands_commandSwitches (s : Switcher) (onOff : ReturnValue) :
  ∀ command ∈ s.commandSwitches onOff,
    ∀ switch ∈ s.switches, (switch, command.2) ∈ s.commandSwitches onOff
  := by
  rw [Switcher.commandSwitches, Switcher.switches]
  cases s.howManySwitches with
  | oneSwitch => simp
  | twoSwitches => simp

/-- Commands go to all switches. -/
theorem commands_step (s : Switcher) (input : Input) {s' : Switcher} {answer : Answer}
    (h : step s input = some (s', answer)) :
  ∀ command ∈ answer.sent, ∀ switch ∈ s.switches, (switch, command.2) ∈ answer.sent
  := by
  obtain ⟨call, getSwitchState⟩ := input
  cases call with
  | turnOn checkCurrentState =>
      simp only [step, Switcher.turnOn] at h
      split at h
      · cases h
        simp
      · cases h
        apply commands_commandSwitches
  | turnOff checkCurrentState =>
      simp only [step, Switcher.turnOff] at h
      split at h
      · cases h
        simp
      · cases h
        apply commands_commandSwitches
  | doStateMachine =>
      cases h
      simp
  | checkSwitchState =>
      cases h
      simp

/-- The state machine goes on when the first switch reports what is waited for. -/
theorem doStateMachine_cases (s : Switcher) (getSwitchState : Readings) :
  (∃ report ∈ awaited s .doStateMachine, getSwitchState s.firstSwitch = report
      ∧ (s.doStateMachine getSwitchState).state ≠ s.state
      ∧ (s.doStateMachine getSwitchState).state.report = some report)
    ∨ (s.doStateMachine getSwitchState = s
      ∧ ∀ report ∈ awaited s .doStateMachine, getSwitchState s.firstSwitch ≠ report)
  := by
  have hon : s.getStateOfSwitches getSwitchState = PowerSwitchIF.switchOn ↔ _ :=
    getStateOfSwitches_eq_iff (Or.inl rfl)
  have hoff : s.getStateOfSwitches getSwitchState = PowerSwitchIF.switchOff ↔ _ :=
    getStateOfSwitches_eq_iff (Or.inr rfl)
  cases hstate : s.state with
  | waitOff =>
      by_cases hfirst : getSwitchState s.firstSwitch = PowerSwitchIF.switchOff
      · simp [Switcher.doStateMachine, awaited, hstate, hoff, hfirst, SwitcherState.report]
      · simp [Switcher.doStateMachine, awaited, hstate, hoff, hfirst]
  | waitOn =>
      by_cases hfirst : getSwitchState s.firstSwitch = PowerSwitchIF.switchOn
      · simp [Switcher.doStateMachine, awaited, hstate, hon, hfirst, SwitcherState.report]
      · simp [Switcher.doStateMachine, awaited, hstate, hon, hfirst]
  | switchIsOff => simp [Switcher.doStateMachine, awaited, hstate]
  | switchIsOn => simp [Switcher.doStateMachine, awaited, hstate]

/-- A state is confirmed when the first switch reports it. -/
theorem checkSwitchState_eq_ok_iff (s : Switcher) (getSwitchState : Readings) :
  s.checkSwitchState getSwitchState = .ok
    ↔ ∃ report ∈ s.state.report, getSwitchState s.firstSwitch = report
  := by
  have hon : s.getStateOfSwitches getSwitchState = PowerSwitchIF.switchOn ↔ _ :=
    getStateOfSwitches_eq_iff (Or.inl rfl)
  have hoff : s.getStateOfSwitches getSwitchState = PowerSwitchIF.switchOff ↔ _ :=
    getStateOfSwitches_eq_iff (Or.inr rfl)
  rw [Switcher.checkSwitchState]
  cases s.state with
  | waitOff => simp [SwitcherState.report]
  | waitOn => simp [SwitcherState.report]
  | switchIsOff =>
      simp only [hoff, SwitcherState.report, Option.mem_some_iff, exists_eq_left']
      split <;> simp [*]
  | switchIsOn =>
      simp only [hon, SwitcherState.report, Option.mem_some_iff, exists_eq_left']
      split <;> simp [*]

theorem agrees_of_follows (h : Follows s input) :
  Agrees s input
  := by
  obtain ⟨call, getSwitchState⟩ := input
  intro report hreport hfirst
  cases call with
  | turnOn checkCurrentState => cases hreport
  | turnOff checkCurrentState => cases hreport
  | doStateMachine =>
      rcases doStateMachine_cases s getSwitchState with ⟨_, hmem, -, hne, hentered⟩ | ⟨-, hnot⟩
      · cases Option.mem_unique hreport hmem
        apply h.enters rfl _ _ rfl hne report hentered
      · cases hnot report hreport hfirst
  | checkSwitchState =>
      have hok := (checkSwitchState_eq_ok_iff s getSwitchState).mpr ⟨report, hreport, hfirst⟩
      apply h.confirms rfl _ _ rfl _ report hreport
      rw [hok]

theorem follows_of_agrees (h : Agrees s input) :
  Follows s input
  := by
  obtain ⟨call, getSwitchState⟩ := input
  constructor
  · rintro ⟨⟩ s' answer ⟨⟩ hne report hentered
    rcases doStateMachine_cases s getSwitchState with ⟨_, hmem, hfirst, -, hstate⟩ | ⟨hsame, -⟩
    · cases hstate.symm.trans hentered
      apply h report hmem hfirst
    · cases hne (congrArg Switcher.state hsame)
  · rintro ⟨⟩ s' answer ⟨⟩ hok report hreport
    obtain ⟨_, hmem, hfirst⟩ :=
      (checkSwitchState_eq_ok_iff s getSwitchState).mp (Option.some.inj hok)
    cases Option.mem_unique hreport hmem
    apply h report hreport hfirst
  · intro s' answer hstep
    apply commands_step s _ hstep

/-- Along a run the switcher follows all its switches exactly when they agree wherever the first one
reports what is waited for. -/
theorem along_follows_iff (s : Switcher) (inputs : List Input) :
  Step.Along step Follows s inputs ↔ Step.Along step Agrees s inputs
  := by
  apply Step.along_congr (I := fun _ => True)
  · intro s input _
    use agrees_of_follows, follows_of_agrees
  · intro _ _ _ _ _ _ _
    trivial
  · trivial

/-- The first switch is on, and the second one is off. -/
def onlyFirst : Readings :=
  fun switch => if switch = 1 then PowerSwitchIF.switchOn else PowerSwitchIF.switchOff

theorem not_follows_onlyFirst :
  ¬ ∀ (setSwitch1 setSwitch2 : UInt8) (setStartState : SwitcherState) (inputs : List Input),
    Step.Along step Follows (.new setSwitch1 setSwitch2 setStartState) inputs
  := by
  intro h
  have hsecond := (h 1 2 .switchIsOff
    [⟨.turnOn false, onlyFirst⟩, ⟨.doStateMachine, onlyFirst⟩]).2 _ _ rfl
  have hreport := hsecond.1.enters rfl _ _ rfl (by decide) PowerSwitchIF.switchOn rfl 2 (by decide)
  revert hreport
  decide

end

end PowerSwitcher
