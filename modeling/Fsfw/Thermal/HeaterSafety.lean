import Fsfw.Library.Run
import Fsfw.Thermal.Heater

/-!
# Switching off faulty heaters

A heater should only be switched on while it is healthy.  When it is faulty and has reacted to that,
both its switches should have been switched off since they were switched on last.

The reaction is left out while the heater waits for its switches to come on, and after they did not.
It is also left out when the heater becomes faulty again before it has noticed that it was not
faulty any more.  In every run, all states are safe exactly when nothing of this happens
(`Heater.faultSafe_along_iff`).
-/

namespace HeaterEntry

/-- Switches are only switched on while the heater is healthy. -/
def IsAllowed : HeaterEntry → Prop
  | switchCommand _ onOff health => onOff = PowerSwitchIF.switchOn → health = .healthy
  | _ => True

/-- Nothing is switched. -/
def IsSilent : HeaterEntry → Prop
  | switchCommand _ _ _ => False
  | _ => True

/-- Whether a switch has been switched off since switches were switched on last, when it is known
whether that was so before an entry. -/
def offAfter (switchNr : UInt8) (off : Bool) : HeaterEntry → Bool
  | switchCommand number onOff _ =>
      if onOff = PowerSwitchIF.switchOn then false else if number = switchNr then true else off
  | _ => off

/-- A switch has been switched off since switches were switched on last, if they were. -/
def isSwitchedOff (switchNr : UInt8) (log : List HeaterEntry) : Bool :=
  log.foldl (offAfter switchNr) true

variable {switchNr : UInt8} {log : List HeaterEntry} {entry : HeaterEntry}

@[simp]
theorem isSwitchedOff_concat :
  isSwitchedOff switchNr (log ++ [entry]) = offAfter switchNr (isSwitchedOff switchNr log) entry
  := by
  rw [isSwitchedOff, List.foldl_append]
  rfl

theorem IsSilent.isAllowed (h : entry.IsSilent) :
  entry.IsAllowed
  := by
  cases entry <;> trivial

theorem IsSilent.offAfter_eq (h : entry.IsSilent) (off : Bool) :
  offAfter switchNr off entry = off
  := by
  cases entry with
  | switchCommand number onOff health => cases h
  | triggered _ | requested _ _ | setHealth _ | announcedHealth _ => rfl

end HeaterEntry

/-- What happens to a heater.  Others set and clear it, and change its health in the health table;
it handles commands and events, and operates its switches. -/
inductive HeaterInput where
  | set (power : PowerSwitcher)
  | clear (passive : Bool) (power : PowerSwitcher)
  | healthTable (health : HealthState)
  | command (command : HeaterCommand)
  | event (report : EventReport)
  | operate (power : PowerSwitcher)

namespace Heater

open HeaterEntry

variable {H : Heater} {power : PowerSwitcher}

def next (H : Heater) : HeaterInput → Heater
  | .set power => (H.set power).2
  | .clear passive power => H.clear passive power
  | .healthTable health => { H with health := health }
  | .command command => H.handleQueue command
  | .event report => (H.handleEvent report).getD H
  | .operate power => H.operate power

/-- In a run, everything may happen in any order. -/
def step : Step Heater HeaterInput Unit :=
  fun H input => some (H.next input, ())

/-- The events that are received are handled one after another. -/
theorem run_handleEventQueue (reports : List EventReport) :
  ∃ received outputs, received <+: reports ∧
    step.run H (received.map .event) = some ((H.handleEventQueue reports).1, outputs)
  := by
  induction reports generalizing H with
  | nil =>
      use [], [], List.nil_prefix
      rfl
  | cons report reports ih =>
      rw [handleEventQueue]
      cases hevent : H.handleEvent report with
      | none =>
          use [], [], List.nil_prefix
          rfl
      | some H' =>
          obtain ⟨received, outputs, hprefix, hrun⟩ := ih (H := H')
          use report :: received, () :: outputs, List.cons_prefix_cons.mpr ⟨rfl, hprefix⟩
          apply Step.run_cons _ hrun
          rw [step, next, hevent]
          rfl

/-- A cycle is a part of a run. -/
theorem run_performOperation (command : Option HeaterCommand) (reports : List EventReport) :
  ∃ inputs outputs,
    step.run H inputs = some ((H.performOperation power command reports).1, outputs)
  := by
  obtain ⟨received, outputs, -, hrun⟩ :=
    run_handleEventQueue (H := (command.map H.handleQueue).getD H) reports
  have hrun := Step.run_append hrun (rfl : step.run _ [.operate power] = some _)
  cases command with
  | none =>
      refine ⟨_, _, hrun⟩
  | some command =>
      refine ⟨.command command :: _, () :: _, Step.run_cons rfl hrun⟩

/-- Both switches have been switched off since they were switched on last. -/
def SwitchedOff (H : Heater) : Prop :=
  isSwitchedOff H.switch0 H.log = true ∧ isSwitchedOff H.switch1 H.log = true

/-- Switches are only switched on while the heater is healthy, and are switched off when it is
faulty and has reacted to that. -/
structure FaultSafe (H : Heater) : Prop where
  allowed : ∀ entry ∈ H.log, entry.IsAllowed
  off : H.health.isFaulty = true → H.reactedToBeingFaulty = true → H.SwitchedOff

/-- The heater is about to react to being faulty. -/
def Reacts (H : Heater) : Prop :=
  H.health.isFaulty = true ∧ H.reactedToBeingFaulty = false

/-- The heater neither waits for its switches to come on, nor for what is done when they did not. -/
def CanReact (H : Heater) : Prop :=
  H.internalState ≠ .waitForSwitchesOn ∧ (H.internalState = .waitForFdir → H.SwitchedOff)

/-- The heater has not been switched on since it has reacted to being faulty, unless it has noticed
that it is not faulty any more. -/
def MayFail (H : Heater) : Prop :=
  H.reactedToBeingFaulty = true → H.SwitchedOff

/-- The heater is found faulty after an event. -/
def Fails (H : Heater) (report : EventReport) : Prop :=
  report.messageId = .yourFault ∨ report.messageId = .eventMessage ∧
    (report.event ∈ [Fuse.fuseWentOff, heaterStayedOff, heaterStayedOn] ∧
        H.health ≠ .externalControl ∨
      report.event = PowerSwitchIF.switchWentOff ∧ H.pcduQueueId = MessageQueueIF.noQueue)

/-- The heater can react when it is about to, and may fail when it becomes faulty. -/
def Sound (H : Heater) : HeaterInput → Prop
  | .set _ => H.internalState ≠ .wait → H.Reacts → H.CanReact
  | .clear _ _ => H.Reacts → H.CanReact
  | .healthTable health => health.isFaulty = true → H.MayFail
  | .command (.healthSet health) => health.isFaulty = true → H.MayFail
  | .event report => H.Fails report → H.MayFail
  | _ => True

/-- The heater is switched off when it should be off or waits for that, and is not when it waits for
its switches to come on. -/
def Inv (H : Heater) : Prop :=
  match H.internalState with
  | .off | .passive | .waitForSwitchesOff => H.SwitchedOff
  | .waitForSwitchesOn => ¬ H.SwitchedOff
  | _ => True

/-! ### What is switched -/

theorem switchedOff_record {entry : HeaterEntry} (h : entry.IsSilent) :
  (H.record entry).SwitchedOff ↔ H.SwitchedOff
  := by
  simp only [SwitchedOff, record, isSwitchedOff_concat, h.offAfter_eq]

theorem allowed_record {written : HeaterEntry} :
  (∀ entry ∈ (H.record written).log, entry.IsAllowed) ↔
    (∀ entry ∈ H.log, entry.IsAllowed) ∧ written.IsAllowed
  := by
  rw [record, List.forall_mem_append, List.forall_mem_singleton]

theorem isSwitchedOff_commandSwitches (switchNr : UInt8) (state : HeaterState)
    (onOff : ReturnValue) :
  isSwitchedOff switchNr (H.commandSwitches power state onOff).log =
    offAfter switchNr (offAfter switchNr (isSwitchedOff switchNr H.log)
      (.switchCommand H.switch0 onOff H.health)) (.switchCommand H.switch1 onOff H.health)
  := by
  rw [commandSwitches, sendSwitchCommands, sendSwitchCommand, record, isSwitchedOff_concat,
    sendSwitchCommand, record, isSwitchedOff_concat]

theorem switchedOff_commandSwitches (state : HeaterState) :
  (H.commandSwitches power state PowerSwitchIF.switchOff).SwitchedOff
  := by
  rw [SwitchedOff, isSwitchedOff_commandSwitches, isSwitchedOff_commandSwitches]
  simp [offAfter, commandSwitches, sendSwitchCommands, sendSwitchCommand, record]

theorem not_switchedOff_commandSwitches (state : HeaterState) :
  ¬ (H.commandSwitches power state PowerSwitchIF.switchOn).SwitchedOff
  := by
  rw [SwitchedOff, isSwitchedOff_commandSwitches, isSwitchedOff_commandSwitches]
  simp [offAfter]

theorem allowed_commandSwitches (state : HeaterState) {onOff : ReturnValue}
    (h : onOff = PowerSwitchIF.switchOn → H.health = .healthy) :
  (∀ entry ∈ (H.commandSwitches power state onOff).log, entry.IsAllowed) ↔
    ∀ entry ∈ H.log, entry.IsAllowed
  := by
  rw [commandSwitches, sendSwitchCommands, sendSwitchCommand, allowed_record, sendSwitchCommand,
    allowed_record, and_assoc]
  apply and_iff_left
  use h, h

theorem FaultSafe.record (h : H.FaultSafe) {entry : HeaterEntry} (hentry : entry.IsSilent) :
  (H.record entry).FaultSafe
  := by
  constructor
  · apply allowed_record.mpr ⟨h.allowed, hentry.isAllowed⟩
  · intro hfaulty hreacted
    apply (switchedOff_record hentry).mpr (h.off hfaulty hreacted)

/-- Commands off are always safe, and commands on are when the heater is healthy. -/
theorem FaultSafe.commandSwitches (h : H.FaultSafe) (state : HeaterState) {onOff : ReturnValue}
    (honOff : onOff = PowerSwitchIF.switchOff ∨ H.health = .healthy) :
  (H.commandSwitches power state onOff).FaultSafe
  := by
  obtain rfl | hhealthy := honOff
  · constructor
    · apply (allowed_commandSwitches state _).mpr h.allowed
      intro hon
      cases hon
    · intro _ _
      apply switchedOff_commandSwitches
  · constructor
    · apply (allowed_commandSwitches state _).mpr h.allowed
      intro _
      apply hhealthy
    · intro hfaulty
      change H.health.isFaulty = true at hfaulty
      rw [hhealthy] at hfaulty
      cases hfaulty

theorem Inv.record (h : H.Inv) {entry : HeaterEntry} (hentry : entry.IsSilent) :
  (H.record entry).Inv
  := by
  simp only [Inv, switchedOff_record hentry]
  apply h

/-! ### Setting and clearing -/

theorem inv_doAction (h : H.Inv) (action : HeaterAction) :
  (H.doAction power action).Inv
  := by
  cases action with
  | set =>
      rw [doAction]
      split
      · exact not_switchedOff_commandSwitches _
      · exact not_switchedOff_commandSwitches _
      · exact not_switchedOff_commandSwitches _
      · apply h
  | clear =>
      rw [doAction]
      split
      · exact switchedOff_commandSwitches _
      · exact switchedOff_commandSwitches _
      · exact switchedOff_commandSwitches _
      · apply h

/-- Either the switches are commanded, or nothing is done. -/
theorem doAction_cases (H : Heater) (power : PowerSwitcher) (action : HeaterAction) :
  (∃ state onOff, H.doAction power action = H.commandSwitches power state onOff ∧
      (action = .clear → onOff = PowerSwitchIF.switchOff)) ∨
    H.doAction power action = H
  := by
  cases action with
  | set =>
      rw [doAction]
      split
      · refine .inl ⟨_, _, rfl, nofun⟩
      · refine .inl ⟨_, _, rfl, nofun⟩
      · refine .inl ⟨_, _, rfl, nofun⟩
      · right
        rfl
  | clear =>
      rw [doAction]
      split
      · refine .inl ⟨_, _, rfl, fun _ => rfl⟩
      · refine .inl ⟨_, _, rfl, fun _ => rfl⟩
      · refine .inl ⟨_, _, rfl, fun _ => rfl⟩
      · right
        rfl

/-- Actions are safe when the heater is healthy. -/
theorem FaultSafe.doAction (h : H.FaultSafe) (hhealthy : H.health = .healthy)
    (action : HeaterAction) :
  (H.doAction power action).FaultSafe
  := by
  obtain ⟨state, onOff, haction, -⟩ | hnone := doAction_cases H power action
  · rw [haction]
    apply h.commandSwitches
    right
    apply hhealthy
  · rw [hnone]
    apply h

/-- Clearing switches the heater off exactly when it can react. -/
theorem switchedOff_doAction_clear_iff (h : H.Inv) (hwait : H.internalState ≠ .wait)
    (power : PowerSwitcher) :
  (H.doAction power .clear).SwitchedOff ↔ H.CanReact
  := by
  rw [doAction, CanReact]
  cases hstate : H.internalState with
  | on | faulty | externalControl => simp [switchedOff_commandSwitches]
  | off | passive | waitForSwitchesOff =>
      rw [Inv, hstate] at h
      have hoff : H.SwitchedOff := h
      simp [hoff]
  | waitForSwitchesOn =>
      rw [Inv, hstate] at h
      have hon : ¬ H.SwitchedOff := h
      simp [hon]
  | waitForFdir => simp
  | wait => contradiction

theorem frame_doAction (H : Heater) (power : PowerSwitcher) (action : HeaterAction) :
  (H.doAction power action).health = H.health ∧
    (H.doAction power action).reactedToBeingFaulty = H.reactedToBeingFaulty
  := by
  obtain ⟨state, onOff, haction, -⟩ | hnone := doAction_cases H power action
  · rw [haction]
    exact ⟨rfl, rfl⟩
  · rw [hnone]
    exact ⟨rfl, rfl⟩

theorem allowed_doAction_clear (h : ∀ entry ∈ H.log, entry.IsAllowed) :
  ∀ entry ∈ (H.doAction power .clear).log, entry.IsAllowed
  := by
  obtain ⟨state, onOff, haction, honOff⟩ | hnone := doAction_cases H power .clear
  · rw [haction, honOff rfl]
    apply (allowed_commandSwitches state _).mpr h
    intro hon
    cases hon
  · rw [hnone]
    apply h

theorem faultSafe_reactToBeingFaulty_iff (h : H.FaultSafe) (hinv : H.Inv)
    (hwait : H.internalState ≠ .wait) (power : PowerSwitcher) :
  (H.reactToBeingFaulty power).FaultSafe ↔ (H.Reacts → H.CanReact)
  := by
  rw [reactToBeingFaulty, Reacts]
  split
  · rename_i hfaulty
    split
    · rename_i hreacted
      have hreacts : H.health.isFaulty = true ∧ H.reactedToBeingFaulty = false :=
        ⟨hfaulty, by simpa using hreacted⟩
      have hframe := frame_doAction { H with reactedToBeingFaulty := true } power .clear
      have hiff := switchedOff_doAction_clear_iff (H := { H with reactedToBeingFaulty := true })
        hinv hwait power
      constructor
      · intro hsafe _
        apply hiff.mp
        apply hsafe.off
        · rw [hframe.1]
          apply hfaulty
        · rw [hframe.2]
      · intro hcan
        constructor
        · apply allowed_doAction_clear
          apply h.allowed
        · intro _ _
          apply hiff.mpr (hcan hreacts)
    · rename_i hreacted
      simp_all
  · simp_all

theorem inv_reactToBeingFaulty (h : H.Inv) (power : PowerSwitcher) :
  (H.reactToBeingFaulty power).Inv
  := by
  rw [reactToBeingFaulty]
  split
  · split
    · exact inv_doAction (H := { H with reactedToBeingFaulty := true }) h .clear
    · apply h
  · apply h

theorem not_reacts_of_healthy (h : H.health = .healthy) :
  ¬ H.Reacts
  := by
  rintro ⟨hfaulty, -⟩
  rw [h] at hfaulty
  cases hfaulty

theorem faultSafe_set_iff (h : H.FaultSafe) (hinv : H.Inv) (power : PowerSwitcher) :
  (H.set power).2.FaultSafe ↔ (H.internalState ≠ .wait → H.Reacts → H.CanReact)
  := by
  have hsafe : FaultSafe { H with passive := false } := ⟨h.allowed, h.off⟩
  rw [set]
  dsimp only
  split
  · rename_i hwait
    exact iff_of_true hsafe (fun hother => absurd hwait hother)
  · rename_i hwait
    split
    · rename_i hhealthy
      apply iff_of_true (hsafe.doAction hhealthy .set)
      intro _ hreacts
      apply absurd hreacts (not_reacts_of_healthy hhealthy)
    · have hiff := faultSafe_reactToBeingFaulty_iff hsafe hinv hwait power
      constructor
      · intro hreact _
        apply hiff.mp hreact
      · intro hreact
        apply hiff.mpr (hreact hwait)

theorem inv_set (h : H.Inv) (power : PowerSwitcher) :
  (H.set power).2.Inv
  := by
  rw [set]
  dsimp only
  split
  · apply h
  · split
    · exact inv_doAction (H := { H with passive := false }) h .set
    · exact inv_reactToBeingFaulty (H := { H with passive := false }) h power

theorem inv_force (h : H.Inv) (passive : Bool) :
  Inv { H with passive := passive, internalState := H.internalState.force }
  := by
  simp only [Inv, HeaterState.force]
  split_ifs
  · trivial
  · apply h

theorem canReact_force_iff (H : Heater) (passive : Bool) :
  CanReact { H with passive := passive, internalState := H.internalState.force } ↔ H.CanReact
  := by
  simp only [CanReact, HeaterState.force]
  split_ifs with hwait
  · simp [hwait]
  · rfl

theorem faultSafe_clear_iff (h : H.FaultSafe) (hinv : H.Inv) (passive : Bool)
    (power : PowerSwitcher) :
  (H.clear passive power).FaultSafe ↔ (H.Reacts → H.CanReact)
  := by
  have hforced : FaultSafe { H with
      passive := passive, internalState := H.internalState.force } := ⟨h.allowed, h.off⟩
  rw [clear]
  dsimp only
  split
  · rename_i hhealthy
    apply iff_of_true (hforced.doAction hhealthy .clear)
    intro hreacts
    apply absurd hreacts (not_reacts_of_healthy hhealthy)
  · have hwait : H.internalState.force ≠ .wait := by
      rw [HeaterState.force]
      split_ifs with hwait
      · nofun
      · apply hwait
    have hiff := faultSafe_reactToBeingFaulty_iff hforced (inv_force hinv passive) hwait power
    rw [canReact_force_iff] at hiff
    apply hiff

theorem inv_clear (h : H.Inv) (passive : Bool) (power : PowerSwitcher) :
  (H.clear passive power).Inv
  := by
  rw [clear]
  dsimp only
  split
  · exact inv_doAction (inv_force h passive) .clear
  · exact inv_reactToBeingFaulty (inv_force h passive) power

/-! ### Health, events and the switches -/

/-- A health is safe when it is not faulty, or the heater may fail. -/
theorem faultSafe_setHealth_iff (h : H.FaultSafe) (health : HealthState) :
  (H.setHealth health).FaultSafe ↔ (health.isFaulty = true → H.MayFail)
  := by
  have hrecord : (H.record (.setHealth health)).SwitchedOff ↔ H.SwitchedOff :=
    switchedOff_record trivial
  constructor
  · intro hsafe hfaulty hreacted
    apply hrecord.mp (hsafe.off hfaulty hreacted)
  · intro hfail
    constructor
    · apply (allowed_record (H := H)).mpr
      use h.allowed
      trivial
    · intro hfaulty hreacted
      apply hrecord.mpr (hfail hfaulty hreacted)

theorem faultSafe_healthTable_iff (h : H.FaultSafe) (health : HealthState) :
  FaultSafe { H with health := health } ↔ (health.isFaulty = true → H.MayFail)
  := by
  constructor
  · intro hsafe hfaulty hreacted
    apply hsafe.off hfaulty hreacted
  · intro hfail
    exact ⟨h.allowed, hfail⟩

theorem faultSafe_becomeFaulty_iff (h : H.FaultSafe) :
  H.becomeFaulty.FaultSafe ↔ H.MayFail
  := by
  have hhealth := faultSafe_setHealth_iff h .faulty
  constructor
  · intro hsafe
    apply hhealth.mp ⟨hsafe.allowed, hsafe.off⟩
    rfl
  · intro hfail
    obtain ⟨hallowed, hoff⟩ := hhealth.mpr fun _ => hfail
    exact ⟨hallowed, hoff⟩

theorem faultSafe_handleQueue_iff (h : H.FaultSafe) (command : HeaterCommand) :
  (H.handleQueue command).FaultSafe ↔ H.Sound (.command command)
  := by
  cases command with
  | healthSet health => apply faultSafe_setHealth_iff h
  | healthAnnounce =>
      apply iff_of_true _ trivial
      apply h.record
      trivial
  | parameter timeout =>
      cases timeout with
      | none => exact iff_of_true h trivial
      | some timeout => exact iff_of_true ⟨h.allowed, h.off⟩ trivial
  | other => exact iff_of_true h trivial

theorem inv_handleQueue (h : H.Inv) (command : HeaterCommand) :
  (H.handleQueue command).Inv
  := by
  cases command with
  | healthSet health =>
      have hsilent : HeaterEntry.IsSilent (.setHealth health) := trivial
      exact h.record hsilent
  | healthAnnounce => exact h.record trivial
  | parameter timeout => cases timeout <;> exact h
  | other => exact h

theorem faultSafe_event_iff (h : H.FaultSafe) {report : EventReport}
    (hmessage : report.messageId = .eventMessage) :
  ((H.handleEvent report).getD H).FaultSafe ↔ (H.Fails report → H.MayFail)
  := by
  have hother : PowerSwitchIF.switchWentOff ∉ [Fuse.fuseWentOff, heaterStayedOff, heaterStayedOn] := by
    decide
  rw [handleEvent, Fails]
  simp only [hmessage, reduceCtorEq, false_or, true_and]
  split
  · rename_i hevent
    have hswitch : report.event ≠ PowerSwitchIF.switchWentOff := by
      rintro hswitch
      rw [hswitch] at hevent
      contradiction
    rw [Option.getD_some]
    split
    · rename_i hhealth
      rw [faultSafe_becomeFaulty_iff h]
      simp only [hevent, hhealth, true_and, ne_eq, not_false_eq_true, true_or, true_imp_iff]
    · rename_i hhealth
      apply iff_of_true h
      rintro (⟨-, hcommandable⟩ | ⟨hswitch', -⟩)
      · contradiction
      · contradiction
  · rename_i hevent
    split
    · rename_i hswitch
      rw [Option.getD_some]
      split
      · rename_i hqueue
        have hwait : FaultSafe { H with internalState := .wait } := ⟨h.allowed, h.off⟩
        apply iff_of_true
        · apply hwait.record
          trivial
        · rintro (⟨hevent', -⟩ | ⟨-, hqueue'⟩)
          · contradiction
          · contradiction
      · rename_i hqueue
        have hwait : FaultSafe { H with internalState := .wait } := ⟨h.allowed, h.off⟩
        apply (faultSafe_becomeFaulty_iff hwait).trans
        have hnone := not_not.mp hqueue
        constructor
        · intro hfail _
          apply hfail
        · intro hfail
          apply hfail
          right
          use hswitch, hnone
    · rename_i hswitch
      apply iff_of_true h
      rintro (⟨hevent', -⟩ | ⟨hswitch', -⟩)
      · contradiction
      · contradiction

/-- An event is safe when the heater is not found faulty, or may fail. -/
theorem faultSafe_handleEvent_iff (h : H.FaultSafe) (report : EventReport) :
  ((H.handleEvent report).getD H).FaultSafe ↔ H.Sound (.event report)
  := by
  rw [Sound]
  cases hmessage : report.messageId with
  | eventMessage => apply faultSafe_event_iff h hmessage
  | yourFault =>
      have hfails : H.Fails report := .inl hmessage
      rw [handleEvent, hmessage]
      apply (faultSafe_becomeFaulty_iff h).trans
      constructor
      · intro hfail _
        apply hfail
      · intro hfail
        apply hfail hfails
  | myFault | confirmationRequest | other _ =>
      rw [handleEvent, hmessage]
      apply iff_of_true h
      intro hfails
      simp [Fails, hmessage] at hfails

theorem inv_handleEvent (h : H.Inv) (report : EventReport) :
  ((H.handleEvent report).getD H).Inv
  := by
  rw [handleEvent]
  split
  · split
    · rw [Option.getD_some]
      split
      · trivial
      · apply h
    · split
      · rw [Option.getD_some]
        split
        · trivial
        · trivial
      · apply h
  · trivial
  · apply h
  · apply h

/-! ### Operating the switches -/

theorem FaultSafe.checkState (h : H.FaultSafe) (power : PowerSwitcher) :
  (H.checkState power).FaultSafe
  := by
  have htrigger : ∀ event, (H.triggerEvent event).FaultSafe := by
    intro event
    apply h.record
    trivial
  rw [Heater.checkState]
  split
  · split
    · split
      · apply htrigger
      · exact ⟨h.allowed, h.off⟩
    · apply h
  · split
    · split
      · apply h.commandSwitches
        left
        rfl
      · exact ⟨h.allowed, h.off⟩
    · apply h
  · split
    · split
      · exact ⟨(htrigger _).allowed, (htrigger _).off⟩
      · exact ⟨(htrigger _).allowed, (htrigger _).off⟩
    · apply h
  · split
    · split
      · split
        · exact ⟨(htrigger _).allowed, (htrigger _).off⟩
        · exact ⟨(htrigger _).allowed, (htrigger _).off⟩
      · exact ⟨(htrigger _).allowed, (htrigger _).off⟩
    · apply h
  · apply h

theorem inv_offState (h : H.SwitchedOff) (event : Event) :
  Inv { H.triggerEvent event with internalState := H.offState }
  := by
  have hoff : (H.triggerEvent event).SwitchedOff := by
    apply (switchedOff_record _).mpr h
    trivial
  simp only [Inv, offState]
  split_ifs
  · apply hoff
  · apply hoff

theorem inv_checkState (h : H.Inv) (power : PowerSwitcher) :
  (H.checkState power).Inv
  := by
  rw [checkState]
  split
  · split
    · split
      · apply h.record
        trivial
      · trivial
    · apply h
  · split
    · split
      · exact switchedOff_commandSwitches _
      · trivial
    · apply h
  · split
    · split
      · trivial
      · trivial
    · apply h
  · rename_i hstate
    have hoff : H.SwitchedOff := by
      rw [Inv, hstate] at h
      apply h
    split
    · split
      · split
        · apply inv_offState hoff
        · trivial
      · apply inv_offState hoff
    · apply h
  · apply h

theorem FaultSafe.checkTimeout (h : H.FaultSafe) (power : PowerSwitcher) :
  (H.checkTimeout power).FaultSafe
  := by
  have htrigger : (H.triggerEvent heaterTimeout).FaultSafe := by
    apply h.record
    trivial
  rw [Heater.checkTimeout]
  split
  · split
    · split
      · exact ⟨htrigger.allowed, htrigger.off⟩
      · apply h
    · exact ⟨h.allowed, h.off⟩
  · exact ⟨h.allowed, h.off⟩

theorem inv_checkTimeout (h : H.Inv) (power : PowerSwitcher) :
  (H.checkTimeout power).Inv
  := by
  rw [checkTimeout]
  split
  · split
    · split
      · have hsilent : HeaterEntry.IsSilent (.triggered heaterTimeout) := trivial
        exact h.record hsilent
      · apply h
    · apply h
  · apply h

theorem FaultSafe.operate (h : H.FaultSafe) (power : PowerSwitcher) :
  (H.operate power).FaultSafe
  := by
  rw [Heater.operate]
  apply FaultSafe.checkTimeout
  apply FaultSafe.checkState
  split
  · use h.allowed
    intro _ hreacted
    cases hreacted
  · apply h

theorem inv_operate (h : H.Inv) (power : PowerSwitcher) :
  (H.operate power).Inv
  := by
  rw [operate]
  apply inv_checkTimeout
  apply inv_checkState
  split
  · apply h
  · apply h

/-! ### Runs -/

/-- A step leads to a safe state exactly when its input is sound. -/
theorem faultSafe_next_iff (h : H.FaultSafe) (hinv : H.Inv) (input : HeaterInput) :
  (H.next input).FaultSafe ↔ H.Sound input
  := by
  cases input with
  | set power => apply faultSafe_set_iff h hinv
  | clear passive power => apply faultSafe_clear_iff h hinv
  | healthTable health => apply faultSafe_healthTable_iff h
  | command command => apply faultSafe_handleQueue_iff h
  | event report => apply faultSafe_handleEvent_iff h
  | operate power => exact iff_of_true (h.operate power) trivial

theorem inv_next (h : H.Inv) (input : HeaterInput) :
  (H.next input).Inv
  := by
  cases input with
  | set power => apply inv_set h
  | clear passive power => apply inv_clear h
  | healthTable health => apply h
  | command command => apply inv_handleQueue h
  | event report => apply inv_handleEvent h
  | operate power => apply inv_operate h

/-- In every run of a new heater, all states are safe exactly when all inputs are sound. -/
theorem faultSafe_along_iff (switch0 switch1 : UInt8) (pcduQueueId : MessageQueueId)
    (currentTime : UInt32) (inputs : List HeaterInput) :
  step.Along (fun H input => (H.next input).FaultSafe) (new switch0 switch1 pcduQueueId currentTime)
      inputs ↔
    step.Along Sound (new switch0 switch1 pcduQueueId currentTime) inputs
  := by
  apply Step.along_congr (I := fun H => H.FaultSafe ∧ H.Inv)
  · intro H input h
    apply faultSafe_next_iff h.1 h.2
  · rintro H input H' _ ⟨hsafe, hinv⟩ hsound ⟨⟩
    use (faultSafe_next_iff hsafe hinv input).mpr hsound
    apply inv_next hinv
  · constructor
    · constructor
      · nofun
      · nofun
    · exact ⟨rfl, rfl⟩

/-- A power unit whose switches are off. -/
def allOff : PowerSwitcher where
  currentTime := 10
  getSwitchDelayMs := 5
  getSwitchState := fun _ => PowerSwitchIF.switchOff

/-- A heater that becomes faulty while it waits for its switches to come on is not switched off, nor
is one that becomes faulty again before it has noticed that it was healthy. -/
theorem not_faultSafe_along :
  ¬ step.Along (fun H input => (H.next input).FaultSafe) (new 1 2 3 0)
      [.set allOff, .healthTable .faulty, .set allOff] ∧
    ¬ step.Along (fun H input => (H.next input).FaultSafe) (new 1 2 3 0)
      [.healthTable .faulty, .set allOff, .healthTable .healthy, .set allOff, .healthTable .faulty]
  := by
  constructor
  · rintro ⟨-, h⟩
    obtain ⟨-, h⟩ := h _ _ rfl
    obtain ⟨h, -⟩ := h _ _ rfl
    obtain ⟨hoff, -⟩ := h.off rfl rfl
    cases hoff
  · rintro ⟨-, h⟩
    obtain ⟨-, h⟩ := h _ _ rfl
    obtain ⟨-, h⟩ := h _ _ rfl
    obtain ⟨-, h⟩ := h _ _ rfl
    obtain ⟨h, -⟩ := h _ _ rfl
    obtain ⟨hoff, -⟩ := h.off rfl rfl
    cases hoff

end Heater
