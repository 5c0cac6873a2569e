import Fsfw.Events.Event
import Fsfw.Health.HealthTable
import Fsfw.ReturnValues
import Fsfw.TimeManager.Countdown

/-!
# Heaters

A heater has two switches in series, which it commands through a power unit.  While it is healthy it
may be switched on.  When it becomes faulty it is switched off, once, as soon as it is to be set or
cleared.

The commands to the switches are written to a log, with the health of the heater at their time.
-/

/-- What a heater finds at the power unit, and the time. -/
structure PowerSwitcher where
  currentTime : UInt32
  getSwitchDelayMs : UInt32
  getSwitchState : UInt8 → ReturnValue

inductive HeaterState where
  | on
  | off
  | passive
  | waitForSwitchesOn
  | waitForSwitchesOff
  | waitForFdir
  | faulty
  | wait
  | externalControl
  deriving DecidableEq, Repr

/-- A heater that waits is forced to be switched off. -/
def HeaterState.force (state : HeaterState) : HeaterState :=
  if state = .wait then .on else state

inductive HeaterAction where
  | set
  | clear
  deriving DecidableEq, Repr

inductive HeaterEntry where
  | switchCommand (switchNr : UInt8) (onOff : ReturnValue) (health : HealthState)
  | triggered (event : Event)
  | requested (destination : MessageQueueId) (report : EventReport)
  | setHealth (health : HealthState)
  | announcedHealth (health : HealthState)
  deriving DecidableEq, Repr

structure Heater where
  internalState : HeaterState
  pcduQueueId : MessageQueueId
  switch0 : UInt8
  switch1 : UInt8
  wasOn : Bool
  timedOut : Bool
  reactedToBeingFaulty : Bool
  passive : Bool
  heaterOnCountdown : Countdown
  switchCountdown : Countdown
  health : HealthState
  log : List HeaterEntry
  deriving DecidableEq, Repr

/-- A message from the command queue: about health, or a parameter message, which may load the time
that the heater may be on. -/
inductive HeaterCommand where
  | healthSet (health : HealthState)
  | healthAnnounce
  | parameter (timeout : Option UInt32)
  | other
  deriving DecidableEq, Repr

namespace Heater

def heaterOn : Event := makeEvent .heater 0 Severity.info

def heaterOff : Event := makeEvent .heater 1 Severity.info

def heaterTimeout : Event := makeEvent .heater 2 Severity.low

def heaterStayedOn : Event := makeEvent .heater 3 Severity.low

def heaterStayedOff : Event := makeEvent .heater 4 Severity.low

/-- A heater that has been initialized. -/
def new (switch0 switch1 : UInt8) (pcduQueueId : MessageQueueId) (currentTime : UInt32) :
    Heater where
  internalState := .off
  pcduQueueId := pcduQueueId
  switch0 := switch0
  switch1 := switch1
  wasOn := false
  timedOut := false
  reactedToBeingFaulty := false
  passive := false
  heaterOnCountdown := .setTimeout currentTime 10800000
  switchCountdown := .setTimeout currentTime 0
  health := .healthy
  log := []

variable (H : Heater)

def record (entry : HeaterEntry) : Heater :=
  { H with log := H.log ++ [entry] }

def triggerEvent (event : Event) : Heater :=
  H.record (.triggered event)

def sendSwitchCommand (switchNr : UInt8) (onOff : ReturnValue) : Heater :=
  H.record (.switchCommand switchNr onOff H.health)

/-- Command both switches. -/
def sendSwitchCommands (onOff : ReturnValue) : Heater :=
  (H.sendSwitchCommand H.switch0 onOff).sendSwitchCommand H.switch1 onOff

def setHealth (health : HealthState) : Heater :=
  { H.record (.setHealth health) with health := health }

/-- Command both switches, and wait. -/
def commandSwitches (power : PowerSwitcher) (state : HeaterState) (onOff : ReturnValue) : Heater :=
  sendSwitchCommands
    { H with
      switchCountdown := .setTimeout power.currentTime power.getSwitchDelayMs
      internalState := state }
    onOff

/-- Only act when the heater is not in the right state or in a transition. -/
def doAction (power : PowerSwitcher) : HeaterAction → Heater
  | .set =>
      match H.internalState with
      | .off | .passive | .externalControl =>
          H.commandSwitches power .waitForSwitchesOn PowerSwitchIF.switchOn
      | _ => H
  | .clear =>
      match H.internalState with
      | .on | .faulty | .externalControl =>
          H.commandSwitches power .waitForSwitchesOff PowerSwitchIF.switchOff
      | _ => H

/-- React to being faulty, once. -/
def reactToBeingFaulty (power : PowerSwitcher) : Heater :=
  if H.health.isFaulty then
    if ¬ H.reactedToBeingFaulty then
      doAction { H with reactedToBeingFaulty := true } power .clear
    else
      H
  else
    H

def set (power : PowerSwitcher) : ReturnValue × Heater :=
  let H := { H with passive := false }
  if H.internalState = .wait then
    (.ok, H)
  else if H.health = .healthy then
    let H := H.doAction power .set
    (if H.internalState = .off ∨ H.internalState = .passive then .failed else .ok, H)
  else
    (.failed, H.reactToBeingFaulty power)

def clear (passive : Bool) (power : PowerSwitcher) : Heater :=
  let H := { H with passive := passive, internalState := H.internalState.force }
  if H.health = .healthy then H.doAction power .clear else H.reactToBeingFaulty power

def handleQueue : HeaterCommand → Heater
  | .healthSet health => H.setHealth health
  | .healthAnnounce => H.record (.announcedHealth H.health)
  | .parameter (some timeout) => { H with heaterOnCountdown := { H.heaterOnCountdown with timeout } }
  | .parameter none => H
  | .other => H

/-- The heater is found faulty. -/
def becomeFaulty : Heater :=
  { H.setHealth .faulty with internalState := .faulty }

/-- The state after an event from the queue.  It is undefined for events after which no more events
are received. -/
def handleEvent (report : EventReport) : Option Heater :=
  match report.messageId with
  | .eventMessage =>
      if report.event ∈ [Fuse.fuseWentOff, heaterStayedOff, heaterStayedOn] then
        some (if H.health ≠ .externalControl then H.becomeFaulty else H)
      else if report.event = PowerSwitchIF.switchWentOff then
        let H := { H with internalState := .wait }
        let report := { report with messageId := .confirmationRequest }
        some (if H.pcduQueueId ≠ MessageQueueIF.noQueue then
          H.record (.requested H.pcduQueueId report)
        else
          H.becomeFaulty)
      else
        none
  | .yourFault => some H.becomeFaulty
  | .myFault => some H
  | _ => none

/-- The state after receiving events, and the events that have not been received. -/
def handleEventQueue (H : Heater) : List EventReport → Heater × List EventReport
  | [] => (H, [])
  | report :: reports =>
      match H.handleEvent report with
      | some H => handleEventQueue H reports
      | none => (H, reports)

variable (power : PowerSwitcher)

def isOn (switchNr : UInt8) : Bool := power.getSwitchState switchNr = PowerSwitchIF.switchOn

def isOff (switchNr : UInt8) : Bool := power.getSwitchState switchNr = PowerSwitchIF.switchOff

/-- Both switches are on. -/
def areOn : Bool := isOn power H.switch0 ∧ isOn power H.switch1

/-- One of the switches is off. -/
def areOff : Bool := isOff power H.switch0 ∨ isOff power H.switch1

/-- The state in which the heater is off for now. -/
def offState : HeaterState := if H.passive then .passive else .off

/-- Go on with a transition, or check the switches. -/
def checkState : Heater :=
  match H.internalState with
  | .on =>
      if H.areOff power then
        if H.health ≠ .externalControl then
          H.triggerEvent PowerSwitchIF.switchWentOff
        else
          { H with internalState := .externalControl }
      else
        H
  | .off =>
      if ¬ H.health.isFaulty ∧ H.areOn power then
        if H.health ≠ .externalControl then
          H.commandSwitches power .waitForSwitchesOff PowerSwitchIF.switchOff
        else
          { H with internalState := .externalControl }
      else
        H
  | .waitForSwitchesOn =>
      if H.switchCountdown.hasTimedOut power.currentTime then
        if H.areOff power then
          { H.triggerEvent heaterStayedOff with internalState := .waitForFdir }
        else
          { H.triggerEvent heaterOn with internalState := .on }
      else
        H
  | .waitForSwitchesOff =>
      if H.switchCountdown.hasTimedOut power.currentTime then
        if H.areOn power then
          if H.health.isFaulty then
            -- It cannot be switched off, which is made visible by the event.
            { H.triggerEvent heaterOn with internalState := H.offState }
          else
            { H.triggerEvent heaterStayedOn with internalState := .waitForFdir }
        else
          { H.triggerEvent heaterOff with internalState := H.offState }
      else
        H
  | _ => H

/-- Check how long the heater has been on. -/
def checkTimeout : Heater :=
  if H.areOn power then
    if H.wasOn then
      if H.heaterOnCountdown.hasTimedOut power.currentTime ∧ ¬ H.timedOut then
        { H.triggerEvent heaterTimeout with timedOut := true }
      else
        H
    else
      { H with
        wasOn := true
        heaterOnCountdown := H.heaterOnCountdown.resetTimer power.currentTime
        timedOut := false }
  else
    { H with wasOn := false }

/-- What is done when the queues have been handled. -/
def operate : Heater :=
  let H := if ¬ H.health.isFaulty then { H with reactedToBeingFaulty := false } else H
  (H.checkState power).checkTimeout power

/-- One cycle: a command from the queue, if there is one, the events, and the switches. -/
def performOperation (command : Option HeaterCommand) (events : List EventReport) :
    Heater × List EventReport :=
  let H := (command.map H.handleQueue).getD H
  let (H, events) := H.handleEventQueue events
  (H.operate power, events)

end Heater
