import Fsfw.DeviceHandlers.DeviceHandlerBase
import Fsfw.Library.Run
import Fsfw.Modes.ModeHelper

/-!
# Modes of devices

A device handler changes its mode in steps.  To turn its device on, it commands the switches, waits
until they are on, and lets its child class start up; to turn it off, it lets the child class shut
down, commands the switches, and waits until they are off.  A transition between the modes of a
device that is on is left to the child class.  Whatever takes too long fails, and the handler goes
back to the source of the transition.

Modes other than the transitional ones are announced, and the mode helper is told of them.  What a
handler does is written to a log, and also when it has found that its switches are on, or off.

The child class acts in its turns, in which it may set the mode, any number of times.  A call reads
the clock once.  There is no thermal set, and no command is rejected because of the temperature.
-/

namespace DeviceHandlerIF

def transitionModeChildActionMask : Mode := 0x20

def transitionModeBaseActionMask : Mode := 0x10

def modeNormal : Mode := 2

def modeRaw : Mode := 3

def modeErrorOn : Mode := 4

def modeStartUp : Mode := transitionModeChildActionMask ||| 5

def modeShutDown : Mode := transitionModeChildActionMask ||| 6

def modeToOn : Mode := transitionModeChildActionMask ||| HasModesIF.modeOn

def modeToRaw : Mode := transitionModeChildActionMask ||| modeRaw

def modeToNormal : Mode := transitionModeChildActionMask ||| modeNormal

def modePowerDown : Mode := transitionModeBaseActionMask ||| 1

def modePowerOn : Mode := transitionModeBaseActionMask ||| 2

def modeWaitOn : Mode := transitionModeBaseActionMask ||| 4

def modeSwitchIsOff : Mode := transitionModeBaseActionMask ||| 5

end DeviceHandlerIF

namespace PowerSwitchIF

def switchTimeout : ReturnValue := .makeCode .powerSwitchIF 2

end PowerSwitchIF

open HasModesIF DeviceHandlerIF

/-- What a handler does. -/
inductive DeviceModeEvent where
  | event (event : Event) (parameter1 parameter2 : UInt32)
  | switchCommand (switch : UInt8) (onOff : ReturnValue)
  | modeChanged (mode : Mode) (submode : Submode)
  | reply (status : ReturnValue)
  | switchesOn
  | switchesOff
  deriving DecidableEq, Repr

/-- What the child class does in a turn: it sets modes, where the submode may be left as it is, and
may say why a transition is going to fail. -/
structure ChildTurn (γ : Type) where
  child : γ
  modes : List (Mode × Option Submode) := []
  transitionFailure : Option ReturnValue := none

/-- What a child class with states `γ` implements, and the power switcher, which is given by its
delay when there is one. -/
structure DeviceModeChild (γ : Type) where
  powerSwitcher : Option UInt32
  getSwitches : γ → ReturnValue × List UInt8
  getTransitionDelayMs : Mode → Mode → γ → UInt32
  isModeCombinationValid : Mode → Submode → γ → ReturnValue
  doStartUp : γ → ChildTurn γ
  doShutDown : γ → ChildTurn γ
  doTransition : Mode → Mode → Submode → γ → ChildTurn γ
  doOnActivity : γ → ChildTurn γ
  doOffActivity : γ → ChildTurn γ

/-- The clock and the switches at some moment. -/
structure DeviceReadings where
  currentUptime : UInt32
  getSwitchState : UInt8 → ReturnValue

structure DeviceModes (γ : Type) where
  mode : Mode
  submode : Submode
  transitionSourceMode : Mode
  transitionSourceSubMode : Submode
  timeoutStart : UInt32
  childTransitionDelay : UInt32
  childTransitionFailure : ReturnValue
  switchOffWasReported : Bool
  child : γ
  log : List DeviceModeEvent

namespace DeviceModes

variable {γ : Type}

/-- A handler that has just been constructed. -/
def new (child : γ) : DeviceModes γ where
  mode := modeOff
  submode := submodeNone
  transitionSourceMode := modePowerDown
  transitionSourceSubMode := submodeNone
  timeoutStart := 0
  childTransitionDelay := 5000
  childTransitionFailure := .ok
  switchOffWasReported := false
  child := child
  log := []

def record (D : DeviceModes γ) (event : DeviceModeEvent) : DeviceModes γ :=
  { D with log := D.log ++ [event] }

def triggerEvent (D : DeviceModes γ) (event : Event) (parameter1 parameter2 : UInt32) :
    DeviceModes γ :=
  D.record (.event event parameter1 parameter2)

/-- The modes that have a bit of a mask. -/
def transitional (mode : Mode) : Bool :=
  mode &&& (transitionModeBaseActionMask ||| transitionModeChildActionMask) ≠ 0

def isTransitionalMode (D : DeviceModes γ) : Bool :=
  transitional D.mode

def announceMode (D : DeviceModes γ) : DeviceModes γ :=
  D.triggerEvent modeInfo D.mode D.submode.toUInt32

/-- Set the mode and the submode. -/
def setMode (D : DeviceModes γ) (currentUptime : UInt32) (newMode : Mode) (newSubmode : Submode) :
    DeviceModes γ :=
  let D := { D with mode := newMode, submode := newSubmode }
  let D :=
    if D.isTransitionalMode then
      D
    else
      (D.record (.modeChanged newMode newSubmode)).announceMode
  { D with timeoutStart := currentUptime }

/-- Set the mode only. -/
def setOnlyMode (D : DeviceModes γ) (currentUptime : UInt32) (newMode : Mode) : DeviceModes γ :=
  D.setMode currentUptime newMode D.submode

/-! ### The child class -/

/-- The calls of a turn. -/
def setModes (D : DeviceModes γ) (currentUptime : UInt32) :
    List (Mode × Option Submode) → DeviceModes γ
  | [] => D
  | (newMode, newSubmode) :: modes =>
      setModes (D.setMode currentUptime newMode (newSubmode.getD D.submode)) currentUptime modes

def takeTurn (D : DeviceModes γ) (currentUptime : UInt32) (turn : ChildTurn γ) : DeviceModes γ :=
  setModes
    { D with
      child := turn.child
      childTransitionFailure := turn.transitionFailure.getD D.childTransitionFailure }
    currentUptime turn.modes

/-- The default of `doTransition`. -/
def getBaseMode (transitionMode : Mode) : Mode :=
  if transitionMode = modeStartUp then
    modeToOn
  else if transitionMode = modeShutDown then
    modePowerDown
  else
    transitionMode &&& ~~~ (transitionModeBaseActionMask ||| transitionModeChildActionMask)

/-- The default of `isModeCombinationValid`. -/
def isModeCombinationValid (mode : Mode) (submode : Submode) : ReturnValue :=
  if mode = modeOff ∨ mode = modeOn ∨ mode = modeNormal ∨ mode = modeRaw then
    if submode = submodeNone then .ok else invalidSubmode
  else
    invalidMode

variable (C : DeviceModeChild γ)

def callChildStatemachine (D : DeviceModes γ) (currentUptime : UInt32) : DeviceModes γ :=
  if D.mode = modeStartUp then
    D.takeTurn currentUptime (C.doStartUp D.child)
  else if D.mode = modeShutDown then
    D.takeTurn currentUptime (C.doShutDown D.child)
  else if D.mode &&& transitionModeChildActionMask ≠ 0 then
    D.takeTurn currentUptime
      (C.doTransition D.mode D.transitionSourceMode D.transitionSourceSubMode D.child)
  else
    D

/-! ### Switches -/

def commandSwitch (D : DeviceModes γ) (onOff : ReturnValue) : DeviceModes γ :=
  match C.powerSwitcher with
  | none => D
  | some _ =>
      let (result, switches) := C.getSwitches D.child
      if result = .ok then
        { D with log := D.log ++ switches.reverse.map fun switch => .switchCommand switch onOff }
      else
        D

def getStateOfSwitches (D : DeviceModes γ) (readings : DeviceReadings) : ReturnValue :=
  match C.powerSwitcher with
  | none => DeviceHandlerBase.noSwitch
  | some _ =>
      let (result, switches) := C.getSwitches D.child
      if result = .ok ∧ switches ≠ [] then
        if switches.any fun switch => readings.getSwitchState switch = PowerSwitchIF.switchOff then
          PowerSwitchIF.switchOff
        else
          PowerSwitchIF.switchOn
      else
        DeviceHandlerBase.noSwitch

def checkSwitchState (D : DeviceModes γ) (readings : DeviceReadings) : DeviceModes γ :=
  if D.mode = modeOn ∨ D.mode = modeNormal then
    if D.getStateOfSwitches C readings = PowerSwitchIF.switchOff ∧ !D.switchOffWasReported then
      { D.triggerEvent PowerSwitchIF.switchWentOff 0 0 with switchOffWasReported := true }
    else
      D
  else
    { D with switchOffWasReported := false }

/-! ### The state machine -/

/-- Whether the mode has been there for a time. -/
def hasElapsed (D : DeviceModes γ) (currentUptime delay : UInt32) : Bool :=
  delay ≤ currentUptime - D.timeoutStart

/-- The child class is called, and a transition that it leaves alone may time out. -/
def doChildTransition (D : DeviceModes γ) (currentUptime : UInt32) : DeviceModes γ :=
  let currentMode := D.mode
  let D := D.callChildStatemachine C currentUptime
  if D.mode = currentMode ∧ D.hasElapsed currentUptime D.childTransitionDelay then
    (D.triggerEvent modeTransitionFailed D.childTransitionFailure.toUInt16.toUInt32 0).setMode
      currentUptime D.transitionSourceMode D.transitionSourceSubMode
  else
    D

def doWaitOn (D : DeviceModes γ) (readings : DeviceReadings) : DeviceModes γ :=
  let currentUptime := readings.currentUptime
  if C.powerSwitcher.any fun switchDelay => D.hasElapsed currentUptime switchDelay then
    ((D.triggerEvent modeTransitionFailed
      PowerSwitchIF.switchTimeout.toUInt16.toUInt32 0).setOnlyMode
      currentUptime modePowerDown).callChildStatemachine C currentUptime
  else
    let switchState := D.getStateOfSwitches C readings
    if switchState = PowerSwitchIF.switchOn ∨ switchState = DeviceHandlerBase.noSwitch then
      ((({ D with
        childTransitionFailure := DeviceHandlerBase.childTimeout
        transitionSourceMode := modeShutDown
        transitionSourceSubMode := submodeNone }).record .switchesOn).setOnlyMode
        currentUptime modeStartUp).callChildStatemachine C currentUptime
    else
      D

def doWaitOff (D : DeviceModes γ) (readings : DeviceReadings) : DeviceModes γ :=
  let currentUptime := readings.currentUptime
  match C.powerSwitcher with
  | none => (D.record .switchesOff).setOnlyMode currentUptime modeOff
  | some switchDelay =>
      if D.hasElapsed currentUptime switchDelay then
        (D.triggerEvent modeTransitionFailed
          PowerSwitchIF.switchTimeout.toUInt16.toUInt32 0).setOnlyMode currentUptime modeErrorOn
      else
        let switchState := D.getStateOfSwitches C readings
        if switchState = PowerSwitchIF.switchOff ∨ switchState = DeviceHandlerBase.noSwitch then
          (D.record .switchesOff).setOnlyMode currentUptime modeSwitchIsOff
        else
          D

def doStateMachine (D : DeviceModes γ) (readings : DeviceReadings) : DeviceModes γ :=
  let currentUptime := readings.currentUptime
  if D.mode = modeStartUp ∨ D.mode = modeShutDown ∨ D.mode = modeToNormal ∨ D.mode = modeToOn ∨
      D.mode = modeToRaw then
    D.doChildTransition C currentUptime
  else if D.mode = modePowerDown then
    (D.commandSwitch C PowerSwitchIF.switchOff).setOnlyMode currentUptime modeWaitOff
  else if D.mode = modePowerOn then
    (D.commandSwitch C PowerSwitchIF.switchOn).setOnlyMode currentUptime modeWaitOn
  else if D.mode = modeWaitOn then
    D.doWaitOn C readings
  else if D.mode = modeWaitOff then
    D.doWaitOff C readings
  else if D.mode = modeOff then
    D.takeTurn currentUptime (C.doOffActivity D.child)
  else if D.mode = modeOn then
    D.takeTurn currentUptime (C.doOnActivity D.child)
  else if D.mode = modeRaw ∨ D.mode = modeNormal ∨ D.mode = modeErrorOn then
    D
  else if D.mode = modeSwitchIsOff then
    D.setMode currentUptime modeOff submodeNone
  else
    (D.triggerEvent objectInInvalidMode D.mode D.submode.toUInt32).setMode currentUptime
      modePowerDown submodeNone

/-! ### Commands -/

def checkModeCommand (D : DeviceModes γ) (commandedMode : Mode) (commandedSubmode : Submode) :
    ReturnValue :=
  if D.isTransitionalMode then
    inTransition
  else if D.mode = modeErrorOn ∧ commandedMode ≠ modeOff then
    transNotAllowed
  else if commandedMode = modeNormal ∧ D.mode = modeOff then
    transNotAllowed
  else
    C.isModeCombinationValid commandedMode commandedSubmode D.child

def setTransition (D : DeviceModes γ) (currentUptime : UInt32) (modeTo : Mode)
    (submodeTo : Submode) : DeviceModes γ :=
  { D.triggerEvent changingMode modeTo submodeTo.toUInt32 with
    childTransitionDelay := C.getTransitionDelayMs D.mode modeTo D.child
    transitionSourceMode := D.mode
    transitionSourceSubMode := D.submode
    childTransitionFailure := DeviceHandlerBase.childTimeout }.setMode
      currentUptime (modeTo ||| transitionModeChildActionMask) submodeTo

def handleTransitionToOnMode (D : DeviceModes γ) (currentUptime : UInt32) (commandedMode : Mode)
    (commandedSubmode : Submode) : DeviceModes γ :=
  if D.mode = modeOff then
    let D :=
      { D with
        transitionSourceMode := modePowerDown
        transitionSourceSubMode := submodeNone }.setMode currentUptime modePowerOn commandedSubmode
    { D with
      childTransitionDelay := C.getTransitionDelayMs modeStartUp modeOn D.child }.triggerEvent
      changingMode commandedMode commandedSubmode.toUInt32
  else
    D.setTransition C currentUptime modeOn commandedSubmode

def startTransition (D : DeviceModes γ) (currentUptime : UInt32) (commandedMode : Mode)
    (commandedSubmode : Submode) : DeviceModes γ :=
  if commandedMode = modeOn then
    D.handleTransitionToOnMode C currentUptime commandedMode commandedSubmode
  else if commandedMode = modeOff then
    if D.mode = modeOff then
      (D.triggerEvent changingMode commandedMode commandedSubmode.toUInt32).setMode currentUptime
        modePowerDown commandedSubmode
    else
      ({ D with
        childTransitionDelay := C.getTransitionDelayMs D.mode modePowerDown D.child
        transitionSourceMode := modePowerDown
        transitionSourceSubMode := commandedSubmode
        childTransitionFailure := DeviceHandlerBase.childTimeout }.setMode currentUptime
          modeShutDown commandedSubmode).triggerEvent
        changingMode commandedMode commandedSubmode.toUInt32
  else if commandedMode = modeRaw then
    if D.mode ≠ modeOff then
      D.setTransition C currentUptime modeRaw commandedSubmode
    else
      D.setMode currentUptime modeRaw commandedSubmode
  else if commandedMode = modeNormal then
    if D.mode ≠ modeOff then
      D.setTransition C currentUptime modeNormal commandedSubmode
    else
      D.record (.reply transNotAllowed)
  else
    D

/-- A handler when its task begins. -/
def initializeAfterTaskCreation (D : DeviceModes γ) (setStartupImmediately : Bool)
    (currentUptime : UInt32) : DeviceModes γ :=
  if setStartupImmediately then D.startTransition C currentUptime modeOn submodeNone else D

end DeviceModes

namespace DeviceModeChild

/-- A child class that keeps the defaults, and starts up and shuts down at once. -/
def simple : DeviceModeChild Unit where
  powerSwitcher := none
  getSwitches _ := (DeviceHandlerBase.noSwitch, [])
  getTransitionDelayMs _ _ _ := 5000
  isModeCombinationValid mode submode _ := DeviceModes.isModeCombinationValid mode submode
  doStartUp child := { child, modes := [(modeOn, none)] }
  doShutDown child := { child, modes := [(modePowerDown, none)] }
  doTransition mode _ _ child := { child, modes := [(DeviceModes.getBaseMode mode, none)] }
  doOnActivity child := { child }
  doOffActivity child := { child }

end DeviceModeChild

/-! ### Runs -/

/-- What happens to a device handler. The child class may also take a turn when it handles a reply
of its device. The time to reach a mode is not set when a command is checked. -/
inductive DeviceModeInput (γ : Type) where
  | doStateMachine (readings : DeviceReadings)
  | checkSwitchState (readings : DeviceReadings)
  | modeMessage (sender : MessageQueueId) (command : ModeMessage)
      (currentUptime msToReachTheMode : UInt32)
  | childTurn (turn : ChildTurn γ) (currentUptime : UInt32)

namespace DeviceModes

variable {γ : Type} (C : DeviceModeChild γ)

/-- The calls of the mode helper that are in a log. -/
def ownerCalls (log : List DeviceModeEvent) : List ModeOwnerCall :=
  log.filterMap fun
    | .modeChanged mode submode => some (.modeChanged mode submode)
    | _ => none

/-- What a mode message makes of the handler. -/
def handleModeMessage (D : DeviceModes γ) (command : ModeMessage) (currentUptime : UInt32) :
    DeviceModes γ :=
  match command with
  | .modeCommand mode submode | .modeCommandForced mode submode =>
      if D.checkModeCommand C mode submode = .ok then
        D.startTransition C currentUptime mode submode
      else
        D
  | .modeAnnounce | .modeAnnounceRecursively => D.announceMode
  | _ => D

/-- The answer to a check of a mode message. -/
def checkModeMessage (D : DeviceModes γ) : ModeMessage → ReturnValue
  | .modeCommand mode submode | .modeCommandForced mode submode => D.checkModeCommand C mode submode
  | _ => .ok

/-- What the mode helper learns of a handler that handles a mode message. -/
def modeOwner (D : DeviceModes γ) (command : ModeMessage)
    (currentUptime msToReachTheMode : UInt32) : ModeOwner where
  currentTime := currentUptime
  checkModeCommand := D.checkModeMessage C command
  msToReachTheMode := msToReachTheMode
  startTransition :=
    ownerCalls ((D.handleModeMessage C command currentUptime).log.drop D.log.length)
  mode := D.mode
  submode := D.submode

/-- What happens to a handler and its mode helper. -/
def step : Step (DeviceModes γ × ModeHelper) (DeviceModeInput γ) Unit
  | (D, H), .doStateMachine readings =>
      let D' := D.doStateMachine C readings
      some ((D', (ownerCalls (D'.log.drop D.log.length)).foldl ModeHelper.call H), ())
  | (D, H), .checkSwitchState readings => some ((D.checkSwitchState C readings, H), ())
  | (D, H), .modeMessage sender command currentUptime msToReachTheMode =>
      let owner := D.modeOwner C command currentUptime msToReachTheMode
      some ((D.handleModeMessage C command currentUptime,
        (H.handleModeCommand sender owner command).2), ())
  | (D, H), .childTurn turn currentUptime =>
      let D' := D.takeTurn currentUptime turn
      some ((D', (ownerCalls (D'.log.drop D.log.length)).foldl ModeHelper.call H), ())

end DeviceModes
