import Fsfw.Library.Run
import Fsfw.Subsystem.Subsystem

/-!
# Transitions of a subsystem

A transition to a mode commands the tables of its sequence one after another.  It waits for the
replies of the children, then for the time that the table asks for, and goes on to the next table.
At the end it looks whether the children are in the modes of the target table.  When a transition
fails, it goes back to the current mode, or to the fallback sequence.

A run of a subsystem has a log.  There the commands to the children have numbers, and a reply may
tell the number of the command that it answers, which the subsystem does not know.  The uptime is
in milliseconds, of which the clock shows 32 bits.
-/

/-- What happens at a subsystem. -/
inductive SubsystemEvent where
  | started (targetTable : List ModeListEntry) (targetMode : Mode) (targetSubmode : Submode)
      (tables : List ModeListEntry)
  | commanded (uptime : ℕ) (table : ModeListEntry) (commands : List ℕ)
  | answered (uptime : ℕ) (command : ℕ)
  | reported (sender : MessageQueueId) (mode : Mode) (submode : Submode)
  | reached (mode : Mode) (submode : Submode)

/-- What a subsystem meets when it commands its children: their health, and for each entry of the
table whether the command can be sent. -/
structure Surroundings where
  healthTable : HealthTable
  sent : ℕ → Bool

namespace Subsystem

/-- While a transition is going on only its fallback sequence may be commanded. -/
def checkModeCommand (S : Subsystem) (mode : Mode) : Option ReturnValue :=
  if S.isInTransition ∧ mode ≠ S.getFallbackSequence S.targetMode then
    some HasModesIF.inTransition
  else
    S.checkSequence mode

end Subsystem

/-- A subsystem in time, with the number of the commands it has sent, and its log. -/
structure SubsystemRun extends Subsystem where
  uptime : ℕ
  commandsSent : ℕ
  log : List SubsystemEvent

/-- What happens to a subsystem. -/
inductive SubsystemInput where
  | performOperation
  | modeCommand (forced : Bool) (mode : Mode) (submode : Submode) (surroundings : Surroundings)
  | modeReply (sender : MessageQueueId) (reply : ModeReply) (answers : Option ℕ)
  | healthInfo (health : HealthState)
  | performChildOperation (surroundings : Surroundings)

namespace SubsystemRun

variable (w : Surroundings)

def start (S : Subsystem) (uptime : ℕ) : SubsystemRun where
  toSubsystem := S
  uptime := uptime
  commandsSent := 0
  log := []

def record (c : SubsystemRun) (event : SubsystemEvent) : SubsystemRun :=
  { c with log := c.log ++ [event] }

/-- Command the children as the table of this entry of the sequence tells. -/
def executeTable (c : SubsystemRun) (entry : ModeListEntry) (table : List ModeListEntry) :
    SubsystemRun :=
  let (base, commands) :=
    c.toSubsystemBase.executeTable w.healthTable w.sent table c.targetSubmode
  { c with
    toSubsystemBase := base
    commandsSent := c.commandsSent + commands.length }.record
    (.commanded c.uptime entry (List.range' c.commandsSent commands.length))

def setMode (c : SubsystemRun) (newMode : Mode) (newSubmode : Submode) : SubsystemRun :=
  { c with forced := false, mode := newMode, submode := newSubmode }.record
    (.reached newMode newSubmode)

/-- The wait time that has been started is not touched. -/
def startTransition (c : SubsystemRun) (sequence : Mode) (submode : Submode) :
    Option SubsystemRun :=
  match c.getSequence sequence with
  | some (target :: tables) =>
      match c.getTable target.getTableId with
      | none => none
      | some targetTable =>
          let c := { c with
            targetMode := sequence
            targetSubmode := submode
            isInTransition := true
            commandsOutstanding := 0
            currentTargetTable := targetTable
            currentSequenceIterator := tables }.record
            (.started targetTable sequence submode tables)
          match tables with
          | [] => some c
          | entry :: _ =>
              match c.getTable entry.getTableId with
              | none => none
              | some table => some (c.executeTable w entry table)
  | _ => none

def transitionFailed (c : SubsystemRun) : Option SubsystemRun :=
  if c.mode = c.targetMode then
    let c := { c with forced := true }
    match c.checkSequence (c.getFallbackSequence c.mode) with
    | none => none
    | some .ok =>
        let c := { c with mode := c.getFallbackSequence c.mode }
        c.startTransition w c.mode c.submode
    | some _ => some { c with isInTransition := false }
  else
    c.startTransition w c.mode c.submode

def cantKeepMode (c : SubsystemRun) : Option SubsystemRun :=
  match c.checkSequence (c.getFallbackSequence c.mode) with
  | none => none
  | some .ok =>
      let c := { c with forced := true, mode := c.getFallbackSequence c.mode }
      c.startTransition w c.mode HasModesIF.submodeNone
  | some _ => some c

/-- Wait as long as the current entry of the sequence tells, and command the next table then. -/
def awaitNextTable (c : SubsystemRun) (entry : ModeListEntry) (tables : List ModeListEntry) :
    Option SubsystemRun :=
  if entry.getWaitSeconds ≠ 0 ∧ c.uptimeStartTable = 0 then
    some { c with uptimeStartTable := .ofNat c.uptime }
  else if entry.getWaitSeconds ≠ 0 ∧
      UInt32.ofNat c.uptime - c.uptimeStartTable < entry.getWaitSeconds.toUInt32 * 1000 then
    some c
  else
    let c := { c with uptimeStartTable := 0, currentSequenceIterator := tables }
    match tables with
    | [] => some c
    | next :: _ =>
        match c.getTable next.getTableId with
        | none => none
        | some table => some (c.executeTable w next table)

def performChildOperation (c : SubsystemRun) : Option SubsystemRun :=
  if c.isInTransition then
    if c.commandsOutstanding ≤ 0 then
      match c.currentSequenceIterator with
      | [] =>
          if c.checkStateAgainstTable c.targetSubmode c.currentTargetTable = .ok then
            some { c.setMode c.targetMode c.targetSubmode with isInTransition := false }
          else
            match c.getSequence c.targetMode with
            | none => none
            | some _ => c.transitionFailed w
      | entry :: tables =>
          if entry.checkSuccess then
            match c.getTable entry.getTableId with
            | none => none
            | some table =>
                if c.checkStateAgainstTable c.targetSubmode table = .ok then
                  c.awaitNextTable w entry tables
                else
                  c.transitionFailed w
          else
            c.awaitNextTable w entry tables
    else
      some c
  else if c.childrenChangedHealth then
    { c with childrenChangedHealth := false }.startTransition w c.mode c.submode
  else if c.childrenChangedMode ∧
      c.checkStateAgainstTable c.submode c.currentTargetTable ≠ .ok then
    c.cantKeepMode w
  else
    some c

/-- A mode is forced even when the command is rejected. -/
def handleModeCommand (c : SubsystemRun) (forced : Bool) (mode : Mode) (submode : Submode) :
    Option (ReturnValue × SubsystemRun) :=
  let c := { c with forced := c.forced || forced }
  match c.checkModeCommand mode with
  | none => none
  | some .ok =>
      match c.startTransition w mode submode with
      | none => none
      | some c => some (.ok, c)
  | some result => some (result, c)

/-- The mode that a reply reports. -/
def reportOf : ModeReply → Option (Mode × Submode)
  | .modeInfo mode submode | .modeReply mode submode | .wrongModeReply mode submode =>
      some (mode, submode)
  | .cantReachMode _ => none

/-- The reply is counted, as if it answered a command. -/
def isCounted : ModeReply → Bool
  | .modeInfo _ _ => false
  | _ => true

/-- Enter into the log what a reply reports, and the command that it answers. -/
def handleModeReply (c : SubsystemRun) (sender : MessageQueueId) (reply : ModeReply)
    (answers : Option ℕ) : SubsystemRun :=
  let reported := (reportOf reply).toList.map fun report =>
    SubsystemEvent.reported sender report.1 report.2
  let answered := (if isCounted reply then answers else none).toList.map fun command =>
    SubsystemEvent.answered c.uptime command
  { c with
    toSubsystemBase := c.toSubsystemBase.handleModeReply sender reply
    log := c.log ++ reported ++ answered }

def handleHealthInfo (c : SubsystemRun) (health : HealthState) : SubsystemRun :=
  if health = .externalControl then c else { c with childrenChangedHealth := true }

/-- One step, some time after the last one, with the value that is returned. -/
def next : Step SubsystemRun (ℕ × SubsystemInput) ReturnValue
  | c, (elapsed, input) =>
      let c := { c with uptime := c.uptime + elapsed }
      match input with
      | .performOperation => some ({ c with childrenChangedMode := false }, .ok)
      | .modeCommand forced mode submode surroundings =>
          (c.handleModeCommand surroundings forced mode submode).map Prod.swap
      | .modeReply sender reply answers => some (c.handleModeReply sender reply answers, .ok)
      | .healthInfo health => some (c.handleHealthInfo health, .ok)
      | .performChildOperation surroundings =>
          (c.performChildOperation surroundings).map fun c => (c, .ok)

end SubsystemRun
