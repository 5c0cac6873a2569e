import Fsfw.Health.HealthTable
import Fsfw.Modes.ModeMessage

/-!
# What subsystems and assemblies share

A subsystem or an assembly has children, which it knows by their object ids, and of which it
keeps the modes they reported last.  It commands them with tables of modes, and counts the
replies that are outstanding.

An iterator over the entries of a table or of a sequence is the list of the entries from its
position on, and is at the end (its pointer is null) when that list is empty.
-/

/-- An entry of a sequence of tables, or of a table of modes. -/
structure ModeListEntry where
  value1 : UInt32
  value2 : UInt32
  value3 : UInt8
  value4 : UInt8
  deriving DecidableEq, Repr

namespace ModeListEntry

variable (entry : ModeListEntry)

/-! For sequences. -/

def getTableId : Mode := entry.value1

def getWaitSeconds : UInt8 := entry.value2.toUInt8

def checkSuccess : Bool := entry.value3 = 1

/-! For tables. -/

def getObject : ObjectId := entry.value1

def getMode : Mode := entry.value2

def getSubmode : Submode := entry.value3

def inheritSubmode : Bool := entry.value4 = 1

/-- The submode an entry asks for, which may be that of the target. -/
def submodeFor (targetSubmode : Submode) : Submode :=
  if entry.inheritSubmode then targetSubmode else entry.getSubmode

end ModeListEntry

structure ChildInfo where
  commandQueue : MessageQueueId
  mode : Mode
  submode : Submode
  healthChanged : Bool
  deriving DecidableEq, Repr

/-- A command that is sent to a child.  It is forced when it has to reach a child that is
controlled externally. -/
structure ModeCommand where
  queue : MessageQueueId
  forced : Bool
  mode : Mode
  submode : Submode
  deriving DecidableEq, Repr

/-- The replies of children to mode commands. -/
inductive ModeReply where
  | modeInfo (mode : Mode) (submode : Submode)
  | modeReply (mode : Mode) (submode : Submode)
  | wrongModeReply (mode : Mode) (submode : Submode)
  | cantReachMode (reason : ReturnValue)
  deriving DecidableEq, Repr

/-- The children are in the order of their ids, as an iteration over the map visits them.
Whether a mode is forced is kept by the mode helper. -/
structure SubsystemBase where
  mode : Mode
  submode : Submode
  childrenChangedMode : Bool
  commandsOutstanding : ℤ
  forced : Bool
  childrenMap : List (ObjectId × ChildInfo)

namespace SubsystemBase

/-- The child with this id. -/
def findChild (S : SubsystemBase) (object : ObjectId) : Option ChildInfo :=
  (S.childrenMap.find? fun child => child.1 = object).map Prod.snd

def checkTable (S : SubsystemBase) : List ModeListEntry → ReturnValue
  | [] => .ok
  | entry :: rest =>
      if S.findChild entry.getObject = none then
        tableContainsInvalidObjectId
      else
        S.checkTable rest

/-- Every entry of the table has a child that is in its mode and submode. -/
def checkStateAgainstTable (S : SubsystemBase) (targetSubmode : Submode) :
    List ModeListEntry → ReturnValue
  | [] => .ok
  | entry :: rest =>
      match S.findChild entry.getObject with
      | none => .failed
      | some child =>
          if child.mode ≠ entry.getMode then
            .failed
          else if child.submode ≠ entry.submodeFor targetSubmode then
            .failed
          else
            S.checkStateAgainstTable targetSubmode rest

/-- The command an entry of a table stands for, if one is sent.  A child that has a health and
is faulty is commanded off, and one under external control only when the mode is forced.  A
child that is in the mode already is not commanded unless the mode is forced. -/
def commandFor (S : SubsystemBase) (healthTable : HealthTable) (targetSubmode : Submode)
    (entry : ModeListEntry) : Option ModeCommand :=
  match S.findChild entry.getObject with
  | none => none
  | some child =>
      let command : Option (Bool × Mode × Submode) :=
        if healthTable.hasHealth entry.getObject then
          if healthTable.isFaulty entry.getObject then
            some (false, HasModesIF.modeOff, HasModesIF.submodeNone)
          else if S.forced then
            some (true, entry.getMode, entry.submodeFor targetSubmode)
          else if healthTable.isCommandable entry.getObject then
            some (false, entry.getMode, entry.submodeFor targetSubmode)
          else
            none
        else
          some (false, entry.getMode, entry.submodeFor targetSubmode)
      match command with
      | none => none
      | some (forced, mode, submode) =>
          if child.mode = mode ∧ child.submode = submode ∧ !S.forced then
            none
          else
            some ⟨child.commandQueue, forced, mode, submode⟩

/-- The commands of a table that reach the queues of the children.  Sending the command of the
entry `i` works when `sent i`. -/
def tableCommands (S : SubsystemBase) (healthTable : HealthTable) (sent : ℕ → Bool)
    (targetSubmode : Submode) : ℕ → List ModeListEntry → List ModeCommand
  | _, [] => []
  | i, entry :: rest =>
      match S.commandFor healthTable targetSubmode entry with
      | some command =>
          if sent i then
            command :: S.tableCommands healthTable sent targetSubmode (i + 1) rest
          else
            S.tableCommands healthTable sent targetSubmode (i + 1) rest
      | none => S.tableCommands healthTable sent targetSubmode (i + 1) rest

/-- Command the children, and count the commands. -/
def executeTable (S : SubsystemBase) (healthTable : HealthTable) (sent : ℕ → Bool)
    (table : List ModeListEntry) (targetSubmode : Submode) : SubsystemBase × List ModeCommand :=
  let commands := S.tableCommands healthTable sent targetSubmode 0 table
  ({ S with commandsOutstanding := commands.length }, commands)

/-- Change what is known of the first child that has this queue. -/
def updateChild (queue : MessageQueueId) (change : ChildInfo → ChildInfo) :
    List (ObjectId × ChildInfo) → List (ObjectId × ChildInfo)
  | [] => []
  | child :: rest =>
      if child.2.commandQueue = queue then
        (child.1, change child.2) :: rest
      else
        child :: updateChild queue change rest

def updateChildMode (S : SubsystemBase) (queue : MessageQueueId) (mode : Mode)
    (submode : Submode) : SubsystemBase :=
  { S with
    childrenMap := updateChild queue (fun child => { child with mode, submode }) S.childrenMap }

def updateChildChangedHealth (S : SubsystemBase) (queue : MessageQueueId)
    (changedHealth : Bool) : SubsystemBase :=
  { S with
    childrenMap :=
      updateChild queue (fun child => { child with healthChanged := changedHealth })
        S.childrenMap }

/-- Any reply but an information is counted, whoever sends it. -/
def handleModeReply (S : SubsystemBase) (sender : MessageQueueId) : ModeReply → SubsystemBase
  | .modeInfo mode submode =>
      { S.updateChildMode sender mode submode with childrenChangedMode := true }
  | .modeReply mode submode | .wrongModeReply mode submode =>
      { S.updateChildMode sender mode submode with
        childrenChangedMode := true
        commandsOutstanding := S.commandsOutstanding - 1 }
  | .cantReachMode _ => { S with commandsOutstanding := S.commandsOutstanding - 1 }

end SubsystemBase
