import Fsfw.Container.FiniteMap
import Fsfw.Subsystem.SubsystemBase

/-!
# Subsystems

A mode of a subsystem is a sequence of tables: the first one is the target table, and the others
are commanded one after another.  When a sequence fails, its fallback sequence is tried.  The
tables and the sequences are known by their ids, in a map each.

The entries of a table or of a sequence come from an array, or are linked when they have been
stored.  There is no store for them here: they are never stored, and adding such a table or
sequence fails.
-/

/-- The entries of a table or of a sequence. -/
structure EntryPointer where
  islinked : Bool
  entries : List ModeListEntry
  deriving DecidableEq, Repr

structure SequenceInfo where
  fallbackSequence : Mode
  entries : EntryPointer
  deriving DecidableEq, Repr

structure Subsystem extends SubsystemBase where
  isInTransition : Bool
  childrenChangedHealth : Bool
  uptimeStartTable : UInt32
  currentTargetTable : List ModeListEntry
  targetMode : Mode
  targetSubmode : Submode
  currentSequenceIterator : List ModeListEntry
  modeTables : FixedMap Mode EntryPointer
  modeSequences : FixedMap Mode SequenceInfo

namespace Subsystem

/-- A subsystem without tables and sequences, whose arrays are not initialised. -/
def new (childrenMap : List (ObjectId × ChildInfo))
    (sequenceGarbage : ℕ → Mode × SequenceInfo) (tableGarbage : ℕ → Mode × EntryPointer)
    (maxNumberOfSequences maxNumberOfTables : ℕ) : Subsystem where
  mode := 0
  submode := HasModesIF.submodeNone
  childrenChangedMode := false
  commandsOutstanding := 0
  forced := false
  childrenMap := childrenMap
  isInTransition := false
  childrenChangedHealth := false
  uptimeStartTable := 0
  currentTargetTable := []
  targetMode := 0
  targetSubmode := HasModesIF.submodeNone
  currentSequenceIterator := []
  modeTables := FixedMap.new tableGarbage maxNumberOfTables
  modeSequences := FixedMap.new sequenceGarbage maxNumberOfSequences

variable (S : Subsystem)

def existsModeSequence (id : Mode) : Option Bool := do
  let found ← S.modeSequences.existsKey id
  return found = .ok

def existsModeTable (id : Mode) : Option Bool := do
  let found ← S.modeTables.existsKey id
  return found = .ok

def getSequence (id : Mode) : Option (List ModeListEntry) := do
  let sequenceInfo ← S.modeSequences.valueAt id
  return sequenceInfo.entries.entries

def getTable (id : Mode) : Option (List ModeListEntry) := do
  let entry ← S.modeTables.valueAt id
  return entry.entries

/-- The id of the fallback sequence, or -1 when the sequence does not exist. -/
def getFallbackSequence (sequence : Mode) : Mode :=
  match S.modeSequences.stored.find? fun entry => entry.1 = sequence with
  | some entry => entry.2.fallbackSequence
  | none => -1

def isFallbackSequence (sequenceId : Mode) : Bool :=
  S.modeSequences.stored.any fun entry => entry.2.fallbackSequence = sequenceId

/-- Is the table in one of these sequences? -/
def isTableUsedBy (tableId : Mode) : List (Mode × SequenceInfo) → Option Bool
  | [] => some false
  | sequence :: rest => do
      let entries ← S.getSequence sequence.1
      if entries.any fun entry => entry.getTableId = tableId then
        return true
      else
        isTableUsedBy tableId rest

def isTableUsed (tableId : Mode) : Option Bool :=
  S.isTableUsedBy tableId S.modeSequences.stored

/-- The loop of `checkSequence` over the tables of a sequence. -/
def checkTables : List ModeListEntry → Option ReturnValue
  | [] => some .ok
  | entry :: rest => do
      let found ← S.existsModeTable entry.getTableId
      if !found then
        return tableDoesNotExist
      else
        let table ← S.getTable entry.getTableId
        let result := S.checkTable table
        if result ≠ .ok then
          return result
        else
          checkTables rest

/-- The fallback sequence only has to exist. -/
def checkSequenceEntries (iter : List ModeListEntry) (fallbackSequence : Mode) :
    Option ReturnValue := do
  let found ← S.existsModeSequence fallbackSequence
  if !found then
    return fallbackSequenceDoesNotExist
  else if iter = [] then
    return noTargetTable
  else
    S.checkTables iter

def checkSequence (sequence : Mode) : Option ReturnValue := do
  let found ← S.existsModeSequence sequence
  if !found then
    return sequenceDoesNotExist
  else
    let iter ← S.getSequence sequence
    S.checkSequenceEntries iter (S.getFallbackSequence sequence)

/-- A sequence that is added before the initialization is not checked. -/
def addSequence (sequence : List ModeListEntry) (id fallbackSequence : Mode)
    (inStore preInit : Bool) : Option (ReturnValue × Subsystem) := do
  let checked ← (if preInit then some .ok else S.checkSequenceEntries sequence fallbackSequence)
  if checked ≠ .ok then
    return (checked, S)
  else
    let (result, _, modeSequences) ←
      S.modeSequences.insert id ⟨fallbackSequence, ⟨inStore, sequence⟩⟩
    if result ≠ .ok then
      return (result, { S with modeSequences })
    else if inStore then
      let (_, modeSequences) ← modeSequences.erase id
      return (.failed, { S with modeSequences })
    else
      return (result, { S with modeSequences })

/-- A table that is added before the initialization is not checked. -/
def addTable (table : List ModeListEntry) (id : Mode) (inStore preInit : Bool) :
    Option (ReturnValue × Subsystem) := do
  let checked := if preInit then .ok else S.checkTable table
  if checked ≠ .ok then
    return (checked, S)
  else
    let (result, _, modeTables) ← S.modeTables.insert id ⟨inStore, table⟩
    if result ≠ .ok then
      return (result, { S with modeTables })
    else if inStore then
      let (_, modeTables) ← modeTables.erase id
      return (.failed, { S with modeTables })
    else
      return (result, { S with modeTables })

def deleteSequence (id : Mode) : Option (ReturnValue × Subsystem) := do
  if S.isFallbackSequence id then
    return (isFallbackSequenceCode, S)
  else
    match ← S.modeSequences.findValue id with
    | (.ok, some sequenceInfo) =>
        if !sequenceInfo.entries.islinked then
          return (accessDenied, S)
        else
          let (_, modeSequences) ← S.modeSequences.erase id
          return (.ok, { S with modeSequences })
    | (result, _) => return (result, S)

/-- The id is erased from the sequences, not from the tables. -/
def deleteTable (id : Mode) : Option (ReturnValue × Subsystem) := do
  let used ← S.isTableUsed id
  if used then
    return (tableInUse, S)
  else
    match ← S.modeTables.findValue id with
    | (.ok, some pointer) =>
        if !pointer.islinked then
          return (accessDenied, S)
        else
          let (_, modeSequences) ← S.modeSequences.erase id
          return (.ok, { S with modeSequences })
    | (result, _) => return (result, S)

end Subsystem
