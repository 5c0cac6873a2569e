import Fsfw.GlobalFunctions.CRC
import Fsfw.Library.Multimap
import Fsfw.Serialize.SerializeAdapter
import Fsfw.StorageManager.StorageManagerIF

/-!
# Telecommand scheduling

The scheduling service keeps telecommands in a multimap whose keys are their release times,
in seconds.  The packets are in a store.  A filter selects the telecommands that are released
in a window of time, and the service deletes the selected ones, or shifts them in time.

The loops that look for the ends of the window read the key of the current entry before they
check whether there is one.  What is read through the iterator at the end of the multimap is
up to the implementation of the multimap: it is the parameter `endKey`, which is `none` when
reading there is undefined.

The multimap has room for a number of telecommands.  The clock is read in seconds, and the
results of sending messages are given from outside.
-/

open Multimap

/-- Release times are ordered as numbers. -/
instance linearOrderUInt32 : LinearOrder UInt32 where
  le_refl := UInt32.le_refl
  le_trans _ _ _ := UInt32.le_trans
  lt_iff_le_not_ge a b := by
    rw [UInt32.lt_iff_toNat_lt, UInt32.le_iff_toNat_le, UInt32.le_iff_toNat_le]
    omega
  le_antisymm _ _ := UInt32.le_antisymm
  le_total := UInt32.le_total
  toDecidableLE := inferInstance

namespace Service11TelecommandScheduling

/-- A scheduled telecommand. -/
structure TelecommandStruct where
  requestId : UInt64
  seconds : UInt32
  storeAddr : StoreAddress
  deriving DecidableEq, Repr

/-- The schedule. The keys are the release times. -/
abbrev TelecommandMap := Multimap UInt32 TelecommandStruct

/-! ### Filters -/

/-- The types of time windows that a filter can ask for, with their timestamps. -/
inductive TimeWindow where
  | selectAll
  | fromTimetagToTimetag (fromTimestamp toTimestamp : UInt32)
  | fromTimetag (fromTimestamp : UInt32)
  | toTimetag (toTimestamp : UInt32)
  deriving DecidableEq, Repr

open SerializeAdapter in
/-- Read a number of 32 bits. -/
def deSerialize32 (data : List UInt8) : Except ReturnValue (UInt32 × List UInt8) := do
  let (value, data) ← deSerialize 4 data
  return (.ofNat value, data)

/-- Read the time window of a filter. -/
def readTimeWindow (data : List UInt8) : Except ReturnValue TimeWindow := do
  let (typeRaw, data) ← deSerialize32 data
  if typeRaw > 3 then
    throw invalidTypeTimeWindow
  else if typeRaw = 0 then
    return .selectAll
  else if typeRaw = 1 then
    let (fromTimestamp, data) ← deSerialize32 data
    let (toTimestamp, _) ← deSerialize32 data
    if fromTimestamp > toTimestamp then
      throw invalidTimeWindow
    else
      return .fromTimetagToTimetag fromTimestamp toTimestamp
  else if typeRaw = 2 then
    let (fromTimestamp, _) ← deSerialize32 data
    return .fromTimetag fromTimestamp
  else
    let (toTimestamp, _) ← deSerialize32 data
    return .toTimetag toTimestamp

/-- The number of entries that an iterator is moved on by a loop that stops at the first key
without the property `p`. At the end of the multimap the loop reads a key before it stops. -/
def advance (p : UInt32 → Bool) (endKey : Option UInt32) :
    List (UInt32 × TelecommandStruct) → Option ℕ
  | [] =>
      match endKey with
      | none => none
      | some _ => some 0
  | (key, _) :: entries =>
      if p key then
        match advance p endKey entries with
        | none => none
        | some n => some (n + 1)
      else
        some 0

/-- The iterator is moved to the end of the multimap at most. -/
theorem advance_le {p : UInt32 → Bool} {endKey : Option UInt32}
    {entries : List (UInt32 × TelecommandStruct)} {n : ℕ}
    (h : advance p endKey entries = some n) :
  n ≤ entries.length
  := by
  induction entries generalizing n with
  | nil =>
      cases endKey with
      | none => cases h
      | some key =>
          cases h
          apply Nat.le_refl
  | cons entry entries ih =>
      obtain ⟨key, tc⟩ := entry
      simp only [advance] at h
      split_ifs at h
      · split at h
        · cases h
        · rename_i k hk
          cases h
          apply Nat.succ_le_succ (ih hk)
      · cases h
        apply Nat.zero_le

/-- The iterators that a window gives. -/
def selectWindow (endKey : Option UInt32) (telecommandMap : TelecommandMap) :
    TimeWindow → Option Iterators
  | .selectAll => some ⟨0, telecommandMap.entries.length, Nat.zero_le _⟩
  | .fromTimetag fromTimestamp =>
      match h : advance (· < fromTimestamp) endKey telecommandMap.entries with
      | none => none
      | some n => some ⟨n, telecommandMap.entries.length, advance_le h⟩
  | .toTimetag toTimestamp =>
      match advance (· ≤ toTimestamp) endKey telecommandMap.entries with
      | none => none
      | some n => some ⟨0, n, Nat.zero_le n⟩
  | .fromTimetagToTimetag fromTimestamp toTimestamp =>
      match advance (· < fromTimestamp) endKey telecommandMap.entries with
      | none => none
      | some n =>
          match advance (· ≤ toTimestamp) endKey (telecommandMap.entries.drop n) with
          | none => none
          | some k => some ⟨n, n + k, Nat.le_add_right n k⟩

def getMapFilterFromData (endKey : Option UInt32) (telecommandMap : TelecommandMap)
    (data : List UInt8) : Option (Except ReturnValue Iterators) :=
  match readTimeWindow data with
  | .error result => some (.error result)
  | .ok window =>
      match selectWindow endKey telecommandMap window with
      | none => none
      | some it => some (.ok it)

/-! ### Activities -/

section

variable {σ : Type*}

/-- Delete the selected telecommands: their packets from the store, and then the entries from
the schedule. -/
def doFilterDeleteActivity (tcStore : StorageManagerIF σ) (endKey : Option UInt32)
    (data : List UInt8) (telecommandMap : TelecommandMap) (s : σ) :
    Option (ReturnValue × TelecommandMap × σ) :=
  match getMapFilterFromData endKey telecommandMap data with
  | none => none
  | some (.error result) => some (result, telecommandMap, s)
  | some (.ok it) =>
      let selected := (Range.ofIterators telecommandMap it).within
      let s := selected.foldl (fun s entry => (tcStore.deleteData entry.2.storeAddr s).2) s
      -- The source means to include the entry at `itEnd`, although it is not selected.
      let it : Iterators :=
        if it.itEnd ≠ telecommandMap.entries.length then
          ⟨it.itBegin, it.itEnd + 1, Nat.le_succ_of_le it.le⟩
        else
          it
      some (.ok, telecommandMap.erase it, s)

end

/-- The loop that shifts the selected telecommands, with a bound on the number of rounds. An
entry is erased, and inserted again with its new key, while the iterators stay valid. -/
def timeshiftLoop (relativeTime : UInt32) :
    ℕ → Range UInt32 TelecommandStruct → ℕ → Option (Range UInt32 TelecommandStruct × ℕ)
  | 0, _, _ => none
  | rounds + 1, R, shiftedItemsCount =>
      match R.pop with
      | none => some (R, shiftedItemsCount)
      | some ((key, tempTc), R) =>
          timeshiftLoop relativeTime rounds (R.insert (key + relativeTime, tempTc))
            (shiftedItemsCount + 1)

/-- Shift the selected telecommands. Undefined also when there are more rounds than the bound
allows. -/
def doFilterTimeshiftActivity (rounds : ℕ) (endKey : Option UInt32) (data : List UInt8)
    (telecommandMap : TelecommandMap) : Option (ReturnValue × TelecommandMap) :=
  match deSerialize32 data with
  | .error result => some (result, telecommandMap)
  | .ok (relativeTime, data) =>
      if relativeTime = 0 then
        some (invalidRelativeTime, telecommandMap)
      else
        match getMapFilterFromData endKey telecommandMap data with
        | none => none
        | some (.error result) => some (result, telecommandMap)
        | some (.ok it) =>
            match timeshiftLoop relativeTime rounds (Range.ofIterators telecommandMap it) 0 with
            | none => none
            | some (R, shiftedItemsCount) =>
                if shiftedItemsCount > 0 then
                  some (.ok, R.toMultimap)
                else
                  some (.failed, R.toMultimap)

/-! ### Request ids -/

/-- A telecommand packet, by what its reader gives. -/
structure PusTc where
  sourceId : UInt16
  apid : UInt16
  sequenceCount : UInt16
  userData : List UInt8

open SerializeAdapter in
/-- Read a number of 16 bits. -/
def deSerialize16 (data : List UInt8) : Except ReturnValue (UInt16 × List UInt8) := do
  let (value, data) ← deSerialize 2 data
  return (.ofNat value, data)

def buildRequestId (sourceId : UInt32) (apid ssc : UInt16) : UInt64 :=
  (sourceId.toUInt64 <<< 32) ||| (apid.toUInt64 <<< 16) ||| ssc.toUInt64

/-- The id of the packet that is being handled. -/
def getRequestIdFromTc (currentPacket : PusTc) : UInt64 :=
  buildRequestId currentPacket.sourceId.toUInt32 currentPacket.apid currentPacket.sequenceCount

def getRequestIdFromData (data : List UInt8) : Except ReturnValue (UInt64 × List UInt8) := do
  let (srcId, data) ← deSerialize32 data
  let (apid, data) ← deSerialize16 data
  let (ssc, data) ← deSerialize16 data
  return (buildRequestId srcId apid ssc, data)

/-! ### The activities for single telecommands -/

/-- The number of bytes that a telecommand has at least. -/
def minSize : ℕ :=
  6 + 5 + 2

/-- Insert into a multimap with room for `maxNumTcs` entries.  When it is full, nothing is
inserted. -/
def insertBounded (maxNumTcs : ℕ) (telecommandMap : TelecommandMap)
    (entry : UInt32 × TelecommandStruct) : Bool × TelecommandMap :=
  if telecommandMap.entries.length < maxNumTcs then
    (true, telecommandMap.insert entry)
  else
    (false, telecommandMap)

section

variable {σ : Type*}

/-- The release time and the telecommand in the data, when the telecommand can be inserted. -/
def checkInsert (releaseTimeMarginSeconds : UInt16) (tvSec : ℤ) (data : List UInt8) :
    Except ReturnValue (UInt32 × List UInt8) := do
  let (timestamp, data) ← deSerialize32 data
  if (timestamp.toNat : ℤ) - tvSec ≤ releaseTimeMarginSeconds.toNat then
    throw .failed
  else if data.length < minSize then
    throw containedTcTooSmall
  else if CRC.crc16ccitt data ≠ 0 then
    throw containedTcCrcMissmatch
  else
    return (timestamp, data)

-- The request id is the one of the packet that is being handled, not of the telecommand in it.
def doInsertActivity (tcStore : StorageManagerIF σ) (maxNumTcs : ℕ)
    (releaseTimeMarginSeconds : UInt16) (tvSec : ℤ) (currentPacket : PusTc)
    (telecommandMap : TelecommandMap) (s : σ) : ReturnValue × TelecommandMap × σ :=
  match checkInsert releaseTimeMarginSeconds tvSec currentPacket.userData with
  | .error result => (result, telecommandMap, s)
  | .ok (timestamp, data) =>
      match tcStore.addData data s with
      | (result, addr, s) =>
          if result ≠ .ok ∨ addr = StoreAddress.invalid then
            (.failed, telecommandMap, s)
          else
            let tc : TelecommandStruct := ⟨getRequestIdFromTc currentPacket, timestamp, addr⟩
            match insertBounded maxNumTcs telecommandMap (timestamp, tc) with
            | (true, telecommandMap) => (.ok, telecommandMap, s)
            | (false, telecommandMap) => (.failed, telecommandMap, s)

/-- The entry has the request id. -/
def hasRequestId (requestId : UInt64) (entry : UInt32 × TelecommandStruct) : Bool :=
  entry.2.requestId = requestId

-- The iterator of the last entry found is used only when a single one was found.
def doDeleteActivity (tcStore : StorageManagerIF σ) (data : List UInt8)
    (telecommandMap : TelecommandMap) (s : σ) : ReturnValue × TelecommandMap × σ :=
  match getRequestIdFromData data with
  | .error result => (result, telecommandMap, s)
  | .ok (requestId, _) =>
      match telecommandMap.entries.filter (hasRequestId requestId) with
      | [tcToDelete] =>
          match tcStore.deleteData tcToDelete.2.storeAddr s with
          | (.ok, s) => (.ok, telecommandMap.eraseFirst (hasRequestId requestId), s)
          | (_, s) => (.failed, telecommandMap, s)
      | _ => (.failed, telecommandMap, s)

/-- Shift a single telecommand.  Its new key may overflow, and the release time in it stays
the old one. -/
def doTimeshiftActivity (maxNumTcs : ℕ) (data : List UInt8) (telecommandMap : TelecommandMap) :
    ReturnValue × TelecommandMap :=
  match deSerialize32 data with
  | .error result => (result, telecommandMap)
  | .ok (relativeTime, data) =>
      if relativeTime = 0 then
        (invalidRelativeTime, telecommandMap)
      else
        match getRequestIdFromData data with
        | .error result => (result, telecommandMap)
        | .ok (requestId, _) =>
            match telecommandMap.entries.filter (hasRequestId requestId) with
            | [(key, tempTc)] =>
                (.ok, (insertBounded maxNumTcs
                  (telecommandMap.eraseFirst (hasRequestId requestId))
                  (key + relativeTime, tempTc)).2)
            | _ => (timeshiftingNotPossible, telecommandMap)

/-- Delete all packets and clear the schedule, also when a packet could not be deleted. -/
def handleResetCommand (tcStore : StorageManagerIF σ) (telecommandMap : TelecommandMap) (s : σ) :
    ReturnValue × TelecommandMap × σ :=
  (.ok, .empty, telecommandMap.entries.foldl
    (fun s entry => (tcStore.deleteData entry.2.storeAddr s).2) s)

end

end Service11TelecommandScheduling

/-! ### The service -/

/-- What the service is set up with: the store, the capacity of the multimap, the time margin,
what is read at the end of the multimap, and a bound on the rounds of the loop that shifts
telecommands. -/
structure Service11TelecommandScheduling (σ : Type*) where
  tcStore : StorageManagerIF σ
  maxNumTcs : ℕ
  releaseTimeMarginSeconds : UInt16
  endKey : Option UInt32
  rounds : ℕ

namespace Service11TelecommandScheduling

variable {σ : Type*}

/-- The state of the service and of the store. -/
structure State (σ : Type*) where
  telecommandMap : TelecommandMap
  schedulingEnabled : Bool
  deleteExpiredTcWhenDisabled : Bool
  store : σ

/-- The state at the beginning: nothing is scheduled, and scheduling is disabled. -/
def State.new (store : σ) : State σ where
  telecommandMap := .empty
  schedulingEnabled := false
  deleteExpiredTcWhenDisabled := true
  store := store

/-- The result of an activity, with the schedule and the store after it. -/
def State.activity (s : State σ) :
    ReturnValue × TelecommandMap × σ → Option (ReturnValue × State σ)
  | (result, telecommandMap, store) =>
      some (result, { s with telecommandMap := telecommandMap, store := store })

def handleRequest (service : Service11TelecommandScheduling σ) (tvSec : ℤ) (subservice : UInt8)
    (currentPacket : PusTc) (s : State σ) : Option (ReturnValue × State σ) :=
  if subservice = 1 then
    some (.ok, { s with schedulingEnabled := true })
  else if subservice = 2 then
    some (.ok, { s with schedulingEnabled := false })
  else if subservice = 3 then
    s.activity (handleResetCommand service.tcStore s.telecommandMap s.store)
  else if subservice = 4 then
    s.activity (doInsertActivity service.tcStore service.maxNumTcs
      service.releaseTimeMarginSeconds tvSec currentPacket s.telecommandMap s.store)
  else if subservice = 5 then
    s.activity (doDeleteActivity service.tcStore currentPacket.userData s.telecommandMap s.store)
  else if subservice = 6 then
    match doFilterDeleteActivity service.tcStore service.endKey currentPacket.userData
        s.telecommandMap s.store with
    | none => none
    | some outcome => s.activity outcome
  else if subservice = 7 then
    let (result, telecommandMap) :=
      doTimeshiftActivity service.maxNumTcs currentPacket.userData s.telecommandMap
    some (result, { s with telecommandMap := telecommandMap })
  else if subservice = 8 then
    match doFilterTimeshiftActivity service.rounds service.endKey currentPacket.userData
        s.telecommandMap with
    | none => none
    | some (result, telecommandMap) => some (result, { s with telecommandMap := telecommandMap })
  else
    some (AcceptsTelecommandsIF.invalidSubservice, s)

/-- A message that was sent for an entry, and the result of sending it. -/
abbrev Release := (UInt32 × TelecommandStruct) × ReturnValue

/-- The loop that releases telecommands, from the number of messages sent so far.
`sendMessage k` is the result of sending the message with the number `k`.  The loop gives its
result, the messages it sent, and the entries that are left.  A due telecommand that is neither
sent nor erased would keep the loop from going on. -/
def releaseLoop (schedulingEnabled deleteExpiredTcWhenDisabled : Bool) (tvSec : ℤ)
    (sendMessage : ℕ → ReturnValue) : ℕ → List (UInt32 × TelecommandStruct) →
    Option (ReturnValue × List Release × List (UInt32 × TelecommandStruct))
  | _, [] => some (.ok, [], [])
  | k, entry :: entries =>
      if (entry.1.toNat : ℤ) ≤ tvSec then
        if schedulingEnabled then
          if sendMessage k ≠ .ok then
            some (sendMessage k, [(entry, sendMessage k)], entry :: entries)
          else
            match releaseLoop schedulingEnabled deleteExpiredTcWhenDisabled tvSec sendMessage
                (k + 1) entries with
            | none => none
            | some (result, releases, left) => some (result, (entry, .ok) :: releases, left)
        else if deleteExpiredTcWhenDisabled then
          releaseLoop schedulingEnabled deleteExpiredTcWhenDisabled tvSec sendMessage k entries
        else
          none
      else
        match releaseLoop schedulingEnabled deleteExpiredTcWhenDisabled tvSec sendMessage k
            entries with
        | none => none
        | some (result, releases, left) => some (result, releases, entry :: left)

/-- The entries that are left are some of those that were there. -/
theorem sublist_of_releaseLoop {enabled deleteExpired : Bool} {tvSec : ℤ}
    {sendMessage : ℕ → ReturnValue} {k : ℕ} {entries left : List (UInt32 × TelecommandStruct)}
    {result : ReturnValue} {releases : List Release}
    (h : releaseLoop enabled deleteExpired tvSec sendMessage k entries
      = some (result, releases, left)) :
  left.Sublist entries
  := by
  induction entries generalizing k result releases left with
  | nil =>
      cases h
      exact List.Sublist.refl _
  | cons entry entries ih =>
      simp only [releaseLoop] at h
      split_ifs at h
      · cases h
        exact List.Sublist.refl _
      · split at h
        · cases h
        · rename_i hloop
          cases h
          exact (ih hloop).cons entry
      · exact (ih h).cons entry
      · split at h
        · cases h
        · rename_i hloop
          cases h
          exact (ih hloop).cons_cons entry

/-- Release the telecommands that are due. -/
def performService (tvSec : ℤ) (sendMessage : ℕ → ReturnValue) (s : State σ) :
    Option (ReturnValue × List Release × State σ) :=
  if ¬ s.schedulingEnabled then
    some (.ok, [], s)
  else
    match h : releaseLoop s.schedulingEnabled s.deleteExpiredTcWhenDisabled tvSec sendMessage 0
        s.telecommandMap.entries with
    | none => none
    | some (result, releases, left) =>
        some (result, releases, { s with
          telecommandMap := ⟨left, s.telecommandMap.sorted.sublist (sublist_of_releaseLoop h)⟩ })

end Service11TelecommandScheduling
