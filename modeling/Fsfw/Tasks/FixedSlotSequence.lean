import Fsfw.Library.KeyOrder
import Fsfw.Library.Run
import Fsfw.ReturnValues

/-!
# Polling sequences

A fixed slot sequence holds slots in the order of their polling times.  A slot that is added goes
behind those with the same time.  The slots are executed one after another, and after the last one
again from the first one on.

The slot that is executed after `i` others is due at the time `due i`, which counts on over the
cycles.  The intervals that the sequence reports are differences of these times, so that over a
cycle they sum up to the length of the period (`FixedSlotSequence.tiles_addSlots`).
-/

/-- An entry of the polling sequence table, for executable objects of type `ω`. -/
structure FixedSequenceSlot (ω : Type) where
  handlerId : UInt32
  executableObject : Option ω
  pollingTimeMs : UInt32
  opcode : UInt8
  deriving DecidableEq, Repr

namespace FixedSequenceSlot

variable {ω : Type}

def new (handlerId setTime : UInt32) (setSequenceId : Int8) (executableObject : Option ω) :
    FixedSequenceSlot ω where
  handlerId
  executableObject
  pollingTimeMs := setTime
  opcode := setSequenceId.toUInt8

/-- What is called when the slot is executed. -/
def operation (slot : FixedSequenceSlot ω) : Option (ω × UInt8) :=
  slot.executableObject.map (·, slot.opcode)

/-- Insert a slot behind those with polling times up to its own. -/
def insert (slot : FixedSequenceSlot ω) (slotList : List (FixedSequenceSlot ω)) :
    List (FixedSequenceSlot ω) :=
  slotList.orderedInsert (fun a b => a.pollingTimeMs < b.pollingTimeMs) slot

/-- The order of the polling times. -/
def Sorted (slotList : List (FixedSequenceSlot ω)) : Prop :=
  slotList.Pairwise fun a b => a.pollingTimeMs ≤ b.pollingTimeMs

/-- The slots with a polling time. -/
def withTime (timeMs : UInt32) (slotList : List (FixedSequenceSlot ω)) :
    List (FixedSequenceSlot ω) :=
  slotList.filter fun slot => slot.pollingTimeMs = timeMs

/-! Slots are entries with their polling times as keys. -/

def keyed (slot : FixedSequenceSlot ω) : UInt32 × FixedSequenceSlot ω :=
  (slot.pollingTimeMs, slot)

instance : IsStrictOrder UInt32 fun a b => decide (a < b) = true where
  irrefl a := by simp
  trans a b c := by
    simp only [decide_eq_true_eq]
    apply UInt32.lt_trans

theorem keyed_insert (slot : FixedSequenceSlot ω) (slotList : List (FixedSequenceSlot ω)) :
  (insert slot slotList).map keyed
    = KeyOrder.insertBehind (fun a b => decide (a < b)) slot.keyed (slotList.map keyed)
  := by
  apply List.map_orderedInsert
  · intro a _
    exact decide_eq_true_iff.symm
  · intro a _
    exact decide_eq_true_iff.symm

theorem sorted_iff_keyed {slotList : List (FixedSequenceSlot ω)} :
  Sorted slotList ↔ KeyOrder.Sorted (fun a b => decide (a < b)) (slotList.map keyed)
  := by
  simp [Sorted, KeyOrder.Sorted, List.pairwise_map, keyed]

theorem map_keyed_withTime (timeMs : UInt32) (slotList : List (FixedSequenceSlot ω)) :
  (withTime timeMs slotList).map keyed = KeyOrder.withKey timeMs (slotList.map keyed)
  := by
  rw [KeyOrder.withKey, List.filter_map]
  rfl

theorem Sorted.insert {slotList : List (FixedSequenceSlot ω)} (h : Sorted slotList)
    (slot : FixedSequenceSlot ω) :
  Sorted (slot.insert slotList)
  := by
  rw [sorted_iff_keyed, keyed_insert]
  apply KeyOrder.sorted_insertBehind (sorted_iff_keyed.mp h)

/-- A slot comes behind those with its time. -/
theorem withTime_insert {slotList : List (FixedSequenceSlot ω)} (h : Sorted slotList)
    (slot : FixedSequenceSlot ω) (timeMs : UInt32) :
  withTime timeMs (slot.insert slotList) = withTime timeMs slotList ++ withTime timeMs [slot]
  := by
  have hinj : Function.Injective (keyed : FixedSequenceSlot ω → _) :=
    fun _ _ heq => congrArg Prod.snd heq
  apply List.map_injective_iff.mpr hinj
  rw [List.map_append, map_keyed_withTime, map_keyed_withTime, map_keyed_withTime, keyed_insert,
    KeyOrder.filter_insertBehind (sorted_iff_keyed.mp h)]
  rfl

end FixedSequenceSlot

/-- A polling sequence.  Its current slot is the one that is executed next. -/
structure FixedSlotSequence (ω : Type) where
  slotList : List (FixedSequenceSlot ω)
  sorted : FixedSequenceSlot.Sorted slotList
  current : ℕ
  lengthMs : UInt32

namespace FixedSlotSequence

open FixedSequenceSlot

variable {ω : Type}

def new (setLengthMs : UInt32) : FixedSlotSequence ω where
  slotList := []
  sorted := List.Pairwise.nil
  current := 0
  lengthMs := setLengthMs

/-- Execute the current slot.  The end of the list has no slot, and a slot without an object cannot
be executed. -/
def executeAndAdvance : Step (FixedSlotSequence ω) Unit (ω × UInt8) :=
  fun sequence _ => do
    let slot ← sequence.slotList[sequence.current]?
    let executableObject ← slot.executableObject
    let current := sequence.current + 1
    return ({ sequence with current := if current = sequence.slotList.length then 0 else current },
      (executableObject, slot.opcode))

/-- The interval to the first slot with a time other than the old one. -/
def findInterval (oldTime : UInt32) : List (FixedSequenceSlot ω) → Option UInt32
  | [] => none
  | slot :: slots =>
      if oldTime ≠ slot.pollingTimeMs then
        some (slot.pollingTimeMs - oldTime)
      else
        findInterval oldTime slots

def getIntervalToNextSlotMs (sequence : FixedSlotSequence ω) : Option UInt32 := do
  let slot ← sequence.slotList[sequence.current]?
  let oldTime := slot.pollingTimeMs
  match findInterval oldTime (sequence.slotList.drop (sequence.current + 1)) with
  | some interval => return interval
  | none => do
      let first ← sequence.slotList.head?
      return sequence.lengthMs - oldTime + first.pollingTimeMs

def getIntervalToPreviousSlotMs (sequence : FixedSlotSequence ω) : Option UInt32 := do
  let slot ← sequence.slotList[sequence.current]?
  let currentTime := slot.pollingTimeMs
  if sequence.current = 0 then do
    let last ← sequence.slotList.getLast?
    return sequence.lengthMs - last.pollingTimeMs + currentTime
  else do
    let previous ← sequence.slotList[sequence.current - 1]?
    return currentTime - previous.pollingTimeMs

def slotFollowsImmediately (sequence : FixedSlotSequence ω) : Option Bool := do
  let slot ← sequence.slotList[sequence.current]?
  let currentTime := slot.pollingTimeMs
  if sequence.current = 0 then
    return false
  else do
    let previous ← sequence.slotList[sequence.current - 1]?
    return previous.pollingTimeMs = currentTime

/-- Afterwards the first slot is the current one. -/
def addSlot (sequence : FixedSlotSequence ω) (componentId slotTimeMs : UInt32)
    (executionStep : Int8) (executableObject : Option ω) : FixedSlotSequence ω where
  slotList :=
    (FixedSequenceSlot.new componentId slotTimeMs executionStep executableObject).insert
      sequence.slotList
  sorted := sequence.sorted.insert _
  current := 0
  lengthMs := sequence.lengthMs

/-- The number of slots that cannot be executed or come too early. -/
def countErrors : UInt32 → List (FixedSequenceSlot ω) → ℕ
  | _, [] => 0
  | time, slot :: slots =>
      (if slot.executableObject.isNone ∨ slot.pollingTimeMs < time then 1 else 0)
        + countErrors slot.pollingTimeMs slots

/-- A custom check only prints something. -/
def checkSequence (sequence : FixedSlotSequence ω) : ReturnValue :=
  if sequence.slotList.isEmpty then
    FixedTimeslotTaskIF.slotListEmpty
  else if 0 < countErrors 0 sequence.slotList then
    .failed
  else
    .ok

theorem countErrors_eq_zero_iff {time : UInt32} {slots : List (FixedSequenceSlot ω)}
    (hsorted : Sorted slots) (htime : ∀ slot ∈ slots, time ≤ slot.pollingTimeMs) :
  countErrors time slots = 0 ↔ ∀ slot ∈ slots, slot.executableObject.isSome
  := by
  induction slots generalizing time with
  | nil =>
      simp [countErrors]
  | cons slot slots ih =>
      obtain ⟨hslot, hslots⟩ := List.pairwise_cons.mp hsorted
      have hnot := UInt32.not_lt.mpr (htime slot List.mem_cons_self)
      rw [countErrors, Nat.add_eq_zero_iff, ih hslots hslot, List.forall_mem_cons]
      simp [hnot, Option.isSome_iff_ne_none]

/-- The order of the slots is never wrong. -/
theorem checkSequence_eq_ok_iff (sequence : FixedSlotSequence ω) :
  sequence.checkSequence = .ok
    ↔ sequence.slotList ≠ [] ∧ ∀ slot ∈ sequence.slotList, slot.executableObject.isSome
  := by
  have hzero : countErrors 0 sequence.slotList = 0 ↔ _ :=
    countErrors_eq_zero_iff sequence.sorted fun _ _ => UInt32.zero_le
  rw [← hzero, checkSequence]
  split
  · rename_i hempty
    simp [List.isEmpty_iff.mp hempty]
  · rename_i hne
    split
    · rename_i herrors
      simp [herrors.ne']
    · rename_i hnone
      simp [List.isEmpty_iff.not.mp hne, Nat.eq_zero_of_not_pos hnone]

/-! ### Times over all cycles -/

/-- The sequence after some slots have been executed. -/
def after (sequence : FixedSlotSequence ω) (executed : ℕ) : FixedSlotSequence ω :=
  { sequence with current := executed % sequence.slotList.length }

/-- The polling time of the slot that is executed after others. -/
def time (sequence : FixedSlotSequence ω) (executed : ℕ) : ℕ :=
  match sequence.slotList[executed]? with
  | some slot => slot.pollingTimeMs.toNat
  | none => 0

/-- When a slot is due, from the beginning of the first cycle on. -/
def due (sequence : FixedSlotSequence ω) (executed : ℕ) : ℕ :=
  executed / sequence.slotList.length * sequence.lengthMs.toNat
    + sequence.time (executed % sequence.slotList.length)

/-- There is a slot, and all times are below the length of the period. -/
structure Polls (sequence : FixedSlotSequence ω) : Prop where
  nonempty : sequence.slotList ≠ []
  below : ∀ slot ∈ sequence.slotList, slot.pollingTimeMs < sequence.lengthMs

section Due

variable {sequence : FixedSlotSequence ω}

theorem Polls.length_pos (h : sequence.Polls) :
  0 < sequence.slotList.length
  := List.length_pos_iff.mpr h.nonempty

theorem time_eq {i : ℕ} (hi : i < sequence.slotList.length) :
  sequence.time i = sequence.slotList[i].pollingTimeMs.toNat
  := by
  rw [time, List.getElem?_eq_getElem hi]

theorem time_mono {i j : ℕ} (hij : i ≤ j) (hj : j < sequence.slotList.length) :
  sequence.time i ≤ sequence.time j
  := by
  rw [time_eq hj, time_eq (hij.trans_lt hj)]
  rcases Nat.eq_or_lt_of_le hij with rfl | hlt
  · rfl
  · apply UInt32.le_iff_toNat_le.mp
    apply List.pairwise_iff_getElem.mp sequence.sorted i j (hij.trans_lt hj) hj hlt

theorem due_eq (cycle : ℕ) {i : ℕ} (hi : i < sequence.slotList.length) :
  sequence.due (cycle * sequence.slotList.length + i)
    = cycle * sequence.lengthMs.toNat + sequence.time i
  := by
  have hpos : 0 < sequence.slotList.length := by omega
  rw [due, Nat.add_comm (cycle * _) i, Nat.add_mul_mod_self_right, Nat.mod_eq_of_lt hi,
    Nat.add_mul_div_right _ _ hpos, Nat.div_eq_of_lt hi, Nat.zero_add]

/-- The times of the next cycle. -/
theorem Polls.due_add_length (h : sequence.Polls) (i : ℕ) :
  sequence.due (i + sequence.slotList.length) = sequence.due i + sequence.lengthMs.toNat
  := by
  rw [due, due, Nat.add_mod_right, Nat.add_div_right _ h.length_pos, Nat.succ_mul]
  omega

/-- The next slot comes in the same cycle, or is the first one of the next cycle. -/
theorem Polls.due_succ_cases (h : sequence.Polls) (i : ℕ) :
  (∃ r, r + 1 < sequence.slotList.length ∧ (i + 1) % sequence.slotList.length = r + 1
      ∧ sequence.due i + sequence.time (r + 1) = sequence.due (i + 1) + sequence.time r)
    ∨ ((i + 1) % sequence.slotList.length = 0
      ∧ sequence.due i + (sequence.lengthMs.toNat + sequence.time 0)
        = sequence.due (i + 1) + sequence.time (sequence.slotList.length - 1))
  := by
  have hpos := h.length_pos
  have hr := Nat.mod_lt i hpos
  have hi := Nat.div_add_mod' i sequence.slotList.length
  generalize i / sequence.slotList.length = cycle at hi
  generalize i % sequence.slotList.length = r at hr hi
  subst hi
  rcases Nat.lt_or_ge (r + 1) sequence.slotList.length with hlt | hge
  · left
    use r, hlt
    rw [Nat.add_assoc, due_eq _ hr, due_eq _ hlt, Nat.add_comm (cycle * _) (r + 1),
      Nat.add_mul_mod_self_right, Nat.mod_eq_of_lt hlt]
    omega
  · right
    obtain ⟨n, hn⟩ : ∃ n, sequence.slotList.length = n + 1 := ⟨_, (Nat.succ_pred hpos.ne').symm⟩
    have hlast : r = n := by omega
    have hnext : cycle * sequence.slotList.length + r + 1
        = (cycle + 1) * sequence.slotList.length + 0 := by
      rw [Nat.add_mul, Nat.one_mul]
      omega
    constructor
    · rw [hnext, Nat.add_zero, Nat.mul_mod_left]
    · rw [hnext, due_eq _ hr, due_eq _ hpos, Nat.add_mul, Nat.one_mul, hlast, hn,
        Nat.add_sub_cancel]
      omega

end Due

/-! ### Intervals -/

section Intervals

variable {sequence : FixedSlotSequence ω}

/-- The interval to the previous slot is the difference of the times, also to the slot of the cycle
before. -/
theorem Polls.getIntervalToPreviousSlotMs_after (h : sequence.Polls) (i : ℕ) :
  ∃ interval, (sequence.after (i + 1)).getIntervalToPreviousSlotMs = some interval
    ∧ sequence.due i + interval.toNat = sequence.due (i + 1)
  := by
  have hpos := h.length_pos
  rcases h.due_succ_cases i with ⟨r, hr, hmod, hdue⟩ | ⟨hmod, hdue⟩
  · have hle := time_mono (Nat.le_succ r) hr
    rw [time_eq hr, time_eq (Nat.lt_of_succ_lt hr)] at hle hdue
    refine ⟨sequence.slotList[r + 1].pollingTimeMs - sequence.slotList[r].pollingTimeMs, ?_, ?_⟩
    · simp [getIntervalToPreviousSlotMs, after, hmod, hr, Nat.lt_of_succ_lt hr]
    · rw [UInt32.toNat_sub_of_le _ _ (UInt32.le_iff_toNat_le.mpr hle)]
      omega
  · have hlast : sequence.slotList.length - 1 < sequence.slotList.length := by omega
    have hle := time_mono (Nat.zero_le _) hlast
    have hbelow := h.below _ (List.getElem_mem hlast)
    have hlt := UInt32.lt_iff_toNat_lt.mp hbelow
    have hmax := sequence.lengthMs.toNat_lt
    rw [time_eq hpos, time_eq hlast] at hle hdue
    refine ⟨sequence.lengthMs - sequence.slotList[sequence.slotList.length - 1].pollingTimeMs
      + sequence.slotList[0].pollingTimeMs, ?_, ?_⟩
    · simp [getIntervalToPreviousSlotMs, after, hmod, hpos, List.getLast?_eq_getElem?, hlast]
    · rw [UInt32.toNat_add,
        UInt32.toNat_sub_of_le _ _ (UInt32.le_of_lt hbelow)]
      omega

/-- The intervals to the previous slot, along the slots that are executed. -/
def interval (sequence : FixedSlotSequence ω) (executed : ℕ) : ℕ :=
  match (sequence.after executed).getIntervalToPreviousSlotMs with
  | some interval => interval.toNat
  | none => 0

theorem after_add_length (sequence : FixedSlotSequence ω) (i : ℕ) :
  sequence.after (i + sequence.slotList.length) = sequence.after i
  := by
  rw [after, Nat.add_mod_right]
  rfl

theorem interval_add_length (sequence : FixedSlotSequence ω) (i : ℕ) :
  sequence.interval (i + sequence.slotList.length) = sequence.interval i
  := by
  rw [interval, after_add_length]
  rfl

theorem Polls.due_add_interval (h : sequence.Polls) (i : ℕ) :
  sequence.due i + sequence.interval (i + 1) = sequence.due (i + 1)
  := by
  obtain ⟨interval, heq, hdue⟩ := h.getIntervalToPreviousSlotMs_after i
  rw [FixedSlotSequence.interval, heq]
  apply hdue

theorem Polls.due_add_sum (h : sequence.Polls) (i count : ℕ) :
  sequence.due i + ∑ j ∈ Finset.range count, sequence.interval (i + 1 + j)
    = sequence.due (i + count)
  := by
  induction count with
  | zero =>
      simp
  | succ count ih =>
      rw [Finset.sum_range_succ, ← Nat.add_assoc, ih, Nat.add_right_comm, h.due_add_interval]
      rfl

/-- From any slot on, the intervals of one cycle sum up to the length of the period. -/
theorem Polls.sum_interval (h : sequence.Polls) (i : ℕ) :
  ∑ j ∈ Finset.range sequence.slotList.length, sequence.interval (i + j)
    = sequence.lengthMs.toNat
  := by
  have hpos := h.length_pos
  have hsum := h.due_add_sum (i + sequence.slotList.length - 1) sequence.slotList.length
  rw [h.due_add_length] at hsum
  rw [← Nat.add_left_cancel hsum]
  apply Finset.sum_congr rfl
  intro j _
  rw [← sequence.interval_add_length (i + j)]
  congr 1
  omega

theorem Polls.getIntervalToPreviousSlotMs_isSome (h : sequence.Polls) (i : ℕ) :
  (sequence.after i).getIntervalToPreviousSlotMs.isSome
  := by
  have hpos := h.length_pos
  obtain ⟨interval, heq, -⟩ := h.getIntervalToPreviousSlotMs_after
    (i + sequence.slotList.length - 1)
  rw [← sequence.after_add_length, ← Nat.sub_add_cancel (Nat.le_add_left_of_le hpos), heq]
  rfl

/-- The number of slots up to the next one with a different time, or to the first one of the next
cycle. -/
def slotsToNext (sequence : FixedSlotSequence ω) (executed : ℕ) : ℕ :=
  let position := executed % sequence.slotList.length
  (sequence.slotList.drop (position + 1)).findIdx
    (fun slot => slot.pollingTimeMs.toNat ≠ sequence.time position) + 1

theorem findInterval_eq (oldTime : UInt32) (slots : List (FixedSequenceSlot ω)) :
  findInterval oldTime slots
    = (slots[slots.findIdx fun slot => slot.pollingTimeMs.toNat ≠ oldTime.toNat]?).map
        (·.pollingTimeMs - oldTime)
  := by
  induction slots with
  | nil =>
      rfl
  | cons slot slots ih =>
      rw [findInterval, List.findIdx_cons]
      by_cases heq : oldTime = slot.pollingTimeMs
      · rw [if_neg (not_not.mpr heq), ih]
        simp [heq]
      · have hne : slot.pollingTimeMs.toNat ≠ oldTime.toNat := by
          intro hnat
          apply heq (UInt32.toNat_inj.mp hnat.symm)
        simp [heq, hne]

/-- The interval to the next slot is the difference of the times, too. -/
theorem Polls.getIntervalToNextSlotMs_after (h : sequence.Polls) (i : ℕ) :
  ∃ interval, (sequence.after i).getIntervalToNextSlotMs = some interval
    ∧ sequence.due i + interval.toNat = sequence.due (i + sequence.slotsToNext i)
  := by
  have hpos := h.length_pos
  have hr := Nat.mod_lt i hpos
  have hi := Nat.div_add_mod' i sequence.slotList.length
  simp only [getIntervalToNextSlotMs, after, slotsToNext]
  generalize i / sequence.slotList.length = cycle at hi
  generalize i % sequence.slotList.length = r at hr hi
  subst hi
  rw [List.getElem?_eq_getElem hr, due_eq _ hr, time_eq hr]
  simp only [Option.bind_eq_bind, Option.bind_some, findInterval_eq]
  have hle : (sequence.slotList.drop (r + 1)).findIdx
      (fun slot => slot.pollingTimeMs.toNat ≠ sequence.slotList[r].pollingTimeMs.toNat) ≤ _ :=
    List.findIdx_le_length
  generalize (sequence.slotList.drop (r + 1)).findIdx
    (fun slot => slot.pollingTimeMs.toNat ≠ sequence.slotList[r].pollingTimeMs.toNat) = index
    at hle ⊢
  rw [List.length_drop] at hle
  rw [List.getElem?_drop]
  rcases Nat.lt_or_ge (r + 1 + index) sequence.slotList.length with hlt | hge
  · -- The slot that is found belongs to the same cycle.
    have hmono := time_mono (by omega) hlt (i := r)
    rw [time_eq hr, time_eq hlt] at hmono
    have hnext : cycle * sequence.slotList.length + r + (index + 1)
        = cycle * sequence.slotList.length + (r + 1 + index) := by omega
    rw [List.getElem?_eq_getElem hlt, hnext, due_eq _ hlt, time_eq hlt]
    refine ⟨_, rfl, ?_⟩
    rw [UInt32.toNat_sub_of_le _ _ (UInt32.le_iff_toNat_le.mpr hmono)]
    omega
  · have hnext : cycle * sequence.slotList.length + r + (index + 1)
        = (cycle + 1) * sequence.slotList.length + 0 := by
      rw [Nat.add_mul, Nat.one_mul]
      omega
    have hbelow := h.below _ (List.getElem_mem hr)
    have hlt := UInt32.lt_iff_toNat_lt.mp hbelow
    have hmono := time_mono (Nat.zero_le r) hr
    have hmax := sequence.lengthMs.toNat_lt
    rw [time_eq hpos, time_eq hr] at hmono
    rw [List.getElem?_eq_none hge, hnext, due_eq _ hpos, time_eq hpos, List.head?_eq_getElem?,
      List.getElem?_eq_getElem hpos]
    refine ⟨_, rfl, ?_⟩
    rw [UInt32.toNat_add, UInt32.toNat_sub_of_le _ _ (UInt32.le_of_lt hbelow), Nat.add_mul,
      Nat.one_mul]
    omega

end Intervals

/-! ### Executing slots -/

section Executing

variable {sequence : FixedSlotSequence ω}

theorem add_one_mod {size : ℕ} (hpos : 0 < size) (i : ℕ) :
  (i + 1) % size = if i % size + 1 = size then 0 else i % size + 1
  := by
  have hlt := Nat.mod_lt i hpos
  rw [← Nat.mod_add_mod]
  split
  · rename_i heq
    rw [heq, Nat.mod_self]
  · rw [Nat.mod_eq_of_lt (by omega)]

/-- One step executes the current slot and goes on to the next one. -/
theorem Polls.executeAndAdvance_after (h : sequence.Polls)
    (hobjects : ∀ slot ∈ sequence.slotList, slot.executableObject.isSome) (i : ℕ) :
  ∃ o, executeAndAdvance (sequence.after i) () = some (sequence.after (i + 1), o)
    ∧ sequence.slotList[i % sequence.slotList.length]?.bind operation = some o
  := by
  have hpos := h.length_pos
  have hr := Nat.mod_lt i hpos
  obtain ⟨object, hobject⟩ := Option.isSome_iff_exists.mp
    (hobjects _ (List.getElem_mem hr))
  refine ⟨(object, sequence.slotList[i % sequence.slotList.length].opcode), ?_, ?_⟩
  · simp only [executeAndAdvance, after, List.getElem?_eq_getElem hr, Option.bind_eq_bind,
      Option.bind_some, hobject, add_one_mod hpos]
    rfl
  · rw [List.getElem?_eq_getElem hr, Option.bind_some, operation, hobject]
    rfl

/-- The slots are executed in turn. -/
theorem Polls.run_executeAndAdvance (h : sequence.Polls)
    (hobjects : ∀ slot ∈ sequence.slotList, slot.executableObject.isSome) (i calls : ℕ) :
  ∃ os, executeAndAdvance.run (sequence.after i) (List.replicate calls ())
      = some (sequence.after (i + calls), os)
    ∧ os.map some = (List.range calls).map fun j =>
        sequence.slotList[(i + j) % sequence.slotList.length]?.bind operation
  := by
  induction calls generalizing i with
  | zero =>
      use [], rfl
      rfl
  | succ calls ih =>
      obtain ⟨o, hstep, ho⟩ := h.executeAndAdvance_after hobjects i
      obtain ⟨os, hrun, hos⟩ := ih (i + 1)
      rw [Nat.add_right_comm] at hrun
      use o :: os, Step.run_cons hstep hrun
      rw [List.map_cons, hos, List.range_succ_eq_map, List.map_cons, List.map_map]
      congr 1
      · apply ho.symm
      · apply List.map_congr_left
        intro j _
        rw [Function.comp_apply, Nat.succ_eq_add_one, Nat.add_assoc, Nat.add_comm 1 j]

end Executing

/-! ### Sequences of slots that have been added -/

/-- The arguments with which a slot is added. -/
structure SlotArguments (ω : Type) where
  componentId : UInt32
  slotTimeMs : UInt32
  executionStep : Int8
  executableObject : Option ω
  deriving DecidableEq, Repr

def SlotArguments.slot (call : SlotArguments ω) : FixedSequenceSlot ω :=
  FixedSequenceSlot.new call.componentId call.slotTimeMs call.executionStep call.executableObject

/-- Add one slot after another. -/
def addSlots (sequence : FixedSlotSequence ω) (calls : List (SlotArguments ω)) :
    FixedSlotSequence ω :=
  calls.foldl (fun sequence call => sequence.addSlot call.componentId call.slotTimeMs
    call.executionStep call.executableObject) sequence

@[simp]
theorem slotList_addSlot (sequence : FixedSlotSequence ω) (call : SlotArguments ω) :
  (sequence.addSlot call.componentId call.slotTimeMs call.executionStep
    call.executableObject).slotList = call.slot.insert sequence.slotList
  := rfl

theorem lengthMs_addSlots (sequence : FixedSlotSequence ω) (calls : List (SlotArguments ω)) :
  (sequence.addSlots calls).lengthMs = sequence.lengthMs
  := by
  induction calls generalizing sequence with
  | nil => rfl
  | cons call calls ih => apply ih

theorem current_addSlots (sequence : FixedSlotSequence ω) (hcurrent : sequence.current = 0)
    (calls : List (SlotArguments ω)) :
  (sequence.addSlots calls).current = 0
  := by
  induction calls generalizing sequence with
  | nil => apply hcurrent
  | cons call calls ih => apply ih _ rfl

theorem perm_addSlots (sequence : FixedSlotSequence ω) (calls : List (SlotArguments ω)) :
  (sequence.addSlots calls).slotList.Perm (sequence.slotList ++ calls.map (·.slot))
  := by
  induction calls generalizing sequence with
  | nil =>
      simp [addSlots]
  | cons call calls ih =>
      apply (ih _).trans
      rw [slotList_addSlot, List.map_cons]
      apply ((List.perm_orderedInsert _ _ _).append_right _).trans
      apply List.perm_middle.symm

/-- Slots with the same time stand in the order in which they were added. -/
theorem withTime_addSlots (sequence : FixedSlotSequence ω) (calls : List (SlotArguments ω))
    (timeMs : UInt32) :
  withTime timeMs (sequence.addSlots calls).slotList
    = withTime timeMs sequence.slotList ++ withTime timeMs (calls.map (·.slot))
  := by
  induction calls generalizing sequence with
  | nil =>
      simp [addSlots, withTime]
  | cons call calls ih =>
      have hcons : withTime timeMs ((call :: calls).map (·.slot))
          = withTime timeMs [call.slot] ++ withTime timeMs (calls.map (·.slot)) :=
        List.filter_append [call.slot] _
      rw [hcons, ← List.append_assoc, ← withTime_insert sequence.sorted]
      apply ih

/-- The slots are those that were added, in the order of their times and of their addition.  They
are executed in turn, each once in a cycle.  The intervals to the previous slot sum up to the length
of the period, and those up to the next slot to the interval to the next slot. -/
structure Tiles (sequence : FixedSlotSequence ω) (added : List (FixedSequenceSlot ω)) : Prop where
  perm : sequence.slotList.Perm added
  sorted : Sorted sequence.slotList
  stable (timeMs : UInt32) : withTime timeMs sequence.slotList = withTime timeMs added
  executes (hobjects : ∀ slot ∈ added, slot.executableObject.isSome) (calls : ℕ) :
    ∃ os, executeAndAdvance.run sequence (List.replicate calls ()) = some (sequence.after calls, os)
      ∧ os.map some = (List.range calls).map fun i =>
          sequence.slotList[i % sequence.slotList.length]?.bind operation
  once (cycle : ℕ) :
    (List.range sequence.slotList.length).map (fun i =>
        sequence.slotList[(cycle * sequence.slotList.length + i) % sequence.slotList.length]?)
      = sequence.slotList.map some
  defined (calls : ℕ) : (sequence.after calls).getIntervalToPreviousSlotMs.isSome
  period (calls : ℕ) :
    ∑ i ∈ Finset.range sequence.slotList.length, sequence.interval (calls + i)
      = sequence.lengthMs.toNat
  follows (calls : ℕ) :
    (sequence.after calls).slotFollowsImmediately
      = some (decide (calls % sequence.slotList.length ≠ 0
        ∧ sequence.time (calls % sequence.slotList.length - 1)
          = sequence.time (calls % sequence.slotList.length)))
  next (calls : ℕ) :
    ∃ interval, (sequence.after calls).getIntervalToNextSlotMs = some interval
      ∧ interval.toNat
        = ∑ i ∈ Finset.range (sequence.slotsToNext calls), sequence.interval (calls + 1 + i)

theorem slotFollowsImmediately_after (sequence : FixedSlotSequence ω) (h : sequence.Polls) (i : ℕ) :
  (sequence.after i).slotFollowsImmediately
    = some (decide (i % sequence.slotList.length ≠ 0
      ∧ sequence.time (i % sequence.slotList.length - 1)
        = sequence.time (i % sequence.slotList.length)))
  := by
  have hr := Nat.mod_lt i h.length_pos
  have hprevious : i % sequence.slotList.length - 1 < sequence.slotList.length := by omega
  rw [time_eq hr, time_eq hprevious]
  by_cases hzero : i % sequence.slotList.length = 0
  · simp [slotFollowsImmediately, after, hzero, h.length_pos]
  · simp [slotFollowsImmediately, after, hzero, hr, hprevious, ← UInt32.toNat_inj]

theorem map_getElem?_range (l : List (FixedSequenceSlot ω)) :
  (List.range l.length).map (fun i => l[i]?) = l.map some
  := by
  apply List.ext_getElem
  · simp
  · intro i hi hi'
    rw [List.length_map] at hi'
    simp [hi']

/-- Slots with times below the length of the period, of which there is one at least, tile the
period. -/
theorem tiles_addSlots (setLengthMs : UInt32) (calls : List (SlotArguments ω)) (hne : calls ≠ [])
    (hbelow : ∀ call ∈ calls, call.slotTimeMs < setLengthMs) :
  ((new setLengthMs).addSlots calls).Tiles (calls.map (·.slot))
  := by
  have hperm := (new setLengthMs).perm_addSlots calls
  have hlength := (new setLengthMs).lengthMs_addSlots calls
  have hcurrent := (new setLengthMs).current_addSlots rfl calls
  have hstable := (new setLengthMs).withTime_addSlots calls
  generalize (new setLengthMs).addSlots calls = sequence at *
  rw [new, List.nil_append] at hperm
  have hpolls : sequence.Polls := by
    constructor
    · intro hnil
      rw [hnil] at hperm
      apply hne (List.map_eq_nil_iff.mp hperm.nil_eq.symm)
    · intro slot hslot
      obtain ⟨call, hcall, rfl⟩ := List.mem_map.mp (hperm.mem_iff.mp hslot)
      rw [hlength]
      apply hbelow call hcall
  have hstart : sequence.after 0 = sequence := by
    rw [after, Nat.zero_mod, ← hcurrent]
  constructor
  · apply hperm
  · apply sequence.sorted
  · apply hstable
  · intro hobjects k
    have hobjects' : ∀ slot ∈ sequence.slotList, slot.executableObject.isSome := by
      intro slot hslot
      apply hobjects slot (hperm.mem_iff.mp hslot)
    have hrun := hpolls.run_executeAndAdvance hobjects' 0 k
    simpa only [hstart, Nat.zero_add] using hrun
  · intro cycle
    rw [← map_getElem?_range]
    apply List.map_congr_left
    intro i hi
    rw [Nat.add_comm, Nat.add_mul_mod_self_right, Nat.mod_eq_of_lt (List.mem_range.mp hi)]
  · apply hpolls.getIntervalToPreviousSlotMs_isSome
  · apply hpolls.sum_interval
  · apply sequence.slotFollowsImmediately_after hpolls
  · intro k
    obtain ⟨interval, heq, hdue⟩ := hpolls.getIntervalToNextSlotMs_after k
    use interval, heq
    apply Nat.add_left_cancel (n := sequence.due k)
    rw [hdue, hpolls.due_add_sum]

theorem tiles_addSlots_three :
  ((new 100).addSlots [⟨1, 40, 0, some 'a'⟩, ⟨2, 10, 1, some 'b'⟩, ⟨1, 40, 2, some 'a'⟩]).Tiles
    [.new 1 40 0 (some 'a'), .new 2 10 1 (some 'b'), .new 1 40 2 (some 'a')]
  := tiles_addSlots 100 _ (by decide) (by decide)

end FixedSlotSequence

namespace FixedTimeslotTaskBase

variable {ω : Type}

def addSlot (pollingSeqTable : FixedSlotSequence ω) (execId : UInt32) (execObj : Option ω)
    (slotTimeMs : UInt32) (executionStep : Int8) : ReturnValue × FixedSlotSequence ω :=
  if execObj.isNone then
    (.failed, pollingSeqTable)
  else
    (.ok, pollingSeqTable.addSlot execId slotTimeMs executionStep execObj)

/-- A task never has slots without an object. -/
theorem isSome_executableObject_addSlot {pollingSeqTable : FixedSlotSequence ω}
    (h : ∀ slot ∈ pollingSeqTable.slotList, slot.executableObject.isSome) (execId : UInt32)
    (execObj : Option ω) (slotTimeMs : UInt32) (executionStep : Int8) :
  ∀ slot ∈ (addSlot pollingSeqTable execId execObj slotTimeMs executionStep).2.slotList,
    slot.executableObject.isSome
  := by
  intro slot hslot
  rw [addSlot] at hslot
  split at hslot
  · apply h slot hslot
  · rename_i hobject
    rcases (List.mem_orderedInsert _).mp hslot with rfl | hslot
    · simpa [FixedSequenceSlot.new, Option.isSome_iff_ne_none] using hobject
    · apply h slot hslot

end FixedTimeslotTaskBase
