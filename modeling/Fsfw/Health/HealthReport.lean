import Fsfw.Health.HealthTable
import Fsfw.Library.Run
import Fsfw.Serialize.BufferLimit

/-!
# Reports about the health of objects

The table prints all its entries into a buffer, and hands them out one after another.

The size of the buffer that it asks for has room for a single health state, so that a report is
complete for at most one object.  The position up to which the entries have been handed out is an
iterator of the table, which removing an object moves to the end, or even leaves at an entry that is
no more.  A traversal during which no object is removed hands out each object that stays registered,
and none twice (`HealthTable.reports_of_undisturbed`).
-/

namespace HealthTable

abbrev HealthEntry := ObjectId × HealthState

/-- An iterator points to an entry, or behind the last one.  It is invalid when its entry has been
erased.
-/
inductive MapIterator where
  | entry (object : ObjectId)
  | theEnd
  | invalid
  deriving DecidableEq, Repr

structure State where
  healthMap : Std.TreeMap ObjectId HealthState
  mapIterator : MapIterator

namespace State

/-- Without entries the first iterator is the last one. -/
def new : State where
  healthMap := ∅
  mapIterator := .theEnd

/-- The health of the objects. -/
def table (s : State) : HealthTable :=
  fun object => s.healthMap[object]?

/-- The first entry whose object has a property. -/
def seek (s : State) (p : ObjectId → Bool) : MapIterator :=
  match s.healthMap.toList.find? fun entry => p entry.1 with
  | some entry => .entry entry.1
  | none => .theEnd

def registerObject (s : State) (object : ObjectId) (initialState : HealthState) :
    ReturnValue × State :=
  if object ∈ s.healthMap then
    (.failed, s)
  else
    (.ok, { s with healthMap := s.healthMap.insert object initialState })

-- The object is looked up with the iterator of the traversals.
def removeObject (s : State) (object : ObjectId) : ReturnValue × State :=
  if object ∈ s.healthMap then
    (.ok, { healthMap := s.healthMap.erase object, mapIterator := .invalid })
  else
    (.failed, { s with mapIterator := .theEnd })

def setHealth (s : State) (object : ObjectId) (newState : HealthState) : State :=
  if object ∈ s.healthMap then
    { s with healthMap := s.healthMap.insert object newState }
  else
    s

/-- Hand out an entry and go on to the next one.  This is undefined for an invalid iterator. -/
def iterate (s : State) (reset : Bool) : Option (ReturnValue × Option HealthEntry × State) :=
  let mapIterator := if reset then s.seek fun _ => true else s.mapIterator
  match mapIterator with
  | .invalid => none
  | .theEnd => some (.failed, none, { s with mapIterator })
  | .entry object => do
      let health ← s.healthMap[object]?
      return (.ok, some (object, health),
        { s with mapIterator := s.seek fun other => decide (object < other) })

/-- The sum has a single health state. -/
def getPrintSize (s : State) : ℕ :=
  (s.healthMap.size * 4 + 1 + 2) % 2 ^ 32

/-- Serialize an object and its health. -/
def serializeEntry (entry : HealthEntry) : Serializer :=
  Serializer.seq (SerializeAdapter.serialize 4 entry.1.toNat)
    (SerializeAdapter.serialize 1 entry.2.toUInt32.toNat)

def printAll (s : State) (maxSize : ℕ) : SerialBuffer :=
  (Serializer.seq (SerializeAdapter.serialize 2 (s.healthMap.size % 2 ^ 16))
    (Serializer.all serializeEntry s.healthMap.toList) maxSize .big ⟨[], 0⟩).2

/-! ### Complete reports -/

/-- The count, and the id and the health of every object. -/
def report (s : State) : List UInt8 :=
  SerializeAdapter.bytesOf 2 s.healthMap.size .big
    ++ s.healthMap.toList.flatMap fun entry =>
      SerializeAdapter.bytesOf 4 entry.1.toNat .big
        ++ SerializeAdapter.bytesOf 1 entry.2.toUInt32.toNat .big

/-- All is printed into a buffer of the size that is asked for. -/
def PrintsAll (s : State) : Prop :=
  s.printAll s.getPrintSize = (⟨[], 0⟩ : SerialBuffer).put s.report

theorem length_report (s : State) :
  s.report.length = 2 + 5 * s.healthMap.size
  := by
  rw [report, List.length_append, SerializeAdapter.length_bytesOf, List.length_flatMap]
  simp [Std.TreeMap.length_toList, Nat.mul_comm]

open Serializer in
theorem printAll_of_le (s : State) {maxSize : ℕ} (hcount : s.healthMap.size < 2 ^ 16)
    (hroom : s.report.length ≤ maxSize) :
  s.printAll maxSize = (⟨[], 0⟩ : SerialBuffer).put s.report
  := by
  have hentry : ∀ entry ∈ s.healthMap.toList, WritesGivenRoom (serializeEntry entry) _ :=
    fun entry _ =>
      (SerializeAdapter.writesGivenRoom_serialize (by decide : 0 < 4) entry.1.toNat).andThen
        (SerializeAdapter.writesGivenRoom_serialize (by decide : 0 < 1) entry.2.toUInt32.toNat)
  have hall := (SerializeAdapter.writesGivenRoom_serialize (by decide : 0 < 2)
    s.healthMap.size).andThen (writesGivenRoom_all hentry)
  have hsize : (⟨[], 0⟩ : SerialBuffer).size + s.report.length ≤ maxSize := by
    rw [Nat.zero_add]
    exact hroom
  have hprint := hall .big hsize
  rw [printAll, Nat.mod_eq_of_lt hcount]
  exact congrArg Prod.snd hprint

open Serializer in
theorem size_printAll_le (s : State) (maxSize : ℕ) :
  (s.printAll maxSize).size ≤ maxSize
  := by
  have hentry : ∀ (entry : HealthEntry) (b : SerialBuffer),
      (serializeEntry entry maxSize .big b).2.size ≤ max b.size maxSize := by
    intro entry b
    have hchecked := (checked_number (by decide : 0 < 4) entry.1.toNat).andThen_always
      (checked_number (by decide : 0 < 1) entry.2.toUInt32.toNat)
    apply (hchecked.respects_iff.mpr trivial).size_le
  have hchecked := checked_number (by decide : 0 < 2) (s.healthMap.size % 2 ^ 16)
  have hcount : (SerializeAdapter.serialize 2 (s.healthMap.size % 2 ^ 16) maxSize .big
      ⟨[], 0⟩).2.size ≤ max 0 maxSize := by
    apply (hchecked.respects_iff.mpr trivial).size_le
  rw [Nat.zero_max] at hcount
  rw [printAll, seq, andThen]
  split
  · apply (size_all_le hentry _ _).trans
    apply max_le hcount le_rfl
  · exact hcount

/-- There is room for the report of one object. -/
theorem printsAll_iff (s : State) :
  s.PrintsAll ↔ s.healthMap.size ≤ 1
  := by
  have hlength := s.length_report
  constructor
  · intro h
    have hle := s.size_printAll_le s.getPrintSize
    have hmod := Nat.mod_le (s.healthMap.size * 4 + 1 + 2) (2 ^ 32)
    rw [show s.printAll s.getPrintSize = _ from h, SerialBuffer.size_put] at hle
    rw [← getPrintSize] at hmod
    omega
  · intro h
    apply s.printAll_of_le (by omega)
    rw [getPrintSize]
    omega

/-! ### Iterators -/

theorem mem_iff_mem_toList {s : State} {object : ObjectId} :
  object ∈ s.healthMap ↔ ∃ health, (object, health) ∈ s.healthMap.toList
  := by
  simp only [Std.TreeMap.mem_toList_iff_getElem?_eq_some, ← Option.isSome_iff_exists,
    Std.TreeMap.mem_iff_isSome_getElem?]

/-- The first entry with a property has the least object, as the entries are in the order of the
objects. -/
theorem seek_cases (s : State) (p : ObjectId → Bool) :
  (∃ object, s.seek p = .entry object ∧ object ∈ s.healthMap ∧ p object
      ∧ ∀ other ∈ s.healthMap, p other → object ≤ other)
    ∨ (s.seek p = .theEnd ∧ ∀ other ∈ s.healthMap, ¬ p other)
  := by
  rw [seek]
  cases hfind : s.healthMap.toList.find? fun entry => p entry.1 with
  | none =>
      right
      use rfl
      intro other hother
      obtain ⟨health, hentry⟩ := mem_iff_mem_toList.mp hother
      apply List.find?_eq_none.mp hfind _ hentry
  | some entry =>
      left
      obtain ⟨hp, before, behind, hlist, hbefore⟩ := List.find?_eq_some_iff_append.mp hfind
      have hsorted := s.healthMap.ordered_keys_toList
      rw [hlist] at hsorted
      obtain ⟨-, hbehind, -⟩ := List.pairwise_append.mp hsorted
      refine ⟨entry.1, rfl, mem_iff_mem_toList.mpr ⟨entry.2, ?_⟩, hp, ?_⟩
      · rw [hlist]
        apply List.mem_append_right _ List.mem_cons_self
      · intro other hother hpother
        obtain ⟨health, hentry⟩ := mem_iff_mem_toList.mp hother
        rw [hlist] at hentry
        rcases List.mem_append.mp hentry with hmem | hmem
        · have hnot := hbefore _ hmem
          simp [hpother] at hnot
        · rcases List.mem_cons.mp hmem with rfl | hmem
          · apply UInt32.le_refl
          · have hlt := (List.pairwise_cons.mp hbehind).1 _ hmem
            apply UInt32.le_of_lt (Std.compare_eq_lt.mp hlt)

end State

/-! ### Traversals -/

inductive Call where
  | registerObject (object : ObjectId) (initialState : HealthState)
  | removeObject (object : ObjectId)
  | setHealth (object : ObjectId) (newState : HealthState)
  | iterate (reset : Bool)
  deriving DecidableEq, Repr

/-- What a call gives back. -/
inductive Answer where
  | returned (result : ReturnValue)
  | done
  | iterated (result : ReturnValue) (value : Option HealthEntry)
  deriving DecidableEq, Repr

def step : Step State Call Answer
  | s, .registerObject object initialState =>
      let (result, s') := s.registerObject object initialState
      some (s', .returned result)
  | s, .removeObject object =>
      let (result, s') := s.removeObject object
      some (s', .returned result)
  | s, .setHealth object newState => some (s.setHealth object newState, .done)
  | s, .iterate reset => do
      let (result, value, s') ← s.iterate reset
      return (s', .iterated result value)

/-- The object that an answer hands out. -/
def Answer.object : Answer → Option ObjectId
  | iterated _ (some entry) => some entry.1
  | _ => none

/-- The objects that have been handed out. -/
def yielded (answers : List Answer) : List ObjectId :=
  answers.filterMap Answer.object

/-- An entry that is handed out is one of the table. -/
def HandsOut (s : State) (call : Call) : Prop :=
  ∀ s' result entry, step s call = some (s', .iterated result (some entry)) →
    s.table entry.1 = some entry.2

/-- A traversal that begins in a state hands out entries of the table, none of them twice, and when
it has come to the end it has handed out all objects that have been registered from its beginning
on. -/
def Traverses (s : State) (calls : List Call) : Prop :=
  ∃ s' answers, Step.run step s (.iterate true :: calls) = some (s', answers)
    ∧ Step.Along step HandsOut s (.iterate true :: calls)
    ∧ (yielded answers).Nodup
    ∧ (.iterated .failed none ∈ answers →
      ∀ object ∈ s.healthMap, .removeObject object ∉ calls → object ∈ yielded answers)

/-- A removal is harmless when all has been handed out and there is nothing to remove. -/
def Undisturbing (s : State) (call : Call) : Prop :=
  ∀ object, call = .removeObject object → s.mapIterator = .theEnd ∧ object ∉ s.healthMap

/-! ### Undisturbed traversals -/

theorem handsOut (s : State) (call : Call) :
  HandsOut s call
  := by
  intro s' result entry h
  cases call with
  | registerObject object initialState => simp [step] at h
  | removeObject object => simp [step] at h
  | setHealth object newState => simp [step] at h
  | iterate reset =>
      simp only [step, State.iterate] at h
      split at h
      · cases h
      · cases h
      · rename_i object _
        cases hhealth : s.healthMap[object]? with
        | none => simp [hhealth] at h
        | some health =>
            simp only [hhealth, Option.bind_eq_bind, Option.bind_some] at h
            cases h
            exact hhealth

/-- In the middle of a traversal: the objects in front of the iterator have been handed out, each
once, and those that were there at the beginning are among them or still to come. -/
structure Midway (start : State) (handedOut : List ObjectId) (s : State) : Prop where
  ascending : handedOut.Pairwise (· < ·)
  kept : ∀ object ∈ start.healthMap, object ∈ s.healthMap
  position :
    (∃ object, s.mapIterator = .entry object ∧ object ∈ s.healthMap
        ∧ (∀ other ∈ handedOut, other < object)
        ∧ ∀ other ∈ start.healthMap, other ∈ handedOut ∨ object ≤ other)
      ∨ (s.mapIterator = .theEnd ∧ ∀ other ∈ start.healthMap, other ∈ handedOut)

/-- The traversal goes on to the first of the objects that are left. -/
theorem Midway.seek {start : State} {handedOut : List ObjectId} {s s' : State}
    (hascending : handedOut.Pairwise (· < ·))
    (hkept : ∀ object ∈ start.healthMap, object ∈ s.healthMap) {p : ObjectId → Bool}
    (hfront : ∀ object, p object → ∀ other ∈ handedOut, other < object)
    (hrest : ∀ object ∈ start.healthMap, object ∈ handedOut ∨ p object)
    (hmap : s'.healthMap = s.healthMap) (hiterator : s'.mapIterator = s.seek p) :
  Midway start handedOut s'
  := by
  refine ⟨hascending, ?_, ?_⟩
  · rw [hmap]
    exact hkept
  · rw [hmap, hiterator]
    rcases s.seek_cases p with ⟨object, hseek, hmem, hp, hleast⟩ | ⟨hseek, hnone⟩
    · left
      refine ⟨object, hseek, hmem, hfront object hp, ?_⟩
      intro other hother
      apply (hrest other hother).imp_right
      apply hleast other (hkept other hother)
    · right
      refine ⟨hseek, ?_⟩
      intro other hother
      rcases hrest other hother with hmem | hp
      · exact hmem
      · cases hnone other (hkept other hother) hp

/-- Other entries may come, and entries may change. -/
theorem Midway.grow {start : State} {handedOut : List ObjectId} {s s' : State}
    (h : Midway start handedOut s) (hmap : ∀ object ∈ s.healthMap, object ∈ s'.healthMap)
    (hiterator : s'.mapIterator = s.mapIterator) :
  Midway start handedOut s'
  := by
  refine ⟨h.ascending, fun object hobject => hmap object (h.kept object hobject), ?_⟩
  rw [hiterator]
  rcases h.position with ⟨object, heq, hmem, hrest⟩ | hend
  · left
    use object, heq, hmap object hmem
  · right
    exact hend

/-- Calls that do not iterate hand out nothing.  They leave the iterator and the objects where they
are. -/
theorem step_of_not_iterate {s : State} {call : Call} (h : Undisturbing s call)
    (hcall : ∀ reset, call ≠ .iterate reset) :
  ∃ s' answer, step s call = some (s', answer) ∧ answer.object = none
    ∧ answer ≠ .iterated .failed none ∧ (∀ object ∈ s.healthMap, object ∈ s'.healthMap)
    ∧ s'.mapIterator = s.mapIterator
  := by
  cases call with
  | registerObject object initialState =>
      simp only [step, State.registerObject]
      split
      · refine ⟨_, _, rfl, rfl, by simp, fun _ hobject => hobject, rfl⟩
      · refine ⟨_, _, rfl, rfl, by simp, ?_, rfl⟩
        intro other hother
        apply Std.TreeMap.mem_insert.mpr (Or.inr hother)
  | removeObject object =>
      obtain ⟨hend, hnone⟩ := h object rfl
      simp only [step, State.removeObject, if_neg hnone]
      refine ⟨_, _, rfl, rfl, by simp, fun _ hobject => hobject, hend.symm⟩
  | setHealth object newState =>
      simp only [step, State.setHealth]
      split
      · refine ⟨_, _, rfl, rfl, by simp, ?_, rfl⟩
        intro other hother
        apply Std.TreeMap.mem_insert.mpr (Or.inr hother)
      · refine ⟨_, _, rfl, rfl, by simp, fun _ hobject => hobject, rfl⟩
  | iterate reset =>
      cases hcall reset rfl

/-- The entry at the iterator is handed out, and the traversal goes on behind it. -/
theorem Midway.iterate {start : State} {handedOut : List ObjectId} {s : State}
    (h : Midway start handedOut s) :
  ∃ s' answer, step s (.iterate false) = some (s', answer)
    ∧ Midway start (handedOut ++ answer.object.toList) s'
    ∧ (s.mapIterator = .theEnd ∨ answer = .iterated .failed none → s'.mapIterator = .theEnd)
  := by
  rcases h.position with ⟨object, heq, hmem, hfront, hrest⟩ | ⟨heq, hall⟩
  · obtain ⟨health, hhealth⟩ := Option.isSome_iff_exists.mp
      (Std.TreeMap.mem_iff_isSome_getElem?.mp hmem)
    have hiterate : s.iterate false = some (.ok, some (object, health),
        { s with mapIterator := s.seek fun other => decide (object < other) }) := by
      simp [State.iterate, heq, hhealth]
    refine ⟨_, .iterated .ok (some (object, health)), by rw [step, hiterate]; rfl, ?_, ?_⟩
    · change Midway start (handedOut ++ [object]) _
      refine Midway.seek (s := s) ?_ h.kept (p := fun other => decide (object < other)) ?_ ?_
        rfl rfl
      · rw [List.pairwise_append]
        refine ⟨h.ascending, List.pairwise_singleton _ _, ?_⟩
        intro other hother _ hobject
        rw [List.mem_singleton.mp hobject]
        apply hfront other hother
      · intro next hnext other hother
        have hlt := of_decide_eq_true hnext
        rcases List.mem_append.mp hother with hother | hother
        · apply UInt32.lt_trans (hfront other hother) hlt
        · rw [List.mem_singleton.mp hother]
          exact hlt
      · intro other hother
        rcases hrest other hother with hmem | hle
        · left
          apply List.mem_append_left _ hmem
        · rcases UInt32.le_iff_lt_or_eq.mp hle with hlt | rfl
          · right
            apply decide_eq_true hlt
          · left
            apply List.mem_append_right _ (List.mem_singleton_self _)
    · rintro (hend | hfailed)
      · cases heq.symm.trans hend
      · cases hfailed
  · have hsame : { s with mapIterator := .theEnd } = s := by rw [← heq]
    have hiterate : s.iterate false = some (.failed, none, s) := by
      simp [State.iterate, heq, hsame]
    refine ⟨s, .iterated .failed none, by rw [step, hiterate]; rfl, ?_, fun _ => heq⟩
    simpa [Answer.object] using h

/-- One call in the middle of a traversal.  The end is reported at the end only. -/
theorem Midway.step {start : State} {handedOut : List ObjectId} {s : State}
    (h : Midway start handedOut s) {call : Call} (hundisturbing : Undisturbing s call)
    (hcall : call ≠ .iterate true) :
  ∃ s' answer, HealthTable.step s call = some (s', answer)
    ∧ Midway start (handedOut ++ answer.object.toList) s'
    ∧ (s.mapIterator = .theEnd ∨ answer = .iterated .failed none → s'.mapIterator = .theEnd)
  := by
  by_cases hiterate : call = .iterate false
  · rw [hiterate]
    exact h.iterate
  · have hother : ∀ reset, call ≠ .iterate reset := by
      rintro (_ | _)
      · exact hiterate
      · exact hcall
    obtain ⟨s', answer, hstep, hnone, hne, hmap, hsame⟩ := step_of_not_iterate hundisturbing hother
    refine ⟨s', answer, hstep, ?_, ?_⟩
    · rw [hnone]
      simpa using h.grow hmap hsame
    · rintro (hend | hfailed)
      · rw [hsame, hend]
      · cases hne hfailed

theorem yielded_cons (answer : Answer) (answers : List Answer) :
  yielded (answer :: answers) = answer.object.toList ++ yielded answers
  := by
  rw [yielded, List.filterMap_cons]
  cases answer.object with
  | none => rfl
  | some object => rfl

/-- The calls of a traversal after its first one. -/
theorem Midway.run {start : State} {handedOut : List ObjectId} {s : State}
    (h : Midway start handedOut s) {calls : List Call}
    (hundisturbing : Step.Along HealthTable.step Undisturbing s calls)
    (hcalls : ∀ call ∈ calls, call ≠ .iterate true) :
  ∃ s' answers, Step.run HealthTable.step s calls = some (s', answers)
    ∧ Midway start (handedOut ++ yielded answers) s'
    ∧ (s.mapIterator = .theEnd ∨ .iterated .failed none ∈ answers → s'.mapIterator = .theEnd)
  := by
  induction calls generalizing handedOut s with
  | nil =>
      refine ⟨s, [], rfl, ?_, ?_⟩
      · simpa [yielded] using h
      · simp
  | cons call calls ih =>
      obtain ⟨s₁, answer, hstep, h₁, hend₁⟩ :=
        h.step hundisturbing.1 (hcalls call List.mem_cons_self)
      obtain ⟨s', answers, hrun, h', hend'⟩ := ih h₁ (hundisturbing.2 s₁ answer hstep)
        fun call hcall => hcalls call (List.mem_cons_of_mem _ hcall)
      refine ⟨s', answer :: answers, Step.run_cons hstep hrun, ?_, ?_⟩
      · rw [yielded_cons, ← List.append_assoc]
        exact h'
      · rintro (hend | hfailed)
        · apply hend' (Or.inl (hend₁ (Or.inl hend)))
        · rcases List.mem_cons.mp hfailed with hfailed | hfailed
          · apply hend' (Or.inl (hend₁ (Or.inr hfailed.symm)))
          · apply hend' (Or.inr hfailed)

/-- Resetting the iterator does not change what the table has. -/
theorem iterate_true (s : State) :
  step s (.iterate true) = step { s with mapIterator := s.seek fun _ => true } (.iterate false)
  := rfl

/-- Without removals a traversal is undisturbed. -/
theorem along_undisturbing {calls : List Call}
    (h : ∀ call ∈ calls, ∀ object, call ≠ .removeObject object) (s : State) :
  Step.Along step Undisturbing s calls
  := by
  apply Step.along_mono _ (Step.along_of_forall h s)
  rintro s call hcall object rfl
  cases hcall object rfl

/-- Reports are complete for at most one object.  A traversal is complete, from any state on, when
no removal disturbs it. -/
theorem reports_of_undisturbed (s : State) :
  (s.PrintsAll ↔ s.healthMap.size ≤ 1)
    ∧ ∀ calls : List Call, (∀ call ∈ calls, call ≠ .iterate true) →
      Step.Along step Undisturbing s (.iterate true :: calls) → Traverses s calls
  := by
  constructor
  · apply s.printsAll_iff
  · intro calls hcalls hundisturbing
    have hstart : Midway s [] { s with mapIterator := s.seek fun _ => true } := by
      refine Midway.seek (s := s) List.Pairwise.nil (fun _ h => h) (p := fun _ => true) ?_ ?_
        rfl rfl
      · simp
      · simp
    obtain ⟨s₁, answer, hstep, h₁, hend₁⟩ := hstart.iterate
    rw [← iterate_true] at hstep
    obtain ⟨s', answers, hrun, h', hend'⟩ := h₁.run (hundisturbing.2 s₁ answer hstep) hcalls
    rw [List.append_assoc, List.nil_append, ← yielded_cons] at h'
    refine ⟨s', answer :: answers, Step.run_cons hstep hrun, ?_, ?_, ?_⟩
    · apply Step.along_mono (P := fun _ _ => True)
      · intro s call _
        apply handsOut
      · apply Step.along_of_forall
        intro _ _
        trivial
    · apply h'.ascending.imp
      intro object other hlt
      apply UInt32.ne_of_lt hlt
    · intro hfailed object hobject _
      have hend : s'.mapIterator = .theEnd := by
        rcases List.mem_cons.mp hfailed with hfailed | hfailed
        · apply hend' (Or.inl (hend₁ (Or.inr hfailed.symm)))
        · apply hend' (Or.inr hfailed)
      rcases h'.position with ⟨_, heq, -⟩ | ⟨-, hall⟩
      · cases heq.symm.trans hend
      · apply hall object hobject

/-! ### A table of two objects -/

def two : State where
  healthMap := ((∅ : Std.TreeMap ObjectId HealthState).insert 1 .healthy).insert 2 .faulty
  mapIterator := .theEnd

theorem reports_of_undisturbed_two :
  Traverses two [.setHealth 2 .healthy, .iterate false, .registerObject 3 .healthy, .iterate false]
  := (reports_of_undisturbed two).2 _ (by decide) (by
    apply along_undisturbing
    simp)

theorem run_two :
  Step.run step .new [.registerObject 1 .healthy, .registerObject 2 .faulty]
    = some (two, [.returned .ok, .returned .ok])
  := by
  simp [Step.run, step, State.registerObject, State.new, two]

theorem seek_two :
  two.seek (fun _ => true) = .entry 1
  := by decide +kernel

/-- There is no room for the second health state, and removing an object that is not registered ends
the traversal in front of the second object. -/
theorem not_reports_two :
  ∃ before s answers calls, Step.run step .new before = some (s, answers) ∧ ¬ s.PrintsAll
    ∧ (∀ call ∈ calls, call ≠ .iterate true) ∧ ¬ Traverses s calls
  := by
  refine ⟨_, two, _, [.removeObject 3, .iterate false], run_two, ?_, by decide, ?_⟩
  · rw [State.printsAll_iff]
    decide +kernel
  · rintro ⟨s', answers, hrun, -, -, hall⟩
    have hfirst : two.healthMap[(1 : ObjectId)]? = some .healthy := by decide +kernel
    have hthird : (3 : ObjectId) ∉ two.healthMap := by simp [two]
    have hrun' : Step.run step two [.iterate true, .removeObject 3, .iterate false]
        = some (two, [.iterated .ok (some (1, .healthy)), .returned .failed,
          .iterated .failed none]) := by
      simp [Step.run, step, State.iterate, State.removeObject, seek_two, hfirst, hthird]
      rfl
    cases hrun.symm.trans hrun'
    have hmem := hall (by simp) 2 (by simp [two]) (by simp)
    revert hmem
    decide

end HealthTable
