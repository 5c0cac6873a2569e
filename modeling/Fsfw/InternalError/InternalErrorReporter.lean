import Fsfw.DataPool.PoolDataSetBase

/-!
# Counting internal errors

Errors of three kinds are reported at any time, and counted.  An operation takes the counters, one
after another, and adds what it has taken to the values of a data set, which it reads before and
commits afterwards, also when it could not be read.

Along a run no error is lost exactly when, in every operation that has taken errors of a kind, the
data set is read and the variable of the kind is committed without failures
(`InternalErrorReporter.conserves_iff_along`).
-/

inductive ErrorKind where
  | tm
  | queue
  | store
  deriving DecidableEq, Repr

/-- The ids in the pool.  The variables are registered in the order of their ids. -/
def ErrorKind.poolId : ErrorKind → ℕ
  | .tm => 0
  | .queue => 1
  | .store => 2

/-- The values of the data set, and what is in the pool. -/
structure InternalErrorDataset where
  value : ErrorKind → UInt32
  pool : ErrorKind → UInt32
  changed : Bool := false

namespace InternalErrorDataset

/-- The set of the variables, which is to be read. -/
def unreadSet : PoolDataSetBase where
  hasContainer := true
  maxFillCount := 12
  registeredVariables :=
    [ErrorKind.tm, .queue, .store].map fun kind => ⟨.readWrite, .ofNat kind.poolId⟩

/-- The set that is to be committed. -/
def readSet : PoolDataSetBase := { unreadSet with state := .setWasRead }

/-- The variable of a kind is read or committed. -/
def succeeds (answer : PoolDataSetBase.Answer) (kind : ErrorKind) : Prop :=
  ∃ o ∈ answer.operations, o.count = kind.poolId ∧ o.result = .ok
  deriving Decidable

def read (d : InternalErrorDataset) (outcome : ℕ → ReturnValue) :
    ReturnValue × InternalErrorDataset :=
  let (_, answer) := unreadSet.read outcome
  (answer.result,
    { d with value := fun kind => if succeeds answer kind then d.pool kind else d.value kind })

def commit (d : InternalErrorDataset) (outcome : ℕ → ReturnValue) : InternalErrorDataset :=
  let (_, answer) := readSet.commit outcome
  { d with pool := fun kind => if succeeds answer kind then d.value kind else d.pool kind }

/-- After a read the set is to be committed, also when the read has failed. -/
theorem read_unreadSet (outcome : ℕ → ReturnValue) :
  (unreadSet.read outcome).1 = readSet
  := rfl

theorem commit_readSet (outcome : ℕ → ReturnValue) :
  (readSet.commit outcome).1 = unreadSet
  := rfl

/-- One operation on each of the variables. -/
def operations (outcome : ℕ → ReturnValue) : List PoolDataSetBase.SingleOperation :=
  [ErrorKind.tm, .queue, .store].map fun kind => ⟨kind.poolId, false, outcome kind.poolId⟩

theorem operations_read (outcome : ℕ → ReturnValue) :
  (unreadSet.read outcome).2.operations = operations outcome
  := rfl

theorem operations_commit (outcome : ℕ → ReturnValue) :
  (readSet.commit outcome).2.operations = operations outcome
  := rfl

theorem mem_operations (outcome : ℕ → ReturnValue) (kind : ErrorKind) :
  ⟨kind.poolId, false, outcome kind.poolId⟩ ∈ operations outcome
  := by
  apply List.mem_map_of_mem
  cases kind with
  | _ => decide

theorem succeeds_iff {answer : PoolDataSetBase.Answer} {outcome : ℕ → ReturnValue}
    (h : answer.operations = operations outcome) (kind : ErrorKind) :
  succeeds answer kind ↔ outcome kind.poolId = .ok
  := by
  rw [succeeds, h]
  constructor
  · rintro ⟨o, ho, hcount, hresult⟩
    obtain ⟨kind', -, rfl⟩ := List.mem_map.mp ho
    rwa [← hcount]
  · intro hok
    exact ⟨_, mem_operations outcome kind, rfl, hok⟩

/-- The set is read when all its variables are. -/
theorem result_read (d : InternalErrorDataset) (outcome : ℕ → ReturnValue) :
  (d.read outcome).1 = .ok ↔ ∀ kind : ErrorKind, outcome kind.poolId = .ok
  := by
  change (unreadSet.read outcome).2.result = .ok ↔ _
  rw [PoolDataSetBase.result_read rfl, operations_read]
  constructor
  · intro h kind
    apply h _ (mem_operations outcome kind)
  · intro h o ho
    obtain ⟨kind, -, rfl⟩ := List.mem_map.mp ho
    apply h

/-- Add errors, and mark the set as changed if there are any. -/
def addHits (d : InternalErrorDataset) (newHits : ErrorKind → UInt32) : InternalErrorDataset :=
  let d := { d with value := fun kind => d.value kind + newHits kind }
  if newHits .queue ≠ 0 ∨ newHits .store ≠ 0 ∨ newHits .tm ≠ 0 then
    { d with changed := true }
  else
    d

/-- What an operation does with the errors that it has taken: the set is read, and committed at the
end of the scope of its read guard. -/
def update (d : InternalErrorDataset) (newHits : ErrorKind → UInt32)
    (readOutcome commitOutcome : ℕ → ReturnValue) : InternalErrorDataset :=
  let (result, d) := d.read readOutcome
  (if result = .ok then d.addHits newHits else d).commit commitOutcome

section

variable (d : InternalErrorDataset) (newHits : ErrorKind → UInt32)
  (readOutcome commitOutcome : ℕ → ReturnValue)

theorem pool_commit (kind : ErrorKind) :
  (d.commit commitOutcome).pool kind
    = if commitOutcome kind.poolId = .ok then d.value kind else d.pool kind
  := by
  apply if_congr (succeeds_iff (operations_commit commitOutcome) kind) rfl rfl

/-- A set whose values are those in the pool still has them when it has been read. -/
theorem value_read (h : d.value = d.pool) :
  (d.read readOutcome).2.value = d.pool
  := by
  funext kind
  change (if _ then d.pool kind else d.value kind) = d.pool kind
  rw [h, ite_self]

theorem value_addHits :
  (d.addHits newHits).value = fun kind => d.value kind + newHits kind
  := by
  rw [addHits]
  split_ifs
  · rfl
  · rfl

theorem pool_addHits :
  (d.addHits newHits).pool = d.pool
  := by
  rw [addHits]
  split_ifs
  · rfl
  · rfl

theorem changed_addHits (h : ∃ kind, newHits kind ≠ 0) :
  (d.addHits newHits).changed = true
  := by
  rw [addHits, if_pos]
  obtain ⟨kind, hkind⟩ := h
  cases kind with
  | tm => exact Or.inr (Or.inr hkind)
  | queue => exact Or.inl hkind
  | store => exact Or.inr (Or.inl hkind)

/-- The values grow by the errors that have been taken when the set is read. -/
theorem value_update (h : d.value = d.pool) (kind : ErrorKind) :
  (d.update newHits readOutcome commitOutcome).value kind
    = if (d.read readOutcome).1 = .ok then d.pool kind + newHits kind else d.pool kind
  := by
  have hvalue := d.value_read readOutcome h
  change ((if (d.read readOutcome).1 = .ok then (d.read readOutcome).2.addHits newHits
    else (d.read readOutcome).2).commit commitOutcome).value kind = _
  split_ifs
  · change ((d.read readOutcome).2.addHits newHits).value kind = _
    rw [value_addHits, hvalue]
  · change (d.read readOutcome).2.value kind = _
    rw [hvalue]

/-- The values are in the pool when they are committed. -/
theorem pool_update (kind : ErrorKind) :
  (d.update newHits readOutcome commitOutcome).pool kind
    = if commitOutcome kind.poolId = .ok then
        (d.update newHits readOutcome commitOutcome).value kind
      else
        d.pool kind
  := by
  rw [update]
  dsimp only
  rw [pool_commit]
  congr 1
  split_ifs
  · rw [pool_addHits]
    rfl
  · rfl

/-- All errors of a kind that have been taken come into the pool exactly when the set is read and
the variable committed, if there are any. -/
theorem pool_update_eq_iff (h : d.value = d.pool) (kind : ErrorKind) :
  (d.update newHits readOutcome commitOutcome).pool kind = d.pool kind + newHits kind
    ↔ (newHits kind ≠ 0 →
      (∀ kind : ErrorKind, readOutcome kind.poolId = .ok) ∧ commitOutcome kind.poolId = .ok)
  := by
  rw [pool_update, value_update d newHits readOutcome commitOutcome h, ← result_read d]
  by_cases hcommit : commitOutcome kind.poolId = .ok
  · by_cases hread : (d.read readOutcome).1 = .ok
    · simp only [hcommit, hread, if_true, and_self, implies_true]
    · simp only [hcommit, hread, if_true, if_false, false_and, imp_false, not_not, left_eq_add]
  · simp only [hcommit, if_false, and_false, imp_false, not_not, left_eq_add]

/-- The values are those in the pool then. -/
theorem value_update_eq_pool (h : d.value = d.pool)
    (hall : ∀ kind, (d.update newHits readOutcome commitOutcome).pool kind
      = d.pool kind + newHits kind) :
  (d.update newHits readOutcome commitOutcome).value
    = (d.update newHits readOutcome commitOutcome).pool
  := by
  funext kind
  have hkind := hall kind
  rw [pool_update] at hkind ⊢
  split_ifs at hkind ⊢
  · rfl
  · rw [value_update d newHits readOutcome commitOutcome h, ← hkind, ite_self]

end

end InternalErrorDataset

/-- How far an operation has come, with the errors that it has taken. -/
inductive OperationStage where
  | idle
  | tookQueueHits (newQueueHits : UInt32)
  | tookTmHits (newQueueHits newTmHits : UInt32)
  | tookStoreHits (newQueueHits newTmHits newStoreHits : UInt32)
  | updated
  deriving DecidableEq, Repr

namespace OperationStage

/-- The errors that have been taken. -/
def newHits : OperationStage → ErrorKind → UInt32
  | .tookQueueHits newQueueHits, .queue => newQueueHits
  | .tookTmHits newQueueHits _, .queue => newQueueHits
  | .tookTmHits _ newTmHits, .tm => newTmHits
  | .tookStoreHits newQueueHits _ _, .queue => newQueueHits
  | .tookStoreHits _ newTmHits _, .tm => newTmHits
  | .tookStoreHits _ _ newStoreHits, .store => newStoreHits
  | _, _ => 0

@[simp]
theorem newHits_idle (kind : ErrorKind) :
  idle.newHits kind = 0
  := by
  cases kind with
  | _ => rfl

@[simp]
theorem newHits_updated (kind : ErrorKind) :
  updated.newHits kind = 0
  := by
  cases kind with
  | _ => rfl

end OperationStage

structure InternalErrorReporter where
  hits : ErrorKind → UInt32
  internalErrorDataset : InternalErrorDataset
  stage : OperationStage := .idle

namespace InternalErrorReporter

/-- A reporter whose data set has initial values. -/
def new (initial : ErrorKind → UInt32) : InternalErrorReporter where
  hits := fun _ => 0
  internalErrorDataset := { value := initial, pool := initial }

def increment (r : InternalErrorReporter) (kind : ErrorKind) : InternalErrorReporter :=
  { r with hits := Function.update r.hits kind (r.hits kind + 1) }

def queueMessageNotSent (r : InternalErrorReporter) : InternalErrorReporter := r.increment .queue

def lostTm (r : InternalErrorReporter) : InternalErrorReporter := r.increment .tm

def storeFull (r : InternalErrorReporter) : InternalErrorReporter := r.increment .store

def getAndReset (r : InternalErrorReporter) (kind : ErrorKind) : UInt32 × InternalErrorReporter :=
  (r.hits kind, { r with hits := Function.update r.hits kind 0 })

/-- The outcomes of reading and committing the variables, at their positions, and whether the data
set is still marked as changed when the housekeeping is done. -/
structure OperationOutcome where
  read : ℕ → ReturnValue
  commit : ℕ → ReturnValue
  keepsChanged : Bool

/-- The next step of `performOperation`.  Each counter is taken in a step of its own. -/
def performOperation (r : InternalErrorReporter) (outcome : OperationOutcome) :
    InternalErrorReporter :=
  match r.stage with
  | .idle =>
      let (newQueueHits, r) := r.getAndReset .queue
      { r with stage := .tookQueueHits newQueueHits }
  | .tookQueueHits newQueueHits =>
      let (newTmHits, r) := r.getAndReset .tm
      { r with stage := .tookTmHits newQueueHits newTmHits }
  | .tookTmHits newQueueHits newTmHits =>
      let (newStoreHits, r) := r.getAndReset .store
      { r with stage := .tookStoreHits newQueueHits newTmHits newStoreHits }
  | .tookStoreHits .. =>
      { r with
        internalErrorDataset :=
          r.internalErrorDataset.update r.stage.newHits outcome.read outcome.commit
        stage := .updated }
  | .updated =>
      let changed := r.internalErrorDataset.changed && outcome.keepsChanged
      { r with internalErrorDataset := { r.internalErrorDataset with changed }, stage := .idle }

/-- A call of the reporter, or the next step of an operation. -/
inductive Call where
  | queueMessageNotSent
  | lostTm
  | storeFull
  | performOperation (outcome : OperationOutcome)

def call (r : InternalErrorReporter) : Call → InternalErrorReporter
  | .queueMessageNotSent => r.queueMessageNotSent
  | .lostTm => r.lostTm
  | .storeFull => r.storeFull
  | .performOperation outcome => r.performOperation outcome

/-! ### Conservation -/

/-- The kind of an error that is reported. -/
def Call.reports : Call → Option ErrorKind
  | .queueMessageNotSent => some .queue
  | .lostTm => some .tm
  | .storeFull => some .store
  | .performOperation _ => none

/-- Call a reporter, and count the errors of each kind that are reported. -/
def step : Step (InternalErrorReporter × (ErrorKind → ℕ)) Call Unit := fun (r, reported) call =>
  some ((r.call call,
    fun kind => if call.reports = some kind then reported kind + 1 else reported kind), ())

/-- The value of each kind, with the errors that have been taken or are still counted, is the
initial value and the number of reported errors, modulo `2 ^ 32`. -/
def Conserved (initial : ErrorKind → UInt32) (s : InternalErrorReporter × (ErrorKind → ℕ)) :
    Prop :=
  s.1.internalErrorDataset.value = s.1.internalErrorDataset.pool
    ∧ ∀ kind, s.1.internalErrorDataset.pool kind + s.1.hits kind + s.1.stage.newHits kind
      = initial kind + .ofNat (s.2 kind)

/-- An operation that adds errors marks the data set as changed. -/
def MarksChanged (r : InternalErrorReporter) (call : Call) : Prop :=
  ∀ newQueueHits newTmHits newStoreHits,
    r.stage = .tookStoreHits newQueueHits newTmHits newStoreHits →
    ∀ outcome, call = .performOperation outcome →
      (r.internalErrorDataset.read outcome.read).1 = .ok → (∃ kind, r.stage.newHits kind ≠ 0) →
      (r.call call).internalErrorDataset.changed = true

/-- An operation that has taken errors of a kind reads the data set, and commits the variable of the
kind, without failures. -/
def AddsAll (r : InternalErrorReporter) : Call → Prop
  | .performOperation outcome =>
      ∀ newQueueHits newTmHits newStoreHits,
        r.stage = .tookStoreHits newQueueHits newTmHits newStoreHits →
        ∀ kind, r.stage.newHits kind ≠ 0 →
          (∀ kind : ErrorKind, outcome.read kind.poolId = .ok) ∧ outcome.commit kind.poolId = .ok
  | _ => True

section

variable {initial : ErrorKind → UInt32} {r : InternalErrorReporter} {reported : ErrorKind → ℕ}

theorem Conserved.increment (h : Conserved initial (r, reported)) (kind : ErrorKind) :
  Conserved initial (r.increment kind,
    fun kind' => if some kind = some kind' then reported kind' + 1 else reported kind')
  := by
  use h.1
  intro kind'
  have hkind := h.2 kind'
  by_cases heq : kind = kind'
  · subst heq
    simp only [InternalErrorReporter.increment, Function.update_self, if_true, UInt32.ofNat_add]
    rw [← add_assoc, ← add_assoc, add_right_comm, hkind]
    rfl
  · simp only [InternalErrorReporter.increment, Option.some.injEq, heq, if_false,
      Function.update_of_ne (Ne.symm heq)]
    exact hkind

/-- Taking a counter from which nothing has been taken yet. -/
theorem Conserved.getAndReset (h : Conserved initial (r, reported)) {kind : ErrorKind}
    (hkind : r.stage.newHits kind = 0) {stage : OperationStage}
    (hstage : stage.newHits = Function.update r.stage.newHits kind (r.hits kind)) :
  Conserved initial ({ (r.getAndReset kind).2 with stage }, reported)
  := by
  use h.1
  intro kind'
  have hkind' := h.2 kind'
  simp only [InternalErrorReporter.getAndReset, hstage]
  by_cases heq : kind' = kind
  · subst heq
    rw [Function.update_self, Function.update_self, add_zero]
    rw [hkind, add_zero] at hkind'
    exact hkind'
  · rw [Function.update_of_ne heq, Function.update_of_ne heq]
    exact hkind'

/-- Adding to the data set what has been taken. -/
theorem conserved_update_iff (h : Conserved initial (r, reported))
    (readOutcome commitOutcome : ℕ → ReturnValue) :
  Conserved initial
      ({ r with
          internalErrorDataset :=
            r.internalErrorDataset.update r.stage.newHits readOutcome commitOutcome
          stage := .updated }, reported)
    ↔ ∀ kind, r.stage.newHits kind ≠ 0 →
      (∀ kind : ErrorKind, readOutcome kind.poolId = .ok) ∧ commitOutcome kind.poolId = .ok
  := by
  obtain ⟨hvalue, hkinds⟩ := h
  simp only [← InternalErrorDataset.pool_update_eq_iff r.internalErrorDataset r.stage.newHits
    readOutcome commitOutcome hvalue]
  have hcancel : ∀ (kind : ErrorKind) (pool' : UInt32),
      pool' + r.hits kind + OperationStage.updated.newHits kind
          = initial kind + .ofNat (reported kind)
        ↔ pool' = r.internalErrorDataset.pool kind + r.stage.newHits kind := by
    intro kind pool'
    rw [OperationStage.newHits_updated, add_zero, ← hkinds kind, add_right_comm, add_left_inj]
  constructor
  · rintro ⟨-, h⟩ kind
    apply (hcancel kind _).mp (h kind)
  · intro h
    use InternalErrorDataset.value_update_eq_pool _ _ _ _ hvalue h
    intro kind
    apply (hcancel kind _).mpr (h kind)

end

theorem forall_step_performOperation {P : InternalErrorReporter × (ErrorKind → ℕ) → Prop}
    (r : InternalErrorReporter) (reported : ErrorKind → ℕ) (outcome : OperationOutcome) :
  (∀ s' o, step (r, reported) (.performOperation outcome) = some (s', o) → P s')
    ↔ P (r.performOperation outcome, reported)
  := by
  constructor
  · intro h
    apply h _ () rfl
  · rintro h s' o ⟨⟩
    exact h

/-- A call conserves the errors exactly when it adds all that have been taken. -/
theorem call_conserved_iff {initial : ErrorKind → UInt32}
    {s : InternalErrorReporter × (ErrorKind → ℕ)} (h : Conserved initial s) (call : Call) :
  (∀ s' o, step s call = some (s', o) → Conserved initial s') ↔ s.1.AddsAll call
  := by
  obtain ⟨r, reported⟩ := s
  cases call with
  | queueMessageNotSent =>
      apply iff_of_true _ trivial
      rintro s' o ⟨⟩
      apply h.increment .queue
  | lostTm =>
      apply iff_of_true _ trivial
      rintro s' o ⟨⟩
      apply h.increment .tm
  | storeFull =>
      apply iff_of_true _ trivial
      rintro s' o ⟨⟩
      apply h.increment .store
  | performOperation outcome =>
      rw [forall_step_performOperation]
      cases hstage : r.stage with
      | idle | tookQueueHits newQueueHits | tookTmHits newQueueHits newTmHits =>
          apply iff_of_true _ fun _ _ _ h' => nomatch hstage.symm.trans h'
          rw [performOperation, hstage]
          apply h.getAndReset
          · rw [hstage]
            rfl
          · funext kind
            rw [hstage]
            cases kind with
            | _ => rfl
      | tookStoreHits newQueueHits newTmHits newStoreHits =>
          rw [performOperation, hstage]
          dsimp only
          rw [← hstage, conserved_update_iff h]
          constructor
          · intro hadds _ _ _ _
            exact hadds
          · intro hadds
            exact hadds _ _ _ hstage
      | updated =>
          apply iff_of_true _ fun _ _ _ h' => nomatch hstage.symm.trans h'
          rw [performOperation, hstage]
          use h.1
          intro kind
          have hkind := h.2 kind
          rw [hstage, OperationStage.newHits_updated] at hkind
          rw [OperationStage.newHits_idle]
          exact hkind

theorem marksChanged (r : InternalErrorReporter) (call : Call) :
  r.MarksChanged call
  := by
  rintro newQueueHits newTmHits newStoreHits hstage outcome rfl hread hnew
  rw [InternalErrorReporter.call, performOperation, hstage]
  dsimp only
  rw [← hstage, InternalErrorDataset.update]
  dsimp only
  rw [if_pos hread]
  apply InternalErrorDataset.changed_addHits _ _ hnew

/-- Along every run no error is lost, and the data set is marked as changed by every operation that
adds errors, exactly when every operation adds all the errors that it has taken. -/
theorem conserves_iff_along (initial : ErrorKind → UInt32) (calls : List Call) :
  step.Always (Conserved initial) (new initial, fun _ => 0) calls
      ∧ step.Along (fun s call => s.1.MarksChanged call) (new initial, fun _ => 0) calls
    ↔ step.Along (fun s call => s.1.AddsAll call) (new initial, fun _ => 0) calls
  := by
  rw [and_iff_left]
  · apply Step.always_iff_along
    · intro s call h
      apply call_conserved_iff h
    · use rfl
      intro kind
      change initial kind + 0 + OperationStage.idle.newHits kind = initial kind + .ofNat 0
      rw [OperationStage.newHits_idle, add_zero]
      rfl
  · apply Step.along_of_invariant (I := fun _ => True)
    · intro s call _
      apply marksChanged
    · intro _ _ _ _ _ _
      trivial
    · trivial

/-- The errors that have been taken are lost when the data set cannot be read. -/
theorem not_always_conserved :
  ¬ ∀ (initial : ErrorKind → UInt32) (calls : List Call),
    step.Always (Conserved initial) (new initial, fun _ => 0) calls
      ∧ step.Along (fun s call => s.1.MarksChanged call) (new initial, fun _ => 0) calls
  := by
  intro h
  let outcome : OperationOutcome := ⟨fun _ => .failed, fun _ => .ok, true⟩
  let calls : List Call := .queueMessageNotSent :: List.replicate 5 (.performOperation outcome)
  have hconserved := (h (fun _ => 0) calls).1 calls List.prefix_rfl _ _ rfl
  exact absurd (hconserved.2 .queue) (by decide)

end InternalErrorReporter
