import Fsfw.Library.Run
import Fsfw.ReturnValues

/-!
# Reading and committing data sets

Pool variables are registered with a data set, which reads and commits them together.  Variables
that are write-only are not read, and those that are read-only are not committed; a variable without
a parameter in the pool takes part in neither.  The set counts its variables with 16 bits, so that
it has forgotten them all when the count wraps.

What has been registered, and whether a `read` came after the last `commit`, is what the calls and
their results tell (`DataSetHistory`).  Every call is exact with respect to it
(`PoolDataSetBase.along_exact`).
-/

namespace PoolVariableIF

inductive ReadWriteMode where
  | read
  | write
  | readWrite
  deriving DecidableEq, Repr

def noParameter : UInt32 := 0xffffffff

end PoolVariableIF

open PoolVariableIF

/-- What a data set asks of a variable. -/
structure PoolVariable where
  readWriteMode : ReadWriteMode
  dataPoolId : UInt32
  deriving DecidableEq, Repr

namespace PoolVariable

/-- The variables a set reads. -/
def IsRead (v : PoolVariable) : Prop :=
  v.readWriteMode ≠ .write ∧ v.dataPoolId ≠ noParameter
  deriving Decidable

/-- The variables a set commits when it was read. -/
def IsWritten (v : PoolVariable) : Prop :=
  v.readWriteMode ≠ .read ∧ v.dataPoolId ≠ noParameter
  deriving Decidable

/-- The variables a set commits when it was not read. -/
def IsWriteOnly (v : PoolVariable) : Prop :=
  v.readWriteMode = .write ∧ v.dataPoolId ≠ noParameter
  deriving Decidable

end PoolVariable

namespace PoolDataSetBase

inductive States where
  | setUninitialised
  | setWasRead
  deriving DecidableEq, Repr

/-- A read or a commit of the variable at a position, with or without a lock of its own. -/
structure SingleOperation where
  count : ℕ
  individually : Bool
  result : ReturnValue
  deriving DecidableEq, Repr

/-- What a call returns, and what it does to the variables. -/
structure Answer where
  result : ReturnValue
  operations : List SingleOperation := []
  deriving DecidableEq, Repr

end PoolDataSetBase

open PoolDataSetBase

/-- A data set.  The registered variables are those at the positions up to the number of them. -/
structure PoolDataSetBase where
  hasContainer : Bool
  maxFillCount : ℕ
  registeredVariables : List PoolVariable := []
  state : States := .setUninitialised
  protectEveryReadCommitCall : Bool := false
  deriving DecidableEq, Repr

namespace PoolDataSetBase

def fillCount (s : PoolDataSetBase) : ℕ := s.registeredVariables.length

def registerVariable (s : PoolDataSetBase) (poolVariable : Option PoolVariable) :
    PoolDataSetBase × Answer :=
  if ¬ s.hasContainer then
    (s, { result := .failed })
  else if s.state ≠ .setUninitialised then
    (s, { result := DataSetIF.dataSetUninitialised })
  else
    match poolVariable with
    | none => (s, { result := DataSetIF.poolVarNull })
    | some v =>
        if s.maxFillCount ≤ s.fillCount then
          (s, { result := DataSetIF.dataSetFull })
        else
          -- the count of the variables has 16 bits
          ({ s with
              registeredVariables :=
                if s.fillCount + 1 = 2 ^ 16 then [] else s.registeredVariables ++ [v] },
            { result := .ok })

/-- Read the variable at a position, which returns the outcome that is given. -/
def readVariable (individually : Bool) (count : ℕ) (outcome : ReturnValue) :
    Option PoolVariable → Answer
  | none => { result := .failed }
  | some v =>
      if v.IsRead then
        { result := if outcome ≠ .ok then DataSetIF.invalidParameterDefinition else .ok
          operations := [⟨count, individually, outcome⟩] }
      else
        { result := .ok }

/-- The loop of `read`, from a position on, with the two results so far. -/
def readLoop (individually : Bool) (outcome : ℕ → ReturnValue) :
    ℕ → List PoolVariable → ReturnValue → ReturnValue →
      ReturnValue × ReturnValue × List SingleOperation
  | _, [], result, error => (result, error, [])
  | count, v :: vs, _, error =>
      let single := readVariable individually count (outcome count) (some v)
      let error := if single.result ≠ .ok then single.result else error
      let (result, error, operations) :=
        readLoop individually outcome (count + 1) vs single.result error
      (result, error, single.operations ++ operations)

def read (s : PoolDataSetBase) (outcome : ℕ → ReturnValue) : PoolDataSetBase × Answer :=
  if s.state = .setUninitialised then
    let (result, error, operations) :=
      readLoop s.protectEveryReadCommitCall outcome 0 s.registeredVariables .ok .ok
    ({ s with state := .setWasRead },
      { result := if error ≠ .ok then error else result, operations })
  else
    (s, { result := DataSetIF.setWasAlreadyRead })

/-- The loop of a commit after a read.  The results of the single commits are not looked at. -/
def handleAlreadyReadDatasetCommit (individually : Bool) (outcome : ℕ → ReturnValue) :
    ℕ → List PoolVariable → List SingleOperation
  | _, [] => []
  | count, v :: vs =>
      let operations := handleAlreadyReadDatasetCommit individually outcome (count + 1) vs
      if v.IsWritten then
        ⟨count, individually, outcome count⟩ :: operations
      else
        operations

/-- The loop of a commit without a read, with the result so far. -/
def handleUnreadDatasetCommit (individually : Bool) (outcome : ℕ → ReturnValue) :
    ℕ → List PoolVariable → ReturnValue → Answer
  | _, [], result => { result }
  | count, v :: vs, result =>
      if v.IsWriteOnly then
        -- only a commit with a lock of its own has its result taken over
        let result := if individually then outcome count else result
        let answer := handleUnreadDatasetCommit individually outcome (count + 1) vs result
        { answer with operations := ⟨count, individually, outcome count⟩ :: answer.operations }
      else if v.dataPoolId ≠ noParameter then
        handleUnreadDatasetCommit individually outcome (count + 1) vs
          DataSetIF.commitingWithoutReading
      else
        handleUnreadDatasetCommit individually outcome (count + 1) vs result

def commit (s : PoolDataSetBase) (outcome : ℕ → ReturnValue) : PoolDataSetBase × Answer :=
  ({ s with state := .setUninitialised },
    if s.state = .setWasRead then
      { result := .ok
        operations :=
          handleAlreadyReadDatasetCommit s.protectEveryReadCommitCall outcome 0
            s.registeredVariables }
    else
      handleUnreadDatasetCommit s.protectEveryReadCommitCall outcome 0 s.registeredVariables .ok)

def setReadCommitProtectionBehaviour (s : PoolDataSetBase) (protectEveryReadCommit : Bool) :
    PoolDataSetBase :=
  { s with protectEveryReadCommitCall := protectEveryReadCommit }

/-- A call of a data set.  The single reads or commits of a call return the outcomes given for the
positions of the variables. -/
inductive Call where
  | registerVariable (poolVariable : Option PoolVariable)
  | read (outcome : ℕ → ReturnValue)
  | commit (outcome : ℕ → ReturnValue)
  | setReadCommitProtectionBehaviour (protectEveryReadCommit : Bool)

def call (s : PoolDataSetBase) : Call → PoolDataSetBase × Answer
  | .registerVariable poolVariable => s.registerVariable poolVariable
  | .read outcome => s.read outcome
  | .commit outcome => s.commit outcome
  | .setReadCommitProtectionBehaviour protectEveryReadCommit =>
      (s.setReadCommitProtectionBehaviour protectEveryReadCommit, { result := .ok })

/-! ### The loops over the variables -/

/-- The operations on the variables with a property, in the order of their positions. -/
def operationsOn (p : PoolVariable → Prop) [DecidablePred p] (individually : Bool)
    (outcome : ℕ → ReturnValue) (vs : List PoolVariable) (count : ℕ := 0) :
    List SingleOperation :=
  ((vs.zipIdx count).filter fun v => p v.1).map fun v => ⟨v.2, individually, outcome v.2⟩

section

variable {individually : Bool} {outcome : ℕ → ReturnValue} {count : ℕ}

theorem operationsOn_cons (p : PoolVariable → Prop) [DecidablePred p] (v : PoolVariable)
    (vs : List PoolVariable) :
  operationsOn p individually outcome (v :: vs) count
    = (if p v then [⟨count, individually, outcome count⟩] else [])
      ++ operationsOn p individually outcome vs (count + 1)
  := by
  rw [operationsOn, List.zipIdx_cons, List.filter_cons]
  by_cases h : p v
  · simp only [h, decide_true, if_true, List.map_cons, List.singleton_append, operationsOn]
  · simp only [h, decide_false, Bool.false_eq_true, if_false, List.nil_append, operationsOn]

/-- A loop of reads reads the variables that are not write-only. -/
theorem operations_readLoop (vs : List PoolVariable) (result error : ReturnValue) :
  (readLoop individually outcome count vs result error).2.2
    = operationsOn PoolVariable.IsRead individually outcome vs count
  := by
  induction vs generalizing count result error with
  | nil => rfl
  | cons v vs ih =>
      rw [operationsOn_cons, readLoop]
      dsimp only
      rw [ih, readVariable]
      by_cases h : v.IsRead
      · rw [if_pos h, if_pos h]
      · rw [if_neg h, if_neg h]

/-- A single read succeeds when the variable is read without an error, if at all. -/
theorem result_readVariable_eq_ok_iff (v : PoolVariable) :
  (readVariable individually count (outcome count) (some v)).result = .ok
    ↔ ∀ o ∈ (readVariable individually count (outcome count) (some v)).operations, o.result = .ok
  := by
  rw [readVariable]
  split
  · rw [List.forall_mem_singleton]
    dsimp only
    by_cases h : outcome count = .ok
    · simp only [h, ne_eq, not_true, if_false]
    · simp only [h, ne_eq, not_false_eq_true, if_true, iff_false]
      decide
  · simp only [List.not_mem_nil, false_implies, implies_true]

/-- A loop of reads keeps an error, and finds one when a single read fails. -/
theorem readLoop_eq_ok_iff (vs : List PoolVariable) {result error : ReturnValue}
    (h : error = .ok → result = .ok) :
  (if (readLoop individually outcome count vs result error).2.1 ≠ .ok
    then (readLoop individually outcome count vs result error).2.1
    else (readLoop individually outcome count vs result error).1) = .ok
    ↔ error = .ok
      ∧ ∀ o ∈ (readLoop individually outcome count vs result error).2.2, o.result = .ok
  := by
  induction vs generalizing count result error with
  | nil =>
      simp only [readLoop, List.not_mem_nil, false_implies, implies_true, and_true]
      by_cases herror : error = .ok
      · simp only [herror, ne_eq, not_true, if_false, h herror]
      · simp only [herror, ne_eq, not_false_eq_true, if_true]
  | cons v vs ih =>
      have hsingle :
          (readVariable individually count (outcome count) (some v)).result = .ok ↔ _ :=
        result_readVariable_eq_ok_iff v
      rw [readLoop]
      dsimp only
      set single := readVariable individually count (outcome count) (some v)
      rw [ih _, List.forall_mem_append, ← hsingle, ← and_assoc]
      · apply and_congr_left'
        by_cases hok : single.result = .ok
        · simp only [hok, ne_eq, not_true, if_false, and_true]
        · simp only [hok, ne_eq, not_false_eq_true, if_true, and_false]
      · by_cases hok : single.result = .ok
        · intro _
          exact hok
        · simp only [hok, ne_eq, not_false_eq_true, if_true, imp_self]

/-- A loop of commits after a read commits the variables that are not read-only. -/
theorem handleAlreadyReadDatasetCommit_eq (vs : List PoolVariable) :
  handleAlreadyReadDatasetCommit individually outcome count vs
    = operationsOn PoolVariable.IsWritten individually outcome vs count
  := by
  induction vs generalizing count with
  | nil => rfl
  | cons v vs ih =>
      rw [operationsOn_cons, handleAlreadyReadDatasetCommit, ih]
      by_cases h : v.IsWritten
      · rw [if_pos h, if_pos h, List.singleton_append]
      · rw [if_neg h, if_neg h, List.nil_append]

/-- A loop of commits without a read commits the variables that are write-only. -/
theorem operations_handleUnreadDatasetCommit (vs : List PoolVariable) (result : ReturnValue) :
  (handleUnreadDatasetCommit individually outcome count vs result).operations
    = operationsOn PoolVariable.IsWriteOnly individually outcome vs count
  := by
  induction vs generalizing count result with
  | nil => rfl
  | cons v vs ih =>
      rw [operationsOn_cons, handleUnreadDatasetCommit]
      by_cases h : v.IsWriteOnly
      · rw [if_pos h, if_pos h]
        dsimp only
        rw [ih, List.singleton_append]
      · rw [if_neg h, if_neg h, List.nil_append]
        split
        · apply ih
        · apply ih

theorem isRead_of_not_isWriteOnly {v : PoolVariable} (h : ¬v.IsWriteOnly)
    (hid : v.dataPoolId ≠ noParameter) :
  v.IsRead
  := by
  use fun hmode => h ⟨hmode, hid⟩

/-- A commit without a read succeeds when its single commits do, and no variable must be read. -/
theorem result_handleUnreadDatasetCommit (vs : List PoolVariable)
    (hresults : ∀ o ∈ operationsOn PoolVariable.IsWriteOnly individually outcome vs count,
      o.result = .ok)
    (hvs : ∀ v ∈ vs, ¬v.IsRead) :
  (handleUnreadDatasetCommit individually outcome count vs .ok).result = .ok
  := by
  induction vs generalizing count with
  | nil => rfl
  | cons v vs ih =>
      obtain ⟨hv, hvs⟩ := List.forall_mem_cons.mp hvs
      rw [operationsOn_cons, List.forall_mem_append] at hresults
      obtain ⟨hresult, hresults⟩ := hresults
      rw [handleUnreadDatasetCommit]
      split
      · rename_i hwrite
        rw [if_pos hwrite, List.forall_mem_singleton] at hresult
        dsimp only at hresult ⊢
        rw [hresult, ite_self]
        apply ih hresults hvs
      · rename_i hwrite
        rw [if_neg fun hid => hv (isRead_of_not_isWriteOnly hwrite hid)]
        apply ih hresults hvs

/-- Without locks of their own for the single commits, a commit without a read that succeeds has
found no variable that must be read. -/
theorem not_isRead_of_handleUnreadDatasetCommit (vs : List PoolVariable) {result : ReturnValue}
    (h : (handleUnreadDatasetCommit false outcome count vs result).result = .ok) :
  result = .ok ∧ ∀ v ∈ vs, ¬v.IsRead
  := by
  induction vs generalizing count result with
  | nil =>
      use h
      exact List.forall_mem_nil _
  | cons v vs ih =>
      rw [handleUnreadDatasetCommit] at h
      rw [List.forall_mem_cons]
      split at h
      · rename_i hwrite
        obtain ⟨hresult, hvs⟩ := ih h
        use hresult, fun hread => hread.1 hwrite.1
      · split at h
        · cases (ih h).1
        · rename_i hid
          obtain ⟨hresult, hvs⟩ := ih h
          use hresult, fun hread => hid hread.2

end

/-- A read of a set that is not in the read state succeeds when its single reads do, and only
then. -/
theorem result_read {s : PoolDataSetBase} (hstate : s.state = .setUninitialised)
    (outcome : ℕ → ReturnValue) :
  (s.read outcome).2.result = .ok ↔ ∀ o ∈ (s.read outcome).2.operations, o.result = .ok
  := by
  rw [read, if_pos hstate]
  apply (readLoop_eq_ok_iff _ fun _ => rfl).trans
  rw [eq_self, true_and]

/-! ### Exactness -/

/-- What the calls of a data set and their results tell about it. -/
structure DataSetHistory where
  registered : List PoolVariable := []
  wasRead : Bool := false
  individually : Bool := false

namespace DataSetHistory

def after (h : DataSetHistory) : Call → Answer → DataSetHistory
  | .registerVariable poolVariable, answer =>
      if answer.result = .ok then
        { h with registered := h.registered ++ poolVariable.toList }
      else
        h
  | .read _, _ => { h with wasRead := true }
  | .commit _, _ => { h with wasRead := false }
  | .setReadCommitProtectionBehaviour individually, _ => { h with individually }

/-- The operations on the registered variables with a property, each at its position. -/
def operations (h : DataSetHistory) (p : PoolVariable → Prop) [DecidablePred p]
    (outcome : ℕ → ReturnValue) : List SingleOperation :=
  operationsOn p h.individually outcome h.registered

/-- An answer to a call is exact.
- Variables are registered only while the set is not in the read state.
- A read reads the variables that are not write-only, and returns `ok` when all of them could be
  read, and only then; in the read state it is rejected and touches no variable.
- A commit in the read state commits the variables that are not read-only, any other commit those
  that are write-only.  It returns `ok` when all of these could be committed and, for a commit
  without a read, all variables are write-only.  When the single commits have no locks of their own,
  a commit without a read returns `ok` only if all variables are write-only.
Variables without a parameter do not count. -/
def Exact (h : DataSetHistory) : Call → Answer → Prop
  | .registerVariable _, answer =>
      answer.operations = [] ∧ (answer.result = .ok → h.wasRead = false)
  | .read outcome, answer =>
      if h.wasRead then
        answer.operations = [] ∧ answer.result = DataSetIF.setWasAlreadyRead
      else
        answer.operations = h.operations PoolVariable.IsRead outcome
          ∧ (answer.result = .ok ↔ ∀ o ∈ answer.operations, o.result = .ok)
  | .commit outcome, answer =>
      if h.wasRead then
        answer.operations = h.operations PoolVariable.IsWritten outcome
          ∧ ((∀ o ∈ answer.operations, o.result = .ok) → answer.result = .ok)
      else
        answer.operations = h.operations PoolVariable.IsWriteOnly outcome
          ∧ ((∀ o ∈ answer.operations, o.result = .ok) → (∀ v ∈ h.registered, ¬v.IsRead) →
            answer.result = .ok)
          ∧ (h.individually = false → answer.result = .ok → ∀ v ∈ h.registered, ¬v.IsRead)
  | .setReadCommitProtectionBehaviour _, answer => answer.operations = []

end DataSetHistory

/-- Call a data set, and keep its history. -/
def step : Step (PoolDataSetBase × DataSetHistory) Call Answer := fun (s, h) call =>
  let (s', answer) := s.call call
  some ((s', h.after call answer), answer)

/-- A set that agrees with its history, in which it has not forgotten a variable. -/
structure Agrees (s : PoolDataSetBase) (h : DataSetHistory) : Prop where
  registered : h.registered.length < 2 ^ 16 → s.registeredVariables = h.registered
  state : s.state = .setWasRead ↔ h.wasRead = true
  individually : s.protectEveryReadCommitCall = h.individually

namespace Agrees

variable {s : PoolDataSetBase} {h : DataSetHistory}

theorem setUninitialised_iff (hs : Agrees s h) :
  s.state = .setUninitialised ↔ h.wasRead = false
  := by
  rw [← Bool.not_eq_true, ← hs.state]
  cases s.state with
  | setUninitialised => decide
  | setWasRead => decide

theorem registerVariable (hs : Agrees s h) (poolVariable : Option PoolVariable) :
  Agrees (s.registerVariable poolVariable).1
      (h.after (.registerVariable poolVariable) (s.registerVariable poolVariable).2)
    ∧ h.Exact (.registerVariable poolVariable) (s.registerVariable poolVariable).2
  := by
  rw [PoolDataSetBase.registerVariable.eq_def]
  split
  · use hs, rfl, fun hok => nomatch hok
  · split
    · use hs, rfl, fun hok => nomatch hok
    · rename_i hstate
      cases poolVariable with
      | none => use hs, rfl, fun hok => nomatch hok
      | some v =>
          dsimp only
          split
          · use hs, rfl, fun hok => nomatch hok
          · have hunread := hs.setUninitialised_iff.mp (not_not.mp hstate)
            refine ⟨⟨?_, hs.state, hs.individually⟩, rfl, fun _ => hunread⟩
            intro hlength
            change (h.registered ++ [v]).length < 2 ^ 16 at hlength
            rw [List.length_append, List.length_singleton] at hlength
            have hregistered := hs.registered (by omega)
            rw [fillCount, hregistered, if_neg hlength.ne]
            rfl

theorem read (hs : Agrees s h) (outcome : ℕ → ReturnValue) :
  Agrees (s.read outcome).1 (h.after (.read outcome) (s.read outcome).2)
    ∧ (h.registered.length < 2 ^ 16 → h.Exact (.read outcome) (s.read outcome).2)
  := by
  by_cases hstate : s.state = .setUninitialised
  · have hunread := hs.setUninitialised_iff.mp hstate
    have hresult := result_read hstate outcome
    rw [DataSetHistory.Exact, hunread, DataSetHistory.operations, ← hs.individually]
    rw [PoolDataSetBase.read, if_pos hstate] at hresult ⊢
    use ⟨hs.registered, iff_of_true rfl rfl, hs.individually⟩
    intro hlength
    rw [← hs.registered hlength]
    exact ⟨operations_readLoop _ _ _, hresult⟩
  · have hread : h.wasRead = true := by
      rw [← Bool.not_eq_false]
      exact fun hunread => hstate (hs.setUninitialised_iff.mpr hunread)
    rw [PoolDataSetBase.read, if_neg hstate]
    use ⟨hs.registered, iff_of_true (hs.state.mpr hread) rfl, hs.individually⟩
    intro _
    rw [DataSetHistory.Exact, if_pos hread]
    use rfl

theorem commit (hs : Agrees s h) (outcome : ℕ → ReturnValue) :
  Agrees (s.commit outcome).1 (h.after (.commit outcome) (s.commit outcome).2)
    ∧ (h.registered.length < 2 ^ 16 → h.Exact (.commit outcome) (s.commit outcome).2)
  := by
  constructor
  · use hs.registered, iff_of_false nofun nofun, hs.individually
  · intro hlength
    have hregistered := hs.registered hlength
    rw [PoolDataSetBase.commit, DataSetHistory.Exact, DataSetHistory.operations,
      DataSetHistory.operations, ← hs.individually, ← hregistered]
    dsimp only
    cases hread : h.wasRead with
    | true =>
        rw [if_pos (hs.state.mpr hread), if_pos rfl]
        use handleAlreadyReadDatasetCommit_eq _, fun _ => rfl
    | false =>
        have hstate : s.state ≠ .setWasRead := by
          rw [hs.setUninitialised_iff.mpr hread]
          decide
        rw [if_neg hstate, if_neg (by decide)]
        have hoperations :
            (handleUnreadDatasetCommit s.protectEveryReadCommitCall outcome 0
              s.registeredVariables .ok).operations = _ :=
          operations_handleUnreadDatasetCommit _ _
        use hoperations
        rw [hoperations]
        use result_handleUnreadDatasetCommit _
        intro hindividually hok
        rw [hindividually] at hok
        apply (not_isRead_of_handleUnreadDatasetCommit _ hok).2

end Agrees

/-- Along every run of calls, the answers to the calls are exact, as long as the number of
registered variables is less than `2 ^ 16`. -/
theorem along_exact (hasContainer : Bool) (maxFillCount : ℕ) (calls : List Call) :
  step.Along
    (fun s call => s.2.registered.length < 2 ^ 16 → s.2.Exact call (s.1.call call).2)
    ({ hasContainer, maxFillCount }, {}) calls
  := by
  apply Step.along_of_invariant (I := fun s => Agrees s.1 s.2)
  · rintro ⟨s, h⟩ call hs hlength
    cases call with
    | registerVariable poolVariable => apply (hs.registerVariable poolVariable).2
    | read outcome => apply (hs.read outcome).2 hlength
    | commit outcome => apply (hs.commit outcome).2 hlength
    | setReadCommitProtectionBehaviour individually => rfl
  · rintro ⟨s, h⟩ call ⟨s', h'⟩ answer hs hstep
    cases hstep
    cases call with
    | registerVariable poolVariable => apply (hs.registerVariable poolVariable).1
    | read outcome => apply (hs.read outcome).1
    | commit outcome => apply (hs.commit outcome).1
    | setReadCommitProtectionBehaviour individually => exact ⟨hs.registered, hs.state, rfl⟩
  · use fun _ => rfl, iff_of_false nofun nofun

/-- A write-only variable without a parameter is not committed, and a commit that fails is forgotten
when a later one succeeds. -/
theorem not_along_commits :
  (¬ ∀ (hasContainer : Bool) (maxFillCount : ℕ) (calls : List Call),
    step.Along
      (fun s call => ∀ outcome, call = .commit outcome → s.2.wasRead = false →
        (s.1.call call).2.operations = s.2.operations (fun v => v.readWriteMode = .write) outcome)
      ({ hasContainer, maxFillCount }, {}) calls)
    ∧ ¬ ∀ (hasContainer : Bool) (maxFillCount : ℕ) (calls : List Call),
      step.Along
        (fun s call => (s.1.call call).2.result = .ok →
          ∀ o ∈ (s.1.call call).2.operations, o.result = .ok)
        ({ hasContainer, maxFillCount }, {}) calls
  := by
  constructor
  · intro h
    have hrun := h true 1 [.registerVariable (some ⟨.write, noParameter⟩), .commit fun _ => .ok]
    have hcommit := (hrun.2 _ _ rfl).1 _ rfl rfl
    exact absurd hcommit (by decide)
  · intro h
    have hrun := h true 2
      [.setReadCommitProtectionBehaviour true, .registerVariable (some ⟨.write, 0⟩),
        .registerVariable (some ⟨.write, 1⟩), .commit fun i => if i = 0 then .failed else .ok]
    have hcommit := ((((hrun.2 _ _ rfl).2 _ _ rfl).2 _ _ rfl).1) rfl
    exact absurd hcommit (by decide)

end PoolDataSetBase
