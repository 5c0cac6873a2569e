import Fsfw.Events.Event
import Fsfw.Library.Run

/-!
# Monitors

A monitor records the state of a parameter.  A sample with another state is recorded when enough of
them have come in a row, which a counter of 16 bits counts; the states `INVALID` and `UNCHECKED` are
recorded at once.  `setToUnchecked` and `setToInvalid` record a state without a sample, but only
when reports are not disabled, and they do not reset the counter.

What a monitor should do is described by `Confirmation`, which has the recorded state and the number
of samples in a row, and sees none of the flags.  Along a run a monitor does so exactly when it
never sets a new state with reports disabled or while it counts, and never has to count to `2 ^ 16`
(`MonitorReporter.along_follows_iff_clean`).
-/

namespace MonitoringIF

def monitorChangedState : Event := makeEvent .fdir2 1 Severity.low

end MonitoringIF

/-- The id of a parameter in a global pool. -/
structure GlobalPoolId where
  objectId : ObjectId
  localPoolId : UInt32
  deriving DecidableEq, Repr

/-- The content of a transition report. -/
structure MonitoringReportContent (T : Type*) where
  globalPoolId : GlobalPoolId
  parameterValue : T
  limitValue : T
  oldState : ReturnValue
  newState : ReturnValue
  deriving DecidableEq, Repr

structure MonitorReporter where
  globalPoolId : GlobalPoolId
  reportingId : ObjectId
  oldState : ReturnValue := MonitoringIF.unchecked
  reportingEnabled : UInt8 := 1
  eventEnabled : UInt8 := 1
  currentCounter : UInt16 := 0
  confirmationLimit : UInt16
  deriving DecidableEq, Repr

/-- What a call returns and sends. -/
structure MonitorAnswer (T : Type*) where
  result : Option ReturnValue := none
  events : List (ObjectId × Event × ReturnValue) := []
  reports : List (MonitoringReportContent T) := []

namespace MonitorReporter

/-- The value of a flag that is set. -/
def enabled : UInt8 := 1

def doesChildConfirm (m : MonitorReporter) : Bool × MonitorReporter :=
  let currentCounter := m.currentCounter + 1
  if m.confirmationLimit < currentCounter then
    (true, { m with currentCounter := 0 })
  else
    (false, { m with currentCounter })

def isConfirmed (m : MonitorReporter) (state : ReturnValue) : Bool × MonitorReporter :=
  if state = MonitoringIF.invalid ∨ state = MonitoringIF.unchecked then
    (true, { m with currentCounter := 0 })
  else
    m.doesChildConfirm

def resetConfirmation (m : MonitorReporter) : MonitorReporter :=
  { m with currentCounter := 0 }

/-- The events sent about a new state. -/
def sendTransitionEvent (m : MonitorReporter) (state : ReturnValue) :
    List (ObjectId × Event × ReturnValue) :=
  if state = MonitoringIF.unchecked ∨ state = MonitoringIF.unselected
      ∨ state = MonitoringIF.invalid ∨ state = .ok then
    []
  else
    [(m.reportingId, MonitoringIF.monitorChangedState, state)]

section

variable {T : Type*}

/-- The reports sent about a new state. -/
def sendTransitionReport (m : MonitorReporter) (parameterValue crossedLimit : T)
    (state : ReturnValue) : List (MonitoringReportContent T) :=
  [⟨m.globalPoolId, parameterValue, crossedLimit, m.oldState, state⟩]

def monitorStateIs (m : MonitorReporter) (state : ReturnValue) (parameterValue crossedLimit : T) :
    MonitorReporter × MonitorAnswer T :=
  if state ≠ m.oldState then
    let (confirmed, m) := m.isConfirmed state
    if confirmed then
      ({ m with oldState := state },
        { result := some state
          events := if m.eventEnabled = enabled then m.sendTransitionEvent state else []
          reports :=
            if m.reportingEnabled = enabled then
              m.sendTransitionReport parameterValue crossedLimit state
            else
              [] })
    else
      (m, { result := some m.oldState })
  else
    (m.resetConfirmation, { result := some state })

-- The flag is compared with zero here.
def setToState [Zero T] (m : MonitorReporter) (state : ReturnValue) :
    MonitorReporter × MonitorAnswer T :=
  if m.oldState ≠ state ∧ m.reportingEnabled ≠ 0 then
    ({ m with oldState := state },
      { result := some .ok
        reports := [⟨m.globalPoolId, 0, 0, m.oldState, state⟩] })
  else
    (m, { result := some .ok })

def setToUnchecked [Zero T] (m : MonitorReporter) : MonitorReporter × MonitorAnswer T :=
  m.setToState MonitoringIF.unchecked

def setToInvalid [Zero T] (m : MonitorReporter) : MonitorReporter × MonitorAnswer T :=
  m.setToState MonitoringIF.invalid

def setEventEnabled (m : MonitorReporter) (eventEnabled : UInt8) : MonitorReporter :=
  { m with eventEnabled }

def setReportingEnabled (m : MonitorReporter) (reportingEnabled : UInt8) : MonitorReporter :=
  { m with reportingEnabled }

/-- A call of a monitor. -/
inductive Call (T : Type*) where
  | monitorStateIs (state : ReturnValue) (parameterValue crossedLimit : T)
  | setToUnchecked
  | setToInvalid
  | setEventEnabled (eventEnabled : UInt8)
  | setReportingEnabled (reportingEnabled : UInt8)

def call [Zero T] (m : MonitorReporter) : Call T → MonitorReporter × MonitorAnswer T
  | .monitorStateIs state parameterValue crossedLimit =>
      m.monitorStateIs state parameterValue crossedLimit
  | .setToUnchecked => m.setToUnchecked
  | .setToInvalid => m.setToInvalid
  | .setEventEnabled eventEnabled => (m.setEventEnabled eventEnabled, {})
  | .setReportingEnabled reportingEnabled => (m.setReportingEnabled reportingEnabled, {})

/-! ### Checks of a sample -/

/-- The check of a monitor that fetches its sample from a pool.  `fetchSample` is what is found
there, and the value of the sample, which is zero when there is none. -/
def check [Zero T] (m : MonitorReporter) (checkSample : T → ReturnValue × T)
    (fetchSample : ReturnValue × T) : MonitorReporter × MonitorAnswer T :=
  let (validity, sample) := fetchSample
  if validity ≠ .ok then
    let (m, answer) := m.monitorStateIs validity sample 0
    (m, { answer with result := some m.oldState })
  else
    let (currentState, crossedLimit) := checkSample sample
    let (m, answer) := m.monitorStateIs currentState sample crossedLimit
    let oldState := answer.result.getD m.oldState
    ({ m with oldState }, { answer with result := some oldState })

/-- A sample is answered with the state that is recorded then. -/
theorem result_monitorStateIs (m : MonitorReporter) (state : ReturnValue)
    (parameterValue crossedLimit : T) :
  (m.monitorStateIs state parameterValue crossedLimit).2.result
    = some (m.monitorStateIs state parameterValue crossedLimit).1.oldState
  := by
  rw [monitorStateIs]
  split
  · dsimp only
    split
    · rfl
    · rfl
  · rename_i hsame
    rw [not_not.mp hsame]
    rfl

/-- A check passes one sample on to the monitor. -/
theorem check_eq_monitorStateIs [Zero T] (m : MonitorReporter) (checkSample : T → ReturnValue × T)
    (fetchSample : ReturnValue × T) :
  ∃ state crossedLimit,
    m.check checkSample fetchSample = m.monitorStateIs state fetchSample.2 crossedLimit
  := by
  obtain ⟨validity, sample⟩ := fetchSample
  by_cases hvalid : validity = .ok
  · use (checkSample sample).1, (checkSample sample).2
    have hresult := m.result_monitorStateIs (checkSample sample).1 sample (checkSample sample).2
    rw [check]
    simp only [hvalid, ne_eq, not_true, if_false, hresult, Option.getD_some]
    rw [← hresult]
  · use validity, 0
    rw [check]
    simp only [ne_eq, hvalid, not_false_eq_true, if_true]
    rw [← m.result_monitorStateIs]

end

/-! ### What a monitor should do -/

/-- The recorded state, and how many samples in a row have differed from it. -/
structure Confirmation where
  recorded : ReturnValue := MonitoringIF.unchecked
  inARow : ℕ := 0

namespace Confirmation

/-- A sample is recorded when `limit + 1` samples in a row have differed from the recorded state. -/
def sample (limit : UInt16) (c : Confirmation) (state : ReturnValue) : Confirmation :=
  if state = c.recorded then
    { c with inARow := 0 }
  else if state = MonitoringIF.invalid ∨ state = MonitoringIF.unchecked then
    { recorded := state }
  else if c.inARow + 1 = limit.toNat + 1 then
    { recorded := state }
  else
    { c with inARow := c.inARow + 1 }

/-- A state that is set counts anew when it is another one. -/
def force (c : Confirmation) (state : ReturnValue) : Confirmation :=
  if c.recorded = state then c else { recorded := state }

def call {T : Type*} (limit : UInt16) (c : Confirmation) : Call T → Confirmation
  | .monitorStateIs state _ _ => c.sample limit state
  | .setToUnchecked => c.force MonitoringIF.unchecked
  | .setToInvalid => c.force MonitoringIF.invalid
  | .setEventEnabled _ | .setReportingEnabled _ => c

/-- What a call should return in the state `c` after it. -/
def result {T : Type*} (c : Confirmation) : Call T → Option ReturnValue
  | .monitorStateIs _ _ _ => some c.recorded
  | .setToUnchecked | .setToInvalid => some .ok
  | .setEventEnabled _ | .setReportingEnabled _ => none

end Confirmation

section

variable {T : Type*} [Zero T]

/-- Calls of a monitor, beside what it should do. -/
def step : Step (MonitorReporter × Confirmation) (Call T) (MonitorAnswer T) :=
  fun s c => some (((s.1.call c).1, s.2.call s.1.confirmationLimit c), (s.1.call c).2)

/-- The old and the new states that are reported. -/
def transitions (answer : MonitorAnswer T) : List (ReturnValue × ReturnValue) :=
  answer.reports.map fun report => (report.oldState, report.newState)

/-- The call records and returns what it should, and counts on or anew as it should, and with
reports enabled it sends exactly one for a change of the recorded state. -/
structure Follows (s : MonitorReporter × Confirmation) (c : Call T) : Prop where
  recorded : (s.1.call c).1.oldState = (s.2.call s.1.confirmationLimit c).recorded
  counted : (s.1.call c).1.currentCounter.toNat = (s.2.call s.1.confirmationLimit c).inARow
  returned : (s.1.call c).2.result = (s.2.call s.1.confirmationLimit c).result c
  reported : s.1.reportingEnabled = enabled → transitions (s.1.call c).2
    = if (s.1.call c).1.oldState = s.1.oldState then []
      else [(s.1.oldState, (s.1.call c).1.oldState)]

/-- A monitor that sets another state reports, and does not count at that time. -/
def SetsCleanly (m : MonitorReporter) (state : ReturnValue) : Prop :=
  m.oldState ≠ state → m.reportingEnabled ≠ 0 ∧ m.currentCounter = 0

/-- A monitor whose limit is the largest number is not full when it has to count on. -/
def CountsOn (m : MonitorReporter) (state : ReturnValue) : Prop :=
  state ≠ m.oldState → state ≠ MonitoringIF.invalid → state ≠ MonitoringIF.unchecked →
    m.currentCounter.toNat + 1 < 2 ^ 16

def Clean (s : MonitorReporter × Confirmation) : Call T → Prop
  | .monitorStateIs state _ _ => CountsOn s.1 state
  | .setToUnchecked => SetsCleanly s.1 MonitoringIF.unchecked
  | .setToInvalid => SetsCleanly s.1 MonitoringIF.invalid
  | .setEventEnabled _ | .setReportingEnabled _ => True

/-- A monitor that has done what it should. -/
structure Agrees (s : MonitorReporter × Confirmation) : Prop where
  recorded : s.1.oldState = s.2.recorded
  counted : s.1.currentCounter.toNat = s.2.inARow
  counter_le : s.2.inARow ≤ s.1.confirmationLimit.toNat

/-! ### Samples -/

variable {s : MonitorReporter × Confirmation} {m : MonitorReporter} {state : ReturnValue}
  {parameterValue crossedLimit : T}

theorem isConfirmed_of_immediate
    (h : state = MonitoringIF.invalid ∨ state = MonitoringIF.unchecked) :
  m.isConfirmed state = (true, m.resetConfirmation)
  := by
  rw [isConfirmed, if_pos h]
  rfl

/-- Below its largest number, the counter confirms a sample when it is at the limit. -/
theorem isConfirmed_of_counted
    (h : ¬ (state = MonitoringIF.invalid ∨ state = MonitoringIF.unchecked))
    (hcount : m.currentCounter.toNat + 1 < 2 ^ 16)
    (hle : m.currentCounter.toNat ≤ m.confirmationLimit.toNat) :
  m.isConfirmed state
    = if m.currentCounter.toNat = m.confirmationLimit.toNat then (true, m.resetConfirmation)
      else (false, { m with currentCounter := m.currentCounter + 1 })
  := by
  have hnext : (m.currentCounter + 1).toNat = m.currentCounter.toNat + 1 := by
    rw [UInt16.toNat_add, UInt16.toNat_one, Nat.mod_eq_of_lt hcount]
  have hlt : m.confirmationLimit < m.currentCounter + 1
      ↔ m.currentCounter.toNat = m.confirmationLimit.toNat := by
    rw [UInt16.lt_iff_toNat_lt, hnext]
    omega
  rw [isConfirmed, if_neg h, doesChildConfirm]
  simp only [hlt]
  rfl

/-- A counter that is full starts at zero, and confirms nothing. -/
theorem isConfirmed_of_full
    (h : ¬ (state = MonitoringIF.invalid ∨ state = MonitoringIF.unchecked))
    (hfull : ¬ m.currentCounter.toNat + 1 < 2 ^ 16) :
  m.isConfirmed state = (false, m.resetConfirmation)
  := by
  have hnext : m.currentCounter + 1 = 0 := by
    have hlt := m.currentCounter.toNat_lt
    apply UInt16.toNat_inj.mp
    rw [UInt16.toNat_add, UInt16.toNat_one, UInt16.toNat_zero]
    omega
  have hnot : ¬ m.confirmationLimit < 0 := by
    rw [UInt16.lt_iff_toNat_lt, UInt16.toNat_zero]
    apply Nat.not_lt_zero
  rw [isConfirmed, if_neg h, doesChildConfirm]
  simp only [hnext, if_neg hnot]
  rfl

/-- A sample with the recorded state. -/
theorem Agrees.follows_same (h : Agrees s) (hsame : state = s.1.oldState) :
  Follows s (.monitorStateIs state parameterValue crossedLimit)
    ∧ Agrees ((s.1.monitorStateIs state parameterValue crossedLimit).1,
        s.2.sample s.1.confirmationLimit state)
  := by
  have hcall : s.1.monitorStateIs state parameterValue crossedLimit
      = (s.1.resetConfirmation, { result := some state }) := by
    rw [MonitorReporter.monitorStateIs, if_neg (not_not.mpr hsame)]
  have hspec : s.2.sample s.1.confirmationLimit state = { s.2 with inARow := 0 } := by
    rw [Confirmation.sample, if_pos (hsame.trans h.recorded)]
  constructor
  · constructor
    · rw [MonitorReporter.call, Confirmation.call, hcall, hspec]
      exact h.recorded
    · rw [MonitorReporter.call, Confirmation.call, hcall, hspec]
      rfl
    · rw [MonitorReporter.call, Confirmation.call, hcall, hspec, hsame, h.recorded]
      rfl
    · intro _
      rw [MonitorReporter.call, hcall]
      exact (if_pos rfl).symm
  · rw [hcall, hspec]
    use h.recorded, rfl
    apply Nat.zero_le

/-- A sample with another state that is confirmed. -/
theorem Agrees.follows_confirmed (hne : state ≠ s.1.oldState)
    (hconfirmed : s.1.isConfirmed state = (true, s.1.resetConfirmation))
    (hspec : s.2.sample s.1.confirmationLimit state = { recorded := state }) :
  Follows s (.monitorStateIs state parameterValue crossedLimit)
    ∧ Agrees ((s.1.monitorStateIs state parameterValue crossedLimit).1,
        s.2.sample s.1.confirmationLimit state)
  := by
  have hcall := MonitorReporter.monitorStateIs.eq_def s.1 state parameterValue crossedLimit
  rw [if_pos hne, hconfirmed] at hcall
  simp only [if_true] at hcall
  constructor
  · constructor
    · rw [MonitorReporter.call, Confirmation.call, hcall, hspec]
    · rw [MonitorReporter.call, Confirmation.call, hcall, hspec]
      rfl
    · rw [MonitorReporter.call, Confirmation.call, hcall, hspec]
      rfl
    · intro hreporting
      rw [MonitorReporter.call, hcall]
      have hsame : s.1.resetConfirmation.reportingEnabled = enabled := hreporting
      simp only [hsame, if_true, if_neg hne]
      rfl
  · rw [hcall, hspec]
    use rfl, rfl
    apply Nat.zero_le

/-- A sample with another state that is not confirmed yet. -/
theorem Agrees.follows_counted (h : Agrees s) (hne : state ≠ s.1.oldState)
    (hnot : ¬ (state = MonitoringIF.invalid ∨ state = MonitoringIF.unchecked))
    (hcount : s.1.currentCounter.toNat + 1 < 2 ^ 16)
    (hlimit : s.1.currentCounter.toNat ≠ s.1.confirmationLimit.toNat) :
  Follows s (.monitorStateIs state parameterValue crossedLimit)
    ∧ Agrees ((s.1.monitorStateIs state parameterValue crossedLimit).1,
        s.2.sample s.1.confirmationLimit state)
  := by
  have hle := h.counted.trans_le h.counter_le
  have hconfirmed := isConfirmed_of_counted hnot hcount hle
  rw [if_neg hlimit] at hconfirmed
  have hcall : s.1.monitorStateIs state parameterValue crossedLimit
      = ({ s.1 with currentCounter := s.1.currentCounter + 1 },
          { result := some s.1.oldState }) := by
    rw [MonitorReporter.monitorStateIs, if_pos hne, hconfirmed]
    rfl
  have hspec : s.2.sample s.1.confirmationLimit state = { s.2 with inARow := s.2.inARow + 1 } := by
    rw [Confirmation.sample, if_neg (by rwa [← h.recorded]), if_neg hnot, if_neg]
    rw [← h.counted]
    omega
  have hnext : (s.1.currentCounter + 1).toNat = s.2.inARow + 1 := by
    rw [UInt16.toNat_add, UInt16.toNat_one, Nat.mod_eq_of_lt hcount, h.counted]
  constructor
  · constructor
    · rw [MonitorReporter.call, Confirmation.call, hcall, hspec]
      exact h.recorded
    · rw [MonitorReporter.call, Confirmation.call, hcall, hspec]
      exact hnext
    · rw [MonitorReporter.call, Confirmation.call, hcall, hspec, h.recorded]
      rfl
    · intro _
      rw [MonitorReporter.call, hcall]
      exact (if_pos rfl).symm
  · rw [hcall, hspec]
    use h.recorded, hnext
    dsimp only
    rw [← h.counted]
    omega

/-- A sample that does not have to count beyond the largest number. -/
theorem Agrees.follows_sample (h : Agrees s) (hcounts : CountsOn s.1 state) :
  Follows s (.monitorStateIs state parameterValue crossedLimit)
    ∧ Agrees ((s.1.monitorStateIs state parameterValue crossedLimit).1,
        s.2.sample s.1.confirmationLimit state)
  := by
  by_cases hsame : state = s.1.oldState
  · apply h.follows_same hsame
  · have hrecorded : state ≠ s.2.recorded := by rwa [← h.recorded]
    by_cases himmediate : state = MonitoringIF.invalid ∨ state = MonitoringIF.unchecked
    · apply Agrees.follows_confirmed hsame (isConfirmed_of_immediate himmediate)
      rw [Confirmation.sample, if_neg hrecorded, if_pos himmediate]
    · obtain ⟨hinvalid, hunchecked⟩ := not_or.mp himmediate
      have hcount := hcounts hsame hinvalid hunchecked
      by_cases hlimit : s.1.currentCounter.toNat = s.1.confirmationLimit.toNat
      · apply Agrees.follows_confirmed hsame
        · rw [isConfirmed_of_counted himmediate hcount hlimit.le, if_pos hlimit]
        · rw [Confirmation.sample, if_neg hrecorded, if_neg himmediate, if_pos]
          rw [← h.counted, hlimit]
      · apply h.follows_counted hsame himmediate hcount hlimit

/-- A monitor that should count beyond the largest number does not record the sample. -/
theorem Agrees.countsOn_of_follows (h : Agrees s)
    (hfollows : Follows s (.monitorStateIs state parameterValue crossedLimit)) :
  CountsOn s.1 state
  := by
  intro hne hinvalid hunchecked
  by_contra hfull
  have himmediate := not_or.mpr ⟨hinvalid, hunchecked⟩
  have hlimit : s.2.inARow = s.1.confirmationLimit.toNat := by
    have hlt := s.1.confirmationLimit.toNat_lt
    have hle := h.counter_le
    have hcounted := h.counted
    omega
  have hrecorded := hfollows.recorded
  rw [MonitorReporter.call, Confirmation.call, Confirmation.sample, if_neg (by rwa [← h.recorded]),
    if_neg himmediate, if_pos (by rw [hlimit]), MonitorReporter.monitorStateIs, if_pos hne,
    isConfirmed_of_full himmediate hfull] at hrecorded
  exact hne hrecorded.symm

/-! ### States that are set -/

/-- A call that changes neither the recorded state nor the counter, and reports nothing. -/
theorem Agrees.follows_quiet (h : Agrees s) {c : Call T} {m : MonitorReporter}
    {answer : MonitorAnswer T} (hcall : s.1.call c = (m, answer))
    (hspec : s.2.call s.1.confirmationLimit c = s.2) (hstate : m.oldState = s.1.oldState)
    (hcounter : m.currentCounter = s.1.currentCounter)
    (hlimit : m.confirmationLimit = s.1.confirmationLimit) (hresult : answer.result = s.2.result c)
    (hreports : transitions answer = []) :
  Follows s c ∧ Agrees ((s.1.call c).1, s.2.call s.1.confirmationLimit c)
  := by
  constructor
  · constructor
    · rw [hcall, hspec, hstate]
      exact h.recorded
    · rw [hcall, hspec, hcounter]
      exact h.counted
    · rw [hcall, hspec, hresult]
    · intro _
      rw [hcall, hreports, if_pos hstate]
  · rw [hcall, hspec]
    constructor
    · rw [hstate]
      exact h.recorded
    · rw [hcounter]
      exact h.counted
    · rw [hlimit]
      exact h.counter_le

/-- A call that sets a state follows exactly when it sets it cleanly. -/
theorem Agrees.follows_force_iff (h : Agrees s) {c : Call T}
    (hcall : s.1.call c = s.1.setToState state)
    (hspec : s.2.call s.1.confirmationLimit c = s.2.force state)
    (hresult : (s.2.force state).result c = some .ok) :
  (Follows s c ↔ SetsCleanly s.1 state)
    ∧ (SetsCleanly s.1 state → Agrees ((s.1.call c).1, s.2.call s.1.confirmationLimit c))
  := by
  by_cases hsame : s.1.oldState = state
  · have hset : s.1.setToState (T := T) state = (s.1, { result := some .ok }) := by
      rw [setToState, if_neg fun hset => hset.1 hsame]
    have hforce : s.2.force state = s.2 := by
      rw [Confirmation.force, if_pos (h.recorded.symm.trans hsame)]
    rw [hforce] at hresult hspec
    have hquiet := h.follows_quiet (hcall.trans hset) hspec rfl rfl rfl hresult.symm rfl
    constructor
    · apply iff_of_true hquiet.1
      intro hne
      cases hne hsame
    · intro _
      apply hquiet.2
  · have hforce : s.2.force state = { recorded := state } := by
      rw [Confirmation.force, if_neg (by rwa [← h.recorded])]
    rw [hforce] at hresult hspec
    by_cases hreports : s.1.reportingEnabled = 0
    · have hset : s.1.setToState (T := T) state = (s.1, { result := some .ok }) := by
        rw [setToState, if_neg fun hset => hset.2 hreports]
      constructor
      · constructor
        · intro hfollows
          have hrecorded := hfollows.recorded
          rw [hcall, hset, hspec] at hrecorded
          cases hsame hrecorded
        · intro hclean
          cases (hclean hsame).1 hreports
      · intro hclean
        cases (hclean hsame).1 hreports
    · have hset : s.1.setToState (T := T) state
          = ({ s.1 with oldState := state },
              { result := some .ok
                reports := [⟨s.1.globalPoolId, 0, 0, s.1.oldState, state⟩] }) := by
        rw [setToState, if_pos ⟨hsame, hreports⟩]
      have hzero : s.1.currentCounter.toNat = 0 ↔ s.1.currentCounter = 0 := by
        rw [← UInt16.toNat_zero, UInt16.toNat_inj]
      constructor
      · constructor
        · intro hfollows _
          have hcounted := hfollows.counted
          rw [hcall, hset, hspec] at hcounted
          use hreports, hzero.mp hcounted
        · intro hclean
          constructor
          · rw [hcall, hset, hspec]
          · rw [hcall, hset, hspec]
            exact hzero.mpr (hclean hsame).2
          · rw [hcall, hset, hspec, hresult]
          · intro _
            rw [hcall, hset]
            exact (if_neg (Ne.symm hsame)).symm
      · intro hclean
        rw [hcall, hset, hspec]
        use rfl, hzero.mpr (hclean hsame).2
        apply Nat.zero_le

/-! ### Runs -/

/-- A call follows exactly when it is clean, and it leaves a monitor that has done what it should.
-/
theorem Agrees.follows_iff (h : Agrees s) (c : Call T) :
  (Follows s c ↔ Clean s c)
    ∧ (Clean s c → Agrees ((s.1.call c).1, s.2.call s.1.confirmationLimit c))
  := by
  cases c with
  | monitorStateIs state parameterValue crossedLimit =>
      constructor
      · constructor
        · apply h.countsOn_of_follows
        · intro hcounts
          apply (h.follows_sample hcounts).1
      · intro hcounts
        apply (h.follows_sample hcounts).2
  | setToUnchecked => apply h.follows_force_iff rfl rfl rfl
  | setToInvalid => apply h.follows_force_iff rfl rfl rfl
  | setEventEnabled eventEnabled =>
      have hquiet := h.follows_quiet (c := Call.setEventEnabled (T := T) eventEnabled)
        rfl rfl rfl rfl rfl rfl rfl
      exact ⟨iff_of_true hquiet.1 trivial, fun _ => hquiet.2⟩
  | setReportingEnabled reportingEnabled =>
      have hquiet := h.follows_quiet (c := Call.setReportingEnabled (T := T) reportingEnabled)
        rfl rfl rfl rfl rfl rfl rfl
      exact ⟨iff_of_true hquiet.1 trivial, fun _ => hquiet.2⟩

/-- A new monitor, with any settings of the flags. -/
def new (globalPoolId : GlobalPoolId) (reportingId : ObjectId) (confirmationLimit : UInt16)
    (reportingEnabled eventEnabled : UInt8) : MonitorReporter :=
  { globalPoolId, reportingId, confirmationLimit, reportingEnabled, eventEnabled }

/-- Along a run a monitor does what it should exactly when all calls are clean. -/
theorem along_follows_iff_clean (globalPoolId : GlobalPoolId) (reportingId : ObjectId)
    (confirmationLimit : UInt16) (reportingEnabled eventEnabled : UInt8) (calls : List (Call T)) :
  Step.Along step Follows
      (new globalPoolId reportingId confirmationLimit reportingEnabled eventEnabled, {}) calls
    ↔ Step.Along step Clean
      (new globalPoolId reportingId confirmationLimit reportingEnabled eventEnabled, {}) calls
  := by
  apply Step.along_congr (I := Agrees)
  · intro s c h
    apply (h.follows_iff c).1
  · rintro s c _ _ h hclean ⟨⟩
    apply (h.follows_iff c).2 hclean
  · use rfl, rfl
    apply Nat.zero_le

/-- With reports disabled, a state that is set is not recorded. -/
theorem not_along_follows :
  ¬ ∀ (confirmationLimit : UInt16) (reportingEnabled eventEnabled : UInt8)
    (calls : List (Call ℕ)),
    Step.Along step Follows
      (new ⟨0, 0⟩ 0 confirmationLimit reportingEnabled eventEnabled, {}) calls
  := by
  intro h
  have hrecorded := (h 1 0 1 [.setToInvalid]).1.recorded
  revert hrecorded
  decide

end

end MonitorReporter
