import Fsfw.Events.Event
import Fsfw.Library.Run
import Fsfw.ReturnValues

/-!
# Event reporting

The service receives messages about events, and generates a report of each one while it is enabled.
In a cycle it receives messages until the queue is empty, a report cannot be stored or sent, or the
maximal number of messages is reached.  The number is kept in 8 bits, as is the counter, so that the
loop ends.

Errors of the queue other than `EMPTY` are taken for messages.  Only delivered messages are
reported, once each and in their order, exactly when no such error is received while the service is
enabled (`Service5EventReporting.along_faithful_iff`).
-/

/-- What is reported of an event, under the severity of the event as the subservice. -/
structure EventSourceData where
  reportId : UInt16
  objectId : ObjectId
  parameter1 : UInt32
  parameter2 : UInt32
  deriving DecidableEq, Repr

/-- A telemetry packet of the service. -/
structure EventTelemetry where
  service : UInt8
  subservice : UInt8
  messageTypeCounter : UInt16
  sourceData : EventSourceData
  deriving DecidableEq, Repr

/-- What a message says about its event. -/
def EventReport.reported (message : EventReport) : UInt8 × EventSourceData :=
  (message.severity,
    ⟨message.eventId, message.reporter, message.parameter1, message.parameter2⟩)

/-- What a report says about an event. -/
def EventTelemetry.reported (report : EventTelemetry) : UInt8 × EventSourceData :=
  (report.subservice, report.sourceData)

/-- What is received from the queue, with what the message holds then. -/
structure EventReception where
  status : ReturnValue
  message : EventReport
  deriving DecidableEq, Repr

/-- What the service finds in one cycle: the results of receiving, and of storing and sending the
reports, each at the number of the message. -/
structure EventCycle where
  receiveMessage : ℕ → EventReception
  addPacketToStore : ℕ → ReturnValue
  sendPacket : ℕ → ReturnValue

/-- An error that is not `EMPTY`. -/
def EventReception.Fails (r : EventReception) : Prop :=
  r.status ≠ .ok ∧ r.status ≠ MessageQueueIF.empty

/-- The loop goes on after the message of a number, if it is reported. -/
def EventCycle.GoesOn (cycle : EventCycle) (i : ℕ) : Prop :=
  (cycle.receiveMessage i).status ≠ MessageQueueIF.empty
    ∧ cycle.addPacketToStore i = .ok ∧ cycle.sendPacket i = .ok

/-- From the message of a number on, up to a limit, the loop goes on up to an error. -/
def EventCycle.FailsFrom (cycle : EventCycle) (counter limit : ℕ) : Prop :=
  ∃ i, counter ≤ i ∧ i < limit ∧ (cycle.receiveMessage i).Fails
    ∧ ∀ j, counter ≤ j → j < i → cycle.GoesOn j

structure Service5EventReporting where
  serviceId : UInt8
  enableEventReport : Bool := true
  sendCounter : UInt16 := 0
  maxNumberReportsPerCycle : UInt8
  deriving DecidableEq, Repr

namespace Service5EventReporting

namespace Subservice

def enable : UInt8 := 5

def disable : UInt8 := 6

end Subservice

def new (serviceId : UInt8) (maxNumberReportsPerCycle : ℕ) : Service5EventReporting where
  serviceId := serviceId
  maxNumberReportsPerCycle := .ofNat maxNumberReportsPerCycle

/-- What a call returns, what it receives, and the reports that it generates. -/
structure Answer where
  result : ReturnValue
  receptions : List EventReception := []
  reports : List EventTelemetry := []
  deriving DecidableEq, Repr

/-- What comes of generating a report. -/
structure Generated where
  result : ReturnValue
  report : EventTelemetry
  service : Service5EventReporting
  deriving DecidableEq, Repr

def generateEventReport (s : Service5EventReporting) (message : EventReport)
    (addPacketToStore sendPacket : ReturnValue) : Generated :=
  let report : EventTelemetry :=
    { service := s.serviceId
      subservice := message.severity
      messageTypeCounter := s.sendCounter
      sourceData := ⟨message.eventId, message.reporter, message.parameter1, message.parameter2⟩ }
  if addPacketToStore ≠ .ok then
    ⟨addPacketToStore, report, s⟩
  else if sendPacket ≠ .ok then
    ⟨sendPacket, report, s⟩
  else
    ⟨.ok, report, { s with sendCounter := s.sendCounter + 1 }⟩

theorem maxNumberReportsPerCycle_generateEventReport (s : Service5EventReporting)
    (message : EventReport) (addPacketToStore sendPacket : ReturnValue) :
  (s.generateEventReport message addPacketToStore sendPacket).service.maxNumberReportsPerCycle
    = s.maxNumberReportsPerCycle
  := by
  rw [generateEventReport]
  split_ifs
  · rfl
  · rfl
  · rfl

theorem toNat_counter_add_one {counter limit : UInt8} (h : counter < limit) :
  (counter + 1).toNat = counter.toNat + 1
  := by
  have hlimit := limit.toNat_lt
  rw [UInt8.lt_iff_toNat_lt] at h
  rw [UInt8.toNat_add]
  apply Nat.mod_eq_of_lt
  change counter.toNat + 1 < 2 ^ 8
  omega

/-- The loop of `performService`, from a number of messages on. -/
def performServiceFrom (cycle : EventCycle) (counter : UInt8) (s : Service5EventReporting) :
    Answer × Service5EventReporting :=
  if h : counter < s.maxNumberReportsPerCycle then
    let received := cycle.receiveMessage counter.toNat
    if received.status = MessageQueueIF.empty then
      ({ result := .ok, receptions := [received] }, s)
    else if s.enableEventReport then
      let generated := s.generateEventReport received.message
        (cycle.addPacketToStore counter.toNat) (cycle.sendPacket counter.toNat)
      if generated.result ≠ .ok then
        ({ result := generated.result, receptions := [received], reports := [generated.report] },
          generated.service)
      else
        let rest := performServiceFrom cycle (counter + 1) generated.service
        ({ rest.1 with
            receptions := received :: rest.1.receptions
            reports := generated.report :: rest.1.reports }, rest.2)
    else
      let rest := performServiceFrom cycle (counter + 1) s
      ({ rest.1 with receptions := received :: rest.1.receptions }, rest.2)
  else
    ({ result := .ok }, s)
termination_by s.maxNumberReportsPerCycle.toNat - counter.toNat
decreasing_by
  · have hlimit := s.maxNumberReportsPerCycle_generateEventReport received.message
      (cycle.addPacketToStore counter.toNat) (cycle.sendPacket counter.toNat)
    rw [hlimit, toNat_counter_add_one h]
    apply Nat.sub_succ_lt_self _ _ (UInt8.lt_iff_toNat_lt.mp h)
  · rw [toNat_counter_add_one h]
    apply Nat.sub_succ_lt_self _ _ (UInt8.lt_iff_toNat_lt.mp h)

def performService (s : Service5EventReporting) (cycle : EventCycle) :
    Answer × Service5EventReporting :=
  performServiceFrom cycle 0 s

def handleRequest (s : Service5EventReporting) (subservice : UInt8) :
    ReturnValue × Service5EventReporting :=
  if subservice = Subservice.enable then
    (.ok, { s with enableEventReport := true })
  else if subservice = Subservice.disable then
    (.ok, { s with enableEventReport := false })
  else
    (AcceptsTelecommandsIF.invalidSubservice, s)

/-- A call of the service. -/
inductive Call where
  | performService (cycle : EventCycle)
  | handleRequest (subservice : UInt8)

def call (s : Service5EventReporting) : Call → Answer × Service5EventReporting
  | .performService cycle => s.performService cycle
  | .handleRequest subservice =>
      let (result, s') := s.handleRequest subservice
      ({ result }, s')

def step : Step Service5EventReporting Call Answer := fun s call =>
  let (answer, s') := s.call call
  some (s', answer)

/-! ### Reports -/

/-- A selection of items lies in a smaller one, in order, exactly when they are the same. -/
theorem map_filter_sublist_iff {α β : Type*} (f : α → β) {p q : α → Bool}
    (hqp : ∀ x, q x = true → p x = true) (xs : List α) :
  ((xs.filter p).map f).Sublist ((xs.filter q).map f) ↔ ∀ x ∈ xs, p x = true → q x = true
  := by
  constructor
  · intro h
    have hfilter : (xs.filter p).filter q = xs.filter q := by
      rw [List.filter_filter]
      apply List.filter_congr
      intro x _
      cases hq : q x with
      | true => rw [hqp x hq, Bool.true_and]
      | false => rw [Bool.false_and]
    have hlength := h.length_le
    rw [List.length_map, List.length_map, ← hfilter] at hlength
    have hall := List.length_filter_eq_length_iff.mp (hlength.antisymm' (List.length_filter_le _ _))
    intro x hx hp
    apply hall x (List.mem_filter.mpr ⟨hx, hp⟩)
  · intro h
    have hfilter : xs.filter p = xs.filter q := by
      apply List.filter_congr
      intro x hx
      rw [Bool.eq_iff_iff]
      use h x hx, hqp x
    rw [hfilter]

/-- The messages that are delivered by successful receptions. -/
def Answer.delivered (answer : Answer) : List EventReport :=
  (answer.receptions.filter fun r => r.status = .ok).map EventReception.message

/-- A call is faithful when it reports delivered messages only, each at most once and in their
order, and none while the service is disabled, and handles no more messages than it may. -/
def Faithful (maxNumberReportsPerCycle : ℕ) (s : Service5EventReporting) (call : Call) : Prop :=
  let answer := (s.call call).1
  (answer.reports.map EventTelemetry.reported).Sublist
      ((if s.enableEventReport then answer.delivered else []).map EventReport.reported)
    ∧ answer.delivered.length ≤ maxNumberReportsPerCycle

/-- A call of an enabled service that comes to an error. -/
def ReachesError (s : Service5EventReporting) : Call → Prop
  | .performService cycle =>
      s.enableEventReport = true ∧ cycle.FailsFrom 0 s.maxNumberReportsPerCycle.toNat
  | .handleRequest _ => False

section

variable (s : Service5EventReporting) (message : EventReport)
  (addPacketToStore sendPacket : ReturnValue)

theorem enableEventReport_generateEventReport :
  (s.generateEventReport message addPacketToStore sendPacket).service.enableEventReport
    = s.enableEventReport
  := by
  rw [generateEventReport]
  split_ifs
  · rfl
  · rfl
  · rfl

theorem reported_generateEventReport :
  (s.generateEventReport message addPacketToStore sendPacket).report.reported = message.reported
  := by
  rw [generateEventReport]
  split_ifs
  · rfl
  · rfl
  · rfl

theorem result_generateEventReport :
  (s.generateEventReport message addPacketToStore sendPacket).result = .ok
    ↔ addPacketToStore = .ok ∧ sendPacket = .ok
  := by
  rw [generateEventReport]
  split_ifs with hstore hsend
  · exact iff_of_false hstore fun h => hstore h.1
  · exact iff_of_false hsend fun h => hsend h.2
  · exact iff_of_true rfl ⟨not_not.mp hstore, not_not.mp hsend⟩

end

section

variable (cycle : EventCycle) (counter : UInt8) (s : Service5EventReporting)

/-- The number of messages is bounded. -/
theorem length_receptions_le :
  (performServiceFrom cycle counter s).1.receptions.length
    ≤ s.maxNumberReportsPerCycle.toNat - counter.toNat
  := by
  fun_induction performServiceFrom cycle counter s with
  | case1 counter s h received hempty =>
      rw [UInt8.lt_iff_toNat_lt] at h
      rw [List.length_singleton]
      omega
  | case2 counter s h received hnonempty henabled generated hresult =>
      rw [UInt8.lt_iff_toNat_lt] at h
      rw [List.length_singleton]
      omega
  | case3 counter s h received hnonempty henabled generated hresult rest ih =>
      have hrest : rest.1.receptions.length
          ≤ generated.service.maxNumberReportsPerCycle.toNat - (counter + 1).toNat := ih
      rw [maxNumberReportsPerCycle_generateEventReport, toNat_counter_add_one h] at hrest
      rw [UInt8.lt_iff_toNat_lt] at h
      rw [List.length_cons]
      omega
  | case4 counter s h received hnonempty hdisabled rest ih =>
      have hrest : rest.1.receptions.length
          ≤ s.maxNumberReportsPerCycle.toNat - (counter + 1).toNat := ih
      rw [toNat_counter_add_one h] at hrest
      rw [UInt8.lt_iff_toNat_lt] at h
      rw [List.length_cons]
      omega
  | case5 counter s h =>
      exact Nat.zero_le _

/-- A service that is disabled generates no reports. -/
theorem reports_of_disabled (hdisabled : s.enableEventReport = false) :
  (performServiceFrom cycle counter s).1.reports = []
  := by
  fun_induction performServiceFrom cycle counter s with
  | case1 counter s h received hempty => rfl
  | case2 counter s h received hnonempty henabled => cases hdisabled.symm.trans henabled
  | case3 counter s h received hnonempty henabled => cases hdisabled.symm.trans henabled
  | case4 counter s h received hnonempty _ rest ih => exact ih hdisabled
  | case5 counter s h => rfl

/-- A service that is enabled reports whatever it receives, unless the queue is empty. -/
theorem reports_of_enabled (henabled : s.enableEventReport = true) :
  (performServiceFrom cycle counter s).1.reports.map EventTelemetry.reported
    = ((performServiceFrom cycle counter s).1.receptions.filter
        fun r => r.status ≠ MessageQueueIF.empty).map fun r => r.message.reported
  := by
  fun_induction performServiceFrom cycle counter s with
  | case1 counter s h received hempty =>
      rw [List.filter_cons_of_neg (by simpa using hempty)]
      rfl
  | case2 counter s h received hnonempty _ generated hresult =>
      have hreport : generated.report.reported = received.message.reported :=
        reported_generateEventReport _ _ _ _
      rw [List.filter_cons_of_pos (by simpa using hnonempty), List.map_singleton, hreport]
      rfl
  | case3 counter s h received hnonempty _ generated hresult rest ih =>
      have hreport : generated.report.reported = received.message.reported :=
        reported_generateEventReport _ _ _ _
      have hservice : generated.service.enableEventReport = true :=
        (enableEventReport_generateEventReport _ _ _ _).trans henabled
      rw [List.filter_cons_of_pos (by simpa using hnonempty), List.map_cons, List.map_cons, hreport]
      congr 1
      exact ih hservice
  | case4 counter s h received hnonempty hdisabled rest ih => cases hdisabled henabled
  | case5 counter s h => rfl

/-- The loop comes to an error at once, or goes on and comes to one then. -/
theorem failsFrom_iff {counter limit : ℕ} (h : counter < limit) :
  cycle.FailsFrom counter limit
    ↔ (cycle.receiveMessage counter).Fails
      ∨ (cycle.GoesOn counter ∧ cycle.FailsFrom (counter + 1) limit)
  := by
  constructor
  · rintro ⟨i, hi, hlimit, hfails, hbefore⟩
    rcases hi.eq_or_lt with rfl | hi
    · exact Or.inl hfails
    · right
      use hbefore counter le_rfl hi, i, hi, hlimit, hfails
      intro j hj
      apply hbefore j (Nat.le_of_succ_le hj)
  · rintro (hfails | ⟨hgoes, i, hi, hlimit, hfails, hbefore⟩)
    · exact ⟨counter, le_rfl, h, hfails, fun j hj hj' => absurd hj' hj.not_gt⟩
    · refine ⟨i, Nat.le_of_succ_le hi, hlimit, hfails, fun j hj hj' => ?_⟩
      rcases hj.eq_or_lt with rfl | hj
      · exact hgoes
      · exact hbefore j hj hj'

/-- An error is received when the loop goes on up to it. -/
theorem exists_fails_iff (henabled : s.enableEventReport = true) :
  (∃ r ∈ (performServiceFrom cycle counter s).1.receptions, r.Fails)
    ↔ cycle.FailsFrom counter.toNat s.maxNumberReportsPerCycle.toNat
  := by
  fun_induction performServiceFrom cycle counter s with
  | case1 counter s h received hempty =>
      rw [failsFrom_iff cycle (UInt8.lt_iff_toNat_lt.mp h)]
      apply iff_of_false
      · rintro ⟨r, hr, hfails⟩
        obtain rfl := List.mem_singleton.mp hr
        exact hfails.2 hempty
      · rintro (hfails | ⟨hgoes, -⟩)
        · exact hfails.2 hempty
        · exact hgoes.1 hempty
  | case2 counter s h received hnonempty _ generated hresult =>
      have hstop : ¬cycle.GoesOn counter.toNat := fun hgoes =>
        hresult ((result_generateEventReport _ _ _ _).mpr hgoes.2)
      rw [failsFrom_iff cycle (UInt8.lt_iff_toNat_lt.mp h), or_iff_left fun hgoes => hstop hgoes.1]
      simp only [List.mem_singleton, exists_eq_left]
      rfl
  | case3 counter s h received hnonempty _ generated hresult rest ih =>
      have hgoes : cycle.GoesOn counter.toNat :=
        ⟨hnonempty, (result_generateEventReport _ _ _ _).mp (not_not.mp hresult)⟩
      have hservice : generated.service.enableEventReport = true :=
        (enableEventReport_generateEventReport _ _ _ _).trans henabled
      have hrest := ih hservice
      rw [maxNumberReportsPerCycle_generateEventReport, toNat_counter_add_one h] at hrest
      rw [failsFrom_iff cycle (UInt8.lt_iff_toNat_lt.mp h), and_iff_right hgoes, ← hrest]
      simp only [List.mem_cons, exists_eq_or_imp]
      rfl
  | case4 counter s h received hnonempty hdisabled rest ih => cases hdisabled henabled
  | case5 counter s h =>
      rw [UInt8.lt_iff_toNat_lt] at h
      apply iff_of_false
      · rintro ⟨r, hr, -⟩
        cases hr
      · rintro ⟨i, hi, hlimit, -⟩
        exact h (hi.trans_lt hlimit)

/-- A service that is enabled reports delivered messages only when it receives no errors. -/
theorem sublist_iff (henabled : s.enableEventReport = true) :
  ((performServiceFrom cycle counter s).1.reports.map EventTelemetry.reported).Sublist
      ((performServiceFrom cycle counter s).1.delivered.map EventReport.reported)
    ↔ ∀ r ∈ (performServiceFrom cycle counter s).1.receptions, ¬r.Fails
  := by
  rw [reports_of_enabled cycle counter s henabled, Answer.delivered, List.map_map]
  have hsublist := map_filter_sublist_iff (fun r : EventReception => r.message.reported)
    (p := fun r => r.status ≠ MessageQueueIF.empty) (q := fun r => r.status = .ok) (fun r hr => by
      rw [decide_eq_true_eq] at hr ⊢
      rw [hr]
      decide)
    (performServiceFrom cycle counter s).1.receptions
  apply hsublist.trans
  apply forall₂_congr
  intro r _
  rw [EventReception.Fails, decide_eq_true_eq, decide_eq_true_eq, not_and, not_imp_not]

theorem enableEventReport_performServiceFrom :
  (performServiceFrom cycle counter s).2.enableEventReport = s.enableEventReport
  := by
  fun_induction performServiceFrom cycle counter s with
  | case1 counter s h received hempty => rfl
  | case2 counter s h received hnonempty henabled generated hresult =>
      apply enableEventReport_generateEventReport
  | case3 counter s h received hnonempty henabled generated hresult rest ih =>
      apply ih.trans
      apply enableEventReport_generateEventReport
  | case4 counter s h received hnonempty hdisabled rest ih => exact ih
  | case5 counter s h => rfl

theorem maxNumberReportsPerCycle_performServiceFrom :
  (performServiceFrom cycle counter s).2.maxNumberReportsPerCycle = s.maxNumberReportsPerCycle
  := by
  fun_induction performServiceFrom cycle counter s with
  | case1 counter s h received hempty => rfl
  | case2 counter s h received hnonempty henabled generated hresult =>
      apply maxNumberReportsPerCycle_generateEventReport
  | case3 counter s h received hnonempty henabled generated hresult rest ih =>
      apply ih.trans
      apply maxNumberReportsPerCycle_generateEventReport
  | case4 counter s h received hnonempty hdisabled rest ih => exact ih
  | case5 counter s h => rfl

end

/-- A call handles no more messages than it may. -/
theorem length_delivered_le (s : Service5EventReporting) {maxNumberReportsPerCycle : ℕ}
    (hlimit : s.maxNumberReportsPerCycle = .ofNat maxNumberReportsPerCycle) (cycle : EventCycle) :
  (s.performService cycle).1.delivered.length ≤ maxNumberReportsPerCycle
  := by
  rw [Answer.delivered, List.length_map]
  calc _ ≤ (s.performService cycle).1.receptions.length := List.length_filter_le _ _
    _ ≤ s.maxNumberReportsPerCycle.toNat := length_receptions_le cycle 0 s
    _ ≤ maxNumberReportsPerCycle := by
        rw [hlimit, UInt8.toNat_ofNat']
        apply Nat.mod_le

/-- A call is faithful exactly when it does not come to an error while the service is enabled. -/
theorem faithful_iff (s : Service5EventReporting) {maxNumberReportsPerCycle : ℕ}
    (hlimit : s.maxNumberReportsPerCycle = .ofNat maxNumberReportsPerCycle) (call : Call) :
  s.Faithful maxNumberReportsPerCycle call ↔ ¬s.ReachesError call
  := by
  cases call with
  | handleRequest subservice =>
      exact iff_of_true ⟨List.nil_sublist _, Nat.zero_le _⟩ not_false
  | performService cycle =>
      have hlength := s.length_delivered_le hlimit cycle
      rw [Faithful, ReachesError]
      dsimp only [call]
      rw [and_iff_left hlength, performService]
      cases henabled : s.enableEventReport with
      | true =>
          simp only [if_true, true_and]
          rw [sublist_iff cycle 0 s henabled]
          have hfails := exists_fails_iff cycle 0 s henabled
          change _ ↔ ¬cycle.FailsFrom (0 : UInt8).toNat _
          rw [← hfails]
          simp only [not_exists, not_and]
      | false =>
          rw [reports_of_disabled cycle 0 s henabled]
          simp

/-- Whether the service is enabled after a call. -/
def switched (enabled : Bool) : Call → Bool
  | .performService _ => enabled
  | .handleRequest subservice =>
      if subservice = Subservice.enable then
        true
      else if subservice = Subservice.disable then
        false
      else
        enabled

/-- After a run the service is enabled as the last request to enable or disable it has asked. -/
theorem enableEventReport_run {s s' : Service5EventReporting} {calls : List Call}
    {answers : List Answer} (h : step.run s calls = some (s', answers)) :
  s'.enableEventReport = calls.foldl switched s.enableEventReport
  := by
  induction calls generalizing s answers with
  | nil =>
      cases h
      rfl
  | cons call calls ih =>
      obtain ⟨s₁, answer, answers', hstep, hrun, -⟩ := Step.run_cons_inv h
      rw [ih hrun, List.foldl_cons]
      congr 1
      cases hstep
      cases call with
      | performService cycle => apply enableEventReport_performServiceFrom
      | handleRequest subservice =>
          change (s.handleRequest subservice).2.enableEventReport = _
          rw [handleRequest, switched]
          split_ifs
          · rfl
          · rfl
          · rfl

/-- Along every run of calls, the calls are faithful exactly when none of them comes to an error
while the service is enabled. -/
theorem along_faithful_iff (serviceId : UInt8) (maxNumberReportsPerCycle : ℕ) (calls : List Call) :
  step.Along (Faithful maxNumberReportsPerCycle) (new serviceId maxNumberReportsPerCycle) calls
    ↔ step.Along (fun s call => ¬s.ReachesError call)
        (new serviceId maxNumberReportsPerCycle) calls
  := by
  apply Step.along_congr
    (I := fun s => s.maxNumberReportsPerCycle = .ofNat maxNumberReportsPerCycle)
  · intro s call hlimit
    apply faithful_iff s hlimit
  · intro s call s' answer hlimit _ hstep
    cases hstep
    rw [← hlimit]
    cases call with
    | performService cycle => apply maxNumberReportsPerCycle_performServiceFrom
    | handleRequest subservice =>
        change (s.handleRequest subservice).2.maxNumberReportsPerCycle = _
        rw [handleRequest]
        split_ifs
        · rfl
        · rfl
        · rfl
  · rfl

/-- An error of the queue is taken for a message. -/
theorem not_along_faithful :
  ¬ ∀ (serviceId : UInt8) (maxNumberReportsPerCycle : ℕ) (calls : List Call),
    step.Along (Faithful maxNumberReportsPerCycle) (new serviceId maxNumberReportsPerCycle) calls
  := by
  intro h
  let message : EventReport := .new ⟨0, 0⟩ 0 0 0 0
  let cycle : EventCycle := ⟨fun _ => ⟨.failed, message⟩, fun _ => .ok, fun _ => .ok⟩
  have hcall := (h 5 10 [.performService cycle]).1
  rw [faithful_iff _ rfl] at hcall
  apply hcall
  refine ⟨rfl, 0, le_rfl, by decide, ⟨nofun, nofun⟩, fun j _ hj => absurd hj j.not_lt_zero⟩

end Service5EventReporting
