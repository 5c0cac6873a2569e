import Fsfw.Container.FiniteMap
import Fsfw.TmTcServices.CommandingServiceBase

/-!
# Timeouts of commands

The loop of `checkTimeout` erases entries from the command map while it goes over it.  It looks
at every command that was active when it began exactly once, and not at commands that it has
started itself (`checkTimeoutLoop_visits`).

A command is to be given up when more than `timeoutSeconds` have passed since its start.  The
uptimes are numbers of 32 bits, and so is the sum that the uptime is compared with.  The comparison
is right exactly when the sum has wrapped around together with the uptime (`checksExactly_iff`).
-/

open Memory

namespace FixedMap

variable {κ ν : Type} {m : FixedMap κ ν} {i : ℕ}

theorem stored_drop (h : i < m.size) :
  m.stored.drop i = m.theMap i :: m.stored.drop (i + 1)
  := by
  have hlen : i < m.stored.length := by rwa [length_stored]
  have hget : m.stored[i]? = some (m.theMap i) := by
    rw [stored, getElem?_slice, if_pos h, Nat.zero_add]
  rw [List.getElem?_eq_getElem hlen, Option.some_inj] at hget
  rw [List.drop_eq_getElem_cons hlen, hget]

/-- The pairs from a removed one on are what is left of them. -/
theorem perm_drop_remove (h : i < m.size) :
  List.Perm (m.theMap i :: (m.remove i).stored.drop i) (m.stored.drop i)
  := by
  have htake : (m.remove i).stored.take i = m.stored.take i := by
    simp only [stored, remove]
    rw [take_slice _ (by omega), take_slice _ (Nat.le_of_lt h), slice_overwrite_of_disjoint]
    left
    omega
  have hperm := perm_remove h
  rw [← List.take_append_drop i (m.remove i).stored, htake] at hperm
  have hmove := List.perm_middle.trans hperm
  conv at hmove => rhs; rw [← List.take_append_drop i m.stored]
  exact (List.perm_append_left_iff _).mp hmove

/-- The map with another value for the key of the cell `i`. -/
def replace (m : FixedMap κ ν) (i : ℕ) (x : κ × ν) : FixedMap κ ν :=
  { m with theMap := overwrite m.theMap i [x] }

theorem drop_replace (x : κ × ν) :
  (m.replace i x).stored.drop (i + 1) = m.stored.drop (i + 1)
  := by
  apply List.ext_getElem?
  intro k
  rw [List.getElem?_drop, List.getElem?_drop, stored, stored, getElem?_slice, getElem?_slice]
  simp only [FixedMap.replace]
  rw [overwrite_of_ge (show i + [x].length ≤ 0 + (i + 1 + k) by simp)]
  rfl

theorem Inv.replace (hm : m.Inv) (h : i < m.size) {x : κ × ν} (hkey : x.1 = (m.theMap i).1) :
  (m.replace i x).Inv
  where
  size_le := hm.size_le
  nodup := by
    have hkeys : (m.replace i x).stored.map Prod.fst = m.stored.map Prod.fst := by
      apply List.ext_getElem?
      intro k
      rw [List.getElem?_map, List.getElem?_map, stored, stored, getElem?_slice, getElem?_slice]
      simp only [FixedMap.replace, Nat.zero_add]
      split
      · rcases eq_or_ne k i with rfl | hne
        · have hself : overwrite m.theMap k [x] (k + 0) = _ := overwrite_add (by simp)
          rw [Nat.add_zero] at hself
          simp [hself, hkey]
        · rcases Nat.lt_or_gt_of_ne hne with hlt | hgt
          · rw [overwrite_of_lt hlt]
          · rw [overwrite_of_ge (by simp; omega)]
      · rfl
    rw [hkeys]
    apply hm.nodup

end FixedMap

namespace CommandingServiceBase

variable {σ γ : Type} {B : CommandingServiceBase σ γ} {c c' c'' : CommandingServiceState σ γ}

/-! ### Starting commands reports no timeouts -/

/-- The reports of commands that have failed after their start. -/
def completionFailures (c : CommandingServiceState σ γ) : List CommandReport :=
  c.reports.filter fun report => report.reportId = .completionFailure

/-- The command map, the parameters of reports and the failed commands stay the same. -/
structure Keeps (c c' : CommandingServiceState σ γ) : Prop where
  commandMap_eq : c'.commandMap = c.commandMap
  failParams_eq : c'.failParams = c.failParams
  completionFailures_eq : completionFailures c' = completionFailures c

theorem Keeps.trans (h : Keeps c c') (h' : Keeps c' c'') :
  Keeps c c''
  where
  commandMap_eq := h'.commandMap_eq.trans h.commandMap_eq
  failParams_eq := h'.failParams_eq.trans h.failParams_eq
  completionFailures_eq := h'.completionFailures_eq.trans h.completionFailures_eq

theorem keeps_report {report : CommandReport} (h : report.reportId ≠ .completionFailure)
    (c : CommandingServiceState σ γ) :
  Keeps c { c with reports := c.reports ++ [report] }
  where
  commandMap_eq := rfl
  failParams_eq := rfl
  completionFailures_eq := by
    simp [completionFailures, h]

theorem keeps_rejectPacket {reportId : TcVerif} (h : reportId ≠ .completionFailure)
    (storeId : StoreAddress) (errorCode : ReturnValue) (c : CommandingServiceState σ γ) :
  Keeps c (B.rejectPacket reportId storeId errorCode c)
  := (keeps_report h c).trans ⟨rfl, rfl, rfl⟩

theorem keeps_acceptPacket {reportId : TcVerif} (h : reportId ≠ .completionFailure)
    (storeId : StoreAddress) (c : CommandingServiceState σ γ) :
  Keeps c (B.acceptPacket reportId storeId c)
  := (keeps_report h c).trans ⟨rfl, rfl, rfl⟩

theorem keeps_sendCommand {queue : MessageQueueId} {message : CommandMessage}
    {result : ReturnValue} (h : B.sendCommand queue message c = (result, c')) :
  Keeps c c'
  := by
  rw [sendCommand] at h
  split at h
  · cases h
    exact ⟨rfl, rfl, rfl⟩
  · cases h
    exact ⟨rfl, rfl, rfl⟩

theorem keeps_startExecutionThen {next : CommandInfo → CommandingServiceState σ γ →
      Option CommandInfo × CommandingServiceState σ γ}
    (hnext : ∀ info c, Keeps c (next info c).2) (storeId : StoreAddress) (queue : MessageQueueId)
    (info : CommandInfo) (c : CommandingServiceState σ γ) :
  Keeps c (B.startExecutionThen next storeId queue info c).2
  := by
  have hchild (c : CommandingServiceState σ γ) (child : γ) : Keeps c { c with child := child } :=
    ⟨rfl, rfl, rfl⟩
  have hrefused (c : CommandingServiceState σ γ) (errorCode : ReturnValue) (info : CommandInfo) :
      Keeps c (next info (B.rejectPacket .startFailure storeId errorCode c)).2 :=
    (keeps_rejectPacket TcVerif.noConfusion storeId errorCode c).trans (hnext _ _)
  simp only [startExecutionThen]
  split_ifs
  · split
    · rename_i c₁ hsend
      apply (hchild _ _).trans
      apply (keeps_sendCommand hsend).trans
      apply (hchild _ _).trans
      exact keeps_acceptPacket TcVerif.noConfusion _ _
    · rename_i sendResult c₁ _ hsend
      apply (hchild _ _).trans
      apply (keeps_sendCommand hsend).trans
      apply (hchild _ _).trans
      apply hrefused
  · split
    · rename_i c₁ hsend
      apply (hchild _ _).trans
      apply (keeps_sendCommand hsend).trans
      have hstarted : Keeps c₁ (reportSuccess .startSuccess c₁) :=
        keeps_report (by simp [VerificationReport.success]) c₁
      apply hstarted.trans
      exact (keeps_acceptPacket TcVerif.noConfusion storeId _).trans (hnext _ _)
    · rename_i sendResult c₁ _ hsend
      apply (hchild _ _).trans
      apply (keeps_sendCommand hsend).trans
      apply (hchild _ _).trans
      apply hrefused
  · apply (hchild _ _).trans
    apply hrefused

theorem keeps_setUpTcReader {storeId : StoreAddress} {result : ReturnValue}
    (h : B.setUpTcReader storeId c = (result, c')) :
  Keeps c c'
  := by
  cases h
  exact ⟨rfl, rfl, rfl⟩

theorem keeps_checkAndExecuteFifo (queue : MessageQueueId) (rounds : ℕ) (info : CommandInfo)
    (c : CommandingServiceState σ γ) :
  Keeps c (B.checkAndExecuteFifo queue rounds info c).2
  := by
  induction rounds generalizing info c with
  | zero =>
      exact ⟨rfl, rfl, rfl⟩
  | succ rounds ih =>
      rw [checkAndExecuteFifo]
      split
      · simp only
        split
        · rename_i c₁ hreader
          apply (keeps_setUpTcReader hreader).trans
          apply keeps_startExecutionThen ih
        · rename_i result c₁ _ hreader
          apply (keeps_setUpTcReader hreader).trans
          apply keeps_rejectPacket (by decide)
      · exact ⟨rfl, rfl, rfl⟩


/-! ### The loop over the command map -/

/-- The report that a command has timed out. -/
def timeoutReport (step : UInt8) (tcInfo : TcInfo) : CommandReport where
  reportId := .completionFailure
  tcPacketId := tcInfo.tcPacketId
  tcPsc := tcInfo.tcSequenceControl
  errorCode := AcceptsTelecommandsIF.timeout
  step := step
  ackFlags := tcInfo.ackFlags

theorem keeps_timeout (B : CommandingServiceBase σ γ) (queue : MessageQueueId)
    (info : CommandInfo) (c : CommandingServiceState σ γ) :
  let r := B.executeFifo queue info (sendFailureReport (prepareVerificationFailureWithFullInfo
    .completionFailure info.tcInfo AcceptsTelecommandsIF.timeout false c))
  r.2.commandMap = c.commandMap ∧ r.2.failParams.step = c.failParams.step ∧
    completionFailures r.2 =
      completionFailures c ++ [timeoutReport c.failParams.step info.tcInfo]
  := by
  intro r
  have hkeeps : Keeps _ r.2 := keeps_checkAndExecuteFifo _ _ _ _
  refine ⟨hkeeps.commandMap_eq, by rw [hkeeps.failParams_eq]; rfl, ?_⟩
  rw [hkeeps.completionFailures_eq]
  simp [completionFailures, sendFailureReport, prepareVerificationFailureWithFullInfo,
    timeoutReport]

/-- When the entry under an iterator is settled, the loop goes on with the pairs behind it, and
the others are where they were or have come to its place. -/
theorem settle_spec {iter : ℕ} {queue : MessageQueueId}
    {r : Option CommandInfo × CommandingServiceState σ γ} (hmap : r.2.commandMap.Inv)
    (hiter : iter < r.2.commandMap.size) (hqueue : (r.2.commandMap.theMap iter).1 = queue) :
  ∃ iter' commandMap,
    settle iter queue r = some (iter', { r.2 with commandMap := commandMap }) ∧
    commandMap.Inv ∧
    (iter' + 1).toNat + (r.2.commandMap.size - (iter + 1)) = commandMap.size ∧
    (r.2.commandMap.theMap iter :: commandMap.stored.drop (iter' + 1).toNat).Perm
      (r.2.commandMap.stored.drop iter)
  := by
  obtain ⟨_ | info, c⟩ := r
  · dsimp only at hmap hiter ⊢
    rw [settle, hmap.eraseIterator_eq hiter]
    refine ⟨_, _, rfl, hmap.remove hiter, ?_, ?_⟩
    · simp only [FixedMap.remove]
      omega
    · simpa using FixedMap.perm_drop_remove hiter
  · dsimp only at hmap hiter hqueue ⊢
    have hmax := hmap.size_le
    rw [settle, FixedMap.write_of_lt (by omega)]
    refine ⟨_, _, rfl, hmap.replace hiter hqueue.symm, ?_, ?_⟩
    · simp only
      omega
    · rw [FixedMap.stored_drop hiter]
      apply List.Perm.cons
      exact List.Perm.of_eq (FixedMap.drop_replace _)

/-- What the loop has done from an iterator on. -/
structure Visits (B : CommandingServiceBase σ γ) (uptime : UInt32) (iter : ℕ)
    (c c' : CommandingServiceState σ γ) (visits : List Visit) : Prop where
  visited : (visits.map fun v => (v.queue, v.info)).Perm (c.commandMap.stored.drop iter)
  reports : completionFailures c' = completionFailures c ++
    (visits.filter Visit.reported).map fun v => timeoutReport c.failParams.step v.info.tcInfo
  reported : ∀ v ∈ visits, v.reported =
    decide (v.info.uptimeOfStart + B.timeoutSeconds.toUInt32 * 1000 < uptime)

theorem checkTimeoutLoop_visits {uptime : UInt32} {rounds iter : ℕ}
    {c : CommandingServiceState σ γ} (hmap : c.commandMap.Inv)
    (hrounds : iter + rounds = c.commandMap.size + 1) (hiter : iter ≤ c.commandMap.size) :
  ∃ c' visits, B.checkTimeoutLoop uptime rounds iter c = some (c', visits) ∧
    B.Visits uptime iter c c' visits
  := by
  induction rounds generalizing iter c with
  | zero => omega
  | succ rounds ih =>
      rw [checkTimeoutLoop]
      rcases hiter.eq_or_lt with rfl | hlt
      · refine ⟨c, [], if_pos rfl, ?_, by simp, by simp⟩
        rw [List.drop_of_length_le (FixedMap.length_stored _).le]
        apply List.Perm.nil
      · have hread := FixedMap.read_of_lt (Nat.lt_of_lt_of_le hlt hmap.size_le)
        rcases hcell : c.commandMap.theMap iter with ⟨queue, info⟩
        rw [if_neg hlt.ne, hread, hcell]
        simp only [Option.bind_eq_bind, Option.bind_some]
        split_ifs with htimeout
        · -- the entry under the iterator is settled, and the loop goes on behind it
          obtain ⟨hcommandMap, hstep, hreports⟩ := keeps_timeout B queue info c
          set r := B.executeFifo queue info _
          rw [← hcommandMap] at hmap hlt hcell hrounds
          obtain ⟨iter', commandMap, hsettle, hmap', hsize, hperm⟩ :=
            settle_spec hmap hlt (by rw [hcell])
          set c₁ : CommandingServiceState σ γ := { r.2 with commandMap := commandMap } with hc₁
          have hrounds₁ : (iter' + 1).toNat + rounds = c₁.commandMap.size + 1 := by
            simp only [hc₁]
            omega
          obtain ⟨c', visits, hloop, hvisits⟩ := ih (c := c₁) hmap' hrounds₁ (by omega)
          refine ⟨c', ⟨queue, info, true⟩ :: visits, by simp [hsettle, hloop], ?_, ?_, ?_⟩
          · rw [← hcommandMap]
            apply (hvisits.visited.cons (queue, info)).trans
            rw [← hcell]
            apply hperm
          · have hfailures := hvisits.reports
            rw [show c₁.failParams.step = c.failParams.step from hstep] at hfailures
            calc
              _ = completionFailures r.2 ++ _ := hfailures
              _ = _ := by simp [hreports]
          · rintro v (_ | ⟨_, hv⟩)
            · simp [htimeout]
            · exact hvisits.reported v hv
        · obtain ⟨c', visits, hloop, hvisits⟩ := ih hmap (by omega) hlt
          refine ⟨c', ⟨queue, info, false⟩ :: visits, by rw [hloop]; rfl, ?_, ?_, ?_⟩
          · rw [FixedMap.stored_drop hlt, hcell]
            apply hvisits.visited.cons
          · simpa using hvisits.reports
          · rintro v (_ | ⟨_, hv⟩)
            · simp [htimeout]
            · exact hvisits.reported v hv

/-! ### Exactness -/

/-- Every command that is active when `checkTimeout` begins is looked at exactly once, and a
timeout is reported exactly of the commands that have been active for more than `timeoutSeconds`.
The time when the command for a queue was started, and the present one, are in milliseconds. -/
def ChecksExactly (B : CommandingServiceBase σ γ) (c : CommandingServiceState σ γ)
    (start : MessageQueueId → ℕ) (now : ℕ) : Prop :=
  ∃ c' visits, B.checkTimeout c = some (c', visits) ∧
    (visits.map fun v => (v.queue, v.info)).Perm c.commandMap.stored ∧
    completionFailures c' = completionFailures c ++
      (visits.filter Visit.reported).map (fun v =>
        timeoutReport c.failParams.step v.info.tcInfo) ∧
    ∀ v ∈ visits, v.reported = true ↔
      B.timeoutSeconds.toNat * 1000 < now - start v.queue

theorem checkTimeout_visits (hmap : c.commandMap.Inv) :
  ∃ c' visits, B.checkTimeout c = some (c', visits) ∧
    B.Visits (B.child.getUptime c.child).1 0 c c' visits
  := by
  rw [checkTimeout]
  rcases B.child.getUptime c.child with ⟨uptime, child⟩
  set c₁ : CommandingServiceState σ γ := { c with child := child }
  obtain ⟨c', visits, hloop, hvisits⟩ : ∃ c' visits,
      B.checkTimeoutLoop uptime (c.commandMap.size + 1) 0 c₁ = some (c', visits) ∧
        B.Visits uptime 0 c₁ c' visits :=
    checkTimeoutLoop_visits hmap (Nat.zero_add _) (Nat.zero_le _)
  exact ⟨c', visits, hloop, hvisits.visited, hvisits.reports, hvisits.reported⟩

/-- The comparison of two uptimes tells how long it has been exactly when the sum wraps around
together with the uptime. -/
theorem timeout_iff {uptimeOfStart uptime : UInt32} {seconds : UInt16} {start now : ℕ}
    (hstart : uptimeOfStart.toNat = start % 2 ^ 32) (huptime : uptime.toNat = now % 2 ^ 32)
    (hle : start ≤ now) (helapsed : now - start < 2 ^ 32) :
  (uptimeOfStart + seconds.toUInt32 * 1000 < uptime ↔ seconds.toNat * 1000 < now - start) ↔
    (2 ^ 32 ≤ start % 2 ^ 32 + seconds.toNat * 1000 ↔ now % 2 ^ 32 < start % 2 ^ 32)
  := by
  have hseconds := seconds.toNat_lt
  have hproduct : (seconds.toUInt32 * 1000).toNat = seconds.toNat * 1000 := by
    simp [UInt32.toNat_mul]
    omega
  rw [UInt32.lt_iff_toNat_lt, UInt32.toNat_add, hproduct, hstart, huptime]
  omega

/-- The check of timeouts is exact if and only if, for every active command, the end of its time
wraps around exactly when the uptime has. -/
theorem checksExactly_iff {start : MessageQueueId → ℕ} {now : ℕ} (hmap : c.commandMap.Inv)
    (huptime : (B.child.getUptime c.child).1.toNat = now % 2 ^ 32)
    (hstart : ∀ x ∈ c.commandMap.stored, x.2.uptimeOfStart.toNat = start x.1 % 2 ^ 32 ∧
      start x.1 ≤ now ∧ now - start x.1 < 2 ^ 32) :
  B.ChecksExactly c start now ↔
    ∀ x ∈ c.commandMap.stored,
      (2 ^ 32 ≤ start x.1 % 2 ^ 32 + B.timeoutSeconds.toNat * 1000 ↔
        now % 2 ^ 32 < start x.1 % 2 ^ 32)
  := by
  obtain ⟨c', visits, hcheck, hvisits⟩ := checkTimeout_visits (B := B) hmap
  have hperm : (visits.map fun v => (v.queue, v.info)).Perm c.commandMap.stored :=
    hvisits.visited
  have hreported (v : Visit) (hv : v ∈ visits) :
      (v.reported = true ↔ B.timeoutSeconds.toNat * 1000 < now - start v.queue) ↔
        (2 ^ 32 ≤ start v.queue % 2 ^ 32 + B.timeoutSeconds.toNat * 1000 ↔
          now % 2 ^ 32 < start v.queue % 2 ^ 32) := by
    have hstored : (v.queue, v.info) ∈ c.commandMap.stored :=
      hperm.mem_iff.mp (List.mem_map_of_mem hv)
    obtain ⟨hv₁, hv₂, hv₃⟩ := hstart _ hstored
    rw [hvisits.reported v hv, decide_eq_true_iff]
    exact timeout_iff hv₁ huptime hv₂ hv₃
  constructor
  · rintro ⟨c'', visits', hcheck', -, -, hexact⟩ x hx
    obtain ⟨rfl, rfl⟩ : c' = c'' ∧ visits = visits' := by simpa [hcheck] using hcheck'
    obtain ⟨v, hv, rfl⟩ := List.mem_map.mp (hperm.mem_iff.mpr hx)
    exact (hreported v hv).mp (hexact v hv)
  · intro hwrap
    refine ⟨c', visits, hcheck, hperm, hvisits.reports, fun v hv => ?_⟩
    apply (hreported v hv).mpr
    exact hwrap _ (hperm.mem_iff.mp (List.mem_map_of_mem hv))

/-- A service that gives its commands ten seconds. The state of its child is the uptime. -/
def tenSeconds : CommandingServiceBase (StoreAddress → Option (List UInt8)) UInt32 where
  tcStore := tableStore 8
  child :=
    { isValidSubservice := fun _ _ => .ok
      getMessageQueueAndObject := fun _ _ uptime => (.ok, 1, 0, uptime)
      prepareCommand := fun _ _ state _ uptime => (⟨.ok, ⟨0, 1, .ok⟩, state⟩, uptime)
      handleReply := fun reply _ state _ uptime => (⟨.ok, reply, state, false, none, none⟩, uptime)
      handleUnrequestedReply := fun _ uptime => uptime
      doPeriodicOperation := fun uptime => uptime
      sendMessage := fun _ _ uptime => (.ok, uptime)
      clearCommandMessage := fun _ uptime => uptime
      getUptime := fun uptime => (uptime, uptime) }
  timeoutSeconds := 10
  newInfo := ⟨⟨0, 0, 0⟩, 0, 0, 0, 0, 0, 0, FIFOBase.new (fun _ => StoreAddress.invalid) 3⟩

/-- A state in which one command is active. -/
def oneActive (uptimeOfStart uptime : UInt32) :
    CommandingServiceState (StoreAddress → Option (List UInt8)) UInt32 where
  commandMap :=
    ⟨fun _ => (1, { tenSeconds.newInfo with uptimeOfStart := uptimeOfStart, command := 1 }), 3, 1⟩
  tcReader := []
  failParams := { toVerificationReport := .failure .completionFailure [] .failed }
  successParams := { toVerificationReport := .success .completionSuccess [] }
  failureParameter1 := 0
  failureParameter2 := 0
  reports := []
  tcStore := fun _ => none
  child := uptime

/-- The uptime has wrapped around since the start of the command, and so has the sum. -/
theorem checksExactly_wrapped :
  (oneActive 4294967000 20000).commandMap.Inv ∧
    tenSeconds.ChecksExactly (oneActive 4294967000 20000) (fun _ => 4294967000) 4294987296
  := by
  have hmap : (oneActive 4294967000 20000).commandMap.Inv :=
    ⟨by decide, List.nodup_singleton 1⟩
  refine ⟨hmap, (checksExactly_iff hmap rfl ?_).mpr ?_⟩
  · rintro x (_ | ⟨_, ⟨⟩⟩)
    decide
  · rintro x (_ | ⟨_, ⟨⟩⟩)
    decide

/-- A command that is started five seconds before the uptime wraps around is reported after a
tenth of a second. -/
theorem not_checksExactly_soon :
  ¬ tenSeconds.ChecksExactly (oneActive 4294962296 4294962396) (fun _ => 4294962296) 4294962396
  := by
  rintro ⟨c', visits, hcheck, -, -, hexact⟩
  obtain ⟨-, rfl⟩ : _ = c' ∧ [⟨1, _, true⟩] = visits := by
    simpa using Option.some_inj.mp hcheck
  exact absurd ((hexact _ (List.mem_singleton_self _)).mp rfl) (by decide)

end CommandingServiceBase
