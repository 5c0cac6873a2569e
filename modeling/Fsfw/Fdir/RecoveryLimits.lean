import Fsfw.Fdir.DeviceHandlerFailureIsolation
import Fsfw.Library.Run

/-!
# Limits of recoveries

Failure isolation should not start a recovery of a device that is faulty.  While it waits for the
end of a recovery or of a shutdown, it should start neither.  It may only start as many recoveries
as its threshold says until it turns the device off or the count of recoveries is decremented.

The log of a run shows that all this is so exactly when every fault that is confirmed, and makes
the failure isolation react, is confirmed at a time at which it may
(`DeviceHandlerFailureIsolation.restrained_iff`).
-/

namespace FdirEntry

/-- What is started may be started. -/
def Restrained : FdirEntry → Prop
  | startsRecovery _ health fdirState =>
      (health ≠ some .faulty ∧ health ≠ some .permanentFaulty) ∧
        fdirState ≠ .recoveryOngoing ∧ fdirState ≠ .awaitShutdown
  | turnsOffDevice _ _ fdirState => fdirState ≠ .recoveryOngoing ∧ fdirState ≠ .awaitShutdown
  | _ => True

/-- Nothing is started, and recoveries are not counted differently. -/
def IsNeutral : FdirEntry → Prop
  | startsRecovery _ _ _ | turnsOffDevice _ _ _ | recoveryDecremented => False
  | _ => True

/-- The number of recoveries since the count was decremented or the device was turned off last, when
there have been `n` before an entry. -/
def count (n : ℕ) : FdirEntry → ℕ
  | startsRecovery _ _ _ => n + 1
  | turnsOffDevice _ _ _ | recoveryDecremented => 0
  | _ => n

/-- The number of recoveries since the count was decremented or the device was turned off last. -/
def recoveries (log : List FdirEntry) : ℕ :=
  log.foldl count 0

/-- At no time there have been more recoveries than the limit. -/
def Limited (limit : ℕ) (log : List FdirEntry) : Prop :=
  ∀ past, past <+: log → recoveries past ≤ limit

/-- All that is started may be started, and the recoveries stay within their limit. -/
structure AllRestrained (limit : ℕ) (log : List FdirEntry) : Prop where
  entries : ∀ entry ∈ log, entry.Restrained
  limited : Limited limit log

variable {log entries : List FdirEntry} {entry : FdirEntry} {limit : ℕ}

@[simp]
theorem recoveries_concat :
  recoveries (log ++ [entry]) = count (recoveries log) entry
  := by
  rw [recoveries, List.foldl_append]
  rfl

theorem limited_nil :
  Limited limit []
  := by
  intro past hpast
  rw [List.prefix_nil.mp hpast]
  apply Nat.zero_le

theorem Limited.concat (h : Limited limit log) (hentry : count (recoveries log) entry ≤ limit) :
  Limited limit (log ++ [entry])
  := by
  intro past hpast
  obtain rfl | hpast := List.prefix_concat_iff.mp hpast
  · rw [recoveries_concat]
    apply hentry
  · apply h past hpast

theorem IsNeutral.restrained (h : entry.IsNeutral) :
  entry.Restrained
  := by
  cases entry <;> trivial

theorem IsNeutral.count_eq (h : entry.IsNeutral) (n : ℕ) :
  count n entry = n
  := by
  cases entry <;> first | rfl | cases h

/-- Neutral entries do not count. -/
theorem recoveries_append (h : ∀ entry ∈ entries, entry.IsNeutral) :
  recoveries (log ++ entries) = recoveries log
  := by
  induction entries generalizing log with
  | nil =>
      rw [List.append_nil]
  | cons entry entries ih =>
      obtain ⟨hentry, hentries⟩ := List.forall_mem_cons.mp h
      rw [List.append_cons, ih hentries, recoveries_concat, hentry.count_eq]

theorem Limited.append (h : Limited limit log) (hentries : ∀ entry ∈ entries, entry.IsNeutral) :
  Limited limit (log ++ entries)
  := by
  induction entries generalizing log with
  | nil =>
      rw [List.append_nil]
      apply h
  | cons entry entries ih =>
      obtain ⟨hentry, hentries⟩ := List.forall_mem_cons.mp hentries
      rw [List.append_cons]
      apply ih _ hentries
      apply h.concat
      rw [hentry.count_eq]
      apply h log List.prefix_rfl

end FdirEntry

/-- What happens to the failure isolation: a message from its queue, the end of a cycle, an event
that its owner triggers, and changes of the health of its owner, which others make through the owner
or in the health table. -/
inductive FdirInput where
  | message (report : EventReport) (currentTime : UInt32) (sendResult : ReturnValue)
  | decrement (currentTime : UInt32)
  | event (event : Event) (parameter1 parameter2 currentTime : UInt32) (sendResult : ReturnValue)
  | setHealth (health : HealthState)
  | healthTable (health : HealthState)

namespace DeviceHandlerFailureIsolation

open FdirEntry

variable {F F' G : DeviceHandlerFailureIsolation}

def next (F : DeviceHandlerFailureIsolation) : FdirInput → DeviceHandlerFailureIsolation
  | .message report currentTime sendResult => F.handleMessage report currentTime sendResult
  | .decrement currentTime => F.decrementFaultCounters currentTime
  | .event event parameter1 parameter2 currentTime sendResult =>
      F.triggerEvent event parameter1 parameter2 currentTime sendResult
  | .setHealth health => F.setOwnerHealth health
  | .healthTable health => { F with owner := F.owner.map fun _ => health }

/-- In a run, everything may happen in any order. -/
def step : Step DeviceHandlerFailureIsolation FdirInput Unit :=
  fun F input => some (F.next input, ())

/-- One cycle is a part of a run. -/
theorem run_checkForFailures (messages : List (EventReport × UInt32 × ReturnValue))
    (currentTime : UInt32) :
  ∃ outputs, step.run F
      (messages.map (fun (report, time, sendResult) => .message report time sendResult) ++
        [.decrement currentTime])
    = some (F.checkForFailures messages currentTime, outputs)
  := by
  induction messages generalizing F with
  | nil =>
      use [()]
      rfl
  | cons message messages ih =>
      obtain ⟨outputs, h⟩ := ih (F := F.handleMessage message.1 message.2.1 message.2.2)
      use () :: outputs
      apply Step.run_cons rfl h

/-- A fault is confirmed, and makes the failure isolation react. -/
def Confirms (F : DeviceHandlerFailureIsolation) (report : EventReport) (currentTime : UInt32) :
    Prop :=
  report.event = PowerSwitchIF.switchWentOff ∨
    report.event ∈ missedReplies ∧ (F.missedReplyCount.incrementAndCheck currentTime).1 = true

/-- Neither a recovery nor a shutdown is awaited, and the owner is not faulty, unless it would be
turned off. -/
def Permits (F : DeviceHandlerFailureIsolation) (currentTime : UInt32) : Prop :=
  (F.fdirState ≠ .recoveryOngoing ∧ F.fdirState ≠ .awaitShutdown) ∧
    ((F.recoveryCounter.incrementAndCheck currentTime).1 = false →
      F.owner ≠ some .faulty ∧ F.owner ≠ some .permanentFaulty)

/-- A fault that is confirmed, and makes the failure isolation react, is confirmed when it may. -/
def Sound (F : DeviceHandlerFailureIsolation) : FdirInput → Prop
  | .message report currentTime _ =>
      report.sender ≠ F.eventQueue → report.messageId = .yourFault →
        F.Confirms report currentTime → F.Permits currentTime
  | _ => True

/-! ### What is started -/

/-- Nothing is started. -/
structure Keeps (F F' : DeviceHandlerFailureIsolation) : Prop where
  recoveryCounter : F'.recoveryCounter = F.recoveryCounter
  log : ∃ entries, F'.log = F.log ++ entries ∧ ∀ entry ∈ entries, entry.IsNeutral

namespace Keeps

theorem of_log_eq (hcounter : F'.recoveryCounter = F.recoveryCounter) (hlog : F'.log = F.log) :
  F.Keeps F'
  := by
  use hcounter, []
  simp [hlog]

theorem refl (F : DeviceHandlerFailureIsolation) :
  F.Keeps F
  := of_log_eq rfl rfl

theorem trans (h : F.Keeps G) (h' : G.Keeps F') :
  F.Keeps F'
  := by
  obtain ⟨hcounter, entries, hlog, hentries⟩ := h
  obtain ⟨hcounter', entries', hlog', hentries'⟩ := h'
  use hcounter'.trans hcounter, entries ++ entries'
  rw [hlog', hlog, List.append_assoc]
  use rfl
  apply List.forall_mem_append.mpr ⟨hentries, hentries'⟩

theorem record (entry : FdirEntry) (h : entry.IsNeutral) :
  F.Keeps (F.record entry)
  := by
  use rfl, [entry], rfl
  apply List.forall_mem_singleton.mpr h

/-- When nothing is started, nothing more has to be restrained. -/
theorem restrained_congr (h : F.Keeps F') :
  (∀ entry ∈ F'.log, entry.Restrained) ↔ ∀ entry ∈ F.log, entry.Restrained
  := by
  obtain ⟨-, entries, hlog, hentries⟩ := h
  rw [hlog, List.forall_mem_append, and_iff_left]
  intro entry hentry
  apply (hentries entry hentry).restrained

end Keeps

theorem keeps_setFdirState (state : FdirState) :
  F.Keeps (F.setFdirState state)
  := by
  use rfl
  apply (Keeps.record (.changedState state F.fdirState) trivial).log

theorem keeps_isFdirInActionOrAreWeFaulty (report : EventReport) :
  F.Keeps (F.isFdirInActionOrAreWeFaulty report).2
  := by
  rw [isFdirInActionOrAreWeFaulty]
  split
  · dsimp only
    split_ifs
    · apply (keeps_setFdirState .none).trans (keeps_setFdirState .none)
    · apply keeps_setFdirState
    · apply keeps_setFdirState
    · apply Keeps.refl
  · split <;> apply Keeps.refl

/-- Events that are not ignored come at a time at which the failure isolation may react. -/
theorem isFdirInActionOrAreWeFaulty_eq_false {report : EventReport}
    (h : (F.isFdirInActionOrAreWeFaulty report).1 = false) :
  (F.isFdirInActionOrAreWeFaulty report).2 = F ∧ F.fdirState = .none ∧
    F.owner ≠ some .faulty ∧ F.owner ≠ some .permanentFaulty
  := by
  rw [isFdirInActionOrAreWeFaulty] at h ⊢
  split at h
  · cases h
  · rename_i hstate
    rw [if_neg hstate]
    split at h
    · rename_i howner
      simp_all
    · rename_i health howner
      simp_all

theorem keeps_setOwnerHealth (health : HealthState) :
  F.Keeps (F.setOwnerHealth health)
  := by
  rw [setOwnerHealth]
  split
  · apply Keeps.refl
  · rename_i oldHealth _
    apply Keeps.trans (G := F.record (.triggered
      (F.ownerReport HasHealthIF.healthInfo health.toUInt32 oldHealth.toUInt32)))
    · apply Keeps.record
      trivial
    · apply (keeps_isFdirInActionOrAreWeFaulty _).trans
      apply Keeps.of_log_eq
      · rfl
      · rfl

theorem keeps_sendConfirmationRequest (report : EventReport) (destination : MessageQueueId)
    (sendResult : ReturnValue) :
  F.Keeps (F.sendConfirmationRequest report destination sendResult).2
  := by
  rw [sendConfirmationRequest]
  split_ifs
  · apply Keeps.record
    trivial
  · apply Keeps.record
    trivial
  · apply Keeps.refl

@[simp]
theorem owner_sendConfirmationRequest (report : EventReport) (destination : MessageQueueId)
    (sendResult : ReturnValue) :
  (F.sendConfirmationRequest report destination sendResult).2.owner = F.owner
  := by
  rw [sendConfirmationRequest]
  split_ifs <;> rfl

@[simp]
theorem fdirState_sendConfirmationRequest (report : EventReport) (destination : MessageQueueId)
    (sendResult : ReturnValue) :
  (F.sendConfirmationRequest report destination sendResult).2.fdirState = F.fdirState
  := by
  rw [sendConfirmationRequest]
  split_ifs <;> rfl

/-- A recovery is started. -/
theorem keeps_startRecovery (reason : Event) :
  (F.record (.startsRecovery reason.eventId F.owner F.fdirState)).Keeps (F.startRecovery reason)
  := by
  apply (keeps_setOwnerHealth .needsRecovery).trans
  apply keeps_setFdirState

/-- The device is turned off. -/
theorem keeps_setFaulty (reason : Event) :
  (F.record (.turnsOffDevice reason.eventId F.owner F.fdirState)).Keeps (F.setFaulty reason)
  := by
  apply (keeps_setOwnerHealth .faulty).trans
  apply keeps_setFdirState

theorem restrained_record_iff {started : FdirEntry} :
  (∀ entry ∈ (F.record started).log, entry.Restrained) ↔
    (∀ entry ∈ F.log, entry.Restrained) ∧ started.Restrained
  := by
  rw [record, List.forall_mem_append, List.forall_mem_singleton]

/-- What `handleRecovery` starts is restrained exactly when it may be called. -/
theorem restrained_handleRecovery_iff (reason : Event) (currentTime : UInt32) :
  (∀ entry ∈ (F.handleRecovery reason currentTime).log, entry.Restrained) ↔
    (∀ entry ∈ F.log, entry.Restrained) ∧ F.Permits currentTime
  := by
  rw [handleRecovery, Permits]
  dsimp only [clearFaultCounters]
  cases habove : (F.recoveryCounter.incrementAndCheck currentTime).1 with
  | false =>
      rw [if_pos Bool.false_ne_true, (keeps_startRecovery reason).restrained_congr,
        restrained_record_iff]
      simp only [Restrained, true_implies, and_comm]
  | true =>
      rw [if_neg (not_not_intro rfl), (keeps_setFaulty reason).restrained_congr,
        restrained_record_iff]
      simp only [Restrained, Bool.true_eq_false, false_implies, and_true]

/-! ### The count of recoveries -/

/-- The recoveries since the last decrement or shutdown are counted, and the count is within its
limit. -/
structure Counts (limit : UInt32) (F : DeviceHandlerFailureIsolation) : Prop where
  threshold : F.recoveryCounter.failureThreshold = limit
  count_le : F.recoveryCounter.faultCount ≤ limit
  recoveries_le : recoveries F.log ≤ F.recoveryCounter.faultCount.toNat
  limited : Limited limit.toNat F.log

variable {limit : UInt32}

theorem Counts.keep (h : F.Counts limit) (hkeep : F.Keeps F') :
  F'.Counts limit
  := by
  obtain ⟨hcounter, entries, hlog, hentries⟩ := hkeep
  constructor
  · rw [hcounter]
    apply h.threshold
  · rw [hcounter]
    apply h.count_le
  · rw [hcounter, hlog, recoveries_append hentries]
    apply h.recoveries_le
  · rw [hlog]
    apply h.limited.append hentries

/-- The device is turned off, and the count starts again. -/
theorem Counts.turnsOff (h : F.Counts limit) (reason : UInt16) :
  (F.record (.turnsOffDevice reason F.owner F.fdirState)).Counts limit
  := by
  use h.threshold, h.count_le
  · rw [record, recoveries_concat]
    apply Nat.zero_le
  · apply h.limited.concat
    apply Nat.zero_le

theorem counts_setFaulty (h : F.Counts limit) (reason : Event) :
  (F.setFaulty reason).Counts limit
  := by
  apply (h.turnsOff reason.eventId).keep
  apply keeps_setFaulty

theorem counts_handleRecovery (h : F.Counts limit) (hlimit : limit.toNat + 1 < 2 ^ 32)
    (reason : Event) (currentTime : UInt32) :
  (F.handleRecovery reason currentTime).Counts limit
  := by
  rw [handleRecovery]
  dsimp only [clearFaultCounters]
  cases habove : (F.recoveryCounter.incrementAndCheck currentTime).1 with
  | false =>
      obtain ⟨hcount, hle⟩ := FaultCounter.faultCount_incrementAndCheck habove
        (h.threshold ▸ h.count_le) (h.threshold ▸ hlimit)
      rw [h.threshold] at hle
      have hrecoveries : recoveries F.log + 1
          ≤ (F.recoveryCounter.incrementAndCheck currentTime).2.faultCount.toNat := by
        rw [hcount]
        apply Nat.succ_le_succ h.recoveries_le
      rw [if_pos Bool.false_ne_true]
      apply Counts.keep _ (keeps_startRecovery reason)
      constructor
      · rw [← h.threshold]
        apply FaultCounter.failureThreshold_incrementAndCheck
      · apply hle
      · rw [record, recoveries_concat]
        apply hrecoveries
      · apply h.limited.concat
        apply hrecoveries.trans hle
  | true =>
      have hcount := FaultCounter.faultCount_incrementAndCheck_above habove
      rw [if_neg (not_not_intro rfl)]
      apply Counts.keep _ (keeps_setFaulty reason)
      constructor
      · rw [← h.threshold]
        apply FaultCounter.failureThreshold_incrementAndCheck
      · dsimp only [record]
        rw [hcount]
        apply UInt32.zero_le
      · rw [record, recoveries_concat]
        apply Nat.zero_le
      · apply h.limited.concat
        apply Nat.zero_le

theorem counts_decrementFaultCounters (h : F.Counts limit) (currentTime : UInt32) :
  (F.decrementFaultCounters currentTime).Counts limit
  := by
  have hthreshold : (F.recoveryCounter.checkForDecrement currentTime).2.failureThreshold =
      F.recoveryCounter.failureThreshold :=
    FaultCounter.failureThreshold_checkForDecrement
  have hle : (F.recoveryCounter.checkForDecrement currentTime).2.faultCount ≤
      F.recoveryCounter.faultCount :=
    FaultCounter.faultCount_checkForDecrement_le
  rw [decrementFaultCounters]
  dsimp only
  cases hdecrement : (F.recoveryCounter.checkForDecrement currentTime).1 with
  | false =>
      rw [if_neg Bool.false_ne_true]
      use hthreshold.trans h.threshold, UInt32.le_trans hle h.count_le
      · dsimp only
        rw [FaultCounter.faultCount_checkForDecrement hdecrement]
        apply h.recoveries_le
      · apply h.limited
  | true =>
      rw [if_pos rfl]
      use hthreshold.trans h.threshold, UInt32.le_trans hle h.count_le
      · rw [record, recoveries_concat]
        apply Nat.zero_le
      · apply h.limited.concat
        apply Nat.zero_le

/-! ### One step -/

/-- At a time at which the failure isolation may react, a recovery or a shutdown is started, or
nothing. -/
inductive MayReact (F F' : DeviceHandlerFailureIsolation) : Prop where
  | keeps (h : F.Keeps F')
  | recovery (G : DeviceHandlerFailureIsolation) (reason : Event) (currentTime : UInt32)
      (h : F.Keeps G) (hmay : G.Permits currentTime) (heq : F' = G.handleRecovery reason currentTime)
  | shutdown (G : DeviceHandlerFailureIsolation) (reason : Event)
      (h : F.Keeps G) (hstate : G.fdirState = .none) (heq : F' = G.setFaulty reason)

theorem MayReact.restrained_congr (h : F.MayReact F') :
  (∀ entry ∈ F'.log, entry.Restrained) ↔ ∀ entry ∈ F.log, entry.Restrained
  := by
  cases h with
  | keeps h => apply h.restrained_congr
  | recovery G reason currentTime h hmay heq =>
      rw [heq, restrained_handleRecovery_iff, and_iff_left hmay, h.restrained_congr]
  | shutdown G reason h hstate heq =>
      rw [heq, (keeps_setFaulty reason).restrained_congr, restrained_record_iff, h.restrained_congr,
        hstate]
      simp [Restrained]

theorem MayReact.counts (h : F.MayReact F') (hcounts : F.Counts limit)
    (hlimit : limit.toNat + 1 < 2 ^ 32) :
  F'.Counts limit
  := by
  cases h with
  | keeps h => apply hcounts.keep h
  | recovery G reason currentTime h hmay heq =>
      rw [heq]
      apply counts_handleRecovery (hcounts.keep h) hlimit
  | shutdown G reason h hstate heq =>
      rw [heq]
      apply counts_setFaulty (hcounts.keep h)

theorem Permits.of_none (hstate : F.fdirState = .none)
    (howner : F.owner ≠ some .faulty ∧ F.owner ≠ some .permanentFaulty) (currentTime : UInt32) :
  F.Permits currentTime
  := by
  constructor
  · simp [hstate]
  · intro _
    apply howner

theorem MayReact.of_keeps (h : F.Keeps G) (hreact : G.MayReact F') :
  F.MayReact F'
  := by
  cases hreact with
  | keeps h' => apply MayReact.keeps (h.trans h')
  | recovery G' reason currentTime h' hmay heq =>
      apply MayReact.recovery G' reason currentTime (h.trans h') hmay heq
  | shutdown G' reason h' hstate heq => apply MayReact.shutdown G' reason (h.trans h') hstate heq

theorem mayReact_handleRecovery (hstate : F.fdirState = .none)
    (howner : F.owner ≠ some .faulty ∧ F.owner ≠ some .permanentFaulty) (reason : Event)
    (currentTime : UInt32) :
  F.MayReact (F.handleRecovery reason currentTime)
  := by
  apply MayReact.recovery F reason currentTime (Keeps.refl F) _ rfl
  apply Permits.of_none hstate howner

theorem mayReact_countStrangeReply (hstate : F.fdirState = .none)
    (howner : F.owner ≠ some .faulty ∧ F.owner ≠ some .permanentFaulty) (reason : Event)
    (currentTime : UInt32) :
  F.MayReact (F.countStrangeReply reason currentTime)
  := by
  rw [countStrangeReply]
  apply MayReact.of_keeps (G :=
    { F with strangeReplyCount := (F.strangeReplyCount.incrementAndCheck currentTime).2 })
  · exact Keeps.of_log_eq rfl rfl
  · dsimp only
    split_ifs
    · apply mayReact_handleRecovery
      · apply hstate
      · apply howner
    · apply MayReact.keeps
      apply Keeps.refl

theorem mayReact_countMissedReply (hstate : F.fdirState = .none)
    (howner : F.owner ≠ some .faulty ∧ F.owner ≠ some .permanentFaulty) (reason : Event)
    (currentTime : UInt32) :
  F.MayReact (F.countMissedReply reason currentTime)
  := by
  rw [countMissedReply]
  apply MayReact.of_keeps (G :=
    { F with missedReplyCount := (F.missedReplyCount.incrementAndCheck currentTime).2 })
  · exact Keeps.of_log_eq rfl rfl
  · dsimp only
    split_ifs
    · apply mayReact_handleRecovery
      · apply hstate
      · apply howner
    · apply MayReact.keeps
      apply Keeps.refl

theorem keeps_switchWentOff (report : EventReport) (sendResult : ReturnValue) :
  F.Keeps (F.switchWentOff report sendResult)
  := by
  rw [switchWentOff]
  split_ifs
  · dsimp only
    split_ifs
    · apply (keeps_sendConfirmationRequest report F.powerConfirmation sendResult).trans
      apply keeps_setFdirState
    · apply keeps_sendConfirmationRequest
  · apply Keeps.refl

/-- Events that are not ignored come at a time at which the failure isolation may react. -/
theorem mayReact_eventReceived (report : EventReport) (currentTime : UInt32)
    (sendResult : ReturnValue) :
  F.MayReact (F.eventReceived report currentTime sendResult).2
  := by
  cases hignored : (F.isFdirInActionOrAreWeFaulty report).1 with
  | true =>
      unfold eventReceived
      dsimp only
      rw [hignored, if_pos rfl]
      apply MayReact.keeps
      apply keeps_isFdirInActionOrAreWeFaulty
  | false =>
      obtain ⟨hsame, hstate, howner⟩ := isFdirInActionOrAreWeFaulty_eq_false hignored
      unfold eventReceived
      dsimp only
      rw [hignored, if_neg Bool.false_ne_true, hsame]
      split_ifs
      · apply mayReact_handleRecovery hstate howner
      · apply mayReact_countStrangeReply hstate howner
      · apply MayReact.keeps
        apply keeps_sendConfirmationRequest
      · apply MayReact.of_keeps (keeps_sendConfirmationRequest report MessageQueueIF.noQueue
          sendResult)
        apply mayReact_countMissedReply
        · rw [fdirState_sendConfirmationRequest, hstate]
        · rw [owner_sendConfirmationRequest]
          apply howner
      · apply MayReact.keeps (Keeps.refl F)
      · apply MayReact.keeps
        apply keeps_switchWentOff
      · apply MayReact.shutdown F report.event (Keeps.refl F) hstate rfl
      · apply MayReact.keeps (Keeps.refl F)

/-- A missed reply is restrained exactly when it is not counted too often, or the failure isolation
may react. -/
theorem restrained_countMissedReply_iff (reason : Event) (currentTime : UInt32) :
  (∀ entry ∈ (F.countMissedReply reason currentTime).log, entry.Restrained) ↔
    (∀ entry ∈ F.log, entry.Restrained) ∧
      ((F.missedReplyCount.incrementAndCheck currentTime).1 = true → F.Permits currentTime)
  := by
  rw [countMissedReply]
  dsimp only
  cases (F.missedReplyCount.incrementAndCheck currentTime).1 with
  | false => simp
  | true =>
      rw [if_pos rfl, restrained_handleRecovery_iff]
      simp only [true_imp_iff]
      rfl

theorem restrained_eventConfirmed_iff (report : EventReport) (currentTime : UInt32) :
  (∀ entry ∈ (F.eventConfirmed report currentTime).log, entry.Restrained) ↔
    (∀ entry ∈ F.log, entry.Restrained) ∧ (F.Confirms report currentTime → F.Permits currentTime)
  := by
  rw [eventConfirmed, Confirms]
  split_ifs with hmissed hswitch
  · have hother : report.event ≠ PowerSwitchIF.switchWentOff := by
      intro hswitch
      rw [hswitch] at hmissed
      revert hmissed
      decide
    rw [restrained_countMissedReply_iff]
    simp only [hother, hmissed, false_or, true_and]
  · rw [restrained_handleRecovery_iff]
    simp only [hswitch, true_or, true_imp_iff]
  · simp only [hmissed, hswitch, false_and, or_self, false_imp_iff, and_true]

theorem counts_eventConfirmed (h : F.Counts limit) (hlimit : limit.toNat + 1 < 2 ^ 32)
    (report : EventReport) (currentTime : UInt32) :
  (F.eventConfirmed report currentTime).Counts limit
  := by
  rw [eventConfirmed]
  split_ifs
  · rw [countMissedReply]
    dsimp only
    have hcounts : Counts limit { F with
        missedReplyCount := (F.missedReplyCount.incrementAndCheck currentTime).2 } :=
      h.keep (Keeps.of_log_eq rfl rfl)
    split_ifs
    · apply counts_handleRecovery hcounts hlimit
    · apply hcounts
  · apply counts_handleRecovery h hlimit
  · apply h

theorem keeps_doConfirmFault (report : EventReport) :
  F.Keeps (F.doConfirmFault report)
  := by
  apply Keeps.record
  trivial

theorem mayReact_triggerEvent (event : Event) (parameter1 parameter2 currentTime : UInt32)
    (sendResult : ReturnValue) :
  F.MayReact (F.triggerEvent event parameter1 parameter2 currentTime sendResult)
  := by
  rw [triggerEvent]
  split_ifs
  · apply MayReact.keeps (Keeps.refl F)
  · apply MayReact.of_keeps (Keeps.record (.triggered (F.ownerReport event parameter1 parameter2))
      trivial)
    apply mayReact_eventReceived
  · apply MayReact.keeps (Keeps.refl F)

theorem restrained_handleMessage_iff (report : EventReport) (currentTime : UInt32)
    (sendResult : ReturnValue) :
  (∀ entry ∈ (F.handleMessage report currentTime sendResult).log, entry.Restrained) ↔
    (∀ entry ∈ F.log, entry.Restrained) ∧ F.Sound (.message report currentTime sendResult)
  := by
  rw [handleMessage, Sound]
  split
  · rename_i hsender
    simp [hsender]
  · rename_i hsender
    cases hmessage : report.messageId with
    | eventMessage =>
        dsimp only
        split
        · simp
        · rw [(mayReact_eventReceived report currentTime sendResult).restrained_congr]
          simp
    | confirmationRequest =>
        dsimp only
        rw [(keeps_doConfirmFault report).restrained_congr]
        simp
    | yourFault =>
        dsimp only
        rw [restrained_eventConfirmed_iff]
        simp [hsender]
    | myFault | other messageId => simp [wasParentsFault]

theorem restrained_decrementFaultCounters_iff (currentTime : UInt32) :
  (∀ entry ∈ (F.decrementFaultCounters currentTime).log, entry.Restrained) ↔
    ∀ entry ∈ F.log, entry.Restrained
  := by
  rw [decrementFaultCounters]
  dsimp only
  split
  · rw [restrained_record_iff]
    apply and_iff_left
    trivial
  · rfl

/-- What a step starts is restrained exactly when its input is sound. -/
theorem restrained_next_iff (input : FdirInput) :
  (∀ entry ∈ (F.next input).log, entry.Restrained) ↔
    (∀ entry ∈ F.log, entry.Restrained) ∧ F.Sound input
  := by
  cases input with
  | message report currentTime sendResult =>
      apply restrained_handleMessage_iff
  | decrement currentTime =>
      apply (restrained_decrementFaultCounters_iff currentTime).trans
      apply (and_iff_left trivial).symm
  | event event parameter1 parameter2 currentTime sendResult =>
      have hreact := mayReact_triggerEvent (F := F) event parameter1 parameter2 currentTime
        sendResult
      apply hreact.restrained_congr.trans
      apply (and_iff_left trivial).symm
  | setHealth health =>
      apply (keeps_setOwnerHealth health).restrained_congr.trans
      apply (and_iff_left trivial).symm
  | healthTable health =>
      apply (and_iff_left trivial).symm

theorem counts_next (h : F.Counts limit) (hlimit : limit.toNat + 1 < 2 ^ 32) (input : FdirInput) :
  (F.next input).Counts limit
  := by
  cases input with
  | message report currentTime sendResult =>
      rw [next, handleMessage]
      split
      · apply h
      · split
        · split
          · apply h
          · apply (mayReact_eventReceived report currentTime sendResult).counts h hlimit
        · apply h.keep (keeps_doConfirmFault report)
        · apply counts_eventConfirmed h hlimit
        · apply h
        · apply h
  | decrement currentTime => apply counts_decrementFaultCounters h
  | event event parameter1 parameter2 currentTime sendResult =>
      apply (mayReact_triggerEvent event parameter1 parameter2 currentTime sendResult).counts h
        hlimit
  | setHealth health => apply h.keep (keeps_setOwnerHealth health)
  | healthTable health => exact h.keep (Keeps.of_log_eq rfl rfl)

/-- In every run of a failure isolation whose log is empty, and whose count of recoveries is not
above its threshold, everything is restrained exactly when all confirmations are sound. -/
theorem restrained_iff {start : DeviceHandlerFailureIsolation} {inputs : List FdirInput}
    {outputs : List Unit} (hlog : start.log = [])
    (hcount : start.recoveryCounter.faultCount ≤ start.recoveryCounter.failureThreshold)
    (hthreshold : start.recoveryCounter.failureThreshold.toNat + 1 < 2 ^ 32)
    (hrun : step.run start inputs = some (F, outputs)) :
  AllRestrained start.recoveryCounter.failureThreshold.toNat F.log ↔
    step.Along Sound start inputs
  := by
  have hstart : start.Counts start.recoveryCounter.failureThreshold := by
    use rfl, hcount
    · rw [hlog]
      apply Nat.zero_le
    · rw [hlog]
      apply limited_nil
  have hcounts : F.Counts start.recoveryCounter.failureThreshold := by
    apply Step.run_preserves _ hstart hrun
    rintro F input F' _ h ⟨⟩
    apply counts_next h hthreshold
  have hentries : (∀ entry ∈ F.log, entry.Restrained) ↔
      (∀ entry ∈ start.log, entry.Restrained) ∧ step.Along Sound start inputs := by
    apply Step.run_iff_along (Q := fun F => ∀ entry ∈ F.log, entry.Restrained) _ hrun
    rintro F input F' _ ⟨⟩
    apply restrained_next_iff
  rw [hlog] at hentries
  constructor
  · intro h
    apply (hentries.mp h.entries).2
  · intro h
    use hentries.mpr ⟨by simp, h⟩, hcounts.limited

/-- A message that the switch of the device went off, or about whose fault that was. -/
def switchReport (messageId : EventMessageId) : EventReport :=
  { EventReport.new PowerSwitchIF.switchWentOff 5 0 0 4 with messageId := messageId }

/-- The switch of a device goes off, which is confirmed. -/
theorem allRestrained_of_confirmed :
  ∃ F, step.run (new 5 9 (some 3) 4 0)
        [.message (switchReport .eventMessage) 10 .ok, .message (switchReport .yourFault) 20 .ok]
          = some (F, [(), ()]) ∧
      AllRestrained 1 F.log
  := by
  refine Exists.imp (fun F hrun => ⟨hrun, (restrained_iff rfl ?_ ?_ hrun).mpr ?_⟩) ⟨_, rfl⟩
  · decide
  · decide
  · use fun _ hmessage => by cases hmessage
    rintro _ _ ⟨⟩
    constructor
    · intro _ _ _
      constructor
      · decide
      · decide
    · intro _ _ _
      trivial

/-- When it is confirmed late that the fault is that of the device, a recovery is started although
someone has found the device faulty, and a shutdown although a recovery is going on. -/
theorem not_allRestrained :
  (∃ F, step.run (new 5 9 (some 3) 4 0)
        [.message (switchReport .eventMessage) 10 .ok, .setHealth .faulty,
          .message (switchReport .yourFault) 20 .ok] = some (F, [(), (), ()]) ∧
      ¬ AllRestrained 1 F.log) ∧
    ∃ F, step.run (new 5 9 (some 3) 4 0)
        [.message (switchReport .eventMessage) 10 .ok, .message (switchReport .yourFault) 20 .ok,
          .message (switchReport .yourFault) 30 .ok] = some (F, [(), (), ()]) ∧
      ¬ AllRestrained 1 F.log
  := by
  constructor
  · refine ⟨_, rfl, ?_⟩
    intro h
    apply (h.entries (.startsRecovery 4300 (some .faulty) .deviceMightBeOff) (by decide)).1.1
    rfl
  · refine ⟨_, rfl, ?_⟩
    intro h
    apply (h.entries (.turnsOffDevice 4300 (some .needsRecovery) .recoveryOngoing) (by decide)).1
    rfl

end DeviceHandlerFailureIsolation
