import Fsfw.Pus.ReleaseSafety

/-!
# Telecommands that expire while scheduling is disabled

A flag of the service says whether telecommands that become due while scheduling is disabled are to
be dropped.  The loop that releases telecommands has a branch for this, but it is not entered while
scheduling is disabled: releasing telecommands then leaves everything as it is
(`performService_of_disabled`).

So the telecommands that are to be dropped are dropped in those runs only in which there are none,
at any release while scheduling is disabled and the flag is set (`dropsExpired_iff`).
-/

namespace Service11TelecommandScheduling

variable {σ : Type*}

/-! ### Steps that change the flag -/

/-- A step of the service, or a change of the flag by its owner. -/
inductive OwnerOp (σ : Type*) where
  | op (op : Op σ)
  | enableExpiredTcDeletion
  | disableExpiredTcDeletion

def enableExpiredTcDeletion {τ : Type*} (s : State τ) : State τ :=
  { s with deleteExpiredTcWhenDisabled := true }

def disableExpiredTcDeletion {τ : Type*} (s : State τ) : State τ :=
  { s with deleteExpiredTcWhenDisabled := false }

def ownerStep (service : Service11TelecommandScheduling σ) :
    Step (State (σ × List Event)) (OwnerOp σ) (ReturnValue × List Release)
  | s, .op op => service.step s op
  | s, .enableExpiredTcDeletion => some (enableExpiredTcDeletion s, .ok, [])
  | s, .disableExpiredTcDeletion => some (disableExpiredTcDeletion s, .ok, [])

/-! ### What is to happen -/

variable (service : Service11TelecommandScheduling σ)

/-- However the run goes on, no packet at the address is sent, unless a new one was added there. -/
def NeverSent (s : State (σ × List Event)) (ops : List (OwnerOp σ)) (addr : StoreAddress) : Prop :=
  ∀ ops' s' outputs log, ops' <+: ops → service.ownerStep.run s ops' = some (s', outputs) →
    s'.store.2 = log ++ s.store.2 →
    ∀ later key tvSec earlier, log = later ++ .sent addr key tvSec :: earlier →
      ∃ data, .added addr data ∈ earlier

/-- A release comes to its end.  While scheduling is disabled it drops the telecommands that are due,
with their packets, and they are not sent later; without the flag they stay scheduled. -/
structure DropsAt (s : State (σ × List Event)) (tvSec : ℤ) (sendMessage : ℕ → ReturnValue)
    (ops : List (OwnerOp σ)) : Prop where
  terminates : ∃ s' output, service.step s (.performService tvSec sendMessage) = some (s', output)
  dropped : s.schedulingEnabled = false → s.deleteExpiredTcWhenDisabled = true →
    ∀ s' output, service.step s (.performService tvSec sendMessage) = some (s', output) →
      ∀ entry ∈ s.telecommandMap.entries, (entry.1.toNat : ℤ) ≤ tvSec →
        entry ∉ s'.telecommandMap.entries
          ∧ lastEvent s'.store.2 entry.2.storeAddr = some (.deleted entry.2.storeAddr)
          ∧ service.NeverSent s' ops entry.2.storeAddr
  stays : s.schedulingEnabled = false → s.deleteExpiredTcWhenDisabled = false →
    ∀ s' output, service.step s (.performService tvSec sendMessage) = some (s', output) →
      ∀ entry ∈ s.telecommandMap.entries, (entry.1.toNat : ℤ) ≤ tvSec →
        entry ∈ s'.telecommandMap.entries

/-- Every release of the run does so. -/
def DropsExpired : State (σ × List Event) → List (OwnerOp σ) → Prop
  | _, [] => True
  | s, op :: ops =>
      (∀ tvSec sendMessage, op = .op (.performService tvSec sendMessage) →
        service.DropsAt s tvSec sendMessage ops) ∧
      ∀ s' output, service.ownerStep s op = some (s', output) → DropsExpired s' ops

/-- When telecommands are released while scheduling is disabled and the flag is set, none is due. -/
def NoneExpired (s : State (σ × List Event)) : OwnerOp σ → Prop
  | .op (.performService tvSec _) =>
      s.schedulingEnabled = false → s.deleteExpiredTcWhenDisabled = true →
        ∀ entry ∈ s.telecommandMap.entries, tvSec < (entry.1.toNat : ℤ)
  | _ => True

/-! ### What happens -/

variable {service} {s : State (σ × List Event)}

/-- While scheduling is disabled, nothing is released and nothing is dropped. -/
theorem performService_of_disabled (hdisabled : s.schedulingEnabled = false) (tvSec : ℤ)
    (sendMessage : ℕ → ReturnValue) :
  service.step s (.performService tvSec sendMessage) = some (s, .ok, [])
  := by
  simp only [step, performService, hdisabled]
  rfl

theorem dropsAt_iff (tvSec : ℤ) (sendMessage : ℕ → ReturnValue) (ops : List (OwnerOp σ)) :
  service.DropsAt s tvSec sendMessage ops
    ↔ NoneExpired s (.op (.performService tvSec sendMessage))
  := by
  constructor
  · intro h hdisabled hflag entry hentry
    apply lt_of_not_ge
    intro hdue
    obtain ⟨hgone, -⟩ := h.dropped hdisabled hflag s _
      (performService_of_disabled hdisabled tvSec sendMessage) entry hentry hdue
    apply hgone hentry
  · intro h
    constructor
    · obtain ⟨result, releases, s', hperform, -⟩ := released_of_performService tvSec sendMessage s
      simp only [step, hperform]
      exact ⟨_, _, rfl⟩
    · intro hdisabled hflag s' output _ entry hentry hdue
      apply absurd (h hdisabled hflag entry hentry) (not_lt.mpr hdue)
    · intro hdisabled _ s' output hstep entry hentry _
      rw [performService_of_disabled hdisabled] at hstep
      cases hstep
      exact hentry

/-- The telecommands that expire are dropped exactly in the runs in which none is there to be
dropped. -/
theorem dropsExpired_iff (s : State (σ × List Event)) (ops : List (OwnerOp σ)) :
  service.DropsExpired s ops ↔ service.ownerStep.Along NoneExpired s ops
  := by
  induction ops generalizing s with
  | nil => rfl
  | cons op ops ih =>
      rw [DropsExpired, Step.Along]
      apply and_congr
      · cases op with
        | op op =>
            cases op with
            | performService tvSec sendMessage =>
                rw [← dropsAt_iff tvSec sendMessage ops]
                constructor
                · intro h
                  apply h tvSec sendMessage rfl
                · rintro h _ _ ⟨⟩
                  apply h
            | request => exact iff_of_true (by rintro _ _ ⟨⟩) trivial
            | others => exact iff_of_true (by rintro _ _ ⟨⟩) trivial
        | enableExpiredTcDeletion => exact iff_of_true (by rintro _ _ ⟨⟩) trivial
        | disableExpiredTcDeletion => exact iff_of_true (by rintro _ _ ⟨⟩) trivial
      · apply forall_congr'
        intro s'
        apply forall_congr'
        intro output
        apply imp_congr_right
        intro _
        apply ih

/-- A telecommand becomes due while scheduling is disabled, and is sent when scheduling is enabled
later. -/
def expiredOps : List (OwnerOp (Option (List UInt8) × Option (List UInt8))) :=
  [.op (.request 10 4 insertPingTc), .op (.performService 100 fun _ => .ok),
    .op (.request 101 1 insertPingTc), .op (.performService 101 fun _ => .ok)]

theorem not_dropsExpired_ping :
  ¬ ∀ ops, pairService.DropsExpired (State.new ((none, none), [])) ops
  := by
  intro h
  have hstep : (pairService.ownerStep (State.new ((none, none), []))
      (.op (.request 10 4 insertPingTc))).map
        (fun run => (run.1.schedulingEnabled, run.1.deleteExpiredTcWhenDisabled,
          run.1.telecommandMap.entries.map Prod.fst)) = some (false, true, [100]) := by
    decide +kernel
  obtain ⟨⟨s, output⟩, hs, hstate⟩ := Option.map_eq_some_iff.mp hstep
  obtain ⟨hdisabled, hrest⟩ := Prod.mk.inj hstate
  obtain ⟨hflag, hkeys⟩ := Prod.mk.inj hrest
  obtain ⟨entry, hentry, hkey⟩ : ∃ entry ∈ s.telecommandMap.entries, entry.1 = 100 := by
    apply List.mem_map.mp
    rw [hkeys]
    apply List.mem_singleton_self
  have hdrops := ((h expiredOps).2 s output hs).1 100 _ rfl
  have hlater := (dropsAt_iff _ _ _).mp hdrops hdisabled hflag entry hentry
  rw [hkey] at hlater
  apply absurd hlater
  decide

/-- This is what happens to the telecommand instead. -/
example : ((pairService.ownerStep.run (State.new ((none, none), [])) expiredOps).map
    fun run => run.1.store.2) = some [.sent ⟨0, 0⟩ 100 101, .added ⟨0, 0⟩ pingTc] := by
  decide +kernel

end Service11TelecommandScheduling
