import Fsfw.Library.Run
import Fsfw.StorageManager.PacketStore
import Fsfw.TmTcServices.VerificationReporter

/-!
# The base of services

A service takes requests from a queue, which hold the addresses of telecommands in a store.  It
lets its child handle each telecommand, reports the completion, and deletes the telecommand.  The
child may set two error parameters, which are part of reports of failures.

A request is settled when one report is made of it, that names the telecommand if it can be read
and has only error parameters that the child has set while handling it, and when nothing is left at
its address.  All requests are settled exactly when what is found at the addresses can be read, and
no error parameters are left over when a report shows them (`PusServiceBase.settles_along_iff`).
-/

/-- A report about a request. -/
structure RequestReport extends VerificationReport where
  errorParam1 : UInt32 := 0
  errorParam2 : UInt32 := 0
  deriving DecidableEq, Repr

/-- What a call of the child returns, and the error parameters that it has set. -/
structure ChildOutcome where
  result : ReturnValue
  errorParameter1 : Option UInt32 := none
  errorParameter2 : Option UInt32 := none
  deriving DecidableEq, Repr

/-- A child with states `γ`.  It handles the subservice of a telecommand, and gets the telecommand
itself from the reader. -/
structure PusServiceChild (γ : Type*) where
  handleRequest : UInt8 → List UInt8 → γ → ChildOutcome × γ
  performService : γ → ChildOutcome × γ

/-- A service over a store with states `σ`. -/
structure PusServiceBase (σ γ : Type*) where
  tcPool : PacketStoreIF σ
  child : PusServiceChild γ

/-- The queue holds what will be received, an error or the address of a telecommand. -/
structure PusServiceState (σ γ : Type*) where
  reqQueue : List (Except ReturnValue StoreAddress)
  errorParameter1 : UInt32
  errorParameter2 : UInt32
  currentPacket : List UInt8
  tcPool : σ
  child : γ

namespace PusServiceBase

variable {σ γ : Type*}

def pusServiceMaxReception : ℕ := 10

/-- Set the reader to the telecommand at an address. -/
def prepareTcReader (S : PacketStoreIF σ) (tcStore : σ) (storeId : StoreAddress)
    (tcReader : List UInt8) : ReturnValue × List UInt8 :=
  match S.getData storeId tcStore with
  | (.ok, data) => (PusTcReader.setReadOnlyData data, data)
  | (result, _) => (result, tcReader)

/-- What is reported of a request, and the state after it. -/
def handleMessage (B : PusServiceBase σ γ) (storeId : StoreAddress) (c : PusServiceState σ γ) :
    RequestReport × PusServiceState σ γ :=
  match prepareTcReader B.tcPool c.tcPool storeId c.currentPacket with
  | (.ok, packet) =>
      let (outcome, child) :=
        B.child.handleRequest (PusTcReader.getSubService packet) packet c.child
      let report : RequestReport :=
        if outcome.result = .ok then
          { toVerificationReport := .success .completionSuccess packet }
        else
          { toVerificationReport := .failure .completionFailure packet outcome.result
            errorParam1 := outcome.errorParameter1.getD c.errorParameter1
            errorParam2 := outcome.errorParameter2.getD c.errorParameter2 }
      (report,
        { c with
          errorParameter1 := 0
          errorParameter2 := 0
          currentPacket := packet
          tcPool := (B.tcPool.deleteData storeId c.tcPool).2
          child := child })
  | (result, packet) =>
      ({ reportId := .startFailure
         tcPacketId := 0
         tcPsc := 0
         errorCode := result
         errorParam1 := c.errorParameter1
         errorParam2 := c.errorParameter2 },
        { c with currentPacket := packet })

/-- Receive at most `count` requests, up to the first error. -/
def handleRequests (B : PusServiceBase σ γ) :
    ℕ → PusServiceState σ γ → List RequestReport × PusServiceState σ γ
  | 0, c => ([], c)
  | count + 1, c =>
      match c.reqQueue with
      | [] => ([], c)
      | .error _ :: queue => ([], { c with reqQueue := queue })
      | .ok storeId :: queue =>
          let (report, c) := B.handleMessage storeId { c with reqQueue := queue }
          let (reports, c) := handleRequests B count c
          (report :: reports, c)

def handleRequestQueue (B : PusServiceBase σ γ) (c : PusServiceState σ γ) :
    List RequestReport × PusServiceState σ γ :=
  B.handleRequests pusServiceMaxReception c

def performOperation (B : PusServiceBase σ γ) (c : PusServiceState σ γ) :
    ReturnValue × List RequestReport × PusServiceState σ γ :=
  let (reports, c) := B.handleRequestQueue c
  let (outcome, child) := B.child.performService c.child
  (if outcome.result ≠ .ok then .failed else .ok, reports,
    { c with
      errorParameter1 := outcome.errorParameter1.getD c.errorParameter1
      errorParameter2 := outcome.errorParameter2.getD c.errorParameter2
      child := child })

/-- Messages arrive in the queue. -/
def arrive (messages : List (Except ReturnValue StoreAddress)) (c : PusServiceState σ γ) :
    PusServiceState σ γ :=
  { c with reqQueue := c.reqQueue ++ messages }

/-- In every cycle messages arrive, and the service performs its operation. -/
def step (B : PusServiceBase σ γ) :
    Step (PusServiceState σ γ) (List (Except ReturnValue StoreAddress)) (List RequestReport) :=
  fun c messages =>
    let (_, reports, c) := B.performOperation (arrive messages c)
    some (c, reports)

/-! ### Settling requests -/

/-- The addresses that are received from a queue. -/
def received : ℕ → List (Except ReturnValue StoreAddress) → List StoreAddress
  | 0, _ => []
  | _, [] => []
  | _, .error _ :: _ => []
  | count + 1, .ok storeId :: queue => storeId :: received count queue

end PusServiceBase

/-- The telecommands at all addresses, and the child that handles them. -/
structure Requests (γ : Type*) where
  telecommands : StoreAddress → Option (List UInt8)
  child : γ

namespace Requests

variable {γ : Type*}

/-- The telecommand at an address, if it can be read. -/
def readable (r : Requests γ) (storeId : StoreAddress) : Option (List UInt8) :=
  (r.telecommands storeId).filter fun tc => PusTcReader.setReadOnlyData tc = .ok

/-- What the child makes of a telecommand. -/
def handle (child : PusServiceChild γ) (r : Requests γ) (tc : List UInt8) : ChildOutcome × γ :=
  child.handleRequest (PusTcReader.getSubService tc) tc r.child

/-- The report that is due for the telecommand at an address. -/
def IsDue (child : PusServiceChild γ) (r : Requests γ) (storeId : StoreAddress)
    (report : RequestReport) : Prop :=
  match r.readable storeId with
  | none =>
      report.reportId = .startFailure ∧ report.tcPacketId = 0 ∧ report.tcPsc = 0 ∧
        report.errorCode ≠ .ok ∧ report.errorParam1 = 0 ∧ report.errorParam2 = 0
  | some tc =>
      report =
        if (r.handle child tc).1.result = .ok then
          { toVerificationReport := .success .completionSuccess tc }
        else
          { toVerificationReport := .failure .completionFailure tc (r.handle child tc).1.result
            errorParam1 := (r.handle child tc).1.errorParameter1.getD 0
            errorParam2 := (r.handle child tc).1.errorParameter2.getD 0 }

/-- Nothing is left at an address when its request has been settled. -/
def next (child : PusServiceChild γ) (r : Requests γ) (storeId : StoreAddress) : Requests γ where
  telecommands := Function.update r.telecommands storeId none
  child :=
    match r.readable storeId with
    | none => r.child
    | some tc => (r.handle child tc).2

/-- There is one report for each request, and it is the one that is due. -/
def Reported (child : PusServiceChild γ) :
    Requests γ → List StoreAddress → List RequestReport → Prop
  | _, [], reports => reports = []
  | r, storeId :: storeIds, reports =>
      ∃ report others, reports = report :: others ∧ r.IsDue child storeId report ∧
        Reported child (r.next child storeId) storeIds others

end Requests

namespace PusServiceBase

variable {σ γ : Type*} {B : PusServiceBase σ γ} (laws : B.tcPool.Reliable)

/-- The telecommands in the store and the child of a service. -/
def requests (c : PusServiceState σ γ) : Requests γ :=
  ⟨laws.contents c.tcPool, c.child⟩

/-- All requests that are received are settled. -/
def Settles (count : ℕ) (c : PusServiceState σ γ) : Prop :=
  (requests laws c).Reported B.child (received count c.reqQueue) (B.handleRequests count c).1 ∧
    ∀ storeId ∈ received count c.reqQueue,
      laws.contents (B.handleRequests count c).2.tcPool storeId = none

/-- What is found at the address of a request can be read, and no error parameters are left over
when the report shows them. -/
def Clean (c : PusServiceState σ γ) (storeId : StoreAddress) : Prop :=
  match laws.contents c.tcPool storeId with
  | none => c.errorParameter1 = 0 ∧ c.errorParameter2 = 0
  | some tc =>
      PusTcReader.setReadOnlyData tc = .ok ∧
        (((requests laws c).handle B.child tc).1.result ≠ .ok →
          (((requests laws c).handle B.child tc).1.errorParameter1 = none →
            c.errorParameter1 = 0) ∧
          (((requests laws c).handle B.child tc).1.errorParameter2 = none →
            c.errorParameter2 = 0))

/-- All requests that are received are clean. -/
def AllClean : ℕ → PusServiceState σ γ → Prop
  | 0, _ => True
  | count + 1, c =>
      match c.reqQueue with
      | .ok storeId :: queue =>
          Clean laws c storeId ∧ AllClean count (B.handleMessage storeId { c with reqQueue := queue }).2
      | _ => True

/-! ### One request -/

variable {c : PusServiceState σ γ} {storeId : StoreAddress} {tc : List UInt8} {count : ℕ}
  {queue : List (Except ReturnValue StoreAddress)}

theorem readable_of_some (h : laws.contents c.tcPool storeId = some tc) :
  (requests laws c).readable storeId
    = if PusTcReader.setReadOnlyData tc = .ok then some tc else none
  := by
  simp only [Requests.readable, requests, h, Option.filter_some, decide_eq_true_eq]

theorem prepareTcReader_of_some (h : laws.contents c.tcPool storeId = some tc) :
  prepareTcReader B.tcPool c.tcPool storeId c.currentPacket = (PusTcReader.setReadOnlyData tc, tc)
  := by
  rw [prepareTcReader, laws.getData_of_some storeId c.tcPool tc h]

/-- A request whose telecommand cannot be read. -/
theorem handleMessage_unreadable (h : (requests laws c).readable storeId = none) :
  ∃ result packet, result ≠ .ok ∧ B.handleMessage storeId c =
    ({ reportId := .startFailure
       tcPacketId := 0
       tcPsc := 0
       errorCode := result
       errorParam1 := c.errorParameter1
       errorParam2 := c.errorParameter2 },
      { c with currentPacket := packet })
  := by
  obtain ⟨result, packet, hresult, hprepare⟩ : ∃ result packet, result ≠ .ok ∧
      prepareTcReader B.tcPool c.tcPool storeId c.currentPacket = (result, packet) := by
    cases htc : laws.contents c.tcPool storeId with
    | none =>
        have hread := laws.getData_of_none storeId c.tcPool htc
        use (B.tcPool.getData storeId c.tcPool).1, c.currentPacket, hread
        rw [prepareTcReader]
        split
        · rename_i data hdata
          rw [hdata] at hread
          contradiction
        · rename_i hdata
          rw [hdata]
    | some tc =>
        rw [readable_of_some laws htc] at h
        use PusTcReader.setReadOnlyData tc, tc
        constructor
        · intro hok
          rw [if_pos hok] at h
          cases h
        · apply prepareTcReader_of_some laws htc
  use result, packet, hresult
  rw [handleMessage, hprepare]
  split
  · rename_i heq
    cases heq
    contradiction
  · rename_i heq
    cases heq
    rfl

/-- A request whose telecommand can be read. -/
theorem handleMessage_readable (h : (requests laws c).readable storeId = some tc) :
  B.handleMessage storeId c =
    (if ((requests laws c).handle B.child tc).1.result = .ok then
        { toVerificationReport := .success .completionSuccess tc }
      else
        { toVerificationReport := .failure .completionFailure tc
            ((requests laws c).handle B.child tc).1.result
          errorParam1 := ((requests laws c).handle B.child tc).1.errorParameter1.getD
            c.errorParameter1
          errorParam2 := ((requests laws c).handle B.child tc).1.errorParameter2.getD
            c.errorParameter2 },
      { c with
        errorParameter1 := 0
        errorParameter2 := 0
        currentPacket := tc
        tcPool := (B.tcPool.deleteData storeId c.tcPool).2
        child := ((requests laws c).handle B.child tc).2 })
  := by
  obtain ⟨htc, hok⟩ := Option.filter_eq_some_iff.mp h
  rw [handleMessage, prepareTcReader_of_some laws htc, of_decide_eq_true hok]
  rfl

/-- A parameter that may be left over is right when it is zero or has been set. -/
theorem getD_eq_getD_iff {parameter : Option UInt32} {leftover : UInt32} :
  parameter.getD leftover = parameter.getD 0 ↔ (parameter = none → leftover = 0)
  := by
  cases parameter <;> simp

/-- A clean request is settled by its own message, and no other one is. -/
theorem clean_iff :
  Clean laws c storeId ↔
    (requests laws c).IsDue B.child storeId (B.handleMessage storeId c).1 ∧
      laws.contents (B.handleMessage storeId c).2.tcPool storeId = none
  := by
  cases hreadable : (requests laws c).readable storeId with
  | none =>
      obtain ⟨result, packet, hresult, hmessage⟩ := handleMessage_unreadable laws hreadable
      rw [hmessage, Requests.IsDue, hreadable, Clean]
      cases htc : laws.contents c.tcPool storeId with
      | none => simp [hresult]
      | some tc =>
          rw [readable_of_some laws htc] at hreadable
          simp_all
  | some tc =>
      obtain ⟨htc, hok⟩ := Option.filter_eq_some_iff.mp hreadable
      have htc : laws.contents c.tcPool storeId = some tc := htc
      rw [handleMessage_readable laws hreadable, Requests.IsDue, hreadable, Clean, htc,
        laws.contents_deleteData_eq]
      by_cases hresult : ((requests laws c).handle B.child tc).1.result = .ok
      · simp [hresult, of_decide_eq_true hok]
      · simp [hresult, of_decide_eq_true hok, getD_eq_getD_iff]

/-- What is left when nothing is left at the address of a request. -/
theorem requests_handleMessage
    (h : laws.contents (B.handleMessage storeId c).2.tcPool storeId = none) :
  requests laws (B.handleMessage storeId c).2 = (requests laws c).next B.child storeId
  := by
  cases hreadable : (requests laws c).readable storeId with
  | none =>
      obtain ⟨result, packet, -, hmessage⟩ := handleMessage_unreadable laws hreadable
      rw [hmessage] at h ⊢
      rw [Requests.next, hreadable, Function.update_eq_self_iff.mpr h.symm]
      rfl
  | some tc =>
      rw [handleMessage_readable laws hreadable, Requests.next, hreadable]
      dsimp only [requests]
      rw [laws.contents_deleteData_eq]

/-! ### All requests -/

/-- What can be said of the address of a request and is kept by every message, is kept by the
loop. -/
theorem handleRequests_preserves {P : σ → Prop}
    (hstep : ∀ c storeId, P c.tcPool → P (B.handleMessage storeId c).2.tcPool)
    (h : P c.tcPool) :
  P (B.handleRequests count c).2.tcPool
  := by
  induction count generalizing c with
  | zero =>
      apply h
  | succ count ih =>
      rw [handleRequests]
      split
      · apply h
      · apply h
      · apply ih
        apply hstep
        apply h

/-- Nothing appears at an address. -/
theorem contents_handleRequests_none (h : laws.contents c.tcPool storeId = none) :
  laws.contents (B.handleRequests count c).2.tcPool storeId = none
  := by
  apply handleRequests_preserves (P := fun s => laws.contents s storeId = none) _ h
  intro c other h
  cases hreadable : (requests laws c).readable other with
  | none =>
      obtain ⟨result, packet, -, hmessage⟩ := handleMessage_unreadable laws hreadable
      rw [hmessage]
      apply h
  | some tc =>
      rw [handleMessage_readable laws hreadable, laws.contents_deleteData_eq, Function.update_apply,
        h, ite_self]

/-- What cannot be read stays in the store. -/
theorem contents_handleRequests_unreadable (h : laws.contents c.tcPool storeId = some tc)
    (htc : PusTcReader.setReadOnlyData tc ≠ .ok) :
  laws.contents (B.handleRequests count c).2.tcPool storeId = some tc
  := by
  apply handleRequests_preserves (P := fun s => laws.contents s storeId = some tc) _ h
  intro c other h
  cases hreadable : (requests laws c).readable other with
  | none =>
      obtain ⟨result, packet, -, hmessage⟩ := handleMessage_unreadable laws hreadable
      rw [hmessage]
      apply h
  | some found =>
      rw [handleMessage_readable laws hreadable, laws.contents_deleteData_eq,
        Function.update_of_ne, h]
      rintro rfl
      rw [readable_of_some laws h, if_neg htc] at hreadable
      cases hreadable

/-- Nothing is left at the end exactly when nothing is left by the message of the request. -/
theorem contents_handleRequests_iff :
  laws.contents (B.handleRequests count (B.handleMessage storeId c).2).2.tcPool storeId = none ↔
    laws.contents (B.handleMessage storeId c).2.tcPool storeId = none
  := by
  constructor
  · intro hend
    cases hreadable : (requests laws c).readable storeId with
    | none =>
        obtain ⟨result, packet, -, hmessage⟩ := handleMessage_unreadable laws hreadable
        rw [hmessage] at hend ⊢
        cases htc : laws.contents c.tcPool storeId with
        | none => rfl
        | some tc =>
            have hkept : laws.contents
                (B.handleRequests count { c with currentPacket := packet }).2.tcPool storeId
                  = some tc := by
              apply contents_handleRequests_unreadable (c := { c with currentPacket := packet })
                laws htc
              intro hok
              rw [readable_of_some laws htc, if_pos hok] at hreadable
              cases hreadable
            cases hkept.symm.trans hend
    | some tc =>
        rw [handleMessage_readable laws hreadable, laws.contents_deleteData_eq,
          Function.update_self]
  · apply contents_handleRequests_none

theorem reqQueue_handleMessage (c : PusServiceState σ γ) :
  (B.handleMessage storeId c).2.reqQueue = c.reqQueue
  := by
  rw [handleMessage]
  split <;> rfl

/-- The requests that are received at once are settled exactly when they are clean. -/
theorem settles_request_iff :
  Settles laws count c ↔ AllClean laws count c
  := by
  induction count generalizing c with
  | zero =>
      simp [Settles, received, handleRequests, Requests.Reported, AllClean]
  | succ count ih =>
      obtain ⟨reqQueue, errorParameter1, errorParameter2, currentPacket, tcPool, child⟩ := c
      match reqQueue with
      | [] | .error _ :: queue =>
          simp [Settles, received, handleRequests, Requests.Reported, AllClean]
      | .ok storeId :: queue =>
          let c : PusServiceState σ γ :=
            ⟨queue, errorParameter1, errorParameter2, currentPacket, tcPool, child⟩
          have hqueue : (B.handleMessage storeId c).2.reqQueue = queue := reqQueue_handleMessage c
          change _ ↔ Clean laws c storeId ∧ AllClean laws count (B.handleMessage storeId c).2
          rw [← ih, clean_iff, Settles, Settles, hqueue]
          constructor
          · rintro ⟨⟨_, _, hreports, hdue, hreported⟩, hfree⟩
            injection hreports with hreport hothers
            subst hreport hothers
            obtain ⟨hfirst, hrest⟩ := List.forall_mem_cons.mp hfree
            have hnone := (contents_handleRequests_iff laws).mp hfirst
            rw [requests_handleMessage laws hnone]
            use ⟨hdue, hnone⟩, hreported, hrest
          · rintro ⟨⟨hdue, hnone⟩, hreported, hrest⟩
            rw [requests_handleMessage laws hnone] at hreported
            refine ⟨⟨_, _, rfl, hdue, hreported⟩, List.forall_mem_cons.mpr ⟨?_, hrest⟩⟩
            apply (contents_handleRequests_iff laws).mpr hnone

/-- In every run all requests are settled in all cycles exactly when they are clean. -/
theorem settles_along_iff (c : PusServiceState σ γ)
    (cycles : List (List (Except ReturnValue StoreAddress))) :
  B.step.Along (fun c messages => Settles laws pusServiceMaxReception (arrive messages c)) c
      cycles ↔
    B.step.Along (fun c messages => AllClean laws pusServiceMaxReception (arrive messages c)) c
      cycles
  := by
  apply Step.along_congr (I := fun _ => True) _ _ trivial
  · intro c messages _
    apply settles_request_iff
  · intros
    trivial

/-- A service whose child accepts all requests, and sets an error parameter in every cycle. -/
def accepting : PusServiceBase (StoreAddress → Option (List UInt8)) Unit where
  tcPool := tableStore 1
  child :=
    { handleRequest := fun _ _ _ => (⟨.ok, none, none⟩, ())
      performService := fun _ => (⟨.ok, some 5, none⟩, ()) }

/-- A telecommand that is too short is left in the store, and an error parameter that has been set
in the cycle before is reported for a telecommand that is missing. -/
theorem not_settles_along :
  ¬ accepting.step.Along
      (fun c messages =>
        Settles (B := accepting) (tableStore.reliable 1) pusServiceMaxReception (arrive messages c))
      ⟨[], 0, 0, [], Function.update (fun _ => none) ⟨0, 0⟩ (some [24, 1]), ()⟩
      [[.ok ⟨0, 0⟩]] ∧
    ¬ accepting.step.Along
      (fun c messages =>
        Settles (B := accepting) (tableStore.reliable 1) pusServiceMaxReception (arrive messages c))
      ⟨[], 0, 0, [], fun _ => none, ()⟩ [[], [.ok ⟨0, 0⟩]]
  := by
  constructor
  · rintro ⟨h, _⟩
    obtain ⟨⟨hreadable, _⟩, _⟩ := (settles_request_iff _).mp h
    cases hreadable
  · rintro ⟨_, h⟩
    obtain ⟨h, _⟩ := h _ _ rfl
    obtain ⟨⟨hleftover, _⟩, _⟩ := (settles_request_iff _).mp h
    cases hleftover

end PusServiceBase
