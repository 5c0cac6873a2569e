import Fsfw.Library.InOrder
import Fsfw.StorageManager.StoreCustody
import Fsfw.TcDistribution.TelecommandChain

/-!
# Telecommands are handled once, and in order

Whatever the parts of the chain do, in whatever order, every packet in the telecommand store is in
the hands of exactly one of them, or abandoned (`Sound.keeps`).  So no part deletes a packet of
another one, and no packet is handled twice.

A service gets only telecommands that pass all checks and are for this service (`Sound.requested`).
Their reports are in order: the telecommands whose acceptance has been reported when they were sent
to a service are those whose completion the service has reported, one report each, followed by those
that wait in its queue (`served_of_run`).

A step can be undefined only where the distributor to services looks up a service that does not
exist (`step_eq_none_iff`).
-/

namespace PusDistributor

variable {σ : Type*} {D : PusDistributor σ} (laws : D.store.Reliable)
  {d : PusDistributorState × σ} {currentMessage : StoreAddress} {packet : List UInt8}

/-- The selection of a destination is undefined when the service of a packet that can be read does
not exist. -/
theorem selectDestination_of_unserved (hpacket : laws.contents d.2 currentMessage = some packet)
    (hread : PusTcReader.setReadOnlyData packet = .ok) (hdest : D.findDestination packet = none) :
  D.selectDestination currentMessage d = none
  := by
  simp only [selectDestination, laws.getData_of_some currentMessage d.2 packet hpacket, hread]
  rw [findDestination, Option.bind_eq_none_iff] at hdest
  cases hservice : PusTcReader.getService packet with
  | none => rfl
  | some pusId => simp only [hdest pusId hservice]

/-- A packet that cannot be read or fails a check is refused, and nothing else happens. -/
theorem selectDestination_of_refused (hpacket : laws.contents d.2 currentMessage = some packet)
    (h : PusTcReader.setReadOnlyData packet ≠ .ok ∨
      D.checker.checkPacket packet ≠ .ok ∧ D.findDestination packet ≠ none) :
  ∃ result d', D.selectDestination currentMessage d =
    some (.error result, currentMessage, d', d.2)
  := by
  simp only [selectDestination, laws.getData_of_some currentMessage d.2 packet hpacket]
  cases hread : PusTcReader.setReadOnlyData packet with
  | ok =>
      obtain ⟨hcheck, hdest⟩ := h.resolve_left fun hread' => hread' hread
      obtain ⟨destId, hdest⟩ := Option.ne_none_iff_exists'.mp hdest
      obtain ⟨pusId, hservice, hqueue⟩ := Option.bind_eq_some_iff.mp hdest
      simp only [hservice, hqueue]
      cases hresult : D.checker.checkPacket packet with
      | ok => exact absurd hresult hcheck
      | failed => exact ⟨_, _, rfl⟩
      | makeCode classId number => exact ⟨_, _, rfl⟩
  | failed => exact ⟨_, _, rfl⟩
  | makeCode classId number => exact ⟨_, _, rfl⟩

end PusDistributor

namespace TelecommandChain

variable {σ γ : Type*} {C : TelecommandChain σ γ} {S S' : TelecommandChainState σ γ}

/-! ### Who has a packet -/

/-- Who may have the address of a packet. -/
inductive Holder where
  | ccsds
  | pus
  | service (queue : MessageQueueId)
  | others
  | abandoned
  deriving DecidableEq

/-- The addresses that a holder has. -/
def held (S : TelecommandChainState σ γ) : Holder → List StoreAddress
  | .ccsds => S.ccsdsQueue
  | .pus => S.pusQueue
  | .service queue => (S.services queue).reqQueue
  | .others => S.others
  | .abandoned => S.abandoned

/-- Who gets the messages that are sent to a queue. -/
def recipient (C : TelecommandChain σ γ) (destId : MessageQueueId) : Holder :=
  if destId = C.pusQueue then
    .pus
  else if (C.children destId).isSome then
    .service destId
  else
    .others

theorem held_setCcsdsQueue (S : TelecommandChainState σ γ) (queue : List StoreAddress) :
  held { S with ccsdsQueue := queue } = Function.update (held S) .ccsds queue
  := by
  funext holder
  cases holder <;> rfl

theorem held_setPusQueue (S : TelecommandChainState σ γ) (queue : List StoreAddress) :
  held { S with pusQueue := queue } = Function.update (held S) .pus queue
  := by
  funext holder
  cases holder <;> rfl

theorem held_setOthers (S : TelecommandChainState σ γ) (addresses : List StoreAddress) :
  held { S with others := addresses } = Function.update (held S) .others addresses
  := by
  funext holder
  cases holder <;> rfl

theorem held_setAbandoned (S : TelecommandChainState σ γ) (addresses : List StoreAddress) :
  held { S with abandoned := addresses } = Function.update (held S) .abandoned addresses
  := by
  funext holder
  cases holder <;> rfl

theorem held_setService (S : TelecommandChainState σ γ) (queue : MessageQueueId)
    (c : RequestedService γ) :
  held { S with services := Function.update S.services queue c }
    = Function.update (held S) (.service queue) c.reqQueue
  := by
  funext holder
  cases holder with
  | service other =>
      by_cases h : other = queue
      · subst h
        simp only [held, Function.update_self]
      · have hne : Holder.service other ≠ .service queue := fun heq => h (Holder.service.inj heq)
        rw [Function.update_of_ne hne]
        simp only [held, Function.update_of_ne h]
  | ccsds => rfl
  | pus => rfl
  | others => rfl
  | abandoned => rfl

/-- A message that arrives is given to the recipient. -/
theorem held_deliver (S : TelecommandChainState σ γ) (destId : MessageQueueId)
    (storeId : StoreAddress) :
  held (C.deliver S (destId, storeId))
    = Function.update (held S) (C.recipient destId) (held S (C.recipient destId) ++ [storeId])
  := by
  rw [deliver, recipient]
  split_ifs
  · apply held_setPusQueue
  · apply held_setService
  · apply held_setOthers

theorem tcStore_deliver (S : TelecommandChainState σ γ) (message : MessageQueueId × StoreAddress) :
  (C.deliver S message).tcStore = S.tcStore
  := by
  rw [deliver]
  split_ifs <;> rfl

/-! ### What is kept -/

/-- A service is meant to get this telecommand. -/
structure Accepts (C : TelecommandChain σ γ) (queue : MessageQueueId) (tc : List UInt8) :
    Prop where
  readable : PusTcReader.setReadOnlyData tc = .ok
  passes : C.checker.checkPacket tc = .ok
  served : C.pus.findDestination tc = some queue

/-- Every packet in the store has one holder, and services have telecommands that are accepted. -/
structure Sound (laws : C.tcStore.Reliable) (S : TelecommandChainState σ γ) : Prop where
  keeps : Keeps (held S) (laws.contents S.tcStore)
  requested : ∀ queue, ∀ storeId ∈ (S.services queue).reqQueue,
    ∃ tc, laws.contents S.tcStore storeId = some tc ∧ C.Accepts queue tc

/-- How reports name a telecommand. -/
def tcIds (tc : List UInt8) : UInt16 × UInt16 :=
  (PusTcReader.getPacketIdRaw tc, PusTcReader.getPacketSeqCtrlRaw tc)

/-- The telecommand that a report names. -/
def reportedIds (report : RequestReport) : UInt16 × UInt16 :=
  (report.tcPacketId, report.tcPsc)

/-- The telecommands in the queue of a service. -/
def waiting (laws : C.tcStore.Reliable) (S : TelecommandChainState σ γ) (queue : MessageQueueId) :
    List (UInt16 × UInt16) :=
  ((S.services queue).reqQueue.filterMap (laws.contents S.tcStore)).map tcIds

/-- The telecommands that were sent to a queue, and whose acceptance was reported. -/
def accepted (queue : MessageQueueId) (output : ChainOutput) : List (UInt16 × UInt16) :=
  if queue ∈ output.sent.map Prod.fst then
    (output.reports.filter (·.reportId = .acceptanceSuccess)).map reportedIds
  else
    []

/-- The telecommands of the reports that a service has made. -/
def reported (queue : MessageQueueId) (output : ChainOutput) : List (UInt16 × UInt16) :=
  if output.service = some queue then output.reports.map reportedIds else []

/-- What holds of a step of the chain: what is in the queue of a service, and then what is accepted
for it, is what it reports, and then what is in its queue.  Its reports are of completion. -/
structure Serves (laws : C.tcStore.Reliable) (S S' : TelecommandChainState σ γ)
    (output : ChainOutput) : Prop where
  sound : Sound laws S'
  inOrder : ∀ queue, (C.children queue).isSome →
    waiting laws S queue ++ accepted queue output = reported queue output ++ waiting laws S' queue
  completes : output.service.isSome → ∀ report ∈ output.reports,
    report.reportId = .completionSuccess ∨ report.reportId = .completionFailure

variable {laws : C.tcStore.Reliable} {a b : StoreAddress} {queue : MessageQueueId}
  {holder : Holder} {output : ChainOutput}

/-- An address at which nothing is stored is not in a queue. -/
theorem Sound.ne_of_free (h : Sound laws S) (ha : a ∈ held S holder)
    (hb : laws.contents S.tcStore b = none) :
  a ≠ b
  := by
  rintro rfl
  exact h.keeps.ne_none ha hb

/-- An address in the queue of a service is not that of another holder. -/
theorem Sound.ne_of_held (h : Sound laws S) (ha : a ∈ (S.services queue).reqQueue)
    (hb : b ∈ held S holder) (hholder : holder ≠ .service queue) :
  a ≠ b
  := by
  rintro rfl
  exact hholder (h.keeps.eq_of_mem hb (show a ∈ held S (.service queue) from ha))

/-- A step that leaves the queues of all services alone, and their telecommands. -/
theorem Sound.serves_of_undisturbed (h : Sound laws S)
    (hkeeps : Keeps (held S') (laws.contents S'.tcStore))
    (hqueues : ∀ queue, (S'.services queue).reqQueue = (S.services queue).reqQueue)
    (hcontents : ∀ queue, ∀ a ∈ (S.services queue).reqQueue,
      laws.contents S'.tcStore a = laws.contents S.tcStore a)
    (haccepted : ∀ queue, (C.children queue).isSome → accepted queue output = [])
    (hservice : output.service = none) :
  Serves laws S S' output
  where
    sound :=
      { keeps := hkeeps
        requested := by
          intro queue a ha
          rw [hqueues] at ha
          rw [hcontents queue a ha]
          exact h.requested queue a ha }
    inOrder := by
      intro queue hqueue
      have hreported : reported queue output = [] := by
        rw [reported, hservice, if_neg (Option.some_ne_none queue).symm]
      have hsame : waiting laws S' queue = waiting laws S queue := by
        rw [waiting, waiting, hqueues]
        congr 1
        exact List.filterMap_congr fun a ha => hcontents queue a ha
      rw [haccepted queue hqueue, hreported, hsame, List.append_nil, List.nil_append]
    completes := by
      intro hsome
      rw [hservice] at hsome
      cases hsome

theorem accepted_of_unsent (h : output.sent = []) (queue : MessageQueueId) :
  accepted queue output = []
  := by
  rw [accepted, h]
  exact if_neg List.not_mem_nil

theorem accepted_of_unreported (h : output.reports = []) (queue : MessageQueueId) :
  accepted queue output = []
  := by
  rw [accepted, h]
  exact ite_self _

/-- What becomes of a step in which no message is handled, when the services are left alone. -/
theorem Sound.serves_silent (h : Sound laws S)
    (hkeeps : Keeps (held S') (laws.contents S'.tcStore))
    (hqueues : ∀ queue, (S'.services queue).reqQueue = (S.services queue).reqQueue)
    (hcontents : ∀ queue, ∀ a ∈ (S.services queue).reqQueue,
      laws.contents S'.tcStore a = laws.contents S.tcStore a) :
  Serves laws S S' {}
  := by
  apply h.serves_of_undisturbed hkeeps hqueues hcontents
  · intro queue _
    exact accepted_of_unsent rfl queue
  · rfl

/-- Nothing happens. -/
theorem Sound.serves_idle (h : Sound laws S) :
  Serves laws S S {}
  := h.serves_silent h.keeps (fun _ => rfl) (fun _ _ _ => rfl)

/-! ### The store -/

/-- What is stored at a free address does not change a telecommand of a service. -/
theorem Sound.update_of_free (h : Sound laws S) (hfree : laws.contents S.tcStore b = none)
    (ha : a ∈ (S.services queue).reqQueue) (packet : Option (List UInt8)) :
  Function.update (laws.contents S.tcStore) b packet a = laws.contents S.tcStore a
  := Function.update_of_ne (h.ne_of_free (show a ∈ held S (.service queue) from ha) hfree) _ _

/-- The deletion of a packet of another holder does not change a telecommand of a service. -/
theorem Sound.update_of_held (h : Sound laws S) (hb : b ∈ held S holder)
    (hholder : holder ≠ .service queue) (ha : a ∈ (S.services queue).reqQueue)
    (packet : Option (List UInt8)) :
  Function.update (laws.contents S.tcStore) b packet a = laws.contents S.tcStore a
  := Function.update_of_ne (h.ne_of_held ha hb hholder) _ _

/-! ### The steps of the chain -/

theorem Sound.handleTcReception (h : Sound laws S) (packet : List UInt8)
    (queueStatus : ReturnValue) :
  Serves laws S (C.handleTcReception S packet queueStatus) {}
  := by
  rw [TelecommandChain.handleTcReception]
  split
  · rename_i storeId tcStore hadd
    obtain ⟨hfree, hstored⟩ := laws.contents_of_added hadd
    split_ifs
    · apply h.serves_silent
      · have hgiven := h.keeps.give hfree .ccsds packet
        rw [← hstored] at hgiven
        rwa [← held_setCcsdsQueue] at hgiven
      · intro _
        rfl
      · intro queue a ha
        dsimp only
        rw [hstored, h.update_of_free hfree ha]
    · -- The packet is deleted again.
      have hdeleted : laws.contents (C.tcStore.deleteData storeId tcStore).2
          = laws.contents S.tcStore := by
        rw [laws.contents_deleteData_eq, hstored, Function.update_idem, ← hfree,
          Function.update_eq_self]
      apply h.serves_silent
      · dsimp only
        rw [hdeleted]
        exact h.keeps
      · intro _
        rfl
      · intro queue a _
        dsimp only
        rw [hdeleted]
  · rename_i result storeId tcStore hresult hadd
    have hsame := laws.contents_of_not_added hadd hresult
    apply h.serves_silent
    · dsimp only
      rw [hsame]
      exact h.keeps
    · intro _
      rfl
    · intro queue a _
      dsimp only
      rw [hsame]

theorem Sound.store (h : Sound laws S) (packet : List UInt8) :
  Serves laws S (C.store S packet) {}
  := by
  rw [TelecommandChain.store]
  split
  · rename_i storeId tcStore hadd
    apply h.serves_silent
    · have hgiven := h.keeps.addData laws hadd .others
      rwa [← held_setOthers] at hgiven
    · intro _
      rfl
    · intro queue a ha
      exact h.keeps.contents_addData laws hadd (i := Holder.service queue) ha
  · rename_i result storeId tcStore hresult hadd
    have hsame := laws.contents_of_not_added hadd hresult
    apply h.serves_silent
    · dsimp only
      rw [hsame]
      exact h.keeps
    · intro _
      rfl
    · intro queue a _
      dsimp only
      rw [hsame]

theorem Sound.release (h : Sound laws S) (storeId : StoreAddress) (queueStatus : ReturnValue) :
  Serves laws S (release S storeId queueStatus) {}
  := by
  rw [TelecommandChain.release]
  split_ifs with hsent
  · apply h.serves_silent
    · have hhanded := h.keeps.hand (i := .others) hsent.1 .ccsds
      rw [← held_setOthers] at hhanded
      rwa [← held_setCcsdsQueue] at hhanded
    · intro _
      rfl
    · intro _ _ _
      rfl
  · exact h.serves_idle

theorem Sound.delete (h : Sound laws S) (storeId : StoreAddress) :
  Serves laws S (C.delete S storeId) {}
  := by
  rw [TelecommandChain.delete]
  split_ifs with hheld
  · apply h.serves_silent
    · have hdropped := h.keeps.deleteData laws (i := .others) hheld
      rwa [← held_setOthers] at hdropped
    · intro _
      rfl
    · intro queue a ha
      exact h.keeps.contents_deleteData laws (i := Holder.service queue) (j := .others) hheld
        Holder.noConfusion ha
  · exact h.serves_idle

theorem Sound.performService (h : Sound laws S) (queue : MessageQueueId) :
  Serves laws S (C.performService S queue) {}
  := by
  rw [TelecommandChain.performService]
  cases C.children queue with
  | none => exact h.serves_idle
  | some child =>
      dsimp only
      apply h.serves_silent
      · rw [held_setService]
        have hsame : (S.services queue).reqQueue = held S (.service queue) := rfl
        rw [hsame, Function.update_eq_self]
        exact h.keeps
      · intro other
        by_cases hother : other = queue
        · subst hother
          dsimp only
          rw [Function.update_self]
        · dsimp only
          rw [Function.update_of_ne hother]
      · intro _ _ _
        rfl

/-- The messages of the distributor of space packets do not go to services. -/
theorem recipient_of_application {packet : List UInt8} {info : DestInfo}
    (h : C.ccsds.findDestination (PusTcReader.getApid packet) = some info) :
  C.children info.destId = none ∧ ∀ queue, C.recipient info.destId ≠ .service queue
  := by
  have hapart : C.children info.destId = none := by
    rw [CcsdsDistributor.findDestination] at h
    split at h
    · rename_i found hfound
      cases h
      exact C.applications_apart _ _ hfound
    · exact C.applications_apart _ _ h
  use hapart
  intro queue
  rw [recipient, hapart]
  split_ifs with hpus hnone
  · exact Holder.noConfusion
  · cases hnone
  · exact Holder.noConfusion

/-- A message of the distributor of space packets leaves the services alone. -/
theorem services_deliver (S : TelecommandChainState σ γ) {destId : MessageQueueId}
    (h : C.children destId = none) (storeId : StoreAddress) :
  (C.deliver S (destId, storeId)).services = S.services
  := by
  rw [deliver, h]
  split_ifs with hpus hnone
  · rfl
  · cases hnone
  · rfl

theorem Sound.handleCcsds (h : Sound laws S) (queueStatus : ReturnValue) :
  ∃ S' output, C.handleCcsds S queueStatus = some (S', output) ∧ Serves laws S S' output
  := by
  rw [TelecommandChain.handleCcsds]
  cases hqueue : S.ccsdsQueue with
  | nil => exact ⟨S, {}, rfl, h.serves_idle⟩
  | cons currentMessage queue =>
      have hheld : currentMessage ∈ held S .ccsds := by
        rw [held, hqueue]
        exact List.mem_cons_self
      have herase : (held S .ccsds).erase currentMessage = queue := by
        rw [held, hqueue, List.erase_cons_head]
      have hdrop := h.keeps.drop hheld
      rw [herase] at hdrop
      obtain ⟨d, handling, hhandle, hconserves⟩ :=
        CcsdsDistributor.conserves_received (D := C.ccsds) laws ((), S.tcStore) currentMessage
          queueStatus
      dsimp only
      rw [hhandle]
      refine ⟨_, _, rfl, ?_⟩
      obtain ⟨⟨packet, info, address, hpacket, hinfo, hsent, hstore⟩, -⟩ |
        ⟨⟨hsent, hstore⟩, -⟩ := hconserves
      · obtain ⟨hapart, hrecipient⟩ := recipient_of_application hinfo
        rw [hsent, List.foldl_cons, List.foldl_nil]
        apply h.serves_of_undisturbed
        · rw [held_deliver, tcStore_deliver, held_setCcsdsQueue (S := { S with tcStore := d.2 })]
          dsimp only
          split at hstore
          · -- The packet is deleted, and what is left of it is stored anew.
            obtain ⟨hfree, hstored⟩ := hstore
            have hne : address ≠ currentMessage := by
              rintro rfl
              exact h.keeps.ne_none hheld hfree
            rw [hstored]
            apply hdrop.give
            rw [Function.update_of_ne hne, hfree]
          · obtain ⟨rfl, hsame⟩ := hstore
            have hhanded := h.keeps.hand hheld (C.recipient info.destId)
            rw [herase] at hhanded
            rw [hsame]
            exact hhanded
        · intro other
          rw [services_deliver _ hapart]
        · intro other a ha
          rw [tcStore_deliver]
          dsimp only
          split at hstore
          · rw [hstore.2, Function.update_of_ne
              (h.ne_of_free (show a ∈ held S (.service other) from ha) hstore.1),
              h.update_of_held hheld Holder.noConfusion ha]
          · rw [hstore.2]
        · intro other hother
          rw [accepted_of_unreported rfl]
        · rfl
      · rw [hsent, List.foldl_nil]
        apply h.serves_of_undisturbed
        · rw [held_setCcsdsQueue (S := { S with tcStore := d.2 })]
          dsimp only
          rw [hstore]
          exact hdrop
        · intro _
          rfl
        · intro other a ha
          dsimp only
          rw [hstore, h.update_of_held hheld Holder.noConfusion ha]
        · intro other _
          exact accepted_of_unsent rfl other
        · rfl

/-! ### The distributor to services -/

/-- The report of the distributor to services about a packet. -/
def acceptance (packet : List UInt8) : RequestReport :=
  { toVerificationReport := .success .acceptanceSuccess packet }

/-- A telecommand that is sent to a service is the last one in its queue. -/
theorem Sound.serves_accepted (h : Sound laws S) {destId : MessageQueueId}
    {packet : List UInt8} (hpacket : laws.contents S.tcStore a = some packet)
    (haccepts : C.Accepts destId packet)
    (hkeeps : Keeps (held S') (laws.contents S'.tcStore)) (hstore : S'.tcStore = S.tcStore)
    (hservices : ∀ other, (S'.services other).reqQueue =
      if other = destId then (S.services other).reqQueue ++ [a] else (S.services other).reqQueue) :
  Serves laws S S' { sent := [(destId, a)], reports := [acceptance packet] }
  where
    sound :=
      { keeps := hkeeps
        requested := by
          intro other b hb
          rw [hstore]
          rw [hservices] at hb
          split_ifs at hb with hother
          · rcases List.mem_append.mp hb with hold | hnew
            · exact h.requested other b hold
            · rw [List.mem_singleton.mp hnew, hother]
              exact ⟨packet, hpacket, haccepts⟩
          · exact h.requested other b hb }
    inOrder := by
      intro other _
      have hreported : reported other
          { sent := [(destId, a)], reports := [acceptance packet] } = [] := rfl
      rw [hreported, List.nil_append, waiting, waiting, hservices, hstore, accepted]
      by_cases hother : other = destId
      · subst hother
        have hsent : other ∈ [(other, a)].map Prod.fst := List.mem_cons_self
        rw [if_pos hsent, if_pos rfl, List.filterMap_append, List.map_append]
        have hlast : [a].filterMap (laws.contents S.tcStore) = [packet] := by
          rw [List.filterMap_cons, hpacket, List.filterMap_nil]
        rw [hlast]
        rfl
      · have hsent : other ∉ [(destId, a)].map Prod.fst := fun hmem =>
          hother (List.mem_singleton.mp hmem)
        rw [if_neg hsent, if_neg hother, List.append_nil]
    completes := by
      intro hsome
      cases hsome

theorem held_handlePus (S : TelecommandChainState σ γ) (tcStore : σ) (pus : PusDistributorState)
    (queue addresses : List StoreAddress) :
  held
    { S with
      tcStore := tcStore
      pus := pus
      pusQueue := queue
      abandoned := S.abandoned ++ addresses }
    = Function.update (Function.update (held S) .pus queue) .abandoned
        (held S .abandoned ++ addresses)
  := by
  funext holder
  cases holder <;> rfl

theorem held_handlePus_nil (S : TelecommandChainState σ γ) (tcStore : σ)
    (pus : PusDistributorState) (queue : List StoreAddress) :
  held
    { S with
      tcStore := tcStore
      pus := pus
      pusQueue := queue
      abandoned := S.abandoned ++ [] }
    = Function.update (held S) .pus queue
  := by
  rw [held_handlePus, List.append_nil]
  funext holder
  cases holder <;> rfl

/-- The next message of the distributor to services is for a service that does not exist. -/
def Unserved (laws : C.tcStore.Reliable) (S : TelecommandChainState σ γ) : Prop :=
  ∃ storeId queue packet, S.pusQueue = storeId :: queue ∧
    laws.contents S.tcStore storeId = some packet ∧
    PusTcReader.setReadOnlyData packet = .ok ∧ C.pus.findDestination packet = none

theorem handlePus_of_unserved (h : Unserved laws S) (queueStatus : ReturnValue) :
  C.handlePus S queueStatus = none
  := by
  obtain ⟨storeId, queue, packet, hqueue, hpacket, hread, hdest⟩ := h
  have hselect := PusDistributor.selectDestination_of_unserved (D := C.pus)
    (d := (S.pus, S.tcStore)) laws hpacket hread hdest
  rw [handlePus, hqueue]
  dsimp only
  rw [TcDistributorBase.handlePacket]
  have hbase : C.pus.toBase.selectDestination storeId (S.pus, S.tcStore) = none := hselect
  rw [hbase]

/-- What the distributor to services does with a message whose packet is in the store: it accepts
the packet, it reports and deletes it, or it leaves it in the store. -/
theorem handlePacket_pus (laws : C.tcStore.Reliable) (pus : PusDistributorState) {s : σ}
    {packet : List UInt8} (hpacket : laws.contents s a = some packet)
    (hserved : PusTcReader.setReadOnlyData packet = .ok → C.pus.findDestination packet ≠ none)
    (queueStatus : ReturnValue) :
  (∃ destId d, C.Accepts destId packet ∧
    C.pus.toBase.handlePacket a queueStatus (pus, s) =
      some ((d, s), ⟨[(destId, a)], [.success .acceptanceSuccess packet], .ok⟩)) ∨
  (∃ d, C.pus.toBase.handlePacket a queueStatus (pus, s) =
      some ((d, (C.tcStore.deleteData a s).2),
        ⟨[], [.failure .acceptanceFailure packet queueStatus], .failed⟩)) ∨
  ∃ d result, C.pus.toBase.handlePacket a queueStatus (pus, s) = some ((d, s), ⟨[], [], result⟩)
  := by
  by_cases hpasses : PusTcReader.setReadOnlyData packet = .ok ∧ C.checker.checkPacket packet = .ok
  · obtain ⟨hread, hcheck⟩ := hpasses
    obtain ⟨destId, hdest⟩ := Option.ne_none_iff_exists'.mp (hserved hread)
    have hhandle := PusDistributor.handlePacket_of_passes (D := C.pus) (d := (pus, s)) laws hpacket
      hread hcheck hdest queueStatus
    split_ifs at hhandle
    · exact .inl ⟨destId, _, ⟨hread, hcheck, hdest⟩, hhandle⟩
    · exact .inr (.inl ⟨_, hhandle⟩)
  · right
    right
    obtain ⟨result, d, hselect⟩ := PusDistributor.selectDestination_of_refused (D := C.pus)
      (d := (pus, s)) laws hpacket (by
        by_cases hread : PusTcReader.setReadOnlyData packet = .ok
        · exact .inr ⟨fun hcheck => hpasses ⟨hread, hcheck⟩, hserved hread⟩
        · exact .inl hread)
    use d, result
    have hbase : C.pus.toBase.selectDestination a (pus, s) = some (.error result, a, d, s) :=
      hselect
    rw [TcDistributorBase.handlePacket, hbase]

theorem services_deliver_service (S : TelecommandChainState σ γ) {destId : MessageQueueId}
    (h : (C.children destId).isSome) (storeId : StoreAddress) (other : MessageQueueId) :
  ((C.deliver S (destId, storeId)).services other).reqQueue =
    if other = destId then (S.services other).reqQueue ++ [storeId]
    else (S.services other).reqQueue
  := by
  have hpus : destId ≠ C.pusQueue := by
    rintro rfl
    rw [C.pusQueue_apart] at h
    cases h
  rw [deliver, if_neg hpus, if_pos h]
  by_cases hother : other = destId
  · subst hother
    dsimp only
    rw [Function.update_self, if_pos rfl]
  · dsimp only
    rw [Function.update_of_ne hother, if_neg hother]

theorem Sound.handlePus (h : Sound laws S) (hserved : ¬ Unserved laws S)
    (queueStatus : ReturnValue) :
  ∃ S' output, C.handlePus S queueStatus = some (S', output) ∧ Serves laws S S' output
  := by
  rw [TelecommandChain.handlePus]
  cases hqueue : S.pusQueue with
  | nil => exact ⟨S, {}, rfl, h.serves_idle⟩
  | cons currentMessage queue =>
      have hheld : currentMessage ∈ held S .pus := by
        rw [held, hqueue]
        exact List.mem_cons_self
      have herase : (held S .pus).erase currentMessage = queue := by
        rw [held, hqueue, List.erase_cons_head]
      obtain ⟨packet, hpacket⟩ := h.keeps.exists_eq_some hheld
      have hdest : PusTcReader.setReadOnlyData packet = .ok →
          C.pus.findDestination packet ≠ none :=
        fun hread hnone => hserved ⟨currentMessage, queue, packet, hqueue, hpacket, hread, hnone⟩
      dsimp only
      obtain ⟨destId, d, haccepts, hhandle⟩ | ⟨d, hhandle⟩ | ⟨d, result, hhandle⟩ :=
        handlePacket_pus laws S.pus hpacket hdest queueStatus
      · rw [hhandle]
        refine ⟨_, _, rfl, ?_⟩
        have hkeeps := h.keeps.hand hheld (C.recipient destId)
        rw [herase, ← held_handlePus_nil S S.tcStore d queue, ← held_deliver] at hkeeps
        by_cases hservice : (C.children destId).isSome
        · apply h.serves_accepted hpacket haccepts
          · rw [List.foldl_cons, List.foldl_nil, tcStore_deliver]
            exact hkeeps
          · rw [List.foldl_cons, List.foldl_nil, tcStore_deliver]
          · intro other
            rw [List.foldl_cons, List.foldl_nil, services_deliver_service _ hservice]
        · have hnone : C.children destId = none := Option.not_isSome_iff_eq_none.mp hservice
          apply h.serves_of_undisturbed
          · rw [List.foldl_cons, List.foldl_nil, tcStore_deliver]
            exact hkeeps
          · intro other
            rw [List.foldl_cons, List.foldl_nil, services_deliver _ hnone]
          · intro other b _
            rw [List.foldl_cons, List.foldl_nil, tcStore_deliver]
          · intro other hother
            rw [accepted, if_neg]
            intro hmem
            rw [List.mem_singleton.mp hmem] at hother
            exact hservice hother
          · rfl
      · rw [hhandle]
        refine ⟨_, _, rfl, ?_⟩
        have hkeeps := h.keeps.drop hheld
        rw [herase, ← held_handlePus_nil S S.tcStore d queue, ← laws.contents_deleteData_eq]
          at hkeeps
        apply h.serves_of_undisturbed
        · exact hkeeps
        · intro _
          rfl
        · intro other b hb
          dsimp only [List.foldl_nil]
          rw [laws.contents_deleteData_eq, h.update_of_held hheld Holder.noConfusion hb]
        · intro other _
          exact accepted_of_unsent rfl other
        · rfl
      · rw [hhandle]
        refine ⟨_, _, rfl, ?_⟩
        have hkeeps := h.keeps.hand hheld .abandoned
        rw [herase] at hkeeps
        apply h.serves_of_undisturbed
        · rw [List.foldl_nil, held_handlePus]
          exact hkeeps
        · intro _
          rfl
        · intro _ _ _
          rfl
        · intro other _
          exact accepted_of_unsent rfl other
        · rfl

/-! ### The services -/

/-- A service reports the completion of a telecommand that it can read, and deletes it. -/
theorem handleMessage_of_accepted (laws : C.tcStore.Reliable) (child : PusServiceChild γ)
    {c : PusServiceState σ γ} {tc : List UInt8} (htc : laws.contents c.tcPool a = some tc)
    (haccepts : C.Accepts queue tc) :
  ∃ report c', (C.service child).handleMessage a c = (report, c') ∧
    reportedIds report = tcIds tc ∧
    (report.reportId = .completionSuccess ∨ report.reportId = .completionFailure) ∧
    laws.contents c'.tcPool = Function.update (laws.contents c.tcPool) a none
  := by
  have hreadable : (PusServiceBase.requests (B := C.service child) laws c).readable a
      = some tc := by
    rw [PusServiceBase.readable_of_some (B := C.service child) laws htc,
      if_pos haccepts.readable]
  refine ⟨_, _, PusServiceBase.handleMessage_readable (B := C.service child) laws hreadable,
    ?_, ?_, laws.contents_deleteData_eq a c.tcPool⟩
  · split_ifs
    · rfl
    · rfl
  · split_ifs
    · left
      rfl
    · right
      rfl

/-- A service handles the first request in its queue. -/
theorem Sound.serves_reported (h : Sound laws S) {rest : List StoreAddress}
    (hqueue : (S.services queue).reqQueue = a :: rest) {tc : List UInt8}
    (htc : laws.contents S.tcStore a = some tc) {report : RequestReport}
    (hids : reportedIds report = tcIds tc)
    (hcompletion : report.reportId = .completionSuccess ∨ report.reportId = .completionFailure)
    (hkeeps : Keeps (held S') (laws.contents S'.tcStore))
    (hstore : laws.contents S'.tcStore = Function.update (laws.contents S.tcStore) a none)
    (hservices : ∀ other, (S'.services other).reqQueue =
      if other = queue then rest else (S.services other).reqQueue) :
  Serves laws S S' { reports := [report], service := some queue }
  := by
  have hheld : a ∈ held S (.service queue) := by
    rw [held, hqueue]
    exact List.mem_cons_self
  -- What is in the queues is what was there before, but not the request.
  have hold : ∀ other, ∀ b ∈ (S'.services other).reqQueue,
      b ∈ (S.services other).reqQueue ∧
        laws.contents S'.tcStore b = laws.contents S.tcStore b := by
    intro other b hb
    have hne : b ≠ a := by
      rintro rfl
      apply hkeeps.ne_none (i := .service other) hb
      rw [hstore, Function.update_self]
    constructor
    · rw [hservices] at hb
      split_ifs at hb with hother
      · rw [hother, hqueue]
        exact List.mem_cons_of_mem _ hb
      · exact hb
    · rw [hstore, Function.update_of_ne hne]
  constructor
  · use hkeeps
    intro other b hb
    obtain ⟨hmem, hsame⟩ := hold other b hb
    rw [hsame]
    exact h.requested other b hmem
  · intro other _
    have hcontents : (S'.services other).reqQueue.filterMap (laws.contents S'.tcStore)
        = (S'.services other).reqQueue.filterMap (laws.contents S.tcStore) :=
      List.filterMap_congr fun b hb => (hold other b hb).2
    rw [accepted_of_unsent rfl, List.append_nil, reported, waiting, waiting, hcontents, hservices]
    by_cases hother : other = queue
    · subst hother
      rw [if_pos rfl, if_pos rfl, hqueue, List.filterMap_cons, htc, List.map_cons, ← hids]
      rfl
    · have hsome : some queue ≠ some other := fun heq => hother (Option.some.inj heq).symm
      rw [if_neg hother, if_neg hsome, List.nil_append]
  · intro _ made hmade
    rw [List.mem_singleton.mp hmade]
    exact hcompletion

theorem Sound.handleRequest (h : Sound laws S) (queue : MessageQueueId) :
  Serves laws S (C.handleRequest S queue).1 (C.handleRequest S queue).2
  := by
  rw [TelecommandChain.handleRequest]
  split
  · rename_i child storeId rest hchild hqueue
    have hheld : storeId ∈ held S (.service queue) := by
      rw [held, hqueue]
      exact List.mem_cons_self
    obtain ⟨tc, htc, haccepts⟩ := h.requested queue storeId hheld
    obtain ⟨report, c, hmessage, hids, hcompletion, hstore⟩ := handleMessage_of_accepted laws child
      (c := { S.services queue with reqQueue := rest }.attach S.tcStore) htc haccepts
    dsimp only
    rw [hmessage]
    apply h.serves_reported hqueue htc hids hcompletion
    · have hkeeps := h.keeps.drop hheld
      have herase : (held S (.service queue)).erase storeId = rest := by
        rw [held, hqueue, List.erase_cons_head]
      rw [held_setService (S := { S with tcStore := c.tcPool })]
      rw [herase] at hkeeps
      dsimp only
      rw [hstore]
      exact hkeeps
    · exact hstore
    · intro other
      by_cases hother : other = queue
      · subst hother
        dsimp only
        rw [Function.update_self, if_pos rfl]
        rfl
      · dsimp only
        rw [Function.update_of_ne hother, if_neg hother]
  · exact h.serves_idle

/-! ### Runs -/

/-- In a sound state only the distributor to services can do something that is undefined. -/
def IsUnserved (laws : C.tcStore.Reliable) (S : TelecommandChainState σ γ) : ChainInput → Prop
  | .pus _ => Unserved laws S
  | _ => False

/-- A step from a sound state that is defined serves the services. -/
theorem Sound.step (h : Sound laws S) {input : ChainInput} (hserved : ¬ IsUnserved laws S input) :
  ∃ S' output, C.step S input = some (S', output) ∧ Serves laws S S' output
  := by
  cases input with
  | received packet queueStatus => exact ⟨_, _, rfl, h.handleTcReception packet queueStatus⟩
  | ccsds queueStatus => exact h.handleCcsds queueStatus
  | pus queueStatus => exact h.handlePus hserved queueStatus
  | request queue => exact ⟨_, _, rfl, h.handleRequest queue⟩
  | performService queue => exact ⟨_, _, rfl, h.performService queue⟩
  | stored packet => exact ⟨_, _, rfl, h.store packet⟩
  | released storeId queueStatus => exact ⟨_, _, rfl, h.release storeId queueStatus⟩
  | deleted storeId => exact ⟨_, _, rfl, h.delete storeId⟩

/-- A step from a sound state is undefined exactly when the distributor to services looks up a
service that does not exist. -/
theorem Sound.step_eq_none_iff (h : Sound laws S) {input : ChainInput} :
  C.step S input = none ↔ IsUnserved laws S input
  := by
  constructor
  · intro hnone
    by_contra hserved
    obtain ⟨S', output, hstep, -⟩ := h.step hserved
    rw [hnone] at hstep
    cases hstep
  · intro hunserved
    cases input with
    | pus queueStatus => exact handlePus_of_unserved hunserved queueStatus
    | received packet queueStatus => cases hunserved
    | ccsds queueStatus => cases hunserved
    | request queue => cases hunserved
    | performService queue => cases hunserved
    | stored packet => cases hunserved
    | released storeId queueStatus => cases hunserved
    | deleted storeId => cases hunserved

theorem Sound.serves_of_step (h : Sound laws S) {input : ChainInput}
    (hstep : C.step S input = some (S', output)) :
  Serves laws S S' output
  := by
  have hserved : ¬ IsUnserved laws S input := by
    intro hunserved
    rw [h.step_eq_none_iff.mpr hunserved] at hstep
    cases hstep
  obtain ⟨S'', output', hstep', hserves⟩ := h.step hserved
  rw [hstep] at hstep'
  cases hstep'
  exact hserves

/-- What is in the queue of a service, and then what is accepted for it in a run, is what it
reports in the run, and then what is in its queue. -/
theorem Sound.run (h : Sound laws S) {inputs : List ChainInput} {outputs : List ChainOutput}
    (hrun : C.step.run S inputs = some (S', outputs)) :
  Sound laws S' ∧
    (∀ queue, (C.children queue).isSome →
      waiting laws S queue ++ outputs.flatMap (accepted queue) =
        outputs.flatMap (reported queue) ++ waiting laws S' queue) ∧
    ∀ output ∈ outputs, output.service.isSome → ∀ report ∈ output.reports,
      report.reportId = .completionSuccess ∨ report.reportId = .completionFailure
  := by
  have hserves : ∀ S input S' output, Sound laws S → C.step S input = some (S', output) →
      Serves laws S S' output := fun S input S' output h hstep => h.serves_of_step hstep
  refine ⟨?_, ?_, ?_⟩
  · exact Step.run_preserves
      (fun S input S' output h hstep => (hserves S input S' output h hstep).sound) h hrun
  · intro queue hqueue
    apply Step.run_inOrder _ h hrun
    intro S input S' output h hstep
    have hserved := hserves S input S' output h hstep
    exact ⟨hserved.sound, hserved.inOrder queue hqueue⟩
  · apply Step.run_outputs (Q := fun output => output.service.isSome → ∀ report ∈ output.reports,
      report.reportId = .completionSuccess ∨ report.reportId = .completionFailure) _ h hrun
    intro S input S' output h hstep
    have hserved := hserves S input S' output h hstep
    exact ⟨hserved.sound, hserved.completes⟩

/-- The chain before anything is received, with the states of the children of its services. -/
def start (tcStore : σ) (children : MessageQueueId → γ) : TelecommandChainState σ γ where
  tcStore := tcStore
  ccsdsQueue := []
  pusQueue := []
  pus := {}
  services := fun queue => ⟨[], 0, 0, [], children queue⟩
  others := []
  abandoned := []

theorem sound_start {tcStore : σ} (hempty : ∀ a, laws.contents tcStore a = none)
    (children : MessageQueueId → γ) :
  Sound laws (start tcStore children)
  := by
  constructor
  · use fun _ => none
    constructor
    · intro holder a
      cases holder <;> rfl
    · intro a
      exact iff_of_true (hempty a) rfl
  · intro queue a ha
    cases ha

/-- Whatever the parts of the chain and the other users of the store do from the start on, in
whatever order: every packet in the store has one holder.  The telecommands that were accepted for
a service are those whose completion it has reported, in this order, and then those that are in its
queue.  A service makes no other reports, and what is in its queue is meant for it.  The next step
is undefined only where the distributor to services looks up a service that does not exist. -/
theorem served_of_run (C : TelecommandChain σ γ) (laws : C.tcStore.Reliable) {tcStore : σ}
    (hempty : ∀ a, laws.contents tcStore a = none) (children : MessageQueueId → γ)
    {inputs : List ChainInput} {S : TelecommandChainState σ γ} {outputs : List ChainOutput}
    (hrun : C.step.run (start tcStore children) inputs = some (S, outputs)) :
  Sound laws S ∧
    (∀ queue, (C.children queue).isSome →
      outputs.flatMap (accepted queue) =
        outputs.flatMap (reported queue) ++ waiting laws S queue) ∧
    (∀ output ∈ outputs, output.service.isSome → ∀ report ∈ output.reports,
      report.reportId = .completionSuccess ∨ report.reportId = .completionFailure) ∧
    ∀ input, C.step S input = none ↔ IsUnserved laws S input
  := by
  obtain ⟨hsound, hinOrder, hcompletes⟩ := (sound_start hempty children).run hrun
  refine ⟨hsound, ?_, hcompletes, fun _ => hsound.step_eq_none_iff⟩
  intro queue hqueue
  have hqueued := hinOrder queue hqueue
  rwa [show waiting laws (start tcStore children) queue = [] from rfl, List.nil_append] at hqueued

/-- A chain for the APID 66 whose service 17 accepts all requests. -/
def pinging : TelecommandChain (StoreAddress → Option (List UInt8)) Unit where
  tcStore := tableStore 2
  defaultApid := 66
  packetChecker := CcsdsPacketChecker.checkPacket ⟨none, true, 0⟩
  applications := fun apid => if apid = 66 then some ⟨66, 5, false⟩ else none
  checker := ⟨2, 66⟩
  pusQueue := 5
  services := fun serviceId => if serviceId = 17 then some 7 else none
  children := fun queue => if queue = 7 then some PusServiceBase.accepting.child else none
  applications_apart := by
    intro apid info hinfo
    split_ifs at hinfo
    cases hinfo
    rfl
  pusQueue_apart := rfl

/-- A telecommand to the service 17 goes through the chain while another one arrives. -/
def pings : List ChainInput :=
  [.received PusDistributor.pingPacket .ok, .ccsds .ok, .received PusDistributor.pingPacket .ok,
    .pus .ok, .ccsds .ok, .request 7]

/-- The first of them has been completed, and the second one has not been accepted. -/
theorem served_pings :
  ∃ S outputs,
    pinging.step.run (start (fun _ => none) fun _ => ()) pings = some (S, outputs) ∧
    (Sound (C := pinging) (tableStore.reliable 2) S ∧
      (∀ queue, (pinging.children queue).isSome →
        outputs.flatMap (accepted queue) = outputs.flatMap (reported queue) ++
          waiting (C := pinging) (tableStore.reliable 2) S queue) ∧
      (∀ output ∈ outputs, output.service.isSome → ∀ report ∈ output.reports,
        report.reportId = .completionSuccess ∨ report.reportId = .completionFailure) ∧
      ∀ input, pinging.step S input = none ↔
        IsUnserved (C := pinging) (tableStore.reliable 2) S input) ∧
    outputs.flatMap (reported 7) = [(0x1842, 0xC007)] ∧ S.pusQueue = [⟨0, 1⟩]
  := by
  have hends : ((pinging.step.run (start (fun _ => none) fun _ => ()) pings).map fun out =>
      (out.2.flatMap (reported 7), out.1.pusQueue)) = some ([(0x1842, 0xC007)], [⟨0, 1⟩]) := by
    decide +kernel
  obtain ⟨⟨S, outputs⟩, hrun, hout⟩ := Option.map_eq_some_iff.mp hends
  obtain ⟨hreported, hpusQueue⟩ := Prod.mk.inj hout
  use S, outputs, hrun
  refine ⟨?_, hreported, hpusQueue⟩
  exact served_of_run pinging (tableStore.reliable 2) (fun _ => rfl) (fun _ => ()) hrun

/-! ### Cycles of a service -/

/-- Without requests nothing is done. -/
theorem handleRequests_of_nil (B : PusServiceBase σ γ) (count : ℕ) {c : PusServiceState σ γ}
    (h : c.reqQueue = []) :
  B.handleRequests count c = ([], c)
  := by
  cases count with
  | zero => rfl
  | succ count => rw [PusServiceBase.handleRequests, h]

theorem attach_detach {c : PusServiceState σ γ} {rest : List StoreAddress}
    (h : c.reqQueue = rest.map .ok) :
  (detach c rest).attach c.tcPool = c
  := by
  obtain ⟨reqQueue, errorParameter1, errorParameter2, currentPacket, tcPool, child⟩ := c
  cases h
  rfl

/-- The requests that a service handles at once are handled in a run. -/
theorem handleRequests_eq_run {child : PusServiceChild γ}
    (hchild : C.children queue = some child) (count : ℕ) (S : TelecommandChainState σ γ) :
  ∃ S' outputs, C.step.run S (List.replicate count (.request queue)) = some (S', outputs) ∧
    (C.service child).handleRequests count ((S.services queue).attach S.tcStore) =
      (outputs.flatMap ChainOutput.reports, (S'.services queue).attach S'.tcStore)
  := by
  induction count generalizing S with
  | zero => exact ⟨S, [], rfl, rfl⟩
  | succ count ih =>
      cases hqueue : (S.services queue).reqQueue with
      | nil =>
          have hnil : ((S.services queue).attach S.tcStore).reqQueue = [] := by
            rw [RequestedService.attach, hqueue, List.map_nil]
          have hidle : C.handleRequest S queue = (S, {}) := by
            rw [handleRequest, hqueue, hchild]
          obtain ⟨S', outputs, hrun, hrest⟩ := ih S
          refine ⟨S', {} :: outputs, Step.run_cons (congrArg some hidle) hrun, ?_⟩
          rw [handleRequests_of_nil _ _ hnil] at hrest ⊢
          exact hrest
      | cons storeId rest =>
          let c := { S.services queue with reqQueue := rest }.attach S.tcStore
          obtain ⟨report, next, hmessage⟩ : ∃ report next,
              (C.service child).handleMessage storeId c = (report, next) := ⟨_, _, rfl⟩
          have hrest : next.reqQueue = rest.map .ok := by
            have hsame : ((C.service child).handleMessage storeId c).2.reqQueue = c.reqQueue :=
              PusServiceBase.reqQueue_handleMessage c
            rw [hmessage] at hsame
            exact hsame
          let S₁ : TelecommandChainState σ γ :=
            { S with
              tcStore := next.tcPool
              services := Function.update S.services queue (detach next rest) }
          have hrequest : C.handleRequest S queue =
              (S₁, { reports := [report], service := some queue }) := by
            rw [handleRequest, hchild, hqueue]
            dsimp only
            rw [hmessage]
          have hnext : (S₁.services queue).attach S₁.tcStore = next := by
            rw [show S₁.services queue = detach next rest from Function.update_self ..]
            exact attach_detach hrest
          obtain ⟨S', outputs, hrun, hlater⟩ := ih S₁
          rw [hnext] at hlater
          refine ⟨S', _, Step.run_cons (congrArg some hrequest) hrun, ?_⟩
          have hreceived : ((S.services queue).attach S.tcStore).reqQueue
              = .ok storeId :: rest.map .ok := by
            rw [RequestedService.attach, hqueue, List.map_cons]
          rw [PusServiceBase.handleRequests, hreceived]
          dsimp only
          have hc : { (S.services queue).attach S.tcStore with reqQueue := rest.map .ok } = c := rfl
          rw [hc, hmessage]
          dsimp only
          rw [hlater]
          rfl

end TelecommandChain
