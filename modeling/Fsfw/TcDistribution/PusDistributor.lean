import Fsfw.GlobalFunctions.CRC
import Fsfw.TcDistribution.TcDistributorBase
import Fsfw.TmTcServices.VerificationReporter

/-!
# The distributor of telecommands to services

Telecommands are distributed by their service.  Whether a telecommand is accepted is worked out
when its destination is selected, but it is reported only after the telecommand was sent on, and
it is not sent on when it is not accepted.  So only those telecommands are settled, by a report,
that pass all checks and have a service (`settles_iff`).
-/

/-! ### The check of a packet -/

structure PusPacketChecker where
  pusVersion : UInt8 := 2
  apid : UInt16

def PusPacketChecker.checkPacket (checker : PusPacketChecker) (pusPacket : List UInt8) :
    ReturnValue :=
  if ¬ PusTcReader.hasSecHeader pusPacket then
    TmtcDistrib.invalidSecHeaderField
  else if CRC.crc16ccitt (pusPacket.take (PusTcReader.getFullPacketLen pusPacket)) ≠ 0 then
    TmtcDistrib.incorrectChecksum
  else if PusTcReader.getApid pusPacket ≠ checker.apid then
    TmtcDistrib.invalidApid
  else if PusTcReader.getPusVersion pusPacket ≠ checker.pusVersion then
    TmtcDistrib.invalidPusVersion
  else
    .ok

/-! ### The distributor -/

structure PusDistributor (σ : Type*) where
  store : PacketStoreIF σ
  checker : PusPacketChecker
  receiverMap : UInt8 → Option MessageQueueId

/-- The state of the distributor: the status of the telecommand at hand, and the packet that the
reader is set to. -/
structure PusDistributorState where
  tcStatus : ReturnValue := .failed
  reader : List UInt8 := []

namespace PusDistributor

variable {σ : Type*}

/-- A service that is registered keeps its queue. -/
def registerService (D : PusDistributor σ) (serviceId : UInt8) (queue : MessageQueueId) :
    ReturnValue × PusDistributor σ :=
  match D.receiverMap serviceId with
  | some _ => (TcDistributorBase.serviceIdAlreadyExists, D)
  | none => (.ok, { D with receiverMap := Function.update D.receiverMap serviceId (some queue) })

/-- Select the queue of the service.  When there is no such service the queue is looked up all the
same, through the end of the map: the result is not defined then. -/
def selectDestination (D : PusDistributor σ) (currentMessage : StoreAddress)
    (d : PusDistributorState × σ) :
    Option (Except ReturnValue MessageQueueId × StoreAddress × PusDistributorState × σ) :=
  match D.store.getData currentMessage d.2 with
  | (.ok, packet) =>
      match PusTcReader.setReadOnlyData packet with
      | .ok =>
          let tcStatus := D.checker.checkPacket packet
          match PusTcReader.getService packet with
          | none => none
          | some pusId =>
              match D.receiverMap pusId with
              | none => none
              | some destId =>
                  match tcStatus with
                  | .ok => some (.ok destId, currentMessage, ⟨tcStatus, packet⟩, d.2)
                  | result => some (.error result, currentMessage, ⟨tcStatus, packet⟩, d.2)
      | result =>
          some (.error result, currentMessage,
            { d.1 with tcStatus := TcDistributorBase.packetLost }, d.2)
  | _ =>
      some (.error .failed, currentMessage,
        { d.1 with tcStatus := TcDistributorBase.packetLost }, d.2)

def callbackAfterSending (D : PusDistributor σ) (queueStatus : ReturnValue)
    (currentMessage : StoreAddress) (d : PusDistributorState × σ) :
    ReturnValue × List VerificationReport × PusDistributorState × σ :=
  let tcStatus := if queueStatus ≠ .ok then queueStatus else d.1.tcStatus
  if tcStatus ≠ .ok then
    (.failed, [.failure .acceptanceFailure d.1.reader tcStatus], { d.1 with tcStatus := tcStatus },
      (D.store.deleteData currentMessage d.2).2)
  else
    (.ok, [.success .acceptanceSuccess d.1.reader], { d.1 with tcStatus := tcStatus }, d.2)

def toBase (D : PusDistributor σ) : TcDistributorBase σ PusDistributorState VerificationReport where
  selectDestination := D.selectDestination
  callbackAfterSending := D.callbackAfterSending

/-! ### Settling telecommands -/

/-- The queue of the service of a packet. -/
def findDestination (D : PusDistributor σ) (packet : List UInt8) : Option MessageQueueId :=
  (PusTcReader.getService packet).bind D.receiverMap

/-- The reason for which a packet should be refused, or `ok` if it should be accepted. -/
def refusal (D : PusDistributor σ) (packet : List UInt8) (queueStatus : ReturnValue) :
    ReturnValue :=
  if PusTcReader.setReadOnlyData packet ≠ .ok then
    TcDistributorBase.packetLost
  else if D.checker.checkPacket packet ≠ .ok then
    D.checker.checkPacket packet
  else if D.findDestination packet = none then
    TcDistributorBase.destinationNotFound
  else
    queueStatus

variable {D : PusDistributor σ} (laws : D.store.Reliable)

/-- A packet was accepted: it was sent to its service and is in the store, and this was reported. -/
def Accepted (s s' : σ) (currentMessage : StoreAddress) (packet : List UInt8)
    (handling : Handling VerificationReport) : Prop :=
  ∃ destId, D.findDestination packet = some destId ∧
    handling.sent = [(destId, currentMessage)] ∧
    handling.reports = [.success .acceptanceSuccess packet] ∧
    laws.contents s' = laws.contents s

/-- A packet was refused: it was not sent and is not in the store, and the reason was reported.
The report names the packet if that can be read. -/
def Refused (s s' : σ) (currentMessage : StoreAddress) (packet : List UInt8) (reason : ReturnValue)
    (handling : Handling VerificationReport) : Prop :=
  handling.sent = [] ∧
    (∃ report, handling.reports = [report] ∧ report.reportId = .acceptanceFailure ∧
      report.errorCode = reason ∧
      (PusTcReader.setReadOnlyData packet = .ok →
        report = .failure .acceptanceFailure packet reason)) ∧
    laws.contents s' = Function.update (laws.contents s) currentMessage none

/-- A message is handled without undefined behaviour, and a packet in the store is accepted or
refused for the right reason. -/
def Settles (d : PusDistributorState × σ) : TcDistributorBase.Input σ → Prop
  | .received currentMessage queueStatus =>
      ∃ d' handling, D.toBase.handlePacket currentMessage queueStatus d = some (d', handling) ∧
        ∀ packet, laws.contents d.2 currentMessage = some packet →
          if D.refusal packet queueStatus = .ok then
            Accepted laws d.2 d'.2 currentMessage packet handling
          else
            Refused laws d.2 d'.2 currentMessage packet (D.refusal packet queueStatus) handling
  | .others _ => True

/-- A packet in the store can be read, passes all checks, and is for a service that exists. -/
def Passes (d : PusDistributorState × σ) : TcDistributorBase.Input σ → Prop
  | .received currentMessage _ =>
      ∀ packet, laws.contents d.2 currentMessage = some packet →
        PusTcReader.setReadOnlyData packet = .ok ∧ D.checker.checkPacket packet = .ok ∧
          D.findDestination packet ≠ none
  | .others _ => True

variable {d : PusDistributorState × σ} {currentMessage : StoreAddress} {packet : List UInt8}

/-- A packet that passes is sent to its service, and what became of that is reported. -/
theorem handlePacket_of_passes (hpacket : laws.contents d.2 currentMessage = some packet)
    (hread : PusTcReader.setReadOnlyData packet = .ok)
    (hcheck : D.checker.checkPacket packet = .ok) {destId : MessageQueueId}
    (hdest : D.findDestination packet = some destId) (queueStatus : ReturnValue) :
  D.toBase.handlePacket currentMessage queueStatus d =
    if queueStatus = .ok then
      some ((⟨.ok, packet⟩, d.2), ⟨[(destId, currentMessage)],
        [.success .acceptanceSuccess packet], .ok⟩)
    else
      some ((⟨queueStatus, packet⟩, (D.store.deleteData currentMessage d.2).2), ⟨[],
        [.failure .acceptanceFailure packet queueStatus], .failed⟩)
  := by
  obtain ⟨pusId, hservice, hqueue⟩ := Option.bind_eq_some_iff.mp hdest
  simp only [TcDistributorBase.handlePacket, toBase, selectDestination,
    laws.getData_of_some currentMessage d.2 packet hpacket, hread, hservice, hqueue, hcheck]
  by_cases h : queueStatus = .ok
  · simp [callbackAfterSending, h]
  · simp [callbackAfterSending, h]

/-- Nothing is reported about a packet that does not pass. -/
theorem reports_of_not_passes (hpacket : laws.contents d.2 currentMessage = some packet)
    (h : ¬ (PusTcReader.setReadOnlyData packet = .ok ∧ D.checker.checkPacket packet = .ok ∧
      D.findDestination packet ≠ none))
    {queueStatus : ReturnValue} {d' : PusDistributorState × σ}
    {handling : Handling VerificationReport}
    (hhandle : D.toBase.handlePacket currentMessage queueStatus d = some (d', handling)) :
  handling.reports = []
  := by
  simp only [TcDistributorBase.handlePacket, toBase, selectDestination,
    laws.getData_of_some currentMessage d.2 packet hpacket] at hhandle
  cases hread : PusTcReader.setReadOnlyData packet with
  | ok =>
      cases hservice : PusTcReader.getService packet with
      | none =>
          simp only [hread, hservice] at hhandle
          cases hhandle
      | some pusId =>
          cases hqueue : D.receiverMap pusId with
          | none =>
              simp only [hread, hservice, hqueue] at hhandle
              cases hhandle
          | some destId =>
              -- Reading and finding the service worked, so the check has failed.
              have hcheck : D.checker.checkPacket packet ≠ .ok := by
                intro hcheck
                apply h
                simp [hread, hcheck, findDestination, hservice, hqueue]
              simp only [hread, hservice, hqueue] at hhandle
              cases hhandle
              rfl
  | failed =>
      simp only [hread] at hhandle
      cases hhandle
      rfl
  | makeCode classId number =>
      simp only [hread] at hhandle
      cases hhandle
      rfl

theorem settles_of_handled (hpacket : laws.contents d.2 currentMessage = some packet)
    {queueStatus : ReturnValue} {d' : PusDistributorState × σ}
    {handling : Handling VerificationReport}
    (hhandle : D.toBase.handlePacket currentMessage queueStatus d = some (d', handling))
    (h : if D.refusal packet queueStatus = .ok then
        Accepted laws d.2 d'.2 currentMessage packet handling
      else
        Refused laws d.2 d'.2 currentMessage packet (D.refusal packet queueStatus) handling) :
  Settles laws d (.received currentMessage queueStatus)
  := by
  use d', handling, hhandle
  intro packet' hpacket'
  rw [hpacket] at hpacket'
  cases hpacket'
  apply h

/-- A message is settled exactly when its packet passes. -/
theorem settles_received_iff (d : PusDistributorState × σ) (currentMessage : StoreAddress)
    (queueStatus : ReturnValue) :
  Settles laws d (.received currentMessage queueStatus) ↔
    Passes laws d (.received currentMessage queueStatus)
  := by
  constructor
  · rintro ⟨d', handling, hhandle, hsettled⟩ packet hpacket
    by_contra h
    have hreports := reports_of_not_passes laws hpacket h hhandle
    have hsettled := hsettled packet hpacket
    split_ifs at hsettled
    · obtain ⟨_, _, _, hreports', _⟩ := hsettled
      rw [hreports] at hreports'
      cases hreports'
    · obtain ⟨_, ⟨_, hreports', _⟩, _⟩ := hsettled
      rw [hreports] at hreports'
      cases hreports'
  · intro h
    cases hpacket : laws.contents d.2 currentMessage with
    | none =>
        have hgone := laws.getData_of_none currentMessage d.2 hpacket
        use ({ d.1 with tcStatus := TcDistributorBase.packetLost }, d.2), ⟨[], [], .failed⟩
        constructor
        · simp only [TcDistributorBase.handlePacket, toBase, selectDestination]
          generalize D.store.getData currentMessage d.2 = got at hgone
          obtain ⟨result, packet⟩ := got
          cases result with
          | ok =>
              cases hgone rfl
          | failed =>
              rfl
          | makeCode classId number =>
              rfl
        · intro packet h
          rw [hpacket] at h
          cases h
    | some packet =>
        obtain ⟨hread, hcheck, hdest⟩ := h packet hpacket
        obtain ⟨destId, hdest⟩ := Option.ne_none_iff_exists'.mp hdest
        have hhandle := handlePacket_of_passes laws hpacket hread hcheck hdest queueStatus
        have hrefusal : D.refusal packet queueStatus = queueStatus := by
          simp [refusal, hread, hcheck, hdest]
        by_cases hqueue : queueStatus = .ok
        · rw [if_pos hqueue] at hhandle
          apply settles_of_handled laws hpacket hhandle
          rw [hrefusal, if_pos hqueue]
          use destId, hdest, rfl, rfl
        · rw [if_neg hqueue] at hhandle
          apply settles_of_handled laws hpacket hhandle
          rw [hrefusal, if_neg hqueue]
          use rfl
          constructor
          · use .failure .acceptanceFailure packet queueStatus, rfl, rfl, rfl
            intro _
            rfl
          · apply laws.contents_deleteData_eq

/-- Along every stream of messages, whatever becomes of sending them on and whatever the other
users of the store do in between, the packets are settled exactly when they pass. -/
theorem settles_iff (D : PusDistributor σ) (laws : D.store.Reliable)
    (d : PusDistributorState × σ) (inputs : List (TcDistributorBase.Input σ)) :
  D.toBase.step.Along (Settles laws) d inputs ↔ D.toBase.step.Along (Passes laws) d inputs
  := by
  apply Step.along_congr (I := fun _ => True) _ _ trivial
  · intro d input _
    cases input with
    | received currentMessage queueStatus =>
        apply settles_received_iff
    | others store =>
        rfl
  · intros
    trivial

/-- A distributor to the service 17, for the APID 66. -/
def pingDistributor : PusDistributor (StoreAddress → Option (List UInt8)) where
  store := tableStore 1
  checker := ⟨2, 66⟩
  receiverMap := fun serviceId => if serviceId = 17 then some 5 else none

def pingDistributor_reliable : pingDistributor.store.Reliable :=
  tableStore.reliable 1

/-- A store with one packet. -/
def storeWith (packet : List UInt8) : StoreAddress → Option (List UInt8) :=
  Function.update (fun _ => none) ⟨0, 0⟩ (some packet)

/-- A telecommand to the service 17. -/
def pingPacket : List UInt8 :=
  [0x18, 0x42, 0xC0, 0x07, 0, 6, 0x20, 17, 1, 0, 3, 0x47, 0x4A]

/-- It is settled, also when it cannot be sent on. -/
theorem settles_pingPacket :
  pingDistributor.toBase.step.Along (Settles pingDistributor_reliable) ({}, storeWith pingPacket)
    [.received ⟨0, 0⟩ .ok, .others (storeWith pingPacket), .received ⟨0, 0⟩ .failed]
  := by
  have hpasses : ∀ d queueStatus, Passes pingDistributor_reliable (d, storeWith pingPacket)
      (.received ⟨0, 0⟩ queueStatus) := by
    intro d queueStatus packet h
    cases Option.some.inj h
    decide +kernel
  apply (settles_iff pingDistributor pingDistributor_reliable _ _).mpr
  use hpasses _ _
  intro d' _ _
  use trivial
  intro d'' _ h
  cases h
  use hpasses _ _
  intro _ _ _
  trivial

/-- The same telecommand with a wrong checksum is neither reported nor deleted. -/
theorem not_settles_corrupted :
  ¬ pingDistributor.toBase.step.Along (Settles pingDistributor_reliable)
    ({}, storeWith (pingPacket.set 12 0)) [.received ⟨0, 0⟩ .ok]
  := by
  rintro ⟨hsettles, _⟩
  have hpasses := (settles_received_iff pingDistributor_reliable _ _ _).mp hsettles
  have hcheck := (hpasses (pingPacket.set 12 0) rfl).2.1
  revert hcheck
  decide +kernel

end PusDistributor
