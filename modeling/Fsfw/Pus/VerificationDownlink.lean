import Fsfw.Library.InOrder
import Fsfw.Pus.Service1TelecommandVerification
import Fsfw.StorageManager.StoreCustody

/-!
# Verification reports reach ground

Whatever those who report, the verification service, the receiver of telemetry and the other users
of the telemetry store do, in whatever order:

- The reports that were given to the service are those that it has handled, in the same order, and
  then those in its queue.
- The packets that were sent to ground are made of the handled reports whose packet was stored and
  sent, in the same order, with no packet left out but those that wait.  Whoever reads them finds
  what was reported (`Tells`).
- The packets are numbered by the reports that were handled before, so that ground sees how many of
  them were lost.

A packet that could not be sent is not left in the store, and no packet of another object is deleted
(`verified_of_run`).
-/

/-! ### What ground is told -/

/-- What a report tells.  Only a report about progress has a step, and only one about a failure has
an error. -/
structure ToldReport where
  tcPacketId : UInt16
  tcPsc : UInt16
  step : Option UInt8
  error : Option (UInt16 × UInt32 × UInt32)
  deriving DecidableEq, Repr

namespace VerifParams

/-- The report is one of the eight kinds. -/
def Valid (params : VerifParams) : Prop :=
  ¬ (params.reportId = 0 ∨ params.reportId > 8)

instance (params : VerifParams) : Decidable params.Valid :=
  inferInstanceAs (Decidable (¬ _))

/-- What ground is to be told. -/
def told (params : VerifParams) : ToldReport where
  tcPacketId := params.tcPacketId
  tcPsc := params.tcPsc
  step :=
    if params.reportId = TcVerif.progressSuccess.toUInt8
        ∨ params.reportId = TcVerif.progressFailure.toUInt8 then
      some params.step
    else
      none
  error :=
    if params.reportId % 2 = 0 then
      some (params.errorCode, params.errorParam1, params.errorParam2)
    else
      none

end VerifParams

namespace ToldReport

/-- Read a number, if there is one. -/
def readIf (condition : Bool) (size : ℕ) (data : List UInt8) :
    Except ReturnValue (ℕ × List UInt8) :=
  if condition then SerializeAdapter.deSerialize size data else .ok (0, data)

theorem readIf_true (size : ℕ) (data : List UInt8) :
  readIf true size data = SerializeAdapter.deSerialize size data
  := rfl

theorem readIf_false (size : ℕ) (data : List UInt8) :
  readIf false size data = .ok (0, data)
  := rfl

/-- Read the fields of a report about progress or not, and about a failure or not. -/
def readFields (progress failure : Bool) (data : List UInt8) : Except ReturnValue ToldReport := do
  let (tcPacketId, data) ← SerializeAdapter.deSerialize 2 data
  let (tcPsc, data) ← SerializeAdapter.deSerialize 2 data
  let (step, data) ← readIf progress 1 data
  let (errorCode, data) ← readIf failure 2 data
  let (errorParam1, data) ← readIf failure 4 data
  let (errorParam2, _) ← readIf failure 4 data
  pure
    { tcPacketId := .ofNat tcPacketId
      tcPsc := .ofNat tcPsc
      step := if progress then some (.ofNat step) else none
      error :=
        if failure then some (.ofNat errorCode, .ofNat errorParam1, .ofNat errorParam2) else none }

/-- Read the source data of a packet. -/
def read (subservice : UInt8) (data : List UInt8) : Except ReturnValue ToldReport :=
  readFields
    (subservice = TcVerif.progressSuccess.toUInt8 ∨ subservice = TcVerif.progressFailure.toUInt8)
    (subservice % 2 = 0) data

end ToldReport

namespace SerializeAdapter

/-- A number is read from its bytes. -/
theorem deSerialize_append {w n : ℕ} (h : n < 2 ^ (8 * w)) (rest : List UInt8) :
  deSerialize w (bytesOf w n .big ++ rest) = .ok (n, rest)
  := by
  have hlen := length_bytesOf w n .big
  rw [deSerialize, if_pos (by rw [List.length_append, hlen]; omega), List.take_left' hlen,
    List.drop_left' hlen, bytesOf, convertBigEndian_bigEndianBytes h]

end SerializeAdapter

namespace Service1TelecommandVerification

open SerializeAdapter

/-- The source data of the packet that is made of a message. -/
def reportOf (message : MessageQueueMessage) : Serializable :=
  if PusVerificationMessage.getReportId message % 2 = 0 then
    (failureReport message).toSerializable
  else
    (successReport message).toSerializable

theorem readIf_bytesIf (condition : Bool) (byte : UInt8) (rest : List UInt8) :
  ToldReport.readIf condition 1 (Serializer.bytesIf condition byte .big ++ rest)
    = .ok (if condition then byte.toNat else 0, rest)
  := by
  cases condition with
  | true => exact deSerialize_append (w := 1) byte.toNat_lt rest
  | false => rfl

theorem readFields_success (progress : Bool) (tcPacketId tcPsc : UInt16) (step : UInt8) :
  ToldReport.readFields progress false
      (bytesOf 2 tcPacketId.toNat .big
        ++ (bytesOf 2 tcPsc.toNat .big ++ Serializer.bytesIf progress step .big))
    = .ok ⟨tcPacketId, tcPsc, if progress then some step else none, none⟩
  := by
  have hstep := readIf_bytesIf progress step []
  rw [List.append_nil] at hstep
  simp only [ToldReport.readFields, deSerialize_append (w := 2) (UInt16.toNat_lt _), hstep,
    ToldReport.readIf_false, bind, Except.bind, pure, Except.pure]
  cases progress <;> simp

theorem readFields_failure (progress : Bool) (tcPacketId tcPsc : UInt16) (step : UInt8)
    (errorCode : UInt16) (errorParam1 errorParam2 : UInt32) :
  ToldReport.readFields progress true
      (bytesOf 2 tcPacketId.toNat .big
        ++ (bytesOf 2 tcPsc.toNat .big
          ++ (Serializer.bytesIf progress step .big
            ++ (bytesOf 2 errorCode.toNat .big
              ++ (bytesOf 4 errorParam1.toNat .big ++ bytesOf 4 errorParam2.toNat .big)))))
    = .ok ⟨tcPacketId, tcPsc, if progress then some step else none,
        some (errorCode, errorParam1, errorParam2)⟩
  := by
  have hlast := deSerialize_append (w := 4) errorParam2.toNat_lt []
  rw [List.append_nil] at hlast
  simp only [ToldReport.readFields, deSerialize_append (w := 2) (UInt16.toNat_lt _),
    readIf_bytesIf, ToldReport.readIf_true, deSerialize_append (w := 4) (UInt32.toNat_lt _), hlast,
    bind, Except.bind, pure, Except.pure]
  cases progress <;> simp

/-- Whoever reads the source data of a packet finds what was reported. -/
theorem read_reportOf (message : MessageQueueMessage) :
  ToldReport.read (PusVerificationMessage.getReportId message) ((reportOf message).bytes .big)
    = .ok (PusVerificationMessage.params message).told
  := by
  let id := PusVerificationMessage.getReportId message
  let p := PusVerificationMessage.params message
  rw [reportOf, ToldReport.read]
  by_cases heven : id % 2 = 0
  · have hstep : decide (id = TcVerif.progressSuccess.toUInt8
        ∨ id = TcVerif.progressFailure.toUInt8) = (failureReport message).hasStep := by
      rw [FailureReport.hasStep, decide_eq_decide]
      apply or_iff_right
      intro hid
      rw [hid] at heven
      exact absurd heven (by decide)
    have htold : p.told = ⟨p.tcPacketId, p.tcPsc,
        if (failureReport message).hasStep then some p.step else none,
        some (p.errorCode, p.errorParam1, p.errorParam2)⟩ := by
      simp only [← hstep, VerifParams.told, decide_eq_true_eq]
      rw [if_pos (show p.reportId % 2 = 0 from heven)]
      rfl
    rw [if_pos heven, hstep, decide_eq_true heven, htold]
    exact readFields_failure _ _ _ _ _ _ _
  · have hstep : decide (id = TcVerif.progressSuccess.toUInt8
        ∨ id = TcVerif.progressFailure.toUInt8) = (successReport message).hasStep := by
      rw [SuccessReport.hasStep, decide_eq_decide]
      apply or_iff_left
      intro hid
      rw [hid] at heven
      exact heven (by decide)
    have htold : p.told = ⟨p.tcPacketId, p.tcPsc,
        if (successReport message).hasStep then some p.step else none, none⟩ := by
      simp only [← hstep, VerifParams.told, decide_eq_true_eq]
      rw [if_neg (show ¬ p.reportId % 2 = 0 from heven)]
      rfl
    rw [if_neg heven, hstep, decide_eq_false heven, htold]
    exact readFields_success _ _ _ _

/-! ### A packet for a report -/

/-- The parameters of the packet that is made of a message. -/
def packetParams (serviceId : UInt8) (counter : UInt16) (message : MessageQueueMessage) :
    PusTmParams where
  service := serviceId
  subservice := PusVerificationMessage.getReportId message
  messageTypeCounter := counter
  sourceData := .serializable (reportOf message)

/-- A service that has been initialised.  Nothing else changes in its packets than what is told in
`packetParams`. -/
structure Ready (apid : UInt16) (serviceId : UInt8) (dest : MessageQueueId) (errReporter : Bool)
    (c : Service1TelecommandVerification) : Prop where
  serviceId : c.serviceId = serviceId
  tmHelper : ∃ service subservice timeStamper messageTypeCounter sourceData,
    c.tmHelper.Ready apid dest errReporter
      { service, subservice, timeStamper, messageTypeCounter, sourceData }

theorem getSerializedSize_reportOf_le (message : MessageQueueMessage) :
  (reportOf message).getSerializedSize ≤ 15
  := by
  rw [reportOf]
  split_ifs
  · simp only [FailureReport.toSerializable, FailureReport.getSerializedSize]
    split_ifs <;> omega
  · simp only [SuccessReport.toSerializable, SuccessReport.getSerializedSize]
    split_ifs <;> omega

section

variable {σ τ : Type*} {S : PacketStoreIF σ} (laws : S.Reliable) {T : TimeWriterIF τ}
  {c : Service1TelecommandVerification} {apid : UInt16} {serviceId : UInt8}
  {dest : MessageQueueId} {errReporter : Bool}

/-- A packet that is made of a report is stored and sent, or nothing is changed. -/
theorem generateReport_settles (h : c.Ready apid serviceId dest errReporter)
    (hapid : apid < Ccsds.limitApid) (hroom : T.getSerializedSize ≤ 65512) (now : τ)
    (queueStatus : ReturnValue) (message : MessageQueueMessage) (s : σ) :
  ∃ outcome c' s', c.generateReport S T now queueStatus
        (PusVerificationMessage.getReportId message) (reportOf message) s = (outcome, c', s')
    ∧ c'.Ready apid serviceId dest errReporter
    ∧ c'.packetSubCounter = c.packetSubCounter + 1
    ∧ outcome.Settles laws
        (T.packet now apid (packetParams serviceId c.packetSubCounter message)) dest errReporter
        queueStatus s s'
  := by
  obtain ⟨service, subservice, timeStamper, messageTypeCounter, sourceData, hready⟩ := h.tmHelper
  let params : PusTmParams :=
    { packetParams serviceId c.packetSubCounter message with timeStamper }
  have hsize := getSerializedSize_reportOf_le message
  have hfits : T.Fits params := ⟨trivial, by
    change 15 + T.getSerializedSize + (reportOf message).getSerializedSize ≤ 65542
    omega⟩
  have hprepared : TmStoreAndSendWrapper.Ready apid dest errReporter params
      { c.tmHelper with
        storeHelper := (c.tmHelper.storeHelper.preparePacket c.serviceId
          (PusVerificationMessage.getReportId message)
          c.packetSubCounter).setSourceDataSerializable (reportOf message) } := by
    refine ⟨?_, hready.sendHelper, hready.delOnFailure⟩
    rw [TmStoreHelper.setSourceDataSerializable, TmStoreHelper.preparePacket]
    dsimp only
    rw [hready.creator, PusTmCreator.setService_new, PusTmCreator.setSubservice_new,
      PusTmCreator.setMessageTypeCounter_new, PusTmCreator.setSerializableUserData_new, h.serviceId]
    rfl
  obtain ⟨outcome, w', s', hcall, hready', -, hsettles⟩ :=
    TmStoreAndSendWrapper.storeAndSendTmPacket_settles laws hprepared hapid hfits now queueStatus s
  rw [generateReport]
  dsimp only
  rw [hcall]
  exact ⟨_, _, _, rfl, ⟨h.serviceId, _, _, _, _, _, hready'⟩, rfl, hsettles⟩

/-- A report is handled: a packet that is made of it is stored and sent, or nothing is changed.
Nothing is sent when the report is not of one of the eight kinds. -/
theorem sendVerificationReport_settles (h : c.Ready apid serviceId dest errReporter)
    (hapid : apid < Ccsds.limitApid) (hroom : T.getSerializedSize ≤ 65512) (now : τ)
    (queueStatus : ReturnValue) (message : MessageQueueMessage) (s : σ) :
  ∃ outcome c' s', c.sendVerificationReport S T now queueStatus message s = (outcome, c', s')
    ∧ c'.Ready apid serviceId dest errReporter
    ∧ c'.packetSubCounter = c.packetSubCounter
        + (if (PusVerificationMessage.params message).Valid then 1 else 0)
    ∧ (outcome.stored = .ok → (PusVerificationMessage.params message).Valid)
    ∧ outcome.Settles laws
        (T.packet now apid (packetParams serviceId c.packetSubCounter message)) dest errReporter
        queueStatus s s'
  := by
  rw [sendVerificationReport]
  by_cases hvalid : (PusVerificationMessage.params message).Valid
  · have hgenerate : (if PusVerificationMessage.getReportId message % 2 = 0 then
          c.generateReport S T now queueStatus (PusVerificationMessage.getReportId message)
            (failureReport message).toSerializable s
        else
          c.generateReport S T now queueStatus (PusVerificationMessage.getReportId message)
            (successReport message).toSerializable s)
        = c.generateReport S T now queueStatus (PusVerificationMessage.getReportId message)
            (reportOf message) s := by
      rw [reportOf]
      split_ifs
      · rfl
      · rfl
    obtain ⟨outcome, c', s', hcall, hready, hcounter, hsettles⟩ :=
      generateReport_settles laws h hapid hroom now queueStatus message s
    have hid : ¬ (PusVerificationMessage.getReportId message = 0
        ∨ PusVerificationMessage.getReportId message > 8) := hvalid
    rw [if_neg hid, hgenerate, hcall, if_pos hvalid]
    exact ⟨_, _, _, rfl, hready, hcounter, fun _ => hvalid, hsettles⟩
  · have hid : PusVerificationMessage.getReportId message = 0
        ∨ PusVerificationMessage.getReportId message > 8 := not_not.mp hvalid
    rw [if_pos hid, if_neg hvalid]
    refine ⟨_, _, _, rfl, h, (add_zero _).symm, fun hstored => ?_, ?_⟩
    · cases hstored
    · constructor
      · rfl
      · intro hok
        cases hok
      · intro _
        exact ⟨rfl, rfl⟩
      · simp

end

end Service1TelecommandVerification

namespace HandledReport

variable {τ : Type*} (h : HandledReport τ)

/-- What was reported. -/
def params : VerifParams :=
  PusVerificationMessage.params h.message

/-- A report is sent when it is of one of the eight kinds, and its packet can be stored and sent.
The error reporter is told about a packet that could be stored and not sent. -/
structure Answered (errReporter : Bool) : Prop where
  sent_iff : h.outcome.result = .ok
    ↔ h.params.Valid ∧ h.outcome.stored = .ok ∧ h.queueStatus = .ok
  lostTm_iff : h.outcome.lostTm = true
    ↔ h.params.Valid ∧ h.outcome.stored = .ok ∧ h.queueStatus ≠ .ok ∧ errReporter = true

end HandledReport

namespace VerificationDownlink

open Service1TelecommandVerification

variable {σ τ : Type*} {C : VerificationDownlink σ τ} (laws : C.tmStore.Reliable)
  {S S' : VerificationState σ} {apid : UInt16} {serviceId : UInt8} {dest : MessageQueueId}
  {errReporter : Bool}

/-! ### Who has a packet -/

/-- Who may have the address of a packet. -/
inductive Holder where
  | telemetry
  | others
  deriving DecidableEq

/-- The addresses that a holder has. -/
def held (S : VerificationState σ) : Holder → List StoreAddress
  | .telemetry => S.telemetry
  | .others => S.others

/-- The receiver of telemetry gets or gives up addresses. -/
theorem keeps_setTelemetry {contents : StoreAddress → Option (List UInt8)}
    (hothers : S'.others = S.others)
    (h : Keeps (Function.update (held S) .telemetry S'.telemetry) contents) :
  Keeps (held S') contents
  := by
  have hheld : held S' = Function.update (held S) .telemetry S'.telemetry := by
    funext holder
    cases holder with
    | telemetry => rfl
    | others => exact hothers
  rwa [hheld]

/-- The other objects get or give up addresses. -/
theorem keeps_setOthers {contents : StoreAddress → Option (List UInt8)}
    (htelemetry : S'.telemetry = S.telemetry)
    (h : Keeps (Function.update (held S) .others S'.others) contents) :
  Keeps (held S') contents
  := by
  have hheld : held S' = Function.update (held S) .others S'.others := by
    funext holder
    cases holder with
    | telemetry => exact htelemetry
    | others => rfl
  rwa [hheld]

/-- Every packet in the store has one holder, and the service is ready. -/
structure Sound (laws : C.tmStore.Reliable) (apid : UInt16) (serviceId : UInt8)
    (dest : MessageQueueId) (errReporter : Bool) (S : VerificationState σ) : Prop where
  keeps : Keeps (held S) (laws.contents S.tmStore)
  ready : S.service.Ready apid serviceId dest errReporter

/-! ### What each step does -/

/-- The packet that is made of a handled report. -/
def packetOf (C : VerificationDownlink σ τ) (apid : UInt16) (serviceId : UInt8)
    (h : HandledReport τ) : List UInt8 :=
  C.timeStamper.packet h.time apid (packetParams serviceId h.counter h.message)

/-- The packets of the handled reports that were sent. -/
def packetsSent (C : VerificationDownlink σ τ) (apid : UInt16) (serviceId : UInt8)
    (handled : List (HandledReport τ)) : List (List UInt8) :=
  (handled.filter fun h => h.outcome.result = .ok).map (packetOf C apid serviceId)

theorem packetsSent_of_ok {h : HandledReport τ} (hok : h.outcome.result = .ok) :
  packetsSent C apid serviceId [h] = [packetOf C apid serviceId h]
  := by
  rw [packetsSent, List.filter_cons_of_pos (by simpa using hok)]
  rfl

theorem packetsSent_of_failed {h : HandledReport τ} (hfailed : h.outcome.result ≠ .ok) :
  packetsSent C apid serviceId [h] = []
  := by
  rw [packetsSent, List.filter_cons_of_neg (by simpa using hfailed)]
  rfl

/-- The reports that wait in the queue of the service. -/
def reportsWaiting (S : VerificationState σ) : List VerifParams :=
  S.tmQueue.map PusVerificationMessage.params

/-- The packets that wait for being sent to ground. -/
def packetsWaiting (S : VerificationState σ) : List (List UInt8) :=
  S.telemetry.filterMap (laws.contents S.tmStore)

/-- The numbers of the packets that were made, whether they were sent or not. -/
def numbers (handled : List (HandledReport τ)) : List UInt16 :=
  (handled.filter fun h => h.params.Valid).map HandledReport.counter

theorem packetsSent_flatMap (outputs : List (VerificationOutput τ)) :
  packetsSent C apid serviceId (outputs.flatMap VerificationOutput.handled)
    = outputs.flatMap fun o => packetsSent C apid serviceId o.handled
  := by
  simp only [packetsSent, List.filter_flatMap, List.map_flatMap]

theorem numbers_flatMap (outputs : List (VerificationOutput τ)) :
  numbers (outputs.flatMap VerificationOutput.handled)
    = outputs.flatMap fun o => numbers o.handled
  := by
  simp only [numbers, List.filter_flatMap, List.map_flatMap]

/-- What a step does to the reports and the packets. -/
structure Moves (apid : UInt16) (serviceId : UInt8) (dest : MessageQueueId) (errReporter : Bool)
    (S S' : VerificationState σ) (output : VerificationOutput τ) : Prop where
  sound : Sound laws apid serviceId dest errReporter S'
  reports : reportsWaiting S ++ output.accepted
    = output.handled.map HandledReport.params ++ reportsWaiting S'
  answered : ∀ h ∈ output.handled, h.Answered errReporter
  numbered : numbers output.handled
      = List.iterate (· + 1) S.service.packetSubCounter (numbers output.handled).length
    ∧ S'.service.packetSubCounter
      = (· + 1)^[(numbers output.handled).length] S.service.packetSubCounter
  packets : packetsWaiting laws S ++ packetsSent C apid serviceId output.handled
    = output.downlinked ++ packetsWaiting laws S'

/-- A packet that is added at a free address is not among those that wait. -/
theorem filterMap_update_of_notMem {contents : StoreAddress → Option (List UInt8)}
    {addresses : List StoreAddress} {a : StoreAddress} (h : a ∉ addresses)
    (x : Option (List UInt8)) :
  addresses.filterMap (Function.update contents a x) = addresses.filterMap contents
  := by
  apply List.filterMap_congr
  intro b hb
  apply Function.update_of_ne
  rintro rfl
  exact h hb

/-- A step that leaves the packets as they are. -/
theorem Moves.of_held (h : Sound laws apid serviceId dest errReporter S)
    {output : VerificationOutput τ} (hheld : held S' = held S) (htmStore : S'.tmStore = S.tmStore)
    (hservice : S'.service = S.service) (hhandled : output.handled = [])
    (hdownlinked : output.downlinked = [])
    (hreports : reportsWaiting S ++ output.accepted = reportsWaiting S') :
  Moves laws apid serviceId dest errReporter S S' output
  := by
  have htelemetry : S'.telemetry = S.telemetry := congrFun hheld .telemetry
  constructor
  · constructor
    · rw [hheld, htmStore]
      exact h.keeps
    · rw [hservice]
      exact h.ready
  · rw [hhandled]
    exact hreports
  · intro report hreport
    rw [hhandled] at hreport
    cases hreport
  · rw [hhandled, hservice]
    exact ⟨rfl, rfl⟩
  · rw [hhandled, hdownlinked, packetsWaiting, packetsWaiting, htelemetry, htmStore]
    exact List.append_nil _

theorem moves_sendFailureReport (h : Sound laws apid serviceId dest errReporter S)
    (params : VerifParams) (queueStatus : ReturnValue) :
  Moves laws apid serviceId dest errReporter S
    (VerificationReporter.sendFailureReport (τ := τ) S params queueStatus).1
    (VerificationReporter.sendFailureReport S params queueStatus).2
  := by
  rw [VerificationReporter.sendFailureReport]
  split_ifs
  · refine Moves.of_held laws h rfl rfl rfl rfl rfl ?_
    rw [reportsWaiting, reportsWaiting, List.map_append, List.map_singleton,
      PusVerificationMessage.params_message]
  · exact Moves.of_held laws h rfl rfl rfl rfl rfl (List.append_nil _)

/-- A report is answered as its packet is settled. -/
theorem answered_of_settles {h : HandledReport τ} {packet : List UInt8} {s s' : σ}
    (hstored : h.outcome.stored = .ok → h.params.Valid)
    (hsettles : h.outcome.Settles laws packet dest errReporter h.queueStatus s s') :
  h.Answered errReporter
  := by
  have hresult := hsettles.result
  constructor
  · rw [hresult]
    split_ifs with hok
    · exact ⟨fun hsend => ⟨hstored hok, hok, hsend⟩, fun hall => hall.2.2⟩
    · exact ⟨fun hok' => absurd hok' hok, fun hall => absurd hall.2.1 hok⟩
  · rw [hsettles.lostTm, hresult]
    split_ifs with hok
    · exact ⟨fun hlost => ⟨hstored hok, hlost⟩, fun hall => hall.2⟩
    · exact ⟨fun hlost => absurd hlost.1 hok, fun hall => absurd hall.2.1 hok⟩

/-- A report that is not of one of the eight kinds is not counted. -/
theorem numbered_of_counter {h : HandledReport τ} {counter : UInt16}
    (hcounter : counter = h.counter + if h.params.Valid then 1 else 0) :
  numbers [h] = List.iterate (· + 1) h.counter (numbers [h]).length
    ∧ counter = (· + 1)^[(numbers [h]).length] h.counter
  := by
  by_cases hvalid : h.params.Valid
  · have hnumbers : numbers [h] = [h.counter] := by
      rw [numbers, List.filter_cons_of_pos (by simpa using hvalid)]
      rfl
    rw [if_pos hvalid] at hcounter
    rw [hnumbers]
    exact ⟨rfl, hcounter⟩
  · have hnumbers : numbers [h] = [] := by
      rw [numbers, List.filter_cons_of_neg (by simpa using hvalid)]
      rfl
    rw [if_neg hvalid, add_zero] at hcounter
    rw [hnumbers]
    exact ⟨rfl, hcounter⟩

theorem moves_handleMessage (hapid : apid < Ccsds.limitApid)
    (hroom : C.timeStamper.getSerializedSize ≤ 65512)
    (h : Sound laws apid serviceId dest errReporter S) (now : τ) (queueStatus : ReturnValue) :
  Moves laws apid serviceId dest errReporter S (C.handleMessage S now queueStatus).1
    (C.handleMessage S now queueStatus).2
  := by
  rw [handleMessage]
  cases hqueue : S.tmQueue with
  | nil =>
      exact Moves.of_held laws h rfl rfl rfl rfl rfl (List.append_nil _)
  | cons message tmQueue =>
      obtain ⟨outcome, service, tmStore, hcall, hready, hcounter, hstored, hsettles⟩ :=
        sendVerificationReport_settles laws h.ready hapid hroom now queueStatus message S.tmStore
      let report : HandledReport τ :=
        ⟨message, now, queueStatus, S.service.packetSubCounter, outcome⟩
      have hanswered : ∀ h ∈ [report], h.Answered errReporter :=
        List.forall_mem_singleton.mpr (answered_of_settles laws hstored hsettles)
      have hnumbered := numbered_of_counter (h := report) hcounter
      dsimp only
      rw [hcall]
      dsimp only
      by_cases hok : outcome.result = .ok
      · obtain ⟨storeId, hsent, hnone, hcontents⟩ := hsettles.sent hok
        have hfresh : storeId ∉ S.telemetry := by
          intro hmem
          exact h.keeps.ne_none (i := .telemetry) hmem hnone
        rw [deliver, hsent]
        dsimp only
        constructor
        · refine ⟨keeps_setTelemetry (S := S) rfl ?_, hready⟩
          dsimp only
          rw [hcontents]
          exact h.keeps.give hnone .telemetry _
        · rw [reportsWaiting, hqueue]
          exact List.append_nil _
        · exact hanswered
        · exact hnumbered
        · rw [packetsSent_of_ok hok, packetsWaiting, packetsWaiting]
          dsimp only
          rw [hcontents, List.filterMap_append, filterMap_update_of_notMem hfresh,
            List.filterMap_cons_some (Function.update_self ..)]
          rfl
      · obtain ⟨hsent, hcontents⟩ := hsettles.unsent hok
        rw [deliver, hsent]
        dsimp only
        constructor
        · refine ⟨?_, hready⟩
          change Keeps (held S) (laws.contents tmStore)
          rw [hcontents]
          exact h.keeps
        · rw [reportsWaiting, hqueue]
          exact List.append_nil _
        · exact hanswered
        · exact hnumbered
        · rw [packetsSent_of_failed hok, packetsWaiting, packetsWaiting]
          dsimp only
          rw [hcontents]
          exact List.append_nil _

theorem moves_downlink (h : Sound laws apid serviceId dest errReporter S) :
  Moves laws apid serviceId dest errReporter S (C.downlink S).1 (C.downlink S).2
  := by
  rw [downlink]
  cases htelemetry : S.telemetry with
  | nil => exact Moves.of_held laws h rfl rfl rfl rfl rfl (List.append_nil _)
  | cons storeId telemetry =>
      have hmem : storeId ∈ held S .telemetry := by
        rw [held, htelemetry]
        exact List.mem_cons_self
      obtain ⟨packet, hpacket⟩ := h.keeps.exists_eq_some hmem
      have hfresh : storeId ∉ telemetry := by
        have hnodup := h.keeps.nodup .telemetry
        rw [held, htelemetry] at hnodup
        exact (List.nodup_cons.mp hnodup).1
      have herase : (held S .telemetry).erase storeId = telemetry := by
        rw [held, htelemetry, List.erase_cons_head]
      constructor
      · refine ⟨keeps_setTelemetry (S := S) rfl ?_, h.ready⟩
        dsimp only
        rw [laws.contents_deleteData_eq, ← herase]
        exact h.keeps.drop hmem
      · exact List.append_nil _
      · intro report hreport
        cases hreport
      · exact ⟨rfl, rfl⟩
      · rw [packetsWaiting, packetsWaiting, htelemetry]
        dsimp only
        rw [laws.contents_deleteData_eq, filterMap_update_of_notMem hfresh,
          laws.getData_of_some _ _ _ hpacket, List.filterMap_cons_some hpacket]
        exact List.append_nil _

/-- What other objects do to the store leaves the packets that wait as they are. -/
theorem Moves.of_others (h : Sound laws apid serviceId dest errReporter S)
    (hqueue : S'.tmQueue = S.tmQueue) (hservice : S'.service = S.service)
    (htelemetry : S'.telemetry = S.telemetry)
    (hkeeps : Keeps (Function.update (held S) .others S'.others) (laws.contents S'.tmStore))
    (hsame : ∀ a ∈ S.telemetry, laws.contents S'.tmStore a = laws.contents S.tmStore a) :
  Moves laws apid serviceId dest errReporter S S' ({} : VerificationOutput τ)
  := by
  constructor
  · refine ⟨keeps_setOthers htelemetry hkeeps, ?_⟩
    rw [hservice]
    exact h.ready
  · rw [reportsWaiting, reportsWaiting, hqueue]
    exact List.append_nil _
  · intro report hreport
    cases hreport
  · rw [hservice]
    exact ⟨rfl, rfl⟩
  · rw [packetsWaiting, packetsWaiting, htelemetry]
    exact (List.append_nil _).trans (List.filterMap_congr fun a ha => (hsame a ha).symm)

theorem moves_store (h : Sound laws apid serviceId dest errReporter S) (packet : List UInt8) :
  Moves laws apid serviceId dest errReporter S (C.store S packet) {}
  := by
  rw [store]
  split
  · rename_i storeId tmStore hadd
    refine Moves.of_others laws h rfl rfl rfl ?_ ?_
    · exact h.keeps.addData laws hadd .others
    · intro a ha
      exact h.keeps.contents_addData laws hadd (i := Holder.telemetry) ha
  · rename_i result storeId tmStore hresult hadd
    have hcontents := laws.contents_of_not_added hadd hresult
    refine Moves.of_others laws h rfl rfl rfl ?_ ?_
    · dsimp only
      rw [hcontents, show S.others = held S .others from rfl, Function.update_eq_self]
      exact h.keeps
    · intro a _
      exact congrFun hcontents a

theorem moves_delete (h : Sound laws apid serviceId dest errReporter S)
    (storeId : StoreAddress) :
  Moves laws apid serviceId dest errReporter S (C.delete S storeId) {}
  := by
  rw [delete]
  split_ifs with hmem
  · refine Moves.of_others laws h rfl rfl rfl ?_ ?_
    · exact h.keeps.deleteData laws (i := .others) hmem
    · intro a ha
      exact h.keeps.contents_deleteData laws (i := Holder.telemetry) (j := .others) hmem
        Holder.noConfusion ha
  · exact Moves.of_held laws h rfl rfl rfl rfl rfl (List.append_nil _)

/-! ### Runs -/

/-- A step that is defined by what it does. -/
theorem Moves.of_eq {out : VerificationState σ × VerificationOutput τ}
    {output : VerificationOutput τ}
    (hmoves : Moves laws apid serviceId dest errReporter S out.1 out.2)
    (hstep : some out = some (S', output)) :
  Moves laws apid serviceId dest errReporter S S' output
  := by
  obtain rfl := Option.some.inj hstep
  exact hmoves

theorem moves_step (hapid : apid < Ccsds.limitApid)
    (hroom : C.timeStamper.getSerializedSize ≤ 65512)
    (h : Sound laws apid serviceId dest errReporter S) {input : VerificationInput τ}
    {output : VerificationOutput τ} (hstep : C.step S input = some (S', output)) :
  Moves laws apid serviceId dest errReporter S S' output
  := by
  cases input with
  | success params queueStatus =>
      exact (moves_sendFailureReport laws h params.withoutError queueStatus).of_eq laws hstep
  | failure params queueStatus =>
      exact (moves_sendFailureReport laws h params queueStatus).of_eq laws hstep
  | verification now queueStatus =>
      exact (moves_handleMessage laws hapid hroom h now queueStatus).of_eq laws hstep
  | downlink => exact (moves_downlink laws h).of_eq laws hstep
  | stored packet =>
      cases hstep
      exact moves_store laws h packet
  | deleted storeId =>
      cases hstep
      exact moves_delete laws h storeId

/-- Before anything has happened.  An APID that a header has no room for is not set. -/
def start (tmStore : σ) (apid : UInt16) (serviceId : UInt8) (dest : MessageQueueId)
    (errReporter : Bool) : VerificationState σ where
  tmStore := tmStore
  tmQueue := []
  service := .new apid serviceId dest errReporter
  telemetry := []
  others := []

/-- The APID in the packets. -/
def apidOf (apid : UInt16) : UInt16 :=
  if apid < Ccsds.limitApid then apid else 0

theorem apidOf_lt (apid : UInt16) :
  apidOf apid < Ccsds.limitApid
  := by
  rw [apidOf]
  split_ifs with h
  · exact h
  · decide

theorem sound_start {tmStore : σ} (hempty : laws.contents tmStore = fun _ => none) (apid : UInt16)
    (serviceId : UInt8) (dest : MessageQueueId) (errReporter : Bool) :
  Sound laws (apidOf apid) serviceId dest errReporter
    (start tmStore apid serviceId dest errReporter)
  := by
  constructor
  · use fun _ => none
    constructor
    · intro holder a
      cases holder <;> rfl
    · intro a
      rw [start, hempty]
      exact iff_of_true rfl rfl
  · exact ⟨rfl, 0, 0, none, 0, .none, PusTmCreator.setApid_default apid, rfl, rfl⟩

/-- Whoever reads the packet, and can read time stamps, finds what was reported. -/
def Tells {ρ : Type*} (apid : UInt16) (serviceId : UInt8) (timeReader : TimeReaderIF ρ)
    (h : HandledReport τ) (packet : List UInt8) : Prop :=
  ∀ r : PusTmReader.State ρ, r.timeReader = some timeReader →
    ∃ r', r.read (some packet) packet.length true = (.ok, r')
      ∧ PusTcReader.getApid r'.header = apid
      ∧ r'.getService = serviceId
      ∧ r'.getSubService = h.params.reportId
      ∧ r'.getMessageTypeCounter = h.counter
      ∧ ToldReport.read r'.getSubService r'.getUserData = .ok h.params.told

/-- The reader of time stamps can read those of the writer. -/
def ReadsStamps {ρ : Type*} (C : VerificationDownlink σ τ) (timeReader : TimeReaderIF ρ) : Prop :=
  ∀ now params, PusTmCreator.ReadsTimestamps (C.timeStamper.stamped now params) timeReader

theorem tells_packetOf {ρ : Type*} {timeReader : TimeReaderIF ρ} (hapid : apid < Ccsds.limitApid)
    (hroom : C.timeStamper.getSerializedSize ≤ 65512) (hreads : C.ReadsStamps timeReader)
    (h : HandledReport τ) :
  Tells apid serviceId timeReader h (packetOf C apid serviceId h)
  := by
  intro r hr
  have hsize := getSerializedSize_reportOf_le h.message
  have hfits : C.timeStamper.Fits (packetParams serviceId h.counter h.message) := ⟨trivial, by
    change 15 + C.timeStamper.getSerializedSize + (reportOf h.message).getSerializedSize ≤ 65542
    omega⟩
  have hcount : (0 : UInt16) < Ccsds.limitSequenceCount := by decide
  have hversion : (2 : UInt8) < 16 := by decide
  have hstatus : (0 : UInt8) < 16 := by decide
  obtain ⟨r', hread, hrecovers⟩ := @PusTmCreator.read_body ρ { packetId.apid := apid } _
    (hfits.size_le h.time) hapid hcount hversion hstatus timeReader (hreads h.time _) r hr
  have hfound := hrecovers.mpr rfl
  refine ⟨r', hread, hfound.apid, hfound.service, hfound.subservice, hfound.messageTypeCounter, ?_⟩
  rw [hfound.subservice, hfound.userData]
  exact read_reportOf h.message

/-- The reports that were given to the service are handled in order, and ground is told about those
whose packets were stored and sent, in order, by packets that count the reports. -/
theorem verified_of_run {ρ : Type*} (C : VerificationDownlink σ τ) (laws : C.tmStore.Reliable)
    (timeReader : TimeReaderIF ρ) (hroom : C.timeStamper.getSerializedSize ≤ 65512)
    (hreads : C.ReadsStamps timeReader) (apid : UInt16) (serviceId : UInt8)
    (dest : MessageQueueId) (errReporter : Bool) {tmStore : σ}
    (hempty : laws.contents tmStore = fun _ => none) {S : VerificationState σ}
    {inputs : List (VerificationInput τ)} {outputs : List (VerificationOutput τ)}
    (hrun : C.step.run (start tmStore apid serviceId dest errReporter) inputs
      = some (S, outputs)) :
  Keeps (held S) (laws.contents S.tmStore)
  ∧ outputs.flatMap VerificationOutput.accepted
    = (outputs.flatMap VerificationOutput.handled).map HandledReport.params ++ reportsWaiting S
  ∧ (∀ h ∈ outputs.flatMap VerificationOutput.handled, h.Answered errReporter)
  ∧ numbers (outputs.flatMap VerificationOutput.handled)
    = List.iterate (· + 1) 0 (numbers (outputs.flatMap VerificationOutput.handled)).length
  ∧ List.Forall₂ (Tells (apidOf apid) serviceId timeReader)
      ((outputs.flatMap VerificationOutput.handled).filter fun h => h.outcome.result = .ok)
      (outputs.flatMap VerificationOutput.downlinked ++ packetsWaiting laws S)
  := by
  have hapid := apidOf_lt apid
  have hstart := sound_start laws hempty apid serviceId dest errReporter
  have hmoves S input S' output (h : Sound laws (apidOf apid) serviceId dest errReporter S)
      (hstep : C.step S input = some (S', output)) := moves_step laws hapid hroom h hstep
  have hsound := Step.run_preserves (fun S input S' output h hstep =>
    (hmoves S input S' output h hstep).sound) hstart hrun
  have hreports : reportsWaiting (start tmStore apid serviceId dest errReporter)
      ++ outputs.flatMap VerificationOutput.accepted
      = outputs.flatMap (fun o => o.handled.map HandledReport.params) ++ reportsWaiting S := by
    apply Step.run_inOrder _ hstart hrun
    intro S input S' output h hstep
    exact ⟨(hmoves S input S' output h hstep).sound, (hmoves S input S' output h hstep).reports⟩
  have hpackets : packetsWaiting laws (start tmStore apid serviceId dest errReporter)
      ++ outputs.flatMap (fun o => packetsSent C (apidOf apid) serviceId o.handled)
      = outputs.flatMap VerificationOutput.downlinked ++ packetsWaiting laws S := by
    apply Step.run_inOrder _ hstart hrun
    intro S input S' output h hstep
    exact ⟨(hmoves S input S' output h hstep).sound, (hmoves S input S' output h hstep).packets⟩
  have hanswered := Step.run_outputs (Q := fun o => ∀ h ∈ o.handled, h.Answered errReporter)
    (fun S input S' output h hstep =>
      ⟨(hmoves S input S' output h hstep).sound, (hmoves S input S' output h hstep).answered⟩)
    hstart hrun
  have hnumbered : outputs.flatMap (fun o => numbers o.handled)
      = List.iterate (· + 1) 0 (outputs.flatMap fun o => numbers o.handled).length := by
    apply Step.run_numbered (fun S => S.service.packetSubCounter) _ hstart hrun
    intro S input S' output h hstep
    exact ⟨(hmoves S input S' output h hstep).sound, (hmoves S input S' output h hstep).numbered⟩
  refine ⟨hsound.keeps, ?_, ?_, ?_, ?_⟩
  · rw [List.map_flatMap, ← hreports]
    rfl
  · intro h hh
    obtain ⟨output, houtput, hmem⟩ := List.mem_flatMap.mp hh
    exact hanswered output houtput h hmem
  · rwa [numbers_flatMap]
  · rw [← hpackets, ← packetsSent_flatMap, packetsSent]
    rw [show packetsWaiting laws (start tmStore apid serviceId dest errReporter) = [] from rfl,
      List.nil_append, List.forall₂_map_right_iff, List.forall₂_same]
    intro h _
    exact tells_packetOf hapid hroom hreads h

/-- Time stamps of two bytes, and a store with two places. -/
def twoPlaces : VerificationDownlink (StoreAddress → Option (List UInt8)) Unit where
  tmStore := tableStore 2
  timeStamper := ⟨2, fun _ => PusTmCreator.twoBytes, fun _ => rfl⟩

/-- Three reports about a telecommand, of which the second one cannot be sent, and then a report
of no kind. -/
def threeReports : List (VerificationInput Unit) :=
  [.success { reportId := 1, tcPacketId := 0x1842, tcPsc := 0xC007 } .ok,
    .success { reportId := 5, tcPacketId := 0x1842, tcPsc := 0xC007, step := 1 } .ok,
    .verification () .ok, .verification () MessageQueueIF.full,
    .failure { reportId := 8, tcPacketId := 0x1842, tcPsc := 0xC007, errorCode := 0x1401 } .ok,
    .failure { reportId := 9, tcPacketId := 0, tcPsc := 0 } .ok,
    .downlink, .verification () .ok, .verification () .ok]

/-- Ground gets the first of them, and the packet of the third one waits. -/
theorem verified_threeReports :
  ∃ S outputs, twoPlaces.step.run (start (fun _ => none) 66 1 5 true) threeReports
      = some (S, outputs) ∧
    (Keeps (held S) ((tableStore.reliable 2).contents S.tmStore)
    ∧ outputs.flatMap VerificationOutput.accepted
      = (outputs.flatMap VerificationOutput.handled).map HandledReport.params ++ reportsWaiting S
    ∧ (∀ h ∈ outputs.flatMap VerificationOutput.handled, h.Answered true)
    ∧ numbers (outputs.flatMap VerificationOutput.handled)
      = List.iterate (· + 1) 0 (numbers (outputs.flatMap VerificationOutput.handled)).length
    ∧ List.Forall₂ (Tells (apidOf 66) 1 PusTmCreator.twoBytesReader)
        ((outputs.flatMap VerificationOutput.handled).filter fun h => h.outcome.result = .ok)
        (outputs.flatMap VerificationOutput.downlinked
          ++ packetsWaiting (C := twoPlaces) (tableStore.reliable 2) S)) ∧
    ((outputs.flatMap VerificationOutput.handled).map fun h => (h.counter, h.outcome.result))
      = [(0, .ok), (1, MessageQueueIF.full), (2, .ok), (3, .failed)] ∧
    S.telemetry = [⟨0, 0⟩]
  := by
  have hends : ((twoPlaces.step.run (start (fun _ => none) 66 1 5 true) threeReports).map
      fun out => ((out.2.flatMap VerificationOutput.handled).map
        (fun h => (h.counter, h.outcome.result)), out.1.telemetry))
      = some ([(0, .ok), (1, MessageQueueIF.full), (2, .ok), (3, .failed)], [⟨0, 0⟩]) := by
    decide +kernel
  obtain ⟨⟨S, outputs⟩, hrun, hout⟩ := Option.map_eq_some_iff.mp hends
  obtain ⟨hhandled, htelemetry⟩ := Prod.mk.inj hout
  have hreads : twoPlaces.ReadsStamps PusTmCreator.twoBytesReader := fun _ _ =>
    PusTmCreator.readsTimestamps_twoBytes rfl
  use S, outputs, hrun
  refine ⟨?_, hhandled, htelemetry⟩
  exact verified_of_run twoPlaces (tableStore.reliable 2) PusTmCreator.twoBytesReader (by decide)
    hreads 66 1 5 true rfl hrun

/-! ### Cycles of the service -/

/-- What the service does in a cycle is done in a run: it handles messages one after another, up to
the first one that cannot be sent. -/
theorem performOperation_eq_run (C : VerificationDownlink σ τ) (cycle : ℕ → τ × ReturnValue)
    (S : VerificationState σ) :
  ∃ inputs S' outputs result, C.step.run S inputs = some (S', outputs)
    ∧ performOperation C.tmStore C.timeStamper S.tmQueue cycle S.service S.tmStore
      = (result, S'.tmQueue, S'.service, S'.tmStore)
    ∧ (result = .ok → S'.tmQueue = [])
  := by
  induction hqueue : S.tmQueue generalizing S cycle with
  | nil =>
      refine ⟨[], S, [], .ok, rfl, ?_, fun _ => hqueue⟩
      rw [hqueue]
      rfl
  | cons message tmQueue ih =>
      obtain ⟨outcome, service, tmStore, hcall⟩ : ∃ outcome service tmStore,
          S.service.sendVerificationReport C.tmStore C.timeStamper (cycle 0).1 (cycle 0).2 message
            S.tmStore = (outcome, service, tmStore) := ⟨_, _, _, rfl⟩
      let S₁ := deliver { S with tmStore, tmQueue, service } outcome
      have hdeliver : S₁.tmQueue = tmQueue ∧ S₁.service = service ∧ S₁.tmStore = tmStore := by
        simp only [S₁, deliver]
        split <;> exact ⟨rfl, rfl, rfl⟩
      obtain ⟨htmQueue, hservice, htmStore⟩ := hdeliver
      have hhandle : (C.handleMessage S (cycle 0).1 (cycle 0).2).1 = S₁ := by
        rw [handleMessage, hqueue]
        dsimp only
        rw [hcall]
      have hstep : C.step S (.verification (cycle 0).1 (cycle 0).2)
          = some (S₁, (C.handleMessage S (cycle 0).1 (cycle 0).2).2) :=
        congrArg some (Prod.ext hhandle rfl)
      rw [performOperation]
      dsimp only
      rw [hcall]
      dsimp only
      split_ifs with hok
      · obtain ⟨inputs, S', outputs, result, hrun, hrest, hdone⟩ :=
          ih (fun n => cycle (n + 1)) S₁ htmQueue
        rw [hservice, htmStore] at hrest
        exact ⟨_, S', _, result, Step.run_cons hstep hrun, hrest, hdone⟩
      · refine ⟨[_], S₁, [_], outcome.result, Step.run_cons hstep rfl, ?_, fun hok' => ?_⟩
        · rw [htmQueue, hservice, htmStore]
        · exact absurd hok' hok

end VerificationDownlink
