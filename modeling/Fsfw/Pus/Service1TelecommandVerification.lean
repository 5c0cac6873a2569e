import Fsfw.Library.Run
import Fsfw.TmTcServices.PusVerificationReport
import Fsfw.TmTcServices.TmStoreAndSendHelper
import Fsfw.TmTcServices.VerificationReporter

/-!
# The verification service

Reports about telecommands are sent to the verification service, which makes a telemetry packet of
each of them.  The subservice of the packet is the kind of the report.  All packets are counted,
those that could not be sent, too.

The service works in a task of its own, beside those who report, the receiver of telemetry, and
other objects that use the telemetry store.
-/

/-- The number of a kind of reports. -/
def TcVerif.toUInt8 : TcVerif → UInt8
  | .acceptanceSuccess => 1
  | .acceptanceFailure => 2
  | .startSuccess => 3
  | .startFailure => 4
  | .progressSuccess => 5
  | .progressFailure => 6
  | .completionSuccess => 7
  | .completionFailure => 8

/-! ### Reports in packets -/

structure SuccessReport where
  packetId : UInt16
  packetSequenceControl : UInt16
  stepNumber : UInt8
  subtype : UInt8

structure FailureReport where
  packetId : UInt16
  packetSequenceControl : UInt16
  stepNumber : UInt8
  errorCode : UInt16
  errorParameter1 : UInt32
  errorParameter2 : UInt32
  failureSubtype : UInt8

namespace Serializer

open SerializeAdapter

/-- Go on with a byte only in some cases. -/
def byteIf (condition : Bool) (byte : UInt8) : Serializer :=
  fun maxSize e b =>
    if condition then SerializeAdapter.serialize 1 byte.toNat maxSize e b else (.ok, b)

def bytesIf (condition : Bool) (byte : UInt8) (e : Endianness) : List UInt8 :=
  if condition then bytesOf 1 byte.toNat e else []

@[simp]
theorem length_bytesIf (condition : Bool) (byte : UInt8) (e : Endianness) :
  (bytesIf condition byte e).length = if condition then 1 else 0
  := by
  cases condition with
  | true => exact length_bytesOf 1 byte.toNat e
  | false => rfl

theorem writesGivenRoom_byteIf (condition : Bool) (byte : UInt8) :
  WritesGivenRoom (byteIf condition byte) (bytesIf condition byte)
  := by
  cases condition with
  | true => exact writesGivenRoom_serialize Nat.one_pos byte.toNat
  | false =>
      intro e maxSize b _
      exact congrArg (Prod.mk _) b.put_nil.symm

end Serializer

namespace SuccessReport

open Serializer SerializeAdapter

/-- Only a report about progress has a step. -/
def hasStep (r : SuccessReport) : Bool :=
  r.subtype = TcVerif.progressSuccess.toUInt8

def serialize (r : SuccessReport) : Serializer :=
  fun maxSize e b =>
    andThen (SerializeAdapter.serialize 2 r.packetId.toNat maxSize e b) fun b₁ =>
    andThen (SerializeAdapter.serialize 2 r.packetSequenceControl.toNat maxSize e b₁) fun b₂ =>
    byteIf r.hasStep r.stepNumber maxSize e b₂

def getSerializedSize (r : SuccessReport) : ℕ :=
  2 + 2 + if r.hasStep then 1 else 0

def bytes (r : SuccessReport) (e : Endianness) : List UInt8 :=
  bytesOf 2 r.packetId.toNat e
    ++ (bytesOf 2 r.packetSequenceControl.toNat e ++ bytesIf r.hasStep r.stepNumber e)

theorem writesGivenRoom_serialize (r : SuccessReport) :
  WritesGivenRoom r.serialize r.bytes
  := by
  have hword (n : ℕ) := SerializeAdapter.writesGivenRoom_serialize Nat.two_pos n
  exact (hword _).andThen ((hword _).andThen (writesGivenRoom_byteIf _ _))

theorem length_bytes (r : SuccessReport) (e : Endianness) :
  (r.bytes e).length = r.getSerializedSize
  := by
  simp only [bytes, getSerializedSize, List.length_append, length_bytesOf, length_bytesIf]
  omega

def toSerializable (r : SuccessReport) : Serializable where
  serialize := r.serialize
  getSerializedSize := r.getSerializedSize
  bytes := r.bytes
  length_bytes := r.length_bytes
  serialize_eq e b hroom := r.writesGivenRoom_serialize e (by rwa [length_bytes])

end SuccessReport

namespace FailureReport

open Serializer SerializeAdapter

/-- Only a report about progress has a step. -/
def hasStep (r : FailureReport) : Bool :=
  r.failureSubtype = TcVerif.progressFailure.toUInt8

def serialize (r : FailureReport) : Serializer :=
  fun maxSize e b =>
    andThen (SerializeAdapter.serialize 2 r.packetId.toNat maxSize e b) fun b₁ =>
    andThen (SerializeAdapter.serialize 2 r.packetSequenceControl.toNat maxSize e b₁) fun b₂ =>
    andThen (byteIf r.hasStep r.stepNumber maxSize e b₂) fun b₃ =>
    andThen (SerializeAdapter.serialize 2 r.errorCode.toNat maxSize e b₃) fun b₄ =>
    andThen (SerializeAdapter.serialize 4 r.errorParameter1.toNat maxSize e b₄) fun b₅ =>
    SerializeAdapter.serialize 4 r.errorParameter2.toNat maxSize e b₅

def getSerializedSize (r : FailureReport) : ℕ :=
  2 + 2 + (if r.hasStep then 1 else 0) + 2 + 4 + 4

def bytes (r : FailureReport) (e : Endianness) : List UInt8 :=
  bytesOf 2 r.packetId.toNat e
    ++ (bytesOf 2 r.packetSequenceControl.toNat e
      ++ (bytesIf r.hasStep r.stepNumber e
        ++ (bytesOf 2 r.errorCode.toNat e
          ++ (bytesOf 4 r.errorParameter1.toNat e ++ bytesOf 4 r.errorParameter2.toNat e))))

theorem writesGivenRoom_serialize (r : FailureReport) :
  WritesGivenRoom r.serialize r.bytes
  := by
  have hword (n : ℕ) := SerializeAdapter.writesGivenRoom_serialize Nat.two_pos n
  have hlong (n : ℕ) := SerializeAdapter.writesGivenRoom_serialize (Nat.succ_pos 3) n
  have herror := (hword r.errorCode.toNat).andThen
    ((hlong r.errorParameter1.toNat).andThen (hlong r.errorParameter2.toNat))
  exact (hword _).andThen ((hword _).andThen ((writesGivenRoom_byteIf _ _).andThen herror))

theorem length_bytes (r : FailureReport) (e : Endianness) :
  (r.bytes e).length = r.getSerializedSize
  := by
  simp only [bytes, getSerializedSize, List.length_append, length_bytesOf, length_bytesIf]
  omega

def toSerializable (r : FailureReport) : Serializable where
  serialize := r.serialize
  getSerializedSize := r.getSerializedSize
  bytes := r.bytes
  length_bytes := r.length_bytes
  serialize_eq e b hroom := r.writesGivenRoom_serialize e (by rwa [length_bytes])

end FailureReport

/-! ### The service -/

structure Service1TelecommandVerification where
  serviceId : UInt8
  packetSubCounter : UInt16
  tmHelper : TmStoreAndSendWrapper

variable {σ τ : Type*}

namespace Service1TelecommandVerification

/-- A service that has been initialised. -/
def new (apid : UInt16) (serviceId : UInt8) (dest : MessageQueueId) (errReporter : Bool) :
    Service1TelecommandVerification where
  serviceId := serviceId
  packetSubCounter := 0
  tmHelper :=
    { defaultService := serviceId
      storeHelper := .new apid
      sendHelper := { queue := some dest, errReporter } }

def generateReport (c : Service1TelecommandVerification) (S : PacketStoreIF σ)
    (T : TimeWriterIF τ) (now : τ) (queueStatus : ReturnValue) (reportId : UInt8)
    (report : Serializable) (tmStore : σ) : TmOutcome × Service1TelecommandVerification × σ :=
  let storeHelper :=
    (c.tmHelper.storeHelper.preparePacket c.serviceId reportId
      c.packetSubCounter).setSourceDataSerializable report
  let (outcome, tmHelper, tmStore) :=
    { c.tmHelper with storeHelper }.storeAndSendTmPacket S T now queueStatus tmStore
  (outcome, { c with packetSubCounter := c.packetSubCounter + 1, tmHelper }, tmStore)

def failureReport (message : MessageQueueMessage) : FailureReport where
  packetId := PusVerificationMessage.getTcPacketId message
  packetSequenceControl := PusVerificationMessage.getTcSequenceControl message
  stepNumber := PusVerificationMessage.getStep message
  errorCode := PusVerificationMessage.getErrorCode message
  errorParameter1 := PusVerificationMessage.getParameter1 message
  errorParameter2 := PusVerificationMessage.getParameter2 message
  failureSubtype := PusVerificationMessage.getReportId message

def successReport (message : MessageQueueMessage) : SuccessReport where
  packetId := PusVerificationMessage.getTcPacketId message
  packetSequenceControl := PusVerificationMessage.getTcSequenceControl message
  stepNumber := PusVerificationMessage.getStep message
  subtype := PusVerificationMessage.getReportId message

/-- Kinds of reports have an id that is not zero and at most 8.  Those with an even id are about
failures. -/
def sendVerificationReport (c : Service1TelecommandVerification) (S : PacketStoreIF σ)
    (T : TimeWriterIF τ) (now : τ) (queueStatus : ReturnValue) (message : MessageQueueMessage)
    (tmStore : σ) : TmOutcome × Service1TelecommandVerification × σ :=
  let reportId := PusVerificationMessage.getReportId message
  if reportId = 0 ∨ reportId > 8 then
    ({ stored := .failed, result := .failed }, c, tmStore)
  else if reportId % 2 = 0 then
    c.generateReport S T now queueStatus reportId (failureReport message).toSerializable tmStore
  else
    c.generateReport S T now queueStatus reportId (successReport message).toSerializable tmStore

/-- Handle messages from the queue until it is empty, or a report cannot be sent.  The `n`-th
message is handled at the time, and the packet is sent with the result, that `cycle n` tells.  The
messages that are left are those behind the one that could not be sent. -/
def performOperation (S : PacketStoreIF σ) (T : TimeWriterIF τ) :
    List MessageQueueMessage → (ℕ → τ × ReturnValue) → Service1TelecommandVerification → σ →
      ReturnValue × List MessageQueueMessage × Service1TelecommandVerification × σ
  | [], _, c, tmStore => (.ok, [], c, tmStore)
  | message :: tmQueue, cycle, c, tmStore =>
      let (outcome, c, tmStore) :=
        c.sendVerificationReport S T (cycle 0).1 (cycle 0).2 message tmStore
      if outcome.result = .ok then
        performOperation S T tmQueue (fun n => cycle (n + 1)) c tmStore
      else
        (outcome.result, tmQueue, c, tmStore)

end Service1TelecommandVerification

/-! ### The service among others -/

structure VerificationDownlink (σ τ : Type*) where
  tmStore : PacketStoreIF σ
  timeStamper : TimeWriterIF τ

/-- The addresses that the receiver of telemetry has are `telemetry`; those of the packets of other
objects are `others`. -/
structure VerificationState (σ : Type*) where
  tmStore : σ
  tmQueue : List MessageQueueMessage
  service : Service1TelecommandVerification
  telemetry : List StoreAddress
  others : List StoreAddress

/-- A report that was handled, with the number that its packet has. -/
structure HandledReport (τ : Type*) where
  message : MessageQueueMessage
  time : τ
  queueStatus : ReturnValue
  counter : UInt16
  outcome : TmOutcome

/-- Something that happens.  The result of sending a message is `queueStatus`. -/
inductive VerificationInput (τ : Type*) where
  | success (params : VerifParams) (queueStatus : ReturnValue)
  | failure (params : VerifParams) (queueStatus : ReturnValue)
  | verification (now : τ) (queueStatus : ReturnValue)
  | downlink
  | stored (packet : List UInt8)
  | deleted (storeId : StoreAddress)

/-- The reports that were given to the service and that it has handled, and the packets that were
sent to ground. -/
structure VerificationOutput (τ : Type*) where
  accepted : List VerifParams := []
  handled : List (HandledReport τ) := []
  downlinked : List (List UInt8) := []

namespace VerificationReporter

/-- The message has no sender. -/
def sendFailureReport (S : VerificationState σ) (params : VerifParams)
    (queueStatus : ReturnValue) : VerificationState σ × VerificationOutput τ :=
  let message := (PusVerificationMessage.new params).setSender MessageQueueIF.noQueue
  if queueStatus = .ok then
    ({ S with tmQueue := S.tmQueue ++ [message] }, { accepted := [params] })
  else
    (S, {})

def sendSuccessReport (S : VerificationState σ) (params : VerifParams)
    (queueStatus : ReturnValue) : VerificationState σ × VerificationOutput τ :=
  sendFailureReport S params.withoutError queueStatus

end VerificationReporter

namespace VerificationDownlink

variable (C : VerificationDownlink σ τ)

/-- A message arrives at the receiver of telemetry. -/
def deliver (S : VerificationState σ) (outcome : TmOutcome) : VerificationState σ :=
  match outcome.sent with
  | some (_, storeId) => { S with telemetry := S.telemetry ++ [storeId] }
  | none => S

/-- The service handles the first message in its queue. -/
def handleMessage (S : VerificationState σ) (now : τ) (queueStatus : ReturnValue) :
    VerificationState σ × VerificationOutput τ :=
  match S.tmQueue with
  | [] => (S, {})
  | message :: tmQueue =>
      let (outcome, service, tmStore) :=
        S.service.sendVerificationReport C.tmStore C.timeStamper now queueStatus message S.tmStore
      (deliver { S with tmStore, tmQueue, service } outcome,
        { handled :=
            [{ message
               time := now
               queueStatus
               counter := S.service.packetSubCounter
               outcome }] })

/-- The receiver of telemetry sends the first packet it has to ground, and deletes it. -/
def downlink (S : VerificationState σ) : VerificationState σ × VerificationOutput τ :=
  match S.telemetry with
  | [] => (S, {})
  | storeId :: telemetry =>
      ({ S with tmStore := (C.tmStore.deleteData storeId S.tmStore).2, telemetry },
        { downlinked := [(C.tmStore.getData storeId S.tmStore).2] })

/-- Another object stores a packet. -/
def store (S : VerificationState σ) (packet : List UInt8) : VerificationState σ :=
  match C.tmStore.addData packet S.tmStore with
  | (.ok, storeId, tmStore) => { S with tmStore, others := S.others ++ [storeId] }
  | (_, _, tmStore) => { S with tmStore }

/-- Another object deletes a packet that it has. -/
def delete (S : VerificationState σ) (storeId : StoreAddress) : VerificationState σ :=
  if storeId ∈ S.others then
    { S with
      others := S.others.erase storeId
      tmStore := (C.tmStore.deleteData storeId S.tmStore).2 }
  else
    S

def step : Step (VerificationState σ) (VerificationInput τ) (VerificationOutput τ) :=
  fun S input =>
    match input with
    | .success params queueStatus =>
        some (VerificationReporter.sendSuccessReport S params queueStatus)
    | .failure params queueStatus =>
        some (VerificationReporter.sendFailureReport S params queueStatus)
    | .verification now queueStatus => some (C.handleMessage S now queueStatus)
    | .downlink => some (C.downlink S)
    | .stored packet => some (C.store S packet, {})
    | .deleted storeId => some (C.delete S storeId, {})

end VerificationDownlink
