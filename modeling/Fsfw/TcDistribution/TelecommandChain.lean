import Fsfw.Library.Custody
import Fsfw.TcDistribution.CcsdsDistributor
import Fsfw.TcDistribution.PusDistributor
import Fsfw.TmTcServices.PusServiceBase

/-!
# The chain of telecommand handlers

A telecommand that is received is put into the telecommand store, and its address is sent to the
distributor of space packets.  That sends the address on to the distributor to services, which
sends it on to a service, and the service deletes the telecommand when it has been handled.  All of
them work in tasks of their own, on one store: any of them may take the next message from its
queue at any time, and any message may fail to be sent.

Other objects use the store, too: they store packets, send them to the distributor of space
packets, and delete what they have stored or have been sent.
-/

/-- The parts of a chain.  The services other than those in `children` are not part of it.  Its
services get telecommands from the distributor to services only. -/
structure TelecommandChain (σ γ : Type*) where
  tcStore : PacketStoreIF σ
  defaultApid : UInt16
  packetChecker : List UInt8 → ReturnValue
  applications : UInt16 → Option DestInfo
  checker : PusPacketChecker
  pusQueue : MessageQueueId
  services : UInt8 → Option MessageQueueId
  children : MessageQueueId → Option (PusServiceChild γ)
  applications_apart : ∀ apid info, applications apid = some info → children info.destId = none
  pusQueue_apart : children pusQueue = none

/-- A service that has addresses in its request queue. -/
structure RequestedService (γ : Type*) where
  reqQueue : List StoreAddress
  errorParameter1 : UInt32
  errorParameter2 : UInt32
  currentPacket : List UInt8
  child : γ

/-- The store, the queues of the distributors, and the services.  The addresses of the packets that
other objects have are `others`; `abandoned` are those whose packets are in the store although
nobody has them any more. -/
structure TelecommandChainState (σ γ : Type*) where
  tcStore : σ
  ccsdsQueue : List StoreAddress
  pusQueue : List StoreAddress
  pus : PusDistributorState
  services : MessageQueueId → RequestedService γ
  others : List StoreAddress
  abandoned : List StoreAddress

/-- Something that happens.  The result of sending a message is `queueStatus`. -/
inductive ChainInput where
  | received (packet : List UInt8) (queueStatus : ReturnValue)
  | ccsds (queueStatus : ReturnValue)
  | pus (queueStatus : ReturnValue)
  | request (service : MessageQueueId)
  | performService (service : MessageQueueId)
  | stored (packet : List UInt8)
  | released (storeId : StoreAddress) (queueStatus : ReturnValue)
  | deleted (storeId : StoreAddress)

/-- The messages that were sent on, and the verification reports that were made, by a service or by
the distributor to services. -/
structure ChainOutput where
  sent : List (MessageQueueId × StoreAddress) := []
  reports : List RequestReport := []
  service : Option MessageQueueId := none

variable {σ γ : Type*}

/-- The service works on the store. -/
def RequestedService.attach (c : RequestedService γ) (tcPool : σ) : PusServiceState σ γ where
  reqQueue := c.reqQueue.map .ok
  errorParameter1 := c.errorParameter1
  errorParameter2 := c.errorParameter2
  currentPacket := c.currentPacket
  tcPool := tcPool
  child := c.child

namespace TelecommandChain

/-- What a service has done, but for its queue. -/
def detach (c : PusServiceState σ γ) (reqQueue : List StoreAddress) : RequestedService γ where
  reqQueue := reqQueue
  errorParameter1 := c.errorParameter1
  errorParameter2 := c.errorParameter2
  currentPacket := c.currentPacket
  child := c.child

variable (C : TelecommandChain σ γ)

def ccsds : CcsdsDistributor σ where
  defaultApid := C.defaultApid
  tcStore := C.tcStore
  packetChecker := C.packetChecker
  receiverMap := C.applications

def pus : PusDistributor σ where
  store := C.tcStore
  checker := C.checker
  receiverMap := C.services

def service (child : PusServiceChild γ) : PusServiceBase σ γ where
  tcPool := C.tcStore
  child := child

/-- A message arrives in a queue.  The queues that are not part of the chain belong to others. -/
def deliver (S : TelecommandChainState σ γ) (message : MessageQueueId × StoreAddress) :
    TelecommandChainState σ γ :=
  if message.1 = C.pusQueue then
    { S with pusQueue := S.pusQueue ++ [message.2] }
  else if (C.children message.1).isSome then
    let c := S.services message.1
    { S with
      services := Function.update S.services message.1
        { c with reqQueue := c.reqQueue ++ [message.2] } }
  else
    { S with others := S.others ++ [message.2] }

/-- A packet is received from ground: it is stored, and its address is sent to the distributor of
space packets. -/
def handleTcReception (S : TelecommandChainState σ γ) (packet : List UInt8)
    (queueStatus : ReturnValue) : TelecommandChainState σ γ :=
  match C.tcStore.addData packet S.tcStore with
  | (.ok, storeId, tcStore) =>
      if queueStatus = .ok then
        { S with tcStore := tcStore, ccsdsQueue := S.ccsdsQueue ++ [storeId] }
      else
        { S with tcStore := (C.tcStore.deleteData storeId tcStore).2 }
  | (_, _, tcStore) => { S with tcStore := tcStore }

/-- The distributor of space packets handles the first message in its queue. -/
def handleCcsds (S : TelecommandChainState σ γ) (queueStatus : ReturnValue) :
    Option (TelecommandChainState σ γ × ChainOutput) :=
  match S.ccsdsQueue with
  | [] => some (S, {})
  | currentMessage :: queue =>
      match C.ccsds.toBase.handlePacket currentMessage queueStatus ((), S.tcStore) with
      | none => none
      | some (d, handling) =>
          some (handling.sent.foldl C.deliver { S with tcStore := d.2, ccsdsQueue := queue },
            { sent := handling.sent })

/-- The distributor to services handles the first message in its queue.  When it neither sends the
message on nor makes a report, it has left the packet in the store. -/
def handlePus (S : TelecommandChainState σ γ) (queueStatus : ReturnValue) :
    Option (TelecommandChainState σ γ × ChainOutput) :=
  match S.pusQueue with
  | [] => some (S, {})
  | currentMessage :: queue =>
      match C.pus.toBase.handlePacket currentMessage queueStatus (S.pus, S.tcStore) with
      | none => none
      | some (d, handling) =>
          let abandoned :=
            if handling.sent = [] ∧ handling.reports = [] then [currentMessage] else []
          some
            (handling.sent.foldl C.deliver
              { S with
                tcStore := d.2
                pus := d.1
                pusQueue := queue
                abandoned := S.abandoned ++ abandoned },
            { sent := handling.sent
              reports := handling.reports.map fun report => { toVerificationReport := report } })

/-- A service handles the first request in its queue. -/
def handleRequest (S : TelecommandChainState σ γ) (service : MessageQueueId) :
    TelecommandChainState σ γ × ChainOutput :=
  match C.children service, (S.services service).reqQueue with
  | some child, storeId :: queue =>
      let (report, c) := (C.service child).handleMessage storeId
        ({ S.services service with reqQueue := queue }.attach S.tcStore)
      ({ S with
          tcStore := c.tcPool
          services := Function.update S.services service (detach c queue) },
        { reports := [report], service := some service })
  | _, _ => (S, {})

/-- The child of a service performs its own operation. -/
def performService (S : TelecommandChainState σ γ) (service : MessageQueueId) :
    TelecommandChainState σ γ :=
  match C.children service with
  | none => S
  | some child =>
      let c := S.services service
      let (outcome, next) := child.performService c.child
      { S with
        services := Function.update S.services service
          { c with
            errorParameter1 := outcome.errorParameter1.getD c.errorParameter1
            errorParameter2 := outcome.errorParameter2.getD c.errorParameter2
            child := next } }

/-- Another object stores a packet. -/
def store (S : TelecommandChainState σ γ) (packet : List UInt8) : TelecommandChainState σ γ :=
  match C.tcStore.addData packet S.tcStore with
  | (.ok, storeId, tcStore) => { S with tcStore := tcStore, others := S.others ++ [storeId] }
  | (_, _, tcStore) => { S with tcStore := tcStore }

/-- Another object sends a packet that it has to the distributor of space packets. -/
def release (S : TelecommandChainState σ γ) (storeId : StoreAddress) (queueStatus : ReturnValue) :
    TelecommandChainState σ γ :=
  if storeId ∈ S.others ∧ queueStatus = .ok then
    { S with others := S.others.erase storeId, ccsdsQueue := S.ccsdsQueue ++ [storeId] }
  else
    S

/-- Another object deletes a packet that it has. -/
def delete (S : TelecommandChainState σ γ) (storeId : StoreAddress) : TelecommandChainState σ γ :=
  if storeId ∈ S.others then
    { S with
      others := S.others.erase storeId
      tcStore := (C.tcStore.deleteData storeId S.tcStore).2 }
  else
    S

/-- A step of the chain. -/
def step : Step (TelecommandChainState σ γ) ChainInput ChainOutput :=
  fun S input =>
    match input with
    | .received packet queueStatus => some (C.handleTcReception S packet queueStatus, {})
    | .ccsds queueStatus => C.handleCcsds S queueStatus
    | .pus queueStatus => C.handlePus S queueStatus
    | .request service => some (C.handleRequest S service)
    | .performService service => some (C.performService S service, {})
    | .stored packet => some (C.store S packet, {})
    | .released storeId queueStatus => some (release S storeId queueStatus, {})
    | .deleted storeId => some (C.delete S storeId, {})

end TelecommandChain
