import Fsfw.Ipc.MessageQueueIF
import Fsfw.Library.Run
import Fsfw.Serialize.SerialBuffer

/-!
# Message queues on a host system

A message is a buffer of fixed size, whose first four bytes are the id of the queue it was sent
from.  Queues hold copies of such buffers, and are known by ids, which a manager gives out and looks
up.  The manager holds pointers to queues, and keeps them when a queue is destroyed.

The bytes of an id stand in the order of the machine, the least significant one first.
-/

namespace MessageQueueIF

abbrev full : ReturnValue := .makeCode .messageQueueIF 2
abbrev destinationInvalid : ReturnValue := .makeCode .messageQueueIF 4

end MessageQueueIF

/-! ### Messages -/

namespace MessageQueueMessage

def headerSize : ℕ := 4

def maxDataSize : ℕ := 24

def maxMessageSize : ℕ := maxDataSize + headerSize

end MessageQueueMessage

/-- A message.  Its size is the one it says it has. -/
structure MessageQueueMessage where
  internalBuffer : List UInt8
  messageSize : ℕ
  length_internalBuffer : internalBuffer.length = MessageQueueMessage.maxMessageSize

namespace MessageQueueMessage

/-- A message without data. -/
def empty : MessageQueueMessage where
  internalBuffer := List.replicate maxMessageSize 0
  messageSize := headerSize
  length_internalBuffer := List.length_replicate

/-- A message with data.  Data that are too long are left out. -/
def ofData (data : List UInt8) : MessageQueueMessage :=
  if h : data.length ≤ maxDataSize then
    { internalBuffer :=
        List.replicate headerSize 0 ++ data ++ List.replicate (maxDataSize - data.length) 0
      messageSize := headerSize + data.length
      length_internalBuffer := by
        simp only [List.length_append, List.length_replicate, maxMessageSize]
        omega }
  else
    empty

def getData (message : MessageQueueMessage) : List UInt8 :=
  message.internalBuffer.drop headerSize

/-- The id in the first bytes of a buffer. -/
def senderOf (buffer : List UInt8) : MessageQueueId :=
  .ofNat (SerializeAdapter.convertBigEndian (buffer.take headerSize).reverse)

def getSender (message : MessageQueueMessage) : MessageQueueId :=
  senderOf message.internalBuffer

def setSender (message : MessageQueueMessage) (setId : MessageQueueId) : MessageQueueMessage where
  internalBuffer := SerializeAdapter.bytesOf headerSize setId.toNat .little ++ message.getData
  messageSize := message.messageSize
  length_internalBuffer := by
    have hlen := message.length_internalBuffer
    rw [maxMessageSize] at hlen ⊢
    simp only [List.length_append, SerializeAdapter.length_bytesOf, getData, List.length_drop]
    omega

end MessageQueueMessage

/-! ### Queues -/

/-- A queue, with the number of bytes that it copies of a message when it is received. -/
structure MessageQueue where
  id : MessageQueueId
  last : MessageQueueId
  defaultDest : MessageQueueId
  messageQueue : List (List UInt8)
  messageSize : ℕ
  messageDepth : ℕ

/-- The manager.  A queue is pointed to by its number. -/
structure QueueMapManager where
  queueCounter : UInt32
  queueMap : MessageQueueId → Option ℕ

/-- All queues that have been created.  Those that have been destroyed are `none`. -/
structure MessageQueues where
  manager : QueueMapManager
  queues : List (Option MessageQueue)

/-- What a call does: its result, the message that the caller has then, whether the error reporter
was told that a message has not been sent, the message that has entered a queue, the messages that
have left one, and how many of them were flushed. -/
structure QueueOutcome where
  result : ReturnValue := .ok
  message : Option MessageQueueMessage := none
  notSent : Bool := false
  entered : Option (ℕ × List UInt8) := none
  left : Option (ℕ × List (List UInt8)) := none
  count : Option ℕ := none

namespace QueueMapManager

/-- Before there are any queues. -/
def new : QueueMapManager where
  queueCounter := MessageQueueIF.noQueue + 1
  queueMap := fun _ => none

/-- Give out an id for a queue.  The one that stands for no queue is skipped when the counter has
wrapped around.  An id that is still in the map is not given out again. -/
def addMessageQueue (M : QueueMapManager) (queueToInsert : ℕ) :
    Option MessageQueueId × QueueMapManager :=
  let skipped := if M.queueCounter = MessageQueueIF.noQueue then M.queueCounter + 1
    else M.queueCounter
  match M.queueMap skipped with
  | some _ => (none, { M with queueCounter := skipped + 1 })
  | none =>
      (some skipped,
        { queueCounter := skipped + 1
          queueMap := Function.update M.queueMap skipped (some queueToInsert) })

end QueueMapManager

namespace MessageQueues

open MessageQueueMessage

/-- Before there are any queues. -/
def new : MessageQueues where
  manager := .new
  queues := []

/-- The queue with a number, unless it has been destroyed. -/
def queue? (S : MessageQueues) (n : ℕ) : Option MessageQueue :=
  (S.queues[n]?).join

def setQueue (S : MessageQueues) (n : ℕ) (Q : MessageQueue) : MessageQueues :=
  { S with queues := S.queues.set n (some Q) }

/-- A queue that gets no id has the one that stands for no queue. -/
def create (S : MessageQueues) (messageDepth maxMessageSize : ℕ) : MessageQueues :=
  let (id, manager) := S.manager.addMessageQueue S.queues.length
  { manager := manager
    queues := S.queues ++ [some
      { id := id.getD MessageQueueIF.noQueue
        last := MessageQueueIF.noQueue
        defaultDest := MessageQueueIF.noQueue
        messageQueue := []
        messageSize := maxMessageSize
        messageDepth := messageDepth }] }

/-- Destroy a queue.  The manager keeps the pointer to it. -/
def destroy (S : MessageQueues) (n : ℕ) : Option (MessageQueues × QueueOutcome) :=
  match S.queue? n with
  | none => none
  | some Q => some ({ S with queues := S.queues.set n none }, { left := some (n, Q.messageQueue) })

/-- Send a message.  This is undefined when the queue has been destroyed. -/
def sendMessageFromMessageQueue (S : MessageQueues) (sendTo : MessageQueueId)
    (message : MessageQueueMessage) (sentFrom : MessageQueueId) (ignoreFault : Bool) :
    Option (MessageQueues × QueueOutcome) :=
  let message := message.setSender sentFrom
  if message.messageSize > maxMessageSize then
    some (S, { result := .failed, message := some message })
  else
    match S.manager.queueMap sendTo with
    | none =>
        some (S,
          { result := MessageQueueIF.destinationInvalid
            message := some message
            notSent := ¬ ignoreFault })
    | some n =>
        match S.queue? n with
        | none => none
        | some Q =>
            if Q.messageQueue.length < Q.messageDepth then
              some
                (S.setQueue n { Q with messageQueue := Q.messageQueue ++ [message.internalBuffer] },
                  { message := some message, entered := some (n, message.internalBuffer) })
            else
              some (S,
                { result := MessageQueueIF.full
                  message := some message
                  notSent := ¬ ignoreFault })

/-- Send a message from a queue.  Faults are not ignored, whatever the caller says. -/
def sendMessage (S : MessageQueues) (n : ℕ) (sendTo : MessageQueueId)
    (message : MessageQueueMessage) (_ignoreFault : Bool) :
    Option (MessageQueues × QueueOutcome) :=
  match S.queue? n with
  | none => none
  | some Q => S.sendMessageFromMessageQueue sendTo message Q.id false

def sendToDefaultFrom (S : MessageQueues) (n : ℕ) (message : MessageQueueMessage)
    (sentFrom : MessageQueueId) (ignoreFault : Bool) : Option (MessageQueues × QueueOutcome) :=
  match S.queue? n with
  | none => none
  | some Q => S.sendMessageFromMessageQueue Q.defaultDest message sentFrom ignoreFault

def sendToDefault (S : MessageQueues) (n : ℕ) (message : MessageQueueMessage) :
    Option (MessageQueues × QueueOutcome) :=
  match S.queue? n with
  | none => none
  | some Q => S.sendToDefaultFrom n message Q.id false

/-- Send a message to the queue that the last message was received from. -/
def reply (S : MessageQueues) (n : ℕ) (message : MessageQueueMessage) :
    Option (MessageQueues × QueueOutcome) :=
  match S.queue? n with
  | none => none
  | some Q =>
      if Q.last ≠ MessageQueueIF.noQueue then
        S.sendMessageFromMessageQueue Q.last message Q.id false
      else
        some (S, { result := MessageQueueIF.noReplyPartner, message := some message })

/-- A buffer whose first bytes have been overwritten by those of another one. -/
def copyFront (count : ℕ) (source target : List UInt8) : List UInt8 :=
  source.take count ++ target.drop count

theorem length_copyFront {count : ℕ} {source target : List UInt8}
    (h : source.length = target.length) :
  (copyFront count source target).length = target.length
  := by
  rw [copyFront, List.length_append, List.length_take, List.length_drop, h]
  omega

/-- Receive a message.  Only as many bytes are copied as the queue was told that messages have;
this is undefined when a message does not have so many. -/
def receiveMessage (S : MessageQueues) (n : ℕ) (message : MessageQueueMessage) :
    Option (MessageQueues × QueueOutcome) :=
  match S.queue? n with
  | none => none
  | some Q =>
      match Q.messageQueue with
      | [] => some (S, { result := MessageQueueIF.empty, message := some message })
      | front :: rest =>
          if h : Q.messageSize ≤ maxMessageSize ∧ front.length = maxMessageSize then
            let message : MessageQueueMessage :=
              { message with
                internalBuffer := copyFront Q.messageSize front message.internalBuffer
                length_internalBuffer := by
                  rw [length_copyFront (h.2.trans message.length_internalBuffer.symm),
                    message.length_internalBuffer] }
            some (S.setQueue n { Q with messageQueue := rest, last := message.getSender },
              { message := some message, left := some (n, [front]) })
          else
            none

def flush (S : MessageQueues) (n : ℕ) : Option (MessageQueues × QueueOutcome) :=
  match S.queue? n with
  | none => none
  | some Q =>
      some (S.setQueue n { Q with messageQueue := [] },
        { left := some (n, Q.messageQueue), count := some Q.messageQueue.length })

def setDefaultDestination (S : MessageQueues) (n : ℕ) (defaultDestination : MessageQueueId) :
    Option (MessageQueues × QueueOutcome) :=
  match S.queue? n with
  | none => none
  | some Q => some (S.setQueue n { Q with defaultDest := defaultDestination }, {})

/-- The calls of the methods of the queues. -/
inductive Call where
  | create (messageDepth maxMessageSize : ℕ)
  | destroy (n : ℕ)
  | sendMessageFrom (sendTo : MessageQueueId) (message : MessageQueueMessage)
      (sentFrom : MessageQueueId) (ignoreFault : Bool)
  | sendMessage (n : ℕ) (sendTo : MessageQueueId) (message : MessageQueueMessage)
      (ignoreFault : Bool)
  | sendToDefaultFrom (n : ℕ) (message : MessageQueueMessage) (sentFrom : MessageQueueId)
      (ignoreFault : Bool)
  | sendToDefault (n : ℕ) (message : MessageQueueMessage)
  | reply (n : ℕ) (message : MessageQueueMessage)
  | receiveMessage (n : ℕ) (message : MessageQueueMessage)
  | flush (n : ℕ)
  | setDefaultDestination (n : ℕ) (defaultDestination : MessageQueueId)

def step : Step MessageQueues Call QueueOutcome :=
  fun S call =>
    match call with
    | .create messageDepth maxMessageSize => some (S.create messageDepth maxMessageSize, {})
    | .destroy n => S.destroy n
    | .sendMessageFrom sendTo message sentFrom ignoreFault =>
        S.sendMessageFromMessageQueue sendTo message sentFrom ignoreFault
    | .sendMessage n sendTo message ignoreFault => S.sendMessage n sendTo message ignoreFault
    | .sendToDefaultFrom n message sentFrom ignoreFault =>
        S.sendToDefaultFrom n message sentFrom ignoreFault
    | .sendToDefault n message => S.sendToDefault n message
    | .reply n message => S.reply n message
    | .receiveMessage n message => S.receiveMessage n message
    | .flush n => S.flush n
    | .setDefaultDestination n defaultDestination => S.setDefaultDestination n defaultDestination

end MessageQueues
