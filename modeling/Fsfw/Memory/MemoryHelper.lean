import Fsfw.GlobalFunctions.CRC
import Fsfw.Ipc.MessageQueueIF
import Fsfw.StorageManager.PacketStore

/-!
# Memory helpers

A memory helper handles the commands that load, dump and check the memory of its owner.  The data
to be loaded is brought in the IPC store, and for a dump or a check room is reserved there.  The
owner may say that it does the work itself, and completes it later.

What a helper does, and what it is told by the store and by its owner, is written to a log.  The
addresses in the memory of the owner are left out.
-/

/-- The last command of a helper. -/
inductive MemoryCommand where
  | cmdNone
  | memoryLoad
  | memoryDump
  | memoryCheck
  deriving DecidableEq, Repr

/-- Any other command keeps its number. -/
inductive MemoryMessage where
  | load (storeId : StoreAddress)
  | dump (length : UInt32)
  | check (length : UInt32)
  | dumpReply (storeId : StoreAddress)
  | checkReply (crc : UInt16) (returnValue : ReturnValue)
  | failed (errorCode : ReturnValue) (initialCommand : MemoryCommand)
  | commandOk
  | other (command : UInt16)
  deriving DecidableEq, Repr

/-- The address of the data that is deleted when a message is cleared. -/
def MemoryMessage.clear : MemoryMessage → Option StoreAddress
  | .load storeId => some storeId
  | .dumpReply storeId => some storeId
  | _ => none

inductive MemoryEvent where
  | received (sender : MessageQueueId) (command : MemoryCommand)
  | read (storeId : StoreAddress) (result : ReturnValue)
  | reserved (storeId : StoreAddress) (result : ReturnValue)
  | answered (errorCode : ReturnValue)
  | copied (bytes : List UInt8)
  | sent (target : MessageQueueId) (message : MemoryMessage) (result : ReturnValue)
  | deleted (storeId : StoreAddress)
  deriving DecidableEq, Repr

/-- What the owner answers to a command, the bytes at the address that it returns, and the result of
sending the reply. -/
structure MemoryOwner where
  errorCode : ReturnValue
  dataPointer : List UInt8
  sendResult : ReturnValue

/-- The pointer to the reserved space is kept as the address that it belongs to. -/
structure MemoryHelper (σ : Type*) where
  ipcStore : σ
  ipcAddress : StoreAddress
  lastCommand : MemoryCommand
  lastSender : MessageQueueId
  reservedSpaceInIPC : StoreAddress
  busy : Bool
  log : List MemoryEvent

namespace MemoryHelper

variable {σ : Type*} (S : PacketStoreIF σ) (H : MemoryHelper σ)

def new (ipcStore : σ) : MemoryHelper σ where
  ipcStore := ipcStore
  ipcAddress := StoreAddress.invalid
  lastCommand := .cmdNone
  lastSender := MessageQueueIF.noQueue
  reservedSpaceInIPC := StoreAddress.invalid
  busy := false
  log := []

def record (event : MemoryEvent) : MemoryHelper σ :=
  { H with log := H.log ++ [event] }

def sendMessage (message : MemoryMessage) (result : ReturnValue) : MemoryHelper σ :=
  H.record (.sent H.lastSender message result)

def deleteData (storeId : StoreAddress) : MemoryHelper σ :=
  { H.record (.deleted storeId) with ipcStore := (S.deleteData storeId H.ipcStore).2 }

/-- Copy bytes to the reserved space. -/
def writeReserved (bytes : List UInt8) : MemoryHelper σ :=
  { H with ipcStore := S.write H.reservedSpaceInIPC bytes H.ipcStore }

/-! ### Loads -/

/-- The end of `completeLoad` that is only reached on success. -/
def loadSucceeded (sendResult : ReturnValue) : MemoryHelper σ :=
  (H.sendMessage .commandOk sendResult).deleteData S H.ipcAddress

/-- A variable is converted to big endian, which reverses its bytes. -/
def completeLoad (errorCode : ReturnValue) (dataToCopy : List UInt8) (sendResult : ReturnValue) :
    MemoryHelper σ :=
  let H := { H.record (.answered errorCode) with busy := false }
  if errorCode = HasMemoryIF.doItMyself then
    { H with busy := true }
  else if errorCode = HasMemoryIF.pointsToMemory then
    (H.record (.copied dataToCopy)).loadSucceeded S sendResult
  else if errorCode = HasMemoryIF.pointsToVariable then
    (H.record (.copied dataToCopy.reverse)).loadSucceeded S sendResult
  else if errorCode = HasMemoryIF.activityCompleted ∨ errorCode = .ok then
    H.loadSucceeded S sendResult
  else
    (H.deleteData S H.ipcAddress).sendMessage (.failed errorCode .memoryLoad) sendResult

def handleMemoryLoad (storeId : StoreAddress) (owner : MemoryOwner) : MemoryHelper σ :=
  let (returnCode, data) := S.getData storeId H.ipcStore
  let H := { H.record (.read storeId returnCode) with ipcAddress := storeId }
  if returnCode = .ok then
    H.completeLoad S owner.errorCode data owner.sendResult
  else
    H.sendMessage (.failed returnCode .memoryLoad) owner.sendResult

/-! ### Dumps and checks -/

/-- The reply to a dump or a check whose data is in the reserved space. -/
def replyDump (size : ℕ) : MemoryMessage × MemoryHelper σ :=
  match H.lastCommand with
  | .memoryDump => (.dumpReply H.ipcAddress, H)
  | .memoryCheck =>
      let reservedSpace := (S.getData H.reservedSpaceInIPC H.ipcStore).2
      (.checkReply (CRC.crc16ccitt (reservedSpace.take size)) .ok, H.deleteData S H.ipcAddress)
  | command => (.failed stateMismatch command, H.deleteData S H.ipcAddress)

/-- The reply that `completeDump` sends when the work is done. -/
def dumpReply (errorCode : ReturnValue) (dataToCopy : List UInt8) (size : ℕ) :
    MemoryMessage × MemoryHelper σ :=
  if errorCode = HasMemoryIF.pointsToVariable then
    (H.writeReserved S (dataToCopy.take size).reverse).replyDump S size
  else if errorCode = .ok ∨ errorCode = HasMemoryIF.pointsToMemory then
    (H.writeReserved S (dataToCopy.take size)).replyDump S size
  else if errorCode = HasMemoryIF.activityCompleted then
    H.replyDump S size
  else if errorCode = HasMemoryIF.dumpNotSupported then
    (if H.lastCommand = .memoryCheck then .checkReply 0 HasMemoryIF.dumpNotSupported
      else .failed errorCode H.lastCommand,
      H.deleteData S H.ipcAddress)
  else
    (.failed errorCode H.lastCommand, H.deleteData S H.ipcAddress)

/-- A reply that cannot be sent is cleared. -/
def sendOrClear (reply : MemoryMessage) (sendResult : ReturnValue) : MemoryHelper σ :=
  let H := H.sendMessage reply sendResult
  if sendResult ≠ .ok then
    match reply.clear with
    | some storeId => H.deleteData S storeId
    | none => H
  else
    H

def completeDump (errorCode : ReturnValue) (dataToCopy : List UInt8) (size : ℕ)
    (sendResult : ReturnValue) : MemoryHelper σ :=
  let H := { H.record (.answered errorCode) with busy := false }
  if errorCode = HasMemoryIF.doItMyself then
    { H with busy := true }
  else
    let (reply, H) := H.dumpReply S errorCode dataToCopy size
    H.sendOrClear S reply sendResult

def handleMemoryCheckOrDump (length : UInt32) (owner : MemoryOwner) : MemoryHelper σ :=
  let (returnCode, storeId, ipcStore) := S.getFreeElement length.toNat H.ipcStore
  let H :=
    { H.record (.reserved storeId returnCode) with
      ipcStore := ipcStore
      ipcAddress := storeId
      reservedSpaceInIPC := storeId }
  if returnCode = .ok then
    H.completeDump S owner.errorCode owner.dataPointer length.toNat owner.sendResult
  else
    H.sendMessage (.failed returnCode H.lastCommand) owner.sendResult

/-! ### Commands -/

/-- A command is received, and remembered with its sender. -/
def receive (sender : MessageQueueId) (command : MemoryCommand) : MemoryHelper σ :=
  { H.record (.received sender command) with lastSender := sender, lastCommand := command }

def handleMemoryCommand (sender : MessageQueueId) (owner : MemoryOwner) :
    MemoryMessage → ReturnValue × MemoryHelper σ
  | .dump length => (.ok, (H.receive sender .memoryDump).handleMemoryCheckOrDump S length owner)
  | .load storeId => (.ok, (H.receive sender .memoryLoad).handleMemoryLoad S storeId owner)
  | .check length => (.ok, (H.receive sender .memoryCheck).handleMemoryCheckOrDump S length owner)
  | _ => (unknownCmd, { H with lastSender := sender, lastCommand := .cmdNone })

end MemoryHelper
