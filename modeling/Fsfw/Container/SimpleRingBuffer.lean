import Fsfw.Library.Circular
import Fsfw.Library.Run
import Fsfw.ReturnValues

/-!
# The ring buffer

`RingBufferBase` holds the indices of a ring buffer with one read pointer, and
`SimpleRingBuffer` adds the bytes.  The bytes live in a block of memory `buffer` of which
`bufferLen` bytes belong to the ring buffer; an operation that copies from or to bytes
outside the block is undefined (`none`).

Indices and amounts are of type `size_t`, 64 bits wide.  No block of memory is long enough
for a sum of two indices into it to reach `2 ^ 64`, so these sums are the sums of natural
numbers.  The size a constructor is asked to allocate is not an index, and is computed modulo
`2 ^ 64`.  `incrementWrite` and `incrementRead` take a 32 bit amount.
-/

/-- The indices of a ring buffer. -/
structure RingBufferBase where
  start : ℕ
  write : ℕ
  read : ℕ
  size : ℕ
  overwriteOld : Bool

namespace RingBufferBase

def getAvailableReadData (r : RingBufferBase) : ℕ :=
  (r.write + r.size - r.read) % r.size

-- One less to avoid ambiguous full/empty problem.
def availableWriteSpace (r : RingBufferBase) : ℕ :=
  (r.read + r.size - r.write - 1) % r.size

def getMaxSize (r : RingBufferBase) : ℕ :=
  r.size - 1

def writeTillWrap (r : RingBufferBase) : ℕ :=
  r.start + r.size - r.write

def readTillWrap (r : RingBufferBase) : ℕ :=
  r.start + r.size - r.read

end RingBufferBase

/-- A ring buffer of bytes. -/
structure SimpleRingBuffer extends RingBufferBase where
  buffer : ℕ → UInt8
  bufferLen : ℕ
  maxExcessBytes : ℕ
  excessBytes : ℕ

namespace SimpleRingBuffer

open Memory

/-- The ring buffer that allocates its own block of memory.  The block has the size asked
for, with the excess bytes as passed to the constructor, modulo `2 ^ 64`. -/
def new (garbage : ℕ → UInt8) (size : ℕ) (overwriteOld : Bool) (maxExcessBytes : ℕ) :
    SimpleRingBuffer where
  start := 0
  write := 0
  read := 0
  size := size
  overwriteOld := overwriteOld
  buffer := garbage
  bufferLen := (size + maxExcessBytes) % 2 ^ 64
  maxExcessBytes := if maxExcessBytes > size then size else maxExcessBytes
  excessBytes := 0

/-- The ring buffer on a block of memory of `bufferLen` bytes that the caller passes. -/
def ofBuffer (buffer : ℕ → UInt8) (bufferLen size : ℕ) (overwriteOld : Bool)
    (maxExcessBytes : ℕ) : SimpleRingBuffer where
  start := 0
  write := 0
  read := 0
  size := size
  overwriteOld := overwriteOld
  buffer := buffer
  bufferLen := bufferLen
  maxExcessBytes := if maxExcessBytes > size then size else maxExcessBytes
  excessBytes := 0

/-! ### Copying bytes -/

/-- Copy the bytes `xs` to the block, from position `p` on. -/
def copyIn (r : SimpleRingBuffer) (p : ℕ) (xs : List UInt8) : Option SimpleRingBuffer :=
  if p + xs.length ≤ r.bufferLen then
    some { r with buffer := overwrite r.buffer p xs }
  else
    none

/-- Copy `n` bytes from the block, from position `p` on. -/
def copyOut (r : SimpleRingBuffer) (p n : ℕ) : Option (List UInt8) :=
  if p + n ≤ r.bufferLen then some (slice r.buffer p n) else none

/-! ### Operations -/

def clear (r : SimpleRingBuffer) : SimpleRingBuffer :=
  { r with write := r.start, read := r.start }

def incrementWrite (r : SimpleRingBuffer) (amount : ℕ) : SimpleRingBuffer :=
  { r with write := (r.write + amount % 2 ^ 32 - r.start) % r.size + r.start }

def incrementRead (r : SimpleRingBuffer) (amount : ℕ) : SimpleRingBuffer :=
  { r with read := (r.read + amount % 2 ^ 32 - r.start) % r.size + r.start }

/-- Reserve `amount` contiguous bytes. On success the result carries the position of the
first of them, which the source returns as a pointer. -/
def getFreeElement (r : SimpleRingBuffer) (amount : ℕ) :
    ReturnValue × Option ℕ × SimpleRingBuffer :=
  if r.availableWriteSpace ≥ amount ∨ r.overwriteOld then
    let amountTillWrap := r.writeTillWrap
    if amountTillWrap < amount then
      if amount - amountTillWrap + r.excessBytes > r.maxExcessBytes then
        (.failed, none, r)
      else
        (.ok, some r.write, { r with excessBytes := amount - amountTillWrap })
    else
      (.ok, some r.write, r)
  else
    (.failed, none, r)

def moveExcessBytesToStart (r : SimpleRingBuffer) : Option SimpleRingBuffer :=
  if r.excessBytes > 0 then
    match r.copyOut r.size r.excessBytes with
    | none => none
    | some excess =>
        match r.copyIn 0 excess with
        | none => none
        | some r => some { r with excessBytes := 0 }
  else
    some r

def confirmBytesWritten (r : SimpleRingBuffer) (amount : ℕ) : Option SimpleRingBuffer :=
  if r.excessBytes > 0 then
    match r.moveExcessBytesToStart with
    | none => none
    | some r => some (r.incrementWrite amount)
  else
    some (r.incrementWrite amount)

/-- Write the bytes at `data`, where `none` is the null pointer. -/
def writeData (r : SimpleRingBuffer) (data : Option (List UInt8)) :
    Option (ReturnValue × SimpleRingBuffer) :=
  match data with
  | none => some (.failed, r)
  | some data =>
      let amount := data.length
      if amount > r.getMaxSize then
        some (.failed, r)
      else if r.availableWriteSpace ≥ amount ∨ r.overwriteOld then
        let amountTillWrap := r.writeTillWrap
        if amountTillWrap ≥ amount then
          match r.copyIn r.write data with
          | none => none
          | some r => some (.ok, r.incrementWrite amount)
        else
          match r.copyIn r.write (data.take amountTillWrap) with
          | none => none
          | some r =>
              match r.copyIn 0 (data.drop amountTillWrap) with
              | none => none
              | some r => some (.ok, r.incrementWrite amount)
      else
        some (.failed, r)

/-- Delete bytes by moving the read pointer. On success the result carries the true amount
deleted. -/
def deleteData (r : SimpleRingBuffer) (amount : ℕ) (deleteRemaining : Bool) :
    ReturnValue × Option ℕ × SimpleRingBuffer :=
  let availableData := r.getAvailableReadData
  if availableData < amount then
    if deleteRemaining then
      (.ok, some availableData, r.incrementRead availableData)
    else
      (.failed, none, r)
  else
    (.ok, some amount, r.incrementRead amount)

/-- The bytes `readData` copies to its destination: `amount` bytes from the read pointer on,
in two parts when they pass the end. -/
def copyUnread (r : SimpleRingBuffer) (amount : ℕ) : Option (List UInt8) :=
  let amountTillWrap := r.readTillWrap
  if amountTillWrap ≥ amount then
    r.copyOut r.read amount
  else
    match r.copyOut r.read amountTillWrap with
    | none => none
    | some front =>
        match r.copyOut 0 (amount - amountTillWrap) with
        | none => none
        | some back => some (front ++ back)

/-- Read bytes. On success the result carries the bytes copied to the destination, whose
number is the true amount. -/
def readData (r : SimpleRingBuffer) (amount : ℕ) (incrementReadPtr readRemaining : Bool) :
    Option (ReturnValue × Option (List UInt8) × SimpleRingBuffer) :=
  let availableData := r.getAvailableReadData
  if availableData < amount ∧ readRemaining = false then
    some (.failed, none, r)
  else
    let amount := if availableData < amount then availableData else amount
    match r.copyUnread amount with
    | none => none
    | some data =>
        if incrementReadPtr then
          some (.ok, some data, (r.deleteData amount readRemaining).2.2)
        else
          some (.ok, some data, r)

end SimpleRingBuffer
