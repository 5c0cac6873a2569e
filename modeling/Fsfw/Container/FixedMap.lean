import Fsfw.Library.KeyOrder
import Fsfw.Library.Memory
import Fsfw.Library.Run
import Fsfw.Serialize.SerialBuffer

/-!
# The map of fixed capacity

A `FixedMap` keeps its pairs in the first `size` cells of an array of `maxSize` cells.  A new
pair goes behind the last one, and a pair is removed by moving the last one into its cell.
An iterator is the index of a cell.  An operation that reads or writes a cell outside the
array is undefined (`none`).

`serialize` writes the number of pairs and the pairs, key by key and value by value, and
`deSerialize` reads the number of pairs into `size`, and the pairs into the cells.  How a key
and a value are serialized is given by the serializers and deserializers of their types.
-/

/-- A map with keys `κ` and values `ν`. -/
structure FixedMap (κ ν : Type) where
  theMap : ℕ → κ × ν
  maxSize : ℕ
  size : ℕ

namespace FixedMap

open Memory

variable {κ ν : Type}

/-- The empty map, in an array that is not initialised. -/
def new (garbage : ℕ → κ × ν) (maxSize : ℕ) : FixedMap κ ν where
  theMap := garbage
  maxSize := maxSize
  size := 0

/-- The pairs an iteration from `begin` to `end` visits. -/
def stored (m : FixedMap κ ν) : List (κ × ν) :=
  slice m.theMap 0 m.size

/-- Read the cell `i` of the array. -/
def read (m : FixedMap κ ν) (i : ℕ) : Option (κ × ν) :=
  if i < m.maxSize then some (m.theMap i) else none

/-- Write the cell `i` of the array. -/
def write (m : FixedMap κ ν) (i : ℕ) (x : κ × ν) : Option (FixedMap κ ν) :=
  if i < m.maxSize then some { m with theMap := overwrite m.theMap i [x] } else none

def clear (m : FixedMap κ ν) : FixedMap κ ν :=
  { m with size := 0 }

section Key

variable [DecidableEq κ]

/-- The loop of `findIndex` from the cell `i` on, with `rounds` cells left. -/
def findLoop (m : FixedMap κ ν) (key : κ) : ℕ → ℕ → Option ℕ
  | i, 0 => some i
  | i, rounds + 1 =>
      match m.read i with
      | none => none
      | some x => if x.1 = key then some i else findLoop m key (i + 1) rounds

def findIndex (m : FixedMap κ ν) (key : κ) : Option ℕ :=
  if m.size = 0 then some 1 else m.findLoop key 0 m.size

/-- Is there a pair with this key (`exists` in the source)? -/
def existsKey (m : FixedMap κ ν) (key : κ) : Option ReturnValue := do
  let i ← m.findIndex key
  return if i < m.size then .ok else Containers.keyDoesNotExist

/-- Insert a pair.  The second component is the iterator that `storedValue` is set to. -/
def insert (m : FixedMap κ ν) (key : κ) (value : ν) :
    Option (ReturnValue × Option ℕ × FixedMap κ ν) := do
  let found ← m.existsKey key
  if found = .ok then
    return (Containers.keyAlreadyExists, none, m)
  else if m.size = m.maxSize then
    return (Containers.mapFull, none, m)
  else
    let m' ← m.write m.size (key, value)
    return (.ok, some m.size, { m' with size := m.size + 1 })

/-- Erase the pair with the key. -/
def erase (m : FixedMap κ ν) (key : κ) : Option (ReturnValue × FixedMap κ ν) := do
  let i ← m.findIndex key
  if m.size ≤ i then
    return (Containers.keyDoesNotExist, m)
  else
    let last ← m.read (m.size - 1)
    let m' ← m.write i last
    return (.ok, { m' with size := m.size - 1 })

/-- Erase the pair under an iterator.  The second component is the iterator afterwards, which
is moved back by one cell. -/
def eraseIterator (m : FixedMap κ ν) (iter : ℕ) :
    Option (ReturnValue × ℤ × FixedMap κ ν) := do
  let x ← m.read iter
  let i ← m.findIndex x.1
  if m.size ≤ i then
    return (Containers.keyDoesNotExist, iter, m)
  else
    let last ← m.read (m.size - 1)
    let m' ← m.write i last
    return (.ok, iter - 1, { m' with size := m.size - 1 })

/-- The iterator to the pair with the key, or `end`. -/
def find (m : FixedMap κ ν) (key : κ) : Option ℕ := do
  let found ← m.existsKey key
  if found = .ok then
    m.findIndex key
  else
    return m.size

/-- The value that `findValue` points to, which is that of the cell the search ends at, whether
it has the key or not. -/
def valueAt (m : FixedMap κ ν) (key : κ) : Option ν := do
  let i ← m.findIndex key
  let x ← m.read i
  return x.2

/-- The result and the value that `find(key, value)` hands out. -/
def findValue (m : FixedMap κ ν) (key : κ) : Option (ReturnValue × Option ν) := do
  let found ← m.existsKey key
  if found = .ok then
    let i ← m.findIndex key
    let x ← m.read i
    return (.ok, some x.2)
  else
    return (found, none)

end Key

section Serialization

variable (keyTo : κ → Serializer) (valueTo : ν → Serializer)

/-- The loop of `serialize` from the cell `i` on, with `rounds` cells left.  The result of
writing the key is replaced by that of writing the value. -/
def serializeLoop (m : FixedMap κ ν) (maxSize : ℕ) (streamEndianness : Endianness) :
    ℕ → ℕ → SerialBuffer → Option (ReturnValue × SerialBuffer)
  | _, 0, b => some (.ok, b)
  | i, rounds + 1, b => do
      let x ← m.read i
      let (_, b₁) := keyTo x.1 maxSize streamEndianness b
      let (result, b₂) := valueTo x.2 maxSize streamEndianness b₁
      if result = .ok then
        serializeLoop m maxSize streamEndianness (i + 1) rounds b₂
      else
        return (result, b₂)

def serialize (m : FixedMap κ ν) (maxSize : ℕ) (streamEndianness : Endianness)
    (b : SerialBuffer) : Option (ReturnValue × SerialBuffer) :=
  let (result, b₁) := SerializeAdapter.serialize 4 m.size maxSize streamEndianness b
  if result = .ok then
    serializeLoop keyTo valueTo m maxSize streamEndianness 0 m.size b₁
  else
    some (result, b₁)

/-- The size is computed with 32 bits. -/
def getSerializedSize (keySize : κ → ℕ) (valueSize : ν → ℕ) (m : FixedMap κ ν) : ℕ :=
  m.stored.foldl
    (fun printSize x => ((printSize + keySize x.1) % 2 ^ 32 + valueSize x.2) % 2 ^ 32) 4

end Serialization

section Deserialization

variable (keyFrom : Deserializer κ) (valueFrom : Deserializer ν)

/-- The loop of `deSerialize` from the cell `i` on, with `rounds` cells left.  The result of
reading the key is replaced by that of reading the value. -/
def deSerializeLoop (streamEndianness : Endianness) :
    FixedMap κ ν → ℕ → ℕ → List UInt8 → Option (ReturnValue × FixedMap κ ν × List UInt8)
  | m, _, 0, buffer => some (.ok, m, buffer)
  | m, i, rounds + 1, buffer => do
      let x ← m.read i
      let (_, key, buffer₁) := keyFrom streamEndianness x.1 buffer
      let (result, value, buffer₂) := valueFrom streamEndianness x.2 buffer₁
      let m' ← m.write i (key, value)
      if result = .ok then
        deSerializeLoop streamEndianness m' (i + 1) rounds buffer₂
      else
        return (result, m', buffer₂)

def deSerialize (m : FixedMap κ ν) (streamEndianness : Endianness) (buffer : List UInt8) :
    Option (ReturnValue × FixedMap κ ν × List UInt8) :=
  let (result, size, buffer₁) :=
    SerializeAdapter.deSerializeNumber 4 streamEndianness m.size buffer
  let m' := { m with size := size }
  if m.maxSize < size then
    some (SerializeIF.tooManyElements, m', buffer₁)
  else if result = .ok then
    deSerializeLoop keyFrom valueFrom streamEndianness m' 0 size buffer₁
  else
    some (result, m', buffer₁)

end Deserialization

/-- The calls of a map. -/
inductive Op (κ ν : Type) where
  | insert (key : κ) (value : ν)
  | erase (key : κ)
  | eraseIterator (iter : ℕ)
  | find (key : κ)
  | findValue (key : κ)
  | clear
  | deSerialize (streamEndianness : Endianness) (buffer : List UInt8)

/-- What a call returns: a code, a code with a value, or the pair an iterator points to (none
for `end`).  A call that erases under an iterator also shows the pair that was there. -/
inductive Output (κ ν : Type) where
  | code (result : ReturnValue)
  | value (result : ReturnValue) (value : Option ν)
  | pair (pair : Option (κ × ν))
  | erased (pair : κ × ν) (result : ReturnValue)

/-- One call. -/
def step [DecidableEq κ] (keyFrom : Deserializer κ) (valueFrom : Deserializer ν) :
    Step (FixedMap κ ν) (Op κ ν) (Output κ ν)
  | m, .insert key value => do
      let (result, _, m') ← m.insert key value
      return (m', .code result)
  | m, .erase key => do
      let (result, m') ← m.erase key
      return (m', .code result)
  | m, .eraseIterator iter => do
      let x ← m.read iter
      let (result, _, m') ← m.eraseIterator iter
      return (m', .erased x result)
  | m, .find key => do
      let i ← m.find key
      return (m, .pair (if i = m.size then none else m.read i))
  | m, .findValue key => do
      let (result, value) ← m.findValue key
      return (m, .value result value)
  | m, .clear => some (m.clear, .code .ok)
  | m, .deSerialize streamEndianness buffer => do
      let (result, m', _) ← m.deSerialize keyFrom valueFrom streamEndianness buffer
      return (m', .code result)

end FixedMap
