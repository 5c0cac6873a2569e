import Fsfw.ReturnValues

/-!
# Serialization of numbers

Numbers are serialized with the most significant byte first, or with the least significant
byte first.  A number is read from the front of a buffer, which is then moved behind it; the
buffer is given by the bytes that are left.
-/

/-- The byte order of a stream.  `BIG` and its other name `NETWORK` stand for the first one,
`LITTLE` for the second one, and `MACHINE` for the one of the machine. -/
inductive Endianness where
  | big
  | little
  deriving DecidableEq, Repr

/-- Deserialization into an object: from the object and the bytes left of the buffer to the
result, the object and the bytes left then. -/
abbrev Deserializer (α : Type*) := Endianness → α → List UInt8 → ReturnValue × α × List UInt8

namespace SerializeAdapter

/-- The number with the given bytes, the most significant one first. -/
def convertBigEndian (bytes : List UInt8) : ℕ :=
  bytes.foldl (fun n byte => n * 2 ^ 8 + byte.toNat) 0

/-- Read a number of `size` bytes. -/
def deSerialize (size : ℕ) (buffer : List UInt8) : Except ReturnValue (ℕ × List UInt8) :=
  if size ≤ buffer.length then
    .ok (convertBigEndian (buffer.take size), buffer.drop size)
  else
    .error SerializeIF.streamTooShort

/-- Read a number of `size` bytes, in the byte order of the stream, into an object that holds
a number. -/
def deSerializeNumber (size : ℕ) : Deserializer ℕ :=
  fun streamEndianness object buffer =>
    if size ≤ buffer.length then
      match streamEndianness with
      | .big => (.ok, convertBigEndian (buffer.take size), buffer.drop size)
      | .little => (.ok, convertBigEndian (buffer.take size).reverse, buffer.drop size)
    else
      (SerializeIF.streamTooShort, object, buffer)

/-- Read a number of one byte. -/
def deSerializeByte : Deserializer UInt8
  | _, object, [] => (SerializeIF.streamTooShort, object, [])
  | _, _, byte :: buffer => (.ok, byte, buffer)

end SerializeAdapter
