import Fsfw.Serialize.SerializeAdapter

/-!
# Serializing into a buffer

A `SerialBuffer` is the buffer a serializer writes to: the bytes written so far, and the
number of used bytes that the caller passes along (`*size`).  Every write moves the buffer
pointer and increases the number by the bytes written (`put`).

A serializer takes the size of the buffer and the byte order, and returns a result and the
buffer; when it fails, bytes may have been written already.  `Writes s bytes` says that the
serializer `s` writes `bytes` whenever it succeeds.
-/

/-- A buffer that is written to. -/
structure SerialBuffer where
  written : List UInt8
  size : ℕ

namespace SerialBuffer

/-- Write some bytes. -/
def put (b : SerialBuffer) (bytes : List UInt8) : SerialBuffer where
  written := b.written ++ bytes
  size := b.size + bytes.length

@[simp]
theorem put_nil (b : SerialBuffer) :
  b.put [] = b
  := by
  simp [put]

@[simp]
theorem put_put (b : SerialBuffer) (xs ys : List UInt8) :
  (b.put xs).put ys = b.put (xs ++ ys)
  := by
  simp [put, Nat.add_assoc]

@[simp]
theorem size_put (b : SerialBuffer) (xs : List UInt8) :
  (b.put xs).size = b.size + xs.length
  := rfl

@[simp]
theorem written_put (b : SerialBuffer) (xs : List UInt8) :
  (b.put xs).written = b.written ++ xs
  := rfl

theorem put_injective {b : SerialBuffer} {xs ys : List UInt8} (h : b.put xs = b.put ys) :
  xs = ys
  := by
  apply List.append_cancel_left
  exact congrArg written h

end SerialBuffer

/-- A call of `serialize`, from the size of the buffer, the byte order and the buffer. -/
abbrev Serializer := ℕ → Endianness → SerialBuffer → ReturnValue × SerialBuffer

namespace Serializer

/-- Go on after a call that succeeded, and return the result of one that failed. -/
def andThen (r : ReturnValue × SerialBuffer)
    (next : SerialBuffer → ReturnValue × SerialBuffer) : ReturnValue × SerialBuffer :=
  if r.1 = .ok then next r.2 else r

@[simp]
theorem andThen_ok (b : SerialBuffer) (next : SerialBuffer → ReturnValue × SerialBuffer) :
  andThen (.ok, b) next = next b
  := rfl

/-- Two calls one after another succeed when both do. -/
theorem andThen_eq_ok {r : ReturnValue × SerialBuffer}
    {next : SerialBuffer → ReturnValue × SerialBuffer} {b' : SerialBuffer}
    (h : andThen r next = (.ok, b')) :
  ∃ b₁, r = (.ok, b₁) ∧ next b₁ = (.ok, b')
  := by
  obtain ⟨result, b₁⟩ := r
  rw [andThen] at h
  split at h
  · rename_i hok
    rw [show result = .ok from hok]
    use b₁, rfl, h
  · rename_i hfail
    cases h
    cases hfail rfl

/-- Whenever the serializer succeeds, it writes these bytes. -/
def Writes (s : Serializer) (bytes : Endianness → List UInt8) : Prop :=
  ∀ {maxSize : ℕ} {e : Endianness} {b b' : SerialBuffer},
    s maxSize e b = (.ok, b') → b' = b.put (bytes e)

/-- The serializer writes these bytes into every buffer with room for them. -/
def WritesGivenRoom (s : Serializer) (bytes : Endianness → List UInt8) : Prop :=
  ∀ (e : Endianness) {maxSize : ℕ} {b : SerialBuffer},
    b.size + (bytes e).length ≤ maxSize → s maxSize e b = (.ok, b.put (bytes e))

theorem WritesGivenRoom.andThen {s t : Serializer} {bytes bytes' : Endianness → List UInt8}
    (hs : WritesGivenRoom s bytes) (ht : WritesGivenRoom t bytes') :
  WritesGivenRoom (fun maxSize e b => Serializer.andThen (s maxSize e b) fun b₁ => t maxSize e b₁)
    fun e => bytes e ++ bytes' e
  := by
  intro e maxSize b hroom
  rw [List.length_append] at hroom
  simp only [hs e (show b.size + (bytes e).length ≤ maxSize by omega), andThen_ok]
  rw [ht e (by rw [SerialBuffer.size_put]; omega), SerialBuffer.put_put]

/-- Serialize the items of a list one after another, up to the first failure. -/
def all {α : Type*} (serialize : α → Serializer) : List α → Serializer
  | [], _, _, b => (.ok, b)
  | x :: xs, maxSize, e, b =>
      andThen (serialize x maxSize e b) fun b₁ => all serialize xs maxSize e b₁

theorem writesGivenRoom_all {α : Type*} {serialize : α → Serializer}
    {bytes : α → Endianness → List UInt8} {xs : List α}
    (h : ∀ x ∈ xs, WritesGivenRoom (serialize x) (bytes x)) :
  WritesGivenRoom (all serialize xs) fun e => xs.flatMap fun x => bytes x e
  := by
  induction xs with
  | nil =>
      intro e maxSize b _
      simp [all]
  | cons x xs ih =>
      have hx := h x List.mem_cons_self
      have hxs := ih fun y hy => h y (List.mem_cons_of_mem _ hy)
      exact hx.andThen hxs

/-- Whenever the serializer succeeds, it writes this number of bytes. -/
def Takes (s : Serializer) (length : ℕ) : Prop :=
  ∀ {maxSize : ℕ} {e : Endianness} {b b' : SerialBuffer},
    s maxSize e b = (.ok, b') → ∃ bytes, b' = b.put bytes ∧ bytes.length = length

/-- The items of a list take the sum of what each of them takes. -/
theorem takes_all {α : Type*} {serialize : α → Serializer} {length : α → ℕ}
    (h : ∀ x, Takes (serialize x) (length x)) (xs : List α) :
  Takes (all serialize xs) (xs.map length).sum
  := by
  intro maxSize e b b' hok
  induction xs generalizing b with
  | nil =>
      cases hok
      exact ⟨[], by simp, rfl⟩
  | cons x xs ih =>
      obtain ⟨b₁, hx, hxs⟩ := andThen_eq_ok hok
      obtain ⟨first, rfl, hfirst⟩ := h x hx
      obtain ⟨rest, rfl, hrest⟩ := ih hxs
      refine ⟨first ++ rest, SerialBuffer.put_put _ _ _, ?_⟩
      rw [List.length_append, hfirst, hrest, List.map_cons, List.sum_cons]

end Serializer

namespace SerializeAdapter

open Serializer

/-- The bytes of a number of `width` bytes, the most significant one first. -/
def bigEndianBytes : ℕ → ℕ → List UInt8
  | 0, _ => []
  | width + 1, n => bigEndianBytes width (n / 2 ^ 8) ++ [UInt8.ofNat n]

/-- The bytes of a number in the byte order of a stream. -/
def bytesOf (width n : ℕ) : Endianness → List UInt8
  | .big => bigEndianBytes width n
  | .little => (bigEndianBytes width n).reverse

@[simp]
theorem length_bigEndianBytes (width n : ℕ) :
  (bigEndianBytes width n).length = width
  := by
  induction width generalizing n with
  | zero => rfl
  | succ width ih => simp [bigEndianBytes, ih]

@[simp]
theorem length_bytesOf (width n : ℕ) (e : Endianness) :
  (bytesOf width n e).length = width
  := by
  cases e with
  | big => apply length_bigEndianBytes
  | little => simp [bytesOf]

/-- Reading the bytes of a number gives the number. -/
theorem convertBigEndian_bigEndianBytes {width n : ℕ} (h : n < 2 ^ (8 * width)) :
  convertBigEndian (bigEndianBytes width n) = n
  := by
  induction width generalizing n with
  | zero =>
      have hn : n = 0 := by simpa using h
      rw [hn]
      rfl
  | succ width ih =>
      have hdiv : n / 2 ^ 8 < 2 ^ (8 * width) := by
        apply Nat.div_lt_of_lt_mul
        rwa [← Nat.pow_add, Nat.add_comm]
      have ih' := ih hdiv
      rw [convertBigEndian] at ih' ⊢
      rw [bigEndianBytes, List.foldl_append, ih']
      simp only [List.foldl_cons, List.foldl_nil, UInt8.toNat_ofNat']
      omega

/-- A number is read back from its bytes. -/
theorem deSerializeNumber_bytesOf {width n : ℕ} (h : n < 2 ^ (8 * width)) (e : Endianness)
    (old : ℕ) (rest : List UInt8) :
  deSerializeNumber width e old (bytesOf width n e ++ rest) = (.ok, n, rest)
  := by
  have hlen := length_bytesOf width n e
  simp only [deSerializeNumber]
  rw [if_pos (by simp), List.take_left' hlen, List.drop_left' hlen]
  cases e with
  | big =>
      simp only [bytesOf, convertBigEndian_bigEndianBytes h]
  | little =>
      simp only [bytesOf, List.reverse_reverse, convertBigEndian_bigEndianBytes h]

/-- Write a number of `width` bytes. -/
def serialize (width n : ℕ) : Serializer :=
  fun maxSize e b =>
    if width + b.size ≤ maxSize ∧ b.size < width + b.size then
      (.ok, b.put (bytesOf width n e))
    else
      (SerializeIF.bufferTooShort, b)

theorem serialize_eq {width : ℕ} (hwidth : 0 < width) (n maxSize : ℕ) (e : Endianness)
    (b : SerialBuffer) :
  serialize width n maxSize e b
    = if b.size + width ≤ maxSize then (.ok, b.put (bytesOf width n e))
      else (SerializeIF.bufferTooShort, b)
  := by
  rw [serialize]
  by_cases h : b.size + width ≤ maxSize
  · rw [if_pos h, if_pos (by omega)]
  · rw [if_neg h, if_neg (by omega)]

theorem writesGivenRoom_serialize {width : ℕ} (hwidth : 0 < width) (n : ℕ) :
  WritesGivenRoom (serialize width n) (bytesOf width n)
  := by
  intro e maxSize b hroom
  rw [length_bytesOf] at hroom
  rw [serialize_eq hwidth, if_pos hroom]

theorem writes_serialize (width n : ℕ) :
  Writes (serialize width n) (bytesOf width n)
  := by
  intro maxSize e b b' h
  rw [serialize] at h
  split at h
  · cases h
    rfl
  · cases h

end SerializeAdapter

/-- A block of bytes to be serialized, with its length in one byte in front of it.  `buffer`
is the block the pointer points to, of which the first `bufferLength` bytes are serialized;
it is missing when the pointer is null. -/
structure SerialBufferAdapter where
  buffer : Option (List UInt8)
  bufferLength : UInt8
  length_le : ∀ data ∈ buffer, bufferLength.toNat ≤ data.length

namespace SerialBufferAdapter

open Serializer

/-- The adapter of a block of bytes.  The length is cut to one byte. -/
def new (data : List UInt8) : SerialBufferAdapter where
  buffer := some data
  bufferLength := UInt8.ofNat data.length
  length_le := by
    rintro _ ⟨⟩
    rw [UInt8.toNat_ofNat']
    apply Nat.mod_le

def getSerializedSize (a : SerialBufferAdapter) : ℕ :=
  a.bufferLength.toNat + 1

/-- The bytes an adapter stands for. -/
def bytes (a : SerialBufferAdapter) : List UInt8 :=
  a.bufferLength :: (a.buffer.getD []).take a.bufferLength.toNat

-- The length byte is the number itself in either byte order.
def serialize (a : SerialBufferAdapter) : Serializer :=
  fun maxSize e b =>
    andThen (SerializeAdapter.serialize 1 a.bufferLength.toNat maxSize e b) fun b₁ =>
      if maxSize < b₁.size + a.bufferLength.toNat then
        (SerializeIF.bufferTooShort, b₁)
      else
        match a.buffer with
        | some data => (.ok, b₁.put (data.take a.bufferLength.toNat))
        | none => (.failed, b₁)

theorem bytesOf_one (byte : UInt8) (e : Endianness) :
  SerializeAdapter.bytesOf 1 byte.toNat e = [byte]
  := by
  cases e with
  | big => simp [SerializeAdapter.bytesOf, SerializeAdapter.bigEndianBytes]
  | little => simp [SerializeAdapter.bytesOf, SerializeAdapter.bigEndianBytes]

theorem writes_serialize (a : SerialBufferAdapter) :
  Writes a.serialize fun _ => a.bytes
  := by
  intro maxSize e b b' h
  obtain ⟨b₁, hlength, hdata⟩ := andThen_eq_ok h
  rw [SerializeAdapter.writes_serialize _ _ hlength, bytesOf_one] at hdata
  split at hdata
  · cases hdata
  · split at hdata
    · rename_i data hbuffer
      cases hdata
      simp [bytes, hbuffer]
    · cases hdata

/-- Only an adapter with a block of bytes is serialized. -/
theorem buffer_of_serialize {a : SerialBufferAdapter} {maxSize : ℕ} {e : Endianness}
    {b b' : SerialBuffer} (h : a.serialize maxSize e b = (.ok, b')) :
  ∃ data, a.buffer = some data
  := by
  obtain ⟨b₁, -, hdata⟩ := andThen_eq_ok h
  split at hdata
  · cases hdata
  · split at hdata
    · rename_i data hbuffer
      use data, hbuffer
    · cases hdata

theorem length_bytes {a : SerialBufferAdapter} {data : List UInt8}
    (h : a.buffer = some data) :
  a.bytes.length = a.getSerializedSize
  := by
  have hle := a.length_le data h
  simp [bytes, h, getSerializedSize, hle]

end SerialBufferAdapter

/-! ### Blocks without a length -/

namespace SerialBufferAdapter

/-- The adapter of a block of bytes, or of a null pointer.  The length is cut to one byte. -/
def setConstBuffer (buf : Option (List UInt8)) : SerialBufferAdapter where
  buffer := buf
  bufferLength := UInt8.ofNat (buf.getD []).length
  length_le := by
    rintro data ⟨⟩
    rw [UInt8.toNat_ofNat']
    apply Nat.mod_le

/-- Write the block only, without its length. -/
def serializeBuffer (a : SerialBufferAdapter) : Serializer :=
  fun maxSize _ b =>
    if maxSize < b.size + a.bufferLength.toNat then
      (SerializeIF.bufferTooShort, b)
    else
      match a.buffer with
      | some data => (.ok, b.put (data.take a.bufferLength.toNat))
      | none => (.failed, b)

end SerialBufferAdapter

/-- An object that can be serialized, as the interface describes it: with room for its announced
size, it writes that many bytes. -/
structure Serializable where
  serialize : Serializer
  getSerializedSize : ℕ
  bytes : Endianness → List UInt8
  length_bytes : ∀ e, (bytes e).length = getSerializedSize
  serialize_eq : ∀ {maxSize : ℕ} (e : Endianness) {b : SerialBuffer},
    b.size + getSerializedSize ≤ maxSize → serialize maxSize e b = (.ok, b.put (bytes e))
