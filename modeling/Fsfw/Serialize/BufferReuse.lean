import Fsfw.Library.Run
import Fsfw.Serialize.SerialBuffer

/-!
# Reusing the adapter of a buffer

An adapter of a buffer holds a pointer and one length.  The length is the capacity of the buffer at
first, and the length of the bytes in the buffer after a block with a length field has been read:
the next block may not be longer than that.  The length is also changed when the bytes behind a
length field are missing.

Along a run of `deSerialize` calls, the calls do what the capacity allows exactly when no block that
is within the capacity is longer than the one before it, and no incomplete block announces less than
the adapter holds (`SerialBufferAdapterOf.along_reuses_iff`).
-/

/-- The types of a length field. -/
inductive CountType where
  | uint8
  | uint16
  | uint32
  | uint64
  deriving DecidableEq, Repr

/-- The number of bytes of a length field. -/
def CountType.size : CountType → ℕ
  | uint8 => 1
  | uint16 => 2
  | uint32 => 4
  | uint64 => 8

theorem CountType.size_pos (count : CountType) :
  0 < count.size
  := by
  cases count <;> decide

/-- An adapter whose length has the type `count`.  `constBuffer` is the block its pointer points to,
and it is missing when the pointer is null.  The block may be written to when `writable` says so;
otherwise the pointer for writing is null. -/
structure SerialBufferAdapterOf (count : CountType) where
  serializeLength : Bool
  constBuffer : Option (List UInt8)
  writable : Bool
  bufferLength : ℕ
  length_le : ∀ data ∈ constBuffer, bufferLength ≤ data.length

/-- Memory that is handed to an adapter, with the number of bytes the adapter may use. -/
structure WritableBuffer (count : CountType) where
  data : List UInt8
  capacity : ℕ
  capacity_le : capacity ≤ data.length
  capacity_lt : capacity < 2 ^ (8 * count.size)

namespace SerialBufferAdapterOf

open Serializer

variable {count : CountType}

/-- The constructor for memory that is not constant. -/
def new (buffer : WritableBuffer count) (serializeLength : Bool) : SerialBufferAdapterOf count where
  serializeLength
  constBuffer := some buffer.data
  writable := true
  bufferLength := buffer.capacity
  length_le := by
    rintro _ ⟨⟩
    exact buffer.capacity_le

/-- The block that may be written to. -/
def buffer (a : SerialBufferAdapterOf count) : Option (List UInt8) :=
  if a.writable then a.constBuffer else none

/-- Write the length field, when there is one. -/
def serializeLengthField (a : SerialBufferAdapterOf count) : Serializer :=
  fun maxSize e b =>
    if a.serializeLength then SerializeAdapter.serialize count.size a.bufferLength maxSize e b
    else (.ok, b)

-- Both pointers of an adapter point to one block, so that it is missing when the first one is null.
def serializeBlock (a : SerialBufferAdapterOf count) : Serializer :=
  fun maxSize _ b =>
    if maxSize < b.size + a.bufferLength then
      (SerializeIF.bufferTooShort, b)
    else
      match a.constBuffer with
      | some data => (.ok, b.put (data.take a.bufferLength))
      | none => (.failed, b)

def serialize (a : SerialBufferAdapterOf count) : Serializer :=
  fun maxSize e b =>
    andThen (a.serializeLengthField maxSize e b) fun b₁ => a.serializeBlock maxSize e b₁

def getSerializedSize (a : SerialBufferAdapterOf count) : ℕ :=
  if a.serializeLength then a.bufferLength + count.size else a.bufferLength

/-- The adapter with a smaller length. -/
def setLength (a : SerialBufferAdapterOf count) (n : ℕ) (h : n ≤ a.bufferLength) :
    SerialBufferAdapterOf count where
  serializeLength := a.serializeLength
  constBuffer := a.constBuffer
  writable := a.writable
  bufferLength := n
  length_le := fun data hdata => h.trans (a.length_le data hdata)

/-- The adapter with other bytes at the front of its block. -/
def fill (a : SerialBufferAdapterOf count) (bytes : List UInt8) : SerialBufferAdapterOf count where
  serializeLength := a.serializeLength
  constBuffer := a.constBuffer.map fun data => bytes ++ data.drop bytes.length
  writable := a.writable
  bufferLength := a.bufferLength
  length_le := by
    intro data hdata
    obtain ⟨old, hold, rfl⟩ := Option.mem_map.mp hdata
    have hle := a.length_le old hold
    rw [List.length_append, List.length_drop]
    omega

/-- Copy as many bytes as the adapter holds. -/
def readBlock (a : SerialBufferAdapterOf count) (stream : List UInt8) :
    ReturnValue × SerialBufferAdapterOf count × List UInt8 :=
  if a.bufferLength ≤ stream.length then
    (.ok, a.fill (stream.take a.bufferLength), stream.drop a.bufferLength)
  else
    (SerializeIF.streamTooShort, a, stream)

def deSerialize : Deserializer (SerialBufferAdapterOf count) :=
  fun e a stream =>
    if a.buffer.isNone then
      (.failed, a, stream)
    else if a.serializeLength then
      match SerializeAdapter.deSerializeNumber count.size e 0 stream with
      | (.ok, lengthField, stream) =>
          if h : lengthField ≤ a.bufferLength then
            (a.setLength lengthField h).readBlock stream
          else
            (SerializeIF.tooManyElements, a, stream)
      | (error, _, stream) => (error, a, stream)
    else
      a.readBlock stream

/-- The bytes in the buffer. -/
def contents (a : SerialBufferAdapterOf count) : List UInt8 :=
  (a.constBuffer.getD []).take a.bufferLength

/-! ### Adapters with a length field of one byte -/

/-- An adapter with a length field of one byte. -/
def ofAdapter (a : SerialBufferAdapter) : SerialBufferAdapterOf .uint8 where
  serializeLength := true
  constBuffer := a.buffer
  writable := false
  bufferLength := a.bufferLength.toNat
  length_le := a.length_le

theorem serialize_ofAdapter (a : SerialBufferAdapter) :
  (ofAdapter a).serialize = a.serialize
  := rfl

theorem serializeBlock_ofAdapter (a : SerialBufferAdapter) :
  (ofAdapter a).serializeBlock = a.serializeBuffer
  := rfl

theorem getSerializedSize_ofAdapter (a : SerialBufferAdapter) :
  (ofAdapter a).getSerializedSize = a.getSerializedSize
  := rfl

/-! ### Calls of `deSerialize` -/

/-- A call of `deSerialize`: the byte order, and the bytes of the stream. -/
structure Call where
  streamEndianness : Endianness
  stream : List UInt8

/-- Calls of an adapter, which return the result and the bytes left of the stream. -/
def step : Step (SerialBufferAdapterOf count) Call (ReturnValue × List UInt8) :=
  fun a call =>
    let (result, a', rest) := a.deSerialize call.streamEndianness call.stream
    some (a', result, rest)

/-- The length of the block that comes in, and the bytes behind the length field.  Without a length
field it is the capacity.  There is none when the length field is incomplete. -/
def incoming (count : CountType) (serializeLength : Bool) (capacity : ℕ) (call : Call) :
    Option (ℕ × List UInt8) :=
  if serializeLength then
    match SerializeAdapter.deSerializeNumber count.size call.streamEndianness 0 call.stream with
    | (.ok, lengthField, rest) => some (lengthField, rest)
    | _ => none
  else
    some (capacity, call.stream)

/-- The call succeeds when the block is complete and no longer than the capacity.  Then the buffer
holds the block, and it is serialized again.  Otherwise the adapter holds what it held before. -/
structure Reuses (capacity : ℕ) (a : SerialBufferAdapterOf count) (call : Call) : Prop where
  ok_iff : ∀ a' result rest, step a call = some (a', result, rest) →
    (result = .ok ↔ ∃ x ∈ incoming count a.serializeLength capacity call,
      x.1 ≤ capacity ∧ x.1 ≤ x.2.length)
  holds : ∀ a' rest, step a call = some (a', .ok, rest) →
    ∀ x ∈ incoming count a.serializeLength capacity call,
      a'.contents = x.2.take x.1 ∧ a'.bufferLength = x.1 ∧ rest = x.2.drop x.1
  serialized : ∀ a' rest, step a call = some (a', .ok, rest) →
    ∀ x ∈ incoming count a.serializeLength capacity call,
      WritesGivenRoom a'.serialize fun e =>
        (if a.serializeLength then SerializeAdapter.bytesOf count.size x.1 e else [])
          ++ x.2.take x.1
  unchanged : ∀ a' result rest, step a call = some (a', result, rest) → result ≠ .ok →
    a'.contents = a.contents ∧ a'.bufferLength = a.bufferLength

/-- A complete block is no longer than what the adapter holds, or longer than the capacity, and an
incomplete one is not shorter than what the adapter holds. -/
def FitsCurrentLength (capacity : ℕ) (a : SerialBufferAdapterOf count) (call : Call) : Prop :=
  ∀ x ∈ incoming count a.serializeLength capacity call,
    if x.1 ≤ x.2.length then x.1 ≤ a.bufferLength ∨ capacity < x.1 else a.bufferLength ≤ x.1

/-! ### What is written -/

theorem length_contents {a : SerialBufferAdapterOf count} {data : List UInt8}
    (h : a.constBuffer = some data) :
  a.contents.length = a.bufferLength
  := by
  rw [contents, h, Option.getD_some, List.length_take, Nat.min_eq_left (a.length_le data h)]

/-- The length field, if there is one, and the bytes in the buffer are written. -/
theorem writesGivenRoom_serialize {a : SerialBufferAdapterOf count} {data : List UInt8}
    (h : a.constBuffer = some data) :
  WritesGivenRoom a.serialize fun e =>
    (if a.serializeLength then SerializeAdapter.bytesOf count.size a.bufferLength e else [])
      ++ a.contents
  := by
  apply WritesGivenRoom.andThen
  · intro e maxSize b hroom
    rw [serializeLengthField]
    cases hlength : a.serializeLength with
    | true =>
        simp only [hlength, if_true] at hroom ⊢
        apply SerializeAdapter.writesGivenRoom_serialize count.size_pos _ e hroom
    | false => simp
  · intro e maxSize b hroom
    rw [length_contents h] at hroom
    rw [serializeBlock, if_neg (Nat.not_lt.mpr hroom), h, contents, h, Option.getD_some]

/-! ### One call -/

/-- An adapter of a buffer of this capacity.  Without a length field its length is the capacity. -/
structure Ready (capacity : ℕ) (a : SerialBufferAdapterOf count) : Prop where
  writable : a.writable = true
  some_block : ∃ data, a.constBuffer = some data
  length_le : a.bufferLength ≤ capacity
  length_eq : a.serializeLength = false → a.bufferLength = capacity

section

variable {capacity n : ℕ} {a : SerialBufferAdapterOf count} {call : Call} {stream : List UInt8}

theorem ready_new (buffer : WritableBuffer count) (serializeLength : Bool) :
  Ready buffer.capacity (new buffer serializeLength)
  := ⟨rfl, ⟨_, rfl⟩, le_rfl, fun _ => rfl⟩

/-- A call in terms of the block that comes in. -/
theorem step_eq (h : Ready capacity a) (call : Call) :
  step a call = some
    (match incoming count a.serializeLength capacity call with
      | some (n, rest) =>
          if hn : n ≤ a.bufferLength then
            let (result, a', rest) := (a.setLength n hn).readBlock rest
            (a', result, rest)
          else
            (a, SerializeIF.tooManyElements, rest)
      | none => (a, SerializeIF.streamTooShort, call.stream))
  := by
  obtain ⟨data, hdata⟩ := h.some_block
  have hbuffer : a.buffer.isNone = false := by
    rw [buffer, h.writable, if_pos rfl, hdata]
    rfl
  rw [step, deSerialize, incoming, hbuffer]
  cases hlength : a.serializeLength with
  | true =>
      simp only [Bool.false_eq_true, if_false, if_true, SerializeAdapter.deSerializeNumber]
      by_cases hfield : count.size ≤ call.stream.length
      · cases call.streamEndianness with
        | big =>
            simp only [if_pos hfield]
            split <;> rfl
        | little =>
            simp only [if_pos hfield]
            split <;> rfl
      · simp only [if_neg hfield]
  | false =>
      have heq := h.length_eq hlength
      simp only [Bool.false_eq_true, if_false, ← heq, le_refl, dif_pos]
      rfl

/-- What a call does with a complete block that is not too long. -/
theorem contents_fill (h : Ready capacity a) (hn : n ≤ a.bufferLength) (hlen : n ≤ stream.length) :
  ((a.setLength n hn).fill (stream.take n)).contents = stream.take n
  := by
  obtain ⟨data, hdata⟩ := h.some_block
  have htake : (stream.take n).length = n := by rw [List.length_take, Nat.min_eq_left hlen]
  rw [contents, fill]
  simp only [setLength, hdata, Option.map_some, Option.getD_some]
  rw [List.take_append_of_le_length htake.ge, List.take_take, Nat.min_self]

/-- A call that fails does what the capacity allows exactly when it should fail and the adapter
holds what it held before. -/
theorem reuses_of_fails {a' : SerialBufferAdapterOf count} {result : ReturnValue}
    {rest : List UInt8} (hstep : step a call = some (a', result, rest)) (hresult : result ≠ .ok) :
  Reuses capacity a call
    ↔ (∀ x ∈ incoming count a.serializeLength capacity call, x.1 ≤ capacity → x.2.length < x.1)
      ∧ a'.contents = a.contents ∧ a'.bufferLength = a.bufferLength
  := by
  constructor
  · intro h
    constructor
    · intro x hx hcapacity
      apply Nat.lt_of_not_le
      intro hlen
      apply hresult ((h.ok_iff a' result rest hstep).mpr ⟨x, hx, hcapacity, hlen⟩)
    · apply h.unchanged a' result rest hstep hresult
  · rintro ⟨hfails, hunchanged⟩
    constructor
    · intro _ _ _ h
      cases hstep.symm.trans h
      constructor
      · intro hok
        cases hresult hok
      · rintro ⟨x, hx, hcapacity, hlen⟩
        cases Nat.not_lt.mpr hlen (hfails x hx hcapacity)
    · intro _ _ h
      cases hstep.symm.trans h
      cases hresult rfl
    · intro _ _ h
      cases hstep.symm.trans h
      cases hresult rfl
    · intro _ _ _ h _
      cases hstep.symm.trans h
      exact hunchanged

/-- A complete block that is not too long is read. -/
theorem reuses_of_reads (h : Ready capacity a) (hn : n ≤ a.bufferLength) (hlen : n ≤ stream.length)
    (hincoming : incoming count a.serializeLength capacity call = some (n, stream)) :
  Reuses capacity a call
  := by
  obtain ⟨data, hdata⟩ := h.some_block
  have hcontents := contents_fill h hn hlen
  have hstep : step a call
      = some ((a.setLength n hn).fill (stream.take n), .ok, stream.drop n) := by
    have hread : n ≤ stream.length ↔ (a.setLength n hn).bufferLength ≤ stream.length := Iff.rfl
    rw [step_eq h, hincoming]
    simp only [dif_pos hn, readBlock, if_pos (hread.mp hlen)]
    rfl
  constructor
  · intro _ _ _ h'
    cases hstep.symm.trans h'
    simp only [true_iff]
    use (n, stream), hincoming, hn.trans h.length_le, hlen
  · intro _ _ h' x hx
    cases hstep.symm.trans h'
    cases Option.mem_unique hx hincoming
    use hcontents, rfl
  · intro _ _ h' x hx
    cases hstep.symm.trans h'
    cases Option.mem_unique hx hincoming
    have hblock : ((a.setLength n hn).fill (stream.take n)).constBuffer
        = some (stream.take n ++ data.drop (stream.take n).length) := by
      simp only [fill, setLength, hdata, Option.map_some]
    have hwrites := writesGivenRoom_serialize hblock
    rw [hcontents] at hwrites
    exact hwrites
  · intro _ _ _ h' hne
    cases hstep.symm.trans h'
    cases hne rfl

/-- The calls that do what the capacity allows are those that fit the current length. -/
theorem reuses_iff (h : Ready capacity a) (call : Call) :
  Reuses capacity a call ↔ FitsCurrentLength capacity a call
  := by
  have hstep := step_eq h call
  obtain ⟨data, hdata⟩ := h.some_block
  cases hincoming : incoming count a.serializeLength capacity call with
  | none =>
      rw [hincoming] at hstep
      rw [reuses_of_fails hstep (by decide), FitsCurrentLength, hincoming]
      simp
  | some x =>
      obtain ⟨n, stream⟩ := x
      rw [FitsCurrentLength, hincoming]
      simp only [Option.mem_some_iff, forall_eq']
      by_cases hn : n ≤ a.bufferLength
      · by_cases hlen : n ≤ stream.length
        · rw [if_pos hlen]
          constructor
          · intro _
            exact Or.inl hn
          · intro _
            apply reuses_of_reads h hn hlen hincoming
        · -- The length is changed although the block is incomplete.
          have hread : ¬ (a.setLength n hn).bufferLength ≤ stream.length := hlen
          simp only [hincoming, dif_pos hn, readBlock, if_neg hread] at hstep
          rw [reuses_of_fails hstep (by decide), if_neg hlen, hincoming]
          constructor
          · rintro ⟨-, -, hlength⟩
            exact hlength.ge
          · intro hle
            obtain rfl : n = a.bufferLength := le_antisymm hn hle
            constructor
            · rintro _ ⟨⟩ _
              exact Nat.lt_of_not_le hlen
            · exact ⟨rfl, rfl⟩
      · simp only [hincoming, dif_neg hn] at hstep
        rw [reuses_of_fails hstep (by decide), hincoming]
        simp only [Option.mem_some_iff, forall_eq', and_self, and_true]
        split
        · omega
        · omega

/-- A call leaves an adapter of the same buffer, with or without a length field as before. -/
theorem Ready.step {a' : SerialBufferAdapterOf count} {o : ReturnValue × List UInt8}
    (h : Ready capacity a) (hstep : step a call = some (a', o)) :
  Ready capacity a' ∧ a'.serializeLength = a.serializeLength
  := by
  obtain ⟨data, hdata⟩ := h.some_block
  rw [step_eq h] at hstep
  cases hincoming : incoming count a.serializeLength capacity call with
  | none =>
      rw [hincoming] at hstep
      cases hstep
      exact ⟨h, rfl⟩
  | some x =>
      obtain ⟨n, stream⟩ := x
      by_cases hn : n ≤ a.bufferLength
      · have hlength : a.serializeLength = false → n = capacity := by
          intro hfalse
          rw [incoming, hfalse] at hincoming
          cases hincoming
          rfl
        by_cases hlen : (a.setLength n hn).bufferLength ≤ stream.length
        · simp only [hincoming, dif_pos hn, readBlock, if_pos hlen] at hstep
          cases hstep
          exact ⟨⟨h.writable, by simp [fill, setLength, hdata], hn.trans h.length_le, hlength⟩, rfl⟩
        · simp only [hincoming, dif_pos hn, readBlock, if_neg hlen] at hstep
          cases hstep
          exact ⟨⟨h.writable, ⟨data, hdata⟩, hn.trans h.length_le, hlength⟩, rfl⟩
      · simp only [hincoming, dif_neg hn] at hstep
        cases hstep
        exact ⟨h, rfl⟩

end

/-! ### Runs -/

/-- Along a run the calls do what the capacity allows exactly when they all fit the length that is
current when they are made. -/
theorem along_reuses_iff (buffer : WritableBuffer count) (serializeLength : Bool)
    (calls : List Call) :
  Step.Along step (Reuses buffer.capacity) (new buffer serializeLength) calls
    ↔ Step.Along step (FitsCurrentLength buffer.capacity) (new buffer serializeLength) calls
  := by
  apply Step.along_congr (I := Ready buffer.capacity)
  · intro a call h
    apply reuses_iff h
  · intro a call a' o h _ hstep
    apply (h.step hstep).1
  · apply ready_new

/-- Without a length field all calls fit. -/
theorem along_fits_of_not_serializeLength {capacity : ℕ} {a : SerialBufferAdapterOf count}
    (h : Ready capacity a) (hlength : a.serializeLength = false) (calls : List Call) :
  Step.Along step (FitsCurrentLength capacity) a calls
  := by
  apply Step.along_of_invariant (I := fun a => Ready capacity a ∧ a.serializeLength = false) _ _
    ⟨h, hlength⟩
  · rintro a call ⟨h, hlength⟩
    have hincoming : incoming count a.serializeLength capacity call
        = some (capacity, call.stream) := by
      rw [incoming, hlength]
      rfl
    rintro x hx
    cases Option.mem_unique hx hincoming
    rw [h.length_eq hlength]
    split
    · exact Or.inl le_rfl
    · exact le_rfl
  · rintro a call a' o ⟨h, hlength⟩ hstep
    obtain ⟨h', hsame⟩ := h.step hstep
    use h', hsame.trans hlength

theorem not_along_reuses :
  ¬ ∀ (count : CountType) (buffer : WritableBuffer count) (serializeLength : Bool)
    (calls : List Call),
    Step.Along step (Reuses buffer.capacity) (new buffer serializeLength) calls
  := by
  intro h
  have hsecond := (h .uint8 ⟨[0, 0, 0, 0], 4, by decide, by decide⟩ true
    [⟨.big, [1, 7]⟩, ⟨.big, [2, 7, 7]⟩]).2 _ _ rfl
  have hok := (hsecond.1.ok_iff _ _ _ rfl).mpr ⟨(2, [7, 7]), rfl, by decide, by decide⟩
  revert hok
  decide

end SerialBufferAdapterOf
