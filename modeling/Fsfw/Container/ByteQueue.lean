import Fsfw.Container.SimpleRingBuffer

/-!
# The ring buffer as a bounded queue

`ByteQueue` is a first-in first-out queue of bytes that holds fewer than `size` bytes and
remembers where in a ring of `size` bytes its next byte goes.  `Represents r q` says that the
ring buffer `r` holds the queue `q`: the unread bytes, from the read pointer up to the write
pointer, are those of `q`.

Every operation of a ring buffer that does not overwrite acts on the queue it represents, so
a sequence of operations has on the two the same results (`run_refines_queue`).  This is so when
the block of memory is as long as the constructor means it to be, which fails only when the
size asked for does not fit into `size_t` (`refinesQueue_iff`).
-/

open Memory Circular

/-- A queue of fewer than `size` bytes, whose next byte goes to `position` in a ring of
`size` bytes. At most `maxExcess` bytes of a reservation may lie beyond the end of the
ring. -/
structure ByteQueue where
  size : ℕ
  maxExcess : ℕ
  position : ℕ
  content : List UInt8
  bounded : content.length < size

namespace ByteQueue

/-- The empty queue. -/
def new (size maxExcess : ℕ) (h : 0 < size) : ByteQueue where
  size := size
  maxExcess := maxExcess
  position := 0
  content := []
  bounded := h

/-- The bytes `data` fit into the queue. -/
def Fits (q : ByteQueue) (data : List UInt8) : Prop :=
  q.content.length + data.length < q.size

instance (q : ByteQueue) (data : List UInt8) : Decidable (q.Fits data) :=
  inferInstanceAs (Decidable (_ < _))

/-- The queue with `data` appended. -/
def append (q : ByteQueue) (data : List UInt8) (h : q.Fits data) : ByteQueue where
  size := q.size
  maxExcess := q.maxExcess
  position := index q.size q.position data.length
  content := q.content ++ data
  bounded := by
    rw [List.length_append]
    apply h

/-- The queue without its `n` oldest bytes. -/
def drop (q : ByteQueue) (n : ℕ) : ByteQueue where
  size := q.size
  maxExcess := q.maxExcess
  position := q.position
  content := q.content.drop n
  bounded := by
    have h := q.bounded
    rw [List.length_drop]
    omega

/-- The queue with no bytes, whose next byte goes to the start of the ring. -/
def clear (q : ByteQueue) : ByteQueue where
  size := q.size
  maxExcess := q.maxExcess
  position := 0
  content := []
  bounded := Nat.zero_lt_of_lt q.bounded

end ByteQueue

namespace SimpleRingBuffer

/-- The ring buffer `r` holds the queue `q`. -/
structure Represents (r : SimpleRingBuffer) (q : ByteQueue) : Prop where
  start_eq : r.start = 0
  size_eq : r.size = q.size
  read_lt : r.read < r.size
  write_eq : r.write = index r.size r.read q.content.length
  contents_eq : contents r.buffer r.size r.read q.content.length = q.content
  position_eq : q.position = r.write
  maxExcess_eq : r.maxExcessBytes = q.maxExcess
  excess_eq : r.excessBytes = 0
  block : r.size = 1 ∨ r.size + r.maxExcessBytes ≤ r.bufferLen

namespace Represents

variable {r : SimpleRingBuffer} {q : ByteQueue}

theorem length_lt (h : Represents r q) :
  q.content.length < r.size
  := by
  rw [h.size_eq]
  apply q.bounded

theorem write_lt (h : Represents r q) :
  r.write < r.size
  := by
  rw [h.write_eq]
  apply index_lt h.read_lt (Nat.le_of_lt h.length_lt)

theorem getAvailableReadData_eq (h : Represents r q) :
  r.getAvailableReadData = q.content.length
  := by
  rw [RingBufferBase.getAvailableReadData, h.write_eq]
  apply sub_mod_index h.read_lt h.length_lt

theorem availableWriteSpace_eq (h : Represents r q) :
  r.availableWriteSpace = q.size - 1 - q.content.length
  := by
  rw [RingBufferBase.availableWriteSpace, h.write_eq, sub_index_mod h.read_lt h.length_lt,
    h.size_eq]

theorem writeTillWrap_eq (h : Represents r q) :
  r.writeTillWrap = r.size - r.write
  := by
  rw [RingBufferBase.writeTillWrap, h.start_eq, Nat.zero_add]

theorem readTillWrap_eq (h : Represents r q) :
  r.readTillWrap = r.size - r.read
  := by
  rw [RingBufferBase.readTillWrap, h.start_eq, Nat.zero_add]

theorem length_add_lt (h : Represents r q) {data : List UInt8} (hfits : q.Fits data) :
  q.content.length + data.length < r.size
  := by
  rw [h.size_eq]
  apply hfits

/-- Fewer than `size` bytes, from a position in the ring to at most `maxExcessBytes` beyond
its end, lie in the block. -/
theorem in_block
    (h : Represents r q) {p n : ℕ} (hp : p < r.size) (hn : n < r.size)
    (hpn : p + n ≤ r.size + r.maxExcessBytes) :
  p + n ≤ r.bufferLen
  := by
  rcases h.block with h' | h'
  · omega
  · omega

/-- Moving the write pointer over cells that hold `data` appends `data` to the queue. -/
theorem append_of_contents
    (h : Represents r q) {data : List UInt8} (hfits : q.Fits data)
    (h32 : data.length < 2 ^ 32) {m : ℕ → UInt8}
    (hm : contents m r.size r.read (q.content.length + data.length) = q.content ++ data)
    {excess : ℕ} (hexcess : excess = 0) :
  Represents (incrementWrite { r with buffer := m, excessBytes := excess } data.length)
    (q.append data hfits)
  := by
  have hlen := h.length_add_lt hfits
  have hwrite : (r.write + data.length % 2 ^ 32 - r.start) % r.size + r.start
      = index r.size r.read (q.content.length + data.length) := by
    rw [Nat.mod_eq_of_lt h32, h.start_eq, Nat.sub_zero, Nat.add_zero,
      mod_eq_index h.write_lt (by omega), h.write_eq, index_index h.read_lt (by omega)]
  constructor
  · apply h.start_eq
  · apply h.size_eq
  · apply h.read_lt
  · simp only [incrementWrite, ByteQueue.append, List.length_append]
    apply hwrite
  · simp only [incrementWrite, ByteQueue.append, List.length_append]
    apply hm
  · simp only [incrementWrite, ByteQueue.append]
    rw [hwrite, h.position_eq, ← h.size_eq, h.write_eq, index_index h.read_lt (by omega)]
  · apply h.maxExcess_eq
  · apply hexcess
  · apply h.block

/-- Moving the write pointer after `data` has been stored in the ring appends `data` to the
queue. -/
theorem append
    (h : Represents r q) {data : List UInt8} (hfits : q.Fits data)
    (h32 : data.length < 2 ^ 32) {m : ℕ → UInt8}
    (hm : ∀ i, i < r.size → m i = store r.buffer r.size r.write data i)
    {excess : ℕ} (hexcess : excess = 0) :
  Represents (incrementWrite { r with buffer := m, excessBytes := excess } data.length)
    (q.append data hfits)
  := by
  have hlen := h.length_add_lt hfits
  have hstore : contents m r.size r.read (q.content.length + data.length) =
      contents (store r.buffer r.size r.write data) r.size r.read
        (q.content.length + data.length) := by
    apply contents_congr
    intro k hk
    apply hm
    apply index_lt h.read_lt
    omega
  apply h.append_of_contents hfits h32 _ hexcess
  rw [hstore, h.write_eq, contents_store _ h.read_lt h.length_lt (by omega), h.contents_eq]

/-- Moving the read pointer by `n` bytes takes the `n` oldest bytes from the queue. -/
theorem drop
    (h : Represents r q) {n : ℕ} (hn : n ≤ q.content.length) (h32 : n < 2 ^ 32) :
  Represents (r.incrementRead n) (q.drop n)
  := by
  have hlen := h.length_lt
  have hread : (r.read + n % 2 ^ 32 - r.start) % r.size + r.start
      = index r.size r.read n := by
    rw [Nat.mod_eq_of_lt h32, h.start_eq, Nat.sub_zero, Nat.add_zero,
      mod_eq_index h.read_lt (by omega)]
  constructor
  · apply h.start_eq
  · apply h.size_eq
  · simp only [incrementRead, hread]
    apply index_lt h.read_lt
    omega
  · simp only [incrementRead, ByteQueue.drop, List.length_drop, hread]
    rw [index_index h.read_lt (by omega), h.write_eq]
    congr 1
    omega
  · simp only [incrementRead, ByteQueue.drop, List.length_drop, hread]
    rw [← drop_contents _ h.read_lt hn (by omega), h.contents_eq]
  · apply h.position_eq
  · apply h.maxExcess_eq
  · apply h.excess_eq
  · apply h.block

end Represents

/-! ### The operations on the queue represented -/

section Operations

variable {r : SimpleRingBuffer} {q : ByteQueue}

theorem copyIn_eq {p : ℕ} {xs : List UInt8} (h : p + xs.length ≤ r.bufferLen) :
  r.copyIn p xs = some { r with buffer := overwrite r.buffer p xs }
  := by
  rw [copyIn, if_pos h]

theorem copyOut_eq {p n : ℕ} (h : p + n ≤ r.bufferLen) :
  r.copyOut p n = some (slice r.buffer p n)
  := by
  rw [copyOut, if_pos h]

/-- Data that does not reach the end of the ring is copied to the write pointer. -/
theorem writeData_eq_some
    {data : List UInt8} (hmax : data.length ≤ r.getMaxSize)
    (hspace : data.length ≤ r.availableWriteSpace) (hwrap : data.length ≤ r.writeTillWrap)
    (hblock : r.write + data.length ≤ r.bufferLen) :
  r.writeData (some data) = some (.ok,
    incrementWrite { r with buffer := overwrite r.buffer r.write data } data.length)
  := by
  simp only [writeData, copyIn]
  rw [if_neg (Nat.not_lt.mpr hmax), if_pos (Or.inl hspace), if_pos hwrap, if_pos hblock]

/-- Writing at the write pointer is undefined when it leaves the block. -/
theorem writeData_eq_none
    {data : List UInt8} (hmax : data.length ≤ r.getMaxSize)
    (hspace : data.length ≤ r.availableWriteSpace) (hwrap : data.length ≤ r.writeTillWrap)
    (hblock : r.bufferLen < r.write + data.length) :
  r.writeData (some data) = none
  := by
  simp only [writeData, copyIn]
  rw [if_neg (Nat.not_lt.mpr hmax), if_pos (Or.inl hspace), if_pos hwrap,
    if_neg (Nat.not_le.mpr hblock)]

/-- Data that fits is stored in the ring, and the write pointer is moved. -/
theorem writeData_store
    (h : Represents r q) {data : List UInt8} (hfits : q.Fits data) :
  ∃ m, r.writeData (some data)
      = some (.ok, incrementWrite { r with buffer := m } data.length)
    ∧ ∀ i, i < r.size → m i = store r.buffer r.size r.write data i
  := by
  have hlen := h.length_add_lt hfits
  have hwrite := h.write_lt
  have hsize := h.size_eq
  have hmax : data.length ≤ r.getMaxSize := by
    simp only [RingBufferBase.getMaxSize]
    omega
  have hspace : data.length ≤ r.availableWriteSpace := by
    rw [h.availableWriteSpace_eq]
    omega
  by_cases hwrap : data.length ≤ r.size - r.write
  · refine ⟨_, writeData_eq_some hmax hspace (h.writeTillWrap_eq ▸ hwrap)
      (h.in_block hwrite (by omega) (by omega)), ?_⟩
    intro i _
    rw [store, if_pos (by omega)]
  · have htake := List.length_take (i := r.size - r.write) (l := data)
    have hdrop := List.length_drop (i := r.size - r.write) (l := data)
    have hblock : 0 + (data.drop (r.size - r.write)).length ≤ r.bufferLen := by
      apply h.in_block
      · omega
      · omega
      · omega
    simp only [writeData, h.writeTillWrap_eq]
    rw [if_neg (Nat.not_lt.mpr hmax), if_pos (Or.inl hspace), if_neg hwrap,
      copyIn_eq (h.in_block hwrite (by omega) (by omega))]
    simp only [copyIn, if_pos hblock]
    refine ⟨_, rfl, ?_⟩
    intro i _
    rw [store, if_neg (by omega)]

/-- Data that fits is written, and appended to the queue. -/
theorem writeData_of_fits
    (h : Represents r q) {data : List UInt8} (hfits : q.Fits data)
    (h32 : data.length < 2 ^ 32) :
  ∃ r', r.writeData (some data) = some (.ok, r') ∧ r'.overwriteOld = r.overwriteOld
    ∧ Represents r' (q.append data hfits)
  := by
  obtain ⟨m, hwrite, hm⟩ := writeData_store h hfits
  refine ⟨_, hwrite, rfl, ?_⟩
  apply h.append hfits h32 hm h.excess_eq

/-- The write pointer is moved by a number of 32 bits, so it stays where it is when `2 ^ 32`
bytes are written. -/
theorem writeData_of_wrap
    (h : Represents r q) {data : List UInt8} (hfits : q.Fits data)
    (hlen : data.length = 2 ^ 32) :
  ∃ r', r.writeData (some data) = some (.ok, r')
    ∧ r'.getAvailableReadData = r.getAvailableReadData
  := by
  obtain ⟨m, hwrite, -⟩ := writeData_store h hfits
  refine ⟨_, hwrite, ?_⟩
  simp only [RingBufferBase.getAvailableReadData, incrementWrite, hlen, Nat.mod_self,
    Nat.add_zero, h.start_eq, Nat.sub_zero, Nat.mod_eq_of_lt h.write_lt]

/-- Data that does not fit is refused, unless old data may be overwritten. -/
theorem writeData_of_not_fits
    (h : Represents r q) (hover : r.overwriteOld = false) {data : List UInt8}
    (hfits : ¬ q.Fits data) :
  r.writeData (some data) = some (.failed, r)
  := by
  have hlen : ¬ q.content.length + data.length < r.size := by
    rw [h.size_eq]
    apply hfits
  have hsize := h.size_eq
  have hpos := h.length_lt
  have hspace : ¬ (r.availableWriteSpace ≥ data.length ∨ r.overwriteOld = true) := by
    rw [h.availableWriteSpace_eq, hover]
    simp only [Bool.false_eq_true, or_false]
    omega
  by_cases hmax : data.length > r.getMaxSize
  · simp only [writeData, if_pos hmax]
  · simp only [writeData, if_neg hmax, if_neg hspace]

/-- Bytes that are in the queue are copied in order, oldest first. -/
theorem copyUnread_eq
    (h : Represents r q) {n : ℕ} (hn : n ≤ q.content.length) :
  r.copyUnread n = some (q.content.take n)
  := by
  have hlen := h.length_lt
  have hread := h.read_lt
  have hcontent : q.content.take n = contents r.buffer r.size r.read n := by
    rw [← take_contents _ h.read_lt hn (Nat.le_of_lt hlen), h.contents_eq]
  rw [hcontent, copyUnread, h.readTillWrap_eq]
  by_cases hwrap : r.size - r.read ≥ n
  · rw [if_pos hwrap, copyOut_eq (h.in_block hread (by omega) (by omega)),
      contents_eq_slice _ (by omega)]
  · have hpos : 0 < r.size := by omega
    rw [if_neg hwrap, copyOut_eq (h.in_block hread (by omega) (by omega))]
    simp only
    rw [copyOut_eq (h.in_block hpos (by omega) (by omega)),
      contents_eq_append _ hread (by omega) (by omega)]

theorem deleteData_of_le
    (h : Represents r q) {n : ℕ} (hn : n ≤ q.content.length) (deleteRemaining : Bool) :
  r.deleteData n deleteRemaining = (.ok, some n, r.incrementRead n)
  := by
  simp only [deleteData, h.getAvailableReadData_eq, if_neg (Nat.not_lt.mpr hn)]

theorem deleteData_remaining
    (h : Represents r q) {n : ℕ} (hn : q.content.length < n) :
  r.deleteData n true = (.ok, some q.content.length, r.incrementRead q.content.length)
  := by
  simp only [deleteData, h.getAvailableReadData_eq, if_pos hn, if_true]

theorem deleteData_of_gt
    (h : Represents r q) {n : ℕ} (hn : q.content.length < n) :
  r.deleteData n false = (.failed, none, r)
  := by
  simp [deleteData, h.getAvailableReadData_eq, hn]

theorem readData_of_le
    (h : Represents r q) {n : ℕ} (hn : n ≤ q.content.length)
    (incrementReadPtr readRemaining : Bool) :
  r.readData n incrementReadPtr readRemaining
    = some (.ok, some (q.content.take n), if incrementReadPtr then r.incrementRead n else r)
  := by
  have hnot : ¬ (q.content.length < n ∧ readRemaining = false) := by omega
  simp only [readData, h.getAvailableReadData_eq, if_neg hnot, if_neg (Nat.not_lt.mpr hn),
    copyUnread_eq h hn, deleteData_of_le h hn]
  cases incrementReadPtr <;> rfl

theorem readData_remaining
    (h : Represents r q) {n : ℕ} (hn : q.content.length < n) (incrementReadPtr : Bool) :
  r.readData n incrementReadPtr true
    = some (.ok, some q.content,
        if incrementReadPtr then r.incrementRead q.content.length else r)
  := by
  have hnot : ¬ (q.content.length < n ∧ true = false) := by simp
  simp only [readData, h.getAvailableReadData_eq, if_neg hnot, if_pos hn,
    copyUnread_eq h (Nat.le_refl _), deleteData_of_le h (Nat.le_refl _), List.take_length]
  cases incrementReadPtr <;> rfl

theorem readData_of_gt
    (h : Represents r q) {n : ℕ} (hn : q.content.length < n) (incrementReadPtr : Bool) :
  r.readData n incrementReadPtr false = some (.failed, none, r)
  := by
  simp [readData, h.getAvailableReadData_eq, hn]

/-- A reservation of `n` bytes succeeds when they fit into the queue and the part of them
beyond the end of the ring is not longer than the excess bytes. -/
theorem getFreeElement_of_fits
    (h : Represents r q) {data : List UInt8} (hfits : q.Fits data)
    (hexcess : q.position + data.length ≤ q.size + q.maxExcess) :
  r.getFreeElement data.length
    = (.ok, some r.write, { r with excessBytes := r.write + data.length - r.size })
  := by
  have hlen := h.length_add_lt hfits
  have hsize := h.size_eq
  have hwrite := h.write_lt
  have hposition := h.position_eq
  have hmax := h.maxExcess_eq
  have hspace : r.availableWriteSpace ≥ data.length ∨ r.overwriteOld = true := by
    left
    rw [h.availableWriteSpace_eq]
    omega
  have hzero := h.excess_eq
  simp only [getFreeElement, if_pos hspace, h.writeTillWrap_eq]
  by_cases hwrap : r.size - r.write < data.length
  · have hexcess' : data.length - (r.size - r.write) = r.write + data.length - r.size := by
      omega
    rw [if_pos hwrap, if_neg (by omega), hexcess']
  · have hnone : r.write + data.length - r.size = r.excessBytes := by omega
    rw [if_neg hwrap, hnone]

/-- A reservation that does not fit, or whose part beyond the end of the ring is too long, is
refused, unless old data may be overwritten. -/
theorem getFreeElement_of_not_fits
    (h : Represents r q) (hover : r.overwriteOld = false) {data : List UInt8}
    (hfits : ¬ (q.Fits data ∧ q.position + data.length ≤ q.size + q.maxExcess)) :
  r.getFreeElement data.length = (.failed, none, r)
  := by
  have hsize := h.size_eq
  have hwrite := h.write_lt
  have hposition := h.position_eq
  have hmax := h.maxExcess_eq
  have hzero := h.excess_eq
  have hlen := h.length_lt
  by_cases hfits' : q.Fits data
  · have hexcess : ¬ q.position + data.length ≤ q.size + q.maxExcess := by
      intro hle
      apply hfits ⟨hfits', hle⟩
    have hspace : r.availableWriteSpace ≥ data.length ∨ r.overwriteOld = true := by
      left
      rw [h.availableWriteSpace_eq]
      unfold ByteQueue.Fits at hfits'
      omega
    simp only [getFreeElement, if_pos hspace, h.writeTillWrap_eq]
    rw [if_pos (by omega), if_pos (by omega)]
  · have hspace : ¬ (r.availableWriteSpace ≥ data.length ∨ r.overwriteOld = true) := by
      rw [h.availableWriteSpace_eq, hover]
      unfold ByteQueue.Fits at hfits'
      simp only [Bool.false_eq_true, or_false]
      omega
    simp only [getFreeElement, if_neg hspace]

/-- Confirming bytes copies what lies beyond the end of the ring to its start. -/
theorem confirmBytesWritten_eq
    (h : r.excessBytes = 0 ∨ r.size + r.excessBytes ≤ r.bufferLen) (n : ℕ) :
  r.confirmBytesWritten n = some (incrementWrite { r with
    buffer := overwrite r.buffer 0 (slice r.buffer r.size r.excessBytes)
    excessBytes := 0 } n)
  := by
  by_cases hexcess : r.excessBytes > 0
  · have hback : r.size + r.excessBytes ≤ r.bufferLen := by omega
    have hfront : 0 + (slice r.buffer r.size r.excessBytes).length ≤ r.bufferLen := by
      rw [length_slice]
      omega
    rw [confirmBytesWritten, if_pos hexcess, moveExcessBytesToStart, if_pos hexcess,
      copyOut_eq hback]
    simp only
    rw [copyIn_eq hfront]
  · have hzero : r.excessBytes = 0 := by omega
    rw [confirmBytesWritten, if_neg hexcess, hzero, slice_zero, overwrite_nil, ← hzero]

/-- Writing bytes at the write pointer into a reservation and confirming them appends them
to the queue. -/
theorem confirmBytesWritten_of_fits
    (h : Represents r q) {data : List UInt8} (hfits : q.Fits data)
    (h32 : data.length < 2 ^ 32)
    (hexcess : q.position + data.length ≤ q.size + q.maxExcess) :
  ∃ r' r'', copyIn { r with excessBytes := r.write + data.length - r.size } r.write data
      = some r' ∧ r'.confirmBytesWritten data.length = some r''
    ∧ r''.overwriteOld = r.overwriteOld ∧ Represents r'' (q.append data hfits)
  := by
  have hlen := h.length_add_lt hfits
  have hsize := h.size_eq
  have hwrite := h.write_lt
  have hposition := h.position_eq
  have hmax := h.maxExcess_eq
  have hblock : r.write + data.length ≤ r.bufferLen := by
    apply h.in_block hwrite
    · omega
    · omega
  refine ⟨_, _, copyIn_eq hblock, confirmBytesWritten_eq ?_ _, rfl, ?_⟩
  · simp only
    omega
  · apply h.append hfits h32 _ rfl
    intro i hi
    apply store_eq_overwrite r.buffer hwrite hi

/-- Clearing the ring buffer empties the queue. -/
theorem Represents.clear (h : Represents r q) :
  Represents r.clear q.clear
  := by
  have hpos : 0 < r.size := Nat.zero_lt_of_lt h.read_lt
  constructor
  · apply h.start_eq
  · apply h.size_eq
  · simp only [SimpleRingBuffer.clear, h.start_eq]
    apply hpos
  · simp [SimpleRingBuffer.clear, ByteQueue.clear, h.start_eq, index_zero hpos]
  · rfl
  · simp [SimpleRingBuffer.clear, ByteQueue.clear, h.start_eq]
  · apply h.maxExcess_eq
  · apply h.excess_eq
  · apply h.block

end Operations

end SimpleRingBuffer

/-! ### Sequences of operations -/

/-- The calls to a ring buffer. `getFreeElement data` reserves as many bytes as `data` has,
writes `data` through the pointer returned and confirms the bytes written. -/
inductive RingBufferOp where
  | writeData (data : List UInt8)
  | readData (amount : ℕ) (incrementReadPtr readRemaining : Bool)
  | deleteData (amount : ℕ) (deleteRemaining : Bool)
  | clear
  | getFreeElement (data : List UInt8)

/-- What a call returns: its return value, the bytes copied to the destination, and the true
amount of bytes read or deleted. -/
structure RingBufferResult where
  status : ReturnValue
  data : Option (List UInt8) := none
  trueAmount : Option ℕ := none

/-- A call to the ring buffer. -/
def SimpleRingBuffer.step : Step SimpleRingBuffer RingBufferOp RingBufferResult
  | r, .writeData data =>
      match r.writeData (some data) with
      | none => none
      | some (status, r) => some (r, { status := status })
  | r, .readData amount incrementReadPtr readRemaining =>
      match r.readData amount incrementReadPtr readRemaining with
      | none => none
      | some (status, data, r) =>
          some (r, { status := status, data := data, trueAmount := data.map List.length })
  | r, .deleteData amount deleteRemaining =>
      match r.deleteData amount deleteRemaining with
      | (status, trueAmount, r) => some (r, { status := status, trueAmount := trueAmount })
  | r, .clear => some (r.clear, { status := .ok })
  | r, .getFreeElement data =>
      match r.getFreeElement data.length with
      | (.ok, some p, r) =>
          match r.copyIn p data with
          | none => none
          | some r =>
              match r.confirmBytesWritten data.length with
              | none => none
              | some r => some (r, { status := .ok })
      | (status, _, r) => some (r, { status := status })

/-- The calls that write and read data. -/
inductive DataCall where
  | writeData (data : List UInt8)
  | readData (amount : ℕ) (incrementReadPtr readRemaining : Bool)
  | deleteData (amount : ℕ) (deleteRemaining : Bool)

def DataCall.toOp : DataCall → RingBufferOp
  | .writeData data => .writeData data
  | .readData amount incrementReadPtr readRemaining =>
      .readData amount incrementReadPtr readRemaining
  | .deleteData amount deleteRemaining => .deleteData amount deleteRemaining

/-- A call that writes or reads data. -/
def SimpleRingBuffer.stepData : Step SimpleRingBuffer DataCall RingBufferResult :=
  fun r call => r.step call.toOp

/-- A call to the queue. It succeeds when the bytes are there, or when the bytes fit and, for
a reservation, the part of them beyond the end of the ring is not too long. -/
def ByteQueue.step : Step ByteQueue RingBufferOp RingBufferResult
  | q, .writeData data =>
      if h : q.Fits data then
        some (q.append data h, { status := .ok })
      else
        some (q, { status := .failed })
  | q, .readData amount incrementReadPtr readRemaining =>
      if amount ≤ q.content.length then
        some (if incrementReadPtr then q.drop amount else q,
          { status := .ok, data := some (q.content.take amount), trueAmount := some amount })
      else if readRemaining then
        some (if incrementReadPtr then q.drop q.content.length else q,
          { status := .ok, data := some q.content, trueAmount := some q.content.length })
      else
        some (q, { status := .failed })
  | q, .deleteData amount deleteRemaining =>
      if amount ≤ q.content.length then
        some (q.drop amount, { status := .ok, trueAmount := some amount })
      else if deleteRemaining then
        some (q.drop q.content.length,
          { status := .ok, trueAmount := some q.content.length })
      else
        some (q, { status := .failed })
  | q, .clear => some (q.clear, { status := .ok })
  | q, .getFreeElement data =>
      if h : q.Fits data ∧ q.position + data.length ≤ q.size + q.maxExcess then
        some (q.append data h.1, { status := .ok })
      else
        some (q, { status := .failed })

namespace SimpleRingBuffer

/-- The ring buffer does not overwrite, represents the queue, and has the given size, which
is small enough for its 32 bit increments. -/
structure Refines (size : ℕ) (r : SimpleRingBuffer) (q : ByteQueue) : Prop where
  represents : Represents r q
  overwriteOld_eq : r.overwriteOld = false
  size_eq : q.size = size
  size_le : size ≤ 2 ^ 32

/-- A call that writes has the same result on a ring buffer that does not overwrite and on the
queue it represents. It moves the write pointer by fewer than `2 ^ 32` bytes. -/
theorem writeData_refines
    {r : SimpleRingBuffer} {q : ByteQueue} (h : Represents r q) (hover : r.overwriteOld = false)
    {data : List UInt8} (h32 : q.Fits data → data.length < 2 ^ 32) :
  ∃ r' q' result, step r (.writeData data) = some (r', result)
    ∧ ByteQueue.step q (.writeData data) = some (q', result)
    ∧ (result.status ≠ .ok → r' = r) ∧ Represents r' q' ∧ r'.overwriteOld = r.overwriteOld
    ∧ q'.size = q.size
  := by
  by_cases hfits : q.Fits data
  · obtain ⟨r', hwrite, hover', hr'⟩ := writeData_of_fits h hfits (h32 hfits)
    simp only [step, hwrite, ByteQueue.step, dif_pos hfits]
    exact ⟨_, _, _, rfl, rfl, by simp, hr', hover', rfl⟩
  · simp only [step, writeData_of_not_fits h hover hfits, ByteQueue.step, dif_neg hfits]
    exact ⟨_, _, _, rfl, rfl, fun _ => rfl, h, rfl, rfl⟩

/-- A call that reads has the same result on the ring buffer and on the queue it represents. It
moves the read pointer by fewer than `2 ^ 32` bytes. -/
theorem readData_refines
    {r : SimpleRingBuffer} {q : ByteQueue} (h : Represents r q) {amount : ℕ}
    {incrementReadPtr : Bool} (readRemaining : Bool)
    (h32 : incrementReadPtr = true → min amount q.content.length < 2 ^ 32) :
  ∃ r' q' result, step r (.readData amount incrementReadPtr readRemaining) = some (r', result)
    ∧ ByteQueue.step q (.readData amount incrementReadPtr readRemaining) = some (q', result)
    ∧ (result.status ≠ .ok → r' = r) ∧ Represents r' q' ∧ r'.overwriteOld = r.overwriteOld
    ∧ q'.size = q.size
  := by
  have hok : ∀ r' : SimpleRingBuffer, ReturnValue.ok ≠ .ok → r' = r := by simp
  by_cases hle : amount ≤ q.content.length
  · simp only [step, readData_of_le h hle, ByteQueue.step, if_pos hle, Option.map_some,
      List.length_take, Nat.min_eq_left hle]
    refine ⟨_, _, _, rfl, rfl, hok _, ?_⟩
    cases incrementReadPtr with
    | false =>
        exact ⟨h, rfl, rfl⟩
    | true =>
        have hlt := h32 rfl
        exact ⟨h.drop hle (by omega), rfl, rfl⟩
  · have hlt := Nat.lt_of_not_le hle
    cases readRemaining with
    | false =>
        simp only [step, readData_of_gt h hlt, ByteQueue.step, if_neg hle,
          Bool.false_eq_true, if_false]
        exact ⟨_, _, _, rfl, rfl, fun _ => rfl, h, rfl, rfl⟩
    | true =>
        simp only [step, readData_remaining h hlt, ByteQueue.step, if_neg hle, if_true]
        refine ⟨_, _, _, rfl, rfl, hok _, ?_⟩
        cases incrementReadPtr with
        | false =>
            exact ⟨h, rfl, rfl⟩
        | true =>
            have hlt' := h32 rfl
            exact ⟨h.drop (Nat.le_refl _) (by omega), rfl, rfl⟩

/-- A call that deletes has the same result on the ring buffer and on the queue it represents. It
moves the read pointer by fewer than `2 ^ 32` bytes. -/
theorem deleteData_refines
    {r : SimpleRingBuffer} {q : ByteQueue} (h : Represents r q) {amount : ℕ}
    (deleteRemaining : Bool) (h32 : min amount q.content.length < 2 ^ 32) :
  ∃ r' q' result, step r (.deleteData amount deleteRemaining) = some (r', result)
    ∧ ByteQueue.step q (.deleteData amount deleteRemaining) = some (q', result)
    ∧ (result.status ≠ .ok → r' = r) ∧ Represents r' q' ∧ r'.overwriteOld = r.overwriteOld
    ∧ q'.size = q.size
  := by
  have hok : ∀ r' : SimpleRingBuffer, ReturnValue.ok ≠ .ok → r' = r := by simp
  by_cases hle : amount ≤ q.content.length
  · simp only [step, deleteData_of_le h hle, ByteQueue.step, if_pos hle]
    exact ⟨_, _, _, rfl, rfl, hok _, h.drop hle (by omega), rfl, rfl⟩
  · have hlt := Nat.lt_of_not_le hle
    cases deleteRemaining with
    | false =>
        simp only [step, deleteData_of_gt h hlt, ByteQueue.step, if_neg hle,
          Bool.false_eq_true, if_false]
        exact ⟨_, _, _, rfl, rfl, fun _ => rfl, h, rfl, rfl⟩
    | true =>
        simp only [step, deleteData_remaining h hlt, ByteQueue.step, if_neg hle, if_true]
        exact ⟨_, _, _, rfl, rfl, hok _, h.drop (Nat.le_refl _) (by omega), rfl, rfl⟩

/-- A call has the same result on the ring buffer and on the queue it represents, and leaves
the ring buffer as it is when it does not succeed. -/
theorem step_refines
    {size : ℕ} {r : SimpleRingBuffer} {q : ByteQueue} (op : RingBufferOp) (h : Refines size r q) :
  ∃ r' q' result, step r op = some (r', result) ∧ ByteQueue.step q op = some (q', result)
    ∧ (result.status ≠ .ok → r' = r) ∧ Refines size r' q'
  := by
  obtain ⟨hr, hover, hsize, hle32⟩ := h
  have hlen := q.bounded
  have hok : ∀ r' : SimpleRingBuffer, ReturnValue.ok ≠ .ok → r' = r := by simp
  cases op with
  | writeData data =>
      have h32 : q.Fits data → data.length < 2 ^ 32 := by
        intro hfits
        unfold ByteQueue.Fits at hfits
        omega
      obtain ⟨r', q', result, hstep, hqueue, hfailed, hr', hover', hsize'⟩ :=
        writeData_refines hr hover h32
      use r', q', result, hstep, hqueue, hfailed, hr', hover'.trans hover, hsize'.trans hsize
  | readData amount incrementReadPtr readRemaining =>
      obtain ⟨r', q', result, hstep, hqueue, hfailed, hr', hover', hsize'⟩ :=
        readData_refines hr readRemaining
          (fun _ => Nat.lt_of_le_of_lt (Nat.min_le_right amount _) (by omega))
      use r', q', result, hstep, hqueue, hfailed, hr', hover'.trans hover, hsize'.trans hsize
  | deleteData amount deleteRemaining =>
      obtain ⟨r', q', result, hstep, hqueue, hfailed, hr', hover', hsize'⟩ :=
        deleteData_refines hr deleteRemaining
          (Nat.lt_of_le_of_lt (Nat.min_le_right amount _) (by omega))
      use r', q', result, hstep, hqueue, hfailed, hr', hover'.trans hover, hsize'.trans hsize
  | clear =>
      exact ⟨_, _, _, rfl, rfl, hok _, hr.clear, hover, hsize, hle32⟩
  | getFreeElement data =>
      by_cases hfits : q.Fits data ∧ q.position + data.length ≤ q.size + q.maxExcess
      · have h32 : data.length < 2 ^ 32 := by
          have hfits' := hfits.1
          unfold ByteQueue.Fits at hfits'
          omega
        obtain ⟨r', r'', hcopy, hconfirm, hover', hr'⟩ :=
          confirmBytesWritten_of_fits hr hfits.1 h32 hfits.2
        simp only [step, getFreeElement_of_fits hr hfits.1 hfits.2, hcopy, hconfirm,
          ByteQueue.step, dif_pos hfits]
        exact ⟨_, _, _, rfl, rfl, hok _, hr', hover'.trans hover, hsize, hle32⟩
      · simp only [step, getFreeElement_of_not_fits hr hover hfits, ByteQueue.step,
          dif_neg hfits]
        exact ⟨_, _, _, rfl, rfl, fun _ => rfl, hr, hover, hsize, hle32⟩

/-- A sequence of calls has the same results on the ring buffer and on the queue it
represents. -/
theorem run_refines_queue
    {size : ℕ} {r : SimpleRingBuffer} {q : ByteQueue} (h : Refines size r q)
    (ops : List RingBufferOp) :
  ∃ r' q' results, Step.run step r ops = some (r', results)
    ∧ Step.run ByteQueue.step q ops = some (q', results) ∧ Refines size r' q'
  := by
  apply Step.run_simulation _ h
  intro r q op h
  obtain ⟨r', q', result, hr, hq, -, h'⟩ := step_refines op h
  use r', q', result

/-- A ring buffer on a block passed by the caller represents the empty queue, when the block
holds the ring and the excess bytes, or its only byte is never used. -/
theorem represents_ofBuffer
    (buffer : ℕ → UInt8) {bufferLen size maxExcessBytes : ℕ} (hpos : 0 < size)
    (h : size = 1 ∨ size + min maxExcessBytes size ≤ bufferLen) :
  Represents (ofBuffer buffer bufferLen size false maxExcessBytes)
    (ByteQueue.new size (min maxExcessBytes size) hpos)
  := by
  have hexcess : (if maxExcessBytes > size then size else maxExcessBytes) =
      min maxExcessBytes size := by
    split <;> omega
  constructor
  · rfl
  · rfl
  · apply hpos
  · apply (index_zero hpos).symm
  · rfl
  · rfl
  · apply hexcess
  · rfl
  · simp only [ofBuffer, hexcess]
    apply h

/-- A newly constructed ring buffer represents the empty queue, when its block is as long as
asked for or its only byte is never used. -/
theorem represents_new
    (garbage : ℕ → UInt8) {size maxExcessBytes : ℕ} (hpos : 0 < size)
    (h : size = 1 ∨ size + maxExcessBytes < 2 ^ 64) :
  Represents (new garbage size false maxExcessBytes)
    (ByteQueue.new size (min maxExcessBytes size) hpos)
  := by
  have hblock : size = 1 ∨ size + min maxExcessBytes size ≤ (size + maxExcessBytes) % 2 ^ 64 := by
    rcases h with h | h
    · left
      apply h
    · right
      rw [Nat.mod_eq_of_lt h]
      omega
  exact represents_ofBuffer garbage hpos hblock

/-- A sequence of calls to a ring buffer on a block passed by the caller has the results it
has on the queue. -/
theorem run_ofBuffer_refines
    (buffer : ℕ → UInt8) {bufferLen size maxExcessBytes : ℕ} (hpos : 0 < size)
    (h32 : size < 2 ^ 32) (h : size = 1 ∨ size + min maxExcessBytes size ≤ bufferLen)
    (ops : List RingBufferOp) :
  ∃ r q results, Step.run step (ofBuffer buffer bufferLen size false maxExcessBytes) ops
      = some (r, results)
    ∧ Step.run ByteQueue.step (ByteQueue.new size (min maxExcessBytes size) hpos) ops
      = some (q, results)
    ∧ Refines size r q
  := by
  apply run_refines_queue
  constructor
  · apply represents_ofBuffer buffer hpos h
  · rfl
  · rfl
  · apply Nat.le_of_lt h32

/-- Every sequence of calls to a newly constructed ring buffer of the given size and excess
bytes is defined and has the results it has on the queue of capacity `size - 1`; the unread
bytes are those of the queue; the bytes available for reading and for writing are `size - 1`
in number; and a call that does not succeed changes nothing. -/
def RefinesQueue (size maxExcessBytes : ℕ) (hpos : 0 < size) : Prop :=
  ∀ (garbage : ℕ → UInt8) (ops : List RingBufferOp),
    ∃ r q results, Step.run step (new garbage size false maxExcessBytes) ops = some (r, results)
      ∧ Step.run ByteQueue.step (ByteQueue.new size (min maxExcessBytes size) hpos) ops
        = some (q, results)
      ∧ contents r.buffer r.size r.read r.getAvailableReadData = q.content
      ∧ r.getAvailableReadData + r.availableWriteSpace = size - 1
      ∧ ∀ op r' result, step r op = some (r', result) → result.status ≠ .ok → r' = r

theorem refinesQueue_of_block
    {size maxExcessBytes : ℕ} (hpos : 0 < size) (h32 : size < 2 ^ 32)
    (h : size = 1 ∨ size + maxExcessBytes < 2 ^ 64) :
  RefinesQueue size maxExcessBytes hpos
  := by
  intro garbage ops
  have hnew : Refines size (new garbage size false maxExcessBytes)
      (ByteQueue.new size (min maxExcessBytes size) hpos) := by
    constructor
    · apply represents_new garbage hpos h
    · rfl
    · rfl
    · apply Nat.le_of_lt h32
  obtain ⟨r, q, results, hr, hq, hrefines⟩ := run_refines_queue hnew ops
  have hrep := hrefines.represents
  use r, q, results, hr, hq
  refine ⟨?_, ?_, ?_⟩
  · rw [hrep.getAvailableReadData_eq, hrep.contents_eq]
  · have hbounded := q.bounded
    rw [hrep.getAvailableReadData_eq, hrep.availableWriteSpace_eq, hrefines.size_eq]
    rw [hrefines.size_eq] at hbounded
    omega
  · intro op r' result hstep hstatus
    obtain ⟨r'', q'', result', hstep', -, hfailed, -⟩ := step_refines op hrefines
    rw [hstep'] at hstep
    cases hstep
    apply hfailed hstatus

/-- When the size asked for does not fit into `size_t`, the block is shorter than the ring,
and filling the ring, emptying it and writing one more byte leaves the block. -/
theorem run_eq_none_of_wrap
    (garbage : ℕ → UInt8) {size maxExcessBytes : ℕ} (hone : 1 < size) (h32 : size < 2 ^ 32)
    (h64 : maxExcessBytes < 2 ^ 64) (h : 2 ^ 64 ≤ size + maxExcessBytes) :
  Step.run step (new garbage size false maxExcessBytes)
    [.writeData (List.replicate (size - 1) 0), .deleteData (size - 1) false, .writeData [0]]
    = none
  := by
  have hblock : (new garbage size false maxExcessBytes).bufferLen
      = size + maxExcessBytes - 2 ^ 64 := by
    simp only [new]
    rw [Nat.mod_eq_sub_mod h, Nat.mod_eq_of_lt (by omega)]
  have hspace : (size - 1) % size = size - 1 := Nat.mod_eq_of_lt (by omega)
  have hamount : (size - 1) % 2 ^ 32 = size - 1 := Nat.mod_eq_of_lt (by omega)
  by_cases hfill : size - 1 ≤ size + maxExcessBytes - 2 ^ 64
  · obtain ⟨r₁, hr₁, hwrite₁, hread₁, hsize₁, hstart₁, hblock₁⟩ : ∃ r₁,
        (new garbage size false maxExcessBytes).writeData (some (List.replicate (size - 1) 0))
          = some (.ok, r₁) ∧ r₁.write = size - 1 ∧ r₁.read = 0 ∧ r₁.size = size ∧ r₁.start = 0
          ∧ r₁.bufferLen = size + maxExcessBytes - 2 ^ 64 := by
      refine ⟨_, writeData_eq_some ?_ ?_ ?_ ?_, ?_, rfl, rfl, rfl, hblock⟩
      · simp [RingBufferBase.getMaxSize, new]
      · simp [RingBufferBase.availableWriteSpace, new, hspace]
      · simp [RingBufferBase.writeTillWrap, new]
      · rw [hblock, List.length_replicate]
        simpa [new] using hfill
      · simp only [incrementWrite, new, Nat.zero_add, Nat.sub_zero, Nat.add_zero,
          List.length_replicate, hamount, hspace]
    have hr₂ : r₁.deleteData (size - 1) false
        = (.ok, some (size - 1), r₁.incrementRead (size - 1)) := by
      have hdata : r₁.getAvailableReadData = size - 1 := by
        rw [RingBufferBase.getAvailableReadData, hwrite₁, hread₁, hsize₁, Nat.sub_zero,
          Nat.add_mod_right, hspace]
      simp only [deleteData, hdata]
      rw [if_neg (Nat.lt_irrefl _)]
    have hread₂ : (r₁.incrementRead (size - 1)).read = size - 1 := by
      simp only [incrementRead, hread₁, hstart₁, hsize₁, Nat.zero_add, Nat.sub_zero,
        Nat.add_zero, hamount, hspace]
    have hnone : (r₁.incrementRead (size - 1)).writeData (some [0]) = none := by
      apply writeData_eq_none
      · simp only [RingBufferBase.getMaxSize, incrementRead, hsize₁, List.length_singleton]
        omega
      · have hfree : size - 1 + size - (size - 1) - 1 = size - 1 := by omega
        rw [RingBufferBase.availableWriteSpace, hread₂]
        simp only [incrementRead, hsize₁, hwrite₁, List.length_singleton, hfree, hspace]
        omega
      · simp only [RingBufferBase.writeTillWrap, incrementRead, hsize₁, hwrite₁, hstart₁,
          List.length_singleton]
        omega
      · simp only [incrementRead, hwrite₁, hblock₁, List.length_singleton]
        omega
    simp only [Step.run, step, hr₁, hr₂, hnone]
  · have hnone : (new garbage size false maxExcessBytes).writeData
        (some (List.replicate (size - 1) 0)) = none := by
      apply writeData_eq_none
      · simp [RingBufferBase.getMaxSize, new]
      · simp [RingBufferBase.availableWriteSpace, new, hspace]
      · simp [RingBufferBase.writeTillWrap, new]
      · rw [hblock, List.length_replicate]
        simp only [new]
        omega
    simp only [Step.run, step, hnone]

/-- A ring buffer that does not overwrite refines the bounded queue exactly when the size it
allocates fits into `size_t`, except that a ring of one byte always does. -/
theorem refinesQueue_iff
    {size maxExcessBytes : ℕ} (hpos : 0 < size) (h32 : size < 2 ^ 32)
    (h64 : maxExcessBytes < 2 ^ 64) :
  RefinesQueue size maxExcessBytes hpos ↔ size = 1 ∨ size + maxExcessBytes < 2 ^ 64
  := by
  constructor
  · intro h
    by_contra hwrap
    obtain ⟨r, q, results, hrun, -⟩ := h (fun _ => 0)
      [.writeData (List.replicate (size - 1) 0), .deleteData (size - 1) false, .writeData [0]]
    rw [run_eq_none_of_wrap _ (by omega) h32 h64 (by omega)] at hrun
    cases hrun
  · apply refinesQueue_of_block hpos h32

theorem refinesQueue_iff_ten :
  RefinesQueue 10 5 (by decide)
  := (refinesQueue_iff (by decide) (by decide) (by decide)).mpr (Or.inr (by decide))

/-- With `2 ^ 64 - 1` excess bytes, a ring buffer of ten bytes allocates only nine. -/
theorem not_refinesQueue_ten :
  ¬ RefinesQueue 10 (2 ^ 64 - 1) (by decide)
  := by
  intro h
  obtain ⟨r, q, results, hrun, -⟩ := h (fun _ => 0)
    [.writeData (List.replicate 9 0), .deleteData 9 false, .writeData [0]]
  rw [run_eq_none_of_wrap _ (by decide) (by decide) (by decide) (by decide)] at hrun
  cases hrun

end SimpleRingBuffer
