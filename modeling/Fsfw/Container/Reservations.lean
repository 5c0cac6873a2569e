import Fsfw.Container.ByteQueue

/-!
# Reservations that are not confirmed

A reservation of a ring buffer that does not overwrite is written to through the pointer that
`getFreeElement` gives, and becomes part of the data when it is confirmed.  We keep the bytes that
have been written and not been read next to the buffer (`Written`), where a reservation that is
not confirmed counts for nothing.

The reads return these bytes as long as no reservation that ends before the end of the ring is
confirmed after another one, which reached beyond the end, has been abandoned
(`readsBack_of_along`).  The number of excess bytes of the abandoned reservation is then still
there, and as many bytes are copied over the start of the ring (`not_readsBack_ten`).
-/

open Memory Circular

/-- The calls to a ring buffer. After `amount` bytes have been reserved, `data` is written
through the pointer returned. -/
inductive RingBufferCall where
  | getFreeElement (amount : ℕ) (data : List UInt8) (h : data.length ≤ amount)
  | confirmBytesWritten (amount : ℕ)
  | data (call : DataCall)
  | clear

/-- The bytes that have been written and not been read, and the reservation that may be
confirmed: the number of bytes reserved, and the data written there. -/
structure Written where
  unread : List UInt8
  reserved : Option (ℕ × List UInt8)

namespace Written

/-- The first `amount` bytes of the reservation become part of the data. -/
def confirm (w : Written) (amount : ℕ) : Written :=
  match w.reserved with
  | some (_, data) => ⟨w.unread ++ data.take amount, none⟩
  | none => w

/-- A call that was successful writes data, which abandons the reservation, or takes the oldest
bytes. -/
def call (w : Written) : DataCall → Written
  | .writeData data => ⟨w.unread ++ data, none⟩
  | .readData amount incrementReadPtr _ =>
      if incrementReadPtr then { w with unread := w.unread.drop amount } else w
  | .deleteData amount _ => { w with unread := w.unread.drop amount }

end Written

namespace SimpleRingBuffer

/-- A call, with the bytes written before and after it. -/
def stepWritten : Step (SimpleRingBuffer × Written) RingBufferCall RingBufferResult
  | (r, w), .getFreeElement amount data _ =>
      match r.getFreeElement amount with
      | (.ok, some p, r) =>
          match r.copyIn p data with
          | none => none
          | some r => some ((r, { w with reserved := some (amount, data) }), { status := .ok })
      | (status, _, r) => some ((r, w), { status := status })
  | (r, w), .confirmBytesWritten amount =>
      match r.confirmBytesWritten amount with
      | none => none
      | some r => some ((r, w.confirm amount), { status := .ok })
  | (r, w), .data call =>
      match r.stepData call with
      | none => none
      | some (r, result) =>
          some ((r, if result.status = .ok then w.call call else w), result)
  | (r, _), .clear => some ((r.clear, ⟨[], none⟩), { status := .ok })

/-- The bytes that a read returns are the oldest ones that have been written and not been
read. -/
def ReadsBack (r : SimpleRingBuffer) (w : Written) : Prop :=
  ∀ amount incrementReadPtr readRemaining, ∃ status data r',
    r.readData amount incrementReadPtr readRemaining = some (status, data, r') ∧
    (status = .ok ↔ amount ≤ w.unread.length ∨ readRemaining = true) ∧
    (status = .ok → data = some (w.unread.take amount))

/-- Bytes are confirmed only when they have been reserved and written, and no other data has been
written since. -/
def Confirmable (w : Written) : RingBufferCall → Prop
  | .confirmBytesWritten amount =>
      ∃ n data, w.reserved = some (n, data) ∧ amount ≤ data.length
  | _ => True

/-- When bytes are confirmed, the excess bytes are those of their reservation, or none of the
cells that they are copied to is in use. No pointer is moved by `2 ^ 32` bytes or more. -/
def OwnExcess (r : SimpleRingBuffer) (w : Written) : RingBufferCall → Prop
  | .confirmBytesWritten amount =>
      amount < 2 ^ 32 ∧ ∀ n data, w.reserved = some (n, data) →
        r.excessBytes = n - r.writeTillWrap ∨
        ∀ k, k < w.unread.length + amount → r.excessBytes ≤ index r.size r.read k
  | .data (.writeData data) => data.length ≤ r.availableWriteSpace → data.length < 2 ^ 32
  | .data (.readData amount incrementReadPtr _) =>
      incrementReadPtr = true → min amount r.getAvailableReadData < 2 ^ 32
  | .data (.deleteData amount _) => min amount r.getAvailableReadData < 2 ^ 32
  | _ => True

/-- The ring buffer without its excess bytes. -/
abbrev withoutExcess (r : SimpleRingBuffer) : SimpleRingBuffer :=
  { r with excessBytes := 0 }

/-- The bytes written, as they are held by the ring buffer: the unread bytes in a queue, and
those of the reservation from the write pointer on. -/
structure HoldsWritten (r : SimpleRingBuffer) (w : Written) (q : ByteQueue) : Prop where
  represents : Represents r.withoutExcess q
  unread_eq : w.unread = q.content
  overwriteOld_eq : r.overwriteOld = false
  excess_block : r.excessBytes = 0 ∨ r.size + r.excessBytes ≤ r.bufferLen
  reserved_lt : ∀ n data, w.reserved = some (n, data) → q.content.length + n < q.size
  reserved_le : ∀ n data, w.reserved = some (n, data) → data.length ≤ n
  reserved_slice : ∀ n data, w.reserved = some (n, data) →
    slice r.buffer r.write data.length = data
  reserved_excess : ∀ n data, w.reserved = some (n, data) → r.size < r.write + n →
    r.excessBytes = r.write + n - r.size

/-! ### The excess bytes in other calls -/

theorem copyIn_withoutExcess (r : SimpleRingBuffer) (p : ℕ) (xs : List UInt8) :
  r.withoutExcess.copyIn p xs = (r.copyIn p xs).map withoutExcess
  := by
  by_cases h : p + xs.length ≤ r.bufferLen
  · simp only [copyIn, if_pos h, Option.map_some]
  · simp only [copyIn, if_neg h, Option.map_none]

theorem writeData_withoutExcess (r : SimpleRingBuffer) (data : List UInt8) :
  r.withoutExcess.writeData (some data) =
    (r.writeData (some data)).map (fun s => (s.1, s.2.withoutExcess))
  := by
  by_cases hmax : data.length > r.getMaxSize
  · simp only [writeData, if_pos hmax, Option.map_some]
  by_cases hspace : r.availableWriteSpace ≥ data.length ∨ r.overwriteOld
  · by_cases hwrap : r.writeTillWrap ≥ data.length
    · simp only [writeData, if_neg hmax, if_pos hspace, if_pos hwrap, copyIn_withoutExcess]
      cases r.copyIn r.write data <;> rfl
    · simp only [writeData, if_neg hmax, if_pos hspace, if_neg hwrap, copyIn_withoutExcess]
      cases r.copyIn r.write (data.take r.writeTillWrap) with
      | none =>
          rfl
      | some r' =>
          simp only [Option.map_some, copyIn_withoutExcess]
          cases r'.copyIn 0 (data.drop r.writeTillWrap) <;> rfl
  · simp only [writeData, if_neg hmax, if_neg hspace, Option.map_some]

theorem deleteData_withoutExcess (r : SimpleRingBuffer) (amount : ℕ) (deleteRemaining : Bool) :
  r.withoutExcess.deleteData amount deleteRemaining =
    ((r.deleteData amount deleteRemaining).1, (r.deleteData amount deleteRemaining).2.1,
      (r.deleteData amount deleteRemaining).2.2.withoutExcess)
  := by
  by_cases h : r.getAvailableReadData < amount
  · cases deleteRemaining with
    | false => simp [deleteData, h]
    | true => simp [deleteData, h, incrementRead]
  · simp [deleteData, h, incrementRead]

theorem readData_withoutExcess (r : SimpleRingBuffer) (amount : ℕ)
    (incrementReadPtr readRemaining : Bool) :
  r.withoutExcess.readData amount incrementReadPtr readRemaining =
    (r.readData amount incrementReadPtr readRemaining).map
      (fun s => (s.1, s.2.1, s.2.2.withoutExcess))
  := by
  have hcopy : ∀ n, r.withoutExcess.copyUnread n = r.copyUnread n := fun _ => rfl
  by_cases h : r.getAvailableReadData < amount ∧ readRemaining = false
  · simp only [readData, if_pos h, Option.map_some]
  · simp only [readData, if_neg h, hcopy, deleteData_withoutExcess]
    cases r.copyUnread (if r.getAvailableReadData < amount then r.getAvailableReadData
      else amount) with
    | none => rfl
    | some data => cases incrementReadPtr <;> rfl

/-- A call that reads or writes data does not look at the excess bytes. -/
theorem stepData_withoutExcess (r : SimpleRingBuffer) (call : DataCall) :
  r.withoutExcess.stepData call =
    (r.stepData call).map (fun s => (s.1.withoutExcess, s.2))
  := by
  cases call with
  | writeData data =>
      simp only [stepData, DataCall.toOp, step, writeData_withoutExcess]
      cases r.writeData (some data) <;> rfl
  | readData amount incrementReadPtr readRemaining =>
      simp only [stepData, DataCall.toOp, step, readData_withoutExcess]
      cases r.readData amount incrementReadPtr readRemaining <;> rfl
  | deleteData amount deleteRemaining =>
      simp only [stepData, DataCall.toOp, step, deleteData_withoutExcess]
      rfl

theorem copyIn_some {r r' : SimpleRingBuffer} {p : ℕ} {xs : List UInt8}
    (h : r.copyIn p xs = some r') :
  r' = { r with buffer := overwrite r.buffer p xs }
  := by
  rw [copyIn] at h
  split at h
  · cases h
    rfl
  · cases h

/-- Writing data changes the bytes and the write pointer. -/
theorem writeData_frame {r r' : SimpleRingBuffer} {data : List UInt8} {status : ReturnValue}
    (h : r.writeData (some data) = some (status, r')) :
  ∃ write buffer, r' = { r with write := write, buffer := buffer }
  := by
  simp only [writeData] at h
  split at h
  · cases h
    use r.write, r.buffer
  split at h
  · split at h
    · cases hcopy : r.copyIn r.write data with
      | none =>
          simp only [hcopy] at h
          cases h
      | some r₁ =>
          simp only [hcopy, copyIn_some hcopy] at h
          cases h
          exact ⟨_, _, rfl⟩
    · cases hcopy : r.copyIn r.write (data.take r.writeTillWrap) with
      | none =>
          simp only [hcopy] at h
          cases h
      | some r₁ =>
          simp only [hcopy] at h
          cases hcopy' : r₁.copyIn 0 (data.drop r.writeTillWrap) with
          | none =>
              simp only [hcopy'] at h
              cases h
          | some r₂ =>
              simp only [hcopy'] at h
              simp only [copyIn_some hcopy', copyIn_some hcopy] at h
              cases h
              exact ⟨_, _, rfl⟩
  · cases h
    use r.write, r.buffer

/-- Deleting data changes the read pointer. -/
theorem deleteData_frame (r : SimpleRingBuffer) (amount : ℕ) (deleteRemaining : Bool) :
  ∃ read, (r.deleteData amount deleteRemaining).2.2 = { r with read := read }
  := by
  rw [deleteData]
  split
  · split
    · exact ⟨_, rfl⟩
    · use r.read
  · exact ⟨_, rfl⟩

/-- Reading data changes the read pointer. -/
theorem readData_frame {r r' : SimpleRingBuffer} {amount : ℕ}
    {incrementReadPtr readRemaining : Bool} {status : ReturnValue} {data : Option (List UInt8)}
    (h : r.readData amount incrementReadPtr readRemaining = some (status, data, r')) :
  ∃ read, r' = { r with read := read }
  := by
  simp only [readData] at h
  split at h
  · cases h
    use r.read
  · split at h
    · cases h
    · split at h
      · cases h
        apply deleteData_frame
      · cases h
        use r.read

/-- What a call that reads or writes data leaves as it is. -/
theorem stepData_frame {r r' : SimpleRingBuffer} {call : DataCall} {result : RingBufferResult}
    (h : r.stepData call = some (r', result)) :
  r'.excessBytes = r.excessBytes ∧ r'.bufferLen = r.bufferLen ∧
    ((∃ data, call = .writeData data) ∨ r'.write = r.write ∧ r'.buffer = r.buffer)
  := by
  cases call with
  | writeData data =>
      simp only [stepData, DataCall.toOp, step] at h
      split at h
      · cases h
      · rename_i hwrite
        cases h
        obtain ⟨write, buffer, rfl⟩ := writeData_frame hwrite
        exact ⟨rfl, rfl, .inl ⟨data, rfl⟩⟩
  | readData amount incrementReadPtr readRemaining =>
      simp only [stepData, DataCall.toOp, step] at h
      split at h
      · cases h
      · rename_i hread
        cases h
        obtain ⟨read, rfl⟩ := readData_frame hread
        exact ⟨rfl, rfl, .inr ⟨rfl, rfl⟩⟩
  | deleteData amount deleteRemaining =>
      simp only [stepData, DataCall.toOp, step] at h
      obtain ⟨read, hdelete⟩ := deleteData_frame r amount deleteRemaining
      cases h
      rw [hdelete]
      exact ⟨rfl, rfl, .inr ⟨rfl, rfl⟩⟩

/-- What a call does to the bytes of the queue is what it does to the bytes written. -/
theorem content_step {q q' : ByteQueue} {call : DataCall} {result : RingBufferResult}
    (reserved : Option (ℕ × List UInt8)) (h : q.step call.toOp = some (q', result)) :
  q'.content = (if result.status = .ok then Written.call ⟨q.content, reserved⟩ call
    else ⟨q.content, reserved⟩).unread
  := by
  cases call with
  | writeData data =>
      simp only [DataCall.toOp, ByteQueue.step] at h
      split at h
      · cases h
        rfl
      · cases h
        rfl
  | readData amount incrementReadPtr readRemaining =>
      simp only [DataCall.toOp, ByteQueue.step] at h
      split at h
      · cases h
        cases incrementReadPtr <;> rfl
      · rename_i hlt
        split at h
        · cases h
          cases incrementReadPtr with
          | false => rfl
          | true => simp [Written.call, ByteQueue.drop, Nat.le_of_not_le hlt]
        · cases h
          rfl
  | deleteData amount deleteRemaining =>
      simp only [DataCall.toOp, ByteQueue.step] at h
      split at h
      · cases h
        rfl
      · rename_i hlt
        split at h
        · cases h
          simp [Written.call, ByteQueue.drop, Nat.le_of_not_le hlt]
        · cases h
          rfl

/-- A call has the same result on the ring buffer and on the queue it represents. -/
theorem stepData_refines_queue {r : SimpleRingBuffer} {q : ByteQueue} {w : Written}
    {call : DataCall} (h : Represents r q) (hover : r.overwriteOld = false)
    (hcall : OwnExcess r w (.data call)) :
  ∃ r' q' result, stepData r call = some (r', result) ∧ q.step call.toOp = some (q', result)
    ∧ (result.status ≠ .ok → r' = r) ∧ Represents r' q' ∧ r'.overwriteOld = r.overwriteOld
    ∧ q'.size = q.size
  := by
  cases call with
  | writeData data =>
      apply writeData_refines h hover
      intro hfits
      apply hcall
      rw [h.availableWriteSpace_eq]
      unfold ByteQueue.Fits at hfits
      omega
  | readData amount incrementReadPtr readRemaining =>
      apply readData_refines h
      rw [← h.getAvailableReadData_eq]
      apply hcall
  | deleteData amount deleteRemaining =>
      apply deleteData_refines h
      rw [← h.getAvailableReadData_eq]
      apply hcall

namespace HoldsWritten

variable {r : SimpleRingBuffer} {w : Written} {q : ByteQueue}

/-- A call that reads or writes data. -/
theorem data (h : HoldsWritten r w q) {call : DataCall} (hcall : OwnExcess r w (.data call)) :
  ∃ r' q' result, r.stepData call = some (r', result) ∧
    HoldsWritten r' (if result.status = .ok then w.call call else w) q'
  := by
  have hcall' : OwnExcess r.withoutExcess w (.data call) := by
    cases call <;> exact hcall
  obtain ⟨r₀, q', result, hstep, hqueue, hfailed, hr, hover, hsize⟩ :=
    stepData_refines_queue h.represents h.overwriteOld_eq hcall'
  rw [stepData_withoutExcess, Option.map_eq_some_iff] at hstep
  obtain ⟨⟨r', result'⟩, hstep, heq⟩ := hstep
  cases heq
  obtain ⟨hexcess, hblock, hwrite⟩ := stepData_frame hstep
  use r', q', result', hstep
  have hcontent := content_step w.reserved hqueue
  rw [← h.unread_eq] at hcontent
  have hsize' : r'.size = r.size := hr.size_eq.trans (hsize.trans h.represents.size_eq.symm)
  have hkept : ∀ n data, (if result'.status = .ok then w.call call else w).reserved = some (n, data) →
      w.reserved = some (n, data) ∧ r'.write = r.write ∧ r'.buffer = r.buffer ∧
        q'.content.length ≤ q.content.length := by
    intro n data hreserved
    by_cases hok : result'.status = .ok
    · rw [if_pos hok] at hreserved hcontent
      cases call with
      | writeData bytes =>
          cases hreserved
      | readData amount incrementReadPtr readRemaining =>
          obtain ⟨_, hcall⟩ | ⟨hw, hb⟩ := hwrite
          · cases hcall
          · cases incrementReadPtr with
            | false =>
                refine ⟨hreserved, hw, hb, ?_⟩
                rw [hcontent, ← h.unread_eq]
                rfl
            | true =>
                refine ⟨hreserved, hw, hb, ?_⟩
                simp [hcontent, ← h.unread_eq, Written.call]
      | deleteData amount deleteRemaining =>
          obtain ⟨_, hcall⟩ | ⟨hw, hb⟩ := hwrite
          · cases hcall
          · refine ⟨hreserved, hw, hb, ?_⟩
            simp [hcontent, ← h.unread_eq, Written.call]
    · rw [if_neg hok] at hreserved hcontent
      have hsame := hfailed hok
      refine ⟨hreserved, congrArg (·.write) hsame, congrArg (·.buffer) hsame, ?_⟩
      rw [hcontent, ← h.unread_eq]
  constructor
  · apply hr
  · apply hcontent.symm
  · apply hover.trans h.overwriteOld_eq
  · rw [hexcess, hsize', hblock]
    apply h.excess_block
  · intro n data hreserved
    obtain ⟨hw, -, -, hle⟩ := hkept n data hreserved
    have hlt := h.reserved_lt n data hw
    omega
  · intro n data hreserved
    apply h.reserved_le n data (hkept n data hreserved).1
  · intro n data hreserved
    obtain ⟨hw, hwrite', hbuffer, -⟩ := hkept n data hreserved
    rw [hbuffer, hwrite']
    apply h.reserved_slice n data hw
  · intro n data hreserved hlt
    obtain ⟨hw, hwrite', -, -⟩ := hkept n data hreserved
    rw [hexcess, hwrite', hsize']
    rw [hwrite', hsize'] at hlt
    apply h.reserved_excess n data hw hlt

/-- Clearing the buffer abandons a reservation, and leaves its excess bytes. -/
theorem clear (h : HoldsWritten r w q) :
  HoldsWritten r.clear ⟨[], none⟩ q.clear
  := by
  constructor
  · exact h.represents.clear
  · rfl
  · apply h.overwriteOld_eq
  · apply h.excess_block
  · rintro _ _ ⟨⟩
  · rintro _ _ ⟨⟩
  · rintro _ _ ⟨⟩
  · rintro _ _ ⟨⟩

/-- A reservation is refused, or lies in the free cells behind the write pointer and the excess
bytes. -/
theorem getFreeElement_cases (h : HoldsWritten r w q) (n : ℕ) :
  r.getFreeElement n = (.failed, none, r) ∨
  ∃ e, r.getFreeElement n = (.ok, some r.write, { r with excessBytes := e }) ∧
    q.content.length + n < q.size ∧ r.write + n ≤ r.size + r.maxExcessBytes ∧
    (r.size < r.write + n → e = r.write + n - r.size) ∧
    (r.write + n ≤ r.size → e = r.excessBytes)
  := by
  have hspace : r.availableWriteSpace = q.size - 1 - q.content.length :=
    h.represents.availableWriteSpace_eq
  have hwrap : r.writeTillWrap = r.size - r.write := h.represents.writeTillWrap_eq
  have hwrite : r.write < r.size := h.represents.write_lt
  have hbounded := q.bounded
  by_cases hroom : r.availableWriteSpace ≥ n ∨ r.overwriteOld = true
  · have hlt : q.content.length + n < q.size := by
      rw [h.overwriteOld_eq, hspace] at hroom
      simp only [Bool.false_eq_true, or_false] at hroom
      omega
    by_cases htill : r.writeTillWrap < n
    · by_cases hmax : n - r.writeTillWrap + r.excessBytes > r.maxExcessBytes
      · left
        simp only [getFreeElement, if_pos hroom, if_pos htill, if_pos hmax]
      · right
        use n - r.writeTillWrap
        refine ⟨?_, hlt, ?_, ?_, ?_⟩
        · simp only [getFreeElement, if_pos hroom, if_pos htill, if_neg hmax]
        · omega
        · omega
        · omega
    · right
      use r.excessBytes
      refine ⟨?_, hlt, ?_, ?_, ?_⟩
      · simp only [getFreeElement, if_pos hroom, if_neg htill]
      · omega
      · omega
      · intro _
        rfl
  · left
    simp only [getFreeElement, if_neg hroom]

/-- Data written into the free cells behind the write pointer does not change the queue. -/
theorem represents_overwrite {r : SimpleRingBuffer} {q : ByteQueue} {data : List UInt8}
    (h : Represents r.withoutExcess q) (hlen : q.content.length + data.length < q.size) :
  Represents { r.withoutExcess with buffer := overwrite r.buffer r.write data } q
  := by
  have hsize : r.size = q.size := h.size_eq
  have hread : r.read < r.size := h.read_lt
  have hwrite : r.write = index r.size r.read q.content.length := h.write_eq
  have hcontents : contents (overwrite r.buffer r.write data) r.size r.read q.content.length
      = contents r.buffer r.size r.read q.content.length := by
    apply contents_congr
    intro k hk
    -- the unread cells come before the write pointer, or after the data in the last turn
    rcases Nat.lt_or_ge (index r.size r.read k) r.write with hlt | hge
    · apply overwrite_of_lt hlt
    · apply overwrite_of_ge
      unfold index at *
      split at hge <;> split at hwrite <;> split <;> omega
  exact { h with contents_eq := hcontents.trans h.contents_eq }

/-- A reservation that succeeds replaces the one before. -/
theorem reserve (h : HoldsWritten r w q) {n : ℕ} {data : List UInt8} (hdata : data.length ≤ n)
    {e : ℕ} (hlt : q.content.length + n < q.size)
    (hmax : r.write + n ≤ r.size + r.maxExcessBytes)
    (hown : r.size < r.write + n → e = r.write + n - r.size)
    (hold : r.write + n ≤ r.size → e = r.excessBytes) :
  ∃ r', copyIn { r with excessBytes := e } r.write data = some r' ∧
    HoldsWritten r' { w with reserved := some (n, data) } q
  := by
  have hsize : r.size = q.size := h.represents.size_eq
  have hwrite : r.write < r.size := h.represents.write_lt
  have hblock : ∀ m, m ≤ n → r.write + m ≤ r.bufferLen := by
    intro m hm
    have hm' : m < r.size := by omega
    have hend : r.write + m ≤ r.size + r.maxExcessBytes := by omega
    exact h.represents.in_block hwrite hm' hend
  have hcopy : r.write + data.length ≤ r.bufferLen := hblock _ hdata
  refine ⟨_, copyIn_eq (r := { r with excessBytes := e }) hcopy, ?_⟩
  constructor
  · apply represents_overwrite h.represents
    omega
  · apply h.unread_eq
  · apply h.overwriteOld_eq
  · rcases Nat.lt_or_ge r.size (r.write + n) with hwrap | hwrap
    · right
      have hend := hblock n (Nat.le_refl n)
      simp only [hown hwrap]
      omega
    · simp only [hold hwrap]
      apply h.excess_block
  · rintro _ _ ⟨⟩
    apply hlt
  · rintro _ _ ⟨⟩
    apply hdata
  · rintro _ _ ⟨⟩
    apply slice_overwrite_self
  · rintro _ _ ⟨⟩ hwrap
    apply hown hwrap

/-- The cells in use hold the data and the confirmed bytes after the excess bytes have been
moved. -/
theorem contents_confirm (h : HoldsWritten r w q) {n amount : ℕ} {data : List UInt8}
    (hreserved : w.reserved = some (n, data)) (hamount : amount ≤ data.length)
    (hown : r.excessBytes = n - r.writeTillWrap ∨
      ∀ k, k < w.unread.length + amount → r.excessBytes ≤ index r.size r.read k) :
  contents (move r.buffer 0 r.size r.excessBytes) r.size r.read (q.content.length + amount)
    = q.content ++ data.take amount
  := by
  have hsize : r.size = q.size := h.represents.size_eq
  have hread : r.read < r.size := h.represents.read_lt
  have hwrite : r.write = index r.size r.read q.content.length := h.represents.write_eq
  have hwrite' : r.write < r.size := h.represents.write_lt
  have hwrap : r.writeTillWrap = r.size - r.write := h.represents.writeTillWrap_eq
  have hcontent : contents r.buffer r.size r.read q.content.length = q.content :=
    h.represents.contents_eq
  have hn := h.reserved_lt n data hreserved
  have hle := h.reserved_le n data hreserved
  have hslice : slice r.buffer r.write amount = data.take amount := by
    rw [← take_slice r.buffer hamount, h.reserved_slice n data hreserved]
  have hown' : r.excessBytes = n - r.writeTillWrap ∨ r.write + n ≤ r.size ∧
      ∀ k, k < w.unread.length + amount → r.excessBytes ≤ index r.size r.read k := by
    rcases Nat.lt_or_ge r.size (r.write + n) with hlt | hge
    · left
      rw [h.reserved_excess n data hreserved hlt]
      omega
    · apply hown.imp_right
      intro hfree
      exact ⟨hge, hfree⟩
  rw [contents_add _ hread (by omega), ← hwrite]
  rcases hown' with hexcess | ⟨hend, hfree⟩
  · have hfirst : r.excessBytes ≤ r.write := by omega
    rw [contents_move_excess hfirst (by omega), hslice, contents_move, hcontent]
    intro k hk
    unfold index at *
    split at hwrite <;> split <;> omega
  · rw [contents_move, hcontent, contents_move, contents_eq_slice _ (by omega), hslice]
    · intro k hk
      rw [hwrite, index_index hread (by omega)]
      apply hfree
      rw [h.unread_eq]
      omega
    · intro k hk
      apply hfree
      rw [h.unread_eq]
      omega

/-- Confirming the bytes of a reservation appends them to the queue. -/
theorem confirm (h : HoldsWritten r w q) {amount : ℕ}
    (hconfirm : Confirmable w (.confirmBytesWritten amount))
    (hexcess : OwnExcess r w (.confirmBytesWritten amount)) :
  ∃ r' q', r.confirmBytesWritten amount = some r' ∧ HoldsWritten r' (w.confirm amount) q'
  := by
  obtain ⟨n, data, hreserved, hamount⟩ := hconfirm
  obtain ⟨h32, hown⟩ := hexcess
  have hn := h.reserved_lt n data hreserved
  have hle := h.reserved_le n data hreserved
  have htake : (data.take amount).length = amount := by
    rw [List.length_take]
    omega
  have hfits : q.Fits (data.take amount) := by
    unfold ByteQueue.Fits
    omega
  have hcontents := h.contents_confirm hreserved hamount (hown n data hreserved)
  refine ⟨_, q.append _ hfits, confirmBytesWritten_eq h.excess_block amount, ?_⟩
  have hrep := h.represents.append_of_contents hfits (m := move r.buffer 0 r.size r.excessBytes)
    (by rw [htake]; apply h32) (by rw [htake]; apply hcontents) (Eq.refl 0)
  rw [htake] at hrep
  constructor
  · apply hrep
  · simp only [Written.confirm, hreserved, ByteQueue.append, h.unread_eq]
  · apply h.overwriteOld_eq
  · left
    rfl
  · simp only [Written.confirm, hreserved]
    rintro _ _ ⟨⟩
  · simp only [Written.confirm, hreserved]
    rintro _ _ ⟨⟩
  · simp only [Written.confirm, hreserved]
    rintro _ _ ⟨⟩
  · simp only [Written.confirm, hreserved]
    rintro _ _ ⟨⟩

end HoldsWritten

/-- A call keeps what has been written. -/
theorem stepWritten_holds {s : SimpleRingBuffer × Written} {call : RingBufferCall}
    (h : ∃ q, HoldsWritten s.1 s.2 q)
    (hcall : Confirmable s.2 call ∧ OwnExcess s.1 s.2 call) :
  ∃ s' result, stepWritten s call = some (s', result) ∧ ∃ q, HoldsWritten s'.1 s'.2 q
  := by
  obtain ⟨r, w⟩ := s
  obtain ⟨q, h⟩ := h
  cases call with
  | getFreeElement amount data hdata =>
      rcases h.getFreeElement_cases amount with hfailed | ⟨e, hok, hlt, hmax, hown, hold⟩
      · simp only [stepWritten, hfailed]
        exact ⟨_, _, rfl, q, h⟩
      · obtain ⟨r', hcopy, h'⟩ := h.reserve hdata hlt hmax hown hold
        simp only [stepWritten, hok, hcopy]
        exact ⟨_, _, rfl, q, h'⟩
  | confirmBytesWritten amount =>
      obtain ⟨r', q', hconfirm, h'⟩ := h.confirm hcall.1 hcall.2
      simp only [stepWritten, hconfirm]
      exact ⟨_, _, rfl, q', h'⟩
  | data call =>
      obtain ⟨r', q', result, hstep, h'⟩ := h.data hcall.2
      simp only [stepWritten, hstep]
      exact ⟨_, _, rfl, q', h'⟩
  | clear =>
      exact ⟨_, _, rfl, q.clear, h.clear⟩

/-- A read returns what it returns without the excess bytes. -/
theorem readData_of_withoutExcess {r r₀ : SimpleRingBuffer} {amount : ℕ}
    {incrementReadPtr readRemaining : Bool} {status : ReturnValue} {data : Option (List UInt8)}
    (h : r.withoutExcess.readData amount incrementReadPtr readRemaining
      = some (status, data, r₀)) :
  ∃ r', r.readData amount incrementReadPtr readRemaining = some (status, data, r')
  := by
  rw [readData_withoutExcess, Option.map_eq_some_iff] at h
  obtain ⟨⟨status', data', r'⟩, hr, heq⟩ := h
  simp only [Prod.mk.injEq] at heq
  obtain ⟨rfl, rfl, -⟩ := heq
  use r', hr

/-- A buffer that holds what has been written gives it back. -/
theorem HoldsWritten.readsBack {r : SimpleRingBuffer} {w : Written} {q : ByteQueue}
    (h : HoldsWritten r w q) :
  ReadsBack r w
  := by
  intro amount incrementReadPtr readRemaining
  rw [h.unread_eq]
  by_cases hle : amount ≤ q.content.length
  · obtain ⟨r', hr⟩ := readData_of_withoutExcess
      (readData_of_le h.represents hle incrementReadPtr readRemaining)
    use .ok, some (q.content.take amount), r', hr
    simp [hle]
  · have hlt := Nat.lt_of_not_le hle
    cases readRemaining with
    | false =>
        obtain ⟨r', hr⟩ := readData_of_withoutExcess
          (readData_of_gt h.represents hlt incrementReadPtr)
        use .failed, none, r', hr
        simp [hle]
    | true =>
        obtain ⟨r', hr⟩ := readData_of_withoutExcess
          (readData_remaining h.represents hlt incrementReadPtr)
        use .ok, some q.content, r', hr
        simp [List.take_of_length_le (Nat.le_of_lt hlt)]

/-- A newly constructed ring buffer holds nothing. -/
theorem holdsWritten_new (garbage : ℕ → UInt8) {size maxExcessBytes : ℕ} (hpos : 0 < size)
    (h : size = 1 ∨ size + maxExcessBytes < 2 ^ 64) :
  HoldsWritten (new garbage size false maxExcessBytes) ⟨[], none⟩
    (ByteQueue.new size (min maxExcessBytes size) hpos)
  := by
  constructor
  · exact represents_new garbage hpos h
  · rfl
  · rfl
  · left
    rfl
  · rintro _ _ ⟨⟩
  · rintro _ _ ⟨⟩
  · rintro _ _ ⟨⟩
  · rintro _ _ ⟨⟩

/-- As long as the excess bytes that are moved are those of the reservation that is confirmed, or
are moved to cells that are not in use, every call is defined, and the reads return the bytes that
have been written. -/
theorem readsBack_of_along (garbage : ℕ → UInt8) {size maxExcessBytes : ℕ} (hpos : 0 < size)
    (hblock : size = 1 ∨ size + maxExcessBytes < 2 ^ 64) {calls : List RingBufferCall}
    (hcalls : Step.Along stepWritten
      (fun s call => Confirmable s.2 call ∧ OwnExcess s.1 s.2 call)
      (new garbage size false maxExcessBytes, ⟨[], none⟩) calls) :
  ∃ s results, Step.run stepWritten (new garbage size false maxExcessBytes, ⟨[], none⟩) calls
    = some (s, results) ∧ ReadsBack s.1 s.2
  := by
  obtain ⟨s, results, hrun, q, h⟩ := Step.run_invariant
    (I := fun s => ∃ q, HoldsWritten s.1 s.2 q)
    (fun _ _ h hcall => stepWritten_holds h hcall) ⟨_, holdsWritten_new garbage hpos hblock⟩ hcalls
  use s, results, hrun, h.readsBack

/-- A reservation that reaches beyond the end, another one that replaces it, and its
confirmation. -/
theorem readsBack_of_along_ten :
  ∃ s results, Step.run stepWritten (new (fun _ => 0) 10 false 5, ⟨[], none⟩)
    [.data (.writeData [0, 0, 0, 0, 0, 0, 0, 0]), .data (.deleteData 8 false),
      .getFreeElement 5 [9, 9, 9, 9, 9] (by decide), .getFreeElement 4 [1, 2, 3, 4] (by decide),
      .confirmBytesWritten 4] = some (s, results) ∧ ReadsBack s.1 s.2
  := by
  apply readsBack_of_along
  · decide
  · right
    decide
  · refine ⟨⟨trivial, fun _ => by decide⟩, ?_⟩
    rintro _ _ ⟨⟩
    refine ⟨⟨trivial, ?_⟩, ?_⟩
    · show min 8 _ < 2 ^ 32
      decide
    rintro _ _ ⟨⟩
    refine ⟨⟨trivial, trivial⟩, ?_⟩
    rintro _ _ ⟨⟩
    refine ⟨⟨trivial, trivial⟩, ?_⟩
    rintro _ _ ⟨⟩
    refine ⟨⟨⟨4, [1, 2, 3, 4], rfl, by decide⟩, by decide, ?_⟩, ?_⟩
    · rintro _ _ ⟨⟩
      left
      rfl
    · rintro _ _ ⟨⟩
      trivial

/-- Five bytes are reserved of which three lie beyond the end, and are not confirmed. After four
bytes have been written, one byte is reserved and confirmed. -/
def abandonedCalls : List RingBufferCall :=
  [.data (.writeData [0, 0, 0, 0, 0, 0, 0, 0]), .data (.deleteData 8 false),
    .getFreeElement 5 [9, 9, 9, 9, 9] (by decide), .data (.writeData [1, 2, 3, 4]),
    .getFreeElement 1 [5] (by decide), .confirmBytesWritten 1]

/-- The three bytes of the reservation that was not confirmed are copied over the last three
bytes. -/
theorem not_readsBack_ten :
  Step.Along stepWritten (fun s call => Confirmable s.2 call)
    (new (fun _ => 0) 10 false 5, ⟨[], none⟩) abandonedCalls ∧
  ∃ s results, Step.run stepWritten (new (fun _ => 0) 10 false 5, ⟨[], none⟩) abandonedCalls
    = some (s, results) ∧ ¬ ReadsBack s.1 s.2
  := by
  constructor
  · refine ⟨trivial, ?_⟩
    rintro _ _ ⟨⟩
    refine ⟨trivial, ?_⟩
    rintro _ _ ⟨⟩
    refine ⟨trivial, ?_⟩
    rintro _ _ ⟨⟩
    refine ⟨trivial, ?_⟩
    rintro _ _ ⟨⟩
    refine ⟨trivial, ?_⟩
    rintro _ _ ⟨⟩
    refine ⟨⟨1, [5], rfl, by decide⟩, ?_⟩
    rintro _ _ ⟨⟩
    trivial
  · refine ⟨_, _, rfl, ?_⟩
    intro h
    obtain ⟨status, data, r', hread, -, hdata⟩ := h 5 true false
    cases hread
    exact absurd (hdata rfl) (by decide)

end SimpleRingBuffer
