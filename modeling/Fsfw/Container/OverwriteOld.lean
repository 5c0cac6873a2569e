import Fsfw.Container.ByteQueue

/-!
# A ring buffer that overwrites old data

A ring buffer that overwrites old data should hold the last bytes written, as a queue that
drops its oldest bytes when it overflows (`ByteQueue.push`).  It does as long as nothing is
overwritten (`holdsLast_of_along`).  A write that overflows moves the write pointer past
the read pointer, and then the buffer seems to hold only what lies between the two: three bytes
and one more in a buffer for three bytes leave none (`not_holdsLast_four`).
-/

open Memory Circular

namespace ByteQueue

/-- The queue with `data` appended, without as many of its oldest bytes as it has no room
for. -/
def push (q : ByteQueue) (data : List UInt8) : ByteQueue where
  size := q.size
  maxExcess := q.maxExcess
  position := index q.size q.position data.length
  content := (q.content ++ data).drop (q.content.length + data.length - (q.size - 1))
  bounded := by
    have h := q.bounded
    rw [List.length_drop, List.length_append]
    omega

/-- Nothing is dropped from a queue that has room. -/
theorem push_of_fits {q : ByteQueue} {data : List UInt8} (h : q.Fits data) :
  q.push data = q.append data h
  := by
  have hlen : q.content.length + data.length - (q.size - 1) = 0 := by
    unfold Fits at h
    omega
  simp only [push, append, hlen, List.drop_zero]

end ByteQueue

/-- A call to a queue that drops its oldest bytes. It refuses only what is longer than the
queue. -/
def ByteQueue.stepOverwriting : Step ByteQueue DataCall RingBufferResult
  | q, .writeData data =>
      if data.length < q.size then
        some (q.push data, { status := .ok })
      else
        some (q, { status := .failed })
  | q, .readData amount incrementReadPtr readRemaining =>
      q.step (.readData amount incrementReadPtr readRemaining)
  | q, .deleteData amount deleteRemaining => q.step (.deleteData amount deleteRemaining)

namespace SimpleRingBuffer

/-- The call overwrites no unread data, and moves its pointer by fewer than `2 ^ 32` bytes. Data
that is longer than the buffer is refused. -/
def HasRoom (r : SimpleRingBuffer) : DataCall → Prop
  | .writeData data =>
      data.length ≤ r.getMaxSize → data.length ≤ r.availableWriteSpace ∧ data.length < 2 ^ 32
  | .readData amount incrementReadPtr _ =>
      incrementReadPtr = true → min amount r.getAvailableReadData < 2 ^ 32
  | .deleteData amount _ => min amount r.getAvailableReadData < 2 ^ 32

/-- The ring buffer overwrites old data, and holds the queue. -/
structure Holds (r : SimpleRingBuffer) (q : ByteQueue) : Prop where
  represents : Represents r q
  overwriteOld_eq : r.overwriteOld = true

/-- A call that overwrites nothing has the same result on the ring buffer and on the queue. -/
theorem stepData_refines
    {r : SimpleRingBuffer} {q : ByteQueue} {call : DataCall} (h : Holds r q)
    (hroom : HasRoom r call) :
  ∃ r' q' result, stepData r call = some (r', result)
    ∧ ByteQueue.stepOverwriting q call = some (q', result) ∧ Holds r' q'
  := by
  obtain ⟨hr, hover⟩ := h
  have hsize := hr.size_eq
  have hbounded := q.bounded
  cases call with
  | writeData data =>
      by_cases hlt : data.length < q.size
      · have hmax : data.length ≤ r.getMaxSize := by
          simp only [RingBufferBase.getMaxSize]
          omega
        obtain ⟨hspace, h32⟩ := hroom hmax
        have hfits : q.Fits data := by
          rw [hr.availableWriteSpace_eq] at hspace
          unfold ByteQueue.Fits
          omega
        obtain ⟨r', hwrite, hover', hr'⟩ := writeData_of_fits hr hfits h32
        use r', q.push data, { status := .ok }
        refine ⟨?_, ?_, ?_, ?_⟩
        · simp only [stepData, DataCall.toOp, step, hwrite]
        · simp only [ByteQueue.stepOverwriting, if_pos hlt]
        · rw [ByteQueue.push_of_fits hfits]
          apply hr'
        · rw [hover', hover]
      · have hmax : data.length > r.getMaxSize := by
          simp only [RingBufferBase.getMaxSize]
          omega
        use r, q, { status := .failed }
        refine ⟨?_, ?_, hr, hover⟩
        · simp only [stepData, DataCall.toOp, step, writeData, if_pos hmax]
        · simp only [ByteQueue.stepOverwriting, if_neg hlt]
  | readData amount incrementReadPtr readRemaining =>
      simp only [HasRoom, hr.getAvailableReadData_eq] at hroom
      obtain ⟨r', q', result, hstep, hqueue, -, hr', hover', -⟩ :=
        readData_refines hr readRemaining hroom
      use r', q', result, hstep, hqueue, hr', hover'.trans hover
  | deleteData amount deleteRemaining =>
      simp only [HasRoom, hr.getAvailableReadData_eq] at hroom
      obtain ⟨r', q', result, hstep, hqueue, -, hr', hover', -⟩ :=
        deleteData_refines hr deleteRemaining hroom
      use r', q', result, hstep, hqueue, hr', hover'.trans hover

/-- A newly constructed ring buffer that overwrites represents the empty queue, when its block
is as long as asked for or its only byte is never used. -/
theorem holds_new
    (garbage : ℕ → UInt8) {size maxExcessBytes : ℕ} (hpos : 0 < size)
    (h : size = 1 ∨ size + maxExcessBytes < 2 ^ 64) :
  Holds (new garbage size true maxExcessBytes)
    (ByteQueue.new size (min maxExcessBytes size) hpos)
  := by
  have hnew := represents_new garbage hpos h
  constructor
  · exact ⟨hnew.start_eq, hnew.size_eq, hnew.read_lt, hnew.write_eq, hnew.contents_eq,
      hnew.position_eq, hnew.maxExcess_eq, hnew.excess_eq, hnew.block⟩
  · rfl

/-- The calls have on the ring buffer the results they have on the queue that drops its oldest
bytes, and the readable bytes are those of the queue. -/
def HoldsLast (size maxExcessBytes : ℕ) (hpos : 0 < size) (garbage : ℕ → UInt8)
    (calls : List DataCall) : Prop :=
  ∃ r q results, Step.run stepData (new garbage size true maxExcessBytes) calls
      = some (r, results)
    ∧ Step.run ByteQueue.stepOverwriting (ByteQueue.new size (min maxExcessBytes size) hpos) calls
      = some (q, results)
    ∧ contents r.buffer r.size r.read r.getAvailableReadData = q.content

/-- As long as no unread data is overwritten, the readable bytes are the last ones written. -/
theorem holdsLast_of_along
    {size maxExcessBytes : ℕ} (hpos : 0 < size)
    (hblock : size = 1 ∨ size + maxExcessBytes < 2 ^ 64) (garbage : ℕ → UInt8)
    {calls : List DataCall}
    (hcalls : Step.Along stepData HasRoom (new garbage size true maxExcessBytes) calls) :
  HoldsLast size maxExcessBytes hpos garbage calls
  := by
  obtain ⟨r, q, results, hr, hq, hholds⟩ :=
    Step.run_simulation_along (fun _ _ _ => stepData_refines) (holds_new garbage hpos hblock)
      hcalls
  have hrep := hholds.represents
  use r, q, results, hr, hq
  rw [hrep.getAvailableReadData_eq, hrep.contents_eq]

/-- Two bytes, one of which is read, and two more in a ring buffer for three bytes. -/
theorem holdsLast_of_along_four :
  HoldsLast 4 0 (by decide) (fun _ => 0)
    [.writeData [1, 2], .readData 1 true false, .writeData [3, 4]]
  := by
  apply holdsLast_of_along
  · right
    decide
  · refine ⟨fun _ => by decide, ?_⟩
    rintro _ _ ⟨⟩
    refine ⟨fun _ => by decide, ?_⟩
    rintro _ _ ⟨⟩
    refine ⟨fun _ => by decide, ?_⟩
    rintro _ _ ⟨⟩
    trivial

/-- When a fourth byte is written into a ring buffer for three bytes, it seems to be empty. -/
theorem not_holdsLast_four :
  ¬ HoldsLast 4 0 (by decide) (fun _ => 0) [.writeData [1, 2, 3], .writeData [4]]
  := by
  rintro ⟨r, q, results, hr, hq, hcontents⟩
  have hempty : (Step.run stepData (new (fun _ => 0) 4 true 0)
      [.writeData [1, 2, 3], .writeData [4]]).map (fun e => e.1.getAvailableReadData)
      = some 0 := by decide
  have hlast : (Step.run ByteQueue.stepOverwriting (ByteQueue.new 4 (min 0 4) (by decide))
      [.writeData [1, 2, 3], .writeData [4]]).map (fun e => e.1.content)
      = some [2, 3, 4] := by decide
  simp only [hr, hq, Option.map_some, Option.some_inj] at hempty hlast
  rw [hempty, hlast] at hcontents
  cases hcontents

end SimpleRingBuffer
