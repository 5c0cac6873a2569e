import Fsfw.Container.ByteQueue
import Fsfw.StorageManager.StorageManagerIF
import Fsfw.TmTcServices.SpacePacketParser

/-!
# The server for telecommands

The server writes the bytes that it receives to a ring buffer.  When no more bytes are there, it
reads the ring buffer into the reception buffer, and hands the space packets in it to
`handleTcReception`.

It receives a stream when after every such cycle it has handed over the packets that are complete,
and the ring buffer holds the bytes of the incomplete packet behind them (`Receives`).  It does so
when no cycle ends within a packet, at least five bytes arrive in a cycle if any do, and garbage
among them is in front of the last packet or at the end (`receives_of_clean`).
-/

/-- What the server calls: the store for telecommands, and the queue of their destination. -/
structure TcEnvironment (σ : Type) where
  tcStore : StorageManagerIF σ
  sendMessage : StoreAddress → σ → ReturnValue × σ

/-- A server that has been initialised, with the packets handed to `handleTcReception` so far. -/
structure TcpTmTcServer (σ : Type) where
  receptionBuffer : List UInt8
  ringBuffer : SimpleRingBuffer
  lastRingBufferSize : UInt8
  spacePacketParser : SpacePacketParser
  outside : σ
  handed : List (List UInt8)

namespace TcpTmTcServer

variable {σ : Type} (E : TcEnvironment σ)

def new (garbage : ℕ → UInt8) (receptionBufferSize ringBufferSize : ℕ)
    (validPacketIds : List UInt16) (outside : σ) : TcpTmTcServer σ where
  receptionBuffer := List.replicate receptionBufferSize 0
  ringBuffer := SimpleRingBuffer.new garbage ringBufferSize true 0
  lastRingBufferSize := 0
  spacePacketParser := SpacePacketParser.new validPacketIds
  outside := outside
  handed := []

def handleTcReception (c : TcpTmTcServer σ) (spacePacket : List UInt8) :
    ReturnValue × TcpTmTcServer σ :=
  let c := { c with handed := c.handed ++ [spacePacket] }
  if spacePacket.length = 0 then
    (.failed, c)
  else
    match E.tcStore.addData spacePacket c.outside with
    | (.ok, storeId, outside) =>
        match E.sendMessage storeId outside with
        | (.ok, outside) => (.ok, { c with outside })
        | (result, outside) =>
            (result, { c with outside := (E.tcStore.deleteData storeId outside).2 })
    | (result, _, outside) => (result, { c with outside })

/-- The state of the loop over the packets: the status, the pointer into the reception buffer and
what the parser has told. -/
structure Parsing where
  status : ReturnValue
  bufPtr : ℕ
  info : FoundPacketInfo

/-- One round of the loop over the packets. -/
def round (readAmount : ℕ) (s : Parsing) (c : TcpTmTcServer σ) :
    Option (Parsing × TcpTmTcServer σ) :=
  match c.spacePacketParser.parseSpacePackets c.receptionBuffer s.bufPtr readAmount s.info with
  | none => none
  | some (.ok, bufPtr, info, spacePacketParser) =>
      if info.startIdx + info.sizeFound ≤ c.receptionBuffer.length then
        let (result, c) := handleTcReception E { c with spacePacketParser }
          ((c.receptionBuffer.drop info.startIdx).take info.sizeFound)
        let ringBuffer := (c.ringBuffer.deleteData info.sizeFound false).2.2
        some (⟨if result = .ok then s.status else result, bufPtr, info⟩, { c with
          ringBuffer := ringBuffer
          lastRingBufferSize := .ofNat ringBuffer.getAvailableReadData })
      else
        none
  | some (_, bufPtr, info, spacePacketParser) =>
      let ringBuffer := (c.ringBuffer.deleteData info.sizeFound false).2.2
      some (⟨s.status, bufPtr, info⟩, { c with
        spacePacketParser := spacePacketParser
        ringBuffer := ringBuffer
        lastRingBufferSize := .ofNat ringBuffer.getAvailableReadData })

/-- The loop over the packets, which is undefined when it needs more rounds than it is given. -/
def loop (readAmount : ℕ) : ℕ → Parsing → TcpTmTcServer σ → Option (ReturnValue × TcpTmTcServer σ)
  | 0, _, _ => none
  | rounds + 1, s, c =>
      if c.spacePacketParser.amountRead < readAmount then
        match round E readAmount s c with
        | none => none
        | some (s, c) => loop readAmount rounds s c
      else
        some (s.status, c)

def handleTcRingBufferData (rounds : ℕ) (c : TcpTmTcServer σ) (availableReadData : ℕ) :
    Option (ReturnValue × TcpTmTcServer σ) :=
  let readAmount :=
    if availableReadData ≥ c.receptionBuffer.length then c.receptionBuffer.length
    else availableReadData
  match c.ringBuffer.readData readAmount true false with
  | none => none
  | some (_, data, ringBuffer) =>
      let data := data.getD []
      loop E readAmount rounds ⟨.ok, 0, ⟨0, 0⟩⟩ { c with
        receptionBuffer := data ++ c.receptionBuffer.drop data.length
        ringBuffer := ringBuffer
        lastRingBufferSize := .ofNat availableReadData
        spacePacketParser := c.spacePacketParser.reset }

/-- Receive bytes, not more than the reception buffer has room for. -/
def receive (c : TcpTmTcServer σ) (data : List UInt8) : Option (TcpTmTcServer σ) :=
  if data.length ≤ c.receptionBuffer.length then
    match c.ringBuffer.writeData (some data) with
    | none => none
    | some (_, ringBuffer) => some { c with
        receptionBuffer := data ++ c.receptionBuffer.drop data.length
        ringBuffer := ringBuffer }
  else
    none

def receiveAll : List (List UInt8) → TcpTmTcServer σ → Option (TcpTmTcServer σ)
  | [], c => some c
  | data :: chunks, c =>
      match c.receive data with
      | none => none
      | some c => receiveAll chunks c

/-- A cycle of `handleServerOperation`: receive chunks until no more are there, and look for
packets then. -/
def handleServerOperation (rounds : ℕ) : Step (TcpTmTcServer σ) (List (List UInt8)) ReturnValue
  | c, chunks =>
      match receiveAll chunks c with
      | none => none
      | some c =>
          let availableReadData := c.ringBuffer.getAvailableReadData
          if availableReadData > c.lastRingBufferSize.toNat then
            match handleTcRingBufferData E rounds c availableReadData with
            | none => none
            | some (status, c) => some (c, status)
          else
            some (c, .ok)

/-- The bytes in the ring buffer. -/
def unread (c : TcpTmTcServer σ) : List UInt8 :=
  Circular.contents c.ringBuffer.buffer c.ringBuffer.size c.ringBuffer.read
    c.ringBuffer.getAvailableReadData

open StreamElement

/-- After every cycle the packets of the stream that are complete have been handed over one after
another, and the ring buffer holds the bytes of the incomplete packet behind them. -/
def Receives (c : TcpTmTcServer σ) (es : List StreamElement)
    (cycles : List (List (List UInt8))) : Prop :=
  ∃ rounds, ∀ k ≤ cycles.length, ∃ c' results,
    (handleServerOperation E rounds).run c (cycles.take k) = some (c', results) ∧
    (c'.handed, c'.unread) = cut es (cycles.take k).flatten.flatten.length

/-- The bytes that arrive in a cycle are those of some elements of the stream, with garbage only in
front of the last packet or at the end.  They are at least five if there are any, and the buffers
have room for them. -/
structure Clean (receptionBufferSize ringBufferSize : ℕ) (chunks : List (List UInt8))
    (es : List StreamElement) : Prop where
  arrives : chunks.flatten = stream es
  straight : Straight es
  enough : stream es = [] ∨ 5 ≤ (stream es).length
  reception : (stream es).length ≤ receptionBufferSize
  ring : (stream es).length < ringBufferSize

/-! ### Rounds -/

variable {E} {readAmount : ℕ} {s : Parsing} {c : TcpTmTcServer σ} {info : FoundPacketInfo}
  {bufPtr : ℕ} {P : SpacePacketParser}

/-- Handing a packet over changes the environment. -/
theorem handleTcReception_eq (c : TcpTmTcServer σ) (spacePacket : List UInt8) :
  ∃ result outside, handleTcReception E c spacePacket
    = (result, { c with outside := outside, handed := c.handed ++ [spacePacket] })
  := by
  rw [handleTcReception]
  split
  · exact ⟨_, _, rfl⟩
  · split
    · split
      · exact ⟨_, _, rfl⟩
      · exact ⟨_, _, rfl⟩
    · exact ⟨_, _, rfl⟩

/-- The bytes that were found are not deleted from a ring buffer that is empty. -/
theorem deleteData_of_empty {r : SimpleRingBuffer} (hempty : r.getAvailableReadData = 0) {n : ℕ}
    (hn : 0 < n) :
  (r.deleteData n false).2.2 = r
  := by
  simp [SimpleRingBuffer.deleteData, hempty, hn]

/-- A packet that is found is handed over. -/
theorem round_packet {front packet rest : List UInt8}
    (hempty : c.ringBuffer.getAvailableReadData = 0) (hpos : 0 < packet.length)
    (hmemory : c.receptionBuffer = front ++ (packet ++ rest))
    (hparse : c.spacePacketParser.parseSpacePackets c.receptionBuffer s.bufPtr readAmount s.info
      = some (.ok, bufPtr, ⟨front.length, packet.length⟩, P)) :
  ∃ status outside, round E readAmount s c
    = some (⟨status, bufPtr, ⟨front.length, packet.length⟩⟩, { c with
        spacePacketParser := P
        lastRingBufferSize := 0
        outside := outside
        handed := c.handed ++ [packet] })
  := by
  have hslice : (c.receptionBuffer.drop front.length).take packet.length = packet := by
    rw [hmemory, List.drop_left, List.take_left]
  have hle : front.length + packet.length ≤ c.receptionBuffer.length := by
    simp only [hmemory, List.length_append]
    omega
  obtain ⟨result, outside, hreception⟩ :=
    handleTcReception_eq (E := E) { c with spacePacketParser := P } packet
  use if result = .ok then s.status else result, outside
  simp only [round, hparse, if_pos hle, hslice, hreception, deleteData_of_empty hempty hpos, hempty]
  rfl

/-- Nothing is handed over when nothing is found. -/
theorem round_garbage (hempty : c.ringBuffer.getAvailableReadData = 0) (hpos : 0 < info.sizeFound)
    (hparse : c.spacePacketParser.parseSpacePackets c.receptionBuffer s.bufPtr readAmount s.info
      = some (SpacePacketParser.noPacketFound, bufPtr, info, P)) :
  round E readAmount s c
    = some (⟨s.status, bufPtr, info⟩, { c with
        spacePacketParser := P
        lastRingBufferSize := 0 })
  := by
  simp only [round, hparse, deleteData_of_empty hempty hpos, hempty]
  rfl

/-! ### Cycles -/

/-- The elements have been handled: their packets have been handed over, and nothing else has
changed but the environment. -/
structure Handled (es : List StreamElement) (c c' : TcpTmTcServer σ) : Prop where
  handed : c'.handed = c.handed ++ packets es
  ringBuffer : c'.ringBuffer = c.ringBuffer
  receptionBuffer : c'.receptionBuffer = c.receptionBuffer
  validPacketIds : c'.spacePacketParser.validPacketIds = c.spacePacketParser.validPacketIds
  lastRingBufferSize : c.lastRingBufferSize = 0 ∨ es ≠ [] → c'.lastRingBufferSize = 0

theorem Handled.trans {es fs : List StreamElement} {c c' c'' : TcpTmTcServer σ}
    (h : Handled es c c') (h' : Handled fs c' c'') (hes : es ≠ []) :
  Handled (es ++ fs) c c''
  where
  handed := by
    rw [h'.handed, h.handed, packets_append, List.append_assoc]
  ringBuffer := h'.ringBuffer.trans h.ringBuffer
  receptionBuffer := h'.receptionBuffer.trans h.receptionBuffer
  validPacketIds := h'.validPacketIds.trans h.validPacketIds
  lastRingBufferSize _ := h'.lastRingBufferSize (Or.inl (h.lastRingBufferSize (Or.inr hes)))

/-- The parser has read the bytes `front`, and the pointer is behind them. -/
structure AtFront (front : List UInt8) (readAmount : ℕ) (s : Parsing) (c : TcpTmTcServer σ) :
    Prop where
  bufPtr : s.bufPtr = front.length
  amountRead : c.spacePacketParser.amountRead = front.length
  nextStartIdx : c.spacePacketParser.nextStartIdx = front.length
  empty : c.ringBuffer.getAvailableReadData = 0
  validPacketIds : c.spacePacketParser.validPacketIds ≠ []
  enough : 5 ≤ readAmount
  width : readAmount < 2 ^ 64

/-- A round handles a packet and the garbage in front of it. -/
theorem round_behind_garbage {front packet rest : List UInt8} (garbage : List UInt8)
    (h : AtFront front readAmount s c)
    (hvalid : Valid c.spacePacketParser.validPacketIds
      (garbage.map .garbage ++ [.packet packet]))
    (hmemory : c.receptionBuffer = front ++ (garbage ++ (packet ++ rest)))
    (hsize : front.length + garbage.length + packet.length ≤ readAmount) :
  ∃ s' c', round E readAmount s c = some (s', c') ∧
    Handled (garbage.map .garbage ++ [.packet packet]) c c' ∧
    c'.spacePacketParser.amountRead = front.length + garbage.length + packet.length ∧
    (garbage = [] → AtFront (front ++ packet) readAmount s' c')
  := by
  have hdrop : c.receptionBuffer.drop s.bufPtr = garbage ++ (packet ++ rest) := by
    rw [hmemory, h.bufPtr, List.drop_left]
  have hread := h.amountRead
  have hparse := SpacePacketParser.parseSpacePackets_packet s.info
    h.validPacketIds hvalid hdrop (by omega) (h.nextStartIdx.trans_le (by omega)) h.width
  have hfront : garbage.length + c.spacePacketParser.amountRead = (front ++ garbage).length := by
    rw [hread, List.length_append, Nat.add_comm]
  have hpos : 0 < packet.length := by
    obtain ⟨high, low, -, -, hlength⟩ := hvalid.append_inv.1.length_eq
    omega
  rw [hfront] at hparse
  rw [← List.append_assoc] at hmemory
  obtain ⟨status, outside, hround⟩ := round_packet (E := E) h.empty hpos hmemory hparse
  refine ⟨_, _, hround, ?_, ?_, ?_⟩
  · constructor
    · simp [packets, packet?]
    · rfl
    · rfl
    · rfl
    · intro _
      rfl
  · simp
  · rintro rfl
    constructor
    · simp [h.bufPtr]
    · simp
    · simp
    · exact h.empty
    · exact h.validPacketIds
    · exact h.enough
    · exact h.width

/-- A round skips the garbage at the end. -/
theorem round_at_end {front garbage rest : List UInt8} (h : AtFront front readAmount s c)
    (hvalid : Valid c.spacePacketParser.validPacketIds (garbage.map .garbage))
    (hmemory : c.receptionBuffer = front ++ (garbage ++ rest))
    (hsize : front.length + garbage.length = readAmount) :
  ∃ s' c', round E readAmount s c = some (s', c') ∧ Handled (garbage.map .garbage) c c' ∧
    c'.spacePacketParser.amountRead = readAmount
  := by
  have hdrop : c.receptionBuffer.drop s.bufPtr = garbage ++ rest := by
    rw [hmemory, h.bufPtr, List.drop_left]
  have hread := h.amountRead
  have henough := h.enough
  have hparse := SpacePacketParser.parseSpacePackets_garbage s.info
    h.validPacketIds hvalid hdrop (by omega) h.enough (h.nextStartIdx.trans_le (by omega)) h.width
  have hround := round_garbage (E := E) h.empty (by simp; omega) hparse
  refine ⟨_, _, hround, ?_, rfl⟩
  constructor
  · simp
  · rfl
  · rfl
  · rfl
  · intro _
    rfl

/-- The loop ends when everything has been read. -/
theorem loop_end {rounds : ℕ} (h : readAmount ≤ c.spacePacketParser.amountRead) :
  loop E readAmount (rounds + 1) s c = some (s.status, c)
  := by
  rw [loop, if_neg (Nat.not_lt.mpr h)]

/-- The loop starts with a round when something is to be read. -/
theorem loop_round {rounds : ℕ} {s' : Parsing} {c' : TcpTmTcServer σ}
    (h : c.spacePacketParser.amountRead < readAmount)
    (hround : round E readAmount s c = some (s', c')) :
  loop E readAmount (rounds + 1) s c = loop E readAmount rounds s' c'
  := by
  simp only [loop, if_pos h, hround]

/-- The loop handles straight elements. -/
theorem loop_straight (rounds : ℕ) {front rest : List UInt8} {es : List StreamElement}
    (h : AtFront front readAmount s c) (hstraight : Straight es)
    (hvalid : Valid c.spacePacketParser.validPacketIds es)
    (hmemory : c.receptionBuffer = front ++ (stream es ++ rest))
    (hsize : front.length + (stream es).length = readAmount) (hrounds : es.length < rounds) :
  ∃ status c', loop E readAmount rounds s c = some (status, c') ∧ Handled es c c'
  := by
  obtain ⟨rounds, rfl⟩ := Nat.exists_eq_add_of_lt hrounds
  have hread := h.amountRead
  induction es generalizing front s c with
  | nil =>
      have hend : readAmount ≤ c.spacePacketParser.amountRead := by
        rw [hread, ← hsize]
        apply le_rfl
      use s.status, c, loop_end hend
      exact ⟨(List.append_nil _).symm, rfl, rfl, rfl, fun h => h.resolve_right (fun h => h rfl)⟩
  | cons e es ih =>
      cases e with
      | packet packet =>
          rw [stream_packet, List.length_append] at hsize
          rw [stream_packet, List.append_assoc] at hmemory
          have hfirst : Valid c.spacePacketParser.validPacketIds [.packet packet] :=
            ⟨hvalid.1, trivial⟩
          have hpos : c.spacePacketParser.amountRead < readAmount := by
            obtain ⟨high, low, -, -, hlength⟩ := hvalid.1.length_eq
            omega
          obtain ⟨s', c', hround, hhandled, -, hfront⟩ := round_behind_garbage (E := E) []
            h hfirst hmemory (by rw [List.length_nil]; omega)
          obtain ⟨status, c'', hloop, hhandled'⟩ := ih (hfront rfl) hstraight
            (hhandled.validPacketIds ▸ hvalid.2)
            (by rw [hhandled.receptionBuffer, hmemory, List.append_assoc])
            (by rw [List.length_append]; omega) (Nat.lt_add_of_pos_right (Nat.succ_pos rounds))
            (hfront rfl).amountRead
          use status, c''
          rw [List.length_cons, Nat.add_right_comm _ 1, loop_round hpos hround]
          use hloop
          apply hhandled.trans hhandled' nofun
      | garbage byte =>
          -- The garbage and the packet behind it are handled in one round, which is the last one.
          obtain ⟨garbage, last, rfl⟩ := hstraight
          rw [List.length_cons, Nat.add_right_comm _ 1]
          cases last with
          | none =>
              have heq : .garbage byte :: (garbage.map .garbage
                  ++ ((none : Option (List UInt8)).map StreamElement.packet).toList)
                  = (byte :: garbage).map .garbage := by
                simp
              rw [heq] at hvalid hmemory hsize ⊢
              rw [stream_garbage] at hmemory hsize
              obtain ⟨s', c', hround, hhandled, hend⟩ := round_at_end (E := E) h hvalid hmemory hsize
              use s'.status, c'
              rw [loop_round (by rw [hread, ← hsize]; simp) hround]
              use loop_end hend.ge
          | some packet =>
              have heq : .garbage byte :: (garbage.map .garbage
                  ++ ((some packet).map StreamElement.packet).toList)
                  = (byte :: garbage).map .garbage ++ [.packet packet] := by
                simp
              rw [heq] at hvalid hmemory hsize ⊢
              rw [stream_append, stream_garbage, stream_packet, stream_nil, List.append_nil] at *
              rw [List.append_assoc] at hmemory
              rw [List.length_append, ← Nat.add_assoc] at hsize
              obtain ⟨s', c', hround, hhandled, hend, -⟩ :=
                round_behind_garbage (E := E) _ h hvalid hmemory hsize.le
              use s'.status, c'
              rw [loop_round (by rw [hread, ← hsize, List.length_cons]; omega) hround]
              use loop_end (by rw [hend, hsize])

/-! ### Receiving -/

/-- Between two cycles the ring buffer holds the bytes that have been received since. -/
structure Ready (receptionBufferSize ringBufferSize : ℕ) (ids : List UInt16) (content : List UInt8)
    (c : TcpTmTcServer σ) : Prop where
  ring : ∃ q, SimpleRingBuffer.Represents c.ringBuffer q ∧ q.size = ringBufferSize ∧
    q.content = content
  reception : c.receptionBuffer.length = receptionBufferSize
  validPacketIds : c.spacePacketParser.validPacketIds = ids

/-- Everything that is received arrives in the ring buffer. -/
theorem receiveAll_ready {receptionBufferSize ringBufferSize : ℕ} {ids : List UInt16}
    {content : List UInt8} {chunks : List (List UInt8)} {c : TcpTmTcServer σ}
    (h : Ready receptionBufferSize ringBufferSize ids content c)
    (hreception : chunks.flatten.length ≤ receptionBufferSize)
    (hring : content.length + chunks.flatten.length < ringBufferSize)
    (h32 : ringBufferSize ≤ 2 ^ 32) :
  ∃ c', receiveAll chunks c = some c' ∧
    Ready receptionBufferSize ringBufferSize ids (content ++ chunks.flatten) c' ∧
    c'.handed = c.handed ∧ c'.lastRingBufferSize = c.lastRingBufferSize
  := by
  induction chunks generalizing content c with
  | nil =>
      use c, rfl
      rw [List.flatten_nil, List.append_nil]
      exact ⟨h, rfl, rfl⟩
  | cons data chunks ih =>
      rw [List.flatten_cons, List.length_append] at hreception hring
      obtain ⟨q, hrep, hsize, rfl⟩ := h.ring
      have hfits : q.Fits data := by
        rw [ByteQueue.Fits, hsize]
        omega
      obtain ⟨ringBuffer, hwrite, -, hrep'⟩ :=
        SimpleRingBuffer.writeData_of_fits hrep hfits (by omega)
      have hlength : data.length ≤ c.receptionBuffer.length := by
        rw [h.reception]
        omega
      have hreceive : c.receive data = some { c with
          receptionBuffer := data ++ c.receptionBuffer.drop data.length
          ringBuffer := ringBuffer } := by
        simp only [receive, if_pos hlength, hwrite]
      have hready : Ready receptionBufferSize ringBufferSize ids (q.content ++ data)
          { c with
            receptionBuffer := data ++ c.receptionBuffer.drop data.length
            ringBuffer := ringBuffer } := by
        constructor
        · exact ⟨q.append data hfits, hrep', hsize, rfl⟩
        · rw [← h.reception, List.length_append, List.length_drop]
          omega
        · exact h.validPacketIds
      obtain ⟨c', hall, hready', hhanded, hlast⟩ := ih hready (by omega)
        (by rw [List.length_append]; omega)
      use c'
      rw [receiveAll, hreceive, List.flatten_cons, ← List.append_assoc]
      exact ⟨hall, hready', hhanded, hlast⟩

/-- The bytes in the ring buffer are its content. -/
theorem Ready.unread_eq {receptionBufferSize ringBufferSize : ℕ} {ids : List UInt16}
    {content : List UInt8} {c : TcpTmTcServer σ}
    (h : Ready receptionBufferSize ringBufferSize ids content c) :
  c.unread = content
  := by
  obtain ⟨q, hrep, -, rfl⟩ := h.ring
  rw [unread, hrep.getAvailableReadData_eq, hrep.contents_eq]

/-- A clean cycle hands over its packets, and leaves nothing in the ring buffer. -/
theorem handleServerOperation_clean {receptionBufferSize ringBufferSize : ℕ} (rounds : ℕ)
    {ids : List UInt16} {chunks : List (List UInt8)} {es : List StreamElement}
    {c : TcpTmTcServer σ} (h : Ready receptionBufferSize ringBufferSize ids [] c)
    (hlast : c.lastRingBufferSize = 0) (hids : ids ≠ []) (hvalid : Valid ids es)
    (hclean : Clean receptionBufferSize ringBufferSize chunks es)
    (h32 : ringBufferSize ≤ 2 ^ 32) (hrounds : es.length < rounds) :
  ∃ c' status, handleServerOperation E rounds c chunks = some (c', status) ∧
    Ready receptionBufferSize ringBufferSize ids [] c' ∧ c'.lastRingBufferSize = 0 ∧
    c'.handed = c.handed ++ packets es
  := by
  have hreception := hclean.reception
  have hring := hclean.ring
  rw [← hclean.arrives] at hreception hring
  obtain ⟨c₁, hall, hready, hhanded, hlast₁⟩ := receiveAll_ready h hreception
    (by rw [List.length_nil, Nat.zero_add]; exact hring) h32
  rw [List.nil_append, hclean.arrives] at hready
  obtain ⟨q, hrep, hsize, hcontent⟩ := hready.ring
  have havailable : c₁.ringBuffer.getAvailableReadData = (stream es).length := by
    rw [hrep.getAvailableReadData_eq, hcontent]
  rcases hclean.enough with hempty | henough
  · obtain rfl := hvalid.eq_nil hempty
    use c₁, .ok
    simp only [handleServerOperation, hall, havailable]
    exact ⟨rfl, hready, hlast₁.trans hlast, hhanded.trans (List.append_nil _).symm⟩
  · -- All bytes are read into the reception buffer, and the ring buffer is empty afterwards.
    have hread := SimpleRingBuffer.readData_of_le hrep (n := (stream es).length)
      (by rw [hcontent]) true false
    rw [hcontent, List.take_length, if_pos rfl] at hread
    have hrep' := hrep.drop (n := (stream es).length) (by rw [hcontent])
      (hclean.ring.trans_le h32)
    have hdrop : q.content.drop (stream es).length = [] := by
      rw [hcontent, List.drop_length]
    have hreadAmount : (if c₁.ringBuffer.getAvailableReadData ≥ c₁.receptionBuffer.length
        then c₁.receptionBuffer.length else c₁.ringBuffer.getAvailableReadData)
        = (stream es).length := by
      rw [havailable, hready.reception]
      have := hclean.reception
      split <;> omega
    have hfront : AtFront [] (stream es).length ⟨.ok, 0, ⟨0, 0⟩⟩ { c₁ with
        receptionBuffer := stream es ++ c₁.receptionBuffer.drop (stream es).length
        ringBuffer := c₁.ringBuffer.incrementRead (stream es).length
        lastRingBufferSize := .ofNat (stream es).length
        spacePacketParser := c₁.spacePacketParser.reset } :=
      ⟨rfl, rfl, rfl, by rw [hrep'.getAvailableReadData_eq]; exact congrArg List.length hdrop,
        hready.validPacketIds.trans_ne hids, henough,
        (hclean.ring.trans_le h32).trans (by decide)⟩
    obtain ⟨status, c', hloop, hhandled⟩ := loop_straight (E := E) rounds hfront
      hclean.straight (hready.validPacketIds.symm ▸ hvalid) rfl (Nat.zero_add _) hrounds
    use c', status
    constructor
    · simp only [handleServerOperation, hall, handleTcRingBufferData, hreadAmount, hread]
      rw [if_pos (by rw [havailable, hlast₁, hlast]; exact Nat.lt_of_lt_of_le (by decide) henough)]
      simp only [Option.getD_some, havailable, hloop]
    · have hring' : c'.ringBuffer.Represents (q.drop (stream es).length) := by
        rw [hhandled.ringBuffer]
        apply hrep'
      refine ⟨⟨⟨_, hring', hsize, hdrop⟩, ?_, ?_⟩, ?_, ?_⟩
      · rw [hhandled.receptionBuffer, ← hready.reception, List.length_append, List.length_drop]
        have := hready.reception.trans_ge hclean.reception
        omega
      · exact hhandled.validPacketIds.trans hready.validPacketIds
      · apply hhandled.lastRingBufferSize
        right
        rintro rfl
        cases henough
      · rw [hhandled.handed, ← hhanded]

/-- Clean cycles hand over the packets of their elements. -/
theorem run_clean {receptionBufferSize ringBufferSize : ℕ} (rounds : ℕ) {ids : List UInt16}
    {cycles : List (List (List UInt8))} {parts : List (List StreamElement)} {c : TcpTmTcServer σ}
    (h : Ready receptionBufferSize ringBufferSize ids [] c) (hlast : c.lastRingBufferSize = 0)
    (hids : ids ≠ []) (hvalid : Valid ids parts.flatten)
    (hclean : List.Forall₂ (Clean receptionBufferSize ringBufferSize) cycles parts)
    (h32 : ringBufferSize ≤ 2 ^ 32) (hrounds : parts.flatten.length < rounds) :
  ∃ c' results, (handleServerOperation E rounds).run c cycles = some (c', results) ∧
    Ready receptionBufferSize ringBufferSize ids [] c' ∧
    c'.handed = c.handed ++ packets parts.flatten
  := by
  induction hclean generalizing c with
  | nil =>
      exact ⟨c, [], rfl, h, (List.append_nil _).symm⟩
  | @cons chunks part cycles parts hpart _ ih =>
      rw [List.flatten_cons] at hvalid hrounds
      rw [List.length_append] at hrounds
      obtain ⟨c₁, status, hstep, hready, hlast₁, hhanded⟩ := handleServerOperation_clean
        (E := E) rounds h hlast hids hvalid.append_left hpart h32 (by omega)
      obtain ⟨c', results, hrun, hready', hhanded'⟩ := ih hready hlast₁ hvalid.append_inv (by omega)
      use c', status :: results, Step.run_cons hstep hrun, hready'
      rw [hhanded', hhanded, List.flatten_cons, packets_append, List.append_assoc]

/-- Clean cycles bring the bytes of their elements. -/
theorem flatten_clean {receptionBufferSize ringBufferSize : ℕ}
    {cycles : List (List (List UInt8))} {parts : List (List StreamElement)}
    (hclean : List.Forall₂ (Clean receptionBufferSize ringBufferSize) cycles parts) :
  cycles.flatten.flatten = stream parts.flatten
  := by
  induction hclean with
  | nil => rfl
  | cons hpart _ ih =>
      rw [List.flatten_cons, List.flatten_append, List.flatten_cons, stream_append, ih,
        hpart.arrives]

/-- A server with packet ids receives a stream that arrives in clean cycles. -/
theorem receives_of_clean {garbage : ℕ → UInt8} {receptionBufferSize ringBufferSize : ℕ}
    {ids : List UInt16} {outside : σ} {cycles : List (List (List UInt8))}
    {parts : List (List StreamElement)} {rest : List StreamElement} (hids : ids ≠ [])
    (hpos : 0 < ringBufferSize) (h32 : ringBufferSize ≤ 2 ^ 32)
    (hvalid : Valid ids (parts.flatten ++ rest))
    (hclean : List.Forall₂ (Clean receptionBufferSize ringBufferSize) cycles parts) :
  Receives E (new garbage receptionBufferSize ringBufferSize ids outside)
    (parts.flatten ++ rest) cycles
  := by
  use parts.flatten.length + 1
  intro k _
  have hrep := SimpleRingBuffer.represents_new garbage hpos
    (show ringBufferSize = 1 ∨ ringBufferSize + 0 < 2 ^ 64 by omega)
  have hready : Ready receptionBufferSize ringBufferSize ids []
      (new garbage receptionBufferSize ringBufferSize ids outside) :=
    ⟨⟨_, ⟨hrep.start_eq, hrep.size_eq, hrep.read_lt, hrep.write_eq, hrep.contents_eq,
      hrep.position_eq, hrep.maxExcess_eq, hrep.excess_eq, hrep.block⟩, rfl, rfl⟩,
      List.length_replicate, rfl⟩
  have hsplit : parts.flatten = (parts.take k).flatten ++ (parts.drop k).flatten := by
    rw [← List.flatten_append, List.take_append_drop]
  have htake := List.forall₂_take k hclean
  rw [hsplit] at hvalid
  obtain ⟨c', results, hrun, hready', hhanded⟩ := run_clean (E := E)
    (parts.flatten.length + 1) hready rfl hids hvalid.append_left.append_left htake h32
    (by rw [hsplit, List.length_append]; omega)
  use c', results, hrun
  rw [hready'.unread_eq, hhanded, flatten_clean htake, hsplit, List.append_assoc,
    cut_append (by rw [← List.append_assoc]; exact hvalid)]
  rfl

/-- The loop does not end when it finds a packet that is incomplete. -/
theorem loop_split (rounds size : ℕ) (s : Parsing) (c : TcpTmTcServer σ)
    (hempty : c.ringBuffer.getAvailableReadData = 0)
    (hpos : 0 < size) (hread : c.spacePacketParser.amountRead < readAmount)
    (hparse : ∀ info,
      c.spacePacketParser.parseSpacePackets c.receptionBuffer s.bufPtr readAmount info
        = some (SpacePacketParser.splitPacket, s.bufPtr, { info with sizeFound := size },
            c.spacePacketParser)) :
  loop E readAmount rounds s c = none
  := by
  induction rounds generalizing s c with
  | zero => rfl
  | succ rounds ih =>
      have hround : round E readAmount s c
          = some (⟨s.status, s.bufPtr, ⟨s.info.startIdx, size⟩⟩,
              { c with lastRingBufferSize := 0 }) := by
        simp only [round, hparse, deleteData_of_empty hempty hpos, hempty]
        rfl
      rw [loop_round hread hround]
      exact ih ⟨s.status, s.bufPtr, ⟨s.info.startIdx, size⟩⟩ _ hempty hread hparse

/-- An environment in which everything succeeds. -/
def accepting : TcEnvironment Unit where
  tcStore :=
    { addData := fun _ _ => (.ok, ⟨0, 0⟩, ())
      deleteData := fun _ _ => (.ok, ()) }
  sendMessage _ _ := (.ok, ())

/-- A packet with the id `0x1801` and one byte of data arrives in two chunks, and a byte of garbage
and another packet in the next cycle. -/
theorem receives_of_clean_two :
  Receives accepting (new (fun _ => 0) 16 16 [0x1801] ())
    ([[.packet [0x18, 1, 0, 0, 0, 0, 7]], [.garbage 5, .packet [0x18, 1, 0, 0, 0, 0, 8]]].flatten
      ++ [])
    [[[0x18, 1, 0], [0, 0, 0, 7]], [[5, 0x18, 1, 0, 0, 0, 0, 8]]]
  := by
  apply receives_of_clean
  · simp
  · decide
  · decide
  · exact ⟨⟨by decide, rfl⟩, by simp [NoId, stream, bytes]; decide, ⟨by decide, rfl⟩, trivial⟩
  · refine .cons ⟨rfl, trivial, Or.inr (by decide), by decide, by decide⟩
      (.cons ⟨rfl, ?_, Or.inr (by decide), by decide, by decide⟩ .nil)
    exact ⟨[], some _, rfl⟩

/-- The server that has received six bytes of a packet of seven. -/
def sixBytes : TcpTmTcServer Unit :=
  { new (fun _ => 0) 16 16 [0x1801] () with
    receptionBuffer := [0x18, 1, 0, 0, 0, 0] ++ List.replicate 10 0
    ringBuffer := { SimpleRingBuffer.new (fun _ => 0) 16 true 0 with
      write := 6
      buffer := Memory.overwrite (fun _ => 0) 0 [0x18, 1, 0, 0, 0, 0] } }

/-- When six bytes of a packet of seven have arrived, the server looks for the packet again and
again.  Five bytes of it are dropped.  Behind garbage and a packet the next packet is not found. -/
theorem not_receives :
  (¬ Receives accepting (new (fun _ => 0) 16 16 [0x1801] ())
    [.packet [0x18, 1, 0, 0, 0, 0, 7]] [[[0x18, 1, 0, 0, 0, 0]], [[7]]]) ∧
  (¬ Receives accepting (new (fun _ => 0) 16 16 [0x1801] ())
    [.packet [0x18, 1, 0, 0, 0, 0, 7]] [[[0x18, 1, 0, 0, 0]], [[0, 7]]]) ∧
  ¬ Receives accepting (new (fun _ => 0) 32 32 [0x1801] ())
    [.garbage 5, .packet [0x18, 1, 0, 0, 0, 0, 7], .packet [0x18, 1, 0, 0, 0, 0, 8],
      .packet [0x18, 1, 0, 0, 0, 0, 9]]
    [[[5, 0x18, 1, 0, 0, 0, 0, 7, 0x18, 1, 0, 0, 0, 0, 8, 0x18, 1, 0, 0, 0, 0, 9]]]
  := by
  and_intros
  · rintro ⟨rounds, h⟩
    obtain ⟨c, results, hrun, -⟩ := h 1 (by decide)
    have hall : receiveAll [[0x18, 1, 0, 0, 0, 0]] (new (fun _ => 0) 16 16 [0x1801] ())
        = some sixBytes := rfl
    have hhandle : handleTcRingBufferData accepting rounds sixBytes 6 = none :=
      loop_split rounds 7 ⟨.ok, 0, ⟨0, 0⟩⟩ { sixBytes with
        ringBuffer := { sixBytes.ringBuffer with read := 6 }
        lastRingBufferSize := 6 } rfl (by decide) (by decide) (fun _ => rfl)
    have hstep : handleServerOperation accepting rounds (new (fun _ => 0) 16 16 [0x1801] ())
        [[0x18, 1, 0, 0, 0, 0]] = none := by
      rw [handleServerOperation, hall]
      apply (if_pos (by decide)).trans
      rw [show sixBytes.ringBuffer.getAvailableReadData = 6 from rfl, hhandle]
    obtain ⟨c', status, results', hstep', -⟩ := Step.run_cons_inv hrun
    rw [hstep] at hstep'
    cases hstep'
  · rintro ⟨rounds, h⟩
    obtain ⟨c, results, hrun, hcut⟩ := h 1 (by decide)
    match rounds, hrun with
    | 0, hrun => cases hrun
    | 1, hrun => cases hrun
    | rounds + 2, hrun =>
        cases hrun
        apply absurd hcut
        decide
  · rintro ⟨rounds, h⟩
    obtain ⟨c, results, hrun, hcut⟩ := h 1 (by decide)
    match rounds, hrun with
    | 0, hrun => cases hrun
    | 1, hrun => cases hrun
    | 2, hrun => cases hrun
    | 3, hrun => cases hrun
    | rounds + 4, hrun =>
        cases hrun
        apply absurd hcut
        decide

end TcpTmTcServer
