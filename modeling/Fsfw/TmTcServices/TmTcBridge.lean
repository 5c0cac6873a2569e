import Fsfw.Container.FIFOBase
import Fsfw.Library.Run
import Fsfw.StorageManager.StorageManagerIF

/-!
# The bridge for telemetry

The bridge receives messages with the addresses of telemetry packets in a store.  While the link
is up it sends the packets, up to a number per cycle.  Otherwise it keeps their addresses, up to
the capacity of its FIFO, and sends those packets in later cycles.  A packet is deleted from the
store when it has been sent, and when its address cannot be kept.

The bridge conserves packets when every address that was received has been deleted once or is
kept, only what could be read is sent, and what was kept is sent in the order of its arrival
(`Conserves`).  It does so in every run in which a FIFO without room for anything is not told to
overwrite its oldest address, and every kept packet can still be read when its turn comes
(`conserves_of_run`).
-/

/-- What the bridge calls: the store, and the function that sends a packet. -/
structure TmEnvironment (σ : Type) where
  getData : StoreAddress → σ → ReturnValue × List UInt8
  deleteData : StoreAddress → σ → ReturnValue × σ
  sendTm : List UInt8 → σ → ReturnValue × σ

/-- What the bridge does with a packet.  A packet that is sent has been kept or not, and reading
it has had a result. -/
inductive TmEvent where
  | received (storeId : StoreAddress)
  | kept (storeId : StoreAddress)
  | overwritten (storeId : StoreAddress)
  | sent (wasKept : Bool) (storeId : StoreAddress) (read : ReturnValue) (data : List UInt8)
      (result : ReturnValue)
  | deleted (storeId : StoreAddress)

structure TmTcBridge where
  communicationLinkUp : Bool
  tmStored : Bool
  warningSwitch : Bool
  overwriteOld : Bool
  packetSentCounter : ℕ
  sentPacketsPerCycle : ℕ
  tmFifo : FIFOBase StoreAddress

namespace TmTcBridge

def limitStoredDataSentPerCycle : ℕ := 15

/-- A bridge that has been initialised. -/
def new (garbage : ℕ → StoreAddress) (maxNumberOfPacketsStored : ℕ) : TmTcBridge where
  communicationLinkUp := true
  tmStored := false
  warningSwitch := true
  overwriteOld := true
  packetSentCounter := 0
  sentPacketsPerCycle := 5
  tmFifo := FIFOBase.new garbage maxNumberOfPacketsStored

def setNumberOfSentPacketsPerCycle (B : TmTcBridge) (sentPacketsPerCycle : ℕ) :
    ReturnValue × TmTcBridge :=
  if sentPacketsPerCycle ≤ limitStoredDataSentPerCycle then
    (.ok, { B with sentPacketsPerCycle })
  else
    (.failed, B)

def setFifoToOverwriteOldData (B : TmTcBridge) (overwriteOld : Bool) : TmTcBridge :=
  { B with overwriteOld }

def registerCommConnect (B : TmTcBridge) : TmTcBridge :=
  { B with communicationLinkUp := true }

def registerCommDisconnect (B : TmTcBridge) : TmTcBridge :=
  { B with communicationLinkUp := false }

/-- A packet that arrives is kept, and not sent. -/
def Keeps (B : TmTcBridge) : Prop :=
  B.communicationLinkUp = false ∨ B.sentPacketsPerCycle ≤ B.packetSentCounter

instance (B : TmTcBridge) : Decidable B.Keeps :=
  inferInstanceAs (Decidable (_ ∨ _))

/-- Kept packets are sent, as long as there are any. -/
def SendsKept (B : TmTcBridge) : Prop :=
  B.tmFifo.isEmpty = false ∧ B.packetSentCounter < B.sentPacketsPerCycle

instance (B : TmTcBridge) : Decidable B.SendsKept :=
  inferInstanceAs (Decidable (_ ∧ _))

end TmTcBridge

/-- A bridge with its environment, and what it has done so far. -/
structure Downlink (σ : Type) where
  bridge : TmTcBridge
  outside : σ
  log : List TmEvent

namespace Downlink

variable {σ : Type} (E : TmEnvironment σ)

def record (c : Downlink σ) (event : TmEvent) : Downlink σ :=
  { c with log := c.log ++ [event] }

def deleteData (storeId : StoreAddress) (c : Downlink σ) : Downlink σ :=
  { c with outside := (E.deleteData storeId c.outside).2 }.record (.deleted storeId)

/-- Send what reading a packet has given, which is nothing when it failed. -/
def sendTm (wasKept : Bool) (storeId : StoreAddress) (read : ReturnValue × List UInt8)
    (c : Downlink σ) : ReturnValue × Downlink σ :=
  let (result, outside) := E.sendTm read.2 c.outside
  (result, { c with outside }.record (.sent wasKept storeId read.1 read.2 result))

/-- Put an address into the FIFO, which may have no room. -/
def insert (storeId : StoreAddress) (c : Downlink σ) : Downlink σ :=
  match c.bridge.tmFifo.insert storeId with
  | (.ok, tmFifo) =>
      { c with bridge := { c.bridge with tmFifo, tmStored := true } }.record (.kept storeId)
  | (_, tmFifo) => { c with bridge := { c.bridge with tmFifo, tmStored := true } }

/-- Delete the oldest address of the FIFO, or the invalid one when there is none. -/
def overwriteOldest (c : Downlink σ) : Downlink σ :=
  match c.bridge.tmFifo.retrieve with
  | (_, some storeId, tmFifo) =>
      deleteData E storeId
        ({ c with bridge := { c.bridge with tmFifo } }.record (.overwritten storeId))
  | (_, none, tmFifo) =>
      deleteData E StoreAddress.invalid { c with bridge := { c.bridge with tmFifo } }

def storeDownlinkData (storeId : StoreAddress) (c : Downlink σ) : ReturnValue × Downlink σ :=
  if c.bridge.tmFifo.isFull then
    let c := { c with bridge := { c.bridge with warningSwitch := false } }
    if c.bridge.overwriteOld then
      (.ok, (c.overwriteOldest E).insert storeId)
    else
      (.failed, c)
  else
    (.ok, c.insert storeId)

/-- One round of `handleTmQueue`. -/
def handleMessage (storeId : StoreAddress) (status : ReturnValue) (c : Downlink σ) :
    ReturnValue × Downlink σ :=
  let c := c.record (.received storeId)
  if c.bridge.Keeps then
    match c.storeDownlinkData E storeId with
    | (.ok, c) => (status, c)
    | (_, c) => (status, c.deleteData E storeId)
  else
    match E.getData storeId c.outside with
    | (.ok, data) =>
        match c.sendTm E false storeId (.ok, data) with
        | (.ok, c) =>
            let packetSentCounter := c.bridge.packetSentCounter + 1
            (status, deleteData E storeId
              { c with bridge := { c.bridge with packetSentCounter } })
        | (result, c) => (result, c.deleteData E storeId)
    | (result, _) => (result, c.deleteData E storeId)

def handleTmQueue : List StoreAddress → ReturnValue → Downlink σ → ReturnValue × Downlink σ
  | [], status, c => (status, c)
  | storeId :: messages, status, c =>
      let (status, c) := c.handleMessage E storeId status
      handleTmQueue messages status c

/-- One round of `handleStoredTm`.  What is sent does not depend on whether it could be read. -/
def handleKept (status : ReturnValue) (c : Downlink σ) : ReturnValue × Downlink σ :=
  match c.bridge.tmFifo.retrieve with
  | (_, none, _) => (status, c) -- The loop has seen that there is an address.
  | (_, some storeId, tmFifo) =>
      let c := { c with bridge := { c.bridge with tmFifo } }
      let read := E.getData storeId c.outside
      let status := if read.1 = .ok then status else read.1
      let (result, c) := c.sendTm E true storeId read
      let status := if result = .ok then status else result
      let packetSentCounter := c.bridge.packetSentCounter + 1
      let bridge := { c.bridge with packetSentCounter }
      let bridge :=
        if bridge.tmFifo.isEmpty then
          { bridge with warningSwitch := true, tmStored := false }
        else
          bridge
      (status, deleteData E storeId { c with bridge })

/-- The loop of `handleStoredTm`, of which every round takes an address out of the FIFO. -/
def handleStoredLoop : ℕ → ReturnValue → Downlink σ → ReturnValue × Downlink σ
  | 0, status, c => (status, c)
  | rounds + 1, status, c =>
      if c.bridge.SendsKept then
        let (status, c) := c.handleKept E status
        handleStoredLoop rounds status c
      else
        (status, c)

def handleStoredTm (c : Downlink σ) : ReturnValue × Downlink σ :=
  handleStoredLoop E c.bridge.tmFifo.currentSize .ok c

/-- The kept packets are looked at when there are any, and the cycle allows for more. -/
def LooksAtKept (c : Downlink σ) : Prop :=
  c.bridge.tmStored = true ∧ c.bridge.communicationLinkUp = true ∧
    c.bridge.packetSentCounter < c.bridge.sentPacketsPerCycle

instance (c : Downlink σ) : Decidable c.LooksAtKept :=
  inferInstanceAs (Decidable (_ ∧ _ ∧ _))

/-- A cycle, with the messages that are in the queue. -/
def handleTm (messages : List StoreAddress) (c : Downlink σ) : ReturnValue × Downlink σ :=
  let (status, c) := c.handleTmQueue E messages .ok
  let (status, c) :=
    if c.LooksAtKept then
      match c.handleStoredTm E with
      | (.ok, c) => (status, c)
      | (result, c) => (result, c)
    else
      (status, c)
  (status, { c with bridge := { c.bridge with packetSentCounter := 0 } })

/-- What happens to a bridge.  Others change its environment. -/
inductive Input (σ : Type) where
  | registerCommConnect
  | registerCommDisconnect
  | setNumberOfSentPacketsPerCycle (sentPacketsPerCycle : ℕ)
  | setFifoToOverwriteOldData (overwriteOld : Bool)
  | others (outside : σ)
  | handleTm (messages : List StoreAddress)

/-- One step, with the value that is returned. -/
def step : Step (Downlink σ) (Input σ) ReturnValue
  | c, .registerCommConnect => some ({ c with bridge := c.bridge.registerCommConnect }, .ok)
  | c, .registerCommDisconnect => some ({ c with bridge := c.bridge.registerCommDisconnect }, .ok)
  | c, .setNumberOfSentPacketsPerCycle sentPacketsPerCycle =>
      let (result, bridge) := c.bridge.setNumberOfSentPacketsPerCycle sentPacketsPerCycle
      some ({ c with bridge }, result)
  | c, .setFifoToOverwriteOldData overwriteOld =>
      some ({ c with bridge := c.bridge.setFifoToOverwriteOldData overwriteOld }, .ok)
  | c, .others outside => some ({ c with outside }, .ok)
  | c, .handleTm messages =>
      let (status, c) := c.handleTm E messages
      some (c, status)

/-! ### Conservation -/

end Downlink

namespace TmEvent

def receivedId : TmEvent → Option StoreAddress
  | .received storeId => some storeId
  | _ => none

def keptId : TmEvent → Option StoreAddress
  | .kept storeId => some storeId
  | _ => none

/-- The address of a packet that is kept no longer. -/
def takenId : TmEvent → Option StoreAddress
  | .overwritten storeId => some storeId
  | .sent true storeId .. => some storeId
  | _ => none

def sentId : TmEvent → Option StoreAddress
  | .sent _ storeId .. => some storeId
  | _ => none

/-- The address of a packet that is sent after it has been kept. -/
def sentKeptId : TmEvent → Option StoreAddress
  | .sent true storeId .. => some storeId
  | _ => none

def deletedId : TmEvent → Option StoreAddress
  | .deleted storeId => some storeId
  | _ => none

/-- Only what could be read is sent. -/
def ReadWell : TmEvent → Prop
  | .sent _ _ read .. => read = .ok
  | _ => True

/-- A packet is sent successfully. -/
def isSuccess : TmEvent → Bool
  | .sent _ _ _ _ result => result = .ok
  | _ => false

end TmEvent

namespace Downlink

open TmEvent

variable {σ : Type} {E : TmEnvironment σ}

/-- The addresses of the packets that are kept. -/
def kept (c : Downlink σ) : List StoreAddress :=
  c.bridge.tmFifo.stored

/-- The number of packets that were sent successfully. -/
def successes (c : Downlink σ) : ℕ :=
  c.log.countP isSuccess

/-- Every address that was received has been deleted once or is kept; no address is sent more
often than it was received; what is sent could be read; what is kept leaves the FIFO in the order
of its arrival, and is sent in that order; and the bridge knows whether anything is kept. -/
structure Conserves (c : Downlink σ) : Prop where
  deleted : (c.log.filterMap receivedId : Multiset StoreAddress)
    = (c.log.filterMap deletedId : Multiset StoreAddress) + (c.kept : Multiset StoreAddress)
  sent : (c.log.filterMap sentId : Multiset StoreAddress)
    ≤ (c.log.filterMap receivedId : Multiset StoreAddress)
  read : ∀ event ∈ c.log, event.ReadWell
  arrival : (c.log.filterMap keptId).Sublist (c.log.filterMap receivedId)
  order : c.log.filterMap takenId ++ c.kept = c.log.filterMap keptId
  sentKept : (c.log.filterMap sentKeptId).Sublist (c.log.filterMap takenId)
  tmStored : c.bridge.tmStored = true ↔ c.kept ≠ []

/-- Packets that are sent after they were kept are among those that left the FIFO, in that
order. -/
theorem sentKept_sublist (log : List TmEvent) :
  (log.filterMap sentKeptId).Sublist (log.filterMap takenId)
  := by
  induction log with
  | nil =>
      apply List.Sublist.slnil
  | cons event log ih =>
      cases event with
      | sent wasKept storeId read data result =>
          cases wasKept with
          | true => apply ih.cons_cons storeId
          | false => apply ih
      | overwritten storeId => apply ih.cons storeId
      | received _ | kept _ | deleted _ => apply ih

/-- Between two rounds every packet that was sent has been deleted, and the FIFO is well
formed. -/
structure Inv (c : Downlink σ) : Prop where
  fifo : c.bridge.tmFifo.Inv
  deleted : (c.log.filterMap receivedId : Multiset StoreAddress)
    = (c.log.filterMap deletedId : Multiset StoreAddress) + (c.kept : Multiset StoreAddress)
  sent : (c.log.filterMap sentId : Multiset StoreAddress)
    ≤ (c.log.filterMap deletedId : Multiset StoreAddress)
  read : ∀ event ∈ c.log, event.ReadWell
  arrival : (c.log.filterMap keptId).Sublist (c.log.filterMap receivedId)
  order : c.log.filterMap takenId ++ c.kept = c.log.filterMap keptId
  tmStored : c.bridge.tmStored = true ↔ c.kept ≠ []

theorem Inv.conserves {c : Downlink σ} (h : c.Inv) :
  c.Conserves
  where
  deleted := h.deleted
  sent := by
    rw [h.deleted]
    apply h.sent.trans (Multiset.le_add_right _ _)
  read := h.read
  arrival := h.arrival
  order := h.order
  sentKept := sentKept_sublist c.log
  tmStored := h.tmStored

/-- What a round does with a packet: the events, and the addresses kept before and after it. -/
inductive Round : List TmEvent → List StoreAddress → List StoreAddress → Prop where
  | keep (storeId : StoreAddress) (kept : List StoreAddress) :
      Round [.received storeId, .kept storeId] kept (kept ++ [storeId])
  | overwrite (storeId oldest : StoreAddress) (kept : List StoreAddress) :
      Round [.received storeId, .overwritten oldest, .deleted oldest, .kept storeId]
        (oldest :: kept) (kept ++ [storeId])
  | reject (storeId : StoreAddress) (kept : List StoreAddress) :
      Round [.received storeId, .deleted storeId] kept kept
  | send (storeId : StoreAddress) (data : List UInt8) (result : ReturnValue)
      (kept : List StoreAddress) :
      Round [.received storeId, .sent false storeId .ok data result, .deleted storeId] kept kept
  | sendKept (storeId : StoreAddress) (data : List UInt8) (result : ReturnValue)
      (kept : List StoreAddress) :
      Round [.sent true storeId .ok data result, .deleted storeId] (storeId :: kept) kept

theorem Round.readWell {events : List TmEvent} {before after : List StoreAddress}
    (h : Round events before after) :
  ∀ event ∈ events, event.ReadWell
  := by
  cases h <;> simp [ReadWell]

/-- A round restores the invariant. -/
theorem Inv.round {c c' : Downlink σ} (h : c.Inv) {events : List TmEvent}
    (hround : Round events c.kept c'.kept) (hlog : c'.log = c.log ++ events)
    (hfifo : c'.bridge.tmFifo.Inv) (htmStored : c'.bridge.tmStored = true ↔ c'.kept ≠ []) :
  c'.Inv
  := by
  obtain ⟨-, hdeleted, hsent, hread, harrival, horder, -⟩ := h
  generalize hbefore : c.kept = before at *
  generalize hafter : c'.kept = after at *
  refine ⟨hfifo, ?_, ?_, ?_, ?_, ?_, hafter ▸ htmStored⟩
  · rw [hafter, hlog]
    simp only [List.filterMap_append, ← Multiset.coe_add, hdeleted]
    cases hround <;>
      simp only [List.filterMap, receivedId, deletedId, ← Multiset.coe_add,
        ← Multiset.cons_coe, ← Multiset.singleton_add, Multiset.coe_nil, add_zero] <;>
      abel
  · rw [hlog]
    simp only [List.filterMap_append, ← Multiset.coe_add]
    apply add_le_add hsent
    cases hround <;> simp [List.filterMap, sentId, deletedId]
  · rw [hlog]
    intro event hmem
    rcases List.mem_append.mp hmem with hmem | hmem
    · apply hread event hmem
    · apply hround.readWell event hmem
  · rw [hlog]
    simp only [List.filterMap_append]
    apply harrival.append
    cases hround <;> simp [List.filterMap, keptId, receivedId]
  · rw [hafter, hlog]
    simp only [List.filterMap_append, ← horder]
    cases hround <;> simp [List.filterMap, keptId, takenId]

/-! ### Rounds -/

/-- A packet that is to be kept finds a place, or is not told to overwrite the oldest one. -/
def CanKeep (c : Downlink σ) : Prop :=
  c.bridge.Keeps → c.bridge.overwriteOld = true → 0 < c.bridge.tmFifo.maxCapacity

/-- The packet that is kept longest can be read. -/
def CanRead (E : TmEnvironment σ) (c : Downlink σ) : Prop :=
  ∀ storeId, c.kept.head? = some storeId → (E.getData storeId c.outside).1 = .ok

/-- An address is inserted behind the others. -/
theorem insert_eq {c : Downlink σ} (hfifo : c.bridge.tmFifo.Inv)
    (hroom : c.bridge.tmFifo.isFull = false) (storeId : StoreAddress) :
  ∃ tmFifo, c.insert storeId
      = ⟨{ c.bridge with tmFifo, tmStored := true }, c.outside, c.log ++ [.kept storeId]⟩ ∧
    tmFifo.Inv ∧ tmFifo.maxCapacity = c.bridge.tmFifo.maxCapacity ∧
    tmFifo.stored = c.kept ++ [storeId]
  := by
  obtain ⟨tmFifo, hinsert, hinv, hcapacity, hstored⟩ := hfifo.insert_spec storeId hroom
  use tmFifo
  simp only [insert, hinsert, record]
  exact ⟨trivial, hinv, hcapacity, hstored⟩

/-- The oldest address is taken out and deleted. -/
theorem overwriteOldest_eq {c : Downlink σ} (hfifo : c.bridge.tmFifo.Inv) {oldest : StoreAddress}
    {rest : List StoreAddress} (hkept : c.kept = oldest :: rest) :
  ∃ tmFifo, c.overwriteOldest E
      = ⟨{ c.bridge with tmFifo }, (E.deleteData oldest c.outside).2,
          c.log ++ [.overwritten oldest, .deleted oldest]⟩ ∧
    tmFifo.Inv ∧ tmFifo.maxCapacity = c.bridge.tmFifo.maxCapacity ∧ tmFifo.stored = rest
  := by
  obtain ⟨tmFifo, hretrieve, hinv, hcapacity, hstored⟩ := hfifo.retrieve_spec hkept
  use tmFifo
  simp only [overwriteOldest, hretrieve, deleteData, record, List.append_assoc,
    List.cons_append, List.nil_append]
  exact ⟨trivial, hinv, hcapacity, hstored⟩

/-- What a round does with its packet, and with the bridge.  Every success is counted. -/
structure Handled (c c' : Downlink σ) : Prop where
  round : ∃ events, Round events c.kept c'.kept ∧ c'.log = c.log ++ events
  fifo : c'.bridge.tmFifo.Inv
  tmStored : c'.bridge.tmStored = true ↔ c'.kept ≠ []
  counted : c'.successes + c.bridge.packetSentCounter
    ≤ c.successes + c'.bridge.packetSentCounter
  limit : c'.bridge.sentPacketsPerCycle = c.bridge.sentPacketsPerCycle
  counter : c.bridge.packetSentCounter ≤ c.bridge.sentPacketsPerCycle →
    c'.bridge.packetSentCounter ≤ c.bridge.sentPacketsPerCycle

theorem Inv.handled {c c' : Downlink σ} (h : c.Inv) (hhandled : Handled c c') :
  c'.Inv
  := by
  obtain ⟨events, hround, hlog⟩ := hhandled.round
  apply h.round hround hlog hhandled.fifo hhandled.tmStored

section Message

variable {c : Downlink σ} (h : c.Inv) (storeId : StoreAddress) (status : ReturnValue)

include h

theorem Inv.handleMessage_of_room (hkeeps : c.bridge.Keeps)
    (hroom : c.bridge.tmFifo.isFull = false) :
  Handled c (c.handleMessage E storeId status).2
  := by
  obtain ⟨tmFifo, hinsert, hinv, _, hstored⟩ :=
    insert_eq (c := c.record (.received storeId)) h.fifo hroom storeId
  have heq : (c.handleMessage E storeId status).2
      = (c.record (.received storeId)).insert storeId := by
    simp [handleMessage, storeDownlinkData, record, hkeeps, hroom]
  rw [heq, hinsert]
  refine ⟨⟨[.received storeId, .kept storeId], ?_, ?_⟩, hinv, ?_, ?_, rfl, id⟩
  · simp only [kept, hstored]
    apply Round.keep
  · simp [record]
  · simp [kept, hstored]
  · simp [successes, record, isSuccess]

theorem Inv.handleMessage_of_rejected (hkeeps : c.bridge.Keeps)
    (hfull : c.bridge.tmFifo.isFull = true) (hoverwrite : c.bridge.overwriteOld = false) :
  Handled c (c.handleMessage E storeId status).2
  := by
  have heq : (c.handleMessage E storeId status).2
      = ⟨{ c.bridge with warningSwitch := false }, (E.deleteData storeId c.outside).2,
          c.log ++ [.received storeId, .deleted storeId]⟩ := by
    simp [handleMessage, storeDownlinkData, record, deleteData, hkeeps, hfull, hoverwrite]
  rw [heq]
  refine ⟨⟨_, Round.reject storeId c.kept, rfl⟩, h.fifo, h.tmStored, ?_, rfl, id⟩
  simp [successes, isSuccess]

theorem Inv.handleMessage_of_overwriting (hkeeps : c.bridge.Keeps)
    (hfull : c.bridge.tmFifo.isFull = true) (hoverwrite : c.bridge.overwriteOld = true)
    (hcapacity : 0 < c.bridge.tmFifo.maxCapacity) :
  Handled c (c.handleMessage E storeId status).2
  := by
  have hlength := (FIFOBase.isFull_iff _).mp hfull
  obtain ⟨oldest, rest, hkept⟩ : ∃ oldest rest, c.kept = oldest :: rest := by
    apply List.exists_cons_of_length_pos
    rw [kept, hlength]
    apply hcapacity
  let c₁ : Downlink σ :=
    ⟨{ c.bridge with warningSwitch := false }, c.outside, c.log ++ [.received storeId]⟩
  obtain ⟨tmFifo, hoverwritten, hinv, hcapacity₁, hstored⟩ :=
    overwriteOldest_eq (E := E) (c := c₁) h.fifo hkept
  have hroom : tmFifo.isFull = false := by
    rw [Bool.eq_false_iff, Ne, FIFOBase.isFull_iff, hstored, hcapacity₁]
    have hrest : c.bridge.tmFifo.stored.length = rest.length + 1 := by
      rw [← List.length_cons (a := oldest), ← hkept, kept]
    change rest.length ≠ c.bridge.tmFifo.maxCapacity
    omega
  obtain ⟨tmFifo', hinsert, hinv', _, hstored'⟩ :=
    insert_eq (c := c₁.overwriteOldest E) (hoverwritten ▸ hinv) (hoverwritten ▸ hroom) storeId
  have heq : (c.handleMessage E storeId status).2 = (c₁.overwriteOldest E).insert storeId := by
    simp [handleMessage, storeDownlinkData, record, hkeeps, hfull, hoverwrite, c₁]
  rw [heq, hinsert, hoverwritten]
  rw [hoverwritten] at hstored'
  simp only [kept] at hstored'
  refine ⟨⟨[.received storeId, .overwritten oldest, .deleted oldest, .kept storeId], ?_, ?_⟩,
    hinv', ?_, ?_, rfl, id⟩
  · rw [hkept]
    simp only [kept, hstored', hstored]
    apply Round.overwrite
  · simp [c₁]
  · simp [kept, hstored']
  · simp [successes, isSuccess, c₁]

theorem Inv.handleMessage_of_sending (hkeeps : ¬ c.bridge.Keeps) :
  Handled c (c.handleMessage E storeId status).2
  := by
  have hcounter : c.bridge.packetSentCounter < c.bridge.sentPacketsPerCycle := by
    by_contra hlt
    apply hkeeps (Or.inr (Nat.le_of_not_lt hlt))
  rcases hread : E.getData storeId c.outside with ⟨read, data⟩
  by_cases hok : read = .ok
  · subst hok
    rcases hsend : E.sendTm data c.outside with ⟨result, outside⟩
    by_cases hsent : result = .ok
    · subst hsent
      have heq : (c.handleMessage E storeId status).2
          = ⟨{ c.bridge with packetSentCounter := c.bridge.packetSentCounter + 1 },
              (E.deleteData storeId outside).2,
              c.log ++ [.received storeId, .sent false storeId .ok data .ok,
                .deleted storeId]⟩ := by
        simp [handleMessage, sendTm, deleteData, record, hkeeps, hread, hsend]
      rw [heq]
      refine ⟨⟨_, Round.send storeId data .ok c.kept, rfl⟩, h.fifo, h.tmStored, ?_, rfl,
        fun _ => hcounter⟩
      simp [successes, isSuccess]
      omega
    · have heq : (c.handleMessage E storeId status).2
          = ⟨c.bridge, (E.deleteData storeId outside).2,
              c.log ++ [.received storeId, .sent false storeId .ok data result,
                .deleted storeId]⟩ := by
        simp [handleMessage, sendTm, deleteData, record, hkeeps, hread, hsend]
      rw [heq]
      refine ⟨⟨_, Round.send storeId data result c.kept, rfl⟩, h.fifo, h.tmStored, ?_, rfl, id⟩
      simp [successes, isSuccess, hsent]
  · have heq : (c.handleMessage E storeId status).2
        = ⟨c.bridge, (E.deleteData storeId c.outside).2,
            c.log ++ [.received storeId, .deleted storeId]⟩ := by
      simp [handleMessage, deleteData, record, hkeeps, hread]
    rw [heq]
    refine ⟨⟨_, Round.reject storeId c.kept, rfl⟩, h.fifo, h.tmStored, ?_, rfl, id⟩
    simp [successes, isSuccess]

/-- A message is handled when its packet can be kept, if it is to be. -/
theorem Inv.handleMessage (hcan : c.CanKeep) :
  Handled c (c.handleMessage E storeId status).2
  := by
  by_cases hkeeps : c.bridge.Keeps
  · cases hfull : c.bridge.tmFifo.isFull with
    | false => apply h.handleMessage_of_room storeId status hkeeps hfull
    | true =>
        cases hoverwrite : c.bridge.overwriteOld with
        | false => apply h.handleMessage_of_rejected storeId status hkeeps hfull hoverwrite
        | true =>
            apply h.handleMessage_of_overwriting storeId status hkeeps hfull hoverwrite
            apply hcan hkeeps hoverwrite
  · apply h.handleMessage_of_sending storeId status hkeeps

/-- The packet that is kept longest is sent when it can be read. -/
theorem Inv.handleKept (hcan : c.CanRead E) (hsends : c.bridge.SendsKept) :
  Handled c (c.handleKept E status).2
  := by
  obtain ⟨hempty, hcounter⟩ := hsends
  obtain ⟨storeId, rest, hkept⟩ : ∃ storeId rest, c.kept = storeId :: rest := by
    apply List.exists_cons_of_ne_nil
    rw [kept, Ne, ← FIFOBase.isEmpty_iff, hempty]
    nofun
  obtain ⟨tmFifo, hretrieve, hinv, _, hstored⟩ := h.fifo.retrieve_spec hkept
  have hread : (E.getData storeId c.outside).1 = .ok := by
    apply hcan storeId
    rw [hkept]
    rfl
  rcases hdata : E.getData storeId c.outside with ⟨read, data⟩
  rw [hdata] at hread
  obtain rfl : read = .ok := hread
  rcases hsend : E.sendTm data c.outside with ⟨result, outside⟩
  have hrest : tmFifo.isEmpty = true ↔ rest = [] := by
    rw [FIFOBase.isEmpty_iff, hstored]
  have heq : ∃ bridge, (c.handleKept E status).2
        = ⟨bridge, (E.deleteData storeId outside).2,
            c.log ++ [.sent true storeId .ok data result, .deleted storeId]⟩ ∧
      bridge.tmFifo = tmFifo ∧ (bridge.tmStored = true ↔ rest ≠ []) ∧
      bridge.packetSentCounter = c.bridge.packetSentCounter + 1 ∧
      bridge.sentPacketsPerCycle = c.bridge.sentPacketsPerCycle := by
    by_cases hlast : rest = []
    · simp [Downlink.handleKept, hretrieve, hdata, hsend, sendTm, deleteData, record,
        hrest.mpr hlast, hlast]
    · have hstill : tmFifo.isEmpty = false := Bool.eq_false_iff.mpr (hrest.not.mpr hlast)
      have hbefore : c.bridge.tmStored = true := h.tmStored.mpr (by rw [hkept]; simp)
      simp [Downlink.handleKept, hretrieve, hdata, hsend, sendTm, deleteData, record, hstill,
        hlast, hbefore]
  obtain ⟨bridge, heq, hfifo, htmStored, hcounter', hlimit⟩ := heq
  rw [heq]
  refine ⟨⟨[.sent true storeId .ok data result, .deleted storeId], ?_, rfl⟩, ?_, ?_, ?_, hlimit, ?_⟩
  · rw [hkept]
    simp only [kept, hfifo, hstored]
    apply Round.sendKept
  · simp only [hfifo]
    apply hinv
  · simp only [kept, hfifo, hstored]
    apply htmStored
  · simp only [successes, List.countP_append, hcounter']
    have hone : List.countP isSuccess
        [.sent true storeId .ok data result, .deleted storeId] ≤ 1 := by
      simp [List.countP_cons, isSuccess]
      split <;> omega
    omega
  · intro _
    simp only [hcounter']
    apply hcounter

end Message

/-! ### Cycles -/

variable (E)

/-- Every message of a queue can be kept, if it is to be. -/
def CanKeepAll : List StoreAddress → Downlink σ → Prop
  | [], _ => True
  | storeId :: messages, c =>
      c.CanKeep ∧ ∀ status, CanKeepAll messages (c.handleMessage E storeId status).2

/-- Every kept packet can be read in its round. -/
def CanReadAll : ℕ → Downlink σ → Prop
  | 0, _ => True
  | rounds + 1, c =>
      c.bridge.SendsKept → c.CanRead E ∧ ∀ status, CanReadAll rounds (c.handleKept E status).2

/-- A cycle finds room for the packets that are to be kept, and can read those that are to be
sent. -/
def Sound (c : Downlink σ) : Input σ → Prop
  | .handleTm messages =>
      c.CanKeepAll E messages ∧
        ((c.handleTmQueue E messages .ok).2.LooksAtKept →
          (c.handleTmQueue E messages .ok).2.CanReadAll E
            (c.handleTmQueue E messages .ok).2.bridge.tmFifo.currentSize)
  | _ => True

variable {E}

/-- Between two rounds of a cycle, the successes since its start are counted, up to the limit. -/
structure InCycle (limit before : ℕ) (c : Downlink σ) : Prop extends c.Inv where
  counted : c.successes ≤ before + c.bridge.packetSentCounter
  limit_eq : c.bridge.sentPacketsPerCycle = limit
  counter_le : c.bridge.packetSentCounter ≤ limit

theorem InCycle.handled {limit before : ℕ} {c c' : Downlink σ} (h : c.InCycle limit before)
    (hhandled : Handled c c') :
  c'.InCycle limit before
  where
  toInv := h.toInv.handled hhandled
  counted := by
    have hcounted := hhandled.counted
    have hbefore := h.counted
    omega
  limit_eq := hhandled.limit.trans h.limit_eq
  counter_le := by
    rw [← h.limit_eq]
    apply hhandled.counter
    rw [h.limit_eq]
    apply h.counter_le

theorem InCycle.handleTmQueue {limit before : ℕ} {messages : List StoreAddress}
    {c : Downlink σ} (h : c.InCycle limit before) (hcan : c.CanKeepAll E messages)
    (status : ReturnValue) :
  (c.handleTmQueue E messages status).2.InCycle limit before
  := by
  induction messages generalizing c status with
  | nil =>
      apply h
  | cons storeId messages ih =>
      have hhandled := h.toInv.handleMessage (E := E) storeId status hcan.1
      apply ih (h.handled hhandled) (hcan.2 status)

theorem InCycle.handleStoredLoop {limit before rounds : ℕ} {c : Downlink σ}
    (h : c.InCycle limit before) (hcan : c.CanReadAll E rounds) (status : ReturnValue) :
  (c.handleStoredLoop E rounds status).2.InCycle limit before
  := by
  induction rounds generalizing c status with
  | zero =>
      apply h
  | succ rounds ih =>
      rw [Downlink.handleStoredLoop]
      split
      · rename_i hsends
        have hhandled := h.toInv.handleKept status (hcan hsends).1 hsends
        apply ih (h.handled hhandled) ((hcan hsends).2 status)
      · apply h

/-- The end of a cycle restores the invariant, and leaves the counter at zero. -/
theorem Inv.handleTm {c : Downlink σ} (h : c.Inv) (hcounter : c.bridge.packetSentCounter = 0)
    {messages : List StoreAddress} (hsound : c.Sound E (.handleTm messages)) :
  (c.handleTm E messages).2.Inv ∧ (c.handleTm E messages).2.bridge.packetSentCounter = 0 ∧
    (c.handleTm E messages).2.successes ≤ c.successes + c.bridge.sentPacketsPerCycle
  := by
  have hstart : c.InCycle c.bridge.sentPacketsPerCycle c.successes := by
    refine ⟨h, Nat.le_add_right _ _, rfl, ?_⟩
    rw [hcounter]
    apply Nat.zero_le
  have hqueue := hstart.handleTmQueue hsound.1 .ok
  generalize hq : c.handleTmQueue E messages .ok = queued at hqueue
  -- The counter is reset, whatever has been done with the kept packets.
  have hreset : ∀ c' : Downlink σ, c'.InCycle c.bridge.sentPacketsPerCycle c.successes →
      (⟨{ c'.bridge with packetSentCounter := 0 }, c'.outside, c'.log⟩ : Downlink σ).Inv ∧
        c'.successes ≤ c.successes + c.bridge.sentPacketsPerCycle := by
    intro c' hc'
    constructor
    · exact ⟨hc'.fifo, hc'.deleted, hc'.sent, hc'.read, hc'.arrival, hc'.order, hc'.tmStored⟩
    · have hcounted := hc'.counted
      have hle := hc'.counter_le
      omega
  obtain ⟨status, c₁⟩ := queued
  by_cases hlooks : c₁.LooksAtKept
  · have hcan := hsound.2
    rw [hq] at hcan
    have hkept := hqueue.handleStoredLoop (hcan hlooks) .ok
    rcases hloop : c₁.handleStoredTm E with ⟨result, c₂⟩
    have heq : (c.handleTm E messages).2
        = ⟨{ c₂.bridge with packetSentCounter := 0 }, c₂.outside, c₂.log⟩ := by
      simp only [Downlink.handleTm, hq, if_pos hlooks, hloop]
      cases result <;> rfl
    rw [Downlink.handleStoredTm] at hloop
    rw [hloop] at hkept
    obtain ⟨hinv, hle⟩ := hreset c₂ hkept
    rw [heq]
    use hinv, rfl
    apply hle
  · have heq : (c.handleTm E messages).2
        = ⟨{ c₁.bridge with packetSentCounter := 0 }, c₁.outside, c₁.log⟩ := by
      simp only [Downlink.handleTm, hq, if_neg hlooks]
    obtain ⟨hinv, hle⟩ := hreset c₁ hqueue
    rw [heq]
    use hinv, rfl
    apply hle

/-- A round takes an address out of the FIFO. -/
theorem currentSize_handleKept {c : Downlink σ} (status : ReturnValue)
    (hsends : c.bridge.SendsKept) :
  (c.handleKept E status).2.bridge.tmFifo.currentSize = c.bridge.tmFifo.currentSize - 1
  := by
  obtain ⟨tmFifo, hretrieve, hsize⟩ := FIFOBase.retrieve_of_not_empty hsends.1
  cases hlast : tmFifo.isEmpty <;>
    simp [handleKept, hretrieve, hlast, sendTm, deleteData, record, hsize]

/-- The loop over the kept packets has as many rounds as it needs. -/
theorem not_sendsKept_handleStoredLoop {rounds : ℕ} {c : Downlink σ} (status : ReturnValue)
    (hrounds : c.bridge.tmFifo.currentSize ≤ rounds) :
  ¬ (c.handleStoredLoop E rounds status).2.bridge.SendsKept
  := by
  induction rounds generalizing c status with
  | zero =>
      rintro ⟨hempty, _⟩
      rw [handleStoredLoop, FIFOBase.isEmpty, decide_eq_false_iff_not] at hempty
      apply hempty (Nat.le_zero.mp hrounds)
  | succ rounds ih =>
      rw [handleStoredLoop]
      split
      · rename_i hsends
        apply ih
        apply (currentSize_handleKept status hsends).trans_le
        apply Nat.sub_le_of_le_add hrounds
      · assumption

/-! ### Runs -/

/-- A bridge that has just been initialised. -/
def start (garbage : ℕ → StoreAddress) (maxNumberOfPacketsStored : ℕ) (outside : σ) :
    Downlink σ where
  bridge := TmTcBridge.new garbage maxNumberOfPacketsStored
  outside := outside
  log := []

theorem inv_start (garbage : ℕ → StoreAddress) (maxNumberOfPacketsStored : ℕ) (outside : σ) :
  (start garbage maxNumberOfPacketsStored outside).Inv
  where
  fifo := FIFOBase.inv_new _ _
  deleted := rfl
  sent := le_rfl
  read := by
    intro event hmem
    cases hmem
  arrival := List.Sublist.slnil
  order := rfl
  tmStored := by
    constructor
    · nofun
    · intro h
      cases h rfl

/-- A sound step restores the invariant, and leaves the counter at zero. -/
theorem Inv.step {c : Downlink σ} {i : Input σ}
    (h : c.Inv ∧ c.bridge.packetSentCounter = 0) (hsound : c.Sound E i) :
  ∃ c' result, step E c i = some (c', result) ∧ c'.Inv ∧ c'.bridge.packetSentCounter = 0
  := by
  obtain ⟨h, hcounter⟩ := h
  cases i with
  | handleTm messages =>
      obtain ⟨hinv, hzero, _⟩ := h.handleTm hcounter hsound
      exact ⟨_, _, rfl, hinv, hzero⟩
  | setNumberOfSentPacketsPerCycle sentPacketsPerCycle =>
      rcases hset : c.bridge.setNumberOfSentPacketsPerCycle sentPacketsPerCycle with ⟨result, B⟩
      use { c with bridge := B }, result
      constructor
      · simp only [Downlink.step, hset]
      · rw [TmTcBridge.setNumberOfSentPacketsPerCycle] at hset
        split at hset
        · cases hset
          use ⟨h.fifo, h.deleted, h.sent, h.read, h.arrival, h.order, h.tmStored⟩, hcounter
        · cases hset
          use h, hcounter
  | registerCommConnect | registerCommDisconnect | setFifoToOverwriteOldData _ | others _ =>
      refine ⟨_, _, rfl, ?_⟩
      use ⟨h.fifo, h.deleted, h.sent, h.read, h.arrival, h.order, h.tmStored⟩, hcounter

/-- In a run whose cycles are sound the bridge conserves packets, and no cycle sends more packets
than it may. -/
theorem conserves_of_sound_run {garbage : ℕ → StoreAddress} {maxNumberOfPacketsStored : ℕ}
    {outside : σ} {inputs : List (Input σ)}
    (hsound : (step E).Along (Sound E) (start garbage maxNumberOfPacketsStored outside) inputs) :
  ∃ c results,
    (step E).run (start garbage maxNumberOfPacketsStored outside) inputs = some (c, results) ∧
    c.Conserves ∧
    ∀ messages, c.Sound E (.handleTm messages) →
      (c.handleTm E messages).2.successes ≤ c.successes + c.bridge.sentPacketsPerCycle
  := by
  obtain ⟨c, results, hrun, hinv, hcounter⟩ := Step.run_invariant
    (I := fun c : Downlink σ => c.Inv ∧ c.bridge.packetSentCounter = 0)
    (fun c i h hsound => Inv.step h hsound) ⟨inv_start _ _ _, rfl⟩ hsound
  use c, results, hrun, hinv.conserves
  intro messages hmessages
  apply (hinv.handleTm hcounter hmessages).2.2

/-- A packet arrives while the link is down, and is sent when it is up again. -/
theorem conserves_of_sound_run_two :
  ∃ c results,
    (step (σ := Unit) ⟨fun _ _ => (.ok, [7]), fun _ _ => (.ok, ()), fun _ _ => (.ok, ())⟩).run
      (start (fun _ => StoreAddress.invalid) 1 ())
      [.registerCommDisconnect, .handleTm [⟨0, 1⟩], .registerCommConnect] = some (c, results) ∧
    c.Conserves ∧
    ∀ messages,
      c.Sound ⟨fun _ _ => (.ok, [7]), fun _ _ => (.ok, ()), fun _ _ => (.ok, ())⟩
        (.handleTm messages) →
      (c.handleTm ⟨fun _ _ => (.ok, [7]), fun _ _ => (.ok, ()), fun _ _ => (.ok, ())⟩
        messages).2.successes ≤ c.successes + c.bridge.sentPacketsPerCycle
  := by
  apply conserves_of_sound_run
  refine ⟨trivial, ?_⟩
  rintro _ _ ⟨⟩
  refine ⟨⟨⟨fun _ _ => Nat.one_pos, fun _ => trivial⟩, ?_⟩, ?_⟩
  · rintro ⟨_, hup, _⟩
    cases hup
  · rintro _ _ ⟨⟩
    use trivial
    intros
    trivial

/-- A packet is to be kept by a FIFO without room: its address is neither kept nor deleted.  And a
packet that has been kept cannot be read any more, but is sent. -/
theorem not_conserves_run :
  (∃ c results,
    (step (σ := Unit) ⟨fun _ _ => (.ok, [7]), fun _ _ => (.ok, ()), fun _ _ => (.ok, ())⟩).run
      (start (fun _ => StoreAddress.invalid) 0 ())
      [.registerCommDisconnect, .handleTm [⟨0, 1⟩]] = some (c, results) ∧ ¬ c.Conserves) ∧
  (∃ c results,
    (step (σ := Unit) ⟨fun _ _ => (.failed, []), fun _ _ => (.ok, ()), fun _ _ => (.ok, ())⟩).run
      (start (fun _ => StoreAddress.invalid) 1 ())
      [.registerCommDisconnect, .handleTm [⟨0, 1⟩], .registerCommConnect, .handleTm []]
        = some (c, results) ∧ ¬ c.Conserves)
  := by
  constructor
  · refine ⟨_, _, rfl, ?_⟩
    intro h
    cases h.tmStored.mp rfl rfl
  · refine ⟨_, _, rfl, ?_⟩
    intro h
    have hread := h.read (.sent true ⟨0, 1⟩ .failed [] .ok) (List.mem_of_getElem? (i := 2) rfl)
    cases hread

end Downlink
