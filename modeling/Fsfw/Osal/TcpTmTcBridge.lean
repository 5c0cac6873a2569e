import Fsfw.StorageManager.PacketStore
import Fsfw.TmTcServices.TmTcBridge

/-!
# Telemetry over TCP

The bridge of a TCP server puts the addresses of all telemetry into its FIFO.  The server sends the
packets from there, through an accessor that deletes a packet when it is left, and removes the
address of a packet that has been sent completely.  After an error the accessor is released, and
the packet stays.

The FIFO and the store stay consistent in every run in which no packet is sent in part, every
address that is received belongs to a packet that is in the store and not in the FIFO, the other
users of the store leave the packets of the FIFO there, and a FIFO without room for anything is not
told to overwrite its oldest address (`TcpTmTcBridge.consistent_of_run`).
-/

namespace TmEvent

/-- The address that leaves the FIFO, because it is overwritten or its packet has been sent
completely. -/
def leftId : TmEvent → Option StoreAddress
  | .overwritten storeId => some storeId
  | .sent true storeId _ _ result => if result = .ok then some storeId else none
  | _ => none

end TmEvent

namespace TcpTmTcBridge

open TmEvent

variable {σ : Type} (S : PacketStoreIF σ)

/-- The store of a TCP bridge.  Its own function for sending is not used. -/
def environment : TmEnvironment σ where
  getData := S.getData
  deleteData := S.deleteData
  sendTm _ s := (.ok, s)

/-- Put the addresses that are received into the FIFO, up to the first one that cannot be stored,
whose packet is not deleted. -/
def handleTm : List StoreAddress → Downlink σ → ReturnValue × Downlink σ
  | [], c => (.ok, c)
  | storeId :: messages, c =>
      match (c.record (.received storeId)).storeDownlinkData (environment S) storeId with
      | (.ok, c) => handleTm messages c
      | (_, c) => (.ok, c)

/-- The address that is sent next, and what reading its packet gives. -/
def front (c : Downlink σ) : Option (StoreAddress × ReturnValue × List UInt8) :=
  if c.bridge.SendsKept then
    c.bridge.tmFifo.peek.2.map fun storeId => (storeId, S.getData storeId c.outside)
  else
    none

/-- A packet has been sent completely.  The accessor deletes it at the end of the round. -/
def sentCompletely (storeId : StoreAddress) (data : List UInt8) (c : Downlink σ) : Downlink σ :=
  Downlink.deleteData (environment S) storeId
    ({ c with bridge := { c.bridge with tmFifo := c.bridge.tmFifo.pop.2 } }.record
      (.sent true storeId .ok data .ok))

/-- Send packets, where each call of `send` returns the next one of `retvals`.  A packet that cannot
be read is deleted by the accessor all the same. -/
def handleTmSending (retvals : List ℤ) (tmSent : Bool) (c : Downlink σ) :
    Option (ReturnValue × Bool × Downlink σ) :=
  match front S c with
  | none => some (.ok, tmSent, c)
  | some (storeId, .ok, data) =>
      match retvals with
      | [] => none
      | retval :: retvals =>
          if retval = data.length then
            handleTmSending retvals true (sentCompletely S storeId data c)
          else if retval ≤ 0 then
            -- The socket error releases the accessor.
            some (TcpTmTcServer.connBroken, tmSent,
              c.record (.sent true storeId .ok data TcpTmTcServer.connBroken))
          else
            handleTmSending retvals tmSent
              (Downlink.deleteData (environment S) storeId
                (c.record (.sent true storeId .ok data .failed)))
  | some (storeId, result, _) =>
      some (result, tmSent, Downlink.deleteData (environment S) storeId c)

/-- What happens to a bridge and its server.  Others change the store. -/
inductive Input (σ : Type) where
  | setNumberOfSentPacketsPerCycle (sentPacketsPerCycle : ℕ)
  | setFifoToOverwriteOldData (overwriteOld : Bool)
  | others (outside : σ)
  | handleTm (messages : List StoreAddress)
  | handleTmSending (retvals : List ℤ)

/-- One step, with the value that is returned. -/
def step : Step (Downlink σ) (Input σ) ReturnValue
  | c, .setNumberOfSentPacketsPerCycle sentPacketsPerCycle =>
      let (result, bridge) := c.bridge.setNumberOfSentPacketsPerCycle sentPacketsPerCycle
      some ({ c with bridge }, result)
  | c, .setFifoToOverwriteOldData overwriteOld =>
      some ({ c with bridge := c.bridge.setFifoToOverwriteOldData overwriteOld }, .ok)
  | c, .others outside => some ({ c with outside }, .ok)
  | c, .handleTm messages =>
      let (result, c) := handleTm S messages c
      some (c, result)
  | c, .handleTmSending retvals =>
      match handleTmSending S retvals false c with
      | none => none
      | some (result, _, c) => some (c, result)

/-! ### Consistency -/

variable {S} (laws : S.Reliable)

/-- Every address in the FIFO belongs to a packet in the store; addresses leave the FIFO in the
order of their arrival, when they are overwritten or their packet has been sent completely; and the
packet of an address is deleted once, when it leaves the FIFO. -/
structure Consistent (c : Downlink σ) : Prop where
  live : ∀ storeId ∈ c.kept, laws.contents c.outside storeId ≠ none
  order : c.log.filterMap keptId = c.log.filterMap leftId ++ c.kept
  deleted : c.log.filterMap deletedId = c.log.filterMap leftId

/-- The packet of an address that is received is in the store, and the address is not in the
FIFO. -/
def AllFresh : List StoreAddress → Downlink σ → Prop
  | [], _ => True
  | storeId :: messages, c =>
      laws.contents c.outside storeId ≠ none ∧ storeId ∉ c.kept ∧
        (((c.record (.received storeId)).storeDownlinkData (environment S) storeId).1 = .ok →
          AllFresh messages
            ((c.record (.received storeId)).storeDownlinkData (environment S) storeId).2)

/-- Every packet is sent completely or not at all. -/
def NoneInPart (S : PacketStoreIF σ) : List ℤ → Downlink σ → Prop
  | [], _ => True
  | retval :: retvals, c =>
      ∀ storeId data, front S c = some (storeId, .ok, data) →
        (retval ≤ 0 ∨ retval = data.length) ∧
          (retval = data.length → NoneInPart S retvals (sentCompletely S storeId data c))

/-- What the users of a bridge and of its store take care of, and how packets are sent. -/
def Sound (c : Downlink σ) : Input σ → Prop
  | .others outside => ∀ storeId ∈ c.kept, laws.contents outside storeId ≠ none
  | .handleTm messages =>
      (c.bridge.overwriteOld = true → 0 < c.bridge.tmFifo.maxCapacity) ∧ AllFresh laws messages c
  | .handleTmSending retvals => NoneInPart S retvals c
  | _ => True

/-- Between two steps the FIFO is well formed, and has no address twice. -/
structure Inv (c : Downlink σ) : Prop extends Consistent laws c where
  fifo : c.bridge.tmFifo.Inv
  nodup : c.kept.Nodup

variable {laws} {c c' : Downlink σ} {storeId oldest : StoreAddress} {rest : List StoreAddress}

/-- A change of the bridge that leaves the FIFO as it is, and events that are about no address that
was kept, restore the invariant. -/
theorem Inv.congr (h : Inv laws c) (events : List TmEvent) (hfifo : c'.bridge.tmFifo = c.bridge.tmFifo)
    (houtside : c'.outside = c.outside) (hlog : c'.log = c.log ++ events)
    (hkept : events.filterMap keptId = []) (hleft : events.filterMap leftId = [])
    (hdeleted : events.filterMap deletedId = []) :
  Inv laws c'
  where
  live := by
    rw [Downlink.kept, hfifo, houtside]
    apply h.live
  order := by
    rw [Downlink.kept, hfifo, hlog, List.filterMap_append, List.filterMap_append, hkept, hleft,
      List.append_nil, List.append_nil]
    apply h.order
  deleted := by
    rw [hlog, List.filterMap_append, List.filterMap_append, hdeleted, hleft, h.deleted]
  fifo := hfifo ▸ h.fifo
  nodup := by
    rw [Downlink.kept, hfifo]
    apply h.nodup

/-- The oldest address leaves the FIFO, and its packet is deleted. -/
theorem Inv.leave (h : Inv laws c) (hkept : c.kept = oldest :: rest)
    (event : TmEvent) (hlog : c'.log = c.log ++ [event, .deleted oldest])
    (hkeptId : keptId event = none) (hleftId : leftId event = some oldest)
    (hdeletedId : deletedId event = none) (hkept' : c'.kept = rest)
    (hfifo : c'.bridge.tmFifo.Inv) (houtside : c'.outside = (S.deleteData oldest c.outside).2) :
  Inv laws c'
  where
  live := by
    intro storeId hmem
    have hnodup := h.nodup
    have hlive := h.live storeId
    rw [hkept] at hnodup hlive
    rw [hkept'] at hmem
    rw [houtside, laws.contents_deleteData_eq, Function.update_of_ne]
    · apply hlive (List.mem_cons_of_mem _ hmem)
    · rintro rfl
      apply (List.nodup_cons.mp hnodup).1 hmem
  order := by
    rw [hlog, hkept', List.filterMap_append, List.filterMap_append, h.order, hkept,
      List.filterMap_cons_none hkeptId, List.filterMap_cons_some hleftId]
    simp [List.filterMap_cons, keptId, leftId]
  deleted := by
    rw [hlog, List.filterMap_append, List.filterMap_append, h.deleted,
      List.filterMap_cons_none hdeletedId, List.filterMap_cons_some hleftId]
    rfl
  fifo := hfifo
  nodup := by
    have hnodup := h.nodup
    rw [hkept] at hnodup
    rw [hkept']
    apply hnodup.of_cons

/-- A new address is put into the FIFO. -/
theorem Inv.keep (h : Inv laws c) (hlive : laws.contents c.outside storeId ≠ none)
    (hnew : storeId ∉ c.kept) (hlog : c'.log = c.log ++ [.kept storeId])
    (hkept : c'.kept = c.kept ++ [storeId]) (hfifo : c'.bridge.tmFifo.Inv)
    (houtside : c'.outside = c.outside) :
  Inv laws c'
  where
  live := by
    rw [hkept, houtside]
    intro other hmem
    obtain hmem | hmem := List.mem_append.mp hmem
    · apply h.live other hmem
    · rw [List.mem_singleton.mp hmem]
      apply hlive
  order := by
    rw [hlog, hkept, List.filterMap_append, List.filterMap_append, h.order, List.append_assoc]
    simp [List.filterMap_cons, keptId, leftId]
  deleted := by
    rw [hlog, List.filterMap_append, List.filterMap_append, h.deleted]
    rfl
  fifo := hfifo
  nodup := by
    rw [hkept]
    apply h.nodup.append (List.nodup_singleton storeId)
    simpa using hnew

/-- An address that is inserted where there is room. -/
theorem Inv.insert (h : Inv laws c) (hlive : laws.contents c.outside storeId ≠ none)
    (hnew : storeId ∉ c.kept) (hroom : c.bridge.tmFifo.isFull = false) :
  Inv laws (c.insert storeId)
  := by
  obtain ⟨tmFifo, hinsert, hfifo, -, hstored⟩ := Downlink.insert_eq h.fifo hroom storeId
  rw [hinsert]
  apply h.keep hlive hnew
  · rfl
  · apply hstored
  · apply hfifo
  · rfl

/-- An address that is received is stored, and may take the place of the oldest one. -/
theorem Inv.storeDownlinkData (h : Inv laws c) (hlive : laws.contents c.outside storeId ≠ none)
    (hnew : storeId ∉ c.kept)
    (hcapacity : c.bridge.overwriteOld = true → 0 < c.bridge.tmFifo.maxCapacity) :
  Inv laws (c.storeDownlinkData (environment S) storeId).2
  := by
  rw [Downlink.storeDownlinkData]
  split
  · rename_i hfull
    have hc₁ : Inv laws { c with bridge := { c.bridge with warningSwitch := false } } := by
      apply h.congr [] <;> simp
    dsimp only
    split
    · rename_i hoverwrite
      have hlength := (FIFOBase.isFull_iff _).mp hfull
      obtain ⟨oldest, rest, hkept⟩ : ∃ oldest rest, c.kept = oldest :: rest := by
        apply List.exists_cons_of_length_pos
        rw [Downlink.kept, hlength]
        apply hcapacity hoverwrite
      obtain ⟨tmFifo, hoverwritten, hfifo, hsame, hstored⟩ :=
        Downlink.overwriteOldest_eq (E := environment S) hc₁.fifo hkept
      have hkept' : tmFifo.stored = rest := hstored
      have hlength' : c.bridge.tmFifo.stored.length = rest.length + 1 := by
        rw [← List.length_cons (a := oldest), ← hkept, Downlink.kept]
      rw [hoverwritten]
      apply Inv.insert
      · apply hc₁.leave hkept (.overwritten oldest)
        · rfl
        · rfl
        · rfl
        · rfl
        · apply hstored
        · apply hfifo
        · rfl
      · change laws.contents (S.deleteData oldest c.outside).2 storeId ≠ none
        rw [laws.contents_deleteData_eq, Function.update_of_ne]
        · apply hlive
        · rintro rfl
          apply hnew
          rw [hkept]
          apply List.mem_cons_self
      · intro hmem
        apply hnew
        rw [hkept]
        apply List.mem_cons_of_mem
        rw [← hkept']
        apply hmem
      · rw [Bool.eq_false_iff, Ne, FIFOBase.isFull_iff]
        dsimp only
        rw [hstored, hsame]
        dsimp only
        omega
    · apply hc₁
  · rename_i hroom
    apply h.insert hlive hnew
    simpa using hroom

/-- The bridge does the same when the FIFO is full, and the FIFO has the same capacity. -/
def SameLimits (c c' : Downlink σ) : Prop :=
  c'.bridge.overwriteOld = c.bridge.overwriteOld ∧
    c'.bridge.tmFifo.maxCapacity = c.bridge.tmFifo.maxCapacity

theorem sameLimits_insert (c : Downlink σ) (storeId : StoreAddress) :
  SameLimits c (c.insert storeId)
  := by
  have hsame := FIFOBase.maxCapacity_insert c.bridge.tmFifo storeId
  rw [Downlink.insert]
  generalize c.bridge.tmFifo.insert storeId = p at hsame ⊢
  split
  · use rfl, hsame
  · use rfl, hsame

theorem sameLimits_overwriteOldest (c : Downlink σ) :
  SameLimits c (c.overwriteOldest (environment S))
  := by
  have hsame := FIFOBase.maxCapacity_retrieve c.bridge.tmFifo
  rw [Downlink.overwriteOldest]
  generalize c.bridge.tmFifo.retrieve = p at hsame ⊢
  split
  · use rfl, hsame
  · use rfl, hsame

theorem sameLimits_storeDownlinkData (c : Downlink σ) (storeId : StoreAddress) :
  SameLimits c (c.storeDownlinkData (environment S) storeId).2
  := by
  let c₁ : Downlink σ := { c with bridge := { c.bridge with warningSwitch := false } }
  rw [Downlink.storeDownlinkData]
  split
  · dsimp only
    split
    · obtain ⟨hoverwrite, hcapacity⟩ := sameLimits_overwriteOldest (S := S) c₁
      obtain ⟨hoverwrite', hcapacity'⟩ :=
        sameLimits_insert (c₁.overwriteOldest (environment S)) storeId
      use hoverwrite'.trans hoverwrite, hcapacity'.trans hcapacity
    · exact ⟨rfl, rfl⟩
  · apply sameLimits_insert

theorem Inv.handleTm {messages : List StoreAddress} (h : Inv laws c)
    (hcapacity : c.bridge.overwriteOld = true → 0 < c.bridge.tmFifo.maxCapacity)
    (hfresh : AllFresh laws messages c) :
  Inv laws (handleTm S messages c).2
  := by
  induction messages generalizing c with
  | nil =>
      apply h
  | cons storeId messages ih =>
      obtain ⟨hlive, hnew, hrest⟩ := hfresh
      have hreceived : Inv laws (c.record (.received storeId)) := by
        apply h.congr [.received storeId] <;> rfl
      have hstored := hreceived.storeDownlinkData hlive hnew hcapacity
      obtain ⟨hoverwrite, hsame⟩ :=
        sameLimits_storeDownlinkData (S := S) (c.record (.received storeId)) storeId
      rw [TcpTmTcBridge.handleTm]
      generalize (c.record (.received storeId)).storeDownlinkData (environment S) storeId = p at *
      split
      · apply ih hstored
        · rw [hoverwrite, hsame]
          apply hcapacity
        · apply hrest rfl
      · apply hstored

/-- The address that is sent next is the oldest one in the FIFO. -/
theorem Inv.front_eq (h : Inv laws c) {read : ReturnValue × List UInt8}
    (hfront : front S c = some (storeId, read)) :
  ∃ rest tmFifo, c.kept = storeId :: rest ∧ read = S.getData storeId c.outside ∧
    c.bridge.tmFifo.pop.2 = tmFifo ∧ tmFifo.Inv ∧ tmFifo.stored = rest
  := by
  rw [front] at hfront
  split at hfront
  · rename_i hsends
    cases hkept : c.kept with
    | nil =>
        rw [Downlink.kept, ← FIFOBase.isEmpty_iff, hsends.1] at hkept
        cases hkept
    | cons oldest rest =>
        obtain ⟨tmFifo, hretrieve, hfifo, -, hstored⟩ := h.fifo.retrieve_spec hkept
        rw [FIFOBase.peek_eq_retrieve, hretrieve] at hfront
        cases hfront
        use rest, tmFifo, rfl, rfl, by rw [FIFOBase.pop, hretrieve], hfifo, hstored
  · cases hfront

/-- A packet that has been sent completely leaves the FIFO and the store. -/
theorem Inv.sentCompletely (h : Inv laws c) {data : List UInt8} {read : ReturnValue × List UInt8}
    (hfront : front S c = some (storeId, read)) :
  Inv laws (sentCompletely S storeId data c)
  := by
  obtain ⟨rest, tmFifo, hkept, -, hpop, hfifo, hstored⟩ := h.front_eq hfront
  rw [TcpTmTcBridge.sentCompletely, hpop]
  apply h.leave hkept (.sent true storeId .ok data .ok)
  · simp [Downlink.deleteData, Downlink.record]
  · rfl
  · rfl
  · rfl
  · apply hstored
  · apply hfifo
  · rfl

/-- The packet of the address that is sent next can be read. -/
theorem Inv.front_read (h : Inv laws c) {read : ReturnValue × List UInt8}
    (hfront : front S c = some (storeId, read)) :
  ∃ data, read = (.ok, data)
  := by
  obtain ⟨rest, -, hkept, rfl, -⟩ := h.front_eq hfront
  obtain ⟨data, hdata⟩ : ∃ data, laws.contents c.outside storeId = some data := by
    apply Option.ne_none_iff_exists'.mp
    apply h.live storeId
    rw [hkept]
    apply List.mem_cons_self
  use data
  apply laws.getData_of_some storeId c.outside data hdata

/-- Packets that are sent completely or not at all keep the FIFO and the store consistent. -/
theorem Inv.handleTmSending {retvals : List ℤ} {tmSent : Bool}
    {result : ReturnValue × Bool × Downlink σ} (h : Inv laws c)
    (hwhole : NoneInPart S retvals c) (hresult : handleTmSending S retvals tmSent c = some result) :
  Inv laws result.2.2
  := by
  induction retvals generalizing c tmSent with
  | nil =>
      rw [TcpTmTcBridge.handleTmSending] at hresult
      cases hfront : front S c with
      | none =>
          rw [hfront] at hresult
          cases hresult
          apply h
      | some next =>
          obtain ⟨storeId, read⟩ := next
          obtain ⟨data, rfl⟩ := h.front_read hfront
          rw [hfront] at hresult
          cases hresult
  | cons retval retvals ih =>
      rw [TcpTmTcBridge.handleTmSending] at hresult
      cases hfront : front S c with
      | none =>
          rw [hfront] at hresult
          cases hresult
          apply h
      | some next =>
          obtain ⟨storeId, read⟩ := next
          obtain ⟨data, rfl⟩ := h.front_read hfront
          obtain ⟨hwhole, hrest⟩ := hwhole storeId data hfront
          rw [hfront] at hresult
          dsimp only at hresult
          split at hresult
          · rename_i hcomplete
            apply ih (h.sentCompletely hfront) (hrest hcomplete) hresult
          · rename_i hcomplete
            rw [if_pos (hwhole.resolve_right hcomplete)] at hresult
            cases hresult
            apply h.congr [.sent true storeId .ok data TcpTmTcServer.connBroken] <;> rfl

/-- A sound step keeps the FIFO and the store consistent. -/
theorem Inv.step {input : Input σ} {result : ReturnValue} (h : Inv laws c)
    (hsound : Sound laws c input) (hstep : step S c input = some (c', result)) :
  Inv laws c'
  := by
  cases input with
  | setNumberOfSentPacketsPerCycle sentPacketsPerCycle =>
      have hsame : (c.bridge.setNumberOfSentPacketsPerCycle sentPacketsPerCycle).2.tmFifo
          = c.bridge.tmFifo := by
        rw [TmTcBridge.setNumberOfSentPacketsPerCycle]
        split <;> rfl
      simp only [TcpTmTcBridge.step, Option.some.injEq, Prod.mk.injEq] at hstep
      obtain ⟨rfl, -⟩ := hstep
      apply h.congr []
      · apply hsame
      · rfl
      · exact (List.append_nil _).symm
      · rfl
      · rfl
      · rfl
  | setFifoToOverwriteOldData overwriteOld =>
      cases hstep
      apply h.congr [] <;> simp [TmTcBridge.setFifoToOverwriteOldData]
  | others outside =>
      cases hstep
      use ⟨hsound, h.order, h.deleted⟩, h.fifo, h.nodup
  | handleTm messages =>
      cases hstep
      apply h.handleTm hsound.1 hsound.2
  | handleTmSending retvals =>
      rw [TcpTmTcBridge.step] at hstep
      split at hstep
      · cases hstep
      · rename_i hresult
        cases hstep
        apply h.handleTmSending hsound hresult

/-- The FIFO and the store stay consistent in every run of sound steps. -/
theorem consistent_of_run {garbage : ℕ → StoreAddress} {maxNumberOfPacketsStored : ℕ}
    {outside : σ} {inputs : List (Input σ)} {results : List ReturnValue}
    (hsound : (TcpTmTcBridge.step S).Along (Sound laws)
      (Downlink.start garbage maxNumberOfPacketsStored outside) inputs)
    (hrun : (TcpTmTcBridge.step S).run (Downlink.start garbage maxNumberOfPacketsStored outside)
      inputs = some (c, results)) :
  Consistent laws c
  := by
  have hstart : Inv laws (Downlink.start garbage maxNumberOfPacketsStored outside) := by
    use ⟨nofun, rfl, rfl⟩, FIFOBase.inv_new _ _
    apply List.nodup_nil
  have hinv : Inv laws c := by
    apply Step.run_preserves_along (I := Inv laws) _ hstart hsound hrun
    intro c input c' result h hsound hstep
    apply h.step hsound hstep
  apply hinv.toConsistent

/-- A packet that is sent after an error, and another one that takes the place of the oldest one. -/
theorem consistent_of_run_three :
  ∃ c, (TcpTmTcBridge.step (tableStore 4)).run
        (Downlink.start (fun _ => StoreAddress.invalid) 2 fun _ => some [5])
        [.handleTm [⟨0, 0⟩, ⟨0, 1⟩, ⟨0, 2⟩], .handleTmSending [-1], .handleTmSending [1, 1]]
          = some (c, [.ok, TcpTmTcServer.connBroken, .ok]) ∧
      Consistent (tableStore.reliable 4) c
  := by
  refine Exists.imp (fun c hrun => ⟨hrun, consistent_of_run ?_ hrun⟩) ⟨_, rfl⟩
  constructor
  · use fun _ => (by decide), nofun, by decide
    intro _
    use nofun, by decide
    intro _
    use nofun, by decide
    intro _
    trivial
  · rintro _ _ ⟨⟩
    constructor
    · rintro storeId data ⟨⟩
      use .inl (by decide)
      intro hcomplete
      apply absurd hcomplete (by decide)
    · rintro _ _ ⟨⟩
      use ?_, by rintro _ _ ⟨⟩; trivial
      rintro storeId data ⟨⟩
      use .inr rfl
      intro _
      rintro storeId data ⟨⟩
      use .inr rfl
      intro _
      trivial

/-- A packet that is sent in part is deleted, but its address stays in the FIFO. -/
theorem not_consistent_partial :
  ∃ c, (TcpTmTcBridge.step (tableStore 4)).run
        (Downlink.start (fun _ => StoreAddress.invalid) 2 fun _ => some [5, 6])
        [.handleTm [⟨0, 0⟩], .handleTmSending [1]]
          = some (c, [.ok, StorageManagerIF.dataDoesNotExist]) ∧
      ¬ Consistent (tableStore.reliable 4) c
  := by
  refine ⟨_, rfl, ?_⟩
  rintro ⟨hlive, _, _⟩
  apply hlive ⟨0, 0⟩ _ rfl
  decide

end TcpTmTcBridge
