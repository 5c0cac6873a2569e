import Fsfw.TmTcServices.CommandTimeouts

/-!
# The ledger of telecommands

A distributor stores telecommands, and sends their addresses to the request queue of a commanding
service.  The service moves them to the FIFOs of its command map, starts them, and deletes them
from the store.  Events may come in any order: telecommands, the handling of a request or of a
reply, the check of timeouts, and whole cycles.

In every state that is reached, the packets in the store are exactly those whose addresses are in
the request queue or in a FIFO, and no address is in two places, so that no packet is lost and
none is deleted twice.  Each telecommand that has left the queues has exactly one start report,
which names it, and the commands that were started and have not ended are exactly the entries of
the command map (`run_accounted`).
-/

open Memory

namespace CommandReport

/-- The report of a telecommand that has been started, or could not be. -/
def isStart (report : CommandReport) : Bool :=
  report.reportId = .startSuccess ∨ report.reportId = .startFailure

/-- The report of a command that has been started. -/
def isStarted (report : CommandReport) : Bool :=
  report.reportId = .startSuccess

/-- The report of the end of a command. A step that has failed ends it, too. -/
def isEnd (report : CommandReport) : Bool :=
  report.reportId = .completionSuccess ∨ report.reportId = .completionFailure ∨
    report.reportId = .progressFailure

/-- The telecommand that a report names. -/
def tcIds (report : CommandReport) : UInt16 × UInt16 :=
  (report.tcPacketId, report.tcPsc)

end CommandReport

namespace FixedMap

variable {κ ν : Type} {m : FixedMap κ ν} {i : ℕ}

/-- A pair may be replaced by itself. -/
theorem replace_self (m : FixedMap κ ν) (i : ℕ) :
  m.replace i (m.theMap i) = m
  := by
  have hself : overwrite m.theMap i [m.theMap i] = m.theMap := by
    funext k
    rcases Nat.lt_trichotomy k i with hlt | rfl | hgt
    · exact overwrite_of_lt hlt
    · have hget : overwrite m.theMap k [m.theMap k] (k + 0) = _ := overwrite_add (by simp)
      simpa using hget
    · exact overwrite_of_ge (by simp; omega)
  rw [replace, hself]

/-- A pair that is replaced is in the place of the one that was there. -/
theorem perm_replace (h : i < m.size) (x : κ × ν) :
  (m.replace i x).stored.Perm (x :: (m.remove i).stored)
  := by
  have hself : (m.replace i x).theMap i = x := by
    have hget : overwrite m.theMap i [x] (i + 0) = _ := overwrite_add (by simp)
    simpa [replace] using hget
  have htake : (m.replace i x).stored.take i = m.stored.take i := by
    simp only [stored, replace]
    rw [take_slice _ (Nat.le_of_lt h), take_slice _ (Nat.le_of_lt h),
      slice_overwrite_of_disjoint]
    left
    omega
  have hold : (m.stored.take i ++ m.theMap i :: m.stored.drop (i + 1)).Perm
      (m.theMap i :: (m.remove i).stored) := by
    rw [← stored_drop h, List.take_append_drop]
    exact (perm_remove h).symm
  have hrest := (List.perm_middle.symm.trans hold).cons_inv
  rw [← List.take_append_drop i (m.replace i x).stored, htake,
    stored_drop (show i < (m.replace i x).size from h), hself, drop_replace]
  exact List.perm_middle.trans (hrest.cons x)

end FixedMap

/-- How reports name the telecommand that an entry is busy with. -/
def CommandInfo.tcIds (info : CommandInfo) : UInt16 × UInt16 :=
  (info.tcInfo.tcPacketId, info.tcInfo.tcSequenceControl)

namespace CommandingServiceBase

variable {σ γ : Type} {B : CommandingServiceBase σ γ}

/-- How reports name a telecommand. One that cannot be read is not named. -/
def tcIds (tc : List UInt8) : UInt16 × UInt16 :=
  if PusTcReader.setReadOnlyData tc = .ok then
    (PusTcReader.getPacketIdRaw tc, PusTcReader.getPacketSeqCtrlRaw tc)
  else
    (0, 0)

/-- The addresses in the FIFOs of a command map. -/
def waitingIn (m : FixedMap MessageQueueId CommandInfo) : List StoreAddress :=
  m.stored.flatMap fun x => x.2.fifo.stored

/-- The telecommands that the entries of a command map are busy with. -/
def activeIn (m : FixedMap MessageQueueId CommandInfo) : List (UInt16 × UInt16) :=
  m.stored.map fun x => x.2.tcIds

/-! ### The ledger -/

/-- The store holds the telecommands that are queued or waiting, those that are gone have been
reported, and those that were started have been reported again or are active. -/
structure Ledger (laws : B.tcStore.Reliable) (c : CommandingServiceState σ γ)
    (queued waiting : List StoreAddress) (active : List (UInt16 × UInt16))
    (received : List (List UInt8)) : Prop where
  nodup : (queued ++ waiting).Nodup
  valid : StoreAddress.invalid ∉ queued ++ waiting
  mem_iff : ∀ storeId, laws.contents c.tcStore storeId ≠ none ↔ storeId ∈ queued ++ waiting
  readable : ∀ storeId ∈ waiting, ∃ tc, laws.contents c.tcStore storeId = some tc ∧
    PusTcReader.setReadOnlyData tc = .ok
  starts : List.Perm
    ((c.reports.filter CommandReport.isStart).map CommandReport.tcIds ++
      (queued ++ waiting).map fun storeId => tcIds ((laws.contents c.tcStore storeId).getD []))
    (received.map tcIds)
  commands : List.Perm ((c.reports.filter CommandReport.isStarted).map CommandReport.tcIds)
    ((c.reports.filter CommandReport.isEnd).map CommandReport.tcIds ++ active)

variable {laws : B.tcStore.Reliable} {c c' : CommandingServiceState σ γ}
  {queued queued' waiting waiting' others : List StoreAddress}
  {active active' : List (UInt16 × UInt16)} {received : List (List UInt8)}
  {storeId : StoreAddress} {tc : List UInt8}

/-- New reports of commands balance what becomes active. -/
theorem perm_commands {reports new : List CommandReport}
    (h : List.Perm ((reports.filter CommandReport.isStarted).map CommandReport.tcIds)
      ((reports.filter CommandReport.isEnd).map CommandReport.tcIds ++ active))
    (hnew : List.Perm
      ((new.filter CommandReport.isStarted).map CommandReport.tcIds ++ active)
      ((new.filter CommandReport.isEnd).map CommandReport.tcIds ++ active')) :
  List.Perm (((reports ++ new).filter CommandReport.isStarted).map CommandReport.tcIds)
    (((reports ++ new).filter CommandReport.isEnd).map CommandReport.tcIds ++ active')
  := by
  rw [List.filter_append, List.map_append, List.filter_append, List.map_append,
    List.append_assoc]
  apply (h.append_right _).trans
  rw [List.append_assoc]
  apply List.Perm.append_left
  apply List.perm_append_comm.trans hnew

/-- A telecommand is reported and deleted. -/
theorem Ledger.leave (h : Ledger laws c queued waiting active received)
    (hperm : (queued ++ waiting).Perm (storeId :: (queued' ++ waiting')))
    (hsub : waiting' ⊆ waiting) (htc : laws.contents c.tcStore storeId = some tc)
    (hstore : c'.tcStore = (B.tcStore.deleteData storeId c.tcStore).2)
    {new : List CommandReport} (hreports : c'.reports = c.reports ++ new)
    (hstarts : (new.filter CommandReport.isStart).map CommandReport.tcIds = [tcIds tc])
    (hcommands : List.Perm
      ((new.filter CommandReport.isStarted).map CommandReport.tcIds ++ active)
      ((new.filter CommandReport.isEnd).map CommandReport.tcIds ++ active')) :
  Ledger laws c' queued' waiting' active' received
  := by
  obtain ⟨hnot, hnodup⟩ := List.nodup_cons.mp (hperm.nodup_iff.mp h.nodup)
  have hcontents : laws.contents c'.tcStore =
      Function.update (laws.contents c.tcStore) storeId none := by
    rw [hstore, PacketStoreIF.Reliable.contents_deleteData_eq]
  have hkept (a : StoreAddress) (ha : a ∈ queued' ++ waiting') :
      laws.contents c'.tcStore a = laws.contents c.tcStore a := by
    rw [hcontents, Function.update_of_ne]
    rintro rfl
    exact hnot ha
  refine ⟨hnodup, ?_, fun a => ?_, fun a ha => ?_, ?_, ?_⟩
  · intro hinvalid
    apply h.valid
    exact hperm.mem_iff.mpr (List.mem_cons_of_mem _ hinvalid)
  · rcases eq_or_ne a storeId with rfl | hne
    · simp [hcontents, hnot]
    · rw [hcontents, Function.update_of_ne hne, h.mem_iff, hperm.mem_iff, List.mem_cons]
      simp [hne]
  · rw [hkept a (List.mem_append_right _ ha)]
    exact h.readable a (hsub ha)
  · have hmap : (queued' ++ waiting').map
          (fun a => tcIds ((laws.contents c'.tcStore a).getD [])) =
        (queued' ++ waiting').map fun a => tcIds ((laws.contents c.tcStore a).getD []) := by
      apply List.map_congr_left
      intro a ha
      rw [hkept a ha]
    rw [hreports, List.filter_append, List.map_append, hstarts, hmap, List.append_assoc]
    refine List.Perm.trans ?_ h.starts
    apply List.Perm.append_left
    refine List.Perm.trans ?_ (hperm.map _).symm
    rw [List.map_cons, htc]
    rfl
  · rw [hreports]
    apply perm_commands h.commands hcommands

/-- Other reports are appended, and the store stays as it is. -/
theorem Ledger.report (h : Ledger laws c queued waiting active received)
    (hstore : c'.tcStore = c.tcStore) {new : List CommandReport}
    (hreports : c'.reports = c.reports ++ new)
    (hstarts : new.filter CommandReport.isStart = [])
    (hcommands : List.Perm
      ((new.filter CommandReport.isStarted).map CommandReport.tcIds ++ active)
      ((new.filter CommandReport.isEnd).map CommandReport.tcIds ++ active')) :
  Ledger laws c' queued waiting active' received
  where
  nodup := h.nodup
  valid := h.valid
  mem_iff := by
    rw [hstore]
    exact h.mem_iff
  readable := by
    rw [hstore]
    exact h.readable
  starts := by
    rw [hreports, List.filter_append, hstarts, List.append_nil, hstore]
    exact h.starts
  commands := by
    rw [hreports]
    exact perm_commands h.commands hcommands

/-- Nothing is reported, and the store stays as it is. -/
theorem Ledger.of_eq (h : Ledger laws c queued waiting active received)
    (hstore : c'.tcStore = c.tcStore) (hreports : c'.reports = c.reports) :
  Ledger laws c' queued waiting active received
  := by
  have hnone : c'.reports = c.reports ++ [] := by
    rw [hreports, List.append_nil]
  exact h.report hstore hnone rfl (List.Perm.refl _)

/-- A telecommand that can be read goes from the queue to a FIFO, whose order does not matter. -/
theorem Ledger.move (h : Ledger laws c queued waiting active received)
    (hperm : (queued ++ waiting).Perm (queued' ++ waiting'))
    (hreadable : ∀ storeId ∈ waiting', storeId ∉ waiting →
      ∃ tc, laws.contents c.tcStore storeId = some tc ∧ PusTcReader.setReadOnlyData tc = .ok)
    (hactive : active.Perm active') :
  Ledger laws c queued' waiting' active' received
  where
  nodup := hperm.nodup_iff.mp h.nodup
  valid hinvalid := h.valid (hperm.mem_iff.mpr hinvalid)
  mem_iff a := by
    rw [h.mem_iff, hperm.mem_iff]
  readable a ha := by
    by_cases hmem : a ∈ waiting
    · exact h.readable a hmem
    · exact hreadable a ha hmem
  starts := by
    refine List.Perm.trans ?_ h.starts
    exact ((hperm.map _).symm).append_left _
  commands := h.commands.trans (hactive.append_left _)

/-! ### Starting commands -/

/-- What has become of an entry: the ledger of it and of the others. -/
structure Settled (laws : B.tcStore.Reliable) (queued others : List StoreAddress)
    (active : List (UInt16 × UInt16)) (received : List (List UInt8))
    (r : Option CommandInfo × CommandingServiceState σ γ) : Prop where
  fifo : ∀ info ∈ r.1, info.fifo.Inv
  ledger : Ledger laws r.2 queued ((r.1.elim [] fun info => info.fifo.stored) ++ others)
    ((r.1.elim [] fun info => [info.tcIds]) ++ active) received

theorem tcStore_sendCommand {queue : MessageQueueId} {message : CommandMessage}
    {result : ReturnValue} (h : B.sendCommand queue message c = (result, c')) :
  c'.tcStore = c.tcStore ∧ c'.reports = c.reports ∧ c'.tcReader = c.tcReader
  := by
  rw [sendCommand] at h
  split at h
  · cases h
    exact ⟨rfl, rfl, rfl⟩
  · cases h
    exact ⟨rfl, rfl, rfl⟩

theorem setUpTcReader_of_some (htc : laws.contents c.tcStore storeId = some tc) :
  B.setUpTcReader storeId c = (PusTcReader.setReadOnlyData tc, { c with tcReader := tc })
  := by
  rw [setUpTcReader, PusServiceBase.prepareTcReader, laws.getData_of_some _ _ _ htc]

theorem tcIds_of_readable (h : PusTcReader.setReadOnlyData tc = .ok) :
  tcIds tc = (PusTcReader.getPacketIdRaw tc, PusTcReader.getPacketSeqCtrlRaw tc)
  := if_pos h

/-- The telecommand that the reader is set to could not be started. -/
theorem Ledger.rejected
    (h : Ledger laws c queued waiting active received)
    (hperm : (queued ++ waiting).Perm (storeId :: (queued' ++ waiting')))
    (hsub : waiting' ⊆ waiting) (htc : laws.contents c.tcStore storeId = some c.tcReader)
    (hok : PusTcReader.setReadOnlyData c.tcReader = .ok) (errorCode : ReturnValue) :
  Ledger laws (B.rejectPacket .startFailure storeId errorCode c) queued' waiting' active received
  := by
  apply h.leave hperm hsub htc rfl rfl
  · rw [tcIds_of_readable hok]
    rfl
  · apply List.Perm.refl

/-- A telecommand that is started leaves the queues, and is active or over afterwards. -/
theorem startExecutionThen_settled
    {next : CommandInfo → CommandingServiceState σ γ →
      Option CommandInfo × CommandingServiceState σ γ} {info : CommandInfo}
    (hnext : ∀ info' c', info'.fifo = info.fifo →
      Ledger laws c' queued (info.fifo.stored ++ others) active received →
      Settled laws queued others active received (next info' c'))
    (h : Ledger laws c queued (storeId :: (info.fifo.stored ++ others)) active received)
    (htc : laws.contents c.tcStore storeId = some c.tcReader)
    (hok : PusTcReader.setReadOnlyData c.tcReader = .ok) (hfifo : info.fifo.Inv)
    (queue : MessageQueueId) :
  Settled laws queued others active received (B.startExecutionThen next storeId queue info c)
  := by
  have hperm : (queued ++ storeId :: (info.fifo.stored ++ others)).Perm
      (storeId :: (queued ++ (info.fifo.stored ++ others))) :=
    List.perm_middle
  have hsub : info.fifo.stored ++ others ⊆ storeId :: (info.fifo.stored ++ others) :=
    List.subset_cons_self _ _
  -- a telecommand that could not be started makes room for the next one
  have hrefused {c' : CommandingServiceState σ γ} (hstore : c'.tcStore = c.tcStore)
      (hreports : c'.reports = c.reports) (hreader : c'.tcReader = c.tcReader)
      (errorCode : ReturnValue) (info' : CommandInfo) (hinfo : info'.fifo = info.fifo) :
      Settled laws queued others active received
        (next info' (B.rejectPacket .startFailure storeId errorCode c')) := by
    apply hnext info' _ hinfo
    apply (h.of_eq hstore hreports).rejected hperm hsub
    · rw [hstore, hreader, htc]
    · rw [hreader, hok]
  simp only [startExecutionThen]
  split_ifs
  · split
    · rename_i c₁ hsend
      obtain ⟨hstore, hreports, hreader⟩ := tcStore_sendCommand hsend
      refine ⟨?_, ?_⟩
      · rintro _ ⟨⟩
        exact hfifo
      · apply h.leave hperm hsub htc
        · exact congrArg (fun s => (B.tcStore.deleteData storeId s).2) hstore
        · exact congrArg (· ++ _) hreports
        · rw [tcIds_of_readable hok, ← hreader]
          rfl
        · apply List.Perm.of_eq
          rfl
    · rename_i sendResult c₁ _ hsend
      obtain ⟨hstore, hreports, hreader⟩ := tcStore_sendCommand hsend
      apply hrefused
      · exact hstore
      · exact hreports
      · exact hreader
      · rfl
  · split
    · rename_i c₁ hsend
      obtain ⟨hstore, hreports, hreader⟩ := tcStore_sendCommand hsend
      apply hnext _ _ (by rfl)
      apply h.leave hperm hsub htc
      · exact congrArg (fun s => (B.tcStore.deleteData storeId s).2) hstore
      · change (c₁.reports ++ _) ++ _ = _
        rw [hreports, List.append_assoc]
      · rw [tcIds_of_readable hok, ← hreader]
        rfl
      · apply List.Perm.refl
    · rename_i sendResult c₁ _ hsend
      obtain ⟨hstore, hreports, hreader⟩ := tcStore_sendCommand hsend
      apply hrefused
      · exact hstore
      · exact hreports
      · exact hreader
      · rfl
  · apply hrefused
    · rfl
    · rfl
    · rfl
    · rfl

/-- The next telecommand of a FIFO is started, or the entry is erased. -/
theorem checkAndExecuteFifo_settled {rounds : ℕ} {info : CommandInfo}
    (hrounds : info.fifo.stored.length < rounds) (hfifo : info.fifo.Inv)
    (h : Ledger laws c queued (info.fifo.stored ++ others) active received)
    (queue : MessageQueueId) :
  Settled laws queued others active received (B.checkAndExecuteFifo queue rounds info c)
  := by
  induction rounds generalizing info c with
  | zero => omega
  | succ rounds ih =>
      rw [checkAndExecuteFifo]
      cases hstored : info.fifo.stored with
      | nil =>
          rw [FIFOBase.retrieve_of_empty hstored]
          rw [hstored] at h
          refine ⟨?_, h⟩
          rintro _ ⟨⟩
      | cons storeId rest =>
          obtain ⟨F, hretrieve, hF, -, hrest⟩ := hfifo.retrieve_spec hstored
          obtain ⟨tc, htc, hok⟩ := h.readable storeId (by simp [hstored])
          have hreader : B.setUpTcReader storeId c = (.ok, { c with tcReader := tc }) := by
            rw [setUpTcReader_of_some htc, hok]
          simp only [hretrieve, hreader]
          apply startExecutionThen_settled
          · intro info' c' hinfo hledger
            have hlength : info'.fifo.stored.length < rounds := by
              rw [hinfo, hrest]
              simp only [hstored, List.length_cons] at hrounds
              omega
            apply ih hlength
            · rw [hinfo]
              exact hF
            · rw [hinfo]
              exact hledger
          · rw [hrest]
            rw [hstored] at h
            exact h.of_eq rfl rfl
          · exact htc
          · exact hok
          · exact hF

theorem executeFifo_settled {info : CommandInfo} (hfifo : info.fifo.Inv)
    (h : Ledger laws c queued (info.fifo.stored ++ others) active received)
    (queue : MessageQueueId) :
  Settled laws queued others active received (B.executeFifo queue info c)
  := by
  apply checkAndExecuteFifo_settled _ hfifo h
  rw [FIFOBase.length_stored]
  exact Nat.lt_succ_self _

/-! ### The command map -/

theorem perm_waitingIn {m m' : FixedMap MessageQueueId CommandInfo}
    {x : MessageQueueId × CommandInfo} (h : m.stored.Perm (x :: m'.stored)) :
  (waitingIn m).Perm (x.2.fifo.stored ++ waitingIn m')
  := h.flatMap_right _

theorem perm_activeIn {m m' : FixedMap MessageQueueId CommandInfo}
    {x : MessageQueueId × CommandInfo} (h : m.stored.Perm (x :: m'.stored)) :
  (activeIn m).Perm (x.2.tcIds :: activeIn m')
  := h.map _

/-- A ledger whose FIFOs and active commands are those of the command map. -/
structure Accounted (laws : B.tcStore.Reliable) (c : CommandingServiceState σ γ)
    (queued : List StoreAddress) (received : List (List UInt8)) : Prop where
  commandMap : c.commandMap.Inv
  fifos : ∀ x ∈ c.commandMap.stored, x.2.fifo.Inv
  ledger : Ledger laws c queued (waitingIn c.commandMap) (activeIn c.commandMap) received

/-- The part of an entry in the ledger. -/
theorem Accounted.entry (h : Accounted laws c queued received) {iter : ℕ}
    (hiter : iter < c.commandMap.size) {queue : MessageQueueId} {info : CommandInfo}
    (hcell : c.commandMap.theMap iter = (queue, info)) :
  info.fifo.Inv ∧
    Ledger laws c queued (info.fifo.stored ++ waitingIn (c.commandMap.remove iter))
      (info.tcIds :: activeIn (c.commandMap.remove iter)) received
  := by
  have hperm := (FixedMap.perm_remove hiter).symm
  rw [hcell] at hperm
  constructor
  · apply h.fifos (queue, info)
    rw [← hcell]
    exact FixedMap.mem_stored hiter
  · have hwaiting := perm_waitingIn hperm
    apply h.ledger.move (hwaiting.append_left _) _ (perm_activeIn hperm)
    intro storeId hmem hnot
    exact absurd (hwaiting.mem_iff.mpr hmem) hnot

/-- When the entry under an iterator has been settled, the ledger is that of the command map
again. -/
theorem settle_accounted {iter : ℕ} {queue : MessageQueueId}
    {r : Option CommandInfo × CommandingServiceState σ γ} (hmap : r.2.commandMap.Inv)
    (hfifos : ∀ x ∈ r.2.commandMap.stored, x.2.fifo.Inv) (hiter : iter < r.2.commandMap.size)
    (hqueue : (r.2.commandMap.theMap iter).1 = queue)
    (h : Settled laws queued (waitingIn (r.2.commandMap.remove iter))
      (activeIn (r.2.commandMap.remove iter)) received r) :
  ∃ iter' c', settle iter queue r = some (iter', c') ∧ Accounted laws c' queued received ∧
    (iter' + 1).toNat + (r.2.commandMap.size - (iter + 1)) = c'.commandMap.size
  := by
  have hremoved (x : MessageQueueId × CommandInfo)
      (hx : x ∈ (r.2.commandMap.remove iter).stored) : x.2.fifo.Inv :=
    hfifos x ((FixedMap.perm_remove hiter).subset (List.mem_cons_of_mem _ hx))
  obtain ⟨info, c⟩ := r
  dsimp only at hmap hfifos hiter hqueue hremoved h ⊢
  have hmax := hmap.size_le
  cases info with
  | none =>
      rw [settle, hmap.eraseIterator_eq hiter]
      refine ⟨_, _, rfl, ⟨hmap.remove hiter, hremoved, h.ledger.of_eq rfl rfl⟩, ?_⟩
      simp only [FixedMap.remove]
      omega
  | some info =>
      rw [settle, FixedMap.write_of_lt (by omega)]
      have hperm := FixedMap.perm_replace hiter (queue, info)
      have hwaiting := (perm_waitingIn hperm).symm
      refine ⟨_, _, rfl, ⟨hmap.replace hiter hqueue.symm, ?_, ?_⟩, ?_⟩
      · intro x hx
        rcases List.mem_cons.mp (hperm.subset hx) with rfl | hx
        · exact h.fifo info rfl
        · exact hremoved x hx
      · have hledger : Ledger laws
            { c with commandMap := c.commandMap.replace iter (queue, info) } queued _ _ received :=
          h.ledger.of_eq rfl rfl
        apply hledger.move (hwaiting.append_left _) _ (perm_activeIn hperm).symm
        intro storeId hmem hnot
        exact absurd (hwaiting.mem_iff.mpr hmem) hnot
      · simp only
        omega

/-! ### Replies -/

/-- A command ends, and the next telecommand of its FIFO is started. -/
theorem end_settled {info info' : CommandInfo} (hfifo : info.fifo.Inv)
    (h : Ledger laws c queued (info.fifo.stored ++ others) (info.tcIds :: active) received)
    (hinfo : info'.fifo = info.fifo) (hstore : c'.tcStore = c.tcStore) {report : CommandReport}
    (hreports : c'.reports = c.reports ++ [report]) (hend : report.isEnd = true)
    (hids : report.tcIds = info.tcIds) (queue : MessageQueueId) :
  Settled laws queued others active received (B.executeFifo queue info' c')
  := by
  have hstart : report.isStart = false ∧ report.isStarted = false := by
    simp only [CommandReport.isEnd, decide_eq_true_eq] at hend
    rcases hend with h | h | h <;> simp [CommandReport.isStart, CommandReport.isStarted, h]
  apply executeFifo_settled
  · rw [hinfo]
    exact hfifo
  · rw [hinfo]
    apply h.report hstore hreports
    · simp [hstart]
    · simp [hstart, hend, hids]

theorem handleReplyHandlerResult_settled {info : CommandInfo} (hfifo : info.fifo.Inv)
    (h : Ledger laws c queued (info.fifo.stored ++ others) (info.tcIds :: active) received)
    (result : ReturnValue) (queue : MessageQueueId) (nextCommand : CommandMessage)
    (isStep : Bool) :
  Settled laws queued others active received
    (B.handleReplyHandlerResult result queue info nextCommand isStep c)
  := by
  simp only [handleReplyHandlerResult]
  split
  · rename_i c₁ hsend
    obtain ⟨hstore, hreports, -⟩ := tcStore_sendCommand hsend
    split_ifs
    · refine ⟨?_, ?_⟩
      · rintro _ ⟨⟩
        exact hfifo
      · apply h.report
        · exact hstore
        · exact congrArg (· ++ [_]) hreports
        · rfl
        · apply List.Perm.refl
    · apply end_settled hfifo h
      · rfl
      · exact hstore
      · exact congrArg (· ++ [_]) hreports
      · rfl
      · rfl
  · rename_i c₁ _ hsend
    obtain ⟨hstore, hreports, -⟩ := tcStore_sendCommand hsend
    cases isStep with
    | true =>
        apply end_settled hfifo h
        · rfl
        · exact hstore
        · exact congrArg (· ++ [_]) hreports
        · rfl
        · rfl
    | false =>
        apply end_settled hfifo h
        · rfl
        · exact hstore
        · exact congrArg (· ++ [_]) hreports
        · rfl
        · rfl

theorem handleReplyFailure_settled {info : CommandInfo} (hfifo : info.fifo.Inv)
    (h : Ledger laws c queued (info.fifo.stored ++ others) (info.tcIds :: active) received)
    (result : ReturnValue) (queue : MessageQueueId) (isStep : Bool) :
  Settled laws queued others active received (B.handleReplyFailure result queue info isStep c)
  := by
  cases isStep with
  | true =>
      apply end_settled hfifo h
      all_goals rfl
  | false =>
      apply end_settled hfifo h
      all_goals rfl

/-! ### The command map stays during the handling of an entry -/

theorem commandMap_sendCommand {queue : MessageQueueId} {message : CommandMessage}
    {result : ReturnValue} (h : B.sendCommand queue message c = (result, c')) :
  c'.commandMap = c.commandMap
  := (keeps_sendCommand h).commandMap_eq

theorem commandMap_executeFifo (queue : MessageQueueId) (info : CommandInfo)
    (c : CommandingServiceState σ γ) :
  (B.executeFifo queue info c).2.commandMap = c.commandMap
  := (keeps_checkAndExecuteFifo _ _ _ _).commandMap_eq

theorem commandMap_handleReplyHandlerResult (result : ReturnValue) (queue : MessageQueueId)
    (info : CommandInfo) (nextCommand : CommandMessage) (isStep : Bool)
    (c : CommandingServiceState σ γ) :
  (B.handleReplyHandlerResult result queue info nextCommand isStep c).2.commandMap = c.commandMap
  := by
  simp only [handleReplyHandlerResult]
  split
  · rename_i c₁ hsend
    have hmap := commandMap_sendCommand hsend
    split_ifs
    · exact hmap
    · rw [commandMap_executeFifo]
      exact hmap
  · rename_i c₁ _ hsend
    have hmap := commandMap_sendCommand hsend
    rw [commandMap_executeFifo]
    cases isStep with
    | true => exact hmap
    | false => exact hmap

theorem commandMap_handleReplyFailure (result : ReturnValue) (queue : MessageQueueId)
    (info : CommandInfo) (isStep : Bool) (c : CommandingServiceState σ γ) :
  (B.handleReplyFailure result queue info isStep c).2.commandMap = c.commandMap
  := by
  rw [handleReplyFailure, commandMap_executeFifo]
  cases isStep with
  | true => rfl
  | false => rfl

/-- The same for an entry of the command map of an accounted state. -/
theorem Accounted.settled (h : Accounted laws c queued received) {iter : ℕ}
    (hiter : iter < c.commandMap.size) {queue : MessageQueueId} {info : CommandInfo}
    (hcell : c.commandMap.theMap iter = (queue, info))
    {r : Option CommandInfo × CommandingServiceState σ γ}
    (hmap : r.2.commandMap = c.commandMap)
    (hsettled : Settled laws queued (waitingIn (c.commandMap.remove iter))
      (activeIn (c.commandMap.remove iter)) received r) :
  ∃ iter' c', settle iter queue r = some (iter', c') ∧
    Accounted laws c' queued received ∧
    (iter' + 1).toNat + (c.commandMap.size - (iter + 1)) = c'.commandMap.size
  := by
  rw [← hmap] at hiter hcell hsettled ⊢
  apply settle_accounted
  · rw [hmap]
    exact h.commandMap
  · rw [hmap]
    exact h.fifos
  · exact hiter
  · rw [hcell]
  · exact hsettled

theorem Accounted.of_eq (h : Accounted laws c queued received)
    (hmap : c'.commandMap = c.commandMap) (hstore : c'.tcStore = c.tcStore)
    (hreports : c'.reports = c.reports) :
  Accounted laws c' queued received
  where
  commandMap := by
    rw [hmap]
    exact h.commandMap
  fifos := by
    rw [hmap]
    exact h.fifos
  ledger := by
    rw [hmap]
    exact h.ledger.of_eq hstore hreports

/-- The cell that a key is found in. -/
theorem Accounted.find_cases (h : Accounted laws c queued received) (queue : MessageQueueId) :
  (c.commandMap.find queue = some c.commandMap.size ∧
    ¬ ∃ x ∈ c.commandMap.stored, x.1 = queue) ∨
  ∃ iter info, iter < c.commandMap.size ∧ c.commandMap.find queue = some iter ∧
    c.commandMap.read iter = some (queue, info) ∧ c.commandMap.theMap iter = (queue, info)
  := by
  by_cases hex : ∃ x ∈ c.commandMap.stored, x.1 = queue
  · obtain ⟨⟨key, info⟩, hx, rfl⟩ := hex
    obtain ⟨iter, hfind, hiter, hcell⟩ := h.commandMap.find_of_mem hx
    right
    refine ⟨iter, info, hiter, hfind, ?_, hcell⟩
    rw [FixedMap.read_of_lt (Nat.lt_of_lt_of_le hiter h.commandMap.size_le), hcell]
  · left
    exact ⟨h.commandMap.find_of_not_exists hex, hex⟩

theorem handleCommandMessage_accounted (h : Accounted laws c queued received)
    (reply : CommandMessage) :
  ∃ c', B.handleCommandMessage reply c = some c' ∧ Accounted laws c' queued received
  := by
  simp only [handleCommandMessage]
  rcases h.find_cases reply.sender with ⟨hfind, -⟩ | ⟨iter, info, hiter, hfind, hread, hcell⟩
  · simp only [hfind, Option.bind_eq_bind, Option.bind_some, or_true, if_true]
    exact ⟨_, rfl, h.of_eq rfl rfl rfl⟩
  · simp only [hfind, hread, Option.bind_eq_bind, Option.bind_some, hiter.ne, or_false]
    obtain ⟨hfifo, hledger⟩ := h.entry hiter hcell
    have hsettle (r : Option CommandInfo × CommandingServiceState σ γ)
        (hmap : r.2.commandMap = c.commandMap)
        (hsettled : Settled laws queued (waitingIn (c.commandMap.remove iter))
          (activeIn (c.commandMap.remove iter)) received r) :
        ∃ c', ((settle iter reply.sender r).bind fun a => pure a.2) =
          some c' ∧ Accounted laws c' queued received := by
      obtain ⟨iter', c', hsettle, haccounted, -⟩ := h.settled hiter hcell hmap hsettled
      exact ⟨c', by rw [hsettle]; rfl, haccounted⟩
    split_ifs with hnone hrejected hok hinvalid hok hinvalid
    · exact ⟨_, rfl, h.of_eq rfl rfl rfl⟩
    all_goals apply hsettle
    · apply commandMap_handleReplyHandlerResult
    · apply handleReplyHandlerResult_settled
      · exact hfifo
      · exact hledger.of_eq rfl rfl
    · rfl
    · refine ⟨?_, hledger.of_eq rfl rfl⟩
      rintro _ ⟨⟩
      exact hfifo
    · apply commandMap_handleReplyFailure
    · apply handleReplyFailure_settled
      · exact hfifo
      · exact hledger.of_eq rfl rfl
    · apply commandMap_handleReplyHandlerResult
    · apply handleReplyHandlerResult_settled
      · exact hfifo
      · exact hledger.of_eq rfl rfl
    · rfl
    · refine ⟨?_, hledger.of_eq rfl rfl⟩
      rintro _ ⟨⟩
      exact hfifo
    · apply commandMap_handleReplyFailure
    · apply handleReplyFailure_settled
      · exact hfifo
      · exact hledger.of_eq rfl rfl

/-! ### Requests -/

/-- A request that is refused leaves the command map as it is. -/
theorem Accounted.rejected (h : Accounted laws c (storeId :: queued) received)
    (htc : laws.contents c.tcStore storeId = some c.tcReader)
    (hok : PusTcReader.setReadOnlyData c.tcReader = .ok) (errorCode : ReturnValue) :
  Accounted laws (B.rejectPacket .startFailure storeId errorCode c) queued received
  where
  commandMap := h.commandMap
  fifos := h.fifos
  ledger := h.ledger.rejected (List.Perm.refl _) (List.Subset.refl _) htc hok errorCode

theorem rejectPacketInvalidTc_accounted (h : Accounted laws c (storeId :: queued) received)
    (htc : laws.contents c.tcStore storeId = some tc)
    (hbad : PusTcReader.setReadOnlyData tc ≠ .ok) (errorCode : ReturnValue) :
  Accounted laws (B.rejectPacketInvalidTc errorCode storeId c) queued received
  := by
  have hvalid : storeId ≠ StoreAddress.invalid := by
    rintro rfl
    exact h.ledger.valid (by simp)
  rw [rejectPacketInvalidTc]
  simp only [hvalid, ne_eq, not_false_eq_true, if_true]
  refine ⟨h.commandMap, h.fifos, ?_⟩
  apply h.ledger.leave (List.Perm.refl _) (List.Subset.refl _) htc rfl rfl
  · rw [tcIds, if_neg hbad]
    rfl
  · apply List.Perm.refl

/-- A request goes to the FIFO of its target. -/
theorem Accounted.inserted (h : Accounted laws c (storeId :: queued) received)
    (htc : laws.contents c.tcStore storeId = some tc)
    (hok : PusTcReader.setReadOnlyData tc = .ok) {iter : ℕ} (hiter : iter < c.commandMap.size)
    {queue : MessageQueueId} {info : CommandInfo}
    (hcell : c.commandMap.theMap iter = (queue, info)) {fifo : FIFOBase StoreAddress}
    (hfifo : fifo.Inv) (hstored : fifo.stored = info.fifo.stored ++ [storeId]) :
  Accounted laws
    { c with commandMap := c.commandMap.replace iter (queue, { info with fifo := fifo }) }
    queued received
  := by
  have hperm := FixedMap.perm_replace hiter (queue, { info with fifo := fifo })
  have hremove := FixedMap.perm_remove hiter
  refine ⟨h.commandMap.replace hiter (by rw [hcell]), ?_, ?_⟩
  · intro x hx
    rcases List.mem_cons.mp (hperm.subset hx) with rfl | hx
    · exact hfifo
    · exact h.fifos x (hremove.subset (List.mem_cons_of_mem _ hx))
  · have hwaiting : (storeId :: waitingIn c.commandMap).Perm
        (waitingIn (c.commandMap.replace iter (queue, { info with fifo := fifo }))) := by
      refine List.Perm.trans ?_ (perm_waitingIn hperm).symm
      rw [hstored, List.append_assoc]
      refine List.Perm.trans ?_ List.perm_middle.symm
      apply List.Perm.cons
      have hold := perm_waitingIn hremove.symm
      rwa [hcell] at hold
    have hactive : (activeIn c.commandMap).Perm
        (activeIn (c.commandMap.replace iter (queue, { info with fifo := fifo }))) := by
      refine List.Perm.trans ?_ (perm_activeIn hperm).symm
      have hold := perm_activeIn hremove.symm
      rwa [hcell] at hold
    have hledger : Ledger laws
        { c with commandMap := c.commandMap.replace iter (queue, { info with fifo := fifo }) }
        (storeId :: queued) _ _ received :=
      h.ledger.of_eq rfl rfl
    apply hledger.move _ _ hactive
    · exact List.perm_middle.symm.trans (hwaiting.append_left queued)
    · intro storeId' hmem hnot
      rcases List.mem_cons.mp (hwaiting.mem_iff.mpr hmem) with rfl | hold
      · exact ⟨tc, htc, hok⟩
      · exact absurd hold hnot

/-- A request for a target without an active command is started. -/
theorem Accounted.started (h : Accounted laws c (storeId :: queued) received)
    (htc : laws.contents c.tcStore storeId = some c.tcReader)
    (hok : PusTcReader.setReadOnlyData c.tcReader = .ok) (queue : MessageQueueId)
    (info : CommandInfo) (hfifo : info.fifo.Inv) (hempty : info.fifo.stored = [])
    (hsize : c.commandMap.size ≠ c.commandMap.maxSize)
    (hkey : ¬ ∃ x ∈ c.commandMap.stored, x.1 = queue) :
  ∃ iter' c', settle c.commandMap.size queue (B.startExecution storeId queue info
      { c with commandMap := c.commandMap.append (queue, info) }) = some (iter', c') ∧
    Accounted laws c' queued received
  := by
  set c₁ : CommandingServiceState σ γ :=
    { c with commandMap := c.commandMap.append (queue, info) } with hc₁
  have hmap₁ : c₁.commandMap.Inv := h.commandMap.append hsize hkey
  have hsize₁ : c.commandMap.size < c₁.commandMap.size := Nat.lt_succ_self _
  have hcell : c₁.commandMap.theMap c.commandMap.size = (queue, info) := by
    have hget : overwrite c.commandMap.theMap c.commandMap.size [(queue, info)]
        (c.commandMap.size + 0) = _ := overwrite_add (by simp)
    simpa [hc₁, FixedMap.append] using hget
  -- without the new entry, the command map is what it was
  have hperm : (c₁.commandMap.remove c.commandMap.size).stored.Perm c.commandMap.stored := by
    have hremove := FixedMap.perm_remove hsize₁
    rw [hcell, hc₁, FixedMap.stored_append] at hremove
    exact (hremove.trans (List.perm_append_singleton _ _)).cons_inv
  have hsettled : Settled laws queued (waitingIn c.commandMap) (activeIn c.commandMap) received
      (B.startExecution storeId queue info c₁) := by
    apply startExecutionThen_settled
    · intro info' c' hinfo hledger
      apply executeFifo_settled
      · rw [hinfo]
        exact hfifo
      · rw [hinfo]
        exact hledger
    · rw [hempty, List.nil_append]
      have hledger : Ledger laws c₁ (storeId :: queued) _ _ received := h.ledger.of_eq rfl rfl
      apply hledger.move List.perm_middle.symm _ (List.Perm.refl _)
      intro storeId' hmem hnot
      rcases List.mem_cons.mp hmem with rfl | hold
      · exact ⟨_, htc, hok⟩
      · exact absurd hold hnot
    · exact htc
    · exact hok
    · exact hfifo
  have hkeeps : (B.startExecution storeId queue info c₁).2.commandMap = c₁.commandMap :=
    (keeps_startExecutionThen (fun info c => keeps_checkAndExecuteFifo _ _ info c) _ _ _
      _).commandMap_eq
  obtain ⟨iter', c', hsettle, haccounted, -⟩ : ∃ iter' c',
      settle c.commandMap.size queue (B.startExecution storeId queue info c₁) =
        some (iter', c') ∧ Accounted laws c' queued received ∧ _ := by
    apply settle_accounted
    · rw [hkeeps]
      exact hmap₁
    · rw [hkeeps, hc₁]
      intro x hx
      simp only [FixedMap.stored_append, List.mem_append, List.mem_singleton] at hx
      rcases hx with hx | rfl
      · exact h.fifos x hx
      · exact hfifo
    · rw [hkeeps]
      exact hsize₁
    · rw [hkeeps, hcell]
    · rw [hkeeps]
      refine ⟨hsettled.fifo, ?_⟩
      have hwaiting : (waitingIn (c₁.commandMap.remove c.commandMap.size)).Perm
          (waitingIn c.commandMap) :=
        hperm.flatMap_right _
      apply hsettled.ledger.move ((hwaiting.symm.append_left _).append_left _) _
        ((hperm.symm.map _).append_left _)
      intro storeId' hmem hnot
      exact absurd ((hwaiting.append_left _).mem_iff.mp hmem) hnot
  exact ⟨iter', c', hsettle, haccounted⟩

theorem handleRequest_accounted (hfifo : B.newInfo.fifo.Inv)
    (hempty : B.newInfo.fifo.stored = []) (h : Accounted laws c (storeId :: queued) received) :
  ∃ c', B.handleRequest storeId c = some c' ∧ Accounted laws c' queued received
  := by
  obtain ⟨tc, htc⟩ := Option.ne_none_iff_exists'.mp
    ((h.ledger.mem_iff storeId).mpr (by simp))
  rcases hfound : B.child.getMessageQueueAndObject (PusTcReader.getSubService tc)
    (PusTcReader.getUserData tc) c.child with ⟨result, queue, objectId, child⟩
  rw [handleRequest, setUpTcReader_of_some htc]
  by_cases hok : PusTcReader.setReadOnlyData tc = .ok
  · have h₁ (child : γ) :
        Accounted laws { c with tcReader := tc, child := child } (storeId :: queued) received :=
      h.of_eq rfl rfl rfl
    simp only [hok, hfound]
    split_ifs with hsubservice hresult
    · exact ⟨_, rfl, (h₁ _).rejected htc hok _⟩
    · exact ⟨_, rfl, (h₁ _).rejected htc hok _⟩
    · rcases (h₁ child).find_cases queue with
        ⟨hfind, hnone⟩ | ⟨iter, info, hiter, hfind, hread, hcell⟩
      · dsimp only at hfind hnone
        simp only [hfind, Option.bind_eq_bind, Option.bind_some, ne_eq, not_true_eq_false, if_false]
        rw [h.commandMap.insert_eq, if_neg hnone]
        by_cases hfull : c.commandMap.size = c.commandMap.maxSize
        · simp only [hfull, if_true, Option.bind_some]
          refine ⟨_, rfl, Accounted.rejected ?_ htc hok _⟩
          exact (h₁ child).of_eq rfl rfl rfl
        · simp only [hfull, if_false, Option.bind_some]
          obtain ⟨iter', c', hsettle, haccounted⟩ := (h₁ child).started htc hok queue
            { B.newInfo with objectId := objectId } hfifo hempty hfull hnone
          simp only [not_true_eq_false, if_false, hsettle]
          exact ⟨c', rfl, haccounted⟩
      · dsimp only at hfind hread hcell hiter
        have hlt := Nat.lt_of_lt_of_le hiter h.commandMap.size_le
        have hinfo : info.fifo.Inv := ((h₁ child).entry hiter hcell).1
        simp only [hfind, hread, Option.bind_eq_bind, Option.bind_some, ne_eq, hiter.ne,
          not_false_eq_true, if_true, FixedMap.write_of_lt hlt]
        cases hfull : info.fifo.isFull with
        | true =>
            have hsame := FixedMap.replace_self c.commandMap iter
            rw [hcell, FixedMap.replace] at hsame
            simp only [FIFOBase.insert_of_full _ hfull, hsame]
            refine ⟨_, rfl, Accounted.rejected ?_ htc hok _⟩
            exact (h₁ child).of_eq rfl rfl rfl
        | false =>
            obtain ⟨F, hinsert, hF, -, hstored⟩ := hinfo.insert_spec storeId hfull
            simp only [hinsert, not_true_eq_false, if_false]
            exact ⟨_, rfl, (h₁ child).inserted htc hok hiter hcell hF hstored⟩
  · simp only
    refine ⟨_, rfl, ?_⟩
    apply rejectPacketInvalidTc_accounted
    · exact h.of_eq rfl rfl rfl
    · exact htc
    · exact hok

/-! ### Timeouts -/

theorem checkTimeoutLoop_accounted {uptime : UInt32} {rounds iter : ℕ}
    (h : Accounted laws c queued received) (hrounds : iter + rounds = c.commandMap.size + 1)
    (hiter : iter ≤ c.commandMap.size) :
  ∃ c' visits, B.checkTimeoutLoop uptime rounds iter c = some (c', visits) ∧
    Accounted laws c' queued received
  := by
  induction rounds generalizing iter c with
  | zero => omega
  | succ rounds ih =>
      rw [checkTimeoutLoop]
      rcases hiter.eq_or_lt with rfl | hlt
      · exact ⟨c, [], if_pos rfl, h⟩
      · have hread := FixedMap.read_of_lt (Nat.lt_of_lt_of_le hlt h.commandMap.size_le)
        rcases hcell : c.commandMap.theMap iter with ⟨queue, info⟩
        obtain ⟨hfifo, hledger⟩ := h.entry hlt hcell
        rw [if_neg hlt.ne, hread, hcell]
        simp only [Option.bind_eq_bind, Option.bind_some]
        split_ifs with htimeout
        · have hmap := (keeps_timeout B queue info c).1
          have hsettled : Settled laws queued (waitingIn (c.commandMap.remove iter))
              (activeIn (c.commandMap.remove iter)) received
              (B.executeFifo queue info (sendFailureReport
                (prepareVerificationFailureWithFullInfo .completionFailure info.tcInfo
                  AcceptsTelecommandsIF.timeout false c))) := by
            apply end_settled hfifo hledger
            all_goals rfl
          obtain ⟨iter', c₁, hsettle, h₁, hsize⟩ := h.settled hlt hcell hmap hsettled
          obtain ⟨c', visits, hloop, h'⟩ : ∃ c' visits,
              B.checkTimeoutLoop uptime rounds (iter' + 1).toNat c₁ = some (c', visits) ∧ _ :=
            ih h₁ (by omega) (by omega)
          exact ⟨c', ⟨queue, info, true⟩ :: visits, by simp [hsettle, hloop], h'⟩
        · obtain ⟨c', visits, hloop, h'⟩ : ∃ c' visits,
              B.checkTimeoutLoop uptime rounds (iter + 1) c = some (c', visits) ∧ _ :=
            ih h (by omega) hlt
          exact ⟨c', ⟨queue, info, false⟩ :: visits, by simp [hloop], h'⟩

theorem checkTimeout_accounted (h : Accounted laws c queued received) :
  ∃ c' visits, B.checkTimeout c = some (c', visits) ∧ Accounted laws c' queued received
  := by
  rw [checkTimeout]
  rcases B.child.getUptime c.child with ⟨uptime, child⟩
  apply checkTimeoutLoop_accounted
  · exact h.of_eq rfl rfl rfl
  · exact Nat.zero_add _
  · exact Nat.zero_le _

/-! ### Cycles -/

theorem handleAll_replies_accounted (replies : List CommandMessage)
    (h : Accounted laws c queued received) :
  ∃ c', handleAll B.handleCommandMessage replies c = some c' ∧ Accounted laws c' queued received
  := by
  induction replies generalizing c with
  | nil => exact ⟨c, rfl, h⟩
  | cons reply replies ih =>
      obtain ⟨c₁, hreply, h₁⟩ := handleCommandMessage_accounted h reply
      obtain ⟨c', hrest, h'⟩ := ih h₁
      exact ⟨c', by simp [handleAll, hreply, hrest], h'⟩

theorem handleAll_requests_accounted (hfifo : B.newInfo.fifo.Inv)
    (hempty : B.newInfo.fifo.stored = []) (h : Accounted laws c queued received) :
  ∃ c', handleAll B.handleRequest queued c = some c' ∧ Accounted laws c' [] received
  := by
  induction queued generalizing c with
  | nil => exact ⟨c, rfl, h⟩
  | cons storeId queued ih =>
      obtain ⟨c₁, hrequest, h₁⟩ := handleRequest_accounted hfifo hempty h
      obtain ⟨c', hrest, h'⟩ := ih h₁
      exact ⟨c', by simp [handleAll, hrequest, hrest], h'⟩

theorem performOperation_accounted (hfifo : B.newInfo.fifo.Inv)
    (hempty : B.newInfo.fifo.stored = []) (h : Accounted laws c queued received)
    (replies : List CommandMessage) :
  ∃ c', B.performOperation replies queued c = some c' ∧ Accounted laws c' [] received
  := by
  obtain ⟨c₁, hreplies, h₁⟩ := handleAll_replies_accounted replies h
  obtain ⟨c₂, hrequests, h₂⟩ := handleAll_requests_accounted hfifo hempty h₁
  obtain ⟨c₃, visits, hcheck, h₃⟩ := checkTimeout_accounted h₂
  refine ⟨{ c₃ with child := B.child.doPeriodicOperation c₃.child }, ?_, h₃.of_eq rfl rfl rfl⟩
  simp [performOperation, hreplies, hrequests, hcheck]

end CommandingServiceBase

/-! ### Runs -/

/-- A commanding service behind its request queue, with the telecommands that have been stored for
it so far. -/
structure QueuedService (σ γ : Type) where
  requestQueue : List StoreAddress
  service : CommandingServiceState σ γ
  received : List (List UInt8)

/-- What happens to a commanding service and to its request queue. -/
inductive ServiceEvent where
  | telecommand (tc : List UInt8)
  | request
  | reply (reply : CommandMessage)
  | checkTimeout
  | performOperation (replies : List CommandMessage)

namespace CommandingServiceBase

variable {σ γ : Type}

/-- One event. A telecommand is stored, and its address is sent to the request queue, unless the
store is full. -/
def step (B : CommandingServiceBase σ γ) : Step (QueuedService σ γ) ServiceEvent Unit
  | q, .telecommand tc =>
      match B.tcStore.addData tc q.service.tcStore with
      | (.ok, storeId, tcStore) =>
          some
            (⟨q.requestQueue ++ [storeId], { q.service with tcStore := tcStore },
              q.received ++ [tc]⟩, ())
      | (_, _, tcStore) => some ({ q with service := { q.service with tcStore := tcStore } }, ())
  | q, .request =>
      match q.requestQueue with
      | [] => some (q, ())
      | storeId :: requestQueue => do
          let c ← B.handleRequest storeId q.service
          return ({ q with requestQueue := requestQueue, service := c }, ())
  | q, .reply reply => do
      let c ← B.handleCommandMessage reply q.service
      return ({ q with service := c }, ())
  | q, .checkTimeout => do
      let (c, _) ← B.checkTimeout q.service
      return ({ q with service := c }, ())
  | q, .performOperation replies => do
      let c ← B.performOperation replies q.requestQueue q.service
      return ({ q with requestQueue := [], service := c }, ())

variable {B : CommandingServiceBase σ γ} {laws : B.tcStore.Reliable}

/-- A telecommand that is stored is queued. -/
theorem Ledger.add {c : CommandingServiceState σ γ} {queued waiting : List StoreAddress}
    {active : List (UInt16 × UInt16)} {received : List (List UInt8)}
    (h : Ledger laws c queued waiting active received) (hfaultless : laws.toReliable.Faultless)
    {tc : List UInt8} {storeId : StoreAddress} {tcStore : σ}
    (hadd : B.tcStore.addData tc c.tcStore = (.ok, storeId, tcStore)) :
  Ledger laws { c with tcStore := tcStore } (queued ++ [storeId]) waiting active (received ++ [tc])
  := by
  have hok : (B.tcStore.addData tc c.tcStore).1 = .ok := by rw [hadd]
  have hfree := laws.free_of_addData tc c.tcStore hok
  have hcontents := laws.contents_addData tc c.tcStore hok
  have hvalid := hfaultless.valid tc c.tcStore hok
  rw [hadd] at hfree hcontents hvalid
  dsimp only at hfree hcontents hvalid
  have hnot : storeId ∉ queued ++ waiting := by
    rw [← h.mem_iff]
    exact not_not_intro hfree
  have hperm : (queued ++ [storeId] ++ waiting).Perm (storeId :: (queued ++ waiting)) := by
    rw [List.append_assoc]
    exact List.perm_middle
  have hkept (a : StoreAddress) (ha : a ∈ queued ++ waiting) :
      laws.contents tcStore a = laws.contents c.tcStore a := by
    rw [hcontents, Function.update_of_ne]
    rintro rfl
    exact hnot ha
  refine ⟨hperm.nodup_iff.mpr (List.nodup_cons.mpr ⟨hnot, h.nodup⟩), ?_, fun a => ?_,
    fun a ha => ?_, ?_, h.commands⟩
  · rw [hperm.mem_iff, List.mem_cons]
    rintro (hinvalid | hinvalid)
    · exact hvalid hinvalid.symm
    · exact h.valid hinvalid
  · rw [hperm.mem_iff, List.mem_cons, ← h.mem_iff, hcontents]
    rcases eq_or_ne a storeId with rfl | hne
    · simp
    · simp [hne]
  · rw [hkept a (List.mem_append_right _ ha)]
    exact h.readable a ha
  · have hmap : (queued ++ waiting).map (fun a => tcIds ((laws.contents tcStore a).getD [])) =
        (queued ++ waiting).map fun a => tcIds ((laws.contents c.tcStore a).getD []) := by
      apply List.map_congr_left
      intro a ha
      rw [hkept a ha]
    have hnew : tcIds ((laws.contents tcStore storeId).getD []) = tcIds tc := by
      rw [hcontents, Function.update_self]
      rfl
    have hnames := hperm.map fun a => tcIds ((laws.contents tcStore a).getD [])
    rw [List.map_cons, hnew, hmap] at hnames
    apply (hnames.append_left _).trans
    apply List.perm_middle.trans
    rw [show (received ++ [tc]).map tcIds = received.map tcIds ++ [tcIds tc] from List.map_append]
    exact (h.starts.cons (tcIds tc)).trans (List.perm_append_singleton _ _).symm

/-- Nothing has been received so far. -/
structure QueuedService.New (laws : B.tcStore.Reliable) (q : QueuedService σ γ) : Prop where
  requestQueue : q.requestQueue = []
  received : q.received = []
  commandMap : q.service.commandMap.Inv
  size : q.service.commandMap.size = 0
  reports : q.service.reports = []
  contents : ∀ storeId, laws.contents q.service.tcStore storeId = none

theorem QueuedService.New.accounted {q : QueuedService σ γ} (h : QueuedService.New laws q) :
  Accounted laws q.service q.requestQueue q.received
  := by
  have hstored : q.service.commandMap.stored = [] := by
    rw [← List.length_eq_zero_iff, FixedMap.length_stored, h.size]
  refine ⟨h.commandMap, by simp [hstored], ?_⟩
  rw [h.requestQueue, h.received, waitingIn, activeIn, hstored]
  constructor
  · exact List.nodup_nil
  · exact List.not_mem_nil
  · simp [h.contents]
  · simp
  · simp [h.reports]
  · simp [h.reports]

theorem step_accounted (hfaultless : laws.toReliable.Faultless) (hfifo : B.newInfo.fifo.Inv)
    (hempty : B.newInfo.fifo.stored = []) {q : QueuedService σ γ}
    (h : Accounted laws q.service q.requestQueue q.received) (event : ServiceEvent) :
  ∃ q' o, B.step q event = some (q', o) ∧
    Accounted laws q'.service q'.requestQueue q'.received
  := by
  obtain ⟨requestQueue, c, received⟩ := q
  cases event with
  | telecommand tc =>
      rcases hadd : B.tcStore.addData tc c.tcStore with ⟨result, storeId, tcStore⟩
      rw [step]
      simp only [hadd]
      by_cases hok : result = .ok
      · subst hok
        exact ⟨_, _, rfl, h.commandMap, h.fifos, h.ledger.add hfaultless hadd⟩
      · have hcontents := laws.contents_addData_failed tc c.tcStore (by rw [hadd]; exact hok)
        rw [hadd] at hcontents
        split
        · rename_i heq
          exact absurd (Prod.mk.inj heq).1 hok
        · rename_i heq
          obtain ⟨-, heq⟩ := Prod.mk.inj heq
          obtain ⟨-, rfl⟩ := Prod.mk.inj heq
          refine ⟨_, _, rfl, h.commandMap, h.fifos, h.ledger.nodup, h.ledger.valid, ?_, ?_, ?_,
            h.ledger.commands⟩
          · rw [hcontents]
            exact h.ledger.mem_iff
          · rw [hcontents]
            exact h.ledger.readable
          · rw [hcontents]
            exact h.ledger.starts
  | request =>
      cases requestQueue with
      | nil => exact ⟨_, _, rfl, h⟩
      | cons storeId requestQueue =>
          obtain ⟨c', hrequest, h'⟩ := handleRequest_accounted hfifo hempty h
          refine ⟨⟨requestQueue, c', received⟩, (), ?_, h'⟩
          simp [step, hrequest]
  | reply reply =>
      obtain ⟨c', hreply, h'⟩ := handleCommandMessage_accounted h reply
      refine ⟨⟨requestQueue, c', received⟩, (), ?_, h'⟩
      simp [step, hreply]
  | checkTimeout =>
      obtain ⟨c', visits, hcheck, h'⟩ := checkTimeout_accounted h
      refine ⟨⟨requestQueue, c', received⟩, (), ?_, h'⟩
      simp [step, hcheck]
  | performOperation replies =>
      obtain ⟨c', hperform, h'⟩ := performOperation_accounted hfifo hempty h replies
      refine ⟨⟨[], c', received⟩, (), ?_, h'⟩
      simp [step, hperform]

/-- In every order of events, no telecommand is lost or handled twice, every one that has left the
queues has one start report, and every command that was started is active or has ended once. -/
theorem run_accounted (hfaultless : laws.toReliable.Faultless) (hfifo : B.newInfo.fifo.Inv)
    (hempty : B.newInfo.fifo.stored = []) {q : QueuedService σ γ} (hnew : QueuedService.New laws q)
    (events : List ServiceEvent) :
  ∃ q' os, B.step.run q events = some (q', os) ∧
    Accounted laws q'.service q'.requestQueue q'.received
  := by
  apply Step.run_invariant
    (I := fun q : QueuedService σ γ => Accounted laws q.service q.requestQueue q.received)
  · intro q event h _
    exact step_accounted hfaultless hfifo hempty h event
  · exact hnew.accounted
  · exact Step.along_of_forall (P := fun _ => True) (fun _ _ => trivial) q

/-- The table hands out valid addresses. -/
theorem faultless_tableStore (n : ℕ) :
  (tableStore.reliable n).toReliable.Faultless
  where
  deletes := (tableStore.reliable n).deletes
  valid data s h := by
    simp only [tableStore] at h ⊢
    split at h
    · rename_i storeId hfree
      obtain ⟨place, -, rfl⟩ := List.mem_map.mp (List.mem_of_find?_eq_some hfree)
      simp [StoreAddress.invalid]
    · cases h

/-- Two telecommands for one target, the second of which waits until the first has ended. -/
theorem run_accounted_two :
  ∃ q' os, tenSeconds.step.run
      ⟨[], { oneActive 0 0 with commandMap := ⟨fun _ => (0, tenSeconds.newInfo), 3, 0⟩ }, []⟩
      [.telecommand [0x18, 1, 0xC0, 0, 0, 6, 0x2F, 17, 1, 0, 0, 22, 29], .request,
        .telecommand [0x18, 1, 0xC0, 1, 0, 6, 0x2F, 17, 1, 0, 0, 81, 206], .request,
        .reply ⟨1, 1, .ok⟩, .performOperation []] = some (q', os) ∧
    Accounted (B := tenSeconds) (tableStore.reliable 8) q'.service q'.requestQueue q'.received
  := by
  apply run_accounted
  · exact faultless_tableStore 8
  · exact FIFOBase.inv_new _ _
  · rfl
  · exact ⟨rfl, rfl, ⟨by decide, List.nodup_nil⟩, rfl, rfl, fun _ => rfl⟩

end CommandingServiceBase
