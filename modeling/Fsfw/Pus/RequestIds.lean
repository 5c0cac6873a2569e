import Fsfw.Pus.ScheduleRuns
import Fsfw.TmTcPacket.PusTcReader

/-!
# Addressing telecommands by their request ids

A scheduled telecommand should be deleted and shifted by requests that carry its own request id.
The id that is recorded for it is the one of the request that inserted it, and the release time
that is recorded stays the first one.  So a request for a telecommand does what it should exactly
when these agree with what it should be by chance (`addressed_iff`).
-/

open Multimap

namespace Service11TelecommandScheduling

/-- The request id of a telecommand, from its own bytes. -/
def containedRequestId (data : List UInt8) : UInt64 :=
  buildRequestId (PusTcReader.getSourceId data).toUInt32 (PusTcReader.getApid data)
    (PusTcReader.getSequenceCount data)

/-! ### Telecommands to which nothing happens -/

/-- The events about an address. -/
def eventsAbout (log : List Event) (addr : StoreAddress) : List Event :=
  log.filter fun event => event.addr = addr

section

variable {σ : Type*} {service : Service11TelecommandScheduling σ}

theorem suffix_addData (data : List UInt8) (s : σ × List Event) :
  s.2 <:+ ((logged service.tcStore).addData data s).2.2.2
  := by
  rw [logged_addData]
  simp only
  split_ifs
  · exact List.suffix_cons _ _
  · exact List.suffix_refl _

theorem suffix_deleteData (addr : StoreAddress) (s : σ × List Event) :
  s.2 <:+ ((logged service.tcStore).deleteData addr s).2.2
  := by
  rw [logged_deleteData]
  simp only
  split_ifs
  · exact List.suffix_cons _ _
  · exact List.suffix_refl _

theorem suffix_deleteAll (gone : List (UInt32 × TelecommandStruct)) (s : σ × List Event) :
  s.2 <:+ (deleteAll (logged service.tcStore) gone s).2
  := by
  induction gone generalizing s with
  | nil =>
      exact List.suffix_refl _
  | cons entry gone ih =>
      exact (suffix_deleteData entry.2.storeAddr s).trans (ih _)

theorem suffix_logReleases (tvSec : ℤ) (releases : List Release) (log : List Event) :
  log <:+ logReleases tvSec releases log
  := by
  induction releases generalizing log with
  | nil =>
      exact List.suffix_refl _
  | cons release releases ih =>
      obtain ⟨entry, result⟩ := release
      rw [logReleases]
      split_ifs
      · exact (List.suffix_cons _ _).trans (ih _)
      · exact ih log

variable {s s' : State (σ × List Event)} {op : Op σ} {output : ReturnValue × List Release}

/-- The log grows. -/
theorem suffix_of_stepEffect (h : StepEffect service s s' op output) :
  s.store.2 <:+ s'.store.2
  := by
  cases h with
  | request heffect =>
      cases heffect with
      | rearranged _ hstore =>
          rw [hstore]
      | stored _ data _ _ _ _ hstore =>
          rw [hstore]
          exact suffix_addData data s.store
      | inserted _ data _ _ _ hstore =>
          rw [hstore]
          exact suffix_addData data s.store
      | kept addr _ _ hstore =>
          rw [hstore]
          exact suffix_deleteData addr s.store
      | removed gone _ _ hstore _ =>
          rw [hstore]
          exact suffix_deleteAll gone s.store
  | releases _ hlog _ =>
      rw [hlog]
      exact suffix_logReleases _ _ _
  | others _ _ hlog =>
      rw [hlog]

/-- A telecommand to which nothing happened in a step was scheduled before it, as it is now. -/
theorem mem_of_stepEffect (h : StepEffect service s s' op output) {tc : TelecommandStruct}
    (htc : tc ∈ s'.telecommandMap.entries.map Prod.snd)
    (hevents : eventsAbout s'.store.2 tc.storeAddr = eventsAbout s.store.2 tc.storeAddr) :
  tc ∈ s.telecommandMap.entries.map Prod.snd
  := by
  cases h with
  | request heffect =>
      cases heffect with
      | rearranged hperm _ =>
          exact hperm.mem_iff.mp htc
      | stored _ _ _ _ _ hmap _ =>
          rwa [hmap] at htc
      | inserted timestamp data _ hadd hperm hstore =>
          rw [withLog, logged_addData] at hadd hperm hstore
          have hadd' : (service.tcStore.addData data s.store.1).1 = .ok := hadd
          rcases List.mem_cons.mp ((hperm.map Prod.snd).mem_iff.mp htc) with rfl | htc
          · -- The packet has just been added.
            rw [hstore] at hevents
            simp only [hadd', if_true] at hevents
            rw [eventsAbout, List.filter_cons_of_pos (by exact decide_eq_true rfl)] at hevents
            exact absurd hevents (List.cons_ne_self _ _)
          · exact htc
      | kept _ _ hmap _ =>
          rwa [hmap] at htc
      | removed gone lost hperm _ _ =>
          apply (hperm.map Prod.snd).mem_iff.mpr
          rw [List.map_append]
          exact List.mem_append_right _ htc
  | releases _ _ hreleased =>
      apply (hreleased.perm.map Prod.snd).mem_iff.mpr
      rw [List.map_append]
      exact List.mem_append_right _ htc
  | others hmap _ _ =>
      rwa [hmap] at htc

variable {laws : service.tcStore.Reliable}

theorem suffix_of_run (hs : Kept laws s) {ops : List (Op σ)}
    (hops : service.step.Along (Undisturbed laws) s ops)
    {outputs : List (ReturnValue × List Release)}
    (hrun : service.step.run s ops = some (s', outputs)) :
  s.store.2 <:+ s'.store.2
  := by
  have h := Step.run_preserves_along
    (I := fun s' => Kept laws s' ∧ s.store.2 <:+ s'.store.2)
    (fun s₁ op s₂ output hs₁ hop h => ⟨kept_step hs₁.1 hop h,
      hs₁.2.trans (suffix_of_stepEffect (stepEffect_of_step hs₁.1.room h))⟩)
    ⟨hs, List.suffix_refl _⟩ hops hrun
  exact h.2

/-- A telecommand to which nothing happened in a run was scheduled before it, as it is now. -/
theorem mem_of_run (hs : Kept laws s) {ops : List (Op σ)}
    (hops : service.step.Along (Undisturbed laws) s ops)
    {outputs : List (ReturnValue × List Release)}
    (hrun : service.step.run s ops = some (s', outputs)) {tc : TelecommandStruct}
    (htc : tc ∈ s'.telecommandMap.entries.map Prod.snd)
    (hevents : eventsAbout s'.store.2 tc.storeAddr = eventsAbout s.store.2 tc.storeAddr) :
  tc ∈ s.telecommandMap.entries.map Prod.snd
  := by
  induction ops generalizing s outputs with
  | nil =>
      cases hrun
      exact htc
  | cons op ops ih =>
      obtain ⟨s₁, output, outputs', hstep, hrun', rfl⟩ := Step.run_cons_inv hrun
      have hs₁ := kept_step hs hops.1 hstep
      have heffect := stepEffect_of_step hs.room hstep
      have hops₁ := hops.2 s₁ output hstep
      -- There are no events in between.
      have hbefore : eventsAbout s.store.2 tc.storeAddr <:+ eventsAbout s₁.store.2 tc.storeAddr :=
        (suffix_of_stepEffect heffect).filter _
      have hafter : eventsAbout s₁.store.2 tc.storeAddr <:+ eventsAbout s'.store.2 tc.storeAddr :=
        (suffix_of_run hs₁ hops₁ hrun').filter _
      rw [hevents] at hafter
      have heq := hbefore.eq_of_length (le_antisymm hbefore.length_le hafter.length_le)
      apply mem_of_stepEffect heffect _ heq.symm
      exact ih hs₁ hops₁ hrun' (hevents.trans heq)

/-! ### What a request for a telecommand should do -/

/-- The entries of the other telecommands. -/
def otherEntries (s : State (σ × List Event)) (addr : StoreAddress) :
    List (UInt32 × TelecommandStruct) :=
  s.telecommandMap.entries.filter fun entry => entry.2.storeAddr ≠ addr

/-- No other telecommand is recorded with a request id. -/
def Unshared (s : State (σ × List Event)) (addr : StoreAddress) (requestId : UInt64) : Prop :=
  ∀ entry ∈ s.telecommandMap.entries, entry.2.storeAddr ≠ addr → entry.2.requestId ≠ requestId

/-- A request deletes a telecommand, and no other one, from the schedule and from the store. -/
def RemovesExactly (laws : service.tcStore.Reliable) (s : State (σ × List Event))
    (addr : StoreAddress) (tvSec : ℤ) (currentPacket : PusTc) : Prop :=
  ∃ s', service.step s (.request tvSec 5 currentPacket) = some (s', .ok, []) ∧
    List.Perm s'.telecommandMap.entries (otherEntries s addr) ∧
    laws.contents s'.store.1 = Function.update (laws.contents s.store.1) addr none

/-- A request moves a telecommand, and no other one, from a release time to a later one, which is
recorded. -/
def MovesExactly (laws : service.tcStore.Reliable) (s : State (σ × List Event))
    (addr : StoreAddress) (key relativeTime : UInt32) (tvSec : ℤ) (currentPacket : PusTc) :
    Prop :=
  ∃ s' key' tc, service.step s (.request tvSec 7 currentPacket) = some (s', .ok, []) ∧
    key'.toNat = key.toNat + relativeTime.toNat ∧
    tc.storeAddr = addr ∧ tc.seconds = key' ∧
    List.Perm s'.telecommandMap.entries ((key', tc) :: otherEntries s addr) ∧
    laws.contents s'.store.1 = laws.contents s.store.1

section

variable {key : UInt32} {tc : TelecommandStruct}

/-- Entries with the same address are the same. -/
theorem eq_of_storeAddr_eq (hs : Kept laws s) {entry entry' : UInt32 × TelecommandStruct}
    (hentry : entry ∈ s.telecommandMap.entries) (hentry' : entry' ∈ s.telecommandMap.entries)
    (heq : entry.2.storeAddr = entry'.2.storeAddr) :
  entry = entry'
  := List.inj_on_of_nodup_map hs.backed.nodup hentry hentry' heq

/-- An entry and the entries of the other telecommands. -/
theorem perm_otherEntries (hs : Kept laws s) (hentry : (key, tc) ∈ s.telecommandMap.entries) :
  List.Perm s.telecommandMap.entries ((key, tc) :: otherEntries s tc.storeAddr)
  := by
  have hfilter : s.telecommandMap.entries.filter
      (fun entry => entry.2.storeAddr = tc.storeAddr) = [(key, tc)] := by
    apply filter_eq_singleton hs.backed.nodup.of_map hentry (decide_eq_true rfl)
    intro entry hentry' haddr
    exact eq_of_storeAddr_eq hs hentry' hentry (of_decide_eq_true haddr)
  have hperm := List.filter_append_perm
    (fun entry => decide (entry.2.storeAddr = tc.storeAddr)) s.telecommandMap.entries
  rw [hfilter] at hperm
  simpa [otherEntries] using hperm.symm

/-- A request id finds an entry alone exactly when it is recorded for it and for no other
telecommand. -/
theorem filter_hasRequestId_iff (hs : Kept laws s)
    (hentry : (key, tc) ∈ s.telecommandMap.entries) (requestId : UInt64) :
  s.telecommandMap.entries.filter (hasRequestId requestId) = [(key, tc)] ↔
    tc.requestId = requestId ∧ Unshared s tc.storeAddr requestId
  := by
  constructor
  · intro h
    have hmem : ∀ entry, entry ∈ s.telecommandMap.entries ∧ entry.2.requestId = requestId ↔
        entry = (key, tc) := by
      intro entry
      have hiff : entry ∈ s.telecommandMap.entries.filter (hasRequestId requestId) ↔
          entry ∈ [(key, tc)] := by
        rw [h]
      simpa [hasRequestId] using hiff
    refine ⟨((hmem (key, tc)).mpr rfl).2, ?_⟩
    intro entry hentry' hne hid
    rw [(hmem entry).mp ⟨hentry', hid⟩] at hne
    exact hne rfl
  · rintro ⟨hid, hunshared⟩
    apply filter_eq_singleton hs.backed.nodup.of_map hentry (decide_eq_true hid)
    intro entry hentry' hid'
    by_contra hne
    apply hunshared entry hentry' _ (of_decide_eq_true hid')
    intro haddr
    exact hne (eq_of_storeAddr_eq hs hentry' hentry haddr)

/-- What is left when an entry that a request id finds alone is erased. -/
theorem perm_eraseFirst_otherEntries (hs : Kept laws s)
    (hentry : (key, tc) ∈ s.telecommandMap.entries) {requestId : UInt64}
    (hfilter : s.telecommandMap.entries.filter (hasRequestId requestId) = [(key, tc)]) :
  List.Perm (s.telecommandMap.eraseFirst (hasRequestId requestId)).entries
    (otherEntries s tc.storeAddr)
  := by
  have hperm := (perm_eraseFirst hfilter).symm.trans (perm_otherEntries hs hentry)
  exact hperm.cons_inv

/-! ### When it does so -/

variable {tvSec : ℤ} {currentPacket : PusTc} {requestId : UInt64} {rest : List UInt8}

/-- A request deletes the only entry with its request id. -/
theorem doDeleteActivity_eq_ok_iff {τ : Type*} {tcStore : StorageManagerIF τ}
    {data : List UInt8} (hdata : getRequestIdFromData data = .ok (requestId, rest))
    {telecommandMap telecommandMap' : TelecommandMap} {store store' : τ} :
  doDeleteActivity tcStore data telecommandMap store = (.ok, telecommandMap', store') ↔
    ∃ entry, telecommandMap.entries.filter (hasRequestId requestId) = [entry] ∧
      tcStore.deleteData entry.2.storeAddr store = (.ok, store') ∧
      telecommandMap' = telecommandMap.eraseFirst (hasRequestId requestId)
  := by
  rw [doDeleteActivity, hdata]
  simp only
  constructor
  · intro h
    split at h
    · rename_i entry hfilter
      use entry, hfilter
      split at h
      · rename_i store₁ hdelete
        cases h
        exact ⟨hdelete, rfl⟩
      · cases h
    · cases h
  · rintro ⟨entry, hfilter, hdelete, rfl⟩
    simp only [hfilter, hdelete]

/-- A request shifts the only entry with its request id. -/
theorem doTimeshiftActivity_eq_ok_iff (maxNumTcs : ℕ) {data data' : List UInt8}
    {relativeTime : UInt32} (hrelative : deSerialize32 data = .ok (relativeTime, data'))
    (hdata : getRequestIdFromData data' = .ok (requestId, rest))
    {telecommandMap telecommandMap' : TelecommandMap} :
  doTimeshiftActivity maxNumTcs data telecommandMap = (.ok, telecommandMap') ↔
    relativeTime ≠ 0 ∧
    ∃ key tc, telecommandMap.entries.filter (hasRequestId requestId) = [(key, tc)] ∧
      telecommandMap' = (insertBounded maxNumTcs
        (telecommandMap.eraseFirst (hasRequestId requestId)) (key + relativeTime, tc)).2
  := by
  rw [doTimeshiftActivity, hrelative]
  simp only [hdata]
  constructor
  · intro h
    split_ifs at h with hzero
    · cases h
    · use hzero
      split at h
      · rename_i key tc hfilter
        cases h
        exact ⟨key, tc, hfilter, rfl⟩
      · cases h
  · rintro ⟨hzero, key, tc, hfilter, rfl⟩
    rw [if_neg hzero]
    simp only [hfilter]

/-- A telecommand is deleted exactly when the request id is recorded for it alone. -/
theorem removesExactly_iff (hfaultless : laws.Faultless) (hs : Kept laws s)
    (hentry : (key, tc) ∈ s.telecommandMap.entries)
    (hdata : getRequestIdFromData currentPacket.userData = .ok (requestId, rest)) :
  RemovesExactly laws s tc.storeAddr tvSec currentPacket ↔
    tc.requestId = requestId ∧ Unshared s tc.storeAddr requestId
  := by
  have hrequest : service.withLog.handleRequest tvSec 5 currentPacket s =
      s.activity (doDeleteActivity (logged service.tcStore) currentPacket.userData
        s.telecommandMap s.store) := rfl
  rw [← filter_hasRequestId_iff hs hentry]
  constructor
  · rintro ⟨s', hstep, hperm, -⟩
    rcases hdelete : doDeleteActivity (logged service.tcStore) currentPacket.userData
      s.telecommandMap s.store with ⟨result, telecommandMap', store'⟩
    simp only [step, hrequest, hdelete, State.activity] at hstep
    cases hstep
    obtain ⟨entry, hfilter, -, rfl⟩ := (doDeleteActivity_eq_ok_iff hdata).mp hdelete
    -- The entry that was found is not among the other ones, since it was erased.
    have hmem : entry ∈ s.telecommandMap.entries ∧ hasRequestId requestId entry := by
      apply List.mem_filter.mp
      rw [hfilter]
      exact List.mem_singleton_self entry
    by_cases haddr : entry.2.storeAddr = tc.storeAddr
    · rw [hfilter, eq_of_storeAddr_eq hs hmem.1 hentry haddr]
    · exfalso
      have hother : entry ∈ otherEntries s tc.storeAddr :=
        List.mem_filter.mpr ⟨hmem.1, decide_eq_true haddr⟩
      have hleft := hperm.mem_iff.mpr hother
      rw [entries_eraseFirst, eraseP_of_filter_eq hfilter, List.mem_filter] at hleft
      simp [hmem.2] at hleft
  · intro hfilter
    obtain ⟨data, -, hpacket⟩ := hs.backed.packet tc.storeAddr (List.mem_map_of_mem hentry)
    have hok : (service.tcStore.deleteData tc.storeAddr s.store.1).1 = .ok := by
      apply hfaultless.deletes
      rw [hpacket]
      exact Option.some_ne_none data
    have hdelete : (logged service.tcStore).deleteData tc.storeAddr s.store =
        (.ok, ((logged service.tcStore).deleteData tc.storeAddr s.store).2) := by
      rw [logged_deleteData, hok]
    have hactivity := (doDeleteActivity_eq_ok_iff hdata).mpr ⟨(key, tc), hfilter, hdelete, rfl⟩
    have hcontents := laws.contents_deleteData tc.storeAddr s.store.1 hok
    have hperm := perm_eraseFirst_otherEntries hs hentry hfilter
    refine ⟨{ s with
      telecommandMap := s.telecommandMap.eraseFirst (hasRequestId requestId)
      store := ((logged service.tcStore).deleteData tc.storeAddr s.store).2 }, ?_, hperm, ?_⟩
    · simp only [step, hrequest, hactivity, State.activity]
    · rw [logged_deleteData]
      exact hcontents

/-- The entry that a request id finds alone is inserted again with another key. -/
theorem perm_shifted (hs : Kept laws s) (hentry : (key, tc) ∈ s.telecommandMap.entries)
    (hfilter : s.telecommandMap.entries.filter (hasRequestId requestId) = [(key, tc)])
    (relativeTime : UInt32) :
  List.Perm (insertBounded service.maxNumTcs
      (s.telecommandMap.eraseFirst (hasRequestId requestId)) (key + relativeTime, tc)).2.entries
    ((key + relativeTime, tc) :: otherEntries s tc.storeAddr)
  := by
  have hlength := (perm_eraseFirst hfilter).length_eq
  have hroom := hs.room
  rw [List.length_cons] at hlength
  rw [insertBounded, if_pos (by omega)]
  apply (perm_insertEntry _ _).trans
  exact (perm_eraseFirst_otherEntries hs hentry hfilter).cons _

/-- A telecommand is moved exactly when the request id is recorded for it alone, the relative time
is not zero, and the new release time is the one that is recorded anyway. -/
theorem movesExactly_iff (hs : Kept laws s) (hentry : (key, tc) ∈ s.telecommandMap.entries)
    {relativeTime : UInt32} {data : List UInt8}
    (hrelative : deSerialize32 currentPacket.userData = .ok (relativeTime, data))
    (hdata : getRequestIdFromData data = .ok (requestId, rest)) :
  MovesExactly laws s tc.storeAddr key relativeTime tvSec currentPacket ↔
    tc.requestId = requestId ∧ Unshared s tc.storeAddr requestId ∧ relativeTime ≠ 0 ∧
    tc.seconds.toNat = key.toNat + relativeTime.toNat
  := by
  have hrequest : service.withLog.handleRequest tvSec 7 currentPacket s =
      some ((doTimeshiftActivity service.maxNumTcs currentPacket.userData s.telecommandMap).1,
        { s with telecommandMap := (doTimeshiftActivity service.maxNumTcs
          currentPacket.userData s.telecommandMap).2 }) := rfl
  rw [← and_assoc, ← filter_hasRequestId_iff hs hentry]
  constructor
  · rintro ⟨s', key', tc', hstep, hkey', haddr', hseconds, hperm, -⟩
    rcases hshift : doTimeshiftActivity service.maxNumTcs currentPacket.userData
      s.telecommandMap with ⟨result, telecommandMap'⟩
    simp only [step, hrequest, hshift] at hstep
    cases hstep
    obtain ⟨hzero, key₁, tc₁, hfilter, rfl⟩ :=
      (doTimeshiftActivity_eq_ok_iff service.maxNumTcs hrelative hdata).mp hshift
    have hentry₁ : (key₁, tc₁) ∈ s.telecommandMap.entries := by
      apply List.mem_of_mem_filter (p := hasRequestId requestId)
      rw [hfilter]
      exact List.mem_singleton_self _
    have hperm' := hperm.symm.trans (perm_shifted hs hentry₁ hfilter relativeTime)
    by_cases haddr : tc₁.storeAddr = tc.storeAddr
    · cases eq_of_storeAddr_eq hs hentry₁ hentry haddr
      refine ⟨hfilter, hzero, ?_⟩
      rcases List.mem_cons.mp (hperm'.mem_iff.mp List.mem_cons_self) with heq | hother
      · cases heq
        rw [hseconds, hkey']
      · exact absurd haddr' (of_decide_eq_true (List.mem_filter.mp hother).2)
    · -- Another entry was shifted, and it did not move.
      exfalso
      rcases List.mem_cons.mp (hperm'.mem_iff.mpr List.mem_cons_self) with heq | hother
      · cases heq
        exact haddr haddr'
      · have hsame := eq_of_storeAddr_eq hs (List.mem_filter.mp hother).1 hentry₁ rfl
        have hkey := congrArg Prod.fst hsame
        simp only [UInt32.add_eq_left] at hkey
        exact hzero hkey
  · rintro ⟨hfilter, hzero, hseconds⟩
    have hshift := (doTimeshiftActivity_eq_ok_iff service.maxNumTcs hrelative hdata).mpr
      ⟨hzero, key, tc, hfilter, rfl⟩
    have hperm := perm_shifted hs hentry hfilter relativeTime
    have hkey : (key + relativeTime).toNat = key.toNat + relativeTime.toNat := by
      rw [UInt32.toNat_add, ← hseconds]
      exact Nat.mod_eq_of_lt tc.seconds.toNat_lt
    refine ⟨{ s with telecommandMap := _ }, key + relativeTime, tc, ?_, hkey, rfl, ?_, hperm, rfl⟩
    · simp only [step, hrequest]
      rw [hshift]
    · apply UInt32.toNat.inj
      rw [hseconds, hkey]

end

/-! ### Over runs -/

/-- A telecommand that was inserted is scheduled with what was recorded for it. -/
theorem mem_of_insert {tvSec : ℤ} {currentPacket : PusTc}
    (hinsert : service.step s (.request tvSec 4 currentPacket) = some (s', .ok, []))
    {timestamp : UInt32} {data : List UInt8}
    (hcheck : checkInsert service.releaseTimeMarginSeconds tvSec currentPacket.userData
      = .ok (timestamp, data)) :
  (timestamp, ⟨getRequestIdFromTc currentPacket, timestamp,
    (service.tcStore.addData data s.store.1).2.1⟩) ∈ s'.telecommandMap.entries
  := by
  have hrequest : service.withLog.handleRequest tvSec 4 currentPacket s =
      s.activity (doInsertActivity (logged service.tcStore) service.maxNumTcs
        service.releaseTimeMarginSeconds tvSec currentPacket s.telecommandMap s.store) := rfl
  rcases hactivity : doInsertActivity (logged service.tcStore) service.maxNumTcs
      service.releaseTimeMarginSeconds tvSec currentPacket s.telecommandMap s.store with
    ⟨result, telecommandMap', store'⟩
  simp only [step, hrequest, hactivity, State.activity] at hinsert
  cases hinsert
  rcases doInsertActivity_cases hactivity with ⟨herror, -⟩ |
    ⟨timestamp', data', hcheck', -, ⟨hfailed, -⟩ | ⟨-, -, -, rfl⟩⟩
  · rw [hcheck] at herror
    cases herror
  · cases hfailed
  · rw [hcheck] at hcheck'
    cases hcheck'
    rw [logged_addData]
    exact (perm_insertEntry _ _).mem_iff.mpr List.mem_cons_self

/-- A telecommand is scheduled, and nothing has happened to it since an earlier state. -/
structure StillScheduled (s s' : State (σ × List Event)) (key : UInt32) (addr : StoreAddress) :
    Prop where
  mem : ∃ tc, (key, tc) ∈ s'.telecommandMap.entries ∧ tc.storeAddr = addr
  events : eventsAbout s'.store.2 addr = eventsAbout s.store.2 addr

/-- After a run, take a telecommand that was inserted before, and to which nothing happened.  A
request with its own request id deletes it exactly when this id was also the one of the request
that inserted it, and no other telecommand is recorded with it.  A request moves it exactly when,
moreover, the relative time is not zero, and leads to the time for which it was inserted. -/
theorem addressed_iff (laws : service.tcStore.Reliable) (hfaultless : laws.Faultless)
    {store : σ} {ops ops' : List (Op σ)} {s₁ s₂ s₃ : State (σ × List Event)}
    {outputs outputs' : List (ReturnValue × List Release)}
    (hops : service.step.Along (Undisturbed laws) (State.new (store, [])) ops)
    (hrun : service.step.run (State.new (store, [])) ops = some (s₁, outputs))
    {tvSec : ℤ} {currentPacket : PusTc}
    (hinsert : service.step s₁ (.request tvSec 4 currentPacket) = some (s₂, .ok, []))
    {timestamp : UInt32} {data : List UInt8}
    (hcheck : checkInsert service.releaseTimeMarginSeconds tvSec currentPacket.userData
      = .ok (timestamp, data))
    (hops' : service.step.Along (Undisturbed laws) s₂ ops')
    (hrun' : service.step.run s₂ ops' = some (s₃, outputs'))
    {key : UInt32} {addr : StoreAddress}
    (haddr : addr = (service.tcStore.addData data s₁.store.1).2.1)
    (hscheduled : StillScheduled s₂ s₃ key addr) :
  (∀ tvSec' deletePacket rest,
    getRequestIdFromData deletePacket.userData = .ok (containedRequestId data, rest) →
    (RemovesExactly laws s₃ addr tvSec' deletePacket ↔
      getRequestIdFromTc currentPacket = containedRequestId data ∧
      Unshared s₃ addr (containedRequestId data))) ∧
  ∀ tvSec' shiftPacket relativeTime data' rest,
    deSerialize32 shiftPacket.userData = .ok (relativeTime, data') →
    getRequestIdFromData data' = .ok (containedRequestId data, rest) →
    (MovesExactly laws s₃ addr key relativeTime tvSec' shiftPacket ↔
      getRequestIdFromTc currentPacket = containedRequestId data ∧
      Unshared s₃ addr (containedRequestId data) ∧ relativeTime ≠ 0 ∧
      timestamp.toNat = key.toNat + relativeTime.toNat)
  := by
  have hs₁ := Step.run_preserves_along (I := Kept laws)
    (fun s op s' output hs hop h => kept_step hs hop h) (kept_new store) hops hrun
  have hs₂ : Kept laws s₂ := kept_step hs₁ (by trivial) hinsert
  have hs₃ := Step.run_preserves_along (I := Kept laws)
    (fun s op s' output hs hop h => kept_step hs hop h) hs₂ hops' hrun'
  obtain ⟨⟨tc, hentry, htc⟩, hevents⟩ := hscheduled
  -- The entry is still the one that was recorded.
  have hbefore := mem_of_run hs₂ hops' hrun' (List.mem_map_of_mem hentry)
    (by rw [htc]; exact hevents)
  obtain ⟨⟨key₂, tc₂⟩, hentry₂, heq⟩ := List.mem_map.mp hbefore
  simp only at heq
  rw [heq] at hentry₂
  have hsame := eq_of_storeAddr_eq hs₂ hentry₂ (mem_of_insert hinsert hcheck)
    (htc.trans haddr)
  cases hsame
  subst haddr
  constructor
  · intro tvSec' deletePacket rest hdata
    exact removesExactly_iff hfaultless hs₃ hentry hdata
  · intro tvSec' shiftPacket relativeTime data' rest hrelative hdata
    exact movesExactly_iff hs₃ hentry hrelative hdata

end

/-- The request to schedule `pingTc`, with the request id of `pingTc` itself. -/
def insertPingTcAlike : PusTc :=
  { insertPingTc with sequenceCount := 7 }

/-- The requests to delete `pingTc`, and to move it by ten seconds. -/
def deletePingTc : PusTc :=
  ⟨3, 66, 9, [0, 0, 0, 3, 0, 66, 0, 7]⟩

def shiftPingTc : PusTc :=
  ⟨3, 66, 9, [0, 0, 0, 10, 0, 0, 0, 3, 0, 66, 0, 7]⟩

theorem addressed_iff_pingTc :
  ∃ s, pairService.step (State.new ((none, none), [])) (.request 10 4 insertPingTcAlike) =
      some (s, .ok, []) ∧
    RemovesExactly pairService_reliable s ⟨0, 0⟩ 10 deletePingTc
  := by
  have hstep : ((pairService.step (State.new ((none, none), []))
      (.request 10 4 insertPingTcAlike)).map fun result => result.2) = some (.ok, []) := by
    decide +kernel
  have hentries : ((pairService.step (State.new ((none, none), []))
      (.request 10 4 insertPingTcAlike)).map fun result => result.1.telecommandMap.entries) =
        some [(100, ⟨getRequestIdFromTc insertPingTcAlike, 100, ⟨0, 0⟩⟩)] := by
    decide +kernel
  obtain ⟨⟨s, output⟩, hs, houtput⟩ := Option.map_eq_some_iff.mp hstep
  simp only at houtput
  rw [houtput] at hs
  rw [hs] at hentries
  simp only [Option.map_some, Option.some.injEq] at hentries
  refine ⟨s, hs, ?_⟩
  have hscheduled : StillScheduled s s 100 ⟨0, 0⟩ := by
    refine ⟨⟨⟨getRequestIdFromTc insertPingTcAlike, 100, ⟨0, 0⟩⟩, ?_, rfl⟩, rfl⟩
    rw [hentries]
    exact List.mem_singleton_self _
  have hcheck : checkInsert 5 10 insertPingTcAlike.userData = .ok (100, pingTc) := by
    decide +kernel
  have hnil : ∀ s, pairService.step.Along (Undisturbed pairService_reliable) s [] :=
    fun _ => trivial
  apply ((addressed_iff pairService_reliable pairStore_faultless (hnil _) rfl hs hcheck
    (hnil s) rfl rfl hscheduled).1 10 deletePingTc [] (by decide +kernel)).mpr
  refine ⟨by decide +kernel, ?_⟩
  intro entry hentry hne
  rw [hentries, List.mem_singleton] at hentry
  rw [hentry] at hne
  exact absurd rfl hne

/-- A telecommand is alone in the schedule, but it can be neither deleted nor moved with its own
request id. -/
theorem not_addressed_pingTc :
  ∃ s, pairService.step (State.new ((none, none), [])) (.request 10 4 insertPingTc) =
      some (s, .ok, []) ∧
    checkInsert pairService.releaseTimeMarginSeconds 10 insertPingTc.userData =
      .ok (100, pingTc) ∧
    getRequestIdFromData deletePingTc.userData = .ok (containedRequestId pingTc, []) ∧
    ¬ RemovesExactly pairService_reliable s ⟨0, 0⟩ 10 deletePingTc ∧
    ¬ MovesExactly pairService_reliable s ⟨0, 0⟩ 100 10 10 shiftPingTc
  := by
  have hinsert : ((pairService.step (State.new ((none, none), []))
      (.request 10 4 insertPingTc)).map fun result => result.2) = some (.ok, []) := by
    decide +kernel
  have hdelete : ((pairService.step.run (State.new ((none, none), []))
      [.request 10 4 insertPingTc, .request 10 5 deletePingTc]).map fun run => run.2) =
        some [(.ok, []), (.failed, [])] := by
    decide +kernel
  have hshift : ((pairService.step.run (State.new ((none, none), []))
      [.request 10 4 insertPingTc, .request 10 7 shiftPingTc]).map fun run => run.2) =
        some [(.ok, []), (timeshiftingNotPossible, [])] := by
    decide +kernel
  obtain ⟨⟨s, output⟩, hs, houtput⟩ := Option.map_eq_some_iff.mp hinsert
  simp only at houtput
  rw [houtput] at hs
  refine ⟨s, hs, by decide +kernel, by decide +kernel, ?_, ?_⟩
  · rintro ⟨s', hs', -⟩
    rw [Step.run_cons hs (Step.run_cons hs' rfl)] at hdelete
    cases hdelete
  · rintro ⟨s', key', tc, hs', -⟩
    rw [Step.run_cons hs (Step.run_cons hs' rfl)] at hshift
    cases hshift

end Service11TelecommandScheduling
