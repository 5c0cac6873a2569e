import Fsfw.Library.Run
import Fsfw.Pus.ScheduleEffects

/-!
# Runs of the scheduling service

The requests, the releases and what the rest of the system does to the store are the steps of
a run.  A log is kept of the packets that the service adds to the store, deletes from it, and
sends to the recipient.  The latest event comes first.

The packets of the schedule are at different addresses, and since each was added nothing has
happened to it (`Backed`).  This is kept by all that a request does (`Backed.effect`) and by the
release of telecommands (`Backed.releases`).
-/

open Multimap

namespace Service11TelecommandScheduling

variable {σ : Type*}

/-! ### The log -/

/-- What happens to packets.  A packet is sent for an entry with a key, at a time. -/
inductive Event where
  | added (addr : StoreAddress) (data : List UInt8)
  | deleted (addr : StoreAddress)
  | sent (addr : StoreAddress) (key : UInt32) (tvSec : ℤ)
  deriving DecidableEq

/-- The address that an event is about. -/
def Event.addr : Event → StoreAddress
  | added addr _ => addr
  | deleted addr => addr
  | sent addr _ _ => addr

/-- The last event about an address. -/
def lastEvent (log : List Event) (addr : StoreAddress) : Option Event :=
  log.find? fun event => event.addr = addr

theorem lastEvent_cons (event : Event) (log : List Event) :
  lastEvent (event :: log) event.addr = some event
  := by
  rw [lastEvent, List.find?_cons_of_pos]
  apply decide_eq_true rfl

theorem lastEvent_cons_of_ne {event : Event} {addr : StoreAddress} (h : addr ≠ event.addr)
    (log : List Event) :
  lastEvent (event :: log) addr = lastEvent log addr
  := by
  rw [lastEvent, List.find?_cons_of_neg]
  · rfl
  · intro heq
    apply h (of_decide_eq_true heq).symm

/-- The packet at an address was added by the service, and neither deleted nor sent. -/
def Outstanding (log : List Event) (addr : StoreAddress) : Prop :=
  ∃ data, lastEvent log addr = some (.added addr data)

/-- The store, with a log of what is added and deleted. -/
def logged (tcStore : StorageManagerIF σ) : StorageManagerIF (σ × List Event) where
  addData data s :=
    match tcStore.addData data s.1 with
    | (.ok, addr, store) => (.ok, addr, store, .added addr data :: s.2)
    | (result, addr, store) => (result, addr, store, s.2)
  deleteData addr s :=
    match tcStore.deleteData addr s.1 with
    | (.ok, store) => (.ok, store, .deleted addr :: s.2)
    | (result, store) => (result, store, s.2)

/-! ### Steps -/

/-- A step: a request, the release of the telecommands that are due, or a change of the store
by its other users. -/
inductive Op (σ : Type*) where
  | request (tvSec : ℤ) (subservice : UInt8) (currentPacket : PusTc)
  | performService (tvSec : ℤ) (sendMessage : ℕ → ReturnValue)
  | others (change : σ → σ)

/-- The log after some messages, of which those with the result `ok` were sent. -/
def logReleases (tvSec : ℤ) : List Release → List Event → List Event
  | [], log => log
  | (entry, result) :: releases, log =>
      if result = .ok then
        logReleases tvSec releases (.sent entry.2.storeAddr entry.1 tvSec :: log)
      else
        logReleases tvSec releases log

/-- The service with a log of what it does to the store. -/
def withLog (service : Service11TelecommandScheduling σ) :
    Service11TelecommandScheduling (σ × List Event) :=
  { service with tcStore := logged service.tcStore }

/-- A step gives its result and the messages that are sent. -/
def step (service : Service11TelecommandScheduling σ) :
    Step (State (σ × List Event)) (Op σ) (ReturnValue × List Release)
  | s, .request tvSec subservice currentPacket =>
      match service.withLog.handleRequest tvSec subservice currentPacket s with
      | none => none
      | some (result, s) => some (s, result, [])
  | s, .performService tvSec sendMessage =>
      match performService tvSec sendMessage s with
      | none => none
      | some (result, releases, s) =>
          some ({ s with store := (s.store.1, logReleases tvSec releases s.store.2) },
            result, releases)
  | s, .others change =>
      some ({ s with store := (change s.store.1, s.store.2) }, .ok, [])

/-! ### What the log and the store know of the schedule -/

/-- The addresses of the packets of some entries. -/
def addresses (entries : List (UInt32 × TelecommandStruct)) : List StoreAddress :=
  entries.map fun entry => entry.2.storeAddr

theorem addresses_append (entries entries' : List (UInt32 × TelecommandStruct)) :
  addresses (entries ++ entries') = addresses entries ++ addresses entries'
  := List.map_append

/-- The addresses are different ones, and the packets there are those that were added last. -/
structure Backed (contents : StoreAddress → Option (List UInt8)) (log : List Event)
    (addrs : List StoreAddress) : Prop where
  nodup : addrs.Nodup
  packet : ∀ addr ∈ addrs, ∃ data, lastEvent log addr = some (.added addr data) ∧
    contents addr = some data

section

variable {contents contents' : StoreAddress → Option (List UInt8)} {log log' : List Event}
  {addrs addrs' : List StoreAddress}

/-- Some of the addresses, in any order. -/
theorem Backed.subperm (h : Backed contents log addrs) (hsub : addrs'.Subperm addrs) :
  Backed contents log addrs'
  := by
  constructor
  · obtain ⟨l, hperm, hl⟩ := hsub
    exact hperm.nodup_iff.mp (h.nodup.sublist hl)
  · intro addr haddr
    exact h.packet addr (hsub.subset haddr)

/-- Only what is at the addresses, and the last events about them, matter. -/
theorem Backed.congr (h : Backed contents log addrs)
    (hcontents : ∀ addr ∈ addrs, contents' addr = contents addr)
    (hlog : ∀ addr ∈ addrs, lastEvent log' addr = lastEvent log addr) :
  Backed contents' log' addrs
  := by
  use h.nodup
  intro addr haddr
  rw [hcontents addr haddr, hlog addr haddr]
  exact h.packet addr haddr

/-- Where there is no packet, there is none of the schedule. -/
theorem Backed.ne_of_free (h : Backed contents log addrs) {addr addr' : StoreAddress}
    (hfree : contents addr = none) (haddr' : addr' ∈ addrs) :
  addr' ≠ addr
  := by
  rintro rfl
  obtain ⟨data, -, hdata⟩ := h.packet addr' haddr'
  rw [hfree] at hdata
  cases hdata

/-- A packet is added at an address where there was none. -/
theorem Backed.add (h : Backed contents log addrs) {addr : StoreAddress}
    (hfree : contents addr = none) (data : List UInt8) :
  Backed (Function.update contents addr (some data)) (.added addr data :: log) (addr :: addrs)
  := by
  have hne : ∀ addr' ∈ addrs, addr' ≠ addr := fun addr' => h.ne_of_free hfree
  constructor
  · apply List.nodup_cons.mpr
    refine ⟨?_, h.nodup⟩
    intro hmem
    exact hne addr hmem rfl
  · intro addr' haddr'
    rcases List.mem_cons.mp haddr' with rfl | haddr'
    · exact ⟨data, lastEvent_cons _ _, Function.update_self _ _ _⟩
    · rw [Function.update_of_ne (hne addr' haddr'), lastEvent_cons_of_ne (hne addr' haddr')]
      exact h.packet addr' haddr'

end

/-! ### What the operations of the store do to the other packets -/

section

variable {tcStore : StorageManagerIF σ}

theorem logged_addData (data : List UInt8) (s : σ × List Event) :
  (logged tcStore).addData data s =
    ((tcStore.addData data s.1).1, (tcStore.addData data s.1).2.1,
      (tcStore.addData data s.1).2.2,
      if (tcStore.addData data s.1).1 = .ok then
        .added (tcStore.addData data s.1).2.1 data :: s.2
      else
        s.2)
  := by
  rcases hadd : tcStore.addData data s.1 with ⟨result, addr, store⟩
  cases result <;> simp [logged, hadd]

theorem logged_deleteData (addr : StoreAddress) (s : σ × List Event) :
  (logged tcStore).deleteData addr s =
    ((tcStore.deleteData addr s.1).1, (tcStore.deleteData addr s.1).2,
      if (tcStore.deleteData addr s.1).1 = .ok then .deleted addr :: s.2 else s.2)
  := by
  rcases hdelete : tcStore.deleteData addr s.1 with ⟨result, store⟩
  cases result <;> simp [logged, hdelete]

variable (laws : tcStore.Reliable)

/-- The same packet is at an address, and nothing has happened to it. -/
def SameAt (addr : StoreAddress) (s s' : σ × List Event) : Prop :=
  laws.contents s'.1 addr = laws.contents s.1 addr ∧ lastEvent s'.2 addr = lastEvent s.2 addr

theorem SameAt.trans {addr : StoreAddress} {s s' s'' : σ × List Event}
    (h : SameAt laws addr s s') (h' : SameAt laws addr s' s'') :
  SameAt laws addr s s''
  := ⟨h'.1.trans h.1, h'.2.trans h.2⟩

theorem sameAt_addData {data : List UInt8} {s : σ × List Event} {addr : StoreAddress}
    (h : (tcStore.addData data s.1).1 = .ok → addr ≠ (tcStore.addData data s.1).2.1) :
  SameAt laws addr s ((logged tcStore).addData data s).2.2
  := by
  rw [logged_addData]
  by_cases hok : (tcStore.addData data s.1).1 = .ok
  · simp only [hok, if_true]
    constructor
    · rw [laws.contents_addData data s.1 hok, Function.update_of_ne (h hok)]
    · exact lastEvent_cons_of_ne (h hok) _
  · simp only [hok, if_false]
    exact ⟨by rw [laws.contents_addData_failed data s.1 hok], rfl⟩

theorem sameAt_deleteData {addr addr' : StoreAddress} {s : σ × List Event}
    (h : (tcStore.deleteData addr s.1).1 = .ok → addr' ≠ addr) :
  SameAt laws addr' s ((logged tcStore).deleteData addr s).2
  := by
  rw [logged_deleteData]
  by_cases hok : (tcStore.deleteData addr s.1).1 = .ok
  · simp only [hok, if_true]
    constructor
    · rw [laws.contents_deleteData addr s.1 hok, Function.update_of_ne (h hok)]
    · exact lastEvent_cons_of_ne (h hok) _
  · simp only [hok, if_false]
    exact ⟨by rw [laws.contents_deleteData_failed addr s.1 hok], rfl⟩

theorem sameAt_deleteAll {gone : List (UInt32 × TelecommandStruct)} {addr : StoreAddress}
    (h : addr ∉ addresses gone) (s : σ × List Event) :
  SameAt laws addr s (deleteAll (logged tcStore) gone s)
  := by
  induction gone generalizing s with
  | nil =>
      exact ⟨rfl, rfl⟩
  | cons entry gone ih =>
      rw [addresses, List.map_cons, List.mem_cons, not_or] at h
      apply SameAt.trans laws (sameAt_deleteData laws (fun _ => h.1)) (ih h.2 _)

end

/-! ### The schedule is backed by the store -/

section

variable {service : Service11TelecommandScheduling σ} (laws : service.tcStore.Reliable)

/-- The packets of the schedule are in the store. -/
def ScheduleBacked (s : State (σ × List Event)) : Prop :=
  Backed (laws.contents s.store.1) s.store.2 (addresses s.telecommandMap.entries)

variable {laws} {s s' : State (σ × List Event)}

/-- The other packets are as they were, and of the schedule some entries are left. -/
theorem ScheduleBacked.subperm (h : ScheduleBacked laws s)
    (hsub : (addresses s'.telecommandMap.entries).Subperm (addresses s.telecommandMap.entries))
    (hsame : ∀ addr ∈ addresses s'.telecommandMap.entries, SameAt laws addr s.store s'.store) :
  ScheduleBacked laws s'
  := by
  have hbacked := Backed.subperm h hsub
  apply hbacked.congr
  · intro addr haddr
    exact (hsame addr haddr).1
  · intro addr haddr
    exact (hsame addr haddr).2

theorem addresses_perm {entries entries' : List (UInt32 × TelecommandStruct)}
    (h : List.Perm (entries.map Prod.snd) (entries'.map Prod.snd)) :
  List.Perm (addresses entries) (addresses entries')
  := by
  have hperm := h.map TelecommandStruct.storeAddr
  rwa [List.map_map, List.map_map] at hperm

/-- Whatever a request does, the schedule is backed by the store. -/
theorem ScheduleBacked.effect {tvSec : ℤ} {subservice : UInt8} {currentPacket : PusTc}
    (h : ScheduleBacked laws s)
    (heffect : Effect service.withLog tvSec subservice currentPacket s s') :
  ScheduleBacked laws s'
  := by
  cases heffect with
  | rearranged hperm hstore =>
      apply h.subperm (addresses_perm hperm).subperm
      intro addr _
      rw [hstore]
      exact ⟨rfl, rfl⟩
  | stored timestamp data _ _ _ hmap hstore =>
      apply h.subperm (by rw [hmap])
      rw [hmap, hstore]
      intro addr haddr
      apply sameAt_addData
      intro hok
      exact Backed.ne_of_free h (laws.free_of_addData data s.store.1 hok) haddr
  | inserted timestamp data _ hadd hperm hstore =>
      rw [withLog, logged_addData] at hadd hperm hstore
      simp only at hadd
      have hbacked := Backed.add h (laws.free_of_addData data s.store.1 hadd) data
      rw [← laws.contents_addData data s.store.1 hadd] at hbacked
      rw [ScheduleBacked, hstore]
      simp only [hadd, if_true]
      exact hbacked.subperm (addresses_perm (hperm.map Prod.snd)).subperm
  | kept addr hfailed hmap hstore =>
      rw [withLog, logged_deleteData] at hfailed
      apply h.subperm (by rw [hmap])
      rw [hstore]
      intro addr' _
      apply sameAt_deleteData
      intro hok
      exact absurd hok hfailed
  | removed gone lost hperm hstore hlost =>
      have haddrs := addresses_perm (hperm.map Prod.snd)
      rw [addresses_append, addresses_append, List.append_assoc] at haddrs
      have hnodup := haddrs.nodup_iff.mp h.nodup
      have hsub : (addresses s'.telecommandMap.entries).Sublist
          (addresses gone ++ (addresses lost ++ addresses s'.telecommandMap.entries)) :=
        (List.sublist_append_right _ _).trans (List.sublist_append_right _ _)
      apply h.subperm (hsub.subperm.trans haddrs.symm.subperm)
      rw [hstore]
      intro addr haddr
      apply sameAt_deleteAll
      intro hgone
      exact List.disjoint_of_nodup_append hnodup hgone (List.mem_append_right _ haddr)

/-! ### Releases -/

/-- The entries whose messages were sent. -/
def sentEntries (releases : List Release) : List (UInt32 × TelecommandStruct) :=
  (releases.filter fun release => release.2 = .ok).map Prod.fst

theorem sentEntries_cons_ok (entry : UInt32 × TelecommandStruct) (releases : List Release) :
  sentEntries ((entry, .ok) :: releases) = entry :: sentEntries releases
  := by
  simp [sentEntries]

theorem sentEntries_cons_failed (entry : UInt32 × TelecommandStruct) {result : ReturnValue}
    (h : result ≠ .ok) (releases : List Release) :
  sentEntries ((entry, result) :: releases) = sentEntries releases
  := by
  simp [sentEntries, h]

/-- Messages were sent for entries that are due, in their order.  The entries left are those
whose messages were not sent. -/
structure Released (tvSec : ℤ) (entries : List (UInt32 × TelecommandStruct))
    (releases : List Release) (left : List (UInt32 × TelecommandStruct)) : Prop where
  ordered : (releases.map Prod.fst).Sublist entries
  perm : List.Perm entries (sentEntries releases ++ left)
  due : ∀ release ∈ releases, (release.1.1.toNat : ℤ) ≤ tvSec
  failed : ∀ release ∈ releases, release.2 ≠ .ok → release.1 ∈ left

/-- While scheduling is enabled, the loop comes to its end. -/
theorem released_of_releaseLoop (deleteExpired : Bool) (tvSec : ℤ)
    (sendMessage : ℕ → ReturnValue) (k : ℕ) (entries : List (UInt32 × TelecommandStruct)) :
  ∃ result releases left,
    releaseLoop true deleteExpired tvSec sendMessage k entries = some (result, releases, left) ∧
    Released tvSec entries releases left
  := by
  induction entries generalizing k with
  | nil =>
      exact ⟨.ok, [], [], rfl, List.Sublist.refl _, List.Perm.refl _, by simp, by simp⟩
  | cons entry entries ih =>
      by_cases hdue : (entry.1.toNat : ℤ) ≤ tvSec
      · by_cases hsend : sendMessage k = .ok
        · obtain ⟨result, releases, left, hloop, h⟩ := ih (k + 1)
          refine ⟨result, (entry, .ok) :: releases, left, ?_, ?_, ?_, ?_, ?_⟩
          · simp [releaseLoop, hdue, hsend, hloop]
          · exact h.ordered.cons_cons entry
          · rw [sentEntries_cons_ok]
            exact h.perm.cons entry
          · exact List.forall_mem_cons.mpr ⟨hdue, h.due⟩
          · exact List.forall_mem_cons.mpr ⟨fun hnot => absurd rfl hnot, h.failed⟩
        · refine ⟨sendMessage k, [(entry, sendMessage k)], entry :: entries, ?_, ?_, ?_, ?_, ?_⟩
          · simp [releaseLoop, hdue, hsend]
          · exact (List.nil_sublist entries).cons_cons entry
          · rw [sentEntries_cons_failed entry hsend]
            exact List.Perm.refl _
          · exact List.forall_mem_singleton.mpr hdue
          · exact List.forall_mem_singleton.mpr fun _ => List.mem_cons_self
      · obtain ⟨result, releases, left, hloop, h⟩ := ih k
        refine ⟨result, releases, entry :: left, ?_, ?_, ?_, h.due, ?_⟩
        · simp [releaseLoop, hdue, hloop]
        · exact h.ordered.cons entry
        · exact (h.perm.cons entry).trans List.perm_middle.symm
        · intro release hrelease hfailed
          exact List.mem_cons_of_mem entry (h.failed release hrelease hfailed)

/-- Releasing telecommands is defined, and changes nothing but the schedule. -/
theorem released_of_performService {τ : Type*} (tvSec : ℤ) (sendMessage : ℕ → ReturnValue)
    (s : State τ) :
  ∃ result releases s', performService tvSec sendMessage s = some (result, releases, s') ∧
    s'.store = s.store ∧
    Released tvSec s.telecommandMap.entries releases s'.telecommandMap.entries
  := by
  by_cases henabled : s.schedulingEnabled = true
  · obtain ⟨result, releases, left, hloop, h⟩ := released_of_releaseLoop
      s.deleteExpiredTcWhenDisabled tvSec sendMessage 0 s.telecommandMap.entries
    rw [← henabled] at hloop
    rw [performService, if_neg (by simp [henabled])]
    split
    · rename_i hnone
      rw [hloop] at hnone
      cases hnone
    · rename_i hsome
      rw [hloop] at hsome
      cases hsome
      exact ⟨_, _, _, rfl, rfl, h⟩
  · rw [performService, if_pos henabled]
    exact ⟨.ok, [], s, rfl, rfl, List.nil_sublist _, List.Perm.refl _, by simp, by simp⟩

/-- Nothing happens to the packets that were not sent. -/
theorem lastEvent_logReleases {releases : List Release} {addr : StoreAddress}
    (h : addr ∉ addresses (sentEntries releases)) (tvSec : ℤ) (log : List Event) :
  lastEvent (logReleases tvSec releases log) addr = lastEvent log addr
  := by
  induction releases generalizing log with
  | nil =>
      rfl
  | cons release releases ih =>
      obtain ⟨entry, result⟩ := release
      rw [logReleases]
      split_ifs with hok
      · rw [hok, sentEntries_cons_ok, addresses, List.map_cons, List.mem_cons, not_or] at h
        rw [ih h.2]
        exact lastEvent_cons_of_ne h.1 log
      · rw [sentEntries_cons_failed entry hok] at h
        exact ih h log

/-- When telecommands have been released, the packets of the others are in the store. -/
theorem ScheduleBacked.releases {tvSec : ℤ} {releases : List Release}
    (h : ScheduleBacked laws s) (hstore : s'.store.1 = s.store.1)
    (hlog : s'.store.2 = logReleases tvSec releases s.store.2)
    (hreleased : Released tvSec s.telecommandMap.entries releases s'.telecommandMap.entries) :
  ScheduleBacked laws s'
  := by
  have haddrs := addresses_perm (hreleased.perm.map Prod.snd)
  rw [addresses_append] at haddrs
  have hnodup := haddrs.nodup_iff.mp h.nodup
  apply h.subperm ((List.sublist_append_right _ _).subperm.trans haddrs.symm.subperm)
  intro addr haddr
  refine ⟨by rw [hstore], ?_⟩
  rw [hlog]
  apply lastEvent_logReleases
  intro hsent
  exact List.disjoint_of_nodup_append hnodup hsent haddr

/-! ### Runs -/

/-- What a step does. -/
inductive StepEffect (service : Service11TelecommandScheduling σ) (s s' : State (σ × List Event)) :
    Op σ → ReturnValue × List Release → Prop where
  | request {tvSec : ℤ} {subservice : UInt8} {currentPacket : PusTc} {result : ReturnValue}
      (heffect : Effect service.withLog tvSec subservice currentPacket s s') :
      StepEffect service s s' (.request tvSec subservice currentPacket) (result, [])
  | releases {tvSec : ℤ} {sendMessage : ℕ → ReturnValue} {result : ReturnValue}
      {releases : List Release} (hstore : s'.store.1 = s.store.1)
      (hlog : s'.store.2 = logReleases tvSec releases s.store.2)
      (hreleased : Released tvSec s.telecommandMap.entries releases s'.telecommandMap.entries) :
      StepEffect service s s' (.performService tvSec sendMessage) (result, releases)
  | others {change : σ → σ} (hmap : s'.telecommandMap = s.telecommandMap)
      (hstore : s'.store.1 = change s.store.1) (hlog : s'.store.2 = s.store.2) :
      StepEffect service s s' (.others change) (.ok, [])

theorem stepEffect_of_step {op : Op σ} {output : ReturnValue × List Release}
    (hroom : s.telecommandMap.entries.length ≤ service.maxNumTcs)
    (h : service.step s op = some (s', output)) :
  StepEffect service s s' op output
  := by
  cases op with
  | request tvSec subservice currentPacket =>
      simp only [step] at h
      split at h
      · cases h
      · rename_i hrequest
        cases h
        exact .request (effect_of_handleRequest hrequest hroom)
  | performService tvSec sendMessage =>
      obtain ⟨result, releases, s₁, hperform, hstore, hreleased⟩ :=
        released_of_performService tvSec sendMessage s
      simp only [step, hperform] at h
      cases h
      exact .releases (by rw [hstore]) (by rw [hstore]) hreleased
  | others change =>
      cases h
      exact .others rfl rfl rfl

variable (laws) in
/-- The other users of the store leave the packets of the schedule alone. -/
def Undisturbed (s : State (σ × List Event)) : Op σ → Prop
  | .others change => ∀ addr ∈ addresses s.telecommandMap.entries,
      laws.contents (change s.store.1) addr = laws.contents s.store.1 addr
  | _ => True

variable (laws) in
/-- There is room for the schedule, and its packets are in the store. -/
structure Kept (s : State (σ × List Event)) : Prop where
  room : s.telecommandMap.entries.length ≤ service.maxNumTcs
  backed : ScheduleBacked laws s

/-- Nothing is scheduled at the beginning. -/
theorem kept_new (store : σ) :
  Kept laws (State.new (store, []))
  := by
  refine ⟨Nat.zero_le _, List.nodup_nil, ?_⟩
  intro addr haddr
  cases haddr

/-- No request lets the schedule grow beyond the room there is. -/
theorem room_of_effect {tvSec : ℤ} {subservice : UInt8} {currentPacket : PusTc}
    (hroom : s.telecommandMap.entries.length ≤ service.maxNumTcs)
    (heffect : Effect service.withLog tvSec subservice currentPacket s s') :
  s'.telecommandMap.entries.length ≤ service.maxNumTcs
  := by
  cases heffect with
  | rearranged hperm _ =>
      have hlength := hperm.length_eq
      rw [List.length_map, List.length_map] at hlength
      rwa [hlength]
  | stored _ _ _ _ _ hmap _ =>
      rwa [hmap]
  | inserted _ _ hless _ hperm _ =>
      rw [hperm.length_eq]
      exact hless
  | kept _ _ hmap _ =>
      rwa [hmap]
  | removed gone lost hperm _ _ =>
      have hlength := hperm.length_eq
      simp only [List.length_append] at hlength
      omega

theorem kept_step {op : Op σ} {output : ReturnValue × List Release} (hs : Kept laws s)
    (hop : Undisturbed laws s op) (h : service.step s op = some (s', output)) :
  Kept laws s'
  := by
  cases stepEffect_of_step hs.room h with
  | request heffect =>
      exact ⟨room_of_effect hs.room heffect, hs.backed.effect heffect⟩
  | releases hstore hlog hreleased =>
      refine ⟨?_, hs.backed.releases hstore hlog hreleased⟩
      have hlength := hreleased.perm.length_eq
      have hroom := hs.room
      rw [List.length_append] at hlength
      omega
  | others hmap hstore hlog =>
      constructor
      · rw [hmap]
        exact hs.room
      · apply hs.backed.subperm (by rw [hmap])
        rw [hmap]
        intro addr haddr
        refine ⟨?_, by rw [hlog]⟩
        rw [hstore]
        exact hop addr haddr

end

/-! ### A store for two packets -/

/-- A store with room for two packets. -/
def pairStore : StorageManagerIF (Option (List UInt8) × Option (List UInt8)) where
  addData data
    | (none, second) => (.ok, ⟨0, 0⟩, some data, second)
    | (some first, none) => (.ok, ⟨0, 1⟩, some first, some data)
    | s => (StorageManagerIF.dataStorageFull, StoreAddress.invalid, s)
  deleteData addr
    | (first, second) =>
        if addr = ⟨0, 0⟩ ∧ first ≠ none then
          (.ok, none, second)
        else if addr = ⟨0, 1⟩ ∧ second ≠ none then
          (.ok, first, none)
        else
          (StorageManagerIF.dataDoesNotExist, first, second)

def pairStore_reliable : pairStore.Reliable where
  contents s addr := if addr = ⟨0, 0⟩ then s.1 else if addr = ⟨0, 1⟩ then s.2 else none
  free_of_addData data s h := by
    rcases s with ⟨first | first, second | second⟩ <;> rfl
  contents_addData data s h := by
    funext addr
    rcases s with ⟨first | first, second | second⟩
    · simp only [pairStore, Function.update_apply]
      split_ifs <;> rfl
    · simp only [pairStore, Function.update_apply]
      split_ifs <;> rfl
    · simp only [pairStore, Function.update_apply]
      grind
    · cases h
  contents_addData_failed data s h := by
    rcases s with ⟨first | first, second | second⟩ <;> first | rfl | exact absurd rfl h
  contents_deleteData addr s h := by
    obtain ⟨first, second⟩ := s
    funext addr'
    simp only [pairStore, Function.update_apply] at h ⊢
    grind
  contents_deleteData_failed addr s h := by
    obtain ⟨first, second⟩ := s
    simp only [pairStore] at h ⊢
    grind

theorem pairStore_faultless :
  pairStore_reliable.Faultless
  := by
  constructor
  · rintro addr ⟨first, second⟩ h
    simp only [pairStore_reliable] at h
    simp only [pairStore]
    grind
  · intro data s h
    rcases s with ⟨first | first, second | second⟩ <;>
      simp only [pairStore, StoreAddress.invalid] at h ⊢
    · decide
    · decide
    · decide
    · cases h

/-- A service that can schedule a single telecommand. -/
def pairService : Service11TelecommandScheduling (Option (List UInt8) × Option (List UInt8)) where
  tcStore := pairStore
  maxNumTcs := 1
  releaseTimeMarginSeconds := 5
  endKey := some 0
  rounds := 1

def pairService_reliable : pairService.tcStore.Reliable :=
  pairStore_reliable

/-- A telecommand from the source 3, with the APID 66 and the sequence count 7. -/
def pingTc : List UInt8 :=
  [0x18, 0x42, 0xC0, 0x07, 0, 6, 0x20, 17, 1, 0, 3, 0x47, 0x4A]

/-- The request to release this telecommand at the time 100.  It comes from the source 3 as well,
with the same APID, and with the sequence count 8. -/
def insertPingTc : PusTc where
  sourceId := 3
  apid := 66
  sequenceCount := 8
  userData := [0, 0, 0, 100] ++ pingTc

end Service11TelecommandScheduling
