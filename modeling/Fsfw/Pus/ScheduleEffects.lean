import Fsfw.Pus.ScheduleTimeshift

/-!
# What a request does to the schedule and to the store

Whatever the request is, it has one of few effects (`Effect`): it rearranges the schedule, puts
a packet into the store with or without scheduling it, tries in vain to delete a packet, or
deletes packets and removes their entries from the schedule, possibly together with other ones.
The properties of runs are derived from this alone (`effect_of_handleRequest`).
-/

open Multimap

namespace Service11TelecommandScheduling

variable {τ : Type*}

/-- Delete the packets of some entries, one after another. -/
def deleteAll (tcStore : StorageManagerIF τ) (entries : List (UInt32 × TelecommandStruct))
    (store : τ) : τ :=
  entries.foldl (fun s entry => (tcStore.deleteData entry.2.storeAddr s).2) store

/-- The effect of a request on the schedule and the store.  Entries are `lost` when they are
removed without their packets: these are entries behind the window of a filter. -/
inductive Effect (service : Service11TelecommandScheduling τ) (tvSec : ℤ) (subservice : UInt8)
    (currentPacket : PusTc) (s s' : State τ) : Prop where
  | rearranged
      (hperm : List.Perm (s'.telecommandMap.entries.map Prod.snd)
        (s.telecommandMap.entries.map Prod.snd))
      (hstore : s'.store = s.store)
  | stored (timestamp : UInt32) (data : List UInt8) (hinsert : subservice = 4)
      (hcheck : checkInsert service.releaseTimeMarginSeconds tvSec currentPacket.userData
        = .ok (timestamp, data))
      (hnot : (service.tcStore.addData data s.store).1 ≠ .ok ∨
        (service.tcStore.addData data s.store).2.1 = StoreAddress.invalid ∨
        service.maxNumTcs ≤ s.telecommandMap.entries.length)
      (hmap : s'.telecommandMap = s.telecommandMap)
      (hstore : s'.store = (service.tcStore.addData data s.store).2.2)
  | inserted (timestamp : UInt32) (data : List UInt8)
      (hroom : s.telecommandMap.entries.length < service.maxNumTcs)
      (hadd : (service.tcStore.addData data s.store).1 = .ok)
      (hperm : List.Perm s'.telecommandMap.entries
        ((timestamp, ⟨getRequestIdFromTc currentPacket, timestamp,
          (service.tcStore.addData data s.store).2.1⟩) :: s.telecommandMap.entries))
      (hstore : s'.store = (service.tcStore.addData data s.store).2.2)
  | kept (addr : StoreAddress) (hfailed : (service.tcStore.deleteData addr s.store).1 ≠ .ok)
      (hmap : s'.telecommandMap = s.telecommandMap)
      (hstore : s'.store = (service.tcStore.deleteData addr s.store).2)
  | removed (gone lost : List (UInt32 × TelecommandStruct))
      (hperm : List.Perm s.telecommandMap.entries (gone ++ lost ++ s'.telecommandMap.entries))
      (hstore : s'.store = deleteAll service.tcStore gone s.store)
      (hlost : ∀ entry ∈ lost, subservice = 6 ∧
        ∃ window, readTimeWindow currentPacket.userData = .ok window ∧ window.Behind entry.1)

section

variable {service : Service11TelecommandScheduling τ} {tvSec : ℤ} {subservice : UInt8}
  {currentPacket : PusTc} {s : State τ}

/-- Nothing is changed. -/
theorem Effect.refl (service : Service11TelecommandScheduling τ) (tvSec : ℤ)
    (subservice : UInt8) (currentPacket : PusTc) (s : State τ) :
  Effect service tvSec subservice currentPacket s s
  := .rearranged (List.Perm.refl _) rfl

/-- An insertion fails before anything is stored, or with the packet stored or refused by the
store, or succeeds. -/
theorem doInsertActivity_cases {tcStore : StorageManagerIF τ} {maxNumTcs : ℕ} {margin : UInt16}
    {telecommandMap telecommandMap' : TelecommandMap} {store store' : τ} {result : ReturnValue}
    (h : doInsertActivity tcStore maxNumTcs margin tvSec currentPacket telecommandMap store
      = (result, telecommandMap', store')) :
  (checkInsert margin tvSec currentPacket.userData = .error result ∧
    telecommandMap' = telecommandMap ∧ store' = store) ∨
  ∃ timestamp data, checkInsert margin tvSec currentPacket.userData = .ok (timestamp, data) ∧
    store' = (tcStore.addData data store).2.2 ∧
    ((result = .failed ∧ telecommandMap' = telecommandMap ∧
      ((tcStore.addData data store).1 ≠ .ok ∨
        (tcStore.addData data store).2.1 = StoreAddress.invalid ∨
        maxNumTcs ≤ telecommandMap.entries.length)) ∨
    (result = .ok ∧ telecommandMap.entries.length < maxNumTcs ∧
      (tcStore.addData data store).1 = .ok ∧
      telecommandMap' = telecommandMap.insert
        (timestamp, ⟨getRequestIdFromTc currentPacket, timestamp,
          (tcStore.addData data store).2.1⟩)))
  := by
  rw [doInsertActivity] at h
  split at h
  · rename_i hcheck
    cases h
    exact Or.inl ⟨hcheck, rfl, rfl⟩
  · rename_i timestamp data hcheck
    right
    refine ⟨timestamp, data, hcheck, ?_⟩
    rcases hadd : tcStore.addData data store with ⟨status, addr, store₁⟩
    simp only [hadd] at h
    split_ifs at h with hnot
    · cases h
      refine ⟨rfl, Or.inl ⟨rfl, rfl, ?_⟩⟩
      exact hnot.imp_right Or.inl
    · simp only [not_or, not_not] at hnot
      rw [insertBounded] at h
      split_ifs at h with hroom
      · cases h
        exact ⟨rfl, Or.inr ⟨rfl, hroom, hnot.1, rfl⟩⟩
      · cases h
        exact ⟨rfl, Or.inl ⟨rfl, rfl, Or.inr (Or.inr (Nat.not_lt.mp hroom))⟩⟩

theorem effect_of_doInsertActivity {result : ReturnValue}
    {telecommandMap' : TelecommandMap} {store' : τ}
    (h : doInsertActivity service.tcStore service.maxNumTcs service.releaseTimeMarginSeconds
      tvSec currentPacket s.telecommandMap s.store = (result, telecommandMap', store')) :
  Effect service tvSec 4 currentPacket s
    { s with telecommandMap := telecommandMap', store := store' }
  := by
  rcases doInsertActivity_cases h with ⟨-, rfl, rfl⟩ |
    ⟨timestamp, data, hcheck, rfl, ⟨-, rfl, hnot⟩ | ⟨-, hroom, hadd, rfl⟩⟩
  · apply Effect.refl
  · exact .stored timestamp data rfl hcheck hnot rfl rfl
  · exact .inserted timestamp data hroom hadd (perm_insertEntry _ _) rfl

/-- Of the entries with a request id, if there is a single one, the entry is taken out. -/
theorem perm_eraseFirst {requestId : UInt64} {entry : UInt32 × TelecommandStruct}
    {telecommandMap : TelecommandMap}
    (h : telecommandMap.entries.filter (hasRequestId requestId) = [entry]) :
  List.Perm telecommandMap.entries
    (entry :: (telecommandMap.eraseFirst (hasRequestId requestId)).entries)
  := by
  rw [entries_eraseFirst, eraseP_of_filter_eq h, ← List.singleton_append, ← h]
  exact (List.filter_append_perm _ _).symm

theorem effect_of_doDeleteActivity {data : List UInt8} {result : ReturnValue}
    {telecommandMap' : TelecommandMap} {store' : τ}
    (h : doDeleteActivity service.tcStore data s.telecommandMap s.store
      = (result, telecommandMap', store')) :
  Effect service tvSec subservice currentPacket s
    { s with telecommandMap := telecommandMap', store := store' }
  := by
  rw [doDeleteActivity] at h
  split at h
  · cases h
    apply Effect.refl
  · rename_i requestId _ _
    split at h
    · rename_i entry hentry
      rcases hdelete : service.tcStore.deleteData entry.2.storeAddr s.store with ⟨status, store₁⟩
      simp only [hdelete] at h
      split at h
      · rename_i hok
        cases hok
        cases h
        refine .removed [entry] [] ?_ (by simp [deleteAll, hdelete]) (by simp)
        exact perm_eraseFirst hentry
      · rename_i hfailed heq
        cases heq
        cases h
        refine .kept entry.2.storeAddr ?_ rfl (by rw [hdelete])
        rw [hdelete]
        exact hfailed
    · cases h
      apply Effect.refl

theorem effect_of_doFilterDeleteActivity {result : ReturnValue}
    {telecommandMap' : TelecommandMap} {store' : τ}
    (h : doFilterDeleteActivity service.tcStore service.endKey currentPacket.userData
      s.telecommandMap s.store = some (result, telecommandMap', store')) :
  Effect service tvSec 6 currentPacket s
    { s with telecommandMap := telecommandMap', store := store' }
  := by
  cases hdata : readTimeWindow currentPacket.userData with
  | error result =>
      simp only [doFilterDeleteActivity, getMapFilterFromData, hdata] at h
      cases h
      apply Effect.refl
  | ok window =>
      cases hselect : selectWindow service.endKey s.telecommandMap window with
      | none =>
          simp only [doFilterDeleteActivity, getMapFilterFromData, hdata, hselect] at h
          cases h
      | some it =>
          obtain ⟨map₁, hdelete, hentries⟩ :=
            doFilterDeleteActivity_eq hdata hselect service.tcStore s.store
          rw [hdelete] at h
          cases h
          have hselects := (selects_of_selectWindow (wellFormed_of_readTimeWindow hdata)
            hselect).2
          have hlist := Range.toList_ofIterators s.telecommandMap it
          -- The first entry behind the window is lost.
          refine .removed (Range.ofIterators s.telecommandMap it).within
            (Range.ofIterators s.telecommandMap it).after.head?.toList ?_ rfl ?_
          · rw [← hlist, hentries, Range.toList]
            have hafter : (Range.ofIterators s.telecommandMap it).after
                = (Range.ofIterators s.telecommandMap it).after.head?.toList ++
                  (Range.ofIterators s.telecommandMap it).after.tail := by
              cases (Range.ofIterators s.telecommandMap it).after with
              | nil => rfl
              | cons entry rest => rfl
            conv_lhs => rw [hafter]
            rw [← List.append_assoc, ← List.append_assoc, ← List.append_assoc,
              List.append_assoc _ _ (Range.ofIterators s.telecommandMap it).before]
            apply List.Perm.append_right
            rw [List.append_assoc]
            apply List.perm_append_comm_assoc _ _ _ |>.trans
            apply List.Perm.append_left
            apply List.perm_append_comm
          · intro entry hentry
            refine ⟨rfl, window, hdata, ?_⟩
            apply (hselects.after entry _).2
            rw [Option.mem_toList] at hentry
            exact List.mem_of_mem_head? hentry

/-- The loop that shifts telecommands changes nothing but keys. -/
theorem perm_of_timeshiftLoop {relativeTime : UInt32} {rounds : ℕ}
    {R R' : Range UInt32 TelecommandStruct} {count count' : ℕ}
    (h : timeshiftLoop relativeTime rounds R count = some (R', count')) :
  List.Perm (R'.toList.map Prod.snd) (R.toList.map Prod.snd)
  := by
  induction rounds generalizing R count with
  | zero =>
      cases h
  | succ rounds ih =>
      cases hwithin : R.within with
      | nil =>
          rw [timeshiftLoop_nil relativeTime hwithin] at h
          cases h
          exact List.Perm.refl _
      | cons entry rest =>
          obtain ⟨R₁, hpop, hbefore, hrest, hafter⟩ := Range.pop_eq_some hwithin
          simp only [timeshiftLoop, hpop] at h
          apply (ih h).trans
          rw [Range.toList_insert]
          apply ((perm_insertEntry _ _).map Prod.snd).trans
          have hlist : List.Perm R.toList (entry :: R₁.toList) := by
            rw [Range.toList, Range.toList, hwithin, hbefore, hrest, hafter]
            exact List.perm_middle
          exact (hlist.map Prod.snd).symm

theorem effect_of_doFilterTimeshiftActivity {result : ReturnValue}
    {telecommandMap' : TelecommandMap}
    (h : doFilterTimeshiftActivity service.rounds service.endKey currentPacket.userData
      s.telecommandMap = some (result, telecommandMap')) :
  Effect service tvSec subservice currentPacket s { s with telecommandMap := telecommandMap' }
  := by
  rw [doFilterTimeshiftActivity] at h
  split at h
  · cases h
    apply Effect.refl
  · split_ifs at h
    · cases h
      apply Effect.refl
    · split at h
      · cases h
      · cases h
        apply Effect.refl
      · rename_i it _
        split at h
        · cases h
        · rename_i R count hloop
          have hperm := perm_of_timeshiftLoop hloop
          rw [Range.toList_ofIterators] at hperm
          split_ifs at h <;> cases h <;> exact .rearranged hperm rfl

theorem effect_of_doTimeshiftActivity {data : List UInt8} {result : ReturnValue}
    {telecommandMap' : TelecommandMap}
    (h : doTimeshiftActivity service.maxNumTcs data s.telecommandMap
      = (result, telecommandMap')) (hroom : s.telecommandMap.entries.length ≤ service.maxNumTcs) :
  Effect service tvSec subservice currentPacket s { s with telecommandMap := telecommandMap' }
  := by
  rw [doTimeshiftActivity] at h
  split at h
  · cases h
    apply Effect.refl
  · split_ifs at h
    · cases h
      apply Effect.refl
    · split at h
      · cases h
        apply Effect.refl
      · split at h
        · rename_i key tempTc hentry
          cases h
          have hperm := perm_eraseFirst hentry
          -- There is room again when the entry has been erased.
          have hlt := hperm.length_eq
          rw [List.length_cons] at hlt
          rw [insertBounded, if_pos (by omega)]
          refine .rearranged ?_ rfl
          apply ((perm_insertEntry _ _).map Prod.snd).trans
          exact (hperm.map Prod.snd).symm
        · cases h
          apply Effect.refl

/-- Every request has one of the effects. -/
theorem effect_of_handleRequest {result : ReturnValue} {s' : State τ}
    (h : service.handleRequest tvSec subservice currentPacket s = some (result, s'))
    (hroom : s.telecommandMap.entries.length ≤ service.maxNumTcs) :
  Effect service tvSec subservice currentPacket s s'
  := by
  rw [handleRequest] at h
  split_ifs at h with h₁ h₂ h₃ h₄ h₅ h₆ h₇ h₈
  · cases h
    exact .rearranged (List.Perm.refl _) rfl
  · cases h
    exact .rearranged (List.Perm.refl _) rfl
  · cases h
    refine .removed s.telecommandMap.entries [] ?_ rfl (by simp)
    simp [Multimap.empty]
  · rcases hinsert : doInsertActivity service.tcStore service.maxNumTcs
        service.releaseTimeMarginSeconds tvSec currentPacket s.telecommandMap s.store with
      ⟨result, telecommandMap', store'⟩
    rw [hinsert] at h
    cases h
    rw [h₄]
    exact effect_of_doInsertActivity hinsert
  · rcases hdelete : doDeleteActivity service.tcStore currentPacket.userData s.telecommandMap
        s.store with ⟨result, telecommandMap', store'⟩
    rw [hdelete] at h
    cases h
    exact effect_of_doDeleteActivity hdelete
  · split at h
    · cases h
    · rename_i outcome hdelete
      obtain ⟨result, telecommandMap', store'⟩ := outcome
      cases h
      rw [h₆]
      exact effect_of_doFilterDeleteActivity hdelete
  · rcases hshift : doTimeshiftActivity service.maxNumTcs currentPacket.userData
        s.telecommandMap with ⟨result, telecommandMap'⟩
    simp only [hshift] at h
    cases h
    exact effect_of_doTimeshiftActivity hshift hroom
  · split at h
    · cases h
    · rename_i hshift
      cases h
      exact effect_of_doFilterTimeshiftActivity hshift
  · cases h
    apply Effect.refl

end

end Service11TelecommandScheduling
