import Fsfw.Pus.Service11TelecommandScheduling

/-!
# What the filters of the scheduling service do

A time window cuts the schedule into the entries before it, in it and behind it
(`Selects`), which are the parts that the iterators of a filter give
(`selects_of_selectWindow`).  Deleting the entries in a window goes wrong when there are
entries behind it, the first of which is erased too (`deletesExactly_iff`).
-/

open Multimap

namespace Service11TelecommandScheduling

namespace TimeWindow

/-- The release time lies in the window. -/
def Mem (window : TimeWindow) (key : UInt32) : Prop :=
  match window with
  | .selectAll => True
  | .fromTimetag fromTimestamp => fromTimestamp ≤ key
  | .toTimetag toTimestamp => key ≤ toTimestamp
  | .fromTimetagToTimetag fromTimestamp toTimestamp => fromTimestamp ≤ key ∧ key ≤ toTimestamp

/-- The release time lies behind the window. -/
def Behind (window : TimeWindow) (key : UInt32) : Prop :=
  match window with
  | .selectAll => False
  | .fromTimetag _ => False
  | .toTimetag toTimestamp => toTimestamp < key
  | .fromTimetagToTimetag _ toTimestamp => toTimestamp < key

instance (window : TimeWindow) (key : UInt32) : Decidable (window.Mem key) :=
  match window with
  | .selectAll => inferInstanceAs (Decidable True)
  | .fromTimetag _ => inferInstanceAs (Decidable (_ ≤ _))
  | .toTimetag _ => inferInstanceAs (Decidable (_ ≤ _))
  | .fromTimetagToTimetag _ _ => inferInstanceAs (Decidable (_ ∧ _))

instance (window : TimeWindow) (key : UInt32) : Decidable (window.Behind key) :=
  match window with
  | .selectAll => inferInstanceAs (Decidable False)
  | .fromTimetag _ => inferInstanceAs (Decidable False)
  | .toTimetag _ => inferInstanceAs (Decidable (_ < _))
  | .fromTimetagToTimetag _ _ => inferInstanceAs (Decidable (_ < _))

/-- The window does not end before it starts. -/
def WellFormed (window : TimeWindow) : Prop :=
  match window with
  | .fromTimetagToTimetag fromTimestamp toTimestamp => fromTimestamp ≤ toTimestamp
  | _ => True

/-- One of the loops that look for the ends of the window comes to the end of the
schedule. -/
def ReadsEnd (window : TimeWindow) (telecommandMap : TelecommandMap) : Prop :=
  match window with
  | .selectAll => False
  | .fromTimetag fromTimestamp => ∀ entry ∈ telecommandMap.entries, entry.1 < fromTimestamp
  | .toTimetag toTimestamp => ∀ entry ∈ telecommandMap.entries, entry.1 ≤ toTimestamp
  | .fromTimetagToTimetag _ toTimestamp =>
      ∀ entry ∈ telecommandMap.entries, entry.1 ≤ toTimestamp

end TimeWindow

/-! ### The parts of the schedule -/

/-- A window cuts the schedule into the given parts. -/
structure Selects (window : TimeWindow) (R : Range UInt32 TelecommandStruct) : Prop where
  before : ∀ entry ∈ R.before, ¬ window.Mem entry.1 ∧ ¬ window.Behind entry.1
  within : ∀ entry ∈ R.within, window.Mem entry.1 ∧ ¬ window.Behind entry.1
  after : ∀ entry ∈ R.after, ¬ window.Mem entry.1 ∧ window.Behind entry.1

/-- The loop stops at the first key without the property, or at the end if it may read
there. -/
theorem advance_eq (p : UInt32 → Prop) [DecidablePred p] (endKey : Option UInt32)
    (entries : List (UInt32 × TelecommandStruct)) :
  advance (fun key => p key) endKey entries =
    if (∀ entry ∈ entries, p entry.1) ∧ endKey = none then none
    else some (entries.takeWhile fun entry => p entry.1).length
  := by
  induction entries with
  | nil =>
      cases endKey <;> simp [advance]
  | cons entry entries ih =>
      obtain ⟨key, tc⟩ := entry
      by_cases hkey : p key
      · simp only [advance, hkey, decide_true, if_true, ih, List.forall_mem_cons, true_and,
          List.takeWhile_cons_of_pos, List.length_cons]
        split_ifs <;> rfl
      · simp [advance, hkey]

/-- A window that has been read does not end before it starts. -/
theorem wellFormed_of_readTimeWindow {data : List UInt8} {window : TimeWindow}
    (h : readTimeWindow data = .ok window) :
  window.WellFormed
  := by
  cases window with
  | selectAll => trivial
  | fromTimetag fromTimestamp => trivial
  | toTimetag toTimestamp => trivial
  | fromTimetagToTimetag fromTimestamp toTimestamp =>
      simp only [readTimeWindow, bind, Except.bind, throw, throwThe, MonadExceptOf.throw, pure,
        Except.pure] at h
      repeat' split at h
      all_goals cases h
      rename_i hle
      apply le_of_not_gt hle

section

variable {endKey : Option UInt32} {telecommandMap : TelecommandMap} {window : TimeWindow}

/-- The entries that a loop passes over, and those from where it stops. -/
theorem advance_cut {p : UInt32 → Prop} [DecidablePred p]
    (hp : ∀ a b, a ≤ b → p b → p a) {entries : List (UInt32 × TelecommandStruct)}
    (hsorted : SortedByKey entries) {n : ℕ}
    (h : advance (fun key => p key) endKey entries = some n) :
  (∀ entry ∈ entries.take n, p entry.1) ∧ (∀ entry ∈ entries.drop n, ¬ p entry.1) ∧
  ¬ ((∀ entry ∈ entries, p entry.1) ∧ endKey = none)
  := by
  rw [advance_eq] at h
  split_ifs at h with hend
  cases h
  refine ⟨?_, ?_, hend⟩
  · intro entry hentry
    have hmem := of_mem_take_takeWhile hentry
    apply of_decide_eq_true hmem
  · intro entry hentry hpe
    apply hsorted.not_of_mem_drop_takeWhile (p := fun key => decide (p key)) _ entry hentry
    · apply decide_eq_true hpe
    · intro a b hab hb
      apply decide_eq_true (hp a b hab (of_decide_eq_true hb))

theorem advance_none {p : UInt32 → Prop} [DecidablePred p]
    {entries : List (UInt32 × TelecommandStruct)}
    (h : advance (fun key => p key) endKey entries = none) :
  (∀ entry ∈ entries, p entry.1) ∧ endKey = none
  := by
  rw [advance_eq] at h
  split_ifs at h with hend
  apply hend

/-- The iterators of a window are undefined only when a key is read at the end, and that is
undefined. -/
theorem readsEnd_of_selectWindow (hwindow : window.WellFormed)
    (h : selectWindow endKey telecommandMap window = none) :
  window.ReadsEnd telecommandMap ∧ endKey = none
  := by
  cases window with
  | selectAll =>
      cases h
  | fromTimetag fromTimestamp =>
      rw [selectWindow] at h
      split at h
      · rename_i hn
        apply advance_none hn
      · cases h
  | toTimetag toTimestamp =>
      rw [selectWindow] at h
      split at h
      · rename_i hn
        apply advance_none hn
      · cases h
  | fromTimetagToTimetag fromTimestamp toTimestamp =>
      rw [selectWindow] at h
      split at h
      · rename_i hn
        obtain ⟨hall, hkey⟩ := advance_none hn
        use fun entry hentry => le_trans (le_of_lt (hall entry hentry)) hwindow
      · rename_i n hn
        split at h
        · rename_i hk
          obtain ⟨hall, hkey⟩ := advance_none hk
          obtain ⟨hbefore, -, -⟩ := advance_cut
            (fun a b hab hb => lt_of_le_of_lt hab hb) telecommandMap.sorted hn
          refine ⟨?_, hkey⟩
          intro entry hentry
          rw [← List.take_append_drop n telecommandMap.entries] at hentry
          rcases List.mem_append.mp hentry with hentry | hentry
          · apply le_trans (le_of_lt (hbefore entry hentry)) hwindow
          · apply hall entry hentry
        · cases h

/-- The iterators of a window cut the schedule as the window does, unless a key is read at the
end and that is undefined. -/
theorem selects_of_selectWindow (hwindow : window.WellFormed) {it : Iterators}
    (h : selectWindow endKey telecommandMap window = some it) :
  ¬ (window.ReadsEnd telecommandMap ∧ endKey = none) ∧
  Selects window (Range.ofIterators telecommandMap it)
  := by
  have hlt : ∀ key a b : UInt32, a ≤ b → b < key → a < key := fun key a b => lt_of_le_of_lt
  have hle : ∀ key a b : UInt32, a ≤ b → b ≤ key → a ≤ key := fun key a b => le_trans
  cases window with
  | selectAll =>
      cases h
      refine ⟨fun h => h.1, ?_⟩
      constructor
      · intro entry h
        cases h
      · intro entry _
        exact ⟨trivial, not_false⟩
      · intro entry h
        simp [Range.ofIterators] at h
  | fromTimetag fromTimestamp =>
      rw [selectWindow] at h
      split at h
      · cases h
      · rename_i n hn
        cases h
        obtain ⟨hbefore, hwithin, hend⟩ := advance_cut (hlt fromTimestamp) telecommandMap.sorted hn
        use hend
        constructor
        · intro entry hentry
          exact ⟨not_le_of_gt (hbefore entry hentry), not_false⟩
        · intro entry hentry
          exact ⟨le_of_not_gt (hwithin entry (List.mem_of_mem_take hentry)), not_false⟩
        · intro entry hentry
          simp [Range.ofIterators] at hentry
  | toTimetag toTimestamp =>
      rw [selectWindow] at h
      split at h
      · cases h
      · rename_i n hn
        cases h
        obtain ⟨hwithin, hafter, hend⟩ := advance_cut (hle toTimestamp) telecommandMap.sorted hn
        use hend
        constructor
        · intro entry hentry
          cases hentry
        · intro entry hentry
          exact ⟨hwithin entry hentry, not_lt_of_ge (hwithin entry hentry)⟩
        · intro entry hentry
          exact ⟨hafter entry hentry, lt_of_not_ge (hafter entry hentry)⟩
  | fromTimetagToTimetag fromTimestamp toTimestamp =>
      rw [selectWindow] at h
      split at h
      · cases h
      · rename_i n hn
        split at h
        · cases h
        · rename_i k hk
          cases h
          have hsorted : SortedByKey (telecommandMap.entries.drop n) :=
            List.Pairwise.sublist (List.drop_sublist n _) telecommandMap.sorted
          obtain ⟨hbefore, hfrom, -⟩ := advance_cut (hlt fromTimestamp) telecommandMap.sorted hn
          obtain ⟨hto, hafter, hend⟩ := advance_cut (hle toTimestamp) hsorted hk
          constructor
          · rintro ⟨hall, hkey⟩
            apply hend
            exact ⟨fun entry hentry => hall entry (List.mem_of_mem_drop hentry), hkey⟩
          · constructor
            · intro entry hentry
              have hlt' := hbefore entry hentry
              exact ⟨fun hmem => not_le_of_gt hlt' hmem.1,
                not_lt_of_ge (le_trans (le_of_lt hlt') hwindow)⟩
            · intro entry hentry
              simp only [Range.ofIterators, Nat.add_sub_cancel_left] at hentry
              exact ⟨⟨le_of_not_gt (hfrom entry (List.mem_of_mem_take hentry)), hto entry hentry⟩,
                not_lt_of_ge (hto entry hentry)⟩
            · intro entry hentry
              simp only [Range.ofIterators, ← List.drop_drop] at hentry
              exact ⟨fun hmem => hafter entry hentry hmem.2, lt_of_not_ge (hafter entry hentry)⟩

end

/-! ### Deleting the selected telecommands -/

section

variable {window : TimeWindow} {R : Range UInt32 TelecommandStruct}

/-- The entries that are not selected. -/
theorem Selects.filter_not (h : Selects window R) :
  R.toList.filter (fun entry => ¬ window.Mem entry.1) = R.before ++ R.after
  := by
  have hbefore : R.before.filter (fun entry => ¬ window.Mem entry.1) = R.before := by
    rw [List.filter_eq_self]
    intro entry hentry
    apply decide_eq_true (h.before entry hentry).1
  have hwithin : R.within.filter (fun entry => ¬ window.Mem entry.1) = [] := by
    rw [List.filter_eq_nil_iff]
    intro entry hentry hnot
    apply of_decide_eq_true hnot (h.within entry hentry).1
  have hafter : R.after.filter (fun entry => ¬ window.Mem entry.1) = R.after := by
    rw [List.filter_eq_self]
    intro entry hentry
    apply decide_eq_true (h.after entry hentry).1
  rw [Range.toList, List.filter_append, List.filter_append, hbefore, hwithin, hafter,
    List.nil_append]

/-- The entries that are selected. -/
theorem Selects.mem_within (h : Selects window R) {entry : UInt32 × TelecommandStruct} :
  entry ∈ R.within ↔ entry ∈ R.toList ∧ window.Mem entry.1
  := by
  simp only [Range.toList, List.mem_append]
  constructor
  · intro hentry
    exact ⟨Or.inr (Or.inl hentry), (h.within entry hentry).1⟩
  · rintro ⟨hentry | hentry | hentry, hmem⟩
    · exact absurd hmem (h.before entry hentry).1
    · apply hentry
    · exact absurd hmem (h.after entry hentry).1

/-- Nothing lies behind the window exactly when the last part is empty. -/
theorem Selects.after_eq_nil_iff (h : Selects window R) :
  R.after = [] ↔ ∀ entry ∈ R.toList, ¬ window.Behind entry.1
  := by
  constructor
  · intro hnil entry hentry
    simp only [Range.toList, hnil, List.append_nil, List.mem_append] at hentry
    rcases hentry with hentry | hentry
    · apply (h.before entry hentry).2
    · apply (h.within entry hentry).2
  · intro hall
    rw [List.eq_nil_iff_forall_not_mem]
    intro entry hentry
    apply hall entry _ (h.after entry hentry).2
    simp only [Range.toList, List.mem_append]
    exact Or.inr (Or.inr hentry)

end

section

variable {σ : Type*} {tcStore : StorageManagerIF σ} (hstore : tcStore.Lawful)

/-- The packets that are deleted are not in the store any more, and the others still are. -/
theorem contents_foldl_deleteData (selected : List (UInt32 × TelecommandStruct)) (s : σ) :
  let s' := selected.foldl (fun s entry => (tcStore.deleteData entry.2.storeAddr s).2) s
  (∀ entry ∈ selected, hstore.contents s' entry.2.storeAddr = none) ∧
  ∀ storeId, (∀ entry ∈ selected, entry.2.storeAddr ≠ storeId) →
    hstore.contents s' storeId = hstore.contents s storeId
  := by
  induction selected generalizing s with
  | nil =>
      exact ⟨fun entry h => absurd h List.not_mem_nil, fun storeId _ => rfl⟩
  | cons entry selected ih =>
      obtain ⟨hgone, hother⟩ := ih (tcStore.deleteData entry.2.storeAddr s).2
      simp only [List.foldl_cons]
      constructor
      · intro entry' hentry'
        by_cases hlater : ∃ e ∈ selected, e.2.storeAddr = entry'.2.storeAddr
        · obtain ⟨e, he, heq⟩ := hlater
          rw [← heq]
          apply hgone e he
        · rw [hother]
          · rcases List.mem_cons.mp hentry' with rfl | hmem
            · apply hstore.contents_deleteData
            · exact absurd ⟨entry', hmem, rfl⟩ hlater
          · intro e he heq
            apply hlater ⟨e, he, heq⟩
      · intro storeId hne
        rw [hother storeId (fun e he => hne e (List.mem_cons_of_mem entry he)),
          hstore.contents_deleteData_of_ne]
        apply (hne entry List.mem_cons_self).symm

/-- What is deleted: the packets of the selected entries, and these entries together with the
first one behind them. -/
theorem doFilterDeleteActivity_eq {data : List UInt8} {window : TimeWindow}
    (hdata : readTimeWindow data = .ok window) {endKey : Option UInt32}
    {telecommandMap : TelecommandMap} {it : Iterators}
    (hselect : selectWindow endKey telecommandMap window = some it) (tcStore : StorageManagerIF σ)
    (s : σ) :
  ∃ telecommandMap',
    doFilterDeleteActivity tcStore endKey data telecommandMap s =
      some (.ok, telecommandMap', (Range.ofIterators telecommandMap it).within.foldl
        (fun s entry => (tcStore.deleteData entry.2.storeAddr s).2) s) ∧
    telecommandMap'.entries = (Range.ofIterators telecommandMap it).before ++
      (Range.ofIterators telecommandMap it).after.tail
  := by
  simp only [doFilterDeleteActivity, getMapFilterFromData, hdata, hselect]
  refine ⟨_, rfl, ?_⟩
  split_ifs with hlast
  · simp [erase, Range.ofIterators]
  · simp only [ne_eq, not_not] at hlast
    simp [erase, Range.ofIterators, hlast]

/-- The entries in the window, and no others, are removed from the schedule, and their packets,
and no others, are deleted from the store. -/
def DeletesExactly (endKey : Option UInt32) (data : List UInt8) (window : TimeWindow)
    (telecommandMap : TelecommandMap) (s : σ) : Prop :=
  ∃ telecommandMap' s',
    doFilterDeleteActivity tcStore endKey data telecommandMap s =
      some (.ok, telecommandMap', s') ∧
    telecommandMap'.entries =
      telecommandMap.entries.filter (fun entry => ¬ window.Mem entry.1) ∧
    (∀ entry ∈ telecommandMap.entries, window.Mem entry.1 →
      hstore.contents s' entry.2.storeAddr = none) ∧
    ∀ storeId, (∀ entry ∈ telecommandMap.entries, window.Mem entry.1 →
        entry.2.storeAddr ≠ storeId) →
      hstore.contents s' storeId = hstore.contents s storeId

/-- A filter deletes what it selects exactly when no entry lies behind its window, and no key
is read at the end of the schedule where that is undefined. -/
theorem deletesExactly_iff {data : List UInt8} {window : TimeWindow}
    (hdata : readTimeWindow data = .ok window) (endKey : Option UInt32)
    (telecommandMap : TelecommandMap) (s : σ) :
  DeletesExactly hstore endKey data window telecommandMap s ↔
    ¬ (window.ReadsEnd telecommandMap ∧ endKey = none) ∧
    ∀ entry ∈ telecommandMap.entries, ¬ window.Behind entry.1
  := by
  have hwindow := wellFormed_of_readTimeWindow hdata
  cases hselect : selectWindow endKey telecommandMap window with
  | none =>
      have hend := readsEnd_of_selectWindow hwindow hselect
      constructor
      · rintro ⟨map', s', hdelete, -⟩
        simp [doFilterDeleteActivity, getMapFilterFromData, hdata, hselect] at hdelete
      · intro h
        exact absurd hend h.1
  | some it =>
      obtain ⟨hend, hselects⟩ := selects_of_selectWindow hwindow hselect
      obtain ⟨map', hdelete, hentries⟩ := doFilterDeleteActivity_eq hdata hselect tcStore s
      obtain ⟨hgone, hother⟩ :=
        contents_foldl_deleteData hstore (Range.ofIterators telecommandMap it).within s
      have hrest := hselects.filter_not
      have hnil := hselects.after_eq_nil_iff
      rw [Range.toList_ofIterators] at hrest hnil
      rw [← hnil]
      constructor
      · rintro ⟨map'', s'', hdelete', hentries', -⟩
        rw [hdelete] at hdelete'
        cases hdelete'
        rw [hrest, hentries, List.append_cancel_left_eq] at hentries'
        use hend
        apply List.eq_nil_of_length_eq_zero
        have hlength := congrArg List.length hentries'
        rw [List.length_tail] at hlength
        omega
      · rintro ⟨-, hafter⟩
        refine ⟨map', _, hdelete, ?_, ?_, ?_⟩
        · rw [hentries, hrest, hafter]
          rfl
        · intro entry hentry hmem
          apply hgone
          rw [hselects.mem_within, Range.toList_ofIterators]
          exact ⟨hentry, hmem⟩
        · intro storeId hne
          apply hother
          intro entry hentry
          rw [hselects.mem_within, Range.toList_ofIterators] at hentry
          apply hne entry hentry.1 hentry.2

end

/-- A store that is a table of packets. -/
def tableStore : StorageManagerIF (StoreAddress → Option (List UInt8)) where
  addData data s :=
    if s ⟨0, 0⟩ = none then
      (.ok, ⟨0, 0⟩, fun storeId => if storeId = ⟨0, 0⟩ then some data else s storeId)
    else
      (StorageManagerIF.dataStorageFull, StoreAddress.invalid, s)
  deleteData storeId s :=
    if s storeId = none then
      (StorageManagerIF.dataDoesNotExist, s)
    else
      (.ok, fun storeId' => if storeId' = storeId then none else s storeId')

def tableStore_lawful : tableStore.Lawful where
  contents s := s
  contents_deleteData storeId s := by
    simp only [tableStore]
    split_ifs with h
    · apply h
    · simp
  contents_deleteData_of_ne storeId s storeId' hne := by
    simp only [tableStore]
    split_ifs with h
    · rfl
    · simp [hne]

/-- Telecommands that are released at 1, 2 and 4. -/
def threeTcs : TelecommandMap where
  entries := [(1, ⟨10, 1, ⟨0, 0⟩⟩), (2, ⟨20, 2, ⟨0, 1⟩⟩), (4, ⟨40, 4, ⟨0, 2⟩⟩)]
  sorted := by
    unfold SortedByKey
    decide

/-- Deleting from the time 2 on. -/
theorem deletesExactly_iff_from :
  DeletesExactly tableStore_lawful none [0, 0, 0, 2, 0, 0, 0, 2] (.fromTimetag 2) threeTcs
    (fun _ => some [7])
  := by
  apply (deletesExactly_iff tableStore_lawful rfl none threeTcs _).mpr
  constructor
  · rintro ⟨hall, -⟩
    have hlt := hall (4, ⟨40, 4, ⟨0, 2⟩⟩) (by decide)
    revert hlt
    decide
  · intro entry _
    apply not_false

/-- Deleting up to the time 2 removes the telecommand at 4 from the schedule, although its
packet stays in the store. -/
theorem not_deletesExactly_to :
  ¬ DeletesExactly tableStore_lawful (some 0) [0, 0, 0, 3, 0, 0, 0, 2] (.toTimetag 2) threeTcs
    (fun _ => some [7])
  := by
  rintro ⟨map', s', hdelete, hentries, -⟩
  cases hdelete
  revert hentries
  decide

end Service11TelecommandScheduling
