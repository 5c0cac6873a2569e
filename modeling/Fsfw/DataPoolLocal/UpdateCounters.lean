import Fsfw.DataPoolLocal.LocalDataPoolManager

/-!
# The counters of changes

The manager keeps a list of counters, one entry for each data set or variable that has receivers.
An entry is searched by ids alone when a receiver subscribes, so it may be taken for the one of an
item of the other type.  Without such clashes the counters say how often each item came up
(`Tracked.insertAll`), and otherwise there is an item without counters
(`Tracked.exists_counters_eq_none`).
-/

namespace LocalDataPoolManager

/-! ### Items -/

/-- What one can subscribe for: a data set or a variable. -/
inductive Item where
  | set (sid : Sid)
  | poolVariable (localPoolId : UInt32)
  deriving DecidableEq

namespace Item

def dataType : Item → DataType
  | set _ => .dataSet
  | poolVariable _ => .localPoolVariable

def dataId : Item → DataId
  | set sid => ⟨sid⟩
  | poolVariable localPoolId => .ofLocalPoolId localPoolId

/-- The entry of the first item in the list of counters would be taken for the one of the second
item, which is of the other type. -/
def Clashes : Item → Item → Prop
  | set sid, poolVariable localPoolId => sid.objectId = localPoolId
  | poolVariable localPoolId, set sid => sid = ⟨localPoolId, 0xFFFFFFFF⟩
  | _, _ => False

/-- No item that comes up for the first time clashes with one that came up before.  The items in
`seen` came up before the list. -/
def ClashFree : List Item → List Item → Prop
  | _, [] => True
  | seen, item :: items =>
      (item ∈ seen ∨ ∀ item' ∈ seen, ¬ Clashes item' item) ∧ ClashFree (seen ++ [item]) items

end Item

/-- Whether an item has changed, if it exists. -/
def Pool.changed? (pool : Pool) (item : Item) : Option Bool :=
  pool.hasChanged item.dataType item.dataId

/-! ### The list of counters -/

section

variable {changeInfo : HkUpdateResetHelper} {item item' : Item}

theorem isTakenFor_dataSet {dataId : DataId} :
  changeInfo.isTakenFor .dataSet dataId = true ↔ changeInfo.dataId.sid = dataId.sid
  := by
  apply decide_eq_true_iff

theorem isTakenFor_localPoolVariable {dataId : DataId} :
  changeInfo.isTakenFor .localPoolVariable dataId = true ↔
    changeInfo.dataId.localPoolId = dataId.localPoolId
  := by
  apply decide_eq_true_iff

/-- An entry is for an item exactly when it has its type and is taken for it. -/
theorem isFor_iff {type : DataType} {dataId : DataId} :
  changeInfo.isFor type dataId = true ↔
    changeInfo.dataType = type ∧ changeInfo.isTakenFor type dataId = true
  := by
  rw [HkUpdateResetHelper.isFor, decide_eq_true_iff]
  cases type with
  | dataSet =>
      rw [isTakenFor_dataSet]
      constructor
      · rintro ⟨htype, hset, _⟩
        use htype, hset htype
      · rintro ⟨htype, hsid⟩
        use htype, fun _ => hsid
        simp [htype]
  | localPoolVariable =>
      rw [isTakenFor_localPoolVariable]
      constructor
      · rintro ⟨htype, _, hvariable⟩
        use htype, hvariable htype
      · rintro ⟨htype, hid⟩
        use htype, by simp [htype], fun _ => hid

/-- An entry is for one item only. -/
theorem eq_of_isFor (h : changeInfo.isFor item.dataType item.dataId = true)
    (h' : changeInfo.isFor item'.dataType item'.dataId = true) :
  item = item'
  := by
  rw [isFor_iff] at h h'
  obtain ⟨htype, hid⟩ := h
  obtain ⟨htype', hid'⟩ := h'
  rw [htype] at htype'
  cases item with
  | set sid =>
      cases item' with
      | set sid' =>
          have hsid := isTakenFor_dataSet.mp hid
          have hsid' := isTakenFor_dataSet.mp hid'
          rw [hsid] at hsid'
          apply congrArg Item.set hsid'
      | poolVariable localPoolId' =>
          cases htype'
  | poolVariable localPoolId =>
      cases item' with
      | set sid' =>
          cases htype'
      | poolVariable localPoolId' =>
          have hlp := isTakenFor_localPoolVariable.mp hid
          have hlp' := isTakenFor_localPoolVariable.mp hid'
          rw [hlp] at hlp'
          apply congrArg Item.poolVariable hlp'

end

/-- The counters of an item: how many receivers it has, and how many have still to be told. -/
def counters (item : Item) (changeInfos : List HkUpdateResetHelper) : Option (ℕ × ℕ) :=
  (changeInfos.find? (·.isFor item.dataType item.dataId)).map fun changeInfo =>
    (changeInfo.updateCounter.toNat, changeInfo.currentUpdateCounter.toNat)

theorem counters_cons (item : Item) (changeInfo : HkUpdateResetHelper)
    (changeInfos : List HkUpdateResetHelper) :
  counters item (changeInfo :: changeInfos) =
    if changeInfo.isFor item.dataType item.dataId then
      some (changeInfo.updateCounter.toNat, changeInfo.currentUpdateCounter.toNat)
    else
      counters item changeInfos
  := by
  simp only [counters, List.find?_cons]
  split <;> simp_all

/-- Whether a change is reset depends on the counters of the item. -/
theorem countDown_fst (item : Item) (changeInfos : List HkUpdateResetHelper) :
  (countDown item.dataType item.dataId changeInfos).1 =
    (counters item changeInfos).any fun count => count.1 ≤ 1 ∨ count.2 ≤ 1
  := by
  induction changeInfos with
  | nil =>
      rfl
  | cons changeInfo changeInfos ih =>
      by_cases h : changeInfo.isFor item.dataType item.dataId = true
      · simp only [countDown, counters_cons, h, if_true, Option.any_some, UInt8.le_iff_toNat_le,
          UInt8.toNat_one]
        split_ifs with hone hlast
        · simp [hone]
        · simp [hlast]
        · simp [hone, hlast]
      · simp only [countDown, counters_cons, h, Bool.false_eq_true, if_false]
        apply ih

/-- Counting down an item leaves the counters of the other ones alone. -/
theorem counters_countDown (item item' : Item) (changeInfos : List HkUpdateResetHelper) :
  counters item' (countDown item.dataType item.dataId changeInfos).2 =
    (counters item' changeInfos).map fun count =>
      if item' = item ∧ ¬ count.1 ≤ 1 then (count.1, count.2 - 1) else count
  := by
  induction changeInfos with
  | nil =>
      rfl
  | cons changeInfo changeInfos ih =>
      -- The counters of an entry do not matter for which item it is.
      have hsame : ∀ count, { changeInfo with currentUpdateCounter := count }.isFor item'.dataType
          item'.dataId = changeInfo.isFor item'.dataType item'.dataId := fun _ => rfl
      by_cases h : changeInfo.isFor item.dataType item.dataId = true
      · by_cases h' : changeInfo.isFor item'.dataType item'.dataId = true
        · obtain rfl := eq_of_isFor h h'
          simp only [countDown, h, if_true, UInt8.le_iff_toNat_le, UInt8.toNat_one, counters_cons]
          split_ifs with hone hlast
          · simp [counters_cons, h, hone]
          · have : changeInfo.currentUpdateCounter.toNat - 1 = 0 := by omega
            simp [counters_cons, hsame, h, hone, this]
          · have hdown : (changeInfo.currentUpdateCounter - 1).toNat =
                changeInfo.currentUpdateCounter.toNat - 1 := by
              rw [UInt8.toNat_sub_of_le _ _ (by rw [UInt8.le_iff_toNat_le]; simp; omega)]
              simp
            simp [counters_cons, hsame, h, hone, hdown]
        · have hne : item' ≠ item := by
            rintro rfl
            cases h' h
          simp only [countDown, h, if_true, counters_cons, h', Bool.false_eq_true, if_false, hne,
            false_and]
          split_ifs <;> simp [counters_cons, hsame, h']
      · simp only [countDown, h, counters_cons, Bool.false_eq_true, if_false, ih]
        split_ifs with h'
        · have hne : item' ≠ item := by
            rintro rfl
            cases h h'
          simp [hne]
        · rfl

/-! ### Insertion into the list of counters -/

/-- The first entry that is taken for an item is for that item. -/
def TakenRightly (item : Item) (changeInfos : List HkUpdateResetHelper) : Prop :=
  ∃ changeInfo, changeInfos.find? (·.isTakenFor item.dataType item.dataId) = some changeInfo ∧
    changeInfo.isFor item.dataType item.dataId = true

theorem takenRightly_cons_iff (item : Item) (changeInfo : HkUpdateResetHelper)
    (changeInfos : List HkUpdateResetHelper) :
  TakenRightly item (changeInfo :: changeInfos) ↔
    if changeInfo.isTakenFor item.dataType item.dataId then
      changeInfo.isFor item.dataType item.dataId = true
    else
      TakenRightly item changeInfos
  := by
  simp only [TakenRightly, List.find?_cons]
  cases h : changeInfo.isTakenFor item.dataType item.dataId with
  | true =>
      simp
  | false =>
      simp

/-- An item that has an entry of its own keeps it when any item is inserted. -/
theorem TakenRightly.insertion {item' : Item} {changeInfos : List HkUpdateResetHelper}
    (h : TakenRightly item' changeInfos) (item : Item) :
  TakenRightly item'
    (handleHkUpdateResetListInsertion item.dataType item.dataId changeInfos)
  := by
  induction changeInfos with
  | nil =>
      obtain ⟨_, h, _⟩ := h
      cases h
  | cons changeInfo changeInfos ih =>
      rw [takenRightly_cons_iff] at h
      simp only [handleHkUpdateResetListInsertion]
      split
      · rw [takenRightly_cons_iff]
        apply h
      · rw [takenRightly_cons_iff]
        split_ifs at h ⊢
        · apply h
        · apply ih h

/-- Inserting an item that has an entry of its own increments its counters. -/
theorem TakenRightly.counters_insertion {item : Item} {changeInfos : List HkUpdateResetHelper}
    (h : TakenRightly item changeInfos)
    (hlt : ∀ count ∈ counters item changeInfos, count.1 < 255 ∧ count.2 < 255) (item' : Item) :
  counters item' (handleHkUpdateResetListInsertion item.dataType item.dataId changeInfos) =
    (counters item' changeInfos).map fun count =>
      if item' = item then (count.1 + 1, count.2 + 1) else count
  := by
  induction changeInfos with
  | nil =>
      obtain ⟨_, h, _⟩ := h
      cases h
  | cons changeInfo changeInfos ih =>
      rw [takenRightly_cons_iff] at h
      rw [counters_cons] at hlt
      simp only [handleHkUpdateResetListInsertion]
      split at h
      · rename_i htaken
        rw [if_pos htaken]
        rw [if_pos h] at hlt
        obtain ⟨hlt, hlt'⟩ := hlt _ rfl
        have hup : (changeInfo.updateCounter + 1).toNat = changeInfo.updateCounter.toNat + 1 := by
          rw [UInt8.toNat_add]
          simp only [UInt8.toNat_one]
          omega
        have hup' : (changeInfo.currentUpdateCounter + 1).toNat =
            changeInfo.currentUpdateCounter.toNat + 1 := by
          rw [UInt8.toNat_add]
          simp only [UInt8.toNat_one]
          omega
        have hsame : { changeInfo with
            updateCounter := changeInfo.updateCounter + 1
            currentUpdateCounter := changeInfo.currentUpdateCounter + 1 }.isFor item'.dataType
              item'.dataId = changeInfo.isFor item'.dataType item'.dataId := rfl
        rw [counters_cons, counters_cons, hsame]
        by_cases h' : changeInfo.isFor item'.dataType item'.dataId = true
        · obtain rfl := eq_of_isFor h h'
          simp [h, hup, hup']
        · have hne : item' ≠ item := by
            rintro rfl
            cases h' h
          simp [h', hne]
      · rename_i htaken
        have hfor : ¬ changeInfo.isFor item.dataType item.dataId = true := by
          rw [isFor_iff]
          tauto
        rw [if_neg htaken, counters_cons, counters_cons]
        rw [if_neg hfor] at hlt
        by_cases h' : changeInfo.isFor item'.dataType item'.dataId = true
        · have hne : item' ≠ item := by
            rintro rfl
            cases hfor h'
          simp [h', hne]
        · rw [if_neg h', if_neg h']
          apply ih h hlt

/-- Inserting an item for which no entry is taken adds an entry. -/
theorem insertion_of_not_taken {item : Item} {changeInfos : List HkUpdateResetHelper}
    (h : ∀ changeInfo ∈ changeInfos,
      ¬ changeInfo.isTakenFor item.dataType item.dataId = true) :
  handleHkUpdateResetListInsertion item.dataType item.dataId changeInfos =
    changeInfos ++ [⟨item.dataType, item.dataId, 1, 1⟩]
  := by
  induction changeInfos with
  | nil =>
      rfl
  | cons changeInfo changeInfos ih =>
      simp only [handleHkUpdateResetListInsertion]
      rw [if_neg (h changeInfo List.mem_cons_self),
        ih fun changeInfo' h' => h changeInfo' (List.mem_cons_of_mem _ h')]
      rfl

/-- The entry that is added for an item is for that item. -/
theorem isFor_new (item : Item) (updateCounter currentUpdateCounter : UInt8) :
  (HkUpdateResetHelper.mk item.dataType item.dataId updateCounter
    currentUpdateCounter).isFor item.dataType item.dataId = true
  := by
  rw [isFor_iff]
  use rfl
  cases item with
  | set sid =>
      rw [Item.dataType, isTakenFor_dataSet]
  | poolVariable localPoolId =>
      rw [Item.dataType, isTakenFor_localPoolVariable]

/-- The list of counters after subscriptions for the items. -/
structure Tracked (items : List Item) (changeInfos : List HkUpdateResetHelper) : Prop where
  taken : ∀ item ∈ items, TakenRightly item changeInfos
  counted : ∀ item ∈ items,
    counters item changeInfos = some (items.count item, items.count item)
  entries : ∀ changeInfo ∈ changeInfos, ∃ item ∈ items,
    changeInfo.dataType = item.dataType ∧ changeInfo.dataId = item.dataId

theorem tracked_nil :
  Tracked [] []
  := by
  constructor <;> simp

/-- The entry of an item is taken for another item exactly when the two clash. -/
theorem isTakenFor_iff_clashes {changeInfo : HkUpdateResetHelper} {item item' : Item}
    (hentry : changeInfo.dataId = item'.dataId) (hne : item' ≠ item) :
  changeInfo.isTakenFor item.dataType item.dataId = true ↔ item'.Clashes item
  := by
  cases item with
  | set sid =>
      rw [Item.dataType, isTakenFor_dataSet, hentry]
      cases item' with
      | set sid' =>
          simp only [Item.dataId, Item.Clashes, iff_false]
          rintro rfl
          cases hne rfl
      | poolVariable localPoolId' =>
          simp only [Item.dataId, Item.Clashes, DataId.ofLocalPoolId]
          apply eq_comm
  | poolVariable localPoolId =>
      rw [Item.dataType, isTakenFor_localPoolVariable, hentry]
      cases item' with
      | set sid' =>
          rfl
      | poolVariable localPoolId' =>
          simp only [Item.dataId, Item.Clashes, iff_false]
          rintro rfl
          cases hne rfl

theorem counters_append (item : Item) (changeInfos changeInfos' : List HkUpdateResetHelper) :
  counters item (changeInfos ++ changeInfos') =
    (counters item changeInfos).or (counters item changeInfos')
  := by
  simp only [counters, List.find?_append]
  cases changeInfos.find? (·.isFor item.dataType item.dataId) <;> rfl

/-- An entry after an insertion was there before, up to its counters, or it was added for the item
because no entry was taken for that. -/
theorem mem_insertion {item : Item} {changeInfos : List HkUpdateResetHelper}
    {changeInfo : HkUpdateResetHelper}
    (h : changeInfo ∈ handleHkUpdateResetListInsertion item.dataType item.dataId changeInfos) :
  (∃ changeInfo' ∈ changeInfos,
      changeInfo.dataType = changeInfo'.dataType ∧ changeInfo.dataId = changeInfo'.dataId) ∨
    (changeInfo.dataType = item.dataType ∧ changeInfo.dataId = item.dataId ∧
      ∀ changeInfo' ∈ changeInfos,
        ¬ changeInfo'.isTakenFor item.dataType item.dataId = true)
  := by
  induction changeInfos with
  | nil =>
      cases List.mem_singleton.mp h
      right
      simp
  | cons changeInfo' changeInfos ih =>
      simp only [handleHkUpdateResetListInsertion] at h
      split at h
      · rcases List.mem_cons.mp h with rfl | h
        · left
          use changeInfo', List.mem_cons_self
        · left
          use changeInfo, List.mem_cons_of_mem _ h
      · rcases List.mem_cons.mp h with rfl | h
        · left
          use changeInfo, List.mem_cons_self
        · rcases ih h with ⟨changeInfo'', hmem, hsame⟩ | ⟨htype, hid, hfree⟩
          · left
            use changeInfo'', List.mem_cons_of_mem _ hmem
          · right
            use htype, hid
            rw [List.forall_mem_cons]
            rename_i htaken _
            use htaken

/-- Inserting an item that came up before, or does not clash, keeps track. -/
theorem Tracked.insertion {items : List Item} {changeInfos : List HkUpdateResetHelper}
    (h : Tracked items changeInfos) {item : Item}
    (hclash : item ∈ items ∨ ∀ item' ∈ items, ¬ item'.Clashes item)
    (hcount : (items ++ [item]).count item ≤ 255) :
  Tracked (items ++ [item])
    (handleHkUpdateResetListInsertion item.dataType item.dataId changeInfos)
  := by
  have hentries : ∀ changeInfo ∈
      handleHkUpdateResetListInsertion item.dataType item.dataId changeInfos,
      ∃ item' ∈ items ++ [item],
        changeInfo.dataType = item'.dataType ∧ changeInfo.dataId = item'.dataId := by
    intro changeInfo hmem
    rcases mem_insertion hmem with ⟨changeInfo', hmem', htype, hid⟩ | ⟨htype, hid, _⟩
    · obtain ⟨item', hitem', htype', hid'⟩ := h.entries changeInfo' hmem'
      use item', List.mem_append_left _ hitem'
      rw [htype, hid]
      use htype', hid'
    · use item, by simp, htype
  by_cases hmem : item ∈ items
  · -- The item came up before, and its counters are incremented.
    have hitems : ∀ item' ∈ items ++ [item], item' ∈ items := by
      intro item' hitem'
      rcases List.mem_append.mp hitem' with hitem' | hitem'
      · apply hitem'
      · rw [List.mem_singleton.mp hitem']
        apply hmem
    have hlt : ∀ count ∈ counters item changeInfos, count.1 < 255 ∧ count.2 < 255 := by
      intro count hcounters
      rw [h.counted item hmem] at hcounters
      cases hcounters
      simp only [List.count_append, List.count_singleton_self] at hcount
      omega
    refine ⟨fun item' hitem' => (h.taken item' (hitems item' hitem')).insertion item, ?_, hentries⟩
    intro item' hitem'
    rw [(h.taken item hmem).counters_insertion hlt, h.counted item' (hitems item' hitem')]
    by_cases heq : item' = item
    · simp [heq]
    · simp [heq, Ne.symm heq]
  · -- The item comes up for the first time, and gets an entry.
    have hfree : ∀ changeInfo ∈ changeInfos,
        ¬ changeInfo.isTakenFor item.dataType item.dataId = true := by
      intro changeInfo hchangeInfo
      obtain ⟨item', hitem', _, hid⟩ := h.entries changeInfo hchangeInfo
      have hne : item' ≠ item := by
        rintro rfl
        cases hmem hitem'
      rw [isTakenFor_iff_clashes hid hne]
      apply hclash.resolve_left hmem item' hitem'
    have hnone : counters item changeInfos = none := by
      simp only [counters, Option.map_eq_none_iff, List.find?_eq_none]
      intro changeInfo hchangeInfo
      rw [isFor_iff]
      have := hfree changeInfo hchangeInfo
      tauto
    refine ⟨?_, ?_, hentries⟩
    · intro item' hitem'
      rcases List.mem_append.mp hitem' with hitem' | hitem'
      · apply (h.taken item' hitem').insertion
      · rw [List.mem_singleton.mp hitem', insertion_of_not_taken hfree]
        use ⟨item.dataType, item.dataId, 1, 1⟩
        refine ⟨?_, isFor_new item 1 1⟩
        rw [List.find?_append, List.find?_eq_none.mpr hfree]
        simp [(isFor_iff.mp (isFor_new item 1 1)).2]
    · intro item' hitem'
      rw [insertion_of_not_taken hfree, counters_append, counters_cons]
      rcases List.mem_append.mp hitem' with hitem' | hitem'
      · have hne : item ≠ item' := by
          rintro rfl
          cases hmem hitem'
        simp [h.counted item' hitem', hne]
      · rw [List.mem_singleton.mp hitem', hnone, if_pos (isFor_new item 1 1)]
        simp [List.count_eq_zero_of_not_mem hmem]

/-- Insert items one after another. -/
def insertAll (items : List Item) (changeInfos : List HkUpdateResetHelper) :
    List HkUpdateResetHelper :=
  items.foldl (fun changeInfos item =>
    handleHkUpdateResetListInsertion item.dataType item.dataId changeInfos) changeInfos

/-- Track is kept of items that do not clash. -/
theorem Tracked.insertAll {seen items : List Item} {changeInfos : List HkUpdateResetHelper}
    (h : Tracked seen changeInfos) (hclash : Item.ClashFree seen items)
    (hcount : ∀ item, (seen ++ items).count item ≤ 255) :
  Tracked (seen ++ items) (insertAll items changeInfos)
  := by
  induction items generalizing seen changeInfos with
  | nil =>
      rw [List.append_nil]
      apply h
  | cons item items ih =>
      have hsplit : seen ++ item :: items = (seen ++ [item]) ++ items := by
        simp
      rw [hsplit] at hcount ⊢
      apply ih _ hclash.2 hcount
      apply h.insertion hclash.1
      have := hcount item
      rw [List.count_append] at this
      omega

/-- An item has no entry of its own, and another entry is taken for it. -/
def Shadowed (item : Item) (changeInfos : List HkUpdateResetHelper) : Prop :=
  (∃ changeInfo ∈ changeInfos, changeInfo.isTakenFor item.dataType item.dataId = true) ∧
    ∀ changeInfo ∈ changeInfos, ¬ changeInfo.isFor item.dataType item.dataId = true

/-- An item that clashes with one that came up before is shadowed by it. -/
theorem Tracked.shadowed {items : List Item} {changeInfos : List HkUpdateResetHelper}
    (h : Tracked items changeInfos) {item item' : Item} (hmem : item ∉ items)
    (hmem' : item' ∈ items) (hclash : item'.Clashes item) :
  Shadowed item changeInfos
  := by
  have hentry : ∀ changeInfo ∈ changeInfos, ∀ item'',
      changeInfo.isFor item''.dataType item''.dataId = true →
      item'' ∈ items ∧ changeInfo.dataId = item''.dataId := by
    intro changeInfo hchangeInfo item'' hfor
    obtain ⟨item₀, hitem₀, htype, hid⟩ := h.entries changeInfo hchangeInfo
    have hfor₀ : changeInfo.isFor item₀.dataType item₀.dataId = true := by
      have := isFor_new item₀ changeInfo.updateCounter changeInfo.currentUpdateCounter
      rw [← htype, ← hid] at this
      rw [← htype, ← hid]
      apply this
    obtain rfl := eq_of_isFor hfor hfor₀
    use hitem₀, hid
  constructor
  · obtain ⟨changeInfo, hfind, hfor⟩ := h.taken item' hmem'
    have hchangeInfo := List.mem_of_find?_eq_some hfind
    use changeInfo, hchangeInfo
    rw [isTakenFor_iff_clashes (hentry changeInfo hchangeInfo item' hfor).2]
    · apply hclash
    · rintro rfl
      cases hmem hmem'
  · intro changeInfo hchangeInfo hfor
    apply hmem (hentry changeInfo hchangeInfo item hfor).1

/-- An insertion keeps the entries, up to their counters. -/
theorem mem_insertion_of_mem {changeInfos : List HkUpdateResetHelper}
    {changeInfo : HkUpdateResetHelper} (h : changeInfo ∈ changeInfos) (item : Item) :
  ∃ changeInfo' ∈ handleHkUpdateResetListInsertion item.dataType item.dataId changeInfos,
    changeInfo'.dataType = changeInfo.dataType ∧ changeInfo'.dataId = changeInfo.dataId
  := by
  induction changeInfos with
  | nil =>
      cases h
  | cons changeInfo' changeInfos ih =>
      simp only [handleHkUpdateResetListInsertion]
      rcases List.mem_cons.mp h with rfl | h
      · split
        · refine ⟨_, List.mem_cons_self, rfl, rfl⟩
        · use changeInfo, List.mem_cons_self
      · split
        · use changeInfo, List.mem_cons_of_mem _ h
        · obtain ⟨changeInfo'', hmem, hsame⟩ := ih h
          use changeInfo'', List.mem_cons_of_mem _ hmem

/-- Entries that differ in their counters are for the same items. -/
theorem isFor_congr {changeInfo changeInfo' : HkUpdateResetHelper}
    (htype : changeInfo.dataType = changeInfo'.dataType)
    (hid : changeInfo.dataId = changeInfo'.dataId) (type : DataType) (dataId : DataId) :
  changeInfo.isFor type dataId = changeInfo'.isFor type dataId
  := by
  simp only [HkUpdateResetHelper.isFor, htype, hid]

/-- An item that is shadowed stays shadowed. -/
theorem Shadowed.insertion {item : Item} {changeInfos : List HkUpdateResetHelper}
    (h : Shadowed item changeInfos) (item' : Item) :
  Shadowed item (handleHkUpdateResetListInsertion item'.dataType item'.dataId changeInfos)
  := by
  obtain ⟨⟨changeInfo, hmem, htaken⟩, hfor⟩ := h
  constructor
  · obtain ⟨changeInfo', hmem', _, hid⟩ := mem_insertion_of_mem hmem item'
    use changeInfo', hmem'
    simp only [HkUpdateResetHelper.isTakenFor, hid] at htaken ⊢
    apply htaken
  · intro changeInfo' hmem' hfor'
    rcases mem_insertion hmem' with ⟨changeInfo'', hmem'', htype, hid⟩ | ⟨htype, hid, hfree⟩
    · rw [isFor_congr htype hid] at hfor'
      apply hfor changeInfo'' hmem'' hfor'
    · -- The entry was added for `item'`, which is hence not the item that is shadowed.
      have hfor'' : changeInfo'.isFor item'.dataType item'.dataId = true := by
        rw [← isFor_new item' 0 0]
        apply isFor_congr htype hid
      obtain rfl := eq_of_isFor hfor' hfor''
      apply hfree changeInfo hmem htaken

/-- Among items that clash there is one that has no counters in the end. -/
theorem Tracked.exists_counters_eq_none {seen items : List Item}
    {changeInfos : List HkUpdateResetHelper} (h : Tracked seen changeInfos)
    (hclash : ¬ Item.ClashFree seen items) (hcount : ∀ item, (seen ++ items).count item ≤ 255) :
  ∃ item ∈ items, counters item (LocalDataPoolManager.insertAll items changeInfos) = none
  := by
  induction items generalizing seen changeInfos with
  | nil =>
      cases hclash trivial
  | cons item items ih =>
      have hsplit : seen ++ item :: items = (seen ++ [item]) ++ items := by
        simp
      rw [hsplit] at hcount
      by_cases hitem : item ∈ seen ∨ ∀ item' ∈ seen, ¬ item'.Clashes item
      · have hcount' : (seen ++ [item]).count item ≤ 255 := by
          have := hcount item
          rw [List.count_append] at this
          omega
        obtain ⟨item', hmem, hnone⟩ := ih (h.insertion hitem hcount')
          (fun hrest => hclash ⟨hitem, hrest⟩) hcount
        use item', List.mem_cons_of_mem _ hmem
        apply hnone
      · push Not at hitem
        obtain ⟨hseen, item', hmem', hclash'⟩ := hitem
        have hshadowed : Shadowed item (LocalDataPoolManager.insertAll (item :: items)
            changeInfos) := by
          have hstart := h.shadowed hseen hmem' hclash'
          generalize item :: items = inserted
          clear * - hstart
          induction inserted generalizing changeInfos with
          | nil =>
              apply hstart
          | cons item' inserted ih =>
              apply ih (hstart.insertion item')
        use item, List.mem_cons_self
        simp only [counters, Option.map_eq_none_iff, List.find?_eq_none]
        apply hshadowed.2

end LocalDataPoolManager
