import Fsfw.StorageManager.StorageManagerIF

/-!
# Stores whose packets are read

The users of a packet store also read packets, and reserve room for packets that they write
later through a pointer.  An accessor to a packet deletes the packet when it goes out of scope,
unless it has been released before.
-/

/-- The operations of a store that the users of its packets call. -/
structure PacketStoreIF (σ : Type*) extends StorageManagerIF σ where
  getFreeElement : ℕ → σ → ReturnValue × StoreAddress × σ
  /-- Write through the pointer to a packet. -/
  write : StoreAddress → List UInt8 → σ → σ
  getData : StoreAddress → σ → ReturnValue × List UInt8

/-- What a packet store promises: besides what every store does, a packet that is there can be
read and deleted, and room that is reserved is at an address that was free. -/
structure PacketStoreIF.Reliable {σ : Type*} (S : PacketStoreIF σ)
    extends S.toStorageManagerIF.Reliable where
  deletes : ∀ storeId s, contents s storeId ≠ none → (S.deleteData storeId s).1 = .ok
  getData_of_some : ∀ storeId s data, contents s storeId = some data →
    S.getData storeId s = (.ok, data)
  getData_of_none : ∀ storeId s, contents s storeId = none →
    (S.getData storeId s).1 ≠ .ok
  free_of_getFreeElement : ∀ size s, (S.getFreeElement size s).1 = .ok →
    contents s (S.getFreeElement size s).2.1 = none
  contents_getFreeElement : ∀ size s, (S.getFreeElement size s).1 = .ok →
    ∃ data, data.length = size ∧ contents (S.getFreeElement size s).2.2 =
      Function.update (contents s) (S.getFreeElement size s).2.1 (some data)
  contents_getFreeElement_failed : ∀ size s, (S.getFreeElement size s).1 ≠ .ok →
    contents (S.getFreeElement size s).2.2 = contents s
  contents_write : ∀ storeId bytes s data, contents s storeId = some data →
    contents (S.write storeId bytes s) =
      Function.update (contents s) storeId (some (bytes ++ data.drop bytes.length))

namespace PacketStoreIF

variable {σ : Type*} {S : PacketStoreIF σ} (laws : S.Reliable)

/-- The packet at an address is gone after its deletion, whether it was there or not. -/
theorem Reliable.contents_deleteData_eq (storeId : StoreAddress) (s : σ) :
  laws.contents (S.deleteData storeId s).2 = Function.update (laws.contents s) storeId none
  := by
  cases h : laws.contents s storeId with
  | some data =>
      apply laws.contents_deleteData
      apply laws.deletes
      rw [h]
      simp
  | none =>
      rw [← h, Function.update_eq_self]
      by_cases hok : (S.deleteData storeId s).1 = .ok
      · rw [laws.contents_deleteData storeId s hok, ← h, Function.update_eq_self]
      · apply laws.contents_deleteData_failed storeId s hok

end PacketStoreIF

/-! ### Tables -/

/-- A store that keeps its packets in a table with `n` places. -/
def tableStore (n : ℕ) : PacketStoreIF (StoreAddress → Option (List UInt8)) where
  addData data s :=
    match freePlace s with
    | some storeId => (.ok, storeId, Function.update s storeId (some data))
    | none => (StorageManagerIF.dataStorageFull, StoreAddress.invalid, s)
  deleteData storeId s :=
    if (s storeId).isNone then
      (StorageManagerIF.dataDoesNotExist, s)
    else
      (.ok, Function.update s storeId none)
  getFreeElement size s :=
    match freePlace s with
    | some storeId => (.ok, storeId, Function.update s storeId (some (List.replicate size 0)))
    | none => (StorageManagerIF.dataStorageFull, StoreAddress.invalid, s)
  write storeId bytes s :=
    Function.update s storeId ((s storeId).map fun data => bytes ++ data.drop bytes.length)
  getData storeId s :=
    match s storeId with
    | some data => (.ok, data)
    | none => (StorageManagerIF.dataDoesNotExist, [])
where
  /-- The first place that is free. -/
  freePlace (s : StoreAddress → Option (List UInt8)) : Option StoreAddress :=
    ((List.range n).map fun place => ⟨0, .ofNat place⟩).find? fun storeId => (s storeId).isNone

namespace tableStore

variable {n : ℕ} {s : StoreAddress → Option (List UInt8)} {storeId : StoreAddress}

theorem free_of_freePlace (h : freePlace n s = some storeId) :
  s storeId = none
  := by
  have := List.find?_some h
  rwa [Option.isNone_iff_eq_none] at this

/-- A table is a reliable store. -/
def reliable (n : ℕ) : (tableStore n).Reliable where
  contents s := s
  free_of_addData data s h := by
    simp only [tableStore] at h ⊢
    split at h
    · rename_i storeId hfree
      apply free_of_freePlace hfree
    · cases h
  contents_addData data s h := by
    simp only [tableStore] at h ⊢
    split at h
    · rfl
    · cases h
  contents_addData_failed data s h := by
    simp only [tableStore] at h ⊢
    split at h
    · cases h rfl
    · rfl
  contents_deleteData storeId s h := by
    simp only [tableStore] at h ⊢
    split_ifs at h ⊢
    rfl
  contents_deleteData_failed storeId s h := by
    simp only [tableStore] at h ⊢
    split_ifs at h ⊢
    · rfl
    · cases h rfl
  deletes storeId s h := by
    simp only [tableStore, Option.isNone_iff_eq_none]
    rw [if_neg h]
  getData_of_some storeId s data h := by
    simp only [tableStore, h]
  getData_of_none storeId s h := by
    simp only [tableStore, h]
    decide
  free_of_getFreeElement size s h := by
    simp only [tableStore] at h ⊢
    split at h
    · rename_i storeId hfree
      apply free_of_freePlace hfree
    · cases h
  contents_getFreeElement size s h := by
    use List.replicate size 0, List.length_replicate
    simp only [tableStore] at h ⊢
    split at h
    · rfl
    · cases h
  contents_getFreeElement_failed size s h := by
    simp only [tableStore] at h ⊢
    split at h
    · cases h rfl
    · rfl
  contents_write storeId bytes s data h := by
    simp only [tableStore, h, Option.map_some]

end tableStore
