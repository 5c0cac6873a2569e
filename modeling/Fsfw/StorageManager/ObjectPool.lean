import Fsfw.Container.PlacementFactory
import Fsfw.StorageManager.PoolIsolation

/-!
# Objects in a local pool

A placement factory creates its objects in the elements of a local pool.  An object is at the address
of its element, and is deleted by this address.

When no element is empty, and all of them lie within the first `2 ^ 16` bytes of their blocks, a local
pool is reliable (`ObjectPool.reliable`).
-/

namespace LocalPool

/-- The addresses of the elements that are not free. -/
def occupied (p : LocalPool) : Finset ℕ :=
  (Finset.range p.numberOfSubpools).biUnion fun n =>
    ((Finset.range (p.numberOfElements n)).filter fun k => p.sizeLists n k ≠ storageFree).image
      fun k => p.address ⟨.ofNat n, .ofNat k⟩

/-- A local pool in whose elements objects can be created and deleted one by one. -/
structure ObjectPool where
  pool : LocalPool
  fits : Fits pool
  near : ∀ id, pool.Near id
  elementSizes_pos : ∀ n, n < pool.numberOfSubpools → 0 < pool.elementSizes n

/-! ### Elements and their addresses -/

section

variable {p p' : LocalPool} {id id' : StoreAddress}

theorem mem_occupied {a : ℕ} :
  a ∈ p.occupied ↔ ∃ id, (p.modifyData id).1 = .ok ∧ p.address id = a
  := by
  simp only [occupied, Finset.mem_biUnion, Finset.mem_image, Finset.mem_filter, Finset.mem_range]
  constructor
  · rintro ⟨n, hn, k, ⟨hk, hsize⟩, rfl⟩
    refine ⟨_, modifyData_ok_iff.mpr ?_, rfl⟩
    rw [IsLegal, toNat_ofNat_subpool hn, toNat_ofNat_element hk]
    exact ⟨⟨hn, hk⟩, hsize⟩
  · rintro ⟨id, hok, rfl⟩
    obtain ⟨⟨hn, hk⟩, hsize⟩ := modifyData_ok_iff.mp hok
    refine ⟨_, hn, _, ⟨hk, hsize⟩, ?_⟩
    rw [UInt16.ofNat_toNat, UInt16.ofNat_toNat]

theorem address_congr (hconfig : p'.config = p.config) (hdata : p'.data = p.data) :
  p'.address id = p.address id
  := by
  simp only [address, getRawPosition, elementSizes, hconfig, hdata]

/-- What becomes of the occupied elements when only one element is changed. -/
theorem occupied_of_onlyAt (h : OnlyAt p p' id) {a : ℕ} :
  a ∈ p'.occupied ↔ (∃ id', id' ≠ id ∧ (p.modifyData id').1 = .ok ∧ p.address id' = a) ∨
    (p'.modifyData id).1 = .ok ∧ p.address id = a
  := by
  have hother : ∀ id', id' ≠ id → ((p'.modifyData id').1 = .ok ↔ (p.modifyData id').1 = .ok) := by
    intro id' hne
    rw [modifyData_ok_iff, modifyData_ok_iff, h.sizeLists_eq _ _ (toNat_ne_of_ne hne)]
    rw [IsLegal, IsLegal, numberOfSubpools, numberOfSubpools, numberOfElements, numberOfElements,
      h.config_eq]
  rw [mem_occupied]
  constructor
  · rintro ⟨id', hok, rfl⟩
    rw [address_congr h.config_eq h.data_eq]
    by_cases hid : id' = id
    · subst hid
      right
      exact ⟨hok, rfl⟩
    · left
      exact ⟨id', hid, (hother id' hid).mp hok, rfl⟩
  · rintro (⟨id', hne, hok, rfl⟩ | ⟨hok, rfl⟩)
    · exact ⟨id', (hother id' hne).mpr hok, address_congr h.config_eq h.data_eq⟩
    · exact ⟨id, hok, address_congr h.config_eq h.data_eq⟩

end

namespace ObjectPool

variable {P : ObjectPool} {id id' : StoreAddress}

theorem contains_address (P : ObjectPool) (h : P.pool.IsLegal id) :
  P.pool.Contains id (P.pool.address id)
  := by
  have hpos := P.elementSizes_pos _ h.1
  rw [Contains, address, P.fits.getRawPosition_eq h]
  exact ⟨h, Nat.le_refl _, by omega⟩

/-- An address lies in one element at most. -/
theorem eq_of_contains (P : ObjectPool) {a : ℕ} (h : P.pool.Contains id a)
    (h' : P.pool.Contains id' a) :
  id = id'
  := by
  by_contra hne
  have hapart := P.fits.elements_apart h.1 h'.1 hne
  obtain ⟨-, hstart, hend⟩ := h
  obtain ⟨-, hstart', hend'⟩ := h'
  omega

theorem address_injective (P : ObjectPool) (h : P.pool.IsLegal id) (h' : P.pool.IsLegal id')
    (heq : P.pool.address id = P.pool.address id') :
  id = id'
  := by
  apply P.eq_of_contains (P.contains_address h)
  rw [heq]
  apply P.contains_address h'

/-- The pool after a call, which does not change the sizes. -/
def update (P : ObjectPool) (p : LocalPool) (h : p.config = P.pool.config) : ObjectPool where
  pool := p
  fits := P.fits.congr h
  near id := by
    have hnear := P.near id
    simp only [Near, IsLegal, numberOfSubpools, numberOfElements, offset, elementSizes] at hnear ⊢
    rw [h]
    apply hnear
  elementSizes_pos := by
    have hpos := P.elementSizes_pos
    simp only [numberOfSubpools, elementSizes] at hpos ⊢
    rw [h]
    apply hpos

/-- The blocks have at most `2 ^ 16` bytes. -/
def ofBlocks (p : LocalPool)
    (hpos : ∀ n, n < p.numberOfSubpools → 0 < p.elementSizes n)
    (hsize : ∀ n, n < p.numberOfSubpools → p.elementSizes n ≤ 2 ^ 16)
    (hblock : ∀ n, n < p.numberOfSubpools → p.numberOfElements n * p.elementSizes n ≤ 2 ^ 16) :
    ObjectPool where
  pool := p
  fits :=
    { block_lt := fun n hn => Nat.lt_of_le_of_lt (hblock n hn) (by decide)
      size_lt := fun n hn => Nat.lt_of_le_of_lt (hsize n hn) (by decide) }
  near id hlegal := by
    have hend := element_apart (p.elementSizes id.poolIndex.toNat) hlegal.2
    have hle := hblock _ hlegal.1
    have hzero := hpos _ hlegal.1
    rw [offset]
    omega
  elementSizes_pos := hpos

/-! ### Creating and deleting objects -/

theorem config_getFreeElement (p : LocalPool) (size : ℕ) :
  (p.getFreeElement StoreAddress.invalid size).2.2.2.config = p.config
  := by
  rcases getFreeElement_cases p StoreAddress.invalid size with
    ⟨id, -, hget⟩ | ⟨status, id, reporter, -, hget⟩
  · rw [hget]
    rfl
  · rw [hget]

def getFreeElement (size : ℕ) (P : ObjectPool) : Option ℕ × ObjectPool :=
  let result := P.pool.getFreeElement StoreAddress.invalid size
  (result.2.2.1.map fun (n, position) => P.pool.data n + position,
    P.update result.2.2.2 (config_getFreeElement P.pool size))

theorem exists_deletePtr (P : ObjectPool) (pointer : ℕ) :
  ∃ result, P.pool.deletePtr pointer = some result ∧ result.2.2.config = P.pool.config
  := by
  rcases deletePtr_cases P.fits (fun id _ => P.near id) with
    ⟨id, p', hdelete, -, hid, -⟩ | ⟨status, id, -, hdelete⟩
  · exact ⟨_, hdelete, hid.config_eq⟩
  · exact ⟨_, hdelete, rfl⟩

theorem isSome_deletePtr (P : ObjectPool) (pointer : ℕ) :
  (P.pool.deletePtr pointer).isSome
  := by
  obtain ⟨result, hresult, -⟩ := P.exists_deletePtr pointer
  rw [hresult]
  rfl

theorem config_deletePtr (P : ObjectPool) (pointer : ℕ) :
  ((P.pool.deletePtr pointer).get (P.isSome_deletePtr pointer)).2.2.config = P.pool.config
  := by
  obtain ⟨result, hresult, hconfig⟩ := P.exists_deletePtr pointer
  simp only [hresult, Option.get_some, hconfig]

def deleteData (pointer : ℕ) (P : ObjectPool) : ReturnValue × ObjectPool :=
  let result := (P.pool.deletePtr pointer).get (P.isSome_deletePtr pointer)
  (result.1, P.update result.2.2 (P.config_deletePtr pointer))

/-- The operations of a local pool that a placement factory calls. -/
def backend : PlacementBackend ObjectPool where
  getFreeElement := getFreeElement
  deleteData := deleteData

/-- A new object is in an element that was free. -/
theorem getFreeElement_some {size a : ℕ} (h : (getFreeElement size P).1 = some a) :
  a ∉ P.pool.occupied ∧ (getFreeElement size P).2.pool.occupied = insert a P.pool.occupied
  := by
  rcases getFreeElement_cases P.pool StoreAddress.invalid size with
    ⟨id, hroom, hget⟩ | ⟨status, id, reporter, -, hget⟩
  · have ha : P.pool.address id = a := by
      simp only [getFreeElement, hget] at h
      exact Option.some.inj h
    have hfree : ∀ id', (P.pool.modifyData id').1 = .ok → id' ≠ id := by
      rintro id' hok rfl
      exact (modifyData_ok_iff.mp hok).2 hroom.free
    constructor
    · intro hmem
      obtain ⟨id', hok, ha'⟩ := mem_occupied.mp hmem
      apply hfree id' hok
      apply P.address_injective (modifyData_ok_iff.mp hok).1 hroom.legal
      rw [ha, ha']
    · have hpool : (getFreeElement size P).2.pool =
          P.pool.setSize id.poolIndex.toNat id.packetIndex.toNat size := by
        simp only [getFreeElement, hget, update]
      have hok : ((getFreeElement size P).2.pool.modifyData id).1 = .ok := by
        rw [hpool, modifyData_ok_iff]
        use hroom.legal
        have hlt := P.fits.size_lt _ hroom.legal.1
        have hle := hroom.size_le
        simp only [setSize, and_self, if_true]
        omega
      have hid : OnlyAt P.pool (getFreeElement size P).2.pool id := by
        rw [hpool]
        apply onlyAt_setSize
      ext b
      rw [occupied_of_onlyAt hid, Finset.mem_insert, mem_occupied, ha]
      constructor
      · rintro (⟨id', -, hok', hb⟩ | ⟨-, hb⟩)
        · right
          exact ⟨id', hok', hb⟩
        · left
          exact hb.symm
      · rintro (hb | ⟨id', hok', hb⟩)
        · right
          exact ⟨hok, hb.symm⟩
        · left
          exact ⟨id', hfree id' hok', hok', hb⟩
  · simp only [getFreeElement, hget] at h
    cases h

theorem getFreeElement_none {size : ℕ} (h : (getFreeElement size P).1 = none) :
  (getFreeElement size P).2.pool.occupied = P.pool.occupied
  := by
  rcases getFreeElement_cases P.pool StoreAddress.invalid size with
    ⟨id, hroom, hget⟩ | ⟨status, id, reporter, -, hget⟩
  · simp only [getFreeElement, hget] at h
    cases h
  · simp only [getFreeElement, hget]
    rfl

/-- An object is deleted by its address, and no other one. -/
theorem deleteData_of_mem {a : ℕ} (h : a ∈ P.pool.occupied) :
  (deleteData a P).1 = .ok ∧ (deleteData a P).2.pool.occupied = P.pool.occupied.erase a
  := by
  obtain ⟨id, hok, rfl⟩ := mem_occupied.mp h
  obtain ⟨hlegal, -⟩ := modifyData_ok_iff.mp hok
  rcases P.fits.deletePtr_eq (fun id _ => P.near id) with ⟨id', hcontains, hdelete⟩ | ⟨hnot, -⟩
  · cases P.eq_of_contains (P.contains_address hlegal) hcontains
    obtain ⟨p', hp', -, hiff⟩ :=
      deleteData_ok P.fits hlegal (P.elementSizes_pos _ hlegal.1).ne'
    have hid : OnlyAt P.pool p' id := by
      have hlt : id.poolIndex.toNat < 256 := Nat.lt_trans hlegal.1 P.pool.numberOfSubpools_lt
      rcases deleteData_cases P.fits (Or.inl hlt) (P.near id) with ⟨p'', hp'', hid, -⟩ | hp''
      · cases hp'.symm.trans hp''
        apply hid
      · cases hp'.symm.trans hp''
    rw [hp'] at hdelete
    have hfreed : (p'.modifyData id).1 ≠ .ok := fun hok' => ((hiff id).mp hok').1 rfl
    simp only [deleteData, hdelete, Option.map_some, Option.get_some, update, true_and]
    ext b
    rw [occupied_of_onlyAt hid, Finset.mem_erase, mem_occupied]
    constructor
    · rintro (⟨id', hne, hok', rfl⟩ | ⟨hok', -⟩)
      · refine ⟨?_, id', hok', rfl⟩
        intro heq
        apply hne
        apply P.address_injective (modifyData_ok_iff.mp hok').1 hlegal heq
      · contradiction
    · rintro ⟨hb, id', hok', rfl⟩
      left
      refine ⟨id', ?_, hok', rfl⟩
      rintro rfl
      contradiction
  · exact absurd (P.contains_address hlegal) (hnot id)

/-- The objects in a local pool are at the addresses of its occupied elements. -/
def reliable : backend.Reliable where
  occupied P := P.pool.occupied
  notMem_of_getFreeElement _ _ _ h := (getFreeElement_some h).1
  occupied_getFreeElement _ _ _ h := (getFreeElement_some h).2
  occupied_getFreeElement_none _ _ h := getFreeElement_none h
  deleteData_ok _ _ h := (deleteData_of_mem h).1
  occupied_deleteData _ _ h := (deleteData_of_mem h).2

/-- A new pool is empty. -/
theorem occupied_of_free (h : ∀ n k, P.pool.sizeLists n k = storageFree) :
  reliable.occupied P = ∅
  := by
  apply Finset.eq_empty_of_forall_notMem
  intro a ha
  obtain ⟨id, hok, -⟩ := mem_occupied.mp ha
  exact (modifyData_ok_iff.mp hok).2 (h _ _)

end ObjectPool

end LocalPool
