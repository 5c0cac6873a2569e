import Fsfw.Library.Run
import Fsfw.StorageManager.LocalPool

/-!
# The packets of a local pool

A packet that has been put into a local pool is live until it is deleted or cleared.  We keep
a list of the live packets next to the pool, and show that every one of them is still in the
pool, with its size and its bytes, and that no two of them overlap, whatever calls are made
(`isolated_of_sound`).

This is so as long as the blocks are as long as the configuration means them to be, and as
long as no call needs more bits for an index or a position than the pool has for it
(`Sound`).  A packet that lies behind the first `2 ^ 16` bytes of its block is not deleted
where it lies (`not_isolated_large`).
-/

open Memory

namespace LocalPool

/-! ### Calls -/

/-- The calls of the users of a pool. After an element has been reserved, data is written into
it. -/
inductive PoolOp where
  | addData (storeId : StoreAddress) (data : List UInt8)
  | getFreeElement (storeId : StoreAddress) (size : ℕ) (data : List UInt8)
      (h : data.length ≤ size)
  | deleteData (storeId : StoreAddress)
  | deletePtr (ptr : ℕ)
  | clearSubPool (subpoolIndex : UInt8)
  | clearStore

/-- Make a call. -/
def call (p : LocalPool) : PoolOp → Option (LocalPool × ReturnValue × StoreAddress)
  | .addData storeId data =>
      match p.addData storeId data with
      | none => none
      | some (status, storeId, p) => some (p, status, storeId)
  | .getFreeElement storeId size data _ =>
      match p.getFreeElement storeId size with
      | (status, storeId, some (n, position), p) =>
          match p.memcpy n position data with
          | none => none
          | some p => some (p, status, storeId)
      | (status, storeId, none, p) => some (p, status, storeId)
  | .deleteData storeId =>
      match p.deleteData storeId with
      | none => none
      | some (status, p) => some (p, status, storeId)
  | .deletePtr ptr =>
      match p.deletePtr ptr with
      | none => none
      | some (status, storeId, p) => some (p, status, storeId)
  | .clearSubPool subpoolIndex =>
      match p.clearSubPool subpoolIndex with
      | none => none
      | some p => some (p, .ok, StoreAddress.invalid)
  | .clearStore => some (p.clearStore, .ok, StoreAddress.invalid)

/-- A packet with its address, its size, and the data that was written into it. -/
structure LivePacket where
  storeId : StoreAddress
  size : ℕ
  data : List UInt8

/-- Where an element lies in its block. -/
def offset (p : LocalPool) (storeId : StoreAddress) : ℕ :=
  storeId.packetIndex.toNat * p.elementSizes storeId.poolIndex.toNat

/-- The element has a byte at the address `ptr`. -/
def Contains (p : LocalPool) (storeId : StoreAddress) (ptr : ℕ) : Prop :=
  p.IsLegal storeId ∧
  p.data storeId.poolIndex.toNat + p.offset storeId ≤ ptr ∧
  ptr < p.data storeId.poolIndex.toNat + p.offset storeId + p.elementSizes storeId.poolIndex.toNat

instance (p : LocalPool) (storeId : StoreAddress) (ptr : ℕ) :
    Decidable (p.Contains storeId ptr) :=
  inferInstanceAs (Decidable (_ ∧ _))

/-- The live packets after a call. -/
def track (p : LocalPool) (live : List LivePacket) (op : PoolOp) (status : ReturnValue)
    (storeId : StoreAddress) : List LivePacket :=
  match status, op with
  | .ok, .addData _ data => live ++ [⟨storeId, data.length, data⟩]
  | .ok, .getFreeElement _ size data _ => live ++ [⟨storeId, size, data⟩]
  | .ok, .deleteData storeId => live.filter fun e => e.storeId ≠ storeId
  | .ok, .deletePtr ptr => live.filter fun e => ¬ p.Contains e.storeId ptr
  | .ok, .clearSubPool subpoolIndex =>
      live.filter fun e => e.storeId.poolIndex.toNat ≠ subpoolIndex.toNat
  | .ok, .clearStore => []
  | _, _ => live

/-- A call, with the live packets before and after it. -/
def step : Step (LocalPool × List LivePacket) PoolOp (ReturnValue × StoreAddress) :=
  fun (p, live) op =>
    match p.call op with
    | none => none
    | some (p', status, storeId) =>
        some ((p', p.track live op status storeId), status, storeId)

/-- The address of the first byte of a packet. -/
def address (p : LocalPool) (storeId : StoreAddress) : ℕ :=
  p.data storeId.poolIndex.toNat + p.getRawPosition storeId

/-- Every live packet is in the pool, with its size and its data, and no two of them
overlap. -/
structure Isolated (p : LocalPool) (live : List LivePacket) : Prop where
  getData_eq : ∀ e ∈ live, ∃ n position, p.getData e.storeId = (.ok, some ((n, position), e.size)) ∧
    e.data.length ≤ e.size ∧ slice (p.store n) position e.data.length = e.data
  apart : live.Pairwise fun e e' => e.storeId ≠ e'.storeId ∧
    (p.address e.storeId + e.size ≤ p.address e'.storeId ∨
      p.address e'.storeId + e'.size ≤ p.address e.storeId)

/-- The position of an element fits into 16 bits. -/
def Near (p : LocalPool) (storeId : StoreAddress) : Prop :=
  p.IsLegal storeId → p.offset storeId < 2 ^ 16

/-- The call needs no more bits than the pool has for indices and positions, and does not
clear a subpool without elements. -/
def Sound (p : LocalPool) : PoolOp → Prop
  | .deleteData storeId =>
      (storeId.poolIndex.toNat < 256 ∨ p.numberOfSubpools ≤ storeId.poolIndex.toNat % 256) ∧
      p.Near storeId
  | .deletePtr ptr => ∀ storeId, p.Contains storeId ptr → p.Near storeId
  | .clearSubPool subpoolIndex =>
      subpoolIndex.toNat < p.numberOfSubpools →
      0 < p.numberOfElements subpoolIndex.toNat ∨ p.elementSizes subpoolIndex.toNat = 0
  | _ => True

/-! ### Elements -/

theorem toNat_ne_of_ne {id id' : StoreAddress} (h : id ≠ id') :
  id.poolIndex.toNat ≠ id'.poolIndex.toNat ∨ id.packetIndex.toNat ≠ id'.packetIndex.toNat
  := by
  by_contra heq
  push Not at heq
  apply h
  cases id
  cases id'
  simp only [StoreAddress.mk.injEq]
  exact ⟨UInt16.toNat_inj.mp heq.1, UInt16.toNat_inj.mp heq.2⟩

/-- The pools differ in the element at most. -/
structure OnlyAt (p p' : LocalPool) (id : StoreAddress) : Prop where
  config_eq : p'.config = p.config
  data_eq : p'.data = p.data
  sizeLists_eq : ∀ n k, n ≠ id.poolIndex.toNat ∨ k ≠ id.packetIndex.toNat →
    p'.sizeLists n k = p.sizeLists n k
  store_eq : ∀ n i, n ≠ id.poolIndex.toNat ∨ i < p.offset id ∨
      p.offset id + p.elementSizes id.poolIndex.toNat ≤ i →
    p'.store n i = p.store n i

/-- All bytes of the element are zero. -/
def Blank (p : LocalPool) (id : StoreAddress) : Prop :=
  ∀ i, p.offset id ≤ i → i < p.offset id + p.elementSizes id.poolIndex.toNat →
    p.store id.poolIndex.toNat i = 0

/-- The live packet is in the pool. -/
structure Stored (p : LocalPool) (e : LivePacket) : Prop where
  legal : p.IsLegal e.storeId
  size_eq : p.sizeLists e.storeId.poolIndex.toNat e.storeId.packetIndex.toNat = e.size
  size_le : e.size ≤ p.elementSizes e.storeId.poolIndex.toNat
  length_le : e.data.length ≤ e.size
  data_eq : slice (p.store e.storeId.poolIndex.toNat) (p.offset e.storeId) e.data.length = e.data

theorem element_apart {k k' : ℕ} (size : ℕ) (h : k < k') :
  k * size + size ≤ k' * size
  := by
  calc k * size + size = (k + 1) * size := (Nat.succ_mul k size).symm
    _ ≤ k' * size := Nat.mul_le_mul_right size h

/-- Two elements of one subpool do not overlap. -/
theorem offset_apart (p : LocalPool) {id id' : StoreAddress}
    (hpool : id.poolIndex.toNat = id'.poolIndex.toNat) (hne : id ≠ id') :
  p.offset id + p.elementSizes id'.poolIndex.toNat ≤ p.offset id' ∨
  p.offset id' + p.elementSizes id'.poolIndex.toNat ≤ p.offset id
  := by
  simp only [offset, hpool]
  rcases Nat.lt_or_gt_of_ne ((toNat_ne_of_ne hne).resolve_left (not_not_intro hpool)) with
    hlt | hlt
  · left
    apply element_apart _ hlt
  · right
    apply element_apart _ hlt

section

variable {p p' p'' : LocalPool} {id : StoreAddress} {e : LivePacket}

theorem OnlyAt.trans (h : OnlyAt p p' id) (h' : OnlyAt p' p'' id) :
  OnlyAt p p'' id
  := by
  constructor
  · rw [h'.config_eq, h.config_eq]
  · rw [h'.data_eq, h.data_eq]
  · intro n k hnk
    rw [h'.sizeLists_eq n k hnk, h.sizeLists_eq n k hnk]
  · intro n i hni
    rw [h'.store_eq n i, h.store_eq n i hni]
    simp only [offset, elementSizes, h.config_eq] at hni ⊢
    apply hni

/-- A packet is still in the pool when neither its size nor its element is changed. -/
theorem Stored.congr (h : Stored p e) (hconfig : p'.config = p.config)
    (hsize : p'.sizeLists e.storeId.poolIndex.toNat e.storeId.packetIndex.toNat =
      p.sizeLists e.storeId.poolIndex.toNat e.storeId.packetIndex.toNat)
    (hstore : ∀ i, p.offset e.storeId ≤ i →
      i < p.offset e.storeId + p.elementSizes e.storeId.poolIndex.toNat →
      p'.store e.storeId.poolIndex.toNat i = p.store e.storeId.poolIndex.toNat i) :
  Stored p' e
  := by
  have hle := h.size_le
  have hlen := h.length_le
  constructor
  · rw [IsLegal, numberOfSubpools, numberOfElements, hconfig]
    apply h.legal
  · rw [hsize, h.size_eq]
  · rw [elementSizes, hconfig]
    apply h.size_le
  · apply h.length_le
  · rw [offset, elementSizes, hconfig]
    apply Eq.trans _ h.data_eq
    apply slice_congr
    intro i hi hi'
    apply hstore i hi
    apply Nat.lt_of_lt_of_le hi'
    change p.offset e.storeId + e.data.length ≤ _
    omega

/-- The bytes of an element are kept when only another element is changed. -/
theorem OnlyAt.store_element (hid : OnlyAt p p' id) {id' : StoreAddress} (hne : id' ≠ id)
    {i : ℕ} (hle : p.offset id' ≤ i)
    (hlt : i < p.offset id' + p.elementSizes id'.poolIndex.toNat) :
  p'.store id'.poolIndex.toNat i = p.store id'.poolIndex.toNat i
  := by
  apply hid.store_eq
  by_cases hpool : id'.poolIndex.toNat = id.poolIndex.toNat
  · right
    have hapart := p.offset_apart hpool hne
    rw [hpool] at hlt
    omega
  · left
    apply hpool

/-- A packet is still in the pool when only another element is changed. -/
theorem Stored.of_onlyAt (h : Stored p e) (hid : OnlyAt p p' id) (hne : e.storeId ≠ id) :
  Stored p' e
  := by
  apply h.congr hid.config_eq (hid.sizeLists_eq _ _ (toNat_ne_of_ne hne))
  intro i hle hlt
  apply hid.store_element hne hle hlt

theorem setSize_self (p : LocalPool) (n k : ℕ) :
  p.setSize n k (p.sizeLists n k) = p
  := by
  have hsizes : (fun m j => if m = n ∧ j = k then p.sizeLists n k else p.sizeLists m j) =
      p.sizeLists := by
    funext m j
    split_ifs with h
    · rw [h.1, h.2]
    · rfl
  rw [setSize, hsizes]

theorem onlyAt_setSize (p : LocalPool) (id : StoreAddress) (size : ℕ) :
  OnlyAt p (p.setSize id.poolIndex.toNat id.packetIndex.toNat size) id
  := by
  constructor
  · rfl
  · rfl
  · intro n k hnk
    rw [setSize]
    simp only
    rw [if_neg (by omega)]
  · intro n i _
    rfl

/-- Only the element is changed when its block is changed there only. -/
theorem onlyAt_store {m : ℕ → UInt8}
    (hm : ∀ i, i < p.offset id ∨ p.offset id + p.elementSizes id.poolIndex.toNat ≤ i →
      m i = p.store id.poolIndex.toNat i) :
  OnlyAt p { p with store := fun n => if n = id.poolIndex.toNat then m else p.store n } id
  := by
  constructor
  · rfl
  · rfl
  · intro n k _
    rfl
  · intro n i hni
    simp only
    split_ifs with hn
    · rw [hm i (hni.resolve_left (not_not_intro hn)), hn]
    · rfl

/-! ### Access to one element -/

/-- The blocks are as long as the configuration means them to be, and no element is so long
that its size could be that of a free one. -/
structure Fits (p : LocalPool) : Prop where
  block_lt : ∀ n, n < p.numberOfSubpools → p.numberOfElements n * p.elementSizes n < 2 ^ 64
  size_lt : ∀ n, n < p.numberOfSubpools → p.elementSizes n < storageFree

theorem Fits.congr (h : Fits p) (hconfig : p'.config = p.config) :
  Fits p'
  := by
  constructor
  · intro n
    rw [numberOfSubpools, numberOfElements, elementSizes, hconfig]
    apply h.block_lt
  · intro n
    rw [numberOfSubpools, elementSizes, hconfig]
    apply h.size_lt

theorem Fits.storeLen_eq (h : Fits p) {n : ℕ} (hn : n < p.numberOfSubpools) :
  p.storeLen n = p.numberOfElements n * p.elementSizes n
  := by
  apply Nat.mod_eq_of_lt (h.block_lt n hn)

/-- An element lies in its block. -/
theorem Fits.offset_add_le (h : Fits p) (hlegal : p.IsLegal id) :
  p.offset id + p.elementSizes id.poolIndex.toNat ≤ p.storeLen id.poolIndex.toNat
  := by
  rw [h.storeLen_eq hlegal.1]
  apply element_apart _ hlegal.2

theorem Fits.getRawPosition_eq (h : Fits p) (hlegal : p.IsLegal id) :
  p.getRawPosition id = p.offset id
  := by
  have hle := h.offset_add_le hlegal
  have hlt := h.block_lt _ hlegal.1
  rw [h.storeLen_eq hlegal.1] at hle
  apply Nat.mod_eq_of_lt
  change p.offset id < 2 ^ 64
  omega

/-- Two elements do not overlap. -/
theorem Fits.elements_apart (h : Fits p) {id' : StoreAddress} (hlegal : p.IsLegal id)
    (hlegal' : p.IsLegal id') (hne : id ≠ id') :
  p.data id.poolIndex.toNat + p.offset id + p.elementSizes id.poolIndex.toNat
    ≤ p.data id'.poolIndex.toNat + p.offset id' ∨
  p.data id'.poolIndex.toNat + p.offset id' + p.elementSizes id'.poolIndex.toNat
    ≤ p.data id.poolIndex.toNat + p.offset id
  := by
  have hend := h.offset_add_le hlegal
  have hend' := h.offset_add_le hlegal'
  by_cases hpool : id.poolIndex.toNat = id'.poolIndex.toNat
  · -- Both are elements of one subpool.
    have hapart := p.offset_apart hpool hne
    rw [hpool]
    omega
  · -- The blocks of the two subpools do not meet.
    rw [storeLen] at hend hend'
    rcases Nat.lt_or_gt_of_ne hpool with hlt | hlt
    · rcases p.disjoint _ _ hlt hlegal'.1 with hblock | hblock <;> omega
    · rcases p.disjoint _ _ hlt hlegal.1 with hblock | hblock <;> omega

/-- Data that is no longer than an element is copied to it. -/
theorem memcpy_element (h : Fits p) (hlegal : p.IsLegal id) {bytes : List UInt8}
    (hlen : bytes.length ≤ p.elementSizes id.poolIndex.toNat) :
  ∃ p', p.memcpy id.poolIndex.toNat (p.getRawPosition id) bytes = some p' ∧ OnlyAt p p' id ∧
    p'.sizeLists = p.sizeLists ∧
    slice (p'.store id.poolIndex.toNat) (p'.offset id) bytes.length = bytes
  := by
  have hle := h.offset_add_le hlegal
  rw [h.getRawPosition_eq hlegal, memcpy, if_pos (by omega)]
  refine ⟨_, rfl, onlyAt_store ?_, rfl, ?_⟩
  · rintro i (hlt | hge)
    · apply overwrite_of_lt hlt
    · apply overwrite_of_ge
      omega
  · simp only [if_true]
    apply slice_overwrite_self

/-- An element is set to zero. -/
theorem memset_element (h : Fits p) (hlegal : p.IsLegal id) :
  ∃ p', p.memset id.poolIndex.toNat (p.offset id) (p.elementSizes id.poolIndex.toNat) = some p' ∧
    OnlyAt p p' id ∧ p'.Blank id
  := by
  rw [memset, if_pos (h.offset_add_le hlegal)]
  refine ⟨_, rfl, onlyAt_store ?_, ?_⟩
  · intro i hi
    apply fill_of_outside hi
  · intro i hle hlt
    simp only [if_true]
    exact if_pos ⟨hle, hlt⟩

/-- Deleting a packet changes its element only, unless the address is illegal. -/
theorem deleteData_cases (h : Fits p) (hpool : id.poolIndex.toNat < 256 ∨
    p.numberOfSubpools ≤ id.poolIndex.toNat % 256) (hnear : p.Near id) :
  (∃ p', p.deleteData id = some (.ok, p') ∧ OnlyAt p p' id ∧ p'.Blank id) ∨
  p.deleteData id = some (StorageManagerIF.illegalStorageId, p)
  := by
  have hsize : p.getSubpoolElementSize id.poolIndex.toUInt8 =
      if id.poolIndex.toNat < p.numberOfSubpools then p.elementSizes id.poolIndex.toNat else 0 := by
    have hlt := p.numberOfSubpools_lt
    rw [← numberOfSubpools] at hlt
    rw [getSubpoolElementSize, UInt16.toNat_toUInt8]
    rcases hpool with hpool | hpool
    · rw [Nat.mod_eq_of_lt hpool]
    · rw [if_neg (by omega), if_neg (by omega)]
  by_cases hn : id.poolIndex.toNat < p.numberOfSubpools
  · simp only [deleteData, hsize, if_pos hn, if_neg (Nat.not_le.mpr hn)]
    by_cases hzero : p.elementSizes id.poolIndex.toNat ≠ 0
    · by_cases hk : id.packetIndex.toNat < p.numberOfElements id.poolIndex.toNat
      · left
        obtain ⟨p', hp', hid, hblank⟩ := memset_element h ⟨hn, hk⟩
        rw [if_pos hzero, if_pos hk, h.getRawPosition_eq ⟨hn, hk⟩,
          Nat.mod_eq_of_lt (hnear ⟨hn, hk⟩), hp']
        exact ⟨_, rfl, hid.trans (onlyAt_setSize p' id storageFree), hblank⟩
      · right
        rw [if_pos hzero, if_neg hk]
    · right
      rw [if_neg hzero]
  · right
    simp only [deleteData, hsize, if_neg hn]
    rfl

theorem modifyData_ok_iff :
  (p.modifyData id).1 = .ok
    ↔ p.IsLegal id ∧ p.sizeLists id.poolIndex.toNat id.packetIndex.toNat ≠ storageFree
  := by
  rw [modifyData, IsLegal]
  split_ifs with hpool hpacket hfree
  · exact iff_of_false not_false (by omega)
  · exact iff_of_false not_false (by omega)
  · exact iff_of_true rfl ⟨⟨by omega, by omega⟩, hfree⟩
  · exact iff_of_false not_false (by tauto)

/-- Deleting a packet of an element that is not empty frees this element and no other one. -/
theorem deleteData_ok (h : Fits p) (hlegal : p.IsLegal id)
    (hsize : p.elementSizes id.poolIndex.toNat ≠ 0) :
  ∃ p', p.deleteData id = some (.ok, p') ∧ p'.config = p.config ∧
    ∀ id', (p'.modifyData id').1 = .ok ↔ id' ≠ id ∧ (p.modifyData id').1 = .ok
  := by
  have hlt : id.poolIndex.toNat < 256 := Nat.lt_trans hlegal.1 p.numberOfSubpools_lt
  have hpage : p.getSubpoolElementSize id.poolIndex.toUInt8
      = p.elementSizes id.poolIndex.toNat := by
    rw [getSubpoolElementSize, UInt16.toNat_toUInt8, Nat.mod_eq_of_lt hlt, if_pos hlegal.1]
  have hroom : p.getRawPosition id % 2 ^ 16 + p.elementSizes id.poolIndex.toNat
      ≤ p.storeLen id.poolIndex.toNat := by
    have hle := h.offset_add_le hlegal
    have hmod := Nat.mod_le (p.getRawPosition id) (2 ^ 16)
    rw [h.getRawPosition_eq hlegal] at hmod ⊢
    omega
  simp only [deleteData, hpage, if_pos hsize, if_neg (Nat.not_le.mpr hlegal.1),
    if_pos hlegal.2, memset, if_pos hroom]
  refine ⟨_, rfl, rfl, ?_⟩
  intro id'
  rw [modifyData_ok_iff, modifyData_ok_iff]
  simp only [setSize]
  by_cases heq : id' = id
  · simp [heq]
  · have hne := toNat_ne_of_ne heq
    rw [if_neg (by omega)]
    simp only [heq, ne_eq, not_false_eq_true, true_and]
    rfl

/-- The distance of an address may be shortened to 32 bits when its element lies in the first
`2 ^ 16` bytes: an element that reaches further is the first one. -/
theorem mod_div_eq {distance size : ℕ} (hsize : 0 < size)
    (h : distance / size * size < 2 ^ 16) :
  distance % 2 ^ 32 / size = distance / size
  := by
  by_cases hlt : distance < 2 ^ 32
  · rw [Nat.mod_eq_of_lt hlt]
  · have hend := Nat.lt_div_mul_add hsize (a := distance)
    have hfirst : distance / size = 0 := by
      by_contra hne
      have hle := Nat.le_mul_of_pos_left size (Nat.pos_of_ne_zero hne)
      omega
    rw [hfirst, Nat.zero_mul, Nat.zero_add] at hend
    rw [hfirst]
    apply Nat.div_eq_of_lt (Nat.lt_of_le_of_lt (Nat.mod_le _ _) hend)

/-- The address of a byte of an element names this element, and other addresses are refused. -/
theorem Fits.deletePtr_eq (h : Fits p) {ptr : ℕ} (hnear : ∀ id, p.Contains id ptr → p.Near id) :
  (∃ id, p.Contains id ptr ∧
    p.deletePtr ptr = (p.deleteData id).map fun (result, p') => (result, id, p')) ∨
  (∀ id, ¬ p.Contains id ptr) ∧
    p.deletePtr ptr = some (StorageManagerIF.illegalAddress, StoreAddress.invalid, p)
  := by
  rw [deletePtr]
  split
  · rename_i hfind
    right
    refine ⟨?_, rfl⟩
    intro id hcontains
    have hend := h.offset_add_le hcontains.1
    have hblock := List.find?_eq_none.mp hfind _ (List.mem_range.mpr hcontains.1.1)
    obtain ⟨-, hstart, hlt⟩ := hcontains
    apply hblock
    rw [decide_eq_true_eq]
    omega
  · rename_i n hfind
    left
    have hn := List.mem_range.mp (List.mem_of_find?_eq_some hfind)
    have hptr := List.find?_some hfind
    simp only [decide_eq_true_eq, h.storeLen_eq hn] at hptr
    have hzero : 0 < p.elementSizes n := by
      apply Nat.pos_of_ne_zero
      intro hzero
      rw [hzero] at hptr
      omega
    obtain ⟨k, hk⟩ : ∃ k, k = (ptr - p.data n) / p.elementSizes n := ⟨_, rfl⟩
    have hklt : k < p.numberOfElements n := by
      rw [hk]
      apply Nat.div_lt_of_lt_mul
      rw [Nat.mul_comm]
      omega
    have hpool := toNat_ofNat_subpool hn
    have hpacket := toNat_ofNat_element hklt
    have hcontains : p.Contains ⟨.ofNat n, .ofNat k⟩ ptr := by
      have hstart := Nat.div_mul_le_self (ptr - p.data n) (p.elementSizes n)
      have hend := Nat.lt_div_mul_add hzero (a := ptr - p.data n)
      rw [← hk] at hstart hend
      simp only [Contains, IsLegal, offset, hpool, hpacket]
      refine ⟨⟨hn, hklt⟩, ?_, ?_⟩
      · omega
      · omega
    have hoffset := hnear _ hcontains hcontains.1
    simp only [offset, hpool, hpacket] at hoffset
    have hdelta : (ptr - p.data n) % 2 ^ 32 / p.elementSizes n = k := by
      rw [hk] at hoffset ⊢
      apply mod_div_eq hzero hoffset
    refine ⟨_, hcontains, ?_⟩
    simp only [hdelta]
    cases p.deleteData ⟨.ofNat n, .ofNat k⟩ with
    | none => rfl
    | some result => rfl

/-- Deleting a packet by an address changes the element there only. -/
theorem deletePtr_cases (h : Fits p) {ptr : ℕ}
    (hnear : ∀ id, p.Contains id ptr → p.Near id) :
  (∃ id p', p.deletePtr ptr = some (.ok, id, p') ∧ p.Contains id ptr ∧ OnlyAt p p' id ∧
    p'.Blank id) ∨
  ∃ status id, status ≠ .ok ∧ p.deletePtr ptr = some (status, id, p)
  := by
  rcases h.deletePtr_eq hnear with ⟨id, hcontains, hdelete⟩ | ⟨-, hdelete⟩
  · have hlt : id.poolIndex.toNat < 256 :=
      Nat.lt_trans hcontains.1.1 p.numberOfSubpools_lt
    rcases deleteData_cases h (Or.inl hlt) (hnear id hcontains) with
      ⟨p', hp', hid, hblank⟩ | hp'
    · left
      rw [hdelete, hp']
      exact ⟨id, p', rfl, hcontains, hid, hblank⟩
    · right
      rw [hdelete, hp']
      exact ⟨_, id, ReturnValue.noConfusion, rfl⟩
  · right
    exact ⟨_, _, ReturnValue.noConfusion, hdelete⟩

/-- Data is put into a free element: the element is reserved, and the data written into it. -/
structure PutInto (p p' : LocalPool) (id : StoreAddress) (size : ℕ) (data : List UInt8) :
    Prop where
  room : p.IsRoom size id
  onlyAt : OnlyAt p p' id
  size_eq : p'.sizeLists id.poolIndex.toNat id.packetIndex.toNat = size
  data_eq : slice (p'.store id.poolIndex.toNat) (p'.offset id) data.length = data

/-- A reservation, and the data written into it. -/
theorem putInto_element (h : Fits p) {size : ℕ} {data : List UInt8} (hroom : p.IsRoom size id)
    (hlen : data.length ≤ size) :
  let reserved := p.setSize id.poolIndex.toNat id.packetIndex.toNat size
  ∃ p', reserved.memcpy id.poolIndex.toNat (reserved.getRawPosition id) data = some p' ∧
    PutInto p p' id size data
  := by
  intro reserved
  have hreserved : OnlyAt p reserved id := onlyAt_setSize p id size
  have hle : data.length ≤ reserved.elementSizes id.poolIndex.toNat :=
    Nat.le_trans hlen hroom.size_le
  obtain ⟨p', hp', honly, hsizes, hdata⟩ :=
    memcpy_element (h.congr hreserved.config_eq) (show reserved.IsLegal id from hroom.legal) hle
  use p', hp'
  constructor
  · apply hroom
  · apply hreserved.trans honly
  · rw [hsizes]
    simp [reserved, setSize]
  · apply hdata

/-- A packet that is added is put into a free element, unless it is refused. -/
theorem call_addData (h : Fits p) (storeId : StoreAddress) (data : List UInt8) :
  (∃ id p', p.call (.addData storeId data) = some (p', .ok, id) ∧
    PutInto p p' id data.length data) ∨
  ∃ status id reporter, status ≠ .ok ∧ p.call (.addData storeId data) =
    some ({ p with internalErrorReporter := reporter }, status, id)
  := by
  rcases reserveSpace_cases p data.length storeId with
    ⟨id, hroom, hreserve⟩ | ⟨status, id, reporter, hstatus, hreserve⟩
  · left
    obtain ⟨p', hp', hput⟩ := putInto_element h hroom (Nat.le_refl data.length)
    have hwrite : p'.setSize id.poolIndex.toNat id.packetIndex.toNat data.length = p' := by
      conv_rhs => rw [← setSize_self p' id.poolIndex.toNat id.packetIndex.toNat, hput.size_eq]
    refine ⟨id, p', ?_, hput⟩
    simp only [call, addData, hreserve, write, hp', hwrite]
  · right
    refine ⟨status, id, reporter, hstatus, ?_⟩
    cases status with
    | ok => contradiction
    | failed => simp only [call, addData, hreserve]
    | makeCode classId number => simp only [call, addData, hreserve]

/-- Data that is written into an element just given out is put into a free element, unless
none is given out. -/
theorem call_getFreeElement (h : Fits p) (storeId : StoreAddress) {size : ℕ}
    {data : List UInt8} (hlen : data.length ≤ size) :
  (∃ id p', p.call (.getFreeElement storeId size data hlen) = some (p', .ok, id) ∧
    PutInto p p' id size data) ∨
  ∃ status id reporter, status ≠ .ok ∧ p.call (.getFreeElement storeId size data hlen) =
    some ({ p with internalErrorReporter := reporter }, status, id)
  := by
  rcases getFreeElement_cases p storeId size with
    ⟨id, hroom, hget⟩ | ⟨status, id, reporter, hstatus, hget⟩
  · left
    obtain ⟨p', hp', hput⟩ := putInto_element h hroom hlen
    refine ⟨id, p', ?_, hput⟩
    have hmemcpy : (p.setSize id.poolIndex.toNat id.packetIndex.toNat size).memcpy
        id.poolIndex.toNat (p.getRawPosition id) data = some p' := hp'
    simp only [call, hget, hmemcpy]
  · right
    refine ⟨status, id, reporter, hstatus, ?_⟩
    simp only [call, hget]

/-! ### The calls on the live packets -/

/-- Every live packet is in the pool, at an address of its own. -/
structure Inv (p : LocalPool) (live : List LivePacket) : Prop where
  fits : Fits p
  stored : ∀ e ∈ live, Stored p e
  distinct : live.Pairwise fun e e' => e.storeId ≠ e'.storeId

/-- A packet is put into a free element. -/
theorem Inv.put {live : List LivePacket} (h : Inv p live) {size : ℕ} {data : List UInt8}
    (hput : PutInto p p' id size data) (hlen : data.length ≤ size) :
  Inv p' (live ++ [⟨id, size, data⟩])
  := by
  have hid := hput.onlyAt
  have hfresh : ∀ e ∈ live, e.storeId ≠ id := by
    rintro e he rfl
    have hsize := (h.stored e he).size_le
    have hlt := h.fits.size_lt _ (h.stored e he).legal.1
    rw [← (h.stored e he).size_eq, hput.room.free] at hsize
    omega
  have hstored : Stored p' ⟨id, size, data⟩ := by
    constructor
    · rw [IsLegal, numberOfSubpools, numberOfElements, hid.config_eq]
      apply hput.room.legal
    · apply hput.size_eq
    · rw [elementSizes, hid.config_eq]
      apply hput.room.size_le
    · apply hlen
    · apply hput.data_eq
  constructor
  · apply h.fits.congr hid.config_eq
  · intro e he
    rcases List.mem_append.mp he with he | he
    · apply (h.stored e he).of_onlyAt hid (hfresh e he)
    · rw [List.mem_singleton.mp he]
      apply hstored
  · rw [List.pairwise_append]
    refine ⟨h.distinct, List.pairwise_singleton _ _, ?_⟩
    intro e₁ he₁ e₂ he₂
    rw [List.mem_singleton.mp he₂]
    apply hfresh e₁ he₁

/-- Packets are removed, and no other packet is changed. -/
theorem Inv.filter {live : List LivePacket} (h : Inv p live) (keep : LivePacket → Bool)
    (hfits : Fits p') (hstored : ∀ e ∈ live, keep e = true → Stored p' e) :
  Inv p' (live.filter keep)
  := by
  constructor
  · apply hfits
  · intro e he
    obtain ⟨hmem, hkeep⟩ := List.mem_filter.mp he
    apply hstored e hmem hkeep
  · apply h.distinct.filter

/-- The reporter plays no part in what the pool holds. -/
theorem Inv.withReporter {live : List LivePacket} (h : Inv p live) (reporter : Option ℕ) :
  Inv { p with internalErrorReporter := reporter } live
  := by
  constructor
  · exact h.fits.congr rfl
  · intro e he
    exact (h.stored e he).congr rfl rfl fun i _ _ => rfl
  · apply h.distinct

/-- Clearing a subpool changes that subpool only, and sets its first element to zero. -/
theorem clearSubPool_eq (h : Fits p) {subpoolIndex : UInt8}
    (hsound : p.Sound (.clearSubPool subpoolIndex)) :
  ∃ p', p.clearSubPool subpoolIndex = some p' ∧ p'.config = p.config ∧
    (∀ n, n ≠ subpoolIndex.toNat → p'.sizeLists n = p.sizeLists n ∧ p'.store n = p.store n) ∧
    (subpoolIndex.toNat < p.numberOfSubpools → p'.store subpoolIndex.toNat =
      fill (p.store subpoolIndex.toNat) 0 (p.elementSizes subpoolIndex.toNat) 0)
  := by
  by_cases hn : subpoolIndex.toNat < p.numberOfSubpools
  · have hle : 0 + p.elementSizes subpoolIndex.toNat ≤ p.storeLen subpoolIndex.toNat := by
      rw [h.storeLen_eq hn, Nat.zero_add]
      rcases hsound hn with hpos | hzero
      · apply Nat.le_mul_of_pos_left _ hpos
      · rw [hzero]
        apply Nat.zero_le
    rw [clearSubPool, if_neg (Nat.not_le.mpr hn)]
    refine ⟨_, if_pos hle, rfl, ?_, ?_⟩
    · intro n hne
      simp only [if_neg hne, and_self]
    · intro _
      simp only [if_true]
  · rw [clearSubPool, if_pos (Nat.not_lt.mp hn)]
    exact ⟨p, rfl, rfl, fun n _ => ⟨rfl, rfl⟩, fun hlt => absurd hlt hn⟩

theorem track_of_ne (live : List LivePacket) (op : PoolOp) {status : ReturnValue}
    (h : status ≠ .ok) (storeId : StoreAddress) :
  p.track live op status storeId = live
  := by
  cases status with
  | ok => contradiction
  | failed => rfl
  | makeCode classId number => rfl

/-- A call is defined and keeps the live packets. -/
theorem Inv.call {live : List LivePacket} (h : Inv p live) {op : PoolOp} (hsound : p.Sound op) :
  ∃ p' status storeId, p.call op = some (p', status, storeId) ∧
    Inv p' (p.track live op status storeId)
  := by
  cases op with
  | addData storeId data =>
      rcases call_addData h.fits storeId data with
        ⟨id, p', hcall, hput⟩ | ⟨status, id, reporter, hstatus, hcall⟩
      · exact ⟨p', .ok, id, hcall, h.put hput (Nat.le_refl _)⟩
      · refine ⟨_, status, id, hcall, ?_⟩
        rw [track_of_ne live _ hstatus]
        apply h.withReporter
  | getFreeElement storeId size data hlen =>
      rcases call_getFreeElement h.fits storeId hlen with
        ⟨id, p', hcall, hput⟩ | ⟨status, id, reporter, hstatus, hcall⟩
      · exact ⟨p', .ok, id, hcall, h.put hput hlen⟩
      · refine ⟨_, status, id, hcall, ?_⟩
        rw [track_of_ne live _ hstatus]
        apply h.withReporter
  | deleteData storeId =>
      rcases deleteData_cases h.fits hsound.1 hsound.2 with ⟨p', hdelete, hid, -⟩ | hdelete
      · refine ⟨p', .ok, storeId, ?_, ?_⟩
        · simp only [LocalPool.call, hdelete]
        · apply h.filter _ (h.fits.congr hid.config_eq)
          intro e he hkeep
          apply (h.stored e he).of_onlyAt hid (of_decide_eq_true hkeep)
      · refine ⟨p, StorageManagerIF.illegalStorageId, storeId, ?_, h⟩
        simp only [LocalPool.call, hdelete]
  | deletePtr ptr =>
      rcases deletePtr_cases h.fits hsound with
        ⟨id, p', hdelete, hcontains, hid, -⟩ | ⟨status, id, hstatus, hdelete⟩
      · refine ⟨p', .ok, id, ?_, ?_⟩
        · simp only [LocalPool.call, hdelete]
        · apply h.filter _ (h.fits.congr hid.config_eq)
          intro e he hkeep
          apply (h.stored e he).of_onlyAt hid
          rintro rfl
          apply of_decide_eq_true hkeep hcontains
      · refine ⟨p, status, id, ?_, ?_⟩
        · simp only [LocalPool.call, hdelete]
        · rw [track_of_ne live _ hstatus]
          apply h
  | clearSubPool subpoolIndex =>
      obtain ⟨p', hclear, hconfig, hother, -⟩ := clearSubPool_eq h.fits hsound
      refine ⟨p', .ok, StoreAddress.invalid, ?_, ?_⟩
      · simp only [LocalPool.call, hclear]
      · apply h.filter _ (h.fits.congr hconfig)
        · intro e he hkeep
          obtain ⟨hsizes, hstore⟩ := hother _ (of_decide_eq_true hkeep)
          apply (h.stored e he).congr hconfig
          · rw [hsizes]
          · intro i _ _
            rw [hstore]
  | clearStore =>
      refine ⟨_, .ok, StoreAddress.invalid, rfl, ?_⟩
      constructor
      · exact h.fits.congr rfl
      · intro e he
        cases he
      · apply List.Pairwise.nil

/-! ### Runs -/

/-- Two packets at different addresses do not overlap. -/
theorem Stored.apart {e' : LivePacket} (hfits : Fits p) (h : Stored p e) (h' : Stored p e')
    (hne : e.storeId ≠ e'.storeId) :
  p.address e.storeId + e.size ≤ p.address e'.storeId ∨
  p.address e'.storeId + e'.size ≤ p.address e.storeId
  := by
  have hsize := h.size_le
  have hsize' := h'.size_le
  rw [address, address, hfits.getRawPosition_eq h.legal, hfits.getRawPosition_eq h'.legal]
  rcases hfits.elements_apart h.legal h'.legal hne with hapart | hapart
  · left
    omega
  · right
    omega

/-- Live packets that are in the pool at addresses of their own do not overlap. -/
theorem Inv.isolated {live : List LivePacket} (h : Inv p live) :
  Isolated p live
  := by
  constructor
  · intro e he
    have hstored := h.stored e he
    have hsize := h.fits.size_lt _ hstored.legal.1
    have hle := hstored.size_le
    refine ⟨e.storeId.poolIndex.toNat, p.getRawPosition e.storeId, ?_, hstored.length_le, ?_⟩
    · rw [getData, modifyData, if_neg (Nat.not_le.mpr hstored.legal.1),
        if_neg (Nat.not_le.mpr hstored.legal.2), hstored.size_eq, if_pos (by omega)]
    · rw [h.fits.getRawPosition_eq hstored.legal, hstored.data_eq]
  · apply h.distinct.imp_of_mem
    intro e e' he he' hne
    use hne
    apply Stored.apart h.fits (h.stored e he) (h.stored e' he') hne

theorem inv_step (s : LocalPool × List LivePacket) (op : PoolOp) (h : Inv s.1 s.2)
    (hsound : s.1.Sound op) :
  ∃ s' result, step s op = some (s', result) ∧ Inv s'.1 s'.2
  := by
  obtain ⟨p', status, storeId, hcall, hinv⟩ := h.call hsound
  use (p', s.1.track s.2 op status storeId), (status, storeId)
  constructor
  · simp only [step, hcall]
  · apply hinv

/-- A pool that is accepted has no elements that are too large. -/
theorem initializePool_ok {reporter : Option ℕ} (h : p.initializePool reporter = (.ok, p')) :
  p' = { p with internalErrorReporter := reporter } ∧
  ∀ n, n < p.numberOfSubpools → p.elementSizes n < storageFree
  := by
  simp only [initializePool] at h
  split_ifs at h with hreporter hany
  · cases h
  · cases h
  · cases h
    use rfl
    intro n hn
    rw [Bool.not_eq_true, List.any_eq_false] at hany
    have hnot := hany n (List.mem_range.mpr hn)
    rw [decide_eq_true_eq] at hnot
    apply Nat.lt_of_not_le hnot

/-- A new pool that is accepted fits, when its blocks are as long as they should be. -/
theorem fits_of_initializePool {config : LocalPoolConfig} {data : ℕ → ℕ} {spills : Bool}
    {hlt : config.numberOfSubpools < 256}
    {hdisjoint : ∀ m n, m < n → n < config.numberOfSubpools →
      data m + config.storeLen m ≤ data n ∨ data n + config.storeLen n ≤ data m}
    {reporter : Option ℕ} {p : LocalPool}
    (hinit : (new config data spills hlt hdisjoint).initializePool reporter = (.ok, p))
    (hblock : ∀ n, n < config.numberOfSubpools →
      config.numberOfElements n * config.elementSizes n < 2 ^ 64) :
  Fits p
  := by
  obtain ⟨hp, hsize⟩ := initializePool_ok hinit
  have hconfig : p.config = config := by rw [hp]; rfl
  constructor
  · rw [numberOfSubpools, hconfig]
    simp only [numberOfElements, elementSizes, hconfig]
    apply hblock
  · rw [numberOfSubpools, hconfig]
    simp only [elementSizes, hconfig]
    apply hsize

/-- Every live packet stays in the pool, with its size and its data, and no two of them
overlap, in every run of sound calls on a pool whose blocks are as long as they should be. -/
theorem isolated_of_sound {config : LocalPoolConfig} {data : ℕ → ℕ} {spills : Bool}
    {hlt : config.numberOfSubpools < 256}
    {hdisjoint : ∀ m n, m < n → n < config.numberOfSubpools →
      data m + config.storeLen m ≤ data n ∨ data n + config.storeLen n ≤ data m}
    {reporter : Option ℕ} {p : LocalPool}
    (hinit : (new config data spills hlt hdisjoint).initializePool reporter = (.ok, p))
    (hblock : ∀ n, n < config.numberOfSubpools →
      config.numberOfElements n * config.elementSizes n < 2 ^ 64)
    {ops : List PoolOp} (hsound : step.Along (fun s op => s.1.Sound op) (p, []) ops) :
  ∃ s results, step.run (p, []) ops = some (s, results) ∧ Isolated s.1 s.2
  := by
  have hinv : Inv p [] := by
    constructor
    · apply fits_of_initializePool hinit hblock
    · intro e he
      cases he
    · apply List.Pairwise.nil
  obtain ⟨s, results, hrun, hs⟩ :=
    Step.run_invariant (I := fun s => Inv s.1 s.2) inv_step hinv hsound
  exact ⟨s, results, hrun, hs.isolated⟩

end

/-- The pool with a single subpool, at the address 0. -/
def single (pair : LocalPoolCfgPair) : LocalPool :=
  new ⟨[pair], List.pairwise_singleton _ _⟩ (fun _ => 0) false
    (show 1 < 256 by decide) (fun m n hm hn => by
      change n < 1 at hn
      omega)

/-- Two packets in elements of four bytes, of which one is deleted. -/
theorem isolated_of_sound_four :
  ∃ p s results, (single ⟨2, 4, by decide, by decide⟩).initializePool (some 0) = (.ok, p) ∧
    step.run (p, []) [.addData StoreAddress.invalid [1, 2],
      .addData StoreAddress.invalid [3, 4, 5, 6], .deleteData ⟨0, 1⟩] = some (s, results) ∧
    Isolated s.1 s.2
  := by
  have hinit : (single ⟨2, 4, by decide, by decide⟩).initializePool (some 0) = (.ok, _) := rfl
  have hblock : ∀ n, n < 1 → (single ⟨2, 4, by decide, by decide⟩).config.numberOfElements n *
      (single ⟨2, 4, by decide, by decide⟩).config.elementSizes n < 2 ^ 64 := by
    decide
  obtain ⟨s, results, hrun, hisolated⟩ := isolated_of_sound hinit hblock
    (show step.Along _ _ [.addData StoreAddress.invalid [1, 2],
        .addData StoreAddress.invalid [3, 4, 5, 6], .deleteData ⟨0, 1⟩] from by
      refine ⟨trivial, fun s₁ o₁ h₁ => ⟨trivial, fun s₂ o₂ h₂ => ⟨⟨?_, ?_⟩, fun _ _ _ => trivial⟩⟩⟩
      · left
        decide
      · cases h₁
        cases h₂
        intro _
        decide)
  exact ⟨_, s, results, hinit, hrun, hisolated⟩

/-- Deleting the second of two packets in elements of `2 ^ 16` bytes destroys the first one. -/
theorem not_isolated_large :
  ∃ p s results, (single ⟨2, 65536, by decide, by decide⟩).initializePool (some 0) = (.ok, p) ∧
    step.run (p, []) [.addData StoreAddress.invalid [1], .addData StoreAddress.invalid [2],
      .deleteData ⟨0, 1⟩] = some (s, results) ∧ ¬ Isolated s.1 s.2
  := by
  refine ⟨_, _, _, rfl, rfl, ?_⟩
  intro h
  obtain ⟨n, position, hget, -, hslice⟩ :=
    h.getData_eq ⟨⟨0, 0⟩, 1, [1]⟩ (List.mem_cons_self)
  cases hget
  revert hslice
  decide

end LocalPool
