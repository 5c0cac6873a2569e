import Fsfw.StorageManager.FirstFit
import Fsfw.StorageManager.PoolIsolation

/-!
# Requests that a local pool refuses

A reservation that finds no element should leave the pool and the address of the caller as
they were, and tell a packet that is too large for every subpool from a pool that is full
(`RefusesCleanly`).  The address is where the search keeps the index of the subpool it looks
at, so this is so only for a packet that is too large for every subpool, or when the address
has the index of the one subpool that was looked at (`refusesCleanly_iff`).

An address that names no element should be refused by all operations that are given one
(`UniformAt`).  Deleting a packet looks at the lower byte of the index of the subpool only
(`uniformAt_iff`).
-/

open Memory

namespace LocalPool

variable {p : LocalPool}

/-! ### Reservations -/

/-- A call that is refused leaves the pool and the address of the caller as they were.  The
count of the internal error reporter is not part of the pool. -/
structure RefusesCleanly (p : LocalPool) (size : ℕ) (storeId : StoreAddress)
    (result : ReturnValue × StoreAddress × LocalPool) : Prop where
  storeId_eq : result.1 ≠ .ok → result.2.1 = storeId
  pool_eq : result.1 ≠ .ok →
    result.2.2 = { p with internalErrorReporter := result.2.2.internalErrorReporter }
  tooLarge_iff : result.1 = StorageManagerIF.dataTooLarge ↔
    ∀ n, n < p.numberOfSubpools → p.elementSizes n < size
  code : result.1 ≠ .ok → result.1 ≠ StorageManagerIF.dataTooLarge →
    result.1 = StorageManagerIF.dataStorageFull

theorem RefusesCleanly.of_ok {size : ℕ} {storeId : StoreAddress}
    {result : StoreAddress × LocalPool} {n : ℕ} (hn : p.IsFirstFitting size n) :
  p.RefusesCleanly size storeId (.ok, result)
  where
  storeId_eq h := absurd rfl h
  pool_eq h := absurd rfl h
  tooLarge_iff := by
    constructor
    · intro h
      cases h
    · intro h
      have hsmall := h n hn.lt
      have hfits := hn.size_le
      omega
  code h := absurd rfl h

/-- The search of a pool that spills fails with the code of a packet that is too large. -/
theorem spill_fst {size n rounds : ℕ} (packetIndex : UInt16) (hn : n < p.numberOfSubpools)
    (hrounds : p.numberOfSubpools ≤ n + rounds)
    (h : (p.spill size rounds ⟨.ofNat n, packetIndex⟩).1 ≠ .ok) :
  (p.spill size rounds ⟨.ofNat n, packetIndex⟩).1 = StorageManagerIF.dataTooLarge
  := by
  induction rounds generalizing n with
  | zero =>
      omega
  | succ rounds ih =>
      rw [spill] at h ⊢
      simp only [toNat_ofNat_subpool hn] at h ⊢
      cases hindex : p.getSubPoolIndex size (n + 1) with
      | none =>
          rfl
      | some n' =>
          obtain ⟨hstart, hn', -⟩ := getSubPoolIndex_some hindex
          simp only [hindex] at h ⊢
          cases hempty : p.findEmpty n' with
          | some k =>
              simp [hempty] at h
          | none =>
              simp only [hempty] at h ⊢
              apply ih hn' (by omega) h

/-- There is room for a packet in one of the subpools that it may go to. -/
def HasRoom (p : LocalPool) (size : ℕ) : Prop :=
  ∃ n, p.IsCandidate size n ∧ ∃ k, p.IsFree n k

/-- The subpool that a refused reservation leaves in the address, when the pool does not
spill. -/
theorem findSpace_of_not_spills {size n : ℕ} (hspills : p.spillsToHigherPools = false)
    (hn : p.IsFirstFitting size n) (hroom : ¬ p.HasRoom size) (packetIndex : UInt16) :
  p.findSpace size n packetIndex = (StorageManagerIF.dataStorageFull, ⟨.ofNat n, packetIndex⟩)
  := by
  have hempty : p.findEmpty n = none := by
    rcases hempty : p.findEmpty n with _ | k
    · rfl
    · exfalso
      apply hroom
      use n, (isCandidate_iff hn).mpr (by rw [hspills]; rfl), k
      apply (findEmpty_eq_some hempty).1
  rw [findSpace, hempty, hspills]
  rfl

/-- The code of a refused reservation, when the pool spills. -/
theorem findSpace_of_spills {size n : ℕ} (hspills : p.spillsToHigherPools = true)
    (hn : p.IsFirstFitting size n) (packetIndex : UInt16)
    (h : (p.findSpace size n packetIndex).1 ≠ .ok) :
  (p.findSpace size n packetIndex).1 = StorageManagerIF.dataTooLarge
  := by
  rw [findSpace] at h ⊢
  rcases hempty : p.findEmpty n with _ | k
  · simp only [hempty, hspills, if_true] at h ⊢
    apply spill_fst packetIndex hn.lt (Nat.le_add_left _ _) h
  · simp [hempty] at h

theorem IsFirstFitting.unique {size m n : ℕ} (hm : p.IsFirstFitting size m)
    (hn : p.IsFirstFitting size n) :
  m = n
  := by
  rcases Nat.lt_trichotomy m n with h | h | h
  · have hsmall := hn.smaller m h
    have hfits := hm.size_le
    omega
  · apply h
  · have hsmall := hm.smaller n h
    have hfits := hn.size_le
    omega

/-- A reservation is refused as it should be exactly when the packet is too large for every
subpool, when there is room, or when the pool does not spill and the address has the index of
the first subpool that fits. -/
theorem reserveSpace_refusesCleanly_iff (p : LocalPool) (size : ℕ) (storeId : StoreAddress) :
  p.RefusesCleanly size storeId (p.reserveSpace size storeId) ↔
    (∀ n, ¬ p.IsFirstFitting size n) ∨ p.HasRoom size ∨
      p.spillsToHigherPools = false ∧ p.IsFirstFitting size storeId.poolIndex.toNat
  := by
  cases hindex : p.getSubPoolIndex size 0 with
  | none =>
      have hsmall : ∀ n, n < p.numberOfSubpools → p.elementSizes n < size := by
        intro n hn
        apply getSubPoolIndex_eq_none hindex (Nat.zero_le n) hn
      constructor
      · intro _
        left
        intro n hn
        have hlt := hsmall n hn.lt
        have hfits := hn.size_le
        omega
      · intro _
        rw [reserveSpace, hindex]
        constructor
        · intro _
          rfl
        · intro _
          rfl
        · simpa using hsmall
        · intro _ h
          exact absurd rfl h
  | some n =>
      obtain ⟨-, hlt, hfits, hsmaller⟩ := getSubPoolIndex_eq_some hindex
      have hn : p.IsFirstFitting size n := ⟨hlt, hfits, fun m hm => hsmaller m (Nat.zero_le m) hm⟩
      have hok := (reserveSpace_allocatesFirst p size storeId).ok_iff
      by_cases hroom : p.HasRoom size
      · constructor
        · intro _
          right
          left
          apply hroom
        · intro _
          rcases hres : p.reserveSpace size storeId with ⟨status, result⟩
          rw [hres] at hok
          cases hok.mpr hroom
          apply RefusesCleanly.of_ok hn
      · rcases hspace : p.findSpace size n storeId.packetIndex with ⟨status, id⟩
        have hfailed : status ≠ .ok := by
          have hfinds := findSpace_finds hn storeId.packetIndex
          rw [hspace] at hfinds
          rcases hfinds with ⟨-, hfirst⟩ | ⟨hfailed, -⟩
          · cases hroom ⟨_, hfirst.pool.1⟩
          · apply hfailed
        rw [reserveSpace_of_findSpace hindex hspace hfailed]
        cases hspills : p.spillsToHigherPools with
        | true =>
            have hcode := findSpace_of_spills hspills hn storeId.packetIndex
            rw [hspace] at hcode
            constructor
            · intro h
              -- the code says that the packet is too large, although it fits
              have hlarge := h.tooLarge_iff.mp (hcode hfailed) n hlt
              omega
            · rintro (hnone | hroom' | ⟨hspills', -⟩)
              · cases hnone n hn
              · cases hroom hroom'
              · cases hspills'
        | false =>
            rw [findSpace_of_not_spills hspills hn hroom] at hspace
            cases hspace
            constructor
            · intro h
              right
              right
              use rfl
              have hid := h.storeId_eq hfailed
              rw [← hid, toNat_ofNat_subpool hlt]
              apply hn
            · rintro (hnone | hroom' | ⟨-, hpool⟩)
              · cases hnone n hn
              · cases hroom hroom'
              · constructor
                · intro _
                  rw [← hpool.unique hn, UInt16.ofNat_toNat]
                · intro _
                  simp only [hspills]
                · constructor
                  · intro h
                    cases h
                  · intro h
                    have hsmall := h n hlt
                    omega
                · intro _ _
                  rfl

/-- `addData` fails as the reservation that it makes. -/
theorem addData_refusesCleanly_iff {storeId : StoreAddress} {data : List UInt8}
    {result : ReturnValue × StoreAddress × LocalPool} (h : p.addData storeId data = some result) :
  p.RefusesCleanly data.length storeId result ↔
    p.RefusesCleanly data.length storeId (p.reserveSpace data.length storeId)
  := by
  rcases reserveSpace_cases p data.length storeId with ⟨id, hroom, heq⟩ | ⟨status, id, r, hok, heq⟩
  · have hlarge : ¬ ∀ n, n < p.numberOfSubpools → p.elementSizes n < data.length := by
      intro hsmall
      have hlt := hsmall _ hroom.legal.1
      have hfits := hroom.size_le
      omega
    simp only [addData, heq] at h
    split at h
    · cases h
    · cases h
      rw [heq]
      constructor
      · intro _
        exact ⟨fun h => absurd rfl h, fun h => absurd rfl h, iff_of_false (by simp) hlarge,
          fun h => absurd rfl h⟩
      · intro _
        exact ⟨fun h => absurd rfl h, fun h => absurd rfl h, iff_of_false (by simp) hlarge,
          fun h => absurd rfl h⟩
  · have hresult : p.addData storeId data =
        some (status, id, { p with internalErrorReporter := r }) := by
      simp only [addData, heq]
    cases hresult.symm.trans h
    rw [heq]

/-- `addData` and `getFreeElement` are refused as they should be exactly when the packet is too
large for every subpool, when there is room, or when the pool does not spill and the address
has the index of the first subpool that fits. -/
theorem refusesCleanly_iff (p : LocalPool) (storeId : StoreAddress) :
  (∀ size, p.RefusesCleanly size storeId
      ((p.getFreeElement storeId size).1, (p.getFreeElement storeId size).2.1,
        (p.getFreeElement storeId size).2.2.2) ↔
    (∀ n, ¬ p.IsFirstFitting size n) ∨ p.HasRoom size ∨
      p.spillsToHigherPools = false ∧ p.IsFirstFitting size storeId.poolIndex.toNat) ∧
  ∀ data, ∀ result ∈ p.addData storeId data,
    (p.RefusesCleanly data.length storeId result ↔
      (∀ n, ¬ p.IsFirstFitting data.length n) ∨ p.HasRoom data.length ∨
        p.spillsToHigherPools = false ∧ p.IsFirstFitting data.length storeId.poolIndex.toNat)
  := by
  constructor
  · intro size
    rw [getFreeElement_eq_reserveSpace]
    apply reserveSpace_refusesCleanly_iff
  · intro data result h
    rw [addData_refusesCleanly_iff h]
    apply reserveSpace_refusesCleanly_iff

/-- The single element of a pool is taken, and a second packet is refused. -/
theorem not_refusesCleanly_full :
  ∃ p p' results result,
    (single ⟨1, 4, by decide, by decide⟩).initializePool (some 0) = (.ok, p) ∧
    step.run (p, []) [.addData StoreAddress.invalid [1]] = some (p', results) ∧
    p'.1.addData ⟨5, 7⟩ [2] = some result ∧ ¬ p'.1.RefusesCleanly 1 ⟨5, 7⟩ result
  := by
  refine ⟨_, _, _, _, rfl, rfl, rfl, ?_⟩
  intro h
  have hid := h.storeId_eq (by decide)
  revert hid
  decide

/-! ### Addresses that name no element -/

/-- The operations agree on whether an address names an element, change nothing when it does
not, and stay within their arrays. -/
structure UniformAt (p : LocalPool) (storeId : StoreAddress) : Prop where
  deleteData_isSome : (p.deleteData storeId).isSome
  deleteData_illegal_iff : ∀ result ∈ p.deleteData storeId,
    (result.1 = StorageManagerIF.illegalStorageId ↔ ¬ p.IsLegal storeId)
  deleteData_unchanged : ∀ result ∈ p.deleteData storeId, ¬ p.IsLegal storeId → result.2 = p
  modifyData_illegal_iff :
    (p.modifyData storeId).1 = StorageManagerIF.illegalStorageId ↔ ¬ p.IsLegal storeId
  getData_illegal_iff :
    (p.getData storeId).1 = StorageManagerIF.illegalStorageId ↔ ¬ p.IsLegal storeId
  hasDataAtId_iff : p.hasDataAtId storeId = true ↔ (p.modifyData storeId).1 = .ok
  position_lt : ∀ packet ∈ (p.modifyData storeId).2, packet.1.2 < p.storeLen packet.1.1

/-- What `modifyData` says about an address, and so `getData` and `hasDataAtId`. -/
theorem modifyData_uniform (p : LocalPool) (storeId : StoreAddress) :
  ((p.modifyData storeId).1 = StorageManagerIF.illegalStorageId ↔ ¬ p.IsLegal storeId) ∧
  (p.hasDataAtId storeId = true ↔ (p.modifyData storeId).1 = .ok) ∧
  ((∀ packet ∈ (p.modifyData storeId).2, packet.1.2 < p.storeLen packet.1.1) ↔
    (p.hasDataAtId storeId = true →
      p.getRawPosition storeId < p.storeLen storeId.poolIndex.toNat))
  := by
  rw [modifyData, hasDataAtId, IsLegal]
  by_cases hpool : storeId.poolIndex.toNat ≥ p.numberOfSubpools
  · simp [hpool, Nat.not_lt.mpr hpool]
  by_cases hpacket : storeId.packetIndex.toNat ≥ p.numberOfElements storeId.poolIndex.toNat
  · simp [hpool, hpacket, Nat.not_lt.mpr hpacket]
  rw [if_neg hpool, if_neg hpool, if_neg hpacket, if_neg hpacket]
  split
  · simp [Nat.lt_of_not_le hpool, Nat.lt_of_not_le hpacket]
  · simp [Nat.lt_of_not_le hpool, Nat.lt_of_not_le hpacket]

/-- The element size that `deleteData` looks up is that of the subpool that the lower byte of
the index names. -/
theorem getSubpoolElementSize_ne_zero_iff (p : LocalPool) (n : UInt16) :
  p.getSubpoolElementSize n.toUInt8 ≠ 0 ↔
    n.toNat % 256 < p.numberOfSubpools ∧ p.elementSizes (n.toNat % 256) ≠ 0
  := by
  rw [getSubpoolElementSize, UInt16.toNat_toUInt8]
  split
  · rename_i hlt
    simp [hlt]
  · rename_i hge
    simp [hge]

/-- An index that names a subpool is its own lower byte. -/
theorem poolIndex_mod {n : ℕ} (h : n < p.numberOfSubpools) :
  n % 256 = n
  := by
  have hlt := p.numberOfSubpools_lt
  rw [← numberOfSubpools] at hlt
  omega

/-- `deleteData` on an address that names no subpool. -/
theorem deleteData_of_pool_ge {storeId : StoreAddress}
    (hpool : p.numberOfSubpools ≤ storeId.poolIndex.toNat) :
  p.deleteData storeId =
    if p.getSubpoolElementSize storeId.poolIndex.toUInt8 ≠ 0 then none
    else some (StorageManagerIF.illegalStorageId, p)
  := by
  simp only [deleteData, ge_iff_le, if_pos hpool]

/-- `deleteData` on an address that names a subpool. -/
theorem deleteData_of_pool_lt {storeId : StoreAddress}
    (hpool : storeId.poolIndex.toNat < p.numberOfSubpools) :
  p.deleteData storeId =
    if p.elementSizes storeId.poolIndex.toNat ≠ 0 ∧
        storeId.packetIndex.toNat < p.numberOfElements storeId.poolIndex.toNat then
      (p.memset storeId.poolIndex.toNat (p.getRawPosition storeId % 2 ^ 16)
        (p.elementSizes storeId.poolIndex.toNat)).map fun p' =>
          (.ok, p'.setSize storeId.poolIndex.toNat storeId.packetIndex.toNat storageFree)
    else
      some (StorageManagerIF.illegalStorageId, p)
  := by
  have hsize : p.getSubpoolElementSize storeId.poolIndex.toUInt8 =
      p.elementSizes storeId.poolIndex.toNat := by
    rw [getSubpoolElementSize, UInt16.toNat_toUInt8, poolIndex_mod hpool, if_pos hpool]
  simp only [deleteData, hsize, if_neg (Nat.not_le.mpr hpool)]
  by_cases hzero : p.elementSizes storeId.poolIndex.toNat ≠ 0
  · by_cases hpacket : storeId.packetIndex.toNat < p.numberOfElements storeId.poolIndex.toNat
    · rw [if_pos hzero, if_pos hpacket, if_pos ⟨hzero, hpacket⟩]
      cases p.memset storeId.poolIndex.toNat (p.getRawPosition storeId % 2 ^ 16)
          (p.elementSizes storeId.poolIndex.toNat) with
      | none => rfl
      | some p' => rfl
    · rw [if_pos hzero, if_neg hpacket, if_neg (fun h => hpacket h.2)]
  · rw [if_neg hzero, if_neg (fun h => hzero h.1)]

/-- The other operations agree in any case, so it depends on `deleteData` and on the position
that a pointer is given to. -/
theorem uniformAt_iff_deleteData (p : LocalPool) (storeId : StoreAddress) :
  p.UniformAt storeId ↔
    (∃ result, p.deleteData storeId = some result ∧
      (result.1 = StorageManagerIF.illegalStorageId ↔ ¬ p.IsLegal storeId) ∧
      (¬ p.IsLegal storeId → result.2 = p)) ∧
    (p.hasDataAtId storeId = true →
      p.getRawPosition storeId < p.storeLen storeId.poolIndex.toNat)
  := by
  obtain ⟨hmodify, hhas, hposition⟩ := modifyData_uniform p storeId
  constructor
  · intro h
    obtain ⟨result, hresult⟩ := Option.isSome_iff_exists.mp h.deleteData_isSome
    constructor
    · use result, hresult, h.deleteData_illegal_iff result hresult
      apply h.deleteData_unchanged result hresult
    · apply hposition.mp h.position_lt
  · rintro ⟨⟨result, hresult, hillegal, hsame⟩, hlt⟩
    constructor
    · rw [hresult]
      rfl
    · intro result' hresult'
      cases hresult.symm.trans hresult'
      apply hillegal
    · intro result' hresult'
      cases hresult.symm.trans hresult'
      apply hsame
    · apply hmodify
    · apply hmodify
    · apply hhas
    · apply hposition.mpr hlt

/-- The operations agree on an address exactly when the lower byte of an index that names no
subpool names none with elements either, and the element that an address names is not empty
and lies in its block, also when its position is shortened to 16 bits. -/
theorem uniformAt_iff (p : LocalPool) (storeId : StoreAddress) :
  p.UniformAt storeId ↔
    (p.numberOfSubpools ≤ storeId.poolIndex.toNat →
      p.numberOfSubpools ≤ storeId.poolIndex.toNat % 256 ∨
      p.elementSizes (storeId.poolIndex.toNat % 256) = 0) ∧
    (p.IsLegal storeId →
      p.elementSizes storeId.poolIndex.toNat ≠ 0 ∧
      p.getRawPosition storeId % 2 ^ 16 + p.elementSizes storeId.poolIndex.toNat
        ≤ p.storeLen storeId.poolIndex.toNat ∧
      (p.hasDataAtId storeId = true →
        p.getRawPosition storeId < p.storeLen storeId.poolIndex.toNat))
  := by
  rw [uniformAt_iff_deleteData]
  have hlegal_of : p.hasDataAtId storeId = true → p.IsLegal storeId := by
    obtain ⟨hmodify, hhas, -⟩ := modifyData_uniform p storeId
    intro h
    by_contra hillegal
    have hok := hhas.mp h
    rw [hmodify.mpr hillegal] at hok
    cases hok
  rcases Nat.lt_or_ge storeId.poolIndex.toNat p.numberOfSubpools with hpool | hpool
  · rw [deleteData_of_pool_lt hpool]
    by_cases hlegal : p.IsLegal storeId
    · by_cases hzero : p.elementSizes storeId.poolIndex.toNat = 0
      · rw [if_neg (fun h => h.1 hzero)]
        constructor
        · rintro ⟨⟨result, hresult, hillegal, -⟩, -⟩
          cases hresult
          cases hillegal.mp rfl hlegal
        · rintro ⟨-, h⟩
          cases (h hlegal).1 hzero
      · rw [if_pos ⟨hzero, hlegal.2⟩, memset]
        split
        · rename_i hroom
          constructor
          · rintro ⟨-, hlt⟩
            exact ⟨fun hge => absurd hpool (Nat.not_lt.mpr hge), fun _ => ⟨hzero, hroom, hlt⟩⟩
          · rintro ⟨-, h⟩
            refine ⟨⟨_, rfl, iff_of_false (by simp) (not_not.mpr hlegal),
              fun hillegal => absurd hlegal hillegal⟩, (h hlegal).2.2⟩
        · rename_i hroom
          constructor
          · rintro ⟨⟨result, hresult, -⟩, -⟩
            cases hresult
          · rintro ⟨-, h⟩
            cases hroom (h hlegal).2.1
    · rw [if_neg (fun h => hlegal ⟨hpool, h.2⟩)]
      constructor
      · intro _
        exact ⟨fun hge => absurd hpool (Nat.not_lt.mpr hge), fun h => absurd h hlegal⟩
      · intro _
        exact ⟨⟨_, rfl, ⟨fun _ => hlegal, fun _ => rfl⟩, fun _ => rfl⟩,
          fun h => absurd (hlegal_of h) hlegal⟩
  · have hlegal : ¬ p.IsLegal storeId := fun h => absurd h.1 (Nat.not_lt.mpr hpool)
    have hsize := getSubpoolElementSize_ne_zero_iff p storeId.poolIndex
    rw [deleteData_of_pool_ge hpool]
    by_cases hzero : p.getSubpoolElementSize storeId.poolIndex.toUInt8 ≠ 0
    · obtain ⟨hlow, hne⟩ := hsize.mp hzero
      rw [if_pos hzero]
      constructor
      · rintro ⟨⟨result, hresult, -⟩, -⟩
        cases hresult
      · rintro ⟨h, -⟩
        rcases h hpool with hge | hsame
        · omega
        · cases hne hsame
    · rw [if_neg hzero]
      constructor
      · intro _
        refine ⟨fun _ => ?_, fun h => absurd h hlegal⟩
        rcases Nat.lt_or_ge (storeId.poolIndex.toNat % 256) p.numberOfSubpools with hlow | hlow
        · right
          by_contra hne
          apply hzero (hsize.mpr ⟨hlow, hne⟩)
        · left
          apply hlow
      · intro _
        exact ⟨⟨_, rfl, ⟨fun _ => hlegal, fun _ => rfl⟩, fun _ => rfl⟩,
          fun h => absurd (hlegal_of h) hlegal⟩

/-- An address far outside the configured range is taken for one in the first subpool. -/
theorem not_uniformAt_foreign :
  ∃ p, (single ⟨2, 4, by decide, by decide⟩).initializePool (some 0) = (.ok, p) ∧
    p.modifyData ⟨256, 0⟩ = (StorageManagerIF.illegalStorageId, none) ∧
    p.deleteData ⟨256, 0⟩ = none ∧ ¬ p.UniformAt ⟨256, 0⟩
  := by
  refine ⟨_, rfl, rfl, rfl, ?_⟩
  intro h
  have hsome := h.deleteData_isSome
  cases hsome

end LocalPool
