import Fsfw.StorageManager.PoolIsolation

/-!
# The free elements of a local pool

A new pool is filled with zeros, and deleting a packet sets its element to zero.  In every run
in which the bytes of the cleared subpools were zero already, all free elements consist of
zeros, and so does an element that is given out (`zeroed_of_clean`).

Clearing a subpool sets only the first of its elements to zero, so the packets in the other
ones are exposed (`not_zeroed_cleared`); and so is a packet behind the first `2 ^ 16` bytes of
its block, which is not deleted where it lies.
-/

open Memory

namespace LocalPool

/-- All free elements consist of zeros. -/
def Zeroed (p : LocalPool) : Prop :=
  ∀ id, p.IsLegal id → p.sizeLists id.poolIndex.toNat id.packetIndex.toNat = storageFree →
    p.Blank id

/-- The elements that are given out consist of zeros. -/
def GivesZeros (p : LocalPool) : Prop :=
  ∀ storeId size id n position p',
    p.getFreeElement storeId size = (.ok, id, some (n, position), p') →
    ∀ i, position ≤ i → i < position + p.elementSizes n → p'.store n i = 0

/-- The call is sound, and frees without deleting only what consists of zeros. -/
def Clean (p : LocalPool) (op : PoolOp) : Prop :=
  p.Sound op ∧
  match op with
  | .clearSubPool subpoolIndex =>
      ∀ id, p.IsLegal id → id.poolIndex.toNat = subpoolIndex.toNat →
        0 < id.packetIndex.toNat → p.Blank id
  | .clearStore => ∀ id, p.IsLegal id → p.Blank id
  | _ => True

section

variable {p p' : LocalPool} {id : StoreAddress}

theorem Blank.congr (h : p.Blank id) (hconfig : p'.config = p.config)
    (hstore : ∀ i, p.offset id ≤ i → i < p.offset id + p.elementSizes id.poolIndex.toNat →
      p.store id.poolIndex.toNat i = 0 → p'.store id.poolIndex.toNat i = 0) :
  p'.Blank id
  := by
  intro i hle hlt
  rw [offset, elementSizes, hconfig] at hle hlt
  exact hstore i hle hlt (h i hle hlt)

/-- The free elements still consist of zeros when only one element is changed, and this one
does so if it is free. -/
theorem Zeroed.of_onlyAt (h : p.Zeroed) (hid : OnlyAt p p' id)
    (hfree : p'.sizeLists id.poolIndex.toNat id.packetIndex.toNat = storageFree → p'.Blank id) :
  p'.Zeroed
  := by
  intro id' hlegal hfree'
  by_cases heq : id' = id
  · rw [heq] at hfree' ⊢
    apply hfree hfree'
  · rw [IsLegal, numberOfSubpools, numberOfElements, hid.config_eq] at hlegal
    rw [hid.sizeLists_eq _ _ (toNat_ne_of_ne heq)] at hfree'
    apply (h id' hlegal hfree').congr hid.config_eq
    intro i hle hlt hzero
    rw [hid.store_element heq hle hlt, hzero]

/-- An element that holds a packet is not free. -/
theorem Zeroed.put (h : p.Zeroed) (hfits : Fits p) {size : ℕ} {data : List UInt8}
    (hput : PutInto p p' id size data) :
  p'.Zeroed
  := by
  apply h.of_onlyAt hput.onlyAt
  intro hfree
  have hle := hput.room.size_le
  have hlt := hfits.size_lt _ hput.room.legal.1
  rw [hput.size_eq] at hfree
  omega

theorem Zeroed.clearSubPool (h : p.Zeroed) {subpoolIndex : UInt8}
    (hclean : p.Clean (.clearSubPool subpoolIndex)) (hconfig : p'.config = p.config)
    (hother : ∀ n, n ≠ subpoolIndex.toNat →
      p'.sizeLists n = p.sizeLists n ∧ p'.store n = p.store n)
    (hstore : subpoolIndex.toNat < p.numberOfSubpools → p'.store subpoolIndex.toNat =
      fill (p.store subpoolIndex.toNat) 0 (p.elementSizes subpoolIndex.toNat) 0) :
  p'.Zeroed
  := by
  intro id hlegal hfree
  rw [IsLegal, numberOfSubpools, numberOfElements, hconfig] at hlegal
  by_cases hpool : id.poolIndex.toNat = subpoolIndex.toNat
  · have hfill := hstore (hpool ▸ hlegal.1)
    rw [← hpool] at hfill
    by_cases hpos : 0 < id.packetIndex.toNat
    · apply (hclean.2 id hlegal hpool hpos).congr hconfig
      intro i _ _ hzero
      rw [hfill, fill, hzero, ite_self]
    · -- The first element is the one that is set to zero.
      intro i _ hlt
      have hoffset : p'.offset id = 0 := by
        rw [offset, Nat.eq_zero_of_not_pos hpos, Nat.zero_mul]
      rw [hoffset, elementSizes, hconfig] at hlt
      rw [hfill, fill, if_pos ⟨Nat.zero_le i, hlt⟩]
  · obtain ⟨hsizes, hsame⟩ := hother _ hpool
    rw [hsizes] at hfree
    apply (h id hlegal hfree).congr hconfig
    intro i _ _ hzero
    rw [hsame, hzero]

/-- A clean call is defined, and keeps the free elements zero. -/
theorem Zeroed.call (h : p.Zeroed) (hfits : Fits p) {op : PoolOp} (hclean : p.Clean op) :
  ∃ p' result, p.call op = some (p', result) ∧ Fits p' ∧ p'.Zeroed
  := by
  cases op with
  | addData storeId data =>
      rcases call_addData hfits storeId data with
        ⟨id, p', hcall, hput⟩ | ⟨status, id, reporter, -, hcall⟩
      · exact ⟨p', _, hcall, hfits.congr hput.onlyAt.config_eq, h.put hfits hput⟩
      · exact ⟨_, _, hcall, hfits.congr rfl, h⟩
  | getFreeElement storeId size data hlen =>
      rcases call_getFreeElement hfits storeId hlen with
        ⟨id, p', hcall, hput⟩ | ⟨status, id, reporter, -, hcall⟩
      · exact ⟨p', _, hcall, hfits.congr hput.onlyAt.config_eq, h.put hfits hput⟩
      · exact ⟨_, _, hcall, hfits.congr rfl, h⟩
  | deleteData storeId =>
      rcases deleteData_cases hfits hclean.1.1 hclean.1.2 with
        ⟨p', hdelete, hid, hblank⟩ | hdelete
      · refine ⟨p', (.ok, storeId), ?_, hfits.congr hid.config_eq, ?_⟩
        · simp only [LocalPool.call, hdelete]
        · apply h.of_onlyAt hid fun _ => hblank
      · refine ⟨p, (StorageManagerIF.illegalStorageId, storeId), ?_, hfits, h⟩
        simp only [LocalPool.call, hdelete]
  | deletePtr ptr =>
      rcases deletePtr_cases hfits hclean.1 with
        ⟨id, p', hdelete, -, hid, hblank⟩ | ⟨status, id, -, hdelete⟩
      · refine ⟨p', (.ok, id), ?_, hfits.congr hid.config_eq, ?_⟩
        · simp only [LocalPool.call, hdelete]
        · apply h.of_onlyAt hid fun _ => hblank
      · refine ⟨p, (status, id), ?_, hfits, h⟩
        simp only [LocalPool.call, hdelete]
  | clearSubPool subpoolIndex =>
      obtain ⟨p', hclear, hconfig, hother, hstore⟩ := clearSubPool_eq hfits hclean.1
      refine ⟨p', (.ok, StoreAddress.invalid), ?_, hfits.congr hconfig, ?_⟩
      · simp only [LocalPool.call, hclear]
      · apply h.clearSubPool hclean hconfig hother hstore
  | clearStore =>
      refine ⟨_, _, rfl, hfits.congr rfl, ?_⟩
      intro id hlegal _
      exact hclean.2 id hlegal

/-- When all free elements consist of zeros, so do those that are given out. -/
theorem Zeroed.givesZeros (h : p.Zeroed) (hfits : Fits p) :
  p.GivesZeros
  := by
  intro storeId size id n position p' hfree
  rcases reserveSpace_cases p size storeId with
    ⟨id', hroom, hreserve⟩ | ⟨status, id', reporter, hstatus, hreserve⟩
  · simp only [getFreeElement, hreserve] at hfree
    cases hfree
    intro i hle hlt
    have hposition : (p.setSize id.poolIndex.toNat id.packetIndex.toNat size).getRawPosition id
        = p.offset id := hfits.getRawPosition_eq hroom.legal
    rw [hposition] at hle hlt
    exact h id hroom.legal hroom.free i hle hlt
  · cases status with
    | ok => contradiction
    | failed =>
        simp only [getFreeElement, hreserve] at hfree
        cases hfree
    | makeCode classId number =>
        simp only [getFreeElement, hreserve] at hfree
        cases hfree

/-- The calls as steps of a pool. -/
def calls : Step LocalPool PoolOp (ReturnValue × StoreAddress) :=
  call

/-- In every run of clean calls on a pool whose blocks are as long as they should be, the free
elements consist of zeros, and so do the elements that are given out. -/
theorem zeroed_of_clean {config : LocalPoolConfig} {data : ℕ → ℕ} {spills : Bool}
    {hlt : config.numberOfSubpools < 256}
    {hdisjoint : ∀ m n, m < n → n < config.numberOfSubpools →
      data m + config.storeLen m ≤ data n ∨ data n + config.storeLen n ≤ data m}
    {reporter : Option ℕ} {p : LocalPool}
    (hinit : (new config data spills hlt hdisjoint).initializePool reporter = (.ok, p))
    (hblock : ∀ n, n < config.numberOfSubpools →
      config.numberOfElements n * config.elementSizes n < 2 ^ 64)
    {ops : List PoolOp} (hclean : calls.Along Clean p ops) :
  ∃ p' results, calls.run p ops = some (p', results) ∧ p'.Zeroed ∧ p'.GivesZeros
  := by
  have hzeroed : p.Zeroed := by
    intro id _ _ i _ _
    rw [(initializePool_ok hinit).1]
    rfl
  have hstep : ∀ (s : LocalPool) (op : PoolOp), Fits s ∧ s.Zeroed → s.Clean op →
      ∃ s' result, calls s op = some (s', result) ∧ Fits s' ∧ s'.Zeroed := by
    intro s op hs hop
    exact hs.2.call hs.1 hop
  obtain ⟨p', results, hrun, hfits', hzeroed'⟩ :=
    Step.run_invariant hstep ⟨fits_of_initializePool hinit hblock, hzeroed⟩ hclean
  exact ⟨p', results, hrun, hzeroed', hzeroed'.givesZeros hfits'⟩

end

/-- A packet in the first of two elements of four bytes, and the subpool cleared. -/
theorem zeroed_of_clean_two :
  ∃ p p' results, (single ⟨2, 4, by decide, by decide⟩).initializePool (some 0) = (.ok, p) ∧
    calls.run p [.addData StoreAddress.invalid [1, 2], .clearSubPool 0] = some (p', results) ∧
    p'.Zeroed ∧ p'.GivesZeros
  := by
  have hinit : (single ⟨2, 4, by decide, by decide⟩).initializePool (some 0) = (.ok, _) := rfl
  have hblock : ∀ n, n < 1 → (single ⟨2, 4, by decide, by decide⟩).config.numberOfElements n *
      (single ⟨2, 4, by decide, by decide⟩).config.elementSizes n < 2 ^ 64 := by
    decide
  obtain ⟨p', results, hrun, hzeroed⟩ := zeroed_of_clean hinit hblock
    (show calls.Along _ _ [.addData StoreAddress.invalid [1, 2], .clearSubPool 0] from by
      refine ⟨⟨trivial, trivial⟩, fun s₁ o₁ h₁ => ⟨⟨?_, ?_⟩, fun _ _ _ => trivial⟩⟩
      · cases h₁
        intro _
        left
        decide
      · cases h₁
        intro id hlegal hpool hpos i hle hlt
        have hindex : id.packetIndex.toNat = 1 := by
          have hlt := hlegal.2
          rw [hpool] at hlt
          change id.packetIndex.toNat < 2 at hlt
          omega
        simp only [offset, hindex, hpool] at hle hlt ⊢
        change 4 ≤ i at hle
        change i < 4 + 4 at hlt
        interval_cases i <;> rfl)
  exact ⟨_, p', results, hinit, hrun, hzeroed⟩

/-- Clearing a subpool exposes the packet in its second element. -/
theorem not_zeroed_cleared :
  ∃ p p' results, (single ⟨2, 4, by decide, by decide⟩).initializePool (some 0) = (.ok, p) ∧
    calls.run p [.addData StoreAddress.invalid [1], .addData StoreAddress.invalid [2],
      .clearSubPool 0] = some (p', results) ∧ ¬ p'.Zeroed
  := by
  refine ⟨_, _, _, rfl, rfl, ?_⟩
  intro hzeroed
  have hbyte := hzeroed ⟨0, 1⟩ ⟨by decide, by decide⟩ rfl 4 (by decide) (by decide)
  revert hbyte
  decide

end LocalPool
