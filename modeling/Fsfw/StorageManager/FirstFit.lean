import Fsfw.StorageManager.LocalPool

/-!
# Where a local pool puts a packet

A packet may go to the first subpool whose elements are large enough, and to all later ones
when the pool spills to them.  The subpools stand in the order of the sizes of their elements,
so these are the subpools that can hold the packet (`elementSizes_mono`).

A reservation succeeds exactly when one of these subpools has a free element.  It takes the
first free element of the first of them that has one, and changes no other entry of the size
lists (`allocatesFirst`).
-/

open Memory

namespace LocalPool

variable {p : LocalPool}

/-- The element `k` of the subpool `n` is free. -/
def IsFree (p : LocalPool) (n k : ℕ) : Prop :=
  k < p.numberOfElements n ∧ p.sizeLists n k = storageFree

/-- The subpool `n` is the first one whose elements are large enough. -/
structure IsFirstFitting (p : LocalPool) (size n : ℕ) : Prop where
  lt : n < p.numberOfSubpools
  size_le : size ≤ p.elementSizes n
  smaller : ∀ m, m < n → p.elementSizes m < size

/-- The packet may go to the subpool `n`: it is the first one that fits, or a later one of a
pool that spills. -/
def IsCandidate (p : LocalPool) (size n : ℕ) : Prop :=
  ∃ first, p.IsFirstFitting size first ∧
    if p.spillsToHigherPools then first ≤ n ∧ n < p.numberOfSubpools else n = first

/-- The address names the first free element of the first subpool in `C` that has one. -/
structure IsFirstFree (p : LocalPool) (C : ℕ → Prop) (storeId : StoreAddress) : Prop where
  pool : IsLeast { n | C n ∧ ∃ k, p.IsFree n k } storeId.poolIndex.toNat
  packet : IsLeast { k | p.IsFree storeId.poolIndex.toNat k } storeId.packetIndex.toNat

/-- What a call that reserves `size` bytes returns, and the pool that it leaves: it succeeds
when there is room, and then takes the first free element and no other. -/
structure AllocatesFirst (p : LocalPool) (size : ℕ)
    (result : ReturnValue × StoreAddress × LocalPool) : Prop where
  ok_iff : result.1 = .ok ↔ ∃ n, p.IsCandidate size n ∧ ∃ k, p.IsFree n k
  firstFree : result.1 = .ok → p.IsFirstFree (p.IsCandidate size) result.2.1
  recorded : result.1 = .ok →
    result.2.2.sizeLists result.2.1.poolIndex.toNat result.2.1.packetIndex.toNat = size
  others : ∀ n k, ¬ (n = result.2.1.poolIndex.toNat ∧ k = result.2.1.packetIndex.toNat) →
    result.2.2.sizeLists n k = p.sizeLists n k
  refused : result.1 ≠ .ok → result.2.2.sizeLists = p.sizeLists

/-! ### The order of the subpools -/

theorem second_le_of_cmp {a b : LocalPoolCfgPair} (h : localPoolConfigCmp b a = false) :
  a.second ≤ b.second
  := by
  rw [localPoolConfigCmp] at h
  split at h
  · cases h
  · rename_i hlt
    apply Nat.le_of_not_lt hlt

/-- The sizes of the elements ascend. -/
theorem elementSizes_mono {m n : ℕ} (hmn : m ≤ n) (hn : n < p.numberOfSubpools) :
  p.elementSizes m ≤ p.elementSizes n
  := by
  rcases Nat.eq_or_lt_of_le hmn with rfl | hlt
  · apply Nat.le_refl
  · have hsorted := List.pairwise_iff_getElem.mp p.config.sorted m n (Nat.lt_trans hlt hn) hn hlt
    simp only [elementSizes, LocalPoolConfig.elementSizes]
    rw [List.getElem?_eq_getElem (Nat.lt_trans hlt hn), List.getElem?_eq_getElem hn]
    apply second_le_of_cmp hsorted

/-! ### The two searches -/

theorem getSubPoolIndex_eq_some {size start n : ℕ} (h : p.getSubPoolIndex size start = some n) :
  start ≤ n ∧ n < p.numberOfSubpools ∧ size ≤ p.elementSizes n ∧
    ∀ m, start ≤ m → m < n → p.elementSizes m < size
  := by
  obtain ⟨hstart, hlt, hsize⟩ := getSubPoolIndex_some h
  use hstart, hlt, hsize
  intro m hm hmn
  have hbefore := (List.find?_range'_eq_some.mp h).2.2 m hm hmn
  simpa using hbefore

theorem getSubPoolIndex_eq_none {size start n : ℕ} (h : p.getSubPoolIndex size start = none)
    (hstart : start ≤ n) (hn : n < p.numberOfSubpools) :
  p.elementSizes n < size
  := by
  have hall := List.find?_eq_none.mp h n (List.mem_range'_1.mpr ⟨hstart, by omega⟩)
  simpa using hall

theorem findEmpty_eq_some {n k : ℕ} (h : p.findEmpty n = some k) :
  IsLeast { k | p.IsFree n k } k
  := by
  use findEmpty_some h
  intro j hj
  apply Nat.le_of_not_lt
  intro hlt
  have hbefore := (List.find?_range_eq_some.mp h).2.2 j hlt
  simp [hj.2] at hbefore

theorem findEmpty_eq_none {n : ℕ} (h : p.findEmpty n = none) (k : ℕ) :
  ¬ p.IsFree n k
  := by
  rintro ⟨hk, hfree⟩
  have hall := List.find?_eq_none.mp h k (List.mem_range.mpr hk)
  simp [hfree] at hall

/-! ### The loop over the subpools -/

/-- A search among the subpools in `C` finds the first free element, if there is one. -/
def Finds (p : LocalPool) (C : ℕ → Prop) (result : ReturnValue × StoreAddress) : Prop :=
  result.1 = .ok ∧ p.IsFirstFree C result.2 ∨
  result.1 ≠ .ok ∧ ∀ n, C n → ∀ k, ¬ p.IsFree n k

/-- The first element found in the first subpool of `C`. -/
theorem finds_of_findEmpty {C : ℕ → Prop} {n k : ℕ} (hn : n < p.numberOfSubpools)
    (hC : IsLeast { n | C n } n) (h : p.findEmpty n = some k) :
  p.Finds C (.ok, ⟨.ofNat n, .ofNat k⟩)
  := by
  have hleast := findEmpty_eq_some h
  have hpool := toNat_ofNat_subpool hn
  have hpacket := toNat_ofNat_element hleast.1.1
  left
  use rfl
  constructor
  · simp only [hpool]
    use ⟨hC.1, k, hleast.1⟩
    intro m hm
    apply hC.2 hm.1
  · simp only [hpool, hpacket]
    apply hleast

/-- Subpools without a free element do not matter to a search. -/
theorem Finds.congr {C C' : ℕ → Prop} {result : ReturnValue × StoreAddress}
    (hC : ∀ n, (∃ k, p.IsFree n k) → (C n ↔ C' n)) (h : p.Finds C result) :
  p.Finds C' result
  := by
  have hset : { n | C n ∧ ∃ k, p.IsFree n k } = { n | C' n ∧ ∃ k, p.IsFree n k } := by
    ext n
    apply and_congr_left
    apply hC
  rcases h with ⟨hok, hfirst⟩ | ⟨hok, hnone⟩
  · left
    use hok
    constructor
    · rw [← hset]
      apply hfirst.pool
    · apply hfirst.packet
  · right
    use hok
    intro n hn k hk
    apply hnone n ((hC n ⟨k, hk⟩).mpr hn) k hk

/-- The loop finds the first free element of the subpools behind the one it starts at. -/
theorem spill_finds {size n rounds : ℕ} (packetIndex : UInt16) (hn : n < p.numberOfSubpools)
    (hsize : size ≤ p.elementSizes n) (hrounds : p.numberOfSubpools ≤ n + rounds) :
  p.Finds (fun m => n < m ∧ m < p.numberOfSubpools)
    (p.spill size rounds ⟨.ofNat n, packetIndex⟩)
  := by
  induction rounds generalizing n with
  | zero =>
      omega
  | succ rounds ih =>
      rw [spill]
      simp only [toNat_ofNat_subpool hn]
      cases hindex : p.getSubPoolIndex size (n + 1) with
      | none =>
          right
          use ReturnValue.noConfusion
          intro m hm
          have hlarge := elementSizes_mono (Nat.le_of_lt hm.1) hm.2
          have hsmall := getSubPoolIndex_eq_none hindex hm.1 hm.2
          omega
      | some n' =>
          obtain ⟨hstart, hn', hfits, hbetween⟩ := getSubPoolIndex_eq_some hindex
          -- the sizes ascend, so no subpool is passed over
          have hnext : ∀ m, n < m → m < n' → False := by
            intro m hm hmn
            have hlarge := elementSizes_mono (Nat.le_of_lt hm) (Nat.lt_trans hmn hn')
            have hsmall := hbetween m hm hmn
            omega
          simp only
          cases hempty : p.findEmpty n' with
          | some k =>
              apply finds_of_findEmpty hn' _ hempty
              use ⟨hstart, hn'⟩
              intro m hm
              apply Nat.le_of_not_lt
              apply hnext m hm.1
          | none =>
              apply (ih hn' hfits (by omega)).congr
              rintro m ⟨k, hk⟩
              constructor
              · rintro ⟨hm, hlt⟩
                exact ⟨by omega, hlt⟩
              · rintro ⟨hm, hlt⟩
                have hne : n' ≠ m := by
                  rintro rfl
                  apply findEmpty_eq_none hempty k hk
                use Nat.lt_of_le_of_ne (Nat.le_of_not_lt (hnext m hm)) hne

theorem isCandidate_iff {size n m : ℕ} (h : p.IsFirstFitting size n) :
  p.IsCandidate size m ↔
    if p.spillsToHigherPools then n ≤ m ∧ m < p.numberOfSubpools else m = n
  := by
  constructor
  · rintro ⟨first, hfirst, hm⟩
    have heq : first = n := by
      apply Nat.le_antisymm
      · apply Nat.le_of_not_lt
        intro hlt
        have hsmall := hfirst.smaller n hlt
        have hfits := h.size_le
        omega
      · apply Nat.le_of_not_lt
        intro hlt
        have hsmall := h.smaller first hlt
        have hfits := hfirst.size_le
        omega
    rw [← heq]
    apply hm
  · intro hm
    use n, h, hm

/-- The search of a reservation finds the first free element of the candidates. -/
theorem findSpace_finds {size n : ℕ} (h : p.IsFirstFitting size n) (packetIndex : UInt16) :
  p.Finds (p.IsCandidate size) (p.findSpace size n packetIndex)
  := by
  rw [findSpace]
  cases hempty : p.findEmpty n with
  | some k =>
      apply finds_of_findEmpty h.lt _ hempty
      constructor
      · apply (isCandidate_iff h).mpr
        split
        · exact ⟨Nat.le_refl n, h.lt⟩
        · rfl
      · intro m hm
        have hm' := (isCandidate_iff h).mp hm
        split at hm'
        · apply hm'.1
        · apply Nat.le_of_eq hm'.symm
  | none =>
      cases hspills : p.spillsToHigherPools with
      | false =>
          right
          use ReturnValue.noConfusion
          intro m hm k hk
          rw [isCandidate_iff h, hspills] at hm
          cases hm
          apply findEmpty_eq_none hempty k hk
      | true =>
          have hrest := spill_finds packetIndex h.lt h.size_le (Nat.le_add_left _ n)
          apply hrest.congr
          rintro m ⟨k, hk⟩
          rw [isCandidate_iff h, hspills]
          constructor
          · rintro ⟨hm, hlt⟩
            exact ⟨Nat.le_of_lt hm, hlt⟩
          · rintro ⟨hm, hlt⟩
            have hne : n ≠ m := by
              rintro rfl
              apply findEmpty_eq_none hempty k hk
            exact ⟨Nat.lt_of_le_of_ne hm hne, hlt⟩

/-! ### Reservations -/

/-- A search that finds no element leaves all elements as they are. -/
theorem reserveSpace_of_findSpace {size n : ℕ} {storeId id : StoreAddress} {status : ReturnValue}
    (hindex : p.getSubPoolIndex size 0 = some n)
    (hspace : p.findSpace size n storeId.packetIndex = (status, id)) (h : status ≠ .ok) :
  p.reserveSpace size storeId =
    (status, id, { p with internalErrorReporter := p.internalErrorReporter.map (· + 1) })
  := by
  simp only [reserveSpace, hindex, hspace]

/-- A call that finds no room and leaves the size lists as they are. -/
theorem AllocatesFirst.of_none {size : ℕ} {result : ReturnValue × StoreAddress × LocalPool}
    (hstatus : result.1 ≠ .ok) (hlists : result.2.2.sizeLists = p.sizeLists)
    (hnone : ∀ n, p.IsCandidate size n → ∀ k, ¬ p.IsFree n k) :
  p.AllocatesFirst size result
  := by
  constructor
  · constructor
    · intro h
      exact absurd h hstatus
    · rintro ⟨n, hn, k, hk⟩
      exact absurd hk (hnone n hn k)
  · intro h
    exact absurd h hstatus
  · intro h
    exact absurd h hstatus
  · intro n k _
    rw [hlists]
  · intro _
    apply hlists

/-- A call that takes the first free element of the candidates. -/
theorem AllocatesFirst.of_firstFree {size : ℕ} {id : StoreAddress} {p' : LocalPool}
    (hfree : p.IsFirstFree (p.IsCandidate size) id)
    (hlists : p'.sizeLists =
      (p.setSize id.poolIndex.toNat id.packetIndex.toNat size).sizeLists) :
  p.AllocatesFirst size (.ok, id, p')
  := by
  constructor
  · constructor
    · intro _
      use id.poolIndex.toNat
      apply hfree.pool.1
    · intro _
      rfl
  · intro _
    apply hfree
  · intro _
    simp [hlists, setSize]
  · intro n k hne
    simp only [hlists, setSize, if_neg hne]
  · intro h
    exact absurd rfl h

/-- A reservation takes the first free element of the candidates, if there is one. -/
theorem reserveSpace_allocatesFirst (p : LocalPool) (size : ℕ) (storeId : StoreAddress) :
  p.AllocatesFirst size (p.reserveSpace size storeId)
  := by
  cases hindex : p.getSubPoolIndex size 0 with
  | none =>
      rw [reserveSpace, hindex]
      apply AllocatesFirst.of_none
      · exact ReturnValue.noConfusion
      · rfl
      · rintro n ⟨first, hfirst, -⟩
        have hsmall := getSubPoolIndex_eq_none hindex (Nat.zero_le first) hfirst.lt
        have hfits := hfirst.size_le
        omega
  | some n =>
      obtain ⟨-, hn, hfits, hsmaller⟩ := getSubPoolIndex_eq_some hindex
      have hfinds := findSpace_finds ⟨hn, hfits, fun m hm => hsmaller m (Nat.zero_le m) hm⟩
        storeId.packetIndex
      rcases hspace : p.findSpace size n storeId.packetIndex with ⟨status, id⟩
      rw [hspace] at hfinds
      rcases hfinds with ⟨hok, hfree⟩ | ⟨hok, hnone⟩
      · cases hok
        simp only [reserveSpace, hindex, hspace]
        apply AllocatesFirst.of_firstFree hfree rfl
      · rw [reserveSpace_of_findSpace hindex hspace hok]
        exact AllocatesFirst.of_none (p := p) hok rfl hnone

/-- What `getFreeElement` returns, without the pointer to the element. -/
theorem getFreeElement_eq_reserveSpace (p : LocalPool) (storeId : StoreAddress) (size : ℕ) :
  ((p.getFreeElement storeId size).1, (p.getFreeElement storeId size).2.1,
    (p.getFreeElement storeId size).2.2.2) = p.reserveSpace size storeId
  := by
  rw [getFreeElement]
  rcases p.reserveSpace size storeId with ⟨status, id, p'⟩
  cases status with
  | ok => rfl
  | failed => rfl
  | makeCode classId number => rfl

end LocalPool
