import Fsfw.Library.Memory
import Fsfw.StorageManager.StorageManagerIF

/-!
# The local pool

A local pool keeps packets in subpools, each of which is a block of memory that is divided
into elements of one size.  A packet is named by the index of its subpool and the index of
its element.  Next to the block of a subpool stands the list of the sizes of the packets in
its elements, where an element that is free has the size `storageFree`.

A pointer into the store is given by the index of a subpool and a position in its block.  The
blocks have addresses, which matter only when data is deleted by its address.  An operation
that accesses memory outside the blocks or reads a list outside its bounds is undefined
(`none`).  Sizes are of type `size_t`, 64 bits wide.
-/

open Memory

namespace LocalPool

/-- The number of elements of a subpool, and their size. -/
structure LocalPoolCfgPair where
  first : ℕ
  second : ℕ
  first_lt : first < 2 ^ 16
  second_lt : second < 2 ^ 64

/-- The order of the subpools: by the size of the elements, then by their number. -/
def localPoolConfigCmp (a b : LocalPoolCfgPair) : Bool :=
  if a.second < b.second then
    true
  else if a.second > b.second then
    false
  else if a.first < b.first then
    true
  else
    false

/-- The configuration of a pool is a set of pairs, in order. -/
structure LocalPoolConfig where
  pairs : List LocalPoolCfgPair
  sorted : pairs.Pairwise (fun a b => localPoolConfigCmp b a = false)

namespace LocalPoolConfig

def numberOfSubpools (config : LocalPoolConfig) : ℕ :=
  config.pairs.length

def numberOfElements (config : LocalPoolConfig) (n : ℕ) : ℕ :=
  match config.pairs[n]? with
  | some pair => pair.first
  | none => 0

def elementSizes (config : LocalPoolConfig) (n : ℕ) : ℕ :=
  match config.pairs[n]? with
  | some pair => pair.second
  | none => 0

/-- The length of the block of a subpool, as it is computed. -/
def storeLen (config : LocalPoolConfig) (n : ℕ) : ℕ :=
  config.numberOfElements n * config.elementSizes n % 2 ^ 64

theorem numberOfElements_lt (config : LocalPoolConfig) (n : ℕ) :
  config.numberOfElements n < 2 ^ 16
  := by
  rw [numberOfElements]
  split
  · apply LocalPoolCfgPair.first_lt
  · decide

end LocalPoolConfig

/-- The size that marks a free element. -/
abbrev storageFree : ℕ := 2 ^ 64 - 1

end LocalPool

/-- A local pool. There are fewer subpools than the type of their number allows, and the
blocks that have been allocated for them do not meet. The internal error reporter, when there
is one, is given by how often it has been told that a store is full. -/
structure LocalPool where
  config : LocalPool.LocalPoolConfig
  data : ℕ → ℕ
  store : ℕ → ℕ → UInt8
  sizeLists : ℕ → ℕ → ℕ
  spillsToHigherPools : Bool
  internalErrorReporter : Option ℕ
  numberOfSubpools_lt : config.numberOfSubpools < 256
  disjoint : ∀ m n, m < n → n < config.numberOfSubpools →
    data m + config.storeLen m ≤ data n ∨ data n + config.storeLen n ≤ data m

namespace LocalPool

/-- The pool that a configuration gives, with blocks of memory at the given addresses. -/
def new (config : LocalPoolConfig) (data : ℕ → ℕ) (spillsToHigherPools : Bool)
    (numberOfSubpools_lt : config.numberOfSubpools < 256)
    (disjoint : ∀ m n, m < n → n < config.numberOfSubpools →
      data m + config.storeLen m ≤ data n ∨ data n + config.storeLen n ≤ data m) :
    LocalPool where
  config := config
  data := data
  store := fun _ _ => 0
  sizeLists := fun _ _ => storageFree
  spillsToHigherPools := spillsToHigherPools
  internalErrorReporter := none
  numberOfSubpools_lt := numberOfSubpools_lt
  disjoint := disjoint

def numberOfSubpools (p : LocalPool) : ℕ :=
  p.config.numberOfSubpools

def numberOfElements (p : LocalPool) (n : ℕ) : ℕ :=
  p.config.numberOfElements n

def elementSizes (p : LocalPool) (n : ℕ) : ℕ :=
  p.config.elementSizes n

def storeLen (p : LocalPool) (n : ℕ) : ℕ :=
  p.config.storeLen n

/-- Look up the internal error reporter, and check that no element is too large. -/
def initializePool (p : LocalPool) (internalErrorReporter : Option ℕ) :
    ReturnValue × LocalPool :=
  let p := { p with internalErrorReporter := internalErrorReporter }
  if internalErrorReporter = none then
    (ObjectManagerIF.internalErrReporterUninit, p)
  else if (List.range p.numberOfSubpools).any (fun count => p.elementSizes count ≥ storageFree) then
    (StorageManagerIF.poolTooLarge, p)
  else
    (.ok, p)

def setToSpillToHigherPools (p : LocalPool) (enable : Bool) : LocalPool :=
  { p with spillsToHigherPools := enable }

/-! ### Access to the memory -/

/-- Copy bytes into the block of the subpool `n`, from `position` on. -/
def memcpy (p : LocalPool) (n position : ℕ) (bytes : List UInt8) : Option LocalPool :=
  if position + bytes.length ≤ p.storeLen n then
    some { p with
      store := fun m => if m = n then overwrite (p.store n) position bytes else p.store m }
  else
    none

/-- Set `len` bytes in the block of the subpool `n` to zero, from `position` on. -/
def memset (p : LocalPool) (n position len : ℕ) : Option LocalPool :=
  if position + len ≤ p.storeLen n then
    some { p with
      store := fun m => if m = n then fill (p.store n) position len 0 else p.store m }
  else
    none

/-- Set an entry of the size list of the subpool `n`. -/
def setSize (p : LocalPool) (n element size : ℕ) : LocalPool :=
  { p with sizeLists := fun m k => if m = n ∧ k = element then size else p.sizeLists m k }

def getRawPosition (p : LocalPool) (storeId : StoreAddress) : ℕ :=
  storeId.packetIndex.toNat * p.elementSizes storeId.poolIndex.toNat % 2 ^ 64

/-! ### Reserving an element -/

/-- The first subpool from `startAtIndex` on whose elements are large enough. -/
def getSubPoolIndex (p : LocalPool) (packetSize startAtIndex : ℕ) : Option ℕ :=
  (List.range' startAtIndex (p.numberOfSubpools - startAtIndex)).find?
    fun n => p.elementSizes n ≥ packetSize

/-- The first free element of a subpool. -/
def findEmpty (p : LocalPool) (poolIndex : ℕ) : Option ℕ :=
  (List.range (p.numberOfElements poolIndex)).find?
    fun foundElement => p.sizeLists poolIndex foundElement = storageFree

/-- The loop that looks for a free element in the higher subpools, with a bound on the number
of rounds. -/
def spill (p : LocalPool) (size : ℕ) : ℕ → StoreAddress → ReturnValue × StoreAddress
  | 0, storeId => (StorageManagerIF.dataStorageFull, storeId)
  | rounds + 1, storeId =>
      match p.getSubPoolIndex size (storeId.poolIndex.toNat + 1) with
      | none => (StorageManagerIF.dataTooLarge, storeId)
      | some n =>
          match p.findEmpty n with
          | some foundElement => (.ok, ⟨.ofNat n, .ofNat foundElement⟩)
          | none => spill p size rounds ⟨.ofNat n, storeId.packetIndex⟩

/-- Find an element in the subpool `n`, or in the higher ones when the pool spills to them.
There are at most as many rounds as there are subpools. -/
def findSpace (p : LocalPool) (size n : ℕ) (packetIndex : UInt16) : ReturnValue × StoreAddress :=
  match p.findEmpty n with
  | some foundElement => (.ok, ⟨.ofNat n, .ofNat foundElement⟩)
  | none =>
      if p.spillsToHigherPools then
        p.spill size p.numberOfSubpools ⟨.ofNat n, packetIndex⟩
      else
        (StorageManagerIF.dataStorageFull, ⟨.ofNat n, packetIndex⟩)

/-- Reserve an element. The reporter is told when no element is free, but not when the packet
is too large for all of them. -/
def reserveSpace (p : LocalPool) (size : ℕ) (storeId : StoreAddress) :
    ReturnValue × StoreAddress × LocalPool :=
  match p.getSubPoolIndex size 0 with
  | none => (StorageManagerIF.dataTooLarge, storeId, p)
  | some n =>
      match p.findSpace size n storeId.packetIndex with
      | (.ok, storeId) =>
          (.ok, storeId, p.setSize storeId.poolIndex.toNat storeId.packetIndex.toNat size)
      | (status, storeId) =>
          (status, storeId,
            { p with internalErrorReporter := p.internalErrorReporter.map (· + 1) })

/-! ### Operations -/

/-- Store a packet. -/
def write (p : LocalPool) (storeId : StoreAddress) (data : List UInt8) : Option LocalPool :=
  match p.memcpy storeId.poolIndex.toNat (p.getRawPosition storeId) data with
  | none => none
  | some p =>
      some (p.setSize storeId.poolIndex.toNat storeId.packetIndex.toNat data.length)

def addData (p : LocalPool) (storeId : StoreAddress) (data : List UInt8) :
    Option (ReturnValue × StoreAddress × LocalPool) :=
  match p.reserveSpace data.length storeId with
  | (.ok, storeId, p) =>
      match p.write storeId data with
      | none => none
      | some p => some (.ok, storeId, p)
  | (status, storeId, p) => some (status, storeId, p)

/-- Reserve an element, and give a pointer to it. -/
def getFreeElement (p : LocalPool) (storeId : StoreAddress) (size : ℕ) :
    ReturnValue × StoreAddress × Option (ℕ × ℕ) × LocalPool :=
  match p.reserveSpace size storeId with
  | (.ok, storeId, p) =>
      (.ok, storeId, some (storeId.poolIndex.toNat, p.getRawPosition storeId), p)
  | (status, storeId, p) => (status, storeId, none, p)

/-- Give a pointer to a packet, and its size. -/
def modifyData (p : LocalPool) (storeId : StoreAddress) :
    ReturnValue × Option ((ℕ × ℕ) × ℕ) :=
  if storeId.poolIndex.toNat ≥ p.numberOfSubpools then
    (StorageManagerIF.illegalStorageId, none)
  else if storeId.packetIndex.toNat ≥ p.numberOfElements storeId.poolIndex.toNat then
    (StorageManagerIF.illegalStorageId, none)
  else if p.sizeLists storeId.poolIndex.toNat storeId.packetIndex.toNat ≠ storageFree then
    (.ok, some ((storeId.poolIndex.toNat, p.getRawPosition storeId),
      p.sizeLists storeId.poolIndex.toNat storeId.packetIndex.toNat))
  else
    (StorageManagerIF.dataDoesNotExist, none)

def getData (p : LocalPool) (packetId : StoreAddress) : ReturnValue × Option ((ℕ × ℕ) × ℕ) :=
  p.modifyData packetId

def hasDataAtId (p : LocalPool) (storeId : StoreAddress) : Bool :=
  if storeId.poolIndex.toNat ≥ p.numberOfSubpools then
    false
  else if storeId.packetIndex.toNat ≥ p.numberOfElements storeId.poolIndex.toNat then
    false
  else if p.sizeLists storeId.poolIndex.toNat storeId.packetIndex.toNat ≠ storageFree then
    true
  else
    false

/-- The size of the elements of a subpool, or 0 when there is no such subpool. -/
def getSubpoolElementSize (p : LocalPool) (subpoolIndex : UInt8) : ℕ :=
  if subpoolIndex.toNat < p.numberOfSubpools then p.elementSizes subpoolIndex.toNat else 0

/-- Delete a packet. The index of its subpool is shortened to 8 bits where the element size is
looked up, and its position is shortened to 16 bits. -/
def deleteData (p : LocalPool) (storeId : StoreAddress) : Option (ReturnValue × LocalPool) :=
  let pageSize := p.getSubpoolElementSize storeId.poolIndex.toUInt8
  if pageSize ≠ 0 then
    if storeId.poolIndex.toNat ≥ p.numberOfSubpools then
      none
    else if storeId.packetIndex.toNat < p.numberOfElements storeId.poolIndex.toNat then
      let packetPosition := p.getRawPosition storeId % 2 ^ 16
      match p.memset storeId.poolIndex.toNat packetPosition pageSize with
      | none => none
      | some p =>
          some (.ok,
            p.setSize storeId.poolIndex.toNat storeId.packetIndex.toNat storageFree)
    else
      some (StorageManagerIF.illegalStorageId, p)
  else
    some (StorageManagerIF.illegalStorageId, p)

/-- Delete the packet whose element has a byte at the address `ptr`. The distance of the
address from the start of the block is shortened to 32 bits. -/
def deletePtr (p : LocalPool) (ptr : ℕ) : Option (ReturnValue × StoreAddress × LocalPool) :=
  match (List.range p.numberOfSubpools).find?
      (fun n => p.data n ≤ ptr ∧ p.data n + p.storeLen n > ptr) with
  | none => some (StorageManagerIF.illegalAddress, StoreAddress.invalid, p)
  | some n =>
      let deltaAddress := (ptr - p.data n) % 2 ^ 32
      let localId : StoreAddress := ⟨.ofNat n, .ofNat (deltaAddress / p.elementSizes n)⟩
      match p.deleteData localId with
      | none => none
      | some (result, p) => some (result, localId, p)

def clearStore (p : LocalPool) : LocalPool :=
  { p with sizeLists := fun _ _ => storageFree }

/-- Free all elements of a subpool, and set the first of them to zero. -/
def clearSubPool (p : LocalPool) (subpoolIndex : UInt8) : Option LocalPool :=
  if subpoolIndex.toNat ≥ p.numberOfSubpools then
    some p
  else
    memset
      { p with
        sizeLists := fun n k => if n = subpoolIndex.toNat then storageFree else p.sizeLists n k }
      subpoolIndex.toNat 0 (p.elementSizes subpoolIndex.toNat)

/-- The size of all blocks, and of all size lists. -/
def getTotalSize (p : LocalPool) : ℕ × ℕ :=
  (List.range p.numberOfSubpools).foldl
    (fun (totalSize, sizesSize) idx =>
      ((totalSize + p.elementSizes idx * p.numberOfElements idx) % 2 ^ 64,
        (sizesSize + p.numberOfElements idx * 8) % 2 ^ 64))
    (0, 0)

/-! ### The search for a free element -/

section

variable {p : LocalPool} {size n k : ℕ}

theorem getSubPoolIndex_some {start : ℕ} (h : p.getSubPoolIndex size start = some n) :
  start ≤ n ∧ n < p.numberOfSubpools ∧ size ≤ p.elementSizes n
  := by
  have hmem := List.mem_of_find?_eq_some h
  have hsize := List.find?_some h
  simp only [List.mem_range'_1, decide_eq_true_eq] at hmem hsize
  omega

theorem findEmpty_some (h : p.findEmpty n = some k) :
  k < p.numberOfElements n ∧ p.sizeLists n k = storageFree
  := by
  have hmem := List.mem_of_find?_eq_some h
  have hfree := List.find?_some h
  rw [List.mem_range] at hmem
  rw [decide_eq_true_eq] at hfree
  exact ⟨hmem, hfree⟩

/-- The index of a subpool fits into an address. -/
theorem toNat_ofNat_subpool (h : n < p.numberOfSubpools) :
  (UInt16.ofNat n).toNat = n
  := by
  have hlt := p.numberOfSubpools_lt
  rw [numberOfSubpools] at h
  rw [UInt16.toNat_ofNat']
  omega

/-- The index of an element fits into an address. -/
theorem toNat_ofNat_element (h : k < p.numberOfElements n) :
  (UInt16.ofNat k).toNat = k
  := by
  have hlt := p.config.numberOfElements_lt n
  rw [numberOfElements] at h
  rw [UInt16.toNat_ofNat']
  omega

/-- The loop has enough rounds when there are as many of them as subpools to look at. -/
theorem spill_rounds {rounds : ℕ} {storeId : StoreAddress}
    (hpool : storeId.poolIndex.toNat < p.numberOfSubpools)
    (h : p.numberOfSubpools ≤ storeId.poolIndex.toNat + rounds) :
  p.spill size (rounds + 1) storeId = p.spill size rounds storeId
  := by
  induction rounds generalizing storeId with
  | zero =>
      omega
  | succ rounds ih =>
      rw [spill, spill]
      cases hindex : p.getSubPoolIndex size (storeId.poolIndex.toNat + 1) with
      | none =>
          rfl
      | some n =>
          obtain ⟨hn, hlt, -⟩ := getSubPoolIndex_some hindex
          simp only
          rw [ih]
          · rw [toNat_ofNat_subpool hlt]
            apply hlt
          · rw [toNat_ofNat_subpool hlt]
            omega

/-- The address names an element. -/
def IsLegal (p : LocalPool) (storeId : StoreAddress) : Prop :=
  storeId.poolIndex.toNat < p.numberOfSubpools ∧
  storeId.packetIndex.toNat < p.numberOfElements storeId.poolIndex.toNat

instance (p : LocalPool) (storeId : StoreAddress) : Decidable (p.IsLegal storeId) :=
  inferInstanceAs (Decidable (_ ∧ _))

/-- The address names a free element that is large enough. -/
structure IsRoom (p : LocalPool) (size : ℕ) (storeId : StoreAddress) : Prop where
  legal : p.IsLegal storeId
  size_le : size ≤ p.elementSizes storeId.poolIndex.toNat
  free : p.sizeLists storeId.poolIndex.toNat storeId.packetIndex.toNat = storageFree

theorem isRoom_of_findEmpty (hn : n < p.numberOfSubpools) (hsize : size ≤ p.elementSizes n)
    (h : p.findEmpty n = some k) :
  p.IsRoom size ⟨.ofNat n, .ofNat k⟩
  := by
  obtain ⟨hk, hfree⟩ := findEmpty_some h
  have hpool := toNat_ofNat_subpool hn
  have hpacket := toNat_ofNat_element hk
  constructor
  · rw [IsLegal, hpool, hpacket]
    exact ⟨hn, hk⟩
  · rw [hpool]
    apply hsize
  · rw [hpool, hpacket]
    apply hfree

/-- What the loop finds. -/
theorem spill_ok {rounds : ℕ} {storeId storeId' : StoreAddress}
    (h : p.spill size rounds storeId = (.ok, storeId')) :
  p.IsRoom size storeId'
  := by
  induction rounds generalizing storeId with
  | zero =>
      cases h
  | succ rounds ih =>
      rw [spill] at h
      split at h
      · cases h
      · rename_i n hindex
        obtain ⟨-, hn, hsize⟩ := getSubPoolIndex_some hindex
        split at h
        · rename_i k hempty
          cases h
          apply isRoom_of_findEmpty hn hsize hempty
        · apply ih h

/-- A reservation takes a free element, or leaves all elements as they are. -/
theorem reserveSpace_cases (p : LocalPool) (size : ℕ) (storeId : StoreAddress) :
  (∃ id, p.IsRoom size id ∧ p.reserveSpace size storeId =
    (.ok, id, p.setSize id.poolIndex.toNat id.packetIndex.toNat size)) ∨
  ∃ status id reporter, status ≠ .ok ∧ p.reserveSpace size storeId =
    (status, id, { p with internalErrorReporter := reporter })
  := by
  cases hindex : p.getSubPoolIndex size 0 with
  | none =>
      right
      refine ⟨StorageManagerIF.dataTooLarge, storeId, p.internalErrorReporter, by decide, ?_⟩
      rw [reserveSpace, hindex]
  | some n =>
      obtain ⟨-, hn, hsize⟩ := getSubPoolIndex_some hindex
      have hroom : ∀ id, p.findSpace size n storeId.packetIndex = (.ok, id) →
          p.IsRoom size id := by
        intro id h
        rw [findSpace] at h
        split at h
        · rename_i k hempty
          cases h
          apply isRoom_of_findEmpty hn hsize hempty
        · split_ifs at h
          · apply spill_ok h
          · cases h
      simp only [reserveSpace, hindex]
      rcases hfind : p.findSpace size n storeId.packetIndex with ⟨status, id⟩
      cases status with
      | ok =>
          left
          exact ⟨id, hroom id hfind, rfl⟩
      | failed =>
          right
          exact ⟨_, _, _, ReturnValue.noConfusion, rfl⟩
      | makeCode classId number =>
          right
          exact ⟨_, _, _, ReturnValue.noConfusion, rfl⟩

/-- An element that is free is given out, or all elements are left as they are. -/
theorem getFreeElement_cases (p : LocalPool) (storeId : StoreAddress) (size : ℕ) :
  (∃ id, p.IsRoom size id ∧ p.getFreeElement storeId size =
    (.ok, id, some (id.poolIndex.toNat, p.getRawPosition id),
      p.setSize id.poolIndex.toNat id.packetIndex.toNat size)) ∨
  ∃ status id reporter, status ≠ .ok ∧ p.getFreeElement storeId size =
    (status, id, none, { p with internalErrorReporter := reporter })
  := by
  rcases reserveSpace_cases p size storeId with
    ⟨id, hroom, hreserve⟩ | ⟨status, id, reporter, hstatus, hreserve⟩
  · left
    refine ⟨id, hroom, ?_⟩
    simp only [getFreeElement, hreserve]
    rfl
  · right
    refine ⟨status, id, reporter, hstatus, ?_⟩
    cases status with
    | ok => contradiction
    | failed => simp only [getFreeElement, hreserve]
    | makeCode classId number => simp only [getFreeElement, hreserve]

end

end LocalPool
