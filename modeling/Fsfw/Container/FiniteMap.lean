import Fsfw.Container.FixedMap

/-!
# The map of fixed capacity as a finite map

`FiniteMap.Call` is what a `FixedMap` is for: a set of pairs with distinct keys, given as a
multiset, of at most `capacity` pairs, and what each call returns and makes of it.

A `FixedMap` is a finite map as long as every byte string it is deserialized from is one of a
map: it has at most `maxSize` pairs, all of them complete, with distinct keys, or it is too
short for the number of pairs, which leaves the map alone (`Admissible`).  Every run of such
calls returns what the finite map returns (`run_finiteMap`).  Other byte strings leave a map
with too many pairs, or with a key twice (`run_not_finiteMap`).
-/

namespace FixedMap

open Memory

variable {κ ν : Type}

/-- The pairs fit into the array, and their keys are distinct. -/
structure Inv (m : FixedMap κ ν) : Prop where
  size_le : m.size ≤ m.maxSize
  nodup : (m.stored.map Prod.fst).Nodup

theorem inv_new (garbage : ℕ → κ × ν) (maxSize : ℕ) :
  (new garbage maxSize).Inv
  where
  size_le := Nat.zero_le _
  nodup := List.nodup_nil

@[simp]
theorem length_stored (m : FixedMap κ ν) :
  m.stored.length = m.size
  := length_slice _ _ _

theorem mem_stored {m : FixedMap κ ν} {i : ℕ} (h : i < m.size) :
  m.theMap i ∈ m.stored
  := by
  apply List.mem_of_getElem? (i := i)
  rw [stored, getElem?_slice, if_pos h, Nat.zero_add]

theorem read_of_lt {m : FixedMap κ ν} {i : ℕ} (h : i < m.maxSize) :
  m.read i = some (m.theMap i)
  := if_pos h

theorem write_of_lt {m : FixedMap κ ν} {i : ℕ} (h : i < m.maxSize) (x : κ × ν) :
  m.write i x = some { m with theMap := overwrite m.theMap i [x] }
  := if_pos h

theorem mem_keys_coe {l : List (κ × ν)} {key : κ} :
  key ∈ (l : Multiset (κ × ν)).map Prod.fst ↔ ∃ x ∈ l, x.1 = key
  := Multiset.mem_map

/-- Two pairs with one key are the same pair. -/
theorem Inv.eq_of_key {m : FixedMap κ ν} (hm : m.Inv) {x y : κ × ν} (hx : x ∈ m.stored)
    (hy : y ∈ m.stored) (h : x.1 = y.1) :
  x = y
  := List.inj_on_of_nodup_map hm.nodup hx hy h

/-! ### Searching -/

section Search

variable [DecidableEq κ]

theorem findLoop_eq (m : FixedMap κ ν) (key : κ) {i rounds : ℕ}
    (h : i + rounds ≤ m.maxSize) :
  m.findLoop key i rounds
    = some (i + (slice m.theMap i rounds).findIdx fun x => x.1 = key)
  := by
  induction rounds generalizing i with
  | zero =>
      rfl
  | succ rounds ih =>
      rw [findLoop, read_of_lt (by omega), slice_succ, List.findIdx_cons]
      by_cases hkey : (m.theMap i).1 = key
      · simp [hkey]
      · simp only [hkey, if_false, decide_false, cond_false]
        rw [ih (by omega)]
        congr 1
        omega

/-- A search ends at a pair with the key, or behind the last pair when there is none. -/
theorem Inv.findIndex_cases {m : FixedMap κ ν} (hm : m.Inv) (key : κ) :
  ∃ i, m.findIndex key = some i ∧
    ((i < m.size ∧ (m.theMap i).1 = key) ∨ (m.size ≤ i ∧ ¬ ∃ x ∈ m.stored, x.1 = key))
  := by
  rw [findIndex]
  by_cases hsize : m.size = 0
  · use 1, if_pos hsize
    right
    use (by omega)
    rintro ⟨x, hx, -⟩
    have hpos := List.length_pos_of_mem hx
    rw [length_stored] at hpos
    omega
  · rw [if_neg hsize, findLoop_eq m key (by have := hm.size_le; omega), Nat.zero_add]
    use m.stored.findIdx fun x => x.1 = key, rfl
    have hiff : m.stored.findIdx (fun x => x.1 = key) < m.size
        ↔ ∃ x ∈ m.stored, x.1 = key := by
      rw [← length_stored]
      simp only [List.findIdx_lt_length, decide_eq_true_eq]
    by_cases hlt : m.stored.findIdx (fun x => decide (x.1 = key)) < m.size
    · left
      use hlt
      have hcell : m.stored[m.stored.findIdx fun x => x.1 = key]?
          = some (m.theMap (m.stored.findIdx fun x => x.1 = key)) := by
        rw [stored, getElem?_slice, ← stored, if_pos hlt, Nat.zero_add]
      simpa using List.findIdx_of_getElem?_eq_some hcell
    · right
      use Nat.le_of_not_lt hlt
      intro hex
      apply hlt (hiff.mpr hex)

theorem Inv.existsKey_eq {m : FixedMap κ ν} (hm : m.Inv) (key : κ) :
  m.existsKey key
    = some (if ∃ x ∈ m.stored, x.1 = key then .ok else Containers.keyDoesNotExist)
  := by
  obtain ⟨i, hfound, ⟨hi, hkey⟩ | ⟨hi, hnone⟩⟩ := hm.findIndex_cases key
  · have hex : ∃ x ∈ m.stored, x.1 = key := ⟨_, mem_stored hi, hkey⟩
    simp [existsKey, hfound, hi, hex]
  · rw [if_neg hnone]
    simp [existsKey, hfound, Nat.not_lt.mpr hi]

/-- The iterator found points to the pair with the key. -/
theorem Inv.find_of_mem {m : FixedMap κ ν} (hm : m.Inv) {x : κ × ν} (hx : x ∈ m.stored) :
  ∃ i, m.find x.1 = some i ∧ i < m.size ∧ m.theMap i = x
  := by
  have hex : ∃ y ∈ m.stored, y.1 = x.1 := ⟨x, hx, rfl⟩
  obtain ⟨i, hfound, ⟨hi, hkey⟩ | ⟨hi, hnone⟩⟩ := hm.findIndex_cases x.1
  · use i
    refine ⟨?_, hi, hm.eq_of_key (mem_stored hi) hx hkey⟩
    simp [find, hm.existsKey_eq, hex, hfound]
  · cases hnone hex

theorem Inv.find_of_not_exists {m : FixedMap κ ν} (hm : m.Inv) {key : κ}
    (h : ¬ ∃ x ∈ m.stored, x.1 = key) :
  m.find key = some m.size
  := by
  rw [find, hm.existsKey_eq, if_neg h]
  rfl

theorem Inv.valueAt_of_mem {m : FixedMap κ ν} (hm : m.Inv) {x : κ × ν} (hx : x ∈ m.stored) :
  m.valueAt x.1 = some x.2
  := by
  obtain ⟨i, hfound, ⟨hi, hkey⟩ | ⟨hi, hnone⟩⟩ := hm.findIndex_cases x.1
  · have hread := read_of_lt (Nat.lt_of_lt_of_le hi hm.size_le)
    rw [hm.eq_of_key (mem_stored hi) hx hkey] at hread
    simp [valueAt, hfound, hread]
  · cases hnone ⟨x, hx, rfl⟩

theorem Inv.findValue_of_mem {m : FixedMap κ ν} (hm : m.Inv) {x : κ × ν}
    (hx : x ∈ m.stored) :
  m.findValue x.1 = some (.ok, some x.2)
  := by
  have hex : ∃ y ∈ m.stored, y.1 = x.1 := ⟨x, hx, rfl⟩
  obtain ⟨i, hfound, ⟨hi, hkey⟩ | ⟨hi, hnone⟩⟩ := hm.findIndex_cases x.1
  · have hread := read_of_lt (Nat.lt_of_lt_of_le hi hm.size_le)
    rw [hm.eq_of_key (mem_stored hi) hx hkey] at hread
    simp [findValue, hm.existsKey_eq, hex, hfound, hread]
  · cases hnone hex

theorem Inv.findValue_of_not_exists {m : FixedMap κ ν} (hm : m.Inv) {key : κ}
    (h : ¬ ∃ x ∈ m.stored, x.1 = key) :
  m.findValue key = some (Containers.keyDoesNotExist, none)
  := by
  rw [findValue, hm.existsKey_eq, if_neg h]
  rfl

end Search

/-! ### Inserting and removing -/

/-- The map with one more pair behind the others. -/
def append (m : FixedMap κ ν) (x : κ × ν) : FixedMap κ ν :=
  { m with theMap := overwrite m.theMap m.size [x], size := m.size + 1 }

theorem stored_append (m : FixedMap κ ν) (x : κ × ν) :
  (m.append x).stored = m.stored ++ [x]
  := by
  have hnew := slice_overwrite_self m.theMap m.size [x]
  simp only [append, stored]
  rw [slice_add, slice_overwrite_of_disjoint (by omega), Nat.zero_add]
  congr 1

theorem Inv.append {m : FixedMap κ ν} (hm : m.Inv) {x : κ × ν} (hsize : m.size ≠ m.maxSize)
    (hkey : ¬ ∃ y ∈ m.stored, y.1 = x.1) :
  (m.append x).Inv
  where
  size_le := Nat.lt_of_le_of_ne hm.size_le hsize
  nodup := by
    rw [stored_append, List.map_append]
    apply List.Nodup.append hm.nodup (List.nodup_singleton _)
    intro k hk hk'
    obtain ⟨y, hy, rfl⟩ := List.mem_map.mp hk
    apply hkey
    use y, hy
    simpa using hk'

/-- The map with the last pair moved into the cell `i`. -/
def remove (m : FixedMap κ ν) (i : ℕ) : FixedMap κ ν :=
  { m with theMap := overwrite m.theMap i [m.theMap (m.size - 1)], size := m.size - 1 }

theorem perm_remove {m : FixedMap κ ν} {i : ℕ} (h : i < m.size) :
  List.Perm (m.theMap i :: (m.remove i).stored) m.stored
  := by
  have hperm := perm_slice_overwrite_last m.theMap (p := 0) h
  simpa [stored, remove] using hperm

theorem Inv.remove {m : FixedMap κ ν} (hm : m.Inv) {i : ℕ} (h : i < m.size) :
  (m.remove i).Inv
  where
  size_le := Nat.le_trans (Nat.sub_le _ _) hm.size_le
  nodup := by
    have hperm := (perm_remove h).map Prod.fst
    apply (List.nodup_cons.mp (hperm.nodup_iff.mpr hm.nodup)).2

/-- Removing a pair leaves the pairs with other keys. -/
theorem Inv.coe_remove [DecidableEq κ] {m : FixedMap κ ν} (hm : m.Inv) {i : ℕ}
    (h : i < m.size) :
  ((m.remove i).stored : Multiset (κ × ν))
    = Multiset.filter (fun x => x.1 ≠ (m.theMap i).1) (m.stored : Multiset (κ × ν))
  := by
  have hperm := perm_remove h
  have hnotMem : (m.theMap i).1 ∉ (m.remove i).stored.map Prod.fst := by
    have hnodup := (hperm.map Prod.fst).nodup_iff.mpr hm.nodup
    apply (List.nodup_cons.mp hnodup).1
  rw [← Multiset.coe_eq_coe.mpr hperm, ← Multiset.cons_coe,
    Multiset.filter_cons_of_neg _ (by simp)]
  symm
  apply Multiset.filter_eq_self.mpr
  intro x hx hkey
  apply hnotMem
  rw [← hkey]
  apply List.mem_map_of_mem hx

section Calls

variable [DecidableEq κ]

theorem Inv.insert_eq {m : FixedMap κ ν} (hm : m.Inv) (key : κ) (value : ν) :
  m.insert key value =
    if ∃ x ∈ m.stored, x.1 = key then
      some (Containers.keyAlreadyExists, none, m)
    else if m.size = m.maxSize then
      some (Containers.mapFull, none, m)
    else
      some (.ok, some m.size, m.append (key, value))
  := by
  rw [insert, hm.existsKey_eq]
  by_cases hex : ∃ x ∈ m.stored, x.1 = key
  · simp [hex]
  · by_cases hsize : m.size = m.maxSize
    · simp only [hex, hsize]
      rfl
    · have hlt := Nat.lt_of_le_of_ne hm.size_le hsize
      simp only [hex, hsize, write_of_lt hlt]
      rfl

theorem Inv.erase_cases {m : FixedMap κ ν} (hm : m.Inv) (key : κ) :
  (∃ i, i < m.size ∧ (m.theMap i).1 = key ∧ m.erase key = some (.ok, m.remove i)) ∨
    ((¬ ∃ x ∈ m.stored, x.1 = key) ∧ m.erase key = some (Containers.keyDoesNotExist, m))
  := by
  obtain ⟨i, hfound, ⟨hi, hkey⟩ | ⟨hi, hnone⟩⟩ := hm.findIndex_cases key
  · left
    have hmax := hm.size_le
    use i, hi, hkey
    simp only [erase, hfound, read_of_lt (show m.size - 1 < m.maxSize by omega),
      Option.bind_eq_bind, Option.bind_some, write_of_lt (show i < m.maxSize by omega)]
    simp [Nat.not_le.mpr hi, FixedMap.remove]
  · right
    use hnone
    simp [erase, hfound, hi]

/-- Erasing the pair that was inserted last leaves the pairs that were there before. -/
theorem Inv.erase_append {m : FixedMap κ ν} (hm : m.Inv) {key : κ} (value : ν)
    (hsize : m.size ≠ m.maxSize) (hkey : ¬ ∃ x ∈ m.stored, x.1 = key) :
  ∃ m', (m.append (key, value)).erase key = some (.ok, m') ∧ m'.Inv ∧ m'.stored = m.stored
  := by
  have hm' : (m.append (key, value)).Inv := hm.append hsize hkey
  obtain ⟨i, hi, hfound, herase⟩ | ⟨hnone, _⟩ := hm'.erase_cases key
  · -- The search cannot end before the last cell, where no pair has the key.
    obtain rfl | hlt : i = m.size ∨ i < m.size := by
      have : i < m.size + 1 := hi
      omega
    · use (m.append (key, value)).remove m.size, herase, hm'.remove hi
      simp only [FixedMap.remove, FixedMap.append, stored, Nat.add_sub_cancel]
      rw [slice_overwrite_of_disjoint (by omega), slice_overwrite_of_disjoint (by omega)]
    · exfalso
      apply hkey
      use m.theMap i, mem_stored hlt
      rw [← hfound]
      simp only [FixedMap.append]
      rw [overwrite_of_lt hlt]
  · exfalso
    apply hnone
    use (key, value)
    rw [stored_append]
    simp

/-- An iterator to a pair erases this pair. -/
theorem Inv.eraseIterator_eq {m : FixedMap κ ν} (hm : m.Inv) {iter : ℕ}
    (h : iter < m.size) :
  m.eraseIterator iter = some (ReturnValue.ok, (iter : ℤ) - 1, m.remove iter)
  := by
  have hmax := hm.size_le
  have hcell := read_of_lt (show iter < m.maxSize by omega)
  obtain ⟨i, hfound, ⟨hi, hkey⟩ | ⟨-, hnone⟩⟩ := hm.findIndex_cases (m.theMap iter).1
  · -- keys are distinct, so the search comes back to the cell of the iterator
    have hiter : i = iter := by
      have hsame := hm.eq_of_key (mem_stored hi) (mem_stored h) hkey
      have hget : m.stored[i]? = m.stored[iter]? := by
        rw [stored, getElem?_slice, getElem?_slice, if_pos hi, if_pos h, Nat.zero_add,
          Nat.zero_add, hsame]
      apply (List.getElem?_inj (by simpa using hi) (hm.nodup.of_map _)).mp hget
    rw [hiter] at hfound
    simp only [eraseIterator, hcell, hfound,
      read_of_lt (show m.size - 1 < m.maxSize by omega),
      write_of_lt (show iter < m.maxSize by omega), Option.bind_eq_bind, Option.bind_some]
    simp [Nat.not_le.mpr h, FixedMap.remove]
  · cases hnone ⟨_, mem_stored h, rfl⟩

end Calls

/-! ### Deserializing -/

section Deserialization

variable (keyFrom : Deserializer κ) (valueFrom : Deserializer ν)

/-- The bytes start with the encodings of the pairs, one after another.  Whatever an object
holds before, it is read completely. -/
inductive EncodesPairs (streamEndianness : Endianness) :
    List UInt8 → List (κ × ν) → List UInt8 → Prop where
  | nil (buffer : List UInt8) : EncodesPairs streamEndianness buffer [] buffer
  | cons {buffer buffer₁ buffer₂ rest : List UInt8} {key : κ} {value : ν}
      {pairs : List (κ × ν)}
      (hkey : ∀ old, keyFrom streamEndianness old buffer = (.ok, key, buffer₁))
      (hvalue : ∀ old, valueFrom streamEndianness old buffer₁ = (.ok, value, buffer₂))
      (hpairs : EncodesPairs streamEndianness buffer₂ pairs rest) :
      EncodesPairs streamEndianness buffer ((key, value) :: pairs) rest

/-- The bytes start with the encoding of a map: the number of pairs, and the pairs. -/
def Encodes (streamEndianness : Endianness) (buffer : List UInt8)
    (pairs : List (κ × ν)) : Prop :=
  ∃ buffer₁ rest,
    (∀ old, SerializeAdapter.deSerializeNumber 4 streamEndianness old buffer
      = (.ok, pairs.length, buffer₁)) ∧
    EncodesPairs keyFrom valueFrom streamEndianness buffer₁ pairs rest

variable {keyFrom valueFrom}

/-- The loop of `deSerialize` stores the pairs that the bytes encode. -/
theorem deSerializeLoop_eq {streamEndianness : Endianness} {buffer rest : List UInt8}
    {pairs : List (κ × ν)}
    (h : EncodesPairs keyFrom valueFrom streamEndianness buffer pairs rest)
    (m : FixedMap κ ν) {i : ℕ} (hi : i + pairs.length ≤ m.maxSize) :
  deSerializeLoop keyFrom valueFrom streamEndianness m i pairs.length buffer
    = some (.ok, { m with theMap := overwrite m.theMap i pairs }, rest)
  := by
  induction h generalizing m i with
  | nil buffer =>
      rw [overwrite_nil]
      rfl
  | @cons buffer buffer₁ buffer₂ rest key value pairs hkey hvalue hpairs ih =>
      rw [List.length_cons] at hi
      have hlt : i < m.maxSize := by omega
      have hstored : overwrite m.theMap i ((key, value) :: pairs)
          = overwrite (overwrite m.theMap i [(key, value)]) (i + 1) pairs :=
        overwrite_append m.theMap i [(key, value)] pairs
      simp only [List.length_cons, deSerializeLoop, read_of_lt hlt, write_of_lt hlt, hkey,
        hvalue, Option.bind_eq_bind, Option.bind_some, if_true]
      rw [ih _ (by simp only; omega), hstored]

/-- A byte string that is too short for the number of pairs leaves the map alone. -/
theorem deSerialize_of_short {m : FixedMap κ ν} (h : m.size ≤ m.maxSize)
    {streamEndianness : Endianness} {buffer : List UInt8} (hlen : buffer.length < 4) :
  m.deSerialize keyFrom valueFrom streamEndianness buffer
    = some (SerializeIF.streamTooShort, m, buffer)
  := by
  simp only [deSerialize, SerializeAdapter.deSerializeNumber, if_neg (Nat.not_le.mpr hlen)]
  rw [if_neg (Nat.not_lt.mpr h), if_neg (by decide)]

/-- A byte string that encodes pairs replaces the pairs of the map by them. -/
theorem deSerialize_of_encodes {m : FixedMap κ ν} {streamEndianness : Endianness}
    {buffer : List UInt8} {pairs : List (κ × ν)}
    (h : Encodes keyFrom valueFrom streamEndianness buffer pairs)
    (hlen : pairs.length ≤ m.maxSize) :
  ∃ m' rest, m.deSerialize keyFrom valueFrom streamEndianness buffer = some (.ok, m', rest) ∧
    m'.stored = pairs ∧ m'.size = pairs.length ∧ m'.maxSize = m.maxSize
  := by
  obtain ⟨buffer₁, rest, hcount, hpairs⟩ := h
  have hloop := deSerializeLoop_eq hpairs { m with size := pairs.length } (i := 0)
    (by simpa using hlen)
  use { m with theMap := overwrite m.theMap 0 pairs, size := pairs.length }, rest
  refine ⟨?_, slice_overwrite_self m.theMap 0 pairs, rfl, rfl⟩
  simp only [deSerialize, hcount, if_true]
  rw [if_neg (Nat.not_lt.mpr hlen), hloop]

end Deserialization

end FixedMap

namespace FiniteMap

open FixedMap

variable {κ ν : Type} [DecidableEq κ] (keyFrom : Deserializer κ) (valueFrom : Deserializer ν)

/-- `Call … capacity s op output s'`: the call `op` of a finite map with the pairs `s` returns
`output` and leaves the pairs `s'`. -/
def Call (capacity : ℕ) (s : Multiset (κ × ν)) :
    Op κ ν → Output κ ν → Multiset (κ × ν) → Prop
  | .insert key value, .code result, s' =>
      if key ∈ s.map Prod.fst then
        result = Containers.keyAlreadyExists ∧ s' = s
      else if s.card = capacity then
        result = Containers.mapFull ∧ s' = s
      else
        result = .ok ∧ s' = (key, value) ::ₘ s
  | .erase key, .code result, s' =>
      (result = if key ∈ s.map Prod.fst then .ok else Containers.keyDoesNotExist) ∧
        s' = s.filter fun x => x.1 ≠ key
  | .eraseIterator _, .erased pair result, s' =>
      pair ∈ s ∧ result = .ok ∧ s' = s.filter fun x => x.1 ≠ pair.1
  | .find key, .pair pair, s' =>
      s' = s ∧ ∀ x, pair = some x ↔ x ∈ s ∧ x.1 = key
  | .findValue key, .value result value, s' =>
      s' = s ∧ (∀ v, value = some v ↔ (key, v) ∈ s) ∧
        result = if key ∈ s.map Prod.fst then .ok else Containers.keyDoesNotExist
  | .clear, .code result, s' => result = .ok ∧ s' = 0
  | .deSerialize streamEndianness buffer, .code result, s' =>
      (buffer.length < 4 ∧ result = SerializeIF.streamTooShort ∧ s' = s) ∨
      ∃ pairs : List (κ × ν), Encodes keyFrom valueFrom streamEndianness buffer pairs ∧
        result = .ok ∧ s' = pairs
  | _, _, _ => False

/-- The calls of a run, one after another. -/
inductive Calls (capacity : ℕ) :
    Multiset (κ × ν) → List (Op κ ν) → List (Output κ ν) → Multiset (κ × ν) → Prop where
  | nil (s : Multiset (κ × ν)) : Calls capacity s [] [] s
  | cons {s s' s'' : Multiset (κ × ν)} {op : Op κ ν} {output : Output κ ν}
      {ops : List (Op κ ν)} {outputs : List (Output κ ν)}
      (hcall : Call keyFrom valueFrom capacity s op output s')
      (hcalls : Calls capacity s' ops outputs s'') :
      Calls capacity s (op :: ops) (output :: outputs) s''

end FiniteMap

namespace FixedMap

open FiniteMap

variable {κ ν : Type} [DecidableEq κ] {keyFrom : Deserializer κ} {valueFrom : Deserializer ν}

/-- The iterator of a call points to a pair, and the bytes of a call are too short for the
number of pairs, or encode a map that fits. -/
def Admissible (keyFrom : Deserializer κ) (valueFrom : Deserializer ν) (m : FixedMap κ ν) :
    Op κ ν → Prop
  | .eraseIterator iter => iter < m.size
  | .deSerialize streamEndianness buffer =>
      buffer.length < 4 ∨
      ∃ pairs, Encodes keyFrom valueFrom streamEndianness buffer pairs ∧
        pairs.length ≤ m.maxSize ∧ (pairs.map Prod.fst).Nodup
  | _ => True

/-- The call returns what the finite map of the pairs returns, and leaves its pairs. -/
def Refines (keyFrom : Deserializer κ) (valueFrom : Deserializer ν) (m : FixedMap κ ν)
    (op : Op κ ν) : Prop :=
  ∃ m' output, step keyFrom valueFrom m op = some (m', output) ∧ m'.Inv ∧
    m'.maxSize = m.maxSize ∧ Call keyFrom valueFrom m.maxSize m.stored op output m'.stored

theorem Inv.insert_refines {m : FixedMap κ ν} (hm : m.Inv) (key : κ) (value : ν) :
  m.Refines keyFrom valueFrom (.insert key value)
  := by
  by_cases hex : ∃ x ∈ m.stored, x.1 = key
  · use m, .code Containers.keyAlreadyExists
    refine ⟨by simp [step, hm.insert_eq, hex], hm, rfl, ?_⟩
    rw [Call, if_pos (mem_keys_coe.mpr hex)]
    use rfl
  · by_cases hsize : m.size = m.maxSize
    · use m, .code Containers.mapFull
      refine ⟨?_, hm, rfl, ?_⟩
      · rw [step, hm.insert_eq, if_neg hex, if_pos hsize]
        rfl
      · rw [Call, if_neg (mem_keys_coe.not.mpr hex), if_pos (by simpa using hsize)]
        use rfl
    · use m.append (key, value), .code .ok
      refine ⟨?_, hm.append hsize hex, rfl, ?_⟩
      · rw [step, hm.insert_eq, if_neg hex, if_neg hsize]
        rfl
      · rw [Call, if_neg (mem_keys_coe.not.mpr hex), if_neg (by simpa using hsize)]
        use rfl
        rw [stored_append, Multiset.cons_coe, Multiset.coe_eq_coe]
        apply List.perm_append_singleton

theorem Inv.erase_refines {m : FixedMap κ ν} (hm : m.Inv) (key : κ) :
  m.Refines keyFrom valueFrom (.erase key)
  := by
  rcases hm.erase_cases key with ⟨i, hi, hkey, herase⟩ | ⟨hnone, herase⟩
  · have hex : ∃ x ∈ m.stored, x.1 = key := ⟨_, mem_stored hi, hkey⟩
    use m.remove i, .code .ok
    refine ⟨by simp [step, herase], hm.remove hi, rfl, ?_, ?_⟩
    · rw [if_pos (mem_keys_coe.mpr hex)]
    · rw [hm.coe_remove hi, hkey]
  · use m, .code Containers.keyDoesNotExist
    refine ⟨by simp [step, herase], hm, rfl, ?_, ?_⟩
    · rw [if_neg (mem_keys_coe.not.mpr hnone)]
    · symm
      apply Multiset.filter_eq_self.mpr
      intro x hx hkey
      apply hnone ⟨x, hx, hkey⟩

theorem Inv.eraseIterator_refines {m : FixedMap κ ν} (hm : m.Inv) {iter : ℕ}
    (h : iter < m.size) :
  m.Refines keyFrom valueFrom (.eraseIterator iter)
  := by
  have hread := read_of_lt (Nat.lt_of_lt_of_le h hm.size_le)
  use m.remove iter, .erased (m.theMap iter) .ok
  refine ⟨by simp [step, hread, hm.eraseIterator_eq h], hm.remove h, rfl, ?_⟩
  exact ⟨mem_stored h, rfl, hm.coe_remove h⟩

theorem Inv.find_refines {m : FixedMap κ ν} (hm : m.Inv) (key : κ) :
  m.Refines keyFrom valueFrom (.find key)
  := by
  by_cases hex : ∃ x ∈ m.stored, x.1 = key
  · obtain ⟨x, hx, rfl⟩ := hex
    obtain ⟨i, hfind, hi, hcell⟩ := hm.find_of_mem hx
    have hread := read_of_lt (Nat.lt_of_lt_of_le hi hm.size_le)
    rw [hcell] at hread
    use m, .pair (some x)
    refine ⟨by simp [step, hfind, Nat.ne_of_lt hi, hread], hm, rfl, rfl, ?_⟩
    intro y
    constructor
    · intro h
      cases h
      exact ⟨hx, rfl⟩
    · rintro ⟨hy, hkey⟩
      rw [hm.eq_of_key hy hx hkey]
  · use m, .pair none
    refine ⟨by simp [step, hm.find_of_not_exists hex], hm, rfl, rfl, ?_⟩
    intro y
    constructor
    · intro h
      cases h
    · rintro ⟨hy, hkey⟩
      cases hex ⟨y, hy, hkey⟩

theorem Inv.findValue_refines {m : FixedMap κ ν} (hm : m.Inv) (key : κ) :
  m.Refines keyFrom valueFrom (.findValue key)
  := by
  by_cases hex : ∃ x ∈ m.stored, x.1 = key
  · obtain ⟨x, hx, rfl⟩ := id hex
    use m, .value .ok (some x.2)
    refine ⟨by simp [step, hm.findValue_of_mem hx], hm, rfl, rfl, ?_, ?_⟩
    · intro v
      constructor
      · intro h
        cases h
        exact hx
      · intro hv
        rw [hm.eq_of_key hx hv rfl]
    · rw [if_pos (mem_keys_coe.mpr hex)]
  · use m, .value Containers.keyDoesNotExist none
    refine ⟨by simp [step, hm.findValue_of_not_exists hex], hm, rfl, rfl, ?_, ?_⟩
    · intro v
      constructor
      · intro h
        cases h
      · intro hv
        cases hex ⟨_, hv, rfl⟩
    · rw [if_neg (mem_keys_coe.not.mpr hex)]

theorem Inv.deSerialize_refines {m : FixedMap κ ν} (hm : m.Inv)
    {streamEndianness : Endianness} {buffer : List UInt8}
    (h : m.Admissible keyFrom valueFrom (.deSerialize streamEndianness buffer)) :
  m.Refines keyFrom valueFrom (.deSerialize streamEndianness buffer)
  := by
  rcases h with hlen | ⟨pairs, hencodes, hlen, hnodup⟩
  · use m, .code SerializeIF.streamTooShort
    refine ⟨by simp [step, deSerialize_of_short hm.size_le hlen], hm, rfl, ?_⟩
    left
    use hlen, rfl
  · obtain ⟨m', rest, hread, hstored, hsize, hmax⟩ := deSerialize_of_encodes hencodes hlen
    use m', .code .ok
    refine ⟨by simp [step, hread], ⟨?_, ?_⟩, hmax, ?_⟩
    · rw [hsize, hmax]
      apply hlen
    · rw [hstored]
      apply hnodup
    · right
      use pairs, hencodes, rfl
      rw [hstored]

/-- An admissible call returns what the finite map of the pairs returns. -/
theorem Inv.step_refines {m : FixedMap κ ν} (hm : m.Inv) {op : Op κ ν}
    (hop : m.Admissible keyFrom valueFrom op) :
  m.Refines keyFrom valueFrom op
  := by
  cases op with
  | insert key value => apply hm.insert_refines
  | erase key => apply hm.erase_refines
  | eraseIterator iter => apply hm.eraseIterator_refines hop
  | find key => apply hm.find_refines
  | findValue key => apply hm.findValue_refines
  | clear =>
      use m.clear, .code .ok
      exact ⟨rfl, ⟨Nat.zero_le _, List.nodup_nil⟩, rfl, rfl, rfl⟩
  | deSerialize streamEndianness buffer => apply hm.deSerialize_refines hop

/-- A run of admissible calls returns what the finite map of the pairs returns. -/
theorem Inv.run_refines_map {m : FixedMap κ ν} (hm : m.Inv) {ops : List (Op κ ν)}
    (hops : (step keyFrom valueFrom).Along (Admissible keyFrom valueFrom) m ops) :
  ∃ m' outputs, (step keyFrom valueFrom).run m ops = some (m', outputs) ∧ m'.Inv ∧
    m'.maxSize = m.maxSize ∧
    Calls keyFrom valueFrom m.maxSize m.stored ops outputs m'.stored
  := by
  induction ops generalizing m with
  | nil =>
      use m, [], rfl, hm, rfl
      apply Calls.nil
  | cons op ops ih =>
      obtain ⟨m₁, output, hstep, hm₁, hmax, hcall⟩ := hm.step_refines hops.1
      obtain ⟨m', outputs, hrun, hm', hmax', hcalls⟩ := ih hm₁ (hops.2 m₁ output hstep)
      use m', output :: outputs, Step.run_cons hstep hrun, hm', hmax'.trans hmax
      rw [hmax] at hcalls
      apply Calls.cons hcall hcalls

/-- Every run of admissible calls from the empty map keeps a finite map: the pairs fit into
the array, their keys are distinct, and the calls return what they return on the finite map of
the pairs. -/
theorem run_finiteMap {garbage : ℕ → κ × ν} {capacity : ℕ} {ops : List (Op κ ν)}
    (hops : (step keyFrom valueFrom).Along (Admissible keyFrom valueFrom)
      (new garbage capacity) ops) :
  ∃ m outputs, (step keyFrom valueFrom).run (new garbage capacity) ops = some (m, outputs) ∧
    m.size ≤ capacity ∧ (m.stored.map Prod.fst).Nodup ∧
    Calls keyFrom valueFrom capacity 0 ops outputs m.stored
  := by
  obtain ⟨m, outputs, hrun, hm, hmax, hcalls⟩ := (inv_new garbage capacity).run_refines_map hops
  use m, outputs, hrun
  refine ⟨?_, hm.nodup, hcalls⟩
  rw [← show m.maxSize = capacity from hmax]
  apply hm.size_le

open SerializeAdapter in
/-- A pair goes into an empty map for two, and then the map with the keys `1` and `2` is
read. -/
theorem run_finiteMap_two :
  ∃ m outputs, (step deSerializeByte deSerializeByte).run (new (fun _ => (0, 0)) 2)
      [.insert 7 8, .deSerialize .big [0, 0, 0, 2, 1, 5, 2, 6]] = some (m, outputs) ∧
    m.size ≤ 2 ∧ (m.stored.map Prod.fst).Nodup ∧
    Calls deSerializeByte deSerializeByte 2 0
      [.insert 7 8, .deSerialize .big [0, 0, 0, 2, 1, 5, 2, 6]] outputs m.stored
  := by
  apply run_finiteMap
  use trivial
  intro m output hstep
  cases hstep
  refine ⟨?_, fun _ _ _ => trivial⟩
  right
  use [(1, 5), (2, 6)]
  refine ⟨⟨[1, 5, 2, 6], [], fun _ => rfl, ?_⟩, by decide, by decide⟩
  apply EncodesPairs.cons (fun _ => rfl) (fun _ => rfl)
  apply EncodesPairs.cons (fun _ => rfl) (fun _ => rfl)
  apply EncodesPairs.nil

open SerializeAdapter in
/-- Three pairs are announced to a map for two, which then has the size three; a key comes
twice, and is then twice in the map; and the bytes end behind the number of pairs, and the
map then has the pairs that the array happened to hold. -/
theorem run_not_finiteMap :
  (∃ m outputs, (step deSerializeByte deSerializeByte).run (new (fun _ => (0, 0)) 2)
      [.deSerialize .big [0, 0, 0, 3]] = some (m, outputs) ∧ ¬ m.size ≤ 2) ∧
  (∃ m outputs, (step deSerializeByte deSerializeByte).run (new (fun _ => (0, 0)) 2)
      [.deSerialize .big [0, 0, 0, 2, 1, 5, 1, 6]] = some (m, outputs) ∧
    ¬ (m.stored.map Prod.fst).Nodup) ∧
  (∃ m outputs, (step deSerializeByte deSerializeByte).run (new (fun _ => (0, 0)) 2)
      [.deSerialize .big [0, 0, 0, 2]] = some (m, outputs) ∧
    ¬ (m.stored.map Prod.fst).Nodup)
  := by
  have hthree : (((step deSerializeByte deSerializeByte).run (new (fun _ => (0, 0)) 2)
      [.deSerialize .big [0, 0, 0, 3]]).map fun r => r.1.size) = some 3 := by decide
  have htwice : (((step deSerializeByte deSerializeByte).run (new (fun _ => (0, 0)) 2)
      [.deSerialize .big [0, 0, 0, 2, 1, 5, 1, 6]]).map fun r => r.1.stored)
      = some [(1, 5), (1, 6)] := by decide
  have hgarbage : (((step deSerializeByte deSerializeByte).run (new (fun _ => (0, 0)) 2)
      [.deSerialize .big [0, 0, 0, 2]]).map fun r => r.1.stored)
      = some [(0, 0), (0, 0)] := by decide
  obtain ⟨r₁, hrun₁, hsize⟩ := Option.map_eq_some_iff.mp hthree
  obtain ⟨r₂, hrun₂, hstored₂⟩ := Option.map_eq_some_iff.mp htwice
  obtain ⟨r₃, hrun₃, hstored₃⟩ := Option.map_eq_some_iff.mp hgarbage
  refine ⟨⟨r₁.1, r₁.2, hrun₁, ?_⟩, ⟨r₂.1, r₂.2, hrun₂, ?_⟩, ⟨r₃.1, r₃.2, hrun₃, ?_⟩⟩
  · rw [hsize]
    decide
  · rw [hstored₂]
    decide
  · rw [hstored₃]
    decide

end FixedMap
