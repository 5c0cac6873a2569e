import Fsfw.Container.FiniteMap

/-!
# Serializing the map of fixed capacity

A map should be serialized exactly when there is room for the number of its pairs and for all
pairs, and the bytes should give the map back (`SerializesFaithfully`).

The keys are numbers of a type that is built in, and the values are of such a type or know
how to serialize themselves (`SerialType`).  A key that finds no room is left out, and
nothing is said about it when its value finds room: in front of the values that are left, no
key finds room any more (`Masks`).  Apart from that, and from sizes of `2 ^ 32` bytes or more,
maps are serialized faithfully (`serializesFaithfully_iff`).
-/

/-- A built-in type of numbers, which are stored in `width` bytes. -/
structure NumberType (α : Type) where
  width : ℕ
  width_pos : 0 < width
  toNumber : α → ℕ
  ofNumber : ℕ → α
  toNumber_lt : ∀ x, toNumber x < 2 ^ (8 * width)
  ofNumber_toNumber : ∀ x, ofNumber (toNumber x) = x

namespace NumberType

variable {α : Type} (N : NumberType α)

def serialize (x : α) : Serializer :=
  SerializeAdapter.serialize N.width (N.toNumber x)

def deSerialize : Deserializer α :=
  fun streamEndianness object buffer =>
    let (result, n, rest) :=
      SerializeAdapter.deSerializeNumber N.width streamEndianness (N.toNumber object) buffer
    (result, N.ofNumber n, rest)

def bytes (x : α) (e : Endianness) : List UInt8 :=
  SerializeAdapter.bytesOf N.width (N.toNumber x) e

@[simp]
theorem length_bytes (x : α) (e : Endianness) :
  (N.bytes x e).length = N.width
  := SerializeAdapter.length_bytesOf _ _ _

theorem serialize_eq (x : α) (maxSize : ℕ) (e : Endianness) (b : SerialBuffer) :
  N.serialize x maxSize e b =
    if b.size + N.width ≤ maxSize then (.ok, b.put (N.bytes x e))
    else (SerializeIF.bufferTooShort, b)
  := SerializeAdapter.serialize_eq N.width_pos _ _ _ _

end NumberType

theorem NumberType.deSerialize_bytes {α : Type} (N : NumberType α) (x old : α) (e : Endianness)
    (rest : List UInt8) :
  N.deSerialize e old (N.bytes x e ++ rest) = (.ok, x, rest)
  := by
  simp only [deSerialize, bytes]
  rw [SerializeAdapter.deSerializeNumber_bytesOf (N.toNumber_lt x)]
  simp only [N.ofNumber_toNumber]

/-- A type whose objects are serialized as the interface describes it: an object is written
when there is room for its announced size, else the call fails; and it is read back from its
bytes. -/
structure SerialType (α : Type) where
  serialize : α → Serializer
  deSerialize : Deserializer α
  getSerializedSize : α → ℕ
  bytes : α → Endianness → List UInt8
  length_bytes : ∀ x e, (bytes x e).length = getSerializedSize x
  serialize_eq : ∀ x {maxSize : ℕ} (e : Endianness) {b : SerialBuffer},
    b.size + getSerializedSize x ≤ maxSize → serialize x maxSize e b = (.ok, b.put (bytes x e))
  serialize_ne : ∀ x {maxSize : ℕ} (e : Endianness) {b : SerialBuffer},
    maxSize < b.size + getSerializedSize x → (serialize x maxSize e b).1 ≠ .ok
  deSerialize_bytes : ∀ x old e rest, deSerialize e old (bytes x e ++ rest) = (.ok, x, rest)

/-- The built-in types are serialized in this way. -/
def NumberType.serialType {α : Type} (N : NumberType α) : SerialType α where
  serialize := N.serialize
  deSerialize := N.deSerialize
  getSerializedSize _ := N.width
  bytes := N.bytes
  length_bytes := N.length_bytes
  serialize_eq x maxSize e b h := by rw [N.serialize_eq, if_pos h]
  serialize_ne x maxSize e b h := by
    rw [N.serialize_eq, if_neg (Nat.not_le.mpr h)]
    exact ReturnValue.noConfusion
  deSerialize_bytes x old e rest := N.deSerialize_bytes x old e rest

/-- Bytes, as numbers. -/
def NumberType.uint8 : NumberType UInt8 where
  width := 1
  width_pos := by decide
  toNumber := UInt8.toNat
  ofNumber := UInt8.ofNat
  toNumber_lt x := x.toNat_lt
  ofNumber_toNumber x := UInt8.ofNat_toNat

/-- Numbers of four bytes. -/
def NumberType.uint32 : NumberType UInt32 where
  width := 4
  width_pos := by decide
  toNumber := UInt32.toNat
  ofNumber := UInt32.ofNat
  toNumber_lt x := x.toNat_lt
  ofNumber_toNumber x := UInt32.ofNat_toNat

namespace FixedMap

variable {κ ν : Type} (K : NumberType κ) (V : SerialType ν)

/-- The bytes of some pairs. -/
def pairBytes (e : Endianness) (pairs : List (κ × ν)) : List UInt8 :=
  pairs.flatMap fun x => K.bytes x.1 e ++ V.bytes x.2 e

/-- The number of bytes of some pairs. -/
def pairsSize (pairs : List (κ × ν)) : ℕ :=
  (pairs.map fun x => K.width + V.getSerializedSize x.2).sum

/-- The number of bytes of the values of some pairs. -/
def valuesSize (pairs : List (κ × ν)) : ℕ :=
  (pairs.map fun x => V.getSerializedSize x.2).sum

/-- The whole encoding: the number of pairs, and the pairs. -/
def encoding (m : FixedMap κ ν) (e : Endianness) : List UInt8 :=
  SerializeAdapter.bytesOf 4 m.size e ++ pairBytes K V e m.stored

/-- There is room for the whole encoding. -/
def Fits (m : FixedMap κ ν) (maxSize size : ℕ) : Prop :=
  size + (4 + pairsSize K V m.stored) ≤ maxSize

instance (m : FixedMap κ ν) (maxSize size : ℕ) : Decidable (m.Fits K V maxSize size) :=
  inferInstanceAs (Decidable (_ ≤ _))

/-- A map is serialized when there is room for its encoding, which then gives the same map
back, else the call fails. -/
structure SerializesFaithfully (m : FixedMap κ ν) (maxSize : ℕ) (e : Endianness)
    (b : SerialBuffer) : Prop where
  of_fits : m.Fits K V maxSize b.size → ∃ bytes,
    m.serialize K.serialize V.serialize maxSize e b = some (.ok, b.put bytes) ∧
    bytes.length = m.getSerializedSize (fun _ => K.width) V.getSerializedSize ∧
    ∀ garbage, ∃ m' rest,
      (new garbage m.maxSize).deSerialize K.deSerialize V.deSerialize e bytes
        = some (.ok, m', rest) ∧
      m'.stored = m.stored
  of_not_fits : ¬ m.Fits K V maxSize b.size → ∃ result b',
    m.serialize K.serialize V.serialize maxSize e b = some (result, b') ∧ result ≠ .ok

/-- Behind the first `j` pairs there is no room for a key, but for the values that are left. -/
def Masks (m : FixedMap κ ν) (maxSize size : ℕ) : Prop :=
  ∃ j, j < m.size ∧
    maxSize < size + (4 + pairsSize K V (m.stored.take j)) + K.width ∧
    size + (4 + pairsSize K V (m.stored.take j)) + valuesSize V (m.stored.drop j) ≤ maxSize

variable {K V}

/-! ### The loop over the pairs -/

/-- The loop over the pairs in a list. -/
def serializePairs (K : NumberType κ) (V : SerialType ν) (maxSize : ℕ) (e : Endianness) :
    List (κ × ν) → SerialBuffer → ReturnValue × SerialBuffer
  | [], b => (.ok, b)
  | x :: pairs, b =>
      let b₁ := (K.serialize x.1 maxSize e b).2
      Serializer.andThen (V.serialize x.2 maxSize e b₁) fun b₂ =>
        serializePairs K V maxSize e pairs b₂

theorem serializeLoop_eq (m : FixedMap κ ν) {maxSize : ℕ} {e : Endianness} {i rounds : ℕ}
    (h : i + rounds ≤ m.maxSize) (b : SerialBuffer) :
  serializeLoop K.serialize V.serialize m maxSize e i rounds b
    = some (serializePairs K V maxSize e (Memory.slice m.theMap i rounds) b)
  := by
  induction rounds generalizing i b with
  | zero =>
      rfl
  | succ rounds ih =>
      rw [serializeLoop, read_of_lt (by omega), Memory.slice_succ, serializePairs]
      simp only [Option.bind_eq_bind, Option.bind_some, Serializer.andThen]
      split
      · apply ih (by omega)
      · rfl

theorem length_pairBytes (e : Endianness) (pairs : List (κ × ν)) :
  (pairBytes K V e pairs).length = pairsSize K V pairs
  := by
  rw [pairBytes, List.length_flatMap, pairsSize]
  congr 1
  apply List.map_congr_left
  intro x _
  rw [List.length_append, K.length_bytes, V.length_bytes]

section

variable {maxSize : ℕ} {e : Endianness}

/-- With room for a key, the loop goes on with the value. -/
theorem serializePairs_cons_of_key {x : κ × ν} {pairs : List (κ × ν)} {b : SerialBuffer}
    (h : b.size + K.width ≤ maxSize) :
  serializePairs K V maxSize e (x :: pairs) b =
    Serializer.andThen (V.serialize x.2 maxSize e (b.put (K.bytes x.1 e))) fun b₂ =>
      serializePairs K V maxSize e pairs b₂
  := by
  simp only [serializePairs, K.serialize_eq, if_pos h]

/-- Without room for a key, the loop goes on with the value, too. -/
theorem serializePairs_cons_of_no_key {x : κ × ν} {pairs : List (κ × ν)} {b : SerialBuffer}
    (h : maxSize < b.size + K.width) :
  serializePairs K V maxSize e (x :: pairs) b =
    Serializer.andThen (V.serialize x.2 maxSize e b) fun b₂ =>
      serializePairs K V maxSize e pairs b₂
  := by
  simp only [serializePairs, K.serialize_eq, if_neg (Nat.not_le.mpr h)]

theorem serializePairs_of_fits {pairs : List (κ × ν)} {b : SerialBuffer}
    (h : b.size + pairsSize K V pairs ≤ maxSize) :
  serializePairs K V maxSize e pairs b = (.ok, b.put (pairBytes K V e pairs))
  := by
  induction pairs generalizing b with
  | nil =>
      rw [pairBytes, List.flatMap_nil, SerialBuffer.put_nil]
      rfl
  | cons x pairs ih =>
      rw [pairsSize, List.map_cons, List.sum_cons, ← pairsSize] at h
      rw [serializePairs_cons_of_key (by omega), V.serialize_eq, Serializer.andThen_ok, ih]
      · simp only [SerialBuffer.put_put, pairBytes, List.flatMap_cons]
      · simp only [SerialBuffer.size_put, K.length_bytes, V.length_bytes]
        omega
      · rw [SerialBuffer.size_put, K.length_bytes]
        omega

/-- When no key finds room, the loop succeeds exactly when there is room for the values. -/
theorem serializePairs_ok_iff_of_no_key {pairs : List (κ × ν)} {b : SerialBuffer}
    (hb : b.size ≤ maxSize) (h : maxSize < b.size + K.width) :
  (serializePairs K V maxSize e pairs b).1 = .ok ↔ b.size + valuesSize V pairs ≤ maxSize
  := by
  induction pairs generalizing b with
  | nil =>
      simpa [serializePairs, valuesSize] using hb
  | cons x pairs ih =>
      rw [serializePairs_cons_of_no_key h, valuesSize, List.map_cons, List.sum_cons, ← valuesSize]
      rcases Nat.lt_or_ge maxSize (b.size + V.getSerializedSize x.2) with hlt | hle
      · have hne := V.serialize_ne x.2 e hlt
        rw [Serializer.andThen, if_neg hne, iff_false_left hne]
        omega
      · rw [V.serialize_eq x.2 e hle, Serializer.andThen_ok, ih]
        · rw [SerialBuffer.size_put, V.length_bytes]
          omega
        · rw [SerialBuffer.size_put, V.length_bytes]
          apply hle
        · rw [SerialBuffer.size_put]
          omega

/-- The loop succeeds exactly when there is room for all pairs, or when keys are left out
behind some of them and there is room for the values that are left. -/
theorem serializePairs_ok_iff (pairs : List (κ × ν)) {b : SerialBuffer} (hb : b.size ≤ maxSize) :
  (serializePairs K V maxSize e pairs b).1 = .ok ↔
    b.size + pairsSize K V pairs ≤ maxSize ∨
    ∃ j, j < pairs.length ∧ maxSize < b.size + pairsSize K V (pairs.take j) + K.width ∧
      b.size + pairsSize K V (pairs.take j) + valuesSize V (pairs.drop j) ≤ maxSize
  := by
  induction pairs generalizing b with
  | nil =>
      simpa [serializePairs, pairsSize] using hb
  | cons x pairs ih =>
      have hsize : ∀ l, pairsSize K V (x :: l) =
          K.width + V.getSerializedSize x.2 + pairsSize K V l := by
        intro l
        rw [pairsSize, List.map_cons, List.sum_cons, ← pairsSize]
      have hvalues : valuesSize V (x :: pairs) = V.getSerializedSize x.2 + valuesSize V pairs := by
        rw [valuesSize, List.map_cons, List.sum_cons, ← valuesSize]
      rw [hsize]
      rcases Nat.lt_or_ge maxSize (b.size + K.width) with hkey | hkey
      · rw [serializePairs_ok_iff_of_no_key hb hkey]
        constructor
        · intro h
          right
          use 0, Nat.succ_pos _
          simpa [pairsSize, hkey] using h
        · rintro (h | ⟨j, -, -, h⟩)
          · omega
          · cases j with
            | zero => simpa [pairsSize] using h
            | succ j =>
                rw [List.take_succ_cons, hsize] at h
                omega
      · rw [serializePairs_cons_of_key hkey]
        have hput : (b.put (K.bytes x.1 e)).size = b.size + K.width := by
          rw [SerialBuffer.size_put, K.length_bytes]
        rcases Nat.lt_or_ge maxSize (b.size + K.width + V.getSerializedSize x.2) with hlt | hle
        · have hne := V.serialize_ne x.2 e (hput.symm ▸ hlt)
          rw [Serializer.andThen, if_neg hne, iff_false_left hne]
          rintro (h | ⟨j, -, hnokey, h⟩)
          · omega
          · cases j with
            | zero =>
                simp only [List.take_zero, pairsSize, List.map_nil, List.sum_nil] at hnokey
                omega
            | succ j =>
                rw [List.take_succ_cons, hsize] at h
                omega
        · have hput₂ : ((b.put (K.bytes x.1 e)).put (V.bytes x.2 e)).size
              = b.size + K.width + V.getSerializedSize x.2 := by
            rw [SerialBuffer.size_put, V.length_bytes, hput]
          rw [V.serialize_eq x.2 e (hput.symm ▸ hle), Serializer.andThen_ok,
            ih (hput₂.symm ▸ hle), hput₂]
          constructor
          · rintro (h | ⟨j, hj, hnokey, h⟩)
            · left
              omega
            · right
              use j + 1, Nat.succ_lt_succ hj
              rw [List.take_succ_cons, List.drop_succ_cons, hsize]
              omega
          · rintro (h | ⟨j, hj, hnokey, h⟩)
            · left
              omega
            · cases j with
              | zero =>
                  simp only [List.take_zero, pairsSize, List.map_nil, List.sum_nil] at hnokey
                  omega
              | succ j =>
                  right
                  rw [List.take_succ_cons, hsize] at hnokey h
                  rw [List.drop_succ_cons] at h
                  use j, Nat.lt_of_succ_lt_succ hj
                  omega

end

/-! ### Whole maps -/

/-- `serialize` writes the number of pairs, and goes through the list of pairs. -/
theorem serialize_eq {m : FixedMap κ ν} (hm : m.size ≤ m.maxSize) (maxSize : ℕ) (e : Endianness)
    (b : SerialBuffer) :
  m.serialize K.serialize V.serialize maxSize e b =
    some (if b.size + 4 ≤ maxSize then
      serializePairs K V maxSize e m.stored (b.put (SerializeAdapter.bytesOf 4 m.size e))
    else
      (SerializeIF.bufferTooShort, b))
  := by
  simp only [serialize]
  rw [SerializeAdapter.serialize_eq (by decide)]
  split
  · simp only [if_true]
    rw [serializeLoop_eq m (by rwa [Nat.zero_add])]
    rfl
  · rfl

/-- `serialize` succeeds exactly when there is room for the encoding, or when it leaves out
keys. -/
theorem serialize_ok_iff {m : FixedMap κ ν} (hm : m.size ≤ m.maxSize) (maxSize : ℕ)
    (e : Endianness) (b : SerialBuffer) :
  (∃ b', m.serialize K.serialize V.serialize maxSize e b = some (.ok, b')) ↔
    m.Fits K V maxSize b.size ∨ m.Masks K V maxSize b.size
  := by
  rw [serialize_eq hm]
  have hput : (b.put (SerializeAdapter.bytesOf 4 m.size e)).size = b.size + 4 := by
    rw [SerialBuffer.size_put, SerializeAdapter.length_bytesOf]
  by_cases hroom : b.size + 4 ≤ maxSize
  · rw [if_pos hroom]
    have hok := serializePairs_ok_iff (K := K) (V := V) (e := e) m.stored
      (b := b.put (SerializeAdapter.bytesOf 4 m.size e)) (hput.symm ▸ hroom)
    rw [hput, length_stored] at hok
    simp only [Fits, Masks, ← Nat.add_assoc]
    rw [← hok]
    constructor
    · rintro ⟨b', h⟩
      rw [Option.some_inj.mp h]
    · intro h
      exact ⟨_, congrArg some (Prod.ext h rfl)⟩
  · rw [if_neg hroom]
    constructor
    · rintro ⟨b', h⟩
      cases h
    · rintro (h | ⟨j, -, -, h⟩)
      · rw [Fits] at h
        omega
      · omega

/-- The bytes of pairs encode them. -/
theorem encodesPairs (e : Endianness) (pairs : List (κ × ν)) (rest : List UInt8) :
  EncodesPairs K.deSerialize V.deSerialize e (pairBytes K V e pairs ++ rest) pairs rest
  := by
  induction pairs with
  | nil =>
      apply EncodesPairs.nil
  | cons x pairs ih =>
      rw [pairBytes, List.flatMap_cons, ← pairBytes, List.append_assoc, List.append_assoc]
      rcases x with ⟨key, value⟩
      apply EncodesPairs.cons
      · intro old
        apply K.deSerialize_bytes
      · intro old
        apply V.deSerialize_bytes
      · apply ih

theorem getSerializedSize_eq (m : FixedMap κ ν) :
  m.getSerializedSize (fun _ => K.width) V.getSerializedSize
    = (4 + pairsSize K V m.stored) % 2 ^ 32
  := by
  have hfold : ∀ (l : List (κ × ν)) (n : ℕ),
      l.foldl (fun printSize x =>
        ((printSize + K.width) % 2 ^ 32 + V.getSerializedSize x.2) % 2 ^ 32) (n % 2 ^ 32)
        = (n + pairsSize K V l) % 2 ^ 32 := by
    intro l
    induction l with
    | nil =>
        intro n
        rfl
    | cons x l ih =>
        intro n
        have hsum : ((n % 2 ^ 32 + K.width) % 2 ^ 32 + V.getSerializedSize x.2) % 2 ^ 32
            = (n + K.width + V.getSerializedSize x.2) % 2 ^ 32 := by
          omega
        rw [List.foldl_cons, hsum, ih, pairsSize, pairsSize, List.map_cons, List.sum_cons]
        congr 1
        omega
  exact hfold m.stored 4

theorem pairsSize_append (l l' : List (κ × ν)) :
  pairsSize K V (l ++ l') = pairsSize K V l + pairsSize K V l'
  := by
  rw [pairsSize, List.map_append, List.sum_append, ← pairsSize, ← pairsSize]

/-- A map of which keys are left out does not fit. -/
theorem Masks.not_fits {m : FixedMap κ ν} {maxSize size : ℕ} (h : m.Masks K V maxSize size) :
  ¬ m.Fits K V maxSize size
  := by
  obtain ⟨j, hj, hnokey, -⟩ := h
  have hlen : j < m.stored.length := by rwa [length_stored]
  have hsplit := pairsSize_append (K := K) (V := V) (m.stored.take j) (m.stored.drop j)
  rw [List.take_append_drop, List.drop_eq_getElem_cons hlen, pairsSize, pairsSize, pairsSize,
    List.map_cons, List.sum_cons, ← pairsSize, ← pairsSize, ← pairsSize] at hsplit
  rw [Fits]
  omega

/-- With room for it, the whole encoding is written. -/
theorem serialize_of_fits {m : FixedMap κ ν} (hm : m.size ≤ m.maxSize) {maxSize : ℕ}
    {e : Endianness} {b : SerialBuffer} (h : m.Fits K V maxSize b.size) :
  m.serialize K.serialize V.serialize maxSize e b = some (.ok, b.put (m.encoding K V e))
  := by
  rw [Fits] at h
  rw [serialize_eq hm, if_pos (by omega), serializePairs_of_fits, SerialBuffer.put_put, encoding]
  rw [SerialBuffer.size_put, SerializeAdapter.length_bytesOf]
  omega

theorem length_encoding (m : FixedMap κ ν) (e : Endianness) :
  (m.encoding K V e).length = 4 + pairsSize K V m.stored
  := by
  rw [encoding, List.length_append, SerializeAdapter.length_bytesOf, length_pairBytes]

/-- The encoding of a map encodes its pairs. -/
theorem encodes_encoding {m : FixedMap κ ν} (hsize : m.size < 2 ^ 32) (e : Endianness) :
  Encodes K.deSerialize V.deSerialize e (m.encoding K V e) m.stored
  := by
  use pairBytes K V e m.stored, []
  constructor
  · intro old
    rw [length_stored, encoding, SerializeAdapter.deSerializeNumber_bytesOf hsize]
  · have hpairs := encodesPairs (K := K) (V := V) e m.stored []
    rwa [List.append_nil] at hpairs

/-- A map is serialized faithfully exactly when it does not leave out keys, and its encoding
has less than `2 ^ 32` bytes or finds no room. -/
theorem serializesFaithfully_iff {κ ν : Type} (K : NumberType κ) (V : SerialType ν)
    {m : FixedMap κ ν} (hm : m.size ≤ m.maxSize) (hsize : m.size < 2 ^ 32) (maxSize : ℕ)
    (e : Endianness) (b : SerialBuffer) :
  m.SerializesFaithfully K V maxSize e b ↔
    ¬ m.Masks K V maxSize b.size ∧
    (m.Fits K V maxSize b.size → 4 + pairsSize K V m.stored < 2 ^ 32)
  := by
  have hok := serialize_ok_iff (K := K) (V := V) hm maxSize e b
  constructor
  · intro h
    constructor
    · intro hmasks
      obtain ⟨b', hb'⟩ := hok.mpr (.inr hmasks)
      obtain ⟨result, b'', hfailed, hne⟩ := h.of_not_fits hmasks.not_fits
      rw [hb'] at hfailed
      cases hfailed
      cases hne rfl
    · intro hfits
      obtain ⟨bytes, hbytes, hlen, -⟩ := h.of_fits hfits
      rw [serialize_of_fits hm hfits, Option.some_inj, Prod.mk_right_inj] at hbytes
      rw [← SerialBuffer.put_injective hbytes, length_encoding, getSerializedSize_eq] at hlen
      rw [hlen]
      apply Nat.mod_lt _ (by decide)
  · rintro ⟨hmasks, hlt⟩
    constructor
    · intro hfits
      refine ⟨m.encoding K V e, serialize_of_fits hm hfits, ?_, ?_⟩
      · rw [length_encoding, getSerializedSize_eq, Nat.mod_eq_of_lt (hlt hfits)]
      · intro garbage
        obtain ⟨m', rest, hread, hstored, -⟩ := deSerialize_of_encodes (m := new garbage m.maxSize)
          (encodes_encoding (K := K) (V := V) hsize e) (by rwa [length_stored])
        use m', rest, hread, hstored
    · intro hfits
      have heq := serialize_eq (K := K) (V := V) hm maxSize e b
      refine ⟨_, _, heq, ?_⟩
      intro hresult
      rcases hok.mp ⟨_, heq.trans (congrArg some (Prod.ext hresult rfl))⟩ with h | h
      · apply hfits h
      · apply hmasks h

/-- A map of one pair of four bytes and one byte, and a buffer of nine bytes. -/
theorem serializesFaithfully_nine :
  ∃ m, (new (fun _ => (0, 0)) 1).insert 7 9 = some (.ok, some 0, m) ∧
    m.SerializesFaithfully NumberType.uint32 NumberType.uint8.serialType 9 .big ⟨[], 0⟩
  := by
  refine ⟨_, rfl, ?_⟩
  rw [serializesFaithfully_iff _ _ (by decide) (by decide)]
  constructor
  · rintro ⟨j, hj, hnokey, -⟩
    obtain rfl : j = 0 := Nat.lt_one_iff.mp hj
    revert hnokey
    decide
  · intro _
    decide

/-- The same map in a buffer of five bytes: the key is left out, and the call succeeds. -/
theorem not_serializesFaithfully_five :
  ∃ m, (new (fun _ => (0, 0)) 1).insert 7 9 = some (.ok, some 0, m) ∧
    ¬ m.SerializesFaithfully NumberType.uint32 NumberType.uint8.serialType 5 .big ⟨[], 0⟩
  := by
  refine ⟨_, rfl, ?_⟩
  intro h
  obtain ⟨result, b', hserialize, hne⟩ := h.of_not_fits (by decide)
  cases hserialize
  cases hne rfl

end FixedMap
