import Fsfw.Serialize.BufferReuse

/-!
# Adapters of lists

An array list is serialized as its size and its elements, one after another.  When it is read, the
new size is stored before the elements are read, and it stays when one of them cannot be read.  The
serialized size is summed up with 32 bits.

A linked list is serialized as its elements, with their number in front of them when it is printed.
The number is not read.  When it is printed, the serialized size calls itself without an end.

An array list makes the round trip, and an incomplete one leaves the target as it was, exactly when
its bytes can be counted with 32 bits and the target has the same size already, or too little
capacity, or there are no bytes of elements that could be missing.  A linked list with a printed
count never does (`SerializableType.lists_roundTrip_iff`).
-/

/-- A type whose objects can be serialized, as the interface describes it: an object is written with
its announced size, it is read back from the bytes written, and it is not read from fewer of them.
-/
structure SerializableType (α : Type*) where
  serialize : α → Serializer
  getSerializedSize : α → ℕ
  deSerialize : Deserializer α
  bytes : α → Endianness → List UInt8
  length_bytes : ∀ x e, (bytes x e).length = getSerializedSize x
  writes : ∀ x, Serializer.WritesGivenRoom (serialize x) (bytes x)
  deSerialize_bytes : ∀ x e old rest, deSerialize e old (bytes x e ++ rest) = (.ok, x, rest)
  deSerialize_truncated : ∀ x e old stream, stream <+: bytes x e → stream ≠ bytes x e →
    (deSerialize e old stream).1 ≠ .ok

/-- A list in an array: the cells of the memory from the start of the array on, of which the list
may use `maxSize` ones, and uses `size` ones. -/
structure ArrayList (count : CountType) (α : Type*) where
  entries : List α
  maxSize : ℕ
  size : ℕ
  size_le : size ≤ maxSize
  maxSize_le : maxSize ≤ entries.length
  maxSize_lt : maxSize < 2 ^ (8 * count.size)

/-- A linked list of objects. -/
structure SerializableType.SerialLinkedListAdapter (α : Type*) where
  elements : List α
  printCount : Bool

namespace SerializableType

open Serializer

variable {α : Type*} (T : SerializableType α) {count : CountType}

instance (count : CountType) : NeZero (2 ^ (8 * count.size)) :=
  ⟨(Nat.two_pow_pos _).ne'⟩

/-- A number is not read from a part of its bytes. -/
theorem deSerializeNumber_of_truncated {size value : ℕ} {e : Endianness} {stream : List UInt8}
    (hstart : stream <+: SerializeAdapter.bytesOf size value e)
    (hne : stream ≠ SerializeAdapter.bytesOf size value e) (old : ℕ) :
  (SerializeAdapter.deSerializeNumber size e old stream).1 ≠ .ok
  := by
  have hlen : stream.length ≠ (SerializeAdapter.bytesOf size value e).length := by
    intro h
    apply hne (hstart.eq_of_length h)
  have hle := hstart.length_le
  rw [SerializeAdapter.length_bytesOf] at hle hlen
  have hshort : ¬ size ≤ stream.length := by omega
  simp only [SerializeAdapter.deSerializeNumber, if_neg hshort]
  decide

/-- Numbers with as many bytes as a length field. -/
def number (count : CountType) : SerializableType (Fin (2 ^ (8 * count.size))) where
  serialize n := SerializeAdapter.serialize count.size n.val
  getSerializedSize _ := count.size
  deSerialize e old stream :=
    let (result, n, rest) := SerializeAdapter.deSerializeNumber count.size e old.val stream
    (result, Fin.ofNat _ n, rest)
  bytes n := SerializeAdapter.bytesOf count.size n.val
  length_bytes n e := SerializeAdapter.length_bytesOf count.size n.val e
  writes n := SerializeAdapter.writesGivenRoom_serialize count.size_pos n.val
  deSerialize_bytes n e old rest := by
    rw [SerializeAdapter.deSerializeNumber_bytesOf n.isLt]
    simp
  deSerialize_truncated _ _ old _ hstart hne :=
    deSerializeNumber_of_truncated hstart hne old.val

end SerializableType

/-! ### Array lists -/

namespace ArrayList

variable {count : CountType} {α : Type*}

/-- The elements of a list. -/
def elements (list : ArrayList count α) : List α :=
  list.entries.take list.size

@[simp]
theorem length_elements (list : ArrayList count α) :
  list.elements.length = list.size
  := by
  rw [elements, List.length_take, Nat.min_eq_left (list.size_le.trans list.maxSize_le)]

end ArrayList

/-- Read objects one after another, up to the first failure, which may change its object. -/
def SerializableType.readEach {α : Type*} (T : SerializableType α) (e : Endianness) :
    ℕ → List α → List UInt8 → ReturnValue × List α × List UInt8
  | 0, entries, stream => (.ok, entries, stream)
  | _ + 1, [], stream => (.ok, [], stream)
  | n + 1, entry :: entries, stream =>
      match T.deSerialize e entry stream with
      | (.ok, entry, stream) =>
          let (result, entries, stream) := T.readEach e n entries stream
          (result, entry :: entries, stream)
      | (error, entry, stream) => (error, entry :: entries, stream)

namespace SerializableType.SerialArrayListAdapter

open Serializer

variable {α : Type*} (T : SerializableType α) {count : CountType}

def serialize (list : ArrayList count α) : Serializer :=
  fun maxSize e b =>
    andThen (SerializeAdapter.serialize count.size list.size maxSize e b) fun b₁ =>
      all T.serialize list.elements maxSize e b₁

/-- The size is summed up with 32 bits. -/
def getSerializedSize (list : ArrayList count α) : ℕ :=
  (list.elements.foldl (fun printSize entry => printSize + UInt32.ofNat (T.getSerializedSize entry))
    (UInt32.ofNat count.size)).toNat

theorem length_readEach {e : Endianness} {n : ℕ} {entries : List α} {stream : List UInt8} :
  (T.readEach e n entries stream).2.1.length = entries.length
  := by
  induction n generalizing entries stream with
  | zero => rfl
  | succ n ih =>
      cases entries with
      | nil => rfl
      | cons entry entries =>
          rw [SerializableType.readEach]
          split
          · simp only [List.length_cons, ih]
          · rfl

/-- Store the new size and read the elements. -/
def readElements (list : ArrayList count α) (tempSize : ℕ) (h : tempSize ≤ list.maxSize)
    (e : Endianness) (stream : List UInt8) : ReturnValue × ArrayList count α × List UInt8 :=
  let answer := T.readEach e tempSize list.entries stream
  (answer.1,
    { entries := answer.2.1
      maxSize := list.maxSize
      size := tempSize
      size_le := h
      maxSize_le := by rw [length_readEach]; exact list.maxSize_le
      maxSize_lt := list.maxSize_lt },
    answer.2.2)

def deSerialize : Deserializer (ArrayList count α) :=
  fun e list stream =>
    match SerializeAdapter.deSerializeNumber count.size e 0 stream with
    | (.ok, tempSize, stream) =>
        if h : tempSize ≤ list.maxSize then
          readElements T list tempSize h e stream
        else
          (SerializeIF.tooManyElements, list, stream)
    | (error, _, stream) => (error, list, stream)

/-- The bytes of the elements. -/
def elementBytes (list : ArrayList count α) (e : Endianness) : List UInt8 :=
  list.elements.flatMap fun x => T.bytes x e

/-- The bytes that are written for a list. -/
def bytes (list : ArrayList count α) (e : Endianness) : List UInt8 :=
  SerializeAdapter.bytesOf count.size list.size e ++ elementBytes T list e

/-- A call that fails, and leaves the size of the list and the cells behind its capacity. -/
structure FailsCleanly (target : ArrayList count α)
    (answer : ReturnValue × ArrayList count α × List UInt8) : Prop where
  fails : answer.1 ≠ .ok
  size_eq : answer.2.1.size = target.size
  untouched : answer.2.1.entries.drop target.maxSize = target.entries.drop target.maxSize

/-- The announced size of a list is written.  A target with enough capacity gets the elements of the
list from these bytes, whatever follows them.  A target with too little capacity, or with fewer
bytes, stays as it was. -/
structure RoundTrips (list target : ArrayList count α) (e : Endianness) : Prop where
  writes : ∀ {maxSize : ℕ} {b : SerialBuffer}, b.size + (bytes T list e).length ≤ maxSize →
    serialize T list maxSize e b = (.ok, b.put (bytes T list e))
  announced : (bytes T list e).length = getSerializedSize T list
  restores : list.size ≤ target.maxSize → ∀ rest, ∃ target',
    deSerialize T e target (bytes T list e ++ rest) = (.ok, target', rest)
      ∧ target'.elements = list.elements
      ∧ target'.entries.drop target.maxSize = target.entries.drop target.maxSize
  tooLong : target.maxSize < list.size → ∀ rest,
    FailsCleanly target (deSerialize T e target (bytes T list e ++ rest))
  truncated : ∀ stream, stream <+: bytes T list e → stream ≠ bytes T list e →
    FailsCleanly target (deSerialize T e target stream)

/-- The bytes can be counted with 32 bits, and an incomplete list does not change the size of the
target. -/
def Restorable (list target : ArrayList count α) (e : Endianness) : Prop :=
  (bytes T list e).length < 2 ^ 32
    ∧ (list.size ≤ target.maxSize → elementBytes T list e = [] ∨ target.size = list.size)

/-! ### Reading objects one after another -/

section

variable {T} {e : Endianness} {entries xs : List α} {stream : List UInt8}

/-- Objects are read back from the bytes written. -/
theorem readEach_bytes (hlen : xs.length ≤ entries.length) (rest : List UInt8) :
  T.readEach e xs.length entries ((xs.flatMap fun x => T.bytes x e) ++ rest)
    = (.ok, xs ++ entries.drop xs.length, rest)
  := by
  induction xs generalizing entries with
  | nil => rfl
  | cons x xs ih =>
      cases entries with
      | nil => cases hlen
      | cons entry entries =>
          have hread := T.deSerialize_bytes x e entry ((xs.flatMap fun x => T.bytes x e) ++ rest)
          rw [List.flatMap_cons, List.append_assoc, List.length_cons, SerializableType.readEach,
            hread]
          simp only [ih (Nat.le_of_succ_le_succ hlen), List.drop_succ_cons, List.cons_append]

/-- Not all objects are read from fewer bytes. -/
theorem readEach_truncated (hlen : xs.length ≤ entries.length)
    (hstart : stream <+: xs.flatMap fun x => T.bytes x e)
    (hne : stream ≠ xs.flatMap fun x => T.bytes x e) :
  (T.readEach e xs.length entries stream).1 ≠ .ok
  := by
  induction xs generalizing entries stream with
  | nil => cases hne (List.prefix_nil.mp hstart)
  | cons x xs ih =>
      cases entries with
      | nil => cases hlen
      | cons entry entries =>
          rw [List.flatMap_cons] at hstart hne
          rw [List.length_cons, SerializableType.readEach]
          have hfirst := List.prefix_append (T.bytes x e) (xs.flatMap fun x => T.bytes x e)
          rcases List.prefix_or_prefix_of_prefix hstart hfirst with hfirst | hrest
          · by_cases hall : stream = T.bytes x e
            · -- The stream ends behind the first object.
              have hread := T.deSerialize_bytes x e entry []
              rw [List.append_nil] at hread
              rw [hall, hread]
              apply ih (Nat.le_of_succ_le_succ hlen) List.nil_prefix
              intro hnil
              apply hne
              rw [hall, ← hnil, List.append_nil]
            · have hfails := T.deSerialize_truncated x e entry stream hfirst hall
              split
              · rename_i hread
                rw [hread] at hfails
                cases hfails rfl
              · rename_i hread
                rw [hread] at hfails
                exact hfails
          · obtain ⟨stream, rfl⟩ := hrest
            rw [T.deSerialize_bytes]
            apply ih (Nat.le_of_succ_le_succ hlen)
            · apply (List.prefix_append_right_inj _).mp hstart
            · intro heq
              apply hne
              rw [heq]

/-- Objects behind those that are read stay as they are. -/
theorem drop_readEach {n m : ℕ} (h : n ≤ m) :
  (T.readEach e n entries stream).2.1.drop m = entries.drop m
  := by
  induction n generalizing entries stream m with
  | zero => rfl
  | succ n ih =>
      obtain ⟨m, rfl⟩ := Nat.exists_eq_add_of_le' (Nat.one_le_of_lt h)
      cases entries with
      | nil => rfl
      | cons entry entries =>
          rw [SerializableType.readEach]
          split
          · simp only [List.drop_succ_cons, ih (Nat.le_of_succ_le_succ h)]
          · rfl

end

/-! ### What is written -/

section

variable {T} {list target : ArrayList count α} {e : Endianness}

theorem toNat_foldl (sizes : List ℕ) (n : UInt32) :
  (sizes.foldl (fun printSize size => printSize + UInt32.ofNat size) n).toNat
    = (n.toNat + sizes.sum) % 2 ^ 32
  := by
  induction sizes generalizing n with
  | nil =>
      rw [List.foldl_nil, List.sum_nil, Nat.add_zero, Nat.mod_eq_of_lt n.toNat_lt]
  | cons size sizes ih =>
      rw [List.foldl_cons, ih, List.sum_cons, UInt32.toNat_add, UInt32.toNat_ofNat',
        ← Nat.add_assoc]
      simp only [Nat.add_mod_mod, Nat.mod_add_mod]

theorem length_elementBytes (T : SerializableType α) (list : ArrayList count α) (e : Endianness) :
  (elementBytes T list e).length = (list.elements.map T.getSerializedSize).sum
  := by
  simp only [elementBytes, List.length_flatMap, T.length_bytes]

/-- The announced size is the number of bytes, cut to 32 bits. -/
theorem getSerializedSize_eq (T : SerializableType α) (list : ArrayList count α) (e : Endianness) :
  getSerializedSize T list = (bytes T list e).length % 2 ^ 32
  := by
  have hsum := toNat_foldl (list.elements.map T.getSerializedSize) (UInt32.ofNat count.size)
  have hcount : count.size < 2 ^ 32 := by cases count <;> decide
  rw [List.foldl_map, UInt32.toNat_ofNat', Nat.mod_eq_of_lt hcount] at hsum
  rw [getSerializedSize, hsum, bytes, List.length_append, SerializeAdapter.length_bytesOf,
    length_elementBytes]

theorem writesGivenRoom_serialize (T : SerializableType α) (list : ArrayList count α) :
  WritesGivenRoom (serialize T list) (bytes T list)
  := by
  apply WritesGivenRoom.andThen
  · apply SerializeAdapter.writesGivenRoom_serialize count.size_pos
  · apply writesGivenRoom_all
    intro x _
    apply T.writes

theorem size_lt (list : ArrayList count α) :
  list.size < 2 ^ (8 * count.size)
  := lt_of_le_of_lt list.size_le list.maxSize_lt

/-! ### What is read -/

/-- The size is read first. -/
theorem deSerialize_bytesOf (T : SerializableType α) (list target : ArrayList count α)
    (e : Endianness) (stream : List UInt8) :
  deSerialize T e target (SerializeAdapter.bytesOf count.size list.size e ++ stream)
    = if h : list.size ≤ target.maxSize then readElements T target list.size h e stream
      else (SerializeIF.tooManyElements, target, stream)
  := by
  rw [deSerialize, SerializeAdapter.deSerializeNumber_bytesOf (size_lt list)]

theorem failsCleanly_of_unchanged {error : ReturnValue} (h : error ≠ .ok)
    (stream : List UInt8) :
  FailsCleanly target (error, target, stream)
  := ⟨h, rfl, rfl⟩

/-- A list that is too long for its target is refused. -/
theorem failsCleanly_of_tooLong (h : target.maxSize < list.size) (stream : List UInt8) :
  FailsCleanly target
    (deSerialize T e target (SerializeAdapter.bytesOf count.size list.size e ++ stream))
  := by
  rw [deSerialize_bytesOf, dif_neg (Nat.not_le.mpr h)]
  apply failsCleanly_of_unchanged
  decide

/-- Without a complete size nothing is read. -/
theorem failsCleanly_of_short {stream : List UInt8} (h : stream.length < count.size) :
  FailsCleanly target (deSerialize T e target stream)
  := by
  rw [deSerialize]
  simp only [SerializeAdapter.deSerializeNumber, if_neg (Nat.not_le.mpr h)]
  apply failsCleanly_of_unchanged
  decide

theorem readElements_bytes (h : list.size ≤ target.maxSize) (rest : List UInt8) :
  ∃ target', readElements T target list.size h e (elementBytes T list e ++ rest)
      = (.ok, target', rest)
    ∧ target'.elements = list.elements
    ∧ target'.entries.drop target.maxSize = target.entries.drop target.maxSize
  := by
  have hlen : list.elements.length ≤ target.entries.length := by
    rw [list.length_elements]
    exact h.trans target.maxSize_le
  have hread := readEach_bytes (T := T) (e := e) hlen rest
  rw [list.length_elements] at hread
  use (readElements T target list.size h e (elementBytes T list e ++ rest)).2.1
  constructor
  · simp only [readElements, elementBytes, hread]
  · constructor
    · rw [ArrayList.elements]
      simp only [readElements, elementBytes, hread]
      apply List.take_left' list.length_elements
    · apply drop_readEach h

/-- From fewer bytes of elements, the new size is stored nevertheless. -/
theorem readElements_truncated (h : list.size ≤ target.maxSize) {stream : List UInt8}
    (hstart : stream <+: elementBytes T list e) (hne : stream ≠ elementBytes T list e) :
  FailsCleanly target (readElements T target list.size h e stream) ↔ target.size = list.size
  := by
  have hlen : list.elements.length ≤ target.entries.length := by
    rw [list.length_elements]
    exact h.trans target.maxSize_le
  have hfails := readEach_truncated hlen hstart hne
  rw [list.length_elements] at hfails
  constructor
  · intro hclean
    exact hclean.size_eq.symm
  · intro hsize
    use hfails, hsize.symm
    apply drop_readEach h

/-- An array list makes the round trip exactly when it can be restored. -/
theorem roundTrips_iff_restorable (T : SerializableType α) (list target : ArrayList count α)
    (e : Endianness) :
  RoundTrips T list target e ↔ Restorable T list target e
  := by
  constructor
  · intro h
    constructor
    · rw [h.announced, getSerializedSize_eq T list e]
      apply Nat.mod_lt
      decide
    · intro hle
      rw [or_iff_not_imp_left]
      intro hsome
      have hclean := h.truncated (SerializeAdapter.bytesOf count.size list.size e)
        (List.prefix_append _ _) (by rw [bytes, Ne, List.self_eq_append_right]; exact hsome)
      have hread := deSerialize_bytesOf T list target e []
      rw [List.append_nil, dif_pos hle] at hread
      rw [hread] at hclean
      apply (readElements_truncated hle List.nil_prefix (Ne.symm hsome)).mp hclean
  · rintro ⟨hlt, hsize⟩
    constructor
    · apply writesGivenRoom_serialize
    · rw [getSerializedSize_eq T list e, Nat.mod_eq_of_lt hlt]
    · intro hle rest
      rw [bytes, List.append_assoc, deSerialize_bytesOf, dif_pos hle]
      apply readElements_bytes hle rest
    · intro hlong rest
      rw [bytes, List.append_assoc]
      apply failsCleanly_of_tooLong hlong
    · intro stream hstart hne
      by_cases hshort : stream.length < count.size
      · apply failsCleanly_of_short hshort
      · have hcount : SerializeAdapter.bytesOf count.size list.size e <+: stream := by
          apply List.prefix_of_prefix_length_le (List.prefix_append _ _) hstart
          rw [SerializeAdapter.length_bytesOf]
          apply Nat.le_of_not_lt hshort
        obtain ⟨stream, rfl⟩ := hcount
        rw [bytes] at hstart hne
        have hrest := (List.prefix_append_right_inj _).mp hstart
        have hneRest : stream ≠ elementBytes T list e := fun heq => hne (by rw [heq])
        by_cases hle : list.size ≤ target.maxSize
        · rw [deSerialize_bytesOf, dif_pos hle, readElements_truncated hle hrest hneRest]
          rcases hsize hle with hnone | hsame
          · rw [hnone] at hrest hneRest
            cases hneRest (List.prefix_nil.mp hrest)
          · exact hsame
        · apply failsCleanly_of_tooLong (Nat.lt_of_not_le hle)

end

end SerializableType.SerialArrayListAdapter

/-! ### Linked lists -/

namespace SerializableType.SerialLinkedListAdapter

open Serializer

variable {α : Type*} (T : SerializableType α)

-- The number of elements is cut to one byte.
def serialize (l : SerialLinkedListAdapter α) : Serializer :=
  fun maxSize e b =>
    andThen
      (if l.printCount then SerializeAdapter.serialize 1 (l.elements.length % 2 ^ 8) maxSize e b
        else (.ok, b))
      fun b₁ => all T.serialize l.elements maxSize e b₁

/-- The serialized size, when it is found with so many calls of the function. -/
def getSerializedSize (l : SerialLinkedListAdapter α) : ℕ → Option ℕ
  | 0 => none
  | calls + 1 =>
      if l.printCount then
        (l.getSerializedSize calls).map (· + 1)
      else
        some (l.elements.map T.getSerializedSize).sum

def deSerialize : Deserializer (SerialLinkedListAdapter α) :=
  fun e l stream =>
    let (result, elements, stream) := T.readEach e l.elements.length l.elements stream
    (result, { l with elements }, stream)

/-- The bytes that are written for a list. -/
def bytes (l : SerialLinkedListAdapter α) (e : Endianness) : List UInt8 :=
  (if l.printCount then SerializeAdapter.bytesOf 1 (l.elements.length % 2 ^ 8) e else [])
    ++ l.elements.flatMap fun x => T.bytes x e

/-- The serialized size is found and written, and the elements are read back from the bytes that are
written, into a list with as many elements. -/
structure RoundTrips (l : SerialLinkedListAdapter α) : Prop where
  announces : ∃ calls size, l.getSerializedSize T calls = some size
    ∧ ∀ e, (bytes T l e).length = size
  writes : WritesGivenRoom (serialize T l) (bytes T l)
  restores : ∀ target : SerialLinkedListAdapter α, target.elements.length = l.elements.length →
    target.printCount = l.printCount →
      ∀ e rest, deSerialize T e target (bytes T l e ++ rest) = (.ok, l, rest)

/-- With a printed count, no number of calls is enough to find the serialized size. -/
theorem getSerializedSize_of_printCount (T : SerializableType α) (elements : List α) (calls : ℕ) :
  getSerializedSize T { elements, printCount := true } calls = none
  := by
  induction calls with
  | zero => rfl
  | succ calls ih =>
      rw [getSerializedSize, if_pos rfl, ih]
      rfl

theorem not_roundTrips_of_printCount (T : SerializableType α) (elements : List α) :
  ¬ RoundTrips T { elements, printCount := true }
  := by
  rintro ⟨⟨calls, size, hsize, -⟩, -⟩
  rw [getSerializedSize_of_printCount] at hsize
  cases hsize

/-- Without a printed count, a linked list makes the round trip. -/
theorem roundTrips_of_not_printCount (T : SerializableType α) (elements : List α) :
  RoundTrips T { elements, printCount := false }
  := by
  constructor
  · use 1, (elements.map T.getSerializedSize).sum, rfl
    intro e
    simp [bytes, List.length_flatMap, T.length_bytes]
  · apply writesGivenRoom_all
    intro x _
    apply T.writes
  · rintro ⟨old, printCount⟩ hlen hcount e rest
    have hread := SerialArrayListAdapter.readEach_bytes (T := T) (e := e) hlen.ge rest
    cases hcount
    rw [deSerialize, hlen]
    simp only [bytes, Bool.false_eq_true, if_false, List.nil_append, hread]
    rw [List.drop_eq_nil_of_le hlen.le, List.append_nil]

end SerializableType.SerialLinkedListAdapter

/-- An array list makes the round trip exactly when it can be restored, and a linked list with a
printed count never does. -/
theorem SerializableType.lists_roundTrip_iff {α : Type*} (T : SerializableType α)
    (count : CountType) :
  (∀ (list target : ArrayList count α) (e : Endianness),
    SerialArrayListAdapter.RoundTrips T list target e
      ↔ SerialArrayListAdapter.Restorable T list target e)
    ∧ ∀ elements : List α,
      ¬ SerialLinkedListAdapter.RoundTrips T { elements, printCount := true }
  := by
  constructor
  · apply SerialArrayListAdapter.roundTrips_iff_restorable
  · apply SerialLinkedListAdapter.not_roundTrips_of_printCount

/-- A list of two bytes, and an empty one. -/
theorem SerializableType.not_lists_roundTrip :
  ¬ ((∀ (list target : ArrayList .uint8 (Fin (2 ^ 8))) (e : Endianness),
      SerialArrayListAdapter.RoundTrips (number .uint8) list target e)
    ∧ ∀ elements : List (Fin (2 ^ 8)),
      SerialLinkedListAdapter.RoundTrips (number .uint8) { elements, printCount := true })
  := by
  rintro ⟨h, -⟩
  have hclean := (h ⟨[5, 6], 2, 2, by decide, by decide, by decide⟩
    ⟨[0, 0], 2, 0, by decide, by decide, by decide⟩ .big).truncated [2, 5] (by decide) (by decide)
  have hsize := hclean.size_eq
  revert hsize
  decide
