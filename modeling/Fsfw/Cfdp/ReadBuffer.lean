import Fsfw.Cfdp.Tlv

/-!
# Reading fields from a buffer

A `ReadBuffer` is the buffer a field is deserialized from: the memory from the buffer pointer on,
and the number of remaining bytes that the caller passes along (`*size`).  The number may be less
than there is memory.  Reading outside of the memory is undefined (`none`), also where only a
pointer to the bytes is kept.

`deSerialize` returns a result, the object and the buffer.  When it fails, the object may have
changed already.  `Reads read bytes x` says that `read` takes `bytes` from the front of a buffer,
and the object is `x` then.
-/

namespace Cfdp

/-- A buffer that is read. -/
structure ReadBuffer where
  memory : List UInt8
  size : ℕ

/-- What a call of `deSerialize` returns. -/
abbrev ReadResult (α : Type) := ReturnValue × α × ReadBuffer

namespace ReadBuffer

/-- The byte that the buffer pointer points to. -/
def byte (b : ReadBuffer) : Option UInt8 :=
  b.memory.head?

/-- The `n` bytes at a distance from the buffer pointer. -/
def slice (b : ReadBuffer) (distance n : ℕ) : Option (List UInt8) :=
  if distance + n ≤ b.memory.length then some ((b.memory.drop distance).take n) else none

/-- Move the buffer pointer. There are at least as many bytes remaining wherever this is used. -/
def advance (b : ReadBuffer) (n : ℕ) : ReadBuffer where
  memory := b.memory.drop n
  size := b.size - n

/-- Read a number of `width` bytes into an object that holds a number. -/
def deSerializeNumber (width : ℕ) (e : Endianness) (object : ℕ) (b : ReadBuffer) :
    Option (ReadResult ℕ) :=
  if b.size < width then
    some (SerializeIF.streamTooShort, object, b)
  else do
    let bytes ← b.slice 0 width
    let (result, object, _) := SerializeAdapter.deSerializeNumber width e object bytes
    return (result, object, b.advance width)

/-- Go on after a call that succeeded, and return the result of one that failed. The object is put
to its place in either case. -/
def andThen {α β : Type} (r : Option (ReadResult α)) (put : α → β)
    (next : β → ReadBuffer → Option (ReadResult β)) : Option (ReadResult β) := do
  let (result, x, b) ← r
  if result = .ok then next (put x) b else return (result, put x, b)

/-- The reader takes these bytes, and makes the object `x`. -/
def Reads {α : Type} (read : ReadBuffer → Option (ReadResult α)) (bytes : List UInt8) (x : α) : Prop :=
  ∀ rest k, read ⟨bytes ++ rest, bytes.length + k⟩ = some (.ok, x, ⟨rest, k⟩)

variable {α β : Type} {read : ReadBuffer → Option (ReadResult α)} {bytes : List UInt8} {x : α}

@[simp]
theorem andThen_ok (x : α) (b : ReadBuffer) (put : α → β)
    (next : β → ReadBuffer → Option (ReadResult β)) :
  andThen (some (.ok, x, b)) put next = next (put x) b
  := rfl

theorem Reads.andThen (h : Reads read bytes x) (put : α → β)
    (next : β → ReadBuffer → Option (ReadResult β)) (rest : List UInt8) (k : ℕ) :
  andThen (read ⟨bytes ++ rest, bytes.length + k⟩) put next = next (put x) ⟨rest, k⟩
  := by
  rw [h]
  rfl

/-- Two calls one after another succeed when both do. -/
theorem andThen_eq_ok {r : Option (ReadResult α)} {put : α → β}
    {next : β → ReadBuffer → Option (ReadResult β)} {y : β} {b' : ReadBuffer}
    (h : ReadBuffer.andThen r put next = some (.ok, y, b')) :
  ∃ x b, r = some (.ok, x, b) ∧ next (put x) b = some (.ok, y, b')
  := by
  obtain _ | ⟨result, x, b⟩ := r
  · cases h
  · simp only [ReadBuffer.andThen, Option.bind_eq_bind, Option.bind_some] at h
    split_ifs at h with hok
    · exact ⟨x, b, by rw [hok], h⟩
    · cases h
      cases hok rfl

@[simp]
theorem byte_cons (byte : UInt8) (rest : List UInt8) (size : ℕ) :
  ReadBuffer.byte ⟨byte :: rest, size⟩ = some byte
  := rfl

theorem advance_append (bytes rest : List UInt8) (k : ℕ) :
  advance ⟨bytes ++ rest, bytes.length + k⟩ bytes.length = ⟨rest, k⟩
  := by
  simp [advance]

@[simp]
theorem advance_cons (byte : UInt8) (rest : List UInt8) (k : ℕ) :
  advance ⟨byte :: rest, k + 1⟩ 1 = ⟨rest, k⟩
  := rfl

theorem slice_append (before bytes rest : List UInt8) (size : ℕ) :
  slice ⟨before ++ (bytes ++ rest), size⟩ before.length bytes.length = some bytes
  := by
  simp [slice]

theorem reads_number {width n : ℕ} (h : n < 2 ^ (8 * width)) (e : Endianness) (old : ℕ) :
  Reads (deSerializeNumber width e old) (SerializeAdapter.bytesOf width n e) n
  := by
  intro rest k
  have hlen := SerializeAdapter.length_bytesOf width n e
  have hslice := slice_append [] (SerializeAdapter.bytesOf width n e) rest (width + k)
  have hnumber := SerializeAdapter.deSerializeNumber_bytesOf h e old []
  rw [List.append_nil] at hnumber
  have hadvance := advance_append (SerializeAdapter.bytesOf width n e) rest k
  rw [List.nil_append, List.length_nil, hlen] at hslice
  rw [hlen] at hadvance ⊢
  rw [deSerializeNumber, if_neg (by simp), hslice]
  simp [hnumber, hadvance]

/-! ### Arrays -/

/-- Read elements into the places of an array from an index on, while bytes remain, with a bound on
the number of elements. The number of elements is set at the end. Using a place behind the end
of the array is undefined. -/
def readArray (deSerialize : α → ReadBuffer → Option (ReadResult α)) (tooMany : ReturnValue) :
    ℕ → ℕ → List α → ReadBuffer → Option (ReadResult (ℕ × List α))
  | rounds, idx, array, b =>
      if b.size = 0 then
        some (.ok, (idx, array), b)
      else
        match rounds with
        | 0 => some (tooMany, (0, array), b)
        | rounds + 1 => do
            let x ← array[idx]?
            andThen (deSerialize x b) (fun x => (0, array.set idx x)) fun (_, array) b =>
              readArray deSerialize tooMany rounds (idx + 1) array b

/-- The array after elements have been read into it. -/
def receiveAll {σ : Type} (receive : α → σ → α) (idx : ℕ) (array : List α) (sources : List σ) :
    List α :=
  array.take idx ++ List.zipWith receive (array.drop idx) sources ++
    array.drop (idx + sources.length)

theorem receiveAll_nil {σ : Type} (receive : α → σ → α) (idx : ℕ) (array : List α) :
  receiveAll receive idx array [] = array
  := by
  simp [receiveAll]

theorem receiveAll_cons {σ : Type} (receive : α → σ → α) {idx : ℕ} {array : List α} {x : α}
    (hx : array[idx]? = some x) (source : σ) (sources : List σ) :
  receiveAll receive (idx + 1) (array.set idx (receive x source)) sources
    = receiveAll receive idx array (source :: sources)
  := by
  obtain ⟨hidx, rfl⟩ := List.getElem?_eq_some_iff.mp hx
  rw [receiveAll, receiveAll, List.drop_eq_getElem_cons hidx, List.zipWith_cons_cons,
    List.drop_set_of_lt (by omega), List.drop_set_of_lt (by omega), List.length_cons,
    Nat.add_right_comm, ← Nat.add_assoc, List.take_add_one]
  simp [List.take_set_of_le, hidx]

/-- The elements whose bytes are at the front are read, and the loop goes on behind them. -/
theorem readArray_bytes {σ : Type} {deSerialize : α → ReadBuffer → Option (ReadResult α)}
    {bytes : σ → List UInt8} {receive : α → σ → α} (tooMany : ReturnValue) {sources : List σ}
    {idx : ℕ} {array : List α} (hlength : idx + sources.length ≤ array.length)
    (hreads : ∀ x ∈ array.drop idx, ∀ source ∈ sources,
      Reads (deSerialize x) (bytes source) (receive x source))
    (hpos : ∀ source ∈ sources, 0 < (bytes source).length) (rounds : ℕ) (rest : List UInt8)
    (k : ℕ) :
  readArray deSerialize tooMany (sources.length + rounds) idx array
      ⟨sources.flatMap bytes ++ rest, (sources.flatMap bytes).length + k⟩
    = readArray deSerialize tooMany rounds (idx + sources.length)
        (receiveAll receive idx array sources) ⟨rest, k⟩
  := by
  induction sources generalizing idx array with
  | nil =>
      rw [receiveAll_nil]
      simp
  | cons source sources ih =>
      rw [List.length_cons] at hlength
      have hidx : idx < array.length := by omega
      have hx : array[idx]? = some array[idx] := List.getElem?_eq_getElem hidx
      have hmem : array[idx] ∈ array.drop idx := by
        rw [List.drop_eq_getElem_cons hidx]
        apply List.mem_cons_self
      have hsource := hreads _ hmem source List.mem_cons_self
      have hnonempty := hpos source List.mem_cons_self
      have hsize : ((source :: sources).flatMap bytes).length
          = (bytes source).length + (sources.flatMap bytes).length := by
        rw [List.flatMap_cons, List.length_append]
      rw [List.length_cons, Nat.add_right_comm, readArray, hsize, if_neg (by simp only; omega), hx]
      simp only [Option.bind_eq_bind, Option.bind_some, List.flatMap_cons, List.append_assoc,
        Nat.add_assoc]
      rw [hsource.andThen, ← receiveAll_cons receive hx, Nat.add_comm sources.length 1,
        ← Nat.add_assoc]
      apply ih
      · rw [List.length_set]
        omega
      · intro x hmem source hsource
        rw [List.drop_set_of_lt (by omega)] at hmem
        apply hreads x _ source (List.mem_cons_of_mem _ hsource)
        rw [List.drop_eq_getElem_cons hidx]
        exact List.mem_cons_of_mem _ hmem
      · intro source hsource
        exact hpos source (List.mem_cons_of_mem _ hsource)

end ReadBuffer

open ReadBuffer

/-! ### Fields of variable width -/

namespace VarLenField

/-- Read a field of a width. A byte is left in the buffer, and counted as one more that remains.
What the other members of the union hold after a failed call is left open. -/
def deSerialize (field : VarLenField) (width : WidthInBytes) (e : Endianness) (b : ReadBuffer) :
    Option (ReadResult VarLenField) :=
  if width = .oneByte then do
    let byte ← b.byte
    return (.ok, (field.setValue width byte.toNat).2, { b with size := b.size + 1 })
  else if width = .twoBytes ∨ width = .fourBytes then do
    let (result, value, b) ← b.deSerializeNumber width.toNat e 0
    return (result, (field.setValue width value).2, b)
  else
    some (.failed, ⟨width, 0, zero_lt width⟩, b)

/-- A field of more than one byte is read from its bytes. -/
theorem reads (field : VarLenField) {source : VarLenField}
    (hwidth : source.width = .twoBytes ∨ source.width = .fourBytes) (e : Endianness) :
  Reads (fun b => field.deSerialize source.width e b) (source.bytes e) source
  := by
  intro rest k
  have hone : source.width ≠ .oneByte := by
    rcases hwidth with hw | hw <;> rw [hw] <;> decide
  have hnumber := reads_number source.value_lt e 0 rest k
  rw [VarLenField.bytes]
  simp only [deSerialize, if_neg hone, if_pos hwidth, hnumber, Option.bind_eq_bind,
    Option.bind_some, setValue, if_pos (Or.inr hwidth), dif_pos source.value_lt]
  rfl

end VarLenField

namespace FileSize

/-- Read a file size. The number of a large file is read into the pointer to the remaining size,
which is a variable of the function. -/
def deSerialize (size : FileSize) (e : Endianness) (b : ReadBuffer) : Option (ReadResult FileSize) := do
  if size.largeFile then
    let (result, _, b) ← b.deSerializeNumber 8 e 0
    return (result, size, b)
  else
    let (result, sizeTmp, b) ← b.deSerializeNumber 4 e 0
    if result = .ok then
      return (result, { size with fileSize := UInt64.ofNat sizeTmp }, b)
    else
      return (result, size, b)

/-- The size of a file that is not large is read from its bytes. -/
theorem reads {object size : FileSize} (hobject : object.largeFile = false)
    (hsize : size.largeFile = false) (hlt : size.fileSize.toNat < 2 ^ 32) (e : Endianness) :
  Reads (fun b => object.deSerialize e b) (size.bytes e) size
  := by
  intro rest k
  have hreads : Reads (deSerializeNumber 4 e 0) _ _ := reads_number hlt e 0
  have hnumber := hreads rest k
  obtain ⟨fileSize, largeFile⟩ := size
  obtain ⟨old, large⟩ := object
  cases hsize
  cases hobject
  simp only [bytes, deSerialize, Bool.false_eq_true, if_false, Nat.mod_eq_of_lt hlt, hnumber,
    Option.bind_eq_bind, Option.bind_some, if_true, UInt64.ofNat_toNat]
  rfl

end FileSize

/-! ### Length-value and type-length-value fields -/

namespace Lv

/-- The bytes that a user of the field is given. -/
def getValue (lv : Lv) : List UInt8 :=
  (lv.value.buffer.getD []).take lv.value.bufferLength.toNat

-- The value of an empty field is left as it was.
def deSerialize (lv : Lv) (b : ReadBuffer) : Option (ReadResult Lv) :=
  if b.size < 1 then
    some (SerializeIF.streamTooShort, lv, b)
  else do
    let lengthField ← b.byte
    if lengthField = 0 then
      return (.ok, { lv with zeroLen := true }, b.advance 1)
    else if b.size < lengthField.toNat + 1 then
      return (SerializeIF.streamTooShort, lv, b)
    else
      let data ← b.slice 1 lengthField.toNat
      return (.ok, ⟨false, .setConstBuffer (some data)⟩, b.advance (1 + lengthField.toNat))

/-- The object that a block of bytes was read into. -/
def receive (lv : Lv) (data : List UInt8) : Lv :=
  if data = [] then { lv with zeroLen := true } else ⟨false, .setConstBuffer (some data)⟩

/-- An object takes an empty block only when it held one before. -/
def Accepts (lv : Lv) (data : List UInt8) : Prop :=
  data = [] → lv.getValue = []

theorem getValue_setConstBuffer {data : List UInt8} (h : data.length ≤ 255) :
  getValue ⟨false, .setConstBuffer (some data)⟩ = data
  := by
  rw [getValue]
  simp only [SerialBufferAdapter.setConstBuffer, Option.getD_some, UInt8.toNat_ofNat']
  rw [Nat.mod_eq_of_lt (by omega), List.take_length]

theorem getValue_receive_iff {lv : Lv} {data : List UInt8} (h : data.length ≤ 255) :
  (lv.receive data).getValue = data ↔ lv.Accepts data
  := by
  rw [receive, Accepts]
  split_ifs with hdata
  · rw [hdata]
    simp [getValue]
  · simp [getValue_setConstBuffer h, hdata]

/-- A block of any length is written when there is room for it. -/
theorem serialize_new (data : List UInt8) {maxSize : ℕ} (e : Endianness) {b : SerialBuffer}
    (hroom : b.size + 1 + data.length ≤ maxSize) :
  (new data).serialize maxSize e b = (.ok, b.put (new data).bytes)
  := by
  have hmod := Nat.mod_le data.length (2 ^ 8)
  have hone := SerialBufferAdapter.bytesOf_one (UInt8.ofNat data.length) e
  rw [UInt8.toNat_ofNat'] at hone
  rw [serialize, if_neg (by omega), bytes]
  split_ifs with hzero
  · rfl
  · simp only [new, SerialBufferAdapter.new, SerialBufferAdapter.serialize,
      SerialBufferAdapter.bytes, Option.getD_some, hone,
      SerializeAdapter.serialize_eq Nat.one_pos, if_pos (show b.size + 1 ≤ maxSize by omega),
      Serializer.andThen_ok, SerialBuffer.size_put, List.length_singleton, UInt8.toNat_ofNat',
      SerialBuffer.put_put]
    rw [if_neg (by omega)]
    rfl

theorem bytes_new {data : List UInt8} (h : data.length ≤ 255) :
  (new data).bytes = UInt8.ofNat data.length :: data
  := by
  cases data with
  | nil => rfl
  | cons byte data =>
      have hlength : (byte :: data).length % 2 ^ 8 = (byte :: data).length :=
        Nat.mod_eq_of_lt (by omega)
      simp only [bytes, new, SerialBufferAdapter.new, SerialBufferAdapter.bytes,
        Option.getD_some, UInt8.toNat_ofNat', hlength, List.take_length]
      rfl

theorem length_bytes_new_le (data : List UInt8) :
  (new data).bytes.length ≤ 1 + data.length
  := by
  rw [bytes]
  split_ifs
  · simp
  · simp only [new, SerialBufferAdapter.new, SerialBufferAdapter.bytes, List.length_cons,
      Option.getD_some, List.length_take]
    omega

theorem getSerializedSize_new {data : List UInt8} (h : data.length ≤ 255) :
  (new data).getSerializedSize = 1 + data.length
  := by
  rw [getSerializedSize]
  cases data with
  | nil => rfl
  | cons byte data =>
      simp only [new, SerialBufferAdapter.new, SerialBufferAdapter.getSerializedSize,
        UInt8.toNat_ofNat', Nat.mod_eq_of_lt (show (byte :: data).length < 2 ^ 8 by omega)]
      simp
      omega

/-- A field is read from its bytes. -/
theorem reads (lv : Lv) {data : List UInt8} (h : data.length ≤ 255) :
  Reads lv.deSerialize (new data).bytes (lv.receive data)
  := by
  intro rest k
  have hlength : (UInt8.ofNat data.length).toNat = data.length := by
    rw [UInt8.toNat_ofNat', Nat.mod_eq_of_lt (by omega)]
  have hzero : UInt8.ofNat data.length = 0 ↔ data = [] := by
    rw [← UInt8.toNat_inj, hlength, UInt8.toNat_zero, List.length_eq_zero_iff]
  have hslice := slice_append [UInt8.ofNat data.length] data rest (data.length + 1 + k)
  have hadvance := advance_append (UInt8.ofNat data.length :: data) rest k
  rw [bytes_new h]
  simp only [deSerialize, List.cons_append, List.length_cons, byte_cons, Option.bind_eq_bind,
    Option.bind_some, hlength, receive, hzero]
  rw [if_neg (by omega)]
  split_ifs with hdata
  · subst hdata
    simp [advance]
  · omega
  · simp only [List.cons_append, List.nil_append, List.length_cons, List.length_nil, Nat.zero_add]
      at hslice hadvance
    rw [hslice, Nat.add_comm 1, hadvance]
    rfl

end Lv

namespace Tlv

def checkType (rawType : UInt8) : Bool :=
  rawType ≠ 0x03 ∧ rawType ≤ 6

/-- The bytes that a user of the field is given. -/
def getValue (tlv : Tlv) : List UInt8 :=
  (tlv.value.buffer.getD []).take tlv.value.bufferLength.toNat

-- The value of an empty field is left as it was.
def deSerialize (tlv : Tlv) (b : ReadBuffer) : Option (ReadResult Tlv) :=
  if b.size < 2 then
    some (SerializeIF.streamTooShort, tlv, b)
  else do
    let rawType ← b.byte
    if ¬ checkType rawType then
      return (invalidTlvType, tlv, b)
    else
      let tlv := { tlv with type := .ofCode rawType.toNat }
      let b := b.advance 1
      let lengthField ← b.byte
      if lengthField = 0 then
        return (.ok, { tlv with zeroLen := true }, b.advance 1)
      else if b.size < lengthField.toNat + 1 then
        return (SerializeIF.streamTooShort, tlv, b)
      else
        let data ← b.slice 1 lengthField.toNat
        return (.ok, ⟨false, tlv.type, .setConstBuffer (some data)⟩,
          b.advance (1 + lengthField.toNat))

/-- The object that a block of bytes was read into. -/
def receive (tlv : Tlv) (type : TlvType) (data : List UInt8) : Tlv :=
  if data = [] then { tlv with zeroLen := true, type := type }
  else ⟨false, type, .setConstBuffer (some data)⟩

/-- An object takes an empty block only when it held one before. -/
def Accepts (tlv : Tlv) (data : List UInt8) : Prop :=
  data = [] → tlv.getValue = []

theorem type_receive (tlv : Tlv) (type : TlvType) (data : List UInt8) :
  (tlv.receive type data).type = type
  := by
  rw [receive]
  split_ifs <;> rfl

theorem getValue_receive_iff {tlv : Tlv} {type : TlvType} {data : List UInt8}
    (h : data.length ≤ 255) :
  (tlv.receive type data).getValue = data ↔ tlv.Accepts data
  := by
  have hlv : (Lv.receive ⟨tlv.zeroLen, tlv.value⟩ data).getValue = data ↔ _ :=
    Lv.getValue_receive_iff h
  rw [Lv.receive] at hlv
  rw [receive]
  split_ifs at hlv ⊢ with hdata
  · exact hlv
  · exact hlv

theorem checkType_code {type : TlvType} (h : type ≠ .invalidTlv) :
  checkType (UInt8.ofNat type.code) = true ∧ (UInt8.ofNat type.code).toNat = type.code
  := by
  cases type with
  | invalidTlv => exact absurd rfl h
  | _ => decide

/-- Behind the type there is a length-value field. -/
theorem deSerialize_cons (tlv : Tlv) {type : TlvType} (h : type ≠ .invalidTlv)
    (memory : List UInt8) {size : ℕ} (hsize : 0 < size) :
  tlv.deSerialize ⟨UInt8.ofNat type.code :: memory, size + 1⟩
    = (Lv.deSerialize ⟨tlv.zeroLen, tlv.value⟩ ⟨memory, size⟩).map fun (result, lv, b) =>
      (result, ⟨lv.zeroLen, type, lv.value⟩, b)
  := by
  obtain ⟨hcheck, hcode⟩ := checkType_code h
  rw [deSerialize, Lv.deSerialize, if_neg (by simp only; omega), if_neg (by simp only; omega)]
  simp only [byte_cons, Option.bind_eq_bind, Option.bind_some, hcheck, hcode, not_true_eq_false,
    if_false, TlvType.ofCode_code, advance_cons, Option.map_bind]
  apply Option.bind_congr
  intro lengthField _
  simp only [Function.comp]
  split_ifs
  · rfl
  · rfl
  · rw [Option.map_bind]
    rfl

/-- A field is read from its bytes. -/
theorem reads (tlv : Tlv) {type : TlvType} (htype : type ≠ .invalidTlv) {data : List UInt8}
    (h : data.length ≤ 255) :
  Reads tlv.deSerialize (new type data).bytes (tlv.receive type data)
  := by
  intro rest k
  have hlv := Lv.reads ⟨tlv.zeroLen, tlv.value⟩ h rest k
  have hbytes : (new type data).bytes = UInt8.ofNat type.code :: (Lv.new data).bytes := rfl
  have hsize : 0 < (Lv.new data).bytes.length + k := by
    rw [Lv.bytes_new h, List.length_cons]
    omega
  rw [hbytes, List.cons_append, List.length_cons, Nat.add_right_comm,
    deSerialize_cons tlv htype _ hsize, hlv]
  simp only [Option.map_some, receive, Lv.receive]
  split_ifs <;> rfl

end Tlv

namespace EntityIdTlv

def deSerialize (tlv : EntityIdTlv) (e : Endianness) (b : ReadBuffer) : Option (ReadResult EntityIdTlv) :=
  if b.size < 3 then
    some (SerializeIF.streamTooShort, tlv, b)
  else do
    let type ← b.byte
    if type.toNat ≠ TlvType.entityId.code then
      return (invalidTlvType, tlv, b)
    else
      let b := b.advance 1
      let width ← b.byte
      if b.size < 1 + width.toNat then
        return (SerializeIF.streamTooShort, tlv, b)
      else
        andThen (tlv.entityId.deSerialize width e (b.advance 1)) EntityIdTlv.mk fun tlv b =>
          return (.ok, tlv, b)

/-- An entity id of more than one byte is read from its bytes. -/
theorem reads (tlv : EntityIdTlv) {source : EntityIdTlv}
    (hwidth : source.entityId.width = .twoBytes ∨ source.entityId.width = .fourBytes)
    (e : Endianness) :
  Reads (fun b => tlv.deSerialize e b) (source.bytes e) source
  := by
  intro rest k
  have hfield := VarLenField.reads tlv.entityId hwidth e
  have hlength := source.entityId.length_bytes e
  have htwo : 2 ≤ source.entityId.width.toNat := by
    rcases hwidth with hw | hw <;> rw [hw] <;> decide
  have hcode : (UInt8.ofNat TlvType.entityId.code).toNat = TlvType.entityId.code := rfl
  have hwidth' : UInt8.ofNat source.entityId.getSerializedSize = source.entityId.width :=
    UInt8.ofNat_toNat
  rw [bytes, hwidth']
  change tlv.deSerialize e _ = _
  rw [deSerialize, if_neg (by simp; omega)]
  simp only [List.cons_append, List.nil_append, List.length_cons, Nat.add_right_comm _ _ k,
    byte_cons, advance_cons, Option.bind_eq_bind, Option.bind_some, hcode, ne_eq,
    not_true_eq_false, if_false]
  rw [if_neg (by omega), hfield.andThen]
  rfl

end EntityIdTlv

/-! ### Filestore requests and responses -/

namespace FilestoreTlvBase

/-- Read the type and the length field. The length is only compared with zero. -/
def commonDeserialize (type : TlvType) (b : ReadBuffer) : Option (ReadResult Unit) :=
  if b.size < 3 then
    some (SerializeIF.streamTooShort, (), b)
  else do
    let rawType ← b.byte
    if rawType.toNat ≠ type.code then
      return (invalidTlvType, (), b)
    else
      let b := b.advance 1
      let remainingLength ← b.byte
      if remainingLength = 0 then
        return (SerializeIF.streamTooShort, (), b.advance 1)
      else
        return (.ok, (), b.advance 1)

/-- Does the action with this code need a second file name? -/
def requiresSecondFileName (actionCode : ℕ) : Bool :=
  actionCode = FilestoreActionCode.renameFile.code ||
    actionCode = FilestoreActionCode.appendFile.code ||
    actionCode = FilestoreActionCode.replaceFile.code

/-- Read the second file name if one is needed, or fail with `missing` when there is no object for
it. -/
def deSerializeSecondFileName (missing : ReturnValue) (actionCode : ℕ)
    (secondFileName : Option Lv) (b : ReadBuffer) : Option (ReadResult (Option Lv)) :=
  if requiresSecondFileName actionCode then
    match secondFileName with
    | none => some (missing, none, b)
    | some lv => andThen (lv.deSerialize b) some fun lv b => some (.ok, lv, b)
  else
    some (.ok, secondFileName, b)

end FilestoreTlvBase

open FilestoreTlvBase

/-- An object that a filestore request is read into. The action code is a cast of four bits. -/
structure FilestoreRequestTlv.Received where
  actionCode : ℕ
  firstFileName : Lv
  secondFileName : Option Lv

namespace FilestoreRequestTlv.Received

def deSerializeFromValue (tlv : Received) (b : ReadBuffer) : Option (ReadResult Received) := do
  let byte ← b.byte
  let tlv := { tlv with actionCode := ((byte >>> 4) &&& 0x0f).toNat }
  andThen (tlv.firstFileName.deSerialize (b.advance 1))
      (fun lv => { tlv with firstFileName := lv }) fun tlv b =>
    andThen (deSerializeSecondFileName .failed tlv.actionCode tlv.secondFileName b)
        (fun lv => { tlv with secondFileName := lv }) fun tlv b =>
      return (.ok, tlv, b)

def deSerialize (tlv : Received) (b : ReadBuffer) : Option (ReadResult Received) :=
  andThen (commonDeserialize .filestoreRequest b) (fun _ => tlv) deSerializeFromValue

end FilestoreRequestTlv.Received

/-- An object that a filestore response is read into. The action code is a cast of four bits. -/
structure FilestoreResponseTlv.Received where
  actionCode : ℕ
  statusCode : UInt8
  firstFileName : Lv
  secondFileName : Option Lv
  filestoreMsg : Option Lv

namespace FilestoreResponseTlv.Received

/-- Read the filestore message. Without an object for it, it has to be empty and the last field. -/
def deSerializeMessage (tlv : Received) (b : ReadBuffer) : Option (ReadResult Received) :=
  match tlv.filestoreMsg with
  | none =>
      if b.size = 0 ∨ 1 < b.size then
        some (filestoreResponseCantParseFsMessage, tlv, b)
      else
        some (.ok, tlv, b.advance 1)
  | some lv =>
      if b.size = 0 then
        some (filestoreResponseCantParseFsMessage, tlv, b)
      else
        andThen (lv.deSerialize b) (fun lv => { tlv with filestoreMsg := some lv }) fun tlv b =>
          some (.ok, tlv, b)

def deSerializeFromValue (tlv : Received) (b : ReadBuffer) : Option (ReadResult Received) := do
  let byte ← b.byte
  let tlv :=
    { tlv with
      actionCode := ((byte >>> 4) &&& 0x0f).toNat
      statusCode := byte &&& 0x0f }
  andThen (tlv.firstFileName.deSerialize (b.advance 1))
      (fun lv => { tlv with firstFileName := lv }) fun tlv b =>
    andThen (deSerializeSecondFileName filestoreRequiresSecondFile tlv.actionCode
        tlv.secondFileName b) (fun lv => { tlv with secondFileName := lv }) fun tlv b =>
      tlv.deSerializeMessage b

def deSerialize (tlv : Received) (b : ReadBuffer) : Option (ReadResult Received) :=
  andThen (commonDeserialize .filestoreResponse b) (fun _ => tlv) deSerializeFromValue

end FilestoreResponseTlv.Received

end Cfdp
