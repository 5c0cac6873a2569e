import Fsfw.Serialize.SerialBuffer

/-!
# Parameter wrappers

A parameter wrapper has a pointer to a parameter, which is a matrix of numbers of one type, or to a
stream of bytes with new values for it.  Numbers are the ones their bits stand for when they are
taken as unsigned.

A wrapper is serialized with the type and the shape in front of its numbers.  It can be copied to
from a stream when the shape of the stream fits into its own one at a position, and the types agree.
-/

/-- The actual type of the numbers of a parameter. -/
inductive ParameterType where
  | uint8
  | int8
  | uint16
  | int16
  | uint32
  | int32
  | float
  | double
  | unknown
  deriving DecidableEq, Repr

namespace ParameterType

def getSize : ParameterType → ℕ
  | uint8 | int8 => 1
  | uint16 | int16 => 2
  | uint32 | int32 | float => 4
  | double => 8
  | unknown => 0

def getPtcPfc : ParameterType → Option (UInt8 × UInt8)
  | uint8 => some (3, 4)
  | int8 => some (4, 4)
  | uint16 => some (3, 12)
  | int16 => some (4, 12)
  | uint32 => some (3, 14)
  | int32 => some (4, 14)
  | float => some (5, 1)
  | double => some (5, 2)
  | unknown => none

def getActualType (ptc pfc : UInt8) : ParameterType :=
  if ptc = 3 then
    if pfc = 4 then uint8 else if pfc = 12 then uint16 else if pfc = 14 then uint32 else unknown
  else if ptc = 4 then
    if pfc = 4 then int8 else if pfc = 12 then int16 else if pfc = 14 then int32 else unknown
  else if ptc = 5 then
    if pfc = 1 then float else if pfc = 2 then double else unknown
  else
    unknown

def serialize (type : ParameterType) : Serializer :=
  fun maxSize e b =>
    match type.getPtcPfc with
    | none => (.failed, b)
    | some (ptc, pfc) =>
        Serializer.andThen (SerializeAdapter.serialize 1 ptc.toNat maxSize e b) fun b =>
          SerializeAdapter.serialize 1 pfc.toNat maxSize e b

theorem getPtcPfc_eq_none_iff {type : ParameterType} :
  type.getPtcPfc = none ↔ type = unknown
  := by
  cases type <;> decide

theorem getSize_pos {type : ParameterType} (h : type ≠ unknown) :
  0 < type.getSize
  := by
  cases type with
  | unknown => contradiction
  | _ => decide

end ParameterType

/-- What the pointers of a wrapper point to: nothing, numbers that may be written or only read, or a
stream of bytes.  Both go on behind what belongs to the wrapper. -/
inductive ParameterData where
  | unset
  | elements (writable : Bool) (values : ℕ → ℕ)
  | stream (bytes : ℕ → UInt8)

def ParameterData.isUnset : ParameterData → Bool
  | unset => true
  | _ => false

structure ParameterWrapper where
  type : ParameterType
  rows : UInt8
  columns : UInt8
  data : ParameterData

namespace ParameterWrapper

def new : ParameterWrapper where
  type := .unknown
  rows := 0
  columns := 0
  data := .unset

/-- The setter for parameters. -/
def set (type : ParameterType) (rows columns : UInt8) (writable : Bool) (values : ℕ → ℕ) :
    ParameterWrapper where
  type := type
  rows := rows
  columns := columns
  data := .elements writable values

/-- The setter for new values, of which `dataSize` bytes are there. -/
def setStream (type : ParameterType) (rows columns : UInt8) (data : ℕ → UInt8) (dataSize : ℕ) :
    ReturnValue × ParameterWrapper :=
  let expectedSize := type.getSize * rows.toNat * columns.toNat
  if expectedSize < dataSize then
    (SerializeIF.streamTooShort, ⟨type, rows, columns, .unset⟩)
  else
    (.ok, ⟨type, rows, columns, .stream data⟩)

variable (W : ParameterWrapper)

/-- The `size` bytes of a stream from a position on. -/
def streamBytes (bytes : ℕ → UInt8) (position size : ℕ) : List UInt8 :=
  (List.range size).map fun i => bytes (position + i)

/-- The number at a linear index.  The bytes of a stream are read with the least significant one
first, as the machine does. -/
def element (i : ℕ) : ℕ :=
  match W.data with
  | .unset => 0
  | .elements _ values => values i
  | .stream bytes =>
      SerializeAdapter.convertBigEndian
        (streamBytes bytes (i * W.type.getSize) W.type.getSize).reverse

/-- The numbers, row by row. -/
def elements : List ℕ :=
  (List.range (W.columns.toNat * W.rows.toNat)).map W.element

def getSerializedSize : ℕ :=
  2 + 1 + 1 + W.rows.toNat * W.columns.toNat * W.type.getSize

def serializeData : Serializer :=
  Serializer.all (SerializeAdapter.serialize W.type.getSize) W.elements

def serialize : Serializer :=
  fun maxSize e b =>
    Serializer.andThen (W.type.serialize maxSize e b) fun b =>
      Serializer.andThen (SerializeAdapter.serialize 1 W.columns.toNat maxSize e b) fun b =>
        Serializer.andThen (SerializeAdapter.serialize 1 W.rows.toNat maxSize e b) fun b =>
          match W.data with
          | .unset => (ParameterWrapper.notSet, b)
          | _ =>
              if W.type = .unknown then
                (ParameterWrapper.unknownDatatype, b)
              else
                W.serializeData maxSize e b

/-! ### Copying -/

/-- The number at a position of a stream, with the most significant byte first. -/
def streamElement (type : ParameterType) (bytes : ℕ → UInt8) (i : ℕ) : ℕ :=
  SerializeAdapter.convertBigEndian (streamBytes bytes (i * type.getSize) type.getSize)

/-- Write a row, with the numbers of a stream from a position on. -/
def deSerializeRow (offset fromColumns position : ℕ) (bytes : ℕ → UInt8) (values : ℕ → ℕ) :
    ℕ → ℕ :=
  (List.range fromColumns).foldl
    (fun values fromColumn =>
      Function.update values (offset + fromColumn)
        (streamElement W.type bytes (position + fromColumn)))
    values

/-- Write all rows.  The stream is treated as long enough. -/
def deSerializeData (startingRow startingColumn fromRows fromColumns : ℕ) (bytes : ℕ → UInt8)
    (values : ℕ → ℕ) : ℕ → ℕ :=
  (List.range fromRows).foldl
    (fun values fromRow =>
      W.deSerializeRow ((startingRow + fromRow) * W.columns.toNat + startingColumn) fromColumns
        (fromRow * fromColumns) bytes values)
    values

/-- Every row is copied from the start of the source. -/
def copyRows (startingRow startingColumn fromRows fromColumns : ℕ) (source : ParameterWrapper)
    (values : ℕ → ℕ) : ℕ → ℕ :=
  (List.range fromRows).foldl
    (fun values fromRow =>
      (List.range fromColumns).foldl
        (fun values fromColumn =>
          Function.update values
            ((startingRow + fromRow) * W.columns.toNat + startingColumn + fromColumn)
            (source.element fromColumn))
        values)
    values

/-- The row is cut to one byte. -/
def convertLinearIndexToRowAndColumn (index : UInt16) : UInt8 × UInt8 :=
  ((index / W.columns.toUInt16).toUInt8, (index % W.columns.toUInt16).toUInt8)

/-- The shape of the source fits into the parameter from a position on. -/
def fits (source : ParameterWrapper) (startingRow startingColumn : UInt8) : Bool :=
  source.rows.toNat + startingRow.toNat ≤ W.rows.toNat ∧
    source.columns.toNat + startingColumn.toNat ≤ W.columns.toNat

def copyFrom (source : ParameterWrapper) (startWritingAtIndex : UInt16) :
    ReturnValue × ParameterWrapper :=
  match W.data with
  | .elements true values =>
      if source.data.isUnset then
        (sourceNotSet, W)
      else if W.type ≠ source.type then
        (datatypeMissmatch, W)
      else if W.rows = 0 ∨ W.columns = 0 then
        (columnOrRowsZero, W)
      else
        let (startingRow, startingColumn) := W.convertLinearIndexToRowAndColumn startWritingAtIndex
        if ¬ W.fits source startingRow startingColumn then
          (tooBig, W)
        else
          match source.data with
          | .stream bytes =>
              if W.type = .unknown then
                (unknownDatatype, W)
              else
                (.ok, { W with
                  data := .elements true (W.deSerializeData startingRow.toNat startingColumn.toNat
                    source.rows.toNat source.columns.toNat bytes values) })
          | _ =>
              -- Numbers of an unknown type have no bytes to be copied.
              (.failed, if W.type = .unknown then W else { W with
                data := .elements true (W.copyRows startingRow.toNat startingColumn.toNat
                  source.rows.toNat source.columns.toNat source values) })
  | _ => (readonly, W)

/-! ### What is serialized and copied -/

variable {W}

/-- The bytes of a parameter in a store: its type, its shape and its numbers. -/
def bytes (W : ParameterWrapper) : List UInt8 :=
  match W.type.getPtcPfc with
  | none => []
  | some (ptc, pfc) =>
      ptc :: pfc :: W.columns :: W.rows ::
        W.elements.flatMap (SerializeAdapter.bigEndianBytes W.type.getSize)

/-- The parameter has been set, and its type is known. -/
def IsKnown (W : ParameterWrapper) : Prop :=
  W.data ≠ .unset ∧ W.type ≠ .unknown

theorem length_elements (W : ParameterWrapper) :
  W.elements.length = W.columns.toNat * W.rows.toNat
  := by
  rw [elements, List.length_map, List.length_range]

theorem length_bytes (h : W.IsKnown) :
  W.bytes.length = W.getSerializedSize
  := by
  obtain ⟨⟨ptc, pfc⟩, htype⟩ := Option.ne_none_iff_exists'.mp
    (ParameterType.getPtcPfc_eq_none_iff.not.mpr h.2)
  rw [bytes, htype, getSerializedSize, Nat.mul_comm W.rows.toNat, ← length_elements]
  simp [List.length_flatMap]
  omega

/-- Numbers are serialized when there is room for all of them. -/
theorem all_serialize {width : ℕ} (hwidth : 0 < width) {maxSize : ℕ} (values : List ℕ)
    {b : SerialBuffer} (hroom : b.size + values.length * width ≤ maxSize) :
  Serializer.all (SerializeAdapter.serialize width) values maxSize .big b
    = (.ok, b.put (values.flatMap (SerializeAdapter.bigEndianBytes width)))
  := by
  induction values generalizing b with
  | nil =>
      rw [Serializer.all, List.flatMap_nil, SerialBuffer.put_nil]
  | cons value values ih =>
      rw [List.length_cons, Nat.succ_mul] at hroom
      rw [Serializer.all, SerializeAdapter.serialize_eq hwidth, if_pos (by omega),
        Serializer.andThen_ok, ih]
      · rw [SerialBuffer.put_put, List.flatMap_cons]
        rfl
      · rw [SerialBuffer.size_put, SerializeAdapter.length_bytesOf]
        omega

theorem serialize_byte {maxSize : ℕ} (byte : UInt8) {b : SerialBuffer} (hroom : b.size < maxSize) :
  SerializeAdapter.serialize 1 byte.toNat maxSize .big b = (.ok, b.put [byte])
  := by
  rw [SerializeAdapter.serialize_eq Nat.one_pos, SerialBufferAdapter.bytesOf_one]
  apply if_pos hroom

theorem serialize_type {type : ParameterType} {ptc pfc : UInt8}
    (htype : type.getPtcPfc = some (ptc, pfc)) {maxSize : ℕ} {b : SerialBuffer}
    (hroom : b.size + 2 ≤ maxSize) :
  type.serialize maxSize .big b = (.ok, b.put [ptc, pfc])
  := by
  rw [ParameterType.serialize, htype]
  dsimp only
  rw [serialize_byte, Serializer.andThen_ok, serialize_byte, SerialBuffer.put_put]
  · rfl
  · rw [SerialBuffer.size_put]
    exact hroom
  · omega

/-- A known parameter is serialized when there is as much room as it takes. -/
theorem serialize_of_room (h : W.IsKnown) {maxSize : ℕ} {b : SerialBuffer}
    (hroom : b.size + W.getSerializedSize ≤ maxSize) :
  W.serialize maxSize .big b = (.ok, b.put W.bytes)
  := by
  obtain ⟨hset, hknown⟩ := h
  obtain ⟨⟨ptc, pfc⟩, htype⟩ := Option.ne_none_iff_exists'.mp
    (ParameterType.getPtcPfc_eq_none_iff.not.mpr hknown)
  have hsize : W.getSerializedSize = 4 + W.elements.length * W.type.getSize := by
    rw [length_elements, getSerializedSize, Nat.mul_comm W.rows.toNat]
  have hdata : W.serializeData maxSize .big (b.put [ptc, pfc, W.columns, W.rows])
      = (.ok, b.put W.bytes) := by
    rw [serializeData, all_serialize (ParameterType.getSize_pos hknown)]
    · rw [bytes, htype, SerialBuffer.put_put]
      rfl
    · rw [SerialBuffer.size_put]
      simp only [List.length_cons, List.length_nil]
      omega
  rw [serialize, serialize_type htype, Serializer.andThen_ok, serialize_byte,
    Serializer.andThen_ok, serialize_byte, Serializer.andThen_ok]
  · rw [SerialBuffer.put_put, SerialBuffer.put_put]
    cases hcase : W.data with
    | unset => contradiction
    | elements writable values | stream bytes =>
        dsimp only
        rw [if_neg hknown]
        apply hdata
  · simp only [SerialBuffer.put, List.length_cons, List.length_nil]
    omega
  · simp only [SerialBuffer.put, List.length_cons, List.length_nil]
    omega
  · omega

theorem serialize_eq (h : W.IsKnown) :
  W.serialize W.getSerializedSize .big ⟨[], 0⟩ = (.ok, ⟨W.bytes, W.getSerializedSize⟩)
  := by
  rw [serialize_of_room h (by simp), ← length_bytes h]
  simp [SerialBuffer.put]

/-- A parameter that is not known is not serialized. -/
theorem serialize_ne_ok (h : ¬ W.IsKnown) (maxSize : ℕ) (e : Endianness) (b : SerialBuffer) :
  (W.serialize maxSize e b).1 ≠ .ok
  := by
  intro hok
  obtain ⟨b₁, htype, hrest⟩ := Serializer.andThen_eq_ok (Prod.ext hok rfl)
  obtain ⟨b₂, -, hrest⟩ := Serializer.andThen_eq_ok hrest
  obtain ⟨b₃, -, hdata⟩ := Serializer.andThen_eq_ok hrest
  apply h
  constructor
  · intro hunset
    rw [hunset] at hdata
    cases hdata
  · intro hunknown
    rw [hunknown] at htype
    cases htype

/-- The wrapper points to a parameter that may be written. -/
def IsWritable (W : ParameterWrapper) : Prop :=
  ∃ values, W.data = .elements true values

/-- The wrapper points to a stream. -/
def IsStream (W : ParameterWrapper) : Prop :=
  ∃ bytes, W.data = .stream bytes

/-- A parameter accepts a source from an index on: it may be written, the source is a stream of the
same, known type, and its shape fits in. -/
structure Accepts (W source : ParameterWrapper) (index : UInt16) : Prop where
  writable : W.IsWritable
  stream : source.IsStream
  type_eq : W.type = source.type
  known : W.type ≠ .unknown
  rows : W.rows ≠ 0
  columns : W.columns ≠ 0
  fits : W.fits source (W.convertLinearIndexToRowAndColumn index).1
    (W.convertLinearIndexToRowAndColumn index).2 = true

/-- What a parameter is after it has been copied to. -/
theorem copyFrom_of_accepts {source : ParameterWrapper} {index : UInt16}
    (h : W.Accepts source index) :
  ∃ values, W.copyFrom source index = (.ok, { W with data := .elements true values })
  := by
  obtain ⟨⟨values, hvalues⟩, ⟨bytes, hbytes⟩, htype, hknown, hrows, hcolumns, hfits⟩ := h
  rw [copyFrom, hvalues, hbytes]
  simp only [ParameterData.isUnset, htype, hrows, hcolumns, ne_eq, not_true_eq_false, if_false, or_self, hfits,
    Bool.false_eq_true]
  rw [htype] at hknown
  simp only [hknown, if_false]
  refine ⟨_, rfl⟩

/-- Only what is accepted is copied. -/
theorem copyFrom_ok_iff {source : ParameterWrapper} {index : UInt16} :
  (W.copyFrom source index).1 = .ok ↔ W.Accepts source index
  := by
  constructor
  · intro h
    rw [copyFrom] at h
    split at h
    · rename_i values hvalues
      split at h
      · cases h
      · split at h
        · cases h
        · rename_i htype
          split at h
          · cases h
          · rename_i hshape
            dsimp only at h
            split at h
            · cases h
            · rename_i hfits
              split at h
              · rename_i bytes hbytes
                split at h
                · cases h
                · rename_i hknown
                  rw [not_or] at hshape
                  exact ⟨⟨values, hvalues⟩, ⟨bytes, hbytes⟩, not_not.mp htype, hknown, hshape.1,
                    hshape.2, not_not.mp hfits⟩
              · cases h
    · cases h
  · intro h
    obtain ⟨values, hcopy⟩ := copyFrom_of_accepts h
    rw [hcopy]

/-- A wrapper that has been copied to is known. -/
theorem isKnown_copyFrom {source : ParameterWrapper} {index : UInt16}
    (h : (W.copyFrom source index).1 = .ok) :
  (W.copyFrom source index).2.IsKnown
  := by
  have haccepts := copyFrom_ok_iff.mp h
  obtain ⟨values, hcopy⟩ := copyFrom_of_accepts haccepts
  rw [hcopy]
  constructor
  · nofun
  · apply haccepts.known

end ParameterWrapper
