import Fsfw.Parameters.ParameterCopy

/-!
# Parameters from streams

A wrapper that points to a stream knows where the stream begins, and trusts the size that is
computed from its type and its shape.  Here a read behind the bytes that are there is undefined.

A parameter is read back from its bytes, of which nothing is left.  Of the two setters for streams
the one that looks for the description in the stream keeps all reads inside of it.  The other one
compares the sizes the other way round: it accepts blocks that are too short, so that reads stay
inside exactly when the block is not too short (`ParameterWrapper.staysInside_iff`).
-/

namespace ParameterType

/-- The type is read before it is looked up. -/
def deSerialize : Deserializer ParameterType :=
  fun streamEndianness type buffer =>
    match SerializeAdapter.deSerializeByte streamEndianness 0 buffer with
    | (.ok, ptc, buffer) =>
        match SerializeAdapter.deSerializeByte streamEndianness 0 buffer with
        | (.ok, pfc, buffer) => (.ok, getActualType ptc pfc, buffer)
        | (result, _, buffer) => (result, type, buffer)
    | (result, _, buffer) => (result, type, buffer)

theorem getActualType_getPtcPfc {type : ParameterType} {ptc pfc : UInt8}
    (h : type.getPtcPfc = some (ptc, pfc)) :
  getActualType ptc pfc = type
  := by
  cases type <;> cases h <;> rfl

end ParameterType

namespace ParameterWrapper

open SerializeAdapter Updates

/-- The bytes of a block, and zeros behind them. -/
def bytesIn (data : List UInt8) : ℕ → UInt8 :=
  fun i => data.getD i 0

variable (W : ParameterWrapper)

/-- The setter for a stream that begins with its description.  It gives the rest of the stream back.
-/
def setFromStream (stream : List UInt8) : ReturnValue × ParameterWrapper × Option (List UInt8) :=
  match W.type.deSerialize .big stream with
  | (.ok, type, stream) =>
      match deSerializeByte .big W.columns stream with
      | (.ok, columns, stream) =>
          match deSerializeByte .big W.rows stream with
          | (.ok, rows, stream) =>
              let dataSize := type.getSize * rows.toNat * columns.toNat
              if stream.length < dataSize then
                (SerializeIF.streamTooShort, { W with type, columns, rows }, none)
              else
                (.ok, ⟨type, rows, columns, .stream (bytesIn stream)⟩, some (stream.drop dataSize))
          | (result, rows, _) => (result, { W with type, columns, rows }, none)
      | (result, columns, _) => (result, { W with type, columns }, none)
  | (result, type, _) => (result, { W with type }, none)

/-- Read a number of a stream of which `limit` bytes are there. -/
def readNumber (limit : ℕ) (type : ParameterType) (bytes : ℕ → UInt8) (i : ℕ) : Option ℕ :=
  if (i + 1) * type.getSize ≤ limit then some (streamElement type bytes i) else none

/-- Get a number of a type, if there is one at a position. -/
def getElement (limit : ℕ) (type : ParameterType) (row column : UInt8) :
    Option (ReturnValue × Option ℕ) :=
  match W.data with
  | .unset => some (notSet, none)
  | .elements _ values =>
      if type ≠ W.type then
        some (datatypeMissmatch, none)
      else if W.rows ≤ row ∨ W.columns ≤ column then
        some (outOfBounds, none)
      else
        some (.ok, some (values (row.toNat * W.columns.toNat + column.toNat)))
  | .stream bytes =>
      if type ≠ W.type then
        some (datatypeMissmatch, none)
      else if W.rows ≤ row ∨ W.columns ≤ column then
        some (outOfBounds, none)
      else
        (readNumber limit W.type bytes (row.toNat * W.columns.toNat + column.toNat)).map
          fun number => (.ok, some number)

/-- Write all rows, with the numbers of a stream of which `limit` bytes are there. -/
def deSerializeDataWithin (limit startingRow startingColumn fromRows fromColumns : ℕ)
    (bytes : ℕ → UInt8) (values : ℕ → ℕ) : Option (ℕ → ℕ) :=
  (List.range fromRows).foldlM
    (fun values fromRow =>
      (List.range fromColumns).foldlM
        (fun values fromColumn => do
          let number ← readNumber limit W.type bytes (fromRow * fromColumns + fromColumn)
          return Function.update values
            ((startingRow + fromRow) * W.columns.toNat + startingColumn + fromColumn) number)
        values)
    values

/-- Copy from a source of whose stream `limit` bytes are there. -/
def copyFromWithin (limit : ℕ) (source : ParameterWrapper) (startWritingAtIndex : UInt16) :
    Option (ReturnValue × ParameterWrapper) :=
  match W.data, source.data with
  | .elements true values, .stream bytes =>
      if W.type ≠ source.type then
        some (datatypeMissmatch, W)
      else if W.rows = 0 ∨ W.columns = 0 then
        some (columnOrRowsZero, W)
      else
        let (startingRow, startingColumn) := W.convertLinearIndexToRowAndColumn startWritingAtIndex
        if ¬ W.fits source startingRow startingColumn then
          some (tooBig, W)
        else if W.type = .unknown then
          some (unknownDatatype, W)
        else
          (W.deSerializeDataWithin limit startingRow.toNat startingColumn.toNat source.rows.toNat
            source.columns.toNat bytes values).map
              fun values => (.ok, { W with data := .elements true values })
  -- No other source is read as a stream.
  | _, _ => some (W.copyFrom source startWritingAtIndex)

/-- The byte order that is passed is ignored. -/
def deSerialize (buffer : List UInt8) (_streamEndianness : Endianness)
    (startWritingAtIndex : UInt16) : Option (ReturnValue × ParameterWrapper × List UInt8) :=
  match new.setFromStream buffer with
  | (.ok, streamDescription, some rest) =>
      -- The description takes four bytes of the stream.
      (W.copyFromWithin (buffer.length - 4) streamDescription startWritingAtIndex).map
        fun (result, W) => (result, W, rest)
  | (result, _, _) => some (result, W, buffer)

/-! ### Reads inside of the stream -/

section Inside

variable {W}

/-- Whatever is read later, the bytes that are there are enough. -/
structure StaysInside (W : ParameterWrapper) (limit : ℕ) : Prop where
  getElement : ∀ type ≠ .unknown, ∀ row column, W.getElement limit type row column ≠ none
  copyFrom : ∀ (V : ParameterWrapper) (index : UInt16), V.copyFromWithin limit W index ≠ none

/-- A loop whose steps all succeed. -/
theorem foldlM_eq_some {α β : Type*} {step : β → α → Option β} {next : β → α → β} {xs : List α}
    (h : ∀ y, ∀ x ∈ xs, step y x = some (next y x)) (y : β) :
  xs.foldlM step y = some (xs.foldl next y)
  := by
  induction xs generalizing y with
  | nil =>
      rfl
  | cons x xs ih =>
      rw [List.foldlM_cons, h y x List.mem_cons_self, List.foldl_cons]
      apply ih fun y x hx => h y x (List.mem_cons_of_mem _ hx)

theorem entry_lt {n m i j : ℕ} (hi : i < n) (hj : j < m) :
  i * m + j < n * m
  := by
  calc i * m + j
      < i * m + m := Nat.add_lt_add_left hj (i * m)
    _ = (i + 1) * m := (Nat.succ_mul i m).symm
    _ ≤ n * m := Nat.mul_le_mul_right m hi

/-- The end of an entry lies before the end of its matrix. -/
theorem succ_mul_le {n m i j size limit : ℕ} (hi : i < n) (hj : j < m)
    (h : n * m * size ≤ limit) :
  (i * m + j + 1) * size ≤ limit
  := le_trans (Nat.mul_le_mul_right size (entry_lt hi hj)) h

theorem deSerializeDataWithin_eq {limit fromRows fromColumns : ℕ}
    (h : fromRows * fromColumns * W.type.getSize ≤ limit) (startingRow startingColumn : ℕ)
    (bytes : ℕ → UInt8) (values : ℕ → ℕ) :
  W.deSerializeDataWithin limit startingRow startingColumn fromRows fromColumns bytes values
    = some (W.deSerializeData startingRow startingColumn fromRows fromColumns bytes values)
  := by
  apply foldlM_eq_some
  intro values fromRow hrow
  apply foldlM_eq_some
  intro values fromColumn hcolumn
  rw [readNumber, if_pos (succ_mul_le (List.mem_range.mp hrow) (List.mem_range.mp hcolumn) h)]
  rfl

/-- With enough bytes of the source, nothing else is read. -/
theorem copyFromWithin_eq {limit : ℕ} {source : ParameterWrapper}
    (h : source.rows.toNat * source.columns.toNat * source.type.getSize ≤ limit)
    (index : UInt16) :
  W.copyFromWithin limit source index = some (W.copyFrom source index)
  := by
  rw [copyFromWithin]
  split
  · rename_i values bytes hvalues hbytes
    rw [copyFrom, hvalues, hbytes]
    simp only [ParameterData.isUnset, Bool.false_eq_true, if_false]
    split
    · rfl
    · rename_i htype
      rw [ne_eq, not_not] at htype
      split
      · rfl
      · split
        · rfl
        · split
          · rfl
          · rw [deSerializeDataWithin_eq (by rw [htype]; exact h), Option.map_some]
  · rfl

theorem staysInside_of_le {limit : ℕ}
    (h : W.rows.toNat * W.columns.toNat * W.type.getSize ≤ limit) :
  W.StaysInside limit
  := by
  constructor
  · intro type _ row column
    rw [getElement]
    split
    · simp
    · split
      · simp
      · split <;> simp
    · split
      · simp
      · split
        · simp
        · rename_i hinside
          obtain ⟨hrow, hcolumn⟩ := not_or.mp hinside
          have hrow' := UInt8.lt_iff_toNat_lt.mp (UInt8.not_le.mp hrow)
          have hcolumn' := UInt8.lt_iff_toNat_lt.mp (UInt8.not_le.mp hcolumn)
          rw [readNumber, if_pos (succ_mul_le hrow' hcolumn' h)]
          simp
  · intro V index
    rw [copyFromWithin_eq h]
    simp

theorem toNat_pred {n : UInt8} (h : n.toNat ≠ 0) :
  (n - 1).toNat = n.toNat - 1
  := by
  apply UInt8.toNat_sub_of_le
  rw [UInt8.le_iff_toNat_le]
  apply Nat.pos_of_ne_zero h

/-- The last number has to be there. -/
theorem staysInside_stream_iff {limit : ℕ} {bytes : ℕ → UInt8} (hdata : W.data = .stream bytes) :
  W.StaysInside limit ↔ W.rows.toNat * W.columns.toNat * W.type.getSize ≤ limit
  := by
  constructor
  · intro h
    by_contra hlimit
    have hsize : W.rows.toNat * W.columns.toNat * W.type.getSize ≠ 0 := by omega
    rw [mul_ne_zero_iff, mul_ne_zero_iff] at hsize
    obtain ⟨⟨hrows, hcolumns⟩, htype⟩ := hsize
    have hknown : W.type ≠ .unknown := fun hunknown => htype (by rw [hunknown]; rfl)
    have hrow := toNat_pred hrows
    have hcolumn := toNat_pred hcolumns
    have hlast : (W.rows.toNat - 1) * W.columns.toNat + (W.columns.toNat - 1) + 1
        = W.rows.toNat * W.columns.toNat := by
      rw [Nat.add_assoc, Nat.sub_add_cancel (by omega), ← Nat.succ_mul, Nat.succ_eq_add_one,
        Nat.sub_add_cancel (by omega)]
    have hinside : ¬ (W.rows ≤ W.rows - 1 ∨ W.columns ≤ W.columns - 1) := by
      rw [UInt8.le_iff_toNat_le, UInt8.le_iff_toNat_le]
      omega
    apply h.getElement W.type hknown (W.rows - 1) (W.columns - 1)
    rw [getElement, hdata]
    simp only [ne_eq, not_true_eq_false, hinside, if_false]
    rw [hrow, hcolumn, readNumber, hlast, if_neg hlimit, Option.map_none]
  · exact staysInside_of_le

end Inside

/-! ### Descriptions in streams -/

section Descriptions

variable {W}

/-- An accepted stream has a description and the numbers, and what is left is behind them. -/
theorem setFromStream_eq_ok {stream rest : List UInt8} {S : ParameterWrapper}
    (h : W.setFromStream stream = (.ok, S, some rest)) :
  ∃ ptc pfc columns rows tail, stream = ptc :: pfc :: columns :: rows :: tail
    ∧ S = ⟨ParameterType.getActualType ptc pfc, rows, columns, .stream (bytesIn tail)⟩
    ∧ S.type.getSize * rows.toNat * columns.toNat ≤ tail.length
    ∧ rest = tail.drop (S.type.getSize * rows.toNat * columns.toNat)
  := by
  match stream with
  | ptc :: pfc :: columns :: rows :: tail =>
      simp only [setFromStream, ParameterType.deSerialize, deSerializeByte] at h
      split at h
      · cases h
      · rename_i hlength
        injection h with _ h
        injection h with hS hrest
        injection hrest with hrest
        subst hS
        use ptc, pfc, columns, rows, tail, rfl, rfl, Nat.not_lt.mp hlength, hrest.symm
  | [] | [_] | [_, _] | [_, _, _] => cases h

/-- The overload that looks for the description keeps everything inside. -/
theorem staysInside_of_setFromStream {stream rest : List UInt8} {S : ParameterWrapper}
    (h : W.setFromStream stream = (.ok, S, some rest)) :
  S.StaysInside (stream.length - 4)
  := by
  obtain ⟨ptc, pfc, columns, rows, tail, rfl, rfl, hlength, -⟩ := setFromStream_eq_ok h
  apply staysInside_of_le
  simp only [List.length_cons]
  rw [Nat.mul_comm, ← Nat.mul_assoc]
  exact hlength

/-- A description with its numbers, and something behind them, is accepted. -/
theorem setFromStream_append {ptc pfc columns rows : UInt8} {type : ParameterType}
    (htype : type.getPtcPfc = some (ptc, pfc)) {numbers : List UInt8}
    (hlength : numbers.length = type.getSize * rows.toNat * columns.toNat) (rest : List UInt8) :
  W.setFromStream (ptc :: pfc :: columns :: rows :: (numbers ++ rest))
    = (.ok, ⟨type, rows, columns, .stream (bytesIn (numbers ++ rest))⟩, some rest)
  := by
  simp only [setFromStream, ParameterType.deSerialize, deSerializeByte,
    ParameterType.getActualType_getPtcPfc htype]
  rw [if_neg, ← hlength, List.drop_left]
  rw [List.length_append, hlength, Nat.not_lt]
  apply Nat.le_add_right

end Descriptions

/-! ### Round trips -/

section RoundTrips

variable {W} {values : ℕ → ℕ}

/-- Numbers in memory, each of them in as many bytes as its type has. -/
structure IsMatrix (W : ParameterWrapper) (values : ℕ → ℕ) : Prop where
  inMemory : ∃ writable, W.data = .elements writable values
  known : W.type ≠ .unknown
  rows : W.rows ≠ 0
  columns : W.columns ≠ 0
  lt : ∀ i < W.rows.toNat, ∀ j < W.columns.toNat,
    values (i * W.columns.toNat + j) < 2 ^ (8 * W.type.getSize)

/-- What is serialized takes the serialized size, and a parameter of the same type and shape has the
same numbers after it has been read.  The bytes behind are left. -/
def RoundTrips (W : ParameterWrapper) (values : ℕ → ℕ) : Prop :=
  ∀ {maxSize : ℕ} {b : SerialBuffer}, b.size + W.getSerializedSize ≤ maxSize →
    ∃ bytes, bytes.length = W.getSerializedSize ∧ W.serialize maxSize .big b = (.ok, b.put bytes)
      ∧ ∀ (e : Endianness) (before : ℕ → ℕ) (rest : List UInt8), ∃ restored,
        { W with data := .elements true before }.deSerialize (bytes ++ rest) e 0
            = some (.ok, { W with data := .elements true restored }, rest)
          ∧ (∀ i < W.rows.toNat, ∀ j < W.columns.toNat,
            restored (i * W.columns.toNat + j) = values (i * W.columns.toNat + j))
          ∧ ∀ k, W.rows.toNat * W.columns.toNat ≤ k → restored k = before k

theorem IsMatrix.isKnown (h : W.IsMatrix values) :
  W.IsKnown
  := by
  obtain ⟨writable, hdata⟩ := h.inMemory
  constructor
  · rw [hdata]
    simp
  · exact h.known

theorem IsMatrix.getElem_elements (h : W.IsMatrix values) {k : ℕ} (hk : k < W.elements.length) :
  W.elements[k] = values k
  := by
  obtain ⟨writable, hdata⟩ := h.inMemory
  simp only [elements, List.getElem_map, List.getElem_range, element, hdata]

theorem streamBytes_bytesIn {data : List UInt8} {position size : ℕ}
    (h : position + size ≤ data.length) :
  streamBytes (bytesIn data) position size = (data.drop position).take size
  := by
  apply List.ext_getElem
  · simp [streamBytes]
    omega
  · intro i hi hi'
    rw [streamBytes, List.length_map, List.length_range] at hi
    simp only [streamBytes, bytesIn, List.getElem_map, List.getElem_range, List.getElem_take,
      List.getElem_drop]
    rw [List.getD_eq_getElem]

/-- Every item takes the same number of bytes. -/
theorem take_drop_flatMap {α : Type*} {bytes : α → List UInt8} {size : ℕ}
    (hsize : ∀ x, (bytes x).length = size) {xs : List α} {i : ℕ} (hi : i < xs.length)
    (rest : List UInt8) :
  ((xs.flatMap bytes ++ rest).drop (i * size)).take size = bytes xs[i]
  := by
  induction xs generalizing i with
  | nil =>
      cases hi
  | cons x xs ih =>
      rw [List.flatMap_cons, List.append_assoc]
      cases i with
      | zero =>
          rw [Nat.zero_mul, List.drop_zero, List.take_left' (hsize x)]
          rfl
      | succ i =>
          rw [Nat.succ_mul, Nat.add_comm, ← List.drop_drop, List.drop_left' (hsize x),
            ih (Nat.lt_of_succ_lt_succ hi), List.getElem_cons_succ]

theorem length_flatMap_bigEndianBytes (width : ℕ) (numbers : List ℕ) :
  (numbers.flatMap (bigEndianBytes width)).length = numbers.length * width
  := by
  simp [List.length_flatMap]

theorem streamElement_flatMap {type : ParameterType} {numbers : List ℕ} {i : ℕ}
    (hi : i < numbers.length) (hlt : numbers[i] < 2 ^ (8 * type.getSize)) (rest : List UInt8) :
  streamElement type (bytesIn (numbers.flatMap (bigEndianBytes type.getSize) ++ rest)) i
    = numbers[i]
  := by
  have hend : i * type.getSize + type.getSize ≤ numbers.length * type.getSize := by
    rw [← Nat.succ_mul]
    apply Nat.mul_le_mul_right _ hi
  rw [streamElement, streamBytes_bytesIn]
  · rw [take_drop_flatMap (length_bigEndianBytes type.getSize) hi,
      convertBigEndian_bigEndianBytes hlt]
  · rw [List.length_append, length_flatMap_bigEndianBytes]
    omega

/-- A stream of the same shape is copied as a whole. -/
theorem copyFrom_sameShape {V S : ParameterWrapper} {before : ℕ → ℕ} (h : V.Matches S before)
    (hstream : S.IsStream) (hrows : S.rows = V.rows) (hcolumns : S.columns = V.columns) :
  ∃ restored, V.copyFrom S 0 = (.ok, { V with data := .elements true restored })
    ∧ (∀ i < V.rows.toNat, ∀ j < V.columns.toNat,
      restored (i * V.columns.toNat + j) = S.entry i j)
    ∧ ∀ k, V.rows.toNat * V.columns.toNat ≤ k → restored k = before k
  := by
  have hrow : V.row 0 = 0 := Nat.zero_div _
  have hcolumn : V.column 0 = 0 := Nat.zero_mod _
  have hinside : V.Inside S 0 := by
    rw [Inside, hrow, hcolumn, hrows, hcolumns, Nat.zero_add, Nat.zero_add]
    use le_refl _
  have hcopy := h.copyFrom_eq 0
  rw [if_pos ((fits_iff_inside h.columns (row_lt_of_inside hinside)).mpr hinside),
    (isStream_iff h.isSet).mp hstream] at hcopy
  have hcopies := copiesBlock_of_stream hstream (row_lt_of_inside hinside) hinside hcopy
  obtain ⟨restored, hrestored, hwritten, hkept⟩ := hcopies.copied (by rw [hcopy])
  rw [hrows, hcolumns, hrow, hcolumn] at hwritten hkept
  simp only [Nat.zero_add] at hwritten hkept
  refine ⟨restored, Prod.ext (by rw [hcopy]) hrestored, hwritten, ?_⟩
  intro k hk
  apply hkept
  intro i hi j hj heq
  exact Nat.not_le.mpr (entry_lt hi hj) (heq ▸ hk)

/-- A matrix is read back from its bytes. -/
theorem IsMatrix.deSerialize_eq (h : W.IsMatrix values) (e : Endianness) (before : ℕ → ℕ)
    (rest : List UInt8) :
  ∃ restored, { W with data := .elements true before }.deSerialize (W.bytes ++ rest) e 0
      = some (.ok, { W with data := .elements true restored }, rest)
    ∧ (∀ i < W.rows.toNat, ∀ j < W.columns.toNat,
      restored (i * W.columns.toNat + j) = values (i * W.columns.toNat + j))
    ∧ ∀ k, W.rows.toNat * W.columns.toNat ≤ k → restored k = before k
  := by
  obtain ⟨⟨ptc, pfc⟩, htype⟩ := Option.ne_none_iff_exists'.mp
    (ParameterType.getPtcPfc_eq_none_iff.not.mpr h.known)
  have hlength : (W.elements.flatMap (bigEndianBytes W.type.getSize)).length
      = W.type.getSize * W.rows.toNat * W.columns.toNat := by
    rw [length_flatMap_bigEndianBytes, length_elements]
    ring
  -- What is read is a description of the same shape.
  let numbers := W.elements.flatMap (bigEndianBytes W.type.getSize) ++ rest
  let S : ParameterWrapper := ⟨W.type, W.rows, W.columns, .stream (bytesIn numbers)⟩
  let V : ParameterWrapper := { W with data := .elements true before }
  have hbytes : W.bytes ++ rest = ptc :: pfc :: W.columns :: W.rows :: numbers := by
    rw [bytes, htype]
    rfl
  have hset : new.setFromStream (W.bytes ++ rest) = (.ok, S, some rest) := by
    rw [hbytes]
    exact setFromStream_append htype hlength rest
  have hmatches : V.Matches S before := by
    constructor
    · rfl
    · simp [S]
    · rfl
    · exact h.known
    · exact h.rows
    · exact h.columns
  obtain ⟨restored, hcopy, hwritten, hkept⟩ := copyFrom_sameShape hmatches ⟨_, rfl⟩ rfl rfl
  have hwithin : V.copyFromWithin ((W.bytes ++ rest).length - 4) S 0 = some (V.copyFrom S 0) := by
    apply copyFromWithin_eq
    simp only [hbytes, List.length_cons, numbers, List.length_append, hlength, S]
    rw [Nat.mul_comm, ← Nat.mul_assoc]
    omega
  refine ⟨restored, ?_, ?_, hkept⟩
  · rw [deSerialize, hset]
    dsimp only
    rw [hwithin, hcopy]
    rfl
  · intro i hi j hj
    have hk : i * W.columns.toNat + j < W.elements.length := by
      rw [length_elements, Nat.mul_comm W.columns.toNat]
      exact entry_lt hi hj
    have hvalue := h.getElem_elements hk
    rw [hwritten i hi j hj, ← hvalue]
    apply streamElement_flatMap hk
    rw [hvalue]
    apply h.lt i hi j hj

theorem IsMatrix.roundTrips (h : W.IsMatrix values) :
  W.RoundTrips values
  := by
  intro maxSize b hroom
  use W.bytes, length_bytes h.isKnown, serialize_of_room h.isKnown hroom
  exact h.deSerialize_eq

end RoundTrips

/-- The parameter goes through its bytes, streams with descriptions are read inside, and so is a
block that is accepted exactly when it is not too short. -/
theorem staysInside_iff {W : ParameterWrapper} {values : ℕ → ℕ} (h : W.IsMatrix values)
    (stream data : List UInt8) (type : ParameterType) (rows columns : UInt8) :
  W.RoundTrips values
      ∧ (∀ S rest, new.setFromStream stream = (.ok, S, some rest) →
        S.StaysInside (stream.length - 4))
      ∧ (∀ S, setStream type rows columns (bytesIn data) data.length = (.ok, S) →
        S.StaysInside data.length)
    ↔ ¬ data.length < type.getSize * rows.toNat * columns.toNat
  := by
  rw [Nat.not_lt]
  constructor
  · rintro ⟨-, -, hblock⟩
    by_contra hshort
    have hset := hblock ⟨type, rows, columns, .stream (bytesIn data)⟩ (if_neg (by omega))
    have hinside := (staysInside_stream_iff rfl).mp hset
    apply hshort
    rw [Nat.mul_assoc, Nat.mul_comm]
    exact hinside
  · intro hlength
    refine ⟨h.roundTrips, fun S rest hset => staysInside_of_setFromStream hset, ?_⟩
    intro S hset
    rw [setStream] at hset
    split at hset
    · cases hset
    · injection hset with _ hS
      subst hS
      apply staysInside_of_le
      rw [Nat.mul_comm, ← Nat.mul_assoc]
      exact hlength

theorem isMatrix_single :
  (single (.elements false fun _ => 7)).IsMatrix fun _ => 7
  where
  inMemory := ⟨false, rfl⟩
  known := by decide
  rows := by decide
  columns := by decide
  lt := by
    intro i _ j _
    decide

/-- A block of one byte for a number of one byte. -/
theorem staysInside_iff_single :
  (single (.elements false fun _ => 7)).RoundTrips (fun _ => 7)
      ∧ (∀ S rest, new.setFromStream [3, 4, 1, 1, 7] = (.ok, S, some rest) → S.StaysInside 1)
      ∧ (∀ S, setStream .uint8 1 1 (bytesIn [7]) 1 = (.ok, S) → S.StaysInside 1)
    ↔ ¬ 1 < 1
  := staysInside_iff isMatrix_single [3, 4, 1, 1, 7] [7] .uint8 1 1

/-- An empty block is accepted for a number of one byte, and is then read. -/
theorem not_staysInside_empty :
  ¬ ∀ (data : List UInt8) (type : ParameterType) (rows columns : UInt8) (S : ParameterWrapper),
      setStream type rows columns (bytesIn data) data.length = (.ok, S) →
        S.StaysInside data.length
  := by
  intro h
  have hinside := h [] .uint8 1 1 ⟨.uint8, 1, 1, .stream (bytesIn [])⟩ rfl
  apply hinside.getElement .uint8 (by decide) 0 0
  rfl

end ParameterWrapper
