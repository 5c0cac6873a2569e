import Fsfw.Library.Updates
import Fsfw.Parameters.ParameterWrapper

/-!
# Copying parameter matrices

A source should be copied to a parameter, as a block from a position on, exactly when the block lies
in the parameter, and else nothing should change.

The row of a position is cut to one byte, so that a block behind the parameter may be copied to its
beginning.  A source in memory is copied with its first row for all rows, and the copy is reported
to have failed.  Copying is right for blocks that do not fit in at the position that is cut, for
streams at rows below 256, and where what is written of a source in memory is there already, at rows
from 256 on (`ParameterWrapper.copiesBlock_iff`).
-/

namespace ParameterWrapper

open Updates

/-- The entry of a matrix, of which streams have the most significant byte first. -/
def entry (W : ParameterWrapper) (i j : ℕ) : ℕ :=
  match W.data with
  | .unset => 0
  | .elements _ values => values (i * W.columns.toNat + j)
  | .stream bytes => streamElement W.type bytes (i * W.columns.toNat + j)

section

variable (W source : ParameterWrapper) (index : UInt16)

/-- The row at which the index lies. -/
def row : ℕ :=
  index.toNat / W.columns.toNat

def column : ℕ :=
  index.toNat % W.columns.toNat

/-- The block lies in the parameter. -/
def Inside : Prop :=
  W.row index + source.rows.toNat ≤ W.rows.toNat
    ∧ W.column index + source.columns.toNat ≤ W.columns.toNat

instance : Decidable (W.Inside source index) :=
  inferInstanceAs (Decidable (_ ∧ _))

/-- Either the block is copied and nothing else changes, or nothing changes at all. -/
structure CopiesBlock (values : ℕ → ℕ) : Prop where
  ok_iff : (W.copyFrom source index).1 = .ok ↔ W.Inside source index
  copied : (W.copyFrom source index).1 = .ok →
    ∃ values', (W.copyFrom source index).2 = { W with data := .elements true values' }
      ∧ (∀ i < source.rows.toNat, ∀ j < source.columns.toNat,
        values' ((W.row index + i) * W.columns.toNat + (W.column index + j)) = source.entry i j)
      ∧ ∀ k, (∀ i < source.rows.toNat, ∀ j < source.columns.toNat,
        (W.row index + i) * W.columns.toNat + (W.column index + j) ≠ k) → values' k = values k
  unchanged : (W.copyFrom source index).1 ≠ .ok → (W.copyFrom source index).2 = W

/-- A block that fits in where the row is cut comes from a stream, and the row is not cut; or it
comes from memory, the row is cut, and the numbers that are written are there. -/
def CopiesWhen (values : ℕ → ℕ) : Prop :=
  W.fits source (W.convertLinearIndexToRowAndColumn index).1
      (W.convertLinearIndexToRowAndColumn index).2 = true →
    (source.IsStream ∧ W.row index < 256)
      ∨ (¬ source.IsStream ∧ 256 ≤ W.row index
        ∧ ∀ i < source.rows.toNat, ∀ j < source.columns.toNat,
          values ((W.row index % 256 + i) * W.columns.toNat + W.column index + j)
            = source.entry 0 j)

end

/-! ### The position -/

section Position

variable {W source : ParameterWrapper} {index : UInt16}

theorem toNat_convertLinearIndexToRowAndColumn (hcolumns : W.columns ≠ 0) (index : UInt16) :
  (W.convertLinearIndexToRowAndColumn index).1.toNat = W.row index % 256
    ∧ (W.convertLinearIndexToRowAndColumn index).2.toNat = W.column index
  := by
  have hpos : 0 < W.columns.toNat := Nat.pos_of_ne_zero fun h => hcolumns (UInt8.toNat_inj.mp h)
  have hlt := W.columns.toNat_lt
  have hmod := Nat.mod_lt index.toNat hpos
  constructor
  · rw [convertLinearIndexToRowAndColumn, UInt16.toNat_toUInt8, UInt16.toNat_div,
      UInt8.toNat_toUInt16]
    rfl
  · rw [convertLinearIndexToRowAndColumn, UInt16.toNat_toUInt8, UInt16.toNat_mod,
      UInt8.toNat_toUInt16, column]
    apply Nat.mod_eq_of_lt
    omega

theorem fits_iff (hcolumns : W.columns ≠ 0) :
  W.fits source (W.convertLinearIndexToRowAndColumn index).1
      (W.convertLinearIndexToRowAndColumn index).2 = true
    ↔ W.row index % 256 + source.rows.toNat ≤ W.rows.toNat
      ∧ W.column index + source.columns.toNat ≤ W.columns.toNat
  := by
  obtain ⟨hrow, hcolumn⟩ := toNat_convertLinearIndexToRowAndColumn hcolumns index
  rw [fits, hrow, hcolumn, decide_eq_true_eq, Nat.add_comm source.rows.toNat,
    Nat.add_comm source.columns.toNat]

/-- A row that is not cut. -/
theorem fits_iff_inside (hcolumns : W.columns ≠ 0) (hrow : W.row index < 256) :
  W.fits source (W.convertLinearIndexToRowAndColumn index).1
      (W.convertLinearIndexToRowAndColumn index).2 = true
    ↔ W.Inside source index
  := by
  rw [fits_iff hcolumns, Nat.mod_eq_of_lt hrow, Inside]

theorem row_lt_of_inside (h : W.Inside source index) :
  W.row index < 256
  := by
  have hrows := W.rows.toNat_lt
  have hle := h.1
  omega

end Position

/-! ### What is written -/

section Written

variable {W source : ParameterWrapper} {index : UInt16} {values : ℕ → ℕ}

/-- A parameter that may be written, and a source that has been set, of the same type. -/
structure Matches (W source : ParameterWrapper) (values : ℕ → ℕ) : Prop where
  writable : W.data = .elements true values
  isSet : source.data ≠ .unset
  type_eq : W.type = source.type
  known : W.type ≠ .unknown
  rows : W.rows ≠ 0
  columns : W.columns ≠ 0

/-- What is written to the parameter. -/
def written (W source : ParameterWrapper) (index : UInt16) (values : ℕ → ℕ) : ℕ → ℕ :=
  match source.data with
  | .stream _ =>
      updates (block W.columns.toNat (W.row index % 256) (W.column index) source.rows.toNat
        source.columns.toNat source.entry) values
  | _ =>
      updates (block W.columns.toNat (W.row index % 256) (W.column index) source.rows.toNat
        source.columns.toNat fun _ j => source.entry 0 j) values

theorem deSerializeData_eq {bytes : ℕ → UInt8} (hsource : source.data = .stream bytes)
    (htype : W.type = source.type) (startingRow startingColumn : ℕ) (values : ℕ → ℕ) :
  W.deSerializeData startingRow startingColumn source.rows.toNat source.columns.toNat bytes values
    = updates (block W.columns.toNat startingRow startingColumn source.rows.toNat
        source.columns.toNat source.entry) values
  := by
  have hentry : source.entry
      = fun i j => streamElement W.type bytes (i * source.columns.toNat + j) := by
    funext i j
    rw [entry, hsource, htype]
  rw [hentry, updates_block]
  rfl

theorem copyRows_eq {writable : Bool} {given : ℕ → ℕ}
    (hsource : source.data = .elements writable given) (startingRow startingColumn : ℕ)
    (values : ℕ → ℕ) :
  W.copyRows startingRow startingColumn source.rows.toNat source.columns.toNat source values
    = updates (block W.columns.toNat startingRow startingColumn source.rows.toNat
        source.columns.toNat fun _ j => source.entry 0 j) values
  := by
  have hentry : source.entry 0 = source.element := by
    funext j
    simp only [entry, element, hsource, Nat.zero_mul, Nat.zero_add]
  rw [hentry, updates_block]
  rfl

/-- What is returned when a source has been copied. -/
def copyResult (source : ParameterWrapper) : ReturnValue :=
  match source.data with
  | .stream _ => .ok
  | _ => .failed

/-- Between a parameter and a source that match only the position is left to be checked. -/
theorem Matches.copyFrom_eq (h : W.Matches source values) (index : UInt16) :
  W.copyFrom source index
    = if W.fits source (W.convertLinearIndexToRowAndColumn index).1
        (W.convertLinearIndexToRowAndColumn index).2 = true then
        (source.copyResult, { W with data := .elements true (W.written source index values) })
      else
        (tooBig, W)
  := by
  obtain ⟨hwritable, hset, htype, hknown, hrows, hcolumns⟩ := h
  obtain ⟨hrow, hcolumn⟩ := toNat_convertLinearIndexToRowAndColumn hcolumns index
  have hknown' : source.type ≠ .unknown := htype ▸ hknown
  rw [copyFrom, hwritable]
  cases hsource : source.data with
  | unset => cases hset hsource
  | elements writable given =>
      simp only [ParameterData.isUnset, Bool.false_eq_true, if_false, htype, ne_eq,
        not_true_eq_false, hrows, hcolumns, or_self, hknown']
      rw [ite_not, hrow, hcolumn, copyRows_eq hsource, copyResult, written, hsource]
  | stream bytes =>
      simp only [ParameterData.isUnset, Bool.false_eq_true, if_false, htype, ne_eq,
        not_true_eq_false, hrows, hcolumns, or_self, hknown']
      rw [ite_not, hrow, hcolumn, deSerializeData_eq hsource htype, copyResult, written, hsource]

end Written

/-! ### When blocks are copied -/

section Copies

variable {W source : ParameterWrapper} {values : ℕ → ℕ}

theorem isStream_iff (h : source.data ≠ .unset) :
  source.IsStream ↔ source.copyResult = .ok
  := by
  rw [copyResult]
  cases hsource : source.data with
  | unset => cases h hsource
  | elements writable given => simp [IsStream, hsource]
  | stream bytes => simp [IsStream, hsource]

theorem written_of_isStream (h : source.IsStream) (index : UInt16) :
  W.written source index values
    = updates (block W.columns.toNat (W.row index % 256) (W.column index) source.rows.toNat
        source.columns.toNat source.entry) values
  := by
  obtain ⟨bytes, hbytes⟩ := h
  rw [written, hbytes]

theorem written_of_not_isStream (h : ¬ source.IsStream) (index : UInt16) :
  W.written source index values
    = updates (block W.columns.toNat (W.row index % 256) (W.column index) source.rows.toNat
        source.columns.toNat fun _ j => source.entry 0 j) values
  := by
  rw [written]
  split
  · rename_i bytes hbytes
    cases h ⟨bytes, hbytes⟩
  · rfl

theorem data_written_eq_iff (h : W.Matches source values) (index : UInt16) :
  { W with data := .elements true (W.written source index values) } = W
    ↔ W.written source index values = values
  := by
  constructor
  · intro heq
    have hdata := congrArg ParameterWrapper.data heq
    rw [h.writable] at hdata
    injection hdata
  · intro heq
    rw [heq, ← h.writable]

/-- A stream is copied where the row is not cut. -/
theorem copiesBlock_of_stream (hsource : source.IsStream)
    {index : UInt16} (hrow : W.row index < 256) (hinside : W.Inside source index)
    (hcopy : W.copyFrom source index
      = (.ok, { W with data := .elements true (W.written source index values) })) :
  W.CopiesBlock source index values
  := by
  have hconsistent := consistent_block hinside.2 (W.row index) source.rows.toNat source.entry
  rw [written_of_isStream hsource, Nat.mod_eq_of_lt hrow] at hcopy
  constructor
  · simp [hcopy, hinside]
  · intro _
    rw [hcopy]
    refine ⟨_, rfl, ?_, ?_⟩
    · intro i hi j hj
      rw [← Nat.add_assoc]
      apply updates_of_mem hconsistent (mem_block.mpr ⟨i, hi, j, hj, rfl⟩)
    · intro k hk
      apply updates_of_ne
      intro x hx
      obtain ⟨i, hi, j, hj, rfl⟩ := mem_block.mp hx
      rw [Nat.add_assoc]
      apply hk i hi j hj
  · simp [hcopy]

/-- A matrix is copied as a block exactly in these cases. -/
theorem copiesBlock_iff (h : W.Matches source values) (index : UInt16) :
  W.CopiesBlock source index values ↔ W.CopiesWhen source index values
  := by
  have hcopy := h.copyFrom_eq index
  have hstream := isStream_iff h.isSet
  by_cases hfits : W.fits source (W.convertLinearIndexToRowAndColumn index).1
      (W.convertLinearIndexToRowAndColumn index).2 = true
  · rw [if_pos hfits] at hcopy
    have hcolumn := ((fits_iff h.columns).mp hfits).2
    by_cases hsource : source.IsStream
    · rw [hstream.mp hsource] at hcopy
      constructor
      · intro hcopies _
        left
        use hsource, row_lt_of_inside (hcopies.ok_iff.mp (congrArg Prod.fst hcopy))
      · intro hwhen
        rcases hwhen hfits with ⟨-, hrow⟩ | ⟨hnot, -⟩
        · exact copiesBlock_of_stream hsource hrow ((fits_iff_inside h.columns hrow).mp hfits) hcopy
        · cases hnot hsource
    · have hfailed : source.copyResult ≠ .ok := hstream.not.mp hsource
      have hconsistent := consistent_block hcolumn (W.row index % 256) source.rows.toNat
        fun _ j => source.entry 0 j
      constructor
      · intro hcopies _
        right
        have hrow : 256 ≤ W.row index := by
          by_contra hlt
          have hinside := (fits_iff_inside h.columns (Nat.lt_of_not_le hlt)).mp hfits
          apply hfailed
          simpa [hcopy] using hcopies.ok_iff.mpr hinside
        refine ⟨hsource, hrow, ?_⟩
        have hsame := hcopies.unchanged (by simpa [hcopy] using hfailed)
        rw [hcopy, data_written_eq_iff h, written_of_not_isStream hsource,
          updates_eq_self_iff hconsistent] at hsame
        intro i hi j hj
        apply hsame _ (mem_block.mpr ⟨i, hi, j, hj, rfl⟩)
      · intro hwhen
        rcases hwhen hfits with ⟨hyes, -⟩ | ⟨-, hrow, hthere⟩
        · cases hsource hyes
        · have hnot : ¬ W.Inside source index := fun hinside =>
            Nat.not_lt.mpr hrow (row_lt_of_inside hinside)
          constructor
          · simp [hcopy, hfailed, hnot]
          · intro hok
            cases hfailed (by simpa [hcopy] using hok)
          · intro _
            rw [hcopy, data_written_eq_iff h, written_of_not_isStream hsource,
              updates_eq_self_iff hconsistent]
            intro x hx
            obtain ⟨i, hi, j, hj, rfl⟩ := mem_block.mp hx
            apply hthere i hi j hj
  · -- The block does not fit in at the row that is cut, and so does not lie in the parameter.
    rw [if_neg hfits] at hcopy
    have hnot : ¬ W.Inside source index := fun hinside =>
      hfits ((fits_iff_inside h.columns (row_lt_of_inside hinside)).mpr hinside)
    constructor
    · intro _ hfits'
      cases hfits hfits'
    · intro _
      constructor
      · simp [hcopy, hnot]
      · simp [hcopy]
      · simp [hcopy]

end Copies

/-! ### A single number -/

/-- A parameter of one byte. -/
def single (data : ParameterData) : ParameterWrapper where
  type := .uint8
  rows := 1
  columns := 1
  data := data

theorem matches_single {data : ParameterData} (h : data ≠ .unset) :
  (single (.elements true fun _ => 0)).Matches (single data) fun _ => 0
  where
  writable := rfl
  isSet := h
  type_eq := rfl
  known := by decide
  rows := by decide
  columns := by decide

theorem copiesBlock_iff_single :
  (single (.elements true fun _ => 0)).CopiesBlock (single (.stream fun _ => 7)) 0 (fun _ => 0)
    ↔ (single (.elements true fun _ => 0)).CopiesWhen (single (.stream fun _ => 7)) 0 fun _ => 0
  := copiesBlock_iff (matches_single (by simp)) 0

/-- A number in memory is not copied properly, and one of a stream is copied to the beginning when
it should go to the row 256. -/
theorem not_copiesBlock_single :
  (∃ (W source : ParameterWrapper) (values : ℕ → ℕ) (index : UInt16),
      W.Matches source values ∧ ¬ source.IsStream ∧ ¬ W.CopiesBlock source index values)
    ∧ ∃ (W source : ParameterWrapper) (values : ℕ → ℕ) (index : UInt16),
      W.Matches source values ∧ source.IsStream ∧ ¬ W.CopiesBlock source index values
  := by
  constructor
  · refine ⟨_, single (.elements true fun _ => 7), _, 0, matches_single (by simp), ?_, ?_⟩
    · rintro ⟨bytes, hbytes⟩
      cases hbytes
    · intro h
      have hinside : (single (.elements true fun _ => 0)).Inside
          (single (.elements true fun _ => 7)) 0 := by
        decide
      cases h.ok_iff.mpr hinside
  · refine ⟨_, single (.stream fun _ => 7), _, 256, matches_single (by simp), ⟨_, rfl⟩, ?_⟩
    intro h
    have hinside := h.ok_iff.mp rfl
    revert hinside
    decide

end ParameterWrapper
