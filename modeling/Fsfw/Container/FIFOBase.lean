import Fsfw.Library.Circular
import Fsfw.ReturnValues

/-!
# First in, first out

A `FIFOBase` keeps its values in a ring of `maxCapacity` cells, from the cell `readIndex` on.
What it keeps is the list `stored`: inserting appends a value to the list, and retrieving takes
the first value from it.  It may have no cells at all.
-/

structure FIFOBase (α : Type) where
  maxCapacity : ℕ
  values : ℕ → α
  readIndex : ℕ
  writeIndex : ℕ
  currentSize : ℕ

namespace FIFOBase

open Memory

variable {α : Type} (F : FIFOBase α)

/-- No values, in cells that are not initialised. -/
def new (garbage : ℕ → α) (maxCapacity : ℕ) : FIFOBase α where
  maxCapacity := maxCapacity
  values := garbage
  readIndex := 0
  writeIndex := 0
  currentSize := 0

def isEmpty : Bool :=
  F.currentSize = 0

def isFull : Bool :=
  F.currentSize = F.maxCapacity

def next (current : ℕ) : ℕ :=
  if current + 1 = F.maxCapacity then 0 else current + 1

def insert (value : α) : ReturnValue × FIFOBase α :=
  if F.isFull then
    (full, F)
  else
    (.ok, { F with
      values := overwrite F.values F.writeIndex [value]
      writeIndex := F.next F.writeIndex
      currentSize := F.currentSize + 1 })

/-- The first value, unless there is none. -/
def retrieve : ReturnValue × Option α × FIFOBase α :=
  if F.isEmpty then
    (empty, none, F)
  else
    (.ok, some (F.values F.readIndex), { F with
      readIndex := F.next F.readIndex
      currentSize := F.currentSize - 1 })

/-- The first value, which is not taken. -/
def peek : ReturnValue × Option α :=
  if F.isEmpty then
    (empty, none)
  else
    (.ok, some (F.values F.readIndex))

/-- Take the first value, and drop it. -/
def pop : ReturnValue × FIFOBase α :=
  (F.retrieve.1, F.retrieve.2.2)

/-- The values that are kept, the first one in front. -/
def stored : List α :=
  Circular.contents F.values F.maxCapacity F.readIndex F.currentSize

/-- The indices are in the ring, unless it has no cells. -/
structure Inv : Prop where
  size_le : F.currentSize ≤ F.maxCapacity
  readIndex_lt : 0 < F.maxCapacity → F.readIndex < F.maxCapacity
  writeIndex_eq : 0 < F.maxCapacity →
    F.writeIndex = Circular.index F.maxCapacity F.readIndex F.currentSize

theorem inv_new (garbage : ℕ → α) (maxCapacity : ℕ) :
  (new garbage maxCapacity).Inv
  where
  size_le := Nat.zero_le _
  readIndex_lt := id
  writeIndex_eq := by
    intro h
    exact (Circular.index_zero h).symm

variable {F}

@[simp]
theorem length_stored (F : FIFOBase α) :
  F.stored.length = F.currentSize
  := Circular.length_contents _ _ _ _

theorem isEmpty_iff (F : FIFOBase α) :
  F.isEmpty = true ↔ F.stored = []
  := by
  rw [← List.length_eq_zero_iff, length_stored, isEmpty, decide_eq_true_eq]

theorem isFull_iff (F : FIFOBase α) :
  F.isFull = true ↔ F.stored.length = F.maxCapacity
  := by
  rw [length_stored, isFull, decide_eq_true_eq]

/-- The cell after a cell of the ring is the one that is one place further on. -/
theorem next_eq_index {current : ℕ} (h : current < F.maxCapacity) :
  F.next current = Circular.index F.maxCapacity current 1
  := by
  unfold next Circular.index
  split <;> split <;> omega

/-- A value is inserted behind the others. -/
theorem Inv.insert_spec (hF : F.Inv) (value : α) (hroom : F.isFull = false) :
  ∃ F', F.insert value = (.ok, F') ∧ F'.Inv ∧ F'.maxCapacity = F.maxCapacity ∧
    F'.stored = F.stored ++ [value]
  := by
  have hlt : F.currentSize < F.maxCapacity := by
    apply Nat.lt_of_le_of_ne hF.size_le
    simpa [isFull] using hroom
  have hpos : 0 < F.maxCapacity := Nat.zero_lt_of_lt hlt
  have hread := hF.readIndex_lt hpos
  have hwrite := hF.writeIndex_eq hpos
  have hwriteLt : F.writeIndex < F.maxCapacity := by
    rw [hwrite]
    apply Circular.index_lt hread (Nat.le_of_lt hlt)
  refine ⟨{ F with
      values := overwrite F.values F.writeIndex [value]
      writeIndex := F.next F.writeIndex
      currentSize := F.currentSize + 1 }, ?_, ⟨hlt, fun _ => hread, ?_⟩, rfl, ?_⟩
  · rw [insert, hroom]
    rfl
  · intro _
    change F.next F.writeIndex
      = Circular.index F.maxCapacity F.readIndex (F.currentSize + 1)
    rw [next_eq_index hwriteLt, hwrite, Circular.index_index hread hlt]
  · have hstore : overwrite F.values F.writeIndex [value]
        = Circular.store F.values F.maxCapacity F.writeIndex [value] := by
      rw [Circular.store, if_pos]
      apply hwriteLt
    change Circular.contents (overwrite F.values F.writeIndex [value]) F.maxCapacity F.readIndex
      (F.currentSize + 1) = _
    rw [hstore, hwrite]
    apply Circular.contents_store F.values hread hlt
      (show F.currentSize + [value].length ≤ F.maxCapacity from hlt)

/-- The value that is retrieved is the first one. -/
theorem Inv.retrieve_spec (hF : F.Inv) {value : α} {rest : List α}
    (h : F.stored = value :: rest) :
  ∃ F', F.retrieve = (.ok, some value, F') ∧ F'.Inv ∧ F'.maxCapacity = F.maxCapacity ∧
    F'.stored = rest
  := by
  have hsize : F.currentSize = rest.length + 1 := by
    rw [← length_stored, h, List.length_cons]
  have hle := hF.size_le
  have hpos : 0 < F.maxCapacity := by omega
  have hread := hF.readIndex_lt hpos
  have hnext := next_eq_index (F := F) hread
  have hone : 1 ≤ F.maxCapacity := hpos
  have hvalue : F.values F.readIndex = value := by
    have hhead : F.stored.head? = some value := by
      rw [h]
      rfl
    rw [stored, Circular.contents, hsize, List.range_succ_eq_map] at hhead
    simpa [Circular.index_zero hread] using hhead
  have hempty : F.isEmpty = false := by
    simp [isEmpty, hsize]
  refine ⟨{ F with readIndex := F.next F.readIndex, currentSize := F.currentSize - 1 },
    ?_, ⟨?_, ?_, ?_⟩, rfl, ?_⟩
  · rw [retrieve, hempty, hvalue]
    rfl
  · apply Nat.le_trans (Nat.sub_le _ _) hle
  · intro _
    change F.next F.readIndex < F.maxCapacity
    rw [hnext]
    apply Circular.index_lt hread hone
  · intro _
    change F.writeIndex
      = Circular.index F.maxCapacity (F.next F.readIndex) (F.currentSize - 1)
    rw [hF.writeIndex_eq hpos, hnext, Circular.index_index hread (by omega),
      Nat.add_sub_cancel' (by omega)]
  · change Circular.contents F.values F.maxCapacity (F.next F.readIndex) (F.currentSize - 1) = rest
    rw [hnext, ← Circular.drop_contents F.values hread (by omega) hle]
    change F.stored.drop 1 = rest
    rw [h, List.drop_one, List.tail_cons]

/-- The value that is looked at is the one that would be retrieved. -/
theorem peek_eq_retrieve (F : FIFOBase α) :
  F.peek.2 = F.retrieve.2.1
  := by
  rw [peek, retrieve]
  split <;> rfl

theorem maxCapacity_insert (F : FIFOBase α) (value : α) :
  (F.insert value).2.maxCapacity = F.maxCapacity
  := by
  rw [insert]
  split <;> rfl

theorem maxCapacity_retrieve (F : FIFOBase α) :
  F.retrieve.2.2.maxCapacity = F.maxCapacity
  := by
  rw [retrieve]
  split <;> rfl

/-- What is retrieved is kept no longer. -/
theorem retrieve_of_not_empty (h : F.isEmpty = false) :
  ∃ F', F.retrieve = (.ok, some (F.values F.readIndex), F') ∧
    F'.currentSize = F.currentSize - 1
  := by
  rw [retrieve, h]
  exact ⟨_, rfl, rfl⟩

/-- Without values, nothing is retrieved. -/
theorem retrieve_of_empty (h : F.stored = []) :
  F.retrieve = (empty, none, F)
  := by
  rw [retrieve, if_pos ((isEmpty_iff F).mpr h)]

/-- Without room, nothing is inserted. -/
theorem insert_of_full (value : α) (h : F.isFull = true) :
  F.insert value = (full, F)
  := by
  rw [insert, if_pos h]

end FIFOBase
