import Fsfw.Library.Memory

/-!
# Circular memory

The first `size` cells of a memory form a ring: the cell after the last one is the first
one.  `index size p k` is the cell `k` places after the cell `p`, `contents m size p n` is
the list of the `n` cells from `p` on, and `store m size p xs` stores the list `xs` from the
cell `p` on, in two parts when it passes the last cell.  The cells just stored hold the list,
and `n` cells followed by the cells stored keep their contents, as long as no more than
`size` cells are used altogether.
-/

namespace Circular

open Memory

variable {α : Type*}

/-- The cell `k` places after the cell `p` of a ring of `size` cells, for `k ≤ size`. -/
def index (size p k : ℕ) : ℕ :=
  if p + k < size then p + k else p + k - size

/-- The `n` cells from the cell `p` on, for `n ≤ size`. -/
def contents (m : ℕ → α) (size p n : ℕ) : List α :=
  (List.range n).map (fun k => m (index size p k))

/-- The memory `m` with the list `xs` stored from the cell `p` on. -/
def store (m : ℕ → α) (size p : ℕ) (xs : List α) : ℕ → α :=
  if p + xs.length ≤ size then
    overwrite m p xs
  else
    overwrite (overwrite m p (xs.take (size - p))) 0 (xs.drop (size - p))

/-! ### Indices -/

theorem index_lt {size p k : ℕ} (hp : p < size) (hk : k ≤ size) :
  index size p k < size
  := by
  unfold index
  split <;> omega

theorem index_zero {size p : ℕ} (hp : p < size) :
  index size p 0 = p
  := by
  simp [index, hp]

/-- Within one turn of the ring, the index is the remainder modulo its size. -/
theorem mod_eq_index {size p k : ℕ} (hp : p < size) (hk : k ≤ size) :
  (p + k) % size = index size p k
  := by
  unfold index
  split
  · apply Nat.mod_eq_of_lt
    assumption
  · rw [Nat.mod_eq_sub_mod (by omega)]
    apply Nat.mod_eq_of_lt
    omega

/-- The number of places from the cell `p` to the cell `n` places after it. -/
theorem sub_mod_index {size p n : ℕ} (hp : p < size) (hn : n < size) :
  (index size p n + size - p) % size = n
  := by
  unfold index
  split
  · rw [Nat.mod_eq_sub_mod (by omega), Nat.mod_eq_of_lt (by omega)]
    omega
  · rw [Nat.mod_eq_of_lt (by omega)]
    omega

/-- The number of places from the cell `n` places after `p` on to the cell before `p`. -/
theorem sub_index_mod {size p n : ℕ} (hp : p < size) (hn : n < size) :
  (p + size - index size p n - 1) % size = size - 1 - n
  := by
  unfold index
  split
  · rw [Nat.mod_eq_of_lt (by omega)]
    omega
  · rw [Nat.mod_eq_sub_mod (by omega), Nat.mod_eq_of_lt (by omega)]
    omega

/-- Going on by `k` places from the cell `n` places after `p`. -/
theorem index_index {size p n k : ℕ} (hp : p < size) (h : n + k ≤ size) :
  index size (index size p n) k = index size p (n + k)
  := by
  unfold index
  split <;> split <;> split <;> omega

/-! ### Contents -/

@[simp]
theorem length_contents (m : ℕ → α) (size p n : ℕ) :
  (contents m size p n).length = n
  := by
  simp [contents]

/-- Memories that agree on the cells of the ring have the same contents. -/
theorem contents_congr
    {m m' : ℕ → α} {size p n : ℕ} (h : ∀ k, k < n → m (index size p k) = m' (index size p k)) :
  contents m size p n = contents m' size p n
  := by
  apply List.map_congr_left
  intro k hk
  apply h k (List.mem_range.mp hk)

/-- The contents of `n + k` cells are those of `n` cells followed by those of the next
`k`. -/
theorem contents_add (m : ℕ → α) {size p n k : ℕ} (hp : p < size) (h : n + k ≤ size) :
  contents m size p (n + k) = contents m size p n ++ contents m size (index size p n) k
  := by
  simp only [contents, List.range_add, List.map_append, List.map_map]
  congr 1
  apply List.map_congr_left
  intro i hi
  have hi' := List.mem_range.mp hi
  simp only [Function.comp_apply]
  rw [index_index hp (by omega)]

/-- Cells that do not pass the last one form a slice. -/
theorem contents_eq_slice (m : ℕ → α) {size p n : ℕ} (h : p + n ≤ size) :
  contents m size p n = slice m p n
  := by
  apply List.map_congr_left
  intro k hk
  have hk' := List.mem_range.mp hk
  have hin : p + k < size := by omega
  simp [index, hin]

/-- Cells that pass the last one form the slice up to it, followed by a slice from the
first one on. -/
theorem contents_eq_append
    (m : ℕ → α) {size p n : ℕ} (hp : p < size) (h : size ≤ p + n) (hn : n ≤ size) :
  contents m size p n = slice m p (size - p) ++ slice m 0 (n - (size - p))
  := by
  have hsplit : n = (size - p) + (n - (size - p)) := by omega
  have hwrap : index size p (size - p) = 0 := by
    simp [index, Nat.add_sub_of_le (Nat.le_of_lt hp)]
  rw [hsplit, contents_add m hp (by omega), hwrap, contents_eq_slice m (by omega),
    contents_eq_slice m (by omega), ← hsplit]

/-- The contents of the first `k` of `n` cells. -/
theorem take_contents (m : ℕ → α) {size p k n : ℕ} (hp : p < size) (h : k ≤ n) (hn : n ≤ size) :
  (contents m size p n).take k = contents m size p k
  := by
  obtain ⟨j, rfl⟩ := Nat.exists_eq_add_of_le h
  rw [contents_add m hp hn, List.take_left' (length_contents m size p k)]

/-- The contents of `n` cells without the first `k`. -/
theorem drop_contents (m : ℕ → α) {size p k n : ℕ} (hp : p < size) (h : k ≤ n) (hn : n ≤ size) :
  (contents m size p n).drop k = contents m size (index size p k) (n - k)
  := by
  obtain ⟨j, rfl⟩ := Nat.exists_eq_add_of_le h
  rw [contents_add m hp hn, List.drop_left' (length_contents m size p k),
    Nat.add_sub_cancel_left]

/-! ### Storing -/

/-- The cells just stored hold the list. -/
theorem contents_store_self
    (m : ℕ → α) {size p : ℕ} {xs : List α} (hp : p < size) (h : xs.length ≤ size) :
  contents (store m size p xs) size p xs.length = xs
  := by
  unfold store
  split
  · rw [contents_eq_slice _ (by assumption), slice_overwrite_self]
  · have htake : (xs.take (size - p)).length = size - p := by
      rw [List.length_take]
      omega
    have hdrop : xs.length - (size - p) = (xs.drop (size - p)).length := by
      rw [List.length_drop]
    rw [contents_eq_append _ hp (by omega) h, hdrop, slice_overwrite_self,
      slice_overwrite_of_disjoint (by rw [List.length_drop]; omega)]
    nth_rewrite 2 [← htake]
    rw [slice_overwrite_self, List.take_append_drop]

/-- Storing changes no cell of the ring outside the cells stored. -/
theorem store_of_outside
    {m : ℕ → α} {size p i : ℕ} {xs : List α} (hlt : i < p → p + xs.length ≤ size + i)
    (hge : p ≤ i → p + xs.length ≤ i) (hp : p < size) :
  store m size p xs i = m i
  := by
  have htake := List.length_take (i := size - p) (l := xs)
  have hdrop := List.length_drop (i := size - p) (l := xs)
  unfold store
  rcases Nat.lt_or_ge i p with h | h
  · split
    · apply overwrite_of_lt h
    · rw [overwrite_of_ge (by omega), overwrite_of_lt h]
  · split
    · apply overwrite_of_ge (hge h)
    · rw [overwrite_of_ge (by omega), overwrite_of_ge (by omega)]

/-- The `n` cells before the ones stored keep their contents. -/
theorem contents_store_index
    (m : ℕ → α) {size p n : ℕ} {xs : List α} (hp : p < size) (hn : n < size)
    (h : n + xs.length ≤ size) :
  contents (store m size (index size p n) xs) size p n = contents m size p n
  := by
  apply contents_congr
  intro k hk
  apply store_of_outside
  · unfold index
    split <;> split <;> omega
  · unfold index
    split <;> split <;> omega
  · apply index_lt hp (Nat.le_of_lt hn)

/-- Storing a list after `n` cells appends it to their contents. -/
theorem contents_store
    (m : ℕ → α) {size p n : ℕ} {xs : List α} (hp : p < size) (hn : n < size)
    (h : n + xs.length ≤ size) :
  contents (store m size (index size p n) xs) size p (n + xs.length)
    = contents m size p n ++ xs
  := by
  rw [contents_add _ hp h, contents_store_index m hp hn h,
    contents_store_self m (index_lt hp (Nat.le_of_lt hn)) (by omega)]

/-- Storing a list past the last cell, and then copying what lies past it to the first
cells, is storing it in the ring, as far as the cells of the ring go. -/
theorem store_eq_overwrite
    (m : ℕ → α) {size p i : ℕ} {xs : List α} (hp : p < size) (hi : i < size) :
  overwrite (overwrite m p xs) 0 (slice (overwrite m p xs) size (p + xs.length - size)) i
    = store m size p xs i
  := by
  unfold store
  split
  · rw [Nat.sub_eq_zero_of_le (by assumption), slice_zero, overwrite_nil]
  · have hexcess : slice (overwrite m p xs) size (p + xs.length - size)
        = xs.drop (size - p) := by
      have hself := slice_overwrite_self m p xs
      have hpos : p + (size - p) = size := by omega
      rw [← congrArg (List.drop (size - p)) hself, drop_slice _ (by omega), hpos]
      congr 1
      omega
    have htake := List.length_take (i := size - p) (l := xs)
    rw [hexcess]
    nth_rewrite 1 [← List.take_append_drop (size - p) xs]
    rw [overwrite_append]
    rcases Nat.lt_or_ge i (xs.drop (size - p)).length with h' | h'
    · have hcell : ∀ m' : ℕ → α,
          overwrite m' 0 (xs.drop (size - p)) i = (xs.drop (size - p))[i] := by
        intro m'
        simpa using overwrite_add (m := m') (p := 0) h'
      rw [hcell, hcell]
    · rw [overwrite_of_ge (p := 0) (by omega), overwrite_of_lt (by omega),
        overwrite_of_ge (p := 0) (by omega)]

/-! ### Moving what lies past the ring -/

/-- Cells of the ring that are not moved into keep their contents. -/
theorem contents_move
    {m : ℕ → α} {size p n e : ℕ} (h : ∀ k, k < n → e ≤ index size p k) :
  contents (move m 0 size e) size p n = contents m size p n
  := by
  apply contents_congr
  intro k hk
  apply move_of_outside
  right
  rw [Nat.zero_add]
  apply h k hk

/-- Cells from `p` on, of which the last `e` lie past the ring, are its contents after these have
been moved to its start. -/
theorem contents_move_excess
    {m : ℕ → α} {size p n e : ℕ} (he : e ≤ p) (hn : p + n ≤ size + e) :
  contents (move m 0 size e) size p n = slice m p n
  := by
  apply List.map_congr_left
  intro k hk
  have hk' := List.mem_range.mp hk
  rw [index]
  split
  · apply move_of_outside
    right
    omega
  · have hmoved := move_add (m := m) (q := 0) (p := size) (n := e) (k := p + k - size) (by omega)
    rw [Nat.zero_add] at hmoved
    rw [hmoved]
    congr 1
    omega

end Circular
