import Mathlib

/-!
# Lists of updates

`updates writes f` is the function `f` after the values in the list `writes` have been written one
after another, each at its argument.  The list is consistent when it has no two values for one
argument.  Then all of its values are found afterwards, and nothing has changed exactly when they
were there before (`updates_eq_self_iff`).

A matrix that is stored row by row has the entry in the row `i` and the column `j` at `i * stride +
j`.  The entries of a block are different cells, as long as the block ends within the rows
(`consistent_block`).
-/

namespace Updates

variable {κ α : Type*} [DecidableEq κ]

/-- Write the values one after another. -/
def updates (writes : List (κ × α)) (f : κ → α) : κ → α :=
  writes.foldl (fun f write => Function.update f write.1 write.2) f

/-- There are no two values for one argument. -/
def Consistent (writes : List (κ × α)) : Prop :=
  ∀ x ∈ writes, ∀ y ∈ writes, x.1 = y.1 → x.2 = y.2

/-- Elsewhere nothing changes. -/
theorem updates_of_ne {writes : List (κ × α)} {k : κ} (h : ∀ x ∈ writes, x.1 ≠ k) (f : κ → α) :
  updates writes f k = f k
  := by
  induction writes generalizing f with
  | nil =>
      rfl
  | cons x writes ih =>
      rw [updates, List.foldl_cons, ← updates, ih fun y hy => h y (List.mem_cons_of_mem _ hy),
        Function.update_of_ne (h x List.mem_cons_self).symm]

/-- The values are found afterwards. -/
theorem updates_of_mem {writes : List (κ × α)} (hwrites : Consistent writes) {x : κ × α}
    (hx : x ∈ writes) (f : κ → α) :
  updates writes f x.1 = x.2
  := by
  induction writes generalizing f x with
  | nil =>
      cases hx
  | cons y writes ih =>
      rw [updates, List.foldl_cons, ← updates]
      by_cases hlater : ∃ z ∈ writes, z.1 = x.1
      · obtain ⟨z, hz, heq⟩ := hlater
        have hrest : Consistent writes := fun u hu v hv =>
          hwrites u (List.mem_cons_of_mem _ hu) v (List.mem_cons_of_mem _ hv)
        rw [← hwrites z (List.mem_cons_of_mem _ hz) x hx heq, ← heq]
        apply ih hrest hz
      · -- The value is the last one that is written to the argument.
        have hne : ∀ z ∈ writes, z.1 ≠ x.1 := fun z hz heq => hlater ⟨z, hz, heq⟩
        rw [updates_of_ne hne]
        rcases List.mem_cons.mp hx with rfl | hmem
        · apply Function.update_self
        · cases hne x hmem rfl

theorem updates_eq_self_iff {writes : List (κ × α)} (hwrites : Consistent writes) {f : κ → α} :
  updates writes f = f ↔ ∀ x ∈ writes, f x.1 = x.2
  := by
  constructor
  · intro h x hx
    rw [← updates_of_mem hwrites hx f, h]
  · intro h
    funext k
    by_cases hk : ∃ x ∈ writes, x.1 = k
    · obtain ⟨x, hx, rfl⟩ := hk
      rw [updates_of_mem hwrites hx, h x hx]
    · apply updates_of_ne
      intro x hx heq
      apply hk ⟨x, hx, heq⟩

/-! ### Blocks of matrices -/

/-- The entries of a block of `n` rows and `m` columns, from a row and a column on. -/
def block (stride row column n m : ℕ) (entry : ℕ → ℕ → α) : List (ℕ × α) :=
  (List.range n).flatMap fun i =>
    (List.range m).map fun j => ((row + i) * stride + column + j, entry i j)

theorem mem_block {stride row column n m : ℕ} {entry : ℕ → ℕ → α} {x : ℕ × α} :
  x ∈ block stride row column n m entry
    ↔ ∃ i < n, ∃ j < m, ((row + i) * stride + column + j, entry i j) = x
  := by
  simp [block]

/-- Rows of a matrix do not overlap. -/
theorem eq_of_entry_eq {stride i j i' j' : ℕ} (hj : j < stride) (hj' : j' < stride)
    (h : i * stride + j = i' * stride + j') :
  i = i' ∧ j = j'
  := by
  have hpos : 0 < stride := by omega
  have hrow : ∀ {i j : ℕ}, j < stride → (i * stride + j) / stride = i := by
    intro i j hj
    rw [Nat.add_comm, Nat.add_mul_div_right _ _ hpos, Nat.div_eq_of_lt hj, Nat.zero_add]
  have hi : i = i' := by rw [← hrow (i := i) hj, h, hrow hj']
  subst hi
  use rfl, Nat.add_left_cancel h

theorem consistent_block {stride column m : ℕ} (h : column + m ≤ stride) (row n : ℕ)
    (entry : ℕ → ℕ → α) :
  Consistent (block stride row column n m entry)
  := by
  rintro x hx y hy heq
  obtain ⟨i, -, j, hj, rfl⟩ := mem_block.mp hx
  obtain ⟨i', -, j', hj', rfl⟩ := mem_block.mp hy
  dsimp only at heq ⊢
  rw [Nat.add_assoc, Nat.add_assoc] at heq
  obtain ⟨hi, hj⟩ := eq_of_entry_eq (by omega) (by omega) heq
  rw [Nat.add_left_cancel hi, Nat.add_left_cancel hj]

/-- The entries of a block are written row by row. -/
theorem updates_block (stride row column n m : ℕ) (entry : ℕ → ℕ → α) (f : ℕ → α) :
  updates (block stride row column n m entry) f
    = (List.range n).foldl
        (fun f i => (List.range m).foldl
          (fun f j => Function.update f ((row + i) * stride + column + j) (entry i j)) f) f
  := by
  rw [updates, block, List.foldl_flatMap]
  congr 1
  funext f i
  rw [List.foldl_map]

end Updates
