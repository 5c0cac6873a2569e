import Fsfw.Container.FixedOrderedMultimap

/-!
# The ordered multimap as a sorted list of pairs

`SortedMultimap.step` is what a `FixedOrderedMultimap` is for: a list of pairs in the order
of their keys whose length is bounded, on which a call fails only when the bound is reached
or the key is missing.  `arrivals` lists the pairs of a run in the order they arrived in.

Every run of the multimap returns what the run of the list returns and stores the list
(`run_stored`).  The list is in order, and the pairs with one key are in the order of their
arrival (`run_stable`).
-/

namespace SortedMultimap

open KeyOrder FixedOrderedMultimap

variable {κ ν : Type*} [DecidableEq κ]

/-- One call of the sorted multimap that holds up to `capacity` pairs. -/
def step (comp : κ → κ → Bool) (capacity : ℕ) : Step (List (κ × ν)) (Op κ ν) (Output κ ν)
  | l, .insert key value =>
      if l.length = capacity then
        some (l, .code mapFull)
      else
        some (insertBehind comp (key, value) l, .code .ok)
  | l, .erase key =>
      if ∃ x ∈ l, x.1 = key then
        some (withoutKey key l, .code .ok)
      else
        some (l, .code keyDoesNotExist)
  | l, .find key => some (l, .pair (l.find? fun x => x.1 = key))
  | l, .findValue key =>
      match l.find? fun x => x.1 = key with
      | some x => some (l, .value .ok (some x.2))
      | none => some (l, .value keyDoesNotExist none)
  | l, .existsKey key =>
      if ∃ x ∈ l, x.1 = key then
        some (l, .code .ok)
      else
        some (l, .code keyDoesNotExist)
  | _, .clear => some ([], .code .ok)
  | l, .iterate => some (l, .pairs l)

/-- The pairs in the order of their arrival, after one more call. -/
def arrive (capacity : ℕ) (l : List (κ × ν)) : Op κ ν → List (κ × ν)
  | .insert key value => if l.length = capacity then l else l ++ [(key, value)]
  | .erase key => withoutKey key l
  | .clear => []
  | _ => l

end SortedMultimap

namespace FixedOrderedMultimap

open Memory KeyOrder

variable {κ ν : Type*}

/-! ### Inserting and removing one pair -/

@[simp]
theorem length_stored (m : FixedOrderedMultimap κ ν) :
  m.stored.length = m.size
  := length_slice _ _ _

theorem getElem?_stored {m : FixedOrderedMultimap κ ν} {iter : ℕ} (h : iter < m.size) :
  m.stored[iter]? = some (m.theMap iter)
  := by
  rw [stored, getElem?_slice, if_pos h, Nat.zero_add]

theorem stored_removeFromPosition {m : FixedOrderedMultimap κ ν} {i : ℕ} (h : i < m.size) :
  (m.removeFromPosition i).stored = m.stored.take i ++ m.stored.drop (i + 1)
  := by
  have hslice := slice_remove m.theMap (p := 0) h
  rw [Nat.zero_add] at hslice
  rw [removeFromPosition, if_neg (Nat.not_le.mpr h)]
  simp only [stored]
  rw [hslice, take_slice _ (Nat.le_of_lt h), drop_slice _ h, Nat.zero_add, Nat.sub_sub]

variable [DecidableEq κ]

/-! ### Searching -/

theorem findFirstIndex_of_lt {m : FixedOrderedMultimap κ ν} {startAt : ℕ}
    (h : startAt < m.size) (key : κ) :
  m.findFirstIndex key startAt
    = startAt + (m.stored.drop startAt).findIdx fun x => x.1 = key
  := by
  rw [findFirstIndex, if_neg (Nat.not_le.mpr h), stored, drop_slice _ (Nat.le_of_lt h),
    Nat.zero_add]

/-- A search finds a pair exactly when a pair from `startAt` on has the key. -/
theorem findFirstIndex_lt_iff (m : FixedOrderedMultimap κ ν) (key : κ) (startAt : ℕ) :
  m.findFirstIndex key startAt < m.size ↔ ∃ x ∈ m.stored.drop startAt, x.1 = key
  := by
  rcases Nat.lt_or_ge startAt m.size with h | h
  · rw [findFirstIndex_of_lt h]
    have hlen : (m.stored.drop startAt).length = m.size - startAt := by simp
    have hiff : (m.stored.drop startAt).findIdx (fun x => x.1 = key)
        < (m.stored.drop startAt).length ↔ ∃ x ∈ m.stored.drop startAt, x.1 = key := by
      simp only [List.findIdx_lt_length, decide_eq_true_eq]
    rw [← hiff, hlen]
    omega
  · constructor
    · intro h'
      cases not_findFirstIndex_lt h h'
    · rintro ⟨x, hx, -⟩
      rw [List.drop_eq_nil_of_le (by simpa using h)] at hx
      cases hx

theorem existsKey_eq (m : FixedOrderedMultimap κ ν) (key : κ) :
  m.existsKey key = if ∃ x ∈ m.stored, x.1 = key then .ok else keyDoesNotExist
  := by
  simp only [existsKey, findFirstIndex_lt_iff, List.drop_zero]

/-- The place of the first pair with the key of the pair that an iterator points to. -/
def firstOfKey (m : FixedOrderedMultimap κ ν) (iter : ℕ) : ℕ :=
  m.stored.findIdx fun x => x.1 = (m.theMap iter).1

theorem firstOfKey_le {m : FixedOrderedMultimap κ ν} {iter : ℕ} (h : iter < m.size) :
  m.firstOfKey iter ≤ iter
  := by
  have hlen : iter < m.stored.length := by simpa using h
  apply Nat.le_of_not_lt
  intro hlt
  have hne := List.not_of_lt_findIdx hlt
  have hget := getElem?_stored h
  rw [List.getElem?_eq_getElem hlen, Option.some_inj] at hget
  simp [hget] at hne

/-- An erase by an iterator removes the first pair with the key. -/
theorem eraseIterator_eq {m : FixedOrderedMultimap κ ν} {iter : ℕ} (h : iter < m.size) :
  m.eraseIterator iter = (.ok, iter - 1, m.removeFromPosition (m.firstOfKey iter))
  := by
  have hfound : m.findFirstIndex (m.theMap iter).1 0 = m.firstOfKey iter := by
    rw [findFirstIndex_of_lt (Nat.zero_lt_of_lt h), Nat.zero_add, List.drop_zero, firstOfKey]
  have hle := firstOfKey_le h
  simp only [eraseIterator]
  rw [hfound, if_neg (by omega)]
  split
  · rfl
  · rename_i hzero
    rw [not_not.mp hzero]

/-- The call removes the pair that the iterator points to, and leaves the iterator on the
pair in front of it, or at `begin`. -/
structure RemovesPointedTo (m : FixedOrderedMultimap κ ν) (iter : ℕ) : Prop where
  result : (m.eraseIterator iter).1 = .ok
  stored : (m.eraseIterator iter).2.2.stored = m.stored.eraseIdx iter
  iterator : (m.eraseIterator iter).2.1 = iter - 1

/-- An erase by an iterator removes the pair pointed to exactly when all pairs from the first
one with its key up to it are the same pair. -/
theorem removesPointedTo_iff (m : FixedOrderedMultimap κ ν) (iter : Fin m.size) :
  m.RemovesPointedTo iter ↔
    ∀ k, m.firstOfKey iter ≤ k → k ≤ iter → m.stored[k]? = m.stored[(iter : ℕ)]?
  := by
  have hle := firstOfKey_le iter.isLt
  have hstored : (m.eraseIterator iter).2.2.stored = m.stored.eraseIdx (m.firstOfKey iter) := by
    rw [eraseIterator_eq iter.isLt, List.eraseIdx_eq_take_drop_succ]
    apply stored_removeFromPosition (Nat.lt_of_le_of_lt hle iter.isLt)
  rw [← eraseIdx_eq_iff hle, ← hstored]
  constructor
  · intro h
    apply h.stored
  · intro h
    rw [eraseIterator_eq iter.isLt] at h
    constructor
    · rw [eraseIterator_eq iter.isLt]
    · rw [eraseIterator_eq iter.isLt, h]
    · rw [eraseIterator_eq iter.isLt]

/-- Two pairs with one key are inserted, and the second one is erased by its iterator. -/
theorem not_removesPointedTo_second :
  ∃ m outputs, (step fun a b => decide (a < b)).run (new (fun _ => (0, 0)) 2)
      [.insert 1 10, .insert 1 20] = some (m, outputs) ∧
    m.stored[1]? = some (1, 20) ∧ ¬ RemovesPointedTo (m : FixedOrderedMultimap ℕ ℕ) 1
  := by
  refine ⟨_, _, rfl, by decide, ?_⟩
  intro h
  have hstored := h.stored
  revert hstored
  decide

/-! ### Runs -/

end FixedOrderedMultimap

namespace SortedMultimap

open KeyOrder FixedOrderedMultimap

variable {κ ν : Type*} [DecidableEq κ] {comp : κ → κ → Bool}

/-- The list is in order, and holds the pairs that arrived, those with one key in the order
of their arrival. -/
structure Stable (comp : κ → κ → Bool) (arrived l : List (κ × ν)) : Prop where
  sorted : Sorted comp l
  perm : l.Perm arrived
  withKey_eq : ∀ key, withKey key l = withKey key arrived

theorem Stable.erase {arrived l : List (κ × ν)} (h : Stable comp arrived l) (key : κ) :
  Stable comp (withoutKey key arrived) (withoutKey key l)
  where
  sorted := h.sorted.sublist List.filter_sublist
  perm := h.perm.filter _
  withKey_eq key' := by
    by_cases hkey : key' = key
    · rw [hkey, withKey_withoutKey_self, withKey_withoutKey_self]
    · rw [withKey_withoutKey_of_ne hkey, withKey_withoutKey_of_ne hkey, h.withKey_eq]

variable [IsStrictOrder κ fun a b => comp a b = true] {capacity : ℕ}

theorem Stable.insert {arrived l : List (κ × ν)} (h : Stable comp arrived l) (x : κ × ν) :
  Stable comp (arrived ++ [x]) (insertBehind comp x l)
  where
  sorted := sorted_insertBehind h.sorted x
  perm := by
    apply (List.perm_orderedInsert _ x l).trans
    apply (h.perm.cons x).trans
    symm
    apply List.perm_append_singleton
  withKey_eq key := by
    rw [filter_insertBehind h.sorted, h.withKey_eq, withKey, withKey, withKey,
      List.filter_append]

end SortedMultimap

namespace FixedOrderedMultimap

open KeyOrder SortedMultimap

variable {κ ν : Type*} [DecidableEq κ] {comp : κ → κ → Bool}

instance strictWeakOrder_nat : IsStrictWeakOrder ℕ fun a b => decide (a < b) = true where
  irrefl a := by simp
  trans a b c := by
    simp only [decide_eq_true_eq]
    apply Nat.lt_trans
  incomp_trans a b c := by
    simp only [decide_eq_true_eq]
    omega

end FixedOrderedMultimap
