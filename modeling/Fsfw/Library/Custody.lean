import Mathlib

/-!
# Items in the hands of holders

Items are passed on between holders, each of which has a list of them.  Every item is in the hands
of at most one holder, who has it once: `Custody held holder` says that `holder` tells who that is.

The items may be the addresses of a memory.  `Keeps held contents` says that the addresses that
somebody has are exactly those at which there is something.  This stays so when an address is
handed over (`Keeps.hand`), when something is put at a free address (`Keeps.give`), and when what
is at an address is deleted by the one who has it (`Keeps.drop`).
-/

variable {ι α β : Type*} [DecidableEq ι] [DecidableEq α]

/-- The holder of an item has it once, and nobody else has it. -/
def Custody (held : ι → List α) (holder : α → Option ι) : Prop :=
  ∀ i a, (held i).count a = if holder a = some i then 1 else 0

namespace Custody

variable {held : ι → List α} {holder : α → Option ι} {i : ι} {a : α}

/-- Who has an item is its holder. -/
theorem mem_iff (h : Custody held holder) :
  a ∈ held i ↔ holder a = some i
  := by
  rw [← List.count_pos_iff, h i a]
  split_ifs with hi
  · simp only [Nat.one_pos, hi]
  · simp only [Nat.lt_irrefl, hi]

theorem nodup (h : Custody held holder) (i : ι) :
  (held i).Nodup
  := by
  rw [List.nodup_iff_count_le_one]
  intro a
  rw [h i a]
  split_ifs
  · exact Nat.le_refl 1
  · exact Nat.zero_le 1

/-- An item is given up, wherever it stands in the list of its holder. -/
theorem drop (h : Custody held holder) (hi : a ∈ held i) :
  Custody (Function.update held i ((held i).erase a)) (Function.update holder a none)
  := by
  have hheld : holder a = some i := h.mem_iff.mp hi
  intro k b
  have hcount := h k b
  by_cases hb : b = a
  · subst hb
    rw [Function.update_self, if_neg (Option.some_ne_none k).symm]
    by_cases hk : k = i
    · subst hk
      rw [Function.update_self, List.count_erase_self, hcount, if_pos hheld]
    · rw [Function.update_of_ne hk, hcount, hheld, if_neg]
      intro hsome
      exact hk (Option.some.inj hsome).symm
  · rw [Function.update_of_ne hb, ← hcount]
    by_cases hk : k = i
    · subst hk
      rw [Function.update_self, List.count_erase_of_ne hb]
    · rw [Function.update_of_ne hk]

/-- An item that nobody has is given to a holder. -/
theorem give (h : Custody held holder) (ha : holder a = none) (i : ι) :
  Custody (Function.update held i (held i ++ [a])) (Function.update holder a (some i))
  := by
  intro k b
  have hcount := h k b
  by_cases hk : k = i
  · subst hk
    rw [Function.update_self, List.count_append, hcount, List.count_singleton]
    by_cases hb : b = a
    · subst hb
      rw [ha, if_neg (Option.some_ne_none k).symm, Function.update_self, if_pos rfl,
        beq_self_eq_true, if_pos rfl]
    · have hne : (a == b) = false := beq_false_of_ne fun hab => hb hab.symm
      rw [Function.update_of_ne hb, hne, if_neg Bool.false_ne_true, Nat.add_zero]
  · rw [Function.update_of_ne hk, hcount]
    by_cases hb : b = a
    · subst hb
      have hother : some i ≠ some k := fun hsome => hk (Option.some.inj hsome).symm
      rw [ha, if_neg (Option.some_ne_none k).symm, Function.update_self, if_neg hother]
    · rw [Function.update_of_ne hb]

end Custody

/-- Every address at which there is something has one holder, and no other address has one. -/
def Keeps (held : ι → List α) (contents : α → Option β) : Prop :=
  ∃ holder, Custody held holder ∧ ∀ a, contents a = none ↔ holder a = none

namespace Keeps

variable {held : ι → List α} {contents : α → Option β} {i j : ι} {a : α}

/-- There is something at an address that somebody has. -/
theorem ne_none (h : Keeps held contents) (ha : a ∈ held i) :
  contents a ≠ none
  := by
  obtain ⟨holder, hcustody, hiff⟩ := h
  rw [Ne, hiff, hcustody.mem_iff.mp ha]
  exact Option.some_ne_none i

theorem exists_eq_some (h : Keeps held contents) (ha : a ∈ held i) :
  ∃ x, contents a = some x
  := Option.ne_none_iff_exists'.mp (h.ne_none ha)

theorem nodup (h : Keeps held contents) (i : ι) :
  (held i).Nodup
  := by
  obtain ⟨holder, hcustody, -⟩ := h
  exact hcustody.nodup i

/-- An address has a single holder. -/
theorem eq_of_mem (h : Keeps held contents) (hi : a ∈ held i) (hj : a ∈ held j) :
  i = j
  := by
  obtain ⟨holder, hcustody, -⟩ := h
  exact Option.some.inj ((hcustody.mem_iff.mp hi).symm.trans (hcustody.mem_iff.mp hj))

/-- Nothing is lost: somebody has the address. -/
theorem exists_mem (h : Keeps held contents) (ha : contents a ≠ none) :
  ∃ i, a ∈ held i
  := by
  obtain ⟨holder, hcustody, hiff⟩ := h
  rw [Ne, hiff] at ha
  obtain ⟨i, hi⟩ := Option.ne_none_iff_exists'.mp ha
  use i
  rw [hcustody.mem_iff, hi]

/-- What is at an address is deleted by the one who has it. -/
theorem drop (h : Keeps held contents) (ha : a ∈ held i) :
  Keeps (Function.update held i ((held i).erase a)) (Function.update contents a none)
  := by
  obtain ⟨holder, hcustody, hiff⟩ := h
  use Function.update holder a none, hcustody.drop ha
  intro b
  by_cases hb : b = a
  · subst hb
    simp only [Function.update_self]
  · rw [Function.update_of_ne hb, Function.update_of_ne hb, hiff]

/-- Something is put at a free address, which is given to a holder. -/
theorem give (h : Keeps held contents) (ha : contents a = none) (i : ι) (x : β) :
  Keeps (Function.update held i (held i ++ [a])) (Function.update contents a (some x))
  := by
  obtain ⟨holder, hcustody, hiff⟩ := h
  use Function.update holder a (some i), hcustody.give ((hiff a).mp ha) i
  intro b
  by_cases hb : b = a
  · subst hb
    simp only [Function.update_self, Option.some_ne_none]
  · rw [Function.update_of_ne hb, Function.update_of_ne hb, hiff]

/-- An address is handed over. -/
theorem hand (h : Keeps held contents) (ha : a ∈ held i) (j : ι) :
  Keeps
    (Function.update (Function.update held i ((held i).erase a)) j
      (Function.update held i ((held i).erase a) j ++ [a]))
    contents
  := by
  obtain ⟨x, hx⟩ := h.exists_eq_some ha
  have hgiven := (h.drop ha).give (Function.update_self a none contents) j x
  rwa [Function.update_idem, ← hx, Function.update_eq_self] at hgiven

end Keeps
