import Mathlib

/-!
# Scanners

A scanner looks for the first item in a list of symbols, and tells the item and the number of
symbols that it takes up.  What it finds depends on a prefix only: symbols that are added at
the end do not change it.

`drain` takes the items out of a list one after another and gives what is left.  Draining a
list at once gives the same as draining a part of it, adding the other part to what is left,
and draining that (`drain_append`); so the items do not depend on the chunks in which a stream
arrives (`feedAll_eq`).
-/

/-- A scanner for items of type `ρ` in lists of symbols of type `α`. -/
structure Scanner (α ρ : Type*) where
  next : List α → Option (ρ × ℕ)
  next_pos : ∀ {c r k}, next c = some (r, k) → 0 < k
  next_le : ∀ {c r k}, next c = some (r, k) → k ≤ c.length
  next_append : ∀ {c r k}, next c = some (r, k) → ∀ t, next (c ++ t) = some (r, k)

namespace Scanner

variable {α ρ : Type*} (S : Scanner α ρ)

/-- The items of a list, and what is left of it. -/
def drain (c : List α) : List ρ × List α :=
  match _h : S.next c with
  | none => ([], c)
  | some (r, k) =>
      let (rs, l) := drain (c.drop k)
      (r :: rs, l)
termination_by c.length
decreasing_by
  have hpos := S.next_pos _h
  have hle := S.next_le _h
  rw [List.length_drop]
  omega

/-- The items of a stream that arrives in chunks, when each chunk is added to what is left of
the earlier ones, and what is left at the end. -/
def feedAll : List α → List (List α) → List ρ × List α
  | l, [] => ([], l)
  | l, chunk :: chunks =>
      let (rs, l) := S.drain (l ++ chunk)
      let (rs', l) := feedAll l chunks
      (rs ++ rs', l)

variable {S}

theorem drain_of_none {c : List α} (h : S.next c = none) :
  S.drain c = ([], c)
  := by
  rw [drain]
  split
  · rfl
  · rename_i h'
    rw [h] at h'
    cases h'

theorem drain_of_some {c : List α} {r : ρ} {k : ℕ} (h : S.next c = some (r, k)) :
  S.drain c = (r :: (S.drain (c.drop k)).1, (S.drain (c.drop k)).2)
  := by
  conv_lhs => rw [drain]
  split
  · rename_i h'
    rw [h] at h'
    cases h'
  · rename_i h'
    rw [h] at h'
    cases h'
    rfl

/-- Nothing is found in what is left. -/
theorem next_drain (c : List α) :
  S.next (S.drain c).2 = none
  := by
  cases h : S.next c with
  | none =>
      rw [drain_of_none h, h]
  | some rk =>
      obtain ⟨r, k⟩ := rk
      have hpos := S.next_pos h
      have hle := S.next_le h
      rw [drain_of_some h]
      apply next_drain
termination_by c.length
decreasing_by
  rw [List.length_drop]
  omega

/-- What is left is not longer than the list. -/
theorem length_drain_le (c : List α) :
  (S.drain c).2.length ≤ c.length
  := by
  cases h : S.next c with
  | none =>
      apply Nat.le_of_eq
      rw [drain_of_none h]
  | some rk =>
      obtain ⟨r, k⟩ := rk
      have hpos := S.next_pos h
      have hle := S.next_le h
      rw [drain_of_some h]
      apply Nat.le_trans (length_drain_le (c.drop k))
      rw [List.length_drop]
      omega
termination_by c.length
decreasing_by
  rw [List.length_drop]
  omega

/-- Draining a list at once, or its first part first. -/
theorem drain_append (c t : List α) :
  S.drain (c ++ t) =
    ((S.drain c).1 ++ (S.drain ((S.drain c).2 ++ t)).1, (S.drain ((S.drain c).2 ++ t)).2)
  := by
  cases h : S.next c with
  | none =>
      rw [drain_of_none h]
      rfl
  | some rk =>
      obtain ⟨r, k⟩ := rk
      have hpos := S.next_pos h
      have hle := S.next_le h
      rw [drain_of_some h, drain_of_some (S.next_append h t), List.drop_append_of_le_length hle,
        drain_append (c.drop k) t]
      rfl
termination_by c.length
decreasing_by
  rw [List.length_drop]
  omega

/-- The items of a stream, and what is left of it, do not depend on how it is cut into
chunks. -/
theorem feedAll_eq {l : List α} (hl : S.next l = none) (chunks : List (List α)) :
  S.feedAll l chunks = S.drain (l ++ chunks.flatten)
  := by
  induction chunks generalizing l with
  | nil =>
      simp [feedAll, drain_of_none hl]
  | cons chunk chunks ih =>
      simp only [feedAll, List.flatten_cons]
      rw [ih (next_drain (l ++ chunk)), ← List.append_assoc, drain_append (l ++ chunk)]

end Scanner
