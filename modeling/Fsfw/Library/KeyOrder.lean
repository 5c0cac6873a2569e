import Mathlib

/-!
# Lists in the order of their keys

A list of entries with keys is in the order of a comparison `comp` when no entry has a key
before that of an entry in front of it.  `insertBehind comp x l` inserts the entry `x` in
front of the first entry whose key comes after the key of `x`.

Inserting keeps the order (`sorted_insertBehind`), leaves the entries with other keys as they
are, and puts the new entry behind those with the same key (`filter_insertBehind`).
-/

namespace KeyOrder

variable {κ ν : Type*}

/-- No entry has a key before that of an entry in front of it. -/
def Sorted (comp : κ → κ → Bool) (l : List (κ × ν)) : Prop :=
  l.Pairwise fun a b => ¬ comp b.1 a.1 = true

/-- The entries with the key `k`. -/
def withKey [DecidableEq κ] (k : κ) (l : List (κ × ν)) : List (κ × ν) :=
  l.filter fun x => x.1 = k

/-- The entries with keys other than `k`. -/
def withoutKey [DecidableEq κ] (k : κ) (l : List (κ × ν)) : List (κ × ν) :=
  l.filter fun x => x.1 ≠ k

theorem withKey_withoutKey_self [DecidableEq κ] (k : κ) (l : List (κ × ν)) :
  withKey k (withoutKey k l) = []
  := by
  apply List.filter_eq_nil_iff.mpr
  intro x hx
  simpa using (List.mem_filter.mp hx).2

theorem withKey_withoutKey_of_ne [DecidableEq κ] {k k' : κ} (h : k ≠ k')
    (l : List (κ × ν)) :
  withKey k (withoutKey k' l) = withKey k l
  := by
  rw [withKey, withoutKey, List.filter_filter]
  apply List.filter_congr
  intro x _
  by_cases hx : x.1 = k
  · simp [hx, h]
  · simp [hx]

/-- Two positions give the same list without their entry exactly when all entries from the
first one to the second one are the same. -/
theorem eraseIdx_eq_iff {α : Type*} {l : List α} {i j : ℕ} (hij : i ≤ j) :
  l.eraseIdx i = l.eraseIdx j ↔ ∀ k, i ≤ k → k ≤ j → l[k]? = l[j]?
  := by
  constructor
  · intro h
    -- Behind the first position the entries of the two lists are next to each other in `l`.
    have hnext : ∀ k, i ≤ k → k < j → l[k]? = l[k + 1]? := by
      intro k hik hkj
      have hk := congrArg (fun l' => l'[k]?) h
      simp only [List.getElem?_eraseIdx] at hk
      rw [if_neg (Nat.not_lt.mpr hik), if_pos hkj] at hk
      exact hk.symm
    intro k hik hkj
    induction hkj using Nat.decreasingInduction with
    | self => rfl
    | of_succ k hkj ih =>
        rw [hnext k hik hkj]
        apply ih (Nat.le_succ_of_le hik)
  · intro h
    apply List.ext_getElem?
    intro k
    rw [List.getElem?_eraseIdx, List.getElem?_eraseIdx]
    rcases Nat.lt_or_ge k i with hki | hik
    · rw [if_pos hki, if_pos (Nat.lt_of_lt_of_le hki hij)]
    · rw [if_neg (Nat.not_lt.mpr hik)]
      split
      · rename_i hkj
        rw [h k hik (Nat.le_of_lt hkj), h (k + 1) (Nat.le_succ_of_le hik) hkj]
      · rfl

/-- Insert an entry in front of the first entry with a key after its own. -/
def insertBehind (comp : κ → κ → Bool) (x : κ × ν) (l : List (κ × ν)) : List (κ × ν) :=
  l.orderedInsert (fun a b => comp a.1 b.1 = true) x

theorem mem_insertBehind {comp : κ → κ → Bool} {x y : κ × ν} {l : List (κ × ν)} :
  y ∈ insertBehind comp x l ↔ y = x ∨ y ∈ l
  := by
  simp [insertBehind]

section Order

variable {comp : κ → κ → Bool} [IsStrictOrder κ fun a b => comp a b = true]

/-- A list stays in order when an entry is inserted. -/
theorem sorted_insertBehind {l : List (κ × ν)} (h : Sorted comp l) (x : κ × ν) :
  Sorted comp (insertBehind comp x l)
  := by
  induction l with
  | nil =>
      apply List.pairwise_singleton
  | cons y l ih =>
      obtain ⟨hy, hl⟩ := List.pairwise_cons.mp h
      rw [insertBehind, List.orderedInsert_cons]
      split
      · rename_i hxy
        apply List.Pairwise.cons _ h
        intro z hz hzx
        have hzy := trans_of (fun a b => comp a b = true) hzx hxy
        rcases List.mem_cons.mp hz with rfl | hz
        · apply irrefl_of (fun a b => comp a b = true) z.1 hzy
        · apply hy z hz hzy
      · rename_i hxy
        apply List.Pairwise.cons _ (ih hl)
        intro z hz
        rcases mem_insertBehind.mp hz with rfl | hz
        · apply hxy
        · apply hy z hz

/-- The new entry comes behind the entries with its key. -/
theorem filter_insertBehind [DecidableEq κ] {l : List (κ × ν)} (h : Sorted comp l)
    (x : κ × ν) (k : κ) :
  withKey k (insertBehind comp x l) = withKey k l ++ withKey k [x]
  := by
  induction l with
  | nil =>
      rfl
  | cons y l ih =>
      obtain ⟨hy, hl⟩ := List.pairwise_cons.mp h
      rw [insertBehind, List.orderedInsert_cons]
      split
      · rename_i hxy
        by_cases hk : x.1 = k
        · have hnone : withKey k (y :: l) = [] := by
            apply List.filter_eq_nil_iff.mpr
            intro z hz
            rw [decide_eq_true_eq]
            intro hzk
            rw [hk, ← hzk] at hxy
            rcases List.mem_cons.mp hz with rfl | hz
            · apply irrefl_of (fun a b => comp a b = true) z.1 hxy
            · apply hy z hz hxy
          rw [hnone]
          simp only [withKey] at hnone ⊢
          rw [List.filter_cons, hnone]
          simp [hk]
        · simp [withKey, hk]
      · have ih' := ih hl
        rw [insertBehind] at ih'
        simp only [withKey] at ih' ⊢
        rw [List.filter_cons, List.filter_cons, ih']
        split
        · rfl
        · rfl

end Order

end KeyOrder
