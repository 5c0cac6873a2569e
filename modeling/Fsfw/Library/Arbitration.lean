import Mathlib

/-!
# Arbitration

Requests are made at levels.  They are taken from a linear order, in which a stronger request is
less, and the greatest element `⊤` asks for nothing.

Of the levels `0, …, n` the first one at which something is asked for decides, by its strongest
request (`Decides`).  The strongest request at each level is found by recording the requests one
after another (`foldl_record`).  The deciding one arrives at level `0` when each level, from the
last one on, hands its request to the level before it, if nothing is asked for there
(`handUp_zero`).
-/

namespace Arbitration

variable {ι α : Type*} [DecidableEq ι] [LinearOrder α] [OrderTop α]

/-- Record a request, when it is stronger than what has been recorded at its level. -/
def record (a : ι → α) (r : ι × α) : ι → α :=
  if r.2 < a r.1 then Function.update a r.1 r.2 else a

/-- The strongest request at a level. -/
def strongest (rs : List (ι × α)) (i : ι) : α :=
  (rs.filter fun r => r.1 = i).foldr (fun r x => min r.2 x) ⊤

theorem strongest_cons (r : ι × α) (rs : List (ι × α)) (i : ι) :
  strongest (r :: rs) i = if r.1 = i then min r.2 (strongest rs i) else strongest rs i
  := by
  simp only [strongest, List.filter_cons, decide_eq_true_eq]
  split_ifs
  · rw [List.foldr_cons]
  · rfl

/-- The strongest request at a level is the greatest one below all of them. -/
theorem isGLB_strongest (rs : List (ι × α)) (i : ι) :
  IsGLB {x | (i, x) ∈ rs} (strongest rs i)
  := by
  induction rs with
  | nil =>
      simp only [List.not_mem_nil, Set.ofPred_false]
      exact isGLB_empty
  | cons r rs ih =>
      obtain ⟨j, y⟩ := r
      rw [strongest_cons]
      split_ifs with h
      · obtain rfl : j = i := h
        have hset : {x | (j, x) ∈ (j, y) :: rs} = insert y {x | (j, x) ∈ rs} := by
          ext x
          simp only [Set.mem_ofPred_eq, List.mem_cons, Prod.mk.injEq, true_and, Set.mem_insert_iff]
        rw [hset]
        apply ih.insert
      · have hset : {x | (i, x) ∈ (j, y) :: rs} = {x | (i, x) ∈ rs} := by
          ext x
          simp only [Set.mem_ofPred_eq, List.mem_cons, Prod.mk.injEq, Ne.symm h, false_and,
            false_or]
        rw [hset]
        exact ih

/-- The strongest request at a level is one of the requests, if something is asked for. -/
theorem strongest_mem {rs : List (ι × α)} {i : ι} (h : strongest rs i ≠ ⊤) :
  (i, strongest rs i) ∈ rs
  := by
  induction rs with
  | nil => cases h rfl
  | cons r rs ih =>
      obtain ⟨j, y⟩ := r
      rw [strongest_cons] at h ⊢
      split_ifs at h ⊢ with hj
      · obtain rfl : j = i := hj
        rcases min_choice y (strongest rs j) with hmin | hmin
        · rw [hmin]
          apply List.mem_cons_self
        · rw [hmin] at h ⊢
          apply List.mem_cons_of_mem _ (ih h)
      · apply List.mem_cons_of_mem _ (ih h)

theorem isLeast_strongest {rs : List (ι × α)} {i : ι} (h : strongest rs i ≠ ⊤) :
  IsLeast {x | (i, x) ∈ rs} (strongest rs i)
  := by
  use strongest_mem h, (isGLB_strongest rs i).1

theorem eq_top_of_strongest {rs : List (ι × α)} {i : ι} (h : strongest rs i = ⊤) {x : α}
    (hx : (i, x) ∈ rs) :
  x = ⊤
  := by
  apply top_unique
  rw [← h]
  apply (isGLB_strongest rs i).1 hx

omit [OrderTop α] in
theorem record_apply (a : ι → α) (r : ι × α) (i : ι) :
  record a r i = if r.1 = i then min (a i) r.2 else a i
  := by
  rw [record]
  by_cases hi : r.1 = i
  · subst hi
    rw [if_pos rfl]
    split_ifs with h
    · rw [Function.update_self, min_eq_right h.le]
    · rw [min_eq_left (le_of_not_gt h)]
  · rw [if_neg hi]
    split_ifs
    · rw [Function.update_of_ne (Ne.symm hi)]
    · rfl

/-- After recording requests, each level has the strongest one of them, or what it had before. -/
theorem foldl_record (a : ι → α) (rs : List (ι × α)) (i : ι) :
  rs.foldl record a i = min (a i) (strongest rs i)
  := by
  induction rs generalizing a with
  | nil =>
      rw [strongest]
      exact (min_top_right (a i)).symm
  | cons r rs ih =>
      rw [List.foldl_cons, ih, record_apply, strongest_cons]
      split_ifs
      · rw [min_assoc]
      · rfl

/-- The request that decides, of the requests at the levels `0, …, n`. -/
inductive Decides (rs : List (ℕ × α)) (n : ℕ) : α → Prop where
  | nobody : (∀ i ≤ n, ∀ x, (i, x) ∈ rs → x = ⊤) → Decides rs n ⊤
  | level (i : ℕ) {x : α} : i ≤ n → (∀ j < i, ∀ y, (j, y) ∈ rs → y = ⊤) →
      IsLeast {y | (i, y) ∈ rs} x → x ≠ ⊤ → Decides rs n x

/-- The request of the first of the levels `0, …, n` at which something is asked for. -/
def deciding : ℕ → (ℕ → α) → α
  | 0, a => a 0
  | n + 1, a => if a 0 = ⊤ then deciding n (fun i => a (i + 1)) else a 0

theorem deciding_eq (n : ℕ) (a : ℕ → α) :
  (deciding n a = ⊤ ∧ ∀ i ≤ n, a i = ⊤)
    ∨ ∃ i ≤ n, (∀ j < i, a j = ⊤) ∧ a i ≠ ⊤ ∧ deciding n a = a i
  := by
  induction n generalizing a with
  | zero =>
      by_cases h : a 0 = ⊤
      · left
        use h
        rintro i hi
        rwa [Nat.le_zero.mp hi]
      · right
        exact ⟨0, le_rfl, fun j hj => absurd hj j.not_lt_zero, h, rfl⟩
  | succ n ih =>
      rw [deciding]
      split_ifs with h
      · rcases ih fun i => a (i + 1) with ⟨htop, hall⟩ | ⟨i, hi, hbefore, hne, heq⟩
        · left
          use htop
          intro i hi
          cases i with
          | zero => exact h
          | succ i => exact hall i (Nat.le_of_succ_le_succ hi)
        · right
          refine ⟨i + 1, Nat.succ_le_succ hi, fun j hj => ?_, hne, heq⟩
          cases j with
          | zero => exact h
          | succ j => exact hbefore j (Nat.lt_of_succ_lt_succ hj)
      · right
        exact ⟨0, Nat.zero_le _, fun j hj => absurd hj j.not_lt_zero, h, rfl⟩

/-- The strongest request of the first level at which something is asked for decides. -/
theorem decides_deciding (rs : List (ℕ × α)) (n : ℕ) :
  Decides rs n (deciding n (strongest rs))
  := by
  rcases deciding_eq n (strongest rs) with ⟨htop, hall⟩ | ⟨i, hi, hbefore, hne, heq⟩
  · rw [htop]
    apply Decides.nobody
    intro i hi x hx
    apply eq_top_of_strongest (hall i hi) hx
  · rw [heq]
    apply Decides.level i hi _ (isLeast_strongest hne) hne
    intro j hj y hy
    apply eq_top_of_strongest (hbefore j hj) hy

/-- Level `n` takes over the request of the level after it, if nothing is asked for there. -/
def takeOver (n : ℕ) (a : ℕ → α) : ℕ → α :=
  if a n = ⊤ then Function.update a n (a (n + 1)) else a

/-- Each of the levels `n - 1, …, 0` takes over the request of the level after it. -/
def handUp : ℕ → (ℕ → α) → (ℕ → α)
  | 0, a => a
  | n + 1, a => handUp n (takeOver n a)

theorem takeOver_succ (n : ℕ) (a : ℕ → α) (i : ℕ) :
  takeOver (n + 1) a (i + 1) = takeOver n (fun i => a (i + 1)) i
  := by
  rw [takeOver, takeOver]
  split_ifs
  · by_cases hi : i = n
    · rw [hi, Function.update_self, Function.update_self]
    · rw [Function.update_of_ne hi, Function.update_of_ne (by omega)]
  · rfl

theorem takeOver_succ_zero (n : ℕ) (a : ℕ → α) :
  takeOver (n + 1) a 0 = a 0
  := by
  rw [takeOver]
  split_ifs
  · exact Function.update_of_ne (Nat.succ_ne_zero n).symm _ _
  · rfl

/-- The last level is not needed when the one before it has taken over its request. -/
theorem deciding_takeOver (n : ℕ) (a : ℕ → α) :
  deciding n (takeOver n a) = deciding (n + 1) a
  := by
  induction n generalizing a with
  | zero =>
      rw [deciding, deciding, deciding, takeOver]
      split_ifs
      · exact Function.update_self _ _ _
      · rfl
  | succ n ih =>
      rw [deciding, takeOver_succ_zero, deciding]
      congr 1
      rw [← ih]
      congr 1
      funext i
      apply takeOver_succ

/-- What is handed up to level `0` is the deciding request. -/
theorem handUp_zero (n : ℕ) (a : ℕ → α) :
  handUp n a 0 = deciding n a
  := by
  induction n generalizing a with
  | zero => rfl
  | succ n ih => rw [handUp, ih, deciding_takeOver]

end Arbitration
