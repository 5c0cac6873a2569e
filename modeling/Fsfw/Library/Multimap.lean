import Mathlib

/-!
# Multimaps

A multimap is a list of entries that is sorted by their keys.  An entry is inserted behind
the entries with an equal key.

A range of a multimap is given by two iterators into it, which cut the entries into those
before the first iterator, those in the range, and those from the second iterator on.
Iterators stay valid when another entry is inserted: the new entry belongs to the part in
which it comes to lie (`Range.toList_insert`).
-/

namespace Multimap

/-- Before the first element without a property all elements have it. -/
theorem of_mem_take_takeWhile {α : Type*} {p : α → Bool} {l : List α} {x : α}
    (h : x ∈ l.take (l.takeWhile p).length) :
  p x = true
  := by
  rw [← List.prefix_iff_eq_take.mp (List.takeWhile_prefix p)] at h
  apply List.mem_takeWhile_imp h

/-- In a list of different elements a property that a single one has selects this one. -/
theorem filter_eq_singleton {α : Type*} {p : α → Bool} {l : List α} {x : α} (hl : l.Nodup)
    (hx : x ∈ l) (hpx : p x = true) (hunique : ∀ y ∈ l, p y = true → y = x) :
  l.filter p = [x]
  := by
  rw [← List.perm_singleton, List.perm_ext_iff_of_nodup (hl.filter p) (List.nodup_singleton x)]
  intro y
  rw [List.mem_filter, List.mem_singleton]
  constructor
  · rintro ⟨hy, hpy⟩
    exact hunique y hy hpy
  · rintro rfl
    exact ⟨hx, hpx⟩

variable {κ ν : Type*} [LinearOrder κ]

/-- The entries are in the order of their keys. -/
def SortedByKey (l : List (κ × ν)) : Prop :=
  l.Pairwise fun a b => a.1 ≤ b.1

end Multimap

/-- A multimap with keys of type `κ` and values of type `ν`. -/
structure Multimap (κ ν : Type*) [LinearOrder κ] where
  entries : List (κ × ν)
  sorted : Multimap.SortedByKey entries

namespace Multimap

variable {κ ν : Type*} [LinearOrder κ]

/-- In the order of the keys, from the first entry without a property that smaller keys share
no entry has it. -/
theorem SortedByKey.not_of_mem_drop_takeWhile {p : κ → Bool}
    (hp : ∀ a b, a ≤ b → p b = true → p a = true) {l : List (κ × ν)} (h : SortedByKey l) :
  ∀ x ∈ l.drop (l.takeWhile fun x => p x.1).length, ¬ p x.1 = true
  := by
  induction l with
  | nil =>
      intro x hx
      cases hx
  | cons y l ih =>
      obtain ⟨hy, hl⟩ := List.pairwise_cons.mp h
      by_cases hpy : p y.1
      · rw [List.takeWhile_cons, if_pos hpy]
        apply ih hl
      · rw [List.takeWhile_cons, if_neg hpy]
        intro x hx hpx
        apply hpy
        rcases List.mem_cons.mp hx with rfl | hx
        · apply hpx
        · apply hp _ _ (hy x hx) hpx

/-- Insert an entry behind those with keys up to its own. -/
def insertEntry (x : κ × ν) (l : List (κ × ν)) : List (κ × ν) :=
  l.orderedInsert (fun a b => a.1 < b.1) x

theorem perm_insertEntry (x : κ × ν) (l : List (κ × ν)) :
  List.Perm (insertEntry x l) (x :: l)
  := List.perm_orderedInsert _ x l

theorem insertEntry_cons_of_lt {x y : κ × ν} (h : x.1 < y.1) (l : List (κ × ν)) :
  insertEntry x (y :: l) = x :: y :: l
  := by
  simp [insertEntry, h]

theorem insertEntry_cons_of_le {x y : κ × ν} (h : y.1 ≤ x.1) (l : List (κ × ν)) :
  insertEntry x (y :: l) = y :: insertEntry x l
  := by
  simp [insertEntry, h]

/-- Inserting an entry keeps the order. -/
theorem sortedByKey_insertEntry {l : List (κ × ν)} (h : SortedByKey l) (x : κ × ν) :
  SortedByKey (insertEntry x l)
  := by
  induction l with
  | nil =>
      apply List.pairwise_singleton
  | cons y l ih =>
      obtain ⟨hy, hl⟩ := List.pairwise_cons.mp h
      rcases lt_or_ge x.1 y.1 with hlt | hle
      · rw [insertEntry_cons_of_lt hlt]
        apply List.Pairwise.cons _ h
        intro z hz
        rcases List.mem_cons.mp hz with rfl | hz
        · apply le_of_lt hlt
        · apply le_trans (le_of_lt hlt) (hy z hz)
      · rw [insertEntry_cons_of_le hle]
        apply List.Pairwise.cons _ (ih hl)
        intro z hz
        rcases List.mem_cons.mp ((perm_insertEntry x l).mem_iff.mp hz) with rfl | hz
        · apply hle
        · apply hy z hz

/-- Every entry that stands first in the list has a key above `k`. -/
def StartsAbove (k : κ) (l : List (κ × ν)) : Prop :=
  ∀ y ∈ l.head?, k < y.1

instance (k : κ) (l : List (κ × ν)) : Decidable (StartsAbove k l) :=
  inferInstanceAs (Decidable (∀ y ∈ l.head?, k < y.1))

/-- An entry goes to the first part when the second one starts above it. -/
theorem insertEntry_append_left {x : κ × ν} {l₂ : List (κ × ν)} (h : StartsAbove x.1 l₂)
    (l₁ : List (κ × ν)) :
  insertEntry x (l₁ ++ l₂) = insertEntry x l₁ ++ l₂
  := by
  induction l₁ with
  | nil =>
      cases l₂ with
      | nil => rfl
      | cons y l₂ => apply insertEntry_cons_of_lt (h y rfl)
  | cons y l₁ ih =>
      rcases lt_or_ge x.1 y.1 with hlt | hle
      · rw [List.cons_append, insertEntry_cons_of_lt hlt, insertEntry_cons_of_lt hlt]
        rfl
      · rw [List.cons_append, insertEntry_cons_of_le hle, insertEntry_cons_of_le hle, ih]
        rfl

/-- An entry goes to the second part when no key of the first one is above its own. -/
theorem insertEntry_append_right {x : κ × ν} {l₁ : List (κ × ν)} (h : ∀ y ∈ l₁, y.1 ≤ x.1)
    (l₂ : List (κ × ν)) :
  insertEntry x (l₁ ++ l₂) = l₁ ++ insertEntry x l₂
  := by
  induction l₁ with
  | nil =>
      rfl
  | cons y l₁ ih =>
      rw [List.cons_append, insertEntry_cons_of_le (h y List.mem_cons_self),
        ih (fun z hz => h z (List.mem_cons_of_mem y hz))]
      rfl

/-- Nothing before an entry that stands first in the second part is above it. -/
theorem SortedByKey.le_of_head {l₁ l₂ : List (κ × ν)} (h : SortedByKey (l₁ ++ l₂)) {k : κ}
    (hk : ¬ StartsAbove k l₂) :
  ∀ y ∈ l₁, y.1 ≤ k
  := by
  intro y hy
  simp only [StartsAbove, not_forall, not_lt] at hk
  obtain ⟨z, hz, hle⟩ := hk
  apply le_trans _ hle
  apply (List.pairwise_append.mp h).2.2 y hy z (List.mem_of_mem_head? hz)

/-- Two iterators into a multimap, given by indices, of which the first one does not come
after the second one. -/
structure Iterators where
  itBegin : ℕ
  itEnd : ℕ
  le : itBegin ≤ itEnd

/-- Erase the entries from the first iterator to the one before the second iterator. -/
def erase (m : Multimap κ ν) (it : Iterators) : Multimap κ ν where
  entries := m.entries.take it.itBegin ++ m.entries.drop it.itEnd
  sorted := by
    apply List.Pairwise.sublist _ m.sorted
    rw [← Nat.add_sub_cancel' it.le, ← List.drop_drop]
    conv_rhs => rw [← List.take_append_drop it.itBegin m.entries]
    apply List.Sublist.append_left
    apply List.drop_sublist

/-- The multimap without entries. -/
def empty : Multimap κ ν where
  entries := []
  sorted := List.Pairwise.nil

/-- Insert an entry. -/
def insert (m : Multimap κ ν) (x : κ × ν) : Multimap κ ν where
  entries := insertEntry x m.entries
  sorted := sortedByKey_insertEntry m.sorted x

/-- Erase the first entry with a property. -/
def eraseFirst (m : Multimap κ ν) (p : κ × ν → Bool) : Multimap κ ν where
  entries := m.entries.eraseP p
  sorted := m.sorted.sublist List.eraseP_sublist

theorem entries_eraseFirst (m : Multimap κ ν) (p : κ × ν → Bool) :
  (m.eraseFirst p).entries = m.entries.eraseP p
  := rfl

/-- Erasing the only entry with a property leaves those without it. -/
theorem eraseP_of_filter_eq {α : Type*} {p : α → Bool} {l : List α} {x : α}
    (h : l.filter p = [x]) :
  l.eraseP p = l.filter fun y => !p y
  := by
  induction l with
  | nil => cases h
  | cons y l ih =>
      by_cases hy : p y
      · rw [List.filter_cons_of_pos hy] at h
        obtain ⟨-, hnil⟩ := List.cons.inj h
        have hall : ∀ z ∈ l, (!p z) = true := by
          intro z hz
          have hnot := List.filter_eq_nil_iff.mp hnil z hz
          simpa using hnot
        rw [List.eraseP_cons_of_pos hy, List.filter_cons_of_neg (by simpa using hy),
          List.filter_eq_self.mpr hall]
      · rw [List.filter_cons_of_neg hy] at h
        rw [List.eraseP_cons_of_neg hy, List.filter_cons_of_pos (by simpa using hy), ih h]

/-! ### Ranges -/

/-- The entries of a multimap before, in and behind a range of it. -/
structure Range (κ ν : Type*) [LinearOrder κ] where
  before : List (κ × ν)
  within : List (κ × ν)
  after : List (κ × ν)
  sorted : SortedByKey (before ++ (within ++ after))

namespace Range

def toList (R : Range κ ν) : List (κ × ν) :=
  R.before ++ (R.within ++ R.after)

/-- The entries that are not in the range. -/
def outside (R : Range κ ν) : List (κ × ν) :=
  R.before ++ R.after

theorem perm_toList (R : Range κ ν) :
  List.Perm R.toList (R.outside ++ R.within)
  := by
  rw [toList, outside, List.append_assoc]
  apply List.Perm.append_left
  apply List.perm_append_comm

/-- The range between two iterators. -/
def ofIterators (m : Multimap κ ν) (it : Iterators) : Range κ ν where
  before := m.entries.take it.itBegin
  within := (m.entries.drop it.itBegin).take (it.itEnd - it.itBegin)
  after := m.entries.drop it.itEnd
  sorted := by
    rw [← Nat.add_sub_cancel' it.le, ← List.drop_drop, Nat.add_sub_cancel_left,
      List.take_append_drop, List.take_append_drop]
    apply m.sorted

theorem toList_ofIterators (m : Multimap κ ν) (it : Iterators) :
  (ofIterators m it).toList = m.entries
  := by
  rw [toList, ofIterators]
  simp only
  rw [← Nat.add_sub_cancel' it.le, ← List.drop_drop, Nat.add_sub_cancel_left,
    List.take_append_drop, List.take_append_drop]

/-- The multimap that a range is a range of. -/
def toMultimap (R : Range κ ν) : Multimap κ ν where
  entries := R.toList
  sorted := R.sorted

/-- The first entry of the range, and what is left when it is erased. -/
def pop (R : Range κ ν) : Option ((κ × ν) × Range κ ν) :=
  match h : R.within with
  | [] => none
  | x :: within =>
      some (x, {
        before := R.before
        within := within
        after := R.after
        sorted := by
          have hsorted := R.sorted
          rw [h] at hsorted
          apply List.Pairwise.sublist _ hsorted
          apply List.Sublist.append_left
          apply List.sublist_cons_self })

section

variable {R : Range κ ν} {x : κ × ν}

theorem startsAbove_append {k : κ} {l₁ l₂ : List (κ × ν)} (h₁ : StartsAbove k l₁)
    (h₂ : StartsAbove k l₂) :
  StartsAbove k (l₁ ++ l₂)
  := by
  cases l₁ with
  | nil => apply h₂
  | cons y l₁ => apply h₁

theorem insertEntry_before (hafter : StartsAbove x.1 R.after)
    (hwithin : StartsAbove x.1 R.within) :
  insertEntry x R.toList = insertEntry x R.before ++ (R.within ++ R.after)
  := insertEntry_append_left (startsAbove_append hwithin hafter) R.before

theorem insertEntry_within (hafter : StartsAbove x.1 R.after)
    (hwithin : ¬ StartsAbove x.1 R.within) :
  insertEntry x R.toList = R.before ++ (insertEntry x R.within ++ R.after)
  := by
  have hhead : ¬ StartsAbove x.1 (R.within ++ R.after) := by
    intro h
    apply hwithin
    intro y hy
    apply h y
    rw [List.head?_append, Option.mem_def.mp hy]
    rfl
  rw [toList, insertEntry_append_right (R.sorted.le_of_head hhead),
    insertEntry_append_left hafter]

theorem insertEntry_after (hafter : ¬ StartsAbove x.1 R.after) :
  insertEntry x R.toList = R.before ++ (R.within ++ insertEntry x R.after)
  := by
  have hsorted := R.sorted
  rw [← List.append_assoc] at hsorted
  rw [toList, ← List.append_assoc, insertEntry_append_right (hsorted.le_of_head hafter),
    List.append_assoc]

end

/-- Insert an entry, while the iterators stay where they are. -/
def insert (R : Range κ ν) (x : κ × ν) : Range κ ν :=
  if hafter : StartsAbove x.1 R.after then
    if hwithin : StartsAbove x.1 R.within then
      { R with
        before := insertEntry x R.before
        sorted := by
          rw [← insertEntry_before hafter hwithin]
          apply sortedByKey_insertEntry R.sorted }
    else
      { R with
        within := insertEntry x R.within
        sorted := by
          rw [← insertEntry_within hafter hwithin]
          apply sortedByKey_insertEntry R.sorted }
  else
    { R with
      after := insertEntry x R.after
      sorted := by
        rw [← insertEntry_after hafter]
        apply sortedByKey_insertEntry R.sorted }

/-- Inserting an entry into a range inserts it into the multimap. -/
theorem toList_insert (R : Range κ ν) (x : κ × ν) :
  (R.insert x).toList = insertEntry x R.toList
  := by
  rw [insert]
  split_ifs with hafter hwithin
  · rw [insertEntry_before hafter hwithin]
    rfl
  · rw [insertEntry_within hafter hwithin]
    rfl
  · rw [insertEntry_after hafter]
    rfl

/-- Where an entry comes to lie: it joins one part, and the other parts stay as they are.
Behind the range it does not come first. -/
theorem insert_cases (R : Range κ ν) (x : κ × ν) :
  (StartsAbove x.1 R.within ∧ (R.insert x).before = insertEntry x R.before ∧
    (R.insert x).within = R.within ∧ (R.insert x).after = R.after) ∨
  (StartsAbove x.1 R.after ∧ (∃ y ∈ R.within.head?, y.1 ≤ x.1) ∧
    (R.insert x).before = R.before ∧ (R.insert x).within = insertEntry x R.within ∧
    (R.insert x).after = R.after) ∨
  ((∃ y ∈ R.after.head?, y.1 ≤ x.1) ∧ (R.insert x).before = R.before ∧
    (R.insert x).within = R.within ∧ (R.insert x).after = insertEntry x R.after ∧
    (R.insert x).after.head? = R.after.head?)
  := by
  rw [insert]
  split_ifs with hafter hwithin
  · left
    exact ⟨hwithin, rfl, rfl, rfl⟩
  · right
    left
    simp only [StartsAbove, not_forall, not_lt] at hwithin
    obtain ⟨y, hy, hle⟩ := hwithin
    exact ⟨hafter, ⟨y, hy, hle⟩, rfl, rfl, rfl⟩
  · right
    right
    simp only [StartsAbove, not_forall, not_lt] at hafter
    obtain ⟨y, hy, hle⟩ := hafter
    refine ⟨⟨y, hy, hle⟩, rfl, rfl, rfl, ?_⟩
    obtain ⟨l, hl⟩ : ∃ l, R.after = y :: l := by
      rw [← List.head?_eq_some_iff]
      apply hy
    simp only [hl, insertEntry_cons_of_le hle, List.head?_cons]

theorem pop_eq_none {R : Range κ ν} (h : R.within = []) :
  R.pop = none
  := by
  rw [pop]
  split
  · rfl
  · rename_i h'
    rw [h] at h'
    cases h'

theorem pop_eq_some {R : Range κ ν} {x : κ × ν} {l : List (κ × ν)} (h : R.within = x :: l) :
  ∃ R', R.pop = some (x, R') ∧ R'.before = R.before ∧ R'.within = l ∧ R'.after = R.after
  := by
  rw [pop]
  split
  · rename_i h'
    rw [h] at h'
    cases h'
  · rename_i h'
    rw [h] at h'
    cases h'
    exact ⟨_, rfl, rfl, rfl, rfl⟩

end Range

end Multimap
