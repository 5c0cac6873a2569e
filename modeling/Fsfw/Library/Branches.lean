import Mathlib

/-!
# Positions in binary trees

A position in a binary tree is the list of the branches that lead to it, the last one first, so
that the position above it is the tail.  The right branches of a tree form its spine.  When no value
comes up twice on it, the tree is a map from the values on the spine to their left subtrees, which
is read by `lookup` and changed by `link` and `unlink`.
-/

namespace BinaryTree

universe u

variable {α : Type u}

/-! ### Positions -/

/-- Branches that lead to a subtree, the last one first.  The left branch is `true`. -/
abbrev Position :=
  List Bool

/-- The subtree at a branch. -/
def child (t : BinaryTree α) (branch : Bool) : BinaryTree α :=
  if branch then t.left else t.right

/-- Put a subtree at a branch. -/
def setChild : BinaryTree α → Bool → BinaryTree α → BinaryTree α
  | nil, _, _ => nil
  | node value left right, branch, u => if branch then node value u right else node value left u

/-- The subtree at a position.  It is `nil` when the position is outside of the tree. -/
def subtree (t : BinaryTree α) : Position → BinaryTree α
  | [] => t
  | branch :: p => (t.subtree p).child branch

/-- Put a subtree at a position. -/
def replace (t : BinaryTree α) : Position → BinaryTree α → BinaryTree α
  | [], u => u
  | branch :: p, u => t.replace p ((t.subtree p).setChild branch u)

section

variable (t u u' : BinaryTree α) (p q : Position)

theorem subtree_append :
  t.subtree (q ++ p) = (t.subtree p).subtree q
  := by
  induction q with
  | nil =>
      rfl
  | cons branch q ih =>
      rw [List.cons_append, subtree, subtree, ih]

theorem replace_append :
  t.replace (q ++ p) u = t.replace p ((t.subtree p).replace q u)
  := by
  induction q generalizing u with
  | nil =>
      rfl
  | cons branch q ih =>
      rw [List.cons_append, replace, replace, ih, subtree_append]

theorem replace_subtree :
  t.replace p (t.subtree p) = t
  := by
  induction p with
  | nil =>
      rfl
  | cons branch p ih =>
      have hsame : (t.subtree p).setChild branch ((t.subtree p).child branch) = t.subtree p := by
        cases t.subtree p <;> cases branch <;> rfl
      rw [subtree, replace, hsame, ih]

/-- What is put at the place of an empty subtree below another one is lost. -/
theorem replace_of_subtree_eq_nil {p : Position} (h : t.subtree p = nil) (branch : Bool) :
  t.replace (branch :: p) u = t
  := by
  rw [replace, h, setChild, ← h, replace_subtree]

theorem replace_ne_nil {p : Position} (hp : p ≠ []) (ht : t ≠ nil) :
  t.replace p u ≠ nil
  := by
  induction p generalizing u with
  | nil =>
      cases hp rfl
  | cons branch p ih =>
      cases p with
      | nil =>
          cases t with
          | nil =>
              cases ht rfl
          | node value left right =>
              cases branch <;> simp [replace, setChild, subtree]
      | cons branch' p =>
          rw [replace]
          apply ih
          simp

/-- There is a node above the position of a node, unless this is the root. -/
theorem subtree_tail_ne_nil {p : Position} (h : t.subtree p ≠ nil) :
  p = [] ∨ t.subtree p.tail ≠ nil
  := by
  cases p with
  | nil =>
      left
      rfl
  | cons branch p =>
      right
      intro hnil
      rw [List.tail_cons] at hnil
      apply h
      rw [subtree, hnil]
      cases branch <;> rfl

/-- A tree that is put below a node is found there. -/
theorem subtree_replace {p : Position} (h : p = [] ∨ t.subtree p.tail ≠ nil) :
  (t.replace p u).subtree p = u
  := by
  induction p generalizing u with
  | nil =>
      rfl
  | cons branch p ih =>
      have hnode : t.subtree p ≠ nil := by
        apply h.resolve_left
        simp
      rw [replace, subtree, ih _ (subtree_tail_ne_nil t hnode)]
      cases hp : t.subtree p with
      | nil =>
          cases hnode hp
      | node value left right =>
          cases branch <;> rfl

/-- Only the last tree that is put at a position stays. -/
theorem replace_replace :
  (t.replace p u).replace p u' = t.replace p u'
  := by
  induction p generalizing u u' with
  | nil =>
      rfl
  | cons branch p ih =>
      cases hp : t.subtree p with
      | nil =>
          rw [replace_of_subtree_eq_nil t u hp]
      | node value left right =>
          have habove := subtree_tail_ne_nil t (hp ▸ by simp : t.subtree p ≠ nil)
          rw [replace, replace, replace, hp, subtree_replace _ _ habove, ih]
          cases branch <;> rfl

/-- What is put below a position is seen from there. -/
theorem subtree_replace_append (branch : Bool) :
  (t.replace (q ++ branch :: p) u).subtree p = (t.subtree p).replace (q ++ [branch]) u
  := by
  have hsplit : q ++ branch :: p = (q ++ [branch]) ++ p := by
    simp
  rw [hsplit, replace_append]
  by_cases hp : t.subtree p = nil
  · have hnil : ∀ s : BinaryTree α, (nil : BinaryTree α).replace (q ++ [branch]) s = nil := by
      intro s
      rw [replace_append]
      rfl
    rw [hp, hnil, ← hp, replace_subtree]
  · rw [subtree_replace _ _ (subtree_tail_ne_nil t hp)]

/-- What is put at the left of a position does not change what is at its right. -/
theorem subtree_right_replace_left :
  (t.replace (q ++ true :: p) u).subtree (false :: p) = t.subtree (false :: p)
  := by
  have hright : t.subtree (false :: p) = (t.subtree p).child false := rfl
  rw [hright, subtree, subtree_replace_append, replace_append]
  cases t.subtree p <;> rfl

theorem replace_append_right (value : α) (left right : BinaryTree α) :
  (node value left right).replace (p ++ [false]) u = node value left (right.replace p u)
  := by
  rw [replace_append]
  rfl

/-- What is below a position does not matter when that is replaced. -/
theorem replace_replace_append :
  (t.replace (q ++ p) u).replace p u' = t.replace p u'
  := by
  rw [replace_append, replace_replace]

end

/-! ### Other values in a tree -/

section

variable {β : Type*} (f : α → β) (t u : BinaryTree α)

@[simp]
theorem map_eq_nil_iff :
  t.map f = nil ↔ t = nil
  := by
  cases t with
  | nil => simp [map]
  | node value left right => simp [map]

theorem child_map (branch : Bool) :
  (t.map f).child branch = (t.child branch).map f
  := by
  cases t with
  | nil => cases branch <;> rfl
  | node value left right => cases branch <;> rfl

theorem setChild_map (branch : Bool) :
  (t.map f).setChild branch (u.map f) = (t.setChild branch u).map f
  := by
  cases t with
  | nil => rfl
  | node value left right => cases branch <;> rfl

theorem subtree_map (p : Position) :
  (t.map f).subtree p = (t.subtree p).map f
  := by
  induction p with
  | nil =>
      rfl
  | cons branch p ih =>
      rw [subtree, ih, child_map, subtree]

theorem replace_map (p : Position) :
  (t.map f).replace p (u.map f) = (t.replace p u).map f
  := by
  induction p generalizing u with
  | nil =>
      rfl
  | cons branch p ih =>
      rw [replace, subtree_map, setChild_map, ih, replace]

end

/-! ### Spines -/

section

variable [DecidableEq α]

/-- The tree at the left of the first node on the spine that has the value. -/
def lookup (value : α) : BinaryTree α → Option (BinaryTree α)
  | nil => none
  | node value' left right => if value' = value then some left else lookup value right

/-- The tree at a value, which is `nil` when the value does not come up. -/
def under (value : α) (t : BinaryTree α) : BinaryTree α :=
  (t.lookup value).getD nil

/-- Put a tree at a value, which is appended to the spine when it does not come up. -/
def link : BinaryTree α → α → BinaryTree α → BinaryTree α
  | nil, value, u => node value u nil
  | node value' left right, value, u =>
      if value' = value then node value' u right else node value' left (right.link value u)

/-- Take the first node that has the value from the spine. -/
def unlink (value : α) : BinaryTree α → BinaryTree α
  | nil => nil
  | node value' left right =>
      if value' = value then right else node value' left (unlink value right)

/-- No value comes up twice on a spine. -/
def Distinct : BinaryTree α → Prop
  | nil => True
  | node value left right => right.lookup value = none ∧ left.Distinct ∧ right.Distinct

variable (value value' : α) (t u u' : BinaryTree α)

theorem lookup_link :
  (t.link value u).lookup value' = if value' = value then some u else t.lookup value'
  := by
  induction t with
  | nil =>
      simp [link, lookup, eq_comm]
  | node value'' left right _ ih =>
      simp only [link]
      split_ifs with h h' h'
      · simp [lookup, h, h']
      · have : value'' ≠ value' := by
          rw [h]
          apply Ne.symm h'
        simp [lookup, this]
      · rw [lookup, if_neg (h' ▸ h), ih, if_pos h']
      · rw [lookup, lookup, ih, if_neg h']

theorem link_ne_nil :
  t.link value u ≠ nil
  := by
  cases t with
  | nil =>
      simp [link]
  | node value' left right =>
      rw [link]
      split_ifs <;> simp

theorem link_under (h : t.lookup value ≠ none) :
  t.link value (t.under value) = t
  := by
  induction t with
  | nil =>
      cases h rfl
  | node value' left right _ ih =>
      simp only [lookup] at h
      simp only [link, under, lookup]
      split_ifs with heq
      · rfl
      · rw [if_neg heq] at h
        rw [← under, ih h]

theorem Distinct.under (h : t.Distinct) :
  (t.under value).Distinct
  := by
  induction t with
  | nil =>
      trivial
  | node value' left right _ ih =>
      simp only [BinaryTree.under, lookup]
      split_ifs
      · apply h.2.1
      · apply ih h.2.2

theorem Distinct.link (h : t.Distinct) (hu : u.Distinct) :
  (t.link value u).Distinct
  := by
  induction t with
  | nil =>
      use rfl, hu
  | node value' left right _ ih =>
      simp only [BinaryTree.link]
      split_ifs with heq
      · use h.1, hu, h.2.2
      · refine ⟨?_, h.2.1, ih h.2.2⟩
        rw [lookup_link, if_neg heq, h.1]

variable {t}

theorem Distinct.lookup_unlink (h : t.Distinct) :
  (t.unlink value).lookup value' = if value' = value then none else t.lookup value'
  := by
  induction t with
  | nil =>
      simp [unlink, lookup]
  | node value'' left right _ ih =>
      simp only [unlink]
      split_ifs with heq heq' heq'
      · rw [heq', ← heq, h.1]
      · have : value'' ≠ value' := by
          rw [heq]
          apply Ne.symm heq'
        simp [lookup, this]
      · rw [lookup, if_neg (heq' ▸ heq), ih h.2.2, if_pos heq']
      · rw [lookup, lookup, ih h.2.2, if_neg heq']

theorem Distinct.unlink (h : t.Distinct) :
  (t.unlink value).Distinct
  := by
  induction t with
  | nil =>
      trivial
  | node value' left right _ ih =>
      simp only [BinaryTree.unlink]
      split_ifs with heq
      · apply h.2.2
      · refine ⟨?_, h.2.1, ih h.2.2⟩
        rw [h.2.2.lookup_unlink, if_neg heq, h.1]

end

/-! ### Patterns -/

/-- The patterns of a tree: each has a value of the spine, followed by a pattern of the tree at that
value, unless there is none. -/
def patterns : BinaryTree α → Set (List α)
  | nil => ∅
  | node value left right =>
      {pattern | left = nil ∧ pattern = [value] ∨ ∃ rest ∈ left.patterns, pattern = value :: rest} ∪
        right.patterns

theorem ne_nil_of_mem_patterns {t : BinaryTree α} {pattern : List α} (h : pattern ∈ t.patterns) :
  pattern ≠ []
  := by
  induction t with
  | nil =>
      cases h
  | node value left right _ ih =>
      rcases h with (⟨_, rfl⟩ | ⟨rest, _, rfl⟩) | h
      · simp
      · simp
      · apply ih h

@[simp]
theorem nil_notMem_patterns (t : BinaryTree α) :
  [] ∉ t.patterns
  := by
  intro h
  cases ne_nil_of_mem_patterns h rfl

theorem exists_mem_patterns {t : BinaryTree α} (h : t ≠ nil) :
  ∃ pattern, pattern ∈ t.patterns
  := by
  induction t with
  | nil =>
      cases h rfl
  | node value left right ih _ =>
      cases hleft : left with
      | nil =>
          use [value]
          left
          left
          use rfl
      | node value' left' right' =>
          rw [hleft] at ih
          obtain ⟨rest, hrest⟩ := ih (by simp)
          use value :: rest
          left
          right
          use rest

theorem eq_nil_of_patterns {t : BinaryTree α} (h : ∀ pattern, pattern ∉ t.patterns) :
  t = nil
  := by
  by_contra hne
  obtain ⟨pattern, hpattern⟩ := exists_mem_patterns hne
  apply h pattern hpattern

section

variable [DecidableEq α] {t : BinaryTree α}

/-- The patterns that begin with a value come from the tree at that value. -/
theorem Distinct.cons_mem_patterns_iff (h : t.Distinct) (value : α) (rest : List α) :
  value :: rest ∈ t.patterns ↔
    ∃ u, t.lookup value = some u ∧ (u = nil ∧ rest = [] ∨ rest ∈ u.patterns)
  := by
  induction t with
  | nil =>
      constructor
      · intro h
        cases h
      · rintro ⟨u, hu, _⟩
        cases hu
  | node value' left right _ ih =>
      simp only [lookup, patterns, Set.mem_union, Set.mem_ofPred_eq, List.cons.injEq]
      rw [ih h.2.2]
      split_ifs with heq
      · subst heq
        rw [h.1]
        simp
      · simp [Ne.symm heq]

/-- The trees at the values of a spine are empty when the values alone are patterns. -/
theorem Distinct.singleton_mem_patterns_iff (h : t.Distinct) (value : α) :
  [value] ∈ t.patterns ↔ t.lookup value = some nil
  := by
  rw [h.cons_mem_patterns_iff]
  constructor
  · rintro ⟨u, hu, ⟨rfl, _⟩ | hrest⟩
    · apply hu
    · cases ne_nil_of_mem_patterns hrest rfl
  · intro hu
    use nil, hu
    left
    use rfl

/-- A value that comes up begins a pattern. -/
theorem Distinct.exists_cons_mem_patterns (h : t.Distinct) {value : α}
    (hlookup : t.lookup value ≠ none) :
  ∃ rest, value :: rest ∈ t.patterns
  := by
  obtain ⟨u, hu⟩ := Option.ne_none_iff_exists'.mp hlookup
  by_cases hnil : u = nil
  · use []
    rw [h.singleton_mem_patterns_iff, hu, hnil]
  · obtain ⟨rest, hrest⟩ := exists_mem_patterns hnil
    use rest
    rw [h.cons_mem_patterns_iff]
    use u, hu, Or.inr hrest

/-- A longer pattern that begins with a value is one of the tree at that value. -/
theorem Distinct.cons_mem_patterns_iff_under (h : t.Distinct) (value : α) {rest : List α}
    (hrest : rest ≠ []) :
  value :: rest ∈ t.patterns ↔ rest ∈ (t.under value).patterns
  := by
  rw [h.cons_mem_patterns_iff, BinaryTree.under]
  cases t.lookup value with
  | none =>
      simp [patterns]
  | some u =>
      simp [hrest]

/-- Add a pattern.  The ones that it is part of are cut off. -/
def insertPattern : List α → BinaryTree α → BinaryTree α
  | [], _ => nil
  | value :: rest, t => t.link value (insertPattern rest (t.under value))

/-- Add a pattern to a tree, and leave those that it is part of. -/
def extend : List α → BinaryTree α → BinaryTree α
  | [], t => t
  | value :: rest, t => t.link value (extend rest (t.under value))

/-- Remove a pattern, with the values on its way that are of no more use. -/
def removePattern : List α → BinaryTree α → BinaryTree α
  | [], _ => nil
  | value :: rest, t =>
      match removePattern rest (t.under value) with
      | nil => t.unlink value
      | u => t.link value u

/-- A pattern of the tree at a value, after that value, is a pattern of the tree. -/
theorem Distinct.cons_mem_of_mem_under (h : t.Distinct) {value : α} {rest : List α}
    (hrest : rest ∈ (t.under value).patterns) :
  value :: rest ∈ t.patterns
  := by
  rw [h.cons_mem_patterns_iff]
  rw [BinaryTree.under] at hrest
  cases hlookup : t.lookup value with
  | none =>
      rw [hlookup] at hrest
      cases hrest
  | some u =>
      rw [hlookup] at hrest
      use u, rfl
      right
      apply hrest

theorem Distinct.insertPattern (h : t.Distinct) (pattern : List α) :
  (t.insertPattern pattern).Distinct
  := by
  induction pattern generalizing t with
  | nil =>
      trivial
  | cons value rest ih =>
      apply h.link
      apply ih (h.under value)

/-- When a pattern is not part of another one, nothing is cut off. -/
theorem Distinct.extend_eq (h : t.Distinct) {pattern : List α}
    (hpattern : ∀ pattern' ∈ t.patterns, pattern <+: pattern' → pattern = pattern') :
  t.extend pattern = t.insertPattern pattern
  := by
  induction pattern generalizing t with
  | nil =>
      apply eq_nil_of_patterns
      intro pattern' hpattern'
      apply ne_nil_of_mem_patterns hpattern'
      rw [hpattern pattern' hpattern' List.nil_prefix]
  | cons value rest ih =>
      rw [extend, BinaryTree.insertPattern, ih (h.under value)]
      intro rest' hrest' hpre
      have := hpattern (value :: rest') (h.cons_mem_of_mem_under hrest')
        ((List.prefix_cons_inj value).mpr hpre)
      simpa using this

/-- Adding a pattern that has no other one as a part. -/
theorem Distinct.patterns_insertPattern (h : t.Distinct) {pattern : List α} (hne : pattern ≠ [])
    (hpattern : ∀ pattern' ∈ t.patterns, pattern' <+: pattern → pattern' = pattern)
    (pattern' : List α) :
  pattern' ∈ (t.insertPattern pattern).patterns ↔
    pattern' = pattern ∨ (pattern' ∈ t.patterns ∧ ¬ pattern <+: pattern')
  := by
  induction pattern generalizing t pattern' with
  | nil =>
      cases hne rfl
  | cons value rest ih =>
      cases pattern' with
      | nil =>
          simp
      | cons value' rest' =>
          have hdistinct := h.insertPattern (value :: rest)
          rw [hdistinct.cons_mem_patterns_iff, BinaryTree.insertPattern, lookup_link]
          split_ifs with heq
          · subst heq
            simp only [Option.some.injEq, exists_eq_left', List.cons.injEq, true_and,
              List.prefix_cons_inj]
            cases rest with
            | nil =>
                simp [BinaryTree.insertPattern, patterns]
            | cons value'' rest =>
                have hlink : ((t.under value').insertPattern (value'' :: rest)) ≠ nil := by
                  apply link_ne_nil
                have hunder : ∀ pattern ∈ (t.under value').patterns,
                    pattern <+: value'' :: rest → pattern = value'' :: rest := by
                  intro pattern hmem hpre
                  have := hpattern (value' :: pattern) (h.cons_mem_of_mem_under hmem)
                    ((List.prefix_cons_inj value').mpr hpre)
                  simpa using this
                rw [ih (h.under value') (by simp) hunder]
                simp only [hlink, false_and, false_or]
                apply or_congr_right
                apply and_congr_left
                intro hpre
                constructor
                · apply h.cons_mem_of_mem_under
                · rw [h.cons_mem_patterns_iff]
                  rintro ⟨u, hu, ⟨rfl, rfl⟩ | hrest'⟩
                  · -- The value alone is a part of the new pattern.
                    have := hpattern [value'] ((h.singleton_mem_patterns_iff value').mpr hu)
                      ((List.prefix_cons_inj value').mpr List.nil_prefix)
                    simp at this
                  · rw [BinaryTree.under, hu]
                    apply hrest'
          · rw [h.cons_mem_patterns_iff]
            simp [heq, Ne.symm heq]

/-- Go down to the tree at a sequence of values. -/
def underAll : List α → BinaryTree α → BinaryTree α
  | [], t => t
  | value :: rest, t => underAll rest (t.under value)

/-- Put a tree at a sequence of values. -/
def linkAll : BinaryTree α → List α → BinaryTree α → BinaryTree α
  | _, [], u => u
  | t, value :: rest, u => t.link value ((t.under value).linkAll rest u)

theorem underAll_append (t : BinaryTree α) (values : List α) (value : α) :
  t.underAll (values ++ [value]) = (t.underAll values).under value
  := by
  induction values generalizing t with
  | nil =>
      rfl
  | cons value' values ih =>
      apply ih

theorem linkAll_append (t u : BinaryTree α) (values : List α) (value : α) :
  t.linkAll (values ++ [value]) u = t.linkAll values ((t.underAll values).link value u)
  := by
  induction values generalizing t with
  | nil =>
      rfl
  | cons value' values ih =>
      rw [List.cons_append, linkAll, ih]
      rfl

/-- A value at the end of a pattern has nothing below it. -/
theorem Distinct.append_mem_patterns_iff (h : t.Distinct) (values : List α) (value : α) :
  values ++ [value] ∈ t.patterns ↔ (t.underAll values).lookup value = some nil
  := by
  induction values generalizing t with
  | nil =>
      apply h.singleton_mem_patterns_iff
  | cons value' values ih =>
      rw [List.cons_append, h.cons_mem_patterns_iff_under _ (by simp), ih (h.under value')]
      rfl

/-- To remove the value at the end of a pattern, take it from its spine, or remove what comes before
it when nothing is left of the spine. -/
theorem removePattern_append (t : BinaryTree α) (values : List α) (value : α) :
  t.removePattern (values ++ [value]) =
    if (t.underAll values).unlink value = nil ∧ values ≠ [] then
      t.removePattern values
    else
      t.linkAll values ((t.underAll values).unlink value)
  := by
  induction values generalizing t with
  | nil =>
      simp [BinaryTree.removePattern, linkAll, underAll]
  | cons value' values ih =>
      have hlink : ∀ u s : BinaryTree α, u ≠ nil → s.linkAll values u ≠ nil := by
        intro u s hu
        cases values with
        | nil =>
            apply hu
        | cons value'' values =>
            apply link_ne_nil
      rw [List.cons_append, BinaryTree.removePattern, ih, underAll]
      by_cases hnil : ((t.under value').underAll values).unlink value = nil
      · cases values with
        | nil =>
            simp only [underAll] at hnil
            simp [hnil, BinaryTree.removePattern, linkAll, underAll]
        | cons value'' values =>
            simp [hnil, BinaryTree.removePattern]
      · simp only [hnil, false_and, if_false]
        split
        · rename_i hempty
          cases hlink _ _ hnil hempty
        · rfl

theorem Distinct.removePattern (h : t.Distinct) (pattern : List α) :
  (t.removePattern pattern).Distinct
  := by
  induction pattern generalizing t with
  | nil =>
      trivial
  | cons value rest ih =>
      simp only [BinaryTree.removePattern]
      split
      · apply h.unlink
      · apply h.link
        apply ih (h.under value)

/-- Removing a pattern leaves the other ones. -/
theorem Distinct.patterns_removePattern (h : t.Distinct) {pattern : List α}
    (hpattern : pattern ∈ t.patterns) (pattern' : List α) :
  pattern' ∈ (t.removePattern pattern).patterns ↔ pattern' ∈ t.patterns ∧ pattern' ≠ pattern
  := by
  induction pattern generalizing t pattern' with
  | nil =>
      cases ne_nil_of_mem_patterns hpattern rfl
  | cons value rest ih =>
      cases pattern' with
      | nil =>
          simp
      | cons value' rest' =>
          obtain ⟨u, hu, hrest⟩ := (h.cons_mem_patterns_iff value rest).mp hpattern
          have hunder : t.under value = u := by
            rw [BinaryTree.under, hu]
            rfl
          have hdistinct : u.Distinct := by
            rw [← hunder]
            apply h.under
          -- What remains of the patterns of the tree at the value.
          have hremains : ∀ rest'', rest'' ∈ (u.removePattern rest).patterns ↔
              rest'' ∈ u.patterns ∧ rest'' ≠ rest := by
            intro rest''
            rcases hrest with ⟨rfl, rfl⟩ | hrest
            · simp [BinaryTree.removePattern, patterns]
            · apply ih hdistinct hrest
          rw [(h.removePattern (value :: rest)).cons_mem_patterns_iff,
            h.cons_mem_patterns_iff value' rest']
          simp only [BinaryTree.removePattern, hunder]
          split
          · rename_i hempty
            rw [h.lookup_unlink]
            split_ifs with heq
            · subst heq
              rw [hu]
              simp only [false_and, exists_false, Option.some.injEq, exists_eq_left', List.cons.injEq,
                true_and, ne_eq, false_iff, not_and, not_not]
              rintro (⟨rfl, rfl⟩ | hrest')
              · rcases hrest with ⟨_, rfl⟩ | hrest
                · rfl
                · cases hrest
              · by_contra hne
                have := (hremains rest').mpr ⟨hrest', hne⟩
                rw [hempty] at this
                cases this
            · simp [heq]
          · rename_i hnonempty
            rw [lookup_link]
            split_ifs with heq
            · subst heq
              rw [hu]
              simp only [Option.some.injEq, exists_eq_left']
              rw [hremains]
              have hne : u.removePattern rest ≠ nil := hnonempty
              have hne' : u ≠ nil := by
                rintro rfl
                obtain ⟨rest'', hrest''⟩ := exists_mem_patterns hne
                cases ((hremains rest'').mp hrest'').1
              simp [hne, hne']
            · simp [heq]

end

end BinaryTree
