import Fsfw.Library.Branches

/-!
# Linked trees

The nodes of a linked tree are objects in memory, with links to their children and to their parent.
A binary tree whose values are objects with their addresses says which nodes there are and how they
should be linked, and `Represents` says that the memory has them.

What is known of a part of the memory stays true when other parts are changed
(`Represents.congr`).  When the nodes of a subtree are changed, and the link to it, the memory
represents the tree in which that subtree is replaced (`Represents.replace`).  A memory is pruned
when links to children are taken from it, which cannot be undone by taking more of them
(`NodeMemory.Pruned.antisymm`).
-/

universe u

/-- An object at an address. -/
structure Cell (α : Type u) where
  address : ℕ
  value : α
  deriving DecidableEq, Repr

/-- A node with its links. -/
@[ext]
structure LinkedNode (α : Type u) where
  value : α
  left : Option ℕ
  right : Option ℕ
  parent : Option ℕ
  deriving DecidableEq, Repr

/-- The nodes at all addresses. -/
abbrev NodeMemory (α : Type u) :=
  ℕ → Option (LinkedNode α)

namespace LinkedNode

variable {α : Type u}

/-- The link to a child.  The left branch is `true`. -/
def child (n : LinkedNode α) (branch : Bool) : Option ℕ :=
  if branch then n.left else n.right

def setChild (n : LinkedNode α) (branch : Bool) (link : Option ℕ) : LinkedNode α :=
  if branch then { n with left := link } else { n with right := link }

@[simp]
theorem value_setChild (n : LinkedNode α) (branch : Bool) (link : Option ℕ) :
  (n.setChild branch link).value = n.value
  := by
  cases branch <;> rfl

@[simp]
theorem parent_setChild (n : LinkedNode α) (branch : Bool) (link : Option ℕ) :
  (n.setChild branch link).parent = n.parent
  := by
  cases branch <;> rfl

@[simp]
theorem child_setChild (n : LinkedNode α) (branch : Bool) (link : Option ℕ) :
  (n.setChild branch link).child branch = link
  := by
  cases branch <;> rfl

/-- A child is on the left branch if the left link is to it. -/
theorem child_of_link {n : LinkedNode α} {branch : Bool} {link : Option ℕ}
    (h : n.child branch = link) :
  n.child (n.left = link) = link
  := by
  by_cases hleft : n.left = link
  · rw [decide_eq_true hleft]
    exact hleft
  · rw [decide_eq_false hleft]
    cases branch with
    | true => exact absurd h hleft
    | false => exact h

end LinkedNode

/-! ### Links that are gone -/

/-- A node is another one without some of its links to children. -/
structure LinkedNode.Pruned {α : Type u} (n' n : LinkedNode α) : Prop where
  value_eq : n'.value = n.value
  parent_eq : n'.parent = n.parent
  child_eq : ∀ branch, n'.child branch = none ∨ n'.child branch = n.child branch

/-- The nodes are there, but some of their links to children may be gone. -/
def NodeMemory.Pruned {α : Type u} (h' h : NodeMemory α) : Prop :=
  ∀ a, Option.Rel LinkedNode.Pruned (h' a) (h a)

section

variable {α : Type u} {n n' n'' : LinkedNode α} {h h' h'' : NodeMemory α}

theorem LinkedNode.Pruned.refl (n : LinkedNode α) :
  n.Pruned n
  := ⟨rfl, rfl, fun _ => .inr rfl⟩

theorem LinkedNode.Pruned.trans (h : n''.Pruned n') (h' : n'.Pruned n) :
  n''.Pruned n
  := by
  refine ⟨h.value_eq.trans h'.value_eq, h.parent_eq.trans h'.parent_eq, ?_⟩
  intro branch
  rcases h.child_eq branch with hnone | heq
  · exact .inl hnone
  · rw [heq]
    exact h'.child_eq branch

theorem LinkedNode.Pruned.antisymm (h : n'.Pruned n) (h' : n.Pruned n') :
  n' = n
  := by
  have hchild : ∀ branch, n'.child branch = n.child branch := by
    intro branch
    rcases h.child_eq branch with hnone | heq
    · rcases h'.child_eq branch with hnone' | heq
      · rw [hnone, hnone']
      · exact heq.symm
    · exact heq
  exact LinkedNode.ext h.value_eq (hchild true) (hchild false) h.parent_eq

theorem LinkedNode.pruned_setChild (n : LinkedNode α) (branch : Bool) :
  (n.setChild branch none).Pruned n
  := by
  refine ⟨n.value_setChild branch none, n.parent_setChild branch none, ?_⟩
  intro branch'
  cases branch with
  | true =>
      cases branch' with
      | true => exact .inl rfl
      | false => exact .inr rfl
  | false =>
      cases branch' with
      | true => exact .inr rfl
      | false => exact .inl rfl

theorem NodeMemory.Pruned.refl (h : NodeMemory α) :
  h.Pruned h
  := by
  intro a
  cases h a with
  | none => exact .none
  | some n => exact .some (.refl n)

theorem NodeMemory.Pruned.trans (hp : h''.Pruned h') (hp' : h'.Pruned h) :
  h''.Pruned h
  := by
  intro a
  have ha := hp a
  have ha' := hp' a
  cases hh : h a with
  | none =>
      rw [hh] at ha'
      cases hh' : h' a with
      | none =>
          rwa [hh'] at ha
      | some n' =>
          rw [hh'] at ha'
          cases ha'
  | some n =>
      rw [hh] at ha'
      generalize h' a = o' at ha ha'
      generalize h'' a = o'' at ha
      cases ha' with
      | some hn' =>
          cases ha with
          | some hn'' => exact .some (hn''.trans hn')

theorem NodeMemory.Pruned.antisymm (hp : h'.Pruned h) (hp' : h.Pruned h') :
  h' = h
  := by
  funext a
  have ha := hp a
  have ha' := hp' a
  generalize h a = o at ha ha'
  generalize h' a = o' at ha ha'
  cases ha with
  | none =>
      rfl
  | some hn =>
      cases ha' with
      | some hn' => rw [hn.antisymm hn']

theorem NodeMemory.pruned_update {a : ℕ} (ha : h a = some n) (hn : n'.Pruned n) :
  NodeMemory.Pruned (Function.update h a (some n')) h
  := by
  intro b
  by_cases hb : b = a
  · subst hb
    rw [Function.update_self, ha]
    exact .some hn
  · rw [Function.update_of_ne hb]
    exact NodeMemory.Pruned.refl h b

end

namespace BinaryTree

variable {α : Type u}

/-! ### The values of a tree -/

/-- The values of a tree, each in front of those below it. -/
def entries : BinaryTree α → List α
  | nil => []
  | node value left right => value :: (left.entries ++ right.entries)

theorem length_entries (t : BinaryTree α) :
  t.entries.length = t.numNodes
  := by
  induction t with
  | nil =>
      rfl
  | node value left right ihleft ihright =>
      rw [entries, List.length_cons, List.length_append, ihleft, ihright, numNodes]

/-- There is something at the position, or it is below a node. -/
def Fits (t : BinaryTree α) (p : Position) : Prop :=
  p = [] ∨ t.subtree p.tail ≠ nil

theorem fits_of_subtree {t : BinaryTree α} {p : Position} (h : t.subtree p ≠ nil) :
  t.Fits p
  := subtree_tail_ne_nil t h

/-- The values of a tree in which a subtree is replaced. -/
theorem entries_replace_perm {t : BinaryTree α} {p : Position} (h : t.Fits p) (u : BinaryTree α) :
  (t.replace p u).entries.Perm (u.entries ++ (t.replace p nil).entries)
  := by
  induction p generalizing u with
  | nil =>
      simp [replace, entries]
  | cons branch p ih =>
      have hnode : t.subtree p ≠ nil := h.resolve_left (by simp)
      have ih := ih (fits_of_subtree hnode)
      rw [replace, replace]
      apply (ih _).trans
      apply List.Perm.trans _ ((ih _).symm.append_left u.entries)
      rw [← List.append_assoc]
      apply List.Perm.append_right
      cases hp : t.subtree p with
      | nil =>
          exact absurd hp hnode
      | node value left right =>
          cases branch with
          | true =>
              simp only [setChild, entries, if_true, List.nil_append]
              apply List.perm_middle.symm
          | false =>
              simp only [setChild, entries, Bool.false_eq_true, if_false, List.append_nil]
              rw [← List.cons_append]
              apply List.perm_append_comm

/-- The values of a tree are those of a subtree and the other ones. -/
theorem entries_perm {t : BinaryTree α} {p : Position} (h : t.Fits p) :
  t.entries.Perm ((t.subtree p).entries ++ (t.replace p nil).entries)
  := by
  have hperm := entries_replace_perm h (t.subtree p)
  rwa [replace_subtree] at hperm

/-- The order of the values is kept when a subtree is replaced by a part of it. -/
theorem entries_replace_sublist {t u : BinaryTree α} {p : Position}
    (h : u.entries.Sublist (t.subtree p).entries) :
  (t.replace p u).entries.Sublist t.entries
  := by
  induction p generalizing u with
  | nil =>
      exact h
  | cons branch p ih =>
      rw [replace]
      apply ih
      rw [subtree] at h
      cases hp : t.subtree p with
      | nil =>
          exact List.Sublist.refl _
      | node value left right =>
          rw [hp] at h
          cases branch with
          | true => exact (h.append_right _).cons_cons _
          | false => exact (h.append_left _).cons_cons _

theorem entries_subtree_subset {t : BinaryTree α} (p : Position) :
  (t.subtree p).entries ⊆ t.entries
  := by
  by_cases h : t.subtree p = nil
  · rw [h]
    apply List.nil_subset
  · intro value hmem
    exact (entries_perm (fits_of_subtree h)).mem_iff.mpr (List.mem_append_left _ hmem)

/-! ### Trees of objects -/

variable {t u : BinaryTree (Cell α)} {p : Position} {h h' : NodeMemory α} {parent : Option ℕ}

/-- The address of the root. -/
def root : BinaryTree (Cell α) → Option ℕ
  | nil => none
  | node cell _ _ => some cell.address

/-- The addresses of the nodes. -/
def addresses (t : BinaryTree (Cell α)) : List ℕ :=
  t.entries.map Cell.address

/-- The address of the node above a position, or the one above the tree. -/
def above (t : BinaryTree (Cell α)) (parent : Option ℕ) : Position → Option ℕ
  | [] => parent
  | _ :: p => (t.subtree p).root

theorem root_eq_none_iff :
  t.root = none ↔ t = nil
  := by
  cases t with
  | nil => simp [root]
  | node cell left right => simp [root]

@[simp]
theorem addresses_nil :
  (nil : BinaryTree (Cell α)).addresses = []
  := rfl

theorem addresses_node (cell : Cell α) (left right : BinaryTree (Cell α)) :
  (node cell left right).addresses = cell.address :: (left.addresses ++ right.addresses)
  := by
  simp only [addresses, entries, List.map_cons, List.map_append]

theorem root_replace (hp : p ≠ []) (u : BinaryTree (Cell α)) :
  (t.replace p u).root = t.root
  := by
  obtain ⟨q, branch, rfl⟩ := List.eq_nil_or_concat p |>.resolve_left hp
  rw [List.concat_eq_append, replace_append]
  cases t with
  | nil => rfl
  | node cell left right => cases branch <;> rfl

theorem mem_addresses_of_root {a : ℕ} (hroot : t.root = some a) :
  a ∈ t.addresses
  := by
  cases t with
  | nil =>
      cases hroot
  | node cell left right =>
      cases hroot
      rw [addresses_node]
      exact List.mem_cons_self

theorem addresses_perm (hfits : t.Fits p) :
  t.addresses.Perm ((t.subtree p).addresses ++ (t.replace p nil).addresses)
  := by
  rw [addresses, addresses, addresses, ← List.map_append]
  exact (entries_perm hfits).map _

theorem addresses_subtree_subset (p : Position) :
  (t.subtree p).addresses ⊆ t.addresses
  := List.map_subset _ (entries_subtree_subset p)

theorem Nodup.subtree (hnodup : t.addresses.Nodup) (p : Position) :
  (t.subtree p).addresses.Nodup
  := by
  by_cases hp : t.subtree p = nil
  · rw [hp]
    apply List.nodup_nil
  · exact ((addresses_perm (fits_of_subtree hp)).nodup_iff.mp hnodup).of_append_left

/-- The addresses at a node and on its branches are different. -/
theorem nodup_node_iff {cell : Cell α} {left right : BinaryTree (Cell α)} :
  (node cell left right).addresses.Nodup ↔
    (cell.address ∉ left.addresses ∧ cell.address ∉ right.addresses) ∧
    left.addresses.Nodup ∧ right.addresses.Nodup ∧
    ∀ a ∈ left.addresses, a ∉ right.addresses
  := by
  rw [addresses_node, List.nodup_cons, List.mem_append, not_or, List.nodup_append]
  simp only [ne_eq]
  constructor
  · rintro ⟨hcell, hleft, hright, hapart⟩
    exact ⟨hcell, hleft, hright, fun a ha ha' => hapart a ha a ha' rfl⟩
  · rintro ⟨hcell, hleft, hright, hapart⟩
    refine ⟨hcell, hleft, hright, ?_⟩
    rintro a ha b hb rfl
    exact hapart a ha hb

/-- The root is not below another node. -/
theorem root_ne_of_mem_subtree (hnodup : t.addresses.Nodup) (hp : p ≠ []) {a : ℕ}
    (ha : a ∈ (t.subtree p).addresses) :
  t.root ≠ some a
  := by
  obtain ⟨q, branch, rfl⟩ := List.eq_nil_or_concat p |>.resolve_left hp
  rw [List.concat_eq_append, subtree_append] at ha
  have ha := addresses_subtree_subset q ha
  cases t with
  | nil =>
      exact (Option.some_ne_none a).symm
  | node cell left right =>
      obtain ⟨⟨hleft, hright⟩, -⟩ := nodup_node_iff.mp hnodup
      rintro ⟨⟩
      cases branch with
      | true => exact hleft ha
      | false => exact hright ha

/-! ### What the memory has -/

/-- The memory has the nodes of a tree, whose root has the given parent. -/
def Represents (h : NodeMemory α) : Option ℕ → BinaryTree (Cell α) → Prop
  | _, nil => True
  | parent, node cell left right =>
      h cell.address = some ⟨cell.value, left.root, right.root, parent⟩ ∧
      Represents h (some cell.address) left ∧ Represents h (some cell.address) right

theorem Represents.congr (ht : Represents h parent t) (heq : ∀ a ∈ t.addresses, h' a = h a) :
  Represents h' parent t
  := by
  induction t generalizing parent with
  | nil =>
      trivial
  | node cell left right ihleft ihright =>
      rw [addresses_node] at heq
      obtain ⟨hcell, hleft, hright⟩ := ht
      refine ⟨?_, ?_, ?_⟩
      · rw [heq _ List.mem_cons_self, hcell]
      · apply ihleft hleft
        intro a ha
        exact heq a (List.mem_cons_of_mem _ (List.mem_append_left _ ha))
      · apply ihright hright
        intro a ha
        exact heq a (List.mem_cons_of_mem _ (List.mem_append_right _ ha))

/-- The root is given another parent. -/
theorem Represents.reparent {cell : Cell α} {left right : BinaryTree (Cell α)}
    {parent' : Option ℕ} (ht : Represents h parent (node cell left right))
    (hcell : h' cell.address = some ⟨cell.value, left.root, right.root, parent'⟩)
    (heq : ∀ a ∈ (node cell left right).addresses, a ≠ cell.address → h' a = h a)
    (hnodup : (node cell left right).addresses.Nodup) :
  Represents h' parent' (node cell left right)
  := by
  obtain ⟨⟨hleft, hright⟩, -⟩ := nodup_node_iff.mp hnodup
  rw [addresses_node] at heq
  refine ⟨hcell, ht.2.1.congr ?_, ht.2.2.congr ?_⟩
  · intro a ha
    apply heq a (List.mem_cons_of_mem _ (List.mem_append_left _ ha))
    rintro rfl
    exact hleft ha
  · intro a ha
    apply heq a (List.mem_cons_of_mem _ (List.mem_append_right _ ha))
    rintro rfl
    exact hright ha

theorem Represents.subtree (ht : Represents h parent t) (p : Position) :
  Represents h (t.above parent p) (t.subtree p)
  := by
  induction p with
  | nil =>
      exact ht
  | cons branch p ih =>
      rw [above, BinaryTree.subtree]
      cases hp : t.subtree p with
      | nil =>
          cases branch <;> trivial
      | node cell left right =>
          rw [hp] at ih
          cases branch with
          | true => exact ih.2.1
          | false => exact ih.2.2

/-- The node at a position. -/
theorem Represents.node_at (ht : Represents h parent t) {cell : Cell α}
    {left right : BinaryTree (Cell α)} (hp : t.subtree p = node cell left right) :
  h cell.address = some ⟨cell.value, left.root, right.root, t.above parent p⟩
  := by
  have hsub := ht.subtree p
  rw [hp] at hsub
  exact hsub.1

/-- A subtree may be replaced by another one with the same root, as long as nothing else is
changed. -/
theorem Represents.replace_of_root (ht : Represents h parent t) (hnodup : t.addresses.Nodup)
    (hroot : (t.subtree p).root = u.root)
    (heq : ∀ a ∈ t.addresses, a ∉ (t.subtree p).addresses → h' a = h a)
    (hu : Represents h' (t.above parent p) u) :
  Represents h' parent (t.replace p u)
  := by
  induction p generalizing u with
  | nil =>
      exact hu
  | cons branch p ih =>
      rw [BinaryTree.replace]
      have hsub := Nodup.subtree hnodup p
      have hat := ht.subtree p
      have hsubset := addresses_subtree_subset (t := t) p
      rw [above] at hu
      rw [BinaryTree.subtree] at hroot heq
      cases hp : t.subtree p with
      | nil =>
          rw [setChild, ← hp, replace_subtree]
          apply ht.congr
          intro a ha
          apply heq a ha
          rw [hp]
          cases branch <;> exact List.not_mem_nil
      | node cell left right =>
          rw [hp] at hroot heq hu hat hsub hsubset
          rw [hp] at ih
          obtain ⟨⟨hleft, hright⟩, -, -, hapart⟩ := nodup_node_iff.mp hsub
          rw [addresses_node] at hsubset
          have hcell := hsubset List.mem_cons_self
          have hother : ∀ a ∈ t.addresses, a ∉ (node cell left right).addresses → h' a = h a := by
            intro a ha hnot
            rw [addresses_node, List.mem_cons, List.mem_append, not_or, not_or] at hnot
            apply heq a ha
            cases branch with
            | true => exact hnot.2.1
            | false => exact hnot.2.2
          cases branch with
          | true =>
              simp only [child, if_true] at hroot heq
              simp only [setChild, if_true]
              apply ih (u := node cell u right) rfl hother
              refine ⟨?_, hu, hat.2.2.congr ?_⟩
              · rw [heq _ hcell hleft, hat.1, ← hroot]
                rfl
              · intro a ha
                apply heq a (hsubset (List.mem_cons_of_mem _ (List.mem_append_right _ ha)))
                intro ha'
                exact hapart a ha' ha
          | false =>
              simp only [child, Bool.false_eq_true, if_false] at hroot heq
              simp only [setChild, Bool.false_eq_true, if_false]
              apply ih (u := node cell left u) rfl hother
              refine ⟨?_, hat.2.1.congr ?_, hu⟩
              · rw [heq _ hcell hright, hat.1, ← hroot]
                rfl
              · intro a ha
                apply heq a (hsubset (List.mem_cons_of_mem _ (List.mem_append_left _ ha)))
                exact hapart a ha

/-- A subtree is replaced by linking the node above it to another one. -/
theorem Represents.replace (ht : Represents h parent t) (hnodup : t.addresses.Nodup)
    {cell : Cell α} {left right : BinaryTree (Cell α)} {branch : Bool}
    (hp : t.subtree p = node cell left right)
    (hcell : h' cell.address = (h cell.address).map (·.setChild branch u.root))
    (heq : ∀ a ∈ t.addresses, a ≠ cell.address → a ∉ (t.subtree (branch :: p)).addresses →
      h' a = h a)
    (hu : Represents h' (some cell.address) u) :
  Represents h' parent (t.replace (branch :: p) u)
  := by
  have hat := ht.subtree p
  have hsub := Nodup.subtree hnodup p
  have hsubset := addresses_subtree_subset (t := t) p
  rw [hp] at hat hsub hsubset
  obtain ⟨⟨hleft, hright⟩, -, -, hapart⟩ := nodup_node_iff.mp hsub
  rw [addresses_node] at hsubset
  rw [BinaryTree.subtree, hp] at heq
  rw [BinaryTree.replace]
  rw [hat.1] at hcell
  apply ht.replace_of_root hnodup
  · rw [hp]
    cases branch <;> rfl
  · intro a ha hnot
    rw [hp, addresses_node, List.mem_cons, List.mem_append, not_or, not_or] at hnot
    apply heq a ha hnot.1
    cases branch with
    | true => exact hnot.2.1
    | false => exact hnot.2.2
  · rw [hp]
    cases branch with
    | true =>
        refine ⟨hcell, hu, hat.2.2.congr ?_⟩
        intro a ha
        apply heq a (hsubset (List.mem_cons_of_mem _ (List.mem_append_right _ ha)))
        · rintro rfl
          exact hright ha
        · intro ha'
          exact hapart a ha' ha
    | false =>
        refine ⟨hcell, hat.2.1.congr ?_, hu⟩
        intro a ha
        apply heq a (hsubset (List.mem_cons_of_mem _ (List.mem_append_left _ ha)))
        · rintro rfl
          exact hleft ha
        · exact hapart a ha

end BinaryTree
