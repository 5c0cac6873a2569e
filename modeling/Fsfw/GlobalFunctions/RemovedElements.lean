import Fsfw.GlobalFunctions.MatchTreeElements

/-!
# Removed elements

An element of a match tree that is removed should take with it what is on its AND branch, and what
is on its OR branch should come to its place.  When it was the only element on the AND branch of
another one, that one is removed in the same way.

`removalPosition` is the position of the last element that is removed.  What is on its OR branch comes
to its place, it is cleaned up with all that is on its AND branch, and nothing else changes
(`removeElementAndReconnectChildren_exact`).
-/

open BinaryTree MatchTree

namespace MatchTreeObject

variable {β κ : Type}

/-! ### Positions -/

section

variable {α : Type} [DecidableEq α] {t : BinaryTree α}

/-- Go up from an element as long as it is the only one on an AND branch. -/
def removalPosition (t : BinaryTree α) : Position → Position
  | [] => []
  | branch :: above =>
      if branch = AND ∧ t.subtree (OR :: branch :: above) = nil then
        removalPosition t above
      else
        branch :: above

/-- The tree without the elements that are removed. -/
def spliced (t : BinaryTree α) (position : Position) : BinaryTree α :=
  t.replace (removalPosition t position) (t.subtree (OR :: removalPosition t position))

/-- The elements that are removed. -/
def removed (t : BinaryTree α) (position : Position) : List α :=
  match t.subtree (removalPosition t position) with
  | nil => []
  | node value left _ => value :: left.entries

theorem removeElementAndReconnectChildren_eq_spliced (t : BinaryTree α)
    (position : Position) :
  MatchTree.removeElementAndReconnectChildren t position = spliced t position
  := by
  induction position with
  | nil =>
      rw [removeElementAndReconnectChildren_eq, if_neg (by simp [MatchTree.isOnAndBranch, up])]
      rfl
  | cons branch above ih =>
      have hbranch : MatchTree.isOnAndBranch (branch :: above) = true ↔ branch = AND := by
        simp [MatchTree.isOnAndBranch, BinaryTree.up]
      rw [removeElementAndReconnectChildren_eq, spliced, removalPosition]
      by_cases h : branch = AND ∧ t.subtree (OR :: branch :: above) = nil
      · rw [if_pos h, if_pos ⟨h.2, hbranch.mpr h.1⟩]
        exact ih
      · rw [if_neg h, if_neg fun h' => h ⟨hbranch.mp h'.2, h'.1⟩]

theorem removalPosition_map {γ : Type} [DecidableEq γ] (f : α → γ) (t : BinaryTree α)
    (position : Position) :
  removalPosition (t.map f) position = removalPosition t position
  := by
  induction position with
  | nil =>
      rfl
  | cons branch above ih =>
      rw [removalPosition, removalPosition, ih, subtree_map]
      simp only [map_eq_nil_iff]

/-- The values do not matter for what is removed. -/
theorem removeElementAndReconnectChildren_map {γ : Type} [DecidableEq γ] (f : α → γ)
    (t : BinaryTree α) (position : Position) :
  MatchTree.removeElementAndReconnectChildren (t.map f) position = (spliced t position).map f
  := by
  rw [removeElementAndReconnectChildren_eq_spliced, spliced, removalPosition_map, subtree_map,
    replace_map, spliced]

/-- There is an element at the position of the last one that is removed. -/
theorem subtree_removalPosition {position : Position} (h : t.subtree position ≠ nil) :
  t.subtree (removalPosition t position) ≠ nil
  := by
  induction position with
  | nil =>
      exact h
  | cons branch above ih =>
      rw [removalPosition]
      split_ifs
      · exact ih ((subtree_tail_ne_nil t h).resolve_left (List.cons_ne_nil _ _))
      · exact h

/-- What remains and what is removed. -/
theorem entries_perm_removed {position : Position} (h : t.subtree position ≠ nil) :
  t.entries.Perm (removed t position ++ (spliced t position).entries)
  := by
  have htop := subtree_removalPosition h
  have hperm := entries_perm (fits_of_subtree htop)
  have hreplace := entries_replace_perm (fits_of_subtree htop)
    (t.subtree (OR :: removalPosition t position))
  rw [spliced, removed]
  apply hperm.trans
  apply List.Perm.trans _ (hreplace.symm.append_left _)
  rw [← List.append_assoc]
  apply List.Perm.append_right
  rw [subtree]
  cases t.subtree (removalPosition t position) with
  | nil => exact .refl _
  | node value left right => exact .refl _

/-- What remains keeps its order. -/
theorem entries_spliced_sublist (t : BinaryTree α) (position : Position) :
  (spliced t position).entries.Sublist t.entries
  := by
  apply entries_replace_sublist
  rw [subtree]
  cases t.subtree (removalPosition t position) with
  | nil => exact .refl _
  | node value left right => exact (List.sublist_append_right _ _).cons _

/-- What remains keeps what is on its branches, but for the way to what is removed. -/
theorem subtree_spliced {position : Position} (h : t.subtree position ≠ nil) :
  (∀ q, (spliced t position).subtree (q ++ removalPosition t position)
    = t.subtree (q ++ OR :: removalPosition t position)) ∧
    ∀ q branch above, removalPosition t position = q ++ branch :: above →
      (spliced t position).subtree above = (t.subtree above).setChild branch
        ((t.subtree (branch :: above)).replace q (t.subtree (OR :: removalPosition t position)))
  := by
  have htop := fits_of_subtree (subtree_removalPosition h)
  constructor
  · intro q
    rw [spliced, subtree_append, subtree_replace _ _ htop, subtree_append t]
  · intro q branch above heq
    rw [spliced, heq, subtree_replace_append, replace_append]
    rfl

/-- Only AND branches lead from the last element that is removed to the first one. -/
theorem removalPosition_append (t : BinaryTree α) (position : Position) :
  ∃ k, position = List.replicate k AND ++ removalPosition t position
  := by
  induction position with
  | nil =>
      use 0
      rfl
  | cons branch above ih =>
      rw [removalPosition]
      split_ifs with h
      · obtain ⟨k, hk⟩ := ih
        use k + 1
        rw [List.replicate_succ, List.cons_append, ← hk, h.1]
      · use 0
        rfl

/-- What is on an AND branch below does not matter for the position. -/
theorem removalPosition_replace (t u : BinaryTree α) (s position : Position) :
  removalPosition (t.replace (s ++ AND :: position) u) position = removalPosition t position
  := by
  induction position generalizing s with
  | nil =>
      rfl
  | cons branch above ih =>
      rw [removalPosition, removalPosition, subtree_right_replace_left]
      by_cases hbranch : branch = AND
      · subst hbranch
        have hsplit : s ++ AND :: AND :: above = (s ++ [AND]) ++ AND :: above := by
          rw [List.append_assoc]
          rfl
        rw [hsplit, ih]
      · simp only [hbranch, false_and, if_false]

/-- What is removed, when the AND branch of an element on an AND branch was removed before. -/
theorem removed_perm {position : Position} (h : t.subtree (AND :: position) ≠ nil) :
  (removed t position).Perm ((t.subtree (AND :: AND :: position)).entries ++
    removed (t.replace (AND :: AND :: position) nil) position)
  := by
  obtain ⟨k, hk⟩ := removalPosition_append t position
  have hnode := (subtree_tail_ne_nil t h).resolve_left (List.cons_ne_nil _ _)
  -- The positions below the last element that is removed.
  have hsplit : AND :: position = (List.replicate k AND ++ [AND]) ++
      removalPosition t position := by
    rw [← List.replicate_succ']
    conv_lhs => rw [hk]
    rfl
  have hbelow : AND :: AND :: position = (List.replicate (k + 1) AND ++ [AND]) ++
      removalPosition t position := by
    rw [hsplit, ← List.replicate_succ', ← List.replicate_succ']
    rfl
  have hat : (t.replace (AND :: AND :: position) nil).subtree (removalPosition t position) =
      (t.subtree (removalPosition t position)).replace (List.replicate (k + 1) AND ++ [AND]) nil := by
    rw [hbelow, List.append_assoc]
    apply subtree_replace_append
  have hreplace : removalPosition (t.replace (AND :: AND :: position) nil) position =
      removalPosition t position :=
    removalPosition_replace t nil [AND] position
  rw [hsplit, subtree_append] at h
  rw [removed, removed, hreplace, hat, hbelow, subtree_append]
  cases htop : t.subtree (removalPosition t position) with
  | nil =>
      exact absurd htop (subtree_removalPosition hnode)
  | node value left right =>
      rw [htop, subtree_append] at h
      have hfits : left.Fits (List.replicate (k + 1) AND) := .inr h
      rw [subtree_append, replace_append]
      exact ((entries_perm hfits).cons value).trans List.perm_middle.symm

end

/-! ### Steps of the removal -/

section

variable {cls : MatchTreeClass} {B : PlacementBackend κ} {laws : B.Reliable}
  {S S₁ S₂ : MatchTreeObject β κ} {t : BinaryTree (Cell (Cell β))} {position : Position}
  {element : Cell (Cell β)} {l r : BinaryTree (Cell (Cell β))} {fuel : ℕ}

/-- The memory has a tree whose elements can be cleaned up. -/
structure WellFormed (cls : MatchTreeClass) (laws : B.Reliable) (S : MatchTreeObject β κ)
    (t : BinaryTree (Cell (Cell β))) : Prop where
  rootNode_eq : S.rootNode = t.root
  represents : Represents S.node none t
  nodup : t.addresses.Nodup
  owned : Owned cls (laws.occupied S.pool) t.entries

theorem WellFormed.mem (hposition : t.subtree position = node element l r) :
  element.address ∈ t.addresses
  := by
  apply addresses_subtree_subset position
  rw [hposition, addresses_node]
  exact List.mem_cons_self

/-- The node above a position is linked to what is there. -/
theorem WellFormed.node_above (h : WellFormed cls laws S t) {branch : Bool} {above : Position}
    (hposition : t.subtree (branch :: above) = node element l r) :
  ∃ parent l' r', t.subtree above = node parent l' r' ∧ (node parent l' r').child branch =
    node element l r ∧ parent.address ∉ (node element l r).addresses ∧
    S.node parent.address = some ⟨parent.value, l'.root, r'.root, t.above none above⟩ ∧
    (branch = false → l'.root ≠ some element.address)
  := by
  rw [subtree] at hposition
  cases habove : t.subtree above with
  | nil =>
      rw [habove] at hposition
      cases branch <;> cases hposition
  | node parent l' r' =>
      rw [habove] at hposition
      have hnodup := Nodup.subtree h.nodup above
      rw [habove] at hnodup
      obtain ⟨⟨hleft, hright⟩, -, -, hapart⟩ := nodup_node_iff.mp hnodup
      have hmem : element.address ∈ (node element l r).addresses := by
        rw [addresses_node]
        exact List.mem_cons_self
      refine ⟨parent, l', r', rfl, hposition, ?_, h.represents.node_at habove, ?_⟩
      · rw [← hposition]
        cases branch with
        | true => exact hleft
        | false => exact hright
      · rintro rfl hroot
        rw [← hposition] at hmem
        exact hapart _ (mem_addresses_of_root hroot) hmem

theorem isOnAndBranch_cons (branch : Bool) (above : Position) :
  MatchTree.isOnAndBranch (branch :: above) = branch
  := by
  cases branch <;> simp [MatchTree.isOnAndBranch, BinaryTree.up]

theorem WellFormed.isOnAndBranch_eq (h : WellFormed cls laws S t)
    (hposition : t.subtree position = node element l r) :
  S.isOnAndBranch (some element.address) = some (MatchTree.isOnAndBranch position)
  := by
  have hnode := h.represents.node_at hposition
  cases position with
  | nil =>
      simp [isOnAndBranch, ExplicitNodeIterator.up, hnode, BinaryTree.above,
        MatchTree.isOnAndBranch, BinaryTree.up]
  | cons branch above =>
      obtain ⟨parent, l', r', habove, hchild, -, hparent, hleft⟩ := h.node_above hposition
      have hroot : (t.subtree above).root = some parent.address := by
        rw [habove]
        rfl
      have hbranch : decide (l'.root = some element.address) = branch := by
        cases branch with
        | true =>
            have hl : l' = node element l r := hchild
            rw [hl]
            exact decide_eq_true rfl
        | false =>
            exact decide_eq_false (hleft rfl)
      simp [isOnAndBranch, ExplicitNodeIterator.up, ExplicitNodeIterator.left, hnode,
        BinaryTree.above, hroot, hparent, hbranch, isOnAndBranch_cons]

/-- What is on the AND branch of an element is removed. -/
theorem WellFormed.removeBelow (h : WellFormed cls laws S t)
    (hposition : t.subtree position = node element l r) (hfuel : t.numNodes ≤ fuel) :
  ∃ S', removeBelow cls B fuel l.root S = some (.ok, S') ∧
    WellFormed cls laws S' (t.replace (AND :: position) nil) ∧
    CleansUp cls laws S S' l.entries ∧
    ∀ a, a ∉ t.addresses → S'.node a = S.node a
  := by
  have hnode := h.represents.node_at hposition
  have hsub := h.represents.subtree position
  have hnodup := Nodup.subtree h.nodup position
  have hmem := WellFormed.mem hposition
  have hl : t.subtree (AND :: position) = l := by
    rw [subtree, hposition]
    rfl
  rw [hposition] at hsub hnodup
  obtain ⟨⟨hnotMem, -⟩, hnodupLeft, -⟩ := nodup_node_iff.mp hnodup
  have hfits : t.Fits (AND :: position) := .inr (by rw [List.tail_cons, hposition]; simp)
  have hperm := entries_perm hfits
  have haddresses := addresses_perm hfits
  rw [hl] at hperm haddresses
  have hsize : l.numNodes ≤ fuel := by
    have hlength := hperm.length_eq
    rw [List.length_append, length_entries, length_entries] at hlength
    omega
  have hhangs : HangsAt cls laws S element.address _ true l :=
    { node_eq := hnode
      child_eq := rfl
      left_eq := Bool.noConfusion
      represents := hsub.2.1
      nodup := hnodupLeft
      notMem := hnotMem
      rootNode_ne := fun a ha => h.rootNode_eq ▸
        root_ne_of_mem_subtree h.nodup (List.cons_ne_nil AND position) (hl.symm ▸ ha)
      owned := (h.owned.perm hperm).left }
  obtain ⟨S', hremove, hcleans, hroot, hlink, hother⟩ := removesBelow cls laws l hsize hhangs
  refine ⟨S', hremove, ?_, hcleans, ?_⟩
  · constructor
    · rw [hroot, h.rootNode_eq, root_replace (List.cons_ne_nil _ _)]
    · apply h.represents.replace h.nodup hposition
      · rw [hlink, hnode]
        rfl
      · intro a _ hne hnot
        rw [hl] at hnot
        exact hother a hnot hne
      · trivial
    · exact (haddresses.nodup_iff.mp h.nodup).of_append_right
    · exact hcleans.owned (h.owned.perm hperm)
  · intro a ha
    apply hother a
    · intro hal
      exact ha (haddresses.mem_iff.mpr (List.mem_append_left _ hal))
    · rintro rfl
      exact ha hmem

/-- An element without others on its AND branch is cleaned up, after what is on its OR branch has
come to its place. -/
theorem WellFormed.cleanUp (tree : LinkedTree (Cell β)) {n : BinaryNode (Cell β)}
    (h : WellFormed cls laws S t) (hposition : t.subtree position = node element nil r)
    (hroot : tree.rootNode = (t.replace position r).root)
    (hrep : Represents tree.node none (t.replace position r))
    (hnode : tree.node element.address = some n) (hvalue : n.value = element.value)
    (hother : ∀ a, a ∉ t.addresses → tree.node a = S.node a) :
  ∃ S', cleanUpElement cls B (some element.address) { S with toLinkedTree := tree }
      = some (.ok, S') ∧
    WellFormed cls laws S' (t.replace position r) ∧ CleansUp cls laws S S' [element] ∧
    ∀ a, a ∉ t.addresses → S'.node a = S.node a
  := by
  have hfits : t.Fits position := fits_of_subtree (by rw [hposition]; simp)
  have hperm : t.entries.Perm ([element] ++ (t.replace position r).entries) := by
    apply (entries_perm hfits).trans
    rw [hposition]
    exact ((entries_replace_perm hfits r).symm.cons element)
  have haddresses : t.addresses.Perm (element.address :: (t.replace position r).addresses) :=
    hperm.map Cell.address
  have hnodup := haddresses.nodup_iff.mp h.nodup
  have howned := h.owned.perm hperm
  obtain ⟨S', hcleanUp, hcleans, hroot', hother'⟩ :=
    cleanUpElement_spec (S := { S with toLinkedTree := tree }) cls laws hnode hvalue howned.left
  have hcleans : CleansUp cls laws S S' [element] := ⟨hcleans.cleaned, hcleans.occupied⟩
  refine ⟨S', hcleanUp, ?_, hcleans, ?_⟩
  · constructor
    · rw [hroot', hroot]
    · apply hrep.congr
      intro a ha
      apply hother'
      rintro rfl
      exact (List.nodup_cons.mp hnodup).1 ha
    · exact (List.nodup_cons.mp hnodup).2
    · exact hcleans.owned howned
  · intro a ha
    rw [hother' a, hother a ha]
    rintro rfl
    exact ha (WellFormed.mem hposition)

/-- What is on the OR branch of an element comes to its place. -/
theorem WellFormed.reconnect (h : WellFormed cls laws S t)
    (hposition : t.subtree position = node element nil r) (hr : r ≠ nil) :
  ∃ newNode tree S', r.root = some newNode ∧
    S.toLinkedTree.insert (MatchTree.isOnAndBranch position) (t.above none position) newNode
      = some tree ∧
    cleanUpElement cls B (some element.address) { S with toLinkedTree := tree } = some (.ok, S') ∧
    WellFormed cls laws S' (t.replace position r) ∧ CleansUp cls laws S S' [element] ∧
    ∀ a, a ∉ t.addresses → S'.node a = S.node a
  := by
  obtain _ | ⟨next, l', r'⟩ := r
  · exact absurd rfl hr
  have hnode := h.represents.node_at hposition
  have hsub := h.represents.subtree position
  have hnodup := Nodup.subtree h.nodup position
  have hsubset := addresses_subtree_subset (t := t) position
  rw [hposition] at hsub hnodup hsubset
  obtain ⟨⟨-, hnotMem⟩, -, hnodupRight, -⟩ := nodup_node_iff.mp hnodup
  have hnextMem : next.address ∈ (node next l' r').addresses := by
    rw [addresses_node]
    exact List.mem_cons_self
  have hne : element.address ≠ next.address := by
    rintro heq
    exact hnotMem (heq ▸ hnextMem)
  have hnextMem' : next.address ∈ t.addresses := by
    apply hsubset
    rw [addresses_node]
    exact List.mem_cons_of_mem _ (List.mem_append_right _ hnextMem)
  have hnext := hsub.2.2.1
  cases position with
  | nil =>
      rw [subtree] at hposition
      subst hposition
      have hinsert := LinkedTree.insert_root (S := S.toLinkedTree) false hnext
      have hclean := h.cleanUp { S.setParent next.address none with rootNode := some next.address }
        (show BinaryTree.subtree _ [] = _ from rfl) rfl
        (hsub.2.2.reparent (LinkedTree.node_setParent hnext)
          (fun a _ hane => LinkedTree.node_setParent_of_ne hane) hnodupRight)
        ((LinkedTree.node_setParent_of_ne hne).trans hnode) rfl
        (fun a ha => LinkedTree.node_setParent_of_ne (fun heq => ha (heq ▸ hnextMem')))
      obtain ⟨S', hcleanUp, hrest⟩ := hclean
      exact ⟨next.address, _, S', rfl, hinsert, hcleanUp, hrest⟩
  | cons branch above =>
      obtain ⟨parent, l'', r'', habove, -, hnotBelow, hparent, -⟩ := h.node_above hposition
      rw [addresses_node] at hnotBelow
      have hnextNe : ∀ a ∈ (node next l' r').addresses, a ≠ parent.address := by
        rintro a ha rfl
        exact hnotBelow (List.mem_cons_of_mem _ (List.mem_append_right _ ha))
      have hneParent : element.address ≠ parent.address := by
        rintro heq
        exact hnotBelow (heq ▸ List.mem_cons_self)
      have hroot : t.above none (branch :: above) = some parent.address := by
        rw [BinaryTree.above, habove]
        rfl
      have hinsert := LinkedTree.insert_child (S := S.toLinkedTree) branch hnext hparent
        (hnextNe _ hnextMem).symm
      have hparent' : (S.setParent next.address (some parent.address)).node parent.address = _ :=
        (LinkedTree.node_setParent_of_ne (hnextNe _ hnextMem).symm).trans hparent
      have hclean := h.cleanUp
        ((S.setParent next.address (some parent.address)).setLink parent.address branch
          (some next.address))
        hposition
        (by
          rw [LinkedTree.rootNode_setLink, LinkedTree.rootNode_setParent, h.rootNode_eq,
            root_replace (List.cons_ne_nil _ _)])
        (by
          apply h.represents.replace h.nodup habove
          · rw [LinkedTree.node_setLink hparent', hparent]
            rfl
          · intro a _ hane hnot
            rw [LinkedTree.node_setLink_of_ne hane, LinkedTree.node_setParent_of_ne]
            rintro rfl
            rw [hposition, addresses_node] at hnot
            exact hnot (List.mem_cons_of_mem _ (List.mem_append_right _ hnextMem))
          · apply hsub.2.2.reparent _ _ hnodupRight
            · rw [LinkedTree.node_setLink_of_ne (hnextNe _ hnextMem)]
              exact LinkedTree.node_setParent hnext
            · intro a ha hane
              rw [LinkedTree.node_setLink_of_ne (hnextNe a ha),
                LinkedTree.node_setParent_of_ne hane])
        ((LinkedTree.node_setLink_of_ne hneParent).trans
          ((LinkedTree.node_setParent_of_ne hne).trans hnode)) rfl
        (by
          intro a ha
          rw [LinkedTree.node_setLink_of_ne, LinkedTree.node_setParent_of_ne]
          · rintro rfl
            exact ha hnextMem'
          · rintro rfl
            exact ha (WellFormed.mem habove))
      obtain ⟨S', hcleanUp, hrest⟩ := hclean
      rw [hroot, isOnAndBranch_cons]
      exact ⟨next.address, _, S', rfl, hinsert, hcleanUp, hrest⟩

/-- An element without others on its branches is erased. -/
theorem WellFormed.eraseElement (h : WellFormed cls laws S t)
    (hposition : t.subtree position = node element nil nil)
    (hbranch : MatchTree.isOnAndBranch position = false) :
  ∃ children tree S', S.toLinkedTree.erase (some element.address) = some (children, tree) ∧
    cleanUpElement cls B (some element.address) { S with toLinkedTree := tree } = some (.ok, S') ∧
    WellFormed cls laws S' (t.replace position nil) ∧ CleansUp cls laws S S' [element] ∧
    ∀ a, a ∉ t.addresses → S'.node a = S.node a
  := by
  have hnode := h.represents.node_at hposition
  cases position with
  | nil =>
      rw [subtree] at hposition
      subst hposition
      have herase := LinkedTree.erase_root (S := S.toLinkedTree) h.rootNode_eq hnode
      obtain ⟨S', hcleanUp, hrest⟩ := h.cleanUp { S.toLinkedTree with rootNode := none }
        (show BinaryTree.subtree _ [] = _ from rfl) rfl trivial hnode rfl (fun _ _ => rfl)
      exact ⟨_, _, S', herase, hcleanUp, hrest⟩
  | cons branch above =>
      rw [isOnAndBranch_cons] at hbranch
      subst hbranch
      obtain ⟨parent, l', r', habove, hchild, hnotBelow, hparent, hleft⟩ :=
        h.node_above hposition
      rw [addresses_node] at hnotBelow
      have hne : element.address ≠ parent.address := by
        rintro heq
        exact hnotBelow (heq ▸ List.mem_cons_self)
      have hr : r' = node element nil nil := hchild
      have hmem : element.address ∈ (t.subtree (false :: above)).addresses := by
        rw [hposition, addresses_node]
        exact List.mem_cons_self
      have hrootNe : S.rootNode ≠ some element.address := by
        rw [h.rootNode_eq]
        exact root_ne_of_mem_subtree h.nodup (List.cons_ne_nil _ _) hmem
      have habove' : t.above none (false :: above) = some parent.address := by
        rw [BinaryTree.above, habove]
        rfl
      have herase := LinkedTree.erase_child (S := S.toLinkedTree) hrootNe hnode habove' hparent
        (show LinkedNode.child _ false = _ by rw [hr]; rfl) (fun _ => hleft rfl) hne
      obtain ⟨S', hcleanUp, hrest⟩ := h.cleanUp
        (S.setLink parent.address false none) hposition
        (by
          rw [LinkedTree.rootNode_setLink, h.rootNode_eq, root_replace (List.cons_ne_nil _ _)])
        (by
          apply h.represents.replace h.nodup habove
          · rw [LinkedTree.node_setLink hparent, hparent]
            rfl
          · intro a _ hane _
            exact LinkedTree.node_setLink_of_ne hane
          · trivial)
        ((LinkedTree.node_setLink_of_ne hne).trans hnode) rfl
        (fun a ha => LinkedTree.node_setLink_of_ne
          (fun heq => ha (heq ▸ WellFormed.mem habove)))
      exact ⟨_, _, S', herase, hcleanUp, hrest⟩

theorem removeElementAndReconnectChildren_of_removeBelow {a : ℕ} {n n₁ : BinaryNode (Cell β)}
    {onAndBranch : Bool} (hnode : S.node a = some n)
    (hremove : MatchTreeObject.removeBelow cls B fuel n.left S = some (.ok, S₁))
    (hnode₁ : S₁.node a = some n₁) (hbranch : S₁.isOnAndBranch (some a) = some onAndBranch) :
  removeElementAndReconnectChildren cls B (fuel + 1) (some a) S =
    match n₁.right with
    | some newNode =>
        (S₁.toLinkedTree.insert onAndBranch n₁.parent newNode).bind fun tree =>
          cleanUpElement cls B (some a) { S₁ with toLinkedTree := tree }
    | none =>
        if onAndBranch then
          removeElementAndReconnectChildren cls B fuel n₁.parent S₁
        else
          (S₁.toLinkedTree.erase (some a)).bind fun erased =>
            cleanUpElement cls B (some a) { S₁ with toLinkedTree := erased.2 }
  := by
  rw [MatchTreeObject.removeBelow] at hremove
  rw [removeElementAndReconnectChildren]
  simp only [ExplicitNodeIterator.left, hnode, Option.map_some, Option.bind_eq_bind,
    Option.bind_some]
  split_ifs at hremove with h
  · simp [h, hremove, ExplicitNodeIterator.right, ExplicitNodeIterator.up, hnode₁, hbranch]
    cases n₁.right <;> rfl
  · cases hremove
    cases hnode.symm.trans hnode₁
    simp [not_not.mp h, hnode, ExplicitNodeIterator.right, ExplicitNodeIterator.up, hbranch]
    cases n.right <;> rfl

variable [DecidableEq β]

omit [DecidableEq β] in
/-- An element, after what is on its AND branch was removed. -/
theorem subtree_replace_and (hposition : t.subtree position = node element l r) :
  (t.replace (AND :: position) nil).subtree position = node element nil r
  := by
  rw [replace, hposition, subtree_replace]
  · rfl
  · exact fits_of_subtree (by rw [hposition]; simp)

omit [DecidableEq β] in
/-- The removal of an element that is the last one to be removed. -/
theorem WellFormed.removeLast (h : WellFormed cls laws S t)
    (hposition : t.subtree position = node element l r)
    (hlast : r ≠ nil ∨ MatchTree.isOnAndBranch position = false) (hfuel : t.numNodes < fuel) :
  ∃ S', removeElementAndReconnectChildren cls B fuel (some element.address) S = some (.ok, S') ∧
    WellFormed cls laws S' (t.replace position r) ∧
    CleansUp cls laws S S' (element :: l.entries) ∧
    ∀ a, a ∉ t.addresses → S'.node a = S.node a
  := by
  obtain _ | fuel := fuel
  · omega
  obtain ⟨S₁, hremove, h₁, hcleans, hother⟩ := h.removeBelow hposition (Nat.lt_succ_iff.mp hfuel)
  have hposition₁ := subtree_replace_and hposition
  have hsplice : (t.replace (AND :: position) nil).replace position r = t.replace position r :=
    replace_replace_append t nil r position [AND]
  have hsubset : ∀ a, a ∉ t.addresses → a ∉ (t.replace (AND :: position) nil).addresses := by
    intro a ha ha'
    apply ha
    apply (addresses_perm (.inr _)).mem_iff.mpr (List.mem_append_right _ ha')
    rw [List.tail_cons, hposition]
    simp
  have hstep := removeElementAndReconnectChildren_of_removeBelow (h.represents.node_at hposition)
    hremove (h₁.represents.node_at hposition₁) (h₁.isOnAndBranch_eq hposition₁)
  by_cases hr : r = nil
  · subst hr
    have hbranch := hlast.resolve_left (fun hne => hne rfl)
    obtain ⟨children, tree, S', herase, hcleanUp, h', hcleans', hother'⟩ :=
      h₁.eraseElement hposition₁ hbranch
    refine ⟨S', ?_, hsplice ▸ h', ?_, ?_⟩
    · rw [hstep]
      simp [root, hbranch, herase, hcleanUp]
    · exact (hcleans.trans hcleans').perm (List.perm_append_singleton _ _)
    · intro a ha
      rw [hother' a (hsubset a ha), hother a ha]
  · obtain ⟨newNode, tree, S', hroot, hinsert, hcleanUp, h', hcleans', hother'⟩ :=
      h₁.reconnect hposition₁ hr
    refine ⟨S', ?_, hsplice ▸ h', ?_, ?_⟩
    · rw [hstep]
      simp only [hroot, hinsert, Option.bind_some, hcleanUp]
    · exact (hcleans.trans hcleans').perm (List.perm_append_singleton _ _)
    · intro a ha
      rw [hother' a (hsubset a ha), hother a ha]

/-- The removal of an element, from its steps. -/
theorem WellFormed.removeElement (h : WellFormed cls laws S t)
    (hposition : t.subtree position = node element l r)
    (hfuel : t.numNodes + position.length < fuel) :
  ∃ S', removeElementAndReconnectChildren cls B fuel (some element.address) S = some (.ok, S') ∧
    WellFormed cls laws S' (spliced t position) ∧
    CleansUp cls laws S S' (removed t position) ∧
    ∀ a, a ∉ t.addresses → S'.node a = S.node a
  := by
  induction position generalizing t S element l r fuel with
  | nil =>
      rw [spliced, removed, removalPosition]
      rw [subtree] at hposition
      subst hposition
      exact h.removeLast (show BinaryTree.subtree _ [] = _ from rfl) (.inr rfl) hfuel
  | cons branch above ih =>
      have hor : t.subtree (OR :: branch :: above) = r := by
        rw [subtree, hposition]
        rfl
      by_cases hclimb : branch = AND ∧ r = nil
      · -- The element was the only one on an AND branch.
        obtain ⟨rfl, rfl⟩ := hclimb
        obtain _ | fuel := fuel
        · omega
        have hnode : t.subtree (AND :: above) ≠ nil := by
          rw [hposition]
          simp
        have hperm := entries_perm (t := t) (p := AND :: AND :: above) (.inr hnode)
        have hsize : (t.replace (AND :: AND :: above) nil).numNodes ≤ t.numNodes := by
          rw [← length_entries, ← length_entries, hperm.length_eq, List.length_append]
          apply Nat.le_add_left
        have hl : (t.subtree (AND :: AND :: above)) = l := by
          rw [subtree, hposition]
          rfl
        rw [List.length_cons] at hfuel
        obtain ⟨S₁, hremove, h₁, hcleans, hother⟩ := h.removeBelow hposition
          (show t.numNodes ≤ fuel by omega)
        have hposition₁ := subtree_replace_and hposition
        obtain ⟨parent, l', r', habove, -⟩ := h₁.node_above hposition₁
        have hparent : (t.replace (AND :: AND :: above) nil).above none (AND :: above) =
            some parent.address := by
          rw [BinaryTree.above, habove]
          rfl
        obtain ⟨S', hclimb, h', hcleans', hother'⟩ := ih h₁ habove (show _ < fuel by omega)
        have hstep := removeElementAndReconnectChildren_of_removeBelow
          (h.represents.node_at hposition) hremove (h₁.represents.node_at hposition₁)
          (h₁.isOnAndBranch_eq hposition₁)
        rw [isOnAndBranch_cons, hparent] at hstep
        have htop : removalPosition t (AND :: above) = removalPosition t above := by
          rw [removalPosition, if_pos ⟨rfl, hor⟩]
        have hspliced : spliced t (AND :: above) =
            spliced (t.replace (AND :: AND :: above) nil) above := by
          have hbelow := removeElementAndReconnectChildren_replace t nil above [AND]
          rw [removeElementAndReconnectChildren_eq_spliced,
            removeElementAndReconnectChildren_eq_spliced] at hbelow
          rw [spliced, htop, ← spliced]
          exact hbelow.symm
        have hremoved : (removed t (AND :: above)).Perm
            (l.entries ++ removed (t.replace (AND :: AND :: above) nil) above) := by
          have hperm := removed_perm hnode
          rw [hl] at hperm
          rwa [removed, htop, ← removed]
        rw [hspliced]
        refine ⟨S', ?_, h', (hcleans.trans hcleans').perm hremoved.symm, ?_⟩
        · rw [hstep, ← hclimb]
          rfl
        · intro a ha
          rw [hother' a, hother a ha]
          intro ha'
          exact ha ((addresses_perm (.inr hnode)).mem_iff.mpr (List.mem_append_right _ ha'))
      · have htop : removalPosition t (branch :: above) = branch :: above := by
          rw [removalPosition, hor, if_neg hclimb]
        rw [spliced, removed, htop, hor, hposition]
        apply h.removeLast hposition _ (by omega)
        rw [isOnAndBranch_cons]
        by_cases hr : r = nil
        · right
          cases branch with
          | true => exact absurd ⟨rfl, hr⟩ hclimb
          | false => rfl
        · exact .inl hr

/-- An element is removed with all that is on its AND branch, and with the elements above that it
was the only one for on an AND branch.  Just these are cleaned up, each of them once.  What is on the
OR branch of the last one comes to its place, and what remains keeps its order and its branches. -/
theorem removeElementAndReconnectChildren_exact (laws : B.Reliable)
    (h : WellFormed cls laws S t) (hposition : t.subtree position = node element l r)
    (hfuel : t.numNodes + position.length < fuel) :
  ∃ S', removeElementAndReconnectChildren cls B fuel (some element.address) S = some (.ok, S') ∧
    WellFormed cls laws S' (spliced t position) ∧
    CleansUp cls laws S S' (removed t position) ∧
    t.entries.Perm (removed t position ++ (spliced t position).entries) ∧
    (spliced t position).entries.Sublist t.entries ∧
    (∀ q, (spliced t position).subtree (q ++ removalPosition t position)
      = t.subtree (q ++ OR :: removalPosition t position)) ∧
    (∀ q branch above, removalPosition t position = q ++ branch :: above →
      (spliced t position).subtree above = (t.subtree above).setChild branch
        ((t.subtree (branch :: above)).replace q
          (t.subtree (OR :: removalPosition t position)))) ∧
    ∀ a, a ∉ t.addresses → S'.node a = S.node a
  := by
  have hnode : t.subtree position ≠ nil := by
    rw [hposition]
    simp
  obtain ⟨S', hremove, h', hcleans, hother⟩ := h.removeElement hposition hfuel
  obtain ⟨hbelow, habove⟩ := subtree_spliced hnode
  exact ⟨S', hremove, h', hcleans, entries_perm_removed hnode,
    entries_spliced_sublist t position, hbelow, habove, hother⟩

end

/-! ### An element on an AND branch -/

/-- An element with another one on its OR branch, and with a third one on its AND branch. -/
def threeElements : BinaryTree (Cell (Cell Unit)) :=
  node ⟨1, ⟨0, ()⟩⟩ (node ⟨3, ⟨2, ()⟩⟩ nil nil) (node ⟨5, ⟨4, ()⟩⟩ nil nil)

/-- The tree of the three elements in a pool. -/
def threeElementsObject : MatchTreeObject Unit (Finset ℕ) where
  rootNode := some 1
  node
    | 1 => some ⟨⟨0, ()⟩, some 3, some 5, none⟩
    | 3 => some ⟨⟨2, ()⟩, none, none, some 1⟩
    | 5 => some ⟨⟨4, ()⟩, none, none, some 1⟩
    | _ => none
  pool := {0, 1, 2, 3, 4, 5}
  cleaned := []

theorem threeElementsObject_wellFormed :
  WellFormed .eventMatchTree (elementPool.reliable 8) threeElementsObject threeElements
  := by
  constructor
  · rfl
  · exact ⟨rfl, ⟨rfl, trivial, trivial⟩, rfl, trivial, trivial⟩
  · decide
  · intro _
    decide

theorem removeElementAndReconnectChildren_exact_threeElements :
  ∃ S', removeElementAndReconnectChildren .eventMatchTree (elementPool 8) 8 (some 3)
      threeElementsObject = some (.ok, S') ∧
    WellFormed .eventMatchTree (elementPool.reliable 8) S' (node ⟨5, ⟨4, ()⟩⟩ nil nil)
  := by
  obtain ⟨S', hremove, h', -⟩ :=
    removeElementAndReconnectChildren_exact (t := threeElements) (elementPool.reliable 8)
      threeElementsObject_wellFormed (show threeElements.subtree [AND] = node ⟨3, ⟨2, ()⟩⟩ nil nil
        from rfl) (show 3 + 1 < 8 by decide)
  exact ⟨S', hremove, h'⟩

end MatchTreeObject
