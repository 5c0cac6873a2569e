import Fsfw.GlobalFunctions.RemovedElements

/-!
# Inserted elements

An OR branch is searched for an element.  When there is none, a matcher and a node are created in the
pool, and the node is attached to the end of the branch.  When there is no room for the node, the
matcher is given back.

Whatever is done to the elements of a tree, its nodes and matchers are exchanged in the pool for those
of the tree that comes out of it, and what is in the pool besides is left alone (`Changes`).
-/

open BinaryTree

namespace MatchTreeObject

variable {β κ : Type}

/-- Go along an OR branch until an element passes the test.  The result has the last element that was
looked at, and the branch where another one may be attached to it. -/
def search (test : β → Bool) (h : NodeMemory (Cell β)) :
    ℕ → ExplicitNodeIterator → (attachToBranch : Bool) → (lastTest : ExplicitNodeIterator) →
    Option (Bool × Bool × ExplicitNodeIterator)
  | _, none, attachToBranch, lastTest => some (false, attachToBranch, lastTest)
  | 0, some _, _, _ => none
  | fuel + 1, some element, _, _ => do
      let n ← h element
      if test n.value.value then
        return (true, MatchTree.OR, some element)
      else
        search test h fuel n.right MatchTree.OR (some element)

/-- Create a matcher and a node.  The matcher is destroyed when there is no node for it. -/
def createElement (B : PlacementBackend κ) (contentSize nodeSize : ℕ) (pool : κ) :
    Option (ℕ × ℕ) × κ :=
  match PlacementFactory.generate B contentSize pool with
  | (none, pool) => (none, pool)
  | (some newContent, pool) =>
      match PlacementFactory.generate B nodeSize pool with
      | (none, pool) => (none, (PlacementFactory.destroy B (some newContent) pool).2)
      | (some newNode, pool) => (some (newContent, newNode), pool)

/-- The memory with the node of a new element. -/
def withNode (S : LinkedTree (Cell β)) (element : Cell (Cell β)) : LinkedTree (Cell β) :=
  { S with node := Function.update S.node element.address (some ⟨element.value, none, none, none⟩) }

/-- Find an element on the OR branch that begins at an iterator, or attach a new one. -/
def findOrInsert (B : PlacementBackend κ) (contentSize nodeSize : ℕ) (test : β → Bool) (content : β)
    (fuel : ℕ) (start lastTest : ExplicitNodeIterator) (S : MatchTreeObject β κ) :
    Option (ReturnValue × ExplicitNodeIterator × MatchTreeObject β κ) := do
  let (found, attachToBranch, lastTest) ← search test S.node fuel start MatchTree.AND lastTest
  if found then
    return (.ok, lastTest, S)
  match createElement B contentSize nodeSize S.pool with
  | (none, pool) => return (MatchTree.full, lastTest, { S with pool := pool })
  | (some (newContent, newNode), pool) =>
      let memory := withNode S.toLinkedTree ⟨newNode, ⟨newContent, content⟩⟩
      -- The iterator to the new node is never the end.
      let tree ← memory.insert attachToBranch lastTest newNode
      return (.ok, some newNode, { S with toLinkedTree := tree, pool := pool })

/-- Find an element on the OR branch that begins at an iterator. -/
def find (test : β → Bool) (fuel : ℕ) (start : ExplicitNodeIterator) (S : MatchTreeObject β κ) :
    Option ExplicitNodeIterator := do
  let (found, _, lastTest) ← search test S.node fuel start MatchTree.AND none
  return if found then lastTest else none

/-- The matchers of the elements. -/
def matchers (t : BinaryTree (Cell (Cell β))) : BinaryTree β :=
  t.map fun element => element.value.value

/-! ### Nodes and matchers in the pool -/

/-- The addresses of the nodes and matchers of a tree. -/
def cellSet (t : BinaryTree (Cell (Cell β))) : Finset ℕ :=
  (cells t.entries).toFinset

section

variable {cls : MatchTreeClass} {B : PlacementBackend κ} {laws : B.Reliable}
  {S S' S'' : MatchTreeObject β κ} {t t' t'' : BinaryTree (Cell (Cell β))}

theorem mem_cellSet_of_mem_addresses {a : ℕ} (h : a ∈ t.addresses) :
  a ∈ cellSet t
  := by
  obtain ⟨element, helement, rfl⟩ := List.mem_map.mp h
  rw [cellSet, List.mem_toFinset]
  exact List.mem_flatMap.mpr ⟨element, helement, List.mem_cons_self⟩

theorem WellFormed.cellSet_subset (h : WellFormed cls laws S t) (hcls : cls ≠ .matchTree) :
  cellSet t ⊆ laws.occupied S.pool
  := by
  intro a ha
  exact (h.owned hcls).2 a (List.mem_toFinset.mp ha)

/-- The number of nodes and matchers. -/
theorem WellFormed.card_cellSet (h : WellFormed cls laws S t) (hcls : cls ≠ .matchTree) :
  (cellSet t).card = 2 * t.numNodes
  := by
  rw [cellSet, List.toFinset_card_of_nodup (h.owned hcls).1, cells, List.length_flatMap]
  simp [length_entries, Nat.mul_comm]

/-- The nodes and matchers of a tree are exchanged for those of another one. -/
structure Changes (cls : MatchTreeClass) (laws : B.Reliable) (S S' : MatchTreeObject β κ)
    (t t' : BinaryTree (Cell (Cell β))) : Prop where
  wellFormed : WellFormed cls laws S' t'
  occupied : laws.occupied S'.pool = laws.occupied S.pool \ cellSet t ∪ cellSet t'
  fresh : ∀ a ∈ cellSet t', a ∈ cellSet t ∨ a ∉ laws.occupied S.pool
  frame : ∀ a ∈ laws.occupied S.pool, a ∉ cellSet t → S'.node a = S.node a

theorem Changes.trans (h : Changes cls laws S S' t t') (h' : Changes cls laws S' S'' t' t'') :
  Changes cls laws S S'' t t''
  := by
  refine ⟨h'.wellFormed, ?_, ?_, ?_⟩
  · rw [h'.occupied, h.occupied]
    ext a
    have hfresh := h.fresh a
    simp only [Finset.mem_union, Finset.mem_sdiff]
    tauto
  · intro a ha
    rcases h'.fresh a ha with ha' | hfree
    · exact h.fresh a ha'
    · rw [h.occupied, Finset.mem_union, Finset.mem_sdiff] at hfree
      tauto
  · intro a ha hnot
    have hnot' : a ∉ cellSet t' := fun ha' => (h.fresh a ha').elim hnot (fun hfree => hfree ha)
    have hmem : a ∈ laws.occupied S'.pool := by
      rw [h.occupied, Finset.mem_union, Finset.mem_sdiff]
      exact .inl ⟨ha, hnot⟩
    rw [h'.frame a hmem hnot', h.frame a ha hnot]

/-- Nothing is changed. -/
theorem WellFormed.changes_self (h : WellFormed cls laws S t) (hcls : cls ≠ .matchTree) {pool : κ}
    (hpool : laws.occupied pool = laws.occupied S.pool) :
  Changes cls laws S { S with pool := pool } t t
  := by
  refine ⟨⟨h.rootNode_eq, h.represents, h.nodup, ?_⟩, ?_, fun a ha => .inl ha, fun _ _ _ => rfl⟩
  · rw [hpool]
    exact h.owned
  · rw [hpool, Finset.sdiff_union_of_subset (h.cellSet_subset hcls)]

/-- Elements are removed. -/
theorem WellFormed.changes_of_cleansUp {gone : List (Cell (Cell β))}
    (h : WellFormed cls laws S t) (hcls : cls ≠ .matchTree) (h' : WellFormed cls laws S' t')
    (hcleans : CleansUp cls laws S S' gone) (hperm : t.entries.Perm (gone ++ t'.entries))
    (hframe : ∀ a, a ∉ t.addresses → S'.node a = S.node a) :
  Changes cls laws S S' t t'
  := by
  have hcells : (cells t.entries).Perm (cells gone ++ cells t'.entries) := by
    rw [← cells_append]
    exact mem_cells_of_perm hperm
  have hapart := List.nodup_append.mp (hcells.nodup_iff.mp (h.owned hcls).1)
  have hmem : ∀ a, a ∈ cellSet t ↔ a ∈ cells gone ∨ a ∈ cellSet t' := by
    intro a
    rw [cellSet, cellSet, List.mem_toFinset, List.mem_toFinset, hcells.mem_iff, List.mem_append]
  refine ⟨h', ?_, fun a ha => .inl ((hmem a).mpr (.inr ha)), ?_⟩
  · rw [hcleans.occupied, released, if_neg hcls]
    ext a
    have hoccupied : a ∈ cellSet t → a ∈ laws.occupied S.pool := fun ha =>
      h.cellSet_subset hcls ha
    have hdisjoint : a ∈ cells gone → a ∉ cellSet t' := fun ha ha' =>
      hapart.2.2 a ha a (List.mem_toFinset.mp ha') rfl
    simp only [Finset.mem_union, Finset.mem_sdiff, List.mem_toFinset]
    have := hmem a
    tauto
  · intro a _ hnot
    exact hframe a (fun ha => hnot (mem_cellSet_of_mem_addresses ha))

/-! ### Searching -/

/-- Where an element may be attached: there is nothing yet, and the branch leads there. -/
def Attachable (t : BinaryTree (Cell (Cell β))) (q : Position) (attachToBranch : Bool) : Prop :=
  t.subtree q = nil ∧ t.Fits q ∧ (q = [] ∨ ∃ above, q = attachToBranch :: above)

/-- An iterator is at an element of a tree. -/
def PointsInto (t : BinaryTree (Cell (Cell β))) (iter : ExplicitNodeIterator) (q : Position) :
    Prop :=
  ∃ element l r, t.subtree q = node element l r ∧ iter = some element.address

theorem PointsInto.ne_none {iter : ExplicitNodeIterator} {q : Position}
    (h : PointsInto t iter q) :
  iter ≠ none
  := by
  obtain ⟨element, l, r, -, rfl⟩ := h
  exact Option.some_ne_none _

/-- What a search comes to, as in the tree of matchers: an element, or a place for another one. -/
theorem search_spec (test : β → Bool) {h : NodeMemory (Cell β)} (hrep : Represents h none t)
    {p : Position} {attachToBranch : Bool} {fuel : ℕ} (hfits : t.Fits p)
    (hattach : p = [] ∨ ∃ above, p = attachToBranch :: above)
    (hfuel : (t.subtree p).numNodes ≤ fuel) :
  (∃ q iter, PointsInto t iter q ∧
      search test h fuel (t.subtree p).root attachToBranch (t.above none p)
        = some (true, MatchTree.OR, iter) ∧
      MatchTree.search test (matchers (t.subtree p)) p attachToBranch (up p)
        = (true, MatchTree.OR, some q)) ∨
    ∃ q attachToBranch', Attachable t q attachToBranch' ∧
      search test h fuel (t.subtree p).root attachToBranch (t.above none p)
        = some (false, attachToBranch', t.above none q) ∧
      MatchTree.search test (matchers (t.subtree p)) p attachToBranch (up p)
        = (false, attachToBranch', up q)
  := by
  induction fuel generalizing p attachToBranch with
  | zero =>
      have hnil : t.subtree p = nil := by
        cases hp : t.subtree p with
        | nil => rfl
        | node element l r =>
            rw [hp, numNodes] at hfuel
            omega
      right
      refine ⟨p, attachToBranch, ⟨hnil, hfits, hattach⟩, ?_, ?_⟩
      · rw [hnil]
        rfl
      · rw [hnil]
        rfl
  | succ fuel ih =>
      cases hp : t.subtree p with
      | nil =>
          right
          exact ⟨p, attachToBranch, ⟨hp, hfits, hattach⟩, rfl, rfl⟩
      | node element l r =>
          have hnode := hrep.node_at hp
          rw [root, search, matchers, map, MatchTree.search]
          simp only [hnode, Option.bind_eq_bind, Option.bind_some]
          by_cases htest : test element.value.value = true
          · left
            exact ⟨p, some element.address, ⟨element, l, r, hp, rfl⟩, if_pos htest, if_pos htest⟩
          · -- The search goes on at the OR branch.
            have hright : t.subtree (MatchTree.OR :: p) = r := by
              rw [subtree, hp]
              rfl
            have hfits' : t.Fits (MatchTree.OR :: p) := .inr (by rw [List.tail_cons, hp]; simp)
            rw [hp, numNodes] at hfuel
            have hnext := ih hfits' (.inr ⟨p, rfl⟩) (by rw [hright]; omega)
            rw [hright, BinaryTree.above, hp] at hnext
            rw [if_neg htest, if_neg htest]
            exact hnext

/-! ### Creating elements -/

/-- What comes of creating an element: it is new in the pool, or nothing is changed. -/
theorem createElement_spec (laws : B.Reliable) (contentSize nodeSize : ℕ) (pool : κ) :
  (∃ pool', createElement B contentSize nodeSize pool = (none, pool') ∧
      laws.occupied pool' = laws.occupied pool) ∨
    ∃ newContent newNode pool',
      createElement B contentSize nodeSize pool = (some (newContent, newNode), pool') ∧
      newContent ∉ laws.occupied pool ∧ newNode ∉ insert newContent (laws.occupied pool) ∧
      laws.occupied pool' = insert newNode (insert newContent (laws.occupied pool))
  := by
  rcases hfirst : B.getFreeElement contentSize pool with ⟨_ | newContent, pool₁⟩
  · left
    use pool₁
    have hnone := laws.occupied_getFreeElement_none contentSize pool
    rw [hfirst] at hnone
    exact ⟨by rw [createElement, PlacementFactory.generate, hfirst], hnone rfl⟩
  · have hfresh := laws.notMem_of_getFreeElement contentSize pool newContent
    have hoccupied := laws.occupied_getFreeElement contentSize pool newContent
    rw [hfirst] at hfresh hoccupied
    have hoccupied := hoccupied rfl
    rcases hsecond : B.getFreeElement nodeSize pool₁ with ⟨_ | newNode, pool₂⟩
    · left
      have hnone := laws.occupied_getFreeElement_none nodeSize pool₁
      rw [hsecond] at hnone
      have hmem : newContent ∈ laws.occupied pool₂ := by
        rw [hnone rfl, hoccupied]
        exact Finset.mem_insert_self _ _
      use (B.deleteData newContent pool₂).2
      constructor
      · simp only [createElement, PlacementFactory.generate, hfirst, hsecond,
          PlacementFactory.destroy]
      · rw [laws.occupied_deleteData _ _ hmem, hnone rfl, hoccupied,
          Finset.erase_insert (hfresh rfl)]
    · right
      have hfresh' := laws.notMem_of_getFreeElement nodeSize pool₁ newNode
      have hoccupied' := laws.occupied_getFreeElement nodeSize pool₁ newNode
      rw [hsecond] at hfresh' hoccupied'
      refine ⟨newContent, newNode, pool₂, ?_, hfresh rfl, ?_, ?_⟩
      · simp only [createElement, PlacementFactory.generate, hfirst, hsecond]
      · rw [← hoccupied]
        exact hfresh' rfl
      · rw [hoccupied' rfl, hoccupied]

/-! ### Attaching elements -/

/-- The addresses of an element that is new in the pool. -/
structure New (laws : B.Reliable) (S : MatchTreeObject β κ) (element : Cell (Cell β)) (pool : κ) :
    Prop where
  value_notMem : element.value.address ∉ laws.occupied S.pool
  notMem : element.address ∉ insert element.value.address (laws.occupied S.pool)
  occupied_eq : laws.occupied pool =
    insert element.address (insert element.value.address (laws.occupied S.pool))

variable {element : Cell (Cell β)} {pool : κ} {q : Position} {attachToBranch : Bool}

theorem node_withNode (S : LinkedTree (Cell β)) (element : Cell (Cell β)) :
  (withNode S element).node element.address = some ⟨element.value, none, none, none⟩
  := Function.update_self ..

theorem node_withNode_of_ne {S : LinkedTree (Cell β)} {a : ℕ} (h : a ≠ element.address) :
  (withNode S element).node a = S.node a
  := Function.update_of_ne h ..

theorem New.notMem_addresses (hnew : New laws S element pool) (h : WellFormed cls laws S t)
    (hcls : cls ≠ .matchTree) :
  element.address ∉ t.addresses
  := by
  intro hmem
  apply hnew.notMem
  exact Finset.mem_insert_of_mem (h.cellSet_subset hcls (mem_cellSet_of_mem_addresses hmem))

theorem Attachable.entries_perm (hattach : Attachable t q attachToBranch)
    (element : Cell (Cell β)) :
  (t.replace q (node element nil nil)).entries.Perm (element :: t.entries)
  := by
  have hperm := entries_replace_perm hattach.2.1 (node element nil nil)
  have hsame : t.replace q nil = t := by
    rw [← hattach.1, replace_subtree]
  rwa [hsame] at hperm

/-- A new element in a tree, when the memory has the nodes. -/
theorem WellFormed.changes_of_new (h : WellFormed cls laws S t) (hcls : cls ≠ .matchTree)
    (hnew : New laws S element pool) (hattach : Attachable t q attachToBranch)
    {tree : LinkedTree (Cell β)}
    (hroot : tree.rootNode = (t.replace q (node element nil nil)).root)
    (hrep : Represents tree.node none (t.replace q (node element nil nil)))
    (hframe : ∀ a, a ∉ t.addresses → a ≠ element.address → tree.node a = S.node a) :
  Changes cls laws S { S with toLinkedTree := tree, pool := pool } t
    (t.replace q (node element nil nil))
  := by
  have hperm := hattach.entries_perm element
  have hcells := mem_cells_of_perm hperm
  have hsubset := h.cellSet_subset hcls
  obtain ⟨hvalue, hnode, hpool⟩ := hnew
  rw [Finset.mem_insert, not_or] at hnode
  have hmem : ∀ a, a ∈ cellSet (t.replace q (node element nil nil)) ↔
      a = element.address ∨ a = element.value.address ∨ a ∈ cellSet t := by
    intro a
    rw [cellSet, cellSet, List.mem_toFinset, List.mem_toFinset, hcells.mem_iff]
    simp [cells]
  refine ⟨⟨hroot, hrep, ?_, ?_⟩, ?_, ?_, ?_⟩
  · rw [addresses, (hperm.map Cell.address).nodup_iff, List.map_cons, List.nodup_cons]
    exact ⟨New.notMem_addresses ⟨hvalue, by simp [hnode], hpool⟩ h hcls, h.nodup⟩
  · intro _
    have hold : ∀ a, a ∈ cells t.entries → a ∈ laws.occupied S.pool := (h.owned hcls).2
    constructor
    · rw [hcells.nodup_iff]
      have hapart : (element.address :: element.value.address :: cells t.entries).Nodup := by
        rw [List.nodup_cons, List.nodup_cons, List.mem_cons, not_or]
        exact ⟨⟨hnode.1, fun ha => hnode.2 (hold _ ha)⟩, fun ha => hvalue (hold _ ha),
          (h.owned hcls).1⟩
      exact hapart
    · intro a ha
      have ha := (hmem a).mp (List.mem_toFinset.mpr ha)
      rw [hpool, Finset.mem_insert, Finset.mem_insert]
      exact ha.imp_right fun ha => ha.imp_right fun ha => hsubset ha
  · rw [hpool]
    ext a
    have hsub : a ∈ cellSet t → a ∈ laws.occupied S.pool := fun ha => hsubset ha
    simp only [Finset.mem_insert, Finset.mem_union, Finset.mem_sdiff, hmem]
    tauto
  · intro a ha
    rcases (hmem a).mp ha with rfl | rfl | ha
    · exact .inr hnode.2
    · exact .inr hvalue
    · exact .inl ha
  · intro a ha hnot
    apply hframe a (fun hmem => hnot (mem_cellSet_of_mem_addresses hmem))
    rintro rfl
    exact hnode.2 ha

/-- A new element is attached. -/
theorem WellFormed.attach (h : WellFormed cls laws S t) (hcls : cls ≠ .matchTree)
    (hnew : New laws S element pool) (hattach : Attachable t q attachToBranch) :
  ∃ tree, (withNode S.toLinkedTree element).insert attachToBranch (t.above none q)
      element.address = some tree ∧
    Changes cls laws S { S with toLinkedTree := tree, pool := pool } t
      (t.replace q (node element nil nil))
  := by
  have hnotMem := hnew.notMem_addresses h hcls
  have hnode := node_withNode S.toLinkedTree element
  obtain ⟨hnil, hfits, rfl | ⟨above, rfl⟩⟩ := hattach
  · -- The element becomes the root.
    rw [subtree] at hnil
    subst hnil
    refine ⟨_, LinkedTree.insert_root attachToBranch hnode, ?_⟩
    apply h.changes_of_new hcls hnew (show Attachable nil [] attachToBranch from
      ⟨rfl, hfits, .inl rfl⟩)
    · rfl
    · exact ⟨LinkedTree.node_setParent hnode, trivial, trivial⟩
    · intro a _ hne
      exact (LinkedTree.node_setParent_of_ne hne).trans (node_withNode_of_ne hne)
  · have hparentNode := hfits.resolve_left (List.cons_ne_nil _ _)
    rw [List.tail_cons] at hparentNode
    cases habove : t.subtree above with
    | nil =>
        exact absurd habove hparentNode
    | node parent l r =>
        have hparentMem := WellFormed.mem habove
        have hne : parent.address ≠ element.address := by
          rintro heq
          exact hnotMem (heq ▸ hparentMem)
        have hparent := (node_withNode_of_ne hne).trans (h.represents.node_at habove)
        have hlink : t.above none (attachToBranch :: above) = some parent.address := by
          rw [BinaryTree.above, habove]
          rfl
        rw [hlink]
        have hparent' : ((withNode S.toLinkedTree element).setParent element.address
            (some parent.address)).node parent.address = _ :=
          (LinkedTree.node_setParent_of_ne hne).trans hparent
        have hother : ∀ a, a ≠ element.address → a ≠ parent.address →
            (((withNode S.toLinkedTree element).setParent element.address
              (some parent.address)).setLink parent.address attachToBranch
              (some element.address)).node a = S.node a := by
          intro a hnew hold
          rw [LinkedTree.node_setLink_of_ne hold, LinkedTree.node_setParent_of_ne hnew,
            node_withNode_of_ne hnew]
        refine ⟨_, LinkedTree.insert_child attachToBranch hnode hparent hne, ?_⟩
        apply h.changes_of_new hcls hnew ⟨hnil, hfits, .inr ⟨above, rfl⟩⟩
        · rw [LinkedTree.rootNode_setLink, LinkedTree.rootNode_setParent, withNode,
            h.rootNode_eq, root_replace (List.cons_ne_nil _ _)]
        · apply h.represents.replace h.nodup habove
          · rw [LinkedTree.node_setLink hparent', h.represents.node_at habove]
            rfl
          · intro a ha hane _
            apply hother a _ hane
            rintro rfl
            exact hnotMem ha
          · refine ⟨?_, trivial, trivial⟩
            rw [LinkedTree.node_setLink_of_ne hne.symm]
            exact LinkedTree.node_setParent hnode
        · intro a ha hane
          apply hother a hane
          rintro rfl
          exact ha hparentMem

theorem numNodes_attach {q : Position} (hattach : Attachable t q attachToBranch)
    (element : Cell (Cell β)) :
  (t.replace q (node element nil nil)).numNodes = t.numNodes + 1
  := by
  rw [← length_entries, (hattach.entries_perm element).length_eq, List.length_cons,
    length_entries]

theorem matchers_attach {q : Position} (hattach : Attachable t q attachToBranch)
    (element : Cell (Cell β)) :
  (matchers t).insert attachToBranch (up q) (node element.value.value nil nil)
    = (q, matchers (t.replace q (node element nil nil)))
  := by
  have hreplace : (matchers t).replace q (node element.value.value nil nil)
      = matchers (t.replace q (node element nil nil)) :=
    replace_map _ t (node element nil nil) q
  rw [← hreplace]
  obtain ⟨-, -, rfl | ⟨above, rfl⟩⟩ := hattach
  · rfl
  · rfl

/-- An element is found or attached, or there is no room for it, as in the tree of matchers. -/
theorem WellFormed.findOrInsert (h : WellFormed cls laws S t) (hcls : cls ≠ .matchTree)
    {test : β → Bool} {p : Position} {fuel : ℕ} (hfits : t.Fits p)
    (hbegins : p = [] ∨ ∃ above, p = MatchTree.AND :: above) (hfuel : (t.subtree p).numNodes ≤ fuel)
    (contentSize nodeSize : ℕ) (content : β) :
  ∃ room insertion position lastTest S' t', findOrInsert B contentSize nodeSize test content fuel
      (t.subtree p).root (t.above none p) S = some (insertion.result, lastTest, S') ∧
    Changes cls laws S S' t t' ∧ t'.numNodes ≤ t.numNodes + 1 ∧
    MatchTree.findOrInsert test content room (matchers t) p (up p)
      = (insertion, position, matchers t') ∧
    (insertion ≠ .full → ∃ q, position = some q ∧ PointsInto t' lastTest q)
  := by
  have hsubtree : (matchers t).subtree p = matchers (t.subtree p) := subtree_map _ t p
  simp only [MatchTree.findOrInsert, hsubtree]
  rcases search_spec test h.represents hfits hbegins hfuel with
    ⟨q, iter, hq, hsearch, hmatchers⟩ | ⟨q, attachToBranch, hattach, hsearch, hmatchers⟩
  · refine ⟨true, .found, some q, iter, S, t, ?_, h.changes_self hcls rfl, Nat.le_succ _, ?_,
      fun _ => ⟨q, rfl, hq⟩⟩
    · rw [MatchTreeObject.findOrInsert, hsearch]
      rfl
    · rw [hmatchers]
  · rcases createElement_spec laws contentSize nodeSize S.pool with
      ⟨pool, hcreate, hpool⟩ | ⟨newContent, newNode, pool, hcreate, hcontent, hnode, hpool⟩
    · refine ⟨false, .full, up q, t.above none q, _, t, ?_, h.changes_self hcls hpool,
        Nat.le_succ _, ?_, fun hfull => absurd rfl hfull⟩
      · rw [MatchTreeObject.findOrInsert, hsearch]
        simp only [Option.bind_eq_bind, Option.bind_some, Bool.false_eq_true, if_false, hcreate]
        rfl
      · rw [hmatchers]
        rfl
    · have hnew : New laws S ⟨newNode, ⟨newContent, content⟩⟩ pool := ⟨hcontent, hnode, hpool⟩
      obtain ⟨tree, hinsert, hchanges⟩ := h.attach hcls hnew hattach
      have hmatchers' := matchers_attach hattach ⟨newNode, ⟨newContent, content⟩⟩
      refine ⟨true, .created, some q, some newNode, _, _, ?_, hchanges,
        (numNodes_attach hattach _).le, ?_, fun _ => ⟨q, rfl, ?_⟩⟩
      · rw [MatchTreeObject.findOrInsert, hsearch]
        simp only [Option.bind_eq_bind, Option.bind_some, Bool.false_eq_true, if_false, hcreate,
          hinsert]
        rfl
      · simp only [hmatchers, if_true, hmatchers']
      · exact ⟨_, nil, nil, subtree_replace t _ hattach.2.1, rfl⟩

/-- What is found does not depend on what was looked at before. -/
theorem find_eq (test : β → Bool) (fuel : ℕ) (start : ExplicitNodeIterator)
    (attachToBranch : Bool) (lastTest : ExplicitNodeIterator) :
  find test fuel start S = (search test S.node fuel start attachToBranch lastTest).map
    fun r => if r.1 then r.2.2 else none
  := by
  rw [find, Option.map_eq_bind]
  cases start with
  | none =>
      cases fuel <;> rfl
  | some element =>
      cases fuel with
      | zero => rfl
      | succ fuel => rw [search, search]; rfl

/-- An element is found, or there is none, as in the tree of matchers. -/
theorem WellFormed.find (h : WellFormed cls laws S t) {test : β → Bool} {p : Position} {fuel : ℕ}
    (hfits : t.Fits p) (hbegins : p = [] ∨ ∃ above, p = MatchTree.AND :: above)
    (hfuel : (t.subtree p).numNodes ≤ fuel) :
  ∃ position iter, MatchTreeObject.find test fuel (t.subtree p).root S = some iter ∧
    MatchTree.find test (matchers t) p = position ∧
    (position = none ∧ iter = none ∨ ∃ q, position = some q ∧ PointsInto t iter q)
  := by
  have hsubtree : (matchers t).subtree p = matchers (t.subtree p) := subtree_map _ t p
  rw [find_eq test fuel _ MatchTree.AND (t.above none p), MatchTree.find_eq test _ p (up p), hsubtree]
  rcases search_spec test h.represents hfits hbegins hfuel with
    ⟨q, iter, hq, hsearch, hmatchers⟩ | ⟨q, attachToBranch, -, hsearch, hmatchers⟩
  · refine ⟨some q, iter, ?_, ?_, .inr ⟨q, rfl, hq⟩⟩
    · rw [hsearch]
      rfl
    · rw [hmatchers]
      rfl
  · refine ⟨none, none, ?_, ?_, .inl ⟨rfl, rfl⟩⟩
    · rw [hsearch]
      rfl
    · rw [hmatchers]
      rfl

end

end MatchTreeObject
