import Fsfw.Container.BinaryTree
import Fsfw.Container.PlacementFactory
import Fsfw.GlobalFunctions.MatchTree

/-!
# The elements of match trees

The elements of a match tree are nodes in memory with matchers.  When they are removed they are
cleaned up one by one, which gives them back to the pool in the classes of match trees that create
their elements there.

When the memory represents a tree whose elements can be cleaned up, `removeElementAndAllChildren`
cleans up the elements of a subtree, each of them once, and changes nothing else but the link to it
(`removesBelow`).
-/

open BinaryTree ExplicitNodeIterator

/-- The classes of match trees.  Those for events and for packets create their elements in a
pool. -/
inductive MatchTreeClass where
  | matchTree
  | eventMatchTree
  | packetMatchTree
  deriving DecidableEq, Repr

/-- A match tree, with the memory of its nodes, the pool, and the elements that were cleaned up. -/
structure MatchTreeObject (β κ : Type) extends LinkedTree (Cell β) where
  pool : κ
  cleaned : List ℕ

namespace MatchTreeObject

variable {β κ : Type}

def cleanUpElement (cls : MatchTreeClass) (B : PlacementBackend κ) (position : ExplicitNodeIterator)
    (S : MatchTreeObject β κ) : Option (ReturnValue × MatchTreeObject β κ) :=
  let S := { S with cleaned := S.cleaned ++ position.toList }
  match cls with
  | .matchTree => some (.ok, S)
  | .eventMatchTree | .packetMatchTree => do
      let element ← position
      let n ← S.node element
      let (_, pool) := PlacementFactory.destroy B (some n.value.address) S.pool
      let (result, pool) := PlacementFactory.destroy B (some element) pool
      return (result, { S with node := Function.update S.node element none, pool := pool })

def isOnAndBranch (S : MatchTreeObject β κ) (position : ExplicitNodeIterator) : Option Bool :=
  if position = none then
    some false
  else do
    let above ← up S.node position
    if above = none then
      return false
    let leftOfAbove ← left S.node above
    return leftOfAbove = position

def removeElementAndAllChildren (cls : MatchTreeClass) (B : PlacementBackend κ) :
    ℕ → ExplicitNodeIterator → MatchTreeObject β κ → Option (ReturnValue × MatchTreeObject β κ)
  | 0, _, _ => none
  | fuel + 1, position, S => do
      let ((first, second), tree) ← S.toLinkedTree.erase position
      let S := { S with toLinkedTree := tree }
      let (result, S) ←
        if first ≠ none then removeElementAndAllChildren cls B fuel first S else some (.ok, S)
      if result ≠ .ok then
        return (result, S)
      let (result, S) ←
        if second ≠ none then removeElementAndAllChildren cls B fuel second S
        else some (result, S)
      if result ≠ .ok then
        return (result, S)
      cleanUpElement cls B position S

def removeElementAndReconnectChildren (cls : MatchTreeClass) (B : PlacementBackend κ) :
    ℕ → ExplicitNodeIterator → MatchTreeObject β κ → Option (ReturnValue × MatchTreeObject β κ)
  | 0, _, _ => none
  | _ + 1, none, S => some (.ok, S)
  | fuel + 1, some element, S => do
      let position := some element
      let leftOfPosition ← left S.node position
      let (result, S) ←
        if leftOfPosition ≠ none then removeElementAndAllChildren cls B fuel leftOfPosition S
        else some (.ok, S)
      if result ≠ .ok then
        return (result, S)
      let rightOfPosition ← right S.node position
      let above ← up S.node position
      let onAndBranch ← S.isOnAndBranch position
      match rightOfPosition with
      | some newNode =>
          let branch := if onAndBranch then MatchTree.AND else MatchTree.OR
          let tree ← S.toLinkedTree.insert branch above newNode
          cleanUpElement cls B position { S with toLinkedTree := tree }
      | none =>
          if onAndBranch then
            removeElementAndReconnectChildren cls B fuel above S
          else
            let (_, tree) ← S.toLinkedTree.erase position
            cleanUpElement cls B position { S with toLinkedTree := tree }

/-! ### Cleaning up -/

/-- The addresses of nodes and their matchers. -/
def cells (elements : List (Cell (Cell β))) : List ℕ :=
  elements.flatMap fun element => [element.address, element.value.address]

/-- The elements of the pool that are given back when these elements are cleaned up. -/
def released (cls : MatchTreeClass) (elements : List (Cell (Cell β))) : Finset ℕ :=
  if cls = .matchTree then ∅ else (cells elements).toFinset

section

variable {cls : MatchTreeClass} {B : PlacementBackend κ} {laws : B.Reliable}
  {S S' S'' : MatchTreeObject β κ} {xs ys : List (Cell (Cell β))}

theorem mem_cells_of_perm (h : xs.Perm ys) :
  (cells xs).Perm (cells ys)
  := h.flatMap_right _

theorem cells_append :
  cells (xs ++ ys) = cells xs ++ cells ys
  := List.flatMap_append

theorem released_append :
  released cls (xs ++ ys) = released cls xs ∪ released cls ys
  := by
  rw [released, released, released]
  split_ifs
  · rfl
  · rw [cells_append, List.toFinset_append]

theorem released_perm (h : xs.Perm ys) :
  released cls xs = released cls ys
  := by
  rw [released, released, List.toFinset_eq_of_perm _ _ (mem_cells_of_perm h)]

/-- The nodes and matchers are elements of the pool of their own, if the class uses the pool. -/
def Owned (cls : MatchTreeClass) (occupied : Finset ℕ) (elements : List (Cell (Cell β))) : Prop :=
  cls ≠ .matchTree → (cells elements).Nodup ∧ ∀ a ∈ cells elements, a ∈ occupied

theorem Owned.perm {occupied : Finset ℕ} (h : Owned cls occupied xs) (hperm : xs.Perm ys) :
  Owned cls occupied ys
  := by
  intro hcls
  obtain ⟨hnodup, hmem⟩ := h hcls
  have hcells := mem_cells_of_perm hperm
  use hcells.nodup_iff.mp hnodup
  intro a ha
  exact hmem a (hcells.mem_iff.mpr ha)

theorem Owned.left {occupied : Finset ℕ} (h : Owned cls occupied (xs ++ ys)) :
  Owned cls occupied xs
  := by
  intro hcls
  obtain ⟨hnodup, hmem⟩ := h hcls
  rw [cells_append] at hnodup hmem
  use hnodup.of_append_left
  intro a ha
  exact hmem a (List.mem_append_left _ ha)

/-- Elements were cleaned up, each of them once. -/
structure CleansUp (cls : MatchTreeClass) (laws : B.Reliable) (S S' : MatchTreeObject β κ)
    (elements : List (Cell (Cell β))) : Prop where
  cleaned : ∃ order, S'.cleaned = S.cleaned ++ order ∧
    order.Perm (elements.map Cell.address)
  occupied : laws.occupied S'.pool = laws.occupied S.pool \ released cls elements

theorem cleansUp_nil (hcleaned : S'.cleaned = S.cleaned) (hpool : S'.pool = S.pool) :
  CleansUp cls laws S S' []
  := by
  constructor
  · use [], by rw [hcleaned, List.append_nil]
    rfl
  · rw [hpool, released]
    split_ifs
    · rw [Finset.sdiff_empty]
    · rw [cells, List.flatMap_nil, List.toFinset_nil, Finset.sdiff_empty]

theorem CleansUp.trans (h : CleansUp cls laws S S' xs) (h' : CleansUp cls laws S' S'' ys) :
  CleansUp cls laws S S'' (xs ++ ys)
  := by
  obtain ⟨⟨order, hcleaned, hperm⟩, hoccupied⟩ := h
  obtain ⟨⟨order', hcleaned', hperm'⟩, hoccupied'⟩ := h'
  constructor
  · use order ++ order', by rw [hcleaned', hcleaned, List.append_assoc]
    rw [List.map_append]
    exact hperm.append hperm'
  · rw [hoccupied', hoccupied, released_append, sdiff_sdiff]
    rfl

theorem CleansUp.perm (h : CleansUp cls laws S S' xs) (hperm : xs.Perm ys) :
  CleansUp cls laws S S' ys
  := by
  obtain ⟨⟨order, hcleaned, horder⟩, hoccupied⟩ := h
  constructor
  · exact ⟨order, hcleaned, horder.trans (hperm.map _)⟩
  · rw [hoccupied, released_perm hperm]

/-- What was not cleaned up can still be cleaned up. -/
theorem CleansUp.owned (h : CleansUp cls laws S S' xs)
    (howned : Owned cls (laws.occupied S.pool) (xs ++ ys)) :
  Owned cls (laws.occupied S'.pool) ys
  := by
  intro hcls
  obtain ⟨hnodup, hmem⟩ := howned hcls
  rw [cells_append] at hnodup hmem
  obtain ⟨-, hys, hapart⟩ := List.nodup_append.mp hnodup
  use hys
  intro a ha
  rw [h.occupied, released, if_neg hcls, Finset.mem_sdiff, List.mem_toFinset]
  use hmem a (List.mem_append_right _ ha)
  intro ha'
  exact hapart a ha' a ha rfl

/-- An element of the pool is given back. -/
theorem cleanUpElement_pool {element : Cell (Cell β)} {n : BinaryNode (Cell β)}
    (hcls : cls ≠ .matchTree) (hnode : S.node element.address = some n) :
  cleanUpElement cls B (some element.address) S =
    some ((B.deleteData element.address (B.deleteData n.value.address S.pool).2).1,
      { S with
        node := Function.update S.node element.address none
        pool := (B.deleteData element.address (B.deleteData n.value.address S.pool).2).2
        cleaned := S.cleaned ++ [element.address] })
  := by
  cases cls with
  | matchTree => exact absurd rfl hcls
  | eventMatchTree => simp [cleanUpElement, hnode, PlacementFactory.destroy]
  | packetMatchTree => simp [cleanUpElement, hnode, PlacementFactory.destroy]

/-- The node and its matcher are given back. -/
theorem cleanUpElement_spec (cls : MatchTreeClass) (laws : B.Reliable)
    {element : Cell (Cell β)} {n : BinaryNode (Cell β)}
    (hnode : S.node element.address = some n) (hvalue : n.value = element.value)
    (howned : Owned cls (laws.occupied S.pool) [element]) :
  ∃ S', cleanUpElement cls B (some element.address) S = some (.ok, S') ∧
    CleansUp cls laws S S' [element] ∧ S'.rootNode = S.rootNode ∧
    ∀ a, a ≠ element.address → S'.node a = S.node a
  := by
  by_cases hcls : cls = .matchTree
  · subst hcls
    use { S with cleaned := S.cleaned ++ [element.address] }, rfl
    refine ⟨⟨⟨[element.address], rfl, .refl _⟩, ?_⟩, rfl, fun a _ => rfl⟩
    exact (Finset.sdiff_empty).symm
  · obtain ⟨hnodup, hmem⟩ := howned hcls
    have hne : element.address ≠ element.value.address := by
      simpa [cells] using hnodup
    have hvalueMem : element.value.address ∈ laws.occupied S.pool :=
      hmem _ (by simp [cells])
    have hoccupied := laws.occupied_deleteData _ _ hvalueMem
    have hmem' : element.address ∈
        laws.occupied (B.deleteData element.value.address S.pool).2 := by
      rw [hoccupied, Finset.mem_erase]
      exact ⟨hne, hmem _ (by simp [cells])⟩
    rw [cleanUpElement_pool hcls hnode, hvalue, laws.deleteData_ok _ _ hmem']
    refine ⟨_, rfl, ⟨⟨[element.address], rfl, .refl _⟩, ?_⟩, rfl, ?_⟩
    · rw [laws.occupied_deleteData _ _ hmem', hoccupied, released, if_neg hcls]
      ext a
      simp [cells, and_comm, and_assoc]
    · intro a ha
      simp only [Function.update_of_ne ha]

/-! ### Removing subtrees -/

/-- The call that removes what is below a node, if there is anything. -/
def removeBelow (cls : MatchTreeClass) (B : PlacementBackend κ) (fuel : ℕ)
    (child : ExplicitNodeIterator) (S : MatchTreeObject β κ) :
    Option (ReturnValue × MatchTreeObject β κ) :=
  if child ≠ none then removeElementAndAllChildren cls B fuel child S else some (.ok, S)

/-- A subtree that hangs at a branch of a node can be removed. -/
structure HangsAt (cls : MatchTreeClass) (laws : B.Reliable) (S : MatchTreeObject β κ) (address : ℕ)
    (n : BinaryNode (Cell β)) (branch : Bool) (u : BinaryTree (Cell (Cell β))) : Prop where
  node_eq : S.node address = some n
  child_eq : n.child branch = u.root
  left_eq : branch = false → n.left = none
  represents : Represents S.node (some address) u
  nodup : u.addresses.Nodup
  notMem : address ∉ u.addresses
  rootNode_ne : ∀ a ∈ u.addresses, S.rootNode ≠ some a
  owned : Owned cls (laws.occupied S.pool) u.entries

/-- The subtree at a branch of a node is cleaned up, and only the link to it is changed besides. -/
def RemovesBelow (cls : MatchTreeClass) (laws : B.Reliable) (u : BinaryTree (Cell (Cell β))) :
    Prop :=
  ∀ {fuel : ℕ} {S : MatchTreeObject β κ} {address : ℕ} {n : BinaryNode (Cell β)} {branch : Bool},
    u.numNodes ≤ fuel → HangsAt cls laws S address n branch u →
    ∃ S', removeBelow cls B fuel u.root S = some (.ok, S') ∧ CleansUp cls laws S S' u.entries ∧
      S'.rootNode = S.rootNode ∧ S'.node address = some (n.setChild branch none) ∧
      ∀ a, a ∉ u.addresses → a ≠ address → S'.node a = S.node a

theorem removeElementAndAllChildren_eq {fuel : ℕ} {position first second : ExplicitNodeIterator}
    {tree : LinkedTree (Cell β)}
    (herase : S.toLinkedTree.erase position = some ((first, second), tree))
    (hfirst : removeBelow cls B fuel first { S with toLinkedTree := tree } = some (.ok, S'))
    (hsecond : removeBelow cls B fuel second S' = some (.ok, S'')) :
  removeElementAndAllChildren cls B (fuel + 1) position S = cleanUpElement cls B position S''
  := by
  rw [removeBelow] at hfirst hsecond
  rw [removeElementAndAllChildren]
  simp only [herase, Option.bind_eq_bind, Option.bind_some]
  split_ifs at hfirst hsecond with h h'
  · simp [h, h', hfirst, hsecond]
  · cases hsecond
    simp [h, h', hfirst]
  · cases hfirst
    simp_all
  · cases hfirst
    cases hsecond
    simp_all

/-- An element is removed after it was erased. -/
theorem removeElementAndAllChildren_of_erase {element : Cell (Cell β)}
    {l r : BinaryTree (Cell (Cell β))} {fuel : ℕ} {tree : LinkedTree (Cell β)}
    {parent : Option ℕ} (hl : RemovesBelow cls laws l) (hr : RemovesBelow cls laws r)
    (hfuel : (node element l r).numNodes ≤ fuel + 1)
    (herase : S.toLinkedTree.erase (some element.address) = some ((l.root, r.root), tree))
    (hrep : Represents tree.node parent (node element l r))
    (hnodup : (node element l r).addresses.Nodup)
    (hroot : ∀ a ∈ (node element l r).addresses, tree.rootNode ≠ some a)
    (howned : Owned cls (laws.occupied S.pool) (node element l r).entries) :
  ∃ S', removeElementAndAllChildren cls B (fuel + 1) (some element.address) S = some (.ok, S') ∧
    CleansUp cls laws S S' (node element l r).entries ∧ S'.rootNode = tree.rootNode ∧
    ∀ a, a ∉ (node element l r).addresses → S'.node a = tree.node a
  := by
  obtain ⟨helement, hleft, hright⟩ := hrep
  obtain ⟨⟨hnotLeft, hnotRight⟩, hnodupLeft, hnodupRight, hapart⟩ := nodup_node_iff.mp hnodup
  rw [numNodes] at hfuel
  rw [addresses_node] at hroot
  -- The elements in the order in which they are cleaned up.
  have horder : (node element l r).entries.Perm (l.entries ++ (r.entries ++ [element])) := by
    rw [entries, ← List.append_assoc]
    exact (List.perm_append_singleton element _).symm
  have howned := howned.perm horder
  obtain ⟨S₁, hfirst, hcleans₁, hroot₁, hnode₁, hother₁⟩ :=
    hl (show l.numNodes ≤ fuel by omega)
      (show HangsAt cls laws { S with toLinkedTree := tree } _ _ true l from
        { node_eq := helement
          child_eq := rfl
          left_eq := Bool.noConfusion
          represents := hleft
          nodup := hnodupLeft
          notMem := hnotLeft
          rootNode_ne := fun a ha =>
            hroot a (List.mem_cons_of_mem _ (List.mem_append_left _ ha))
          owned := howned.left })
  have hcleans₁ : CleansUp cls laws S S₁ l.entries := ⟨hcleans₁.cleaned, hcleans₁.occupied⟩
  have howned₁ := hcleans₁.owned howned
  obtain ⟨S₂, hsecond, hcleans₂, hroot₂, hnode₂, hother₂⟩ :=
    hr (show r.numNodes ≤ fuel by omega)
      (show HangsAt cls laws S₁ _ _ false r from
        { node_eq := hnode₁
          child_eq := rfl
          left_eq := fun _ => rfl
          represents := hright.congr fun a ha => hother₁ a (fun ha' => hapart a ha' ha)
            (fun heq => hnotRight (heq ▸ ha))
          nodup := hnodupRight
          notMem := hnotRight
          rootNode_ne := fun a ha => hroot₁ ▸
            hroot a (List.mem_cons_of_mem _ (List.mem_append_right _ ha))
          owned := howned₁.left })
  obtain ⟨S₃, hcleanUp, hcleans₃, hroot₃, hother₃⟩ :=
    cleanUpElement_spec cls laws hnode₂ rfl (hcleans₂.owned howned₁)
  rw [removeElementAndAllChildren_eq herase hfirst hsecond]
  refine ⟨S₃, hcleanUp, ((hcleans₁.trans (hcleans₂.trans hcleans₃)).perm horder.symm), ?_, ?_⟩
  · rw [hroot₃, hroot₂, hroot₁]
  · intro a ha
    rw [addresses_node, List.mem_cons, List.mem_append, not_or, not_or] at ha
    rw [hother₃ a ha.1, hother₂ a ha.2.2 ha.1, hother₁ a ha.2.1 ha.1]

theorem removesBelow (cls : MatchTreeClass) (laws : B.Reliable) (u : BinaryTree (Cell (Cell β))) :
  RemovesBelow cls laws u
  := by
  induction u with
  | nil =>
      intro fuel S address n branch _ h
      have hchild : n.setChild branch none = n := by
        have hnone := h.child_eq
        cases branch with
        | true => exact LinkedNode.ext rfl hnone.symm rfl rfl
        | false => exact LinkedNode.ext rfl rfl hnone.symm rfl
      refine ⟨S, rfl, cleansUp_nil rfl rfl, rfl, ?_, fun _ _ _ => rfl⟩
      rw [hchild, h.node_eq]
  | node element l r ihl ihr =>
      intro fuel S address n branch hfuel h
      obtain _ | fuel := fuel
      · rw [numNodes] at hfuel
        omega
      have hmem : element.address ∈ (node element l r).addresses := by
        rw [addresses_node]
        exact List.mem_cons_self
      have hne : element.address ≠ address := by
        rintro heq
        exact h.notMem (heq ▸ hmem)
      have herase := LinkedTree.erase_child (S := S.toLinkedTree) (h.rootNode_ne _ hmem)
        h.represents.1 rfl h.node_eq h.child_eq
        (fun hbranch => by rw [h.left_eq hbranch]; exact (Option.some_ne_none _).symm) hne
      obtain ⟨S', hremove, hcleans, hroot, hother⟩ :=
        removeElementAndAllChildren_of_erase ihl ihr hfuel herase
          (h.represents.congr fun a ha =>
            LinkedTree.node_setLink_of_ne (fun heq => h.notMem (heq ▸ ha)))
          h.nodup h.rootNode_ne h.owned
      refine ⟨S', hremove, hcleans, hroot, ?_, ?_⟩
      · rw [hother address h.notMem, LinkedTree.node_setLink h.node_eq]
      · intro a ha hane
        rw [hother a ha, LinkedTree.node_setLink_of_ne hane]

end

end MatchTreeObject
