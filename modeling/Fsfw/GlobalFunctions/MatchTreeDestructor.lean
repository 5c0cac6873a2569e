import Fsfw.GlobalFunctions.MatchTreeElements

/-!
# Destroyed match trees

To clear a match tree, the memory is walked from leaf to leaf.  Each leaf is cut from the node above
and cleaned up.  The walk begins at the AND branch of the root, where there must be something, and it
ends at a node that has nothing above, which is not the root if the tree is a part of another one.
When a tree is destroyed, the functions of its class are not called any more, so that cleaning up
gives nothing back.

The destructor of a tree that is not empty is undefined, or it takes links from the memory
(`destructor_ne`).
-/

open BinaryTree ExplicitNodeIterator

namespace MatchTreeObject

variable {β κ : Type}

/-- The loop that clears a tree, from the node that it has come to. -/
def clearLoop (cls : MatchTreeClass) (B : PlacementBackend κ) :
    ℕ → ExplicitNodeIterator → MatchTreeObject β κ → Option (MatchTreeObject β κ)
  | 0, _, _ => none
  | fuel + 1, position, S => do
      let element ← position
      let n ← S.node element
      if n.left ≠ none then
        clearLoop cls B fuel n.left S
      else if n.right ≠ none then
        clearLoop cls B fuel n.right S
      else
        match n.parent with
        | none =>
            -- The values are never null.
            let (_, S) ← cleanUpElement cls B position S
            return S
        | some parent =>
            let m ← S.node parent
            let tree := S.toLinkedTree.setLink parent (m.left = position) none
            let (_, S) ← cleanUpElement cls B position { S with toLinkedTree := tree }
            clearLoop cls B fuel (some parent) S

def clear (cls : MatchTreeClass) (B : PlacementBackend κ) (fuel : ℕ) (S : MatchTreeObject β κ) :
    Option (MatchTreeObject β κ) :=
  match S.rootNode with
  | none => some S
  | some localRoot => do
      let n ← S.node localRoot
      clearLoop cls B fuel n.left S

/-- The tree is cleared as one of the class `MatchTree`, whatever it has been. -/
def destructor (B : PlacementBackend κ) (fuel : ℕ) (S : MatchTreeObject β κ) :
    Option (MatchTreeObject β κ) :=
  clear .matchTree B fuel S

/-! ### What a destructor does -/

/-- Links are taken from the memory, and that is all. -/
structure Prunes (S S' : MatchTreeObject β κ) : Prop where
  node : S'.node.Pruned S.node
  rootNode_eq : S'.rootNode = S.rootNode
  pool_eq : S'.pool = S.pool

variable {B : PlacementBackend κ} {fuel : ℕ} {S S' S'' : MatchTreeObject β κ}

theorem Prunes.refl (S : MatchTreeObject β κ) :
  Prunes S S
  := ⟨.refl _, rfl, rfl⟩

theorem Prunes.trans (h : Prunes S S') (h' : Prunes S' S'') :
  Prunes S S''
  := ⟨h'.node.trans h.node, h'.rootNode_eq.trans h.rootNode_eq, h'.pool_eq.trans h.pool_eq⟩

/-- When nothing is changed from the first to the last one, nothing is changed on the way. -/
theorem Prunes.eq_of_eq (h : Prunes S S') (h' : Prunes S' S'') (heq : S''.node = S.node) :
  S'.node = S.node
  := h.node.antisymm (heq ▸ h'.node)

/-- A leaf is cut off. -/
theorem prunes_setLink (S : MatchTreeObject β κ) (cleaned : List ℕ) (a : ℕ) (branch : Bool) :
  Prunes S { S with toLinkedTree := S.toLinkedTree.setLink a branch none, cleaned := cleaned }
  := by
  refine ⟨?_, rfl, rfl⟩
  cases h : S.node a with
  | none =>
      intro b
      by_cases hb : b = a
      · subst hb
        simp only [LinkedTree.setLink, Function.update_self, h]
        exact .none
      · simp only [LinkedTree.node_setLink_of_ne hb]
        exact NodeMemory.Pruned.refl _ b
  | some n =>
      simp only [LinkedTree.setLink, h, Option.map_some]
      exact NodeMemory.pruned_update h (n.pruned_setChild branch)

section

variable {a b : ℕ} {n m : BinaryNode (Cell β)}

/-- The loop goes down the AND branch. -/
theorem clearLoop_left (hnode : S.node a = some n) (hleft : n.left ≠ none) :
  clearLoop .matchTree B (fuel + 1) (some a) S = clearLoop .matchTree B fuel n.left S
  := by
  simp [clearLoop, hnode, hleft]

/-- The loop goes down the OR branch. -/
theorem clearLoop_right (hnode : S.node a = some n) (hleft : n.left = none)
    (hright : n.right ≠ none) :
  clearLoop .matchTree B (fuel + 1) (some a) S = clearLoop .matchTree B fuel n.right S
  := by
  simp [clearLoop, hnode, hleft, hright]

/-- The loop cuts a leaf and goes up. -/
theorem clearLoop_leaf (hnode : S.node a = some n) (hleft : n.left = none)
    (hright : n.right = none) (hparent : n.parent = some b) (habove : S.node b = some m) :
  clearLoop .matchTree B (fuel + 1) (some a) S = clearLoop .matchTree B fuel (some b)
    { S with
      toLinkedTree := S.toLinkedTree.setLink b (m.left = some a) none
      cleaned := S.cleaned ++ [a] }
  := by
  simp [clearLoop, hnode, hleft, hright, hparent, habove, cleanUpElement]

end

theorem clearLoop_prunes {position : ExplicitNodeIterator}
    (h : clearLoop .matchTree B fuel position S = some S') :
  Prunes S S'
  := by
  induction fuel generalizing position S with
  | zero =>
      cases h
  | succ fuel ih =>
      obtain _ | a := position
      · cases h
      cases hnode : S.node a with
      | none =>
          simp [clearLoop, hnode] at h
      | some n =>
          by_cases hleft : n.left = none
          · by_cases hright : n.right = none
            · cases hparent : n.parent with
              | none =>
                  simp [clearLoop, hnode, hleft, hright, hparent, cleanUpElement] at h
                  rw [← h]
                  exact ⟨.refl _, rfl, rfl⟩
              | some b =>
                  cases habove : S.node b with
                  | none =>
                      simp [clearLoop, hnode, hleft, hright, hparent, habove] at h
                  | some m =>
                      rw [clearLoop_leaf hnode hleft hright hparent habove] at h
                      exact (prunes_setLink S _ b _).trans (ih h)
            · rw [clearLoop_right hnode hleft hright] at h
              exact ih h
          · rw [clearLoop_left hnode hleft] at h
            exact ih h

theorem destructor_prunes (h : destructor B fuel S = some S') :
  Prunes S S'
  := by
  rw [destructor, clear] at h
  cases hroot : S.rootNode with
  | none =>
      rw [hroot] at h
      cases h
      exact .refl _
  | some localRoot =>
      rw [hroot] at h
      obtain ⟨n, -, hloop⟩ := Option.bind_eq_some_iff.mp h
      exact clearLoop_prunes hloop

/-- From a node that is below another one, the loop comes to a leaf and cuts it. -/
theorem clearLoop_ne {u : BinaryTree (Cell (Cell β))} {b : ℕ} {m : BinaryNode (Cell β)}
    {branch : Bool} (hu : u ≠ nil) (hrep : Represents S.node (some b) u)
    (habove : S.node b = some m) (hlink : m.child branch = u.root)
    (h : clearLoop .matchTree B fuel u.root S = some S') :
  S'.node ≠ S.node
  := by
  induction u generalizing b m branch fuel with
  | nil =>
      exact absurd rfl hu
  | node element l r ihl ihr =>
      obtain ⟨hnode, hl, hr⟩ := hrep
      obtain _ | fuel := fuel
      · cases h
      by_cases hleft : l = nil
      · subst hleft
        by_cases hright : r = nil
        · subst hright
          rw [root] at h hlink
          rw [clearLoop_leaf hnode rfl rfl rfl habove] at h
          intro heq
          have hcut := (prunes_setLink S (S.cleaned ++ [element.address]) b
            (m.left = some element.address)).eq_of_eq (clearLoop_prunes h) heq
          -- The link to the leaf is gone.
          have hsame := congrFun hcut b
          rw [LinkedTree.node_setLink habove, habove, Option.some.injEq] at hsame
          have hgone := m.child_setChild (m.left = some element.address) none
          rw [hsame, LinkedNode.child_of_link hlink] at hgone
          cases hgone
        · rw [root, clearLoop_right hnode rfl (mt root_eq_none_iff.mp hright)] at h
          exact ihr hright hr hnode (show LinkedNode.child _ false = _ from rfl) h
      · rw [root, clearLoop_left hnode (mt root_eq_none_iff.mp hleft)] at h
        exact ihl hleft hl hnode (show LinkedNode.child _ true = _ from rfl) h

/-- A tree that is not empty does not stay as it is when it is destroyed. -/
theorem destructor_ne {u : BinaryTree (Cell (Cell β))} {parent : Option ℕ} (hu : u ≠ nil)
    (hroot : S.rootNode = u.root) (hrep : Represents S.node parent u)
    (h : destructor B fuel S = some S') :
  S'.node ≠ S.node
  := by
  cases u with
  | nil =>
      exact absurd rfl hu
  | node element l r =>
      obtain ⟨hnode, hl, -⟩ := hrep
      rw [destructor, clear, hroot, root] at h
      simp only [hnode, Option.bind_eq_bind, Option.bind_some] at h
      by_cases hleft : l = nil
      · subst hleft
        cases fuel <;> cases h
      · exact clearLoop_ne hleft hl hnode (show LinkedNode.child _ true = _ from rfl) h

end MatchTreeObject
