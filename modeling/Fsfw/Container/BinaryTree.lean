import Fsfw.Library.LinkedTree

/-!
# Binary trees in memory

The nodes of a binary tree are in memory, and the tree knows the address of its root.  An iterator is
the address of a node, or null.  To look at a node that is not there is undefined (`none`), also when
it has been there before.

When the memory represents a tree, `insert` and `erase` change the links to the nodes that they are
called with, and nothing else (`insert_child`, `erase_child`).
-/

abbrev BinaryNode (α : Type) := LinkedNode α

abbrev ExplicitNodeIterator := Option ℕ

namespace ExplicitNodeIterator

variable {α : Type}

def up (h : NodeMemory α) (iter : ExplicitNodeIterator) : Option ExplicitNodeIterator := do
  let element ← iter
  let n ← h element
  return n.parent

def left (h : NodeMemory α) : ExplicitNodeIterator → Option ExplicitNodeIterator
  | none => some none
  | some element => (h element).map (·.left)

def right (h : NodeMemory α) : ExplicitNodeIterator → Option ExplicitNodeIterator
  | none => some none
  | some element => (h element).map (·.right)

end ExplicitNodeIterator

open ExplicitNodeIterator

/-- A tree, and the memory that its nodes are in. -/
structure LinkedTree (α : Type) where
  rootNode : Option ℕ
  node : NodeMemory α

namespace LinkedTree

variable {α : Type}

/-- Change the link of a node to a child. -/
def setLink (S : LinkedTree α) (address : ℕ) (branch : Bool) (link : Option ℕ) : LinkedTree α :=
  { S with
    node := Function.update S.node address
      ((S.node address).map (·.setChild branch link)) }

/-- Change the link of a node to its parent. -/
def setParent (S : LinkedTree α) (address : ℕ) (link : Option ℕ) : LinkedTree α :=
  { S with
    node := Function.update S.node address
      ((S.node address).map fun n => { n with parent := link }) }

def insert (S : LinkedTree α) (insertLeft : Bool) (parentNode : ExplicitNodeIterator)
    (newNode : ℕ) : Option (LinkedTree α) := do
  let _ ← S.node newNode
  let S := S.setParent newNode parentNode
  match parentNode with
  | none => return { S with rootNode := some newNode }
  | some element =>
      let _ ← S.node element
      return S.setLink element insertLeft (some newNode)

/-- Delete the link to a node, in the tree or in the node above. -/
def deleteReference (S : LinkedTree α) (iter : ExplicitNodeIterator) : Option (LinkedTree α) :=
  if iter = S.rootNode then
    some { S with rootNode := none }
  else do
    let above ← up S.node iter
    let leftOfAbove ← left S.node above
    let element ← above
    let _ ← S.node element
    return S.setLink element (leftOfAbove = iter) none

/-- The children of the node are returned, and not looked after. -/
def erase (S : LinkedTree α) (iter : ExplicitNodeIterator) :
    Option ((ExplicitNodeIterator × ExplicitNodeIterator) × LinkedTree α) := do
  let S ← S.deleteReference iter
  let element ← iter
  let n ← S.node element
  return ((n.left, n.right), S)

/-- The number of nodes from an iterator on along the right branch. -/
def countRight (h : NodeMemory α) : ℕ → ExplicitNodeIterator → Option UInt32
  | _, none => some 0
  | 0, some _ => none
  | fuel + 1, some element => do
      let n ← h element
      let count ← countRight h fuel n.right
      return 1 + count

/-! ### What the changes do -/

variable {S : LinkedTree α} {a b : ℕ} {branch : Bool} {link : Option ℕ} {n : BinaryNode α}

@[simp]
theorem rootNode_setLink : (S.setLink a branch link).rootNode = S.rootNode := rfl

@[simp]
theorem rootNode_setParent : (S.setParent a link).rootNode = S.rootNode := rfl

theorem node_setLink (h : S.node a = some n) :
  (S.setLink a branch link).node a = some (n.setChild branch link)
  := by
  simp only [setLink, Function.update_self, h, Option.map_some]

theorem node_setLink_of_ne (h : b ≠ a) :
  (S.setLink a branch link).node b = S.node b
  := by
  simp only [setLink, Function.update_of_ne h]

theorem node_setParent (h : S.node a = some n) :
  (S.setParent a link).node a = some { n with parent := link }
  := by
  simp only [setParent, Function.update_self, h, Option.map_some]

theorem node_setParent_of_ne (h : b ≠ a) :
  (S.setParent a link).node b = S.node b
  := by
  simp only [setParent, Function.update_of_ne h]

/-- The root is erased. -/
theorem erase_root (hroot : S.rootNode = some a) (hnode : S.node a = some n) :
  S.erase (some a) = some ((n.left, n.right), { S with rootNode := none })
  := by
  rw [erase, deleteReference, if_pos hroot.symm]
  simp only [Option.bind_eq_bind, Option.bind_some, hnode]
  rfl

/-- A child is erased. -/
theorem erase_child {m : BinaryNode α} (hroot : S.rootNode ≠ some a) (hnode : S.node a = some n)
    (hparent : n.parent = some b) (habove : S.node b = some m) (hlink : m.child branch = some a)
    (hleft : branch = false → m.left ≠ some a) (hne : a ≠ b) :
  S.erase (some a) = some ((n.left, n.right), S.setLink b branch none)
  := by
  have hbranch : decide (m.left = some a) = branch := by
    cases branch with
    | true => exact decide_eq_true hlink
    | false => exact decide_eq_false (hleft rfl)
  rw [erase, deleteReference, if_neg hroot.symm]
  simp only [up, left, Option.bind_eq_bind, Option.bind_some, hnode, hparent, habove,
    Option.map_some, pure, hbranch, node_setLink_of_ne hne]

theorem insert_root (branch : Bool) (hnode : S.node a = some n) :
  S.insert branch none a = some { S.setParent a none with rootNode := some a }
  := by
  simp only [insert, hnode, Option.bind_eq_bind, Option.bind_some]
  rfl

theorem insert_child {m : BinaryNode α} (branch : Bool) (hnode : S.node a = some n)
    (habove : S.node b = some m) (hne : b ≠ a) :
  S.insert branch (some b) a = some ((S.setParent a (some b)).setLink b branch (some a))
  := by
  simp only [insert, hnode, node_setParent_of_ne hne, habove, Option.bind_eq_bind,
    Option.bind_some]
  rfl

end LinkedTree
