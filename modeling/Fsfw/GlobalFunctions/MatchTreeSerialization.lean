import Fsfw.GlobalFunctions.MatchTreeDestructor
import Fsfw.Serialize.SerialBuffer

/-!
# Serialized match trees

The number of the elements on the OR branch is written, and each of these elements, followed by the
tree on its AND branch as long as the depth allows.  These trees are serialized by temporary trees
that share the elements, and that are destroyed when they are done.

A tree should not be changed when it is serialized, and the bytes that are written should be as many
as are announced.  This is so when no temporary tree has elements, and when the number of bytes can be
counted (`observed_iff`).
-/

open BinaryTree

namespace MatchTreeObject

variable {β κ : Type}

/-- Use a temporary tree with the elements from an iterator on, and destroy it. -/
def withTemp {ω : Type} (B : PlacementBackend κ) (fuel : ℕ) (root : ExplicitNodeIterator)
    (f : MatchTreeObject β κ → Option (ω × MatchTreeObject β κ)) (S : MatchTreeObject β κ) :
    Option (ω × MatchTreeObject β κ) := do
  let (result, temp) ← f { S with rootNode := root }
  let temp ← destructor B fuel temp
  return (result, { temp with rootNode := S.rootNode })

/-- Add up the sizes of the elements from an iterator on along the OR branch, with what is below
them. -/
def sizeLoop (below : ExplicitNodeIterator → MatchTreeObject Serializable κ →
      Option (UInt32 × MatchTreeObject Serializable κ)) :
    ℕ → ExplicitNodeIterator → UInt32 → MatchTreeObject Serializable κ →
    Option (UInt32 × MatchTreeObject Serializable κ)
  | _, none, size, S => some (size, S)
  | 0, some _, _, _ => none
  | fuel + 1, some element, size, S => do
      let n ← S.node element
      let size := size + .ofNat n.value.value.getSerializedSize
      let (sizeBelow, S) ← below n.left S
      -- The links are read again, since they may have been changed.
      let iter ← ExplicitNodeIterator.right S.node (some element)
      sizeLoop below fuel iter (size + sizeBelow) S

/-- One byte is for the number of elements. -/
def getSerializedSize (B : PlacementBackend κ) (fuel : ℕ) :
    (maxDepth : ℕ) → MatchTreeObject Serializable κ →
    Option (UInt32 × MatchTreeObject Serializable κ)
  | 0, S => sizeLoop (fun _ S => some (0, S)) fuel S.rootNode 1 S
  | maxDepth + 1, S =>
      sizeLoop (fun left => withTemp B fuel left (getSerializedSize B fuel maxDepth)) fuel
        S.rootNode 1 S

/-- Write the elements from an iterator on along the OR branch, with what is below them. -/
def serializeLoop (maxSize : ℕ) (e : Endianness)
    (below : ExplicitNodeIterator → SerialBuffer → MatchTreeObject Serializable κ →
      Option ((ReturnValue × SerialBuffer) × MatchTreeObject Serializable κ)) :
    ℕ → ExplicitNodeIterator → SerialBuffer → MatchTreeObject Serializable κ →
    Option ((ReturnValue × SerialBuffer) × MatchTreeObject Serializable κ)
  | _, none, b, S => some ((.ok, b), S)
  | 0, some _, _, _ => none
  | fuel + 1, some element, b, S => do
      let n ← S.node element
      let (result, b) := n.value.value.serialize maxSize e b
      if result ≠ .ok then
        return ((result, b), S)
      let ((result, b), S) ← below n.left b S
      if result ≠ .ok then
        return ((result, b), S)
      let iter ← ExplicitNodeIterator.right S.node (some element)
      serializeLoop maxSize e below fuel iter b S

/-- Write the number of elements, and the elements. -/
def serializeElements (maxSize : ℕ) (e : Endianness)
    (below : ExplicitNodeIterator → SerialBuffer → MatchTreeObject Serializable κ →
      Option ((ReturnValue × SerialBuffer) × MatchTreeObject Serializable κ))
    (fuel : ℕ) (b : SerialBuffer) (S : MatchTreeObject Serializable κ) :
    Option ((ReturnValue × SerialBuffer) × MatchTreeObject Serializable κ) := do
  let count ← LinkedTree.countRight S.node fuel S.rootNode
  let (result, b) := SerializeAdapter.serialize 1 count.toUInt8.toNat maxSize e b
  if result ≠ .ok then
    return ((result, b), S)
  serializeLoop maxSize e below fuel S.rootNode b S

def serialize (B : PlacementBackend κ) (fuel maxSize : ℕ) (e : Endianness) :
    (maxDepth : ℕ) → SerialBuffer → MatchTreeObject Serializable κ →
    Option ((ReturnValue × SerialBuffer) × MatchTreeObject Serializable κ)
  | 0, b, S => serializeElements maxSize e (fun _ b S => some ((.ok, b), S)) fuel b S
  | maxDepth + 1, b, S =>
      serializeElements maxSize e
        (fun left b => withTemp B fuel left (serialize B fuel maxSize e maxDepth b)) fuel b S

/-- A tree is left as it is when it is serialized, and as many bytes are written as announced. -/
def Observed (B : PlacementBackend κ) (maxDepth : ℕ) (S : MatchTreeObject Serializable κ) : Prop :=
  ∃ size : UInt32,
    (∃ fuel S', getSerializedSize B fuel maxDepth S = some (size, S') ∧
      S'.toLinkedTree = S.toLinkedTree) ∧
    ∀ maxSize e b, ∃ fuel result b' S',
      serialize B fuel maxSize e maxDepth b S = some ((result, b'), S') ∧
      S'.toLinkedTree = S.toLinkedTree ∧
      (b.size + size.toNat ≤ maxSize →
        result = .ok ∧ ∃ bytes, b' = b.put bytes ∧ bytes.length = size.toNat)

/-! ### Elements on the OR branch -/

section

variable {α : Type}

/-- The elements on the OR branch. -/
def orBranch : BinaryTree α → List α
  | nil => []
  | node value _ right => value :: orBranch right

/-- No element has another one on its AND branch. -/
def Flat : BinaryTree α → Prop
  | nil => True
  | node _ left right => left = nil ∧ Flat right

/-- Something holds at the AND branch of each element on the OR branch. -/
def AllBelow (P : ExplicitNodeIterator → Prop) : BinaryTree (Cell α) → Prop
  | nil => True
  | node _ left right => P left.root ∧ AllBelow P right

variable {P : ExplicitNodeIterator → Prop} {u : BinaryTree (Cell α)}

theorem allBelow_of_forall (h : ∀ left, P left) (u : BinaryTree (Cell α)) :
  AllBelow P u
  := by
  induction u with
  | nil => trivial
  | node cell left right _ ih => exact ⟨h _, ih⟩

theorem allBelow_of_flat (hflat : Flat u) (h : P none) :
  AllBelow P u
  := by
  induction u with
  | nil =>
      trivial
  | node cell left right _ ih =>
      obtain ⟨rfl, hright⟩ := hflat
      exact ⟨h, ih hright⟩

/-- The number of elements on the OR branch is counted. -/
theorem countRight_eq {h : NodeMemory α} {parent : Option ℕ} (hrep : Represents h parent u)
    (fuel : ℕ) :
  LinkedTree.countRight h fuel u.root
    = if (orBranch u).length ≤ fuel then some (.ofNat (orBranch u).length) else none
  := by
  induction u generalizing parent fuel with
  | nil =>
      cases fuel <;> rfl
  | node cell left right _ ih =>
      obtain ⟨hnode, -, hright⟩ := hrep
      rw [root, orBranch, List.length_cons]
      cases fuel with
      | zero =>
          rfl
      | succ fuel =>
          rw [LinkedTree.countRight]
          simp only [hnode, Option.bind_eq_bind, Option.bind_some, ih hright, Nat.succ_le_succ_iff]
          split_ifs
          · simp [UInt32.ofNat_add, UInt32.add_comm]
          · rfl

end

variable {B : PlacementBackend κ} {fuel maxDepth : ℕ} {S S' : MatchTreeObject Serializable κ}
  {u : BinaryTree (Cell (Cell Serializable))} {parent : Option ℕ}

/-- The sum of the announced sizes, with some more bytes for each element. -/
def announced (more : ℕ) (u : BinaryTree (Cell (Cell Serializable))) : ℕ :=
  ((orBranch u).map fun element => element.value.value.getSerializedSize + more).sum

/-- The bytes of the elements, each of them followed by some more bytes. -/
def elementBytes (e : Endianness) (more : List UInt8) (u : BinaryTree (Cell (Cell Serializable))) :
    List UInt8 :=
  (orBranch u).flatMap fun element => element.value.value.bytes e ++ more

theorem length_elementBytes (e : Endianness) (more : List UInt8)
    (u : BinaryTree (Cell (Cell Serializable))) :
  (elementBytes e more u).length = announced more.length u
  := by
  rw [elementBytes, announced, List.length_flatMap]
  simp only [List.length_append, Serializable.length_bytes]

/-- The size of a tree when nothing is changed below its elements. -/
theorem sizeLoop_eq {below : ExplicitNodeIterator → MatchTreeObject Serializable κ →
      Option (UInt32 × MatchTreeObject Serializable κ)} {more : ℕ}
    (hrep : Represents S.node parent u)
    (hbelow : AllBelow (fun left => below left S = some (.ofNat more, S)) u) (fuel size : ℕ) :
  sizeLoop below fuel u.root (.ofNat size) S
    = if (orBranch u).length ≤ fuel then some (.ofNat (size + announced more u), S) else none
  := by
  induction u generalizing parent fuel size with
  | nil =>
      cases fuel <;> rfl
  | node element left right _ ih =>
      obtain ⟨hnode, -, hright⟩ := hrep
      obtain ⟨hleft, hbelow⟩ := hbelow
      rw [root, orBranch, List.length_cons]
      cases fuel with
      | zero =>
          rfl
      | succ fuel =>
          have hsize : UInt32.ofNat size + .ofNat element.value.value.getSerializedSize + .ofNat more
              = .ofNat (size + (element.value.value.getSerializedSize + more)) := by
            rw [← UInt32.ofNat_add, ← UInt32.ofNat_add, Nat.add_assoc]
          rw [sizeLoop]
          simp only [hnode, Option.bind_eq_bind, Option.bind_some, hleft,
            ExplicitNodeIterator.right, Option.map_some, hsize, ih hright hbelow,
            Nat.succ_le_succ_iff]
          rw [announced, announced, orBranch, List.map_cons, List.sum_cons, Nat.add_assoc]

/-- The bytes of a tree when nothing is changed below its elements. -/
theorem serializeLoop_eq {maxSize : ℕ} {e : Endianness} {more : List UInt8}
    {below : ExplicitNodeIterator → SerialBuffer → MatchTreeObject Serializable κ →
      Option ((ReturnValue × SerialBuffer) × MatchTreeObject Serializable κ)}
    (hrep : Represents S.node parent u)
    (hbelow : AllBelow (fun left => ∀ b : SerialBuffer, b.size + more.length ≤ maxSize →
      below left b S = some ((.ok, b.put more), S)) u) (fuel : ℕ) {b : SerialBuffer}
    (hroom : b.size + announced more.length u ≤ maxSize) :
  serializeLoop maxSize e below fuel u.root b S
    = if (orBranch u).length ≤ fuel then some ((.ok, b.put (elementBytes e more u)), S) else none
  := by
  induction u generalizing parent fuel b with
  | nil =>
      have hnil : b.put (elementBytes e more nil) = b := SerialBuffer.put_nil b
      rw [hnil]
      cases fuel <;> rfl
  | node element left right _ ih =>
      obtain ⟨hnode, -, hright⟩ := hrep
      obtain ⟨hleft, hbelow⟩ := hbelow
      rw [announced, orBranch, List.map_cons, List.sum_cons, ← announced] at hroom
      rw [root, orBranch, List.length_cons]
      cases fuel with
      | zero =>
          rfl
      | succ fuel =>
          have helement := element.value.value.serialize_eq e
            (show b.size + element.value.value.getSerializedSize ≤ maxSize by omega)
          have hlength := element.value.value.length_bytes e
          rw [serializeLoop]
          simp only [hnode, Option.bind_eq_bind, Option.bind_some, helement, ne_eq,
            not_true_eq_false, if_false]
          rw [hleft _ (by rw [SerialBuffer.size_put]; omega)]
          simp only [Option.bind_some, not_true_eq_false, if_false, ExplicitNodeIterator.right,
            hnode, Option.map_some, SerialBuffer.put_put]
          rw [ih hright hbelow fuel (by
            rw [SerialBuffer.size_put, List.length_append]
            omega)]
          simp only [Nat.succ_le_succ_iff, SerialBuffer.put_put, elementBytes, orBranch,
            List.flatMap_cons]

/-- Nothing is changed in a buffer of any size. -/
theorem serializeLoop_unchanged {maxSize : ℕ} {e : Endianness}
    {below : ExplicitNodeIterator → SerialBuffer → MatchTreeObject Serializable κ →
      Option ((ReturnValue × SerialBuffer) × MatchTreeObject Serializable κ)}
    (hrep : Represents S.node parent u)
    (hbelow : AllBelow (fun left => ∀ b, ∃ result, below left b S = some (result, S)) u)
    (hfuel : (orBranch u).length ≤ fuel) (b : SerialBuffer) :
  ∃ result, serializeLoop maxSize e below fuel u.root b S = some (result, S)
  := by
  induction u generalizing parent fuel b with
  | nil =>
      use (.ok, b)
      cases fuel <;> rfl
  | node element left right _ ih =>
      obtain ⟨hnode, -, hright⟩ := hrep
      obtain ⟨hleft, hbelow⟩ := hbelow
      rw [orBranch, List.length_cons] at hfuel
      obtain _ | fuel := fuel
      · cases hfuel
      rcases hwritten : element.value.value.serialize maxSize e b with ⟨result, b₁⟩
      obtain ⟨⟨result', b₂⟩, hleft⟩ := hleft b₁
      obtain ⟨last, hrest⟩ := ih hright hbelow (Nat.succ_le_succ_iff.mp hfuel) b₂
      rw [root, serializeLoop]
      simp only [hnode, Option.bind_eq_bind, Option.bind_some, hwritten, hleft,
        ExplicitNodeIterator.right, Option.map_some, hrest]
      split_ifs
      · exact ⟨_, rfl⟩
      · exact ⟨_, rfl⟩
      · exact ⟨_, rfl⟩

/-! ### Temporary trees -/

/-- A temporary tree without elements changes nothing. -/
theorem withTemp_empty {ω : Type} {result : ω}
    {f : MatchTreeObject Serializable κ → Option (ω × MatchTreeObject Serializable κ)}
    (h : f { S with rootNode := none } = some (result, { S with rootNode := none })) :
  withTemp B fuel none f S = some (result, S)
  := by
  rw [withTemp, h]
  rfl

theorem getSerializedSize_empty (hroot : S.rootNode = none) (maxDepth : ℕ) :
  getSerializedSize B fuel maxDepth S = some (1, S)
  := by
  cases maxDepth with
  | zero =>
      rw [getSerializedSize, hroot]
      cases fuel <;> rfl
  | succ maxDepth =>
      rw [getSerializedSize, hroot]
      cases fuel <;> rfl

/-- The bytes that are written for the tree on an empty AND branch. -/
def emptyBytes (maxDepth : ℕ) (e : Endianness) : List UInt8 :=
  if maxDepth = 0 then [] else SerializeAdapter.bytesOf 1 0 e

theorem serializeElements_empty {maxSize : ℕ} {e : Endianness}
    {below : ExplicitNodeIterator → SerialBuffer → MatchTreeObject Serializable κ →
      Option ((ReturnValue × SerialBuffer) × MatchTreeObject Serializable κ)}
    (hroot : S.rootNode = none) (b : SerialBuffer) :
  serializeElements maxSize e below fuel b S = some (SerializeAdapter.serialize 1 0 maxSize e b, S)
  := by
  have hcount : LinkedTree.countRight S.node fuel none = some 0 := by
    cases fuel <;> rfl
  have hzero : (UInt32.toUInt8 0).toNat = 0 := rfl
  rcases hwritten : SerializeAdapter.serialize 1 0 maxSize e b with ⟨result, b'⟩
  rw [serializeElements, hroot, hcount]
  simp only [Option.bind_eq_bind, Option.bind_some, hzero, hwritten]
  split_ifs with h
  · rfl
  · rw [not_not.mp h]
    cases fuel <;> rfl

theorem serialize_empty {maxSize : ℕ} {e : Endianness} (hroot : S.rootNode = none) (maxDepth : ℕ)
    (b : SerialBuffer) :
  serialize B fuel maxSize e maxDepth b S = some (SerializeAdapter.serialize 1 0 maxSize e b, S)
  := by
  cases maxDepth with
  | zero => exact serializeElements_empty hroot b
  | succ maxDepth => exact serializeElements_empty hroot b

/-! ### What is written -/

/-- The number of bytes of a tree, with one byte for each empty AND branch that is looked at. -/
def totalSize (maxDepth : ℕ) (u : BinaryTree (Cell (Cell Serializable))) : ℕ :=
  1 + announced (if maxDepth = 0 then 0 else 1) u

theorem length_emptyBytes (maxDepth : ℕ) (e : Endianness) :
  (emptyBytes maxDepth e).length = if maxDepth = 0 then 0 else 1
  := by
  rw [emptyBytes]
  split_ifs
  · rfl
  · exact SerializeAdapter.length_bytesOf 1 0 e

/-- The temporary trees are never made, or have no elements. -/
def Quiet (maxDepth : ℕ) (u : BinaryTree (Cell (Cell Serializable))) : Prop :=
  maxDepth = 0 ∨ Flat u

theorem getSerializedSize_eq (hrep : Represents S.node parent u) (hroot : S.rootNode = u.root)
    (hquiet : Quiet maxDepth u) (fuel : ℕ) :
  getSerializedSize B fuel maxDepth S
    = if (orBranch u).length ≤ fuel then some (.ofNat (totalSize maxDepth u), S) else none
  := by
  cases maxDepth with
  | zero =>
      rw [getSerializedSize, hroot]
      exact sizeLoop_eq hrep (allBelow_of_forall (fun _ => rfl) u) fuel 1
  | succ maxDepth =>
      have hflat := hquiet.resolve_left (Nat.succ_ne_zero maxDepth)
      rw [getSerializedSize, hroot]
      exact sizeLoop_eq hrep
        (allBelow_of_flat hflat (withTemp_empty (getSerializedSize_empty rfl maxDepth))) fuel 1

/-- The bytes of a tree. -/
def treeBytes (maxDepth : ℕ) (e : Endianness) (u : BinaryTree (Cell (Cell Serializable))) :
    List UInt8 :=
  SerializeAdapter.bytesOf 1 (UInt32.ofNat (orBranch u).length).toUInt8.toNat e ++
    elementBytes e (emptyBytes maxDepth e) u

theorem length_treeBytes (maxDepth : ℕ) (e : Endianness)
    (u : BinaryTree (Cell (Cell Serializable))) :
  (treeBytes maxDepth e u).length = totalSize maxDepth u
  := by
  rw [treeBytes, List.length_append, SerializeAdapter.length_bytesOf, length_elementBytes,
    length_emptyBytes, totalSize]

theorem serializeElements_eq {maxSize : ℕ} {e : Endianness}
    {below : ExplicitNodeIterator → SerialBuffer → MatchTreeObject Serializable κ →
      Option ((ReturnValue × SerialBuffer) × MatchTreeObject Serializable κ)}
    (hrep : Represents S.node parent u) (hroot : S.rootNode = u.root)
    (hbelow : AllBelow (fun left => ∀ b : SerialBuffer,
      b.size + (emptyBytes maxDepth e).length ≤ maxSize →
      below left b S = some ((.ok, b.put (emptyBytes maxDepth e)), S)) u)
    (fuel : ℕ) {b : SerialBuffer} (hroom : b.size + totalSize maxDepth u ≤ maxSize) :
  serializeElements maxSize e below fuel b S
    = if (orBranch u).length ≤ fuel then some ((.ok, b.put (treeBytes maxDepth e u)), S) else none
  := by
  have hone : ∀ n, (SerializeAdapter.bytesOf 1 n e).length = 1 :=
    fun n => SerializeAdapter.length_bytesOf 1 n e
  rw [totalSize, ← length_emptyBytes maxDepth e] at hroom
  rw [serializeElements, hroot, countRight_eq hrep]
  split_ifs with hfuel
  · simp only [Option.bind_eq_bind, Option.bind_some]
    rw [SerializeAdapter.writesGivenRoom_serialize Nat.one_pos _ e (by rw [hone]; omega)]
    simp only [ne_eq, not_true_eq_false, if_false]
    rw [serializeLoop_eq hrep hbelow fuel (by rw [SerialBuffer.size_put, hone]; omega),
      if_pos hfuel, SerialBuffer.put_put]
    rfl
  · rfl

/-- With room for them, the bytes that were announced are written. -/
theorem serialize_eq (hrep : Represents S.node parent u) (hroot : S.rootNode = u.root)
    (hquiet : Quiet maxDepth u) (fuel : ℕ) {maxSize : ℕ} (e : Endianness) {b : SerialBuffer}
    (hroom : b.size + totalSize maxDepth u ≤ maxSize) :
  serialize B fuel maxSize e maxDepth b S
    = if (orBranch u).length ≤ fuel then some ((.ok, b.put (treeBytes maxDepth e u)), S) else none
  := by
  cases maxDepth with
  | zero =>
      apply serializeElements_eq hrep hroot _ fuel hroom
      apply allBelow_of_forall
      intro left b _
      rw [emptyBytes, if_pos rfl, SerialBuffer.put_nil]
  | succ maxDepth =>
      apply serializeElements_eq hrep hroot _ fuel hroom
      apply allBelow_of_flat (hquiet.resolve_left (Nat.succ_ne_zero maxDepth))
      intro b hroom
      apply withTemp_empty
      rw [serialize_empty rfl]
      rw [SerializeAdapter.writesGivenRoom_serialize Nat.one_pos 0 e hroom]
      rfl

/-- In a buffer of any size, nothing is changed. -/
theorem serialize_unchanged (hrep : Represents S.node parent u) (hroot : S.rootNode = u.root)
    (hquiet : Quiet maxDepth u) (hfuel : (orBranch u).length ≤ fuel) (maxSize : ℕ)
    (e : Endianness) (b : SerialBuffer) :
  ∃ result, serialize B fuel maxSize e maxDepth b S = some (result, S)
  := by
  have helements : ∀ below, AllBelow (fun left => ∀ b, ∃ result,
        below left b S = some (result, S)) u →
      ∃ result, serializeElements maxSize e below fuel b S = some (result, S) := by
    intro below hbelow
    rcases hwritten : SerializeAdapter.serialize 1
      (UInt32.ofNat (orBranch u).length).toUInt8.toNat maxSize e b with ⟨result, b₁⟩
    obtain ⟨last, hrest⟩ := serializeLoop_unchanged hrep hbelow hfuel b₁
    rw [serializeElements, hroot, countRight_eq hrep, if_pos hfuel]
    simp only [Option.bind_eq_bind, Option.bind_some, hwritten]
    split_ifs
    · exact ⟨_, rfl⟩
    · exact ⟨_, hrest⟩
  cases maxDepth with
  | zero =>
      apply helements
      exact allBelow_of_forall (fun _ b => ⟨(.ok, b), rfl⟩) u
  | succ maxDepth =>
      apply helements
      apply allBelow_of_flat (hquiet.resolve_left (Nat.succ_ne_zero maxDepth))
      intro b
      exact ⟨_, withTemp_empty (serialize_empty rfl maxDepth b)⟩

/-! ### What is changed -/

theorem withTemp_prunes {ω : Type} {result : ω} {left : ExplicitNodeIterator}
    {f : MatchTreeObject Serializable κ → Option (ω × MatchTreeObject Serializable κ)}
    (hf : ∀ {temp temp' result}, f temp = some (result, temp') → Prunes temp temp')
    (h : withTemp B fuel left f S = some (result, S')) :
  Prunes S S'
  := by
  obtain ⟨⟨_, temp⟩, hfirst, hrest⟩ := Option.bind_eq_some_iff.mp h
  obtain ⟨temp', hdestroy, heq⟩ := Option.bind_eq_some_iff.mp hrest
  cases heq
  have hprunes := (hf hfirst).trans (destructor_prunes hdestroy)
  exact ⟨hprunes.node, rfl, hprunes.pool_eq⟩

theorem sizeLoop_prunes {below : ExplicitNodeIterator → MatchTreeObject Serializable κ →
      Option (UInt32 × MatchTreeObject Serializable κ)} {iter : ExplicitNodeIterator}
    {size size' : UInt32}
    (hbelow : ∀ {left S S' result}, below left S = some (result, S') → Prunes S S')
    (h : sizeLoop below fuel iter size S = some (size', S')) :
  Prunes S S'
  := by
  induction fuel generalizing iter size S with
  | zero =>
      cases iter with
      | none =>
          cases h
          exact .refl _
      | some element =>
          cases h
  | succ fuel ih =>
      cases iter with
      | none =>
          cases h
          exact .refl _
      | some element =>
          obtain ⟨n, -, h⟩ := Option.bind_eq_some_iff.mp h
          obtain ⟨⟨sizeBelow, S₁⟩, hleft, h⟩ := Option.bind_eq_some_iff.mp h
          obtain ⟨next, -, h⟩ := Option.bind_eq_some_iff.mp h
          exact (hbelow hleft).trans (ih h)

theorem getSerializedSize_prunes {size : UInt32}
    (h : getSerializedSize B fuel maxDepth S = some (size, S')) :
  Prunes S S'
  := by
  induction maxDepth generalizing S S' size with
  | zero =>
      apply sizeLoop_prunes _ h
      rintro left S S' result ⟨⟩
      exact .refl _
  | succ maxDepth ih =>
      apply sizeLoop_prunes _ h
      intro left S S' result
      exact withTemp_prunes ih

/-- Links are taken from a tree when a temporary tree has elements. -/
theorem sizeLoop_ne {fuel' : ℕ} {size size' : UInt32} (hrep : Represents S.node parent u)
    (hflat : ¬ Flat u)
    (h : sizeLoop (fun left => withTemp B fuel left (getSerializedSize B fuel maxDepth)) fuel'
      u.root size S = some (size', S')) :
  S'.node ≠ S.node
  := by
  induction u generalizing parent fuel' size with
  | nil =>
      exact absurd trivial hflat
  | node element left right _ ih =>
      obtain ⟨hnode, hleft, hright⟩ := hrep
      obtain _ | fuel' := fuel'
      · cases h
      rw [root, sizeLoop] at h
      simp only [hnode, Option.bind_eq_bind, Option.bind_some] at h
      obtain ⟨⟨sizeBelow, S₁⟩, hbelow, h⟩ := Option.bind_eq_some_iff.mp h
      obtain ⟨next, hnext, h⟩ := Option.bind_eq_some_iff.mp h
      by_cases hnil : left = nil
      · subst hnil
        rw [show root nil = none from rfl,
          withTemp_empty (getSerializedSize_empty rfl maxDepth)] at hbelow
        cases hbelow
        rw [ExplicitNodeIterator.right, hnode] at hnext
        cases hnext
        exact ih hright (fun hflat' => hflat ⟨rfl, hflat'⟩) h
      · intro heq
        have hrest : Prunes S₁ S' := sizeLoop_prunes
          (fun hleft => withTemp_prunes getSerializedSize_prunes hleft) h
        obtain ⟨⟨_, temp⟩, hsize, hbelow⟩ := Option.bind_eq_some_iff.mp hbelow
        obtain ⟨temp', hdestroy, hS₁⟩ := Option.bind_eq_some_iff.mp hbelow
        cases hS₁
        -- Nothing would have been changed when the temporary tree was destroyed.
        have hfirst := getSerializedSize_prunes hsize
        have hsecond := destructor_prunes hdestroy
        have htemp : temp.node = S.node :=
          hfirst.node.antisymm (heq ▸ hrest.node.trans hsecond.node)
        have htemp' : temp'.node = S.node :=
          (hsecond.node.trans hfirst.node).antisymm (heq ▸ hrest.node)
        apply destructor_ne hnil hfirst.rootNode_eq (htemp.symm ▸ hleft) hdestroy
        rw [htemp', htemp]

/-- A tree is left as it is, and the announced bytes are written, exactly when the depth is zero or no
element has another one on its AND branch, and the size of the tree can be counted. -/
theorem observed_iff (B : PlacementBackend κ) (maxDepth : ℕ) (hrep : Represents S.node none u)
    (hroot : S.rootNode = u.root) :
  Observed B maxDepth S ↔ (maxDepth = 0 ∨ Flat u) ∧ totalSize maxDepth u < 2 ^ 32
  := by
  constructor
  · rintro ⟨size, ⟨fuel, S', hsize, hsame⟩, hserialize⟩
    have hquiet : Quiet maxDepth u := by
      by_contra hnot
      obtain ⟨hdepth, hflat⟩ := not_or.mp hnot
      obtain ⟨maxDepth, rfl⟩ := Nat.exists_eq_succ_of_ne_zero hdepth
      rw [getSerializedSize, hroot] at hsize
      exact sizeLoop_ne hrep hflat hsize (congrArg LinkedTree.node hsame)
    use hquiet
    rw [getSerializedSize_eq hrep hroot hquiet] at hsize
    split_ifs at hsize
    cases hsize
    -- A buffer that has room for all the bytes.
    obtain ⟨fuel', result, b', S', hwritten, -, hok⟩ :=
      hserialize (totalSize maxDepth u) .big ⟨[], 0⟩
    rw [serialize_eq hrep hroot hquiet fuel' .big (Nat.zero_add _).le] at hwritten
    split_ifs at hwritten
    cases hwritten
    rw [UInt32.toNat_ofNat'] at hok
    obtain ⟨-, bytes, hput, hlength⟩ := hok ((Nat.zero_add _).trans_le (Nat.mod_le _ _))
    rw [← SerialBuffer.put_injective hput, length_treeBytes] at hlength
    rw [hlength]
    exact Nat.mod_lt _ (Nat.two_pow_pos 32)
  · rintro ⟨hquiet, hlt⟩
    use .ofNat (totalSize maxDepth u)
    rw [UInt32.toNat_ofNat', Nat.mod_eq_of_lt hlt]
    constructor
    · use (orBranch u).length, S
      rw [getSerializedSize_eq hrep hroot hquiet, if_pos le_rfl]
      exact ⟨rfl, rfl⟩
    · intro maxSize e b
      use (orBranch u).length
      by_cases hroom : b.size + totalSize maxDepth u ≤ maxSize
      · refine ⟨.ok, b.put (treeBytes maxDepth e u), S, ?_, rfl, fun _ => ⟨rfl, _, rfl, ?_⟩⟩
        · rw [serialize_eq hrep hroot hquiet _ e hroom, if_pos le_rfl]
        · exact length_treeBytes maxDepth e u
      · obtain ⟨⟨result, b'⟩, hserialize⟩ :=
          serialize_unchanged (B := B) hrep hroot hquiet le_rfl maxSize e b
        exact ⟨result, b', S, hserialize, rfl, fun hle => absurd hle hroom⟩

/-! ### A matcher on an AND branch -/

open Serializer in
/-- A matcher of a range of numbers. -/
def rangeMatcher (width lowerBound upperBound : ℕ) (inverted : Bool) (hwidth : 0 < width) :
    Serializable where
  serialize maxSize e b :=
    andThen (SerializeAdapter.serialize width lowerBound maxSize e b) fun b =>
      andThen (SerializeAdapter.serialize width upperBound maxSize e b) fun b =>
        SerializeAdapter.serialize 1 inverted.toNat maxSize e b
  getSerializedSize := width + width + 1
  bytes e := SerializeAdapter.bytesOf width lowerBound e ++
    (SerializeAdapter.bytesOf width upperBound e ++ SerializeAdapter.bytesOf 1 inverted.toNat e)
  length_bytes e := by
    simp only [List.length_append, SerializeAdapter.length_bytesOf, Nat.add_assoc]
  serialize_eq e := by
    intro b hroom
    apply (SerializeAdapter.writesGivenRoom_serialize hwidth lowerBound).andThen
      ((SerializeAdapter.writesGivenRoom_serialize hwidth upperBound).andThen
        (SerializeAdapter.writesGivenRoom_serialize Nat.one_pos inverted.toNat)) e
    simpa only [List.length_append, SerializeAdapter.length_bytesOf, Nat.add_assoc] using hroom

/-- The event with the id 1, from the reporter 2. -/
def twoMatchers : BinaryTree (Cell (Cell Serializable)) :=
  node ⟨1, ⟨0, rangeMatcher 2 1 1 false two_pos⟩⟩
    (node ⟨3, ⟨2, rangeMatcher 4 2 2 false four_pos⟩⟩ nil nil) nil

def twoMatchersObject : MatchTreeObject Serializable (Finset ℕ) where
  rootNode := some 1
  node
    | 1 => some ⟨⟨0, rangeMatcher 2 1 1 false two_pos⟩, some 3, none, none⟩
    | 3 => some ⟨⟨2, rangeMatcher 4 2 2 false four_pos⟩, none, none, some 1⟩
    | _ => none
  pool := {0, 1, 2, 3}
  cleaned := []

theorem twoMatchersObject_represents :
  Represents twoMatchersObject.node none twoMatchers
  := ⟨rfl, ⟨rfl, trivial, trivial⟩, trivial⟩

/-- With the depth zero, the matcher on the AND branch is left alone. -/
theorem observed_iff_twoMatchers :
  Observed (elementPool 8) 0 twoMatchersObject ↔
    ((0 : ℕ) = 0 ∨ Flat twoMatchers) ∧ totalSize 0 twoMatchers < 2 ^ 32
  := observed_iff (elementPool 8) 0 twoMatchersObject_represents rfl

/-- The temporary tree for the AND branch cannot be destroyed. -/
theorem not_observed_twoMatchers :
  (∀ fuel, getSerializedSize (elementPool 8) fuel 1 twoMatchersObject = none) ∧
    ¬ ∀ (maxDepth : ℕ) (S : MatchTreeObject Serializable (Finset ℕ))
      (u : BinaryTree (Cell (Cell Serializable))), Represents S.node none u →
      S.rootNode = u.root → Observed (elementPool 8) maxDepth S
  := by
  have hundefined : ∀ fuel,
      getSerializedSize (elementPool 8) fuel 1 twoMatchersObject = none := by
    intro fuel
    obtain _ | _ | fuel := fuel
    · rfl
    · rfl
    · rfl
  use hundefined
  intro h
  obtain ⟨size, ⟨fuel, S', hsize, -⟩, -⟩ :=
    h 1 twoMatchersObject twoMatchers twoMatchersObject_represents rfl
  rw [hundefined] at hsize
  cases hsize

end MatchTreeObject
