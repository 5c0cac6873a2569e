import Fsfw.ReturnValues

/-!
# Objects in a pool

A placement factory creates objects in the elements of a pool, and destroys them.  An object is known
by its address.  A pool is reliable when it gives out elements that are not occupied, and when the
elements that are occupied can be deleted one by one.
-/

/-- The operations of a store that the factory calls.  An element is given out by its address. -/
structure PlacementBackend (κ : Type) where
  getFreeElement : (size : ℕ) → κ → Option ℕ × κ
  deleteData : (pointer : ℕ) → κ → ReturnValue × κ

/-- What a store promises about its occupied elements. -/
structure PlacementBackend.Reliable {κ : Type} (B : PlacementBackend κ) where
  occupied : κ → Finset ℕ
  notMem_of_getFreeElement : ∀ size pool a, (B.getFreeElement size pool).1 = some a →
    a ∉ occupied pool
  occupied_getFreeElement : ∀ size pool a, (B.getFreeElement size pool).1 = some a →
    occupied (B.getFreeElement size pool).2 = insert a (occupied pool)
  occupied_getFreeElement_none : ∀ size pool, (B.getFreeElement size pool).1 = none →
    occupied (B.getFreeElement size pool).2 = occupied pool
  deleteData_ok : ∀ a pool, a ∈ occupied pool → (B.deleteData a pool).1 = .ok
  occupied_deleteData : ∀ a pool, a ∈ occupied pool →
    occupied (B.deleteData a pool).2 = (occupied pool).erase a

namespace PlacementFactory

variable {κ : Type} (B : PlacementBackend κ)

/-- The address of a new object, or null. -/
def generate (size : ℕ) (pool : κ) : Option ℕ × κ :=
  B.getFreeElement size pool

def destroy (thisElement : Option ℕ) (pool : κ) : ReturnValue × κ :=
  match thisElement with
  | none => (.failed, pool)
  | some pointer => B.deleteData pointer pool

end PlacementFactory

/-! ### Pools of elements -/

/-- A pool that gives out its first free element. -/
def elementPool (capacity : ℕ) : PlacementBackend (Finset ℕ) where
  getFreeElement _ pool :=
    match freeElement pool with
    | some a => (some a, insert a pool)
    | none => (none, pool)
  deleteData pointer pool :=
    if pointer ∈ pool then
      (.ok, pool.erase pointer)
    else
      (StorageManagerIF.illegalAddress, pool)
where
  /-- The first element that is free. -/
  freeElement (pool : Finset ℕ) : Option ℕ :=
    (List.range capacity).find? fun a => a ∉ pool

/-- Pools of elements are reliable. -/
def elementPool.reliable (capacity : ℕ) : (elementPool capacity).Reliable where
  occupied pool := pool
  notMem_of_getFreeElement size pool a h := by
    simp only [elementPool] at h
    split at h
    · rename_i free hfree
      cases h
      have hnot := List.find?_some (p := fun a => a ∉ pool) hfree
      exact of_decide_eq_true hnot
    · cases h
  occupied_getFreeElement size pool a h := by
    simp only [elementPool] at h ⊢
    split at h
    · cases h
      rfl
    · cases h
  occupied_getFreeElement_none size pool h := by
    simp only [elementPool] at h ⊢
    split at h
    · cases h
    · rfl
  deleteData_ok a pool h := by
    simp only [elementPool, if_pos h]
  occupied_deleteData a pool h := by
    simp only [elementPool, if_pos h]
