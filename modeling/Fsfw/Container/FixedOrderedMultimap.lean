import Fsfw.Library.KeyOrder
import Fsfw.Library.Memory
import Fsfw.Library.Run
import Fsfw.ReturnValues

/-!
# The ordered multimap of fixed capacity

A `FixedOrderedMultimap` keeps its pairs in the first `size` cells of an array of `maxSize`
cells.  A new pair goes in front of the first pair whose key comes after its own, for which
the pairs behind are moved up by one cell; a pair is removed by moving the pairs behind it
down.  An iterator is the index of a cell; `begin` is `0` and `end` is `size`.

Keys are compared by `comp` when a pair is inserted, and by equality when a key is searched
for.  The pairs are copied cell by cell, as is right for trivially copyable types.  The cells
that `insert` and `removeFromPosition` touch all lie in the array, because `size` does not
exceed `maxSize`.
-/

/-- An ordered multimap with keys `κ` and values `ν`. -/
structure FixedOrderedMultimap (κ ν : Type*) where
  theMap : ℕ → κ × ν
  maxSize : ℕ
  size : ℕ
  size_le : size ≤ maxSize

namespace FixedOrderedMultimap

open Memory KeyOrder

variable {κ ν : Type*} [DecidableEq κ]

/-- The empty multimap, in an array that is not initialised. -/
def new (garbage : ℕ → κ × ν) (maxSize : ℕ) : FixedOrderedMultimap κ ν where
  theMap := garbage
  maxSize := maxSize
  size := 0
  size_le := Nat.zero_le _

/-- The pairs an iteration from `begin` to `end` visits. -/
def stored (m : FixedOrderedMultimap κ ν) : List (κ × ν) :=
  slice m.theMap 0 m.size

def clear (m : FixedOrderedMultimap κ ν) : FixedOrderedMultimap κ ν :=
  { m with size := 0, size_le := Nat.zero_le _ }

-- The loops over the cells below `_size` return the index of the first match, and `_size`
-- when there is none, as `findIdx` does.
def findFirstIndex (m : FixedOrderedMultimap κ ν) (key : κ) (startAt : ℕ) : ℕ :=
  if m.size ≤ startAt then
    startAt + 1
  else
    startAt + (slice m.theMap startAt (m.size - startAt)).findIdx fun x => x.1 = key

def findNicePlace (comp : κ → κ → Bool) (m : FixedOrderedMultimap κ ν) (key : κ) : ℕ :=
  m.stored.findIdx fun x => comp key x.1

/-- Insert a pair.  The second component is the iterator that `storedValue` is set to. -/
def insert (comp : κ → κ → Bool) (m : FixedOrderedMultimap κ ν) (key : κ) (value : ν) :
    ReturnValue × Option ℕ × FixedOrderedMultimap κ ν :=
  if h : m.size = m.maxSize then
    (mapFull, none, m)
  else
    let position := findNicePlace comp m key
    let moved := move m.theMap (position + 1) position (m.size - position)
    (.ok, some position,
      { m with
        theMap := overwrite moved position [(key, value)]
        size := m.size + 1
        size_le := Nat.lt_of_le_of_ne m.size_le h })

/-- Is there a pair with this key (`exists` in the source)? -/
def existsKey (m : FixedOrderedMultimap κ ν) (key : κ) : ReturnValue :=
  if m.findFirstIndex key 0 < m.size then .ok else keyDoesNotExist

/-- The iterator to the first pair with the key, or `end`. -/
def find (m : FixedOrderedMultimap κ ν) (key : κ) : ℕ :=
  if m.existsKey key = .ok then m.findFirstIndex key 0 else m.size

/-- The result and the value that `find(key, value)` hands out. -/
def findValue (m : FixedOrderedMultimap κ ν) (key : κ) : ReturnValue × Option ν :=
  if m.existsKey key = .ok then
    (.ok, some (m.theMap (m.findFirstIndex key 0)).2)
  else
    (m.existsKey key, none)

def removeFromPosition (m : FixedOrderedMultimap κ ν) (position : ℕ) :
    FixedOrderedMultimap κ ν :=
  if m.size ≤ position then
    m
  else
    { m with
      theMap := move m.theMap position (position + 1) (m.size - position - 1)
      size := m.size - 1
      size_le := Nat.le_trans (Nat.sub_le _ _) m.size_le }

/-- A search that starts behind the last pair ends behind the last pair. -/
theorem not_findFirstIndex_lt {m : FixedOrderedMultimap κ ν} {key : κ} {startAt : ℕ}
    (h : m.size ≤ startAt) :
  ¬ m.findFirstIndex key startAt < m.size
  := by
  rw [findFirstIndex, if_pos h]
  omega

/-- When the search from a removed position finds another pair, one was removed. -/
theorem size_removeFromPosition_lt {m : FixedOrderedMultimap κ ν} {key : κ} {i : ℕ}
    (h : (m.removeFromPosition i).findFirstIndex key i < (m.removeFromPosition i).size) :
  (m.removeFromPosition i).size < m.size
  := by
  rcases Nat.lt_or_ge i m.size with hi | hi
  · rw [removeFromPosition, if_neg (Nat.not_le.mpr hi)]
    simp only
    omega
  · rw [removeFromPosition, if_pos hi] at h
    cases not_findFirstIndex_lt hi h

/-- The loop of `erase`, which removes the pair at `i` and goes on to the next one. -/
def eraseLoop (key : κ) (m : FixedOrderedMultimap κ ν) (i : ℕ) : FixedOrderedMultimap κ ν :=
  let m' := m.removeFromPosition i
  if m'.findFirstIndex key i < m'.size then
    eraseLoop key m' (m'.findFirstIndex key i)
  else
    m'
termination_by m.size
decreasing_by
  rename_i h
  apply size_removeFromPosition_lt h

/-- Erase all pairs with the key. -/
def erase (m : FixedOrderedMultimap κ ν) (key : κ) :
    ReturnValue × FixedOrderedMultimap κ ν :=
  if m.size ≤ m.findFirstIndex key 0 then
    (keyDoesNotExist, m)
  else
    (.ok, eraseLoop key m (m.findFirstIndex key 0))

/-- Erase by an iterator to a stored pair.  The second component is the iterator after the
call. -/
def eraseIterator (m : FixedOrderedMultimap κ ν) (iter : ℕ) :
    ReturnValue × ℕ × FixedOrderedMultimap κ ν :=
  let i := m.findFirstIndex (m.theMap iter).1 0
  if m.size ≤ i then
    (keyDoesNotExist, iter, m)
  else if iter ≠ 0 then
    (.ok, iter - 1, m.removeFromPosition i)
  else
    (.ok, 0, m.removeFromPosition i)

/-- The calls of a multimap. -/
inductive Op (κ ν : Type*) where
  | insert (key : κ) (value : ν)
  | erase (key : κ)
  | find (key : κ)
  | findValue (key : κ)
  | existsKey (key : κ)
  | clear
  | iterate

/-- What a call returns: a code, a code with a value, the pair an iterator points to (none
for `end`), or the pairs visited. -/
inductive Output (κ ν : Type*) where
  | code (result : ReturnValue)
  | value (result : ReturnValue) (value : Option ν)
  | pair (pair : Option (κ × ν))
  | pairs (pairs : List (κ × ν))

/-- One call. -/
def step (comp : κ → κ → Bool) :
    Step (FixedOrderedMultimap κ ν) (Op κ ν) (Output κ ν)
  | m, .insert key value =>
      let (result, _, m') := insert comp m key value
      some (m', .code result)
  | m, .erase key => some ((m.erase key).2, .code (m.erase key).1)
  | m, .find key => some (m, .pair m.stored[m.find key]?)
  | m, .findValue key => some (m, .value (m.findValue key).1 (m.findValue key).2)
  | m, .existsKey key => some (m, .code (m.existsKey key))
  | m, .clear => some (m.clear, .code .ok)
  | m, .iterate => some (m, .pairs m.stored)

end FixedOrderedMultimap
