import Fsfw.Library.Run
import Fsfw.StorageManager.LocalPool

/-!
# Accessors to the packets of a pool

An accessor gives access to a packet of a pool, and deletes the packet when it is destroyed,
unless it has been released.  A `ConstStorageAccessor` is for reading, and a `StorageAccessor`
has another pointer to the packet, for writing.  Accessors can be moved, but not copied.

A program declares accessors, obtains them from the pool, moves, releases and destroys them.
All its accessors belong to one pool, so of the pointer to the pool we keep whether it is set.
-/

inductive AccessState where
  | uninit
  | assigned
  deriving DecidableEq, Repr

structure ConstStorageAccessor where
  constDataPointer : Option (ℕ × ℕ)
  storeId : StoreAddress
  size : ℕ
  store : Bool
  deleteData : Bool
  internalState : AccessState

namespace ConstStorageAccessor

def new (storeId : StoreAddress) : ConstStorageAccessor where
  constDataPointer := none
  storeId := storeId
  size := 0
  store := false
  deleteData := true
  internalState := .uninit

/-- The accessor that is constructed with a pool. -/
def ofStore (storeId : StoreAddress) : ConstStorageAccessor :=
  { new storeId with store := true, internalState := .assigned }

/-- The destructor, with the addresses of the packets it deletes. -/
def destroy (a : ConstStorageAccessor) (p : LocalPool) :
    Option (List StoreAddress × LocalPool) :=
  if a.deleteData && a.store then
    match p.deleteData a.storeId with
    | none => none
    | some (_, p) => some ([a.storeId], p)
  else
    some ([], p)

/-- The accessor that is constructed by moving, and what is left of the other one. -/
def moveConstruct (other : ConstStorageAccessor) :
    ConstStorageAccessor × ConstStorageAccessor :=
  (⟨other.constDataPointer, other.storeId, other.size, other.store, other.deleteData,
      other.internalState⟩,
    { other with store := false })

/-- An accessor that is assigned to by moving, and what is left of the other one.  It keeps
its state. -/
def moveAssign (a other : ConstStorageAccessor) : ConstStorageAccessor × ConstStorageAccessor :=
  ({ a with
      constDataPointer := other.constDataPointer
      storeId := other.storeId
      store := other.store
      size := other.size
      deleteData := other.deleteData },
    { other with store := false })

def release (a : ConstStorageAccessor) : ConstStorageAccessor :=
  { a with deleteData := false }

def assignStore (a : ConstStorageAccessor) : ConstStorageAccessor :=
  { a with internalState := .assigned, store := true }

end ConstStorageAccessor

structure StorageAccessor extends ConstStorageAccessor where
  dataPointer : Option (ℕ × ℕ)

namespace StorageAccessor

def new (storeId : StoreAddress) : StorageAccessor where
  toConstStorageAccessor := .new storeId
  dataPointer := none

def ofStore (storeId : StoreAddress) : StorageAccessor where
  toConstStorageAccessor := .ofStore storeId
  dataPointer := none

def moveConstruct (other : StorageAccessor) : StorageAccessor × StorageAccessor :=
  let (base, left) := other.toConstStorageAccessor.moveConstruct
  (⟨base, other.dataPointer⟩, ⟨left, other.dataPointer⟩)

def moveAssign (a other : StorageAccessor) : StorageAccessor × StorageAccessor :=
  let (base, left) := a.toConstStorageAccessor.moveAssign other.toConstStorageAccessor
  (⟨base, other.dataPointer⟩, ⟨left, other.dataPointer⟩)

def assignConstPointer (a : StorageAccessor) : StorageAccessor :=
  { a with constDataPointer := a.dataPointer }

end StorageAccessor

/-! ### Obtaining accessors from a pool -/

namespace LocalPool

-- The local accessor is moved into the result, and then destroyed without its pool.
def getDataAccessor (p : LocalPool) (storeId : StoreAddress) :
    ReturnValue × ConstStorageAccessor :=
  let a := ConstStorageAccessor.ofStore storeId
  match p.modifyData storeId with
  | (status, some (pointer, size)) =>
      (status, ({ a with constDataPointer := some pointer, size := size }).moveConstruct.1)
  | (status, none) => (status, ({ a with constDataPointer := none }).moveConstruct.1)

/-- The pool is assigned to the accessor, whatever becomes of the packet. -/
def getDataInto (p : LocalPool) (storeId : StoreAddress) (a : ConstStorageAccessor) :
    ReturnValue × ConstStorageAccessor :=
  match p.modifyData storeId with
  | (status, some (pointer, size)) =>
      (status, { a.assignStore with constDataPointer := some pointer, size := size })
  | (status, none) => (status, { a.assignStore with constDataPointer := none })

def modifyDataAccessor (p : LocalPool) (storeId : StoreAddress) :
    ReturnValue × StorageAccessor :=
  let a := StorageAccessor.ofStore storeId
  match p.modifyData storeId with
  | (status, some (pointer, size)) =>
      (status, StorageAccessor.moveConstruct
        { a with dataPointer := some pointer, size := size }.assignConstPointer |>.1)
  | (status, none) => (status, a.assignConstPointer.moveConstruct.1)

def modifyDataInto (p : LocalPool) (storeId : StoreAddress) (a : StorageAccessor) :
    ReturnValue × StorageAccessor :=
  let a := { a with toConstStorageAccessor := a.toConstStorageAccessor.assignStore }
  match p.modifyData storeId with
  | (status, some (pointer, size)) =>
      (status, { a with dataPointer := some pointer, size := size }.assignConstPointer)
  | (status, none) => (status, a.assignConstPointer)

end LocalPool

/-! ### Programs -/

/-- An accessor of one of the two kinds. -/
inductive Accessor where
  | const (a : ConstStorageAccessor)
  | modifiable (a : StorageAccessor)

namespace Accessor

/-- The part that both kinds have. -/
def base : Accessor → ConstStorageAccessor
  | const a => a
  | modifiable a => a.toConstStorageAccessor

/-- Change the part that both kinds have. -/
def withBase (f : ConstStorageAccessor → ConstStorageAccessor) : Accessor → Accessor
  | const a => const (f a)
  | modifiable a => modifiable { a with toConstStorageAccessor := f a.toConstStorageAccessor }

def declare (isModifiable : Bool) (storeId : StoreAddress) : Accessor :=
  if isModifiable then modifiable (.new storeId) else const (.new storeId)

/-- Construct an accessor by moving.  One for reading can be made from one for writing. -/
def moveConstruct : Bool → Accessor → Option (Accessor × Accessor)
  | true, modifiable other =>
      some (modifiable other.moveConstruct.1, modifiable other.moveConstruct.2)
  | true, const _ => none
  | false, other =>
      some (const other.base.moveConstruct.1,
        other.withBase fun base => base.moveConstruct.2)

/-- Assign to an accessor by moving. -/
def moveAssign : Accessor → Accessor → Option (Accessor × Accessor)
  | modifiable a, modifiable other =>
      some (modifiable (a.moveAssign other).1, modifiable (a.moveAssign other).2)
  | modifiable _, const _ => none
  | const a, other =>
      some (const (a.moveAssign other.base).1,
        other.withBase fun base => (a.moveAssign base).2)

end Accessor

/-- The steps of a program.  `v` is the accessor that the step is about, and `w` the one that
is moved from. -/
inductive AccessorOp where
  | declare (v : ℕ) (isModifiable : Bool) (storeId : StoreAddress)
  | getData (v : ℕ) (storeId : StoreAddress)
  | getDataInto (v : ℕ) (storeId : StoreAddress)
  | modifyData (v : ℕ) (storeId : StoreAddress)
  | modifyDataInto (v : ℕ) (storeId : StoreAddress)
  | moveConstruct (v w : ℕ) (isModifiable : Bool)
  | moveAssign (v w : ℕ)
  | release (v : ℕ)
  | destroy (v : ℕ)

/-- A pool, and the accessors that a program has. -/
structure AccessorProgram where
  pool : LocalPool
  accessors : ℕ → Option Accessor

namespace AccessorProgram

/-- A program that has no accessors yet. -/
def start (p : LocalPool) : AccessorProgram where
  pool := p
  accessors := fun _ => none

/-- Set an accessor. -/
def set (s : AccessorProgram) (v : ℕ) (a : Option Accessor) : AccessorProgram :=
  { s with accessors := Function.update s.accessors v a }

/-- A step of a program, with the addresses of the packets that are deleted.  An accessor can
be declared, obtained or constructed only when there is none of that name, and used only when
there is one. -/
def step : Step AccessorProgram AccessorOp (List StoreAddress) :=
  fun s op =>
    match op with
    | .declare v isModifiable storeId =>
        match s.accessors v with
        | none => some (s.set v (some (.declare isModifiable storeId)), [])
        | some _ => none
    | .getData v storeId =>
        match s.accessors v with
        | none => some (s.set v (some (.const (s.pool.getDataAccessor storeId).2)), [])
        | some _ => none
    | .getDataInto v storeId =>
        match s.accessors v with
        | none => none
        | some a =>
            some (s.set v (some (a.withBase fun base =>
              (s.pool.getDataInto storeId base).2)), [])
    | .modifyData v storeId =>
        match s.accessors v with
        | none => some (s.set v (some (.modifiable (s.pool.modifyDataAccessor storeId).2)), [])
        | some _ => none
    | .modifyDataInto v storeId =>
        match s.accessors v with
        | some (.modifiable a) =>
            some (s.set v (some (.modifiable (s.pool.modifyDataInto storeId a).2)), [])
        | _ => none
    | .moveConstruct v w isModifiable =>
        match s.accessors v, s.accessors w with
        | none, some other =>
            match other.moveConstruct isModifiable with
            | some (a, left) => some ((s.set v (some a)).set w (some left), [])
            | none => none
        | _, _ => none
    | .moveAssign v w =>
        match s.accessors v, s.accessors w with
        | some a, some other =>
            match a.moveAssign other with
            | some (a, left) => some ((s.set v (some a)).set w (some left), [])
            | none => none
        | _, _ => none
    | .release v =>
        match s.accessors v with
        | none => none
        | some a => some (s.set v (some (a.withBase ConstStorageAccessor.release)), [])
    | .destroy v =>
        match s.accessors v with
        | none => none
        | some a =>
            match a.base.destroy s.pool with
            | none => none
            | some (deleted, p) => some ({ s with pool := p }.set v none, deleted)

end AccessorProgram
