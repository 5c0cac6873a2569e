import Fsfw.Container.FIFOBase
import Fsfw.Library.Run

/-!
# FIFOs and their copies

A `FIFO` and a `DynamicFIFO` have a container for the values, and a pointer `values` through
which the functions of their base access a container.  Copying an object copies the members of
the base, and with them the pointer, which is then set to the container of the copy.

The objects of a program are given by a list.  A pointer to a container is the index of the
object whose container it is.  A function that accesses a container through a pointer that
points to none, or outside its bounds, is undefined (`none`).
-/

/-- The class of an object. The capacity of a `FIFO` is an argument of the template. -/
inductive FIFOClass where
  | fifo (capacity : ℕ)
  | dynamicFIFO
  deriving DecidableEq

/-- An object of one of the two classes. The container has `containerSize` cells. -/
structure FIFO (α : Type) where
  fifoClass : FIFOClass
  maxCapacity : ℕ
  values : Option ℕ
  readIndex : ℕ
  writeIndex : ℕ
  currentSize : ℕ
  container : ℕ → α
  containerSize : ℕ

namespace FIFO

variable {α : Type}

def setContainer (x : FIFO α) (data : Option ℕ) : FIFO α :=
  { x with values := data }

/-- Copy the members of the base. -/
def copyBase (x other : FIFO α) : FIFO α :=
  { x with
    maxCapacity := other.maxCapacity
    values := other.values
    readIndex := other.readIndex
    writeIndex := other.writeIndex
    currentSize := other.currentSize }

/-- A new object, whose container is not initialised. -/
def construct (fifoClass : FIFOClass) (maxCapacity : ℕ) (garbage : ℕ → α) (self : ℕ) : FIFO α :=
  setContainer
    { fifoClass := fifoClass
      maxCapacity := maxCapacity
      values := none
      readIndex := 0
      writeIndex := 0
      currentSize := 0
      container := garbage
      containerSize := maxCapacity } (some self)

/-- A new `FIFO`. -/
def new (capacity : ℕ) (garbage : ℕ → α) (self : ℕ) : FIFO α :=
  construct (.fifo capacity) capacity garbage self

/-- A new `DynamicFIFO`. -/
def newDynamicFIFO (maxCapacity : ℕ) (garbage : ℕ → α) (self : ℕ) : FIFO α :=
  construct .dynamicFIFO maxCapacity garbage self

/-- Assign the members of another object of the class. An array keeps its size, and a vector
takes that of the other one. -/
def assign (x other : FIFO α) (self : ℕ) : FIFO α :=
  setContainer
    { x.copyBase other with
      container := other.container
      containerSize :=
        match x.fifoClass with
        | .fifo _ => x.containerSize
        | .dynamicFIFO => other.containerSize } (some self)

/-- A copy of an object. Its container has the size of the template argument of a `FIFO`, and
that of the vector of the other `DynamicFIFO`. -/
def copyConstruct (other : FIFO α) (self : ℕ) : FIFO α :=
  setContainer
    { other with
      containerSize :=
        match other.fifoClass with
        | .fifo capacity => capacity
        | .dynamicFIFO => other.containerSize } (some self)

/-- The base of an object, with the cells that its pointer points to. -/
def base (x : FIFO α) (cells : ℕ → α) : FIFOBase α where
  maxCapacity := x.maxCapacity
  values := cells
  readIndex := x.readIndex
  writeIndex := x.writeIndex
  currentSize := x.currentSize

/-- The members of the base, without the cells. -/
def setBase (x : FIFO α) (F : FIFOBase α) : FIFO α :=
  { x with
    maxCapacity := F.maxCapacity
    readIndex := F.readIndex
    writeIndex := F.writeIndex
    currentSize := F.currentSize }

/-- The object whose container a pointer points to, and its index. -/
def owner (objects : List (FIFO α)) (x : FIFO α) : Option (ℕ × FIFO α) :=
  match x.values with
  | none => none
  | some n => objects[n]?.map fun o => (n, o)

/-! ### Operations on objects -/

def insert (objects : List (FIFO α)) (i : ℕ) (x : FIFO α) (value : α) :
    Option (List (FIFO α) × ReturnValue) :=
  match x.owner objects with
  | none => none
  | some (n, o) =>
      let F := x.base o.container
      if F.isFull = false ∧ o.containerSize ≤ x.writeIndex then
        none
      else
        let (result, F') := F.insert value
        some ((objects.set i (x.setBase F')).modify n
          fun o => { o with container := F'.values }, result)

def retrieve (objects : List (FIFO α)) (i : ℕ) (x : FIFO α) :
    Option (List (FIFO α) × ReturnValue × Option α) :=
  match x.owner objects with
  | none => none
  | some (_, o) =>
      let F := x.base o.container
      if F.isEmpty = false ∧ o.containerSize ≤ x.readIndex then
        none
      else
        let (result, value, F') := F.retrieve
        some (objects.set i (x.setBase F'), result, value)

def peek (objects : List (FIFO α)) (x : FIFO α) : Option (ReturnValue × Option α) :=
  match x.owner objects with
  | none => none
  | some (_, o) =>
      let F := x.base o.container
      if F.isEmpty = false ∧ o.containerSize ≤ x.readIndex then none else some F.peek

/-- The statements of a program. -/
inductive Op (α : Type) where
  | newFIFO (capacity : ℕ) (garbage : ℕ → α)
  | newDynamicFIFO (maxCapacity : ℕ) (garbage : ℕ → α)
  | copyConstruct (other : ℕ)
  | assign (object other : ℕ)
  | insert (object : ℕ) (value : α)
  | retrieve (object : ℕ)
  | peek (object : ℕ)
  | pop (object : ℕ)

/-- One statement.  The output is the result of a call with the value it hands out. A
statement that names no object, or assigns to an object of another class, is none of the
language. -/
def step : Step (List (FIFO α)) (Op α) (ReturnValue × Option α)
  | objects, .newFIFO capacity garbage =>
      some (objects ++ [new capacity garbage objects.length], .ok, none)
  | objects, .newDynamicFIFO maxCapacity garbage =>
      some (objects ++ [newDynamicFIFO maxCapacity garbage objects.length], .ok, none)
  | objects, .copyConstruct other =>
      match objects[other]? with
      | none => none
      | some y => some (objects ++ [copyConstruct y objects.length], .ok, none)
  | objects, .assign i other =>
      match objects[i]?, objects[other]? with
      | some x, some y =>
          if x.fifoClass = y.fifoClass then
            some (objects.set i (x.assign y i), .ok, none)
          else
            none
      | _, _ => none
  | objects, .insert i value =>
      match objects[i]? with
      | none => none
      | some x => (insert objects i x value).map fun (objects', result) => (objects', result, none)
  | objects, .retrieve i =>
      match objects[i]? with
      | none => none
      | some x => retrieve objects i x
  | objects, .peek i =>
      match objects[i]? with
      | none => none
      | some x => (peek objects x).map fun output => (objects, output)
  | objects, .pop i =>
      match objects[i]? with
      | none => none
      | some x =>
          (retrieve objects i x).map fun (objects', result, _) => (objects', result, none)

end FIFO
