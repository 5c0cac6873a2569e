import Fsfw.Container.FIFO

/-!
# FIFOs as bounded queues

`BoundedQueue.step` is what FIFOs are for: every object is a queue of its own with a capacity,
which a copy takes over with the elements.  Every program returns what it returns on bounded
queues, and leaves the objects with their elements (`FIFO.run_queues`).

That is because every object points to its own container at all times (`FIFO.Inv`).
-/

/-- A queue with a bound on the number of its elements. -/
structure BoundedQueue (α : Type) where
  fifoClass : FIFOClass
  capacity : ℕ
  elements : List α

namespace BoundedQueue

variable {α : Type}

open FIFOBase (full empty)

/-- One statement of a program. -/
def step : Step (List (BoundedQueue α)) (FIFO.Op α) (ReturnValue × Option α)
  | queues, .newFIFO capacity _ =>
      some (queues ++ [⟨.fifo capacity, capacity, []⟩], .ok, none)
  | queues, .newDynamicFIFO capacity _ =>
      some (queues ++ [⟨.dynamicFIFO, capacity, []⟩], .ok, none)
  | queues, .copyConstruct other =>
      match queues[other]? with
      | none => none
      | some q => some (queues ++ [q], .ok, none)
  | queues, .assign i other =>
      match queues[i]?, queues[other]? with
      | some p, some q =>
          if p.fifoClass = q.fifoClass then some (queues.set i q, .ok, none) else none
      | _, _ => none
  | queues, .insert i value =>
      match queues[i]? with
      | none => none
      | some q =>
          if q.elements.length = q.capacity then
            some (queues, full, none)
          else
            some (queues.set i { q with elements := q.elements ++ [value] }, .ok, none)
  | queues, .retrieve i =>
      match queues[i]? with
      | none => none
      | some q =>
          match q.elements with
          | [] => some (queues, empty, none)
          | value :: rest => some (queues.set i { q with elements := rest }, .ok, some value)
  | queues, .peek i =>
      match queues[i]? with
      | none => none
      | some q =>
          match q.elements with
          | [] => some (queues, empty, none)
          | value :: _ => some (queues, .ok, some value)
  | queues, .pop i =>
      match queues[i]? with
      | none => none
      | some q =>
          match q.elements with
          | [] => some (queues, empty, none)
          | _ :: rest => some (queues.set i { q with elements := rest }, .ok, none)

end BoundedQueue

namespace FIFO

variable {α : Type}

/-- The queue that an object stands for: the elements that are found through its pointer. -/
def queue (objects : List (FIFO α)) (x : FIFO α) : BoundedQueue α where
  fifoClass := x.fifoClass
  capacity := x.maxCapacity
  elements :=
    match x.owner objects with
    | none => []
    | some (_, o) => (x.base o.container).stored

/-- The queues of all objects. -/
def queues (objects : List (FIFO α)) : List (BoundedQueue α) :=
  objects.map (queue objects)

/-! ### Objects that point to their own container -/

/-- The base of an object that points to its own container. -/
def ownBase (x : FIFO α) : FIFOBase α :=
  x.base x.container

/-- The queue of an object that points to its own container. -/
def ownQueue (x : FIFO α) : BoundedQueue α :=
  ⟨x.fifoClass, x.maxCapacity, x.ownBase.stored⟩

/-- The object `i` points to its own container, which has as many cells as it should. -/
structure Sound (x : FIFO α) (i : ℕ) : Prop where
  values_eq : x.values = some i
  containerSize_eq : x.containerSize = x.maxCapacity
  capacity_eq : ∀ capacity, x.fifoClass = .fifo capacity → x.maxCapacity = capacity
  base : x.ownBase.Inv

/-- Every object points to its own container. -/
def Inv (objects : List (FIFO α)) : Prop :=
  ∀ (i : ℕ) (x : FIFO α), objects[i]? = some x → x.Sound i

theorem inv_nil :
  Inv ([] : List (FIFO α))
  := by
  intro i x hx
  cases hx

section

variable {objects : List (FIFO α)} {x x' y : FIFO α} {i : ℕ}

theorem Inv.append (h : Inv objects) (hx : x.Sound objects.length) :
  Inv (objects ++ [x])
  := by
  intro j y hy
  rw [List.getElem?_append] at hy
  split at hy
  · apply h j y hy
  · rename_i hj
    rw [List.getElem?_singleton] at hy
    split at hy
    · cases hy
      have hlen : j = objects.length := by omega
      rw [hlen]
      apply hx
    · cases hy

theorem Inv.set (h : Inv objects) (hx : x.Sound i) :
  Inv (objects.set i x)
  := by
  intro j y hy
  rw [List.getElem?_set] at hy
  split at hy
  · rename_i hij
    split at hy
    · cases hy
      rw [← hij]
      apply hx
    · cases hy
  · apply h j y hy

theorem owner_eq (h : Inv objects) (hx : objects[i]? = some x) :
  x.owner objects = some (i, x)
  := by
  rw [owner, (h i x hx).values_eq]
  simp only [hx, Option.map_some]

theorem queues_eq (h : Inv objects) :
  queues objects = objects.map ownQueue
  := by
  apply List.map_congr_left
  intro x hx
  obtain ⟨i, hi⟩ := List.mem_iff_getElem?.mp hx
  simp only [queue, owner_eq h hi]
  rfl

/-- The object with its base replaced, together with the cells. -/
def withBase (x : FIFO α) (F : FIFOBase α) : FIFO α :=
  { x.setBase F with container := F.values }

@[simp]
theorem withBase_ownBase (x : FIFO α) :
  x.withBase x.ownBase = x
  := rfl

/-- An object stays sound when its base is replaced by one of the same capacity. -/
theorem Sound.withBase (h : x.Sound i) {F : FIFOBase α} (hF : F.Inv)
    (hmax : F.maxCapacity = x.maxCapacity) :
  (x.withBase F).Sound i
  where
  values_eq := h.values_eq
  containerSize_eq := h.containerSize_eq.trans hmax.symm
  capacity_eq capacity hclass := hmax.trans (h.capacity_eq capacity hclass)
  base := hF

theorem ownQueue_withBase (x : FIFO α) {F : FIFOBase α} (hmax : F.maxCapacity = x.maxCapacity) :
  (x.withBase F).ownQueue = { x.ownQueue with elements := F.stored }
  := by
  have hbase : (x.withBase F).ownBase = F := rfl
  have hcapacity : (x.withBase F).maxCapacity = x.maxCapacity := hmax
  simp only [ownQueue, hbase, hcapacity]
  rfl

/-! ### Statements -/

theorem sound_construct (fifoClass : FIFOClass) (maxCapacity : ℕ) (garbage : ℕ → α) (i : ℕ)
    (h : ∀ capacity, fifoClass = .fifo capacity → maxCapacity = capacity) :
  (construct fifoClass maxCapacity garbage i).Sound i
  where
  values_eq := rfl
  containerSize_eq := rfl
  capacity_eq := h
  base := FIFOBase.inv_new garbage maxCapacity

theorem ownQueue_construct (fifoClass : FIFOClass) (maxCapacity : ℕ) (garbage : ℕ → α) (i : ℕ) :
  (construct fifoClass maxCapacity garbage i).ownQueue = ⟨fifoClass, maxCapacity, []⟩
  := rfl

/-- A copy points to its own container. -/
theorem Sound.copyConstruct (h : x.Sound i) (self : ℕ) :
  (x.copyConstruct self).Sound self
  where
  values_eq := rfl
  containerSize_eq := by
    simp only [FIFO.copyConstruct, setContainer]
    split
    · rename_i capacity hclass
      exact (h.capacity_eq capacity hclass).symm
    · apply h.containerSize_eq
  capacity_eq := h.capacity_eq
  base := h.base

theorem ownQueue_copyConstruct (x : FIFO α) (self : ℕ) :
  (x.copyConstruct self).ownQueue = x.ownQueue
  := rfl

/-- An object that is assigned to points to its own container. -/
theorem Sound.assign {j : ℕ} (h : x.Sound i) (h' : y.Sound j)
    (hclass : x.fifoClass = y.fifoClass) :
  (x.assign y i).Sound i
  where
  values_eq := rfl
  containerSize_eq := by
    simp only [FIFO.assign, setContainer, copyBase]
    split
    · rename_i capacity hx
      rw [h.containerSize_eq, h.capacity_eq capacity hx, h'.capacity_eq capacity (hclass ▸ hx)]
    · apply h'.containerSize_eq
  capacity_eq capacity hx := h'.capacity_eq capacity (hclass ▸ hx)
  base := h'.base

theorem ownQueue_assign (hclass : x.fifoClass = y.fifoClass) (self : ℕ) :
  (x.assign y self).ownQueue = y.ownQueue
  := by
  simp only [ownQueue, FIFO.assign, setContainer, copyBase, hclass]
  rfl

/-- An insertion changes the object itself only. -/
theorem insert_eq (h : Inv objects) (hx : objects[i]? = some x) (value : α) :
  insert objects i x value =
    some (objects.set i (x.withBase (x.ownBase.insert value).2), (x.ownBase.insert value).1)
  := by
  have hsound := h i x hx
  have hbound : ¬ (x.ownBase.isFull = false ∧ x.containerSize ≤ x.writeIndex) := by
    rintro ⟨hfull, hle⟩
    have hne : x.currentSize ≠ x.maxCapacity := of_decide_eq_false hfull
    have hsize : x.currentSize ≤ x.maxCapacity := hsound.base.size_le
    have hpos : 0 < x.maxCapacity := by omega
    have hwrite : x.writeIndex = Circular.index x.maxCapacity x.readIndex x.currentSize :=
      hsound.base.writeIndex_eq hpos
    have hlt := Circular.index_lt (hsound.base.readIndex_lt hpos) hsize
    rw [hsound.containerSize_eq, hwrite] at hle
    apply Nat.not_lt.mpr hle hlt
  simp only [insert, owner_eq h hx]
  change (if x.ownBase.isFull = false ∧ x.containerSize ≤ x.writeIndex then _ else _) = _
  rw [if_neg hbound]
  have hmodify : ∀ x' : FIFO α, ∀ f : FIFO α → FIFO α,
      (objects.set i x').modify i f = objects.set i (f x') := by
    intro x' f
    apply List.ext_getElem?
    intro j
    by_cases hij : i = j
    · rw [hij, List.getElem?_modify_eq, List.getElem?_set, List.getElem?_set, if_pos rfl,
        if_pos rfl]
      split
      · rfl
      · rfl
    · rw [List.getElem?_modify_ne _ _ hij, List.getElem?_set_ne hij, List.getElem?_set_ne hij]
  rw [hmodify]
  rfl

/-- Nothing is read outside the container of the object itself. -/
theorem readIndex_lt (h : x.Sound i) :
  ¬ (x.ownBase.isEmpty = false ∧ x.containerSize ≤ x.readIndex)
  := by
  rintro ⟨hempty, hle⟩
  have hne : x.currentSize ≠ 0 := of_decide_eq_false hempty
  have hsize : x.currentSize ≤ x.maxCapacity := h.base.size_le
  have hpos : 0 < x.maxCapacity := by omega
  have hlt : x.readIndex < x.maxCapacity := h.base.readIndex_lt hpos
  rw [h.containerSize_eq] at hle
  omega

/-- A retrieval changes the object itself only. -/
theorem retrieve_eq (h : Inv objects) (hx : objects[i]? = some x) :
  retrieve objects i x =
    some (objects.set i (x.withBase x.ownBase.retrieve.2.2), x.ownBase.retrieve.1,
      x.ownBase.retrieve.2.1)
  := by
  simp only [retrieve, owner_eq h hx]
  change (if x.ownBase.isEmpty = false ∧ x.containerSize ≤ x.readIndex then _ else _) = _
  rw [if_neg (readIndex_lt (h i x hx))]
  have hvalues : x.ownBase.retrieve.2.2.values = x.container := by
    rw [FIFOBase.retrieve]
    split <;> rfl
  simp only [withBase, hvalues]
  rfl

theorem peek_eq (h : Inv objects) (hx : objects[i]? = some x) :
  peek objects x = some x.ownBase.peek
  := by
  simp only [peek, owner_eq h hx]
  change (if x.ownBase.isEmpty = false ∧ x.containerSize ≤ x.readIndex then _ else _) = _
  rw [if_neg (readIndex_lt (h i x hx))]
  rfl

/-- What an insertion does to the queue of an object. -/
theorem insert_queue (h : x.Sound i) (value : α) :
  (x.withBase (x.ownBase.insert value).2).Sound i ∧
  if x.ownQueue.elements.length = x.ownQueue.capacity then
    (x.ownBase.insert value).1 = FIFOBase.full ∧
      x.withBase (x.ownBase.insert value).2 = x
  else
    (x.ownBase.insert value).1 = .ok ∧
      (x.withBase (x.ownBase.insert value).2).ownQueue =
        { x.ownQueue with elements := x.ownQueue.elements ++ [value] }
  := by
  have hiff : x.ownBase.isFull = true ↔ x.ownQueue.elements.length = x.ownQueue.capacity :=
    FIFOBase.isFull_iff x.ownBase
  cases hfull : x.ownBase.isFull with
  | true =>
      rw [if_pos (hiff.mp hfull), FIFOBase.insert_of_full value hfull, withBase_ownBase]
      exact ⟨h, rfl, rfl⟩
  | false =>
      obtain ⟨F, hinsert, hF, hmax, hstored⟩ := h.base.insert_spec value hfull
      rw [hfull] at hiff
      rw [if_neg (fun heq => nomatch hiff.mpr heq), hinsert, ownQueue_withBase x hmax, hstored]
      exact ⟨h.withBase hF hmax, rfl, rfl⟩

/-- What a retrieval does to the queue of an object. -/
theorem retrieve_queue (h : x.Sound i) :
  (x.withBase x.ownBase.retrieve.2.2).Sound i ∧
  match x.ownQueue.elements with
  | [] => x.ownBase.retrieve.1 = FIFOBase.empty ∧ x.ownBase.retrieve.2.1 = none ∧
      x.withBase x.ownBase.retrieve.2.2 = x
  | value :: rest => x.ownBase.retrieve.1 = .ok ∧ x.ownBase.retrieve.2.1 = some value ∧
      (x.withBase x.ownBase.retrieve.2.2).ownQueue = { x.ownQueue with elements := rest }
  := by
  cases hstored : x.ownBase.stored with
  | nil =>
      have hretrieve := FIFOBase.retrieve_of_empty hstored
      have hempty : x.ownQueue.elements = [] := hstored
      rw [hretrieve, hempty]
      exact ⟨h, rfl, rfl, rfl⟩
  | cons value rest =>
      obtain ⟨F, hretrieve, hF, hmax, hrest⟩ := h.base.retrieve_spec hstored
      have hcons : x.ownQueue.elements = value :: rest := hstored
      rw [hretrieve, hcons, ownQueue_withBase x hmax, hrest]
      exact ⟨h.withBase hF hmax, rfl, rfl, rfl⟩

/-- The result of looking at the first value is that of retrieving it. -/
theorem peek_eq_fst (F : FIFOBase α) :
  F.peek = (F.retrieve.1, F.retrieve.2.1)
  := by
  rw [FIFOBase.peek, FIFOBase.retrieve]
  split <;> rfl

/-- A statement on sound objects leaves them sound. -/
theorem inv_step {op : Op α} {objects' : List (FIFO α)} {output : ReturnValue × Option α}
    (h : Inv objects) (hstep : step objects op = some (objects', output)) :
  Inv objects'
  := by
  cases op with
  | newFIFO capacity garbage =>
      cases hstep
      apply h.append
      apply sound_construct
      intro _ hclass
      cases hclass
      rfl
  | newDynamicFIFO maxCapacity garbage =>
      cases hstep
      apply h.append
      apply sound_construct
      intro _ hclass
      cases hclass
  | copyConstruct other =>
      simp only [step] at hstep
      split at hstep
      · cases hstep
      · rename_i y hy
        cases hstep
        apply h.append
        apply (h other y hy).copyConstruct
  | assign i other =>
      simp only [step] at hstep
      split at hstep
      · rename_i x y hx hy
        split at hstep
        · rename_i hclass
          cases hstep
          apply h.set
          apply (h i x hx).assign (h other y hy) hclass
        · cases hstep
      · cases hstep
  | insert i value =>
      simp only [step] at hstep
      split at hstep
      · cases hstep
      · rename_i x hx
        rw [insert_eq h hx] at hstep
        cases hstep
        apply h.set (insert_queue (h i x hx) value).1
  | retrieve i =>
      simp only [step] at hstep
      split at hstep
      · cases hstep
      · rename_i x hx
        rw [retrieve_eq h hx] at hstep
        cases hstep
        apply h.set (retrieve_queue (h i x hx)).1
  | peek i =>
      simp only [step] at hstep
      split at hstep
      · cases hstep
      · rename_i x hx
        rw [peek_eq h hx] at hstep
        cases hstep
        apply h
  | pop i =>
      simp only [step] at hstep
      split at hstep
      · cases hstep
      · rename_i x hx
        rw [retrieve_eq h hx] at hstep
        cases hstep
        apply h.set (retrieve_queue (h i x hx)).1

theorem set_self (hx : objects[i]? = some x) :
  objects.set i x = objects
  := by
  obtain ⟨hlt, rfl⟩ := List.getElem?_eq_some_iff.mp hx
  apply List.set_getElem_self

/-- A statement on sound objects is the same statement on their queues. -/
theorem step_queues (h : Inv objects) (op : Op α) :
  (step objects op).map (Prod.map (List.map ownQueue) id)
    = BoundedQueue.step (objects.map ownQueue) op
  := by
  cases op with
  | newFIFO capacity garbage =>
      simp only [step, BoundedQueue.step, Option.map_some, Prod.map_apply, List.map_append]
      rfl
  | newDynamicFIFO maxCapacity garbage =>
      simp only [step, BoundedQueue.step, Option.map_some, Prod.map_apply, List.map_append]
      rfl
  | copyConstruct other =>
      simp only [step, BoundedQueue.step, List.getElem?_map]
      cases objects[other]? with
      | none => rfl
      | some y =>
          simp only [Option.map_some, Prod.map_apply, List.map_append]
          rfl
  | assign i other =>
      simp only [step, BoundedQueue.step, List.getElem?_map]
      cases objects[i]? with
      | none => rfl
      | some x =>
          cases objects[other]? with
          | none => rfl
          | some y =>
              simp only [Option.map_some]
              by_cases hclass : x.fifoClass = y.fifoClass
              · have hclass' : x.ownQueue.fifoClass = y.ownQueue.fifoClass := hclass
                rw [if_pos hclass, if_pos hclass']
                simp only [Option.map_some, Prod.map_apply, List.map_set, ownQueue_assign hclass]
                rfl
              · have hclass' : x.ownQueue.fifoClass ≠ y.ownQueue.fifoClass := hclass
                rw [if_neg hclass, if_neg hclass']
                rfl
  | insert i value =>
      simp only [step, BoundedQueue.step, List.getElem?_map]
      cases hx : objects[i]? with
      | none => rfl
      | some x =>
          have hqueue := (insert_queue (h i x hx) value).2
          simp only [insert_eq h hx, Option.map_some, Prod.map_apply, List.map_set]
          split at hqueue
          · rename_i hfull
            obtain ⟨hresult, hsame⟩ := hqueue
            rw [if_pos hfull, hresult, hsame, ← List.map_set, set_self hx]
            rfl
          · rename_i hroom
            obtain ⟨hresult, hnew⟩ := hqueue
            rw [if_neg hroom, hresult, hnew]
            rfl
  | retrieve i =>
      simp only [step, BoundedQueue.step, List.getElem?_map]
      cases hx : objects[i]? with
      | none => rfl
      | some x =>
          have hqueue := (retrieve_queue (h i x hx)).2
          simp only [retrieve_eq h hx, Option.map_some, Prod.map_apply]
          split at hqueue
          · obtain ⟨hresult, hvalue, hsame⟩ := hqueue
            rw [hresult, hvalue, hsame, set_self hx]
            rfl
          · obtain ⟨hresult, hvalue, hnew⟩ := hqueue
            rw [hresult, hvalue, List.map_set, hnew]
            rfl
  | peek i =>
      simp only [step, BoundedQueue.step, List.getElem?_map]
      cases hx : objects[i]? with
      | none => rfl
      | some x =>
          have hqueue := (retrieve_queue (h i x hx)).2
          simp only [peek_eq h hx, peek_eq_fst, Option.map_some, Prod.map_apply]
          split at hqueue
          · obtain ⟨hresult, hvalue, -⟩ := hqueue
            rw [hresult, hvalue]
            rfl
          · obtain ⟨hresult, hvalue, -⟩ := hqueue
            rw [hresult, hvalue]
            rfl
  | pop i =>
      simp only [step, BoundedQueue.step, List.getElem?_map]
      cases hx : objects[i]? with
      | none => rfl
      | some x =>
          have hqueue := (retrieve_queue (h i x hx)).2
          simp only [retrieve_eq h hx, Option.map_some, Prod.map_apply]
          split at hqueue
          · obtain ⟨hresult, -, hsame⟩ := hqueue
            rw [hresult, hsame, set_self hx]
            rfl
          · obtain ⟨hresult, -, hnew⟩ := hqueue
            rw [hresult, List.map_set, hnew]
            rfl

end

/-- Every program returns what it returns on bounded queues, one for each object, and leaves
the objects with the elements and the capacities of the queues. -/
theorem run_queues {α : Type} (program : List (Op α)) :
  (step.run [] program).map (fun (objects, outputs) => (queues objects, outputs))
    = BoundedQueue.step.run [] program
  := by
  have hrun := Step.run_map (I := Inv) (fun s op s' o hs h => inv_step hs h)
    (fun s op hs => step_queues hs op) (inv_nil (α := α)) program
  rw [List.map_nil] at hrun
  rw [← hrun]
  cases h : step.run [] program with
  | none =>
      rfl
  | some r =>
      obtain ⟨objects, outputs⟩ := r
      have hinv := Step.run_preserves (I := Inv) (fun s op s' o hs h => inv_step hs h)
        inv_nil h
      simp only [Option.map_some, Prod.map_apply, queues_eq hinv]
      rfl

end FIFO
