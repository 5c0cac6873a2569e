import Fsfw.StorageManager.PoolIsolation
import Fsfw.StorageManager.StorageAccessor

/-!
# The packets that accessors own

An accessor is meant to own the packet it was obtained for: the packet moves along with the
accessor, and is deleted when the accessor that owns it is destroyed or gets another packet,
unless it has been released.  An `Ownership` says this, and counts how often a packet has been
fetched, released and deleted.

A program deletes what it owns, once each, as long as it fetches only packets that are there
and that no other accessor owns, fetches them into accessors that were made for them, and does
not assign to an accessor that owns a packet (`owned_once`).
-/

/-! ### Ownership -/

/-- The packets in a pool, what each accessor owns, and how often each packet has been
fetched, released and deleted. -/
structure Ownership where
  present : StoreAddress → Bool
  owned : ℕ → Option (Option StoreAddress)
  fetched : StoreAddress → ℕ
  released : StoreAddress → ℕ
  deleted : StoreAddress → ℕ

namespace Ownership

/-- Say what an accessor owns. -/
def set (t : Ownership) (v : ℕ) (owner : Option (Option StoreAddress)) : Ownership :=
  { t with owned := Function.update t.owned v owner }

/-- Delete a packet that was owned. -/
def drop (t : Ownership) : Option StoreAddress → Ownership × List StoreAddress
  | none => (t, [])
  | some id =>
      ({ t with
          present := Function.update t.present id false
          deleted := Function.update t.deleted id (t.deleted id + 1) }, [id])

/-- An accessor gets a packet. -/
def fetch (t : Ownership) (v : ℕ) (id : StoreAddress) : Ownership :=
  { t with fetched := Function.update t.fetched id (t.fetched id + 1) }.set v (some (some id))

/-- A new accessor is obtained. -/
def acquire (t : Ownership) (v : ℕ) (id : StoreAddress) :
    Option (Ownership × List StoreAddress) :=
  match t.owned v with
  | some _ => none
  | none => if t.present id then some (t.fetch v id, []) else some (t.set v (some none), [])

/-- A packet is fetched into an accessor.  One that the accessor owned is deleted then, unless
it is the same. -/
def refetch (t : Ownership) (v : ℕ) (id : StoreAddress) :
    Option (Ownership × List StoreAddress) :=
  match t.owned v with
  | none => none
  | some owner =>
      if t.present id ∧ owner ≠ some id then
        some ((t.drop owner).1.fetch v id, (t.drop owner).2)
      else
        some (t, [])

/-- What each step of a program means. -/
def step : Step Ownership AccessorOp (List StoreAddress) :=
  fun t op =>
    match op with
    | .declare v _ _ =>
        match t.owned v with
        | some _ => none
        | none => some (t.set v (some none), [])
    | .getData v id | .modifyData v id => t.acquire v id
    | .getDataInto v id | .modifyDataInto v id => t.refetch v id
    | .moveConstruct v w _ =>
        match t.owned v, t.owned w with
        | none, some owner => some ((t.set v (some owner)).set w (some none), [])
        | _, _ => none
    | .moveAssign v w =>
        match t.owned v, t.owned w with
        | some old, some owner =>
            if v = w then
              some (t, [])
            else
              some (((t.drop old).1.set v (some owner)).set w (some none), (t.drop old).2)
        | _, _ => none
    | .release v =>
        match t.owned v with
        | none => none
        | some none => some (t, [])
        | some (some id) =>
            some ({ t with released := Function.update t.released id (t.released id + 1) }.set v
              (some none), [])
    | .destroy v =>
        match t.owned v with
        | none => none
        | some owner => some ((t.drop owner).1.set v none, (t.drop owner).2)

/-- Every packet that was fetched is owned by a single accessor and still there, or it was
released or deleted; and none is deleted twice. -/
structure Accounted (t : Ownership) : Prop where
  present : ∀ v id, t.owned v = some (some id) → t.present id = true
  unique : ∀ v w id, t.owned v = some (some id) → t.owned w = some (some id) → v = w
  fetched_owned : ∀ v id, t.owned v = some (some id) →
    t.fetched id = t.released id + t.deleted id + 1
  fetched_of_not_owned : ∀ id, (∀ v, t.owned v ≠ some (some id)) →
    t.fetched id = t.released id + t.deleted id
  deleted_le : ∀ id, t.deleted id ≤ if t.present id then 0 else 1

namespace Accounted

variable {t : Ownership} {v w : ℕ} {id : StoreAddress}

/-- An accessor that owns nothing appears or disappears. -/
theorem set_of_not_owned (h : t.Accounted) (hv : ∀ id, t.owned v ≠ some (some id))
    {owner : Option (Option StoreAddress)} (howner : ∀ id, owner ≠ some (some id)) :
  (t.set v owner).Accounted
  := by
  have howned : ∀ w id, (t.set v owner).owned w = some (some id)
      ↔ t.owned w = some (some id) := by
    intro w id
    by_cases hw : w = v
    · simp [set, hw, hv id, howner id]
    · simp [set, hw]
  constructor
  · intro w id hw
    exact h.present w id ((howned w id).mp hw)
  · intro w w' id hw hw'
    exact h.unique w w' id ((howned w id).mp hw) ((howned w' id).mp hw')
  · intro w id hw
    exact h.fetched_owned w id ((howned w id).mp hw)
  · intro id hnone
    apply h.fetched_of_not_owned id
    intro w hw
    exact hnone w ((howned w id).mpr hw)
  · exact h.deleted_le

/-- An accessor that owns nothing gets a packet that no accessor owns. -/
theorem fetch (h : t.Accounted) (hv : ∀ id, t.owned v ≠ some (some id))
    (hpresent : t.present id = true) (hid : ∀ w, t.owned w ≠ some (some id)) :
  (t.fetch v id).Accounted
  := by
  have howned : ∀ w id', (t.fetch v id).owned w = some (some id')
      ↔ w = v ∧ id' = id ∨ t.owned w = some (some id') := by
    intro w id'
    by_cases hw : w = v
    · simp [Ownership.fetch, set, hw, hv id', eq_comm]
    · simp [Ownership.fetch, set, hw]
  have hfetched : ∀ id', id' ≠ id → (t.fetch v id).fetched id' = t.fetched id' := by
    intro id' hne
    simp [Ownership.fetch, set, hne]
  have hcount : (t.fetch v id).fetched id = t.released id + t.deleted id + 1 := by
    simp [Ownership.fetch, set, h.fetched_of_not_owned id hid]
  constructor
  · intro w id' hw
    rcases (howned w id').mp hw with ⟨-, rfl⟩ | hw
    · exact hpresent
    · exact h.present w id' hw
  · intro w w' id' hw hw'
    rcases (howned w id').mp hw with ⟨rfl, rfl⟩ | hold
    · rcases (howned w' id').mp hw' with ⟨rfl, -⟩ | hold'
      · rfl
      · cases hid w' hold'
    · rcases (howned w' id').mp hw' with ⟨-, rfl⟩ | hold'
      · cases hid w hold
      · exact h.unique w w' id' hold hold'
  · intro w id' hw
    rcases (howned w id').mp hw with ⟨-, rfl⟩ | hold
    · exact hcount
    · have hne : id' ≠ id := by
        rintro rfl
        exact hid w hold
      rw [hfetched id' hne]
      exact h.fetched_owned w id' hold
  · intro id' hnone
    have hne : id' ≠ id := by
      rintro rfl
      exact hnone v ((howned v id').mpr (Or.inl ⟨rfl, rfl⟩))
    rw [hfetched id' hne]
    apply h.fetched_of_not_owned id'
    intro w hw
    exact hnone w ((howned w id').mpr (Or.inr hw))
  · exact h.deleted_le

/-- What one accessor owns goes over to another one that owns nothing. -/
theorem move (h : t.Accounted) (hne : v ≠ w) (hv : ∀ id, t.owned v ≠ some (some id))
    {owner : Option StoreAddress} (hw : t.owned w = some owner) :
  ((t.set v (some owner)).set w (some none)).Accounted
  := by
  have howned : ∀ x id, ((t.set v (some owner)).set w (some none)).owned x = some (some id)
      ↔ x = v ∧ t.owned w = some (some id) ∨ x ≠ v ∧ x ≠ w ∧ t.owned x = some (some id) := by
    intro x id
    by_cases hxw : x = w
    · simp [set, hxw, hne.symm]
    · by_cases hxv : x = v
      · simp [set, hxv, hne, hw]
      · simp [set, hxv, hxw]
  have hback : ∀ x id, ((t.set v (some owner)).set w (some none)).owned x = some (some id) →
      ∃ y, t.owned y = some (some id) := by
    intro x id hx
    rcases (howned x id).mp hx with ⟨-, hy⟩ | ⟨-, -, hy⟩
    · exact ⟨w, hy⟩
    · exact ⟨x, hy⟩
  constructor
  · intro x id hx
    obtain ⟨y, hy⟩ := hback x id hx
    exact h.present y id hy
  · intro x x' id hx hx'
    rcases (howned x id).mp hx with ⟨rfl, hy⟩ | ⟨-, hxw, hy⟩
    · rcases (howned x' id).mp hx' with ⟨rfl, -⟩ | ⟨-, hxw', hy'⟩
      · rfl
      · cases hxw' (h.unique x' w id hy' hy)
    · rcases (howned x' id).mp hx' with ⟨rfl, hy'⟩ | ⟨-, -, hy'⟩
      · cases hxw (h.unique x w id hy hy')
      · exact h.unique x x' id hy hy'
  · intro x id hx
    obtain ⟨y, hy⟩ := hback x id hx
    exact h.fetched_owned y id hy
  · intro id hnone
    apply h.fetched_of_not_owned id
    intro y hy
    by_cases hyw : y = w
    · rw [hyw] at hy
      exact hnone v ((howned v id).mpr (Or.inl ⟨rfl, hy⟩))
    · refine hnone y ((howned y id).mpr (Or.inr ⟨?_, hyw, hy⟩))
      rintro rfl
      exact hv id hy
  · exact h.deleted_le

/-- An accessor loses the packet it owns, which is released or deleted. -/
theorem lose (h : t.Accounted) (hv : t.owned v = some (some id)) {t' : Ownership}
    (hpresent : ∀ id', id' ≠ id → t'.present id' = t.present id')
    (howned : ∀ w id', t'.owned w = some (some id') ↔ w ≠ v ∧ t.owned w = some (some id'))
    (hfetched : t'.fetched = t.fetched)
    (hcount : ∀ id', t'.released id' + t'.deleted id' =
      t.released id' + t.deleted id' + if id' = id then 1 else 0)
    (hdeleted : ∀ id', t'.deleted id' ≤ if t'.present id' then 0 else 1) :
  t'.Accounted
  := by
  have hne : ∀ w id', t'.owned w = some (some id') → id' ≠ id := by
    rintro w id' hw rfl
    obtain ⟨hwv, hw⟩ := (howned w id').mp hw
    exact hwv (h.unique w v id' hw hv)
  constructor
  · intro w id' hw
    rw [hpresent id' (hne w id' hw)]
    exact h.present w id' ((howned w id').mp hw).2
  · intro w w' id' hw hw'
    exact h.unique w w' id' ((howned w id').mp hw).2 ((howned w' id').mp hw').2
  · intro w id' hw
    rw [hfetched, hcount id', if_neg (hne w id' hw)]
    exact h.fetched_owned w id' ((howned w id').mp hw).2
  · intro id' hnone
    rw [hfetched, hcount id']
    by_cases heq : id' = id
    · rw [if_pos heq, heq]
      exact h.fetched_owned v id hv
    · rw [if_neg heq]
      apply h.fetched_of_not_owned id'
      intro w hw
      refine hnone w ((howned w id').mpr ⟨?_, hw⟩)
      rintro rfl
      rw [hv] at hw
      exact heq (Option.some.inj (Option.some.inj hw)).symm
  · exact hdeleted

end Accounted

theorem deleted_drop (t : Ownership) (owner : Option StoreAddress) (id : StoreAddress) :
  (t.drop owner).1.deleted id = t.deleted id + (t.drop owner).2.count id
  := by
  cases owner with
  | none => rfl
  | some id' =>
      by_cases h : id = id'
      · simp [drop, h]
      · simp [drop, h, Ne.symm h]

/-- The count of deletions is that of the addresses given out by the steps. -/
theorem deleted_step {t t' : Ownership} {op : AccessorOp} {deleted : List StoreAddress}
    (h : step t op = some (t', deleted)) (id : StoreAddress) :
  t'.deleted id = t.deleted id + deleted.count id
  := by
  have acquired : ∀ {v id'}, t.acquire v id' = some (t', deleted) →
      t'.deleted id = t.deleted id + deleted.count id := by
    intro v id' h
    rw [acquire] at h
    split at h
    · cases h
    · split_ifs at h <;> cases h <;> rfl
  have refetched : ∀ {v id'}, t.refetch v id' = some (t', deleted) →
      t'.deleted id = t.deleted id + deleted.count id := by
    intro v id' h
    rw [refetch] at h
    split at h
    · cases h
    · split_ifs at h
      · cases h
        apply deleted_drop
      · cases h
        rfl
  cases op with
  | declare v isModifiable storeId =>
      simp only [step] at h
      split at h
      · cases h
      · cases h
        rfl
  | getData v storeId => exact acquired h
  | modifyData v storeId => exact acquired h
  | getDataInto v storeId => exact refetched h
  | modifyDataInto v storeId => exact refetched h
  | moveConstruct v w isModifiable =>
      simp only [step] at h
      split at h
      · cases h
        rfl
      · cases h
  | moveAssign v w =>
      simp only [step] at h
      split at h
      · split_ifs at h
        · cases h
          rfl
        · cases h
          apply deleted_drop
      · cases h
  | release v =>
      simp only [step] at h
      split at h
      · cases h
      · cases h
        rfl
      · cases h
        rfl
  | destroy v =>
      simp only [step] at h
      split at h
      · cases h
      · cases h
        apply deleted_drop

theorem deleted_run {t t' : Ownership} {ops : List AccessorOp}
    {deleted : List (List StoreAddress)} (h : step.run t ops = some (t', deleted))
    (id : StoreAddress) :
  t'.deleted id = t.deleted id + deleted.flatten.count id
  := by
  induction ops generalizing t deleted with
  | nil =>
      cases h
      rfl
  | cons op ops ih =>
      obtain ⟨t₁, first, rest, hstep, hrun, rfl⟩ := Step.run_cons_inv h
      rw [ih hrun, deleted_step hstep, List.flatten_cons, List.count_append, Nat.add_assoc]

end Ownership

/-! ### Programs -/

/-- The packet that an accessor deletes when it is destroyed. -/
def ConstStorageAccessor.owned (a : ConstStorageAccessor) : Option StoreAddress :=
  if a.deleteData && a.store then some a.storeId else none

namespace Accessor

@[simp]
theorem base_withBase (f : ConstStorageAccessor → ConstStorageAccessor) (a : Accessor) :
  (a.withBase f).base = f a.base
  := by
  cases a with
  | const a => rfl
  | modifiable a => rfl

theorem owned_declare (isModifiable : Bool) (storeId : StoreAddress) :
  (declare isModifiable storeId).base.owned = none
  := by
  cases isModifiable with
  | false => rfl
  | true => rfl

/-- Moving takes what the other accessor owns. -/
theorem owned_moveConstruct {isModifiable : Bool} {other a left : Accessor}
    (h : other.moveConstruct isModifiable = some (a, left)) :
  a.base.owned = other.base.owned ∧ left.base.owned = none
  := by
  cases isModifiable with
  | false =>
      cases h
      rw [base_withBase]
      simp [ConstStorageAccessor.owned, ConstStorageAccessor.moveConstruct, base]
  | true =>
      cases other with
      | const other => cases h
      | modifiable other =>
          cases h
          simp [ConstStorageAccessor.owned, ConstStorageAccessor.moveConstruct,
            StorageAccessor.moveConstruct, base]

/-- Assigning takes what the other accessor owns, and forgets what was owned before. -/
theorem owned_moveAssign {old other a left : Accessor}
    (h : old.moveAssign other = some (a, left)) :
  a.base.owned = other.base.owned ∧ left.base.owned = none
  := by
  cases old with
  | const old =>
      cases h
      rw [base_withBase]
      simp [ConstStorageAccessor.owned, ConstStorageAccessor.moveAssign, base]
  | modifiable old =>
      cases other with
      | const other => cases h
      | modifiable other =>
          cases h
          simp [ConstStorageAccessor.owned, ConstStorageAccessor.moveAssign,
            StorageAccessor.moveAssign, base]

end Accessor

namespace LocalPool

variable {p : LocalPool} {id : StoreAddress}

/-- An accessor that is obtained owns the packet it is obtained for, even when there is none. -/
theorem owned_getDataAccessor (p : LocalPool) (id : StoreAddress) :
  (p.getDataAccessor id).2.owned = some id
  := by
  simp only [getDataAccessor]
  split
  · rfl
  · rfl

theorem owned_modifyDataAccessor (p : LocalPool) (id : StoreAddress) :
  (p.modifyDataAccessor id).2.owned = some id
  := by
  simp only [modifyDataAccessor]
  split
  · rfl
  · rfl

/-- An accessor that is reused keeps its address. -/
theorem owned_getDataInto (p : LocalPool) (id : StoreAddress) {a : ConstStorageAccessor}
    (h : a.deleteData = true) :
  (p.getDataInto id a).2.owned = some a.storeId
  := by
  simp only [getDataInto]
  split
  · simp [ConstStorageAccessor.owned, ConstStorageAccessor.assignStore, h]
  · simp [ConstStorageAccessor.owned, ConstStorageAccessor.assignStore, h]

theorem owned_modifyDataInto (p : LocalPool) (id : StoreAddress) {a : StorageAccessor}
    (h : a.deleteData = true) :
  (p.modifyDataInto id a).2.owned = some a.storeId
  := by
  simp only [modifyDataInto]
  split
  · simp [ConstStorageAccessor.owned, ConstStorageAccessor.assignStore,
      StorageAccessor.assignConstPointer, h]
  · simp [ConstStorageAccessor.owned, ConstStorageAccessor.assignStore,
      StorageAccessor.assignConstPointer, h]

end LocalPool

namespace AccessorProgram

open LocalPool

/-- The packet is there and can be deleted, and no other accessor owns it. -/
structure Fetchable (s : AccessorProgram) (v : ℕ) (id : StoreAddress) : Prop where
  present : (s.pool.modifyData id).1 = .ok
  size_ne : s.pool.elementSizes id.poolIndex.toNat ≠ 0
  not_owned : ∀ w a, w ≠ v → s.accessors w = some a → a.base.owned ≠ some id

/-- The step respects the names of accessors, and what they own: packets are fetched only when
they are there and are not owned, into new accessors or into ones that were made for them and
not released; and an accessor that is assigned to owns nothing. -/
def Proper (s : AccessorProgram) : AccessorOp → Prop
  | .declare v _ _ => s.accessors v = none
  | .getData v id | .modifyData v id => s.accessors v = none ∧ s.Fetchable v id
  | .getDataInto v id =>
      ∃ a, s.accessors v = some a ∧ a.base.storeId = id ∧ a.base.deleteData = true ∧
        s.Fetchable v id
  | .modifyDataInto v id =>
      ∃ a, s.accessors v = some (.modifiable a) ∧ a.storeId = id ∧ a.deleteData = true ∧
        s.Fetchable v id
  | .moveConstruct v w isModifiable =>
      s.accessors v = none ∧
        ∃ other, s.accessors w = some other ∧ (other.moveConstruct isModifiable).isSome
  | .moveAssign v w =>
      ∃ a other, s.accessors v = some a ∧ s.accessors w = some other ∧
        (a.moveAssign other).isSome ∧ a.base.owned = none
  | .release v | .destroy v => (s.accessors v).isSome

/-- The accessors own what they are meant to own. -/
structure Related (s : AccessorProgram) (t : Ownership) : Prop where
  fits : Fits s.pool
  present : ∀ id, t.present id = true ↔ (s.pool.modifyData id).1 = .ok
  owned : ∀ v, t.owned v = (s.accessors v).map fun a => a.base.owned
  size_ne : ∀ v id, t.owned v = some (some id) →
    s.pool.elementSizes id.poolIndex.toNat ≠ 0
  accounted : t.Accounted

/-- The packets of a pool, none of which has been fetched. -/
def ownership (p : LocalPool) : Ownership where
  present := fun id => (p.modifyData id).1 = .ok
  owned := fun _ => none
  fetched := fun _ => 0
  released := fun _ => 0
  deleted := fun _ => 0

theorem related_start {p : LocalPool} (h : Fits p) :
  Related (start p) (ownership p)
  := by
  constructor
  · exact h
  · intro id
    simp [ownership, start]
  · intro v
    rfl
  · intro v id hv
    cases hv
  · constructor
    · intro v id hv
      cases hv
    · intro v w id hv
      cases hv
    · intro v id hv
      cases hv
    · intro id _
      rfl
    · intro id
      exact Nat.zero_le _

section

variable {s s' : AccessorProgram} {t t' : Ownership} {v w : ℕ} {id : StoreAddress}

/-- The pool and its packets stay as they are. -/
theorem Related.congr (h : Related s t) (hpool : s'.pool = s.pool)
    (hpresent : t'.present = t.present)
    (howned : ∀ v, t'.owned v = (s'.accessors v).map fun a => a.base.owned)
    (hsize : ∀ v id, t'.owned v = some (some id) →
      s.pool.elementSizes id.poolIndex.toNat ≠ 0) (haccounted : t'.Accounted) :
  Related s' t'
  := by
  constructor
  · rw [hpool]
    exact h.fits
  · rw [hpool, hpresent]
    exact h.present
  · exact howned
  · rw [hpool]
    exact hsize
  · exact haccounted

/-- The accessor of a name and what it owns are set together. -/
theorem Related.owned_set (h : Related s t) {a : Option Accessor}
    {owner : Option (Option StoreAddress)} (howner : owner = a.map fun a => a.base.owned)
    (w : ℕ) :
  Function.update t.owned v owner w
    = ((s.set v a).accessors w).map fun a => a.base.owned
  := by
  by_cases hw : w = v
  · simp [set, hw, howner]
  · simp [set, hw, h.owned w]

theorem Related.owned_eq (h : Related s t) {a : Accessor} (hv : s.accessors v = some a) :
  t.owned v = some a.base.owned
  := by
  rw [h.owned, hv]
  rfl

theorem Related.not_owned (h : Related s t) (hv : s.accessors v = none) :
  t.owned v = none
  := by
  rw [h.owned, hv]
  rfl

/-- An accessor that owns nothing appears. -/
theorem Related.set_of_not_owned (h : Related s t) (hv : ∀ id, t.owned v ≠ some (some id))
    {a : Option Accessor} {owner : Option (Option StoreAddress)}
    (howner : owner = a.map fun a => a.base.owned) (hnone : ∀ id, owner ≠ some (some id)) :
  Related (s.set v a) (t.set v owner)
  := by
  refine h.congr (by rfl) (by rfl) ?_ ?_ ?_
  · exact h.owned_set howner
  · intro w id hw
    by_cases hwv : w = v
    · simp only [Ownership.set, hwv, Function.update_self] at hw
      cases hnone id hw
    · simp only [Ownership.set, Function.update_of_ne hwv] at hw
      exact h.size_ne w id hw
  · exact h.accounted.set_of_not_owned hv hnone

/-- An accessor that owns nothing gets a packet. -/
theorem Related.fetch (h : Related s t) (hv : ∀ id, t.owned v ≠ some (some id))
    (hfetch : s.Fetchable v id) {a : Accessor} (ha : a.base.owned = some id) :
  Related (s.set v (some a)) (t.fetch v id)
  := by
  have hother : ∀ w, t.owned w ≠ some (some id) := by
    intro w hw
    by_cases hwv : w = v
    · rw [hwv] at hw
      exact hv id hw
    · rw [h.owned w, Option.map_eq_some_iff] at hw
      obtain ⟨b, hb, howned⟩ := hw
      exact hfetch.not_owned w b hwv hb howned
  refine h.congr (by rfl) (by rfl) ?_ ?_ ?_
  · apply h.owned_set
    rw [Option.map_some, ha]
  · intro w id' hw
    by_cases hwv : w = v
    · simp only [Ownership.fetch, Ownership.set, hwv, Function.update_self] at hw
      cases hw
      exact hfetch.size_ne
    · simp only [Ownership.fetch, Ownership.set, Function.update_of_ne hwv] at hw
      exact h.size_ne w id' hw
  · exact h.accounted.fetch hv ((h.present id).mpr hfetch.present) hother

/-- A packet is fetched into an accessor that was made for it. -/
theorem Related.refetch (h : Related s t) (hfetch : s.Fetchable v id) {a a' : Accessor}
    (hv : s.accessors v = some a) (ha : a.base.storeId = id) (ha' : a'.base.owned = some id) :
  ∃ t', t.refetch v id = some (t', []) ∧ Related (s.set v (some a')) t'
  := by
  have howned := h.owned_eq hv
  simp only [Ownership.refetch, howned, (h.present id).mpr hfetch.present, true_and]
  by_cases hid : a.base.owned = some id
  · rw [if_neg (not_not.mpr hid)]
    refine ⟨t, rfl, ?_⟩
    refine h.congr (by rfl) (by rfl) ?_ h.size_ne h.accounted
    intro w
    rw [← h.owned_set (show some (some id) = _ by rw [Option.map_some, ha']) w, ← hid,
      ← howned, Function.update_eq_self]
  · -- An accessor for the packet that does not own it owns nothing.
    have hnone : a.base.owned = none := by
      rw [ConstStorageAccessor.owned, ha] at hid ⊢
      split_ifs at hid ⊢ with hflags
      · cases hid rfl
      · rfl
    rw [if_pos hid, hnone]
    refine ⟨_, rfl, ?_⟩
    apply h.fetch _ hfetch ha'
    intro id' hid'
    rw [howned, hnone] at hid'
    cases hid'

/-- What an accessor owns goes over to one that owns nothing. -/
theorem Related.move (h : Related s t) (hne : v ≠ w) (hv : ∀ id, t.owned v ≠ some (some id))
    {other a left : Accessor} (hw : s.accessors w = some other)
    (ha : a.base.owned = other.base.owned) (hleft : left.base.owned = none) :
  Related ((s.set v (some a)).set w (some left))
    ((t.set v (some other.base.owned)).set w (some none))
  := by
  have howned := h.owned_eq hw
  refine h.congr (by rfl) (by rfl) ?_ ?_ ?_
  · intro x
    by_cases hxw : x = w
    · simp [set, Ownership.set, hxw, hleft]
    · by_cases hxv : x = v
      · simp [set, Ownership.set, hxv, hne, ha]
      · simp [set, Ownership.set, hxw, hxv, h.owned x]
  · intro x id hx
    by_cases hxw : x = w
    · simp [Ownership.set, hxw] at hx
    · by_cases hxv : x = v
      · simp only [Ownership.set, hxv, Function.update_of_ne hne, Function.update_self] at hx
        exact h.size_ne w id (howned.trans hx)
      · simp only [Ownership.set, Function.update_of_ne hxw, Function.update_of_ne hxv] at hx
        exact h.size_ne x id hx
  · exact h.accounted.move hne hv howned

/-- A packet that is owned is deleted with its accessor. -/
theorem Related.destroy (h : Related s t) {a : Accessor} (hv : s.accessors v = some a) :
  ∃ p deleted, a.base.destroy s.pool = some (deleted, p) ∧
    (t.drop a.base.owned).2 = deleted ∧
    Related ({ s with pool := p }.set v none) ((t.drop a.base.owned).1.set v none)
  := by
  have howned := h.owned_eq hv
  cases hid : a.base.owned with
  | none =>
      have hflags : ¬ (a.base.deleteData && a.base.store) = true := by
        intro hflags
        rw [ConstStorageAccessor.owned, if_pos hflags] at hid
        cases hid
      refine ⟨s.pool, [], if_neg hflags, rfl, ?_⟩
      refine h.set_of_not_owned ?_ rfl ?_
      · intro id'
        rw [howned, hid]
        simp
      · simp
  | some id =>
      rw [hid] at howned
      have hflags : (a.base.deleteData && a.base.store) = true := by
        by_contra hflags
        rw [ConstStorageAccessor.owned, if_neg hflags] at hid
        cases hid
      have hstoreId : a.base.storeId = id := by
        rw [ConstStorageAccessor.owned, if_pos hflags] at hid
        exact Option.some.inj hid
      have hpresent := h.accounted.present v id howned
      have hlegal := (modifyData_ok_iff.mp ((h.present id).mp hpresent)).1
      obtain ⟨p', hdelete, hconfig, hok⟩ := deleteData_ok h.fits hlegal (h.size_ne v id howned)
      refine ⟨p', [id], ?_, rfl, ?_⟩
      · rw [ConstStorageAccessor.destroy, if_pos hflags, hstoreId, hdelete]
      · have hsame : ∀ w id', ((t.drop (some id)).1.set v none).owned w = some (some id')
            ↔ w ≠ v ∧ t.owned w = some (some id') := by
          intro w id'
          by_cases hw : w = v
          · simp [Ownership.set, hw]
          · simp [Ownership.set, Ownership.drop, hw]
        constructor
        · exact h.fits.congr hconfig
        · intro id'
          change Function.update t.present id false id' = true ↔ (p'.modifyData id').1 = .ok
          rw [hok id']
          by_cases heq : id' = id
          · simp [heq]
          · simp [heq, h.present id']
        · exact h.owned_set rfl
        · intro w id' hw
          change p'.elementSizes id'.poolIndex.toNat ≠ 0
          rw [elementSizes, hconfig]
          exact h.size_ne w id' ((hsame w id').mp hw).2
        · refine h.accounted.lose howned ?_ hsame rfl ?_ ?_
          · intro id' hne
            simp [Ownership.set, Ownership.drop, hne]
          · intro id'
            by_cases heq : id' = id
            · simp [Ownership.set, Ownership.drop, heq]
              omega
            · simp [Ownership.set, Ownership.drop, heq]
          · intro id'
            have hle := h.accounted.deleted_le id'
            by_cases heq : id' = id
            · rw [heq, hpresent] at hle
              simp only [if_true, Nat.le_zero] at hle
              simp [Ownership.set, Ownership.drop, heq, hle]
            · simpa [Ownership.set, Ownership.drop, heq] using hle

/-- A packet that is released is not owned any more. -/
theorem Related.release (h : Related s t) {a : Accessor} (hv : s.accessors v = some a) :
  ∃ t', Ownership.step t (.release v) = some (t', []) ∧
    Related (s.set v (some (a.withBase ConstStorageAccessor.release))) t'
  := by
  have howned := h.owned_eq hv
  have hreleased : (a.withBase ConstStorageAccessor.release).base.owned = none := by
    rw [Accessor.base_withBase]
    rfl
  have hmap : some none = (some (a.withBase ConstStorageAccessor.release)).map
      fun a => a.base.owned := by
    rw [Option.map_some, hreleased]
  cases hid : a.base.owned with
  | none =>
      rw [hid] at howned
      simp only [Ownership.step, howned]
      refine ⟨t, rfl, ?_⟩
      refine h.congr (by rfl) (by rfl) ?_ h.size_ne h.accounted
      intro w
      rw [← h.owned_set hmap w, ← howned, Function.update_eq_self]
  | some id =>
      rw [hid] at howned
      simp only [Ownership.step, howned]
      refine ⟨_, rfl, ?_⟩
      have hsame : ∀ w id', Function.update t.owned v (some none) w = some (some id')
          ↔ w ≠ v ∧ t.owned w = some (some id') := by
        intro w id'
        by_cases hw : w = v
        · simp [hw]
        · simp [hw]
      refine h.congr (by rfl) (by rfl) ?_ ?_ ?_
      · exact h.owned_set hmap
      · intro w id' hw
        exact h.size_ne w id' ((hsame w id').mp hw).2
      · refine h.accounted.lose howned (fun _ _ => rfl) hsame rfl ?_ h.accounted.deleted_le
        intro id'
        by_cases heq : id' = id
        · simp [Ownership.set, heq]
          omega
        · simp [Ownership.set, heq]

/-- A proper step does what it means. -/
theorem Related.step (h : Related s t) {op : AccessorOp} (hproper : s.Proper op) :
  ∃ s' t' deleted, AccessorProgram.step s op = some (s', deleted) ∧
    Ownership.step t op = some (t', deleted) ∧ Related s' t'
  := by
  have not_owned : ∀ {v}, s.accessors v = none → ∀ id, t.owned v ≠ some (some id) := by
    intro v hv id hid
    rw [h.not_owned hv] at hid
    cases hid
  cases op with
  | declare v isModifiable storeId =>
      have hv : s.accessors v = none := hproper
      have hrelated : Related (s.set v (some (.declare isModifiable storeId)))
          (t.set v (some none)) := by
        refine h.set_of_not_owned (not_owned hv) ?_ (by simp)
        rw [Option.map_some, Accessor.owned_declare]
      exact ⟨_, _, [], by simp only [AccessorProgram.step, hv],
        by simp only [Ownership.step, h.not_owned hv], hrelated⟩
  | getData v id =>
      obtain ⟨hv, hfetch⟩ := hproper
      have hrelated := h.fetch (a := .const (s.pool.getDataAccessor id).2)
        (not_owned hv) hfetch (owned_getDataAccessor _ _)
      exact ⟨_, _, [], by simp only [AccessorProgram.step, hv],
        by simp only [Ownership.step, Ownership.acquire, h.not_owned hv,
          (h.present id).mpr hfetch.present, if_true], hrelated⟩
  | modifyData v id =>
      obtain ⟨hv, hfetch⟩ := hproper
      have hrelated := h.fetch (a := .modifiable (s.pool.modifyDataAccessor id).2)
        (not_owned hv) hfetch (owned_modifyDataAccessor _ _)
      exact ⟨_, _, [], by simp only [AccessorProgram.step, hv],
        by simp only [Ownership.step, Ownership.acquire, h.not_owned hv,
          (h.present id).mpr hfetch.present, if_true], hrelated⟩
  | getDataInto v id =>
      obtain ⟨a, hv, hid, hdelete, hfetch⟩ := hproper
      have howned : (a.withBase fun base => (s.pool.getDataInto id base).2).base.owned
          = some id := by
        rw [Accessor.base_withBase, owned_getDataInto _ _ hdelete, hid]
      obtain ⟨t', ht', hrelated⟩ := h.refetch hfetch hv hid howned
      exact ⟨_, t', [], by simp only [AccessorProgram.step, hv], ht', hrelated⟩
  | modifyDataInto v id =>
      obtain ⟨a, hv, hid, hdelete, hfetch⟩ := hproper
      have howned : (Accessor.modifiable (s.pool.modifyDataInto id a).2).base.owned
          = some id := by
        rw [Accessor.base, owned_modifyDataInto _ _ hdelete, hid]
      obtain ⟨t', ht', hrelated⟩ := h.refetch hfetch hv hid howned
      exact ⟨_, t', [], by simp only [AccessorProgram.step, hv], ht', hrelated⟩
  | moveConstruct v w isModifiable =>
      obtain ⟨hv, other, hw, hsome⟩ := hproper
      obtain ⟨⟨a, left⟩, hmove⟩ := Option.isSome_iff_exists.mp hsome
      obtain ⟨ha, hleft⟩ := Accessor.owned_moveConstruct hmove
      have hne : v ≠ w := by
        rintro rfl
        rw [hv] at hw
        cases hw
      have hrelated := h.move hne (not_owned hv) hw ha hleft
      exact ⟨_, _, [], by simp only [AccessorProgram.step, hv, hw, hmove],
        by simp only [Ownership.step, h.not_owned hv, h.owned_eq hw], hrelated⟩
  | moveAssign v w =>
      obtain ⟨a, other, hv, hw, hsome, hnone⟩ := hproper
      obtain ⟨⟨a', left⟩, hmove⟩ := Option.isSome_iff_exists.mp hsome
      obtain ⟨ha, hleft⟩ := Accessor.owned_moveAssign hmove
      have howned := h.owned_eq hv
      rw [hnone] at howned
      by_cases heq : v = w
      · -- Nothing is owned before, and nothing is afterwards.
        have hrelated : Related ((s.set v (some a')).set w (some left)) t := by
          refine h.congr (by rfl) (by rfl) ?_ h.size_ne h.accounted
          intro x
          by_cases hx : x = w
          · simp [set, hx, hleft, ← heq, howned]
          · simp [set, heq, hx, h.owned x]
        exact ⟨_, t, [], by simp only [AccessorProgram.step, hv, hw, hmove],
          by simp only [Ownership.step, howned, h.owned_eq hw, if_pos heq], hrelated⟩
      · have hrelated := h.move heq (by simp [howned]) hw ha hleft
        exact ⟨_, _, [], by simp only [AccessorProgram.step, hv, hw, hmove],
          by simp only [Ownership.step, howned, h.owned_eq hw, if_neg heq, Ownership.drop],
          hrelated⟩
  | release v =>
      obtain ⟨a, hv⟩ := Option.isSome_iff_exists.mp hproper
      obtain ⟨t', ht', hrelated⟩ := h.release hv
      exact ⟨_, t', [], by simp only [AccessorProgram.step, hv], ht', hrelated⟩
  | destroy v =>
      obtain ⟨a, hv⟩ := Option.isSome_iff_exists.mp hproper
      obtain ⟨p, deleted, hdestroy, hdrop, hrelated⟩ := h.destroy hv
      exact ⟨_, _, deleted, by simp only [AccessorProgram.step, hv, hdestroy],
        by simp only [Ownership.step, h.owned_eq hv, hdrop], hrelated⟩

end

/-- In every run of proper steps on a pool whose blocks are as long as they should be, the
packets that are deleted are those that the steps mean to delete.  Every packet that was
fetched is owned by a single accessor and still there, or it was released or deleted, and none
is deleted twice. -/
theorem owned_once {p : LocalPool} (hfits : Fits p) {ops : List AccessorOp}
    (hproper : step.Along Proper (start p) ops) :
  ∃ s t deleted, step.run (start p) ops = some (s, deleted) ∧
    Ownership.step.run (ownership p) ops = some (t, deleted) ∧ Related s t ∧ t.Accounted ∧
    ∀ id, t.deleted id = deleted.flatten.count id
  := by
  obtain ⟨s, t, deleted, hrun, hrun', hrelated⟩ :=
    Step.run_simulation_along (fun s t op h hop => h.step hop) (related_start hfits) hproper
  refine ⟨s, t, deleted, hrun, hrun', hrelated, hrelated.accounted, ?_⟩
  intro id
  rw [Ownership.deleted_run hrun' id]
  exact Nat.zero_add _

/-- The pool with two packets of one byte. -/
def twoPackets : LocalPool :=
  ((single ⟨2, 4, by decide, by decide⟩).setSize 0 0 1).setSize 0 1 1

theorem fits_twoPackets :
  Fits twoPackets
  := by
  have hblock : ∀ n, n < 1 → twoPackets.numberOfElements n * twoPackets.elementSizes n < 2 ^ 64
      ∧ twoPackets.elementSizes n < storageFree := by
    decide
  exact ⟨fun n hn => (hblock n hn).1, fun n hn => (hblock n hn).2⟩

/-- The first packet is fetched, and its accessor moved. -/
def moving : List AccessorOp :=
  [.getData 0 ⟨0, 0⟩, .moveConstruct 1 0 false, .destroy 0, .destroy 1]

theorem owned_once_moving :
  ∃ s t deleted, step.run (start twoPackets) moving = some (s, deleted) ∧
    Ownership.step.run (ownership twoPackets) moving = some (t, deleted) ∧ Related s t ∧
    t.Accounted ∧ ∀ id, t.deleted id = deleted.flatten.count id
  := by
  apply owned_once fits_twoPackets
  refine ⟨⟨rfl, by decide, by decide, ?_⟩, fun s₁ o₁ h₁ => ?_⟩
  · intro w a _ hw
    cases hw
  · cases h₁
    refine ⟨⟨rfl, _, rfl, rfl⟩, fun s₂ o₂ h₂ => ?_⟩
    cases h₂
    refine ⟨rfl, fun s₃ o₃ h₃ => ?_⟩
    cases h₃
    exact ⟨rfl, fun _ _ _ => trivial⟩

/-- Both packets are fetched, and the accessor of the second one is assigned to that of the
first one. -/
def overwriting : List AccessorOp :=
  [.getData 0 ⟨0, 0⟩, .getData 1 ⟨0, 1⟩, .moveAssign 0 1, .destroy 0, .destroy 1]

/-- Assigning to an accessor that owns a packet leaks the packet: it is never deleted, and is
still in the pool when both accessors are destroyed. -/
theorem leaked_by_moveAssign :
  ∃ s deleted, step.run (start twoPackets) overwriting = some (s, deleted) ∧
    (twoPackets.getDataAccessor ⟨0, 0⟩).1 = .ok ∧
    deleted.flatten.count ⟨0, 0⟩ = 0 ∧ (s.pool.modifyData ⟨0, 0⟩).1 = .ok ∧
    ∃ t deleted', Ownership.step.run (ownership twoPackets) overwriting = some (t, deleted') ∧
      deleted'.flatten.count ⟨0, 0⟩ = 1
  := by
  have hcode : (step.run (start twoPackets) overwriting).map
      (fun r => (r.2.flatten.count ⟨0, 0⟩, (r.1.pool.modifyData ⟨0, 0⟩).1)) = some (0, .ok) := by
    decide
  have hmeant : (Ownership.step.run (ownership twoPackets) overwriting).map
      (fun r => r.2.flatten.count ⟨0, 0⟩) = some 1 := by
    decide
  obtain ⟨⟨s, deleted⟩, hrun, hresult⟩ := Option.map_eq_some_iff.mp hcode
  obtain ⟨⟨t, deleted'⟩, hrun', hcount'⟩ := Option.map_eq_some_iff.mp hmeant
  obtain ⟨hcount, hpresent⟩ := Prod.mk.inj hresult
  exact ⟨s, deleted, hrun, by decide, hcount, hpresent, t, deleted', hrun', hcount'⟩

end AccessorProgram
