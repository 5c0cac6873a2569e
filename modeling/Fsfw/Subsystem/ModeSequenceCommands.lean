import Fsfw.Serialize.ListAdapters
import Fsfw.StorageManager.PacketStore
import Fsfw.Subsystem.ModeTables

/-!
# Mode sequence commands

A subsystem is told to add, delete, read and list its tables and sequences by messages.  What
does not fit into a message is in a store element, whose address is in the message.

A command that reads a table or a sequence dereferences what its search has found.  The size of
a linked list that is serialized together with its number of entries is computed by a function
that calls itself without end: it is given `fuel` calls here, and has no result when they run
out.  What is undefined has no result either.

A command is answered once when there is a result, it is a single reply, and the store is left
with no element but those that are not the command's and the one of the reply
(`AnswersOnce`).  This is so unless a table or sequence is read that does not exist or is
linked, or a message is handled that is itself a reply with a store element
(`answersOnce_iff`).
-/

/-! ### Serialization -/

namespace ModeListEntry

def serialize (entry : ModeListEntry) : Serializer :=
  fun maxSize e b =>
    Serializer.andThen (SerializeAdapter.serialize 4 entry.value1.toNat maxSize e b) fun b =>
      Serializer.andThen (SerializeAdapter.serialize 4 entry.value2.toNat maxSize e b) fun b =>
        Serializer.andThen (SerializeAdapter.serialize 1 entry.value3.toNat maxSize e b) fun b =>
          SerializeAdapter.serialize 1 entry.value4.toNat maxSize e b

def getSerializedSize : ℕ := 4 + 4 + 1 + 1

/-- Read an entry, up to the first value that is missing. -/
def deSerialize : Deserializer ModeListEntry :=
  fun streamEndianness entry buffer =>
    match SerializeAdapter.deSerializeNumber 4 streamEndianness entry.value1.toNat buffer with
    | (.ok, value1, buffer) =>
        let entry := { entry with value1 := .ofNat value1 }
        match SerializeAdapter.deSerializeNumber 4 streamEndianness entry.value2.toNat buffer with
        | (.ok, value2, buffer) =>
            let entry := { entry with value2 := .ofNat value2 }
            match SerializeAdapter.deSerializeByte streamEndianness entry.value3 buffer with
            | (.ok, value3, buffer) =>
                let entry := { entry with value3 }
                match SerializeAdapter.deSerializeByte streamEndianness entry.value4 buffer with
                | (.ok, value4, buffer) => (.ok, { entry with value4 }, buffer)
                | (result, _, buffer) => (result, entry, buffer)
            | (result, _, buffer) => (result, entry, buffer)
        | (result, _, buffer) => (result, entry, buffer)
    | (result, _, buffer) => (result, entry, buffer)

end ModeListEntry

/-- What is serialized one after another into a store element.  Its size is computed with some
fuel. -/
structure SerializableElement where
  serialize : Serializer
  getSerializedSize : ℕ → Option ℕ

namespace SerializableElement

/-- A number of `width` bytes. -/
def number (width n : ℕ) : SerializableElement where
  serialize := SerializeAdapter.serialize width n
  getSerializedSize _ := some width

end SerializableElement

namespace SerialArrayListAdapter

/-- The number of the items in one byte, and the items. -/
def serialize {α : Type} (item : α → Serializer) (items : List α) : Serializer :=
  fun maxSize e b =>
    Serializer.andThen (SerializeAdapter.serialize 1 items.length maxSize e b) fun b =>
      Serializer.all item items maxSize e b

/-- An array of items of a fixed size. -/
def element {α : Type} (item : α → Serializer) (size : ℕ) (items : List α) :
    SerializableElement where
  serialize := serialize item items
  getSerializedSize _ := some (1 + size * items.length)

/-- Read the items of a list that has room for `maxSize` of them. -/
def deSerialize {α : Type} (item : Deserializer α) (initial : α) (maxSize : ℕ)
    (streamEndianness : Endianness) (buffer : List UInt8) : ReturnValue × List α :=
  match SerializeAdapter.deSerializeByte streamEndianness 0 buffer with
  | (.ok, size, buffer) =>
      if maxSize < size.toNat then
        (SerializeIF.tooManyElements, [])
      else
        readItems size.toNat buffer
  | (result, _) => (result, [])
where
  readItems : ℕ → List UInt8 → ReturnValue × List α
    | 0, _ => (.ok, [])
    | count + 1, buffer =>
        match item streamEndianness initial buffer with
        | (.ok, x, buffer) =>
            let (result, rest) := readItems count buffer
            (result, x :: rest)
        | (result, x, _) => (result, x :: List.replicate count initial)

/-- The items are written as the elements of an array list whose size has one byte. -/
theorem serialize_elements {α : Type} (T : SerializableType α) (list : ArrayList .uint8 α) :
  serialize T.serialize list.elements = SerializableType.SerialArrayListAdapter.serialize T list
  := by
  funext maxSize e b
  rw [serialize, ArrayList.length_elements]
  rfl

end SerialArrayListAdapter

namespace SerialLinkedListAdapter

/-- With the number of the items, the function calls itself again. -/
def getSerializedSize (size : ℕ) (printCount : Bool) : ℕ → Option ℕ
  | 0 => none
  | fuel + 1 =>
      if printCount then
        (getSerializedSize size printCount fuel).map (· + 1)
      else
        some size

/-- A linked list of items of a fixed size, with the number of the items in front. -/
def element {α : Type} (item : α → Serializer) (size : ℕ) (items : List α) :
    SerializableElement where
  serialize := SerialArrayListAdapter.serialize item items
  getSerializedSize := getSerializedSize (size * items.length) true

theorem getSerializedSize_printCount (size fuel : ℕ) :
  getSerializedSize size true fuel = none
  := by
  induction fuel with
  | zero =>
      rfl
  | succ fuel ih =>
      rw [getSerializedSize, if_pos rfl, ih]
      rfl

/-- It is the size of an adapter whose elements have that size together. -/
theorem getSerializedSize_eq {α : Type} (T : SerializableType α)
    (l : SerializableType.SerialLinkedListAdapter α) (fuel : ℕ) :
  getSerializedSize (l.elements.map T.getSerializedSize).sum l.printCount fuel
    = l.getSerializedSize T fuel
  := by
  induction fuel with
  | zero => rfl
  | succ fuel ih =>
      rw [getSerializedSize, ih]
      rfl

end SerialLinkedListAdapter

/-! ### Messages -/

/-- The messages about mode sequences and tables, commands and replies. -/
inductive ModeSequenceMessage where
  | addSequence (storeAddress : StoreAddress) (sequence : Mode)
  | addTable (storeAddress : StoreAddress) (table : Mode)
  | deleteSequence (sequence : Mode)
  | deleteTable (table : Mode)
  | readSequence (sequence : Mode)
  | readTable (table : Mode)
  | listSequences
  | listTables
  | sequenceList (storeAddress : StoreAddress)
  | tableList (storeAddress : StoreAddress)
  | table (storeAddress : StoreAddress)
  | sequence (storeAddress : StoreAddress)
  | readFreeSequenceSlots
  | freeSequenceSlots (number : ℕ)
  | readFreeTableSlots
  | freeTableSlots (number : ℕ)
  deriving DecidableEq, Repr

/-- The store element that `clear` deletes with the message. -/
def ModeSequenceMessage.storeAddress? : ModeSequenceMessage → Option StoreAddress
  | .addSequence storeAddress _ | .addTable storeAddress _ | .sequenceList storeAddress
  | .tableList storeAddress | .table storeAddress | .sequence storeAddress => some storeAddress
  | _ => none

/-- A reply to a command: that it worked, that it was rejected, where an unknown command is
handed back, or one of the messages. -/
inductive CommandReply where
  | commandOk
  | rejected (reason : ReturnValue) (initialCommand : Option ModeSequenceMessage)
  | message (content : ModeSequenceMessage)
  deriving DecidableEq, Repr

def CommandReply.storeAddress? : CommandReply → Option StoreAddress
  | .message content => content.storeAddress?
  | _ => none

namespace Subsystem

/-- What the handling of a command has made of the subsystem and the store, and the replies it
has sent. -/
structure Handling (σ : Type) where
  subsystem : Subsystem
  ipcStore : σ
  replies : List CommandReply

namespace Handling

variable {σ : Type}

def reply (h : Handling σ) (reply : CommandReply) : Handling σ :=
  { h with replies := h.replies ++ [reply] }

def replyToCommand (h : Handling σ) (status : ReturnValue) : Handling σ :=
  if status = .ok then
    h.reply .commandOk
  else
    h.reply (.rejected status none)

end Handling

section Commands

variable {σ : Type} (store : PacketStoreIF σ) (delivered : CommandReply → Bool) (fuel : ℕ)

/-- The sum of the sizes of the elements. -/
def maxSizeOf : List SerializableElement → Option ℕ
  | [] => some 0
  | element :: rest => do
      let size ← element.getSerializedSize fuel
      let sizes ← maxSizeOf rest
      return size + sizes

/-- Serialize the elements, whether one of them fails or not. -/
def serializeElements (maxSize : ℕ) : List SerializableElement → SerialBuffer → SerialBuffer
  | [], b => b
  | element :: rest, b => serializeElements maxSize rest (element.serialize maxSize .big b).2

/-- The reply is deleted from the store again when it is not delivered. -/
def sendSerializablesAsCommandMessage (command : StoreAddress → ModeSequenceMessage)
    (elements : List SerializableElement) (h : Handling σ) : Option (Handling σ) := do
  let maxSize ← maxSizeOf fuel elements
  match store.getFreeElement maxSize h.ipcStore with
  | (.ok, address, ipcStore) =>
      let buffer := serializeElements maxSize elements ⟨[], 0⟩
      let ipcStore := store.write address buffer.written ipcStore
      let reply := CommandReply.message (command address)
      if delivered reply then
        return { h with ipcStore }.reply reply
      else
        return { h with ipcStore := (store.deleteData address ipcStore).2 }.reply reply
  | (result, _, ipcStore) => return { h with ipcStore }.replyToCommand result

/-- The largest numbers of ids in a list, and of entries in a table or sequence. -/
def maxNumberOfTablesOrSequences : ℕ := 70

def maxLengthOfTableOrSequence : ℕ := 20

/-- The ids of a map in an array that is full at some point. -/
def idList {ν : Type} (m : FixedMap Mode ν) : SerializableElement :=
  SerialArrayListAdapter.element (fun id : Mode => SerializeAdapter.serialize 4 id.toNat) 4
    ((m.stored.map Prod.fst).take maxNumberOfTablesOrSequences)

/-- The entries of a table or of a sequence, with their number. -/
def entryList (pointer : EntryPointer) : SerializableElement :=
  if pointer.islinked then
    SerialLinkedListAdapter.element ModeListEntry.serialize ModeListEntry.getSerializedSize
      pointer.entries
  else
    SerialArrayListAdapter.element ModeListEntry.serialize ModeListEntry.getSerializedSize
      pointer.entries

def deSerializeEntries (buffer : List UInt8) : ReturnValue × List ModeListEntry :=
  SerialArrayListAdapter.deSerialize ModeListEntry.deSerialize ⟨0, 0, 0, 0⟩
    maxLengthOfTableOrSequence .big buffer

/-- Add the sequence that is in the store element of the message. -/
def handleAddSequence (data : List UInt8) (sequence : Mode) (S : Subsystem) :
    Option (ReturnValue × Subsystem) :=
  match SerializeAdapter.deSerializeNumber 4 .big 0 data with
  | (.ok, fallbackId, buffer) =>
      match deSerializeEntries buffer with
      | (.ok, entries) => S.addSequence entries sequence (.ofNat fallbackId) true true
      | (result, _) => some (result, S)
  | (result, _) => some (result, S)

/-- Add the table that is in the store element of the message. -/
def handleAddTable (data : List UInt8) (table : Mode) (S : Subsystem) :
    Option (ReturnValue × Subsystem) :=
  match deSerializeEntries data with
  | (.ok, entries) => S.addTable entries table true true
  | (result, _) => some (result, S)

/-- Handle a command with a store element, which is deleted when it could be read. -/
def handleStored (storeAddress : StoreAddress)
    (add : List UInt8 → Subsystem → Option (ReturnValue × Subsystem)) (h : Handling σ) :
    Option (ReturnValue × Handling σ) :=
  match store.getData storeAddress h.ipcStore with
  | (.ok, data) => do
      let (result, subsystem) ← add data h.subsystem
      let ipcStore := (store.deleteData storeAddress h.ipcStore).2
      return (.ok, { h with subsystem, ipcStore }.replyToCommand result)
  | (result, _) => some (.ok, h.replyToCommand result)

/-- Handle a deletion, which is rejected during a transition. -/
def handleDelete (delete : Subsystem → Option (ReturnValue × Subsystem)) (h : Handling σ) :
    Option (ReturnValue × Handling σ) :=
  if h.subsystem.isInTransition then
    some (.ok, h.replyToCommand HasModesIF.inTransition)
  else do
    let (result, subsystem) ← delete h.subsystem
    return (.ok, { h with subsystem }.replyToCommand result)

/-- Handle a command.  When the sequence to be read does not exist, the reply is followed by an
access through a null pointer. -/
def handleCommandMessage (message : ModeSequenceMessage) (h : Handling σ) :
    Option (ReturnValue × Handling σ) :=
  let S := h.subsystem
  match message with
  | .addSequence storeAddress sequence =>
      handleStored store storeAddress (fun data => handleAddSequence data sequence) h
  | .addTable storeAddress table =>
      handleStored store storeAddress (fun data => handleAddTable data table) h
  | .deleteSequence sequence => handleDelete (fun S => S.deleteSequence sequence) h
  | .deleteTable table => handleDelete (fun S => S.deleteTable table) h
  | .listSequences =>
      (sendSerializablesAsCommandMessage store delivered fuel .sequenceList
        [idList S.modeSequences] h).map fun h => (.ok, h)
  | .listTables =>
      (sendSerializablesAsCommandMessage store delivered fuel .tableList
        [idList S.modeTables] h).map fun h => (.ok, h)
  | .readSequence sequence => do
      let (_, found) ← S.modeSequences.findValue sequence
      let sequenceInfo ← found
      (sendSerializablesAsCommandMessage store delivered fuel .sequence
        [.number 4 sequence.toNat, .number 4 (S.getFallbackSequence sequence).toNat,
          entryList sequenceInfo.entries] h).map fun h => (.ok, h)
  | .readTable table => do
      let (result, found) ← S.modeTables.findValue table
      match found with
      | none => return (result, h.replyToCommand result)
      | some entry =>
          (sendSerializablesAsCommandMessage store delivered fuel .table
            [.number 4 table.toNat, entryList entry] h).map fun h => (.ok, h)
  | .readFreeSequenceSlots =>
      some (.ok,
        h.reply (.message (.freeSequenceSlots (S.modeSequences.maxSize - S.modeSequences.size))))
  | .readFreeTableSlots =>
      some (.ok, h.reply (.message (.freeTableSlots (S.modeTables.maxSize - S.modeTables.size))))
  | .sequenceList _ | .tableList _ | .table _ | .sequence _ | .freeSequenceSlots _
  | .freeTableSlots _ => some (.failed, h)

/-- Handle a message from the queue.  It is neither a health command nor a mode command nor a
mode reply, and thus gets to `handleCommandMessage`. -/
def checkCommandQueue (message : ModeSequenceMessage) (h : Handling σ) :
    Option (Handling σ) := do
  let (result, h) ← handleCommandMessage store delivered fuel message h
  if result ≠ .ok then
    return h.reply (.rejected CommandMessageIF.unknownCommand (some message))
  else
    return h

end Commands

/-! ### The calls return -/

section Total

variable {S : Subsystem} (hS : S.UniqueIds)

include hS

theorem UniqueIds.handleAddSequence_total (data : List UInt8) (sequence : Mode) :
  ∃ r, handleAddSequence data sequence S = some r
  := by
  rw [handleAddSequence]
  split
  · rename_i fallbackId buffer _
    split
    · rename_i entries _
      by_cases hnew : ∃ x ∈ S.modeSequences.stored, x.1 = sequence
      · simp [addSequence, hS.sequences.insert_eq, hnew]
      · by_cases hsize : S.modeSequences.size = S.modeSequences.maxSize
        · simp [addSequence, hS.sequences.insert_eq, hnew, hsize]
        · obtain ⟨m, herase, _⟩ := hS.sequences.erase_append ⟨.ofNat fallbackId, ⟨true, entries⟩⟩ hsize hnew
          simp [addSequence, hS.sequences.insert_eq, hnew, hsize, herase]
    · exact ⟨_, rfl⟩
  · exact ⟨_, rfl⟩

theorem UniqueIds.handleAddTable_total (data : List UInt8) (table : Mode) :
  ∃ r, handleAddTable data table S = some r
  := by
  rw [handleAddTable]
  split
  · rename_i entries _
    by_cases hnew : ∃ x ∈ S.modeTables.stored, x.1 = table
    · simp [addTable, hS.tables.insert_eq, hnew]
    · by_cases hsize : S.modeTables.size = S.modeTables.maxSize
      · simp [addTable, hS.tables.insert_eq, hnew, hsize]
      · obtain ⟨m, herase, _⟩ := hS.tables.erase_append ⟨true, entries⟩ hsize hnew
        simp [addTable, hS.tables.insert_eq, hnew, hsize, herase]
  · exact ⟨_, rfl⟩

theorem UniqueIds.deleteSequence_total (id : Mode) :
  ∃ r, S.deleteSequence id = some r
  := by
  by_cases hfallback : S.isFallbackSequence id
  · simp [deleteSequence, hfallback]
  · by_cases hex : ∃ x ∈ S.modeSequences.stored, x.1 = id
    · obtain ⟨x, hx, rfl⟩ := hex
      obtain ⟨i, _, _, herase⟩ | ⟨_, herase⟩ := hS.sequences.erase_cases x.1
      · cases hlinked : x.2.entries.islinked <;>
          simp [deleteSequence, hfallback, hS.sequences.findValue_of_mem hx, hlinked, herase]
      · cases hlinked : x.2.entries.islinked <;>
          simp [deleteSequence, hfallback, hS.sequences.findValue_of_mem hx, hlinked, herase]
    · simp [deleteSequence, hfallback, hS.sequences.findValue_of_not_exists hex]

theorem UniqueIds.deleteTable_total (id : Mode) :
  ∃ r, S.deleteTable id = some r
  := by
  obtain ⟨_, hused⟩ | ⟨_, hused⟩ := hS.isTableUsed_cases id
  · simp [deleteTable, hused]
  · by_cases hex : ∃ x ∈ S.modeTables.stored, x.1 = id
    · obtain ⟨x, hx, rfl⟩ := hex
      obtain ⟨i, _, _, herase⟩ | ⟨_, herase⟩ := hS.sequences.erase_cases x.1
      · cases hlinked : x.2.islinked <;>
          simp [deleteTable, hused, hS.tables.findValue_of_mem hx, hlinked, herase]
      · cases hlinked : x.2.islinked <;>
          simp [deleteTable, hused, hS.tables.findValue_of_mem hx, hlinked, herase]
    · simp [deleteTable, hused, hS.tables.findValue_of_not_exists hex]

end Total

/-! ### Answers -/

section Answers

variable {σ : Type} {store : PacketStoreIF σ} (laws : store.Reliable)
  (delivered : CommandReply → Bool)

/-- There is a single reply.  The store has no elements but those that were there, without the
one to be cleared, and the one of the reply if that is delivered. -/
def Answered (before : σ) (cleared : Option StoreAddress) (h : Handling σ) : Prop :=
  ∃ reply, h.replies = [reply] ∧
    ∀ address, laws.contents h.ipcStore address ≠ none →
      (laws.contents before address ≠ none ∧ cleared ≠ some address) ∨
        (reply.storeAddress? = some address ∧ delivered reply = true)

/-- The handling of a message returns, and answers it. -/
def AnswersOnce (S : Subsystem) (s : σ) (message : ModeSequenceMessage) : Prop :=
  ∃ fuel h, checkCommandQueue store delivered fuel message ⟨S, s, []⟩ = some h ∧
    Answered laws delivered s message.storeAddress? h

/-- A command without a store element is answered by a reply without one. -/
theorem answered_replyToCommand {before : σ} {S : Subsystem} {s : σ} (status : ReturnValue)
    {cleared : Option StoreAddress}
    (hcontents : ∀ address, laws.contents s address ≠ none →
      laws.contents before address ≠ none ∧ cleared ≠ some address) :
  Answered laws delivered before cleared (Handling.replyToCommand ⟨S, s, []⟩ status)
  := by
  rw [Handling.replyToCommand]
  split
  · use .commandOk, rfl
    intro address h
    left
    apply hcontents address h
  · use .rejected status none, rfl
    intro address h
    left
    apply hcontents address h

/-- Serialized elements are answered with one store element, or with a rejection when there is
no room. -/
theorem sendSerializables_answered {command : StoreAddress → ModeSequenceMessage}
    (hcommand : ∀ address, (command address).storeAddress? = some address) {fuel maxSize : ℕ}
    {elements : List SerializableElement} (hsize : maxSizeOf fuel elements = some maxSize)
    (S : Subsystem) (s : σ) :
  ∃ h, sendSerializablesAsCommandMessage store delivered fuel command elements ⟨S, s, []⟩
      = some h ∧ Answered laws delivered s none h
  := by
  by_cases hroom : (store.getFreeElement maxSize s).1 = .ok
  · obtain ⟨data, _, hcontents⟩ := laws.contents_getFreeElement maxSize s hroom
    rcases hfree : store.getFreeElement maxSize s with ⟨result, address, s₁⟩
    rw [hfree] at hroom hcontents
    cases hroom
    let bytes := (serializeElements maxSize elements ⟨[], 0⟩).written
    have hwritten : laws.contents (store.write address bytes s₁)
        = Function.update (laws.contents s) address
            (some (bytes ++ data.drop bytes.length)) := by
      rw [laws.contents_write address bytes s₁ data (by rw [hcontents, Function.update_self]),
        hcontents, Function.update_idem]
    cases hdelivered : delivered (.message (command address)) with
    | true =>
        refine ⟨⟨S, store.write address bytes s₁, [.message (command address)]⟩, ?_, ?_⟩
        · simp [sendSerializablesAsCommandMessage, hsize, hfree, hdelivered, Handling.reply,
            bytes]
        · use .message (command address), rfl
          intro address' h
          rw [hwritten] at h
          by_cases heq : address' = address
          · right
            subst heq
            use hcommand address'
          · left
            rw [Function.update_of_ne heq] at h
            use h
            nofun
    | false =>
        refine ⟨⟨S, (store.deleteData address (store.write address bytes s₁)).2,
          [.message (command address)]⟩, ?_, ?_⟩
        · simp [sendSerializablesAsCommandMessage, hsize, hfree, hdelivered, Handling.reply,
            bytes]
        · use .message (command address), rfl
          intro address' h
          rw [laws.contents_deleteData_eq, hwritten, Function.update_idem] at h
          left
          by_cases heq : address' = address
          · rw [heq, Function.update_self] at h
            cases h rfl
          · rw [Function.update_of_ne heq] at h
            use h
            nofun
  · have hcontents := laws.contents_getFreeElement_failed maxSize s hroom
    rcases hfree : store.getFreeElement maxSize s with ⟨result, address, s₁⟩
    rw [hfree] at hroom hcontents
    refine ⟨Handling.replyToCommand ⟨S, s₁, []⟩ result, ?_, ?_⟩
    · simp only [sendSerializablesAsCommandMessage, hsize, Option.bind_eq_bind,
        Option.bind_some, hfree]
      cases result with
      | ok => cases hroom rfl
      | failed => rfl
      | makeCode classId number => rfl
    · apply answered_replyToCommand
      intro address' h
      rw [hcontents] at h
      use h
      nofun

/-- A stored command is answered, and its element is deleted. -/
theorem handleStored_answered (storeAddress : StoreAddress)
    {add : List UInt8 → Subsystem → Option (ReturnValue × Subsystem)} {S : Subsystem}
    (hadd : ∀ data, ∃ r, add data S = some r) (s : σ) :
  ∃ h, handleStored store storeAddress add ⟨S, s, []⟩ = some (.ok, h) ∧
    Answered laws delivered s (some storeAddress) h
  := by
  cases hcontents : laws.contents s storeAddress with
  | none =>
      have hget := laws.getData_of_none storeAddress s hcontents
      rcases hdata : store.getData storeAddress s with ⟨result, data⟩
      rw [hdata] at hget
      refine ⟨Handling.replyToCommand ⟨S, s, []⟩ result, ?_, ?_⟩
      · simp only [handleStored, hdata]
      · apply answered_replyToCommand
        intro address h
        use h
        rintro ⟨⟩
        apply h hcontents
  | some data =>
      have hget := laws.getData_of_some storeAddress s data hcontents
      obtain ⟨⟨result, S'⟩, hresult⟩ := hadd data
      refine ⟨Handling.replyToCommand ⟨S', (store.deleteData storeAddress s).2, []⟩ result,
        ?_, ?_⟩
      · simp [handleStored, hget, hresult]
      · apply answered_replyToCommand
        intro address h
        rw [laws.contents_deleteData_eq] at h
        by_cases heq : address = storeAddress
        · rw [heq, Function.update_self] at h
          cases h rfl
        · rw [Function.update_of_ne heq] at h
          use h
          rintro ⟨⟩
          apply heq rfl

/-- A deletion is answered. -/
theorem handleDelete_answered (delete : Subsystem → Option (ReturnValue × Subsystem))
    {S : Subsystem} (hdelete : ∃ r, delete S = some r) (s : σ) :
  ∃ h, handleDelete delete ⟨S, s, []⟩ = some (.ok, h) ∧ Answered laws delivered s none h
  := by
  have hsame : ∀ address, laws.contents s address ≠ none →
      laws.contents s address ≠ none ∧ (none : Option StoreAddress) ≠ some address := by
    intro address h
    use h
    nofun
  by_cases htransition : S.isInTransition
  · refine ⟨_, ?_, answered_replyToCommand laws delivered (S := S) HasModesIF.inTransition hsame⟩
    simp [handleDelete, htransition]
  · obtain ⟨⟨result, S'⟩, hresult⟩ := hdelete
    refine ⟨_, ?_, answered_replyToCommand laws delivered (S := S') result hsame⟩
    simp [handleDelete, htransition, hresult]

/-! ### Every message -/

/-- The table or sequence that is read exists and is not linked, and no reply with a store element
is handled. -/
def Answerable (laws : store.Reliable) (S : Subsystem) (s : σ) : ModeSequenceMessage → Prop
  | .readSequence sequence =>
      ∃ x ∈ S.modeSequences.stored, x.1 = sequence ∧ x.2.entries.islinked = false
  | .readTable table => ∃ x ∈ S.modeTables.stored, x.1 = table ∧ x.2.islinked = false
  | .sequenceList storeAddress | .tableList storeAddress | .table storeAddress
  | .sequence storeAddress => laws.contents s storeAddress = none
  | _ => True

theorem entryList_of_linked {pointer : EntryPointer} (h : pointer.islinked = true) (fuel : ℕ) :
  (entryList pointer).getSerializedSize fuel = none
  := by
  rw [entryList, if_pos h]
  apply SerialLinkedListAdapter.getSerializedSize_printCount

theorem entryList_of_not_linked {pointer : EntryPointer} (h : pointer.islinked = false)
    (fuel : ℕ) :
  ∃ size, (entryList pointer).getSerializedSize fuel = some size
  := by
  rw [entryList, h]
  exact ⟨_, rfl⟩

/-- A command that is handled and answered is answered by the queue. -/
theorem answersOnce_of_handled {S : Subsystem} {s : σ} {message : ModeSequenceMessage} (fuel : ℕ)
    {h : Handling σ}
    (hhandled : handleCommandMessage store delivered fuel message ⟨S, s, []⟩ = some (.ok, h))
    (hanswered : Answered laws delivered s message.storeAddress? h) :
  AnswersOnce laws delivered S s message
  := by
  use fuel, h
  simp only [checkCommandQueue, hhandled, Option.bind_eq_bind, Option.bind_some]
  use rfl

/-- A list of elements that have sizes is sent in answer to a command. -/
theorem answersOnce_of_sent {S : Subsystem} {s : σ} {message : ModeSequenceMessage}
    (command : StoreAddress → ModeSequenceMessage)
    (hcommand : ∀ address, (command address).storeAddress? = some address)
    (hmessage : message.storeAddress? = none) {fuel maxSize : ℕ}
    (elements : List SerializableElement) (hsize : maxSizeOf fuel elements = some maxSize)
    (hhandled : handleCommandMessage store delivered fuel message ⟨S, s, []⟩
      = (sendSerializablesAsCommandMessage store delivered fuel command elements
          ⟨S, s, []⟩).map fun h => (.ok, h)) :
  AnswersOnce laws delivered S s message
  := by
  obtain ⟨h, hsent, hanswered⟩ := sendSerializables_answered laws delivered hcommand hsize S s
  apply answersOnce_of_handled laws delivered fuel (h := h)
  · rw [hhandled, hsent]
    rfl
  · rw [hmessage]
    apply hanswered

variable {S : Subsystem}

theorem UniqueIds.answersOnce_readSequence_iff (hS : S.UniqueIds) (s : σ) (sequence : Mode) :
  AnswersOnce laws delivered S s (.readSequence sequence)
    ↔ Answerable laws S s (.readSequence sequence)
  := by
  by_cases hex : ∃ x ∈ S.modeSequences.stored, x.1 = sequence
  · obtain ⟨x, hx, rfl⟩ := hex
    have hfind := hS.sequences.findValue_of_mem hx
    cases hlinked : x.2.entries.islinked with
    | true =>
        apply iff_of_false
        · rintro ⟨fuel, h, hhandled, _⟩
          have hsize := entryList_of_linked hlinked fuel
          simp [checkCommandQueue, handleCommandMessage, hfind, sendSerializablesAsCommandMessage,
            maxSizeOf, SerializableElement.number, hsize] at hhandled
        · rintro ⟨y, hy, hid, hnot⟩
          rw [hS.sequences.eq_of_key hy hx hid, hlinked] at hnot
          cases hnot
    | false =>
        apply iff_of_true
        · obtain ⟨size, hsize⟩ := entryList_of_not_linked hlinked 0
          have hsizes : maxSizeOf 0 [.number 4 x.1.toNat,
              .number 4 (S.getFallbackSequence x.1).toNat, entryList x.2.entries]
              = some (4 + (4 + (size + 0))) := by
            simp [maxSizeOf, SerializableElement.number, hsize]
          apply answersOnce_of_sent laws delivered .sequence (fun _ => rfl) rfl _ hsizes
          simp only [handleCommandMessage, hfind]
          rfl
        · use x, hx, rfl
  · apply iff_of_false
    · rintro ⟨fuel, h, hhandled, _⟩
      simp [checkCommandQueue, handleCommandMessage,
        hS.sequences.findValue_of_not_exists hex] at hhandled
    · rintro ⟨x, hx, hid, _⟩
      apply hex ⟨x, hx, hid⟩

theorem UniqueIds.answersOnce_readTable_iff (hS : S.UniqueIds) (s : σ) (table : Mode) :
  AnswersOnce laws delivered S s (.readTable table) ↔ Answerable laws S s (.readTable table)
  := by
  by_cases hex : ∃ x ∈ S.modeTables.stored, x.1 = table
  · obtain ⟨x, hx, rfl⟩ := hex
    have hfind := hS.tables.findValue_of_mem hx
    cases hlinked : x.2.islinked with
    | true =>
        apply iff_of_false
        · rintro ⟨fuel, h, hhandled, _⟩
          have hsize := entryList_of_linked hlinked fuel
          simp [checkCommandQueue, handleCommandMessage, hfind, sendSerializablesAsCommandMessage,
            maxSizeOf, SerializableElement.number, hsize] at hhandled
        · rintro ⟨y, hy, hid, hnot⟩
          rw [hS.tables.eq_of_key hy hx hid, hlinked] at hnot
          cases hnot
    | false =>
        apply iff_of_true
        · obtain ⟨size, hsize⟩ := entryList_of_not_linked hlinked 0
          have hsizes : maxSizeOf 0 [.number 4 x.1.toNat, entryList x.2]
              = some (4 + (size + 0)) := by
            simp [maxSizeOf, SerializableElement.number, hsize]
          apply answersOnce_of_sent laws delivered .table (fun _ => rfl) rfl _ hsizes
          simp only [handleCommandMessage, hfind]
          rfl
        · use x, hx, rfl
  · apply iff_of_false
    · -- The error is returned after the reply, and is answered once more.
      rintro ⟨fuel, h, hhandled, reply, hreplies, _⟩
      simp only [checkCommandQueue, handleCommandMessage,
        hS.tables.findValue_of_not_exists hex] at hhandled
      cases hhandled
      cases hreplies
    · rintro ⟨x, hx, hid, _⟩
      apply hex ⟨x, hx, hid⟩

/-- A reply is not handled, which is answered.  Its store element stays. -/
theorem answersOnce_reply_iff {s : σ} {message : ModeSequenceMessage}
    (hfailed : ∀ fuel (h : Handling σ),
      handleCommandMessage store delivered fuel message h = some (.failed, h)) :
  AnswersOnce laws delivered S s message
    ↔ ∀ address, message.storeAddress? = some address → laws.contents s address = none
  := by
  have hhandled : ∀ fuel, checkCommandQueue store delivered fuel message ⟨S, s, []⟩
      = some ⟨S, s, [.rejected CommandMessageIF.unknownCommand (some message)]⟩ := by
    intro fuel
    simp only [checkCommandQueue, hfailed]
    rfl
  constructor
  · rintro ⟨fuel, h, hh, reply, hreplies, hcontents⟩ address haddress
    rw [hhandled] at hh
    cases hh
    cases hreplies
    by_contra hne
    obtain ⟨_, hnot⟩ | ⟨hreply, _⟩ := hcontents address hne
    · apply hnot haddress
    · cases hreply
  · intro hnone
    refine ⟨0, _, hhandled 0, _, rfl, ?_⟩
    intro address h
    left
    use h
    intro haddress
    apply h (hnone address haddress)

/-- A message is answered once, and no store element is left, exactly when a table or sequence
that is to be read exists and is not linked, and the message is not a reply with an element. -/
theorem UniqueIds.answersOnce_iff (hS : S.UniqueIds) (s : σ) (message : ModeSequenceMessage) :
  AnswersOnce laws delivered S s message ↔ Answerable laws S s message
  := by
  cases message with
  | addSequence storeAddress sequence =>
      apply iff_of_true _ trivial
      obtain ⟨h, hhandled, hanswered⟩ := handleStored_answered laws delivered storeAddress
        (fun data => hS.handleAddSequence_total data sequence) s
      apply answersOnce_of_handled laws delivered 0 (h := h)
      · apply hhandled
      · apply hanswered
  | addTable storeAddress table =>
      apply iff_of_true _ trivial
      obtain ⟨h, hhandled, hanswered⟩ := handleStored_answered laws delivered storeAddress
        (fun data => hS.handleAddTable_total data table) s
      apply answersOnce_of_handled laws delivered 0 (h := h)
      · apply hhandled
      · apply hanswered
  | deleteSequence sequence =>
      apply iff_of_true _ trivial
      obtain ⟨h, hhandled, hanswered⟩ := handleDelete_answered laws delivered
        (fun S => S.deleteSequence sequence)
        (hS.deleteSequence_total sequence) s
      apply answersOnce_of_handled laws delivered 0 (h := h)
      · apply hhandled
      · apply hanswered
  | deleteTable table =>
      apply iff_of_true _ trivial
      obtain ⟨h, hhandled, hanswered⟩ := handleDelete_answered laws delivered
        (fun S => S.deleteTable table)
        (hS.deleteTable_total table) s
      apply answersOnce_of_handled laws delivered 0 (h := h)
      · apply hhandled
      · apply hanswered
  | readSequence sequence =>
      apply hS.answersOnce_readSequence_iff
  | readTable table =>
      apply hS.answersOnce_readTable_iff
  | listSequences =>
      apply iff_of_true _ trivial
      have hsizes : maxSizeOf 0 [idList S.modeSequences] = some _ := rfl
      apply answersOnce_of_sent laws delivered .sequenceList (fun _ => rfl) rfl _ hsizes
      rfl
  | listTables =>
      apply iff_of_true _ trivial
      have hsizes : maxSizeOf 0 [idList S.modeTables] = some _ := rfl
      apply answersOnce_of_sent laws delivered .tableList (fun _ => rfl) rfl _ hsizes
      rfl
  | readFreeSequenceSlots =>
      apply iff_of_true _ trivial
      apply answersOnce_of_handled laws delivered 0 rfl
      refine ⟨_, rfl, fun address h => Or.inl ⟨h, nofun⟩⟩
  | readFreeTableSlots =>
      apply iff_of_true _ trivial
      apply answersOnce_of_handled laws delivered 0 rfl
      refine ⟨_, rfl, fun address h => Or.inl ⟨h, nofun⟩⟩
  | sequenceList storeAddress | tableList storeAddress | table storeAddress
  | sequence storeAddress =>
      rw [answersOnce_reply_iff laws delivered fun _ _ => rfl]
      simp [ModeSequenceMessage.storeAddress?, Answerable]
  | freeSequenceSlots number | freeTableSlots number =>
      rw [answersOnce_reply_iff laws delivered fun _ _ => rfl]
      simp [ModeSequenceMessage.storeAddress?, Answerable]

/-- A subsystem without tables and sequences, and an empty store with one place.  The ids of the
sequences are listed. -/
theorem answersOnce_new :
  AnswersOnce (tableStore.reliable 1) (fun _ => true)
      (new [] (fun _ => (0, ⟨0, ⟨false, []⟩⟩)) (fun _ => (0, ⟨false, []⟩)) 4 4)
      (fun _ => none) .listSequences ↔
    Answerable (tableStore.reliable 1)
      (new [] (fun _ => (0, ⟨0, ⟨false, []⟩⟩)) (fun _ => (0, ⟨false, []⟩)) 4 4)
      (fun _ => none) .listSequences
  := by
  apply UniqueIds.answersOnce_iff
  apply (wellFormed_new _ _ _ _ _).toUniqueIds

/-- A sequence and a table are read that do not exist. -/
theorem not_answersOnce_new :
  ¬ AnswersOnce (tableStore.reliable 1) (fun _ => true)
      (new [] (fun _ => (0, ⟨0, ⟨false, []⟩⟩)) (fun _ => (0, ⟨false, []⟩)) 4 4)
      (fun _ => none) (.readSequence 3) ∧
    ¬ AnswersOnce (tableStore.reliable 1) (fun _ => true)
      (new [] (fun _ => (0, ⟨0, ⟨false, []⟩⟩)) (fun _ => (0, ⟨false, []⟩)) 4 4)
      (fun _ => none) (.readTable 3)
  := by
  have hnew := (wellFormed_new [] (fun _ => (0, ⟨0, ⟨false, []⟩⟩)) (fun _ => (0, ⟨false, []⟩))
    4 4).toUniqueIds
  rw [hnew.answersOnce_readSequence_iff, hnew.answersOnce_readTable_iff]
  constructor
  · rintro ⟨x, hx, _⟩
    cases hx
  · rintro ⟨x, hx, _⟩
    cases hx

end Answers

end Subsystem
