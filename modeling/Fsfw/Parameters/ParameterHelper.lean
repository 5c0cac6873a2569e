import Fsfw.Ipc.MessageQueueIF
import Fsfw.Parameters.ParameterWrapper
import Fsfw.StorageManager.PacketStore

/-!
# Parameter helpers

A parameter helper handles the messages that dump and load the parameters of its owner.  New values
are brought in the IPC store, and the value of a parameter is sent in the IPC store as well.

A message is answered when exactly one reply is sent: the value of the parameter when all stages of
handling it succeed, and a rejection with the result of the first one that fails otherwise.  A
rejection leaves the parameter as it is, and the element that brought new values is deleted.  Dumps
are always answered.  A load whose element is there is answered exactly when there are not more
bytes than expected, the owner gives the parameter and the parameter accepts the new values, and
the reply finds room, unless the new values are the old ones (`ParameterHelper.answered_iff`).
-/

abbrev ParameterId := UInt32

namespace HasParametersIF

def getDomain (id : ParameterId) : UInt8 := (id >>> 24).toUInt8

def getUniqueIdentifierId (id : ParameterId) : UInt8 := (id >>> 16).toUInt8

def getIndex (id : ParameterId) : UInt16 := id.toUInt16

end HasParametersIF

inductive ParameterCommand where
  | parameterLoad
  | parameterDump
  deriving DecidableEq, Repr

/-- Any other command keeps its number. -/
inductive ParameterMessage where
  | load (parameterId : ParameterId) (storeId : StoreAddress) (ptc pfc rows columns : UInt8)
  | dump (parameterId : ParameterId)
  | dumpReply (parameterId : ParameterId) (storeId : StoreAddress)
  | rejected (reason : ReturnValue) (initialCommand : ParameterCommand)
  | other (command : UInt16)
  deriving DecidableEq, Repr

/-- The owner gives access to a parameter, after it has looked at the new values. -/
structure ParameterOwner where
  getParameter : UInt8 → UInt8 → ParameterWrapper → ParameterWrapper → UInt16 →
    ReturnValue × ParameterWrapper

/-- What is sent to a queue, and whether the queue accepts it. -/
structure SentParameterMessage where
  target : MessageQueueId
  message : ParameterMessage
  result : ReturnValue
  deriving DecidableEq, Repr

/-- What a message leads to: the result, what is sent, the store, and the parameter as the owner has
given it and as it is left. -/
structure HandledParameter (σ : Type*) where
  result : ReturnValue
  sent : List SentParameterMessage
  ipcStore : σ
  given : ParameterWrapper
  left : ParameterWrapper

namespace ParameterHelper

variable {σ : Type*} (S : PacketStoreIF σ) (owner : ParameterOwner)

/-- The queue may refuse the reply, which is not looked at. -/
def sendParameter (target : MessageQueueId) (id : ParameterId) (description : ParameterWrapper)
    (sendResult : ReturnValue) (s : σ) : ReturnValue × List SentParameterMessage × σ :=
  let serializedSize := description.getSerializedSize
  let (result, storeId, s) := S.getFreeElement serializedSize s
  if result = .ok then
    let (result, buffer) := description.serialize serializedSize .big ⟨[], 0⟩
    let s := S.write storeId buffer.written s
    if result = .ok then
      (.ok, [⟨target, .dumpReply id storeId, sendResult⟩], s)
    else
      (result, [], (S.deleteData storeId s).2)
  else
    (result, [], s)

/-- The end of the handling of a command, which is rejected when it has failed. -/
def finish (sender : MessageQueueId) (command : ParameterCommand) (sendResult : ReturnValue)
    (given left : ParameterWrapper) : ReturnValue × List SentParameterMessage × σ →
    HandledParameter σ
  | (result, sent, s) =>
      { result := .ok
        sent :=
          if result = .ok then sent else sent ++ [⟨sender, .rejected result command, sendResult⟩]
        ipcStore := s
        given := given
        left := left }

def handleDump (sender : MessageQueueId) (id : ParameterId) (sendResult : ReturnValue) (s : σ) :
    HandledParameter σ :=
  let (result, description) := owner.getParameter (HasParametersIF.getDomain id)
    (HasParametersIF.getUniqueIdentifierId id) .new .new 0
  finish sender .parameterDump sendResult description description
    (if result = .ok then sendParameter S sender id description sendResult s else (result, [], s))

/-- The bytes at the pointer to the data of an element.  Other bytes are behind them in memory. -/
def dataAt (data : List UInt8) (behind : ℕ → UInt8) (i : ℕ) : UInt8 :=
  data.getD i (behind i)

/-- The element is deleted when its accessor goes out of scope. -/
def handleLoad (sender : MessageQueueId) (id : ParameterId) (storeId : StoreAddress)
    (ptc pfc rows columns : UInt8) (behind : ℕ → UInt8) (sendResult : ReturnValue) (s : σ) :
    HandledParameter σ :=
  let type := ParameterType.getActualType ptc pfc
  let linearIndex := HasParametersIF.getIndex id
  let (result, data) := S.getData storeId s
  if result ≠ .ok then
    finish sender .parameterLoad sendResult .new .new (result, [], (S.deleteData storeId s).2)
  else
    let (result, streamWrapper) :=
      ParameterWrapper.setStream type rows columns (dataAt data behind) data.length
    if result ≠ .ok then
      ⟨result, [], (S.deleteData storeId s).2, .new, .new⟩
    else
      let (result, ownerWrapper) := owner.getParameter (HasParametersIF.getDomain id)
        (HasParametersIF.getUniqueIdentifierId id) .new streamWrapper linearIndex
      if result ≠ .ok then
        ⟨result, [], (S.deleteData storeId s).2, ownerWrapper, ownerWrapper⟩
      else
        let (result, loaded) := ownerWrapper.copyFrom streamWrapper linearIndex
        if result ≠ .ok then
          ⟨result, [], (S.deleteData storeId s).2, ownerWrapper, loaded⟩
        else
          let (result, sent, s) := sendParameter S sender id loaded sendResult s
          finish sender .parameterLoad sendResult ownerWrapper loaded
            (result, sent, (S.deleteData storeId s).2)

def handleParameterMessage (sender : MessageQueueId) (behind : ℕ → UInt8)
    (sendResult : ReturnValue) (s : σ) : ParameterMessage → HandledParameter σ
  | .dump id => handleDump S owner sender id sendResult s
  | .load id storeId ptc pfc rows columns =>
      handleLoad S owner sender id storeId ptc pfc rows columns behind sendResult s
  | _ => ⟨.failed, [], s, .new, .new⟩

/-! ### Answers -/

/-- The results of the stages of sending a parameter. -/
def sendStages (description : ParameterWrapper) (s : σ) : List ReturnValue :=
  [(S.getFreeElement description.getSerializedSize s).1,
    (description.serialize description.getSerializedSize .big ⟨[], 0⟩).1]

/-- What the owner gives for a dump. -/
def dumped (id : ParameterId) : ReturnValue × ParameterWrapper :=
  owner.getParameter (HasParametersIF.getDomain id) (HasParametersIF.getUniqueIdentifierId id) .new
    .new 0

/-- The new values that a load brings. -/
def streamed (storeId : StoreAddress) (ptc pfc rows columns : UInt8) (behind : ℕ → UInt8) (s : σ) :
    ReturnValue × ParameterWrapper :=
  ParameterWrapper.setStream (ParameterType.getActualType ptc pfc) rows columns
    (dataAt (S.getData storeId s).2 behind) (S.getData storeId s).2.length

/-- What the owner gives for a load. -/
def requested (id : ParameterId) (newValues : ParameterWrapper) : ReturnValue × ParameterWrapper :=
  owner.getParameter (HasParametersIF.getDomain id) (HasParametersIF.getUniqueIdentifierId id) .new
    newValues (HasParametersIF.getIndex id)

/-- The results of the stages of handling a load. -/
def loadStages (id : ParameterId) (storeId : StoreAddress) (ptc pfc rows columns : UInt8)
    (behind : ℕ → UInt8) (s : σ) : List ReturnValue :=
  let newValues := streamed S storeId ptc pfc rows columns behind s
  let given := requested owner id newValues.2
  let loaded := given.2.copyFrom newValues.2 (HasParametersIF.getIndex id)
  (S.getData storeId s).1 :: newValues.1 :: given.1 :: loaded.1 :: sendStages S loaded.2 s

/-- The results of the stages of handling a dump. -/
def dumpStages (id : ParameterId) (s : σ) : List ReturnValue :=
  (dumped owner id).1 :: sendStages S (dumped owner id).2 s

/-- Exactly one reply is sent: a rejection with the result of the first stage that fails, which
leaves the parameter as it is, or the value of the parameter as it is left. -/
def Answered {S : PacketStoreIF σ} (laws : S.Reliable) (sender : MessageQueueId)
    (command : ParameterCommand) (id : ParameterId) (sendResult : ReturnValue)
    (stages : List ReturnValue) (h : HandledParameter σ) : Prop :=
  match stages.find? (· ≠ .ok) with
  | some reason => h.sent = [⟨sender, .rejected reason command, sendResult⟩] ∧ h.left = h.given
  | none =>
      ∃ storeId, h.sent = [⟨sender, .dumpReply id storeId, sendResult⟩] ∧
        laws.contents h.ipcStore storeId = some h.left.bytes

/-- When the element of a load is there, it has not more bytes than expected, the owner gives the
parameter, which accepts the new values, and the reply finds room, unless the new values are the old
ones. -/
def Loadable (id : ParameterId) (storeId : StoreAddress) (ptc pfc rows columns : UInt8)
    (behind : ℕ → UInt8) (s : σ) : Prop :=
  (S.getData storeId s).1 = .ok →
    let newValues := streamed S storeId ptc pfc rows columns behind s
    let given := requested owner id newValues.2
    newValues.1 = .ok ∧ given.1 = .ok ∧
      given.2.Accepts newValues.2 (HasParametersIF.getIndex id) ∧
      ((S.getFreeElement given.2.getSerializedSize s).1 = .ok ∨
        (given.2.copyFrom newValues.2 (HasParametersIF.getIndex id)).2 = given.2)

variable {S owner} (laws : S.Reliable)

/-- A parameter that is not sent leaves nothing in the store, and the value of one that is sent is at
an address that was free. -/
theorem sendParameter_spec (target : MessageQueueId) (id : ParameterId)
    (description : ParameterWrapper) (sendResult : ReturnValue) (s : σ) :
  match (sendStages S description s).find? (· ≠ .ok) with
  | some reason =>
      ∃ s', sendParameter S target id description sendResult s = (reason, [], s') ∧
        laws.contents s' = laws.contents s
  | none =>
      ∃ storeId s', sendParameter S target id description sendResult s
          = (.ok, [⟨target, .dumpReply id storeId, sendResult⟩], s') ∧
        laws.contents s storeId = none ∧
        laws.contents s' = Function.update (laws.contents s) storeId (some description.bytes)
  := by
  rw [sendStages, sendParameter]
  dsimp only
  by_cases hfree : (S.getFreeElement description.getSerializedSize s).1 = .ok
  · obtain ⟨data, hlength, hreserved⟩ := laws.contents_getFreeElement _ s hfree
    have hnone := laws.free_of_getFreeElement _ s hfree
    have hthere : laws.contents (S.getFreeElement description.getSerializedSize s).2.2
        (S.getFreeElement description.getSerializedSize s).2.1 = some data := by
      rw [hreserved, Function.update_self]
    rw [if_pos hfree]
    by_cases hknown : description.IsKnown
    · have hserialize := ParameterWrapper.serialize_eq hknown
      rw [hserialize, if_pos rfl]
      simp only [hfree, ne_eq, not_true_eq_false, decide_false, Bool.false_eq_true,
        not_false_eq_true, List.find?_cons_of_neg, List.find?_nil]
      refine ⟨_, _, rfl, hnone, ?_⟩
      rw [laws.contents_write _ _ _ data hthere, hreserved, Function.update_idem,
        List.drop_eq_nil_of_le, List.append_nil]
      rw [hlength, ParameterWrapper.length_bytes hknown]
    · have hfails := ParameterWrapper.serialize_ne_ok hknown description.getSerializedSize .big
        ⟨[], 0⟩
      rw [if_neg hfails]
      simp only [hfree, hfails, ne_eq, not_true_eq_false, decide_false, Bool.false_eq_true,
        not_false_eq_true, List.find?_cons_of_neg, decide_true, List.find?_cons_of_pos]
      refine ⟨_, rfl, ?_⟩
      rw [laws.contents_deleteData_eq, laws.contents_write _ _ _ data hthere, hreserved,
        Function.update_idem, Function.update_idem, ← hnone, Function.update_eq_self]
  · rw [if_neg hfree]
    simp only [hfree, ne_eq, not_false_eq_true, decide_true, List.find?_cons_of_pos]
    refine ⟨_, rfl, ?_⟩
    apply laws.contents_getFreeElement_failed _ s hfree

variable {sender : MessageQueueId} {command : ParameterCommand} {id : ParameterId}
  {sendResult : ReturnValue} {stages : List ReturnValue}

/-- A command is not answered when nothing is sent. -/
theorem not_answered_of_nil {h : HandledParameter σ} (hsent : h.sent = []) :
  ¬ Answered laws sender command id sendResult stages h
  := by
  rw [Answered]
  split
  · rintro ⟨hreply, -⟩
    rw [hsent] at hreply
    cases hreply
  · rintro ⟨storeId, hreply, -⟩
    rw [hsent] at hreply
    cases hreply

/-- The stages after one that has succeeded. -/
theorem answered_cons_ok {h : HandledParameter σ} :
  Answered laws sender command id sendResult (.ok :: stages) h ↔
    Answered laws sender command id sendResult stages h
  := by
  rw [Answered, List.find?_cons_of_neg]
  · rfl
  · decide

/-- Sending the parameter that is left, and deleting something else, answers a command, if the
parameter is as it has been given or can be sent. -/
theorem answered_finish {s s' : σ} {given left : ParameterWrapper}
    (hsend : (sendStages S left s).find? (· ≠ .ok) = none ∨ left = given)
    (hdelete : ∀ storeId, laws.contents s storeId = none →
      laws.contents s' storeId =
        laws.contents (sendParameter S sender id left sendResult s).2.2 storeId) :
  Answered laws sender command id sendResult (sendStages S left s)
    (finish sender command sendResult given left
      ((sendParameter S sender id left sendResult s).1,
        (sendParameter S sender id left sendResult s).2.1, s'))
  := by
  have hspec := sendParameter_spec laws sender id left sendResult s
  rw [Answered]
  cases hstages : (sendStages S left s).find? (· ≠ .ok) with
  | none =>
      rw [hstages] at hspec
      obtain ⟨storeId, s₁, hparameter, hnone, hcontents⟩ := hspec
      rw [hparameter] at hdelete ⊢
      use storeId, rfl
      change laws.contents s' storeId = _
      rw [hdelete storeId hnone, hcontents, Function.update_self]
      rfl
  | some reason =>
      rw [hstages] at hspec hsend
      obtain ⟨s₁, hparameter, hcontents⟩ := hspec
      have hreason : reason ≠ .ok := by
        have := List.find?_some hstages
        simpa using this
      rw [hparameter]
      constructor
      · simp only [finish, if_neg hreason, List.nil_append]
      · obtain hnone | hsame := hsend
        · cases hnone
        · apply hsame

/-- Dumps are always answered. -/
theorem answered_handleDump (sender : MessageQueueId) (id : ParameterId) (sendResult : ReturnValue)
    (s : σ) :
  Answered laws sender .parameterDump id sendResult (dumpStages S owner id s)
    (handleDump S owner sender id sendResult s)
  := by
  rw [dumpStages]
  change Answered _ _ _ _ _ _ (finish _ _ _ (dumped owner id).2 (dumped owner id).2
    (if (dumped owner id).1 = .ok then sendParameter S sender id (dumped owner id).2 sendResult s
      else ((dumped owner id).1, [], s)))
  by_cases hgiven : (dumped owner id).1 = .ok
  · rw [if_pos hgiven, hgiven, answered_cons_ok]
    apply answered_finish
    · right
      rfl
    · intro storeId _
      rfl
  · rw [if_neg hgiven, Answered, List.find?_cons_of_pos]
    · simp only [finish, if_neg hgiven, List.nil_append, and_self]
    · simpa using hgiven

variable {storeId : StoreAddress} {ptc pfc rows columns : UInt8} {behind : ℕ → UInt8} {s : σ}

/-- A load whose element is missing is rejected, and nothing is left at its address. -/
theorem answered_handleLoad_of_missing (hdata : (S.getData storeId s).1 ≠ .ok) :
  Answered laws sender .parameterLoad id sendResult
      (loadStages S owner id storeId ptc pfc rows columns behind s)
      (handleLoad S owner sender id storeId ptc pfc rows columns behind sendResult s) ∧
    laws.contents
      (handleLoad S owner sender id storeId ptc pfc rows columns behind sendResult s).ipcStore
      storeId = none
  := by
  unfold loadStages handleLoad
  dsimp only
  rw [if_pos hdata]
  constructor
  · rw [Answered, List.find?_cons_of_pos]
    · simp only [finish, if_neg hdata, List.nil_append, and_self]
    · simpa using hdata
  · change laws.contents (S.deleteData storeId s).2 storeId = none
    rw [laws.contents_deleteData_eq, Function.update_self]

/-- What a load does that gets as far as sending the parameter. -/
theorem handleLoad_of_copied (hdata : (S.getData storeId s).1 = .ok)
    (hstream : (streamed S storeId ptc pfc rows columns behind s).1 = .ok)
    (hgiven : (requested owner id (streamed S storeId ptc pfc rows columns behind s).2).1 = .ok)
    {loaded : ParameterWrapper}
    (hcopy : (requested owner id (streamed S storeId ptc pfc rows columns behind s).2).2.copyFrom
      (streamed S storeId ptc pfc rows columns behind s).2 (HasParametersIF.getIndex id)
        = (.ok, loaded)) :
  handleLoad S owner sender id storeId ptc pfc rows columns behind sendResult s =
    finish sender .parameterLoad sendResult
      (requested owner id (streamed S storeId ptc pfc rows columns behind s).2).2 loaded
      ((sendParameter S sender id loaded sendResult s).1,
        (sendParameter S sender id loaded sendResult s).2.1,
        (S.deleteData storeId (sendParameter S sender id loaded sendResult s).2.2).2)
  := by
  unfold handleLoad
  dsimp only
  rw [if_neg (not_not_intro hdata)]
  simp only [streamed, requested] at hstream hgiven hcopy ⊢
  rw [if_neg (not_not_intro hstream), if_neg (not_not_intro hgiven), hcopy]
  rfl

/-- A load that fails before something is sent is not replied to. -/
theorem sent_handleLoad_of_failed (hdata : (S.getData storeId s).1 = .ok)
    (hfails : (streamed S storeId ptc pfc rows columns behind s).1 ≠ .ok ∨
      (requested owner id (streamed S storeId ptc pfc rows columns behind s).2).1 ≠ .ok ∨
      ((requested owner id (streamed S storeId ptc pfc rows columns behind s).2).2.copyFrom
        (streamed S storeId ptc pfc rows columns behind s).2
        (HasParametersIF.getIndex id)).1 ≠ .ok) :
  (handleLoad S owner sender id storeId ptc pfc rows columns behind sendResult s).sent = []
  := by
  unfold handleLoad
  dsimp only
  rw [if_neg (not_not_intro hdata)]
  simp only [streamed, requested] at hfails
  split
  · rfl
  · rename_i hstream
    split
    · rfl
    · rename_i hgiven
      split
      · rfl
      · rename_i hcopy
        simp_all

/-- A parameter that has been loaded is sent when there is room for it. -/
theorem sendStages_of_copied {given newValues loaded : ParameterWrapper} {index : UInt16}
    (hcopy : given.copyFrom newValues index = (.ok, loaded))
    (hfree : (S.getFreeElement given.getSerializedSize s).1 = .ok) :
  (sendStages S loaded s).find? (· ≠ .ok) = none
  := by
  have haccepts := ParameterWrapper.copyFrom_ok_iff.mp (congrArg Prod.fst hcopy)
  have hknown := ParameterWrapper.isKnown_copyFrom (congrArg Prod.fst hcopy)
  obtain ⟨values, hvalues⟩ := ParameterWrapper.copyFrom_of_accepts haccepts
  rw [hcopy] at hknown hvalues
  cases hvalues
  have hserialize := ParameterWrapper.serialize_eq hknown
  have hfree' : (S.getFreeElement (ParameterWrapper.getSerializedSize
      { given with data := .elements true values }) s).1 = .ok := hfree
  rw [sendStages, hserialize, hfree', List.find?_cons_of_neg, List.find?_cons_of_neg,
    List.find?_nil]
  · simp
  · simp

/-- A load that gets as far as sending the parameter is answered exactly when there is room for the
reply, or nothing has changed. -/
theorem answered_handleLoad_of_copied_iff (hdata : (S.getData storeId s).1 = .ok)
    (hstream : (streamed S storeId ptc pfc rows columns behind s).1 = .ok)
    (hgiven : (requested owner id (streamed S storeId ptc pfc rows columns behind s).2).1 = .ok)
    {loaded : ParameterWrapper}
    (hcopy : (requested owner id (streamed S storeId ptc pfc rows columns behind s).2).2.copyFrom
      (streamed S storeId ptc pfc rows columns behind s).2 (HasParametersIF.getIndex id)
        = (.ok, loaded)) :
  Answered laws sender .parameterLoad id sendResult
      (loadStages S owner id storeId ptc pfc rows columns behind s)
      (handleLoad S owner sender id storeId ptc pfc rows columns behind sendResult s) ↔
    (S.getFreeElement (requested owner id
        (streamed S storeId ptc pfc rows columns behind s).2).2.getSerializedSize s).1 = .ok ∨
      loaded = (requested owner id (streamed S storeId ptc pfc rows columns behind s).2).2
  := by
  rw [loadStages, handleLoad_of_copied hdata hstream hgiven hcopy]
  rw [hcopy, hdata, hstream, hgiven, answered_cons_ok, answered_cons_ok, answered_cons_ok,
    answered_cons_ok]
  constructor
  · intro hanswered
    by_cases hfree : (S.getFreeElement (requested owner id
        (streamed S storeId ptc pfc rows columns behind s).2).2.getSerializedSize s).1 = .ok
    · left
      apply hfree
    · right
      have haccepts := ParameterWrapper.copyFrom_ok_iff.mp (congrArg Prod.fst hcopy)
      obtain ⟨values, hvalues⟩ := ParameterWrapper.copyFrom_of_accepts haccepts
      have hsize := congrArg (fun r => r.2.getSerializedSize) (hcopy.symm.trans hvalues)
      have hfails : (S.getFreeElement loaded.getSerializedSize s).1 ≠ .ok := by
        rw [show loaded.getSerializedSize = _ from hsize]
        apply hfree
      rw [Answered, sendStages, List.find?_cons_of_pos] at hanswered
      · apply hanswered.2
      · simpa using hfails
  · intro hroom
    apply answered_finish
    · obtain hfree | hsame := hroom
      · left
        apply sendStages_of_copied hcopy hfree
      · right
        apply hsame
    · intro other hother
      rw [laws.contents_deleteData_eq, Function.update_of_ne]
      rintro rfl
      apply laws.getData_of_none _ s hother hdata

/-- Dumps are always answered, and loads are answered, with their data deleted, exactly when they can
be loaded. -/
theorem answered_iff (laws : S.Reliable) (owner : ParameterOwner) (sender : MessageQueueId)
    (behind : ℕ → UInt8) (sendResult : ReturnValue) (s : σ) :
  (∀ id, Answered laws sender .parameterDump id sendResult (dumpStages S owner id s)
      (handleParameterMessage S owner sender behind sendResult s (.dump id))) ∧
    ∀ id storeId ptc pfc rows columns,
      Answered laws sender .parameterLoad id sendResult
          (loadStages S owner id storeId ptc pfc rows columns behind s)
          (handleParameterMessage S owner sender behind sendResult s
            (.load id storeId ptc pfc rows columns)) ∧
        laws.contents (handleParameterMessage S owner sender behind sendResult s
          (.load id storeId ptc pfc rows columns)).ipcStore storeId = none ↔
      Loadable S owner id storeId ptc pfc rows columns behind s
  := by
  constructor
  · intro id
    apply answered_handleDump
  · intro id storeId ptc pfc rows columns
    change Answered _ _ _ _ _ _ (handleLoad ..) ∧
      laws.contents (handleLoad ..).ipcStore storeId = none ↔ _
    by_cases hdata : (S.getData storeId s).1 = .ok
    · by_cases hcopied : (streamed S storeId ptc pfc rows columns behind s).1 = .ok ∧
        (requested owner id (streamed S storeId ptc pfc rows columns behind s).2).1 = .ok ∧
        (requested owner id (streamed S storeId ptc pfc rows columns behind s).2).2.Accepts
          (streamed S storeId ptc pfc rows columns behind s).2 (HasParametersIF.getIndex id)
      · obtain ⟨hstream, hgiven, haccepts⟩ := hcopied
        obtain ⟨values, hcopy⟩ := ParameterWrapper.copyFrom_of_accepts haccepts
        rw [answered_handleLoad_of_copied_iff laws hdata hstream hgiven hcopy,
          handleLoad_of_copied hdata hstream hgiven hcopy]
        have hdeleted : laws.contents (S.deleteData storeId (sendParameter S sender id
            { (requested owner id (streamed S storeId ptc pfc rows columns behind s).2).2 with
              data := .elements true values } sendResult s).2.2).2 storeId = none := by
          rw [laws.contents_deleteData_eq, Function.update_self]
        constructor
        · rintro ⟨hroom, -⟩ -
          use hstream, hgiven, haccepts
          rw [hcopy]
          apply hroom
        · intro hloadable
          obtain ⟨-, -, -, hroom⟩ := hloadable hdata
          rw [hcopy] at hroom
          exact ⟨hroom, hdeleted⟩
      · apply iff_of_false
        · rintro ⟨hanswered, -⟩
          apply not_answered_of_nil laws (sent_handleLoad_of_failed hdata _) hanswered
          rw [ne_eq, ne_eq, ne_eq, ParameterWrapper.copyFrom_ok_iff]
          tauto
        · intro hloadable
          apply hcopied
          obtain ⟨hstream, hgiven, haccepts, -⟩ := hloadable hdata
          use hstream, hgiven
    · apply iff_of_true (answered_handleLoad_of_missing laws hdata)
      intro hthere
      contradiction

/-- An owner with one parameter, a byte that is zero. -/
def singleParameter : ParameterOwner where
  getParameter := fun _ uniqueId wrapper _ _ =>
    if uniqueId = 0 then
      (.ok, .set .uint8 1 1 true fun _ => 0)
    else
      (HasParametersIF.invalidIdentifierId, wrapper)

/-- A load of a parameter that is not known is not replied to, and one that is rejected since there
is no room for the reply has changed the parameter. -/
theorem not_answered :
  ¬ Answered (tableStore.reliable 1) 7 .parameterLoad 0x10000 .ok
      (loadStages (tableStore 1) singleParameter 0x10000 ⟨0, 0⟩ 3 4 1 1 (fun _ => 0)
        (Function.update (fun _ => none) ⟨0, 0⟩ (some [5])))
      (handleParameterMessage (tableStore 1) singleParameter 7 (fun _ => 0) .ok
        (Function.update (fun _ => none) ⟨0, 0⟩ (some [5])) (.load 0x10000 ⟨0, 0⟩ 3 4 1 1)) ∧
    ¬ Answered (tableStore.reliable 1) 7 .parameterLoad 0 .ok
      (loadStages (tableStore 1) singleParameter 0 ⟨0, 0⟩ 3 4 1 1 (fun _ => 0)
        (Function.update (fun _ => none) ⟨0, 0⟩ (some [5])))
      (handleParameterMessage (tableStore 1) singleParameter 7 (fun _ => 0) .ok
        (Function.update (fun _ => none) ⟨0, 0⟩ (some [5])) (.load 0 ⟨0, 0⟩ 3 4 1 1))
  := by
  constructor
  · apply not_answered_of_nil
    rfl
  · intro h
    obtain ⟨-, hsame⟩ := h
    have hvalue : 5 = 0 := congrArg (fun W => W.element 0) hsame
    cases hvalue

end ParameterHelper
