import Fsfw.DeviceHandlers.DeviceActionLog

/-!
# Settlement of device commands

A command that is executing is being written, or its reply is expected, and its commander is the one
that waits in the log.  Each step of a device handler touches one command with its reply, when no
two commands share a reply, so a command that is not touched stays settled (`AllSettled.touches`).
-/

open DeviceHandlerIF

/-- The commander that waits for a command to end. -/
def DeviceCommandInfo.commander (info : DeviceCommandInfo) : Option MessageQueueId :=
  if info.isExecuting ∧ info.sendReplyTo ≠ MessageQueueIF.noQueue then some info.sendReplyTo
  else none

namespace DeviceCommunication

open DeviceActionEvent

variable {σ : Type*} {C : DeviceHandlerChild σ} {D D' : DeviceCommunication σ}
  {command : DeviceCommandId}

/-! ### Commands one by one -/

/-- A command is ready to be written, or is written. -/
def IsWriting (D : DeviceCommunication σ) (command : DeviceCommandId) : Prop :=
  D.pendingCommand = some command ∧ (D.cookieState = .writeReady ∨ D.cookieState = .writeSent)

/-- The reply to a command is expected. -/
def Awaits (D : DeviceCommunication σ) (command : DeviceCommandId) : Prop :=
  ∃ info, D.base.deviceReplyMap[D.replyId command]? = some info ∧ info.isPending = true

/-- A command that is executing is being written, or its reply is expected, and its commander is
the one that waits in the log. -/
structure Settled (D : DeviceCommunication σ) (command : DeviceCommandId)
    (info : DeviceCommandInfo) : Prop where
  writing : D.IsWriting command → info.isExecuting = true ∧ ¬ D.Awaits command
  awaiting : D.Awaits command → info.isExecuting = true ∧ info.expectedReplies = 1
  executing : info.isExecuting = true → D.IsWriting command ∨ D.Awaits command
  log : command ≠ rawCommandId →
    settled command (D.replyId command) D.log = some info.commander

/-- What the child class has told about its commands and replies. No replies are shared, they are
not periodic, and raw commands have none. -/
structure Proper (D : DeviceCommunication σ) : Prop where
  raw : rawCommandId ∈ D.base.deviceCommandMap
  rawReply : D.base.deviceReplyMap[D.replyId rawCommandId]? = none
  unshared : ∀ command ∈ D.base.deviceCommandMap, ∀ other ∈ D.base.deviceCommandMap,
    command ≠ other → D.replyId command ≠ D.replyId other ∧ D.replyId command ≠ other
  once : ∀ (reply : DeviceCommandId) (info : DeviceReplyInfo),
    D.base.deviceReplyMap[reply]? = some info → info.Once

/-- All commands are settled, and replies are expected for commands only. -/
structure AllSettled (D : DeviceCommunication σ) : Prop extends Proper D where
  settled : ∀ (command : DeviceCommandId) (info : DeviceCommandInfo),
    D.base.deviceCommandMap[command]? = some info → Settled D command info
  pending : D.cookieState = .writeReady ∨ D.cookieState = .writeSent →
    ∃ command ∈ D.base.deviceCommandMap, D.pendingCommand = some command
  expected : ∀ (reply : DeviceCommandId) (info : DeviceReplyInfo),
    D.base.deviceReplyMap[reply]? = some info → info.isPending = true →
    ∃ command ∈ D.base.deviceCommandMap,
      D.replyId command = reply ∧ info.command = some command

/-- One command, its reply and its log are touched, and nothing else. -/
structure Touches (D D' : DeviceCommunication σ) (command : DeviceCommandId)
    (info : DeviceCommandInfo) : Prop where
  alternativeReplyId : D'.alternativeReplyId = D.alternativeReplyId
  mem : command ∈ D.base.deviceCommandMap
  commands : ∀ other : DeviceCommandId, D'.base.deviceCommandMap[other]? =
    if other = command then some info else D.base.deviceCommandMap[other]?
  replies : ∀ reply, reply ≠ D.replyId command →
    D'.base.deviceReplyMap[reply]? = D.base.deviceReplyMap[reply]?
  noReply : D.base.deviceReplyMap[D.replyId command]? = none →
    D'.base.deviceReplyMap[D.replyId command]? = none
  reply : ∀ info : DeviceReplyInfo, D'.base.deviceReplyMap[D.replyId command]? = some info →
    info.Once ∧ (info.isPending = true → info.command = some command)
  log : ∃ new, D'.log = D.log ++ new ∧
    ∀ event ∈ new, event.Concerns command (D.replyId command)
  writing : ∀ other, other ≠ command → (D'.IsWriting other ↔ D.IsWriting other)
  pending : D'.cookieState = .writeReady ∨ D'.cookieState = .writeSent →
    ∃ other ∈ D.base.deviceCommandMap, D'.pendingCommand = some other

theorem mem_iff_of_commands {info : DeviceCommandInfo} (hmem : command ∈ D.base.deviceCommandMap)
    (hcommands : ∀ other : DeviceCommandId, D'.base.deviceCommandMap[other]? =
      if other = command then some info else D.base.deviceCommandMap[other]?)
    (other : DeviceCommandId) :
  other ∈ D'.base.deviceCommandMap ↔ other ∈ D.base.deviceCommandMap
  := by
  rw [Std.TreeMap.mem_iff_isSome_getElem?, Std.TreeMap.mem_iff_isSome_getElem?, hcommands]
  split_ifs with heq
  · subst heq
    rw [← Std.TreeMap.mem_iff_isSome_getElem?]
    exact iff_of_true rfl hmem
  · rfl

theorem Touches.replyId {info : DeviceCommandInfo} (h : Touches D D' command info)
    (other : DeviceCommandId) :
  D'.replyId other = D.replyId other
  := by
  rw [DeviceCommunication.replyId, h.alternativeReplyId, DeviceCommunication.replyId]

theorem Touches.proper {info : DeviceCommandInfo} (htouches : Touches D D' command info)
    (h : Proper D) :
  Proper D'
  := by
  have hmem := mem_iff_of_commands htouches.mem htouches.commands
  constructor
  · exact (hmem _).mpr h.raw
  · rw [htouches.replyId]
    by_cases heq : command = rawCommandId
    · subst heq
      exact htouches.noReply h.rawReply
    · rw [htouches.replies _ (h.unshared _ htouches.mem _ h.raw heq).1.symm]
      exact h.rawReply
  · intro c hc other hother hne
    rw [htouches.replyId, htouches.replyId]
    exact h.unshared c ((hmem c).mp hc) other ((hmem other).mp hother) hne
  · intro reply info' hreply
    by_cases heq : reply = D.replyId command
    · subst heq
      exact (htouches.reply info' hreply).1
    · rw [htouches.replies reply heq] at hreply
      exact h.once reply info' hreply

/-- A command that is not touched stays settled. -/
theorem Touches.settled_of_ne {info info' : DeviceCommandInfo} {other : DeviceCommandId}
    (htouches : Touches D D' command info) (h : Proper D) (hother : other ∈ D.base.deviceCommandMap)
    (hne : other ≠ command) (hsettled : Settled D other info') :
  Settled D' other info'
  := by
  obtain ⟨hreplies, hreplyCommand⟩ := h.unshared other hother command htouches.mem hne
  have hcommandReply := (h.unshared command htouches.mem other hother hne.symm).2
  have hawaits : D'.Awaits other ↔ D.Awaits other := by
    rw [Awaits, Awaits, htouches.replyId, htouches.replies _ hreplies]
  have hwriting := htouches.writing other hne
  constructor
  · rw [hwriting, hawaits]
    exact hsettled.writing
  · rw [hawaits]
    exact hsettled.awaiting
  · rw [hwriting, hawaits]
    exact hsettled.executing
  · intro hraw
    obtain ⟨new, hlog, hconcerns⟩ := htouches.log
    have hforeign := foreign_of_concerns hconcerns hne hcommandReply hreplyCommand hreplies
    rw [hlog, htouches.replyId, settled_append_of_foreign hforeign]
    exact hsettled.log hraw

/-- When one command is touched and settled, all are. -/
theorem AllSettled.touches {info : DeviceCommandInfo} (h : AllSettled D)
    (htouches : Touches D D' command info) (hsettled : Settled D' command info) :
  AllSettled D'
  := by
  have hmem := mem_iff_of_commands htouches.mem htouches.commands
  refine ⟨htouches.proper h.toProper, ?_, ?_, ?_⟩
  · intro other info' hother
    rw [htouches.commands] at hother
    split_ifs at hother with heq
    · cases hother
      exact heq ▸ hsettled
    · have hmemOther : other ∈ D.base.deviceCommandMap := by
        rw [Std.TreeMap.mem_iff_isSome_getElem?, hother]
        rfl
      exact htouches.settled_of_ne h.toProper hmemOther heq (h.settled other info' hother)
  · intro hcookie
    obtain ⟨other, hother, hpending⟩ := htouches.pending hcookie
    exact ⟨other, (hmem other).mpr hother, hpending⟩
  · intro reply info' hreply hpending
    by_cases heq : reply = D.replyId command
    · subst heq
      refine ⟨command, (hmem command).mpr htouches.mem, htouches.replyId command, ?_⟩
      exact (htouches.reply info' hreply).2 hpending
    · rw [htouches.replies reply heq] at hreply
      obtain ⟨other, hother, hreplyId, hcommand⟩ := h.expected reply info' hreply hpending
      exact ⟨other, (hmem other).mpr hother, (htouches.replyId other).trans hreplyId, hcommand⟩

theorem getElem?_insert_eq {α : Type*} (map : Std.TreeMap DeviceCommandId α)
    (key other : DeviceCommandId) (value : α) :
  (map.insert key value)[other]? = if other = key then some value else map[other]?
  := by
  rw [Std.TreeMap.getElem?_insert]
  apply if_congr _ rfl rfl
  rw [Std.LawfulEqCmp.compare_eq_iff_eq, eq_comm]

theorem mem_of_getElem? {α : Type*} {map : Std.TreeMap DeviceCommandId α} {key : DeviceCommandId}
    {value : α} (h : map[key]? = some value) :
  key ∈ map
  := by
  rw [Std.TreeMap.mem_iff_isSome_getElem?, h]
  rfl

/-- A handler that writes nothing. -/
def Idle (D : DeviceCommunication σ) : Prop :=
  D.cookieState ≠ .writeReady ∧ D.cookieState ≠ .writeSent

theorem Idle.not_isWriting (h : D.Idle) (command : DeviceCommandId) :
  ¬ D.IsWriting command
  := by
  rintro ⟨-, hready | hsent⟩
  · exact h.1 hready
  · exact h.2 hsent

theorem not_awaits_of_none (h : D.base.deviceReplyMap[D.replyId command]? = none) :
  ¬ D.Awaits command
  := by
  rintro ⟨info, hinfo, -⟩
  rw [h] at hinfo
  cases hinfo

/-- The events of a step, and the commander that waits after them. -/
structure Logs (D D' : DeviceCommunication σ) (command : DeviceCommandId)
    (info : DeviceCommandInfo) : Prop where
  concerns : ∃ new, D'.log = D.log ++ new ∧
    ∀ event ∈ new, event.Concerns command (D.replyId command)
  log : command ≠ rawCommandId →
    DeviceActionEvent.settled command (D.replyId command) D'.log = some info.commander

/-- The replies stay as they are. -/
theorem AllSettled.reply_of_same (h : AllSettled D)
    (hreplies : D'.base.deviceReplyMap = D.base.deviceReplyMap)
    (hmem : command ∈ D.base.deviceCommandMap) (info : DeviceReplyInfo)
    (hinfo : D'.base.deviceReplyMap[D.replyId command]? = some info) :
  info.Once ∧ (info.isPending = true → info.command = some command)
  := by
  rw [hreplies] at hinfo
  refine ⟨h.once _ _ hinfo, fun hpending => ?_⟩
  obtain ⟨other, hother, hreplyId, hcommand⟩ := h.expected _ _ hinfo hpending
  by_cases heq : other = command
  · rw [hcommand, heq]
  · exact absurd hreplyId (h.unshared other hother command hmem heq).1

/-- A command is ready to be written. -/
theorem AllSettled.begin {info : DeviceCommandInfo} (h : AllSettled D) (hidle : D.Idle)
    (hmem : command ∈ D.base.deviceCommandMap) (hawaits : ¬ D.Awaits command)
    (halternative : D'.alternativeReplyId = D.alternativeReplyId)
    (hcommands : D'.base.deviceCommandMap = D.base.deviceCommandMap.insert command info)
    (hreplies : D'.base.deviceReplyMap = D.base.deviceReplyMap)
    (hpending : D'.pendingCommand = some command) (hcookie : D'.cookieState = .writeReady)
    (hexecuting : info.isExecuting = true) (hlogs : Logs D D' command info) :
  AllSettled D'
  := by
  have htouches : Touches D D' command info := by
    refine ⟨halternative, hmem, ?_, ?_, ?_, ?_, hlogs.concerns, ?_, ?_⟩
    · intro other
      rw [hcommands, getElem?_insert_eq]
    · intro reply _
      rw [hreplies]
    · rw [hreplies]
      exact id
    · exact h.reply_of_same hreplies hmem
    · intro other hne
      refine iff_of_false ?_ (hidle.not_isWriting other)
      rintro ⟨hother, -⟩
      rw [hpending] at hother
      exact hne (Option.some_inj.mp hother).symm
    · intro _
      exact ⟨command, hmem, hpending⟩
  have hawaits' : ¬ D'.Awaits command := by
    rwa [Awaits, htouches.replyId, hreplies]
  apply h.touches htouches
  refine ⟨fun _ => ⟨hexecuting, hawaits'⟩, fun hD => absurd hD hawaits', fun _ => ?_, ?_⟩
  · exact .inl ⟨hpending, .inl hcookie⟩
  · intro hraw
    rw [htouches.replyId]
    exact hlogs.log hraw

/-- A command that was not written is over. -/
theorem AllSettled.notWritten (info : DeviceCommandInfo) (h : AllSettled D)
    (hwriting : D.IsWriting command) (hmem : command ∈ D.base.deviceCommandMap)
    (hawaits : ¬ D.Awaits command) (halternative : D'.alternativeReplyId = D.alternativeReplyId)
    (hcommands : D'.base.deviceCommandMap = D.base.deviceCommandMap.insert command info)
    (hreplies : D'.base.deviceReplyMap = D.base.deviceReplyMap)
    (hidle : D'.Idle) (hexecuting : info.isExecuting = false) (hlogs : Logs D D' command info) :
  AllSettled D'
  := by
  have htouches : Touches D D' command info := by
    refine ⟨halternative, hmem, ?_, ?_, ?_, ?_, hlogs.concerns, ?_, ?_⟩
    · intro other
      rw [hcommands, getElem?_insert_eq]
    · intro reply _
      rw [hreplies]
    · rw [hreplies]
      exact id
    · exact h.reply_of_same hreplies hmem
    · intro other hne
      refine iff_of_false (hidle.not_isWriting other) ?_
      rintro ⟨hother, -⟩
      rw [hwriting.1] at hother
      exact hne (Option.some_inj.mp hother).symm
    · rintro (hready | hsent)
      · exact absurd hready hidle.1
      · exact absurd hsent hidle.2
  have hawaits' : ¬ D'.Awaits command := by
    rwa [Awaits, htouches.replyId, hreplies]
  apply h.touches htouches
  refine ⟨fun hD => absurd hD (hidle.not_isWriting _), fun hD => absurd hD hawaits', ?_, ?_⟩
  · intro hD
    rw [hexecuting] at hD
    cases hD
  · intro hraw
    rw [htouches.replyId]
    exact hlogs.log hraw

/-- Nothing happens to commands and replies. -/
structure Same (D D' : DeviceCommunication σ) : Prop where
  alternativeReplyId : D'.alternativeReplyId = D.alternativeReplyId
  commands : D'.base.deviceCommandMap = D.base.deviceCommandMap
  replies : ∀ reply : DeviceCommandId,
    D'.base.deviceReplyMap[reply]? = D.base.deviceReplyMap[reply]?
  log : ∃ new, D'.log = D.log ++ new ∧ ∀ command reply, Foreign command reply new

theorem Same.awaits (h : Same D D') (command : DeviceCommandId) :
  D'.Awaits command ↔ D.Awaits command
  := by
  rw [Awaits, Awaits, DeviceCommunication.replyId, h.alternativeReplyId, h.replies]
  rfl

theorem AllSettled.same (h : AllSettled D) (hsame : Same D D')
    (hwriting : ∀ command, D'.IsWriting command ↔ D.IsWriting command)
    (hpending : D'.cookieState = .writeReady ∨ D'.cookieState = .writeSent →
      ∃ command ∈ D.base.deviceCommandMap, D'.pendingCommand = some command) :
  AllSettled D'
  := by
  have hreplyId (command : DeviceCommandId) : D'.replyId command = D.replyId command := by
    rw [DeviceCommunication.replyId, hsame.alternativeReplyId, DeviceCommunication.replyId]
  refine ⟨⟨?_, ?_, ?_, ?_⟩, ?_, ?_, ?_⟩
  · rw [hsame.commands]
    exact h.raw
  · rw [hsame.replies, hreplyId]
    exact h.rawReply
  · intro command hcommand other hother hne
    rw [hsame.commands] at hcommand hother
    rw [hreplyId, hreplyId]
    exact h.unshared command hcommand other hother hne
  · intro reply info hinfo
    rw [hsame.replies] at hinfo
    exact h.once reply info hinfo
  · intro command info hinfo
    rw [hsame.commands] at hinfo
    obtain ⟨hsettledWriting, hsettledAwaiting, hsettledExecuting, hsettledLog⟩ :=
      h.settled command info hinfo
    have hawaits := hsame.awaits command
    constructor
    · rw [hwriting, hawaits]
      exact hsettledWriting
    · rw [hawaits]
      exact hsettledAwaiting
    · rw [hwriting, hawaits]
      exact hsettledExecuting
    · intro hraw
      obtain ⟨new, hlog, hforeign⟩ := hsame.log
      rw [hlog, hreplyId, settled_append_of_foreign (hforeign _ _)]
      exact hsettledLog hraw
  · rw [hsame.commands]
    exact hpending
  · intro reply info hinfo hexpected
    rw [hsame.replies] at hinfo
    rw [hsame.commands]
    obtain ⟨command, hmem, hcommand⟩ := h.expected reply info hinfo hexpected
    exact ⟨command, hmem, (hreplyId command).trans hcommand.1, hcommand.2⟩

/-- A handler that writes nothing, before and after. -/
theorem AllSettled.sameIdle (h : AllSettled D) (hsame : Same D D') (hidle : D.Idle)
    (hidle' : D'.Idle) :
  AllSettled D'
  := by
  apply h.same hsame
  · intro command
    exact iff_of_false (hidle'.not_isWriting command) (hidle.not_isWriting command)
  · rintro (hready | hsent)
    · exact absurd hready hidle'.1
    · exact absurd hsent hidle'.2

/-- The reply to a command that was written is expected. -/
theorem AllSettled.expect (info : DeviceCommandInfo) (reply : DeviceReplyInfo) (h : AllSettled D)
    (hwriting : D.IsWriting command) (hmem : command ∈ D.base.deviceCommandMap)
    (halternative : D'.alternativeReplyId = D.alternativeReplyId)
    (hcommands : D'.base.deviceCommandMap = D.base.deviceCommandMap.insert command info)
    (hreplies : D'.base.deviceReplyMap = D.base.deviceReplyMap.insert (D.replyId command) reply)
    (hreply : (D.base.deviceReplyMap[D.replyId command]?).isSome) (honce : reply.Once)
    (hisPending : reply.isPending = true) (hcommand : reply.command = some command)
    (hidle : D'.Idle) (hexecuting : info.isExecuting = true) (hexpected : info.expectedReplies = 1)
    (hlogs : Logs D D' command info) :
  AllSettled D'
  := by
  have htouches : Touches D D' command info := by
    refine ⟨halternative, hmem, ?_, ?_, ?_, ?_, hlogs.concerns, ?_, ?_⟩
    · intro other
      rw [hcommands, getElem?_insert_eq]
    · intro other hne
      rw [hreplies, getElem?_insert_eq, if_neg hne]
    · intro hnone
      rw [hnone] at hreply
      cases hreply
    · intro info' hinfo'
      rw [hreplies, getElem?_insert_eq, if_pos rfl] at hinfo'
      cases hinfo'
      exact ⟨honce, fun _ => hcommand⟩
    · intro other hne
      refine iff_of_false (hidle.not_isWriting other) ?_
      rintro ⟨hother, -⟩
      rw [hwriting.1] at hother
      exact hne (Option.some_inj.mp hother).symm
    · rintro (hready | hsent)
      · exact absurd hready hidle.1
      · exact absurd hsent hidle.2
  apply h.touches htouches
  refine ⟨fun hD => absurd hD (hidle.not_isWriting _), fun _ => ⟨hexecuting, hexpected⟩, ?_, ?_⟩
  · intro _
    refine .inr ⟨reply, ?_, hisPending⟩
    rw [htouches.replyId, hreplies, getElem?_insert_eq, if_pos rfl]
  · intro hraw
    rw [htouches.replyId]
    exact hlogs.log hraw

/-- What becomes of a reply that is expected: it goes on being expected, or its command is over. -/
theorem AllSettled.afterReply (info : DeviceCommandInfo) (reply : DeviceReplyInfo)
    (h : AllSettled D) (hmem : command ∈ D.base.deviceCommandMap)
    (hnot : ¬ D.IsWriting command)
    (halternative : D'.alternativeReplyId = D.alternativeReplyId)
    (hcommands : ∀ other : DeviceCommandId, D'.base.deviceCommandMap[other]? =
      if other = command then some info else D.base.deviceCommandMap[other]?)
    (hreplies : D'.base.deviceReplyMap = D.base.deviceReplyMap.insert (D.replyId command) reply)
    (hreply : (D.base.deviceReplyMap[D.replyId command]?).isSome) (honce : reply.Once)
    (hcommand : reply.command = some command)
    (hpending : D'.pendingCommand = D.pendingCommand) (hcookie : D'.cookieState = D.cookieState)
    (hexecuting : info.isExecuting = reply.isPending)
    (hexpected : reply.isPending = true → info.expectedReplies = 1)
    (hlogs : Logs D D' command info) :
  AllSettled D'
  := by
  have hwriting (other : DeviceCommandId) : D'.IsWriting other ↔ D.IsWriting other := by
    rw [IsWriting, IsWriting, hpending, hcookie]
  have htouches : Touches D D' command info := by
    refine ⟨halternative, hmem, hcommands, ?_, ?_, ?_, hlogs.concerns,
      fun other _ => hwriting other, ?_⟩
    · intro other hne
      rw [hreplies, getElem?_insert_eq, if_neg hne]
    · intro hnone
      rw [hnone] at hreply
      cases hreply
    · intro info' hinfo'
      rw [hreplies, getElem?_insert_eq, if_pos rfl] at hinfo'
      cases hinfo'
      exact ⟨honce, fun _ => hcommand⟩
    · rw [hcookie, hpending]
      exact h.pending
  have hawaits : D'.Awaits command ↔ reply.isPending = true := by
    rw [Awaits, htouches.replyId, hreplies, getElem?_insert_eq, if_pos rfl]
    constructor
    · rintro ⟨info', hinfo', hisPending⟩
      cases hinfo'
      exact hisPending
    · intro hisPending
      exact ⟨reply, rfl, hisPending⟩
  apply h.touches htouches
  refine ⟨fun hD => absurd ((hwriting _).mp hD) hnot, fun hD => ?_, fun hD => ?_, ?_⟩
  · have hisPending := hawaits.mp hD
    exact ⟨hexecuting.trans hisPending, hexpected hisPending⟩
  · exact .inr (hawaits.mpr (hexecuting.symm.trans hD))
  · intro hraw
    rw [htouches.replyId]
    exact hlogs.log hraw

/-- Events after which the commander of a command waits, when it waited before. -/
theorem AllSettled.logs {info info' : DeviceCommandInfo} (h : AllSettled D)
    (hinfo : D.base.deviceCommandMap[command]? = some info) (new : List DeviceActionEvent)
    (hlog : D'.log = D.log ++ new)
    (hconcerns : ∀ event ∈ new, event.Concerns command (D.replyId command))
    (hnew : command ≠ rawCommandId →
      new.foldlM (settle command (D.replyId command)) info.commander = some info'.commander) :
  Logs D D' command info'
  := by
  refine ⟨⟨new, hlog, hconcerns⟩, fun hraw => ?_⟩
  rw [hlog, settled_append, (h.settled command info hinfo).log hraw]
  exact hnew hraw

theorem commander_of_not_executing {info : DeviceCommandInfo} (h : info.isExecuting = false) :
  info.commander = none
  := by
  rw [DeviceCommandInfo.commander, if_neg]
  rintro ⟨hexecuting, -⟩
  rw [h] at hexecuting
  cases hexecuting

theorem AllSettled.not_awaits {info : DeviceCommandInfo} (h : AllSettled D)
    (hinfo : D.base.deviceCommandMap[command]? = some info)
    (hexecuting : info.isExecuting = false) :
  ¬ D.Awaits command
  := by
  intro hawaits
  have hexecuting' := ((h.settled command info hinfo).awaiting hawaits).1
  rw [hexecuting] at hexecuting'
  cases hexecuting'

theorem foreign_nil (command reply : DeviceCommandId) :
  Foreign command reply []
  := by
  intro event hevent
  cases hevent

theorem foreign_singleton {event : DeviceActionEvent}
    (h : ∀ command reply commander, event.settle command reply commander = some commander)
    (command reply : DeviceCommandId) :
  Foreign command reply [event]
  := by
  intro event' hevent'
  rw [List.mem_singleton.mp hevent']
  exact h command reply

/-- An action that is rejected. -/
theorem same_record_rejected (D : DeviceCommunication σ) (commandedBy : MessageQueueId)
    (actionId : DeviceCommandId) (result : ReturnValue) :
  Same D (D.record (.rejected commandedBy actionId result))
  := ⟨rfl, rfl, fun _ => rfl, _, rfl, foreign_singleton fun _ _ _ => rfl⟩

/-- The commander is set when the command of an action could not be built. -/
theorem AllSettled.setCommander {info : DeviceCommandInfo} (h : AllSettled D)
    (hinfo : D.base.deviceCommandMap[command]? = some info) (hexecuting : info.isExecuting = false)
    (sendReplyTo : MessageQueueId) :
  AllSettled (D.setCommand command { info with sendReplyTo := sendReplyTo })
  := by
  have hawaits := h.not_awaits hinfo hexecuting
  have htouches : Touches D (D.setCommand command { info with sendReplyTo := sendReplyTo }) command
      { info with sendReplyTo := sendReplyTo } := by
    refine ⟨rfl, mem_of_getElem? hinfo, ?_, fun _ _ => rfl, id, ?_, ⟨[], ?_, ?_⟩, ?_, h.pending⟩
    · exact fun other => getElem?_insert_eq _ _ other _
    · exact h.reply_of_same rfl (mem_of_getElem? hinfo)
    · exact (List.append_nil _).symm
    · intro event hevent
      cases hevent
    · intro other _
      rfl
  apply h.touches htouches
  have hsettled := h.settled command info hinfo
  refine ⟨hsettled.writing, hsettled.awaiting, hsettled.executing, fun hraw => ?_⟩
  have hnone : ({ info with sendReplyTo := sendReplyTo } : DeviceCommandInfo).commander = none :=
    commander_of_not_executing hexecuting
  have hlog := hsettled.log hraw
  rw [commander_of_not_executing hexecuting] at hlog
  rw [hnone]
  exact hlog

theorem AllSettled.handleActionMessage (h : AllSettled D) (hidle : D.Idle)
    (actionId : DeviceCommandId) (commandedBy : MessageQueueId) (built : ReturnValue) :
  AllSettled (D.handleActionMessage actionId commandedBy built)
  := by
  rw [DeviceCommunication.handleActionMessage, executeAction]
  by_cases haccept : D.acceptExternalDeviceCommands = .ok
  · rw [if_neg (not_not.mpr haccept)]
    cases hinfo : D.base.deviceCommandMap[actionId]? with
    | none => exact h.sameIdle (same_record_rejected _ _ _ _) hidle hidle
    | some info =>
        dsimp only
        by_cases hexecuting : info.isExecuting = true
        · rw [if_pos hexecuting]
          exact h.sameIdle (same_record_rejected _ _ _ _) hidle hidle
        · have hnot : info.isExecuting = false := Bool.eq_false_iff.mpr hexecuting
          rw [if_neg hexecuting]
          by_cases hbuilt : built = .ok
          · rw [if_pos hbuilt]
            dsimp only
            rw [if_pos hbuilt]
            apply h.begin hidle (mem_of_getElem? hinfo) (h.not_awaits hinfo hnot)
            · rfl
            · rfl
            · rfl
            · rfl
            · rfl
            · rfl
            · apply h.logs hinfo _
              · rfl
              · intro event hevent
                rw [List.mem_singleton.mp hevent]
                rfl
              · intro _
                rw [commander_of_not_executing hnot, List.foldlM_cons, settle, if_pos rfl,
                  if_pos rfl, DeviceCommandInfo.commander]
                by_cases hnone : commandedBy = MessageQueueIF.noQueue
                · simp [hnone]
                · simp [hnone]
          · rw [if_neg hbuilt]
            dsimp only
            rw [if_neg hbuilt]
            apply (h.setCommander hinfo hnot commandedBy).sameIdle
            · exact same_record_rejected _ _ _ _
            · exact hidle
            · exact hidle
  · rw [if_pos haccept]
    dsimp only
    rw [if_neg haccept]
    exact h.sameIdle (same_record_rejected _ _ _ _) hidle hidle

theorem foreign_pair {event event' : DeviceActionEvent}
    (h : ∀ command reply commander, event.settle command reply commander = some commander)
    (h' : ∀ command reply commander, event'.settle command reply commander = some commander)
    (command reply : DeviceCommandId) :
  Foreign command reply [event, event']
  := by
  intro e he
  obtain rfl | he := List.mem_cons.mp he
  · exact h command reply
  · exact foreign_singleton h' command reply e he

theorem AllSettled.buildRawDeviceCommand (h : AllSettled D) (hidle : D.Idle) (address : UInt32)
    (stored : ReturnValue) :
  ∃ D', D.buildRawDeviceCommand address stored = some D' ∧ AllSettled D'
  := by
  rw [DeviceCommunication.buildRawDeviceCommand]
  split_ifs with hmode hstored
  · refine ⟨_, rfl, h.sameIdle ⟨rfl, rfl, fun _ => rfl,
      [.deleteData address, .returnvalue wrongModeForCommand 0], ?_, ?_⟩ hidle hidle⟩
    · exact List.append_assoc _ _ _
    · exact foreign_pair (fun _ _ _ => rfl) (fun _ _ _ => rfl)
  · refine ⟨_, rfl, h.sameIdle ⟨rfl, rfl, fun _ => rfl, _, rfl, ?_⟩ hidle hidle⟩
    exact foreign_singleton fun _ _ _ => rfl
  · obtain ⟨info, hinfo⟩ := Option.isSome_iff_exists.mp
      (Std.TreeMap.mem_iff_isSome_getElem?.mp h.raw)
    rw [hinfo]
    refine ⟨_, rfl, ?_⟩
    apply h.begin hidle h.raw (not_awaits_of_none h.rawReply)
    · rfl
    · rfl
    · rfl
    · rfl
    · rfl
    · rfl
    · exact ⟨⟨[], (List.append_nil _).symm, fun _ he => absurd he List.not_mem_nil⟩,
        fun hraw => absurd rfl hraw⟩

theorem AllSettled.readCommandQueue (h : AllSettled D) (hidle : D.Idle) (message : DeviceMessage) :
  ∃ D', D.readCommandQueue message = some D' ∧ AllSettled D'
  := by
  cases message with
  | action commandedBy actionId built => exact ⟨_, rfl, h.handleActionMessage hidle _ _ _⟩
  | raw address stored => exact h.buildRawDeviceCommand hidle address stored
  | other => exact ⟨D, rfl, h⟩

/-- An internal command has no commander. -/
theorem AllSettled.beginInternal {info : DeviceCommandInfo} (h : AllSettled D) (hidle : D.Idle)
    (hinfo : D.base.deviceCommandMap[command]? = some info)
    (hexecuting : info.isExecuting = false) :
  AllSettled
    { D.setCommand command
        { info with sendReplyTo := MessageQueueIF.noQueue, isExecuting := true } with
      pendingCommand := some command
      cookieState := .writeReady }
  := by
  apply h.begin hidle (mem_of_getElem? hinfo) (h.not_awaits hinfo hexecuting)
  · rfl
  · rfl
  · rfl
  · rfl
  · rfl
  · rfl
  · apply h.logs hinfo _
    · exact (List.append_nil _).symm
    · intro event hevent
      cases hevent
    · intro _
      rw [commander_of_not_executing hexecuting, DeviceCommandInfo.commander, if_neg]
      · rfl
      · rintro ⟨-, hne⟩
        exact hne rfl

theorem AllSettled.triggerEvent (h : AllSettled D) (hidle : D.Idle) (event : Event)
    (parameter1 parameter2 : UInt32) :
  AllSettled (D.triggerEvent event parameter1 parameter2)
  := h.sameIdle ⟨rfl, rfl, fun _ => rfl, [], (List.append_nil _).symm, foreign_nil⟩ hidle hidle

theorem AllSettled.buildInternalCommand (h : AllSettled D) (hidle : D.Idle) (built : ReturnValue)
    (deviceCommandId : DeviceCommandId) :
  AllSettled (D.buildInternalCommand built deviceCommandId)
  := by
  rw [DeviceCommunication.buildInternalCommand]
  dsimp only
  split
  · exact h
  · rename_i result command _
    by_cases hnothing : result = DeviceHandlerBase.nothingToSend
    · rw [if_pos hnothing]
      exact h
    · rw [if_neg hnothing]
      by_cases hok : result = .ok
      · rw [if_pos hok]
        cases hinfo : D.base.deviceCommandMap[command]? with
        | none => exact h.triggerEvent hidle _ _ _
        | some info =>
            dsimp only
            by_cases hexecuting : info.isExecuting = true
            · rw [if_pos hexecuting]
              exact h
            · rw [if_neg hexecuting]
              exact h.beginInternal hidle hinfo (Bool.eq_false_iff.mpr hexecuting)
      · rw [if_neg hok]
        exact h.triggerEvent hidle _ _ _

/-! ### Writing -/

theorem AllSettled.pending_of_writing (h : AllSettled D)
    (hcookie : D.cookieState = .writeReady ∨ D.cookieState = .writeSent) :
  ∃ command info, D.pending = some (command, info) ∧ D.IsWriting command ∧
    D.base.deviceCommandMap[command]? = some info
  := by
  obtain ⟨command, hmem, hpending⟩ := h.pending hcookie
  obtain ⟨info, hinfo⟩ := Option.isSome_iff_exists.mp (Std.TreeMap.mem_iff_isSome_getElem?.mp hmem)
  refine ⟨command, info, ?_, ⟨hpending, hcookie⟩, hinfo⟩
  rw [DeviceCommunication.pending, hpending, Option.bind_some, hinfo]
  rfl

/-- The replies to a pending command: a step when it goes on, and a failed step or a finish when it
is over. -/
theorem AllSettled.logs_replyToCommand {info info' : DeviceCommandInfo} (h : AllSettled D)
    (hinfo : D.base.deviceCommandMap[command]? = some info) (hexecuting : info.isExecuting = true)
    (status : ReturnValue)
    (hstatus : info'.commander = if status = .ok then info.commander else none)
    (D₁ : DeviceCommunication σ) (hlog : D₁.log = D.log)
    (hD' : D'.log = (D₁.replyToCommand command info status).log) :
  Logs D D' command info'
  := by
  rw [replyToCommand] at hD'
  by_cases hraw : command = rawCommandId
  · rw [if_pos hraw] at hD'
    apply h.logs hinfo [.returnvalue (if status = noReplyExpected then .ok else status) 0,
      .deleteData D₁.storedRawData]
    · rw [hD', ← hlog]
      exact List.append_assoc _ _ _
    · intro event hevent
      obtain rfl | hevent := List.mem_cons.mp hevent
      · trivial
      · rw [List.mem_singleton.mp hevent]
        trivial
    · intro hne
      exact absurd hraw hne
  · rw [if_neg hraw] at hD'
    by_cases hcommander : info.sendReplyTo = MessageQueueIF.noQueue
    · have hnone : info.commander = none := if_neg fun hand => hand.2 hcommander
      rw [if_neg (not_not.mpr hcommander)] at hD'
      apply h.logs hinfo []
      · rw [hD', hlog, List.append_nil]
      · intro event hevent
        cases hevent
      · intro _
        rw [hnone, ite_self] at hstatus
        rw [hnone, hstatus]
        rfl
    · have hsome : info.commander = some info.sendReplyTo := if_pos ⟨hexecuting, hcommander⟩
      rw [if_pos hcommander] at hD'
      by_cases hnoReply : status = noReplyExpected
      · rw [if_pos hnoReply] at hD'
        rw [hnoReply, if_neg (by decide)] at hstatus
        apply h.logs hinfo [.finish true info.sendReplyTo command .ok]
        · rw [hD', ← hlog]
          rfl
        · intro event hevent
          rw [List.mem_singleton.mp hevent]
          exact .inl rfl
        · intro _
          rw [hsome, hstatus, List.foldlM_cons, settle, if_pos (.inl rfl), if_pos rfl]
          rfl
      · rw [if_neg hnoReply] at hD'
        apply h.logs hinfo [.step info.sendReplyTo command status]
        · rw [hD', ← hlog]
          rfl
        · intro event hevent
          rw [List.mem_singleton.mp hevent]
          rfl
        · intro _
          rw [hstatus, hsome, List.foldlM_cons, settle, if_pos rfl, if_pos rfl]
          rfl

theorem replyToCommand_base (D : DeviceCommunication σ) (command : DeviceCommandId)
    (info : DeviceCommandInfo) (status : ReturnValue) :
  (D.replyToCommand command info status).base = D.base
  := by
  rw [replyToCommand]
  split_ifs <;> rfl

theorem replyToCommand_alternativeReplyId (D : DeviceCommunication σ) (command : DeviceCommandId)
    (info : DeviceCommandInfo) (status : ReturnValue) :
  (D.replyToCommand command info status).alternativeReplyId = D.alternativeReplyId
  := by
  rw [replyToCommand]
  split_ifs <;> rfl

theorem replyToCommand_cookieState (D : DeviceCommunication σ) (command : DeviceCommandId)
    (info : DeviceCommandInfo) (status : ReturnValue) :
  (D.replyToCommand command info status).cookieState = D.cookieState
  := by
  rw [replyToCommand]
  split_ifs <;> rfl

theorem idle_of_unused (h : D.cookieState = .unused) :
  D.Idle
  := by
  rw [Idle, h]
  decide

theorem AllSettled.doSendWrite (h : AllSettled D) (result : ReturnValue) :
  ∃ D', D.doSendWrite result = some D' ∧ AllSettled D'
  := by
  rw [DeviceCommunication.doSendWrite]
  by_cases hready : D.cookieState = .writeReady
  · rw [if_pos hready]
    by_cases hok : result = .ok
    · rw [if_pos hok]
      refine ⟨_, rfl, h.same ?_ ?_ ?_⟩
      · exact ⟨rfl, rfl, fun _ => rfl, [], (List.append_nil _).symm, foreign_nil⟩
      · intro command
        apply and_congr_right
        intro _
        exact iff_of_true (.inr rfl) (.inl hready)
      · intro _
        exact h.pending (.inl hready)
    · rw [if_neg hok]
      obtain ⟨command, info, hpending, hwriting, hinfo⟩ := h.pending_of_writing (.inl hready)
      have hsettled := (h.settled command info hinfo).writing hwriting
      rw [hpending]
      refine ⟨_, rfl, ?_⟩
      apply h.notWritten { info with isExecuting := false } hwriting (mem_of_getElem? hinfo)
        hsettled.2
      · exact replyToCommand_alternativeReplyId _ _ _ _
      · simp only [setCommand, replyToCommand_base]
        rfl
      · simp only [setCommand, replyToCommand_base]
        rfl
      · exact idle_of_unused rfl
      · rfl
      · apply h.logs_replyToCommand hinfo hsettled.1 result _
          (D.triggerEvent deviceSendingCommandFailed result.toUInt16.toUInt32 command)
        · rfl
        · rfl
        · rw [if_neg hok, commander_of_not_executing rfl]
  · rw [if_neg hready]
    exact ⟨D, rfl, h⟩

/-- A command that could not be written, or expects no reply, is over. -/
theorem AllSettled.overAfterWriting {info : DeviceCommandInfo} (h : AllSettled D)
    (hwriting : D.IsWriting command) (hinfo : D.base.deviceCommandMap[command]? = some info)
    {status : ReturnValue} (hstatus : status ≠ .ok) {D₁ : DeviceCommunication σ}
    (halternative : D₁.alternativeReplyId = D.alternativeReplyId)
    (hcommands : D₁.base.deviceCommandMap = D.base.deviceCommandMap)
    (hreplies : D₁.base.deviceReplyMap = D.base.deviceReplyMap) (hlog : D₁.log = D.log)
    (hcookie : D₁.cookieState = .unused) :
  AllSettled
    ((D₁.setCommand command { info with isExecuting := false }).replyToCommand command info status)
  := by
  have hsettled := (h.settled command info hinfo).writing hwriting
  apply h.notWritten { info with isExecuting := false } hwriting (mem_of_getElem? hinfo)
    hsettled.2
  · rw [replyToCommand_alternativeReplyId]
    exact halternative
  · rw [replyToCommand_base, ← hcommands]
    rfl
  · rw [replyToCommand_base]
    exact hreplies
  · apply idle_of_unused
    rw [replyToCommand_cookieState]
    exact hcookie
  · rfl
  · apply h.logs_replyToCommand hinfo hsettled.1 status _
      (D₁.setCommand command { info with isExecuting := false })
    · exact hlog
    · rfl
    · rw [if_neg hstatus, commander_of_not_executing rfl]

theorem enableReplyInReplyMap_of_none {info : DeviceCommandInfo} {expectedReplies : UInt8}
    (h : D.base.deviceReplyMap[D.replyId command]? = none) :
  D.enableReplyInReplyMap command info expectedReplies = (noReplyExpected, D)
  := by
  rw [enableReplyInReplyMap, h]

theorem enableReplyInReplyMap_of_some {info : DeviceCommandInfo} {expectedReplies : UInt8}
    {reply : DeviceReplyInfo} (h : D.base.deviceReplyMap[D.replyId command]? = some reply) :
  D.enableReplyInReplyMap command info expectedReplies =
    (.ok,
      (D.setCommand command { info with expectedReplies := expectedReplies }).setReply
        (D.replyId command) (reply.enable command D.base.currentTime))
  := by
  rw [enableReplyInReplyMap, h]

theorem AllSettled.doGetWrite (h : AllSettled D) (sendSuccess : ReturnValue) :
  ∃ D', D.doGetWrite sendSuccess = some D' ∧ AllSettled D'
  := by
  rw [DeviceCommunication.doGetWrite]
  by_cases hsent : D.cookieState = .writeSent
  · rw [if_neg (not_not.mpr hsent)]
    obtain ⟨command, info, hpending, hwriting, hinfo⟩ := h.pending_of_writing (.inr hsent)
    have hsettled := (h.settled command info hinfo).writing hwriting
    rw [hpending]
    refine ⟨_, rfl, ?_⟩
    dsimp only
    by_cases hok : sendSuccess = .ok
    · rw [if_pos hok]
      cases hreply : D.base.deviceReplyMap[D.replyId command]? with
      | none =>
          have hnone : enableReplyInReplyMap { D with cookieState := .unused } command info 1
              = (noReplyExpected, { D with cookieState := .unused }) :=
            enableReplyInReplyMap_of_none hreply
          have hstatus : noReplyExpected ≠ .ok := by decide
          rw [hnone]
          dsimp only
          rw [if_pos hstatus]
          apply h.overAfterWriting hwriting hinfo hstatus <;> rfl
      | some reply =>
          have hsome : enableReplyInReplyMap { D with cookieState := .unused } command info 1
              = (.ok, _) :=
            enableReplyInReplyMap_of_some hreply
          have honce := h.once _ _ hreply
          rw [hsome, if_neg (not_not.mpr rfl)]
          apply h.expect { info with expectedReplies := 1 }
            (reply.enable command D.base.currentTime) hwriting (mem_of_getElem? hinfo)
          · rw [replyToCommand_alternativeReplyId]
            rfl
          · rw [replyToCommand_base]
            rfl
          · rw [replyToCommand_base]
            rfl
          · rw [hreply]
            rfl
          · exact honce.enable command _
          · exact honce.isPending_enable command _
          · rfl
          · apply idle_of_unused
            rw [replyToCommand_cookieState]
            rfl
          · exact hsettled.1
          · rfl
          · refine h.logs_replyToCommand hinfo hsettled.1 .ok ?_ _ ?_ rfl
            · rw [if_pos rfl]
              rfl
            · rfl
    · rw [if_neg hok]
      dsimp only
      rw [if_pos hok]
      apply h.overAfterWriting hwriting hinfo hok <;> rfl
  · rw [if_pos hsent]
    exact ⟨D, rfl, h⟩

end DeviceCommunication
