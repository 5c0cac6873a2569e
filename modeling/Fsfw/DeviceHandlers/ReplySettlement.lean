import Fsfw.DeviceHandlers.CommandSettlement
import Fsfw.DeviceHandlers.ReplyScanning

/-!
# Settlement of device commands by replies

A reply that has come, or has timed out, ends the command that it is expected for.  The child class
may send and change what it likes while it scans and interprets replies, but for the commands and
replies of the base class.

All commands are settled in every run in which a command that is ready to be written is written
before the next cycle begins, when no two commands share a reply, replies are not periodic, and a
reply without a countdown is waited for (`settled_of_run`).  The pending command is never at the end
of the command map.
-/

open DeviceHandlerIF

namespace DeviceCommunication

open DeviceActionEvent

variable {σ : Type*} {C : DeviceHandlerChild σ} {D D' : DeviceCommunication σ}
  {command : DeviceCommandId}

/-! ### Replies -/

theorem AllSettled.sameCookie (h : AllSettled D) (hsame : Same D D')
    (hcookie : D'.cookieState = D.cookieState) (hpending : D'.pendingCommand = D.pendingCommand) :
  AllSettled D'
  := by
  apply h.same hsame
  · intro command
    rw [IsWriting, IsWriting, hcookie, hpending]
  · rw [hcookie, hpending]
    exact h.pending

/-- The command that a reply is expected for. -/
theorem AllSettled.command_of_expected (h : AllSettled D) {id : DeviceCommandId}
    {reply : DeviceReplyInfo} (hreply : D.base.deviceReplyMap[id]? = some reply)
    (hisPending : reply.isPending = true) :
  ∃ command info, D.replyId command = id ∧ reply.command = some command ∧
    D.base.deviceCommandMap[command]? = some info ∧ info.isExecuting = true ∧
    info.expectedReplies = 1 ∧ ¬ D.IsWriting command
  := by
  obtain ⟨command, hmem, hreplyId, hcommand⟩ := h.expected id reply hreply hisPending
  obtain ⟨info, hinfo⟩ := Option.isSome_iff_exists.mp (Std.TreeMap.mem_iff_isSome_getElem?.mp hmem)
  have hsettled := h.settled command info hinfo
  have hawaits : D.Awaits command := ⟨reply, hreplyId ▸ hreply, hisPending⟩
  obtain ⟨hexecuting, hexpected⟩ := hsettled.awaiting hawaits
  refine ⟨command, info, hreplyId, hcommand, hinfo, hexecuting, hexpected, fun hwriting => ?_⟩
  exact (hsettled.writing hwriting).2 hawaits

theorem replyToReply_of_expected {B : DeviceHandlerBase σ} {reply : DeviceReplyInfo}
    {info : DeviceCommandInfo} (hcommand : reply.command = some command)
    (hinfo : B.deviceCommandMap[command]? = some info) (hexpected : info.expectedReplies = 1)
    (id : DeviceCommandId) (status : ReturnValue) :
  B.replyToReply id reply status =
    { B with
      deviceCommandMap := B.deviceCommandMap.insert command
        { info with expectedReplies := 0, isExecuting := false }
      sent := B.sent ++
        if info.sendReplyTo ≠ MessageQueueIF.noQueue then
          [.finish (status = .ok) info.sendReplyTo id status]
        else
          [] }
  := by
  rw [DeviceHandlerBase.replyToReply, hcommand]
  dsimp only
  rw [hinfo]
  dsimp only
  rw [hexpected]
  rfl

theorem finishes_append (sent new : List DeviceHandlerOutput) :
  finishes (sent ++ new) = finishes sent ++ finishes new
  := List.filterMap_append

/-- What the base class has sent since is among the events. -/
theorem log_withBase {B : DeviceHandlerBase σ} {new : List DeviceHandlerOutput}
    (hsent : B.sent = D.base.sent ++ new) :
  (D.withBase B).log = D.log ++ finishes new
  := by
  rw [withBase, hsent, List.drop_left]

/-- The command of a reply that has come, or has timed out, is over. -/
theorem AllSettled.replied (h : AllSettled D) {id : DeviceCommandId}
    {reply reply' : DeviceReplyInfo}
    (hreply : D.base.deviceReplyMap[id]? = some reply) (hisPending : reply.isPending = true)
    (honce : reply'.Once) (hcommand' : reply'.command = reply.command)
    (hisPending' : reply'.isPending = false) {B : DeviceHandlerBase σ}
    (hcommands : B.deviceCommandMap = D.base.deviceCommandMap)
    (hreplies : B.deviceReplyMap = D.base.deviceReplyMap.insert id reply')
    {new : List DeviceHandlerOutput} (hsent : B.sent = D.base.sent ++ new)
    (hnew : finishes new = []) (status : ReturnValue) :
  AllSettled (D.withBase (B.replyToReply id reply' status))
  := by
  obtain ⟨command, info, rfl, hcommand, hinfo, hexecuting, hexpected, hnot⟩ :=
    h.command_of_expected hreply hisPending
  rw [replyToReply_of_expected (hcommand'.trans hcommand) (hcommands ▸ hinfo) hexpected]
  apply h.afterReply { info with expectedReplies := 0, isExecuting := false } reply'
    (mem_of_getElem? hinfo) hnot
  · rfl
  · intro other
    rw [← hcommands]
    exact getElem?_insert_eq _ _ _ _
  · exact hreplies
  · rw [hreply]
    rfl
  · exact honce
  · exact hcommand'.trans hcommand
  · rfl
  · rfl
  · exact hisPending'.symm
  · intro hD
    rw [hisPending'] at hD
    cases hD
  · have hlog (tail : List DeviceHandlerOutput) (B' : DeviceHandlerBase σ)
        (hB' : B'.sent = B.sent ++ tail) : (D.withBase B').log = D.log ++ finishes tail := by
      rw [hsent, List.append_assoc] at hB'
      rw [log_withBase hB', finishes_append, hnew, List.nil_append]
    by_cases hcommander : info.sendReplyTo = MessageQueueIF.noQueue
    · have hnone : info.commander = none := if_neg fun hand => hand.2 hcommander
      apply h.logs hinfo []
      · rw [hlog [] _ (by rw [if_neg (not_not.mpr hcommander)])]
        rfl
      · intro event hevent
        cases hevent
      · intro _
        rw [hnone, commander_of_not_executing rfl]
        rfl
    · have hsome : info.commander = some info.sendReplyTo := if_pos ⟨hexecuting, hcommander⟩
      apply h.logs hinfo [.finish (status = .ok) info.sendReplyTo (D.replyId command) status]
      · rw [hlog [.finish (status = .ok) info.sendReplyTo (D.replyId command) status] _
          (by rw [if_pos hcommander])]
        rfl
      · intro event hevent
        rw [List.mem_singleton.mp hevent]
        exact .inr rfl
      · intro _
        rw [hsome, commander_of_not_executing rfl, List.foldlM_cons, settle, if_pos (.inr rfl),
          if_pos rfl]
        rfl

/-- A reply that stays as it is. -/
theorem same_setReply {id : DeviceCommandId} {reply : DeviceReplyInfo}
    (hreply : D.base.deviceReplyMap[id]? = some reply) :
  Same D (D.setReply id reply)
  := by
  refine ⟨rfl, rfl, fun other => ?_, [], (List.append_nil _).symm, foreign_nil⟩
  rw [setReply, getElem?_insert_eq]
  split_ifs with heq
  · rw [heq, hreply]
  · rfl

theorem AllSettled.missedReply (h : AllSettled D) (id : DeviceCommandId) :
  AllSettled (D.missedReply id)
  := by
  have hnil : ∃ new, D.log = D.log ++ new ∧ ∀ command reply, Foreign command reply new :=
    ⟨[], (List.append_nil _).symm, foreign_nil⟩
  rw [DeviceCommunication.missedReply]
  split_ifs
  · exact h.sameCookie ⟨rfl, rfl, fun _ => rfl, hnil⟩ rfl rfl
  · exact h.sameCookie ⟨rfl, rfl, fun _ => rfl, hnil⟩ rfl rfl

theorem AllSettled.decrementReply (h : AllSettled D) (id : DeviceCommandId) :
  AllSettled (D.decrementReply id)
  := by
  rw [DeviceCommunication.decrementReply]
  cases hreply : D.base.deviceReplyMap[id]? with
  | none => exact h
  | some reply =>
      dsimp only
      have honce := h.once id reply hreply
      cases hisPending : reply.isPending with
      | false =>
          rw [DeviceReplyInfo.decrement_of_not_pending hisPending]
          exact h.sameCookie (same_setReply hreply) rfl rfl
      | true =>
          obtain ⟨honce', hcommand', hisPending'⟩ :=
            DeviceReplyInfo.decrement_of_pending honce hisPending D.base.currentTime
          cases htimedOut : (reply.decrement D.base.currentTime).2 with
          | true =>
              rw [htimedOut] at hisPending'
              rw [if_pos rfl]
              apply AllSettled.missedReply
              change AllSettled (D.withBase ((D.setReply id _).base.replyToReply id _ timeout))
              apply h.replied hreply hisPending honce' hcommand' hisPending'
              · rfl
              · rfl
              · exact (List.append_nil _).symm
              · rfl
          | false =>
              rw [htimedOut] at hisPending'
              rw [if_neg Bool.false_ne_true]
              obtain ⟨command, info, rfl, hcommand, hinfo, hexecuting, hexpected, hnot⟩ :=
                h.command_of_expected hreply hisPending
              apply h.afterReply info (reply.decrement D.base.currentTime).1
                (mem_of_getElem? hinfo) hnot
              · rfl
              · intro other
                split_ifs with heq
                · rw [heq]
                  exact hinfo
                · rfl
              · rfl
              · rw [hreply]
                rfl
              · exact honce'
              · exact hcommand'.trans hcommand
              · rfl
              · rfl
              · exact hexecuting.trans hisPending'.symm
              · intro _
                exact hexpected
              · apply h.logs hinfo []
                · exact (List.append_nil _).symm
                · intro event hevent
                  cases hevent
                · intro _
                  rfl

theorem AllSettled.decrementDeviceReplyMap (h : AllSettled D) :
  AllSettled D.decrementDeviceReplyMap
  := by
  have hfold (ids : List DeviceCommandId) {D : DeviceCommunication σ} (h : AllSettled D) :
      AllSettled (ids.foldl DeviceCommunication.decrementReply D) := by
    induction ids generalizing D with
    | nil => exact h
    | cons id ids ih => exact ih (h.decrementReply id)
  exact hfold _ h

/-- The child class only scans and interprets replies: it leaves the commands, the replies and the
time as they are, and finishes nothing. -/
structure LeavesReplies (B B' : DeviceHandlerBase σ) : Prop where
  commands : B'.deviceCommandMap = B.deviceCommandMap
  replies : B'.deviceReplyMap = B.deviceReplyMap
  sent : ∃ new, B'.sent = B.sent ++ new ∧ finishes new = []

structure OnlyInterprets (C : DeviceHandlerChild σ) : Prop where
  scanForReply : ∀ start foundId foundLen B,
    LeavesReplies B (C.scanForReply start foundId foundLen B).2.2.2
  interpretDeviceReply : ∀ id packet B, LeavesReplies B (C.interpretDeviceReply id packet B).2

/-- All commands are settled when the base class has gone on. -/
structure GoesOn (D : DeviceCommunication σ) (B : DeviceHandlerBase σ) : Prop where
  sent : D.base.sent <+: B.sent
  settled : AllSettled (D.withBase B)

theorem GoesOn.refl (h : AllSettled D) :
  GoesOn D D.base
  := by
  refine ⟨List.prefix_rfl, h.sameCookie ⟨rfl, rfl, fun _ => rfl, [], ?_, foreign_nil⟩ rfl rfl⟩
  rw [log_withBase (List.append_nil _).symm]
  rfl

/-- The base class goes on from where it is. -/
theorem GoesOn.withBase {B B' : DeviceHandlerBase σ} (h : GoesOn D B)
    (h' : GoesOn (D.withBase B) B') :
  GoesOn D B'
  := by
  obtain ⟨new, hnew⟩ := h.sent
  obtain ⟨new', hnew'⟩ := h'.sent
  have hsent : B'.sent = D.base.sent ++ (new ++ new') := by
    rw [← List.append_assoc, hnew]
    exact hnew'.symm
  refine ⟨⟨new ++ new', hsent.symm⟩, ?_⟩
  have heq : (D.withBase B).withBase B' = D.withBase B' := by
    have hlog : ((D.withBase B).withBase B').log = (D.withBase B').log := by
      rw [log_withBase hsent, log_withBase (D := D.withBase B) hnew'.symm, log_withBase hnew.symm,
        finishes_append, List.append_assoc]
    exact congrArg (fun log => { D with base := B', log := log }) hlog
  rw [← heq]
  exact h'.settled

/-- Nothing that the base class does to commands and replies. -/
theorem GoesOn.leaves {B B' : DeviceHandlerBase σ} (h : GoesOn D B) (hleaves : LeavesReplies B B') :
  GoesOn D B'
  := by
  apply h.withBase
  obtain ⟨new, hsent, hnew⟩ := hleaves.sent
  refine ⟨⟨new, hsent.symm⟩, h.settled.sameCookie ⟨rfl, hleaves.commands, fun reply => ?_, [], ?_,
    foreign_nil⟩ rfl rfl⟩
  · change B'.deviceReplyMap[reply]? = B.deviceReplyMap[reply]?
    rw [hleaves.replies]
  · rw [log_withBase hsent, hnew]

theorem LeavesReplies.refl (B : DeviceHandlerBase σ) :
  LeavesReplies B B
  := ⟨rfl, rfl, [], (List.append_nil _).symm, rfl⟩

theorem LeavesReplies.trans {B B' B'' : DeviceHandlerBase σ} (h : LeavesReplies B B')
    (h' : LeavesReplies B' B'') :
  LeavesReplies B B''
  := by
  obtain ⟨new, hsent, hnew⟩ := h.sent
  obtain ⟨new', hsent', hnew'⟩ := h'.sent
  refine ⟨h'.commands.trans h.commands, h'.replies.trans h.replies, new ++ new', ?_, ?_⟩
  · rw [hsent', hsent, List.append_assoc]
  · rw [finishes_append, hnew, hnew', List.nil_append]

theorem leavesReplies_triggerEvent (B : DeviceHandlerBase σ) (event : Event)
    (parameter1 parameter2 : UInt32) :
  LeavesReplies B (B.triggerEvent event parameter1 parameter2)
  := ⟨rfl, rfl, _, rfl, rfl⟩

theorem leavesReplies_replyRaw (B : DeviceHandlerBase σ) (position len : ℕ) :
  LeavesReplies B (B.replyRawReplyIfnotWiretapped position len)
  := by
  rw [DeviceHandlerBase.replyRawReplyIfnotWiretapped]
  split_ifs
  · exact .refl B
  · exact ⟨rfl, rfl, _, rfl, rfl⟩

/-- What is done about bytes that are no reply, or could not be interpreted. -/
theorem leavesReplies_failed (B : DeviceHandlerBase σ) (position len : ℕ) (event : Event)
    (parameter1 parameter2 : UInt32) :
  LeavesReplies B
    ((B.replyRawReplyIfnotWiretapped position len).triggerEvent event parameter1 parameter2)
  := (leavesReplies_replyRaw B position len).trans (leavesReplies_triggerEvent _ _ _ _)

theorem prefix_replyToReply (B : DeviceHandlerBase σ) (id : DeviceCommandId)
    (reply : DeviceReplyInfo) (status : ReturnValue) :
  B.sent <+: (B.replyToReply id reply status).sent
  := by
  rw [DeviceHandlerBase.replyToReply]
  split
  · exact List.prefix_rfl
  · split
    · exact List.prefix_rfl
    · dsimp only
      split_ifs <;> first | exact List.prefix_append _ _ | exact List.prefix_rfl

/-- A reply that was interpreted. -/
theorem AllSettled.interpreted (h : AllSettled D) {id : DeviceCommandId} {reply : DeviceReplyInfo}
    (hreply : D.base.deviceReplyMap[id]? = some reply) (hisPending : reply.isPending = true)
    {B : DeviceHandlerBase σ} (hleaves : LeavesReplies D.base B) {B' : DeviceHandlerBase σ}
    (hleaves' : LeavesReplies
      { B with
        deviceReplyMap := B.deviceReplyMap.insert id (reply.reset B.currentTime) } B')
    (status : ReturnValue) :
  GoesOn D (B'.replyToReply id (reply.reset B.currentTime) status)
  := by
  obtain ⟨new, hsent, hnew⟩ := hleaves.sent
  obtain ⟨new', hsent', hnew'⟩ := hleaves'.sent
  have hB' : B'.sent = D.base.sent ++ (new ++ new') := by
    rw [hsent']
    change B.sent ++ new' = _
    rw [hsent, List.append_assoc]
  obtain ⟨honce, hcommand, hisPending'⟩ :=
    DeviceReplyInfo.reset_of_pending (h.once id reply hreply) hisPending B.currentTime
  constructor
  · exact List.IsPrefix.trans ⟨_, hB'.symm⟩ (prefix_replyToReply _ _ _ _)
  · apply h.replied hreply hisPending honce hcommand hisPending'
    · exact hleaves'.commands.trans hleaves.commands
    · rw [hleaves'.replies]
      change B.deviceReplyMap.insert id _ = _
      rw [hleaves.replies]
    · exact hB'
    · rw [finishes_append, hnew, hnew', List.nil_append]

theorem AllSettled.handleReply (hC : OnlyInterprets C) (h : AllSettled D)
    (receivedData : List UInt8) (position : ℕ) (foundId : DeviceCommandId) (foundLen : UInt32) :
  GoesOn D (D.base.handleReply C receivedData position foundId foundLen)
  := by
  have hgoes := GoesOn.refl h
  rw [DeviceHandlerBase.handleReply]
  cases hreply : D.base.deviceReplyMap[foundId]? with
  | none => exact hgoes.leaves (leavesReplies_failed _ _ _ _ _ _)
  | some reply =>
      dsimp only
      by_cases hisPending : reply.isPending = true
      · rw [if_pos hisPending]
        have hleaves := hC.interpretDeviceReply foundId (receivedData.drop position) D.base
        split
        · exact hgoes.leaves hleaves
        · rw [hleaves.replies, hreply, Option.getD_some, ← hleaves.replies]
          apply h.interpreted hreply hisPending hleaves
          split_ifs
          · exact leavesReplies_failed _ _ _ _ _ _
          · exact .refl _
      · rw [if_neg hisPending]
        split_ifs
        · exact hgoes.leaves (leavesReplies_triggerEvent _ _ _ _)
        · exact hgoes

/-- A reply that is handled when the base class has gone on. -/
theorem GoesOn.handleReply (hC : OnlyInterprets C) {B : DeviceHandlerBase σ} (h : GoesOn D B)
    (receivedData : List UInt8) (position : ℕ) (foundId : DeviceCommandId) (foundLen : UInt32) :
  GoesOn D (B.handleReply C receivedData position foundId foundLen)
  := h.withBase (h.settled.handleReply hC receivedData position foundId foundLen)

open DeviceHandlerBase in
theorem GoesOn.parseRound (hC : OnlyInterprets C) (receivedData : List UInt8) {S : ParseState σ}
    (h : GoesOn D S.base) :
  GoesOn D ((S.parseRound C receivedData).2.elim ParseState.base id)
  := by
  have hscan : LeavesReplies S.base (S.scan C receivedData).2.2.2 := hC.scanForReply _ _ _ _
  have hscanned := h.leaves hscan
  rw [ParseState.parseRound]
  generalize S.scan C receivedData = scanned at hscanned
  obtain ⟨result, foundId, foundLen, B⟩ := scanned
  dsimp only at hscanned ⊢
  by_cases hignore : result = ignoreReplyData
  · rw [if_pos hignore]
    exact hscanned
  rw [if_neg hignore]
  by_cases hfull : result = ignoreFullPacket
  · rw [if_pos hfull]
    exact hscanned
  rw [if_neg hfull]
  have hround : GoesOn D
      (if result = .ok then
        B.handleReply C receivedData S.position foundId (.ofNat foundLen)
      else if result = aperiodicReply then
        let interpreted := C.interpretDeviceReply foundId (receivedData.drop S.position) B
        if interpreted.1 ≠ .ok then
          (interpreted.2.replyRawReplyIfnotWiretapped S.position foundLen).triggerEvent
            DeviceHandlerIF.deviceInterpretingReplyFailed
              interpreted.1.toUInt16.toUInt32 foundId
        else
          interpreted.2
      else
        (B.replyRawReplyIfnotWiretapped S.position foundLen).triggerEvent
          DeviceHandlerIF.deviceReadingReplyFailed result.toUInt16.toUInt32 (.ofNat foundLen)) := by
    split_ifs
    · exact hscanned.handleReply hC _ _ _ _
    · have hinterpreted := hscanned.leaves
        (hC.interpretDeviceReply foundId (receivedData.drop S.position) B)
      dsimp only
      split
      · exact hinterpreted.leaves (leavesReplies_failed _ _ _ _ _ _)
      · exact hinterpreted
    · exact hscanned.leaves (leavesReplies_failed _ _ _ _ _ _)
  split
  · exact hround
  · exact hround

open DeviceHandlerBase in
theorem GoesOn.parseLoop (hC : OnlyInterprets C) {receivedData : List UInt8} {fuel : ℕ}
    {S : ParseState σ} (h : GoesOn D S.base) {r : List ParseRound × DeviceHandlerBase σ}
    (hloop : parseLoop C receivedData fuel S = some r) :
  GoesOn D r.2
  := by
  induction fuel generalizing S r with
  | zero => cases hloop
  | succ fuel ih =>
      have hround := h.parseRound hC receivedData
      by_cases hcount : S.count.toNat < receivedData.length
      · obtain ⟨B, hB⟩ | ⟨T, hT⟩ := returns_or_goes C hcount
        · rw [parseLoop_of_returns fuel hcount hB] at hloop
          rw [hB] at hround
          cases hloop
          exact hround
        · rw [parseLoop_of_goes fuel hT] at hloop
          obtain ⟨later, hlater, rfl⟩ := Option.map_eq_some_iff.mp hloop
          rw [hT.2] at hround
          have hrest := ih hround hlater
          exact hrest
      · rw [parseLoop_of_done fuel hcount] at hloop
        cases hloop
        exact h

theorem GoesOn.parseReply (hC : OnlyInterprets C) {B : DeviceHandlerBase σ} (h : GoesOn D B)
    {receivedData : List UInt8} (hlen : receivedData.length < 2 ^ 32) :
  ∃ r, B.parseReply C (receivedData.length + 1) receivedData = some r ∧ GoesOn D r.2
  := by
  obtain ⟨r, hloop, -⟩ := DeviceHandlerBase.parseLoop_scans (C := C)
    (DeviceHandlerBase.remains_parseStart B hlen) (Nat.zero_add _)
  exact ⟨r, hloop, GoesOn.parseLoop hC (S := B.parseStart receivedData) h hloop⟩

/-! ### Reading -/

theorem AllSettled.setTime (h : AllSettled D) (currentTime : UInt32) :
  AllSettled (D.setTime currentTime)
  := h.sameCookie ⟨rfl, rfl, fun _ => rfl, [], (List.append_nil _).symm, foreign_nil⟩ rfl rfl

theorem AllSettled.withMode (h : AllSettled D) (mode : Mode) :
  AllSettled (D.withMode mode)
  := h.sameCookie ⟨rfl, rfl, fun _ => rfl, [], (List.append_nil _).symm, foreign_nil⟩ rfl rfl

/-- The cookie of a handler that writes nothing may change, and so may the missed replies that are
ignored. -/
theorem AllSettled.setCookie (h : AllSettled D) (hidle : D.Idle) {cookieState : CookieState}
    (hcookie : cookieState ≠ .writeReady ∧ cookieState ≠ .writeSent)
    (ignoreMissedRepliesCount : UInt32) :
  AllSettled
    { D with
      cookieState := cookieState
      ignoreMissedRepliesCount := ignoreMissedRepliesCount }
  := h.sameIdle ⟨rfl, rfl, fun _ => rfl, [], (List.append_nil _).symm, foreign_nil⟩ hidle hcookie

theorem AllSettled.doSendRead (h : AllSettled D) (hidle : D.Idle) (hook result : ReturnValue) :
  AllSettled (D.doSendRead hook result)
  := by
  rw [DeviceCommunication.doSendRead]
  split_ifs
  · exact h
  · exact h.setCookie hidle (by decide) _
  · exact (h.triggerEvent hidle _ _ _).setCookie hidle (by decide) _

theorem AllSettled.doGetRead (hC : OnlyInterprets C) (h : AllSettled D) (hidle : D.Idle)
    (result : ReturnValue) {receivedData : List UInt8} (hlen : receivedData.length < 2 ^ 32) :
  ∃ D', D.doGetRead C result receivedData = some D' ∧ AllSettled D'
  := by
  have hunused : AllSettled { D with cookieState := .unused } :=
    h.setCookie hidle (by decide) D.ignoreMissedRepliesCount
  have hidle' : Idle { D with cookieState := .unused } := idle_of_unused rfl
  rw [DeviceCommunication.doGetRead]
  by_cases hcookie : D.cookieState = .readSent
  · rw [if_neg (not_not.mpr hcookie)]
    dsimp only
    by_cases hok : result = .ok
    · rw [if_neg (not_not.mpr hok)]
      by_cases hnil : receivedData = []
      · rw [if_pos hnil]
        exact ⟨_, rfl, hunused⟩
      · rw [if_neg hnil]
        have hwiretapped : GoesOn { D with cookieState := .unused }
            (if D.base.wiretappingMode = .raw ∧
              D.base.requestedRawTraffic ≠ MessageQueueIF.noQueue then
              { D.base with
                sent := D.base.sent ++
                  [.rawReply 0 receivedData.length D.base.requestedRawTraffic] }
            else
              D.base) := by
          apply (GoesOn.refl hunused).leaves
          split_ifs
          · exact ⟨rfl, rfl, _, rfl, rfl⟩
          · exact .refl _
        generalize (if D.base.wiretappingMode = .raw ∧
          D.base.requestedRawTraffic ≠ MessageQueueIF.noQueue then _ else _ : DeviceHandlerBase σ)
          = B at hwiretapped ⊢
        split_ifs
        · exact ⟨_, rfl, (hwiretapped.leaves (leavesReplies_replyRaw B 0 _)).settled⟩
        · exact ⟨_, rfl, hwiretapped.settled⟩
        · obtain ⟨r, hparse, hgoes⟩ := hwiretapped.parseReply hC hlen
          rw [hparse]
          exact ⟨_, rfl, hgoes.settled⟩
    · rw [if_pos hok]
      refine ⟨_, rfl, (hunused.triggerEvent hidle' _ _ _).setCookie hidle' ?_ _⟩
      exact idle_of_unused rfl
  · rw [if_pos hcookie]
    exact ⟨_, rfl, hunused⟩

/-! ### Runs -/

/-- What is ready to be written, or has been written, is looked after before a new cycle begins and
before anything is read. There are fewer than `2 ^ 32` bytes to be read. -/
def InOrder (D : DeviceCommunication σ) : DeviceCommunicationInput → Prop
  | .performOperation _ _ _ => D.Idle
  | .sendRead _ _ => D.base.mode ≠ HasModesIF.modeOff → D.Idle
  | .getRead _ receivedData _ =>
      D.base.mode ≠ HasModesIF.modeOff → D.Idle ∧ receivedData.length < 2 ^ 32
  | _ => True

theorem AllSettled.performOperation (h : AllSettled D) (hidle : D.Idle) (message : DeviceMessage)
    (mode : Mode) (currentTime : UInt32) :
  ∃ D', D.performOperation message mode currentTime = some D' ∧ AllSettled D'
  := by
  have hunused : AllSettled { D.setTime currentTime with cookieState := .unused } :=
    (h.setTime currentTime).setCookie hidle (by decide) D.ignoreMissedRepliesCount
  obtain ⟨D', hD', hread⟩ := hunused.readCommandQueue (idle_of_unused rfl) message
  refine ⟨(D'.withMode mode).decrementDeviceReplyMap, ?_, ?_⟩
  · rw [DeviceCommunication.performOperation]
    dsimp only
    rw [hD']
    rfl
  · exact (hread.withMode mode).decrementDeviceReplyMap

theorem AllSettled.sendWrite (h : AllSettled D) (built : ReturnValue)
    (deviceCommandId : DeviceCommandId) (result : ReturnValue) :
  ∃ D', D.sendWrite built deviceCommandId result = some D' ∧ AllSettled D'
  := by
  rw [DeviceCommunication.sendWrite]
  split_ifs with hunused
  · exact (h.buildInternalCommand (idle_of_unused hunused) built deviceCommandId).doSendWrite result
  · exact h.doSendWrite result

theorem AllSettled.unlessOff (h : AllSettled D)
    {slot : DeviceCommunication σ → Option (DeviceCommunication σ)}
    (hslot : D.base.mode ≠ HasModesIF.modeOff → ∃ D', slot D = some D' ∧ AllSettled D') :
  ∃ D', D.unlessOff slot = some D' ∧ AllSettled D'
  := by
  rw [DeviceCommunication.unlessOff]
  split_ifs with hoff
  · exact ⟨D, rfl, h⟩
  · exact hslot hoff

theorem AllSettled.next (hC : OnlyInterprets C) (h : AllSettled D)
    {input : DeviceCommunicationInput} (horder : D.InOrder input) :
  ∃ D', D.next C input = some D' ∧ AllSettled D'
  := by
  cases input with
  | performOperation message mode currentTime => exact h.performOperation horder _ _ _
  | sendWrite built deviceCommandId result =>
      apply h.unlessOff
      intro _
      exact h.sendWrite built deviceCommandId result
  | getWrite sendSuccess currentTime =>
      apply h.unlessOff
      intro _
      exact (h.setTime currentTime).doGetWrite sendSuccess
  | sendRead hook result =>
      apply h.unlessOff
      intro hon
      exact ⟨_, rfl, h.doSendRead (horder hon) hook result⟩
  | getRead result receivedData currentTime =>
      apply h.unlessOff
      intro hon
      exact (h.setTime currentTime).doGetRead hC (horder hon).1 result (horder hon).2

/-- A handler that has not done anything yet. -/
structure IsNew (D : DeviceCommunication σ) : Prop where
  log : D.log = []
  cookieState : D.cookieState = .unused
  commands : ∀ (command : DeviceCommandId) (info : DeviceCommandInfo),
    D.base.deviceCommandMap[command]? = some info → info.isExecuting = false
  replies : ∀ (reply : DeviceCommandId) (info : DeviceReplyInfo),
    D.base.deviceReplyMap[reply]? = some info → info.isPending = false

theorem IsNew.allSettled (hnew : IsNew D) (hproper : Proper D) :
  AllSettled D
  := by
  have hidle := idle_of_unused hnew.cookieState
  refine ⟨hproper, fun command info hinfo => ⟨?_, ?_, ?_, ?_⟩, ?_, ?_⟩
  · intro hwriting
    exact absurd hwriting (hidle.not_isWriting command)
  · rintro ⟨reply, hreply, hisPending⟩
    rw [hnew.replies _ reply hreply] at hisPending
    cases hisPending
  · intro hexecuting
    rw [hnew.commands command info hinfo] at hexecuting
    cases hexecuting
  · intro _
    rw [hnew.log, commander_of_not_executing (hnew.commands command info hinfo)]
    rfl
  · rintro (hready | hsent)
    · exact absurd hready hidle.1
    · exact absurd hsent hidle.2
  · intro reply info hinfo hisPending
    rw [hnew.replies reply info hinfo] at hisPending
    cases hisPending

/-- In every run in which commands that are ready are looked after in order, every slot is defined.
For every command but the raw one, the actions that were accepted are over one after another, each
once, and the commander of the last one waits exactly if it is executing. A command that is
executing is being written, or its reply is expected. -/
theorem settled_of_run (hC : OnlyInterprets C) (hproper : Proper D) (hnew : IsNew D)
    {inputs : List DeviceCommunicationInput} (horder : (step C).Along InOrder D inputs) :
  ∃ D' outputs, (step C).run D inputs = some (D', outputs) ∧
    ∀ (command : DeviceCommandId) (info : DeviceCommandInfo),
      D'.base.deviceCommandMap[command]? = some info →
        (command ≠ rawCommandId →
          DeviceActionEvent.settled command (D'.replyId command) D'.log = some info.commander) ∧
        (info.isExecuting = true → D'.IsWriting command ∨ D'.Awaits command)
  := by
  have hstep (D : DeviceCommunication σ) (input : DeviceCommunicationInput) (h : AllSettled D)
      (horder : D.InOrder input) :
      ∃ D' output, step C D input = some (D', output) ∧ AllSettled D' := by
    obtain ⟨D', hD', h'⟩ := h.next hC horder
    refine ⟨D', (), ?_, h'⟩
    rw [step, hD']
    rfl
  obtain ⟨D', outputs, hrun, h⟩ := Step.run_invariant hstep (hnew.allSettled hproper) horder
  refine ⟨D', outputs, hrun, fun command info hinfo => ?_⟩
  have hsettled := h.settled command info hinfo
  exact ⟨hsettled.log, hsettled.executing⟩

theorem onlyInterprets_beacon :
  OnlyInterprets DeviceHandlerBase.beacon
  where
  scanForReply start foundId foundLen B := by
    rw [DeviceHandlerBase.beacon]
    dsimp only
    split_ifs
    · exact .refl B
    · exact .refl B
  interpretDeviceReply _ _ B := .refl B

/-- A handler with one command, for whose reply it waits three cycles. -/
def beaconCommunication : DeviceCommunication Unit where
  base :=
    { DeviceHandlerBase.beaconHandler with
      deviceCommandMap :=
        ((∅ : Std.TreeMap DeviceCommandId DeviceCommandInfo).insert rawCommandId
          ⟨false, 0, MessageQueueIF.noQueue⟩).insert 1 ⟨false, 0, MessageQueueIF.noQueue⟩
      deviceReplyMap := (∅ : Std.TreeMap DeviceCommandId DeviceReplyInfo).insert 1
        ⟨3, 0, false, none, none, false⟩ }
  alternativeReplyId _ := none
  pendingCommand := none
  cookieState := .unused
  ignoreMissedRepliesCount := 0
  storedRawData := StorageManagerIF.invalidAddress
  log := []

theorem beaconReply {reply : DeviceCommandId} {info : DeviceReplyInfo}
    (h : beaconCommunication.base.deviceReplyMap[reply]? = some info) :
  info = ⟨3, 0, false, none, none, false⟩
  := by
  rw [beaconCommunication, getElem?_insert_eq] at h
  split_ifs at h
  · cases h
    rfl
  · cases h

theorem beaconCommand {command : DeviceCommandId} {info : DeviceCommandInfo}
    (h : beaconCommunication.base.deviceCommandMap[command]? = some info) :
  info = ⟨false, 0, MessageQueueIF.noQueue⟩
  := by
  rw [beaconCommunication, getElem?_insert_eq, getElem?_insert_eq] at h
  split_ifs at h
  · cases h
    rfl
  · cases h
    rfl
  · cases h

theorem proper_beaconCommunication :
  Proper beaconCommunication
  where
  raw := by decide
  rawReply := rfl
  unshared _ _ _ _ hne := ⟨hne, hne⟩
  once reply info hinfo := by
    rw [beaconReply hinfo]
    exact ⟨rfl, fun _ => by decide⟩

theorem isNew_beaconCommunication :
  IsNew beaconCommunication
  where
  log := rfl
  cookieState := rfl
  commands command info hinfo := by
    rw [beaconCommand hinfo]
  replies reply info hinfo := by
    rw [beaconReply hinfo]
    rfl

/-- An action that is written. -/
theorem settled_of_run_beacon :
  ∃ D' outputs,
    (step DeviceHandlerBase.beacon).run beaconCommunication
        [.performOperation (.action 7 1 .ok) HasModesIF.modeOn 5, .sendWrite .ok 0 .ok,
          .getWrite .ok 6] = some (D', outputs) ∧
      ∀ (command : DeviceCommandId) (info : DeviceCommandInfo),
        D'.base.deviceCommandMap[command]? = some info →
          (command ≠ rawCommandId →
            DeviceActionEvent.settled command (D'.replyId command) D'.log = some info.commander) ∧
          (info.isExecuting = true → D'.IsWriting command ∨ D'.Awaits command)
  := by
  apply settled_of_run onlyInterprets_beacon proper_beaconCommunication isNew_beaconCommunication
  refine ⟨idle_of_unused rfl, fun _ _ _ => ⟨trivial, fun _ _ _ => ⟨trivial, fun _ _ _ => ?_⟩⟩⟩
  trivial

end DeviceCommunication
