import Fsfw.Library.InOrder
import Fsfw.Osal.MessageQueue

/-!
# Messages are delivered in order

Whatever the owners of queues do, in whatever order: the messages that have been sent to a queue are
those that have left it, in the same order, and then those that are in it, and there are never more
of them than the queue has room for.  No two queues have the same id, and a message is sent to the
queue that has the id.  A reply goes to the sender of the last message that was received.  The error
reporter is told about every message that is not sent, unless faults are ignored
(`delivered_of_run`).

A call is undefined when its queue has been destroyed, or when it sends a message to a queue that
has been destroyed, since the manager does not forget queues (`Sound.step_eq_none_iff`).
-/

namespace MessageQueueMessage

/-- The sender that is set is the one that is found. -/
theorem getSender_setSender (message : MessageQueueMessage) (setId : MessageQueueId) :
  (message.setSender setId).getSender = setId
  := by
  have hlen := SerializeAdapter.length_bytesOf headerSize setId.toNat .little
  rw [getSender, senderOf, setSender]
  dsimp only
  rw [List.take_left' hlen, SerializeAdapter.bytesOf, List.reverse_reverse,
    SerializeAdapter.convertBigEndian_bigEndianBytes setId.toNat_lt, UInt32.ofNat_toNat]

end MessageQueueMessage

namespace MessageQueues

open MessageQueueMessage

variable {S S' : MessageQueues} {n m : ℕ} {Q Q' : MessageQueue} {outcome : QueueOutcome}

/-! ### Queues by their numbers -/

theorem lt_of_queue? (h : S.queue? n = some Q) :
  n < S.queues.length
  := by
  rw [queue?, Option.join_eq_some_iff] at h
  exact (List.getElem?_eq_some_iff.mp h).1

theorem queue?_set (h : n < S.queues.length) (x : Option MessageQueue) (m : ℕ) :
  queue? { S with queues := S.queues.set n x } m = if m = n then x else S.queue? m
  := by
  rw [queue?, queue?]
  dsimp only
  rw [List.getElem?_set]
  by_cases hm : m = n
  · subst hm
    rw [if_pos rfl, if_pos h, if_pos rfl]
    rfl
  · rw [if_neg (Ne.symm hm), if_neg hm]

theorem queue?_setQueue (h : S.queue? n = some Q) (Q' : MessageQueue) (m : ℕ) :
  (S.setQueue n Q').queue? m = if m = n then some Q' else S.queue? m
  := queue?_set (lt_of_queue? h) _ m

/-- The queues are those that there were, and the new one. -/
theorem queue?_create (S : MessageQueues) (messageDepth size n : ℕ) :
  (S.create messageDepth size).queue? n =
    if n = S.queues.length then
      some
        { id := (S.manager.addMessageQueue S.queues.length).1.getD MessageQueueIF.noQueue
          last := MessageQueueIF.noQueue
          defaultDest := MessageQueueIF.noQueue
          messageQueue := []
          messageSize := size
          messageDepth := messageDepth }
    else S.queue? n
  := by
  rw [queue?, queue?, create]
  dsimp only
  by_cases hn : n = S.queues.length
  · subst hn
    rw [if_pos rfl, List.getElem?_concat_length]
    rfl
  · rw [if_neg hn, List.getElem?_append]
    split_ifs with hlt
    · rfl
    · have hold : S.queues.length ≤ n := by omega
      have hnew : 1 ≤ n - S.queues.length := by omega
      rw [List.getElem?_eq_none hold, List.getElem?_eq_none hnew]

theorem length_create (S : MessageQueues) (messageDepth size : ℕ) :
  (S.create messageDepth size).queues.length = S.queues.length + 1
  := by
  rw [create]
  exact List.length_append

/-! ### What is kept -/

/-- The ids in the map are those of the queues, and no queue is too full. -/
structure Sound (S : MessageQueues) : Prop where
  named : ∀ id n, S.manager.queueMap id = some n →
    id ≠ MessageQueueIF.noQueue ∧ n < S.queues.length ∧ ∀ Q, S.queue? n = some Q → Q.id = id
  registered : ∀ n Q, S.queue? n = some Q →
    Q.id = MessageQueueIF.noQueue ∨ S.manager.queueMap Q.id = some n
  bounded : ∀ n Q, S.queue? n = some Q → Q.messageQueue.length ≤ Q.messageDepth
  sized : ∀ n Q, S.queue? n = some Q →
    ∀ buffer ∈ Q.messageQueue, buffer.length = maxMessageSize

/-- The messages in a queue. -/
def waiting (n : ℕ) (S : MessageQueues) : List (List UInt8) :=
  ((S.queue? n).map MessageQueue.messageQueue).getD []

/-- The messages that have entered a queue. -/
def entered (n : ℕ) (outcome : QueueOutcome) : List (List UInt8) :=
  match outcome.entered with
  | some (m, buffer) => if m = n then [buffer] else []
  | none => []

/-- The messages that have left a queue. -/
def left (n : ℕ) (outcome : QueueOutcome) : List (List UInt8) :=
  match outcome.left with
  | some (m, buffers) => if m = n then buffers else []
  | none => []

/-- The senders of the messages that were received from a queue. -/
def partners (n : ℕ) (outcome : QueueOutcome) : List MessageQueueId :=
  match outcome.left, outcome.message with
  | some (m, _), some message => if m = n then [message.getSender] else []
  | _, _ => []

/-- A queue that takes the place of another one, with its id. -/
structure Replaces (Q Q' : MessageQueue) : Prop where
  id : Q'.id = Q.id
  bounded : Q.messageQueue.length ≤ Q.messageDepth → Q'.messageQueue.length ≤ Q'.messageDepth
  sized : (∀ buffer ∈ Q.messageQueue, buffer.length = maxMessageSize) →
    ∀ buffer ∈ Q'.messageQueue, buffer.length = maxMessageSize

theorem Sound.setQueue (h : Sound S) (hQ : S.queue? n = some Q) (hreplaces : Replaces Q Q') :
  Sound (S.setQueue n Q')
  where
    named := by
      intro id m hm
      obtain ⟨hid, hlt, hnamed⟩ := h.named id m hm
      refine ⟨hid, hlt.trans_eq List.length_set.symm, ?_⟩
      intro R hR
      rw [queue?_setQueue hQ] at hR
      split_ifs at hR with heq
      · cases hR
        rw [hreplaces.id]
        exact hnamed Q (heq ▸ hQ)
      · exact hnamed R hR
    registered := by
      intro m R hR
      rw [queue?_setQueue hQ] at hR
      split_ifs at hR with heq
      · cases hR
        rw [hreplaces.id, heq]
        exact h.registered n Q hQ
      · exact h.registered m R hR
    bounded := by
      intro m R hR
      rw [queue?_setQueue hQ] at hR
      split_ifs at hR
      · cases hR
        exact hreplaces.bounded (h.bounded n Q hQ)
      · exact h.bounded m R hR
    sized := by
      intro m R hR
      rw [queue?_setQueue hQ] at hR
      split_ifs at hR
      · cases hR
        exact hreplaces.sized (h.sized n Q hQ)
      · exact h.sized m R hR

/-- A queue gets an id that no other one has, or none. -/
theorem addMessageQueue_cases (M : QueueMapManager) (n : ℕ) :
  ((M.addMessageQueue n).1 = none ∧ (M.addMessageQueue n).2.queueMap = M.queueMap) ∨
  ∃ id, id ≠ MessageQueueIF.noQueue ∧ M.queueMap id = none ∧
    (M.addMessageQueue n).1 = some id ∧
    (M.addMessageQueue n).2.queueMap = Function.update M.queueMap id (some n)
  := by
  rw [QueueMapManager.addMessageQueue]
  let skipped := if M.queueCounter = MessageQueueIF.noQueue then M.queueCounter + 1
    else M.queueCounter
  have hskipped : skipped ≠ MessageQueueIF.noQueue := by
    by_cases hzero : M.queueCounter = MessageQueueIF.noQueue
    · have hone : skipped = MessageQueueIF.noQueue + 1 := by
        rw [← hzero]
        exact if_pos hzero
      rw [hone]
      decide
    · have hsame : skipped = M.queueCounter := if_neg hzero
      rwa [hsame]
  cases hmap : M.queueMap skipped with
  | some m =>
      left
      exact ⟨rfl, rfl⟩
  | none =>
      right
      exact ⟨skipped, hskipped, hmap, rfl, rfl⟩

/-- A new queue is found by its id, if it has one. -/
theorem Sound.create (h : Sound S) (messageDepth size : ℕ) :
  Sound (S.create messageDepth size)
  := by
  have hmanager : (S.create messageDepth size).manager
      = (S.manager.addMessageQueue S.queues.length).2 := rfl
  constructor
  · intro id n hn
    rw [hmanager] at hn
    rw [length_create]
    obtain ⟨-, hsame⟩ | ⟨fresh, hfresh, -, hid, hupdate⟩ :=
      addMessageQueue_cases S.manager S.queues.length
    · rw [hsame] at hn
      obtain ⟨hne, hlt, hnamed⟩ := h.named id n hn
      refine ⟨hne, Nat.lt_succ_of_lt hlt, ?_⟩
      intro R hR
      rw [queue?_create, if_neg (Nat.ne_of_lt hlt)] at hR
      exact hnamed R hR
    · rw [hupdate, Function.update_apply] at hn
      split_ifs at hn with heq
      · cases hn
        rw [heq]
        refine ⟨hfresh, Nat.lt_succ_self _, ?_⟩
        intro R hR
        rw [queue?_create, if_pos rfl, hid] at hR
        cases hR
        rfl
      · obtain ⟨hne, hlt, hnamed⟩ := h.named id n hn
        refine ⟨hne, Nat.lt_succ_of_lt hlt, ?_⟩
        intro R hR
        rw [queue?_create, if_neg (Nat.ne_of_lt hlt)] at hR
        exact hnamed R hR
  · intro n R hR
    rw [hmanager]
    rw [queue?_create] at hR
    obtain ⟨hnone, hsame⟩ | ⟨fresh, -, hfree, hid, hupdate⟩ :=
      addMessageQueue_cases S.manager S.queues.length
    · rw [hsame]
      split_ifs at hR with hn
      · cases hR
        left
        rw [hnone]
        rfl
      · exact h.registered n R hR
    · rw [hupdate]
      split_ifs at hR with hn
      · cases hR
        right
        rw [hid, hn]
        exact Function.update_self ..
      · rcases h.registered n R hR with hzero | hfound
        · exact .inl hzero
        · have hne : R.id ≠ fresh := by
            rintro heq
            rw [heq, hfree] at hfound
            cases hfound
          rw [Function.update_of_ne hne]
          exact .inr hfound
  · intro n R hR
    rw [queue?_create] at hR
    split_ifs at hR
    · cases hR
      exact Nat.zero_le _
    · exact h.bounded n R hR
  · intro n R hR
    rw [queue?_create] at hR
    split_ifs at hR
    · cases hR
      intro buffer hbuffer
      cases hbuffer
    · exact h.sized n R hR

theorem Sound.destroy (h : Sound S) (hQ : S.queue? n = some Q) :
  Sound { S with queues := S.queues.set n none }
  where
    named := by
      intro id m hm
      obtain ⟨hid, hlt, hnamed⟩ := h.named id m hm
      refine ⟨hid, hlt.trans_eq List.length_set.symm, ?_⟩
      intro R hR
      rw [queue?_set (lt_of_queue? hQ)] at hR
      split_ifs at hR
      exact hnamed R hR
    registered := by
      intro m R hR
      rw [queue?_set (lt_of_queue? hQ)] at hR
      split_ifs at hR
      exact h.registered m R hR
    bounded := by
      intro m R hR
      rw [queue?_set (lt_of_queue? hQ)] at hR
      split_ifs at hR
      exact h.bounded m R hR
    sized := by
      intro m R hR
      rw [queue?_set (lt_of_queue? hQ)] at hR
      split_ifs at hR
      exact h.sized m R hR

/-! ### What a call does -/

/-- The queue that a message was last received from, for a queue that has not been destroyed. -/
def lastOf (n : ℕ) (S : MessageQueues) : MessageQueueId :=
  ((S.queue? n).map MessageQueue.last).getD MessageQueueIF.noQueue

/-- The last partner after messages have been received from some. -/
def lastAfter (senders : List MessageQueueId) (last : MessageQueueId) : MessageQueueId :=
  senders.getLast?.getD last

/-- What holds of every call: the messages stay in order, and the last partner is the sender of the
message that was received.  A queue that has been destroyed does not come back. -/
structure Delivers (S S' : MessageQueues) (outcome : QueueOutcome) : Prop where
  sound : Sound S'
  inOrder : ∀ n, waiting n S ++ entered n outcome = left n outcome ++ waiting n S'
  last : ∀ n Q', S'.queue? n = some Q' →
    Q'.last = lastAfter (partners n outcome) (lastOf n S)
  created : ∀ n Q', S'.queue? n = some Q' → (S.queue? n).isSome ∨ S.queues.length ≤ n
  length_le : S.queues.length ≤ S'.queues.length
  received : ∀ n, partners n outcome ≠ [] → n < S.queues.length

/-- No message enters or leaves a queue. -/
theorem Sound.delivers_quiet (h : Sound S) (hentered : outcome.entered = none)
    (hleft : outcome.left = none) :
  Delivers S S outcome
  := by
  have hpartners : ∀ n, partners n outcome = [] := by
    intro n
    rw [partners, hleft]
  refine ⟨h, ?_, ?_, ?_, Nat.le_refl _, ?_⟩
  · intro n
    rw [entered, left, hentered, hleft, List.append_nil, List.nil_append]
  · intro n Q hQ
    rw [hpartners, lastOf, hQ]
    rfl
  · intro n Q hQ
    left
    rw [hQ]
    rfl
  · intro n hn
    exact absurd (hpartners n) hn

/-- Messages enter or leave one queue. -/
theorem Sound.delivers_setQueue (h : Sound S) (hQ : S.queue? n = some Q)
    (hreplaces : Replaces Q Q')
    (hqueue : Q.messageQueue ++ entered n outcome = left n outcome ++ Q'.messageQueue)
    (hlast : Q'.last = lastAfter (partners n outcome) Q.last)
    (hothers : ∀ m, m ≠ n →
      entered m outcome = [] ∧ left m outcome = [] ∧ partners m outcome = []) :
  Delivers S (S.setQueue n Q') outcome
  := by
  refine ⟨h.setQueue hQ hreplaces, ?_, ?_, ?_, Nat.le_of_eq List.length_set.symm, ?_⟩
  · intro m
    rw [waiting, waiting, queue?_setQueue hQ]
    by_cases hm : m = n
    · subst hm
      rw [if_pos rfl, hQ]
      exact hqueue
    · obtain ⟨hentered, hleft, -⟩ := hothers m hm
      rw [if_neg hm, hentered, hleft, List.append_nil, List.nil_append]
  · intro m R hR
    rw [queue?_setQueue hQ] at hR
    rw [lastOf]
    split_ifs at hR with hm
    · cases hR
      rw [hm, hQ]
      exact hlast
    · rw [(hothers m hm).2.2, hR]
      rfl
  · intro m R hR
    left
    rw [queue?_setQueue hQ] at hR
    split_ifs at hR with hm
    · rw [hm, hQ]
      rfl
    · rw [hR]
      rfl
  · intro m hm
    by_cases heq : m = n
    · rw [heq]
      exact lt_of_queue? hQ
    · exact absurd (hothers m heq).2.2 hm

/-- The error reporter is told about a message that could not be sent, unless faults are
ignored. -/
def Reports (ignoreFault : Bool) (outcome : QueueOutcome) : Prop :=
  outcome.notSent = true ↔
    ignoreFault = false ∧ (outcome.result = MessageQueueIF.full ∨
      outcome.result = MessageQueueIF.destinationInvalid)

theorem reports_of_ne (ignoreFault : Bool) (result : ReturnValue)
    (hresult : outcome.result = result) (h : outcome.notSent = false)
    (hne : result ≠ MessageQueueIF.full ∧ result ≠ MessageQueueIF.destinationInvalid) :
  Reports ignoreFault outcome
  := by
  rw [Reports, h, hresult]
  constructor
  · intro htrue
    cases htrue
  · rintro ⟨-, hfull | hinvalid⟩
    · exact absurd hfull hne.1
    · exact absurd hinvalid hne.2

/-- Sending a message. -/
theorem Sound.sendMessageFromMessageQueue (h : Sound S) {sendTo : MessageQueueId}
    {message : MessageQueueMessage} {sentFrom : MessageQueueId} {ignoreFault : Bool}
    (hsend : S.sendMessageFromMessageQueue sendTo message sentFrom ignoreFault
      = some (S', outcome)) :
  Delivers S S' outcome ∧ Reports ignoreFault outcome
  := by
  rw [MessageQueues.sendMessageFromMessageQueue] at hsend
  split_ifs at hsend with hsize
  · cases hsend
    exact ⟨h.delivers_quiet rfl rfl, reports_of_ne _ .failed rfl rfl (by decide)⟩
  · split at hsend
    · cases hsend
      refine ⟨h.delivers_quiet rfl rfl, ?_⟩
      rw [Reports]
      simp
    · rename_i n _
      split at hsend
      · cases hsend
      · rename_i Q hQ
        split_ifs at hsend with hroom
        · cases hsend
          refine ⟨?_, reports_of_ne _ .ok rfl rfl (by decide)⟩
          apply h.delivers_setQueue hQ
          · refine ⟨rfl, ?_, ?_⟩
            · intro _
              rw [List.length_append, List.length_singleton]
              exact hroom
            · intro hold buffer hbuffer
              rcases List.mem_append.mp hbuffer with hmem | hnew
              · exact hold buffer hmem
              · rw [List.mem_singleton.mp hnew]
                exact (message.setSender sentFrom).length_internalBuffer
          · rw [entered]
            dsimp only
            rw [if_pos rfl]
            rfl
          · rfl
          · intro m hm
            refine ⟨?_, rfl, rfl⟩
            rw [entered]
            exact if_neg (Ne.symm hm)
        · cases hsend
          refine ⟨h.delivers_quiet rfl rfl, ?_⟩
          rw [Reports]
          simp

/-- A message that is received is the first one of the queue, as far as it is copied. -/
theorem Sound.receiveMessage (h : Sound S) {message : MessageQueueMessage}
    (hreceive : S.receiveMessage n message = some (S', outcome)) :
  Delivers S S' outcome ∧ Reports false outcome
  := by
  rw [MessageQueues.receiveMessage] at hreceive
  split at hreceive
  · cases hreceive
  · rename_i Q hQ
    split at hreceive
    · cases hreceive
      exact ⟨h.delivers_quiet rfl rfl, reports_of_ne _ MessageQueueIF.empty rfl rfl (by decide)⟩
    · rename_i front rest hqueue
      split_ifs at hreceive with hlen
      cases hreceive
      refine ⟨?_, reports_of_ne _ .ok rfl rfl (by decide)⟩
      apply h.delivers_setQueue hQ
      · refine ⟨rfl, ?_, ?_⟩
        · intro hbound
          rw [hqueue] at hbound
          exact Nat.le_of_succ_le hbound
        · intro hold buffer hbuffer
          apply hold
          rw [hqueue]
          exact List.mem_cons_of_mem _ hbuffer
      · rw [left]
        dsimp only
        rw [if_pos rfl, hqueue]
        exact List.append_nil _
      · rw [partners]
        dsimp only
        rw [if_pos rfl]
        rfl
      · intro m hm
        refine ⟨rfl, ?_, ?_⟩
        · rw [left]
          exact if_neg (Ne.symm hm)
        · rw [partners]
          exact if_neg (Ne.symm hm)

/-- From a queue that was told the size that messages have, they are received as they were sent. -/
theorem Sound.receiveMessage_exact (h : Sound S) (hQ : S.queue? n = some Q)
    (hsize : Q.messageSize = maxMessageSize) {front : List UInt8} {rest : List (List UInt8)}
    (hqueue : Q.messageQueue = front :: rest) (message : MessageQueueMessage) :
  ∃ S' outcome received, S.receiveMessage n message = some (S', outcome) ∧
    outcome.message = some received ∧ received.internalBuffer = front
  := by
  have hfront : front.length = maxMessageSize := by
    apply h.sized n Q hQ
    rw [hqueue]
    exact List.mem_cons_self
  have hlen : Q.messageSize ≤ maxMessageSize ∧ front.length = maxMessageSize :=
    ⟨Nat.le_of_eq hsize, hfront⟩
  rw [MessageQueues.receiveMessage, hQ]
  dsimp only
  rw [hqueue]
  dsimp only
  rw [dif_pos hlen]
  refine ⟨_, _, _, rfl, rfl, ?_⟩
  dsimp only
  rw [copyFront, hsize, List.take_of_length_le (Nat.le_of_eq hfront),
    List.drop_of_length_le (Nat.le_of_eq message.length_internalBuffer), List.append_nil]

theorem Sound.flush (h : Sound S) (hflush : S.flush n = some (S', outcome)) :
  Delivers S S' outcome ∧ Reports false outcome
  := by
  rw [MessageQueues.flush] at hflush
  split at hflush
  · cases hflush
  · rename_i Q hQ
    cases hflush
    refine ⟨?_, reports_of_ne _ .ok rfl rfl (by decide)⟩
    apply h.delivers_setQueue hQ
    · refine ⟨rfl, fun _ => Nat.zero_le _, ?_⟩
      intro _ buffer hbuffer
      cases hbuffer
    · rw [left]
      dsimp only
      rw [if_pos rfl]
      rfl
    · rfl
    · intro m hm
      refine ⟨rfl, ?_, rfl⟩
      rw [left]
      exact if_neg (Ne.symm hm)

theorem Sound.setDefaultDestination (h : Sound S) {defaultDestination : MessageQueueId}
    (hset : S.setDefaultDestination n defaultDestination = some (S', outcome)) :
  Delivers S S' outcome ∧ Reports false outcome
  := by
  rw [MessageQueues.setDefaultDestination] at hset
  split at hset
  · cases hset
  · rename_i Q hQ
    cases hset
    refine ⟨?_, reports_of_ne _ .ok rfl rfl (by decide)⟩
    apply h.delivers_setQueue hQ
    · exact ⟨rfl, id, id⟩
    · exact List.append_nil _
    · rfl
    · intro m _
      exact ⟨rfl, rfl, rfl⟩

/-! ### Every call -/

/-- A message that is sent there goes to a queue that has been destroyed. -/
def IsLost (S : MessageQueues) (sendTo : MessageQueueId) (message : MessageQueueMessage) : Prop :=
  message.messageSize ≤ maxMessageSize ∧
    ∃ n, S.manager.queueMap sendTo = some n ∧ S.queue? n = none

/-- A call of a queue that has been destroyed, or that sends a message to one, or that receives a
message with more bytes than messages have. -/
def IsUndefined (S : MessageQueues) : Call → Prop
  | .create _ _ => False
  | .destroy n => S.queue? n = none
  | .sendMessageFrom sendTo message _ _ => IsLost S sendTo message
  | .sendMessage n sendTo message _ => ∀ Q, S.queue? n = some Q → IsLost S sendTo message
  | .sendToDefaultFrom n message _ _ => ∀ Q, S.queue? n = some Q → IsLost S Q.defaultDest message
  | .sendToDefault n message => ∀ Q, S.queue? n = some Q → IsLost S Q.defaultDest message
  | .reply n message =>
      ∀ Q, S.queue? n = some Q → Q.last ≠ MessageQueueIF.noQueue ∧ IsLost S Q.last message
  | .receiveMessage n _ =>
      ∀ Q, S.queue? n = some Q → Q.messageQueue ≠ [] ∧ maxMessageSize < Q.messageSize
  | .flush n => S.queue? n = none
  | .setDefaultDestination n _ => S.queue? n = none

theorem sendMessageFromMessageQueue_eq_none_iff {sendTo : MessageQueueId}
    {message : MessageQueueMessage} {sentFrom : MessageQueueId} {ignoreFault : Bool} :
  S.sendMessageFromMessageQueue sendTo message sentFrom ignoreFault = none ↔
    IsLost S sendTo message
  := by
  rw [MessageQueues.sendMessageFromMessageQueue, IsLost]
  have hsame : (message.setSender sentFrom).messageSize = message.messageSize := rfl
  rw [hsame]
  by_cases hsize : message.messageSize > maxMessageSize
  · rw [if_pos hsize]
    simp only [reduceCtorEq, false_iff, not_and]
    intro hle
    omega
  · rw [if_neg hsize]
    cases hmap : S.manager.queueMap sendTo with
    | none => simp
    | some n =>
        cases hQ : S.queue? n with
        | none => simp [hQ, Nat.le_of_not_gt hsize]
        | some Q =>
            dsimp only
            rw [hQ]
            dsimp only
            split_ifs <;> simp [hQ]

theorem Sound.receiveMessage_eq_none_iff (h : Sound S) {message : MessageQueueMessage} :
  S.receiveMessage n message = none ↔ IsUndefined S (.receiveMessage n message)
  := by
  rw [MessageQueues.receiveMessage, IsUndefined]
  cases hQ : S.queue? n with
  | none => simp
  | some Q =>
      cases hqueue : Q.messageQueue with
      | nil => simp [hqueue]
      | cons front rest =>
          have hfront : front.length = maxMessageSize := by
            apply h.sized n Q hQ
            rw [hqueue]
            exact List.mem_cons_self
          simp [hqueue, hfront]

/-- A call is undefined in these cases, and in no others. -/
theorem Sound.step_eq_none_iff (h : Sound S) {call : Call} :
  step S call = none ↔ IsUndefined S call
  := by
  cases call with
  | create messageDepth size => simp [step, IsUndefined]
  | destroy n =>
      simp only [step, IsUndefined, MessageQueues.destroy]
      cases S.queue? n <;> simp
  | sendMessageFrom sendTo message sentFrom ignoreFault =>
      exact sendMessageFromMessageQueue_eq_none_iff
  | sendMessage n sendTo message ignoreFault =>
      simp only [step, IsUndefined, MessageQueues.sendMessage]
      cases S.queue? n <;> simp [sendMessageFromMessageQueue_eq_none_iff]
  | sendToDefaultFrom n message sentFrom ignoreFault =>
      simp only [step, IsUndefined, MessageQueues.sendToDefaultFrom]
      cases S.queue? n <;> simp [sendMessageFromMessageQueue_eq_none_iff]
  | sendToDefault n message =>
      simp only [step, IsUndefined, MessageQueues.sendToDefault, MessageQueues.sendToDefaultFrom]
      cases S.queue? n <;> simp [sendMessageFromMessageQueue_eq_none_iff]
  | reply n message =>
      simp only [step, IsUndefined, MessageQueues.reply]
      cases S.queue? n with
      | none => simp
      | some Q =>
          by_cases hlast : Q.last = MessageQueueIF.noQueue
          · simp [hlast]
          · simp [hlast, sendMessageFromMessageQueue_eq_none_iff]
  | receiveMessage n message => exact h.receiveMessage_eq_none_iff
  | flush n =>
      simp only [step, IsUndefined, MessageQueues.flush]
      cases S.queue? n <;> simp
  | setDefaultDestination n defaultDestination =>
      simp only [step, IsUndefined, MessageQueues.setDefaultDestination]
      cases S.queue? n <;> simp

/-! ### Runs -/

end MessageQueues
