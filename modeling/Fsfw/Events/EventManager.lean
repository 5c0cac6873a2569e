import Fsfw.Events.EventMatchTree
import Fsfw.Ipc.MessageQueueIF
import Fsfw.Library.Run

/-!
# The event manager

Listeners subscribe to ranges of events, and the manager forwards to each of them the events that
its match tree matches.  The tree should match exactly the events of the subscriptions in force.
This fails when a subscription for all reporters meets one for some reporters of the same ids, since
the tree does not have both: the events are then narrowed down to the reporters.  It also fails when
there is room for the matcher of ids only, which is left in the tree, and for events with the id
zero, since all events are requested by a range that leaves out zero.  When no such thing happens,
the subscriptions are exact (`subscriptions_exact`).
-/

open BinaryTree MatchTree

/-! ### The manager -/

structure EventManager where
  listenerList : Std.TreeMap MessageQueueId EventMatchTree

namespace EventManager

/-- The listeners to which the message about an event is sent. -/
def notifyListeners (M : EventManager) (message : EventMessage) : List MessageQueueId :=
  (M.listenerList.toList.filter fun listener => listener.2.isMatch message).map Prod.fst

def registerListener (M : EventManager) (listener : MessageQueueId)
    (forwardAllButSelected : Bool) : ReturnValue × EventManager :=
  if listener ∈ M.listenerList then
    (.failed, M)
  else
    (.ok, ⟨M.listenerList.insert listener ⟨nil, forwardAllButSelected⟩⟩)

def unregisterListener (M : EventManager) (listener : MessageQueueId) :
    ReturnValue × EventManager :=
  if listener ∈ M.listenerList then
    (.ok, ⟨M.listenerList.erase listener⟩)
  else
    (.failed, M)

def subscribeToEventRange (M : EventManager) (listener : MessageQueueId) (request : EventRequest)
    (idRoom reporterRoom : Bool) : ReturnValue × EventManager :=
  match M.listenerList[listener]? with
  | none => (EventManagerIF.listenerNotFound, M)
  | some matchTree =>
      let (result, tree) := EventMatchTree.addMatch request idRoom reporterRoom matchTree.tree
      (result, ⟨M.listenerList.insert listener { matchTree with tree := tree }⟩)

def unsubscribeFromEventRange (M : EventManager) (listener : MessageQueueId)
    (request : EventRequest) : ReturnValue × EventManager :=
  match M.listenerList[listener]? with
  | none => (EventManagerIF.listenerNotFound, M)
  | some matchTree =>
      let (result, tree) := EventMatchTree.removeMatch request matchTree.tree
      (result, ⟨M.listenerList.insert listener { matchTree with tree := tree }⟩)

/-- The calls that change what a listener is sent.  Whether the pool has room is part of the
call. -/
inductive Call where
  | subscribe (listener : MessageQueueId) (request : EventRequest) (idRoom reporterRoom : Bool)
  | unsubscribe (listener : MessageQueueId) (request : EventRequest)

/-- The listener that calls. -/
def Call.listener : Call → MessageQueueId
  | subscribe listener _ _ _ => listener
  | unsubscribe listener _ => listener

/-- What is done to the tree of the listener. -/
def Call.change (t : BinaryTree EventMatcher) : Call → ReturnValue × BinaryTree EventMatcher
  | subscribe _ request idRoom reporterRoom =>
      EventMatchTree.addMatch request idRoom reporterRoom t
  | unsubscribe _ request => EventMatchTree.removeMatch request t

def call (M : EventManager) : Call → ReturnValue × EventManager
  | .subscribe listener request idRoom reporterRoom =>
      M.subscribeToEventRange listener request idRoom reporterRoom
  | .unsubscribe listener request => M.unsubscribeFromEventRange listener request

end EventManager

/-! ### Subscriptions in force -/

namespace EventRequest

/-- An event has an id and a reporter as requested. -/
def IsSatisfied (request : EventRequest) (message : EventMessage) : Prop :=
  (request.idFrom = 0 ∨ request.idRange.isMatch message.eventId = true) ∧
    (request.reporterFrom = 0 ∨ request.reporterRange.isMatch message.reporter = true)

instance (request : EventRequest) (message : EventMessage) :
    Decidable (request.IsSatisfied message) :=
  inferInstanceAs (Decidable (_ ∧ _))

/-- What is needed for the tree to have all subscriptions: those for the same ids are either all for
some reporters or all for all reporters, and there is room for the matcher of reporters when there
is for the matcher of ids. -/
def Admitted (request : EventRequest) (idRoom reporterRoom : Bool)
    (inForce : List EventRequest) : Prop :=
  (∀ other ∈ inForce, other.idRange = request.idRange →
      (other.reporterFrom = 0 ↔ request.reporterFrom = 0)) ∧
    (request.reporterFrom ≠ 0 → idRoom = true → reporterRoom = false →
      ∃ other ∈ inForce, other.idRange = request.idRange)

variable {request other : EventRequest}

/-- Of two patterns for the same ids that both have reporters, or both have none, none is a part of
the other. -/
theorem pattern_eq_of_prefix (hpart : other.pattern <+: request.pattern)
    (hsame : other.idRange = request.idRange →
      (other.reporterFrom = 0 ↔ request.reporterFrom = 0)) :
  other.pattern = request.pattern
  := by
  have hrange : other.idRange = request.idRange := by
    rw [other.pattern_eq_cons, request.pattern_eq_cons, List.cons_prefix_cons] at hpart
    simpa using hpart.1
  apply hpart.eq_of_length
  simp only [pattern, hsame hrange]
  split_ifs <;> rfl

variable (request)

/-- What fits the matchers of a request. -/
theorem fits_pattern_iff (message : EventMessage) :
  (∀ matcher ∈ request.pattern, matcher.isMatch message = true) ↔
    request.idRange.isMatch message.eventId = true ∧
      (request.reporterFrom = 0 ∨ request.reporterRange.isMatch message.reporter = true)
  := by
  rw [pattern]
  split_ifs with h
  · simp [EventMatcher.isMatch, h]
  · simp [EventMatcher.isMatch, h]

/-- All events are requested by a range that leaves out zero. -/
theorem isMatch_idRange_of_all (h : request.idFrom = 0) {eventId : UInt16} (hid : eventId ≠ 0) :
  request.idRange.isMatch eventId = true
  := by
  have hlt : ¬ eventId ≤ 0 := by
    rw [UInt16.le_iff_toNat_le]
    intro hle
    apply hid
    apply UInt16.toNat_inj.mp
    simpa using hle
  simp [idRange, h, RangeMatcher.isMatch, RangeMatcher.doMatch, hlt]

end EventRequest

namespace EventMatchTree

/-- The tree has the patterns of the subscriptions in force. -/
structure Tracks (t : BinaryTree EventMatcher) (inForce : List EventRequest) : Prop where
  distinct : t.Distinct
  mem_patterns_iff : ∀ pattern, pattern ∈ t.patterns ↔ ∃ request ∈ inForce, request.pattern = pattern

theorem tracks_nil :
  Tracks nil []
  := by
  use trivial
  simp [patterns]

variable {t : BinaryTree EventMatcher} {inForce : List EventRequest} {request : EventRequest}

/-- There is a matcher of ids exactly when a subscription in force is for these ids. -/
theorem Tracks.lookup_ne_none_iff (h : Tracks t inForce) :
  t.lookup (.eventIdRange request.idRange) ≠ none ↔
    ∃ other ∈ inForce, other.idRange = request.idRange
  := by
  constructor
  · intro hlookup
    obtain ⟨rest, hrest⟩ := h.distinct.exists_cons_mem_patterns hlookup
    obtain ⟨other, hother, hpattern⟩ := (h.mem_patterns_iff _).mp hrest
    use other, hother
    rw [other.pattern_eq_cons] at hpattern
    simpa using (List.cons.inj hpattern).1
  · rintro ⟨other, hother, hrange⟩ hlookup
    have hmem := (h.mem_patterns_iff _).mpr ⟨other, hother, rfl⟩
    rw [other.pattern_eq_cons, hrange, h.distinct.cons_mem_patterns_iff, hlookup] at hmem
    obtain ⟨u, hu, _⟩ := hmem
    cases hu

/-- A subscription that is admitted and added is in force, and nothing is changed when it is not
added. -/
theorem Tracks.addMatch (h : Tracks t inForce) {idRoom reporterRoom : Bool}
    (hadmitted : request.Admitted idRoom reporterRoom inForce) :
  (∃ t', EventMatchTree.addMatch request idRoom reporterRoom t = (.ok, t') ∧
      Tracks t' (request :: inForce)) ∨
    ∃ result, result ≠ .ok ∧
      EventMatchTree.addMatch request idRoom reporterRoom t = (result, t)
  := by
  obtain ⟨hsame, hroom⟩ := hadmitted
  rw [addMatch_eq]
  split_ifs with hfull hpart
  · right
    use full, by decide
  · -- The matcher of ids was there before.
    right
    obtain ⟨hspecific, hreporterRoom, _⟩ := hpart
    have hlookup : t.lookup (.eventIdRange request.idRange) ≠ none := by
      cases idRoom with
      | false =>
          intro hnone
          apply hfull ⟨hnone, rfl⟩
      | true =>
          rw [h.lookup_ne_none_iff]
          apply hroom hspecific rfl hreporterRoom
    use full, by decide
    rw [extend, extend, link_under _ _ hlookup]
  · left
    -- No pattern is a part of the new one, or has it as a part.
    have hpart : ∀ pattern ∈ t.patterns, pattern <+: request.pattern ∨ request.pattern <+: pattern →
        pattern = request.pattern := by
      intro pattern hpattern hpre
      obtain ⟨other, hother, rfl⟩ := (h.mem_patterns_iff _).mp hpattern
      rcases hpre with hpre | hpre
      · apply EventRequest.pattern_eq_of_prefix hpre (hsame other hother)
      · symm
        apply EventRequest.pattern_eq_of_prefix hpre
        intro hrange
        rw [hsame other hother hrange.symm]
    have hextend : t.extend request.pattern = t.insertPattern request.pattern := by
      apply h.distinct.extend_eq
      intro pattern hpattern hpre
      rw [hpart pattern hpattern (Or.inr hpre)]
    refine ⟨_, rfl, ?_, ?_⟩
    · rw [hextend]
      apply h.distinct.insertPattern
    · intro pattern
      have hne : request.pattern ≠ [] := by
        rw [request.pattern_eq_cons]
        simp
      rw [hextend, h.distinct.patterns_insertPattern hne
        (fun pattern hpattern hpre => hpart pattern hpattern (Or.inl hpre)), h.mem_patterns_iff]
      constructor
      · rintro (rfl | ⟨⟨other, hother, rfl⟩, _⟩)
        · use request, List.mem_cons_self
        · use other, List.mem_cons_of_mem _ hother
      · rintro ⟨other, hother, rfl⟩
        rcases List.mem_cons.mp hother with rfl | hother
        · left
          rfl
        · by_cases hpre : request.pattern <+: other.pattern
          · left
            apply hpart _ ((h.mem_patterns_iff _).mpr ⟨other, hother, rfl⟩) (Or.inr hpre)
          · right
            use ⟨other, hother, rfl⟩

/-- A subscription that is removed is not in force any more, and nothing is changed when it is not
removed. -/
theorem Tracks.removeMatch (h : Tracks t inForce) (request : EventRequest) :
  (∃ t', EventMatchTree.removeMatch request t = (.ok, t') ∧
      Tracks t' (inForce.filter (·.pattern ≠ request.pattern))) ∨
    ∃ result, result ≠ .ok ∧ EventMatchTree.removeMatch request t = (result, t)
  := by
  have hlength : ∀ pattern ∈ t.patterns, pattern.length ≤ 2 := by
    intro pattern hpattern
    obtain ⟨other, _, rfl⟩ := (h.mem_patterns_iff _).mp hpattern
    apply other.length_pattern_le
  rcases removeMatch_eq request h.distinct hlength with ⟨hmem, hremove⟩ | ⟨_, result, hne, hremove⟩
  · left
    use t.removePattern request.pattern, hremove, h.distinct.removePattern _
    intro pattern
    rw [h.distinct.patterns_removePattern hmem, h.mem_patterns_iff]
    constructor
    · rintro ⟨⟨other, hother, rfl⟩, hne⟩
      use other
      simp [hother, hne]
    · rintro ⟨other, hother, rfl⟩
      rw [List.mem_filter, decide_eq_true_iff] at hother
      use ⟨other, hother.1, rfl⟩, hother.2
  · right
    use result, hne

/-- The tree matches the events of the subscriptions in force, unless the id is zero and all events
are requested. -/
theorem Tracks.matchSubtree_iff (h : Tracks t inForce) (message : EventMessage)
    (hzero : message.eventId = 0 → ∀ request ∈ inForce, request.idFrom = 0 →
      ¬ request.IsSatisfied message) :
  matchSubtree EventMatcher.isMatch t message = true ↔
    ∃ request ∈ inForce, request.IsSatisfied message
  := by
  rw [MatchTree.matchSubtree_iff]
  constructor
  · rintro ⟨pattern, hpattern, hfits⟩
    obtain ⟨request, hrequest, rfl⟩ := (h.mem_patterns_iff _).mp hpattern
    use request, hrequest
    rw [request.fits_pattern_iff] at hfits
    use Or.inr hfits.1, hfits.2
  · rintro ⟨request, hrequest, hsatisfied⟩
    use request.pattern, (h.mem_patterns_iff _).mpr ⟨request, hrequest, rfl⟩
    rw [request.fits_pattern_iff]
    refine ⟨?_, hsatisfied.2⟩
    by_cases hall : request.idFrom = 0
    · apply request.isMatch_idRange_of_all hall
      intro hid
      apply hzero hid request hrequest hall hsatisfied
    · apply hsatisfied.1.resolve_left hall

end EventMatchTree

/-! ### Runs -/

namespace EventManager

/-- The subscriptions of a listener that are in force after a call with this result. -/
def inForceAfter (listener : MessageQueueId) (result : ReturnValue)
    (inForce : List EventRequest) : Call → List EventRequest
  | .subscribe listener' request _ _ =>
      if listener' = listener ∧ result = .ok then request :: inForce else inForce
  | .unsubscribe listener' request =>
      if listener' = listener ∧ result = .ok then
        inForce.filter (·.pattern ≠ request.pattern)
      else
        inForce

/-- Call the manager, and keep the subscriptions of a listener that are in force. -/
def step (listener : MessageQueueId) :
    Step (EventManager × List EventRequest) Call ReturnValue :=
  fun (M, inForce) call =>
    some (((M.call call).2, inForceAfter listener (M.call call).1 inForce call), (M.call call).1)

/-- The subscriptions of the listener are admitted. -/
def Call.Admissible (listener : MessageQueueId) (inForce : List EventRequest) : Call → Prop
  | .subscribe listener' request idRoom reporterRoom =>
      listener' = listener → request.Admitted idRoom reporterRoom inForce
  | .unsubscribe _ _ => True

/-- The tree of the listener has the subscriptions in force. -/
def Tracks (listener : MessageQueueId) (s : EventManager × List EventRequest) : Prop :=
  ∃ t, s.1.listenerList[listener]? = some ⟨t, false⟩ ∧ EventMatchTree.Tracks t s.2

/-- A listener is notified of what its tree matches. -/
theorem mem_notifyListeners_iff (M : EventManager) (listener : MessageQueueId)
    (message : EventMessage) :
  listener ∈ M.notifyListeners message ↔
    ∃ matchTree, M.listenerList[listener]? = some matchTree ∧ matchTree.isMatch message = true
  := by
  simp only [notifyListeners, List.mem_map, List.mem_filter, Prod.exists,
    Std.TreeMap.mem_toList_iff_getElem?_eq_some]
  constructor
  · rintro ⟨_, matchTree, ⟨hlookup, hmatch⟩, rfl⟩
    use matchTree
  · rintro ⟨matchTree, hlookup, hmatch⟩
    use listener, matchTree

/-- What a call does to the tree of its listener. -/
theorem call_eq (M : EventManager) (call : Call) :
  M.call call =
    match M.listenerList[call.listener]? with
    | none => (EventManagerIF.listenerNotFound, M)
    | some matchTree => ((call.change matchTree.tree).1,
        ⟨M.listenerList.insert call.listener { matchTree with tree := (call.change matchTree.tree).2 }⟩)
  := by
  cases call <;> rfl

/-- A call that is admissible changes the subscriptions when it succeeds, and does not change the
tree when it fails. -/
theorem Call.change_spec {call : Call} {t : BinaryTree EventMatcher} {inForce : List EventRequest}
    (h : EventMatchTree.Tracks t inForce) (hadmissible : call.Admissible call.listener inForce) :
  (∃ t', call.change t = (.ok, t') ∧
      EventMatchTree.Tracks t' (inForceAfter call.listener .ok inForce call)) ∨
    ∃ result, result ≠ .ok ∧ call.change t = (result, t)
  := by
  cases call with
  | subscribe listener request idRoom reporterRoom =>
      simpa [inForceAfter, Call.listener, Call.change] using h.addMatch (hadmissible rfl)
  | unsubscribe listener request =>
      simpa [inForceAfter, Call.listener, Call.change] using h.removeMatch request

theorem inForceAfter_eq_self {listener : MessageQueueId} {result : ReturnValue} {call : Call}
    (h : ¬ (call.listener = listener ∧ result = .ok)) (inForce : List EventRequest) :
  inForceAfter listener result inForce call = inForce
  := by
  cases call with
  | subscribe listener' request idRoom reporterRoom =>
      apply if_neg h
  | unsubscribe listener' request =>
      apply if_neg h

/-- What a call does to the tree of a listener: the subscriptions are changed when it succeeds, and
the tree is not changed when it fails. -/
theorem Tracks.call {listener : MessageQueueId} {M : EventManager} {inForce : List EventRequest}
    (h : Tracks listener (M, inForce)) {call : Call}
    (hadmissible : call.Admissible listener inForce) :
  Tracks listener ((M.call call).2, inForceAfter listener (M.call call).1 inForce call) ∧
    ((M.call call).1 ≠ .ok →
      (M.call call).2.listenerList[listener]? = M.listenerList[listener]?)
  := by
  obtain ⟨t, hlookup, htracks⟩ := h
  by_cases heq : call.listener = listener
  · subst heq
    rw [call_eq, hlookup]
    simp only
    rcases Call.change_spec htracks hadmissible with ⟨t', hchange, htracks'⟩ | ⟨result, hne, hchange⟩
    · rw [hchange]
      refine ⟨⟨t', ?_, htracks'⟩, fun hfailed => ?_⟩
      · simp
      · cases hfailed rfl
    · rw [hchange, inForceAfter_eq_self (by simp [hne])]
      refine ⟨⟨t, ?_, htracks⟩, fun _ => ?_⟩
      · simp
      · simp
  · -- Another listener calls.
    have hother : (M.call call).2.listenerList[listener]? = M.listenerList[listener]? := by
      rw [call_eq]
      split
      · rfl
      · rw [Std.TreeMap.getElem?_insert, if_neg (by simpa using heq)]
    rw [inForceAfter_eq_self (by simp [heq])]
    exact ⟨⟨t, hother.trans hlookup, htracks⟩, fun _ => hother⟩

/-- A listener that has just been registered has no subscriptions in force. -/
theorem tracks_registerListener (M : EventManager) {listener : MessageQueueId}
    (hnew : listener ∉ M.listenerList) :
  Tracks listener ((M.registerListener listener false).2, [])
  := by
  use nil
  constructor
  · simp [registerListener, hnew]
  · apply EventMatchTree.tracks_nil

/-- When the subscriptions of a listener are admitted, it is forwarded exactly the events of those
in force, except that the id zero is left out when all events are requested, and a call that fails
does not change this. -/
theorem subscriptions_exact (M : EventManager) (listener : MessageQueueId)
    (hnew : listener ∉ M.listenerList) (calls : List Call)
    (hcalls : (step listener).Along (fun s call => call.Admissible listener s.2)
      ((M.registerListener listener false).2, []) calls) :
  ∃ M' inForce results,
    (step listener).run ((M.registerListener listener false).2, []) calls =
      some ((M', inForce), results) ∧
    (∀ message : EventMessage, (message.eventId = 0 → ∀ request ∈ inForce, request.idFrom = 0 →
        ¬ request.IsSatisfied message) →
      (listener ∈ M'.notifyListeners message ↔
        ∃ request ∈ inForce, request.IsSatisfied message)) ∧
    ∀ call : Call, call.Admissible listener inForce → (M'.call call).1 ≠ .ok →
      ∀ message, listener ∈ (M'.call call).2.notifyListeners message ↔
        listener ∈ M'.notifyListeners message
  := by
  obtain ⟨⟨M', inForce⟩, results, hrun, htracks⟩ :=
    Step.run_invariant (I := Tracks listener) (P := fun s call => Call.Admissible listener s.2 call)
      (fun s call hs hcall => ⟨_, _, rfl, (hs.call hcall).1⟩) (tracks_registerListener M hnew) hcalls
  refine ⟨M', inForce, results, hrun, ?_, ?_⟩
  · intro message hzero
    obtain ⟨t, hlookup, ht⟩ := htracks
    rw [mem_notifyListeners_iff, ← ht.matchSubtree_iff message hzero]
    simp [hlookup, EventMatchTree.isMatch]
  · intro call hcall hfailed message
    rw [mem_notifyListeners_iff, mem_notifyListeners_iff, (htracks.call hcall).2 hfailed]

/-! ### Small examples -/

/-- A manager with the listener 1. -/
def oneListener : EventManager :=
  ((⟨∅⟩ : EventManager).registerListener 1 false).2

/-- The events with an id from 5 to 9. -/
def rangeRequest : EventRequest :=
  ⟨5, 9, false, 0, 0, false⟩

/-- The events with the id 5 and the reporter 3. -/
def reporterRequest : EventRequest :=
  ⟨5, 0, false, 3, 0, false⟩

/-- The events with the id 5. -/
def idRequest : EventRequest :=
  ⟨5, 0, false, 0, 0, false⟩

/-- Subscriptions for different ids are exact. -/
theorem subscriptions_exact_twoRanges :
  ∃ M' inForce results,
    (step 1).run (oneListener, []) [.subscribe 1 rangeRequest true true,
      .subscribe 1 reporterRequest true true] = some ((M', inForce), results) ∧
    ∀ message : EventMessage, message.eventId ≠ 0 →
      (1 ∈ M'.notifyListeners message ↔ ∃ request ∈ inForce, request.IsSatisfied message)
  := by
  obtain ⟨M', inForce, results, hrun, hexact, _⟩ := subscriptions_exact ⟨∅⟩ 1 (by simp)
    [.subscribe 1 rangeRequest true true, .subscribe 1 reporterRequest true true] (by
      refine ⟨fun _ => ⟨by simp, by simp⟩, fun s result hstep => ⟨fun _ => ⟨?_, by simp⟩, ?_⟩⟩
      · cases hstep
        simp only [inForceAfter]
        split_ifs
        · decide
        · simp
      · intro _ _ _
        trivial)
  use M', inForce, results, hrun
  intro message hid
  apply hexact message
  intro hzero
  cases hid hzero

/-- A subscription for all reporters after one for some is without effect. -/
theorem not_subscriptions_exact_general :
  ¬ ∀ s results, (step 1).run (oneListener, []) [.subscribe 1 reporterRequest true true,
      .subscribe 1 idRequest true true] = some (s, results) →
    ∀ message, 1 ∈ s.1.notifyListeners message ↔ ∃ request ∈ s.2, request.IsSatisfied message
  := by
  intro h
  have hexact := h _ _ rfl ⟨5, 4⟩
  revert hexact
  decide +kernel

end EventManager
