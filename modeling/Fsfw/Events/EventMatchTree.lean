import Fsfw.GlobalFunctions.MatchTree

/-!
# The events a listener is sent

A match tree of events has two levels: the matchers on the first OR branch are for ranges of event
ids, and those on the OR branches below for ranges of reporters.  A request is a range of ids and
maybe a range of reporters, and the pattern of these matchers is added to or removed from the tree.
-/

open BinaryTree MatchTree

/-! ### Matchers -/

structure RangeMatcher (T : Type*) where
  lowerBound : T
  upperBound : T
  inverted : Bool
  deriving DecidableEq, Repr

namespace RangeMatcher

variable {T : Type*} [LE T] [DecidableLE T]

def doMatch (matcher : RangeMatcher T) (input : T) : Bool :=
  input ≥ matcher.lowerBound ∧ input ≤ matcher.upperBound

def isMatch (matcher : RangeMatcher T) (input : T) : Bool :=
  if matcher.inverted then ¬ matcher.doMatch input else matcher.doMatch input

end RangeMatcher

/-- What matchers look at in the message about an event. -/
structure EventMessage where
  eventId : UInt16
  reporter : UInt32
  deriving DecidableEq, Repr

inductive EventMatcher where
  | eventIdRange (rangeMatcher : RangeMatcher UInt16)
  | reporterRange (rangeMatcher : RangeMatcher UInt32)
  deriving DecidableEq, Repr

def EventMatcher.isMatch : EventMatcher → EventMessage → Bool
  | eventIdRange rangeMatcher, message => rangeMatcher.isMatch message.eventId
  | reporterRange rangeMatcher, message => rangeMatcher.isMatch message.reporter

/-! ### Requests -/

/-- The arguments of a subscription. -/
structure EventRequest where
  idFrom : UInt16
  idTo : UInt16
  idInverted : Bool
  reporterFrom : UInt32
  reporterTo : UInt32
  reporterInverted : Bool
  deriving DecidableEq, Repr

namespace EventRequest

/-- All events are requested when the range begins with zero.  An end that is zero stands for the
beginning. -/
def idRange (request : EventRequest) : RangeMatcher UInt16 :=
  let idTo := if request.idFrom = 0 then 0 else request.idTo
  let idInverted := if request.idFrom = 0 then true else request.idInverted
  ⟨request.idFrom, if idTo = 0 then request.idFrom else idTo, idInverted⟩

def reporterRange (request : EventRequest) : RangeMatcher UInt32 :=
  ⟨request.reporterFrom,
    if request.reporterTo = 0 then request.reporterFrom else request.reporterTo,
    request.reporterInverted⟩

end EventRequest

/-! ### The tree -/

structure EventMatchTree where
  tree : BinaryTree EventMatcher
  invertedMatch : Bool

namespace EventMatchTree

/-- A matcher is found by its range. -/
def findOrInsertRangeMatcher (newContent : EventMatcher) (room : Bool)
    (t : BinaryTree EventMatcher) (start : Position) (lastTest : Option Position) :
    ReturnValue × Option Position × BinaryTree EventMatcher :=
  match findOrInsert (· = newContent) newContent room t start lastTest with
  | (.found, lastTest, t) => (.ok, lastTest, t)
  | (.created, none, t) => (.failed, none, t)
  | (.created, some newNode, t) => (.ok, some newNode, t)
  | (.full, lastTest, t) => (full, lastTest, t)

def findRangeMatcher (content : EventMatcher) (t : BinaryTree EventMatcher) (start : Position) :
    Option Position :=
  find (· = content) t start

/-- The pool may have room for a matcher of ids and a node, and for a matcher of reporters and a
node. -/
def addMatch (request : EventRequest) (idRoom reporterRoom : Bool) (t : BinaryTree EventMatcher) :
    ReturnValue × BinaryTree EventMatcher :=
  match findOrInsertRangeMatcher (.eventIdRange request.idRange) idRoom t [] none with
  | (.ok, some lastTest, t) =>
      if request.reporterFrom = 0 then
        (.ok, t)
      else
        match findOrInsertRangeMatcher (.reporterRange request.reporterRange) reporterRoom t
            (AND :: lastTest) (some lastTest) with
        | (result, _, t) => (result, t)
  | (result, _, t) => (result, t)

def removeMatch (request : EventRequest) (t : BinaryTree EventMatcher) :
    ReturnValue × BinaryTree EventMatcher :=
  match findRangeMatcher (.eventIdRange request.idRange) t [] with
  | none => (noMatch, t)
  | some foundElement =>
      if request.reporterFrom = 0 then
        if t.subtree (AND :: foundElement) = nil then
          (.ok, removeElementAndReconnectChildren t foundElement)
        else
          (tooGeneralRequest, t)
      else
        match findRangeMatcher (.reporterRange request.reporterRange) t (AND :: foundElement) with
        | none => (noMatch, t)
        | some foundElement => (.ok, removeElementAndReconnectChildren t foundElement)

def isMatch (M : EventMatchTree) (message : EventMessage) : Bool :=
  if M.invertedMatch then
    ¬ matchSubtree EventMatcher.isMatch M.tree message
  else
    matchSubtree EventMatcher.isMatch M.tree message

end EventMatchTree

namespace EventRequest

/-- The matchers of a request. -/
def pattern (request : EventRequest) : List EventMatcher :=
  if request.reporterFrom = 0 then
    [.eventIdRange request.idRange]
  else
    [.eventIdRange request.idRange, .reporterRange request.reporterRange]

theorem pattern_eq_cons (request : EventRequest) :
  request.pattern = .eventIdRange request.idRange ::
    if request.reporterFrom = 0 then [] else [.reporterRange request.reporterRange]
  := by
  rw [pattern]
  split_ifs <;> rfl

theorem length_pattern_le (request : EventRequest) :
  request.pattern.length ≤ 2
  := by
  rw [pattern]
  split_ifs <;> simp

theorem pattern_general {request : EventRequest} (h : request.reporterFrom = 0) :
  request.pattern = [.eventIdRange request.idRange]
  := by
  rw [pattern, if_pos h]

theorem pattern_specific {request : EventRequest} (h : request.reporterFrom ≠ 0) :
  request.pattern =
    [.eventIdRange request.idRange, .reporterRange request.reporterRange]
  := by
  rw [pattern, if_neg h]

end EventRequest

namespace EventMatchTree

variable (request : EventRequest) (t : BinaryTree EventMatcher)

theorem singlesOut_eq {α : Type*} [DecidableEq α] (value : α) (s : BinaryTree α) :
  SinglesOut (· = value) value s
  := by
  intro value' _
  apply decide_eq_true_iff

/-- A matcher is found or added, and what was below it stays. -/
theorem findOrInsertRangeMatcher_spec {t : BinaryTree EventMatcher} {start : Position}
    (hbegins : Begins t start) (content : EventMatcher) (room : Bool) :
  (((t.subtree start).lookup content = none ∧ room = false) ∧
      ∃ lastTest, findOrInsertRangeMatcher content room t start (up start) =
        (full, lastTest, t)) ∨
    ¬ ((t.subtree start).lookup content = none ∧ room = false) ∧
      ∃ position t', findOrInsertRangeMatcher content room t start (up start) =
        (.ok, some position, t') ∧ Focuses content t start t' position
  := by
  rcases findOrInsert_spec hbegins (singlesOut_eq content _) room with
    ⟨position, hfound, hlookup, hfocuses⟩ |
    ⟨hlookup, ⟨hroom, position, hcreated, _, hfocuses⟩ | ⟨hroom, lastTest, hfull⟩⟩
  · right
    refine ⟨by simp [hlookup], position, t, ?_, hfocuses⟩
    rw [findOrInsertRangeMatcher, hfound]
  · right
    refine ⟨by simp [hroom], position, _, ?_, hfocuses⟩
    rw [findOrInsertRangeMatcher, hcreated]
  · left
    refine ⟨⟨hlookup, hroom⟩, lastTest, ?_⟩
    rw [findOrInsertRangeMatcher, hfull]

/-- What adding a request does to the tree: it is extended by the pattern of the request, or only by
the matcher of ids when there is no room for the one of reporters. -/
theorem addMatch_eq (idRoom reporterRoom : Bool) :
  addMatch request idRoom reporterRoom t =
    if t.lookup (.eventIdRange request.idRange) = none ∧ idRoom = false then
      (full, t)
    else if request.reporterFrom ≠ 0 ∧ reporterRoom = false ∧
        (t.under (.eventIdRange request.idRange)).lookup
          (.reporterRange request.reporterRange) = none then
      (full, t.extend [.eventIdRange request.idRange])
    else
      (.ok, t.extend request.pattern)
  := by
  have hid := findOrInsertRangeMatcher_spec (t := t) (Or.inl rfl) (.eventIdRange request.idRange)
    idRoom
  simp only [subtree, up] at hid
  rcases hid with ⟨hfull, lastTest, hfind⟩ | ⟨hroom, position, t', hfind, hfocuses⟩
  · rw [addMatch, hfind, if_pos hfull]
  · have ht' : t' = t.extend [.eventIdRange request.idRange] := hfocuses.eq_replace
    rw [addMatch, hfind, if_neg hroom]
    simp only
    by_cases hgeneral : request.reporterFrom = 0
    · simp [hgeneral, ht', EventRequest.pattern]
    · have hreporter := findOrInsertRangeMatcher_spec hfocuses.begins
        (.reporterRange request.reporterRange) reporterRoom
      simp only [up, hfocuses.subtree_eq] at hreporter
      rcases hreporter with ⟨hfull, lastTest, hfind'⟩ | ⟨hroom', position', t'', hfind', hfocuses'⟩
      · rw [if_neg hgeneral, hfind', if_pos ⟨hgeneral, hfull.2, hfull.1⟩, ht']
      · have hneg : ¬ (request.reporterFrom ≠ 0 ∧ reporterRoom = false ∧
            (t.under (.eventIdRange request.idRange)).lookup
              (.reporterRange request.reporterRange) = none) := by
          rintro ⟨_, hroom'', hlookup⟩
          apply hroom' ⟨hlookup, hroom''⟩
        have ht'' : t'' = t.extend request.pattern := by
          rw [hfocuses'.eq_replace, hfocuses.replace_eq, hfocuses.subtree_eq,
            EventRequest.pattern_specific hgeneral]
          rfl
        rw [if_neg hgeneral, hfind', if_neg hneg, ht'']

/-- A request is removed when its pattern is in the tree, where no pattern has more than two
matchers. -/
theorem removeMatch_eq {t : BinaryTree EventMatcher} (hdistinct : t.Distinct)
    (hlength : ∀ pattern ∈ t.patterns, pattern.length ≤ 2) :
  (request.pattern ∈ t.patterns ∧
      removeMatch request t = (.ok, t.removePattern request.pattern)) ∨
    (request.pattern ∉ t.patterns ∧ ∃ result, result ≠ .ok ∧ removeMatch request t = (result, t))
  := by
  rcases find_root (t := t) (singlesOut_eq (EventMatcher.eventIdRange request.idRange) _) with
    ⟨hlookup, hfind⟩ | ⟨position, hfind, hreaches⟩
  · -- There is no matcher of these ids.
    right
    constructor
    · intro hmem
      rw [request.pattern_eq_cons, hdistinct.cons_mem_patterns_iff] at hmem
      obtain ⟨u, hu, _⟩ := hmem
      rw [hlookup] at hu
      cases hu
    · use noMatch, by decide
      simp [removeMatch, findRangeMatcher, hfind]
  · by_cases hgeneral : request.reporterFrom = 0
    · rw [EventRequest.pattern_general hgeneral, hreaches.mem_patterns_iff hdistinct]
      by_cases hnil : t.subtree (AND :: position) = nil
      · left
        use hnil
        simp [removeMatch, findRangeMatcher, hfind, hgeneral, hnil, hreaches.remove_eq]
      · right
        use hnil, tooGeneralRequest, by decide
        simp [removeMatch, findRangeMatcher, hfind, hgeneral, hnil]
    · rw [EventRequest.pattern_specific hgeneral]
      rcases hreaches.find (by simp)
          (singlesOut_eq (EventMatcher.reporterRange request.reporterRange) _) with
        ⟨hlookup, hfind'⟩ | ⟨position', hfind', hreaches'⟩
      · right
        constructor
        · have hmem := hdistinct.append_mem_patterns_iff
            [.eventIdRange request.idRange] (.reporterRange request.reporterRange)
          rw [hlookup] at hmem
          simpa using hmem
        · use noMatch, by decide
          simp [removeMatch, findRangeMatcher, hfind, hgeneral, hfind']
      · left
        constructor
        · apply (hreaches'.mem_patterns_iff hdistinct).mpr
          -- Below the matcher of reporters there is nothing.
          rw [hreaches'.subtree_eq]
          apply eq_nil_of_patterns
          intro rest hrest
          have hmem := hdistinct.cons_mem_of_mem_under
            ((hdistinct.under _).cons_mem_of_mem_under hrest)
          have hshort := hlength _ hmem
          have hpos := List.length_pos_of_ne_nil (ne_nil_of_mem_patterns hrest)
          simp only [List.length_cons] at hshort
          omega
        · simp only [removeMatch, findRangeMatcher, hfind, hgeneral, if_false, hfind',
            hreaches'.remove_eq]
          rfl

end EventMatchTree
