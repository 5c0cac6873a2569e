import Fsfw.GlobalFunctions.MatchTree
import Fsfw.Library.Run

/-!
# Selecting telemetry packets

A match tree of telemetry packets has three levels, for the APID, the service and the subservice.  A
pattern is looked for with a test packet, and added or removed level by level.  When a pattern is
added, the more special ones below it are deleted, and when the pool is full on the way, what has
been added is removed again.

The APID of the test packet is not set, so all patterns are for the APID zero.  Moreover a pattern
that is more special than another one narrows that one down, and a pattern that is more general than
other ones takes them with it when it is removed.  When no such thing happens, the tree matches the
packets that fit a pattern in force (`selection_exact`).
-/

open BinaryTree MatchTree

/-- What matchers look at in a packet. -/
structure PusTm where
  apid : UInt16
  service : UInt8
  subService : UInt8
  deriving DecidableEq, Repr

/-! ### Matchers -/

inductive PacketMatcher where
  | apid (apid : UInt16)
  | service (service : UInt8)
  | subService (subService : UInt8)
  deriving DecidableEq, Repr

def PacketMatcher.isMatch : PacketMatcher → PusTm → Bool
  | apid setApid, packet => packet.apid = setApid
  | service setService, packet => packet.service = setService
  | subService setSubService, packet => packet.subService = setSubService

/-! ### Test packets -/

/-- A packet without variable fields. -/
structure PusTmMinimal where
  service : UInt8
  subService : UInt8

namespace PusTmMinimal

/-- Nothing is set. -/
def setApid (_apid : UInt16) (packet : PusTmMinimal) : PusTmMinimal :=
  packet

def getPacketIdRaw (_packet : PusTmMinimal) : UInt16 :=
  0

def getApid (packet : PusTmMinimal) : UInt16 :=
  packet.getPacketIdRaw &&& 0x7ff

/-- What matchers look at. -/
def toPusTm (packet : PusTmMinimal) : PusTm :=
  ⟨packet.getApid, packet.service, packet.subService⟩

end PusTmMinimal

/-! ### The tree -/

namespace PacketMatchTree

/-- The arguments of a call. -/
structure Request where
  apid : UInt16
  type : UInt8
  subtype : UInt8
  deriving DecidableEq, Repr

/-- Whether the pool has room for a matcher of each level and its node. -/
structure Room where
  apid : Bool
  service : Bool
  subService : Bool

def testPacket (request : Request) : PusTm :=
  (PusTmMinimal.setApid request.apid ⟨request.type, request.subtype⟩).toPusTm

/-- A matcher is found by the test packet. -/
def findOrInsertMatch (newContent : PacketMatcher) (test : PusTm) (room : Bool)
    (t : BinaryTree PacketMatcher) (startAt : Position) (lastTest : Option Position) :
    ReturnValue × Option Position × BinaryTree PacketMatcher :=
  match findOrInsert (·.isMatch test) newContent room t startAt lastTest with
  | (.found, lastTest, t) => (.ok, lastTest, t)
  | (.created, none, t) => (.failed, none, t)
  | (.created, some newNode, t) => (newNodeCreated, some newNode, t)
  | (.full, lastTest, t) => (full, lastTest, t)

def findMatch (test : PusTm) (t : BinaryTree PacketMatcher) (startAt : Position) :
    Option Position :=
  find (·.isMatch test) t startAt

/-- Remove what has been added, if anything has. -/
def undo (rollback : Option Position) (t : BinaryTree PacketMatcher) : BinaryTree PacketMatcher :=
  match rollback with
  | none => t
  | some rollback => removeElementAndAllChildren t rollback

/-- Remove what is below an element, since a more general check is requested. -/
def removeChildren (lastTest : Position) (t : BinaryTree PacketMatcher) :
    BinaryTree PacketMatcher :=
  if t.subtree (AND :: lastTest) ≠ nil then
    removeElementAndAllChildren t (AND :: lastTest)
  else
    t

/-- The last part of `addMatch`, below the matcher of the service. -/
def addSubService (request : Request) (room : Room) (rollback : Option Position)
    (lastTest : Position) (t : BinaryTree PacketMatcher) :
    ReturnValue × BinaryTree PacketMatcher :=
  if request.subtype = 0 then
    (.ok, removeChildren lastTest t)
  else
    match findOrInsertMatch (.subService (testPacket request).subService) (testPacket request)
        room.subService t (AND :: lastTest) (some lastTest) with
    | (result, _, t) =>
        if result = newNodeCreated then
          (.ok, t)
        else if result ≠ .ok then
          (result, undo rollback t)
        else
          (.ok, t)

/-- The part of `addMatch` below the matcher of the APID. -/
def addService (request : Request) (room : Room) (rollback : Option Position)
    (lastTest : Position) (t : BinaryTree PacketMatcher) :
    ReturnValue × BinaryTree PacketMatcher :=
  if request.type = 0 then
    (.ok, removeChildren lastTest t)
  else
    match findOrInsertMatch (.service (testPacket request).service) (testPacket request)
        room.service t (AND :: lastTest) (some lastTest) with
    | (result, none, t) => (result, undo rollback t)
    | (result, some lastTest, t) =>
        if result = newNodeCreated then
          addSubService request room (if rollback = none then some lastTest else rollback) lastTest t
        else if result ≠ .ok then
          (result, undo rollback t)
        else
          addSubService request room rollback lastTest t

def addMatch (request : Request) (room : Room) (t : BinaryTree PacketMatcher) :
    ReturnValue × BinaryTree PacketMatcher :=
  match findOrInsertMatch (.apid (testPacket request).apid) (testPacket request) room.apid t []
      none with
  | (result, none, t) => (result, t)
  | (result, some lastTest, t) =>
      if result = newNodeCreated then
        addService request room (some lastTest) lastTest t
      else if result ≠ .ok then
        (result, t)
      else
        addService request room none lastTest t

/-- Remove an element that has nothing below it. -/
def removeGeneral (foundElement : Position) (t : BinaryTree PacketMatcher) :
    ReturnValue × BinaryTree PacketMatcher :=
  if t.subtree (AND :: foundElement) = nil then
    (.ok, removeElementAndReconnectChildren t foundElement)
  else
    (tooGeneralRequest, t)

def removeMatch (request : Request) (t : BinaryTree PacketMatcher) :
    ReturnValue × BinaryTree PacketMatcher :=
  let test := testPacket request
  match findMatch test t [] with
  | none => (noMatch, t)
  | some foundElement =>
      if request.type = 0 then
        removeGeneral foundElement t
      else
        match findMatch test t (AND :: foundElement) with
        | none => (noMatch, t)
        | some foundElement =>
            if request.subtype = 0 then
              removeGeneral foundElement t
            else
              match findMatch test t (AND :: foundElement) with
              | none => (noMatch, t)
              | some foundElement => (.ok, removeElementAndReconnectChildren t foundElement)

def isMatch (t : BinaryTree PacketMatcher) (packet : PusTm) : Bool :=
  matchSubtree PacketMatcher.isMatch t packet

/-! ### What the calls do to the patterns of the tree -/

/-- The matchers of a request. -/
def Request.pattern (request : Request) : List PacketMatcher :=
  .apid 0 ::
    if request.type = 0 then
      []
    else
      .service request.type ::
        if request.subtype = 0 then [] else [.subService request.subtype]

/-- The APID of the test packet is zero. -/
theorem testPacket_eq (request : Request) :
  testPacket request = ⟨0, request.type, request.subtype⟩
  := by
  have hapid : (0 : UInt16) &&& 0x7ff = 0 := by
    decide
  rw [testPacket, PusTmMinimal.toPusTm, PusTmMinimal.getApid, PusTmMinimal.getPacketIdRaw, hapid]
  rfl

/-- All patterns of the tree are those of requests. -/
def Leveled (t : BinaryTree PacketMatcher) : Prop :=
  ∀ pattern ∈ t.patterns, ∃ request : Request, request.pattern = pattern

section

variable {t : BinaryTree PacketMatcher} (hdistinct : t.Distinct) (hleveled : Leveled t)
variable (test : PusTm)

include hdistinct hleveled

theorem singlesOut_apid (hapid : test.apid = 0) :
  SinglesOut (PacketMatcher.isMatch · test) (.apid test.apid) t
  := by
  intro value hlookup
  obtain ⟨rest, hrest⟩ := hdistinct.exists_cons_mem_patterns hlookup
  obtain ⟨request, hrequest⟩ := hleveled _ hrest
  cases hrequest
  simp [PacketMatcher.isMatch, hapid]

theorem singlesOut_service :
  SinglesOut (PacketMatcher.isMatch · test) (.service test.service) (t.under (.apid 0))
  := by
  intro value hlookup
  obtain ⟨rest, hrest⟩ := (hdistinct.under _).exists_cons_mem_patterns hlookup
  obtain ⟨request, hrequest⟩ := hleveled _ (hdistinct.cons_mem_of_mem_under hrest)
  simp only [Request.pattern, List.cons.injEq, true_and] at hrequest
  split_ifs at hrequest
  · cases hrequest
    simp only [PacketMatcher.isMatch, decide_eq_true_iff, PacketMatcher.service.injEq]
    apply eq_comm
  · cases hrequest
    simp only [PacketMatcher.isMatch, decide_eq_true_iff, PacketMatcher.service.injEq]
    apply eq_comm

theorem singlesOut_subService (service : UInt8) :
  SinglesOut (PacketMatcher.isMatch · test) (.subService test.subService)
    ((t.under (.apid 0)).under (.service service))
  := by
  intro value hlookup
  obtain ⟨rest, hrest⟩ := ((hdistinct.under _).under _).exists_cons_mem_patterns hlookup
  obtain ⟨request, hrequest⟩ := hleveled _
    (hdistinct.cons_mem_of_mem_under ((hdistinct.under _).cons_mem_of_mem_under hrest))
  simp only [Request.pattern, List.cons.injEq, true_and] at hrequest
  split_ifs at hrequest
  · simp at hrequest
  · obtain ⟨_, rfl, _⟩ := by simpa using hrequest
    simp only [PacketMatcher.isMatch, decide_eq_true_iff, PacketMatcher.subService.injEq]
    apply eq_comm

end

/-- A matcher is found or added, and what was below it stays.  The matcher that was added can be
removed again. -/
theorem findOrInsertMatch_spec {t : BinaryTree PacketMatcher} {startAt : Position}
    (hbegins : Begins t startAt) {test : PusTm} {content : PacketMatcher}
    (htest : SinglesOut (PacketMatcher.isMatch · test) content (t.subtree startAt)) (room : Bool) :
  (∃ lastTest, findOrInsertMatch content test room t startAt (up startAt) = (full, lastTest, t)) ∨
    ∃ result position t',
      findOrInsertMatch content test room t startAt (up startAt) = (result, some position, t') ∧
      Focuses content t startAt t' position ∧
      ((result = .ok ∧ t' = t) ∨ (result = newNodeCreated ∧ t'.replace position nil = t))
  := by
  rcases findOrInsert_spec hbegins htest room with
    ⟨position, hfound, _, hfocuses⟩ |
    ⟨_, ⟨_, position, hcreated, hnil, hfocuses⟩ | ⟨_, lastTest, hfull⟩⟩
  · right
    refine ⟨.ok, position, t, ?_, hfocuses, Or.inl ⟨rfl, rfl⟩⟩
    rw [findOrInsertMatch, hfound]
  · right
    refine ⟨newNodeCreated, position, _, ?_, hfocuses, Or.inr ⟨rfl, ?_⟩⟩
    · rw [findOrInsertMatch, hcreated]
    · rw [replace_replace, ← hnil, replace_subtree]
  · left
    use lastTest
    rw [findOrInsertMatch, hfull]

/-- Nothing is below an element after its children have been removed. -/
theorem removeChildren_eq (lastTest : Position) (t : BinaryTree PacketMatcher) :
  removeChildren lastTest t = t.replace (AND :: lastTest) nil
  := by
  rw [removeChildren]
  split_ifs with h
  · rfl
  · rw [not_not] at h
    rw [← h, replace_subtree]

/-- What holds while a pattern is added to a tree `t`: the matcher that was found or added last
gives access to the tree `below` in `t`, and the tree can be made as it was. -/
structure Progress (t : BinaryTree PacketMatcher)
    (put : BinaryTree PacketMatcher → BinaryTree PacketMatcher) (below : BinaryTree PacketMatcher)
    (rollback : Option Position) (lastTest : Position) (t' : BinaryTree PacketMatcher) : Prop where
  subtree_ne : t'.subtree lastTest ≠ nil
  subtree_eq : t'.subtree (AND :: lastTest) = below
  replace_eq : ∀ u, t'.replace (AND :: lastTest) u = put u
  undone : (rollback = none ∧ t' = t) ∨
    ∃ position, rollback = some position ∧
      ∀ u, (t'.replace (AND :: lastTest) u).replace position nil = t

section

variable {t t' : BinaryTree PacketMatcher} {put : BinaryTree PacketMatcher → BinaryTree PacketMatcher}
variable {below : BinaryTree PacketMatcher} {rollback : Option Position} {lastTest : Position}

theorem Progress.undo_eq (h : Progress t put below rollback lastTest t') :
  undo rollback t' = t
  := by
  rcases h.undone with ⟨rfl, rfl⟩ | ⟨position, rfl, hundone⟩
  · rfl
  · have := hundone (t'.subtree (AND :: lastTest))
    rw [replace_subtree] at this
    apply this

theorem Progress.removeChildren_eq (h : Progress t put below rollback lastTest t') :
  removeChildren lastTest t' = put nil
  := by
  rw [PacketMatchTree.removeChildren_eq, h.replace_eq]

/-- The next matcher is found or added. -/
theorem Progress.findOrInsertMatch (h : Progress t put below rollback lastTest t') {test : PusTm}
    {content : PacketMatcher} (htest : SinglesOut (PacketMatcher.isMatch · test) content below)
    (room : Bool) :
  (∃ lastTest', PacketMatchTree.findOrInsertMatch content test room t' (AND :: lastTest)
      (some lastTest) = (full, lastTest', t')) ∨
    ∃ result lastTest' t'', PacketMatchTree.findOrInsertMatch content test room t'
        (AND :: lastTest) (some lastTest) = (result, some lastTest', t'') ∧
      ((result = .ok ∧ Progress t (fun u => put (below.link content u)) (below.under content)
          rollback lastTest' t'') ∨
        (result = newNodeCreated ∧ Progress t (fun u => put (below.link content u))
          (below.under content) (if rollback = none then some lastTest' else rollback)
          lastTest' t''))
  := by
  have hbegins : Begins t' (AND :: lastTest) := Or.inr ⟨lastTest, rfl, h.subtree_ne⟩
  rw [← h.subtree_eq] at htest
  rcases findOrInsertMatch_spec hbegins htest room with
    hfull | ⟨result, lastTest', t'', hfind, hfocuses, hresult⟩
  · left
    apply hfull
  · right
    use result, lastTest', t'', hfind
    have hreplace : ∀ u, t''.replace (AND :: lastTest') u = put (below.link content u) := by
      intro u
      rw [hfocuses.replace_eq, h.replace_eq, h.subtree_eq]
    have hsubtree : t''.subtree (AND :: lastTest') = below.under content := by
      rw [hfocuses.subtree_eq, h.subtree_eq]
    -- What is put below the matcher is undone with what has been added first.
    have hundone : ∀ position, (∀ u, (t'.replace (AND :: lastTest) u).replace position nil = t) →
        ∀ u, (t''.replace (AND :: lastTest') u).replace position nil = t := by
      intro position hposition u
      rw [hfocuses.replace_eq]
      apply hposition
    rcases hresult with ⟨rfl, rfl⟩ | ⟨rfl, hadded⟩
    · left
      refine ⟨rfl, hfocuses.subtree_ne, hsubtree, hreplace, ?_⟩
      rcases h.undone with ⟨rfl, rfl⟩ | ⟨position, rfl, hposition⟩
      · left
        use rfl
      · right
        use position, rfl, hundone position hposition
    · right
      refine ⟨rfl, hfocuses.subtree_ne, hsubtree, hreplace, Or.inr ?_⟩
      rcases h.undone with ⟨rfl, rfl⟩ | ⟨position, rfl, hposition⟩
      · use lastTest', rfl
        intro u
        have hforget := replace_replace_append t'' u nil lastTest' [AND]
        apply hforget.trans hadded
      · use position, rfl, hundone position hposition

/-- The end of the pattern is added, or the tree is as it was. -/
theorem Progress.addSubService {request : Request}
    (h : Progress t put below rollback lastTest t')
    (htest : SinglesOut (PacketMatcher.isMatch · ⟨0, request.type, request.subtype⟩)
      (.subService request.subtype) below)
    (hleaf : below.under (.subService request.subtype) = nil) (room : Room) :
  PacketMatchTree.addSubService request room rollback lastTest t' =
      (.ok, put (below.insertPattern
        (if request.subtype = 0 then [] else [.subService request.subtype]))) ∨
    ∃ result, result ≠ .ok ∧
      PacketMatchTree.addSubService request room rollback lastTest t' = (result, t)
  := by
  rw [PacketMatchTree.addSubService]
  simp only [testPacket_eq]
  by_cases hsubtype : request.subtype = 0
  · left
    rw [if_pos hsubtype, if_pos hsubtype, h.removeChildren_eq]
    rfl
  · rw [if_neg hsubtype, if_neg hsubtype]
    rcases h.findOrInsertMatch htest room.subService with
      ⟨lastTest', hfind⟩ | ⟨result, lastTest', t'', hfind, hresult⟩
    · right
      use full, by decide
      rw [hfind]
      simp [h.undo_eq]
    · left
      have ht'' : t'' = put (below.insertPattern [.subService request.subtype]) := by
        obtain ⟨rollback', hprogress⟩ : ∃ rollback', Progress t
            (fun u => put (below.link (.subService request.subtype) u))
            (below.under (.subService request.subtype)) rollback' lastTest' t'' := by
          rcases hresult with ⟨_, hprogress⟩ | ⟨_, hprogress⟩
          · use rollback
          · refine ⟨_, hprogress⟩
        rw [← replace_subtree t'' (AND :: lastTest'), hprogress.subtree_eq, hprogress.replace_eq,
          hleaf]
        rfl
      rw [hfind, ht'']
      rcases hresult with ⟨rfl, _⟩ | ⟨rfl, _⟩ <;> simp

/-- The pattern from the service on is added, or the tree is as it was. -/
theorem Progress.addService {request : Request}
    (h : Progress t put below rollback lastTest t')
    (hservice : SinglesOut (PacketMatcher.isMatch · ⟨0, request.type, request.subtype⟩)
      (.service request.type) below)
    (hsubService : SinglesOut (PacketMatcher.isMatch · ⟨0, request.type, request.subtype⟩)
      (.subService request.subtype) (below.under (.service request.type)))
    (hleaf : (below.under (.service request.type)).under (.subService request.subtype) = nil)
    (room : Room) :
  PacketMatchTree.addService request room rollback lastTest t' =
      (.ok, put (below.insertPattern request.pattern.tail)) ∨
    ∃ result, result ≠ .ok ∧
      PacketMatchTree.addService request room rollback lastTest t' = (result, t)
  := by
  rw [PacketMatchTree.addService, Request.pattern, List.tail_cons]
  simp only [testPacket_eq]
  by_cases htype : request.type = 0
  · left
    rw [if_pos htype, if_pos htype, h.removeChildren_eq]
    rfl
  · rw [if_neg htype, if_neg htype]
    rcases h.findOrInsertMatch hservice room.service with
      ⟨lastTest', hfind⟩ | ⟨result, lastTest', t'', hfind, hresult⟩
    · right
      use full, by decide
      rw [hfind]
      cases lastTest' <;> simp [h.undo_eq]
    · rw [hfind]
      rcases hresult with ⟨rfl, hprogress⟩ | ⟨rfl, hprogress⟩
      · simpa [insertPattern] using hprogress.addSubService hsubService hleaf room
      · simpa [insertPattern] using hprogress.addSubService hsubService hleaf room

end

theorem Request.length_pattern_le (request : Request) :
  request.pattern.length ≤ 3
  := by
  rw [pattern]
  split_ifs <;> simp

/-- Nothing is below the matchers of subservices. -/
theorem under_subService_eq_nil {t : BinaryTree PacketMatcher} (hdistinct : t.Distinct)
    (hleveled : Leveled t) (service subService : UInt8) :
  ((t.under (.apid 0)).under (.service service)).under (.subService subService) = nil
  := by
  apply eq_nil_of_patterns
  intro rest hrest
  have hmem := hdistinct.cons_mem_of_mem_under ((hdistinct.under _).cons_mem_of_mem_under
    (((hdistinct.under _).under _).cons_mem_of_mem_under hrest))
  obtain ⟨request, hrequest⟩ := hleveled _ hmem
  have hlength := request.length_pattern_le
  have hpos := List.length_pos_of_ne_nil (ne_nil_of_mem_patterns hrest)
  rw [hrequest] at hlength
  simp only [List.length_cons] at hlength
  omega

/-- The pattern of a request is added, or the tree is as it was. -/
theorem addMatch_spec {t : BinaryTree PacketMatcher} (hdistinct : t.Distinct)
    (hleveled : Leveled t) (request : Request) (room : Room) :
  addMatch request room t = (.ok, t.insertPattern request.pattern) ∨
    ∃ result, result ≠ .ok ∧ addMatch request room t = (result, t)
  := by
  rw [addMatch]
  simp only [testPacket_eq]
  have hservice := singlesOut_service hdistinct hleveled ⟨0, request.type, request.subtype⟩
  have hsubService := singlesOut_subService hdistinct hleveled ⟨0, request.type, request.subtype⟩
    request.type
  have hleaf := under_subService_eq_nil hdistinct hleveled request.type request.subtype
  have hapid := findOrInsertMatch_spec (t := t) (Or.inl rfl)
    (singlesOut_apid hdistinct hleveled ⟨0, request.type, request.subtype⟩ rfl) room.apid
  simp only [up] at hapid
  rcases hapid with ⟨lastTest, hfind⟩ | ⟨result, lastTest, t', hfind, hfocuses, hresult⟩
  · right
    use full, by decide
    rw [hfind]
    cases lastTest <;> simp
  · rw [hfind]
    rcases hresult with ⟨rfl, rfl⟩ | ⟨rfl, hadded⟩
    · have hprogress : Progress t' (t'.link (.apid 0)) (t'.under (.apid 0)) none lastTest t' :=
        ⟨hfocuses.subtree_ne, hfocuses.subtree_eq, hfocuses.replace_eq, Or.inl ⟨rfl, rfl⟩⟩
      simpa [Request.pattern, insertPattern] using
        hprogress.addService hservice hsubService hleaf room
    · have hprogress : Progress t (t.link (.apid 0)) (t.under (.apid 0)) (some lastTest) lastTest
          t' := by
        refine ⟨hfocuses.subtree_ne, hfocuses.subtree_eq, hfocuses.replace_eq, Or.inr ?_⟩
        use lastTest, rfl
        intro u
        have hforget := replace_replace_append t' u nil lastTest [AND]
        apply hforget.trans hadded
      simpa [Request.pattern, insertPattern] using
        hprogress.addService hservice hsubService hleaf room

/-- An element is removed when its values are a pattern. -/
theorem removeGeneral_spec {t : BinaryTree PacketMatcher} (hdistinct : t.Distinct)
    {values : List PacketMatcher} {foundElement : Position}
    (h : Reaches t values foundElement) :
  (values ∈ t.patterns ∧ removeGeneral foundElement t = (.ok, t.removePattern values)) ∨
    (values ∉ t.patterns ∧
      ∃ result, result ≠ .ok ∧ removeGeneral foundElement t = (result, t))
  := by
  rw [h.mem_patterns_iff hdistinct, removeGeneral]
  by_cases hnil : t.subtree (AND :: foundElement) = nil
  · left
    use hnil
    rw [if_pos hnil, h.remove_eq]
  · right
    use hnil, tooGeneralRequest, by decide
    rw [if_neg hnil]

/-- Values that are not there do not end a pattern. -/
theorem append_not_mem_patterns {t : BinaryTree PacketMatcher} (hdistinct : t.Distinct)
    {values : List PacketMatcher} {value : PacketMatcher}
    (h : (t.underAll values).lookup value = none) (rest : List PacketMatcher) :
  values ++ value :: rest ∉ t.patterns
  := by
  induction values generalizing t with
  | nil =>
      intro hmem
      rw [List.nil_append, hdistinct.cons_mem_patterns_iff] at hmem
      obtain ⟨u, hu, _⟩ := hmem
      rw [underAll, hu] at h
      cases h
  | cons value' values ih =>
      rw [List.cons_append, hdistinct.cons_mem_patterns_iff_under _ (by simp)]
      apply ih (hdistinct.under value') h

/-- A request is removed when its pattern is in the tree. -/
theorem removeMatch_spec {t : BinaryTree PacketMatcher} (hdistinct : t.Distinct)
    (hleveled : Leveled t) (request : Request) :
  (request.pattern ∈ t.patterns ∧
      removeMatch request t = (.ok, t.removePattern request.pattern)) ∨
    (request.pattern ∉ t.patterns ∧ ∃ result, result ≠ .ok ∧ removeMatch request t = (result, t))
  := by
  rw [removeMatch]
  simp only [testPacket_eq, findMatch]
  rcases find_root (singlesOut_apid hdistinct hleveled ⟨0, request.type, request.subtype⟩ rfl) with
    ⟨hlookup, hfind⟩ | ⟨apidElement, hfind, happid⟩
  · right
    simp only [hfind]
    use append_not_mem_patterns (t := t) hdistinct (show (t.underAll []).lookup _ = none from hlookup) _,
      noMatch, by decide
  · simp only [hfind]
    by_cases htype : request.type = 0
    · rw [if_pos htype, Request.pattern, if_pos htype]
      apply removeGeneral_spec hdistinct happid
    · rw [if_neg htype, Request.pattern, if_neg htype]
      rcases happid.find (by simp) (singlesOut_service hdistinct hleveled
        ⟨0, request.type, request.subtype⟩) with
        ⟨hlookup, hfind'⟩ | ⟨serviceElement, hfind', hservice⟩
      · right
        simp only [hfind']
        use append_not_mem_patterns hdistinct hlookup _, noMatch, by decide
      · simp only [hfind']
        by_cases hsubtype : request.subtype = 0
        · rw [if_pos hsubtype, if_pos hsubtype]
          apply removeGeneral_spec hdistinct hservice
        · rw [if_neg hsubtype, if_neg hsubtype]
          rcases hservice.find (by simp) (singlesOut_subService hdistinct hleveled
            ⟨0, request.type, request.subtype⟩ request.type) with
            ⟨hlookup, hfind''⟩ | ⟨subServiceElement, hfind'', hsubService⟩
          · right
            simp only [hfind'']
            use append_not_mem_patterns hdistinct hlookup [], noMatch, by decide
          · left
            simp only [hfind'', hsubService.remove_eq]
            constructor
            · apply (hsubService.mem_patterns_iff hdistinct).mpr
              rw [hsubService.subtree_eq]
              apply under_subService_eq_nil hdistinct hleveled
            · rfl

/-! ### Patterns in force -/

namespace Request

/-- A packet has the APID, the service and the subservice of a request. -/
def Fits (request : Request) (packet : PusTm) : Prop :=
  packet.apid = request.apid ∧ (request.type = 0 ∨ packet.service = request.type) ∧
    (request.subtype = 0 ∨ packet.subService = request.subtype)

instance (request : Request) (packet : PusTm) : Decidable (request.Fits packet) :=
  inferInstanceAs (Decidable (_ ∧ _))

/-- The pattern of the request is the one that is asked for: it is for the APID zero, and has no
subservice without a service. -/
def Plain (request : Request) : Prop :=
  request.apid = 0 ∧ (request.type = 0 → request.subtype = 0)

instance (request : Request) : Decidable request.Plain :=
  inferInstanceAs (Decidable (_ ∧ _))

/-- A request leaves open more than another one, or the same. -/
def Generalizes (request other : Request) : Prop :=
  (request.type = 0 ∨ request.type = other.type) ∧
    (request.subtype = 0 ∨ request.subtype = other.subtype)

variable {request other : Request}

theorem fits_pattern_iff (h : request.Plain) (packet : PusTm) :
  (∀ matcher ∈ request.pattern, matcher.isMatch packet = true) ↔ request.Fits packet
  := by
  obtain ⟨hapid, hsubtype⟩ := h
  simp only [pattern, Fits, hapid]
  split_ifs with htype hsubtype'
  · simp [PacketMatcher.isMatch, htype, hsubtype htype]
  · simp [PacketMatcher.isMatch, htype, hsubtype']
  · simp [PacketMatcher.isMatch, htype, hsubtype']

theorem pattern_prefix_iff (h : request.Plain) (hother : other.Plain) :
  request.pattern <+: other.pattern ↔ request.Generalizes other
  := by
  obtain ⟨_, hsubtype⟩ := h
  obtain ⟨_, hother⟩ := hother
  simp only [pattern, Generalizes, List.cons_prefix_cons, true_and]
  by_cases htype : request.type = 0
  · simp [htype, hsubtype htype]
  · by_cases hother' : other.type = 0
    · simp [htype, hother', hother hother']
    · by_cases hs : request.subtype = 0
      · simp [htype, hother', hs]
      · by_cases hs' : other.subtype = 0
        · simp [htype, hother', hs, hs']
        · simp [htype, hother', hs, hs']

theorem pattern_inj (h : request.Plain) (hother : other.Plain)
    (heq : request.pattern = other.pattern) :
  request = other
  := by
  have hgeneralizes := (pattern_prefix_iff h hother).mp (heq ▸ List.prefix_rfl)
  have hgeneralizes' := (pattern_prefix_iff hother h).mp (heq ▸ List.prefix_rfl)
  obtain ⟨apid, type, subtype⟩ := request
  obtain ⟨apid', type', subtype'⟩ := other
  simp only [Plain, Generalizes, Request.mk.injEq] at *
  grind

end Request

/-- The tree has the most general patterns of the requests in force. -/
structure Tracks (t : BinaryTree PacketMatcher) (inForce : List Request) : Prop where
  distinct : t.Distinct
  plain : ∀ request ∈ inForce, request.Plain
  mem_inForce : ∀ pattern ∈ t.patterns, ∃ request ∈ inForce, request.pattern = pattern
  covers : ∀ request ∈ inForce, ∃ pattern ∈ t.patterns, pattern <+: request.pattern

theorem tracks_nil :
  Tracks nil []
  := by
  use trivial <;> simp [patterns]

section

variable {t : BinaryTree PacketMatcher} {inForce : List Request}

theorem Tracks.leveled (h : Tracks t inForce) :
  Leveled t
  := by
  intro pattern hpattern
  obtain ⟨request, _, hrequest⟩ := h.mem_inForce pattern hpattern
  use request

/-- The tree matches what fits a request in force. -/
theorem Tracks.isMatch_iff (h : Tracks t inForce) (packet : PusTm) :
  isMatch t packet = true ↔ ∃ request ∈ inForce, request.Fits packet
  := by
  rw [isMatch, MatchTree.matchSubtree_iff]
  constructor
  · rintro ⟨pattern, hpattern, hfits⟩
    obtain ⟨request, hrequest, rfl⟩ := h.mem_inForce pattern hpattern
    use request, hrequest
    rw [← Request.fits_pattern_iff (h.plain request hrequest)]
    apply hfits
  · rintro ⟨request, hrequest, hfits⟩
    rw [← Request.fits_pattern_iff (h.plain request hrequest)] at hfits
    obtain ⟨pattern, hpattern, hpart⟩ := h.covers request hrequest
    use pattern, hpattern
    intro matcher hmatcher
    apply hfits matcher (hpart.subset hmatcher)

/-- A pattern that is added is in force, when it is not more special than another one. -/
theorem Tracks.insertPattern (h : Tracks t inForce) {request : Request} (hplain : request.Plain)
    (hgeneral : ∀ other ∈ inForce, other.Generalizes request → other = request) :
  Tracks (t.insertPattern request.pattern) (request :: inForce)
  := by
  have hpart : ∀ pattern ∈ t.patterns, pattern <+: request.pattern →
      pattern = request.pattern := by
    intro pattern hpattern hpart
    obtain ⟨other, hother, rfl⟩ := h.mem_inForce pattern hpattern
    rw [Request.pattern_prefix_iff (h.plain other hother) hplain] at hpart
    rw [hgeneral other hother hpart]
  have hmem := h.distinct.patterns_insertPattern (by simp [Request.pattern]) hpart
  refine ⟨h.distinct.insertPattern _, ?_, ?_, ?_⟩
  · rw [List.forall_mem_cons]
    use hplain, h.plain
  · intro pattern hpattern
    rcases (hmem pattern).mp hpattern with rfl | ⟨hpattern, _⟩
    · use request, List.mem_cons_self
    · obtain ⟨other, hother, rfl⟩ := h.mem_inForce pattern hpattern
      use other, List.mem_cons_of_mem _ hother
  · rw [List.forall_mem_cons]
    constructor
    · use request.pattern, (hmem _).mpr (Or.inl rfl)
    · intro other hother
      obtain ⟨pattern, hpattern, hpart⟩ := h.covers other hother
      by_cases hcut : request.pattern <+: pattern
      · refine ⟨request.pattern, (hmem _).mpr (Or.inl rfl), hcut.trans hpart⟩
      · use pattern, (hmem _).mpr (Or.inr ⟨hpattern, hcut⟩)

/-- A pattern that is removed is not in force any more, when it is not more general than others. -/
theorem Tracks.removePattern (h : Tracks t inForce) {request : Request} (hplain : request.Plain)
    (hpattern : request.pattern ∈ t.patterns)
    (hspecial : request ∈ inForce →
      ∀ other ∈ inForce, request.Generalizes other → other = request) :
  Tracks (t.removePattern request.pattern) (inForce.filter (· ≠ request))
  := by
  have hmem := h.distinct.patterns_removePattern hpattern
  have hrequest : request ∈ inForce := by
    obtain ⟨other, hother, heq⟩ := h.mem_inForce _ hpattern
    rw [← Request.pattern_inj (h.plain other hother) hplain heq]
    apply hother
  refine ⟨h.distinct.removePattern _, ?_, ?_, ?_⟩
  · intro other hother
    apply h.plain other (List.mem_of_mem_filter hother)
  · intro pattern hpattern'
    obtain ⟨hpattern', hne⟩ := (hmem pattern).mp hpattern'
    obtain ⟨other, hother, rfl⟩ := h.mem_inForce pattern hpattern'
    use other
    simp only [List.mem_filter, decide_eq_true_iff, and_true]
    use hother
    rintro rfl
    apply hne rfl
  · intro other hother
    rw [List.mem_filter, decide_eq_true_iff] at hother
    obtain ⟨hother, hne⟩ := hother
    obtain ⟨pattern, hpattern', hpart⟩ := h.covers other hother
    use pattern
    rw [hmem]
    refine ⟨⟨hpattern', ?_⟩, hpart⟩
    rintro rfl
    rw [Request.pattern_prefix_iff hplain (h.plain other hother)] at hpart
    apply hne (hspecial hrequest other hother hpart)

end

/-! ### Runs -/

inductive Call where
  | add (request : Request) (room : Room)
  | remove (request : Request)

def call (t : BinaryTree PacketMatcher) : Call → ReturnValue × BinaryTree PacketMatcher
  | .add request room => addMatch request room t
  | .remove request => removeMatch request t

/-- The patterns in force after a call with this result. -/
def inForceAfter (result : ReturnValue) (inForce : List Request) : Call → List Request
  | .add request _ => if result = .ok then request :: inForce else inForce
  | .remove request => if result = .ok then inForce.filter (· ≠ request) else inForce

def step : Step (BinaryTree PacketMatcher × List Request) Call ReturnValue :=
  fun (t, inForce) c => some (((call t c).2, inForceAfter (call t c).1 inForce c), (call t c).1)

/-- What is needed for the tree to have all patterns: no pattern is added that is more special than
one in force, and none is removed that is in force and more general than another one. -/
def Call.Admissible (inForce : List Request) : Call → Prop
  | add request _ =>
      request.Plain ∧ ∀ other ∈ inForce, other.Generalizes request → other = request
  | remove request =>
      request.Plain ∧ (request ∈ inForce →
        ∀ other ∈ inForce, request.Generalizes other → other = request)

variable {t : BinaryTree PacketMatcher} {inForce : List Request}

/-- A call that fails does not change the tree. -/
theorem Tracks.call_of_failed (h : Tracks t inForce) {c : Call} (hfailed : (call t c).1 ≠ .ok) :
  (call t c).2 = t
  := by
  cases c with
  | add request room =>
      rw [call] at hfailed ⊢
      rcases addMatch_spec h.distinct h.leveled request room with hadd | ⟨result, _, hadd⟩
      · rw [hadd] at hfailed
        cases hfailed rfl
      · rw [hadd]
  | remove request =>
      rw [call] at hfailed ⊢
      rcases removeMatch_spec h.distinct h.leveled request with
        ⟨_, hremove⟩ | ⟨_, result, _, hremove⟩
      · rw [hremove] at hfailed
        cases hfailed rfl
      · rw [hremove]

theorem Tracks.call (h : Tracks t inForce) {c : Call} (hadmissible : c.Admissible inForce) :
  Tracks (PacketMatchTree.call t c).2 (inForceAfter (PacketMatchTree.call t c).1 inForce c)
  := by
  cases c with
  | add request room =>
      obtain ⟨hplain, hgeneral⟩ := hadmissible
      rcases addMatch_spec h.distinct h.leveled request room with hadd | ⟨result, hne, hadd⟩
      · simp only [PacketMatchTree.call, hadd, inForceAfter, if_true]
        apply h.insertPattern hplain hgeneral
      · simp only [PacketMatchTree.call, hadd, inForceAfter, if_neg hne]
        apply h
  | remove request =>
      obtain ⟨hplain, hspecial⟩ := hadmissible
      rcases removeMatch_spec h.distinct h.leveled request with
        ⟨hmem, hremove⟩ | ⟨_, result, hne, hremove⟩
      · simp only [PacketMatchTree.call, hremove, inForceAfter, if_true]
        apply h.removePattern hplain hmem hspecial
      · simp only [PacketMatchTree.call, hremove, inForceAfter, if_neg hne]
        apply h

/-- When all calls are admissible, the tree matches exactly the packets that fit a pattern in force,
and a call that fails does not change this. -/
theorem selection_exact (calls : List Call)
    (hcalls : step.Along (fun s c => Call.Admissible s.2 c) (nil, []) calls) :
  ∃ t inForce results, step.run (nil, []) calls = some ((t, inForce), results) ∧
    (∀ packet, isMatch t packet = true ↔ ∃ request ∈ inForce, request.Fits packet) ∧
    ∀ c, (call t c).1 ≠ .ok → ∀ packet, isMatch (call t c).2 packet = isMatch t packet
  := by
  obtain ⟨⟨t, inForce⟩, results, hrun, htracks⟩ :=
    Step.run_invariant (I := fun s : BinaryTree PacketMatcher × List Request => Tracks s.1 s.2)
      (fun s c hs hc => ⟨_, _, rfl, hs.call hc⟩) tracks_nil hcalls
  refine ⟨t, inForce, results, hrun, htracks.isMatch_iff, ?_⟩
  intro c hfailed packet
  rw [htracks.call_of_failed hfailed]

/-- The packets of service 3 are selected by a general pattern after a special one. -/
theorem selection_exact_general :
  ∃ t inForce results,
    step.run (nil, []) [.add ⟨0, 3, 25⟩ ⟨true, true, true⟩, .add ⟨0, 3, 0⟩ ⟨true, true, true⟩] =
      some ((t, inForce), results) ∧
    ∀ packet, isMatch t packet = true ↔ ∃ request ∈ inForce, request.Fits packet
  := by
  obtain ⟨t, inForce, results, hrun, hexact, _⟩ := selection_exact
    [.add ⟨0, 3, 25⟩ ⟨true, true, true⟩, .add ⟨0, 3, 0⟩ ⟨true, true, true⟩] (by
      refine ⟨⟨by decide, by simp⟩, fun s result hstep => ⟨⟨by decide, ?_⟩, fun _ _ _ => trivial⟩⟩
      cases hstep
      simp only [inForceAfter]
      split_ifs
      · simp [Request.Generalizes]
      · simp)
  use t, inForce, results, hrun

/-- Packets of another APID than zero are not selected. -/
theorem not_selection_exact_apid :
  ¬ ∀ s results, step.run (nil, []) [.add ⟨5, 0, 0⟩ ⟨true, true, true⟩] = some (s, results) →
    ∀ packet, isMatch s.1 packet = true ↔ ∃ request ∈ s.2, request.Fits packet
  := by
  intro h
  have hexact := h _ _ rfl ⟨5, 1, 1⟩
  revert hexact
  decide +kernel

end PacketMatchTree
