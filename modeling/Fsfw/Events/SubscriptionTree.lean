import Fsfw.Events.EventMatchTree
import Fsfw.GlobalFunctions.InsertedElements
import Fsfw.GlobalFunctions.MatchTreeDestructor

/-!
# Match trees of events in memory

The matchers and the nodes of a match tree of events are created in a pool.  Adding and removing
requests exchanges them for those of another tree, whose matchers are those that the requests are
added to and removed from (`addMatch_changes`, `removeMatch_changes`).
-/

open BinaryTree MatchTreeObject

/-- The sizes of the objects that are created in the pool. -/
structure EventObjectSizes where
  node : ℕ
  eventIdRangeMatcher : ℕ
  reporterRangeMatcher : ℕ

def EventObjectSizes.matcher (sizes : EventObjectSizes) : EventMatcher → ℕ
  | .eventIdRange _ => sizes.eventIdRangeMatcher
  | .reporterRange _ => sizes.reporterRangeMatcher

/-- A match tree of events, with its nodes in memory. -/
abbrev SubscriptionTree (κ : Type) :=
  MatchTreeObject EventMatcher κ

namespace SubscriptionTree

variable {κ : Type}

def findOrInsertRangeMatcher (B : PlacementBackend κ) (sizes : EventObjectSizes) (fuel : ℕ)
    (newContent : EventMatcher) (start lastTest : ExplicitNodeIterator) (S : SubscriptionTree κ) :
    Option (ReturnValue × ExplicitNodeIterator × SubscriptionTree κ) :=
  findOrInsert B (sizes.matcher newContent) sizes.node (· = newContent) newContent fuel start
    lastTest S

def findRangeMatcher (fuel : ℕ) (content : EventMatcher) (start : ExplicitNodeIterator)
    (S : SubscriptionTree κ) : Option ExplicitNodeIterator :=
  find (· = content) fuel start S

def addMatch (B : PlacementBackend κ) (sizes : EventObjectSizes) (fuel : ℕ)
    (request : EventRequest) (S : SubscriptionTree κ) :
    Option (ReturnValue × SubscriptionTree κ) := do
  let (result, lastTest, S) ←
    findOrInsertRangeMatcher B sizes fuel (.eventIdRange request.idRange) S.rootNode none S
  if result ≠ .ok then
    return (result, S)
  if request.reporterFrom = 0 then
    return (.ok, S)
  let start ← ExplicitNodeIterator.left S.node lastTest
  let (result, _, S) ←
    findOrInsertRangeMatcher B sizes fuel (.reporterRange request.reporterRange) start lastTest S
  return (result, S)

def removeMatch (B : PlacementBackend κ) (fuel : ℕ) (request : EventRequest)
    (S : SubscriptionTree κ) : Option (ReturnValue × SubscriptionTree κ) := do
  let foundElement ← findRangeMatcher fuel (.eventIdRange request.idRange) S.rootNode S
  if foundElement = none then
    return (MatchTree.noMatch, S)
  let leftOfFound ← ExplicitNodeIterator.left S.node foundElement
  if request.reporterFrom = 0 then
    if leftOfFound = none then
      removeElementAndReconnectChildren .eventMatchTree B fuel foundElement S
    else
      return (MatchTree.tooGeneralRequest, S)
  else
    let foundElement ← findRangeMatcher fuel (.reporterRange request.reporterRange) leftOfFound S
    if foundElement = none then
      return (MatchTree.noMatch, S)
    removeElementAndReconnectChildren .eventMatchTree B fuel foundElement S

/-! ### What requests change -/

section

variable {α : Type} {t : BinaryTree α} {q : Position}

/-- A position in a tree is not longer than the tree is large. -/
theorem length_position_add_le (h : t.subtree q ≠ nil) :
  (t.subtree q).numNodes + q.length ≤ t.numNodes
  := by
  induction q with
  | nil =>
      exact le_rfl
  | cons branch q ih =>
      have hnode : t.subtree q ≠ nil :=
        (subtree_tail_ne_nil t h).resolve_left (List.cons_ne_nil _ _)
      have hle := ih hnode
      rw [subtree, List.length_cons]
      cases hq : t.subtree q with
      | nil =>
          exact absurd hq hnode
      | node value l r =>
          rw [hq, numNodes] at hle
          cases branch with
          | true =>
              simp only [child, if_true, BinaryTree.left]
              omega
          | false =>
              simp only [child, Bool.false_eq_true, if_false, BinaryTree.right]
              omega

theorem numNodes_subtree_le (t : BinaryTree α) (q : Position) :
  (t.subtree q).numNodes ≤ t.numNodes
  := by
  by_cases h : t.subtree q = nil
  · rw [h]
    exact Nat.zero_le _
  · exact (Nat.le_add_right _ _).trans (length_position_add_le h)

end

variable {B : PlacementBackend κ} {laws : B.Reliable} {S : SubscriptionTree κ}
  {t : BinaryTree (Cell (Cell EventMatcher))} {fuel : ℕ}

/-- The iterator to what is on the AND branch of an element. -/
theorem left_pointsInto (h : WellFormed .eventMatchTree laws S t) {iter : ExplicitNodeIterator}
    {q : Position} (hiter : PointsInto t iter q) :
  ExplicitNodeIterator.left S.node iter = some (t.subtree (MatchTree.AND :: q)).root ∧
    iter = t.above none (MatchTree.AND :: q) ∧ t.Fits (MatchTree.AND :: q)
  := by
  obtain ⟨element, l, r, hq, rfl⟩ := hiter
  refine ⟨?_, ?_, .inr ?_⟩
  · rw [ExplicitNodeIterator.left, h.represents.node_at hq, subtree, hq]
    rfl
  · rw [BinaryTree.above, hq]
    rfl
  · rw [List.tail_cons, hq]
    simp

theorem findOrInsertRangeMatcher_changes (h : WellFormed .eventMatchTree laws S t) {p : Position}
    (hfits : t.Fits p) (hbegins : p = [] ∨ ∃ above, p = MatchTree.AND :: above)
    (hfuel : t.numNodes ≤ fuel) (sizes : EventObjectSizes) (content : EventMatcher) :
  ∃ room result position lastTest S' t', findOrInsertRangeMatcher B sizes fuel content
      (t.subtree p).root (t.above none p) S = some (result, lastTest, S') ∧
    Changes .eventMatchTree laws S S' t t' ∧ t'.numNodes ≤ t.numNodes + 1 ∧
    EventMatchTree.findOrInsertRangeMatcher content room (matchers t) p (up p)
      = (result, position, matchers t') ∧
    (result = .ok → ∃ q, position = some q ∧ PointsInto t' lastTest q)
  := by
  obtain ⟨room, insertion, position, lastTest, S', t', hfind, hchanges, hle, hmatchers, hpoints⟩ :=
    h.findOrInsert (by decide) hfits hbegins
      ((numNodes_subtree_le t p).trans hfuel) (sizes.matcher content) sizes.node content
  refine ⟨room, insertion.result, position, lastTest, S', t', hfind, hchanges, hle, ?_, ?_⟩
  · rw [EventMatchTree.findOrInsertRangeMatcher, hmatchers]
    cases insertion with
    | found => rfl
    | created =>
        obtain ⟨q, rfl, -⟩ := hpoints (by decide)
        rfl
    | full => rfl
  · intro hok
    apply hpoints
    rintro rfl
    cases hok

theorem findRangeMatcher_spec (h : WellFormed .eventMatchTree laws S t) {p : Position}
    (hfits : t.Fits p) (hbegins : p = [] ∨ ∃ above, p = MatchTree.AND :: above)
    (hfuel : t.numNodes ≤ fuel) (content : EventMatcher) :
  ∃ position iter, findRangeMatcher fuel content (t.subtree p).root S = some iter ∧
    EventMatchTree.findRangeMatcher content (matchers t) p = position ∧
    (position = none ∧ iter = none ∨ ∃ q, position = some q ∧ PointsInto t iter q)
  := h.find hfits hbegins ((numNodes_subtree_le t p).trans hfuel)

/-- Removing an element exchanges the elements of the tree for those that remain. -/
theorem remove_changes (h : WellFormed .eventMatchTree laws S t) {iter : ExplicitNodeIterator}
    {q : Position} (hiter : PointsInto t iter q) (hfuel : 2 * t.numNodes < fuel) :
  ∃ S' t', removeElementAndReconnectChildren .eventMatchTree B fuel iter S = some (.ok, S') ∧
    Changes .eventMatchTree laws S S' t t' ∧ t'.numNodes ≤ t.numNodes ∧
    MatchTree.removeElementAndReconnectChildren (matchers t) q = matchers t'
  := by
  obtain ⟨element, l, r, hq, rfl⟩ := hiter
  have hnode : t.subtree q ≠ nil := by
    rw [hq]
    simp
  have hlength := length_position_add_le hnode
  have hperm := entries_perm_removed hnode
  obtain ⟨S', hremove, h', hcleans, hframe⟩ := h.removeElement hq (show _ < fuel by omega)
  refine ⟨S', spliced t q, hremove,
    h.changes_of_cleansUp (by decide) h' hcleans hperm hframe, ?_,
    removeElementAndReconnectChildren_map _ t q⟩
  rw [← length_entries, ← length_entries, hperm.length_eq, List.length_append]
  exact Nat.le_add_left _ _

/-- Adding a request to the tree in memory adds it to the tree of matchers. -/
theorem addMatch_changes (h : WellFormed .eventMatchTree laws S t) (hfuel : t.numNodes < fuel)
    (sizes : EventObjectSizes) (request : EventRequest) :
  ∃ idRoom reporterRoom result S' t', addMatch B sizes fuel request S = some (result, S') ∧
    Changes .eventMatchTree laws S S' t t' ∧ t'.numNodes ≤ t.numNodes + 2 ∧
    EventMatchTree.addMatch request idRoom reporterRoom (matchers t) = (result, matchers t')
  := by
  obtain ⟨idRoom, result, position, lastTest, S₁, t₁, hid, hchanges, hle, hmatchers, hpoints⟩ :=
    findOrInsertRangeMatcher_changes h (.inl rfl) (.inl rfl) hfuel.le sizes
      (.eventIdRange request.idRange)
  have hid : findOrInsertRangeMatcher B sizes fuel (.eventIdRange request.idRange) S.rootNode none S
      = some (result, lastTest, S₁) := h.rootNode_eq ▸ hid
  have hmatchers : EventMatchTree.findOrInsertRangeMatcher (.eventIdRange request.idRange) idRoom
      (matchers t) [] none = (result, position, matchers t₁) := hmatchers
  use idRoom
  rw [addMatch, hid]
  simp only [EventMatchTree.addMatch, hmatchers, Option.bind_eq_bind, Option.bind_some]
  by_cases hok : result = .ok
  · subst hok
    obtain ⟨q, rfl, hq⟩ := hpoints rfl
    rw [if_neg (not_not.mpr rfl)]
    by_cases hgeneral : request.reporterFrom = 0
    · simp only [if_pos hgeneral]
      exact ⟨false, .ok, S₁, t₁, rfl, hchanges, hle.trans (Nat.le_succ _), rfl⟩
    · -- The reporters are on the AND branch of the matcher of ids.
      obtain ⟨hleft, habove, hfits⟩ := left_pointsInto hchanges.wellFormed hq
      obtain ⟨reporterRoom, result', position', lastTest', S₂, t₂, hreporter, hchanges', hle',
          hmatchers', -⟩ :=
        findOrInsertRangeMatcher_changes hchanges.wellFormed hfits (.inr ⟨q, rfl⟩)
          (show t₁.numNodes ≤ fuel by omega) sizes (.reporterRange request.reporterRange)
      have hmatchers' : EventMatchTree.findOrInsertRangeMatcher
          (.reporterRange request.reporterRange) reporterRoom (matchers t₁) (MatchTree.AND :: q)
          (some q) = (result', position', matchers t₂) := hmatchers'
      use reporterRoom
      rw [if_neg hgeneral, hleft, Option.bind_some, habove, hreporter]
      simp only [if_neg hgeneral, hmatchers']
      exact ⟨result', S₂, t₂, rfl, hchanges.trans hchanges', by omega, rfl⟩
  · rw [if_pos hok]
    refine ⟨false, result, S₁, t₁, rfl, hchanges, hle.trans (Nat.le_succ _), ?_⟩
    cases result with
    | ok => contradiction
    | failed => rfl
    | makeCode classId number => rfl

/-- Removing a request from the tree in memory removes it from the tree of matchers. -/
theorem removeMatch_changes (h : WellFormed .eventMatchTree laws S t)
    (hfuel : 2 * t.numNodes < fuel) (request : EventRequest) :
  ∃ result S' t', removeMatch B fuel request S = some (result, S') ∧
    Changes .eventMatchTree laws S S' t t' ∧ t'.numNodes ≤ t.numNodes ∧
    EventMatchTree.removeMatch request (matchers t) = (result, matchers t')
  := by
  have hself : Changes .eventMatchTree laws S S t t := h.changes_self (by decide) rfl
  obtain ⟨position, iter, hid, hmatchers, hiter⟩ :=
    findRangeMatcher_spec h (.inl rfl) (.inl rfl) (show t.numNodes ≤ fuel by omega)
      (.eventIdRange request.idRange)
  have hid : findRangeMatcher fuel (.eventIdRange request.idRange) S.rootNode S = some iter :=
    h.rootNode_eq ▸ hid
  rw [removeMatch, hid]
  simp only [EventMatchTree.removeMatch, hmatchers, Option.bind_eq_bind, Option.bind_some]
  obtain ⟨rfl, rfl⟩ | ⟨q, rfl, hq⟩ := hiter
  · rw [if_pos rfl]
    exact ⟨_, S, t, rfl, hself, le_rfl, rfl⟩
  · obtain ⟨hleft, -, hfits⟩ := left_pointsInto h hq
    have hnil : (matchers t).subtree (MatchTree.AND :: q) = nil
        ↔ (t.subtree (MatchTree.AND :: q)).root = none := by
      rw [root_eq_none_iff, matchers, subtree_map, map_eq_nil_iff]
    rw [if_neg hq.ne_none, hleft, Option.bind_some]
    simp only [hnil]
    split_ifs
    · obtain ⟨S', t', hremove, hchanges, hle, hremoved⟩ := remove_changes h hq hfuel
      exact ⟨.ok, S', t', hremove, hchanges, hle, by rw [hremoved]⟩
    · exact ⟨_, S, t, rfl, hself, le_rfl, rfl⟩
    · obtain ⟨position', iter', hreporter, hmatchers', hiter'⟩ :=
        findRangeMatcher_spec h hfits (.inr ⟨q, rfl⟩) (show t.numNodes ≤ fuel by omega)
          (.reporterRange request.reporterRange)
      rw [hreporter, Option.bind_some]
      simp only [hmatchers']
      obtain ⟨rfl, rfl⟩ | ⟨q', rfl, hq'⟩ := hiter'
      · rw [if_pos rfl]
        exact ⟨_, S, t, rfl, hself, le_rfl, rfl⟩
      · obtain ⟨S', t', hremove, hchanges, hle, hremoved⟩ := remove_changes h hq' hfuel
        rw [if_neg hq'.ne_none]
        exact ⟨.ok, S', t', hremove, hchanges, hle, by simp only [hremoved]⟩

end SubscriptionTree
