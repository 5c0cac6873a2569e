import Fsfw.Events.EventManager
import Fsfw.Events.SubscriptionTree

/-!
# The event manager and its memory

The match trees of all listeners are in one pool.  As long as only listeners with an empty tree are
unregistered, the pool has the nodes and matchers of the trees, and nothing else (`Accounts`).  The
manager returns then what it returns when its trees are not in memory, but the pool has room for some
matchers only (`refines_eventManager`).
-/

open BinaryTree MatchTreeObject

/-- What the manager has of the match tree of a listener. -/
structure ListenerTree where
  rootNode : Option ℕ
  invertedMatch : Bool

/-- The event manager, with the nodes of the match trees and the pool that they are in. -/
structure SubscriptionManager (κ : Type) where
  listenerList : Std.TreeMap MessageQueueId ListenerTree
  node : NodeMemory (Cell EventMatcher)
  pool : κ

namespace SubscriptionManager

variable {κ : Type}

/-- The tree of a listener. -/
def object (M : SubscriptionManager κ) (tree : ListenerTree) : SubscriptionTree κ where
  rootNode := tree.rootNode
  node := M.node
  pool := M.pool
  cleaned := []

/-- Keep the tree of a listener after a call. -/
def withTree (M : SubscriptionManager κ) (listener : MessageQueueId) (tree : ListenerTree)
    (S : SubscriptionTree κ) : SubscriptionManager κ where
  listenerList := M.listenerList.insert listener { tree with rootNode := S.rootNode }
  node := S.node
  pool := S.pool

/-- The trees that are made for the call are empty, and nothing is done when they are destroyed. -/
def registerListener (M : SubscriptionManager κ) (listener : MessageQueueId)
    (forwardAllButSelected : Bool) : ReturnValue × SubscriptionManager κ :=
  if listener ∈ M.listenerList then
    (.failed, M)
  else
    (.ok, { M with listenerList := M.listenerList.insert listener ⟨none, forwardAllButSelected⟩ })

def unregisterListener (B : PlacementBackend κ) (fuel : ℕ) (M : SubscriptionManager κ)
    (listener : MessageQueueId) : Option (ReturnValue × SubscriptionManager κ) :=
  match M.listenerList[listener]? with
  | none => some (.failed, M)
  | some tree => do
      let S ← destructor B fuel (M.object tree)
      return (.ok,
        { listenerList := M.listenerList.erase listener, node := S.node, pool := S.pool })

def subscribeToEventRange (B : PlacementBackend κ) (sizes : EventObjectSizes) (fuel : ℕ)
    (M : SubscriptionManager κ) (listener : MessageQueueId) (request : EventRequest) :
    Option (ReturnValue × SubscriptionManager κ) :=
  match M.listenerList[listener]? with
  | none => some (EventManagerIF.listenerNotFound, M)
  | some tree => do
      let (result, S) ← SubscriptionTree.addMatch B sizes fuel request (M.object tree)
      return (result, M.withTree listener tree S)

def unsubscribeFromEventRange (B : PlacementBackend κ) (fuel : ℕ) (M : SubscriptionManager κ)
    (listener : MessageQueueId) (request : EventRequest) :
    Option (ReturnValue × SubscriptionManager κ) :=
  match M.listenerList[listener]? with
  | none => some (EventManagerIF.listenerNotFound, M)
  | some tree => do
      let (result, S) ← SubscriptionTree.removeMatch B fuel request (M.object tree)
      return (result, M.withTree listener tree S)

inductive Call where
  | registerListener (listener : MessageQueueId) (forwardAllButSelected : Bool)
  | unregisterListener (listener : MessageQueueId)
  | subscribeToEventRange (listener : MessageQueueId) (request : EventRequest)
  | unsubscribeFromEventRange (listener : MessageQueueId) (request : EventRequest)

def call (B : PlacementBackend κ) (sizes : EventObjectSizes) (fuel : ℕ)
    (M : SubscriptionManager κ) : Call → Option (ReturnValue × SubscriptionManager κ)
  | .registerListener listener forwardAllButSelected =>
      some (M.registerListener listener forwardAllButSelected)
  | .unregisterListener listener => M.unregisterListener B fuel listener
  | .subscribeToEventRange listener request =>
      M.subscribeToEventRange B sizes fuel listener request
  | .unsubscribeFromEventRange listener request =>
      M.unsubscribeFromEventRange B fuel listener request

def step (B : PlacementBackend κ) (sizes : EventObjectSizes) (fuel : ℕ) :
    Step (SubscriptionManager κ) Call ReturnValue :=
  fun M c => (M.call B sizes fuel c).map Prod.swap

/-- The manager without listeners. -/
def start (pool : κ) : SubscriptionManager κ where
  listenerList := ∅
  node := fun _ => none
  pool := pool

/-! ### What is in the pool -/

/-- The listeners that are registered. -/
def listeners (M : SubscriptionManager κ) : Finset MessageQueueId :=
  M.listenerList.keys.toFinset

variable {B : PlacementBackend κ} {laws : B.Reliable} {M : SubscriptionManager κ}
  {trees : MessageQueueId → BinaryTree (Cell (Cell EventMatcher))} {tree : ListenerTree}
  {listener listener' : MessageQueueId} {fuel : ℕ}

/-- The pool has the nodes and matchers of the trees of the listeners, and nothing else. -/
structure Accounts (laws : B.Reliable) (M : SubscriptionManager κ)
    (trees : MessageQueueId → BinaryTree (Cell (Cell EventMatcher))) : Prop where
  wellFormed : ∀ listener tree, M.listenerList[listener]? = some tree →
    WellFormed .eventMatchTree laws (M.object tree) (trees listener)
  apart : ∀ listener listener', listener ∈ M.listenerList → listener' ∈ M.listenerList →
    listener ≠ listener' → Disjoint (cellSet (trees listener)) (cellSet (trees listener'))
  covered : ∀ a ∈ laws.occupied M.pool, ∃ listener ∈ M.listenerList, a ∈ cellSet (trees listener)

theorem mem_listeners :
  listener ∈ M.listeners ↔ listener ∈ M.listenerList
  := by
  rw [listeners, List.mem_toFinset, Std.TreeMap.mem_keys]

theorem Accounts.exists_wellFormed (h : Accounts laws M trees) (hmem : listener ∈ M.listenerList) :
  ∃ tree, WellFormed .eventMatchTree laws (M.object tree) (trees listener)
  := by
  obtain ⟨tree, htree⟩ := Option.isSome_iff_exists.mp
    (Std.TreeMap.isSome_getElem?_iff_mem.mpr hmem)
  exact ⟨tree, h.wellFormed listener tree htree⟩

theorem Accounts.mem_occupied (h : Accounts laws M trees) (hmem : listener ∈ M.listenerList) {a : ℕ}
    (ha : a ∈ cellSet (trees listener)) :
  a ∈ laws.occupied M.pool
  := by
  obtain ⟨tree, hwf⟩ := h.exists_wellFormed hmem
  exact hwf.cellSet_subset (by decide) ha

/-- There are two elements in the pool for each node. -/
theorem Accounts.card_occupied (h : Accounts laws M trees) :
  (laws.occupied M.pool).card = 2 * ∑ listener ∈ M.listeners, (trees listener).numNodes
  := by
  have hunion : laws.occupied M.pool
      = M.listeners.biUnion fun listener => cellSet (trees listener) := by
    ext a
    simp only [Finset.mem_biUnion, mem_listeners]
    constructor
    · exact h.covered a
    · rintro ⟨listener, hmem, ha⟩
      exact h.mem_occupied hmem ha
  rw [hunion, Finset.card_biUnion, Finset.mul_sum]
  · apply Finset.sum_congr rfl
    intro listener hmem
    obtain ⟨tree, hwf⟩ := h.exists_wellFormed (mem_listeners.mp hmem)
    exact hwf.card_cellSet (by decide)
  · intro listener hmem listener' hmem' hne
    exact h.apart listener listener' (mem_listeners.mp hmem) (mem_listeners.mp hmem') hne

/-! ### What calls do -/

theorem mem_insert_iff {list : Std.TreeMap MessageQueueId ListenerTree} :
  listener' ∈ list.insert listener tree ↔ listener = listener' ∨ listener' ∈ list
  := by
  simp

/-- The tree of a listener is changed. -/
theorem Accounts.withTree (h : Accounts laws M trees) {S : SubscriptionTree κ}
    {t : BinaryTree (Cell (Cell EventMatcher))} (htree : M.listenerList[listener]? = some tree)
    (hchanges : Changes .eventMatchTree laws (M.object tree) S (trees listener) t) :
  Accounts laws (M.withTree listener tree S) (Function.update trees listener t)
  := by
  have hmem : listener ∈ M.listenerList :=
    Std.TreeMap.isSome_getElem?_iff_mem.mp (htree ▸ rfl)
  have hmem_of : ∀ listener', listener' ∈ (M.withTree listener tree S).listenerList →
      listener' ∈ M.listenerList := by
    intro listener' hmem'
    rcases mem_insert_iff.mp hmem' with rfl | hmem'
    · exact hmem
    · exact hmem'
  -- The trees of the other listeners are apart from the one that is changed.
  have hother : ∀ listener' ∈ M.listenerList, listener' ≠ listener →
      ∀ a ∈ cellSet (trees listener'), a ∈ laws.occupied M.pool ∧ a ∉ cellSet (trees listener) := by
    intro listener' hmem' hne a ha
    use h.mem_occupied hmem' ha
    exact Finset.disjoint_left.mp (h.apart listener' listener hmem' hmem hne) ha
  have hapart : ∀ listener' ∈ M.listenerList, listener' ≠ listener →
      Disjoint (cellSet t) (cellSet (trees listener')) := by
    intro listener' hmem' hne
    rw [Finset.disjoint_left]
    intro a ha ha'
    obtain ⟨hocc, hnot⟩ := hother listener' hmem' hne a ha'
    exact (hchanges.fresh a ha).elim hnot (fun hfree => hfree hocc)
  have hkept : ∀ a, a ∈ laws.occupied S.pool ↔
      (a ∈ laws.occupied M.pool ∧ a ∉ cellSet (trees listener)) ∨ a ∈ cellSet t := by
    intro a
    rw [hchanges.occupied, Finset.mem_union, Finset.mem_sdiff]
    rfl
  refine ⟨?_, ?_, ?_⟩
  · intro listener' tree' htree'
    rw [SubscriptionManager.withTree, Std.TreeMap.getElem?_insert] at htree'
    by_cases hne : listener' = listener
    · subst hne
      rw [if_pos (by simp)] at htree'
      cases htree'
      rw [Function.update_self]
      have hwf := hchanges.wellFormed
      exact ⟨hwf.rootNode_eq, hwf.represents, hwf.nodup, hwf.owned⟩
    · rw [if_neg (by simpa using Ne.symm hne)] at htree'
      have hmem' : listener' ∈ M.listenerList :=
        Std.TreeMap.isSome_getElem?_iff_mem.mp (htree' ▸ rfl)
      have hwf := h.wellFormed listener' tree' htree'
      rw [Function.update_of_ne hne]
      refine ⟨hwf.rootNode_eq, hwf.represents.congr ?_, hwf.nodup, fun hcls => ?_⟩
      · intro a ha
        obtain ⟨hocc, hnot⟩ := hother listener' hmem' hne a (mem_cellSet_of_mem_addresses ha)
        exact hchanges.frame a hocc hnot
      · use (hwf.owned hcls).1
        intro a ha
        exact (hkept a).mpr (.inl (hother listener' hmem' hne a (List.mem_toFinset.mpr ha)))
  · intro listener₁ listener₂ hmem₁ hmem₂ hne
    by_cases h₁ : listener₁ = listener
    · subst h₁
      rw [Function.update_self, Function.update_of_ne hne.symm]
      exact hapart listener₂ (hmem_of _ hmem₂) hne.symm
    · rw [Function.update_of_ne h₁]
      by_cases h₂ : listener₂ = listener
      · subst h₂
        rw [Function.update_self]
        exact (hapart listener₁ (hmem_of _ hmem₁) hne).symm
      · rw [Function.update_of_ne h₂]
        exact h.apart _ _ (hmem_of _ hmem₁) (hmem_of _ hmem₂) hne
  · intro a ha
    rcases (hkept a).mp ha with ⟨hocc, hnot⟩ | ha
    · obtain ⟨listener', hmem', ha'⟩ := h.covered a hocc
      have hne : listener' ≠ listener := by
        rintro rfl
        exact hnot ha'
      exact ⟨listener', mem_insert_iff.mpr (.inr hmem'), by rwa [Function.update_of_ne hne]⟩
    · exact ⟨listener, mem_insert_iff.mpr (.inl rfl), by rwa [Function.update_self]⟩

/-- A listener comes with an empty tree. -/
theorem Accounts.registerListener (h : Accounts laws M trees) (hnew : listener ∉ M.listenerList)
    (inverted : Bool) :
  Accounts laws { M with listenerList := M.listenerList.insert listener ⟨none, inverted⟩ }
    (Function.update trees listener nil)
  := by
  have hother : ∀ listener' ∈ M.listenerList, listener' ≠ listener := by
    rintro listener' hmem' rfl
    exact hnew hmem'
  have hcells : cellSet (nil : BinaryTree (Cell (Cell EventMatcher))) = ∅ := rfl
  refine ⟨?_, ?_, ?_⟩
  · intro listener' tree' htree'
    rw [Std.TreeMap.getElem?_insert] at htree'
    by_cases hne : listener' = listener
    · subst hne
      rw [if_pos (by simp)] at htree'
      cases htree'
      rw [Function.update_self]
      refine ⟨rfl, trivial, List.nodup_nil, fun _ => ⟨List.nodup_nil, ?_⟩⟩
      intro a ha
      cases ha
    · rw [if_neg (by simpa using Ne.symm hne)] at htree'
      rw [Function.update_of_ne hne]
      exact h.wellFormed listener' tree' htree'
  · intro listener₁ listener₂ hmem₁ hmem₂ hne
    rcases mem_insert_iff.mp hmem₁ with rfl | hmem₁
    · rw [Function.update_self, hcells]
      exact Finset.disjoint_empty_left _
    · rw [Function.update_of_ne (hother _ hmem₁)]
      rcases mem_insert_iff.mp hmem₂ with rfl | hmem₂
      · rw [Function.update_self, hcells]
        exact Finset.disjoint_empty_right _
      · rw [Function.update_of_ne (hother _ hmem₂)]
        exact h.apart _ _ hmem₁ hmem₂ hne
  · intro a ha
    obtain ⟨listener', hmem', ha'⟩ := h.covered a ha
    exact ⟨listener', mem_insert_iff.mpr (.inr hmem'),
      by rwa [Function.update_of_ne (hother _ hmem')]⟩

/-- A listener with an empty tree goes. -/
theorem Accounts.erase (h : Accounts laws M trees) (htree : trees listener = nil) :
  Accounts laws { M with listenerList := M.listenerList.erase listener } trees
  := by
  refine ⟨?_, ?_, ?_⟩
  · intro listener' tree' htree'
    rw [Std.TreeMap.getElem?_erase] at htree'
    split_ifs at htree'
    exact h.wellFormed listener' tree' htree'
  · intro listener₁ listener₂ hmem₁ hmem₂ hne
    rw [Std.TreeMap.mem_erase] at hmem₁ hmem₂
    exact h.apart _ _ hmem₁.2 hmem₂.2 hne
  · intro a ha
    obtain ⟨listener', hmem', ha'⟩ := h.covered a ha
    refine ⟨listener', ?_, ha'⟩
    rw [Std.TreeMap.mem_erase]
    refine ⟨?_, hmem'⟩
    intro heq
    have heq : listener = listener' := by simpa using heq
    rw [← heq, htree] at ha'
    cases ha'

/-! ### The manager without memory -/

/-- A call, and whether the pool has room for a matcher of ids and for a matcher of reporters, each of
them with its node. -/
def callWithRoom (E : EventManager) : Call × Bool × Bool → ReturnValue × EventManager
  | (.registerListener listener forwardAllButSelected, _) =>
      E.registerListener listener forwardAllButSelected
  | (.unregisterListener listener, _) => E.unregisterListener listener
  | (.subscribeToEventRange listener request, idRoom, reporterRoom) =>
      E.subscribeToEventRange listener request idRoom reporterRoom
  | (.unsubscribeFromEventRange listener request, _) =>
      E.unsubscribeFromEventRange listener request

def stepWithRoom : Step EventManager (Call × Bool × Bool) ReturnValue :=
  fun E c => some (callWithRoom E c).swap

/-- The listeners have the matchers of the trees in memory. -/
def Mirrors (M : SubscriptionManager κ)
    (trees : MessageQueueId → BinaryTree (Cell (Cell EventMatcher))) (E : EventManager) : Prop :=
  ∀ listener, E.listenerList[listener]? =
    M.listenerList[listener]?.map fun tree =>
      EventMatchTree.mk (matchers (trees listener)) tree.invertedMatch

variable {E : EventManager}

theorem Mirrors.mem_iff (h : Mirrors M trees E) :
  listener ∈ E.listenerList ↔ listener ∈ M.listenerList
  := by
  rw [← Std.TreeMap.isSome_getElem?_iff_mem, ← Std.TreeMap.isSome_getElem?_iff_mem, h listener,
    Option.isSome_map]

/-- A listener is given a tree. -/
theorem Mirrors.insert (h : Mirrors M trees E) (tree : ListenerTree) {M' : SubscriptionManager κ}
    (hlist : M'.listenerList = M.listenerList.insert listener tree)
    (t : BinaryTree (Cell (Cell EventMatcher))) :
  Mirrors M' (Function.update trees listener t)
    ⟨E.listenerList.insert listener ⟨matchers t, tree.invertedMatch⟩⟩
  := by
  intro listener'
  rw [hlist, Std.TreeMap.getElem?_insert, Std.TreeMap.getElem?_insert]
  by_cases hne : listener' = listener
  · subst hne
    simp
  · have hcompare : ¬ compare listener listener' = .eq := by simpa using Ne.symm hne
    rw [if_neg hcompare, if_neg hcompare, Function.update_of_ne hne]
    exact h listener'

theorem Mirrors.erase (h : Mirrors M trees E) (listener : MessageQueueId) :
  Mirrors { M with listenerList := M.listenerList.erase listener } trees
    ⟨E.listenerList.erase listener⟩
  := by
  intro listener'
  rw [Std.TreeMap.getElem?_erase, Std.TreeMap.getElem?_erase]
  split_ifs
  · rfl
  · exact h listener'

/-! ### Runs -/

/-- A listener that is unregistered has an empty tree, if it is known at all. -/
def UnregistersEmpty (M : SubscriptionManager κ) : Call → Prop
  | .unregisterListener listener =>
      ∀ tree, M.listenerList[listener]? = some tree → tree.rootNode = none
  | _ => True

/-- The pool has what it should have after some calls, each of which makes two nodes at most, and the
manager without memory has made these calls as well. -/
structure AccountsAfter (laws : B.Reliable) (calls : ℕ) (M : SubscriptionManager κ)
    (E : EventManager) (trees : MessageQueueId → BinaryTree (Cell (Cell EventMatcher))) : Prop where
  accounts : Accounts laws M trees
  mirrors : Mirrors M trees E
  numNodes_le : ∀ listener ∈ M.listenerList, (trees listener).numNodes ≤ 2 * calls

theorem AccountsAfter.succ {k : ℕ} (h : AccountsAfter laws k M E trees) :
  AccountsAfter laws (k + 1) M E trees
  := by
  refine ⟨h.accounts, h.mirrors, ?_⟩
  intro listener hmem
  have := h.numNodes_le listener hmem
  omega

theorem AccountsAfter.registerListener {k : ℕ} (h : AccountsAfter laws k M E trees)
    (hnew : listener ∉ M.listenerList) (inverted : Bool) :
  AccountsAfter laws (k + 1)
    { M with listenerList := M.listenerList.insert listener ⟨none, inverted⟩ }
    ⟨E.listenerList.insert listener ⟨nil, inverted⟩⟩ (Function.update trees listener nil)
  := by
  refine ⟨h.accounts.registerListener hnew inverted, h.mirrors.insert ⟨none, inverted⟩ rfl nil, ?_⟩
  intro listener' hmem'
  rcases mem_insert_iff.mp hmem' with rfl | hold
  · rw [Function.update_self]
    exact Nat.zero_le _
  · have hne : listener' ≠ listener := by
      rintro rfl
      exact hnew hold
    have := h.numNodes_le listener' hold
    rw [Function.update_of_ne hne]
    omega

theorem AccountsAfter.erase {k : ℕ} (h : AccountsAfter laws k M E trees)
    (htree : trees listener = nil) :
  AccountsAfter laws (k + 1) { M with listenerList := M.listenerList.erase listener }
    ⟨E.listenerList.erase listener⟩ trees
  := by
  refine ⟨h.accounts.erase htree, h.mirrors.erase listener, ?_⟩
  intro listener' hmem'
  have := h.numNodes_le listener' (Std.TreeMap.mem_erase.mp hmem').2
  omega

theorem AccountsAfter.withTree {k : ℕ} (h : AccountsAfter laws k M E trees)
    {S : SubscriptionTree κ} {t : BinaryTree (Cell (Cell EventMatcher))}
    (htree : M.listenerList[listener]? = some tree)
    (hchanges : Changes .eventMatchTree laws (M.object tree) S (trees listener) t)
    (hsize : t.numNodes ≤ (trees listener).numNodes + 2) :
  AccountsAfter laws (k + 1) (M.withTree listener tree S)
    ⟨E.listenerList.insert listener ⟨matchers t, tree.invertedMatch⟩⟩
    (Function.update trees listener t)
  := by
  have hmem : listener ∈ M.listenerList :=
    Std.TreeMap.isSome_getElem?_iff_mem.mp (htree ▸ rfl)
  refine ⟨h.accounts.withTree htree hchanges, h.mirrors.insert ⟨S.rootNode, tree.invertedMatch⟩ rfl t, ?_⟩
  intro listener' hmem'
  by_cases hne : listener' = listener
  · have := h.numNodes_le listener hmem
    rw [hne, Function.update_self]
    omega
  · have hmem' := (mem_insert_iff.mp hmem').resolve_left (Ne.symm hne)
    have := h.numNodes_le listener' hmem'
    rw [Function.update_of_ne hne]
    omega

/-- A call that does not unregister a listener with a tree keeps the pool as it should be, and the
manager without memory returns the same. -/
theorem AccountsAfter.call {k : ℕ} (h : AccountsAfter laws k M E trees) (hfuel : 4 * k < fuel)
    (sizes : EventObjectSizes) {c : Call} (hempty : M.UnregistersEmpty c) :
  ∃ room result M' E' trees', M.call B sizes fuel c = some (result, M') ∧
    callWithRoom E (c, room) = (result, E') ∧ AccountsAfter laws (k + 1) M' E' trees'
  := by
  cases c with
  | registerListener listener inverted =>
      use (false, false)
      rw [SubscriptionManager.call, SubscriptionManager.registerListener, callWithRoom,
        EventManager.registerListener]
      simp only [h.mirrors.mem_iff]
      split_ifs with hmem
      · exact ⟨_, M, E, trees, rfl, rfl, h.succ⟩
      · exact ⟨_, _, _, _, rfl, rfl, h.registerListener hmem inverted⟩
  | unregisterListener listener =>
      use (false, false)
      rw [SubscriptionManager.call, unregisterListener, callWithRoom,
        EventManager.unregisterListener]
      simp only [h.mirrors.mem_iff]
      cases htree : M.listenerList[listener]? with
      | none =>
          have hnot : listener ∉ M.listenerList := by
            rw [← Std.TreeMap.isSome_getElem?_iff_mem, htree]
            exact Bool.false_ne_true
          rw [if_neg hnot]
          exact ⟨_, M, E, trees, rfl, rfl, h.succ⟩
      | some tree =>
          have hroot := hempty tree htree
          have hnil : trees listener = nil := by
            rw [← root_eq_none_iff, ← (h.accounts.wellFormed listener tree htree).rootNode_eq]
            exact hroot
          have hdestroy : destructor B fuel (M.object tree) = some (M.object tree) := by
            rw [destructor, clear, object, hroot]
          rw [if_pos (Std.TreeMap.isSome_getElem?_iff_mem.mp (htree ▸ rfl))]
          simp only [hdestroy, Option.bind_eq_bind, Option.bind_some]
          exact ⟨_, _, _, trees, rfl, rfl, h.erase hnil⟩
  | subscribeToEventRange listener request =>
      have hmirror := h.mirrors listener
      rw [SubscriptionManager.call, subscribeToEventRange]
      simp only [callWithRoom, EventManager.subscribeToEventRange]
      cases htree : M.listenerList[listener]? with
      | none =>
          rw [htree] at hmirror
          rw [hmirror]
          exact ⟨(false, false), _, M, E, trees, rfl, rfl, h.succ⟩
      | some tree =>
          have hsize := h.numNodes_le listener (Std.TreeMap.isSome_getElem?_iff_mem.mp (htree ▸ rfl))
          obtain ⟨idRoom, reporterRoom, result, S, t, hadd, hchanges, hgrows, hmatchers⟩ :=
            SubscriptionTree.addMatch_changes (h.accounts.wellFormed listener tree htree)
              (show _ < fuel by omega) sizes request
          rw [htree] at hmirror
          rw [hmirror]
          simp only [hadd, Option.bind_eq_bind, Option.bind_some, Option.map_some]
          refine ⟨(idRoom, reporterRoom), result, _, _, _, rfl, ?_, h.withTree htree hchanges hgrows⟩
          simp only [hmatchers]
  | unsubscribeFromEventRange listener request =>
      use (false, false)
      have hmirror := h.mirrors listener
      rw [SubscriptionManager.call, unsubscribeFromEventRange, callWithRoom,
        EventManager.unsubscribeFromEventRange]
      cases htree : M.listenerList[listener]? with
      | none =>
          rw [htree] at hmirror
          rw [hmirror]
          exact ⟨_, M, E, trees, rfl, rfl, h.succ⟩
      | some tree =>
          have hsize := h.numNodes_le listener (Std.TreeMap.isSome_getElem?_iff_mem.mp (htree ▸ rfl))
          obtain ⟨result, S, t, hremove, hchanges, hshrinks, hmatchers⟩ :=
            SubscriptionTree.removeMatch_changes (h.accounts.wellFormed listener tree htree)
              (show _ < fuel by omega) request
          rw [htree] at hmirror
          rw [hmirror]
          simp only [hremove, Option.bind_eq_bind, Option.bind_some, Option.map_some]
          refine ⟨result, _, _, _, rfl, ?_, h.withTree htree hchanges (by omega)⟩
          simp only [hmatchers]

theorem accounts_start {pool : κ} (hpool : laws.occupied pool = ∅) :
  AccountsAfter laws 0 (start pool) ⟨∅⟩ fun _ => nil
  := by
  refine ⟨⟨?_, ?_, ?_⟩, ?_, ?_⟩
  · intro listener tree htree
    simp [start] at htree
  · intro listener listener' hmem
    simp [start] at hmem
  · intro a ha
    rw [start, hpool] at ha
    cases ha
  · intro listener
    simp [start]
  · intro listener hmem
    simp [start] at hmem

/-- In a run that unregisters only listeners with an empty tree, every call is defined and returns what
it returns without memory, in a pool that has room for some matchers only. -/
theorem refines_eventManager (laws : B.Reliable) (sizes : EventObjectSizes) {pool : κ}
    (hpool : laws.occupied pool = ∅) {calls : List Call} {fuel : ℕ}
    (hfuel : 4 * calls.length < fuel)
    (hcalls : (step B sizes fuel).Along UnregistersEmpty (start pool) calls) :
  ∃ roomed M E results trees, roomed.map Prod.fst = calls ∧
    (step B sizes fuel).run (start pool) calls = some (M, results) ∧
    stepWithRoom.run ⟨∅⟩ roomed = some (E, results) ∧
    Accounts laws M trees ∧ Mirrors M trees E
  := by
  have hstep : ∀ k M E c, k < calls.length → (∃ trees, AccountsAfter laws k M E trees) →
      UnregistersEmpty M c → ∃ roomed M' E' result, Prod.fst roomed = c ∧
        step B sizes fuel M c = some (M', result) ∧ stepWithRoom E roomed = some (E', result) ∧
        ∃ trees, AccountsAfter laws (k + 1) M' E' trees := by
    rintro k M E c hk ⟨trees, h⟩ hempty
    obtain ⟨room, result, M', E', trees', hcall, hcall', h'⟩ :=
      h.call (show 4 * k < fuel by omega) sizes hempty
    refine ⟨(c, room), M', E', result, rfl, ?_, ?_, trees', h'⟩
    · rw [step, hcall]
      rfl
    · rw [stepWithRoom, hcall']
      rfl
  obtain ⟨roomed, M, E, results, hroomed, hrun, hrun', trees, h⟩ :=
    Step.run_simulation_counted hstep ⟨_, accounts_start hpool⟩ hcalls (Nat.zero_add _).le
  exact ⟨roomed, M, E, results, trees, hroomed, hrun, hrun', h.accounts, h.mirrors⟩

end SubscriptionManager
