import Fsfw.Events.SubscriptionManager
import Fsfw.StorageManager.ObjectPool

/-!
# The pool of the event manager

When a listener is unregistered, its tree is destroyed, and its nodes and matchers should be given
back, so that the pool has two elements for each node of the trees of the listeners.

A tree that is not empty is not given back.  The pool has what it should have as long as only
listeners with an empty tree are unregistered (`occupied_twice_nodes`).
-/

open BinaryTree MatchTreeObject LocalPool

namespace SubscriptionManager

variable {κ : Type} {B : PlacementBackend κ} {laws : B.Reliable} {M : SubscriptionManager κ}
  {trees : MessageQueueId → BinaryTree (Cell (Cell EventMatcher))} {tree : ListenerTree}
  {fuel : ℕ}

/-- The trees of the listeners. -/
def Live (M : SubscriptionManager κ)
    (trees : MessageQueueId → BinaryTree (Cell (Cell EventMatcher))) : Prop :=
  ∀ listener tree, M.listenerList[listener]? = some tree →
    tree.rootNode = (trees listener).root ∧ Represents M.node none (trees listener)

/-- A tree is destroyed as it should be: the loop ends, each node is visited once, and the nodes and
matchers are given back. -/
def Destroys (laws : B.Reliable) (M : SubscriptionManager κ) (tree : ListenerTree)
    (t : BinaryTree (Cell (Cell EventMatcher))) : Prop :=
  ∃ fuel S', destructor B fuel (M.object tree) = some S' ∧ S'.cleaned.Perm t.addresses ∧
    laws.occupied S'.pool = laws.occupied M.pool \ cellSet t

/-- Only a tree that is empty is destroyed as it should be. -/
theorem destroys_iff {t : BinaryTree (Cell (Cell EventMatcher))}
    (h : WellFormed .eventMatchTree laws (M.object tree) t) :
  Destroys laws M tree t ↔ tree.rootNode = none
  := by
  have hroot : tree.rootNode = t.root := h.rootNode_eq
  rw [hroot, root_eq_none_iff]
  constructor
  · rintro ⟨fuel, S', hdestroy, -, hoccupied⟩
    rw [(destructor_prunes hdestroy).pool_eq] at hoccupied
    cases t with
    | nil =>
        rfl
    | node element l r =>
        -- The node at the root is still in the pool.
        have hmem : element.address ∈ cellSet (BinaryTree.node element l r) := by
          apply mem_cellSet_of_mem_addresses
          rw [addresses_node]
          exact List.mem_cons_self
        have hpool := h.cellSet_subset (by decide) hmem
        rw [hoccupied, Finset.mem_sdiff] at hpool
        exact absurd hmem hpool.2
  · rintro rfl
    use 0, M.object tree
    have hnone : (M.object tree).rootNode = none := hroot
    refine ⟨?_, .refl _, ?_⟩
    · rw [destructor, clear, hnone]
    · exact (Finset.sdiff_empty).symm

theorem Accounts.live (h : Accounts laws M trees) :
  Live M trees
  := by
  intro listener tree htree
  have hwf := h.wellFormed listener tree htree
  exact ⟨hwf.rootNode_eq, hwf.represents⟩

/-- In a run that unregisters only listeners with an empty tree, every call is defined, and the pool
has two elements for each node of the trees of the listeners.  A tree of such a run is destroyed as it
should be exactly when it is empty. -/
theorem occupied_twice_nodes (laws : B.Reliable) (sizes : EventObjectSizes) {pool : κ}
    (hpool : laws.occupied pool = ∅) {calls : List Call} {fuel : ℕ}
    (hfuel : 4 * calls.length < fuel)
    (hcalls : (step B sizes fuel).Along UnregistersEmpty (start pool) calls) :
  ∃ M results trees, (step B sizes fuel).run (start pool) calls = some (M, results) ∧
    Live M trees ∧
    (laws.occupied M.pool).card = 2 * ∑ listener ∈ M.listeners, (trees listener).numNodes ∧
    ∀ listener tree, M.listenerList[listener]? = some tree →
      (Destroys laws M tree (trees listener) ↔ tree.rootNode = none)
  := by
  obtain ⟨-, M, -, results, trees, -, hrun, -, haccounts, -⟩ :=
    refines_eventManager laws sizes hpool hfuel hcalls
  refine ⟨M, results, trees, hrun, haccounts.live, haccounts.card_occupied, ?_⟩
  intro listener tree htree
  exact destroys_iff (haccounts.wellFormed listener tree htree)

/-! ### A listener with a subscription -/

/-- The sizes on a machine of 64 bits. -/
def exampleSizes : EventObjectSizes where
  node := 32
  eventIdRangeMatcher := 40
  reporterRangeMatcher := 48

/-- The default numbers of elements. -/
def poolConfig : LocalPoolConfig where
  pairs := [⟨240, exampleSizes.node, by decide, by decide⟩,
    ⟨120, exampleSizes.eventIdRangeMatcher, by decide, by decide⟩,
    ⟨120, exampleSizes.reporterRangeMatcher, by decide, by decide⟩]
  sorted := by decide

/-- The pool of a new event manager, with blocks of memory one after another. -/
def factoryBackend : ObjectPool :=
  ObjectPool.ofBlocks
    (LocalPool.new poolConfig (fun n => n * 2 ^ 16) true (show 3 < 256 by decide) (by
      have hlen : ∀ k, k < 3 → poolConfig.storeLen k ≤ 2 ^ 16 := by decide
      intro m n hmn hn
      change n < 3 at hn
      have hle := hlen m (by omega)
      omega))
    (show ∀ n, n < 3 → 0 < poolConfig.elementSizes n by decide)
    (show ∀ n, n < 3 → poolConfig.elementSizes n ≤ 2 ^ 16 by decide)
    (show ∀ n, n < 3 → poolConfig.numberOfElements n * poolConfig.elementSizes n ≤ 2 ^ 16 by decide)

/-- The event with the id 5, from the reporter 3. -/
def oneEvent : EventRequest :=
  ⟨5, 0, false, 3, 0, false⟩

/-- A subscription is cancelled before its listener is unregistered. -/
def cancelledCalls : List Call :=
  [.registerListener 1 false, .subscribeToEventRange 1 oneEvent,
    .unsubscribeFromEventRange 1 oneEvent, .unregisterListener 1]

theorem occupied_twice_nodes_cancelledCalls :
  ∃ M results trees,
    (step ObjectPool.backend exampleSizes 20).run (start factoryBackend) cancelledCalls
      = some (M, results) ∧
    Live M trees ∧
    M.pool.pool.occupied.card = 2 * ∑ listener ∈ M.listeners, (trees listener).numNodes
  := by
  have hcalls : (step ObjectPool.backend exampleSizes 20).Along UnregistersEmpty
      (start factoryBackend) cancelledCalls := by
    refine ⟨trivial, fun M₁ _ h₁ => ⟨trivial, fun M₂ _ h₂ => ⟨trivial, fun M₃ _ h₃ => ⟨?_, ?_⟩⟩⟩⟩
    · cases h₁
      cases h₂
      cases h₃
      intro tree htree
      cases htree
      rfl
    · intro _ _ _
      trivial
  obtain ⟨M, results, trees, hrun, hlive, hcard, -⟩ :=
    occupied_twice_nodes ObjectPool.reliable exampleSizes
      (ObjectPool.occupied_of_free (P := factoryBackend) fun _ _ => rfl)
      (show 4 * cancelledCalls.length < 20 by decide) hcalls
  exact ⟨M, results, trees, hrun, hlive, hcard⟩

/-- The node and the matcher of a subscription stay in the pool when its listener is unregistered, and
the destructor is undefined when the subscription is for all reporters. -/
theorem not_occupied_twice_nodes :
  (∀ fuel, (step ObjectPool.backend exampleSizes fuel).run (start factoryBackend)
      [.registerListener 1 false, .subscribeToEventRange 1 { oneEvent with reporterFrom := 0 },
        .unregisterListener 1] = none) ∧
    ¬ ∀ (calls : List Call) (fuel : ℕ) (M : SubscriptionManager ObjectPool)
        (results : List ReturnValue) (trees : MessageQueueId → BinaryTree (Cell (Cell EventMatcher))),
      (step ObjectPool.backend exampleSizes fuel).run (start factoryBackend) calls
        = some (M, results) →
      Live M trees →
      M.pool.pool.occupied.card = 2 * ∑ listener ∈ M.listeners, (trees listener).numNodes
  := by
  constructor
  · intro fuel
    obtain _ | _ | fuel := fuel
    · rfl
    · rfl
    · rfl
  · intro h
    have hrun := h [.registerListener 1 false, .subscribeToEventRange 1 oneEvent,
      .unregisterListener 1] 20 _ _ (fun _ => nil) rfl (by
        intro listener tree htree
        cases htree)
    revert hrun
    decide +kernel

end SubscriptionManager
