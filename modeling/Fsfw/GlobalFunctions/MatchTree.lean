import Fsfw.Library.Branches
import Fsfw.ReturnValues

/-!
# Match trees

The nodes of a match tree have matchers.  An input matches a tree when it matches a node and the
tree at its AND branch, or the tree at its OR branch.  An iterator is a position in the tree, which
is the end when there is no node.  The elements of the tree are created in a pool that may be full,
and are given back to it without failing.

The matchers on an OR branch are searched for the one of a request.  The functions that do this and
change what they find amount to `link` and `unlink`.
-/

namespace BinaryTree

variable {α : Type*}

/-- The position above.  The end is above the root. -/
def up : Position → Option Position
  | [] => none
  | _ :: position => some position

/-- Put a node below another one, or make it the root. -/
def insert (t : BinaryTree α) (insertLeft : Bool) (parentNode : Option Position)
    (newNode : BinaryTree α) : Position × BinaryTree α :=
  match parentNode with
  | none => ([], newNode)
  | some parentNode => (insertLeft :: parentNode, t.replace (insertLeft :: parentNode) newNode)

/-- The children of the node are not looked after. -/
def erase (t : BinaryTree α) (node : Position) : BinaryTree α :=
  t.replace node nil

end BinaryTree

open BinaryTree

namespace MatchTree

abbrev AND : Bool := true
abbrev OR : Bool := false

variable {α ι : Type*} [DecidableEq α]

/-! ### Matching -/

def matchSubtree (fits : α → ι → Bool) : BinaryTree α → ι → Bool
  | nil, _ => false
  | node value left right, input =>
      if fits value input then
        if left = nil then
          true
        else if matchSubtree fits left input then
          true
        else
          matchSubtree fits right input
      else
        matchSubtree fits right input

/-- A tree matches what fits all matchers of one of its patterns. -/
theorem matchSubtree_iff (fits : α → ι → Bool) (t : BinaryTree α) (input : ι) :
  matchSubtree fits t input = true ↔
    ∃ pattern ∈ t.patterns, ∀ value ∈ pattern, fits value input = true
  := by
  induction t with
  | nil =>
      simp [matchSubtree, patterns]
  | node value left right ihleft ihright =>
      -- The input fits the node and the tree at its AND branch.
      have hnode : (∃ pattern, (left = nil ∧ pattern = [value] ∨
            ∃ rest ∈ left.patterns, pattern = value :: rest) ∧
            ∀ value' ∈ pattern, fits value' input = true) ↔
          fits value input = true ∧ (left = nil ∨ matchSubtree fits left input = true) := by
        rw [ihleft]
        constructor
        · rintro ⟨pattern, ⟨hleft, rfl⟩ | ⟨rest, hrest, rfl⟩, hfits⟩
          · use hfits value List.mem_cons_self, Or.inl hleft
          · rw [List.forall_mem_cons] at hfits
            use hfits.1, Or.inr ⟨rest, hrest, hfits.2⟩
        · rintro ⟨hvalue, hleft | ⟨rest, hrest, hfits⟩⟩
          · use [value], Or.inl ⟨hleft, rfl⟩
            simpa using hvalue
          · use value :: rest, Or.inr ⟨rest, hrest, rfl⟩
            rw [List.forall_mem_cons]
            use hvalue
      have hsplit : (∃ pattern ∈ (node value left right).patterns,
            ∀ value' ∈ pattern, fits value' input = true) ↔
          (fits value input = true ∧ (left = nil ∨ matchSubtree fits left input = true)) ∨
            matchSubtree fits right input = true := by
        rw [← hnode, ihright]
        simp only [patterns, Set.mem_union, Set.mem_ofPred_eq, or_and_right, exists_or]
      rw [hsplit, matchSubtree]
      split_ifs with h h' h'' <;> simp_all

/-! ### Removing elements -/

def isOnAndBranch (position : Position) : Bool :=
  match up position with
  | none => false
  | some above => position = AND :: above

/-- All elements below are given back to the pool. -/
def removeElementAndAllChildren (t : BinaryTree α) (position : Position) : BinaryTree α :=
  t.erase position

def removeElementAndReconnectChildren (t : BinaryTree α) : Position → BinaryTree α
  | [] =>
      let t := removeElementAndAllChildren t [AND]
      if t.subtree [OR] ≠ nil then
        (t.insert OR none (t.subtree [OR])).2
      else
        t.erase []
  | branch :: above =>
      let position := branch :: above
      let t' := removeElementAndAllChildren t (AND :: position)
      if t'.subtree (OR :: position) ≠ nil then
        (t'.insert (isOnAndBranch position) (some above) (t'.subtree (OR :: position))).2
      else if isOnAndBranch position then
        removeElementAndReconnectChildren t' above
      else
        t'.erase position

/-! ### Searching an OR branch -/

/-- Go down the OR branch from a position until a matcher passes the test.  The result has the last
matcher that was looked at, and the branch where another one may be attached to it. -/
def search (test : α → Bool) : BinaryTree α → Position → Bool → Option Position →
    Bool × Bool × Option Position
  | nil, _, attachToBranch, lastTest => (false, attachToBranch, lastTest)
  | node value _ right, iter, _, _ =>
      if test value then
        (true, OR, some iter)
      else
        search test right (OR :: iter) OR (some iter)

/-- What comes of a search that creates a node when there is none. -/
inductive Insertion where
  | found
  | created
  | full
  deriving DecidableEq

/-- What is returned, when the node that is attached is not the end. -/
def Insertion.result : Insertion → ReturnValue
  | found | created => .ok
  | full => MatchTree.full

/-- Find a matcher on the OR branch that begins at a position, or add it.  There is room when the
matcher as well as the node can be created in the pool. -/
def findOrInsert (test : α → Bool) (newContent : α) (room : Bool) (t : BinaryTree α)
    (start : Position) (lastTest : Option Position) :
    Insertion × Option Position × BinaryTree α :=
  match search test (t.subtree start) start AND lastTest with
  | (true, _, lastTest) => (.found, lastTest, t)
  | (false, attachToBranch, lastTest) =>
      if room then
        let (newNode, t) := t.insert attachToBranch lastTest (node newContent nil nil)
        (.created, some newNode, t)
      else
        (.full, lastTest, t)

/-- Find a matcher on the OR branch that begins at a position. -/
def find (test : α → Bool) (t : BinaryTree α) (start : Position) : Option Position :=
  match search test (t.subtree start) start AND none with
  | (true, _, lastTest) => lastTest
  | (false, _, _) => none

omit [DecidableEq α] in
/-- What is found does not depend on what was looked at before. -/
theorem find_eq (test : α → Bool) (t : BinaryTree α) (start : Position)
    (lastTest : Option Position) :
  find test t start =
    let found := search test (t.subtree start) start AND lastTest
    if found.1 then found.2.2 else none
  := by
  have hsearch : ∀ s : BinaryTree α, s ≠ nil →
      search test s start AND none = search test s start AND lastTest := by
    intro s hne
    cases s with
    | nil => contradiction
    | node value left right => rfl
  rw [find]
  by_cases hnil : t.subtree start = nil
  · rw [hnil]
    rfl
  · rw [hsearch _ hnil]
    obtain ⟨found, attachToBranch, position⟩ := search test (t.subtree start) start AND lastTest
    cases found with
    | true => rfl
    | false => rfl

/-! ### What removing elements does -/

theorem isOnAndBranch_iff (position : Position) :
  isOnAndBranch position = true ↔ ∃ above, position = AND :: above
  := by
  cases position with
  | nil =>
      simp [isOnAndBranch, up]
  | cons branch above =>
      simp [isOnAndBranch, up]

/-- One step of the removal, without what is removed from the AND branch. -/
theorem removeElementAndReconnectChildren_step (t : BinaryTree α) (position : Position) :
  removeElementAndReconnectChildren t position =
    if t.subtree (OR :: position) = nil ∧ isOnAndBranch position then
      removeElementAndReconnectChildren (t.replace (AND :: position) nil) position.tail
    else
      t.replace position (t.subtree (OR :: position))
  := by
  have hor : (t.replace (AND :: position) nil).subtree (OR :: position) =
      t.subtree (OR :: position) :=
    subtree_right_replace_left t nil position []
  have hreplace : ∀ u, (t.replace (AND :: position) nil).replace position u =
      t.replace position u := by
    intro u
    apply replace_replace_append t nil u position [AND]
  cases position with
  | nil =>
      simp only [removeElementAndReconnectChildren, removeElementAndAllChildren, erase, hor,
        BinaryTree.insert, isOnAndBranch, up]
      by_cases h : t.subtree [OR] = nil
      · simp [h, replace]
      · simp [h, replace]
  | cons branch above =>
      simp only [removeElementAndReconnectChildren, removeElementAndAllChildren, erase, hor,
        BinaryTree.insert, hreplace, List.tail_cons]
      by_cases h : t.subtree (OR :: branch :: above) = nil
      · simp [h]
      · have hbranch : isOnAndBranch (branch :: above) = branch := by
          cases branch <;> simp [isOnAndBranch, up]
        simp [h, hbranch, hreplace]

/-- What is on the AND branch of an element does not matter for its removal. -/
theorem removeElementAndReconnectChildren_replace (t u : BinaryTree α) (position q : Position) :
  removeElementAndReconnectChildren (t.replace (q ++ AND :: position) u) position =
    removeElementAndReconnectChildren t position
  := by
  induction position generalizing t q u with
  | nil =>
      rw [removeElementAndReconnectChildren_step, removeElementAndReconnectChildren_step t,
        subtree_right_replace_left]
      simp [isOnAndBranch, up, replace]
  | cons branch above ih =>
      have hsplit : q ++ AND :: branch :: above = (q ++ [AND]) ++ branch :: above := by
        simp
      rw [removeElementAndReconnectChildren_step, removeElementAndReconnectChildren_step t,
        subtree_right_replace_left, hsplit, replace_replace_append]
      split_ifs with h
      · obtain ⟨_, habove⟩ := h
        obtain ⟨above', heq⟩ := (isOnAndBranch_iff _).mp habove
        cases heq
        have hand : ∀ s : BinaryTree α, removeElementAndReconnectChildren
            (s.replace (AND :: AND :: above) nil) above =
            removeElementAndReconnectChildren s above := by
          intro s
          apply ih s nil [AND]
        rw [List.tail_cons, hand, hand, ih]
      · rfl

/-- The tree at the OR branch comes to the place of the element, unless there is none and the
element was the only one on the AND branch of another one, which is then removed as well. -/
theorem removeElementAndReconnectChildren_eq (t : BinaryTree α) (position : Position) :
  removeElementAndReconnectChildren t position =
    if t.subtree (OR :: position) = nil ∧ isOnAndBranch position then
      removeElementAndReconnectChildren t position.tail
    else
      t.replace position (t.subtree (OR :: position))
  := by
  rw [removeElementAndReconnectChildren_step]
  split_ifs with h
  · obtain ⟨above, rfl⟩ := (isOnAndBranch_iff _).mp h.2
    apply removeElementAndReconnectChildren_replace t nil above [AND]
  · rfl

/-! ### What a search finds -/

section

variable {test : α → Bool} {value : α} {s : BinaryTree α}

/-- A test that singles out a value among those of a spine. -/
def SinglesOut (test : α → Bool) (value : α) (s : BinaryTree α) : Prop :=
  ∀ value', s.lookup value' ≠ none → (test value' = true ↔ value' = value)

theorem SinglesOut.right {value' : α} {left right : BinaryTree α}
    (h : SinglesOut test value (node value' left right)) :
  SinglesOut test value right
  := by
  intro value'' hlookup
  apply h
  rw [lookup]
  split_ifs
  · simp
  · apply hlookup

theorem SinglesOut.head {value' : α} {left right : BinaryTree α}
    (h : SinglesOut test value (node value' left right)) :
  test value' = true ↔ value' = value
  := by
  apply h
  simp [lookup]

/-- A matcher that is there is found. -/
theorem search_of_lookup {u : BinaryTree α} (hlookup : s.lookup value = some u)
    (htest : SinglesOut test value s) (p : Position) (attachToBranch : Bool)
    (lastTest : Option Position) :
  ∃ n right, search test s p attachToBranch lastTest =
      (true, OR, some (List.replicate n OR ++ p)) ∧
    s.subtree (List.replicate n OR) = node value u right ∧
    (∀ u', s.replace (AND :: List.replicate n OR) u' = s.link value u') ∧
    s.replace (List.replicate n OR) right = s.unlink value
  := by
  induction s generalizing p attachToBranch lastTest with
  | nil =>
      cases hlookup
  | node value' left right _ ih =>
      by_cases heq : value' = value
      · subst heq
        simp only [lookup, if_true] at hlookup
        cases hlookup
        use 0, right
        simp [search, htest.head, subtree, replace, setChild, link, unlink]
      · simp only [lookup, if_neg heq] at hlookup
        obtain ⟨n, right', hsearch, hsubtree, hlink, hunlink⟩ :=
          ih hlookup htest.right (OR :: p) OR (some p)
        have hsucc : List.replicate (n + 1) OR = List.replicate n OR ++ [OR] :=
          List.replicate_succ'
        use n + 1, right'
        refine ⟨?_, ?_, ?_, ?_⟩
        · rw [search, if_neg (htest.head.not.mpr heq), hsearch, hsucc]
          simp
        · rw [hsucc, subtree_append]
          apply hsubtree
        · intro u'
          rw [hsucc, ← List.cons_append, replace_append_right, hlink, link, if_neg heq]
        · rw [hsucc, replace_append_right, hunlink, unlink, if_neg heq]

/-- A matcher that is not there is attached to the end of the OR branch. -/
theorem search_of_lookup_eq_none (hlookup : s.lookup value = none)
    (htest : SinglesOut test value s) (p : Position) (attachToBranch : Bool)
    (lastTest : Option Position) :
  (s = nil ∧ search test s p attachToBranch lastTest = (false, attachToBranch, lastTest)) ∨
    ∃ n, search test s p attachToBranch lastTest =
        (false, OR, some (List.replicate n OR ++ p)) ∧
      s.subtree (List.replicate n OR) ≠ nil ∧
      s.subtree (OR :: List.replicate n OR) = nil ∧
      ∀ u, s.replace (OR :: List.replicate n OR) (node value u nil) = s.link value u
  := by
  induction s generalizing p attachToBranch lastTest with
  | nil =>
      left
      use rfl
      rfl
  | node value' left right _ ih =>
      right
      have heq : value' ≠ value := by
        rintro rfl
        simp [lookup] at hlookup
      rw [lookup, if_neg heq] at hlookup
      rw [search, if_neg (htest.head.not.mpr heq)]
      rcases ih hlookup htest.right (OR :: p) OR (some p) with
        ⟨rfl, hsearch⟩ | ⟨n, hsearch, hnode, hnil, hlink⟩
      · use 0
        simp [hsearch, subtree, child, replace, setChild, link, heq]
      · have hsucc : List.replicate (n + 1) OR = List.replicate n OR ++ [OR] :=
          List.replicate_succ'
        use n + 1
        rw [hsucc, ← List.cons_append, subtree_append, subtree_append]
        refine ⟨?_, hnode, hnil, ?_⟩
        · rw [hsearch]
          simp
        · intro u
          rw [replace_append_right, hlink, link, if_neg heq]

end

/-! ### What the searches in a tree do -/

section

variable {test : α → Bool} {value : α} {t t' : BinaryTree α} {start position : Position}

/-- The position of a matcher gives access to what is below it in another tree, in which the matcher
is on the OR branch that begins at `start`. -/
structure Focuses (value : α) (t : BinaryTree α) (start : Position) (t' : BinaryTree α)
    (position : Position) : Prop where
  subtree_ne : t'.subtree position ≠ nil
  subtree_eq : t'.subtree (AND :: position) = (t.subtree start).under value
  replace_eq : ∀ u, t'.replace (AND :: position) u =
    t.replace start ((t.subtree start).link value u)

/-- An OR branch may begin at the root or on an AND branch. -/
def Begins (t : BinaryTree α) (start : Position) : Prop :=
  start = [] ∨ ∃ above, start = AND :: above ∧ t.subtree above ≠ nil

omit [DecidableEq α] in
theorem Begins.subtree_tail (h : Begins t start) :
  start = [] ∨ t.subtree start.tail ≠ nil
  := by
  rcases h with h | ⟨above, rfl, h⟩
  · left
    apply h
  · right
    apply h

/-- Another OR branch begins at what is found. -/
theorem Focuses.begins (h : Focuses value t start t' position) :
  Begins t' (AND :: position)
  := by
  right
  use position, rfl, h.subtree_ne

/-- Nothing is changed by putting back what is below the matcher. -/
theorem Focuses.eq_replace (h : Focuses value t start t' position) :
  t' = t.replace start ((t.subtree start).link value ((t.subtree start).under value))
  := by
  rw [← h.replace_eq, ← h.subtree_eq, replace_subtree]

/-- A search within what was found by another one. -/
theorem Focuses.trans {value' : α} {t'' : BinaryTree α} {position' : Position}
    (h : Focuses value t start t' position)
    (h' : Focuses value' t' (AND :: position) t'' position') :
  t''.subtree (AND :: position') = ((t.subtree start).under value).under value' ∧
    ∀ u, t''.replace (AND :: position') u = t.replace start
      ((t.subtree start).link value (((t.subtree start).under value).link value' u))
  := by
  constructor
  · rw [h'.subtree_eq, h.subtree_eq]
  · intro u
    rw [h'.replace_eq, h.replace_eq, h.subtree_eq]

/-- A matcher that is there gives access to what is below it. -/
theorem focuses_of_search {n : ℕ} (right : BinaryTree α)
    (hsubtree : (t.subtree start).subtree (List.replicate n OR) =
      node value ((t.subtree start).under value) right)
    (hlink : ∀ u, (t.subtree start).replace (AND :: List.replicate n OR) u =
      (t.subtree start).link value u) :
  Focuses value t start t (List.replicate n OR ++ start)
  := by
  refine ⟨?_, ?_, ?_⟩
  · rw [subtree_append, hsubtree]
    simp
  · rw [← List.cons_append, subtree_append, subtree, hsubtree]
    rfl
  · intro u
    rw [← List.cons_append, replace_append, hlink]

/-- What is created gives access to what is below it. -/
theorem focuses_of_insert (hlookup : (t.subtree start).lookup value = none)
    (hposition : position = [] ∨ t.subtree position.tail ≠ nil)
    (hlink : ∀ u, t.replace position (node value u nil) =
      t.replace start ((t.subtree start).link value u)) :
  Focuses value t start (t.replace position (node value nil nil)) position
  := by
  have hsubtree : (t.replace position (node value nil nil)).subtree position =
      node value nil nil :=
    subtree_replace t _ hposition
  refine ⟨?_, ?_, ?_⟩
  · rw [hsubtree]
    simp
  · rw [subtree, hsubtree, under, hlookup]
    rfl
  · intro u
    rw [replace, hsubtree, replace_replace]
    apply hlink

/-- What `findOrInsert` does: it finds the matcher, or creates it when there is room. -/
theorem findOrInsert_spec (hbegins : Begins t start)
    (htest : SinglesOut test value (t.subtree start)) (room : Bool) :
  (∃ position, findOrInsert test value room t start (up start) = (.found, some position, t) ∧
      (t.subtree start).lookup value ≠ none ∧ Focuses value t start t position) ∨
    (t.subtree start).lookup value = none ∧
      ((room = true ∧ ∃ position,
          findOrInsert test value room t start (up start) =
            (.created, some position, t.replace position (node value nil nil)) ∧
          t.subtree position = nil ∧
          Focuses value t start (t.replace position (node value nil nil)) position) ∨
        (room = false ∧
          ∃ lastTest, findOrInsert test value room t start (up start) = (.full, lastTest, t)))
  := by
  cases hlookup : (t.subtree start).lookup value with
  | some u =>
      left
      obtain ⟨n, right, hsearch, hsubtree, hlink, _⟩ :=
        search_of_lookup hlookup htest start AND (up start)
      use List.replicate n OR ++ start
      refine ⟨?_, by simp, ?_⟩
      · rw [findOrInsert, hsearch]
      · apply focuses_of_search right _ hlink
        rw [hsubtree, under, hlookup]
        rfl
  | none =>
      right
      use rfl
      -- Where the new node comes to.
      obtain ⟨attachToBranch, lastTest, position, hsearch, hinsert, hnil, hinside, hlink⟩ :
          ∃ attachToBranch lastTest position,
            search test (t.subtree start) start AND (up start) =
              (false, attachToBranch, lastTest) ∧
            t.insert attachToBranch lastTest (node value nil nil) =
              (position, t.replace position (node value nil nil)) ∧
            t.subtree position = nil ∧
            (position = [] ∨ t.subtree position.tail ≠ nil) ∧
            ∀ u, t.replace position (node value u nil) =
              t.replace start ((t.subtree start).link value u) := by
        rcases search_of_lookup_eq_none hlookup htest start AND (up start) with
          ⟨hnil, hsearch⟩ | ⟨n, hsearch, hnode, hnil, hlink⟩
        · refine ⟨AND, up start, start, hsearch, ?_, hnil, hbegins.subtree_tail, ?_⟩
          · rcases hbegins with rfl | ⟨above, rfl, _⟩
            · rfl
            · rfl
          · intro u
            rw [hnil]
            rfl
        · refine ⟨OR, _, OR :: List.replicate n OR ++ start, hsearch, rfl, ?_, ?_, ?_⟩
          · rw [subtree_append, hnil]
          · right
            rw [List.cons_append, List.tail_cons, subtree_append]
            apply hnode
          · intro u
            rw [replace_append, hlink]
      have hfocuses := focuses_of_insert hlookup hinside hlink
      cases room with
      | true =>
          left
          use rfl, position
          refine ⟨?_, hnil, hfocuses⟩
          rw [findOrInsert, hsearch]
          simp [hinsert]
      | false =>
          right
          use rfl, lastTest
          rw [findOrInsert, hsearch]
          simp

/-- What `find` does, and the removal of what it finds: when nothing is left of the OR branch, the
element above is removed. -/
theorem find_spec (t : BinaryTree α) (start : Position)
    (htest : SinglesOut test value (t.subtree start)) :
  ((t.subtree start).lookup value = none ∧ find test t start = none) ∨
    ∃ position, find test t start = some position ∧
      (t.subtree start).lookup value ≠ none ∧
      Focuses value t start t position ∧
      removeElementAndReconnectChildren t position =
        if (t.subtree start).unlink value = nil ∧ isOnAndBranch start then
          removeElementAndReconnectChildren t start.tail
        else
          t.replace start ((t.subtree start).unlink value)
  := by
  cases hlookup : (t.subtree start).lookup value with
  | none =>
      left
      use rfl
      rcases search_of_lookup_eq_none hlookup htest start AND none with
        ⟨_, hsearch⟩ | ⟨n, hsearch, _⟩
      · rw [find, hsearch]
      · rw [find, hsearch]
  | some u =>
      right
      obtain ⟨n, right, hsearch, hsubtree, hlink, hunlink⟩ :=
        search_of_lookup hlookup htest start AND none
      use List.replicate n OR ++ start
      refine ⟨?_, by simp, ?_, ?_⟩
      · rw [find, hsearch]
      · apply focuses_of_search right _ hlink
        rw [hsubtree, under, hlookup]
        rfl
      · have hright : t.subtree (OR :: (List.replicate n OR ++ start)) = right := by
          rw [subtree, subtree_append, hsubtree]
          rfl
        rw [removeElementAndReconnectChildren_eq, hright]
        cases n with
        | zero =>
            rw [← hunlink]
            rfl
        | succ n =>
            -- The first element of the OR branch stays.
            have hne : (t.subtree start).unlink value ≠ nil := by
              rw [← hunlink]
              apply replace_ne_nil _ _ (by simp [List.replicate_succ])
              intro hnil
              rw [hnil] at hlookup
              cases hlookup
            have hor : isOnAndBranch (List.replicate (n + 1) OR ++ start) = false := by
              simp [isOnAndBranch, up, List.replicate_succ]
            simp [hor, hne, replace_append, hunlink]

/-- The position of the last matcher of a sequence, and what can be done there. -/
structure Reaches (t : BinaryTree α) (values : List α) (position : Position) : Prop where
  subtree_eq : t.subtree (AND :: position) = t.underAll values
  replace_eq : ∀ u, t.replace (AND :: position) u = t.linkAll values u
  remove_eq : removeElementAndReconnectChildren t position = t.removePattern values
  mem_patterns_iff : t.Distinct → (values ∈ t.patterns ↔ t.subtree (AND :: position) = nil)

/-- A search from the root. -/
theorem find_root (htest : SinglesOut test value t) :
  (t.lookup value = none ∧ find test t [] = none) ∨
    ∃ position, find test t [] = some position ∧ Reaches t [value] position
  := by
  rcases find_spec t [] htest with hnone | ⟨position, hfind, hlookup, hfocuses, hremove⟩
  · left
    apply hnone
  · right
    refine ⟨position, hfind, hfocuses.subtree_eq, hfocuses.replace_eq, ?_, ?_⟩
    · simpa [isOnAndBranch, up, replace, subtree, removePattern] using hremove
    · intro hdistinct
      obtain ⟨u, hu⟩ := Option.ne_none_iff_exists'.mp hlookup
      rw [subtree] at hu
      rw [hdistinct.singleton_mem_patterns_iff, hfocuses.subtree_eq, under, subtree, hu]
      simp

/-- A search from what has been reached. -/
theorem Reaches.find {values : List α} (h : Reaches t values position) (hne : values ≠ [])
    (htest : SinglesOut test value (t.underAll values)) :
  ((t.underAll values).lookup value = none ∧
      MatchTree.find test t (AND :: position) = none) ∨
    ∃ position', MatchTree.find test t (AND :: position) = some position' ∧
      Reaches t (values ++ [value]) position'
  := by
  have hspec := find_spec t (AND :: position) (h.subtree_eq ▸ htest)
  simp only [h.subtree_eq, h.replace_eq, h.remove_eq, List.tail_cons] at hspec
  rcases hspec with hnone | ⟨position', hfind, hlookup, hfocuses, hremove⟩
  · left
    apply hnone
  · right
    have hsubtree := hfocuses.subtree_eq
    rw [h.subtree_eq] at hsubtree
    refine ⟨position', hfind, ?_, ?_, ?_, ?_⟩
    · rw [hsubtree, underAll_append]
    · intro u
      rw [hfocuses.replace_eq, h.replace_eq, h.subtree_eq, linkAll_append]
    · have hbranch : isOnAndBranch (AND :: position) = true := by
        rw [isOnAndBranch_iff]
        use position
      rw [hremove, removePattern_append, hbranch]
      simp [hne]
    · intro hdistinct
      obtain ⟨u, hu⟩ := Option.ne_none_iff_exists'.mp hlookup
      rw [hdistinct.append_mem_patterns_iff, hsubtree, under, hu]
      simp

end

end MatchTree
