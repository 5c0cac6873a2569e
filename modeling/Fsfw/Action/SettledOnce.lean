import Fsfw.Action.ActionSettlement
import Fsfw.Action.CommandActionHelper

/-!
# Action commands are settled once

In sound runs both helpers settle their commands, and the commander counts those that wait
(`ActionCommand.settled_once`).  Outside of them an action that is finished at once, or a command
that arrives while another one is executed, is answered twice, the end of an action is reported to
somebody else, and a command that was not sent is counted.
-/

namespace ActionCommand

/-- In sound runs an action helper and a simple one settle every command once, the data of every
command is gone when it has been handled, and a commander counts the commands that wait. -/
theorem settled_once
    {σ : Type} {S : PacketStoreIF σ} (laws : S.Reliable) {E : CommandEnvironment σ} {s : σ}
    {is : List (ActionInput OwnerCall σ)} {js : List (ActionInput SimpleOwnerCall σ)}
    {ks : List (CommandInput σ)}
    (hi : (ActionHelper.next S).Along (ActionHelper.Sound S) (ActionHelper.new s) is)
    (hj : (SimpleActionHelper.next S).Along (SimpleActionHelper.Sound S)
      (SimpleActionHelper.new s) js)
    (hk : (CommandActionHelper.next E).Along (CommandActionHelper.Sound E)
      (CommandActionHelper.new s) ks) :
  (∃ c results, (ActionHelper.next S).run (ActionHelper.new s) is = some (c, results) ∧
    ActionEvent.Settles HasActionsIF.executionFinished c.log ∧
    ∀ sender actionId storeId execution,
      laws.contents (c.handleActionMessage S sender execution
        (.executeAction actionId storeId)).2.ipcStore storeId = none) ∧
  (∃ c results, (SimpleActionHelper.next S).run (SimpleActionHelper.new s) js = some (c, results) ∧
    ActionEvent.Settles .ok c.log ∧
    ∀ sender actionId storeId execution,
      laws.contents (c.handleActionMessage S sender execution
        (.executeAction actionId storeId)).2.ipcStore storeId = none) ∧
  ∃ c results, (CommandActionHelper.next E).run (CommandActionHelper.new s) ks = some (c, results) ∧
    c.Counts
  := by
  and_intros
  · obtain ⟨c, results, hrun, hbooks⟩ := Step.run_invariant
      (fun c i h hsound => ActionHelper.books_next h hsound) ActionEvent.Books.nil hi
    use c, results, hrun, hbooks.settles
    apply c.contents_handleActionMessage laws
  · obtain ⟨c, results, hrun, hbooks⟩ := Step.run_invariant
      (I := fun c : SimpleActionHelper σ => ActionEvent.Books .ok c.executing 0 [] c.log)
      (fun c i h hsound => SimpleActionHelper.books_next h hsound) ActionEvent.Books.nil hj
    use c, results, hrun, hbooks.settles
    apply c.contents_handleActionMessage laws
  · have hnew : (CommandActionHelper.new s).Counts := rfl
    apply Step.run_invariant (fun c i h hsound => CommandActionHelper.Counts.next h hsound) hnew hk

/-- A store with the data of two commands. -/
def twoCommands : StoreAddress → Option (List UInt8) :=
  fun storeId => if storeId.poolIndex = 0 ∧ storeId.packetIndex < 2 then some [7] else none

/-- A commander whose commands can all be sent to the queue `5`. -/
def reachable (result : ReturnValue) :
    CommandEnvironment (StoreAddress → Option (List UInt8)) where
  ipcStore := tableStore 4
  commandQueue _ := some 5
  sendMessage _ _ s := (result, s)

/-- An action that is accepted, and ended later. -/
theorem settled_once_accepted :
  (∃ c results, (ActionHelper.next (tableStore 4)).run (ActionHelper.new twoCommands)
      [.message 1 (.executeAction 3 ⟨0, 0⟩) ⟨[], twoCommands, .ok⟩, .call (.finish true 1 3 .ok)]
        = some (c, results) ∧
    ActionEvent.Settles HasActionsIF.executionFinished c.log ∧
    ∀ sender actionId storeId execution,
      (tableStore.reliable 4).contents (c.handleActionMessage (tableStore 4) sender execution
        (.executeAction actionId storeId)).2.ipcStore storeId = none) ∧
  (∃ c results, (SimpleActionHelper.next (tableStore 4)).run (SimpleActionHelper.new twoCommands)
      [.message 1 (.executeAction 3 ⟨0, 0⟩) ⟨[], twoCommands, .ok⟩, .call (.step .failed)]
        = some (c, results) ∧
    ActionEvent.Settles .ok c.log ∧
    ∀ sender actionId storeId execution,
      (tableStore.reliable 4).contents (c.handleActionMessage (tableStore 4) sender execution
        (.executeAction actionId storeId)).2.ipcStore storeId = none) ∧
  ∃ c results, (CommandActionHelper.next (reachable .ok)).run (CommandActionHelper.new twoCommands)
      [.commandAction 9 3 (.bytes [7]), .reply 5 (.completionSuccess 3 .ok)] = some (c, results) ∧
    c.Counts
  := by
  apply settled_once
  · use fun _ => ⟨nofun, by decide⟩
    rintro _ _ ⟨⟩
    refine ⟨?_, fun _ _ _ => trivial⟩
    rintro _ ⟨⟩
    decide
  · use ⟨rfl, nofun⟩
    rintro _ _ ⟨⟩
    use fun _ => rfl
    intros
    trivial
  · constructor
    · rintro _ _ _ ⟨⟩ _
      exact ⟨rfl, by decide⟩
    · rintro _ _ ⟨⟩
      refine ⟨fun _ => by decide, fun _ _ _ => trivial⟩

/-- An action that is finished at once is answered twice, and so is a command that arrives while
another one is executed.  The end of an action is reported to the queue with the id of the action,
and a command that could not be sent is counted. -/
theorem not_settled_once :
  (∃ c results, (ActionHelper.next (tableStore 4)).run (ActionHelper.new twoCommands)
      [.message 1 (.executeAction 3 ⟨0, 0⟩) ⟨[], twoCommands, HasActionsIF.executionFinished⟩]
        = some (c, results) ∧
    ∀ finished, ¬ ActionEvent.Settles finished c.log) ∧
  (∃ c results, (SimpleActionHelper.next (tableStore 4)).run (SimpleActionHelper.new twoCommands)
      [.message 1 (.executeAction 3 ⟨0, 0⟩) ⟨[], twoCommands, .ok⟩,
        .message 2 (.executeAction 4 ⟨0, 1⟩) ⟨[], twoCommands, .ok⟩] = some (c, results) ∧
    ∀ finished, ¬ ActionEvent.Settles finished c.log) ∧
  (∃ c results, (SimpleActionHelper.next (tableStore 4)).run (SimpleActionHelper.new twoCommands)
      [.message 1 (.executeAction 3 ⟨0, 0⟩) ⟨[], twoCommands, .ok⟩, .call (.finish .ok)]
        = some (c, results) ∧
    ∀ finished, ¬ ActionEvent.Settles finished c.log) ∧
  ∃ c results, (CommandActionHelper.next (reachable .failed)).run
      (CommandActionHelper.new twoCommands) [.commandAction 9 3 (.bytes [7])] = some (c, results) ∧
    ¬ c.Counts
  := by
  and_intros
  · refine ⟨_, _, rfl, ?_⟩
    intro finished h
    apply absurd h.once
    decide
  · refine ⟨_, _, rfl, ?_⟩
    intro finished h
    apply absurd h.once
    decide
  · refine ⟨_, _, rfl, ?_⟩
    intro finished h
    apply absurd h.once
    decide
  · refine ⟨_, _, rfl, ?_⟩
    decide

end ActionCommand
