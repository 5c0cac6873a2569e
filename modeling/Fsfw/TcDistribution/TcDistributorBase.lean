import Fsfw.Ipc.MessageQueueIF
import Fsfw.Library.Run
import Fsfw.StorageManager.PacketStore

/-!
# Distributors of telecommands

A distributor receives messages, each of which has the address of a packet in a store.  It selects
a destination for the packet, sends the message there, and then learns whether that worked.  How
the destination is selected and what is done after sending depends on the distributor.  The store
has further users: between two messages it may change in any way.
-/

/-- What became of a message: the messages that were sent with success, the verification reports
that were issued, and the result. -/
structure Handling (ρ : Type*) where
  sent : List (MessageQueueId × StoreAddress)
  reports : List ρ
  result : ReturnValue

/-- A distributor whose own state is of type `δ`.  It may give the message another address when
it selects the destination.  The result of `selectDestination` is `none` when its behaviour is
undefined. -/
structure TcDistributorBase (σ δ ρ : Type*) where
  selectDestination : StoreAddress → δ × σ →
    Option (Except ReturnValue MessageQueueId × StoreAddress × δ × σ)
  callbackAfterSending : ReturnValue → StoreAddress → δ × σ → ReturnValue × List ρ × δ × σ

namespace TcDistributorBase

variable {σ δ ρ : Type*}

/-- Handle a message that was received.  The result of sending the message on is `queueStatus`. -/
def handlePacket (D : TcDistributorBase σ δ ρ) (currentMessage : StoreAddress)
    (queueStatus : ReturnValue) (d : δ × σ) : Option ((δ × σ) × Handling ρ) :=
  match D.selectDestination currentMessage d with
  | none => none
  | some (.error result, _, d) => some (d, ⟨[], [], result⟩)
  | some (.ok destId, currentMessage, d) =>
      let sent := if queueStatus = .ok then [(destId, currentMessage)] else []
      match D.callbackAfterSending queueStatus currentMessage d with
      | (result, reports, d) => some (d, ⟨sent, reports, result⟩)

/-- Handle the messages in the queue.  The result is the one of the last message that failed, and
every message that failed triggers an event with its result. -/
def performOperation (D : TcDistributorBase σ δ ρ) :
    List (StoreAddress × ReturnValue) → ReturnValue → δ × σ →
    Option ((δ × σ) × ReturnValue × List ReturnValue)
  | [], result, d => some (d, result, [])
  | (currentMessage, queueStatus) :: messages, result, d =>
      match D.handlePacket currentMessage queueStatus d with
      | none => none
      | some (d, handling) =>
          if handling.result = .ok then
            D.performOperation messages result d
          else
            match D.performOperation messages handling.result d with
            | none => none
            | some (d, result, events) => some (d, result, handling.result :: events)

/-- A message that is received, or a change of the store by its other users. -/
inductive Input (σ : Type*) where
  | received (currentMessage : StoreAddress) (queueStatus : ReturnValue)
  | others (store : σ)

/-- A step of a distributor. -/
def step (D : TcDistributorBase σ δ ρ) : Step (δ × σ) (Input σ) (Handling ρ) :=
  fun d input =>
    match input with
    | .received currentMessage queueStatus => D.handlePacket currentMessage queueStatus d
    | .others store => some ((d.1, store), ⟨[], [], .ok⟩)

/-- Handling the messages in the queue is a run whose inputs are these messages. -/
theorem performOperation_eq_run (D : TcDistributorBase σ δ ρ)
    (messages : List (StoreAddress × ReturnValue)) (result : ReturnValue) (d : δ × σ) :
  (D.performOperation messages result d).map (fun out => (out.1, out.2.2)) =
    (D.step.run d (messages.map fun message => .received message.1 message.2)).map
      (fun out => (out.1, (out.2.map Handling.result).filter (· ≠ .ok)))
  := by
  induction messages generalizing result d with
  | nil =>
      rfl
  | cons message messages ih =>
      obtain ⟨currentMessage, queueStatus⟩ := message
      simp only [performOperation, List.map_cons, Step.run, step]
      cases D.handlePacket currentMessage queueStatus d with
      | none =>
          rfl
      | some out =>
          obtain ⟨d', handling⟩ := out
          by_cases hok : handling.result = .ok
          · simp only [if_pos hok, ih]
            cases D.step.run d' (messages.map fun message =>
              Input.received message.1 message.2) with
            | none =>
                rfl
            | some out =>
                simp [hok]
          · have hrest := ih handling.result d'
            simp only [if_neg hok]
            generalize D.performOperation messages handling.result d' = done at hrest ⊢
            generalize D.step.run d' (messages.map fun message =>
              Input.received message.1 message.2) = run at hrest ⊢
            cases done with
            | none =>
                cases run with
                | none =>
                    rfl
                | some out =>
                    cases hrest
            | some out =>
                cases run with
                | none =>
                    cases hrest
                | some out' =>
                    simp only [Option.map_some, Option.some.injEq, Prod.mk.injEq] at hrest
                    simp [hrest.1, hrest.2, hok]

end TcDistributorBase
