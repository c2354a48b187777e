import AutonomousApi.NumberedLog
import AutonomousApi.Runs

/-! One stream of the observation gateway: `EventDispatcher.emit` takes a number and then
persists the event, under its lock, while the handlers of /observation/snapshot and
/observation/state read the store in steps of their own. Every access to the store is one
step. `history` is all that was ever persisted; the store itself keeps a window of it. -/

namespace AutonomousApi.ObservationStream

open NumberedLog

variable {Payload : Type}

structure Envelope (Payload : Type) where
  sequence : Int
  eventId : String
  eventType : String
  occurredAt : String
  payload : Payload
  deriving DecidableEq

/-- `InMemorySequenceStore` for the stream, with the numbers that `next` has given out. -/
structure Store (Payload : Type) where
  counter : Int := -1
  log : List (Envelope Payload) := []
  deriving DecidableEq

def Store.next (store : Store Payload) : Store Payload := { store with counter := store.counter + 1 }

/-- Append to a `deque(maxlen=replay_window)`. -/
def Store.persist (window : Nat) (store : Store Payload) (envelope : Envelope Payload) : Store Payload :=
  { store with log := keepLast window (store.log ++ [envelope]) }

def Store.replay (store : Store Payload) (after : Int) (limit : Nat) : List (Envelope Payload) :=
  (store.log.filter fun envelope => decide (after < envelope.sequence)).take limit

/-- `_materialize_state`: the summary of the log as of a sequence. -/
def materializeState (store : Store Payload) (sequence : Int) : Option (Envelope Payload) :=
  if 0 ≤ sequence then
    match store.replay (sequence - 1) 1 with
    | envelope :: _ => if envelope.sequence = sequence then some envelope else none
    | [] => none
  else none

/-- A handler between two of its reads. `seen` is how much was persisted when the replay
was read. -/
inductive Handler (Payload : Type) where
  | snapshot (current : Int)
  | current (after : Int) (limit : Nat) (current : Int)
  | replayed (after : Int) (limit : Nat) (current : Int) (events : List (Envelope Payload)) (seen : Nat)
  deriving DecidableEq

/-- A successful response, and how much was persisted when it was produced. -/
inductive Response (Payload : Type) where
  | snapshot (sequence : Int) (lastEvent : Option (Envelope Payload)) (persisted : Nat)
  | state (after : Int) (limit : Nat) (sequence : Int) (lastEvent : Option (Envelope Payload))
      (replayEvents : List (Envelope Payload)) (seen persisted : Nat)
  | streamNotFound
  | replayExhausted (resyncFrom : Int)
  deriving DecidableEq

structure Gateway (Payload : Type) where
  store : Store Payload := {}
  emitting : Option (Envelope Payload) := none
  history : List (Envelope Payload) := []
  handlers : List (Handler Payload) := []
  responses : List (Response Payload) := []
  deriving DecidableEq

inductive Action (Payload : Type) where
  | next (eventId eventType occurredAt : String) (payload : Payload)
  | persist
  | snapshot
  | state (after : Int) (limit : Nat)
  | replay (index : Nat)
  | respond (index : Nat)

/-- The point through which the state of a /state response is materialized. -/
def consistentTo (current : Int) : List (Envelope Payload) → Int
  | [] => current
  | first :: _ => first.sequence - 1

/-- One step. Only one `emit` is between its two steps, by the dispatcher's lock. -/
def step (window : Nat) (gateway : Gateway Payload) : Action Payload → Option (Gateway Payload)
  | .next eventId eventType occurredAt payload =>
      match gateway.emitting with
      -- the lock is taken
      | some _ => none
      | none =>
          -- from here on `current` reports a number that is not persisted yet
          let store := gateway.store.next
          some { gateway with
            store, emitting := some { sequence := store.counter, eventId, eventType, occurredAt, payload } }
  | .persist =>
      gateway.emitting.map fun envelope =>
        { gateway with store := gateway.store.persist window envelope, emitting := none,
                       history := gateway.history ++ [envelope] }
  | .snapshot =>
      if gateway.store.counter < 0 then some { gateway with responses := gateway.responses ++ [.streamNotFound] }
      else some { gateway with handlers := gateway.handlers ++ [.snapshot gateway.store.counter] }
  | .state after limit =>
      if after < -1 ∨ limit < 1 ∨ 1000 < limit then none
      else if gateway.store.counter < 0 then some { gateway with responses := gateway.responses ++ [.streamNotFound] }
      -- the bound is checked against this `current`, the replay is read later
      else if (limit : Int) < gateway.store.counter - after then
        some { gateway with responses := gateway.responses ++ [.replayExhausted gateway.store.counter] }
      else some { gateway with handlers := gateway.handlers ++ [.current after limit gateway.store.counter] }
  | .replay index =>
      match gateway.handlers[index]? with
      | some (.current after limit current) =>
          some { gateway with
            handlers := gateway.handlers.set index
              (.replayed after limit current (gateway.store.replay after limit) gateway.history.length) }
      | _ => none
  | .respond index =>
      match gateway.handlers[index]? with
      | some (.snapshot current) =>
          some { gateway with
            handlers := gateway.handlers.eraseIdx index,
            responses := gateway.responses ++
              [.snapshot current (materializeState gateway.store current) gateway.history.length] }
      | some (.replayed after limit current events seen) =>
          some { gateway with
            handlers := gateway.handlers.eraseIdx index,
            responses := gateway.responses ++
              [.state after limit (consistentTo current events)
                (materializeState gateway.store (consistentTo current events)) events seen gateway.history.length] }
      | _ => none

end AutonomousApi.ObservationStream
