import AutonomousApi.FailFast
import AutonomousApi.NumberedLog
import AutonomousApi.Runs

/-! The client side of a stream, observation-client/src/sync/LiveProjection.ts: a state that
is folded from delivered envelopes, with recovery of gaps by replay, hydration from
snapshots and checkpoints. What runs between two awaits is one step. Whatever the
environment answers is an argument of the step, and so is what a clock decides. -/

namespace AutonomousApi.LiveProjection

open NumberedLog FailFast

structure Envelope (Payload : Type) where
  eventId : String
  sequence : Int
  eventType : String
  payload : Payload
  deriving DecidableEq

/-- A reducer that throws gives `none`. -/
structure Config (State Payload : Type) where
  initialState : State
  reducer : State → Envelope Payload → Option State
  heartbeatEventType : String := "observation.heartbeat"
  duplicateGuardCapacity : Nat := 10000
  maxRecoveryAttempts : Nat := 3
  checkpointStore : Bool := true
  maxCheckpointAge : Int := 86400000
  contentHash : State → String

structure CheckpointRecord (State : Type) where
  sequence : Int
  savedAt : Int
  state : State
  contentHash : String
  deriving DecidableEq

/-- The state, the tracker's expected sequence and the guard's event ids, oldest first. -/
structure Core (State : Type) where
  state : State
  expected : Int := 0
  seen : List String := []
  deriving DecidableEq

def Core.appliedSequence {State : Type} (core : Core State) : Int := core.expected - 1

section

variable {State Payload : Type}

inductive Verdict where
  | duplicate
  | apply
  | gap (missingFrom : Int)
  deriving DecidableEq

/-- `LruSet.has` refreshes what it finds. -/
def refresh (seen : List String) (eventId : String) : List String :=
  if eventId ∈ seen then seen.erase eventId ++ [eventId] else seen

/-- `LruSet.add`. -/
def markProcessed (capacity : Nat) (seen : List String) (eventId : String) : List String :=
  keepLast capacity (seen.erase eventId ++ [eventId])

def evaluate (core : Core State) (envelope : Envelope Payload) : Verdict :=
  if envelope.eventId ∈ core.seen then .duplicate
  else if envelope.sequence = core.expected then .apply
  else if envelope.sequence < core.expected then .duplicate
  else .gap core.expected

/-- A core, with the states of the checkpoints that wait for their hash. -/
structure Live (State : Type) extends Core State where
  captured : List State := []
  deriving DecidableEq

variable (config : Config State Payload)

def Live.refresh (live : Live State) (envelope : Envelope Payload) : Live State :=
  { live with seen := LiveProjection.refresh live.seen envelope.eventId }

/-- The tracker advances and the guard marks the event. -/
def Live.consume (live : Live State) (envelope : Envelope Payload) : Live State :=
  { live with expected := live.expected + 1,
              seen := markProcessed config.duplicateGuardCapacity live.seen envelope.eventId }

/-- The part of `checkpoint` before its first await. -/
def Live.checkpoint (live : Live State) : Live State :=
  if config.checkpointStore then { live with captured := live.captured ++ [live.state] } else live

/-- `applyEnvelope`; `due` says of which events the clock makes a checkpoint due. -/
def applyEnvelope (due : Int → Bool) (live : Live State) (envelope : Envelope Payload) : Live State :=
  if envelope.eventType = config.heartbeatEventType then live.consume config envelope
  else
    match config.reducer live.state envelope with
    -- neither the tracker nor the guard moves, so the event stays the expected one
    | none => live
    | some state =>
        let applied := Live.consume config { live with state } envelope
        if due envelope.sequence then applied.checkpoint config else applied

/-- `applyEnvelopeDirect`. An exception leaves what was applied before it. -/
def applyEnvelopeDirect (due : Int → Bool) (live : Live State) (envelope : Envelope Payload) :
    Except (Live State) (Live State) :=
  match evaluate live.toCore envelope with
  | .duplicate => .ok (live.refresh envelope)
  | .gap _ => .error live
  | .apply => .ok (applyEnvelope config due live envelope)

def setFromConsistencyPoint (live : Live State) (sequence : Int) : Live State :=
  { live with expected := sequence + 1 }

/-- `hydrateFromSnapshot` and the adoption of a checkpoint. -/
def adopt (live : Live State) (state : State) (sequence : Int) : Live State :=
  { live with state, expected := sequence + 1, seen := [] }

/-- The replay part of `recover`, the pending envelope last. -/
def applyReplay (due : Int → Bool) (live : Live State) (sequence : Int) (events : List (Envelope Payload))
    (pending : Envelope Payload) : Except (Live State) (Live State) :=
  foldChecked (applyEnvelopeDirect config due) (setFromConsistencyPoint live sequence) (events ++ [pending])

/-- Either end of a loop that may have thrown. -/
def ended : Except (Live State) (Live State) → Live State
  | .ok live => live
  | .error live => live

end

variable {State Payload : Type}

/-- Where a `start` in progress waits. -/
inductive Phase where
  | loading
  | catchingUp (after : Int)
  | hydrating
  deriving DecidableEq

/-- The envelope handler that holds the mutex. `issued` is the core as it was when the
handler issued its request. -/
inductive Holder (State Payload : Type) where
  | idle
  | awaitingReplay (pending : Envelope Payload) (missingFrom : Int) (issued : Core State)
  | awaitingSnapshot (issued : Core State)
  deriving DecidableEq

/-- `begun` only says that `start` was called before. `records` are all that were saved. -/
structure Projection (State Payload : Type) where
  live : Live State
  started : Bool := false
  begun : Bool := false
  starting : List Phase := []
  subscriptions : Nat := 0
  unsubscribable : Bool := false
  queue : List (Envelope Payload) := []
  holder : Holder State Payload := .idle
  recoveryAttempts : Nat := 0
  records : List (CheckpointRecord State) := []
  deriving DecidableEq

structure Snapshot (State : Type) where
  state : State
  sequence : Int

/-- What `coordinator.plan` makes of the answer to a replay request. -/
inductive Plan (Payload : Type) where
  | replay (sequence : Int) (events : List (Envelope Payload))
  | resync
  | failed

inductive Action (State Payload : Type) where
  | start
  | load (index : Nat) (place : Option Nat) (now : Int)
  | caughtUp (index : Nat) (events : Option (List (Envelope Payload))) (due : Int → Bool)
  | hydrated (index : Nat) (snapshot : Option (Snapshot State))
  | stop
  | deliver (envelope : Envelope Payload)
  | handle (due : Int → Bool)
  | replayed (plan : Plan Payload) (due : Int → Bool)
  | resynced (snapshot : Option (Snapshot State))
  | checkpoint
  | hashed (index : Nat) (now : Int)
  | hashFailed (index : Nat)

variable (config : Config State Payload)

def initial (stored : List (CheckpointRecord State)) : Projection State Payload :=
  { live := { state := config.initialState }, records := stored }

/-- The checks of `tryResumeFromCheckpoint` on the record it has loaded. -/
def usable (now : Int) (record : CheckpointRecord State) : Bool :=
  decide (now - record.savedAt ≤ config.maxCheckpointAge) &&
    config.contentHash record.state == record.contentHash

/-- A `start` that has a state subscribes to the stream. -/
def Projection.subscribe (projection : Projection State Payload) (index : Nat) : Projection State Payload :=
  { projection with starting := projection.starting.eraseIdx index,
                    subscriptions := projection.subscriptions + 1, unsubscribable := true }

/-- One step of the handler that holds the mutex next. -/
def handle (due : Int → Bool) (projection : Projection State Payload) (envelope : Envelope Payload)
    (rest : List (Envelope Payload)) : Projection State Payload :=
  match evaluate projection.live.toCore envelope with
  | .duplicate => { projection with queue := rest, live := projection.live.refresh envelope }
  | .apply => { projection with queue := rest, live := applyEnvelope config due projection.live envelope }
  | .gap missingFrom =>
      if config.maxRecoveryAttempts ≤ projection.recoveryAttempts then { projection with queue := rest }
      else
        { projection with
          queue := rest, recoveryAttempts := projection.recoveryAttempts + 1,
          holder := .awaitingReplay envelope missingFrom projection.live.toCore }

def step (projection : Projection State Payload) : Action State Payload → Option (Projection State Payload)
  | .start =>
      if projection.started then some projection
      else some { projection with
        started := true, begun := true,
        starting := projection.starting ++ [if config.checkpointStore then .loading else .hydrating] }
  | .load index place now =>
      match projection.starting[index]? with
      | some .loading =>
          match place.bind fun place => projection.records[place]? with
          -- no record, or the store rejected
          | none => some { projection with starting := projection.starting.set index .hydrating }
          | some record =>
              if usable config now record then
                some { projection with
                  live := adopt projection.live record.state record.sequence,
                  starting := projection.starting.set index (.catchingUp record.sequence) }
              else some { projection with starting := projection.starting.set index .hydrating }
      | _ => none
  | .caughtUp index events due =>
      match projection.starting[index]? with
      | some (.catchingUp _) =>
          match events with
          | none => some { projection with starting := projection.starting.set index .hydrating }
          | some events =>
              match foldChecked (applyEnvelopeDirect config due) projection.live events with
              | .ok live => some (Projection.subscribe { projection with live } index)
              -- a discontinuity falls back to a snapshot, over what was applied before it
              | .error live =>
                  some { projection with live, starting := projection.starting.set index .hydrating }
      | _ => none
  | .hydrated index snapshot =>
      match projection.starting[index]? with
      | some .hydrating =>
          match snapshot with
          -- `start` rejects, and `started` stays set
          | none => some { projection with starting := projection.starting.eraseIdx index }
          | some snapshot =>
              some (Projection.subscribe
                { projection with live := adopt projection.live snapshot.state snapshot.sequence } index)
      | _ => none
  | .stop =>
      if projection.started then
        -- the queue and the handler in flight are left to finish
        some { projection with
          started := false, unsubscribable := false, live := projection.live.checkpoint config,
          subscriptions := if projection.unsubscribable then projection.subscriptions - 1
            else projection.subscriptions }
      else some projection
  | .deliver envelope =>
      if projection.subscriptions = 0 then none
      else some { projection with queue := projection.queue ++ [envelope] }
  | .handle due =>
      match projection.holder, projection.queue with
      | .idle, envelope :: rest => some (handle config due projection envelope rest)
      | _, _ => none
  | .replayed plan due =>
      match projection.holder with
      | .awaitingReplay pending _ issued =>
          match plan with
          | .failed => some { projection with holder := .idle }
          | .resync => some { projection with holder := .awaitingSnapshot issued }
          | .replay sequence events =>
              match applyReplay config due projection.live sequence events pending with
              | .ok live => some { projection with live, holder := .idle, recoveryAttempts := 0 }
              -- the attempt stays counted, and so does what was applied
              | .error live => some { projection with live, holder := .idle }
      | _ => none
  | .resynced snapshot =>
      match projection.holder with
      | .awaitingSnapshot _ =>
          match snapshot with
          | none => some { projection with holder := .idle }
          | some snapshot =>
              -- the pending envelope is dropped: the snapshot covers it
              some { projection with live := adopt projection.live snapshot.state snapshot.sequence,
                                     holder := .idle, recoveryAttempts := 0 }
      | _ => none
  | .checkpoint => some { projection with live := projection.live.checkpoint config }
  | .hashed index now =>
      (projection.live.captured[index]?).map fun state =>
        { projection with
          live := { projection.live with captured := projection.live.captured.eraseIdx index },
          -- the state is the captured one, the sequence is read here
          records := projection.records ++
            [{ sequence := projection.live.appliedSequence, savedAt := now, state,
               contentHash := config.contentHash state }] }
  | .hashFailed index =>
      some { projection with
        live := { projection.live with captured := projection.live.captured.eraseIdx index } }

end AutonomousApi.LiveProjection
