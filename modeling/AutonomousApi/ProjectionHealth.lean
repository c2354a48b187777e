import AutonomousApi.ProjectionLaws

/-! What a live projection says of itself (LiveProjection.ts of observation-client): its health, the
authoritative sequence and the count of recoveries. They are kept beside the projection, which steps
as before. What the clock decides about staleness, and what a liveness probe answers, comes with the
step. -/

namespace AutonomousApi.ProjectionHealth

open FailFast LiveProjection ProjectionLaws

inductive Health where
  | initializing | healthy | degraded | stale | desynchronized | unavailable
  deriving DecidableEq

inductive StreamLifecycle where
  | connecting | opened | closed | reconnecting
  deriving DecidableEq

structure Status where
  health : Health := .initializing
  authoritativeSequence : Int := -1
  recoveriesSucceeded : Nat := 0
  deriving DecidableEq

def Status.touchLiveness (status : Status) : Status :=
  if status.health = .stale then { status with health := .healthy } else status

def Status.setHealth (status : Status) (health : Health) : Status := { status with health }

section

variable {State Payload : Type} (config : Config State Payload)

/-- What `applyEnvelope` does to the status. A heartbeat leaves the authoritative sequence alone. -/
def observeEnvelope (status : Status) (state : State) (envelope : Envelope Payload) : Status :=
  if envelope.eventType = config.heartbeatEventType then status.touchLiveness
  else
    match config.reducer state envelope with
    | none => status.setHealth .desynchronized
    | some _ =>
        { status with
          authoritativeSequence := max status.authoritativeSequence envelope.sequence }.touchLiveness

structure Watched (State : Type) where
  live : Live State
  status : Status
  deriving DecidableEq

def watchEnvelope (due : Int → Bool) (watched : Watched State) (envelope : Envelope Payload) : Watched State :=
  ⟨applyEnvelope config due watched.live envelope, observeEnvelope config watched.status watched.live.state envelope⟩

/-- `applyEnvelopeDirect` with the status. -/
def watchDirect (due : Int → Bool) (watched : Watched State) (envelope : Envelope Payload) :
    Except (Watched State) (Watched State) :=
  match evaluate watched.live.toCore envelope with
  | .duplicate => .ok { watched with live := watched.live.refresh envelope }
  | .gap _ => .error watched
  | .apply => .ok (watchEnvelope config due watched envelope)

/-- The reducer throws on the envelope. -/
def throws (state : State) (envelope : Envelope Payload) : Bool :=
  envelope.eventType != config.heartbeatEventType && (config.reducer state envelope).isNone

/-- The reducer throws somewhere in a loop of `applyEnvelopeDirect`. -/
def throwsIn (due : Int → Bool) (live : Live State) : List (Envelope Payload) → Bool
  | [] => false
  | envelope :: rest =>
      match evaluate live.toCore envelope with
      | .duplicate => throwsIn due (live.refresh envelope) rest
      | .gap _ => false
      | .apply => throws config live.state envelope || throwsIn due (applyEnvelope config due live envelope) rest

/-- A projection with its status. `connecting` counts the starts that wait for the stream to connect,
`monitors` the staleness timers that were started, `probing` the liveness probes under way; `received`
lists the sequences of all envelopes that were delivered. -/
structure Monitored (State Payload : Type) where
  projection : Projection State Payload
  status : Status := {}
  connecting : Nat := 0
  monitors : Nat := 0
  probing : Nat := 0
  received : List Int := []
  deriving DecidableEq

def Monitored.appliedSequence (monitored : Monitored State Payload) : Int :=
  monitored.projection.live.appliedSequence

inductive Signal (State Payload : Type) where
  | act (action : Action State Payload)
  | connected (succeeded : Bool)
  | lifecycle (state : StreamLifecycle)
  | checkStaleness (late : Bool)
  | probed (alive : Bool)

variable (probe : Bool)

/-- The end of `recover` after an exception. -/
def recoveryFailed (attempts : Nat) (status : Status) : Status :=
  status.setHealth (if config.maxRecoveryAttempts ≤ attempts then .desynchronized else .degraded)

/-- `hydrateFromSnapshot`. -/
def hydratedStatus (status : Status) (sequence : Int) : Status :=
  { status with authoritativeSequence := sequence }.touchLiveness

/-- The loop of `recover` over the replay, the pending envelope last. -/
def watchReplay (due : Int → Bool) (watched : Watched State) (sequence : Int) (events : List (Envelope Payload))
    (pending : Envelope Payload) : Except (Watched State) (Watched State) :=
  foldChecked (watchDirect config due) { watched with live := setFromConsistencyPoint watched.live sequence }
    (events ++ [pending])

def Monitored.watched (monitored : Monitored State Payload) : Watched State :=
  ⟨monitored.projection.live, monitored.status⟩

/-- What a step of the projection does to the status. -/
def observe (monitored : Monitored State Payload) : Action State Payload → Status
  | .start =>
      if monitored.projection.started then monitored.status else monitored.status.setHealth .initializing
  | .caughtUp _ (some events) due =>
      match foldChecked (watchDirect config due) monitored.watched events with
      | .ok watched =>
          { watched.status with
            authoritativeSequence := max watched.status.authoritativeSequence watched.live.appliedSequence }
      | .error watched => watched.status
  | .hydrated _ (some snapshot) => hydratedStatus monitored.status snapshot.sequence
  | .handle _ =>
      match monitored.projection.holder, monitored.projection.queue with
      | .idle, envelope :: _ =>
          match evaluate monitored.projection.live.toCore envelope with
          | .duplicate => monitored.status
          | .apply => observeEnvelope config monitored.status monitored.projection.live.state envelope
          | .gap _ =>
              if config.maxRecoveryAttempts ≤ monitored.projection.recoveryAttempts then
                monitored.status.setHealth .desynchronized
              else monitored.status
      | _, _ => monitored.status
  | .replayed plan due =>
      match monitored.projection.holder with
      | .awaitingReplay pending _ _ =>
          match plan with
          | .failed => recoveryFailed config monitored.projection.recoveryAttempts monitored.status
          | .resync => monitored.status
          | .replay sequence events =>
              match watchReplay config due monitored.watched sequence events pending with
              -- the reducer may have thrown on the last of them
              | .ok watched =>
                  { watched.status with
                    health := .healthy, recoveriesSucceeded := watched.status.recoveriesSucceeded + 1 }
              | .error watched => recoveryFailed config monitored.projection.recoveryAttempts watched.status
      | _ => monitored.status
  | .resynced snapshot =>
      match monitored.projection.holder with
      | .awaitingSnapshot _ =>
          match snapshot with
          | none => recoveryFailed config monitored.projection.recoveryAttempts monitored.status
          | some snapshot => (hydratedStatus monitored.status snapshot.sequence).setHealth .healthy
      | _ => monitored.status
  | _ => monitored.status

def lifecycleStatus (status : Status) : StreamLifecycle → Status
  | .opened =>
      if status.health = .unavailable ∨ status.health = .degraded then status.setHealth .healthy else status
  | .reconnecting => if status.health = .desynchronized then status else status.setHealth .degraded
  | .closed => if status.health = .desynchronized then status else status.setHealth .unavailable
  | .connecting => status

def Monitored.receive (monitored : Monitored State Payload) : Action State Payload → List Int
  | .deliver envelope => envelope.sequence :: monitored.received
  | _ => monitored.received

def step (monitored : Monitored State Payload) : Signal State Payload → Option (Monitored State Payload)
  | .act action =>
      (LiveProjection.step config monitored.projection action).map fun projection =>
        { monitored with
          projection, status := observe config monitored action, received := monitored.receive action,
          -- a start that has subscribed goes on to connect
          connecting := if monitored.projection.subscriptions < projection.subscriptions then monitored.connecting + 1
            else monitored.connecting }
  | .connected succeeded =>
      if monitored.connecting = 0 then none
      else
        let waiting := { monitored with connecting := monitored.connecting - 1 }
        if succeeded then
          some { waiting with
            monitors := monitored.monitors + 1,
            status := if monitored.status.health = .initializing then monitored.status.setHealth .healthy
              else monitored.status }
        else some waiting
  | .lifecycle state =>
      if monitored.projection.subscriptions = 0 then none
      else some { monitored with status := lifecycleStatus monitored.status state }
  | .checkStaleness late =>
      if monitored.monitors = 0 then none
      else if monitored.status.health = .healthy ∨ monitored.status.health = .stale then
        if late then
          if probe then some { monitored with probing := monitored.probing + 1 }
          else some { monitored with status := monitored.status.setHealth .stale }
        else some { monitored with status := monitored.status.touchLiveness }
      else some monitored
  | .probed alive =>
      if monitored.probing = 0 then none
      else
        let done := { monitored with probing := monitored.probing - 1 }
        -- the health is written whatever it has become since the check
        if alive then some done else some { done with status := monitored.status.setHealth .stale }

def initially (stored : List (CheckpointRecord State)) : Monitored State Payload :=
  { projection := initial config stored }

end

section

variable {State Payload : Type} {config : Config State Payload} {due : Int → Bool}

/-- Either end of a watched loop. -/
def stopped : Except (Watched State) (Watched State) → Watched State
  | .ok watched => watched
  | .error watched => watched

variable (watched : Watched State)

/-- Watching changes nothing: the loops go through the same states and end the same way. -/
theorem watchAll_live (events : List (Envelope Payload)) :
    foldChecked (applyEnvelopeDirect config due) watched.live events =
      match foldChecked (watchDirect config due) watched events with
      | .ok after => .ok after.live
      | .error after => .error after.live := by
  induction events generalizing watched with
  | nil => rfl
  | cons envelope rest ih =>
      rw [foldChecked, foldChecked, applyEnvelopeDirect, watchDirect]
      cases evaluate watched.live.toCore envelope with
      | duplicate => exact ih { watched with live := watched.live.refresh envelope }
      | gap missingFrom => rfl
      | apply => exact ih (watchEnvelope config due watched envelope)

theorem watchReplay_live (sequence : Int) (events : List (Envelope Payload)) (pending : Envelope Payload) :
    applyReplay config due watched.live sequence events pending =
      match watchReplay config due watched sequence events pending with
      | .ok after => .ok after.live
      | .error after => .error after.live :=
  watchAll_live { watched with live := setFromConsistencyPoint watched.live sequence } (events ++ [pending])

/-- An envelope moves the tracker by one or not at all. -/
theorem applyEnvelope_expected (live : Live State) (envelope : Envelope Payload) :
    (applyEnvelope config due live envelope).expected =
      if throws config live.state envelope then live.expected else live.expected + 1 := by
  rw [applyEnvelope, throws]
  split
  · next heartbeat => simp [heartbeat, Live.consume]
  · next event =>
      cases reduced : config.reducer live.state envelope with
      | none => simp [event]
      | some state =>
          dsimp only
          split
          · simp [checkpoint_core, Live.consume]
          · simp [Live.consume]

/-- A loop never takes the tracker back. -/
theorem watchAll_forward (events : List (Envelope Payload)) :
    watched.live.expected ≤ (stopped (foldChecked (watchDirect config due) watched events)).live.expected := by
  induction events generalizing watched with
  | nil => exact Int.le_refl _
  | cons envelope rest ih =>
      rw [foldChecked, watchDirect]
      cases evaluate watched.live.toCore envelope with
      | duplicate => exact ih { watched with live := watched.live.refresh envelope }
      | gap missingFrom => exact Int.le_refl _
      | apply =>
          refine Int.le_trans ?_ (ih (watchEnvelope config due watched envelope))
          rw [watchEnvelope, applyEnvelope_expected]
          split
          · exact Int.le_refl _
          · omega

end

/-- Collects payloads and throws on a zero. -/
def nonzero : Config (List Nat) Nat where
  initialState := []
  reducer state envelope := if envelope.payload = 0 then none else some (state ++ [envelope.payload])
  checkpointStore := false
  contentHash state := toString state

def note (sequence payload : Nat) : Envelope Nat := ⟨"n" ++ toString sequence, sequence, "note", payload⟩

def beat (sequence : Nat) : Envelope Nat := ⟨"b" ++ toString sequence, sequence, "observation.heartbeat", 0⟩

def never (_ : Int) : Bool := false

/-- A start from an empty snapshot. -/
def started : List (Signal (List Nat) Nat) :=
  [.act .start, .act (.hydrated 0 (some ⟨[], -1⟩)), .connected true]

def ready : Monitored (List Nat) Nat where
  projection := { live := { state := [] }, started := true, begun := true, subscriptions := 1, unsubscribable := true }
  status := { health := .healthy }
  monitors := 1

example : Runs.run (step nonzero false) (initially nonzero []) started = some ready := by decide

end AutonomousApi.ProjectionHealth
