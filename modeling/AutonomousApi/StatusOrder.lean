import AutonomousApi.ProjectionHealth

/-! The two sequences of a status. Whatever applies an event, hydrates or catches up keeps the
authoritative sequence at or above the applied one; a heartbeat moves only the tracker, and the answer
to a recovery and a checkpoint record write it. -/

namespace AutonomousApi.StatusOrder

open FailFast Runs LiveProjection ProjectionHealth

variable {State Payload : Type} {config : Config State Payload} {probe : Bool} {due : Int → Bool}
  {monitored following : Monitored State Payload} {signal : Signal State Payload}

/-- The tracker has not overtaken the authoritative sequence. -/
def Ordered (watched : Watched State) : Prop := watched.live.appliedSequence ≤ watched.status.authoritativeSequence

/-- Heartbeats are consumed only at sequences that the authoritative one has reached. -/
def BeatsKnown (config : Config State Payload) (due : Int → Bool) : Watched State → List (Envelope Payload) → Prop
  | _, [] => True
  | watched, envelope :: rest =>
      match evaluate watched.live.toCore envelope with
      | .duplicate => BeatsKnown config due { watched with live := watched.live.refresh envelope } rest
      | .gap _ => True
      | .apply =>
          (envelope.eventType = config.heartbeatEventType →
            envelope.sequence ≤ watched.status.authoritativeSequence) ∧
          BeatsKnown config due (watchEnvelope config due watched envelope) rest

@[simp] theorem touchLiveness_authoritative (status : Status) :
    status.touchLiveness.authoritativeSequence = status.authoritativeSequence := by
  rw [Status.touchLiveness]
  split <;> rfl

theorem watchEnvelope_ordered {watched : Watched State} {envelope : Envelope Payload} (ordered : Ordered watched)
    (next : envelope.sequence = watched.live.expected)
    (known : envelope.eventType = config.heartbeatEventType →
      envelope.sequence ≤ watched.status.authoritativeSequence) :
    Ordered (watchEnvelope config due watched envelope) := by
  rw [Ordered, watchEnvelope, Core.appliedSequence, applyEnvelope_expected, observeEnvelope, throws]
  by_cases heartbeat : envelope.eventType = config.heartbeatEventType
  · have reached := known heartbeat
    simp only [heartbeat, bne_self_eq_false, Bool.false_and, if_true, touchLiveness_authoritative]
    rw [if_neg Bool.false_ne_true]
    omega
  · cases reduced : config.reducer watched.live.state envelope with
    | none => simpa [heartbeat, Ordered, Core.appliedSequence, Status.setHealth] using ordered
    | some state =>
        simp only [heartbeat, if_false, touchLiveness_authoritative, Option.isNone_some, Bool.and_false]
        rw [if_neg Bool.false_ne_true]
        omega

theorem watchAll_ordered {watched : Watched State} {events : List (Envelope Payload)} (ordered : Ordered watched)
    (known : BeatsKnown config due watched events) :
    Ordered (stopped (foldChecked (watchDirect config due) watched events)) := by
  induction events generalizing watched with
  | nil => exact ordered
  | cons envelope rest ih =>
      rw [foldChecked, watchDirect]
      rw [BeatsKnown] at known
      cases verdict : evaluate watched.live.toCore envelope with
      | duplicate =>
          rw [verdict] at known
          exact ih ordered known
      | gap missingFrom => exact ordered
      | apply =>
          rw [verdict] at known
          exact ih (watchEnvelope_ordered ordered (ProjectionLaws.evaluate_apply verdict).1 known.1) known.2

section

/-- A step that writes the tracker writes nothing below what was applied, and what the tracker reaches
without an event has been reached by the authoritative sequence. -/
def Orderly (config : Config State Payload) (monitored : Monitored State Payload) : Signal State Payload → Prop
  | .act (.load _ place now) =>
      ∀ record, (place.bind fun place => monitored.projection.records[place]?) = some record →
        usable config now record = true → monitored.appliedSequence ≤ record.sequence
  | .act (.hydrated _ none) => Ordered monitored.watched
  | .act (.handle due) => monitored.projection.starting = [] →
      ∀ envelope rest, monitored.projection.queue = envelope :: rest →
        BeatsKnown config due monitored.watched [envelope]
  | .act (.replayed (.replay sequence events) due) =>
      monitored.appliedSequence ≤ sequence ∧
      (monitored.projection.starting = [] → sequence ≤ monitored.status.authoritativeSequence ∧
        ∀ pending missingFrom issued, monitored.projection.holder = .awaitingReplay pending missingFrom issued →
          BeatsKnown config due
            { monitored.watched with live := setFromConsistencyPoint monitored.projection.live sequence }
            (events ++ [pending]))
  | _ => True

/-- The step adopts a snapshot. -/
def hydrates : Signal State Payload → Bool
  | .act (.hydrated _ (some _)) | .act (.resynced (some _)) => true
  | _ => false

/-- With no start under way the two sequences are in order. -/
def Sound (monitored : Monitored State Payload) : Prop :=
  monitored.projection.starting = [] → Ordered monitored.watched

/-- What a step keeps: the order of the sequences, and that the tracker goes forward. -/
structure Keeps (monitored following : Monitored State Payload) (signal : Signal State Payload) : Prop where
  sound : Sound following
  forward : hydrates signal = false → monitored.appliedSequence ≤ following.appliedSequence

theorem Sound.same (sound : Sound monitored)
    (expected : following.projection.live.expected = monitored.projection.live.expected)
    (authoritative : following.status.authoritativeSequence = monitored.status.authoritativeSequence)
    (starting : following.projection.starting = monitored.projection.starting) : Keeps monitored following signal where
  sound started := by
    have before := sound (starting ▸ started)
    rw [Ordered, Core.appliedSequence] at before ⊢
    simpa only [Monitored.watched, expected, authoritative] using before
  forward _ := by
    have unmoved : following.appliedSequence = monitored.appliedSequence := by
      simp only [Monitored.appliedSequence, Core.appliedSequence, expected]
    exact Int.le_of_eq unmoved.symm

attribute [local simp] ProjectionHealth.step LiveProjection.step observe

/-- A start under way excuses the order. -/
theorem keeps_starting (present : following.projection.starting ≠ [])
    (expected : monitored.projection.live.expected ≤ following.projection.live.expected) :
    Keeps monitored following signal where
  sound started := absurd started present
  forward _ := by
    rw [Monitored.appliedSequence, Monitored.appliedSequence, Core.appliedSequence, Core.appliedSequence]
    omega

variable {index : Nat} {due : Int → Bool}

theorem set_ne_nil {Item : Type} {items : List Item} {item other : Item} (found : items[index]? = some item) :
    items.set index other ≠ [] := by
  rintro empty
  have size := congrArg List.length empty
  obtain ⟨within, -⟩ := List.getElem?_eq_some_iff.mp found
  rw [List.length_set, List.length_nil] at size
  omega

@[simp] theorem setHealth_authoritative (status : Status) (health : Health) :
    (status.setHealth health).authoritativeSequence = status.authoritativeSequence := rfl

@[simp] theorem recoveryFailed_authoritative (attempts : Nat) (status : Status) :
    (recoveryFailed config attempts status).authoritativeSequence = status.authoritativeSequence := rfl

@[simp] theorem lifecycle_authoritative (status : Status) (state : StreamLifecycle) :
    (lifecycleStatus status state).authoritativeSequence = status.authoritativeSequence := by
  cases state with
  | connecting => rfl
  | opened =>
      rw [lifecycleStatus]
      split <;> rfl
  | closed =>
      rw [lifecycleStatus]
      split <;> rfl
  | reconnecting =>
      rw [lifecycleStatus]
      split <;> rfl

theorem checkpoint_expected (live : Live State) : (live.checkpoint config).expected = live.expected :=
  congrArg Core.expected (ProjectionLaws.checkpoint_core live)

variable {action : Action State Payload} {snapshot : Option (Snapshot State)}

theorem keeps_start (isStart : action = .start) (sound : Sound monitored)
    (taken : ProjectionHealth.step config probe monitored (.act action) = some following) :
    Keeps monitored following (.act action) := by
  subst isStart
  simp only [ProjectionHealth.step, LiveProjection.step, Option.map_eq_some_iff] at taken
  obtain ⟨projection, moved, rfl⟩ := taken
  split at moved
  · next started =>
      cases moved
      exact sound.same rfl (by simp [observe, started]) rfl
  · cases moved
    exact keeps_starting (by simp) (Int.le_refl _)

theorem keeps_load {place : Option Nat} {now : Int}
    (orderly : Orderly config monitored (.act (.load index place now)))
    (taken : ProjectionHealth.step config probe monitored (.act (.load index place now)) = some following) :
    Keeps monitored following (.act (.load index place now)) := by
  simp only [ProjectionHealth.step, LiveProjection.step, Option.map_eq_some_iff] at taken
  obtain ⟨projection, moved, rfl⟩ := taken
  split at moved
  · next loading =>
      split at moved
      · cases moved
        exact keeps_starting (set_ne_nil loading) (Int.le_refl _)
      · next record found =>
          split at moved
          · next isUsable =>
              cases moved
              have later := orderly record found isUsable
              refine keeps_starting (set_ne_nil loading) ?_
              rw [Monitored.appliedSequence, Core.appliedSequence] at later
              simp only [adopt]
              omega
          · cases moved
            exact keeps_starting (set_ne_nil loading) (Int.le_refl _)
  · cases moved

theorem keeps_caughtUp {events : Option (List (Envelope Payload))}
    (taken : ProjectionHealth.step config probe monitored (.act (.caughtUp index events due)) = some following) :
    Keeps monitored following (.act (.caughtUp index events due)) := by
  simp only [ProjectionHealth.step, LiveProjection.step, Option.map_eq_some_iff] at taken
  obtain ⟨projection, moved, rfl⟩ := taken
  split at moved
  · next catching =>
      cases events with
      | none =>
          cases moved
          exact keeps_starting (set_ne_nil catching) (Int.le_refl _)
      | some events =>
          have forward := @watchAll_forward _ _ config due monitored.watched events
          have live := @watchAll_live _ _ config due monitored.watched events
          simp only [Monitored.watched] at live
          dsimp only at moved
          rw [live] at moved
          cases ended : foldChecked (watchDirect config due) monitored.watched events with
          | ok watched =>
              rw [Monitored.watched] at ended
              rw [Monitored.watched, ended] at forward
              simp only [ended] at moved
              cases moved
              constructor
              · intro _
                simp only [Ordered, Monitored.watched, observe, Projection.subscribe, ended]
                exact Int.le_max_right _ _
              · intro _
                simp only [Monitored.appliedSequence, Core.appliedSequence, Projection.subscribe]
                simp only [stopped] at forward
                omega
          | error watched =>
              rw [Monitored.watched] at ended
              rw [Monitored.watched, ended] at forward
              simp only [ended] at moved
              cases moved
              exact keeps_starting (set_ne_nil catching) forward
  · cases moved

/-- An adopted snapshot is as authoritative as it is applied. -/
theorem hydrated_ordered {live : Live State} {status : Status} {state : State} {sequence : Int} {health : Health} :
    Ordered (⟨adopt live state sequence, (hydratedStatus status sequence).setHealth health⟩ : Watched State) := by
  simp only [Ordered, Core.appliedSequence, adopt, hydratedStatus, setHealth_authoritative,
    touchLiveness_authoritative]
  omega

theorem keeps_hydrated (orderly : Orderly config monitored (.act (.hydrated index snapshot)))
    (taken : ProjectionHealth.step config probe monitored (.act (.hydrated index snapshot)) = some following) :
    Keeps monitored following (.act (.hydrated index snapshot)) := by
  simp only [ProjectionHealth.step, LiveProjection.step, Option.map_eq_some_iff] at taken
  obtain ⟨projection, moved, rfl⟩ := taken
  split at moved
  · cases snapshot with
    | none =>
        cases moved
        exact ⟨fun _ => orderly, fun _ => Int.le_refl _⟩
    | some snapshot =>
        cases moved
        refine ⟨fun _ => ?_, nofun⟩
        have ordered := @hydrated_ordered _ monitored.projection.live monitored.status snapshot.state snapshot.sequence
          (hydratedStatus monitored.status snapshot.sequence).health
        exact ordered
  · cases moved

theorem keeps_handle (sound : Sound monitored) (orderly : Orderly config monitored (.act (.handle due)))
    (taken : ProjectionHealth.step config probe monitored (.act (.handle due)) = some following) :
    Keeps monitored following (.act (.handle due)) := by
  simp only [ProjectionHealth.step, LiveProjection.step, Option.map_eq_some_iff] at taken
  obtain ⟨projection, moved, rfl⟩ := taken
  split at moved
  · next envelope rest idle queued =>
      cases moved
      simp only [observe, idle, queued, LiveProjection.handle]
      cases verdict : evaluate monitored.projection.live.toCore envelope with
      | duplicate => exact sound.same rfl rfl rfl
      | gap missingFrom =>
          dsimp only
          split
          · exact sound.same rfl rfl rfl
          · exact sound.same rfl rfl rfl
      | apply =>
          constructor
          · intro started
            have known := orderly started envelope rest queued
            rw [BeatsKnown] at known
            simp only [Monitored.watched, verdict] at known
            exact @watchEnvelope_ordered _ _ config due monitored.watched envelope (sound started)
              (ProjectionLaws.evaluate_apply verdict).1 known.1
          · intro _
            simp only [Monitored.appliedSequence, Core.appliedSequence, applyEnvelope_expected]
            split
            · exact Int.le_refl _
            · omega
  · cases moved

theorem keeps_replayed {plan : Plan Payload} (sound : Sound monitored)
    (orderly : Orderly config monitored (.act (.replayed plan due)))
    (taken : ProjectionHealth.step config probe monitored (.act (.replayed plan due)) = some following) :
    Keeps monitored following (.act (.replayed plan due)) := by
  simp only [ProjectionHealth.step, LiveProjection.step, Option.map_eq_some_iff] at taken
  obtain ⟨projection, moved, rfl⟩ := taken
  split at moved
  · next pending missingFrom issued waiting =>
      simp only [observe, waiting]
      cases plan with
      | failed =>
          cases moved
          exact sound.same rfl rfl rfl
      | resync =>
          cases moved
          exact sound.same rfl rfl rfl
      | replay sequence events =>
          obtain ⟨within, ordered⟩ := orderly
          have forward := @watchAll_forward _ _ config due
            { monitored.watched with live := setFromConsistencyPoint monitored.projection.live sequence }
            (events ++ [pending])
          have live := @watchReplay_live _ _ config due monitored.watched sequence events pending
          have onward (after : Watched State)
              (landed : stopped (watchReplay config due monitored.watched sequence events pending) = after) :
              (monitored.projection.starting = [] → Ordered after) ∧
                monitored.appliedSequence ≤ after.live.appliedSequence := by
            constructor
            · intro started
              rw [← landed]
              obtain ⟨below, known⟩ := ordered started
              apply watchAll_ordered
              · simp only [Ordered, Core.appliedSequence, setFromConsistencyPoint]
                exact Int.le_trans (by omega) below
              · exact known pending missingFrom issued waiting
            · rw [← landed, Core.appliedSequence]
              refine Int.le_trans within ?_
              simp only [setFromConsistencyPoint] at forward
              exact Int.le_sub_one_of_lt (Int.lt_of_lt_of_le (Int.lt_succ sequence) forward)
          simp only [Monitored.watched] at live
          dsimp only at moved
          rw [live] at moved
          cases ended : watchReplay config due monitored.watched sequence events pending with
          | ok watched =>
              obtain ⟨inOrder, ahead⟩ := onward watched (by rw [ended]; rfl)
              have landed := ended
              rw [Monitored.watched] at landed
              simp only [landed] at moved
              cases moved
              simp only [ended]
              exact ⟨inOrder, fun _ => ahead⟩
          | error watched =>
              obtain ⟨inOrder, ahead⟩ := onward watched (by rw [ended]; rfl)
              have landed := ended
              rw [Monitored.watched] at landed
              simp only [landed] at moved
              cases moved
              simp only [ended]
              exact ⟨inOrder, fun _ => ahead⟩
  · cases moved

theorem keeps_resynced (sound : Sound monitored)
    (taken : ProjectionHealth.step config probe monitored (.act (.resynced snapshot)) = some following) :
    Keeps monitored following (.act (.resynced snapshot)) := by
  simp only [ProjectionHealth.step, LiveProjection.step, Option.map_eq_some_iff] at taken
  obtain ⟨projection, moved, rfl⟩ := taken
  split at moved
  · next issued waiting =>
      simp only [observe, waiting]
      cases snapshot with
      | none =>
          cases moved
          exact sound.same rfl rfl rfl
      | some snapshot =>
          cases moved
          exact ⟨fun _ => hydrated_ordered, Bool.noConfusion⟩
  · cases moved

theorem keeps_act (sound : Sound monitored) (orderly : Orderly config monitored (.act action))
    (taken : ProjectionHealth.step config probe monitored (.act action) = some following) :
    Keeps monitored following (.act action) := by
  cases action with
  | start => exact keeps_start rfl sound taken
  | load index place now => exact keeps_load orderly taken
  | caughtUp index events due => exact keeps_caughtUp taken
  | hydrated index snapshot => exact keeps_hydrated orderly taken
  | handle due => exact keeps_handle sound orderly taken
  | replayed plan due => exact keeps_replayed sound orderly taken
  | resynced snapshot => exact keeps_resynced sound taken
  | stop =>
      simp only [ProjectionHealth.step, LiveProjection.step, Option.map_eq_some_iff] at taken
      obtain ⟨projection, moved, rfl⟩ := taken
      split at moved
      · cases moved
        exact sound.same (checkpoint_expected _) rfl rfl
      · cases moved
        exact sound.same rfl rfl rfl
  | deliver envelope =>
      simp only [ProjectionHealth.step, LiveProjection.step, Option.map_eq_some_iff] at taken
      obtain ⟨projection, moved, rfl⟩ := taken
      split at moved
      · cases moved
      · cases moved
        exact sound.same rfl rfl rfl
  | checkpoint =>
      simp only [ProjectionHealth.step, LiveProjection.step, Option.map_eq_some_iff] at taken
      obtain ⟨projection, moved, rfl⟩ := taken
      cases moved
      exact sound.same (checkpoint_expected _) rfl rfl
  | hashed index now =>
      simp only [ProjectionHealth.step, LiveProjection.step, Option.map_eq_some_iff] at taken
      obtain ⟨projection, ⟨state, _, rfl⟩, rfl⟩ := taken
      exact sound.same rfl rfl rfl
  | hashFailed index =>
      simp only [ProjectionHealth.step, LiveProjection.step, Option.map_eq_some_iff] at taken
      obtain ⟨projection, moved, rfl⟩ := taken
      cases moved
      exact sound.same rfl rfl rfl

theorem Sound.next (sound : Sound monitored) (orderly : Orderly config monitored signal)
    (taken : ProjectionHealth.step config probe monitored signal = some following) :
    Keeps monitored following signal := by
  cases signal with
  | act action => exact keeps_act sound orderly taken
  | connected succeeded =>
      simp only [ProjectionHealth.step] at taken
      split at taken
      · cases taken
      · split at taken
        · cases taken
          exact sound.same rfl (by dsimp only; split <;> rfl) rfl
        · cases taken
          exact sound.same rfl rfl rfl
  | lifecycle state =>
      simp only [ProjectionHealth.step] at taken
      split at taken
      · cases taken
      · cases taken
        exact sound.same rfl (lifecycle_authoritative _ _) rfl
  | checkStaleness late =>
      simp only [ProjectionHealth.step] at taken
      split at taken
      · cases taken
      · split at taken
        · split at taken
          · split at taken
            · cases taken
              exact sound.same rfl rfl rfl
            · cases taken
              exact sound.same rfl rfl rfl
          · cases taken
            exact sound.same rfl (touchLiveness_authoritative _) rfl
        · cases taken
          exact sound.same rfl rfl rfl
  | probed alive =>
      simp only [ProjectionHealth.step] at taken
      split at taken
      · cases taken
      · split at taken
        · cases taken
          exact sound.same rfl rfl rfl
        · cases taken
          exact sound.same rfl rfl rfl

end

/-- In a run of orderly steps the authoritative sequence is never behind the applied one outside a start,
and nothing but a snapshot takes the applied one back. -/
theorem sequences_ordered {stored : List (CheckpointRecord State)}
    (reached : Reaches (ProjectionHealth.step config probe) (Orderly config) (initially config stored) monitored) :
    (monitored.projection.starting = [] →
      monitored.appliedSequence ≤ monitored.status.authoritativeSequence) ∧
    ∀ signal following, Orderly config monitored signal →
      ProjectionHealth.step config probe monitored signal = some following → hydrates signal = false →
      monitored.appliedSequence ≤ following.appliedSequence := by
  have initial : Sound (initially config stored : Monitored State Payload) := fun _ => Int.le_refl _
  have sound : Sound monitored :=
    reached.invariant initial fun sound orderly taken => (sound.next orderly taken).sound
  exact ⟨sound, fun signal following orderly taken => (sound.next orderly taken).forward⟩

/-- The ready projection with an envelope to handle. -/
def waiting : Monitored (List Nat) Nat :=
  { ready with projection := { ready.projection with queue := [note 0 7] }, received := [0] }

/-- The ready projection with one envelope applied. -/
def noted : Monitored (List Nat) Nat where
  projection :=
    { live := { state := [7], expected := 1, seen := ["n0"] }, started := true, begun := true, subscriptions := 1,
      unsubscribable := true }
  status := { health := .healthy, authoritativeSequence := 0 }
  monitors := 1
  received := [0]

theorem ready_reached :
    Reaches (ProjectionHealth.step nonzero false) (Orderly nonzero) (initially nonzero []) ready := by
  have begun := (@Reaches.start _ _ (ProjectionHealth.step nonzero false) (Orderly nonzero) (initially nonzero [])).next
    (show Orderly nonzero (initially nonzero []) (.act .start) from trivial) rfl
  have hydrated := begun.next (show Orderly nonzero _ (.act (.hydrated 0 (some ⟨[], -1⟩))) from trivial) rfl
  exact hydrated.next (show Orderly nonzero _ (.connected true) from trivial) rfl

theorem note_ordered : noted.appliedSequence ≤ noted.status.authoritativeSequence := by
  have delivered : Reaches (ProjectionHealth.step nonzero false) (Orderly nonzero) (initially nonzero []) waiting :=
    ready_reached.next (show Orderly nonzero _ (.act (.deliver (note 0 7))) from trivial) rfl
  have known : Orderly nonzero waiting (.act (.handle never)) := by
    intro _ envelope rest queued
    cases queued
    exact ⟨nofun, trivial⟩
  have handled : Reaches (ProjectionHealth.step nonzero false) (Orderly nonzero) (initially nonzero []) noted :=
    delivered.next known rfl
  exact (sequences_ordered handled).1 rfl

/-- A heartbeat takes the applied sequence past the authoritative one. -/
theorem heartbeat_overtakes : ∃ monitored,
    run (ProjectionHealth.step nonzero false) (initially nonzero [])
        (started ++ [.act (.deliver (beat 0)), .act (.handle never)]) = some monitored ∧
      monitored.projection.started = true ∧ monitored.projection.starting = [] ∧
      monitored.appliedSequence = 0 ∧ monitored.status.authoritativeSequence = -1 :=
  ⟨_, rfl, rfl, rfl, rfl, rfl⟩

end AutonomousApi.StatusOrder
