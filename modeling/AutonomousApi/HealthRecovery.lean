import AutonomousApi.StatusOrder

/-! Health after an exception of the reducer. It is swallowed where the envelope is applied, so a recovery
whose last envelope makes the reducer throw ends like a successful one; and every path that sets the
health back looks at something else than the sequences that were received. -/

namespace AutonomousApi.HealthRecovery

open FailFast Runs LiveProjection ProjectionHealth

variable {State Payload : Type} {config : Config State Payload} {probe : Bool} {due : Int → Bool}
  {monitored following : Monitored State Payload} {signal : Signal State Payload}

section

variable {watched after : Watched State} {envelope pending : Envelope Payload} {events : List (Envelope Payload)}

theorem touchLiveness_healthy {status : Status} (healthy : status.touchLiveness.health = .healthy) :
    status.health = .healthy ∨ status.health = .stale := by
  rw [Status.touchLiveness] at healthy
  split at healthy
  · next stale => exact .inr stale
  · exact .inl healthy

theorem touchLiveness_desynchronized {status : Status} (health : status.health = .desynchronized) :
    status.touchLiveness.health = .desynchronized := by
  rw [Status.touchLiveness, if_neg (by simp [health])]
  exact health

@[simp] theorem touchLiveness_succeeded (status : Status) :
    status.touchLiveness.recoveriesSucceeded = status.recoveriesSucceeded := by
  rw [Status.touchLiveness]
  split <;> rfl

/-- Where the reducer throws the projection is out of step, elsewhere liveness is touched. -/
theorem observeEnvelope_cases (status : Status) (state : State) (envelope : Envelope Payload) :
    (throws config state envelope = true ∧
      observeEnvelope config status state envelope = status.setHealth .desynchronized) ∨
    (throws config state envelope = false ∧ ∃ sequence, observeEnvelope config status state envelope =
      { status with authoritativeSequence := sequence }.touchLiveness) := by
  rw [observeEnvelope, throws]
  by_cases heartbeat : envelope.eventType = config.heartbeatEventType
  · exact .inr ⟨by simp [heartbeat], status.authoritativeSequence, by rw [if_pos heartbeat]⟩
  · cases reduced : config.reducer state envelope with
    | none => exact .inl ⟨by simp [heartbeat], by rw [if_neg heartbeat]⟩
    | some next => exact .inr ⟨by simp, _, by rw [if_neg heartbeat]⟩

theorem watchEnvelope_desynchronized (health : watched.status.health = .desynchronized) :
    (watchEnvelope config due watched envelope).status.health = .desynchronized := by
  rcases @observeEnvelope_cases _ _ config watched.status watched.live.state envelope with
    ⟨-, observed⟩ | ⟨-, sequence, observed⟩
  · rw [watchEnvelope, observed, Status.setHealth]
  · rw [watchEnvelope, observed]
    exact touchLiveness_desynchronized health

theorem watchAll_desynchronized (health : watched.status.health = .desynchronized) :
    (stopped (foldChecked (watchDirect config due) watched events)).status.health = .desynchronized := by
  induction events generalizing watched with
  | nil => exact health
  | cons envelope rest ih =>
      rw [foldChecked, watchDirect]
      cases evaluate watched.live.toCore envelope with
      | duplicate => exact ih health
      | gap missingFrom => exact health
      | apply => exact ih (watchEnvelope_desynchronized health)

theorem watchAll_threw (threw : throwsIn config due watched.live events = true) :
    (stopped (foldChecked (watchDirect config due) watched events)).status.health = .desynchronized := by
  induction events generalizing watched with
  | nil => cases threw
  | cons envelope rest ih =>
      rw [throwsIn] at threw
      rw [foldChecked, watchDirect]
      cases verdict : evaluate watched.live.toCore envelope with
      | duplicate =>
          rw [verdict] at threw
          exact ih threw
      | gap missingFrom =>
          rw [verdict] at threw
          cases threw
      | apply =>
          rw [verdict] at threw
          rcases (Bool.or_eq_true ..).mp threw with here | later
          · apply watchAll_desynchronized
            rcases @observeEnvelope_cases _ _ config watched.status watched.live.state envelope with
              ⟨-, observed⟩ | ⟨none, -⟩
            · rw [watchEnvelope, observed, Status.setHealth]
            · rw [here] at none
              cases none
          · exact @ih (watchEnvelope config due watched envelope) later

theorem watchAll_healthy
    (healthy : (stopped (foldChecked (watchDirect config due) watched events)).status.health = .healthy) :
    watched.status.health = .healthy ∨ watched.status.health = .stale := by
  induction events generalizing watched with
  | nil => exact .inl healthy
  | cons envelope rest ih =>
      rw [foldChecked, watchDirect] at healthy
      cases verdict : evaluate watched.live.toCore envelope with
      | duplicate =>
          rw [verdict] at healthy
          exact @ih { watched with live := watched.live.refresh envelope } healthy
      | gap missingFrom =>
          rw [verdict] at healthy
          exact .inl healthy
      | apply =>
          rw [verdict] at healthy
          have before := @ih (watchEnvelope config due watched envelope) healthy
          rcases @observeEnvelope_cases _ _ config watched.status watched.live.state envelope with
            ⟨-, observed⟩ | ⟨-, sequence, observed⟩
          · rw [watchEnvelope, observed] at before
            rcases before with impossible | impossible <;> cases impossible
          · rw [watchEnvelope, observed] at before
            rcases before with healthy | stale
            · have calm := @touchLiveness_healthy { watched.status with authoritativeSequence := sequence } healthy
              exact calm
            · rw [Status.touchLiveness] at stale
              split at stale
              · cases stale
              · exact .inr stale

theorem watchAll_succeeded (watched : Watched State) (events : List (Envelope Payload)) :
    (stopped (foldChecked (watchDirect config due) watched events)).status.recoveriesSucceeded =
      watched.status.recoveriesSucceeded := by
  induction events generalizing watched with
  | nil => rfl
  | cons envelope rest ih =>
      rw [foldChecked, watchDirect]
      cases evaluate watched.live.toCore envelope with
      | duplicate => exact ih { watched with live := watched.live.refresh envelope }
      | gap missingFrom => rfl
      | apply =>
          refine (ih (watchEnvelope config due watched envelope)).trans ?_
          rcases @observeEnvelope_cases _ _ config watched.status watched.live.state envelope with
            ⟨-, observed⟩ | ⟨-, sequence, observed⟩
          · rw [watchEnvelope, observed, Status.setHealth]
          · rw [watchEnvelope, observed, touchLiveness_succeeded]

theorem mem_refresh {seen : List String} {eventId other : String} (member : other ∈ refresh seen eventId) :
    other ∈ seen := by
  rw [refresh] at member
  split at member
  · next known =>
      rcases List.mem_append.mp member with old | same
      · exact List.mem_of_mem_erase old
      · rw [List.mem_singleton.mp same]
        exact known
  · exact member

theorem applyEnvelope_seen {live : Live State} {other : String}
    (member : other ∈ (applyEnvelope config due live envelope).seen) : other ∈ live.seen ∨
    other = envelope.eventId := by
  rw [applyEnvelope] at member
  split at member
  · exact ProjectionLaws.mem_markProcessed member
  · split at member
    · exact .inl member
    · dsimp only at member
      split at member
      · rw [show (Live.checkpoint config _).seen = _ from
            congrArg Core.seen (ProjectionLaws.checkpoint_core _)] at member
        exact ProjectionLaws.mem_markProcessed member
      · exact ProjectionLaws.mem_markProcessed member

/-- A loop that throws nothing and ends with a new envelope lands at or behind that envelope. -/
theorem landing_reaches (ended : foldChecked (watchDirect config due) watched (events ++ [pending]) = .ok after)
    (quiet : throwsIn config due watched.live (events ++ [pending]) = false)
    (new : pending.eventId ∉ watched.live.seen)
    (identified : ∀ other ∈ events, other.eventId = pending.eventId → other.sequence = pending.sequence) :
    pending.sequence ≤ after.live.appliedSequence := by
  induction events generalizing watched with
  | nil =>
      rw [List.nil_append, foldChecked, watchDirect] at ended
      rw [List.nil_append, throwsIn] at quiet
      cases verdict : evaluate watched.live.toCore pending with
      | duplicate =>
          rw [verdict] at ended
          cases ended
          rw [evaluate, if_neg new] at verdict
          split at verdict
          · cases verdict
          · split at verdict
            · next stale =>
                simp only [Core.appliedSequence, Live.refresh]
                omega
            · cases verdict
      | gap missingFrom =>
          rw [verdict] at ended
          cases ended
      | apply =>
          rw [verdict] at ended quiet
          cases ended
          have next := (ProjectionLaws.evaluate_apply verdict).1
          rw [Bool.or_eq_false_iff] at quiet
          rw [watchEnvelope, Core.appliedSequence, applyEnvelope_expected, quiet.1, if_neg Bool.false_ne_true]
          omega
  | cons envelope rest ih =>
      rw [List.cons_append, foldChecked, watchDirect] at ended
      rw [List.cons_append, throwsIn] at quiet
      have identifiedRest : ∀ other ∈ rest, other.eventId = pending.eventId → other.sequence = pending.sequence :=
        fun other member => identified other (List.mem_cons_of_mem envelope member)
      cases verdict : evaluate watched.live.toCore envelope with
      | duplicate =>
          rw [verdict] at ended quiet
          refine @ih { watched with live := watched.live.refresh envelope } ended quiet ?_ identifiedRest
          exact fun known => new (mem_refresh known)
      | gap missingFrom =>
          rw [verdict] at ended
          cases ended
      | apply =>
          rw [verdict] at ended quiet
          rw [Bool.or_eq_false_iff] at quiet
          by_cases known : pending.eventId ∈ (applyEnvelope config due watched.live envelope).seen
          · -- this is the pending envelope already
            have same := (applyEnvelope_seen known).resolve_left new
            have place := identified envelope List.mem_cons_self same.symm
            have next := (ProjectionLaws.evaluate_apply verdict).1
            have forward := @watchAll_forward _ _ config due
              (watchEnvelope config due watched envelope) (rest ++ [pending])
            rw [show foldChecked (watchDirect config due) (watchEnvelope config due watched envelope)
              (rest ++ [pending]) = .ok after from ended, stopped, watchEnvelope, applyEnvelope_expected, quiet.1,
              if_neg Bool.false_ne_true] at forward
            rw [Core.appliedSequence]
            omega
          · exact @ih (watchEnvelope config due watched envelope) ended quiet.2 known identifiedRest

end

/-- The reducer throws on an envelope of the step. -/
def threw (config : Config State Payload) (monitored : Monitored State Payload) : Signal State Payload → Bool
  | .act (.handle _) =>
      match monitored.projection.holder, monitored.projection.queue with
      | .idle, envelope :: _ =>
          evaluate monitored.projection.live.toCore envelope == .apply &&
            throws config monitored.projection.live.state envelope
      | _, _ => false
  | .act (.caughtUp _ (some events) due) => throwsIn config due monitored.projection.live events
  | .act (.replayed (.replay sequence events) due) =>
      match monitored.projection.holder with
      | .awaitingReplay pending _ _ =>
          throwsIn config due (setFromConsistencyPoint monitored.projection.live sequence) (events ++ [pending])
      | _ => false
  | _ => false

/-- An exception of the reducer shows in the health and is not counted as a recovery. -/
def Visible (config : Config State Payload) (monitored following : Monitored State Payload)
    (signal : Signal State Payload) : Prop :=
  threw config monitored signal = true → following.status.health ≠ .healthy ∧
    following.status.recoveriesSucceeded = monitored.status.recoveriesSucceeded

/-- Where the reducer throws in a recovery, an event behind it is out of sequence, so that the recovery fails. -/
def Failing (config : Config State Payload) (monitored : Monitored State Payload) : Signal State Payload → Prop
  | .act (.replayed (.replay sequence events) due) => ∀ pending missingFrom issued,
      monitored.projection.holder = .awaitingReplay pending missingFrom issued →
      throwsIn config due (setFromConsistencyPoint monitored.projection.live sequence) (events ++ [pending]) = true →
      ∃ live, applyReplay config due monitored.projection.live sequence events pending = .error live
  | _ => True

theorem recoveryFailed_health (attempts : Nat) (status : Status) :
    (recoveryFailed config attempts status).health ≠ .healthy := by
  rw [recoveryFailed, Status.setHealth]
  dsimp only
  split <;> simp

theorem visible_caughtUp {index : Nat} {events : Option (List (Envelope Payload))} {due : Int → Bool}
    (taken : ProjectionHealth.step config probe monitored (.act (.caughtUp index events due)) = some following) :
    Visible config monitored following (.act (.caughtUp index events due)) := by
  intro threw
  simp only [ProjectionHealth.step, Option.map_eq_some_iff] at taken
  obtain ⟨projection, -, rfl⟩ := taken
  cases events with
  | none => cases threw
  | some events =>
      have health := @watchAll_threw _ _ config due monitored.watched events threw
      have succeeded := @watchAll_succeeded _ _ config due monitored.watched events
      simp only [observe]
      cases ended : foldChecked (watchDirect config due) monitored.watched events with
      | ok watched =>
          rw [ended] at health succeeded
          exact ⟨by simp [show watched.status.health = _ from health], succeeded⟩
      | error watched =>
          rw [ended] at health succeeded
          exact ⟨by simp [show watched.status.health = _ from health], succeeded⟩

theorem visible_handle {due : Int → Bool}
    (taken : ProjectionHealth.step config probe monitored (.act (.handle due)) = some following) :
    Visible config monitored following (.act (.handle due)) := by
  intro thrown
  simp only [ProjectionHealth.step, Option.map_eq_some_iff] at taken
  obtain ⟨projection, -, rfl⟩ := taken
  rw [threw] at thrown
  split at thrown
  · next envelope rest idle queued =>
      rw [Bool.and_eq_true, beq_iff_eq] at thrown
      obtain ⟨verdict, throwing⟩ := thrown
      rcases @observeEnvelope_cases _ _ config monitored.status monitored.projection.live.state envelope with
        ⟨-, observed⟩ | ⟨none, -⟩
      · simp only [observe, idle, queued, verdict, observed, Status.setHealth]
        exact ⟨Health.noConfusion, trivial⟩
      · rw [throwing] at none
        cases none
  · cases thrown

theorem visible_replayed_iff {plan : Plan Payload} {due : Int → Bool}
    (taken : ProjectionHealth.step config probe monitored (.act (.replayed plan due)) = some following) :
    Visible config monitored following (.act (.replayed plan due)) ↔
      Failing config monitored (.act (.replayed plan due)) := by
  simp only [ProjectionHealth.step, LiveProjection.step, Option.map_eq_some_iff] at taken
  obtain ⟨projection, moved, rfl⟩ := taken
  cases plan with
  | failed => exact ⟨fun _ => trivial, fun _ => Bool.noConfusion⟩
  | resync => exact ⟨fun _ => trivial, fun _ => Bool.noConfusion⟩
  | replay sequence events =>
      split at moved
      · next pending missingFrom issued waiting =>
          have live := @watchReplay_live _ _ config due monitored.watched sequence events pending
          have succeeded := @watchAll_succeeded _ _ config due
            { monitored.watched with live := setFromConsistencyPoint monitored.projection.live sequence }
            (events ++ [pending])
          simp only [Visible, threw, Failing, observe, waiting]
          cases ended : watchReplay config due monitored.watched sequence events pending with
          | ok watched =>
              constructor
              · intro visible _ _ _ held threw
                cases held
                exact absurd rfl (visible threw).1
              · intro failing threw
                obtain ⟨live', failed⟩ := failing pending missingFrom issued rfl threw
                rw [ended] at live
                rw [show applyReplay config due monitored.projection.live sequence events pending = .ok watched.live
                  from live] at failed
                cases failed
          | error watched =>
              constructor
              · intro _ _ _ _ held _
                cases held
                rw [ended] at live
                exact ⟨watched.live, live⟩
              · intro _ _
                rw [watchReplay] at ended
                simp only [Monitored.watched] at ended succeeded
                rw [ended] at succeeded
                exact ⟨recoveryFailed_health _ _, succeeded⟩
      · cases moved

theorem visible_iff (taken : ProjectionHealth.step config probe monitored signal = some following) :
    Visible config monitored following signal ↔ Failing config monitored signal := by
  cases signal with
  | act action =>
      cases action with
      | handle due => exact ⟨fun _ => trivial, fun _ => visible_handle taken⟩
      | caughtUp index events due => exact ⟨fun _ => trivial, fun _ => visible_caughtUp taken⟩
      | replayed plan due => exact visible_replayed_iff taken
      | _ => exact ⟨fun _ => trivial, fun _ => nofun⟩
  | _ => exact ⟨fun _ => trivial, fun _ => nofun⟩

section

/-- Every sequence received so far has been applied. -/
def Caught (monitored : Monitored State Payload) : Prop :=
  ∀ sequence ∈ monitored.received, sequence ≤ monitored.appliedSequence

/-- A step sets the health back only where nothing beyond what it has seen was received: a recovery that does
not fail throws nothing, its pending envelope is the furthest one and new to the guard, a snapshot covers what
was received, and the lifecycle, the staleness check, the end of a start and a touch of liveness find all of
it applied. -/
def Attentive (config : Config State Payload) (monitored : Monitored State Payload) : Signal State Payload → Prop
  | .act (.handle _) => monitored.status.health = .stale →
      ∀ envelope rest, monitored.projection.queue = envelope :: rest →
        evaluate monitored.projection.live.toCore envelope = .apply →
        throws config monitored.projection.live.state envelope = false →
        ∀ sequence ∈ monitored.received, sequence ≤ envelope.sequence
  | .act (.caughtUp _ (some _) _) => monitored.status.health = .stale → Caught monitored
  | .act (.hydrated _ (some snapshot)) => monitored.status.health = .stale →
      ∀ sequence ∈ monitored.received, sequence ≤ snapshot.sequence
  | .act (.replayed (.replay sequence events) due) => monitored.status.health ≠ .healthy →
      ∀ pending missingFrom issued, monitored.projection.holder = .awaitingReplay pending missingFrom issued →
        (∃ live, applyReplay config due monitored.projection.live sequence events pending = .error live) ∨
        throwsIn config due (setFromConsistencyPoint monitored.projection.live sequence) (events ++ [pending]) = false ∧
          (∀ sequence ∈ monitored.received, sequence ≤ pending.sequence) ∧
          pending.eventId ∉ monitored.projection.live.seen ∧
          ∀ other ∈ events, other.eventId = pending.eventId → other.sequence = pending.sequence
  | .act (.resynced (some snapshot)) => monitored.status.health ≠ .healthy →
      ∀ sequence ∈ monitored.received, sequence ≤ snapshot.sequence
  | .connected true => monitored.status.health = .initializing → Caught monitored
  | .lifecycle .opened =>
      monitored.status.health = .unavailable ∨ monitored.status.health = .degraded → Caught monitored
  | .checkStaleness false => monitored.status.health = .stale → Caught monitored
  | _ => True

/-- The step sets the health back only where everything has been applied. -/
def Returns (monitored following : Monitored State Payload) : Prop :=
  monitored.status.health ≠ .healthy → following.status.health = .healthy → Caught following

theorem returns_same (health : following.status.health = monitored.status.health) : Returns monitored following :=
  fun ill well => absurd (health ▸ well) ill

theorem returns_never (health : following.status.health ≠ .healthy) : Returns monitored following :=
  fun _ well => absurd well health

variable {due : Int → Bool} {index : Nat} {snapshot : Option (Snapshot State)}

theorem returns_handle (attentive : Attentive config monitored (.act (.handle due)))
    (taken : ProjectionHealth.step config probe monitored (.act (.handle due)) = some following) :
    Returns monitored following := by
  simp only [ProjectionHealth.step, LiveProjection.step, Option.map_eq_some_iff] at taken
  obtain ⟨projection, moved, rfl⟩ := taken
  split at moved
  · next envelope rest idle queued =>
      cases moved
      simp only [observe, idle, queued, LiveProjection.handle]
      cases verdict : evaluate monitored.projection.live.toCore envelope with
      | duplicate => exact returns_same rfl
      | gap missingFrom =>
          dsimp only
          split
          · exact returns_never (by simp [Status.setHealth])
          · exact returns_same rfl
      | apply =>
          intro ill well
          dsimp only at well
          rcases @observeEnvelope_cases _ _ config monitored.status monitored.projection.live.state envelope with
            ⟨-, observed⟩ | ⟨quiet, sequence, observed⟩
          · rw [observed] at well
            cases well
          · rw [observed] at well
            have calm := @touchLiveness_healthy { monitored.status with authoritativeSequence := sequence } well
            have within := attentive (calm.resolve_left ill) envelope rest queued verdict quiet
            intro received member
            have next := (ProjectionLaws.evaluate_apply verdict).1
            have below := within received member
            simp only [Monitored.appliedSequence, Core.appliedSequence, applyEnvelope_expected, quiet]
            rw [if_neg Bool.false_ne_true]
            omega
  · cases moved

theorem returns_caughtUp {events : Option (List (Envelope Payload))}
    (attentive : Attentive config monitored (.act (.caughtUp index events due)))
    (taken : ProjectionHealth.step config probe monitored (.act (.caughtUp index events due)) = some following) :
    Returns monitored following := by
  have keeps := (StatusOrder.keeps_caughtUp taken).forward rfl
  simp only [ProjectionHealth.step, Option.map_eq_some_iff] at taken
  obtain ⟨projection, -, rfl⟩ := taken
  cases events with
  | none => exact returns_same rfl
  | some events =>
      intro ill well
      have calm := @watchAll_healthy _ _ config due monitored.watched events
      have before : monitored.status.health = .healthy ∨ monitored.status.health = .stale := by
        apply calm
        simp only [observe] at well
        cases ended : foldChecked (watchDirect config due) monitored.watched events with
        | ok watched =>
            rw [ended] at well
            exact well
        | error watched =>
            rw [ended] at well
            exact well
      have caught := attentive (before.resolve_left ill)
      intro sequence member
      exact Int.le_trans (caught sequence member) keeps

theorem returns_replayed {plan : Plan Payload} (attentive : Attentive config monitored (.act (.replayed plan due)))
    (taken : ProjectionHealth.step config probe monitored (.act (.replayed plan due)) = some following) :
    Returns monitored following := by
  simp only [ProjectionHealth.step, LiveProjection.step, Option.map_eq_some_iff] at taken
  obtain ⟨projection, moved, rfl⟩ := taken
  split at moved
  · next pending missingFrom issued waiting =>
      cases plan with
      | failed => exact returns_never (by simp only [observe, waiting]; exact recoveryFailed_health _ _)
      | resync => exact returns_same (by simp only [observe, waiting])
      | replay sequence events =>
          have live := @watchReplay_live _ _ config due monitored.watched sequence events pending
          cases ended : watchReplay config due monitored.watched sequence events pending with
          | error watched =>
              refine returns_never ?_
              simp only [observe, waiting, ended]
              exact recoveryFailed_health _ _
          | ok watched =>
              rw [ended] at live
              have landed : applyReplay config due monitored.projection.live sequence events pending =
                  .ok watched.live :=
                live
              intro ill _
              dsimp only at moved
              rw [landed] at moved
              cases moved
              rcases attentive ill pending missingFrom issued waiting with ⟨live, failed⟩ | ⟨quiet, furthest, new, same⟩
              · rw [landed] at failed
                cases failed
              · have reaches := landing_reaches ended quiet new same
                intro received member
                exact Int.le_trans (furthest received member) reaches
  · cases moved

theorem returns_hydrated (attentive : Attentive config monitored (.act (.hydrated index snapshot)))
    (taken : ProjectionHealth.step config probe monitored (.act (.hydrated index snapshot)) = some following) :
    Returns monitored following := by
  simp only [ProjectionHealth.step, LiveProjection.step, Option.map_eq_some_iff] at taken
  obtain ⟨projection, moved, rfl⟩ := taken
  split at moved
  · cases snapshot with
    | none => exact returns_same rfl
    | some snapshot =>
        cases moved
        intro ill well
        have calm := @touchLiveness_healthy { monitored.status with authoritativeSequence := snapshot.sequence } well
        have covered := attentive (calm.resolve_left ill)
        intro sequence member
        have below := covered sequence member
        simp only [Monitored.appliedSequence, Core.appliedSequence, Projection.subscribe, adopt]
        omega
  · cases moved

theorem returns_resynced (attentive : Attentive config monitored (.act (.resynced snapshot)))
    (taken : ProjectionHealth.step config probe monitored (.act (.resynced snapshot)) = some following) :
    Returns monitored following := by
  simp only [ProjectionHealth.step, LiveProjection.step, Option.map_eq_some_iff] at taken
  obtain ⟨projection, moved, rfl⟩ := taken
  split at moved
  · next issued waiting =>
      cases snapshot with
      | none => exact returns_never (by simp only [observe, waiting]; exact recoveryFailed_health _ _)
      | some snapshot =>
          cases moved
          intro ill _ sequence member
          have below := attentive ill sequence member
          simp only [Monitored.appliedSequence, Core.appliedSequence, adopt]
          omega
  · cases moved

theorem returns_act {action : Action State Payload} (attentive : Attentive config monitored (.act action))
    (taken : ProjectionHealth.step config probe monitored (.act action) = some following) :
    Returns monitored following := by
  -- an action that leaves the status alone
  have still (same : observe config monitored action = monitored.status) : Returns monitored following := by
    simp only [ProjectionHealth.step, Option.map_eq_some_iff] at taken
    obtain ⟨projection, -, rfl⟩ := taken
    apply returns_same
    simp only [same]
  cases action with
  | handle due => exact returns_handle attentive taken
  | caughtUp index events due => exact returns_caughtUp attentive taken
  | hydrated index snapshot => exact returns_hydrated attentive taken
  | replayed plan due => exact returns_replayed attentive taken
  | resynced snapshot => exact returns_resynced attentive taken
  | start =>
      simp only [ProjectionHealth.step, Option.map_eq_some_iff] at taken
      obtain ⟨projection, -, rfl⟩ := taken
      simp only [observe]
      split
      · exact returns_same rfl
      · exact returns_never (by simp [Status.setHealth])
  | _ => exact still rfl

theorem returns_step (attentive : Attentive config monitored signal)
    (taken : ProjectionHealth.step config probe monitored signal = some following) : Returns monitored following := by
  cases signal with
  | act action => exact returns_act attentive taken
  | connected succeeded =>
      simp only [ProjectionHealth.step] at taken
      split at taken
      · cases taken
      · cases succeeded with
        | false =>
            cases taken
            exact returns_same rfl
        | true =>
            cases taken
            intro ill well
            by_cases initializing : monitored.status.health = .initializing
            · exact attentive initializing
            · rw [if_neg initializing] at well
              exact absurd well ill
  | lifecycle state =>
      simp only [ProjectionHealth.step] at taken
      split at taken
      · cases taken
      · cases taken
        cases state with
        | connecting => exact returns_same rfl
        | opened =>
            intro ill well
            by_cases down : monitored.status.health = .unavailable ∨ monitored.status.health = .degraded
            · exact attentive down
            · rw [lifecycleStatus, if_neg down] at well
              exact absurd well ill
        | closed =>
            simp only [lifecycleStatus]
            split
            · exact returns_same rfl
            · exact returns_never (by simp [Status.setHealth])
        | reconnecting =>
            simp only [lifecycleStatus]
            split
            · exact returns_same rfl
            · exact returns_never (by simp [Status.setHealth])
  | checkStaleness late =>
      simp only [ProjectionHealth.step] at taken
      split at taken
      · cases taken
      · split at taken
        · cases late with
          | true =>
              rw [if_pos rfl] at taken
              split at taken
              · cases taken
                exact returns_same rfl
              · cases taken
                exact returns_never (by simp [Status.setHealth])
          | false =>
              cases taken
              intro ill well
              exact attentive ((touchLiveness_healthy well).resolve_left ill)
        · cases taken
          exact returns_same rfl
  | probed alive =>
      simp only [ProjectionHealth.step] at taken
      split at taken
      · cases taken
      · cases alive with
        | true =>
            cases taken
            exact returns_same rfl
        | false =>
            cases taken
            exact returns_never (by simp [Status.setHealth])

end

section

variable {first last : Monitored State Payload} {signals : List (Signal State Payload)}

/-- What is ill and later healthy was caught up when it became healthy. -/
theorem caught_between (ill : first.status.health ≠ .healthy)
    (ran : run (ProjectionHealth.step config probe) first signals = some last) (well : last.status.health = .healthy)
    (attentive : ∀ before signal after middle, signals = before ++ signal :: after →
      run (ProjectionHealth.step config probe) first before = some middle → Attentive config middle signal) :
    ∃ early late caught, signals = early ++ late ∧
      run (ProjectionHealth.step config probe) first early = some caught ∧ caught.status.health = .healthy ∧
      Caught caught := by
  induction signals using List.reverseRecOn generalizing last with
  | nil =>
      cases ran
      exact absurd well ill
  | append_singleton signals signal ih =>
      have whole := ran
      rw [run_append] at ran
      obtain ⟨middle, reached, step⟩ := Option.bind_eq_some_iff.mp ran
      have taken : ProjectionHealth.step config probe middle signal = some last := by
        simpa [run, Option.bind_eq_some_iff] using step
      by_cases already : middle.status.health = .healthy
      · obtain ⟨early, late, caught, split, there, healthy, done⟩ := ih reached already
          fun before other after middle split => attentive before other (after ++ [signal]) middle (by simp [split])
        exact ⟨early, late ++ [signal], caught, by simp [split], there, healthy, done⟩
      · have here := attentive signals signal [] middle rfl reached
        exact ⟨signals ++ [signal], [], last, (List.append_nil _).symm, whole, well,
            returns_step here taken already well⟩

/-- In a run every exception of the reducer shows in the health, and is not counted as a recovery, exactly where
recoveries in which the reducer throws fail. In a run of attentive steps health comes back only where every
sequence received so far has been applied. -/
theorem failures_visible (config : Config State Payload) (probe : Bool) (stored : List (CheckpointRecord State))
    (signals : List (Signal State Payload)) (final : Monitored State Payload)
    (finished : run (ProjectionHealth.step config probe) (initially config stored) signals = some final) :
    ((∀ before signal after middle following, signals = before ++ signal :: after →
        run (ProjectionHealth.step config probe) (initially config stored) before = some middle →
        ProjectionHealth.step config probe middle signal = some following → Visible config middle following signal) ↔
      ∀ before signal after middle, signals = before ++ signal :: after →
        run (ProjectionHealth.step config probe) (initially config stored) before = some middle →
        Failing config middle signal) ∧
    ((∀ before signal after middle, signals = before ++ signal :: after →
        run (ProjectionHealth.step config probe) (initially config stored) before = some middle →
        Attentive config middle signal) →
      ∀ before between after first last, signals = before ++ (between ++ after) →
        run (ProjectionHealth.step config probe) (initially config stored) before = some first →
        first.status.health ≠ .healthy → run (ProjectionHealth.step config probe) first between = some last →
        last.status.health = .healthy →
        ∃ early late caught, between = early ++ late ∧
          run (ProjectionHealth.step config probe) first early = some caught ∧ caught.status.health = .healthy ∧
          Caught caught) := by
  constructor
  · constructor
    · intro visible before signal after middle split reached
      obtain ⟨following, taken, -⟩ := run_onward finished split reached
      exact (visible_iff taken).mp (visible before signal after middle following split reached taken)
    · intro failing before signal after middle following split reached taken
      exact (visible_iff taken).mpr (failing before signal after middle split reached)
  · intro attentive before between after first last split reached ill ran well
    refine caught_between ill ran well ?_
    intro early signal late middle inside there
    refine attentive (before ++ early) signal (late ++ after) middle (by simp [split, inside]) ?_
    rw [run_append, reached]
    exact there

end

/-- The ready projection with an envelope on which the reducer throws. -/
def troubled : Monitored (List Nat) Nat :=
  { ready with projection := { ready.projection with queue := [note 0 0] }, received := [0] }

def desynchronized : Monitored (List Nat) Nat :=
  { ready with status := { health := .desynchronized }, received := [0] }

/-- A recovery that waits for the answer to the gap before an envelope on which the reducer throws. -/
def recovering : Monitored (List Nat) Nat :=
  { ready with
    projection :=
      { ready.projection with
        holder := .awaitingReplay (note 1 0) 0 { state := [] }, recoveryAttempts := 1 },
    received := [1] }

def recovered : Monitored (List Nat) Nat :=
  { ready with
    projection := { ready.projection with live := { state := [7], expected := 1, seen := ["n0"] } },
    status := { health := .healthy, authoritativeSequence := 0, recoveriesSucceeded := 1 }, received := [1] }

theorem direct_failure_visible : Visible nonzero troubled desynchronized (.act (.handle never)) := by
  have finished : run (ProjectionHealth.step nonzero false) (initially nonzero [])
      (started ++ [.act (.deliver (note 0 0)), .act (.handle never)]) = some desynchronized := by decide +kernel
  refine (failures_visible nonzero false [] _ _ finished).1.mpr ?_ (started ++ [.act (.deliver (note 0 0))]) _ [] _ _
    (by simp) (by decide +kernel) (by decide +kernel)
  intro before signal after middle split reached
  cases signal with
  | act action =>
      cases action with
      | replayed plan due =>
          -- no answer to a replay request is in the run
          have member : (.act (.replayed plan due) : Signal (List Nat) Nat) ∈
              started ++ [.act (.deliver (note 0 0)), .act (.handle never)] := by
            rw [split]
            simp
          simp [started] at member
      | _ => trivial
  | _ => trivial

/-- The reducer throws on the pending envelope of a recovery, and the recovery is counted and ends healthy. -/
theorem failed_recovery_healthy :
    run (ProjectionHealth.step nonzero false) (initially nonzero [])
        (started ++ [.act (.deliver (note 1 0)), .act (.handle never)]) = some recovering ∧
      ProjectionHealth.step nonzero false recovering (.act (.replayed (.replay (-1) [note 0 7]) never)) =
        some recovered ∧
      threw nonzero recovering (.act (.replayed (.replay (-1) [note 0 7]) never)) = true ∧
      recovered.status.health = .healthy ∧
      recovered.status.recoveriesSucceeded = recovering.status.recoveriesSucceeded + 1 ∧ ¬ Caught recovered := by
  refine ⟨by decide +kernel, by decide +kernel, by decide +kernel, rfl, rfl, ?_⟩
  intro caught
  exact absurd (caught 1 List.mem_cons_self) (by decide +kernel)

end AutonomousApi.HealthRecovery
