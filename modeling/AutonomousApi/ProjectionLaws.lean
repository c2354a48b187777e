import AutonomousApi.LiveProjection

/-! What one step does to the folded state. `applyEnvelope` takes exactly the expected
event of the log, so whatever is delivered or replayed, the state stays the fold of the log
through the applied sequence; a recovery writes the tracker from its answer, which is right
only if nothing has moved since it asked. -/

namespace AutonomousApi.ProjectionLaws

open NumberedLog FailFast LiveProjection

variable {State Payload : Type} {config : Config State Payload} {log : List (Envelope Payload)}

/-- The left fold of the reducer over the events that are no heartbeats. -/
def foldEvents (config : Config State Payload) (state : State) : List (Envelope Payload) → Option State
  | [] => some state
  | envelope :: rest =>
      if envelope.eventType = config.heartbeatEventType then foldEvents config state rest
      else (config.reducer state envelope).bind fun next => foldEvents config next rest

theorem foldEvents_append (state : State) (left right : List (Envelope Payload)) :
    foldEvents config state (left ++ right) =
      (foldEvents config state left).bind fun middle => foldEvents config middle right := by
  induction left generalizing state with
  | nil => rfl
  | cons envelope rest ih =>
      rw [List.cons_append, foldEvents, foldEvents]
      split
      · exact ih state
      · cases reduced : config.reducer state envelope with
        | none => rfl
        | some next => exact ih next

/-- The fold of the log through a sequence. -/
def folded (config : Config State Payload) (log : List (Envelope Payload)) (sequence : Int) : Option State :=
  foldEvents config config.initialState (log.take (sequence + 1).toNat)

/-- A state is the fold of the log through its sequence. -/
structure FoldOf (config : Config State Payload) (log : List (Envelope Payload)) (state : State) (sequence : Int) :
    Prop where
  low : -1 ≤ sequence
  high : sequence < log.length
  state : folded config log sequence = some state

abbrev Faithful (config : Config State Payload) (log : List (Envelope Payload)) (core : Core State) : Prop :=
  FoldOf config log core.state core.appliedSequence

/-- What an application of events of the log can do: the sequence does not go back, and a
faithful core stays so. -/
structure Advances (config : Config State Payload) (log : List (Envelope Payload)) (before after : Core State) :
    Prop where
  expected : before.expected ≤ after.expected
  faithful : Faithful config log before → Faithful config log after

theorem Advances.refl (core : Core State) : Advances config log core core := ⟨Int.le_refl _, id⟩

theorem Advances.trans {first second third : Core State} (early : Advances config log first second)
    (late : Advances config log second third) : Advances config log first third :=
  ⟨Int.le_trans early.expected late.expected, fun faithful => late.faithful (early.faithful faithful)⟩

@[simp] theorem checkpoint_core (live : Live State) : (live.checkpoint config).toCore = live.toCore := by
  rw [Live.checkpoint]
  split <;> rfl

/-- The next event of the log extends the fold by one. -/
theorem folded_next (numbered : Numbered Envelope.sequence 0 log) {envelope : Envelope Payload}
    (member : envelope ∈ log)
    {state next : State} (before : FoldOf config log state (envelope.sequence - 1))
    (reduced : foldEvents config state [envelope] = some next) : FoldOf config log next envelope.sequence := by
  have bounds := numbered.bounds envelope member
  have place := numbered.getElem? member
  obtain ⟨within, atPlace⟩ := List.getElem?_eq_some_iff.mp place
  refine ⟨by omega, by omega, ?_⟩
  have longer : log.take (envelope.sequence + 1).toNat = log.take (envelope.sequence - 1 + 1).toNat ++ [envelope] := by
    rw [show (envelope.sequence + 1).toNat = (envelope.sequence - 0).toNat + 1 by omega,
      show (envelope.sequence - 1 + 1).toNat = (envelope.sequence - 0).toNat by omega, List.take_add_one, place]
    rfl
  rw [folded, longer, foldEvents_append, ← folded, before.state]
  exact reduced

theorem applyEnvelope_advances (numbered : Numbered Envelope.sequence 0 log) {envelope : Envelope Payload}
    (member : envelope ∈ log) (due : Int → Bool) {live : Live State} (expected : envelope.sequence = live.expected) :
    Advances config log live.toCore (applyEnvelope config due live envelope).toCore := by
  -- the tracker has advanced by one, over an event that takes the state to `state`
  have consumed {state : State} (reduced : foldEvents config live.state [envelope] = some state) :
      Advances config log live.toCore (Live.consume config { live with state } envelope).toCore := by
    refine ⟨?_, ?_⟩
    · simp only [Live.consume]
      omega
    · intro faithful
      rw [Faithful, Core.appliedSequence, ← expected] at faithful
      have next := folded_next numbered member faithful reduced
      rw [Faithful, Core.appliedSequence]
      simp only [Live.consume]
      rw [show live.expected + 1 - 1 = envelope.sequence by omega]
      exact next
  rw [applyEnvelope]
  split
  · next heartbeat =>
      apply consumed
      rw [foldEvents, if_pos heartbeat, foldEvents]
  · next event =>
      cases reduced : config.reducer live.state envelope with
      | none => exact .refl _
      | some state =>
          have step : foldEvents config live.state [envelope] = some state := by
            rw [foldEvents, if_neg event, reduced]
            rfl
          simp only
          split
          · rw [checkpoint_core]
            exact consumed step
          · exact consumed step

theorem evaluate_apply {core : Core State} {envelope : Envelope Payload} (applies : evaluate core envelope = .apply) :
    envelope.sequence = core.expected ∧ envelope.eventId ∉ core.seen := by
  rw [evaluate] at applies
  split at applies
  · cases applies
  · next fresh =>
      split at applies
      · next expected => exact ⟨expected, fresh⟩
      · split at applies <;> cases applies

theorem refresh_advances (live : Live State) (envelope : Envelope Payload) :
    Advances config log live.toCore (live.refresh envelope).toCore := ⟨Int.le_refl _, id⟩

/-- A loop over events of the log advances, also where it throws. -/
theorem applyAll_advances (numbered : Numbered Envelope.sequence 0 log) (due : Int → Bool) (live : Live State)
    {events : List (Envelope Payload)} (known : ∀ envelope ∈ events, envelope ∈ log) :
    Advances config log live.toCore (ended (foldChecked (applyEnvelopeDirect config due) live events)).toCore := by
  induction events generalizing live with
  | nil => exact .refl _
  | cons envelope rest ih =>
      have later : ∀ other ∈ rest, other ∈ log := fun other member => known other (by simp [member])
      rw [foldChecked, applyEnvelopeDirect]
      cases verdict : evaluate live.toCore envelope with
      | duplicate => exact (refresh_advances live envelope).trans (ih _ later)
      | gap missingFrom => exact .refl _
      | apply =>
          have head := @applyEnvelope_advances _ _ config log numbered envelope (known envelope (by simp)) due live
            (evaluate_apply verdict).1
          exact head.trans (ih _ later)

theorem mem_markProcessed {capacity : Nat} {seen : List String} {eventId other : String}
    (member : other ∈ markProcessed capacity seen eventId) : other ∈ seen ∨ other = eventId := by
  rw [markProcessed, keepLast] at member
  rcases List.mem_append.mp (List.mem_of_mem_drop member) with old | new
  · exact .inl (List.mem_of_mem_erase old)
  · exact .inr (List.mem_singleton.mp new)

/-- A loop over the events that come next, all of them new to the guard, applies them all. -/
theorem applyAll_complete (due : Int → Bool) {events : List (Envelope Payload)} {live : Live State} {final : State}
    (next : Numbered Envelope.sequence live.expected events) (distinct : (events.map Envelope.eventId).Nodup)
    (fresh : ∀ envelope ∈ events, envelope.eventId ∉ live.seen)
    (folds : foldEvents config live.state events = some final) :
    ∃ after, foldChecked (applyEnvelopeDirect config due) live events = .ok after ∧ after.state = final ∧
      after.expected = live.expected + events.length := by
  induction events generalizing live with
  | nil =>
      rw [foldEvents, Option.some.injEq] at folds
      exact ⟨live, rfl, folds, by simp⟩
  | cons envelope rest ih =>
      obtain ⟨isNext, later⟩ := next
      obtain ⟨unique, distinctRest⟩ := List.nodup_cons.mp distinct
      have verdict : evaluate live.toCore envelope = .apply := by
        rw [evaluate, if_neg (fresh envelope (by simp)), if_pos isNext]
      -- whether or not a checkpoint is due, the core is the consumed one
      obtain ⟨state, folded, restFolds⟩ : ∃ state, (applyEnvelope config due live envelope).toCore =
          (Live.consume config { live with state } envelope).toCore ∧
            foldEvents config state rest = some final := by
        rw [foldEvents] at folds
        rw [applyEnvelope]
        split at folds
        · next heartbeat =>
            rw [if_pos heartbeat]
            exact ⟨live.state, rfl, folds⟩
        · next event =>
            obtain ⟨state, reduced, restFolds⟩ := Option.bind_eq_some_iff.mp folds
            rw [if_neg event, reduced]
            refine ⟨state, ?_, restFolds⟩
            simp only
            split
            · rw [checkpoint_core]
            · rfl
      have expected : (applyEnvelope config due live envelope).expected = live.expected + 1 := by
        rw [show (applyEnvelope config due live envelope).expected = _ from congrArg Core.expected folded]
        rfl
      have seen : (applyEnvelope config due live envelope).seen =
          markProcessed config.duplicateGuardCapacity live.seen envelope.eventId := congrArg Core.seen folded
      have applied : (applyEnvelope config due live envelope).state = state := congrArg Core.state folded
      have freshRest : ∀ other ∈ rest, other.eventId ∉ (applyEnvelope config due live envelope).seen := by
        intro other member isSeen
        rw [seen] at isSeen
        rcases mem_markProcessed isSeen with old | same
        · exact fresh other (by simp [member]) old
        · exact unique (same ▸ List.mem_map_of_mem member)
      obtain ⟨after, done, final, count⟩ :=
        @ih (applyEnvelope config due live envelope) (expected ▸ later) distinctRest freshRest (applied ▸ restFolds)
      refine ⟨after, ?_, final, ?_⟩
      · rw [foldChecked, applyEnvelopeDirect, verdict]
        exact done
      · rw [count, expected, List.length_cons]
        omega

end AutonomousApi.ProjectionLaws
