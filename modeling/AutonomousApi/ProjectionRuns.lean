import AutonomousApi.ProjectionLaws

/-! Runs of a projection over one log. The envelope handlers are serialized by the mutex and
`start` is not; a recovery that no `start` crosses finds the projection as it left it. A
checkpoint takes its state before an await and its sequence after it. -/

namespace AutonomousApi.ProjectionRuns

open NumberedLog FailFast Runs LiveProjection ProjectionLaws

variable {State Payload : Type} {config : Config State Payload} {log : List (Envelope Payload)}
  {projection following : Projection State Payload} {action : Action State Payload}

/-- A contiguous run of the log after a sequence, maybe cut short. -/
def ReplayOf (log : List (Envelope Payload)) (after : Int) (events : List (Envelope Payload)) : Prop :=
  ∃ count, events = (log.drop (after + 1).toNat).take count

/-- The stream delivers events of the log; a replay answers from where it was asked, and a
snapshot is a fold of the log. -/
def Truthful (config : Config State Payload) (log : List (Envelope Payload)) (projection : Projection State Payload) :
    Action State Payload → Prop
  | .deliver envelope => envelope ∈ log
  | .caughtUp index (some events) _ => ∀ after, projection.starting[index]? = some (.catchingUp after) →
      ReplayOf log after events
  | .hydrated _ (some snapshot) | .resynced (some snapshot) => FoldOf config log snapshot.state snapshot.sequence
  | .replayed (.replay sequence events) _ => ∀ pending missingFrom issued,
      projection.holder = .awaitingReplay pending missingFrom issued →
        sequence = missingFrom - 1 ∧ ReplayOf log (missingFrom - 1) events
  | _ => True

def RecordOf (config : Config State Payload) (log : List (Envelope Payload)) (record : CheckpointRecord State) : Prop :=
  FoldOf config log record.state record.sequence

/-- A record that `start` adopts is the fold of the log through its sequence. -/
def Adopts (config : Config State Payload) (log : List (Envelope Payload)) (projection : Projection State Payload) :
    Action State Payload → Prop
  | .load _ (some place) now => ∀ record, projection.records[place]? = some record → usable config now record = true →
      RecordOf config log record
  | _ => True

/-- The answers that `start` writes to the state. -/
def hydrates : Action State Payload → Bool
  | .load _ (some _) _ | .caughtUp _ (some _) _ | .hydrated _ (some _) => true
  | _ => false

/-- What `start` waits for arrives only while no recovery is in flight. -/
def Serialized (projection : Projection State Payload) (action : Action State Payload) : Prop :=
  hydrates action = true → projection.holder = .idle

/-- `start` is called once. -/
def Once (projection : Projection State Payload) (action : Action State Payload) : Prop :=
  action = .start → projection.begun = false

/-- When the hash of a checkpoint is there, the state is still the one that was captured. -/
def Unmoved (projection : Projection State Payload) (action : Action State Payload) : Prop :=
  ∀ index now, action = .hashed index now → ∀ state, projection.live.captured[index]? = some state →
    projection.live.state = state

section

/-- The core is as it was when the handler in flight issued its request. -/
def Held (log : List (Envelope Payload)) (core : Core State) : Holder State Payload → Prop
  | .idle => True
  | .awaitingReplay pending missingFrom issued => pending ∈ log ∧ core = issued ∧ missingFrom = issued.expected
  | .awaitingSnapshot issued => core = issued

structure Sound (config : Config State Payload) (log : List (Envelope Payload))
    (projection : Projection State Payload) :
    Prop where
  faithful : Faithful config log projection.live.toCore
  queue : ∀ envelope ∈ projection.queue, envelope ∈ log
  held : Held log projection.live.toCore projection.holder

theorem ReplayOf.known {after : Int} {events : List (Envelope Payload)} (replay : ReplayOf log after events) :
    ∀ envelope ∈ events, envelope ∈ log := by
  obtain ⟨count, rfl⟩ := replay
  intro envelope member
  exact List.mem_of_mem_drop (List.mem_of_mem_take member)

theorem adopted {state : State} {sequence : Int} (live : Live State) (fold : FoldOf config log state sequence) :
    Faithful config log (adopt live state sequence).toCore := by
  rw [Faithful, Core.appliedSequence]
  simp only [adopt]
  rw [show sequence + 1 - 1 = sequence by omega]
  exact fold

theorem Held.of_idle {core : Core State} {holder : Holder State Payload} (idle : holder = .idle) :
    Held log core holder := by
  rw [idle]
  trivial

/-- The answer to a replay request leaves the tracker where it was and applies events of
the log from there. -/
theorem replayed_advances (numbered : Numbered Envelope.sequence 0 log) {pending : Envelope Payload} {missingFrom : Int}
    {issued : Core State} {sequence : Int} {events : List (Envelope Payload)} (due : Int → Bool) {live : Live State}
    (held : Held log live.toCore (.awaitingReplay pending missingFrom issued)) (at_ : sequence = missingFrom - 1)
    (replay : ReplayOf log (missingFrom - 1) events) :
    Advances config log live.toCore (ended (applyReplay config due live sequence events pending)).toCore := by
  obtain ⟨isPending, same, missing⟩ := held
  -- the answer names the point that the tracker is at already
  have unchanged : setFromConsistencyPoint live sequence = live := by
    have expected : sequence + 1 = live.expected := by
      rw [at_, missing, ← same]
      omega
    rw [setFromConsistencyPoint, expected]
  rw [applyReplay, unchanged]
  apply applyAll_advances numbered due live
  intro envelope member
  rcases List.mem_append.mp member with known | last
  · exact replay.known envelope known
  · rw [List.mem_singleton.mp last]
    exact isPending

theorem handle_sound (numbered : Numbered Envelope.sequence 0 log) (sound : Sound config log projection)
    (idle : projection.holder = .idle) (due : Int → Bool) {envelope : Envelope Payload}
    {rest : List (Envelope Payload)} (next : projection.queue = envelope :: rest) :
    Sound config log (handle config due projection envelope rest) := by
  have known : envelope ∈ log := sound.queue envelope (by simp [next])
  have queue : ∀ other ∈ rest, other ∈ log := fun other member => sound.queue other (by simp [next, member])
  rw [handle]
  cases verdict : evaluate projection.live.toCore envelope with
  | duplicate => exact ⟨sound.faithful, queue, .of_idle idle⟩
  | apply =>
      have advances := @applyEnvelope_advances _ _ config log numbered envelope known due projection.live
        (evaluate_apply verdict).1
      exact ⟨advances.faithful sound.faithful, queue, .of_idle idle⟩
  | gap missingFrom =>
      have missing : missingFrom = projection.live.expected := by
        rw [evaluate] at verdict
        split at verdict
        · cases verdict
        · split at verdict
          · cases verdict
          · split at verdict
            · cases verdict
            · cases verdict
              rfl
      simp only
      split
      · exact ⟨sound.faithful, queue, .of_idle idle⟩
      · exact ⟨sound.faithful, queue, known, rfl, missing⟩

attribute [local simp] step

/-- The answer to a replay request, whatever it is, finds the projection as it was left. -/
theorem replayed_step (numbered : Numbered Envelope.sequence 0 log) (sound : Sound config log projection)
    {plan : Plan Payload} {due : Int → Bool} (truthful : Truthful config log projection (.replayed plan due))
    (taken : step config projection (.replayed plan due) = some following) :
    Advances config log projection.live.toCore following.live.toCore ∧ following.queue = projection.queue ∧
      Held log following.live.toCore following.holder := by
  simp only [step] at taken
  split at taken
  · next pending missingFrom issued waiting =>
      have held := sound.held
      rw [waiting] at held
      split at taken
      · cases taken
        exact ⟨.refl _, rfl, trivial⟩
      · cases taken
        exact ⟨.refl _, rfl, held.2.1⟩
      · next sequence events =>
          obtain ⟨at_, replay⟩ := truthful pending missingFrom issued waiting
          have advances := @replayed_advances _ _ config log numbered _ _ _ _ _ due _ held at_ replay
          split at taken
          · next live finished =>
              cases taken
              rw [finished] at advances
              exact ⟨advances, rfl, trivial⟩
          · next live thrown =>
              cases taken
              rw [thrown] at advances
              exact ⟨advances, rfl, trivial⟩
  · cases taken

theorem Sound.next (numbered : Numbered Envelope.sequence 0 log) (sound : Sound config log projection)
    (truthful : Truthful config log projection action) (adopts : Adopts config log projection action)
    (serialized : Serialized projection action) (taken : step config projection action = some following) :
    Sound config log following := by
  cases action with
  | start =>
      simp only [step] at taken
      split at taken <;> cases taken
      · exact sound
      · exact ⟨sound.faithful, sound.queue, sound.held⟩
  | load index place now =>
      simp only [step] at taken
      split at taken
      · split at taken
        · cases taken
          exact ⟨sound.faithful, sound.queue, sound.held⟩
        · next record found =>
            obtain ⟨position, rfl, atPosition⟩ := Option.bind_eq_some_iff.mp found
            split at taken
            · next isUsable =>
                cases taken
                exact ⟨adopted projection.live (adopts record atPosition isUsable), sound.queue,
                  .of_idle (serialized rfl)⟩
            · cases taken
              exact ⟨sound.faithful, sound.queue, sound.held⟩
      · cases taken
  | caughtUp index answer due =>
      simp only [step] at taken
      split at taken
      · next after waiting =>
          split at taken
          · cases taken
            exact ⟨sound.faithful, sound.queue, sound.held⟩
          · next events =>
              have advances := @applyAll_advances _ _ config log numbered due projection.live events
                (truthful after waiting).known
              have faithful := advances.faithful sound.faithful
              have idle := serialized rfl
              split at taken
              · next live ended =>
                  cases taken
                  rw [ended] at faithful
                  exact ⟨faithful, sound.queue, .of_idle idle⟩
              · next live ended =>
                  cases taken
                  rw [ended] at faithful
                  exact ⟨faithful, sound.queue, .of_idle idle⟩
      · cases taken
  | hydrated index answer =>
      simp only [step] at taken
      split at taken
      · split at taken
        · cases taken
          exact ⟨sound.faithful, sound.queue, sound.held⟩
        · next snapshot =>
            cases taken
            exact ⟨adopted projection.live truthful, sound.queue, .of_idle (serialized rfl)⟩
      · cases taken
  | stop =>
      simp only [step] at taken
      split at taken
      · cases taken
        refine ⟨?_, sound.queue, ?_⟩
        · rw [checkpoint_core]
          exact sound.faithful
        · rw [checkpoint_core]
          exact sound.held
      · cases taken
        exact sound
  | deliver envelope =>
      simp only [step] at taken
      split at taken
      · cases taken
      · cases taken
        refine ⟨sound.faithful, ?_, sound.held⟩
        intro other member
        rcases List.mem_append.mp member with old | new
        · exact sound.queue other old
        · rw [List.mem_singleton.mp new]
          exact truthful
  | handle due =>
      simp only [step] at taken
      split at taken
      · next envelope rest idle next =>
          cases taken
          exact handle_sound numbered sound idle due next
      · cases taken
  | replayed plan due =>
      obtain ⟨advances, queue, held⟩ := replayed_step numbered sound truthful taken
      exact ⟨advances.faithful sound.faithful, queue ▸ sound.queue, held⟩
  | resynced answer =>
      simp only [step] at taken
      split at taken
      · split at taken
        · cases taken
          exact ⟨sound.faithful, sound.queue, trivial⟩
        · cases taken
          exact ⟨adopted projection.live truthful, sound.queue, trivial⟩
      · cases taken
  | checkpoint =>
      cases taken
      refine ⟨?_, sound.queue, ?_⟩
      · rw [checkpoint_core]
        exact sound.faithful
      · rw [checkpoint_core]
        exact sound.held
  | hashed index now =>
      obtain ⟨state, -, rfl⟩ := Option.map_eq_some_iff.mp taken
      exact ⟨sound.faithful, sound.queue, sound.held⟩
  | hashFailed index =>
      cases taken
      exact ⟨sound.faithful, sound.queue, sound.held⟩

theorem sound_initial (stored : List (CheckpointRecord State)) : Sound config log (initial config stored) := by
  refine ⟨⟨Int.le_refl _, ?_, ?_⟩, by simp [initial], trivial⟩
  · simp only [initial, Core.appliedSequence]
    omega
  · rfl

end

/-- A projection that collects the payloads. -/
def collecting : Config (List Nat) Nat :=
  { initialState := [], reducer := fun state envelope => some (state ++ [envelope.payload]), contentHash := toString }

def event (number : Nat) : Envelope Nat := ⟨"e" ++ toString number, number, "event", number⟩

def history : List (Envelope Nat) := [event 0, event 1, event 2]

theorem history_numbered : Numbered Envelope.sequence 0 history := by
  simp [history, Numbered, event]

/-- Subscribed after an empty snapshot. -/
def subscribed (stored : List (CheckpointRecord (List Nat))) : Projection (List Nat) Nat :=
  { live := { state := [] }, started := true, begun := true, subscriptions := 1, unsubscribable := true,
    records := stored }

/-- One event later, with a checkpoint in the making. -/
def collected : Projection (List Nat) Nat :=
  { subscribed [] with live := { state := [0], expected := 1, seen := ["e0"], captured := [[0]] } }

/-- All that the results below ask of a step. -/
def Good (projection : Projection (List Nat) Nat) (action : LiveProjection.Action (List Nat) Nat) : Prop :=
  Truthful collecting history projection action ∧ Adopts collecting history projection action ∧
    Once projection action ∧ Serialized projection action ∧ Unmoved projection action

theorem Good.other {projection : Projection (List Nat) Nat} {action : LiveProjection.Action (List Nat) Nat}
    (truthful : Truthful collecting history projection action) (adopts : Adopts collecting history projection action)
    (start : action ≠ .start) (writes : hydrates action = false) (hashed : ∀ index now, action ≠ .hashed index now) :
    Good projection action :=
  ⟨truthful, adopts, fun same => absurd same start, fun other => absurd other (by simp [writes]),
    fun index now same => absurd same (hashed index now)⟩

theorem fold_empty : FoldOf collecting history [] (-1) := ⟨by decide, by decide, by decide⟩

theorem collected_reached : Reaches (step collecting) Good (initial collecting []) collected := by
  have started : step collecting (initial collecting []) .start = some
      { initial collecting [] with started := true, begun := true, starting := [.loading] } := by decide
  have loaded : step collecting { initial collecting [] with started := true, begun := true, starting := [.loading] }
      (.load 0 none 0) = some
        { initial collecting [] with started := true, begun := true, starting := [.hydrating] } := by decide
  have hydrated : step collecting
      { initial collecting [] with started := true, begun := true, starting := [.hydrating] }
      (.hydrated 0 (some ⟨[], -1⟩)) = some (subscribed []) := by decide
  have delivered : step collecting (subscribed []) (.deliver (event 0)) = some
      { subscribed [] with queue := [event 0] } := by decide
  have applied : step collecting { subscribed [] with queue := [event 0] } (.handle fun _ => true) =
      some collected := by decide
  refine .next (.next (.next (.next (.next .start ?_ started) ?_ loaded) ?_ hydrated) ?_ delivered) ?_ applied
  · exact ⟨trivial, trivial, fun _ => rfl, fun writes => (by cases writes), fun _ _ same => by cases same⟩
  · exact .other trivial trivial (by simp) rfl (by simp)
  · exact ⟨fold_empty, trivial, fun same => (by cases same), fun _ => rfl, fun _ _ same => by cases same⟩
  · exact .other List.mem_cons_self trivial (by simp) rfl (by simp)
  · exact .other trivial trivial (by simp) rfl (by simp)

/-- The second event is lost, and the third makes a gap. -/
def recovering : Projection (List Nat) Nat :=
  { collected with
    holder := .awaitingReplay (event 2) 1 { state := [0], expected := 1, seen := ["e0"] }, recoveryAttempts := 1 }

theorem recovering_reached : Reaches (step collecting) Good (initial collecting []) recovering := by
  have delivered : step collecting collected (.deliver (event 2)) = some { collected with queue := [event 2] } := by
    decide
  have asked : step collecting { collected with queue := [event 2] } (.handle fun _ => false) = some recovering := by
    decide
  refine .next (.next collected_reached ?_ delivered) ?_ asked
  · exact .other (by simp [Truthful, history]) trivial (by simp) rfl (by simp)
  · exact .other trivial trivial (by simp) rfl (by simp)

/-- In a run whose starts cross no recovery, the state is the fold of the log through the
applied sequence, what a recovery in flight was issued on has not changed, and its answer
does not take the expected sequence back. -/
theorem recovery_serialized (numbered : Numbered Envelope.sequence 0 log) {stored : List (CheckpointRecord State)}
    (reached : Reaches (step config) (fun projection action => Truthful config log projection action ∧
      Adopts config log projection action ∧ Serialized projection action) (initial config stored) projection) :
    FoldOf config log projection.live.state projection.live.appliedSequence ∧
    (∀ pending missingFrom issued, projection.holder = .awaitingReplay pending missingFrom issued →
      projection.live.toCore = issued) ∧
    (∀ issued, projection.holder = .awaitingSnapshot issued → projection.live.toCore = issued) ∧
    ∀ plan due following, Truthful config log projection (.replayed plan due) →
      step config projection (.replayed plan due) = some following →
      projection.live.expected ≤ following.live.expected := by
  have sound : Sound config log projection := by
    apply reached.invariant
    · exact sound_initial stored
    · rintro projection action following sound ⟨truthful, adopts, serialized⟩ taken
      exact sound.next numbered truthful adopts serialized taken
  refine ⟨sound.faithful, ?_, ?_, ?_⟩
  · intro pending missingFrom issued waiting
    have held := sound.held
    rw [waiting] at held
    exact held.2.1
  · intro issued waiting
    have held := sound.held
    rw [waiting] at held
    exact held
  · intro plan due following truthful taken
    exact (replayed_step numbered sound truthful taken).1.expected

theorem recovering_serialized :
    recovering.holder = .awaitingReplay (event 2) 1 { state := [0], expected := 1, seen := ["e0"] } ∧
      recovering.live.toCore = { state := [0], expected := 1, seen := ["e0"] } :=
  ⟨rfl, (recovery_serialized history_numbered (recovering_reached.weaken fun _ _ good =>
    ⟨good.1, good.2.1, good.2.2.2.1⟩)).2.1 _ _ _ rfl⟩

/-- Stopped, started and hydrated again while the recovery is in flight. -/
def crossed : Projection (List Nat) Nat :=
  { recovering with live := { state := [0, 1, 2], expected := 3, seen := [], captured := [[0], [0]] } }

theorem fold_all : FoldOf collecting history [0, 1, 2] 2 := ⟨by decide, by decide, by decide⟩

/-- The restart changes what the recovery was issued on, and the answer to it then takes the
tracker back and folds two events again. -/
theorem restart_crosses_recovery :
    Reaches (step collecting) (Truthful collecting history) (initial collecting []) crossed ∧
    (∃ pending missingFrom issued, crossed.holder = .awaitingReplay pending missingFrom issued ∧
      crossed.live.toCore ≠ issued) ∧
    Truthful collecting history crossed (.replayed (.replay 0 [event 1]) fun _ => false) ∧
    (step collecting crossed (.replayed (.replay 0 [event 1]) fun _ => false)).map (fun after => after.live.state) =
      some [0, 1, 2, 1, 2] := by
  refine ⟨?_, ⟨_, _, _, rfl, by decide⟩, ?_, by decide⟩
  · have stopped : step collecting recovering .stop = some
        { recovering with live := recovering.live.checkpoint collecting, started := false, subscriptions := 0,
                          unsubscribable := false } := by decide
    have started : step collecting
        { recovering with live := recovering.live.checkpoint collecting, started := false, subscriptions := 0,
                          unsubscribable := false } .start = some
        { recovering with live := recovering.live.checkpoint collecting, subscriptions := 0, unsubscribable := false,
                          starting := [.loading] } := by decide
    have loaded : step collecting
        { recovering with live := recovering.live.checkpoint collecting, subscriptions := 0, unsubscribable := false,
                          starting := [.loading] } (.load 0 none 0) = some
        { recovering with live := recovering.live.checkpoint collecting, subscriptions := 0, unsubscribable := false,
                          starting := [.hydrating] } := by decide
    have hydrated : step collecting
        { recovering with live := recovering.live.checkpoint collecting, subscriptions := 0, unsubscribable := false,
                          starting := [.hydrating] } (.hydrated 0 (some ⟨[0, 1, 2], 2⟩)) = some crossed := by
      decide
    have before : Reaches (step collecting) (Truthful collecting history) (initial collecting []) recovering :=
      recovering_reached.weaken fun _ _ good => good.1
    refine .next (.next (.next (.next before ?_ stopped) ?_ started) ?_ loaded) ?_ hydrated
    · trivial
    · trivial
    · trivial
    · exact fold_all
  · intro pending missingFrom issued same
    cases same
    exact ⟨rfl, 1, rfl⟩

/-- Nothing is delivered or in the hands of a handler. -/
structure Quiet (projection : Projection State Payload) : Prop where
  subscriptions : projection.subscriptions = 0
  queue : projection.queue = []
  holder : projection.holder = .idle

/-- Of a projection that is started once: while its start is in progress, it is quiet. -/
structure Single (projection : Projection State Payload) : Prop where
  before : projection.begun = false → projection.starting = [] ∧ Quiet projection
  during : projection.starting ≠ [] → projection.starting.length = 1 ∧ Quiet projection

theorem Single.of_begun (begun : projection.begun = true) (finished : projection.starting = []) :
    Single projection := by
  refine ⟨?_, fun other => absurd finished other⟩
  intro fresh
  rw [begun] at fresh
  cases fresh

variable {index : Nat} {phase : Phase}

/-- A step of a start in progress finds nothing in flight. -/
theorem Single.quiet (single : Single projection)
    (waiting : projection.starting[index]? = some phase) : projection.starting.length = 1 ∧ Quiet projection := by
  apply single.during
  intro none
  rw [none] at waiting
  cases waiting

/-- A start that goes on stays the only one. -/
theorem Single.goes_on (single : Single projection)
    (waiting : projection.starting[index]? = some phase) (next : Phase)
    (starting : following.starting = projection.starting.set index next)
    (begun : following.begun = projection.begun) (quiet : Quiet projection → Quiet following) : Single following := by
  obtain ⟨one, isQuiet⟩ := single.quiet waiting
  refine ⟨?_, ?_⟩
  · intro fresh
    rw [begun] at fresh
    have none := (single.before fresh).1
    rw [none] at one
    cases one
  · intro _
    rw [starting, List.length_set]
    exact ⟨one, quiet isQuiet⟩

/-- A start that is done leaves none. -/
theorem Single.ends (single : Single projection) (waiting : projection.starting[index]? = some phase)
    (starting : following.starting = projection.starting.eraseIdx index)
    (begun : following.begun = projection.begun) : Single following := by
  obtain ⟨one, -⟩ := single.quiet waiting
  have isBegun : projection.begun = true := by
    by_contra fresh
    have none := (single.before (Bool.eq_false_iff.mpr fresh)).1
    rw [none] at one
    cases one
  apply Single.of_begun (begun.trans isBegun)
  obtain ⟨within, -⟩ := List.getElem?_eq_some_iff.mp waiting
  rw [starting, ← List.length_eq_zero_iff, List.length_eraseIdx_of_lt within, one]

/-- Steps that start nothing and deliver nothing. -/
theorem Single.keeps (single : Single projection) (starting : following.starting = projection.starting)
    (begun : following.begun = projection.begun) (quiet : Quiet projection → Quiet following) : Single following := by
  refine ⟨?_, ?_⟩
  · intro fresh
    rw [begun] at fresh
    obtain ⟨none, isQuiet⟩ := single.before fresh
    exact ⟨starting.trans none, quiet isQuiet⟩
  · intro some
    rw [starting] at some ⊢
    obtain ⟨one, isQuiet⟩ := single.during some
    exact ⟨one, quiet isQuiet⟩

theorem Single.next (single : Single projection) (once : Once projection action)
    (taken : step config projection action = some following) : Single following := by
  cases action with
  | start =>
      simp only [step] at taken
      split at taken
      · cases taken
        exact single
      · cases taken
        obtain ⟨none, quiet⟩ := single.before (once rfl)
        refine ⟨?_, ?_⟩
        · intro fresh
          cases fresh
        · intro _
          exact ⟨by simp [none], quiet.subscriptions, quiet.queue, quiet.holder⟩
  | load index place now =>
      simp only [step] at taken
      split at taken
      · next waiting =>
          split at taken
          · cases taken
            exact single.goes_on waiting .hydrating rfl rfl fun quiet =>
                ⟨quiet.subscriptions, quiet.queue, quiet.holder⟩
          · next record _ =>
              split at taken
              · cases taken
                exact single.goes_on waiting (.catchingUp record.sequence) rfl rfl
                  fun quiet => ⟨quiet.subscriptions, quiet.queue, quiet.holder⟩
              · cases taken
                exact single.goes_on waiting .hydrating rfl rfl
                  fun quiet => ⟨quiet.subscriptions, quiet.queue, quiet.holder⟩
      · cases taken
  | caughtUp index answer due =>
      simp only [step] at taken
      split at taken
      · next after waiting =>
          split at taken
          · cases taken
            exact single.goes_on waiting .hydrating rfl rfl fun quiet =>
                ⟨quiet.subscriptions, quiet.queue, quiet.holder⟩
          · split at taken
            · cases taken
              exact single.ends waiting rfl rfl
            · cases taken
              exact single.goes_on waiting .hydrating rfl rfl
                fun quiet => ⟨quiet.subscriptions, quiet.queue, quiet.holder⟩
      · cases taken
  | hydrated index answer =>
      simp only [step] at taken
      split at taken
      · next waiting =>
          split at taken
          · cases taken
            exact single.ends waiting rfl rfl
          · cases taken
            exact single.ends waiting rfl rfl
      · cases taken
  | stop =>
      simp only [step] at taken
      split at taken
      · cases taken
        refine single.keeps rfl rfl ?_
        intro quiet
        refine ⟨?_, quiet.queue, quiet.holder⟩
        simp [quiet.subscriptions]
      · cases taken
        exact single
  | deliver envelope =>
      simp only [step] at taken
      split at taken
      · cases taken
      · next subscribed =>
          cases taken
          refine single.keeps rfl rfl ?_
          intro quiet
          exact absurd quiet.subscriptions subscribed
  | handle due =>
      simp only [step] at taken
      split at taken
      · next envelope rest idle next =>
          -- a queue that is not empty shows that no start is in progress
          have busy : ¬ Quiet projection := by
            intro quiet
            rw [quiet.queue] at next
            cases next
          have starting : following.starting = projection.starting ∧ following.begun = projection.begun := by
            cases taken
            rw [handle]
            split
            · exact ⟨rfl, rfl⟩
            · exact ⟨rfl, rfl⟩
            · split <;> exact ⟨rfl, rfl⟩
          exact single.keeps starting.1 starting.2 fun quiet => absurd quiet busy
      · cases taken
  | replayed plan due =>
      simp only [step] at taken
      split at taken
      · next pending missingFrom issued waiting =>
          have busy : Quiet projection → Quiet following := by
            intro quiet
            rw [quiet.holder] at waiting
            cases waiting
          split at taken
          · cases taken
            exact single.keeps rfl rfl busy
          · cases taken
            exact single.keeps rfl rfl busy
          · split at taken <;> cases taken <;> exact single.keeps rfl rfl busy
      · cases taken
  | resynced answer =>
      simp only [step] at taken
      split at taken
      · split at taken <;> cases taken <;>
          exact single.keeps rfl rfl fun quiet => ⟨quiet.subscriptions, quiet.queue, rfl⟩
      · cases taken
  | checkpoint =>
      cases taken
      exact single.keeps rfl rfl fun quiet => ⟨quiet.subscriptions, quiet.queue, quiet.holder⟩
  | hashed index now =>
      obtain ⟨state, -, rfl⟩ := Option.map_eq_some_iff.mp taken
      exact single.keeps rfl rfl fun quiet => ⟨quiet.subscriptions, quiet.queue, quiet.holder⟩
  | hashFailed index =>
      cases taken
      exact single.keeps rfl rfl fun quiet => ⟨quiet.subscriptions, quiet.queue, quiet.holder⟩

/-- A single start crosses no recovery. -/
theorem Single.serialized (single : Single projection) (taken : step config projection action = some following) :
    Serialized projection action := by
  intro writes
  cases action with
  | load index place now =>
      simp only [step] at taken
      split at taken
      · next waiting => exact (single.quiet waiting).2.holder
      · cases taken
  | caughtUp index answer due =>
      simp only [step] at taken
      split at taken
      · next after waiting => exact (single.quiet waiting).2.holder
      · cases taken
  | hydrated index answer =>
      simp only [step] at taken
      split at taken
      · next waiting => exact (single.quiet waiting).2.holder
      · cases taken
  | _ => cases writes

/-- A projection that is started once, and adopts a checkpoint only if it is a fold of the
log, has at any time the fold of the log through its applied sequence. -/
theorem started_once_folds (numbered : Numbered Envelope.sequence 0 log) {stored : List (CheckpointRecord State)}
    (reached : Reaches (step config) (fun projection action => Truthful config log projection action ∧
      Once projection action ∧ Adopts config log projection action) (initial config stored) projection) :
    folded config log projection.live.appliedSequence = some projection.live.state := by
  have both : Sound config log projection ∧ Single projection := by
    apply reached.invariant
    · exact ⟨sound_initial stored, fun _ => ⟨rfl, rfl, rfl, rfl⟩, fun some => absurd rfl some⟩
    · rintro projection action following ⟨sound, single⟩ ⟨truthful, once, adopts⟩ taken
      exact ⟨sound.next numbered truthful adopts (single.serialized taken) taken, single.next once taken⟩
  exact both.1.faithful.state

theorem recovering_folds : folded collecting history 0 = some [0] :=
  started_once_folds history_numbered (recovering_reached.weaken fun _ _ good => ⟨good.1, good.2.2.1, good.2.1⟩)

/-- The record of a state that moved on while it was hashed: the second event was applied
between the capture and the sequence. -/
def staleRecord : CheckpointRecord (List Nat) := ⟨1, 5, [0], toString [0]⟩

def staleSaved : Projection (List Nat) Nat :=
  { subscribed [staleRecord] with live := { state := [0, 1], expected := 2, seen := ["e0", "e1"] } }

theorem staleSaved_reached :
    Reaches (step collecting) (fun projection action => Truthful collecting history projection action ∧
      Once projection action ∧ Serialized projection action) (initial collecting []) staleSaved := by
  have delivered : step collecting collected (.deliver (event 1)) = some { collected with queue := [event 1] } := by
    decide
  have applied : step collecting { collected with queue := [event 1] } (.handle fun _ => false) = some
      { collected with live := { state := [0, 1], expected := 2, seen := ["e0", "e1"], captured := [[0]] } } := by
    decide
  have hashed : step collecting
      { collected with live := { state := [0, 1], expected := 2, seen := ["e0", "e1"], captured := [[0]] } }
      (.hashed 0 5) = some staleSaved := by decide
  have before : Reaches (step collecting) (fun projection action => Truthful collecting history projection action ∧
      Once projection action ∧ Serialized projection action) (initial collecting []) collected :=
    collected_reached.weaken fun _ _ good => ⟨good.1, good.2.2.1, good.2.2.2.1⟩
  refine .next (.next (.next before ?_ delivered) ?_ applied) ?_ hashed
  · exact ⟨by simp [Truthful, history], fun same => (by cases same), fun writes => by cases writes⟩
  · exact ⟨trivial, fun same => (by cases same), fun writes => by cases writes⟩
  · exact ⟨trivial, fun same => (by cases same), fun writes => by cases writes⟩

/-- Started once on that record, a projection has no fold of the log. -/
theorem stale_record_resumed :
    staleRecord ∈ staleSaved.records ∧
    ∃ projection, Reaches (step collecting) (fun projection action => Truthful collecting history projection action ∧
        Once projection action) (initial collecting [staleRecord]) projection ∧
      projection.starting = [] ∧ projection.subscriptions = 1 ∧
      folded collecting history projection.live.appliedSequence ≠ some projection.live.state := by
  have started : step collecting (initial collecting [staleRecord]) .start = some
      { initial collecting [staleRecord] with started := true, begun := true, starting := [.loading] } := by
    decide
  have adopted : step collecting
      { initial collecting [staleRecord] with started := true, begun := true, starting := [.loading] }
      (.load 0 (some 0) 6) = some
        { initial collecting [staleRecord] with live := { state := [0], expected := 2 }, started := true, begun := true,
                                                starting := [.catchingUp 1] } := by decide
  have caughtUp : step collecting
      { initial collecting [staleRecord] with live := { state := [0], expected := 2 }, started := true, begun := true,
                                              starting := [.catchingUp 1] }
      (.caughtUp 0 (some []) fun _ => false) = some
        { subscribed [staleRecord] with live := { state := [0], expected := 2 } } := by decide
  refine ⟨List.mem_cons_self, _, .next (.next (.next .start ?_ started) ?_ adopted) ?_ caughtUp,
    rfl, rfl, by decide⟩
  · exact ⟨trivial, fun _ => rfl⟩
  · exact ⟨trivial, fun same => by cases same⟩
  · refine ⟨?_, fun same => by cases same⟩
    intro after _
    exact ⟨0, rfl⟩

/-- Resuming from a record that is a fold of the log, with all that comes after it, gives
the fold of the whole log. -/
theorem resumed_whole (numbered : Numbered Envelope.sequence 0 log) (distinct : (log.map Envelope.eventId).Nodup)
    {record : CheckpointRecord State} (isRecord : RecordOf config log record) {final : State}
    (whole : foldEvents config config.initialState log = some final) (due : Int → Bool) (live : Live State) :
    ∃ after, foldChecked (applyEnvelopeDirect config due) (adopt live record.state record.sequence)
        (log.drop (record.sequence + 1).toNat) = .ok after ∧
      after.state = final ∧ after.expected = log.length := by
  have low := isRecord.low
  have high := isRecord.high
  have suffix := numbered.drop (record.sequence + 1).toNat (by omega)
  rw [show (0 : Int) + ((record.sequence + 1).toNat : Int) = record.sequence + 1 by omega] at suffix
  have distinctSuffix : ((log.drop (record.sequence + 1).toNat).map Envelope.eventId).Nodup :=
    distinct.sublist ((List.drop_sublist _ _).map Envelope.eventId)
  have folds : foldEvents config record.state (log.drop (record.sequence + 1).toNat) = some final := by
    rw [← List.take_append_drop (record.sequence + 1).toNat log, foldEvents_append] at whole
    have before : foldEvents config config.initialState (log.take (record.sequence + 1).toNat) = some record.state :=
      isRecord.state
    rw [before] at whole
    exact whole
  obtain ⟨after, done, state, count⟩ := @applyAll_complete _ _ config due _
    (adopt live record.state record.sequence) final suffix distinctSuffix (by simp [adopt]) folds
  refine ⟨after, done, state, ?_⟩
  rw [count, List.length_drop]
  simp only [adopt]
  omega

/-- Only the end of a checkpoint saves a record. -/
theorem saved (taken : step config projection action = some following) :
    following.records = projection.records ∨
      ∃ index now state, action = .hashed index now ∧ projection.live.captured[index]? = some state ∧
        following.records = projection.records ++
          [{ sequence := projection.live.appliedSequence, savedAt := now, state,
             contentHash := config.contentHash state }] := by
  cases action with
  | hashed index now =>
      obtain ⟨state, found, rfl⟩ := Option.map_eq_some_iff.mp taken
      exact .inr ⟨index, now, state, rfl, found, rfl⟩
  | start =>
      simp only [step] at taken
      split at taken <;> cases taken <;> exact .inl rfl
  | load index place now =>
      simp only [step] at taken
      split at taken
      · split at taken
        · cases taken
          exact .inl rfl
        · split at taken <;> cases taken <;> exact .inl rfl
      · cases taken
  | caughtUp index answer due =>
      simp only [step] at taken
      split at taken
      · split at taken
        · cases taken
          exact .inl rfl
        · split at taken <;> cases taken <;> exact .inl rfl
      · cases taken
  | hydrated index answer =>
      simp only [step] at taken
      split at taken
      · split at taken <;> cases taken <;> exact .inl rfl
      · cases taken
  | stop =>
      simp only [step] at taken
      split at taken <;> cases taken <;> exact .inl rfl
  | deliver envelope =>
      simp only [step] at taken
      split at taken <;> cases taken
      exact .inl rfl
  | handle due =>
      simp only [step] at taken
      split at taken
      · cases taken
        rw [handle]
        split
        · exact .inl rfl
        · exact .inl rfl
        · split <;> exact .inl rfl
      · cases taken
  | replayed plan due =>
      simp only [step] at taken
      split at taken
      · split at taken
        · cases taken
          exact .inl rfl
        · cases taken
          exact .inl rfl
        · split at taken <;> cases taken <;> exact .inl rfl
      · cases taken
  | resynced answer =>
      simp only [step] at taken
      split at taken
      · split at taken <;> cases taken <;> exact .inl rfl
      · cases taken
  | checkpoint =>
      cases taken
      exact .inl rfl
  | hashFailed index =>
      cases taken
      exact .inl rfl

/-- Where no state has moved while its checkpoint was hashed, every record that was saved is
the fold of the log through its sequence, and resumes to the fold of the whole log. -/
theorem records_fold (numbered : Numbered Envelope.sequence 0 log) (distinct : (log.map Envelope.eventId).Nodup)
    {stored : List (CheckpointRecord State)} (known : ∀ record ∈ stored, RecordOf config log record)
    (reached : Reaches (step config) (fun projection action => Truthful config log projection action ∧
      Serialized projection action ∧ Unmoved projection action) (initial config stored) projection) :
    ∀ record ∈ projection.records, folded config log record.sequence = some record.state ∧
      ∀ final, foldEvents config config.initialState log = some final → ∀ due live,
        ∃ after, foldChecked (applyEnvelopeDirect config due) (adopt live record.state record.sequence)
            (log.drop (record.sequence + 1).toNat) = .ok after ∧
          after.state = final ∧ after.expected = log.length := by
  have both : Sound config log projection ∧ ∀ record ∈ projection.records, RecordOf config log record := by
    apply reached.invariant
    · exact ⟨sound_initial stored, known⟩
    · rintro projection action following ⟨sound, records⟩ ⟨truthful, serialized, unmoved⟩ taken
      have adopts : Adopts config log projection action := by
        cases action with
        | load index place now =>
            cases place with
            | none => trivial
            | some place =>
                intro record found _
                exact records record (List.mem_of_getElem? found)
        | _ => trivial
      refine ⟨sound.next numbered truthful adopts serialized taken, ?_⟩
      rcases saved taken with same | ⟨index, now, state, rfl, found, same⟩
      · rw [same]
        exact records
      · -- the captured state is the one at the sequence that is read now
        intro record member
        rw [same] at member
        rcases List.mem_append.mp member with old | new
        · exact records record old
        · rw [List.mem_singleton.mp new]
          have state := unmoved index now rfl state found
          have faithful := sound.faithful
          rw [Faithful, state] at faithful
          exact faithful
  intro record member
  refine ⟨(both.2 record member).state, ?_⟩
  intro final whole due live
  exact resumed_whole numbered distinct (both.2 record member) whole due live

def checkpointed : Projection (List Nat) Nat :=
  { subscribed [⟨0, 5, [0], toString [0]⟩] with live := { state := [0], expected := 1, seen := ["e0"] } }

theorem checkpointed_resumes : ∃ after,
    foldChecked (applyEnvelopeDirect collecting fun _ => false) (adopt { state := [] } [0] 0) [event 1, event 2] =
      .ok after ∧ after.state = [0, 1, 2] ∧ after.expected = 3 := by
  have hashed : step collecting collected (.hashed 0 5) = some checkpointed := by decide
  have reached : Reaches (step collecting) (fun projection action => Truthful collecting history projection action ∧
      Serialized projection action ∧ Unmoved projection action) (initial collecting []) collected :=
    collected_reached.weaken fun _ _ good => ⟨good.1, good.2.2.2.1, good.2.2.2.2⟩
  refine (records_fold history_numbered (by decide) (by simp) (.next reached ?_ hashed)
      ⟨0, 5, [0], toString [0]⟩
    List.mem_cons_self).2 [0, 1, 2] (by decide) _ _
  refine ⟨trivial, fun writes => (by cases writes), ?_⟩
  intro index now same state found
  cases same
  cases found
  rfl

/-- The state is captured before the second event and the sequence read after it. -/
theorem stale_record_saved :
    Reaches (step collecting) (fun projection action => Truthful collecting history projection action ∧
      Once projection action ∧ Serialized projection action) (initial collecting []) staleSaved ∧
    ∃ record ∈ staleSaved.records, folded collecting history record.sequence ≠ some record.state :=
  ⟨staleSaved_reached, staleRecord, List.mem_cons_self, by decide⟩

end AutonomousApi.ProjectionRuns
