import AutonomousApi.ObservationStream

/-! The consistency points of the observation handlers. The store's `current` is the number
that was given out last, which is the highest persisted one only while no event is between
its two steps; and a replay starts where it was asked to only while the window still
reaches back so far. -/

namespace AutonomousApi.ObservationConsistency

open NumberedLog Runs ObservationStream

variable {Payload : Type} {window : Nat} {gateway following : Gateway Payload} {action : Action Payload}

/-- The events of a replay that was read when `seen` events were persisted: those after the
consistency point, up to the limit, and from where it was asked if there was any. -/
structure Replayed (history : List (Envelope Payload)) (after : Int) (limit : Nat) (sequence : Int)
    (events : List (Envelope Payload)) (seen : Nat) : Prop where
  low : -1 ≤ sequence
  covered : sequence < seen
  persisted : seen ≤ history.length
  run : events = ((history.take seen).drop (sequence + 1).toNat).take limit
  contiguous : Numbered Envelope.sequence (sequence + 1) events
  start : after + 1 < seen → sequence = after

/-- Everything up to the consistency point was persisted when the response was produced,
and a replay is the run of persisted events after it. -/
def Consistent (history : List (Envelope Payload)) : Response Payload → Prop
  | .snapshot sequence _ persisted => sequence < persisted ∧ persisted ≤ history.length
  | .state after limit sequence _ events seen persisted =>
      sequence < persisted ∧ persisted ≤ history.length ∧ seen ≤ persisted ∧
        Replayed history after limit sequence events seen
  | .streamNotFound | .replayExhausted _ => True

/-- `current` is read only while no event is between allocation and persistence. A replay
is read only while no event after `after` has left the window, and, when there is no such
event, while nothing was persisted after the `current` that the request had read. -/
def Quiet (window : Nat) (gateway : Gateway Payload) : Action Payload → Prop
  | .snapshot | .state _ _ => gateway.emitting = none
  | .replay index => ∀ after limit current, gateway.handlers[index]? = some (.current after limit current) →
      (gateway.history.length : Int) ≤ after + 1 + window ∧
        ((gateway.history.length : Int) ≤ after + 1 → (gateway.history.length : Int) ≤ current + 1)
  | _ => True

section

/-- What a handler has read so far. -/
def Waiting (history : List (Envelope Payload)) : Handler Payload → Prop
  | .snapshot current => current < history.length
  | .current after limit current => -1 ≤ after ∧ 1 ≤ limit ∧ -1 ≤ current ∧ current < history.length
  | .replayed after limit current events seen => Replayed history after limit (consistentTo current events) events seen

structure Sound (window : Nat) (gateway : Gateway Payload) : Prop where
  numbered : Numbered Envelope.sequence 0 gateway.history
  log : gateway.store.log = keepLast window gateway.history
  allocated : gateway.store.counter = gateway.history.length - 1 + gateway.emitting.toList.length
  emitting : ∀ envelope, gateway.emitting = some envelope → envelope.sequence = gateway.history.length
  handlers : ∀ handler ∈ gateway.handlers, Waiting gateway.history handler
  responses : ∀ response ∈ gateway.responses, Consistent gateway.history response

variable {history : List (Envelope Payload)}

theorem Replayed.append {after sequence : Int} {limit seen : Nat}
    {events : List (Envelope Payload)} (replayed : Replayed history after limit sequence events seen)
    (envelope : Envelope Payload) : Replayed (history ++ [envelope]) after limit sequence events seen where
  low := replayed.low
  covered := replayed.covered
  persisted := by
    rw [List.length_append]
    exact Nat.le_add_right_of_le replayed.persisted
  run := by
    rw [List.take_append_of_le_length replayed.persisted]
    exact replayed.run
  contiguous := replayed.contiguous
  start := replayed.start

theorem Waiting.append {handler : Handler Payload}
    (waiting : Waiting history handler) (envelope : Envelope Payload) : Waiting (history ++ [envelope]) handler := by
  have longer : (history ++ [envelope]).length = history.length + 1 := by simp
  cases handler with
  | snapshot current =>
      simp only [Waiting] at waiting ⊢
      omega
  | current after limit current =>
      simp only [Waiting] at waiting ⊢
      omega
  | replayed after limit current events seen => exact Replayed.append waiting envelope

theorem Consistent.append {response : Response Payload}
    (consistent : Consistent history response) (envelope : Envelope Payload) :
    Consistent (history ++ [envelope]) response := by
  have longer : (history ++ [envelope]).length = history.length + 1 := by simp
  cases response with
  | snapshot sequence lastEvent persisted => exact ⟨consistent.1, by have bound := consistent.2; omega⟩
  | state after limit sequence lastEvent events seen persisted =>
      obtain ⟨covered, bound, order, replayed⟩ := consistent
      exact ⟨covered, by omega, order, replayed.append envelope⟩
  | streamNotFound => trivial
  | replayExhausted resyncFrom => trivial

/-- What the replay of /state reads from a window that reaches back far enough. -/
theorem Sound.replay (sound : Sound window gateway) {after current : Int} {limit : Nat}
    (waiting : Waiting gateway.history (.current after limit current))
    (kept : (gateway.history.length : Int) ≤ after + 1 + window)
    (still : (gateway.history.length : Int) ≤ after + 1 → (gateway.history.length : Int) ≤ current + 1) :
    Replayed gateway.history after limit (consistentTo current (gateway.store.replay after limit))
      (gateway.store.replay after limit) gateway.history.length := by
  obtain ⟨low, positive, nonneg, covered⟩ := waiting
  have read : gateway.store.replay after limit = (gateway.history.drop (after + 1).toNat).take limit := by
    rw [Store.replay, sound.log, sound.numbered.window_after kept]
  by_cases beyond : (gateway.history.length : Int) ≤ after + 1
  · -- nothing to replay, and nothing was persisted since `current` was read
    have empty : gateway.store.replay after limit = [] := by
      rw [read, List.drop_of_length_le (by omega), List.take_nil]
    have upTo := still beyond
    rw [empty, consistentTo]
    refine ⟨nonneg, covered, Nat.le_refl _, ?_, trivial, by omega⟩
    rw [List.take_length, List.drop_of_length_le (by omega), List.take_nil]
  · have numbered := sound.numbered.drop (after + 1).toNat (by omega)
    rw [show (0 : Int) + ((after + 1).toNat : Int) = after + 1 by omega] at numbered
    cases suffix : gateway.history.drop (after + 1).toNat with
    | nil =>
        have length := congrArg List.length suffix
        rw [List.length_drop, List.length_nil] at length
        omega
    | cons first rest =>
        have head : consistentTo current (gateway.store.replay after limit) = after := by
          obtain ⟨less, rfl⟩ : ∃ less, limit = less + 1 := ⟨limit - 1, by omega⟩
          rw [read, suffix, List.take_succ_cons, consistentTo]
          rw [suffix] at numbered
          have isFirst := numbered.1
          omega
        rw [head]
        refine ⟨low, by omega, Nat.le_refl _, ?_, ?_, fun _ => rfl⟩
        · rw [List.take_length]
          exact read
        · rw [read]
          exact numbered.take limit

end

theorem Sound.next (sound : Sound window gateway) (quiet : Quiet window gateway action)
    (taken : step window gateway action = some following) : Sound window following := by
  have allocated := sound.allocated
  -- a step that leaves the store and the history alone
  have reading {handlers : List (Handler Payload)} {responses : List (Response Payload)}
      (waiting : ∀ handler ∈ handlers, Waiting gateway.history handler)
      (consistent : ∀ response ∈ responses, Consistent gateway.history response) :
      Sound window { gateway with handlers, responses } :=
    ⟨sound.numbered, sound.log, sound.allocated, sound.emitting, waiting, consistent⟩
  have answering {response : Response Payload} (consistent : Consistent gateway.history response) :
      ∀ other ∈ gateway.responses ++ [response], Consistent gateway.history other := by
    intro other member
    rcases List.mem_append.mp member with old | new
    · exact sound.responses other old
    · rw [List.mem_singleton.mp new]
      exact consistent
  have starting {handler : Handler Payload} (waiting : Waiting gateway.history handler) :
      ∀ other ∈ gateway.handlers ++ [handler], Waiting gateway.history other := by
    intro other member
    rcases List.mem_append.mp member with old | new
    · exact sound.handlers other old
    · rw [List.mem_singleton.mp new]
      exact waiting
  cases action with
  | next eventId eventType occurredAt payload =>
      simp only [step] at taken
      split at taken
      · cases taken
      · next idle =>
          cases taken
          rw [idle] at allocated
          simp only [Option.toList_none, List.length_nil] at allocated
          refine ⟨sound.numbered, sound.log, ?_, ?_, sound.handlers, sound.responses⟩
          · simp only [Store.next, Option.toList_some, List.length_singleton]
            omega
          · intro envelope emitted
            cases emitted
            simp only [Store.next]
            omega
  | persist =>
      obtain ⟨envelope, emitted, rfl⟩ := Option.map_eq_some_iff.mp taken
      have number := sound.emitting envelope emitted
      rw [emitted] at allocated
      refine ⟨?_, ?_, ?_, by simp, ?_, ?_⟩
      · rw [numbered_append]
        exact ⟨sound.numbered, by omega, trivial⟩
      · rw [Store.persist, sound.log]
        exact keepLast_append window gateway.history [envelope]
      · simp only [Option.toList_some, List.length_singleton] at allocated
        simp only [Store.persist, List.length_append, List.length_singleton, Option.toList_none, List.length_nil]
        omega
      · intro handler member
        exact (sound.handlers handler member).append envelope
      · intro response member
        exact (sound.responses response member).append envelope
  | snapshot =>
      have idle : gateway.emitting = none := quiet
      rw [idle] at allocated
      simp only [Option.toList_none, List.length_nil] at allocated
      simp only [step] at taken
      split at taken
      · cases taken
        exact reading sound.handlers (answering trivial)
      · cases taken
        refine reading (starting ?_) sound.responses
        simp only [Waiting]
        omega
  | state after limit =>
      have idle : gateway.emitting = none := quiet
      rw [idle] at allocated
      simp only [Option.toList_none, List.length_nil] at allocated
      simp only [step] at taken
      split at taken
      · cases taken
      · split at taken
        · cases taken
          exact reading sound.handlers (answering trivial)
        · split at taken
          · cases taken
            exact reading sound.handlers (answering trivial)
          · cases taken
            refine reading (starting ?_) sound.responses
            simp only [Waiting]
            omega
  | replay index =>
      simp only [step] at taken
      split at taken
      · next after limit current found =>
          cases taken
          obtain ⟨kept, still⟩ := quiet after limit current found
          have waiting := sound.handlers _ (List.mem_of_getElem? found)
          refine reading ?_ sound.responses
          intro handler member
          rcases List.mem_or_eq_of_mem_set member with old | new
          · exact sound.handlers handler old
          · rw [new]
            exact sound.replay waiting kept still
      · cases taken
  | respond index =>
      simp only [step] at taken
      split at taken
      · next current found =>
          cases taken
          have covered := sound.handlers _ (List.mem_of_getElem? found)
          refine reading (fun handler member => sound.handlers handler (List.mem_of_mem_eraseIdx member)) ?_
          exact answering ⟨covered, Nat.le_refl _⟩
      · next after limit current events seen found =>
          cases taken
          have replayed : Replayed gateway.history after limit (consistentTo current events) events seen :=
            sound.handlers _ (List.mem_of_getElem? found)
          refine reading (fun handler member => sound.handlers handler (List.mem_of_mem_eraseIdx member)) ?_
          refine answering ⟨?_, Nat.le_refl _, replayed.persisted, replayed⟩
          have covered := replayed.covered
          have persisted := replayed.persisted
          omega
      · cases taken

/-- In every run whose reads are quiet, the events are numbered as they were persisted and
every response is consistent. -/
theorem responses_consistent (reached : Reaches (step window) (Quiet window) {} gateway) :
    Numbered Envelope.sequence 0 gateway.history ∧
      ∀ response ∈ gateway.responses, Consistent gateway.history response := by
  have sound : Sound window gateway := by
    apply reached.invariant
    · exact ⟨trivial, by simp [keepLast], by simp, by simp, by simp, by simp⟩
    · intro gateway action following sound quiet taken
      exact sound.next quiet taken
  exact ⟨sound.numbered, sound.responses⟩

def emitted (sequence : Int) : Envelope Unit := ⟨sequence, "e", "type", "t", ()⟩

def emit : List (Action Unit) := [.next "e" "type" "t" (), .persist]

def oneEvent : Gateway Unit :=
  { store := { counter := 0, log := [emitted 0] }, history := [emitted 0] }

def recovered : Gateway Unit :=
  { oneEvent with responses := [.state (-1) 10 (-1) none [emitted 0] 1 1] }

theorem recovered_quiet : Reaches (step 10) (Quiet 10) {} recovered := by
  have allocated : step 10 {} (.next "e" "type" "t" ()) =
      some { store := { counter := 0 }, emitting := some (emitted 0) } := by decide
  have persisted : step 10 { store := { counter := 0 }, emitting := some (emitted 0) } .persist =
      some oneEvent := by decide
  have requested : step 10 oneEvent (.state (-1) 10) =
      some { oneEvent with handlers := [.current (-1) 10 0] } := by decide
  have replayed : step 10 { oneEvent with handlers := [.current (-1) 10 0] } (.replay 0) =
      some { oneEvent with handlers := [.replayed (-1) 10 0 [emitted 0] 1] } := by decide
  have responded : step 10 { oneEvent with handlers := [.replayed (-1) 10 0 [emitted 0] 1] } (.respond 0) =
      some recovered := by decide
  refine .next (.next (.next (.next (.next .start ?_ allocated) ?_ persisted) ?_ requested) ?_ replayed) ?_ responded
  · trivial
  · trivial
  · rfl
  · intro after limit current found
    cases found
    decide
  · trivial

theorem recovered_consistent :
    Consistent recovered.history (.state (-1) 10 (-1) none [emitted 0] 1 1) :=
  (responses_consistent recovered_quiet).2 _ List.mem_cons_self

/-- A snapshot taken between the two steps of an `emit` covers an event that is not
persisted, and a replay that was overtaken by the window does not start where it was asked
to. -/
theorem snapshot_covers_unpersisted :
    (∃ gateway : Gateway Unit, Reaches (step 10) (fun _ _ => True) {} gateway ∧
      .snapshot 0 none 0 ∈ gateway.responses ∧ ¬ Consistent gateway.history (.snapshot 0 none 0)) ∧
    ∃ gateway : Gateway Unit, Reaches (step 1) (fun _ _ => True) {} gateway ∧
      .state 0 1 1 none [emitted 2] 3 3 ∈ gateway.responses ∧
      ¬ Consistent gateway.history (.state 0 1 1 none [emitted 2] 3 3) := by
  constructor
  · have final : run (step 10) {} [.next "e" "type" "t" (), .snapshot, .respond 0] =
        some { store := { counter := 0 }, emitting := some (emitted 0), responses := [.snapshot 0 none 0] } := by
      decide
    refine ⟨_, reaches_of_run .start final, List.mem_cons_self, ?_⟩
    rintro ⟨covered, -⟩
    exact absurd covered (by decide)
  · have final : run (step 1) {} (emit ++ emit ++ [.state 0 1] ++ emit ++ [.replay 0, .respond 0]) =
        some { store := { counter := 2, log := [emitted 2] }, history := [emitted 0, emitted 1, emitted 2],
               responses := [.state 0 1 1 none [emitted 2] 3 3] } := by
      decide
    refine ⟨_, reaches_of_run .start final, List.mem_cons_self, ?_⟩
    rintro ⟨-, -, -, replayed⟩
    exact absurd (replayed.start (by decide)) (by decide)

end AutonomousApi.ObservationConsistency
