import Mathlib.Data.List.Induction
import Mathlib.Order.Lattice

/-! Folds over a log in which one slot of the state is only ever overwritten: after the fold the slot
holds what the last event that writes it has written, or what it held before. -/

namespace AutonomousApi.LastWrite

variable {Event State Value : Type}

def lastWrite (writes : Event → Option Value) (events : List Event) : Option Value := (events.filterMap writes).getLast?

theorem lastWrite_append (writes : Event → Option Value) (events more : List Event) :
    lastWrite writes (events ++ more) = (lastWrite writes more).or (lastWrite writes events) := by
  simp only [lastWrite, List.filterMap_append, List.getLast?_append]

theorem lastWrite_eq_none {writes : Event → Option Value} {events : List Event}
    (silent : ∀ event ∈ events, writes event = none) : lastWrite writes events = none := by
  rw [lastWrite, List.filterMap_eq_nil_iff.mpr silent, List.getLast?_nil]

/-- Only the events that write the slot count. -/
theorem foldl_entry {slot : State → Option Value} {writes : Event → Option Value} {apply : State → Event → State}
    (step : ∀ state event, slot (apply state event) = (writes event).or (slot state)) (events : List Event)
    (state : State) : slot (events.foldl apply state) = (lastWrite writes events).or (slot state) := by
  induction events generalizing state with
  | nil => rfl
  | cons event rest ih =>
      have first : lastWrite writes [event] = writes event := by cases found : writes event <;> simp [lastWrite, found]
      rw [List.foldl_cons, ih, step, ← List.singleton_append, lastWrite_append, first, Option.or_assoc]

/-- A slot that always holds something. -/
theorem foldl_slot {slot : State → Value} {writes : Event → Option Value} {apply : State → Event → State}
    (step : ∀ state event, slot (apply state event) = (writes event).getD (slot state)) (events : List Event)
    (state : State) : slot (events.foldl apply state) = (lastWrite writes events).getD (slot state) := by
  have held : some (slot (events.foldl apply state)) = (lastWrite writes events).or (some (slot state)) := by
    refine @foldl_entry _ _ _ (fun state => some (slot state)) writes apply (fun state event => ?_) events state
    rw [step]
    cases writes event <;> rfl
  cases written : lastWrite writes events <;> simpa [written] using held

/-- In a log in strict order of time, the last write is the one of the latest event that writes. -/
theorem lastWrite_eq_some_iff {Time : Type} [LinearOrder Time] {time : Event → Time} {writes : Event → Option Value}
    {events : List Event} {value : Value} (ordered : events.Pairwise fun earlier later => time earlier < time later) :
    lastWrite writes events = some value ↔ ∃ event ∈ events, writes event = some value ∧
      ∀ other ∈ events, (writes other).isSome = true → time other ≤ time event := by
  induction events using List.reverseRecOn with
  | nil =>
      constructor
      · intro written
        cases written
      · rintro ⟨event, member, _⟩
        cases member
  | append_singleton before last ih =>
      have newly : last ∈ [last] := List.mem_singleton_self last
      have inside : last ∈ before ++ [last] := List.mem_append_right before newly
      obtain ⟨sorted, -, above⟩ := List.pairwise_append.mp ordered
      rw [lastWrite_append]
      cases written : writes last with
      | some newest =>
          have here : lastWrite writes [last] = some newest := by
            rw [lastWrite, List.filterMap_cons, written]
            rfl
          rw [here, Option.some_or, Option.some.injEq]
          constructor
          · rintro rfl
            refine ⟨last, inside, written, fun other member _ => ?_⟩
            rcases List.mem_append.mp member with early | same
            · exact (above other early last newly).le
            · rw [List.mem_singleton.mp same]
          · rintro ⟨event, member, wrote, latest⟩
            rcases List.mem_append.mp member with early | same
            · have behind := latest last inside (by rw [written]; rfl)
              exact absurd (above event early last newly) (not_lt.mpr behind)
            · rw [List.mem_singleton.mp same, written] at wrote
              exact Option.some.inj wrote
      | none =>
          have here : lastWrite writes [last] = none := by
            rw [lastWrite, List.filterMap_cons, written]
            rfl
          rw [here, Option.none_or, ih sorted]
          constructor
          · rintro ⟨event, member, wrote, latest⟩
            refine ⟨event, List.mem_append_left _ member, wrote, fun other inside writer => ?_⟩
            rcases List.mem_append.mp inside with early | same
            · exact latest other early writer
            · rw [List.mem_singleton.mp same, written] at writer
              cases writer
          · rintro ⟨event, member, wrote, latest⟩
            rcases List.mem_append.mp member with early | same
            · exact ⟨event, early, wrote, fun other inside => latest other (List.mem_append_left _ inside)⟩
            · rw [List.mem_singleton.mp same, written] at wrote
              cases wrote

end AutonomousApi.LastWrite
