import Mathlib.Data.List.Induction

/-! Systems that take one action after another. A step may be impossible; the actions of
all parties, and whatever their environment chooses, are one type, so a run is any
interleaving. Conditions on runs are conditions on the state before each step. -/

namespace AutonomousApi.Runs

variable {State Action : Type} {step : State → Action → Option State} {allowed other : State → Action → Prop}
  {start state : State}

/-- The states reached from a start by steps that all meet a condition. -/
inductive Reaches (step : State → Action → Option State) (allowed : State → Action → Prop) (start : State) :
    State → Prop where
  | start : Reaches step allowed start start
  | next {state following : State} {action : Action} (reached : Reaches step allowed start state)
      (permitted : allowed state action) (taken : step state action = some following) :
      Reaches step allowed start following

/-- What holds at the start and is kept by every permitted step holds wherever a run
gets to. -/
theorem Reaches.invariant {holds : State → Prop} (initial : holds start)
    (kept : ∀ {state action following}, holds state → allowed state action → step state action = some following →
      holds following)
    (reached : Reaches step allowed start state) : holds state := by
  induction reached with
  | start => exact initial
  | next _ permitted taken ih => exact kept ih permitted taken

theorem Reaches.weaken (weaker : ∀ state action, allowed state action → other state action)
    (reached : Reaches step allowed start state) : Reaches step other start state := by
  induction reached with
  | start => exact .start
  | next _ permitted taken ih => exact .next ih (weaker _ _ permitted) taken

/-- What holds of every item of a list after the items before it, one item at a time. -/
theorem forall_split_concat {Item : Type} {holds : List Item → Item → Prop} {items : List Item} {last : Item} :
    (∀ earlier item later, items ++ [last] = earlier ++ item :: later → holds earlier item) ↔
      (∀ earlier item later, items = earlier ++ item :: later → holds earlier item) ∧ holds items last := by
  constructor
  · intro all
    refine ⟨fun earlier item later split => ?_, all items last [] rfl⟩
    exact all earlier item (later ++ [last]) (by simp [split])
  · rintro ⟨earlierOnes, final⟩ earlier item later split
    -- the item is the last one or stands among the others
    rcases List.eq_nil_or_concat later with rfl | ⟨middle, other, rfl⟩
    · obtain ⟨rfl, rfl⟩ : items = earlier ∧ last = item := by simpa using split
      exact final
    · have parts : items ++ [last] = (earlier ++ item :: middle) ++ [other] := by simpa using split
      exact earlierOnes earlier item middle (List.append_inj' parts rfl).1

/-- Where steps never fail: what a step does well exactly under a condition, along a list of actions. -/
theorem foldl_along_iff {apply : State → Action → State} {sound : State → Prop} {good : State → Action → Prop}
    (initial : sound start) (enough : ∀ {state action}, sound state → allowed state action → good state action)
    (kept : ∀ {state action}, sound state → allowed state action → sound (apply state action))
    (exact : ∀ {state action}, sound state → good state action → allowed state action) (actions : List Action) :
    (∀ earlier action later, actions = earlier ++ action :: later → good (earlier.foldl apply start) action) ↔
      ∀ earlier action later, actions = earlier ++ action :: later → allowed (earlier.foldl apply start) action := by
  have reached {before : List Action}
      (permitted : ∀ earlier action later, before = earlier ++ action :: later →
        allowed (earlier.foldl apply start) action) : sound (before.foldl apply start) := by
    induction before using List.reverseRecOn with
    | nil => exact initial
    | append_singleton before last ih =>
        obtain ⟨early, final⟩ := forall_split_concat.mp permitted
        rw [List.foldl_append]
        exact kept (ih early) final
  induction actions using List.reverseRecOn with
  | nil => simp
  | append_singleton before last ih =>
      have splitGood :=
        @forall_split_concat _ (fun earlier action => good (earlier.foldl apply start) action) before last
      have splitAllowed :=
        @forall_split_concat _ (fun earlier action => allowed (earlier.foldl apply start) action) before last
      refine (splitGood.trans (and_congr_left' ih)).trans (Iff.trans ?_ splitAllowed.symm)
      apply and_congr_right
      intro permitted
      exact ⟨exact (reached permitted), enough (reached permitted)⟩

/-- A run as a list of actions, for runs that are written out. -/
def run (step : State → Action → Option State) (state : State) : List Action → Option State
  | [] => some state
  | action :: rest => (step state action).bind fun following => run step following rest

variable {actions : List Action}

theorem reaches_of_run {final : State} (reached : Reaches step (fun _ _ => True) start state)
    (finished : run step state actions = some final) : Reaches step (fun _ _ => True) start final := by
  induction actions generalizing state with
  | nil =>
      cases finished
      exact reached
  | cons action rest ih =>
      obtain ⟨following, taken, later⟩ := Option.bind_eq_some_iff.mp finished
      exact ih (.next reached trivial taken) later

theorem run_append (state : State) (before after : List Action) :
    run step state (before ++ after) = (run step state before).bind fun middle => run step middle after := by
  induction before generalizing state with
  | nil => rfl
  | cons action rest ih =>
      rw [List.cons_append, run, run, Option.bind_assoc]
      congr 1
      funext following
      exact ih following

theorem run_invariant {sound : State → Prop} (initial : sound start)
    (kept : ∀ {state action following}, sound state → step state action = some following → sound following)
    (finished : run step start actions = some state) : sound state := by
  induction actions generalizing start with
  | nil =>
      cases finished
      exact initial
  | cons action rest ih =>
      obtain ⟨following, taken, later⟩ := Option.bind_eq_some_iff.mp finished
      exact ih (kept initial taken) later

variable {before after : List Action} {middle : State}

/-- The state behind one more action of a run. -/
theorem run_onward {action : Action}
    (finished : run step start actions = some state) (split : actions = before ++ action :: after)
    (reached : run step start before = some middle) :
    ∃ following, step middle action = some following ∧ run step start (before ++ [action]) = some following := by
  rw [split, run_append, reached, Option.bind_some, run] at finished
  obtain ⟨following, taken, -⟩ := Option.bind_eq_some_iff.mp finished
  exact ⟨following, taken, by rw [run_append, reached, Option.bind_some, run, taken]; rfl⟩

/-- What permitted steps keep holds at every prefix up to which all steps were permitted. -/
theorem strong_along {strong : State → Prop} (initial : strong start)
    (kept : ∀ {before action after middle following}, actions = before ++ action :: after →
      run step start before = some middle → strong middle → step middle action = some following → strong following)
    (finished : run step start actions = some state)
    (split : actions = before ++ after) (reached : run step start before = some middle) : strong middle := by
  induction before using List.reverseRecOn generalizing after middle with
  | nil =>
      cases reached
      exact initial
  | append_singleton before action ih =>
      have split : actions = before ++ action :: after := by simpa using split
      rw [run_append] at reached
      obtain ⟨previous, first, last⟩ := Option.bind_eq_some_iff.mp reached
      obtain ⟨following, taken, further⟩ := run_onward finished split first
      rw [run, taken] at last
      cases last
      exact kept split first (ih split first) taken

/-- A property that follows from what permitted steps keep, and that no other step leaves standing, holds
all along a run exactly when every step of the run is permitted. -/
theorem along_iff {strong holds : State → Prop} (initial : strong start)
    (kept : ∀ {state action following}, strong state → allowed state action → step state action = some following →
      strong following)
    (enough : ∀ {state}, strong state → holds state)
    (exact : ∀ {state action following}, strong state → step state action = some following → holds following →
      allowed state action)
    {actions : List Action} (finished : run step start actions = some state) :
    (∀ before after middle, actions = before ++ after → run step start before = some middle → holds middle) ↔
      ∀ before action after middle, actions = before ++ action :: after → run step start before = some middle →
        allowed middle action := by
  constructor
  · intro all
    -- a step whose end still has the property was permitted
    have permitted {before action after middle following} (split : actions = before ++ action :: after)
        (reached : run step start before = some middle) (sound : strong middle)
        (taken : step middle action = some following) : allowed middle action := by
      refine exact sound taken (all (before ++ [action]) after following (by simp [split]) ?_)
      rw [run_append, reached, Option.bind_some, run, taken]
      rfl
    intro before action after middle split reached
    obtain ⟨following, taken, -⟩ := run_onward finished split reached
    refine permitted split reached ?_ taken
    exact strong_along initial (fun split reached sound taken => kept sound (permitted split reached sound taken) taken)
      finished split reached
  · intro permitted before after middle split reached
    exact enough (strong_along initial
        (fun split reached sound taken => kept sound (permitted _ _ _ _ split reached) taken)
      finished split reached)

/-- A property that a step keeps exactly under a condition holds all along a run exactly when every
step of the run meets the condition. -/
theorem holds_along_iff {sound holds : State → Prop} (soundStart : sound start) (initial : holds start)
    (kept : ∀ {state action following}, sound state → step state action = some following → sound following)
    (exact : ∀ {state action following}, sound state → holds state → step state action = some following →
      (holds following ↔ allowed state action))
    {actions : List Action} (finished : run step start actions = some state) :
    (∀ before after middle, actions = before ++ after → run step start before = some middle → holds middle) ↔
      ∀ before action after middle, actions = before ++ action :: after → run step start before = some middle →
        allowed middle action := by
  refine @along_iff _ _ step allowed start state (fun state => sound state ∧ holds state) holds ⟨soundStart, initial⟩
    ?_ And.right ?_ actions finished
  · rintro state action following ⟨standing, here⟩ permitted taken
    exact ⟨kept standing taken, (exact standing here taken).mpr permitted⟩
  · rintro state action following ⟨standing, here⟩ taken there
    exact (exact standing here taken).mp there

end AutonomousApi.Runs
