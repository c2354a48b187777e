import Mathlib.Data.List.Basic

/-! Loops that stop at their first error. `checkAll` runs a check over a list,
`gather` collects the results of the items that produce one, `foldChecked` threads
a state. Each law turns success of the loop into a statement about its items. -/

namespace AutonomousApi.FailFast

variable {Item Result State Fault : Type}

def checkAll (check : Item → Except Fault Unit) : List Item → Except Fault Unit
  | [] => .ok ()
  | item :: rest =>
      match check item with
      | .error fault => .error fault
      | .ok _ => checkAll check rest

def gather (produce : Item → Except Fault (Option Result)) : List Item → Except Fault (List Result)
  | [] => .ok []
  | item :: rest =>
      match produce item with
      | .error fault => .error fault
      | .ok found =>
          match gather produce rest with
          | .error fault => .error fault
          | .ok results => .ok (found.toList ++ results)

def foldChecked (step : State → Item → Except Fault State) (state : State) :
    List Item → Except Fault State
  | [] => .ok state
  | item :: rest =>
      match step state item with
      | .error fault => .error fault
      | .ok next => foldChecked step next rest

def require (holds : Bool) (fault : Fault) : Except Fault Unit :=
  if holds then .ok () else .error fault

@[simp] theorem require_ok_iff (holds : Bool) (fault : Fault) :
    require holds fault = .ok () ↔ holds = true := by
  cases holds <;> simp [require]

variable {Value : Type} {items : List Item} {read : Item → Option Value}

/-- A sequence of steps succeeds only through the success of each. -/
theorem bind_ok {Next : Type} {first : Except Fault Value} {continue_ : Value → Except Fault Next} {next : Next}
    (success : (first >>= continue_) = .ok next) :
    ∃ value, first = .ok value ∧ continue_ value = .ok next := by
  cases first with
  | error fault => cases success
  | ok value => exact ⟨value, rfl, success⟩

theorem checkAll_cons (check : Item → Except Fault Unit) (item : Item) (rest : List Item) :
    checkAll check (item :: rest) = (check item >>= fun _ => checkAll check rest) := by
  rw [checkAll]
  cases check item <;> rfl

theorem checkAll_ok_iff (check : Item → Except Fault Unit) (items : List Item) :
    checkAll check items = .ok () ↔ ∀ item ∈ items, check item = .ok () := by
  induction items with
  | nil => simp [checkAll]
  | cons item rest ih =>
      cases outcome : check item with
      | error fault => simp [checkAll, outcome]
      | ok _ => simpa [checkAll, outcome] using ih

variable {produce : Item → Except Fault (Option Result)} {values : List Value}

theorem gather_ok {results : List Result} (success : gather produce items = .ok results) :
    (∀ item ∈ items, ∃ found, produce item = .ok found) ∧
      results = items.filterMap fun item => (produce item).toOption.join := by
  induction items generalizing results with
  | nil =>
      cases success
      simp
  | cons item rest ih =>
      cases outcome : produce item with
      | error fault => simp [gather, outcome] at success
      | ok found =>
          cases tail : gather produce rest with
          | error fault => simp [gather, outcome, tail] at success
          | ok later =>
              simp only [gather, outcome, tail, Except.ok.injEq] at success
              obtain ⟨all, exact⟩ := ih tail
              subst success
              constructor
              · intro other member
                rcases List.mem_cons.mp member with rfl | inside
                · exact ⟨found, outcome⟩
                · exact all other inside
              · cases found <;> simp [outcome, exact, Except.toOption]

/-- A map that may fail succeeds through every item. -/
theorem mapM_eq_some_iff :
    items.mapM read = some values ↔ List.Forall₂ (fun item value => read item = some value) items values := by
  induction items generalizing values with
  | nil =>
      constructor
      · intro done
        cases done
        exact .nil
      · intro related
        cases related
        rfl
  | cons item rest ih =>
      rw [List.mapM_cons, Option.bind_eq_bind, Option.bind_eq_some_iff]
      constructor
      · rintro ⟨value, known, tail⟩
        rw [Option.bind_eq_bind, Option.bind_eq_some_iff] at tail
        obtain ⟨later, done, same⟩ := tail
        obtain rfl := Option.some.inj same
        exact .cons known (ih.mp done)
      · intro related
        cases related with
        | cons known later => exact ⟨_, known, by rw [ih.mpr later]; rfl⟩

theorem mapM_isSome (each : ∀ item ∈ items, (read item).isSome) : (items.mapM read).isSome := by
  induction items with
  | nil => rfl
  | cons item rest ih =>
      obtain ⟨value, known⟩ := Option.isSome_iff_exists.mp (each item List.mem_cons_self)
      obtain ⟨values, later⟩ :=
          Option.isSome_iff_exists.mp (ih fun other member => each other (List.mem_cons_of_mem item member))
      simp [List.mapM_cons, known, later]

theorem mem_of_mapM (done : items.mapM read = some values) {value : Value} :
    value ∈ values ↔ ∃ item ∈ items, read item = some value := by
  have related := mapM_eq_some_iff.mp done
  clear done
  induction related with
  | nil => simp
  | @cons item first rest later known _ ih =>
      rw [List.mem_cons, List.exists_mem_cons_iff, known, Option.some.injEq]
      exact or_congr eq_comm ih

theorem gather_congr {other : Item → Except Fault (Option Result)}
    (same : ∀ item ∈ items, produce item = other item) : gather produce items = gather other items := by
  induction items with
  | nil => rfl
  | cons item rest ih =>
      rw [gather, gather, same item (by simp), ih fun inner member => same inner (by simp [member])]

/-- A successful run establishes any invariant that holds at the start and that
every successful step keeps. -/
theorem foldChecked_invariant {step : State → Item → Except Fault State}
    {start final : State} (success : foldChecked step start items = .ok final)
    (invariant : List Item → State → Prop) (initial : invariant [] start)
    (preserved : ∀ seen item rest state next, items = seen ++ item :: rest → invariant seen state →
      step state item = .ok next → invariant (seen ++ [item]) next) :
    invariant items final := by
  have general (later seen : List Item) (state : State) (split : items = seen ++ later)
      (holds : invariant seen state) (run : foldChecked step state later = .ok final) :
      invariant (seen ++ later) final := by
    induction later generalizing seen state with
    | nil =>
        cases run
        simpa using holds
    | cons item rest ih =>
        cases outcome : step state item with
        | error fault => simp [foldChecked, outcome] at run
        | ok next =>
            simp only [foldChecked, outcome] at run
            have kept := preserved seen item rest state next split holds outcome
            simpa using ih (seen ++ [item]) next (by simpa using split) kept run
  simpa using general items [] start rfl initial success

end AutonomousApi.FailFast
