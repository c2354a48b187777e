import AutonomousApi.LastWrite
import AutonomousApi.OrderedMap
import AutonomousApi.Runs
import Mathlib.Data.List.Sort

/-! The work-scope lifecycle of the observatory (autonomous-api/app/observation):
`validate_work_scope_lifecycle` reads a stream once, in sequence order, and keeps the latest decision
and the latest status of every mutation; `project_work_scope_lifecycle` collects the payloads in the
order they come. The validator accepts exactly the streams whose sequence numbers put a mutation's
authorization, execution and verification in order. -/

namespace AutonomousApi.WorkScope

open FailFast LastWrite OrderedMap

structure WorkScopeDeclared where
  projectIntent : String
  projectKind : String
  generationScope : String
  allowedSurfaces : List String
  preservedSurfaces : List String
  deriving DecidableEq

/-- The surface, operation and target of a mutation. -/
abbrev MutationKey := String × String × String

inductive AuthorizationDecision where
  | authorized | blocked
  deriving DecidableEq

inductive ExecutionStatus where
  | executed | failed | aborted
  deriving DecidableEq

inductive VerificationStatus where
  | verified | failed
  deriving DecidableEq

inductive Admission where
  | pending | admitted | rejected
  deriving DecidableEq

structure MutationAuthorizationObserved where
  surface : String
  operation : String
  target : String
  decision : AuthorizationDecision
  reason : Option String := none
  deriving DecidableEq

structure MutationExecutionObserved where
  surface : String
  operation : String
  target : String
  status : ExecutionStatus
  reason : Option String := none
  evidenceDigest : Option String := none
  deriving DecidableEq

structure MutationVerificationObserved where
  surface : String
  operation : String
  target : String
  status : VerificationStatus
  evidenceDigest : String
  reason : Option String := none
  admission : Admission := .pending
  deriving DecidableEq

def MutationAuthorizationObserved.key (observed : MutationAuthorizationObserved) : MutationKey :=
  (observed.surface, observed.operation, observed.target)

def MutationExecutionObserved.key (observed : MutationExecutionObserved) : MutationKey :=
  (observed.surface, observed.operation, observed.target)

def MutationVerificationObserved.key (observed : MutationVerificationObserved) : MutationKey :=
  (observed.surface, observed.operation, observed.target)

/-- The payload under its event type. -/
inductive Payload where
  | scopeDeclared (scope : WorkScopeDeclared)
  | authorization (observed : MutationAuthorizationObserved)
  | execution (observed : MutationExecutionObserved)
  | verification (observed : MutationVerificationObserved)
  | other (eventType : String)
  deriving DecidableEq

structure WorkEvent where
  sequence : Int
  payload : Payload
  deriving DecidableEq

structure LifecycleIssue where
  code : String
  detail : String
  deriving DecidableEq

structure LifecycleValidation where
  valid : Bool
  issues : List LifecycleIssue
  deriving DecidableEq

/-- The local variables of the loop. -/
structure Progress where
  scopeSeen : Bool := false
  authorized : Dict MutationKey AuthorizationDecision := []
  executed : Dict MutationKey ExecutionStatus := []
  issues : List LifecycleIssue := []
  deriving DecidableEq

def Progress.report (progress : Progress) (code detail : String) : Progress :=
  { progress with issues := progress.issues ++ [⟨code, detail⟩] }

def keyText (key : MutationKey) : String := key.1 ++ ":" ++ key.2.1 ++ ":" ++ key.2.2

/-- One turn of the loop. -/
def observe (progress : Progress) (event : WorkEvent) : Progress :=
  match event.payload with
  | .scopeDeclared _ =>
      if progress.scopeSeen then progress.report "MULTIPLE_SCOPE_DECLARATIONS" "scope declared more than once"
      else { progress with scopeSeen := true }
  | .authorization observed =>
      let progress := if progress.scopeSeen then progress
        else progress.report "AUTH_BEFORE_SCOPE" "authorization precedes scope declaration"
      { progress with authorized := assign progress.authorized observed.key observed.decision }
  | .execution observed =>
      let progress := if get progress.authorized observed.key = some .authorized then progress
        else progress.report "EXECUTION_WITHOUT_AUTHORIZATION" (keyText observed.key)
      { progress with executed := assign progress.executed observed.key observed.status }
  | .verification observed =>
      if get progress.executed observed.key = some .executed then progress
      else progress.report "VERIFICATION_WITHOUT_EXECUTION" (keyText observed.key)
  | .other _ => progress

/-- `sorted(events, key=...)` by sequence, which is stable. -/
def inSequence (events : List WorkEvent) : List WorkEvent :=
  events.insertionSort fun earlier later => earlier.sequence ≤ later.sequence

def validateWorkScopeLifecycle (events : List WorkEvent) : LifecycleValidation :=
  let progress := (inSequence events).foldl observe {}
  let progress := if progress.scopeSeen then progress
    else progress.report "MISSING_SCOPE_DECLARATION" "no scope declaration in stream"
  ⟨progress.issues.isEmpty, progress.issues⟩

structure WorkScopeLifecycle where
  scope : WorkScopeDeclared
  authorizations : List MutationAuthorizationObserved := []
  executions : List MutationExecutionObserved := []
  verifications : List MutationVerificationObserved := []

inductive ProjectionError where
  | multipleWorkScopeDeclarations
  | missingWorkScopeDeclaration
  deriving DecidableEq

structure Gathered where
  scope : Option WorkScopeDeclared := none
  authorizations : List MutationAuthorizationObserved := []
  executions : List MutationExecutionObserved := []
  verifications : List MutationVerificationObserved := []

def gatherEvent (gathered : Gathered) (event : WorkEvent) : Except ProjectionError Gathered :=
  match event.payload with
  | .scopeDeclared scope =>
      if gathered.scope.isSome then .error .multipleWorkScopeDeclarations
      else .ok { gathered with scope := some scope }
  | .authorization observed => .ok { gathered with authorizations := gathered.authorizations ++ [observed] }
  | .execution observed => .ok { gathered with executions := gathered.executions ++ [observed] }
  | .verification observed => .ok { gathered with verifications := gathered.verifications ++ [observed] }
  | .other _ => .ok gathered

def projectWorkScopeLifecycle (events : List WorkEvent) : Except ProjectionError WorkScopeLifecycle := do
  let gathered ← foldChecked gatherEvent {} events
  match gathered.scope with
  | none => .error .missingWorkScopeDeclaration
  | some scope => .ok ⟨scope, gathered.authorizations, gathered.executions, gathered.verifications⟩

def declares (event : WorkEvent) : Bool :=
  match event.payload with
  | .scopeDeclared _ => true
  | _ => false

def decisionOn (key : MutationKey) (event : WorkEvent) : Option AuthorizationDecision :=
  match event.payload with
  | .authorization observed => if observed.key = key then some observed.decision else none
  | _ => none

def statusOn (key : MutationKey) (event : WorkEvent) : Option ExecutionStatus :=
  match event.payload with
  | .execution observed => if observed.key = key then some observed.status else none
  | _ => none

/-- What the latest of the events before a sequence number that write something has written. -/
def LatestBefore {Value : Type} (writes : WorkEvent → Option Value) (events : List WorkEvent) (sequence : Int)
    (value : Value) : Prop :=
  ∃ event ∈ events, event.sequence < sequence ∧ writes event = some value ∧
    ∀ other ∈ events, other.sequence < sequence → (writes other).isSome = true → other.sequence ≤ event.sequence

/-- The ordering law of a stream, in terms of sequence numbers only. -/
structure Lawful (events : List WorkEvent) : Prop where
  declared : ∃ scope ∈ events, declares scope = true ∧
    (∀ other ∈ events, declares other = true → other = scope) ∧
    ∀ event ∈ events, ∀ observed, event.payload = .authorization observed → scope.sequence < event.sequence
  authorized : ∀ event ∈ events, ∀ observed, event.payload = .execution observed →
    LatestBefore (decisionOn observed.key) events event.sequence .authorized
  executed : ∀ event ∈ events, ∀ observed, event.payload = .verification observed →
    LatestBefore (statusOn observed.key) events event.sequence .executed

section

/-- What the validator asks of an event after the events before it. -/
def Fits (earlier : List WorkEvent) (event : WorkEvent) : Prop :=
  match event.payload with
  | .scopeDeclared _ => earlier.any declares = false
  | .authorization _ => earlier.any declares = true
  | .execution observed => lastWrite (decisionOn observed.key) earlier = some .authorized
  | .verification observed => lastWrite (statusOn observed.key) earlier = some .executed
  | .other _ => True

theorem observe_scopeSeen (progress : Progress) (event : WorkEvent) :
    (observe progress event).scopeSeen = (progress.scopeSeen || declares event) := by
  unfold observe declares
  cases event.payload with
  | scopeDeclared scope => cases seen : progress.scopeSeen <;> simp [Progress.report, seen]
  | authorization observed => cases seen : progress.scopeSeen <;> simp [Progress.report, seen]
  | execution observed =>
      dsimp only
      split <;> simp [Progress.report]
  | verification observed =>
      dsimp only
      split <;> simp [Progress.report]
  | other eventType => simp

theorem observe_authorized (key : MutationKey) (progress : Progress) (event : WorkEvent) :
    get (observe progress event).authorized key = (decisionOn key event).or (get progress.authorized key) := by
  unfold observe decisionOn
  cases event.payload with
  | authorization observed =>
      by_cases same : observed.key = key <;> cases seen : progress.scopeSeen <;>
        simp [Progress.report, get_assign, same, seen]
  | other eventType => rfl
  | _ =>
      dsimp only
      split <;> rfl

theorem observe_executed (key : MutationKey) (progress : Progress) (event : WorkEvent) :
    get (observe progress event).executed key = (statusOn key event).or (get progress.executed key) := by
  unfold observe statusOn
  cases event.payload with
  | execution observed =>
      dsimp only
      by_cases same : observed.key = key <;> split <;> simp [Progress.report, get_assign, same]
  | other eventType => rfl
  | _ =>
      dsimp only
      split <;> rfl

/-- The loop after some events. -/
def after (events : List WorkEvent) : Progress := events.foldl observe {}

variable (events : List WorkEvent)

theorem after_append (event : WorkEvent) :
    after (events ++ [event]) = observe (after events) event := by
  rw [after, List.foldl_append]
  rfl

theorem after_scopeSeen : (after events).scopeSeen = events.any declares := by
  induction events using List.reverseRecOn with
  | nil => rfl
  | append_singleton before last ih => rw [after_append, observe_scopeSeen, ih, List.any_append, List.any_cons,
      List.any_nil, Bool.or_false]

theorem after_authorized (key : MutationKey) :
    get (after events).authorized key = lastWrite (decisionOn key) events := by
  have folded := @foldl_entry _ _ _ (fun progress => get progress.authorized key) (decisionOn key) observe
    (observe_authorized key) events {}
  rwa [get_nil, Option.or_none] at folded

theorem after_executed (key : MutationKey) :
    get (after events).executed key = lastWrite (statusOn key) events := by
  have folded := @foldl_entry _ _ _ (fun progress => get progress.executed key) (statusOn key) observe
    (observe_executed key) events {}
  rwa [get_nil, Option.or_none] at folded

/-- A turn of the loop reports nothing exactly on an event that fits what came before. -/
theorem observe_clean_iff (earlier : List WorkEvent) (event : WorkEvent) :
    (observe (after earlier) event).issues = [] ↔ (after earlier).issues = [] ∧ Fits earlier event := by
  unfold observe Fits
  cases event.payload with
  | scopeDeclared scope =>
      rw [after_scopeSeen]
      cases seen : earlier.any declares <;> simp [Progress.report]
  | authorization observed =>
      rw [after_scopeSeen]
      cases seen : earlier.any declares <;> simp [Progress.report]
  | execution observed =>
      dsimp only
      rw [after_authorized]
      by_cases granted : lastWrite (decisionOn observed.key) earlier = some .authorized <;>
        simp [Progress.report, granted]
  | verification observed =>
      dsimp only
      rw [after_executed]
      by_cases done : lastWrite (statusOn observed.key) earlier = some .executed <;>
        simp [Progress.report, done]
  | other eventType => simp

/-- The loop ends without a report exactly when every event fits the events before it. -/
theorem after_clean_iff :
    (after events).issues = [] ↔ ∀ earlier event later, events = earlier ++ event :: later → Fits earlier event := by
  induction events using List.reverseRecOn with
  | nil => simp [after]
  | append_singleton before last ih =>
      rw [after_append, observe_clean_iff, ih]
      exact Runs.forall_split_concat.symm

theorem valid_iff :
    (validateWorkScopeLifecycle events).valid = true ↔
      (∀ earlier event later, inSequence events = earlier ++ event :: later → Fits earlier event) ∧
        ∃ event ∈ events, declares event = true := by
  have declared : (∃ event ∈ events, declares event = true) ↔ (after (inSequence events)).scopeSeen = true := by
    rw [after_scopeSeen, List.any_eq_true]
    simp only [inSequence, List.mem_insertionSort]
  rw [declared, ← after_clean_iff, validateWorkScopeLifecycle, ← after]
  cases seen : (after (inSequence events)).scopeSeen <;> simp [Progress.report]

end

section

variable {events : List WorkEvent}

theorem inSequence_strict (distinct : (events.map WorkEvent.sequence).Nodup) :
    (inSequence events).Pairwise fun earlier later => earlier.sequence < later.sequence := by
  have sorted : (inSequence events).Pairwise fun earlier later => earlier.sequence ≤ later.sequence :=
    List.pairwise_insertionSort _ _
  have reordered :=
    List.perm_insertionSort (fun (earlier later : WorkEvent) => earlier.sequence ≤ later.sequence) events
  have apart := List.pairwise_map.mp ((reordered.map WorkEvent.sequence).nodup_iff.mpr distinct)
  exact (sorted.and apart).imp fun both => lt_of_le_of_ne both.1 both.2

variable {earlier later : List WorkEvent} {event : WorkEvent}

/-- The events before an event in sequence order are those with smaller numbers. -/
theorem mem_earlier (distinct : (events.map WorkEvent.sequence).Nodup)
    {other : WorkEvent} (split : inSequence events = earlier ++ event :: later) :
    other ∈ earlier ↔ other ∈ events ∧ other.sequence < event.sequence := by
  have strict := inSequence_strict distinct
  rw [split] at strict
  obtain ⟨-, behind, above⟩ := List.pairwise_append.mp strict
  have listed : other ∈ events ↔ other ∈ earlier ++ event :: later := by
    rw [← split, inSequence, List.mem_insertionSort]
  rw [listed, List.mem_append, List.mem_cons]
  constructor
  · intro member
    exact ⟨.inl member, above other member event List.mem_cons_self⟩
  · rintro ⟨member | rfl | member, smaller⟩
    · exact member
    · exact absurd smaller (lt_irrefl _)
    · exact absurd smaller ((List.pairwise_cons.mp behind).1 other member).not_gt

theorem lastWrite_earlier_iff {Value : Type} {writes : WorkEvent → Option Value} {value : Value}
    (distinct : (events.map WorkEvent.sequence).Nodup)
    (split : inSequence events = earlier ++ event :: later) :
    lastWrite writes earlier = some value ↔ LatestBefore writes events event.sequence value := by
  have strict := inSequence_strict distinct
  rw [split] at strict
  rw [@lastWrite_eq_some_iff _ _ _ _ WorkEvent.sequence _ _ _ (List.pairwise_append.mp strict).1]
  simp only [LatestBefore, mem_earlier distinct split]
  constructor
  · rintro ⟨writer, ⟨member, before⟩, wrote, latest⟩
    exact ⟨writer, member, before, wrote, fun other inside smaller => latest other ⟨inside, smaller⟩⟩
  · rintro ⟨writer, member, before, wrote, latest⟩
    exact ⟨writer, ⟨member, before⟩, wrote, fun other inside => latest other inside.1 inside.2⟩

theorem declares_earlier_iff (distinct : (events.map WorkEvent.sequence).Nodup)
    (split : inSequence events = earlier ++ event :: later) :
    earlier.any declares = true ↔ ∃ scope ∈ events, scope.sequence < event.sequence ∧ declares scope = true := by
  simp only [List.any_eq_true, mem_earlier distinct split, and_assoc]

/-- Every event has its place in the sequence order. -/
theorem placed (member : event ∈ events) :
    ∃ earlier later, inSequence events = earlier ++ event :: later :=
  List.append_of_mem ((List.mem_insertionSort _).mpr member)

theorem validate_iff (distinct : (events.map WorkEvent.sequence).Nodup) :
    (validateWorkScopeLifecycle events).valid = true ↔ Lawful events := by
  rw [valid_iff]
  constructor
  · rintro ⟨fits, scope, declared, first⟩
    -- of two declarations, the later one would not fit
    have apart {left right : WorkEvent} (inLeft : left ∈ events) (inRight : right ∈ events)
        (one : declares left = true) (two : declares right = true) : ¬ left.sequence < right.sequence := by
      intro smaller
      obtain ⟨earlier, later, split⟩ := placed inRight
      have fit := fits earlier right later split
      have seen := (declares_earlier_iff distinct split).mpr ⟨left, inLeft, smaller, one⟩
      unfold Fits at fit
      unfold declares at two
      cases payload : right.payload <;> simp_all
    have unique {other : WorkEvent} (inside : other ∈ events) (also : declares other = true) : other = scope := by
      have same :=
        le_antisymm (not_lt.mp (apart declared inside first also)) (not_lt.mp (apart inside declared also first))
      exact List.inj_on_of_nodup_map distinct inside declared same
    refine ⟨⟨scope, declared, first, fun other inside also => unique inside also, ?_⟩, ?_, ?_⟩
    · intro event member observed payload
      obtain ⟨earlier, later, split⟩ := placed member
      have fit := fits earlier event later split
      rw [Fits, payload] at fit
      obtain ⟨other, inside, smaller, also⟩ := (declares_earlier_iff distinct split).mp fit
      exact unique inside also ▸ smaller
    · intro event member observed payload
      obtain ⟨earlier, later, split⟩ := placed member
      have fit := fits earlier event later split
      rw [Fits, payload] at fit
      exact (lastWrite_earlier_iff distinct split).mp fit
    · intro event member observed payload
      obtain ⟨earlier, later, split⟩ := placed member
      have fit := fits earlier event later split
      rw [Fits, payload] at fit
      exact (lastWrite_earlier_iff distinct split).mp fit
  · intro lawful
    obtain ⟨scope, declared, first, unique, precedes⟩ := lawful.declared
    refine ⟨fun earlier event later split => ?_, scope, declared, first⟩
    have member : event ∈ events := by
      have inside : event ∈ inSequence events := by simp [split]
      exact (List.mem_insertionSort _).mp inside
    unfold Fits
    cases payload : event.payload with
    | scopeDeclared _ =>
        refine Bool.eq_false_iff.mpr fun seen => ?_
        obtain ⟨other, inside, smaller, also⟩ := (declares_earlier_iff distinct split).mp seen
        have same := unique event member (by simp [declares, payload])
        rw [unique other inside also, same] at smaller
        exact lt_irrefl _ smaller
    | authorization observed =>
        exact (declares_earlier_iff distinct split).mpr
          ⟨scope, declared, precedes event member observed payload, first⟩
    | execution observed =>
        exact (lastWrite_earlier_iff distinct split).mpr (lawful.authorized event member observed payload)
    | verification observed =>
        exact (lastWrite_earlier_iff distinct split).mpr (lawful.executed event member observed payload)
    | other eventType => trivial

end

variable {events : List WorkEvent}

theorem gatherEvent_scope {gathered next : Gathered} {event : WorkEvent}
    (step : gatherEvent gathered event = .ok next) :
    next.scope.isSome = (gathered.scope.isSome || declares event) := by
  unfold gatherEvent at step
  unfold declares
  cases payload : event.payload with
  | scopeDeclared scope =>
      rw [payload] at step
      dsimp only at step
      split at step
      · cases step
      · cases step
        rw [Bool.or_true]
        rfl
  | _ =>
      rw [payload] at step
      cases step
      rw [Bool.or_false]

/-- The projection stops only at a declaration after another one. -/
theorem gatherEvent_ok (gathered : Gathered) (event : WorkEvent)
    (first : declares event = true → gathered.scope.isSome = false) :
    ∃ next, gatherEvent gathered event = .ok next := by
  unfold gatherEvent
  unfold declares at first
  cases payload : event.payload with
  | scopeDeclared scope =>
      rw [payload] at first
      exact ⟨_, if_neg (by simp [first rfl])⟩
  | _ => exact ⟨_, rfl⟩

theorem gathered_ok (gathered : Gathered)
    (single : (events.filter declares).length + gathered.scope.toList.length ≤ 1) :
    ∃ final, foldChecked gatherEvent gathered events = .ok final ∧
      final.scope.isSome = (gathered.scope.isSome || events.any declares) := by
  induction events generalizing gathered with
  | nil => exact ⟨gathered, rfl, by simp⟩
  | cons event rest ih =>
      have first : declares event = true → gathered.scope.isSome = false := by
        intro declared
        rw [List.filter_cons_of_pos declared, List.length_cons] at single
        cases held : gathered.scope with
        | none => rfl
        | some scope =>
            rw [held, Option.toList_some, List.length_singleton] at single
            omega
      obtain ⟨next, taken⟩ := gatherEvent_ok gathered event first
      have scope := gatherEvent_scope taken
      have later : (rest.filter declares).length + next.scope.toList.length ≤ 1 := by
        cases declared : declares event <;> cases held : gathered.scope <;> cases found : next.scope <;>
          simp_all
      obtain ⟨final, done, same⟩ := ih next later
      refine ⟨final, ?_, ?_⟩
      · rw [foldChecked, taken]
        exact done
      · rw [same, scope, List.any_cons, Bool.or_assoc]

theorem project_ok (single : (events.filter declares).length = 1) :
    ∃ lifecycle, projectWorkScopeLifecycle events = .ok lifecycle := by
  obtain ⟨final, done, scope⟩ := @gathered_ok events {} (by simp [single])
  have declared : events.any declares = true := by
    obtain ⟨event, only⟩ := List.length_eq_one_iff.mp single
    have member : event ∈ events.filter declares := only ▸ List.mem_singleton_self event
    exact List.any_eq_true.mpr ⟨event, List.mem_filter.mp member⟩
  rw [declared, Bool.or_true] at scope
  obtain ⟨declaration, held⟩ := Option.isSome_iff_exists.mp scope
  exact ⟨⟨declaration, final.authorizations, final.executions, final.verifications⟩, by
    simp [projectWorkScopeLifecycle, done, held, bind, Except.bind]⟩

theorem Lawful.single (lawful : Lawful events) (distinct : (events.map WorkEvent.sequence).Nodup) :
    (events.filter declares).length = 1 := by
  obtain ⟨scope, declared, first, unique, -⟩ := lawful.declared
  have apart : (events.filter declares).Nodup := (List.Nodup.of_map _ distinct).filter _
  have member : scope ∈ events.filter declares := List.mem_filter.mpr ⟨declared, first⟩
  have only : ∀ other ∈ events.filter declares, other = scope := fun other inside =>
    unique other (List.mem_filter.mp inside).1 (List.mem_filter.mp inside).2
  match held : events.filter declares with
  | [] => rw [held] at member; cases member
  | [_] => rfl
  | left :: right :: rest =>
      rw [held] at apart only
      have same := (only left (by simp)).trans (only right (by simp)).symm
      simp [same] at apart

/-- The validator accepts a stream, however it is ordered, exactly when its sequence numbers obey the
ordering law, and whatever it accepts can be projected in any order. -/
theorem lifecycle_valid_iff (events : List WorkEvent) (distinct : (events.map WorkEvent.sequence).Nodup) :
    ((validateWorkScopeLifecycle events).valid = true ↔ Lawful events) ∧
      ((validateWorkScopeLifecycle events).valid = true → ∀ reordered, reordered.Perm events →
        ∃ lifecycle, projectWorkScopeLifecycle reordered = .ok lifecycle) := by
  have valid := validate_iff distinct
  refine ⟨valid, fun accepted reordered same => project_ok ?_⟩
  rw [(same.filter declares).length_eq]
  exact (valid.mp accepted).single distinct

def scopeEvent (sequence : Int) : WorkEvent :=
  ⟨sequence, .scopeDeclared ⟨"build", "new", "full", ["backend"], []⟩⟩

def mutation : List WorkEvent :=
  [⟨3, .verification ⟨"backend", "write", "app.py", .verified, "digest", none, .admitted⟩⟩,
    ⟨2, .execution ⟨"backend", "write", "app.py", .executed, none, none⟩⟩,
    ⟨1, .authorization ⟨"backend", "write", "app.py", .authorized, none⟩⟩, scopeEvent 0]

theorem mutation_lifecycle : Lawful mutation ∧ ∃ lifecycle, projectWorkScopeLifecycle mutation = .ok lifecycle := by
  have valid := lifecycle_valid_iff mutation (by decide)
  have accepted : (validateWorkScopeLifecycle mutation).valid = true := by decide
  exact ⟨valid.1.mp accepted, valid.2 accepted mutation (.refl _)⟩

end AutonomousApi.WorkScope
