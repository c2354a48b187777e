import AutonomousApi.ExpressionAgreement
import AutonomousApi.ExpressionPayload

/-! State transitions of a service: the two `apply_transition` functions that the backends
emit, over the JSON of the declared transitions. Both look up the first transition with
the requested id and compare its source state. They part at the guard, where Python asks
for a truth value and takes null for no guard, and Rust asks for a boolean and evaluates
whatever stands under the key. -/

namespace AutonomousApi.Transitions

open JsonValue OrderedMap IsrBehavior FailFast
open ExpressionRuntime ExpressionPayload ExpressionAgreement

inductive TransitionError where
  | behavior (message : String)
  | expression
  deriving DecidableEq

def guardPayload : Option Expression → Json
  | none => .null
  | some guard => expressionPayload guard

/-- `model_dump(mode="json")` of a transition: a guard that is absent is written as null. -/
def transitionPayload (transition : StateTransition) : Json :=
  .obj [("transition_id", .str transition.transitionId), ("source_state", .str transition.sourceState),
    ("target_state", .str transition.targetState), ("guard", guardPayload transition.guard)]

def member (record : Json) (key : String) : Option Json :=
  match record with
  | .obj entries => get entries key
  | _ => none

def textMember (record : Json) (key : String) : Option String :=
  match member record key with
  | some (.str text) => some text
  | _ => none

section

variable (decimals : Decimals) (context : Context)

def pythonGuard : Option Json → Except TransitionError Unit
  | none | some .null => .ok ()
  | some guard =>
      match pythonEvaluateExpression decimals context guard with
      | some value => require (truthy value) (.behavior "transition guard rejected")
      | none => .error .expression

def rustGuard : Option Json → Except TransitionError Unit
  | none => .ok ()
  | some guard =>
      match (rustEvaluateExpression decimals context guard).bind rustBoolean with
      | some value => require value (.behavior "transition guard rejected")
      | none => .error .expression

def target (transition : Json) : Except TransitionError String :=
  match textMember transition "target_state" with
  | some state => .ok state
  | none => .error (.behavior "target state missing")

/-- The lookup and the checks that both runtimes make, around the guard of one of them. -/
def applyTransition (guard : Option Json → Except TransitionError Unit) (transitions : List Json)
    (transitionId currentState : String) : Except TransitionError String :=
  match transitions.find? fun item => textMember item "transition_id" == some transitionId with
  | none => .error (.behavior "unknown transition")
  | some transition => do
      require (textMember transition "source_state" == some currentState)
        (.behavior "transition source state mismatch")
      guard (member transition "guard")
      target transition

def pythonApplyTransition : List Json → String → String → Except TransitionError String :=
  applyTransition (pythonGuard decimals context)

def rustApplyTransition : List Json → String → String → Except TransitionError String :=
  applyTransition (rustGuard decimals context)

/-- Both reject, or both return one state. -/
def SameState (python rust : Except TransitionError String) : Prop := python.toOption = rust.toOption

end

theorem member_payload (transition : StateTransition) :
    textMember (transitionPayload transition) "transition_id" = some transition.transitionId ∧
      textMember (transitionPayload transition) "source_state" = some transition.sourceState ∧
      textMember (transitionPayload transition) "target_state" = some transition.targetState ∧
      member (transitionPayload transition) "guard" = some (guardPayload transition.guard) := by
  simp [textMember, member, transitionPayload, OrderedMap.get]

theorem find_payload (transitions : List StateTransition) (transitionId : String) :
    (transitions.map transitionPayload).find? (fun item => textMember item "transition_id" == some transitionId) =
      (transitions.find? fun transition => transition.transitionId == transitionId).map transitionPayload := by
  simp only [List.find?_map, Function.comp_def, member_payload, Option.some_beq_some]

/-- What either runtime does with the declared transitions, in terms of its guard. -/
theorem applyTransition_payload (guard : Option Json → Except TransitionError Unit)
    (transitions : List StateTransition) (transitionId currentState : String) :
    applyTransition guard (transitions.map transitionPayload) transitionId currentState =
      match transitions.find? fun transition => transition.transitionId == transitionId with
      | none => .error (.behavior "unknown transition")
      | some transition =>
          if transition.sourceState = currentState then
            (guard (some (guardPayload transition.guard))).map fun _ => transition.targetState
          else .error (.behavior "transition source state mismatch") := by
  rw [applyTransition, find_payload]
  cases transitions.find? fun transition => transition.transitionId == transitionId with
  | none => rfl
  | some transition =>
      obtain ⟨-, source, targetState, guarded⟩ := member_payload transition
      simp only [Option.map_some, source, guarded, target, targetState]
      by_cases here : transition.sourceState = currentState
      · cases guard (some (guardPayload transition.guard)) <;> simp [here, require] <;> rfl
      · simp [here, require]
        rfl

section

variable (decimals : Decimals) (context : Context)

/-- The guard is true for Python exactly when it is the boolean `true` for Rust. -/
def guardsAlike (guard : Expression) : Prop :=
  (pythonEvaluate decimals context guard).any truthy = true ↔
    rustEvaluate decimals context guard = some (.bool true)

variable {decimals context}

theorem expressionPayload_record (expression : Expression) :
    ∃ entries, expressionPayload expression = .obj entries := by
  cases expression <;> exact ⟨_, rfl⟩

theorem pythonGuard_present (guard : Expression) :
    (pythonGuard decimals context (some (guardPayload (some guard)))).toOption = some () ↔
      (pythonEvaluate decimals context guard).any truthy = true := by
  obtain ⟨entries, record⟩ := expressionPayload_record guard
  have evaluated := pythonEvaluateExpression_payload decimals context guard
  rw [record] at evaluated
  simp only [guardPayload, record, pythonGuard, evaluated]
  cases pythonEvaluate decimals context guard with
  | none => simp [Except.toOption]
  | some value => cases holds : truthy value <;> simp [require, Except.toOption, holds]

theorem rustBoolean_eq_some {value : Json} {flag : Bool} (read : rustBoolean value = some flag) :
    value = .bool flag := by
  unfold rustBoolean at read
  split at read
  · exact congrArg Json.bool (Option.some.inj read)
  · cases read

theorem rustGuard_present (guard : Expression) :
    (rustGuard decimals context (some (guardPayload (some guard)))).toOption = some () ↔
      rustEvaluate decimals context guard = some (.bool true) := by
  simp only [guardPayload, rustGuard, rustEvaluateExpression_payload]
  cases rustEvaluate decimals context guard with
  | none => simp [Except.toOption]
  | some value =>
      rw [Option.bind_some, Option.some.injEq]
      cases read : rustBoolean value with
      | none =>
          have other : value ≠ .bool true := by
            rintro rfl
            cases read
          simp [Except.toOption, other]
      | some flag =>
          rw [rustBoolean_eq_some read]
          cases flag <;> simp [require, Except.toOption]

theorem guard_absent :
    (pythonGuard decimals context (some (guardPayload none))).toOption = some () ∧
      (rustGuard decimals context (some (guardPayload none))).toOption = none := ⟨rfl, rfl⟩

end

variable {decimals : Decimals} {context : Context}

theorem sameState_iff (python rust : Except TransitionError Unit) (state : String) :
    SameState (python.map fun _ => state) (rust.map fun _ => state) ↔
      (python.toOption = some () ↔ rust.toOption = some ()) := by
  cases python <;> cases rust <;> simp [SameState, Except.map, Except.toOption]

/-- An order that is approved from its draft state without a condition. -/
def approval : ServiceBehavior where
  transitions := [{ transitionId := "approve", sourceState := "draft", targetState := "approved" }]

end AutonomousApi.Transitions
