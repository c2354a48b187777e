import AutonomousApi.JsonText
import AutonomousApi.RouteDispatch
import AutonomousApi.RouteGuards

/-! The module app/core/policies.py that the FastAPI backend writes: two annotated
assignments whose right sides are the JSON text of the policy payloads. Python reads
them back as literals. -/

namespace AutonomousApi.PolicyTable

open DataTree JsonValue JsonText PythonLiteral IsrBehavior CompilationPlan OrderedMap PythonText
open Authorization FastApiBackend RouteGuards RouteDispatch

variable (table : CharTable) (plan : Plan)

def rowsPayload (rows : Dict String (List SecurityPolicy)) : Json :=
  .obj (rows.map fun row => (row.1, .arr (row.2.filterMap policyPayload)))

def operationPolicyTable : Dict String (List SecurityPolicy) :=
  assignAll [] ((planRoutes plan).map fun route => (route.operation.id, route.policies))

def servicePayload : Json := rowsPayload (servicePolicyTable table plan)

def operationPayload : Json := rowsPayload (operationPolicyTable plan)

def preamble : List Char :=
  ("\"\"\"Declared authorization policies bound to the emitted routes.\"\"\"\n" ++
    "from __future__ import annotations\n\n").toList

def serviceTarget : List Char := "SERVICE_POLICIES: dict[str, list[dict]] = ".toList

def operationTarget : List Char := "\n\nOPERATION_POLICIES: dict[str, list[dict]] = ".toList

def policies (numbers : NumberText JsonFloat) : List Char :=
  preamble ++ serviceTarget ++ dumps numbers (servicePayload table plan) ++
    operationTarget ++ dumps numbers (operationPayload plan) ++ ['\n']

variable (named : List Char → Option Nat) (numbers : NumberText JsonFloat)

def readAssignment (target text : List Char) : Option (LiteralValue JsonFloat × List Char) :=
  (stripText target text).bind fun rest => readValue named numbers rest.length rest

def readModule (text : List Char) : Option (LiteralValue JsonFloat × LiteralValue JsonFloat) := do
  let body ← stripText preamble text
  let (services, rest) ← readAssignment named numbers serviceTarget body
  let (operations, rest) ← readAssignment named numbers operationTarget rest
  if rest = ['\n'] then some (services, operations) else none

theorem readAssignment_dumps (target : List Char) (value : Json) (rest : List Char) (stopped : Stopped rest) :
    readAssignment named numbers target (target ++ (dumps numbers value ++ rest)) =
      (literalOf (sortKeys value)).map fun read => (read, rest) := by
  rw [readAssignment, stripText_append, Option.bind_some]
  exact readValue_encode named numbers (sortKeys value) 0 _ rest stopped (by simp [dumps])

theorem readModule_policies (table : CharTable) (plan : Plan) :
    readModule named numbers (policies table plan numbers) =
      (literalOf (sortKeys (servicePayload table plan))).bind fun services =>
        (literalOf (sortKeys (operationPayload plan))).map fun operations => (services, operations) := by
  have second := readAssignment_dumps named numbers operationTarget (operationPayload plan) ['\n']
    (cons_stopped '\n' [] (by decide))
  have first := readAssignment_dumps named numbers serviceTarget (servicePayload table plan)
    (operationTarget ++ (dumps numbers (operationPayload plan) ++ ['\n']))
    (cons_stopped '\n' _ (by decide))
  simp only [readModule, policies, List.append_assoc, stripText_append, Option.bind_eq_bind, Option.bind_some, first]
  cases literalOf (sortKeys (servicePayload table plan)) with
  | none => rfl
  | some services =>
      simp only [Option.map_some, Option.bind_some, second]
      cases literalOf (sortKeys (operationPayload plan)) <;> rfl

/-- The emitted module reads as two dictionaries that equal the payloads as maps. -/
def Faithful (named : List Char → Option Nat) (numbers : NumberText JsonFloat) (table : CharTable)
    (plan : Plan) : Prop :=
  ∃ services operations,
    readModule named numbers (policies table plan numbers) = some (services, operations) ∧
      SameMap services (pythonValue (servicePayload table plan)) ∧
      SameMap operations (pythonValue (operationPayload plan))

def ruleReadable (rule : AuthorizationRule) : Bool :=
  basic rule.ruleId && rule.roles.all basic && rule.actions.all basic && basic rule.resource &&
    readableEntries rule.conditions

def policyReadable (policy : SecurityPolicy) : Bool :=
  match policy.behavior with
  | none => true
  | some behavior => basic policy.policyId && behavior.roles.all basic && behavior.rules.all ruleReadable

/-- The policies of the last declared route with the given operation. -/
def lastDeclared (plan : Plan) (id : String) : Option (List SecurityPolicy) :=
  get ((planRoutes plan).map fun route => (route.operation.id, route.policies)).reverse id

/-- No emitted row holds a null or a boolean in a condition, or a character outside the
basic plane anywhere. -/
structure Readable (table : CharTable) (plan : Plan) : Prop where
  services : ∀ serviceMod row, lastProtected table plan serviceMod = some row →
    basic serviceMod = true ∧ ∀ policy ∈ row, policyReadable policy = true
  operations : ∀ id row, lastDeclared plan id = some row →
    basic id = true ∧ ∀ policy ∈ row, policyReadable policy = true

theorem readableItems_texts (texts : List String) : readableItems (texts.map Json.str) = texts.all basic := by
  rw [Bool.eq_iff_iff, readableItems_iff, List.all_eq_true, List.forall_mem_map]
  exact forall₂_congr fun _ _ => Iff.rfl

theorem readable_rulePayload (rule : AuthorizationRule) : readable (rulePayload rule) = ruleReadable rule := by
  have effect : basic (effectText rule.effect) = true := by cases rule.effect <;> decide
  have keys : basic "rule_id" = true ∧ basic "effect" = true ∧ basic "roles" = true ∧
      basic "actions" = true ∧ basic "resource" = true ∧ basic "conditions" = true := by decide
  simp only [rulePayload, readable, readableEntries, readableItems_texts, shared, effect, keys, ruleReadable,
    Bool.and_true, Bool.true_and, Bool.and_assoc]

theorem readable_policyPayload {policy : SecurityPolicy} {payload : Json}
    (built : policyPayload policy = some payload) : readable payload = policyReadable policy := by
  obtain ⟨behavior, typed, rfl⟩ := Option.map_eq_some_iff.mp built
  have rules : readableItems (behavior.rules.map rulePayload) = behavior.rules.all ruleReadable := by
    rw [Bool.eq_iff_iff, readableItems_iff, List.all_eq_true, List.forall_mem_map]
    exact forall₂_congr fun rule _ => by rw [readable_rulePayload]
  have keys : basic "policy_id" = true ∧ basic "roles" = true ∧ basic "rules" = true := by decide
  simp only [readable, readableEntries, readableItems_texts, rules, shared, keys, policyReadable, typed,
    Bool.and_true, Bool.true_and, Bool.and_assoc]

theorem readable_rows {rows : Dict String (List SecurityPolicy)} (unique : (keys rows).Nodup) :
    readable (rowsPayload rows) = true ↔
      ∀ name row, get rows name = some row → basic name = true ∧ ∀ policy ∈ row, policyReadable policy = true := by
  have typed (row : List SecurityPolicy) : readable (.arr (row.filterMap policyPayload)) = true ↔
      ∀ policy ∈ row, policyReadable policy = true := by
    rw [Json.arr, readable, readableItems_iff]
    constructor
    · intro all policy member
      cases built : policyPayload policy with
      | none =>
          have untyped : policy.behavior = none := by simpa [policyPayload] using built
          simp [policyReadable, untyped]
      | some payload =>
          rw [← readable_policyPayload built]
          exact all payload (List.mem_filterMap.mpr ⟨policy, member, built⟩)
    · intro all payload member
      obtain ⟨policy, listed, built⟩ := List.mem_filterMap.mp member
      rw [readable_policyPayload built]
      exact all policy listed
  rw [rowsPayload, Json.obj, readable, readableEntries_iff, List.forall_mem_map,
    forall_mem_iff_get unique fun row => basic row.1 = true ∧ readable (.arr (row.2.filterMap policyPayload)) = true]
  simp only [typed]

theorem readable_iff (table : CharTable) (plan : Plan) :
    Readable table plan ↔
      readable (servicePayload table plan) = true ∧ readable (operationPayload plan) = true := by
  have operationRow (id : String) : get (operationPolicyTable plan) id = lastDeclared plan id := by
    rw [operationPolicyTable, get_assignAll, lastDeclared]
    simp
  have serviceKeys : (keys (servicePolicyTable table plan)).Nodup := keys_assignAll_nodup _ (by simp [keys])
  have operationKeys : (keys (operationPolicyTable plan)).Nodup := keys_assignAll_nodup _ (by simp [keys])
  rw [servicePayload, operationPayload, readable_rows serviceKeys, readable_rows operationKeys]
  simp only [servicePolicyTable_row, operationRow]
  exact ⟨fun readable => ⟨readable.services, readable.operations⟩, fun both => ⟨both.1, both.2⟩⟩

theorem faithful_iff (named : List Char → Option Nat) (numbers : NumberText JsonFloat) (table : CharTable)
    (plan : Plan) : Faithful named numbers table plan ↔ Readable table plan := by
  rw [readable_iff, Faithful, readModule_policies]
  constructor
  · rintro ⟨services, operations, read, sameServices, sameOperations⟩
    obtain ⟨_, readServices, rest⟩ := Option.bind_eq_some_iff.mp read
    obtain ⟨_, readOperations, both⟩ := Option.map_eq_some_iff.mp rest
    obtain ⟨rfl, rfl⟩ := Prod.mk.inj both
    rw [← readable_sortKeys (servicePayload table plan), ← readable_sortKeys (operationPayload plan)]
    exact ⟨readable_of_sameMap _ _ readServices _ sameServices,
      readable_of_sameMap _ _ readOperations _ sameOperations⟩
  · rintro ⟨services, operations⟩
    rw [← readable_sortKeys] at services operations
    refine ⟨_, _, ?_, pythonValue_sortKeys _, pythonValue_sortKeys _⟩
    rw [literalOf_of_readable _ services, literalOf_of_readable _ operations]
    rfl

/-- Readers may read active users. -/
def activePolicy : SecurityPolicy where
  policyId := "policy:active"
  behavior := some
    { roles := ["reader"]
      rules :=
        [{ ruleId := "allow-active", effect := .allow, roles := ["reader"], actions := ["user.read"]
           resource := "user", conditions := [("active", .bool true)] }] }

def activePlan : Plan where
  planId := "plan:0"
  isrId := "users"
  services := [{ userService with securityPolicies := [activePolicy] }]
  dataModels := [⟨"dm:user", "user", none⟩]
  security := [activePolicy]

/-- The condition is written as `true`, which is no Python literal. -/
theorem active_condition_unreadable :
    Accepts asciiTable activePlan ∧ ¬ Faithful (fun _ => none) exactDecimals asciiTable activePlan := by
  refine ⟨rfl, ?_⟩
  rintro ⟨services, operations, read, -, -⟩
  rw [readModule_policies] at read
  have unread : literalOf (sortKeys (servicePayload asciiTable activePlan)) = none := by decide
  rw [unread] at read
  cases read

end AutonomousApi.PolicyTable
