import AutonomousApi.JsonValue
import AutonomousApi.OrderedMap

/-! The policy decision point of the governance kernel (schemas.py, policy_compiler.py,
exception_manager.py and compliance.py of constitutional_architecture/governance): which rules of
the active policy sets speak to a request, which of them match it, and the decision that the
matched rules are resolved to. Whether a condition holds is decided outside: `evalCondition` also
says in which words. -/

namespace AutonomousApi.Compliance

open JsonValue OrderedMap

inductive Decision where
  | allow | deny | requireApproval | requireEvidence | allowWithConstraints
  deriving DecidableEq

inductive RuleEffect where
  | allow | deny | requireApproval | requireEvidence | allowWithConstraints
  deriving DecidableEq

inductive PolicySetStatus where
  | draft | active | deprecated | revoked
  deriving DecidableEq

inductive ConditionOperator where
  | equals | notEquals | isIn | notIn | exists | notExists | greaterThan | lessThan | matchesPattern
  deriving DecidableEq

inductive ApproverType where
  | human | role | organization | autonomousAgent | federationCouncil
  deriving DecidableEq

inductive TimeoutPolicy where
  | denyOnTimeout | escalateOnTimeout | allowOnTimeout
  deriving DecidableEq

inductive ActorType where
  | human | service | autonomousAgent | organization | plugin | externalSystem
  deriving DecidableEq

inductive EvaluationOutcome where
  | matchedAllow | matchedDeny | matchedRequireApproval | matchedRequireEvidence | notMatched
  deriving DecidableEq

inductive ExceptionStatus where
  | active | revoked | expired
  deriving DecidableEq

structure ApprovalRequirement where
  approverType : ApproverType := .human
  approverId : Option String := none
  required : Bool := true
  timeoutPolicy : TimeoutPolicy := .denyOnTimeout
  timeoutDuration : Option String := none
  deriving DecidableEq

structure Condition where
  field : String
  operator : ConditionOperator := .equals
  value : Json := .null
  deriving DecidableEq

structure Constraint where
  name : String
  enforced : Bool := true
  value : Json := .null
  deriving DecidableEq

structure Actor where
  actorType : ActorType := .human
  actorId : String
  roles : List String := []
  delegatedAuthority : List String := []
  deriving DecidableEq

structure PolicyRule where
  id : String
  name : String
  effect : RuleEffect
  priority : Int := 100
  subjectTypes : List String := []
  actions : List String := []
  conditions : List Condition := []
  requiredEvidence : List String := []
  requiredApprovals : List ApprovalRequirement := []
  constraints : List Constraint := []
  deriving DecidableEq

structure PolicySet where
  id : String
  version : String := "0.1.0"
  status : PolicySetStatus := .draft
  policyRules : List PolicyRule := []
  deriving DecidableEq

structure EvaluationRequest where
  subjectType : String
  subjectId : String
  action : String
  actor : Actor
  context : Dict String Json := []
  evidenceRefs : List String := []
  requestedExceptions : List String := []
  deriving DecidableEq

structure PolicyEvaluation where
  policySetId : String
  policySetVersion : String
  ruleId : String
  ruleName : String
  outcome : EvaluationOutcome
  explanation : String := ""
  deriving DecidableEq

/-- What a decision's hash covers. -/
structure DecisionPayload where
  decision : Decision
  reason : String := ""
  evaluatedPolicies : List PolicyEvaluation := []
  requiredApprovals : List ApprovalRequirement := []
  requiredEvidence : List String := []
  constraints : List Constraint := []
  exceptionsApplied : List String := []
  deriving DecidableEq

structure ExceptionScope where
  subjectTypes : List String := []
  actions : List String := []
  subjectIds : List String := []
  actorIds : List String := []
  maxUses : Option Int := none
  environment : Option String := none
  deriving DecidableEq

structure GovernanceException where
  id : String
  scope : ExceptionScope
  expiresAt : Int
  status : ExceptionStatus := .active
  useCount : Int := 0
  deriving DecidableEq

/-- An empty list of a scope restricts nothing. -/
def unrestricted (names : List String) (name : String) : Bool := names.isEmpty || names.contains name

def ExceptionScope.covers (scope : ExceptionScope) (request : EvaluationRequest) : Bool :=
  unrestricted scope.subjectTypes request.subjectType && unrestricted scope.actions request.action &&
    unrestricted scope.subjectIds request.subjectId && unrestricted scope.actorIds request.actor.actorId &&
    match scope.environment with
    | none => true
    | some environment => environment == "" || get request.context "environment" == some (.str environment)

/-- The order in which rules are evaluated: by priority, then by id. -/
def Sooner (left right : PolicyRule) : Prop :=
  left.priority < right.priority ∨ left.priority = right.priority ∧ left.id ≤ right.id

instance : DecidableRel Sooner := fun left right =>
  inferInstanceAs (Decidable (left.priority < right.priority ∨ left.priority = right.priority ∧ left.id ≤ right.id))

def PolicyRule.speaksTo (rule : PolicyRule) (subjectType action : String) : Bool :=
  rule.subjectTypes.contains subjectType && rule.actions.contains action

/-- `PolicySetManager.rules_for` before its sort. -/
def candidates (policySets : List PolicySet) (subjectType action : String) : List (PolicySet × PolicyRule) :=
  (policySets.filter fun policySet => policySet.status = .active).flatMap fun policySet =>
    (policySet.policyRules.filter fun rule => rule.speaksTo subjectType action).map fun rule => (policySet, rule)

def rulesFor (policySets : List PolicySet) (subjectType action : String) : List (PolicySet × PolicyRule) :=
  (candidates policySets subjectType action).insertionSort fun left right => Sooner left.2 right.2

def expire (now : Int) (exception : GovernanceException) : GovernanceException :=
  if exception.status = .active ∧ exception.expiresAt ≤ now then { exception with status := .expired } else exception

def GovernanceException.applies (exception : GovernanceException) (now : Int) (request : EvaluationRequest) : Bool :=
  exception.status ≠ .revoked && !decide (exception.expiresAt ≤ now) && exception.scope.covers request &&
    match exception.scope.maxUses with
    | none => true
    | some maxUses => decide (exception.useCount < maxUses)

/-- `GovernanceExceptionManager.applicable_to`. It also marks the exceptions that ran out, which
`expire` does. -/
def applicableTo (exceptions : List GovernanceException) (now : Int) (request : EvaluationRequest) :
    List GovernanceException :=
  (exceptions.insertionSort fun left right => left.id ≤ right.id).filter fun exception => exception.applies now request

def recordUse (exceptions : List GovernanceException) (id : String) : List GovernanceException :=
  exceptions.map fun exception =>
    if exception.id = id then { exception with useCount := exception.useCount + 1 } else exception

variable (evalCondition : Condition → EvaluationRequest → Bool × String)

def evaluateRule (rule : PolicyRule) (request : EvaluationRequest) : EvaluationOutcome × String :=
  match rule.conditions.find? fun condition => !(evalCondition condition request).1 with
  | some condition =>
      (.notMatched,
        "condition " ++ condition.field ++ " not satisfied (" ++ (evalCondition condition request).2 ++ ")")
  | none =>
      match rule.effect with
      | .deny => (.matchedDeny, "deny rule " ++ rule.name ++ " matched")
      | .requireApproval => (.matchedRequireApproval, "requires approval: " ++ rule.name)
      | .requireEvidence => (.matchedRequireEvidence, "requires evidence: " ++ rule.name)
      | .allowWithConstraints => (.matchedAllow, "allow with constraints: " ++ rule.name)
      | .allow => (.matchedAllow, "allow rule " ++ rule.name ++ " matched")

/-- The variables of the loop of `evaluate`. -/
structure Scan where
  evaluations : List PolicyEvaluation := []
  deniedBy : List PolicyRule := []
  matchedApproval : Option PolicyRule := none
  matchedEvidence : Option PolicyRule := none
  matchedConstraints : Option PolicyRule := none
  matchedAllow : Bool := false
  deriving DecidableEq

/-- One round of the loop: deny rules are collected, of the approval and evidence rules the first
is kept, of the allowing rules the last one with constraints. -/
def scanRule (request : EvaluationRequest) (applicable : List GovernanceException) (scan : Scan)
    (candidate : PolicySet × PolicyRule) : Scan :=
  let rule := candidate.2
  let verdict := evaluateRule evalCondition rule request
  let suppressed := applicable.any fun exception => exception.scope.covers request
  let evaluation (explanation : String) : PolicyEvaluation :=
    { policySetId := candidate.1.id, policySetVersion := candidate.1.version, ruleId := rule.id,
      ruleName := rule.name, outcome := verdict.1, explanation := explanation }
  match verdict.1 with
  | .matchedDeny =>
      if suppressed then
        { scan with evaluations := scan.evaluations ++ [evaluation (verdict.2 ++ " [suppressed by exception]")] }
      else { scan with
        evaluations := scan.evaluations ++ [evaluation verdict.2], deniedBy := scan.deniedBy ++ [rule] }
  | .matchedRequireApproval => { scan with
      evaluations := scan.evaluations ++ [evaluation verdict.2],
      matchedApproval := scan.matchedApproval.or (some rule) }
  | .matchedRequireEvidence => { scan with
      evaluations := scan.evaluations ++ [evaluation verdict.2],
      matchedEvidence := scan.matchedEvidence.or (some rule) }
  | .matchedAllow => { scan with
      evaluations := scan.evaluations ++ [evaluation verdict.2],
      matchedAllow := true,
      matchedConstraints := if rule.constraints.isEmpty then scan.matchedConstraints else some rule }
  | .notMatched => { scan with evaluations := scan.evaluations ++ [evaluation verdict.2] }

def missing (rule : PolicyRule) (request : EvaluationRequest) : List String :=
  rule.requiredEvidence.filter fun evidence => !request.evidenceRefs.contains evidence

def uniqueApprovals (approvals : List ApprovalRequirement) : List ApprovalRequirement :=
  keepFirst (fun approval => (approval.approverType, approval.approverId.getD "")) [] approvals

/-- What `_resolve` returns: the decision, its reason, the approvals, the evidence and the constraints. -/
def resolveAllowed (scan : Scan) : DecisionPayload :=
  match scan.matchedApproval with
  | some rule =>
      { decision := .requireApproval, reason := "approval required by " ++ rule.name,
        requiredApprovals := uniqueApprovals rule.requiredApprovals, constraints := rule.constraints }
  | none =>
      match scan.matchedConstraints.filter fun rule => !rule.constraints.isEmpty with
      | some rule =>
          { decision := .allowWithConstraints, reason := "allowed with constraints by " ++ rule.name,
            constraints := rule.constraints }
      | none =>
          { decision := .allow,
            reason := if scan.matchedAllow then "allowed by policy" else "no policy matched; allow by default" }

def resolve (request : EvaluationRequest) (scan : Scan) : DecisionPayload :=
  if scan.deniedBy.isEmpty then
    match scan.matchedEvidence.map fun rule => missing rule request with
    | some (first :: rest) =>
        { decision := .requireEvidence,
          reason := "missing required evidence: " ++ ", ".intercalate (first :: rest),
          requiredEvidence := (first :: rest).insertionSort (· ≤ ·) }
    | _ => resolveAllowed scan
  else { decision := .deny, reason := "denied by: " ++ "; ".intercalate (scan.deniedBy.map (·.name)) }

/-- `ComplianceEngine.evaluate` without the hash: the decision, and the exceptions as it leaves them. -/
def evaluate (policySets : List PolicySet) (exceptions : List GovernanceException) (now : Int)
    (request : EvaluationRequest) : DecisionPayload × List GovernanceException :=
  let applicable := applicableTo exceptions now request
  let scan := (rulesFor policySets request.subjectType request.action).foldl
    (scanRule evalCondition request applicable) {}
  ({ resolve request scan with
      evaluatedPolicies := scan.evaluations,
      exceptionsApplied := (applicable.map (·.id)).insertionSort (· ≤ ·) },
    (applicable.map (·.id)).foldl recordUse (exceptions.map (expire now)))

end AutonomousApi.Compliance
