import AutonomousApi.PythonText
import AutonomousApi.RecordTable
import AutonomousApi.Runs
import Mathlib.Algebra.Order.Ring.Unbundled.Rat

/-! Promotion control of evolved candidates (promotion.py and governance_safety.py of evolution):
safety interlocks over the collected evidence, and requests that go through governance and approval
to their promotion. The ids of requests are hashes of what they were made of, the clock is read once
in a call, and what the governance gateway answers comes with the call that asks it. -/

namespace AutonomousApi.Promotion

open PythonText RecordTable

structure SafetyInterlockPolicy where
  requireSimulationPassed : Bool := true
  requireVerificationValid : Bool := true
  requireFitnessPassed : Bool := true
  requireCompilerEvidence : Bool := false
  requireFeedbackEvidence : Bool := false
  requireParetoSelection : Bool := true
  requireRollbackPlan : Bool := true
  forbidCriticalIncidents : Bool := true
  forbidCriticalSecurityFindings : Bool := true
  allowBreakingChanges : Bool := false
  maxComplexity : Option Rat := some 100
  failOnFitnessConstraints : Bool := true

/-- The plan is the list of its entries. -/
structure EvolutionEvidence where
  proposalId : String
  candidateId : String
  simulationStatus : Option String := none
  verificationValid : Option Bool := none
  fitnessPassed : Option Bool := none
  constraints : List (String × Bool) := []
  compilerPassed : Option Bool := none
  feedbackPassed : Option Bool := none
  criticalIncident : Bool := false
  criticalSecurityFinding : Bool := false
  paretoSelected : Bool := false
  complexity : Option Rat := none
  publicApiRemoved : Bool := false
  breakingChangesAllowed : Bool := false
  rollbackPlan : Option (List (String × String)) := none
  deriving DecidableEq

/-- An issue of severity ERROR; `evaluate` makes no other. -/
structure SafetyIssue where
  code : String
  message : String
  deriving DecidableEq

structure SafetyInterlockReport where
  proposalId : String
  candidateId : String
  passed : Bool
  issues : List SafetyIssue
  deriving DecidableEq

def issueIf (found : Bool) (code message : String) : List SafetyIssue := if found then [⟨code, message⟩] else []

def constraintIssues (constraints : List (String × Bool)) : List SafetyIssue :=
  constraints.flatMap fun constraint =>
    issueIf (!constraint.2) ("CONSTRAINT_FAILED:" ++ constraint.1) ("Fitness constraint failed: " ++ constraint.1)

def safetyIssues (policy : SafetyInterlockPolicy) (evidence : EvolutionEvidence) : List SafetyIssue :=
  issueIf (policy.requireSimulationPassed && evidence.simulationStatus != some "PASSED")
    "SIMULATION_NOT_PASSED" "Candidate simulation did not pass." ++
  issueIf (policy.requireVerificationValid && evidence.verificationValid != some true)
    "VERIFICATION_NOT_VALID" "Candidate verification is not valid." ++
  issueIf (policy.requireFitnessPassed && evidence.fitnessPassed != some true)
    "FITNESS_NOT_PASSED" "Candidate fitness evaluation did not pass." ++
  issueIf (policy.requireCompilerEvidence && evidence.compilerPassed != some true)
    "COMPILER_EVIDENCE_MISSING" "Compiler-in-the-loop evidence did not pass." ++
  issueIf (policy.requireFeedbackEvidence && evidence.feedbackPassed != some true)
    "FEEDBACK_EVIDENCE_MISSING" "Production feedback evidence did not pass." ++
  issueIf (policy.requireParetoSelection && !evidence.paretoSelected)
    "NOT_PARETO_SELECTED" "Candidate was not selected through Pareto selection." ++
  -- an empty plan is as good as none
  issueIf (policy.requireRollbackPlan && (evidence.rollbackPlan.getD []).isEmpty)
    "ROLLBACK_PLAN_MISSING" "Candidate does not have a rollback plan." ++
  issueIf (policy.forbidCriticalIncidents && evidence.criticalIncident)
    "CRITICAL_INCIDENT_PRESENT" "Critical production incident evidence is present." ++
  issueIf (policy.forbidCriticalSecurityFindings && evidence.criticalSecurityFinding)
    "CRITICAL_SECURITY_FINDING_PRESENT" "Critical security finding evidence is present." ++
  issueIf (match evidence.complexity, policy.maxComplexity with
      | some complexity, some limit => decide (limit < complexity)
      | _, _ => false)
    "COMPLEXITY_LIMIT_EXCEEDED" "Candidate complexity exceeds the configured limit." ++
  issueIf (!(evidence.breakingChangesAllowed || policy.allowBreakingChanges) && evidence.publicApiRemoved)
    "PUBLIC_API_REMOVED" "Public API removal detected without breaking-change approval." ++
  if policy.failOnFitnessConstraints then constraintIssues evidence.constraints else []

/-- `SafetyInterlockEngine.evaluate`. -/
def evaluate (policy : SafetyInterlockPolicy) (evidence : EvolutionEvidence) : SafetyInterlockReport :=
  let issues := safetyIssues policy evidence
  { proposalId := evidence.proposalId, candidateId := evidence.candidateId, passed := issues.isEmpty, issues }

inductive Verdict where
  | allow | deny | requireApproval
  deriving DecidableEq

/-- What a governance authority decides. -/
structure GovernanceDecision where
  decision : Verdict
  reason : String := ""
  deriving DecidableEq

inductive PromotionRequestStatus where
  | draft | safetyChecksPassed | safetyFailed | governancePending | governanceDenied | approved | promoted | rolledBack
  | rejected
  deriving DecidableEq

structure Approval where
  approverId : String
  comments : String
  approvedAt : String
  deriving DecidableEq

structure PromotionRequest where
  id : String
  proposalId : String
  candidateId : String
  environment : String
  actorId : String
  status : PromotionRequestStatus := .draft
  evidence : EvolutionEvidence
  safetyReport : Option SafetyInterlockReport := none
  governanceDecision : Option GovernanceDecision := none
  approval : Option Approval := none
  rollbackPlan : Option (List (String × String)) := none
  error : Option String := none
  createdAt : String
  promotedAt : Option String := none
  rolledBackAt : Option String := none
  deriving DecidableEq

structure GovernancePromotionRequest where
  promotionRequestId : String
  proposalId : String
  candidateId : String
  environment : String
  evidence : EvolutionEvidence
  safetyReport : Option SafetyInterlockReport

structure PromotionControlPolicy where
  requireSafetyChecks : Bool := true
  autoSubmitGovernance : Bool := true
  governanceRequiredEnvironments : List String := ["production", "staging"]
  allowAutoApprovalWhenGovernanceAllow : Bool := true
  failClosedIfGovernanceUnavailable : Bool := true

inductive PromotionError where
  | evidenceRequired
  | notFound (requestId : String)
  | notSubmittable
  | notPending
  | notApproved
  | notPromoted
  /-- What the gateway raises passes through. -/
  | gatewayRaised
  deriving DecidableEq

def PromotionError.message : PromotionError → String
  | .evidenceRequired => "Evolution evidence is required for promotion."
  | .notFound requestId => "Promotion request not found: " ++ requestId
  | .notSubmittable => "Governance submission is only allowed after safety checks pass."
  | .notPending => "Approval is only allowed for GOVERNANCE_PENDING requests."
  | .notApproved => "Promotion is only allowed for APPROVED requests."
  | .notPromoted => "Rollback is only allowed for PROMOTED requests."
  | .gatewayRaised => ""

/-- The parts of a promotion engine that do not change; `requestId` hashes the proposal, the candidate,
the environment and the time of creation, `gateway` says whether one is configured. -/
structure Config where
  table : CharTable
  safetyEngine : SafetyInterlockPolicy → EvolutionEvidence → SafetyInterlockReport := evaluate
  safetyPolicy : SafetyInterlockPolicy := {}
  policy : PromotionControlPolicy := {}
  gateway : Bool
  requestId : String → String → String → String → String

/-- An answer of the gateway; it raises where this is `none`. -/
abbrev Answer := GovernancePromotionRequest → Option GovernanceDecision

abbrev Requests := List PromotionRequest

abbrev Outcome := Requests × Except PromotionError PromotionRequest

variable (config : Config)

def lowered (text : String) : List Char := config.table.lower text.toList

def governanceRequired (environment : String) : Bool :=
  (config.policy.governanceRequiredEnvironments.map (lowered config)).contains (lowered config environment)

def getRequest (requests : Requests) (requestId : String) : Option PromotionRequest :=
  find PromotionRequest.id requests requestId

def save (requests : Requests) (request : PromotionRequest) : Requests := put PromotionRequest.id requests request

def governanceRequest (request : PromotionRequest) : GovernancePromotionRequest :=
  { promotionRequestId := request.id, proposalId := request.proposalId, candidateId := request.candidateId,
    environment := request.environment, evidence := request.evidence, safetyReport := request.safetyReport }

/-- What governance decides about a request. -/
def decisionFor (answer : Answer) (request : PromotionRequest) : Option GovernanceDecision :=
  if config.gateway then answer (governanceRequest request)
  else if config.policy.failClosedIfGovernanceUnavailable && governanceRequired config request.environment then
    some ⟨.deny, "Governance gateway is unavailable."⟩
  else some ⟨.allow, "Governance is not required."⟩

def PromotionRequest.governed (request : PromotionRequest) (decision : GovernanceDecision) : PromotionRequest :=
  let decided := { request with governanceDecision := some decision }
  match decision.decision with
  | .allow =>
      { decided with
        status := if config.policy.allowAutoApprovalWhenGovernanceAllow then .approved else .governancePending }
  | .requireApproval => { decided with status := .governancePending }
  | .deny => { decided with status := .governanceDenied, error := some decision.reason }

/-- `submit_governance` from the request that it has looked up. -/
def submitRequest (requests : Requests) (request : PromotionRequest) (answer : Answer) : Outcome :=
  if request.status = .safetyChecksPassed then
    match decisionFor config answer request with
    | none => (requests, .error .gatewayRaised)
    | some decision => (save requests (request.governed config decision), .ok (request.governed config decision))
  else (requests, .error .notSubmittable)

def submitGovernance (requests : Requests) (requestId : String) (answer : Answer) : Outcome :=
  match getRequest requests requestId with
  | none => (requests, .error (.notFound requestId))
  | some request => submitRequest config requests request answer

def checked (request : PromotionRequest) : PromotionRequest :=
  if config.policy.requireSafetyChecks then
    let report := config.safetyEngine config.safetyPolicy request.evidence
    if report.passed then { request with safetyReport := some report, status := .safetyChecksPassed }
    else { request with
      safetyReport := some report, status := .safetyFailed, error := some "Safety interlocks failed." }
  else { request with status := .safetyChecksPassed }

/-- The request that is created. -/
def draft (proposalId candidateId environment actorId : String) (evidence : EvolutionEvidence) (now : String) :
    PromotionRequest :=
  { id := config.requestId proposalId candidateId environment now, proposalId, candidateId, environment, actorId,
    evidence, rollbackPlan := evidence.rollbackPlan, createdAt := now }

/-- `create_promotion_request`, with the evidence that a collector gives where none is passed. -/
def createPromotionRequest (requests : Requests) (proposalId candidateId environment actorId : String)
    (evidence collected : Option EvolutionEvidence) (answer : Answer) (now : String) : Outcome :=
  match evidence <|> collected with
  | none => (requests, .error .evidenceRequired)
  | some evidence =>
      let request := checked config (draft config proposalId candidateId environment actorId evidence now)
      let saved := save requests request
      if request.status = .safetyFailed then (saved, .ok request)
      else if governanceRequired config environment then
        if config.policy.autoSubmitGovernance then submitRequest config saved request answer
        else
          let pending := { request with status := .governancePending }
          (save saved pending, .ok pending)
      else
        let approved := { request with status := .approved }
        (save saved approved, .ok approved)

def approve (requests : Requests) (requestId approverId comments now : String) : Outcome :=
  match getRequest requests requestId with
  | none => (requests, .error (.notFound requestId))
  | some request =>
      if request.status = .governancePending then
        let approved := { request with approval := some ⟨approverId, comments, now⟩, status := .approved }
        (save requests approved, .ok approved)
      else (requests, .error .notPending)

def promote (requests : Requests) (requestId now : String) : Outcome :=
  match getRequest requests requestId with
  | none => (requests, .error (.notFound requestId))
  | some request =>
      if request.status = .approved then
        let promoted := { request with status := .promoted, promotedAt := some now }
        (save requests promoted, .ok promoted)
      else (requests, .error .notApproved)

def withReason (plan : List (String × String)) (reason : String) : List (String × String) :=
  put Prod.fst plan ("rollback_reason", reason)

def rollback (requests : Requests) (requestId reason now : String) : Outcome :=
  match getRequest requests requestId with
  | none => (requests, .error (.notFound requestId))
  | some request =>
      if request.status = .promoted then
        let rolledBack := { request with
          status := .rolledBack, rolledBackAt := some now,
          rollbackPlan := some (withReason (request.rollbackPlan.getD []) reason) }
        (save requests rolledBack, .ok rolledBack)
      else (requests, .error .notPromoted)

inductive Command where
  | create (proposalId candidateId environment actorId : String) (evidence collected : Option EvolutionEvidence)
      (answer : Answer) (now : String)
  | submit (requestId : String) (answer : Answer)
  | approve (requestId approverId comments now : String)
  | promote (requestId now : String)
  | rollback (requestId reason now : String)

def execute (requests : Requests) : Command → Outcome
  | .create proposalId candidateId environment actorId evidence collected answer now =>
      createPromotionRequest config requests proposalId candidateId environment actorId evidence collected answer now
  | .submit requestId answer => submitGovernance config requests requestId answer
  | .approve requestId approverId comments now => approve requests requestId approverId comments now
  | .promote requestId now => promote requests requestId now
  | .rollback requestId reason now => rollback requests requestId reason now

/-- A call that raises is a step like any other. -/
def step (requests : Requests) (command : Command) : Option Requests := some (execute config requests command).1

end AutonomousApi.Promotion
