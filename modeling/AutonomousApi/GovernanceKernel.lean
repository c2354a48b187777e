import AutonomousApi.ApprovalFinality
import AutonomousApi.ComplianceLaws

/-! The governance kernel and its enforcement point (kernel.py, the dossiers of audit.py, pep/client.py
and pep/enforcement.py of constitutional_architecture/governance). A decision is named by the hash of
its content; its first digits stand for the whole, so `digest` gives the name. A session keeps beside
the kernel which requests were evaluated to which decisions. -/

namespace AutonomousApi.GovernanceKernel

open DataTree JsonValue OrderedMap Compliance ApprovalWorkflow

section

variable {Digest : Type}

structure GovernanceDecision (Digest : Type) extends DecisionPayload where
  decisionHash : Digest
  deriving DecidableEq

/-- What canonical JSON leaves of the content: objects with their keys in order. -/
def canonicalPayload (payload : DecisionPayload) : DecisionPayload :=
  { payload with
    constraints := payload.constraints.map fun constraint => { constraint with value := sortKeys constraint.value } }

def recomputeHash (digest : DecisionPayload → Digest) (payload : DecisionPayload) : GovernanceDecision Digest :=
  { payload with decisionHash := digest (canonicalPayload payload) }

def decisionIdOf (decision : GovernanceDecision Digest) : Digest := decision.decisionHash

/-- What the audit framework keeps of a decision. -/
structure Dossier (Digest : Type) where
  request : EvaluationRequest
  decision : GovernanceDecision Digest
  approvalIds : List String := []
  finalDecision : Option Decision := none
  deriving DecidableEq

/-- What becomes of an enforced or confirmed action. -/
inductive EnforcementResult (Digest : Type) where
  | allowed (decision : GovernanceDecision Digest) (decisionId : Digest) (finalDecision : Option Decision)
  | denied (decisionId : Digest)
  | missingEvidence (requiredEvidence : List String) (decisionId : Digest)
  | approvalRequired (approvalIds : List String) (decisionId : Digest)
  | constraintsNotSatisfied (decisionId : Digest)
  deriving DecidableEq

def EnforcementResult.isAllowed : EnforcementResult Digest → Bool
  | .allowed .. => true
  | _ => false

/-- What a subsystem tells the enforcement point about an action, the environment apart. -/
structure Call where
  subjectType : String
  subjectId : String
  action : String
  actor : Actor
  context : Dict String Json := []
  evidenceRefs : List String := []
  deriving DecidableEq

/-- The request that `GovernanceClient.evaluate` makes; an environment in the context wins. -/
def requestOf (call : Call) (environment : String) : EvaluationRequest where
  subjectType := call.subjectType
  subjectId := call.subjectId
  action := call.action
  actor := call.actor
  context := assignAll (if environment = "" then [] else [("environment", .str environment)]) call.context
  evidenceRefs := call.evidenceRefs

/-- The environment that `confirm` leaves to the client's default. -/
def defaultEnvironment : String := "staging"

end

structure Kernel (Digest : Type) where
  exceptions : List GovernanceException
  approvals : Workflow Digest
  dossiers : Dict Digest (Dossier Digest) := []
  deriving DecidableEq

/-- A kernel with the evaluations it has made. -/
structure Session (Digest : Type) where
  kernel : Kernel Digest
  evaluated : List (EvaluationRequest × GovernanceDecision Digest) := []
  deriving DecidableEq

variable {Digest : Type} [DecidableEq Digest] (digest : DecisionPayload → Digest) (python : FloatText)
  (evalCondition : Condition → EvaluationRequest → Bool × String) (policySets : List PolicySet)

/-- `record_decision_dossier`: a final decision and approval ids of an earlier pass are kept. -/
def recordDecisionDossier (dossiers : Dict Digest (Dossier Digest)) (decision : GovernanceDecision Digest)
    (request : EvaluationRequest) : Dict Digest (Dossier Digest) :=
  let existing := get dossiers (decisionIdOf decision)
  assign dossiers (decisionIdOf decision)
    { request, decision,
      approvalIds := (existing.map (·.approvalIds)).getD [],
      finalDecision := existing.bind (·.finalDecision) }

def updateDossier (dossiers : Dict Digest (Dossier Digest)) (id : Digest)
    (change : Dossier Digest → Dossier Digest) : Dict Digest (Dossier Digest) :=
  match get dossiers id with
  | none => dossiers
  | some dossier => assign dossiers id (change dossier)

def attachApprovalIds (dossiers : Dict Digest (Dossier Digest)) (id : Digest) (approvalIds : List String) :
    Dict Digest (Dossier Digest) :=
  updateDossier dossiers id fun dossier => { dossier with approvalIds }

def finalizeDossierDecision (dossiers : Dict Digest (Dossier Digest)) (id : Digest) (final : Decision) :
    Dict Digest (Dossier Digest) :=
  updateDossier dossiers id fun dossier => { dossier with finalDecision := some final }

/-- `GovernanceKernel.evaluate`. -/
def evaluate (session : Session Digest) (now : Int) (request : EvaluationRequest) :
    Session Digest × GovernanceDecision Digest :=
  let evaluation := Compliance.evaluate evalCondition policySets session.kernel.exceptions now request
  let decision := recomputeHash digest evaluation.1
  ({ kernel := { session.kernel with
      exceptions := evaluation.2,
      dossiers := recordDecisionDossier session.kernel.dossiers decision request },
     evaluated := session.evaluated ++ [(request, decision)] }, decision)

/-- `create_approvals`. -/
def createApprovals (session : Session Digest) (evaluation : GovernanceDecision Digest) (ids : List String)
    (createdAt : Rat) : Session Digest :=
  { session with kernel := { session.kernel with
    approvals := createApprovalRequest session.kernel.approvals (decisionIdOf evaluation)
      evaluation.requiredApprovals ids createdAt } }

/-- `submit_approval`; where it raises nothing has changed. -/
def submitApproval (session : Session Digest) (approvalId : String) (decision : ApprovalDecision)
    (comments : Option String) : Session Digest :=
  { session with kernel := { session.kernel with
    approvals := (submitDecision session.kernel.approvals approvalId decision comments []).getD
      session.kernel.approvals } }

/-- `finalize`. It does not ask which decision it finalizes; it raises where `approve` does. -/
def finalize (session : Session Digest) (evaluation : GovernanceDecision Digest) : Session Digest :=
  let id := decisionIdOf evaluation
  let approved := approve python session.kernel.approvals id evaluation.requiredApprovals
  match approved.2 with
  | none => { session with kernel := { session.kernel with approvals := approved.1 } }
  | some final =>
      { session with kernel := { session.kernel with
        approvals := approved.1,
        dossiers := finalizeDossierDecision
          (attachApprovalIds session.kernel.dossiers id ((approvalsFor approved.1 id).map (·.id))) id final } }

/-- `PEPEnforcer.enforce`. Whether the constraints are satisfied is the caller's handler's word. -/
def enforce (session : Session Digest) (call : Call) (environment : String) (satisfied : Bool) (ids : List String)
    (createdAt : Rat) (now : Int) : Session Digest × EnforcementResult Digest :=
  let evaluation := evaluate digest evalCondition policySets session now (requestOf call environment)
  let decision := evaluation.2
  match decision.decision with
  | .deny => (evaluation.1, .denied (decisionIdOf decision))
  | .requireEvidence => (evaluation.1, .missingEvidence decision.requiredEvidence (decisionIdOf decision))
  | .requireApproval =>
      (createApprovals evaluation.1 decision ids createdAt, .approvalRequired ids (decisionIdOf decision))
  | .allowWithConstraints =>
      (evaluation.1,
        if satisfied then .allowed decision (decisionIdOf decision) none
        else .constraintsNotSatisfied (decisionIdOf decision))
  | .allow => (evaluation.1, .allowed decision (decisionIdOf decision) none)

/-- `PEPEnforcer.confirm`. The dossier is looked up by the id alone. -/
def confirm (session : Session Digest) (originalDecisionId : Digest) (call : Call) (now : Int) :
    Session Digest × EnforcementResult Digest :=
  let evaluation := evaluate digest evalCondition policySets session now (requestOf call defaultEnvironment)
  let fresh := evaluation.2
  match fresh.decision with
  | .deny => (evaluation.1, .denied (decisionIdOf fresh))
  | .requireEvidence => (evaluation.1, .missingEvidence fresh.requiredEvidence (decisionIdOf fresh))
  | .requireApproval =>
      (evaluation.1,
        if (get evaluation.1.kernel.dossiers originalDecisionId).bind (·.finalDecision) = some .allow then
          .allowed fresh originalDecisionId (some .allow)
        else .approvalRequired [] originalDecisionId)
  | .allowWithConstraints => (evaluation.1, .constraintsNotSatisfied (decisionIdOf fresh))
  | .allow => (evaluation.1, .allowed fresh originalDecisionId (some fresh.decision))

inductive Command (Digest : Type) where
  | advance (now : Rat)
  | evaluate (now : Int) (request : EvaluationRequest)
  | createApprovals (evaluation : GovernanceDecision Digest) (ids : List String) (createdAt : Rat)
  | submitApproval (approvalId : String) (decision : ApprovalDecision) (comments : Option String)
  | finalize (evaluation : GovernanceDecision Digest)
  | enforce (call : Call) (environment : String) (satisfied : Bool) (ids : List String) (createdAt : Rat) (now : Int)
  | confirm (originalDecisionId : Digest) (call : Call) (now : Int)

/-- The decision was returned by an evaluation, or by the finalization of one, which changes its kind only. -/
def Issued (session : Session Digest) (evaluation : GovernanceDecision Digest) : Prop :=
  ∃ entry ∈ session.evaluated,
    evaluation.decisionHash = entry.2.decisionHash ∧ evaluation.requiredApprovals = entry.2.requiredApprovals

instance (session : Session Digest) (evaluation : GovernanceDecision Digest) : Decidable (Issued session evaluation) :=
  inferInstanceAs (Decidable (∃ entry ∈ session.evaluated, _ ∧ _))

/-- One call of the kernel or of the enforcement point, with decisions that were issued and with ids
that are drawn fresh. -/
def execute (session : Session Digest) : Command Digest → Option (Session Digest)
  | .advance now =>
      if session.kernel.approvals.now ≤ now then
        some { session with kernel := { session.kernel with approvals := { session.kernel.approvals with now } } }
      else none
  | .evaluate now request => some (evaluate digest evalCondition policySets session now request).1
  | .createApprovals evaluation ids createdAt =>
      if Issued session evaluation ∧ Fresh session.kernel.approvals evaluation.requiredApprovals ids then
        some (createApprovals session evaluation ids createdAt)
      else none
  | .submitApproval approvalId decision comments => some (submitApproval session approvalId decision comments)
  | .finalize evaluation => if Issued session evaluation then some (finalize python session evaluation) else none
  | .enforce call environment satisfied ids createdAt now =>
      let enforced := enforce digest evalCondition policySets session call environment satisfied ids createdAt now
      let decision := (evaluate digest evalCondition policySets session now (requestOf call environment)).2
      if decision.decision = .requireApproval → Fresh session.kernel.approvals decision.requiredApprovals ids then
        some enforced.1
      else none
  | .confirm originalDecisionId call now =>
      some (confirm digest evalCondition policySets session originalDecisionId call now).1

end AutonomousApi.GovernanceKernel
