import AutonomousApi.OrderedMap
import AutonomousApi.PythonText
import AutonomousApi.Runs

/-! The governance subsystem of autonomous-api/app/governance: lifecycle decisions about
candidates, checked against the fold of the candidate's event log and then appended to it.
`request_decision` awaits its stores, so a call is several steps: it loads the council, the
gates and the log, and what it has checked is appended later. -/

namespace AutonomousApi.Governance

open OrderedMap

inductive LifecycleState where
  | proposed | evaluating | verified | certified | selected | deployed | operating | retired
  deriving DecidableEq

namespace LifecycleState

/-- `LIFECYCLE_ORDER`. -/
def order : LifecycleState → Nat
  | proposed => 0
  | evaluating => 1
  | verified => 2
  | certified => 3
  | selected => 4
  | deployed => 5
  | operating => 6
  | retired => 7

def text : LifecycleState → String
  | proposed => "proposed"
  | evaluating => "evaluating"
  | verified => "verified"
  | certified => "certified"
  | selected => "selected"
  | deployed => "deployed"
  | operating => "operating"
  | retired => "retired"

end LifecycleState

def isLegalTransition (fromState toState : LifecycleState) : Bool := toState.order == fromState.order + 1

/-- `TRANSITION_GATES`, with `()` for a pair that it does not list. -/
def requiredGateCategories : LifecycleState → LifecycleState → List String
  | .proposed, .evaluating => ["intake"]
  | .evaluating, .verified => ["verification"]
  | .verified, .certified => ["certification"]
  | .certified, .selected => ["selection"]
  | .selected, .deployed => ["deployment-readiness"]
  | .deployed, .operating => ["operational-readiness"]
  | .operating, .retired => ["retirement"]
  | _, _ => []

inductive GateStatus where
  | pending | passed | failed | waived
  deriving DecidableEq

inductive Verdict where
  | approve | reject | defer
  deriving DecidableEq

/-- The `DecisionVerdict` that a text names. -/
def Verdict.read : String → Option Verdict
  | "approve" => some .approve
  | "reject" => some .reject
  | "defer" => some .defer
  | _ => none

structure CouncilMember (Weight : Type) where
  memberId : String
  votingWeight : Weight
  deriving DecidableEq

structure Gate where
  gateId : String
  guards : List (LifecycleState × LifecycleState)
  deriving DecidableEq

structure GateOutcome where
  gateId : String
  candidateId : String
  status : GateStatus
  evaluatedBy : String
  waivedBy : Option String := none
  note : Option String := none
  evaluatedAt : String
  deriving DecidableEq

structure Decision where
  decisionId : String
  candidateId : String
  generation : Nat
  verdict : Verdict
  fromState : LifecycleState
  toState : LifecycleState
  authorizesTransition : Bool
  decidedBy : List String
  rationale : String
  supersedesDecisionId : Option String
  decidedAt : String
  deriving DecidableEq

structure Certification where
  certificationId : String
  candidateId : String
  certifiedBy : String
  criteria : String
  grantedAt : String
  revokedAt : Option String := none
  revokedBy : Option String := none
  deriving DecidableEq

inductive Event (Weight : Type) where
  | decisionMade (decision : Decision)
  | gateEvaluated (outcome : GateOutcome)
  | certificationGranted (certification : Certification)
  | certificationRevoked (certificationId revokedAt revokedBy : String)
  | councilUpdated (members : List (CouncilMember Weight)) (updatedBy updatedAt : String)
  | gateRegistered (gate : Gate)
  deriving DecidableEq

structure RequestGovernanceDecision where
  candidateId : String
  generation : Nat
  fromState : LifecycleState
  toState : LifecycleState
  decidedBy : List String
  verdict : String := "approve"
  authorizesTransition : Bool := true
  rationale : String := ""
  supersedesDecisionId : Option String := none
  deriving DecidableEq

section

variable {Weight : Type}

/-- `CandidateGovernanceState`. -/
structure CandidateState where
  currentState : LifecycleState := .proposed
  decisions : List Decision := []
  gateOutcomes : List GateOutcome := []
  certifications : List Certification := []
  deriving DecidableEq

def Decision.moves (decision : Decision) : Bool := decision.verdict == .approve && decision.authorizesTransition

def revoke (certificationId revokedAt revokedBy : String) (certification : Certification) : Certification :=
  if certification.certificationId = certificationId then
    { certification with revokedAt := some revokedAt, revokedBy := some revokedBy }
  else certification

def CandidateState.apply (state : CandidateState) : Event Weight → CandidateState
  | .decisionMade decision =>
      { state with decisions := state.decisions ++ [decision],
                   currentState := if decision.moves then decision.toState else state.currentState }
  | .gateEvaluated outcome => { state with gateOutcomes := state.gateOutcomes ++ [outcome] }
  | .certificationGranted certification => { state with certifications := state.certifications ++ [certification] }
  | .certificationRevoked certificationId revokedAt revokedBy =>
      { state with certifications := state.certifications.map (revoke certificationId revokedAt revokedBy) }
  | .councilUpdated .. | .gateRegistered _ => state

def fold (events : List (Event Weight)) : CandidateState := events.foldl CandidateState.apply {}

def CandidateState.gateStatus (state : CandidateState) (gateId : String) : Option GateStatus :=
  (state.gateOutcomes.reverse.find? fun outcome => outcome.gateId == gateId).map GateOutcome.status

/-- The voting arithmetic: floating point, its sum and its comparison. -/
structure Quorum (Weight : Type) where
  threshold : Weight
  executiveWeight : Weight
  zero : Weight
  sum : List Weight → Weight
  below : Weight → Weight → Bool

/-- What a command can be refused for. -/
inductive Violation (Weight : Type) where
  | invalid
  | sameState (state : LifecycleState)
  | notNext (fromState toState : LifecycleState)
  | notCurrent (currentState fromState : LifecycleState)
  | outstanding (fromState toState : LifecycleState) (categories missing : List String)
  | waiverUnaccounted (gateId : String)
  | unauthorized (deciders : List String)
  | belowQuorum (total threshold : Weight)
  deriving DecidableEq

/-- The text of the exception; `repr` is Python's, `places` the format `%.2f`. -/
def Violation.message (repr : String → String) (tuple list : List String → String) (places : Weight → String) :
    Violation Weight → String
  | .invalid => "validation error"
  | .sameState state => "G-1 violated: fromState == toState (" ++ state.text ++ ")"
  | .notNext fromState toState =>
      "G-1 violated: " ++ fromState.text ++ " -> " ++ toState.text ++ " is not the next legal lifecycle step"
  | .notCurrent currentState fromState =>
      "G-1 violated: candidate is in state " ++ repr currentState.text ++ ", not " ++ repr fromState.text
  | .outstanding fromState toState categories missing =>
      "G-2 violated: transition " ++ fromState.text ++ "->" ++ toState.text ++ " requires gates " ++
        tuple categories ++ " to be passed/waived; outstanding: " ++ list missing
  | .waiverUnaccounted gateId => "G-3 violated: waived gate " ++ gateId ++ " requires waivedBy"
  | .unauthorized deciders => "G-5 violated: deciders not on council/executive: " ++ list deciders
  | .belowQuorum total threshold =>
      "G-7 violated: voting weight " ++ places total ++ " < quorum threshold " ++ places threshold

def checkG1 (decision : Decision) : Except (Violation Weight) Unit :=
  if decision.fromState = decision.toState then .error (.sameState decision.fromState)
  else if !isLegalTransition decision.fromState decision.toState then
    .error (.notNext decision.fromState decision.toState)
  else .ok ()

def Gate.guarding (fromState toState : LifecycleState) (gate : Gate) : Bool :=
  gate.guards.any fun guard => guard.1 == fromState && guard.2 == toState

def GateStatus.satisfied (status : GateStatus) : Bool := status == .passed || status == .waived

/-- The loop over the outcomes, each discarding its gate from the set. -/
def discardSatisfied (candidateId : String) (ids : List String) (outcomes : List GateOutcome) : List String :=
  outcomes.foldl (fun left outcome =>
    if outcome.candidateId == candidateId && outcome.status.satisfied then left.filter (· != outcome.gateId)
    else left) ids

def checkG2 (decision : Decision) (outcomes : List GateOutcome) (gates : List Gate) : Except (Violation Weight) Unit :=
  if !decision.moves then .ok ()
  else
    let missing := PythonText.sortedSet (discardSatisfied decision.candidateId
      ((gates.filter (Gate.guarding decision.fromState decision.toState)).map Gate.gateId) outcomes)
    let categories := requiredGateCategories decision.fromState decision.toState
    -- a transition outside the table needs no gate
    if categories.isEmpty then .ok ()
    else if missing.isEmpty then .ok ()
    else .error (.outstanding decision.fromState decision.toState categories missing)

def checkG3 (outcome : GateOutcome) : Except (Violation Weight) Unit :=
  if outcome.status = .waived ∧ outcome.waivedBy.getD "" = "" then .error (.waiverUnaccounted outcome.gateId)
  else .ok ()

def executiveId : String := "executive"

def checkG5 (decidedBy : List String) (council : List (CouncilMember Weight)) : Except (Violation Weight) Unit :=
  let unauthorized := decidedBy.filter fun decider =>
    !(decider == executiveId || council.any fun member => member.memberId == decider)
  if unauthorized.isEmpty then .ok () else .error (.unauthorized unauthorized)

def votes (quorum : Quorum Weight) (council : List (CouncilMember Weight)) (decider : String) : Weight :=
  if decider = executiveId then quorum.executiveWeight
  else (get (assignAll [] (council.map fun member => (member.memberId, member.votingWeight))) decider).getD quorum.zero

def checkG7 (quorum : Quorum Weight) (decidedBy : List String) (council : List (CouncilMember Weight)) :
    Except (Violation Weight) Unit :=
  let total := quorum.sum (decidedBy.map (votes quorum council))
  if quorum.below total quorum.threshold then .error (.belowQuorum total quorum.threshold) else .ok ()

/-- The decision that `request_decision` builds; an unknown verdict and an empty list of
deciders fail its validation. -/
def buildDecision (state : CandidateState) (command : RequestGovernanceDecision) (decidedAt : String) :
    Option Decision :=
  match Verdict.read command.verdict, command.decidedBy with
  | none, _ | _, [] => none
  | some verdict, decidedBy => some
      { decisionId := "dec-" ++ command.candidateId ++ "-" ++ toString (state.decisions.length + 1),
        candidateId := command.candidateId, generation := command.generation, verdict,
        fromState := command.fromState, toState := command.toState,
        authorizesTransition := command.authorizesTransition, decidedBy, rationale := command.rationale,
        supersedesDecisionId := command.supersedesDecisionId, decidedAt }

def checkTransition (state : CandidateState) (decision : Decision) : Except (Violation Weight) Unit :=
  if decision.authorizesTransition then do
    checkG1 decision
    if state.currentState ≠ decision.fromState then .error (.notCurrent state.currentState decision.fromState)
    else .ok ()
  else .ok ()

def checkApproval (quorum : Quorum Weight) (council : List (CouncilMember Weight)) (gates : List Gate)
    (state : CandidateState) (decision : Decision) : Except (Violation Weight) Unit :=
  if decision.verdict = .approve then do
    checkG2 decision state.gateOutcomes gates
    checkG7 quorum decision.decidedBy council
  else .ok ()

/-- The checks of `request_decision`, in its order. -/
def checkDecision (quorum : Quorum Weight) (council : List (CouncilMember Weight)) (gates : List Gate)
    (state : CandidateState) (decision : Decision) : Except (Violation Weight) Unit := do
  checkTransition state decision
  checkG5 decision.decidedBy council
  checkApproval quorum council gates state decision

def requestDecision (quorum : Quorum Weight) (council : List (CouncilMember Weight)) (gates : List Gate)
    (state : CandidateState) (command : RequestGovernanceDecision) (decidedAt : String) :
    Except (Violation Weight) Decision :=
  match buildDecision state command decidedAt with
  | none => .error .invalid
  | some decision => (checkDecision quorum council gates state decision).map fun _ => decision

end

variable {Weight : Type}

/-- A call of `request_decision` between two of its awaits. -/
inductive Call (Weight : Type) where
  | council (command : RequestGovernanceDecision) (council : List (CouncilMember Weight))
  | gates (command : RequestGovernanceDecision) (council : List (CouncilMember Weight)) (gates : List Gate)
  | checked (state : CandidateState) (decision : Decision)
  deriving DecidableEq

structure System (Weight : Type) where
  log : Dict String (List (Event Weight)) := []
  council : Option (List (CouncilMember Weight)) := none
  gates : Dict String Gate := []
  calls : List (Call Weight) := []
  deriving DecidableEq

/-- The commands, and the later steps of the calls in flight, by their place. -/
inductive Action (Weight : Type) where
  | request (command : RequestGovernanceDecision)
  | loadGates (index : Nat)
  | materialize (index : Nat) (now : String)
  | append (index : Nat)
  | recordGateEvaluation (outcome : GateOutcome)
  | grantCertification (certification : Certification)
  | revokeCertification (candidateId certificationId revokedAt revokedBy : String)
  | updateCouncil (members : List (CouncilMember Weight)) (updatedBy updatedAt : String)
  | registerGate (gate : Gate)

def registry : String := "_registry"

/-- `materialize_candidate`. -/
def System.candidate (system : System Weight) (candidateId : String) : CandidateState :=
  fold (group system.log candidateId)

def step (quorum : Quorum Weight) (certifiers : List String) (system : System Weight) :
    Action Weight → Option (System Weight)
  | .request command =>
      some { system with calls := system.calls ++ [.council command (system.council.getD [])] }
  | .loadGates index =>
      match system.calls[index]? with
      | some (.council command council) =>
          some { system with calls := system.calls.set index (.gates command council (system.gates.map Prod.snd)) }
      | _ => none
  | .materialize index now =>
      match system.calls[index]? with
      | some (.gates command council gates) =>
          match requestDecision quorum council gates (system.candidate command.candidateId) command now with
          | .ok decision =>
              some { system with
                calls := system.calls.set index (.checked (system.candidate command.candidateId) decision) }
          -- the call raises, and nothing is appended
          | .error _ => some { system with calls := system.calls.eraseIdx index }
      | _ => none
  | .append index =>
      match system.calls[index]? with
      | some (.checked _ decision) =>
          -- `append` takes no expected version, so the checked state is not compared
          some { system with log := push system.log decision.candidateId (.decisionMade decision),
                             calls := system.calls.eraseIdx index }
      | _ => none
  | .recordGateEvaluation outcome =>
      match (checkG3 outcome : Except (Violation Weight) Unit) with
      | .ok _ => some { system with log := push system.log outcome.candidateId (.gateEvaluated outcome) }
      | .error _ => some system
  | .grantCertification certification =>
      -- an empty set recognizes every authority
      if certifiers ≠ [] ∧ certification.certifiedBy ∉ certifiers then some system
      else some { system with
        log := push system.log certification.candidateId (.certificationGranted certification) }
  | .revokeCertification candidateId certificationId revokedAt revokedBy =>
      some { system with
        log := push system.log candidateId (.certificationRevoked certificationId revokedAt revokedBy) }
  | .updateCouncil members updatedBy updatedAt =>
      some { system with council := some members,
                         log := push system.log registry (.councilUpdated members updatedBy updatedAt) }
  | .registerGate gate =>
      some { system with gates := assign system.gates gate.gateId gate,
                         log := push system.log registry (.gateRegistered gate) }

end AutonomousApi.Governance
