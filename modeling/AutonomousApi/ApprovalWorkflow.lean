import AutonomousApi.Compliance
import AutonomousApi.PythonText
import AutonomousApi.RecordTable
import AutonomousApi.Runs
import Mathlib.Algebra.Order.Ring.Unbundled.Rat

/-! The approval workflow engine of the governance kernel (approval_workflow.py of
constitutional_architecture/governance): records that are created for an evaluation's requirements,
decided or timed out, and read when the evaluation is finalized. Instants are seconds. Evaluations
are named by values of any type, the generated record ids and the readings of the clock come from
outside, and `readFloat` is Python's `float` of a text. -/

namespace AutonomousApi.ApprovalWorkflow

open Compliance OrderedMap PythonText RecordTable

inductive ApprovalDecision where
  | approved | rejected | abstained | expired
  deriving DecidableEq

inductive ApprovalStatus where
  | pending | approved | rejected | abstained | expired
  deriving DecidableEq

structure FloatText extends CharTable where
  readFloat : List Char → Option Rat

structure ApprovalRecord (Evaluation : Type) where
  id : String
  evaluationId : Evaluation
  requirement : ApprovalRequirement
  status : ApprovalStatus := .pending
  decision : Option ApprovalDecision := none
  comments : Option String := none
  approvedConstraints : List Constraint := []
  createdAt : Rat
  decidedAt : Option Rat := none
  deriving DecidableEq

/-- The engine, with the reading of its clock. -/
structure Workflow (Evaluation : Type) where
  approvals : List (ApprovalRecord Evaluation) := []
  evaluationApprovals : Dict Evaluation (List String) := []
  now : Rat
  deriving DecidableEq

variable {Evaluation : Type} [DecidableEq Evaluation] (python : FloatText)

def secondsOf (unit : Char) : Rat :=
  if unit = 'D' then 86400 else if unit = 'H' then 3600 else if unit = 'M' then 60 else 1

/-- The loop of `_parse_duration`, with its variables `total` and `number`; letters other than the
units are passed over. -/
def durationLoop : List Char → Rat → List Char → Option (Rat × List Char)
  | [], total, number => some (total, number)
  | char :: rest, total, number =>
      if python.isDigit char || char == '.' then durationLoop rest total (number ++ [char])
      else if ['H', 'M', 'S', 'D'].contains char then
        if number.isEmpty then none
        else (python.readFloat number).bind fun value => durationLoop rest (total + value * secondsOf char) []
      else durationLoop rest total number

/-- `_parse_duration`; it raises where this is `none`. -/
def parseDuration (duration : String) : Option Rat :=
  (durationLoop python ((strip python.toCharTable duration.toList).flatMap python.upper) 0 []).bind fun read =>
    if read.2.isEmpty && read.1 == 0 then none else some read.1

def defaultTimeout : Rat := 48 * 3600

def timeoutOf (requirement : ApprovalRequirement) : Option Rat :=
  match requirement.timeoutDuration with
  | none => some defaultTimeout
  | some duration => if duration = "" then some defaultTimeout else parseDuration python duration

/-- `_is_expired`; it raises on a duration that cannot be read. -/
def isExpired (record : ApprovalRecord Evaluation) (now : Rat) : Option Bool :=
  (timeoutOf python record.requirement).map fun timeout => decide (record.createdAt + timeout < now)

def ApprovalRecord.timeOut (record : ApprovalRecord Evaluation) : ApprovalRecord Evaluation :=
  { record with status := .expired, decision := some .expired }

/-- The loop of `refresh_timeouts` over the records; it stops where `_is_expired` raises, and says
whether it came to the end. -/
def refreshLoop (now : Rat) : List (ApprovalRecord Evaluation) → List (ApprovalRecord Evaluation) × Bool
  | [] => ([], true)
  | record :: rest =>
      if record.status = .pending then
        match isExpired python record now with
        | none => (record :: rest, false)
        | some late => ((if late then record.timeOut else record) :: (refreshLoop now rest).1, (refreshLoop now rest).2)
      else (record :: (refreshLoop now rest).1, (refreshLoop now rest).2)

/-- `create_approval_request`. The ids of an evaluation's earlier records are replaced. -/
def createApprovalRequest (engine : Workflow Evaluation) (evaluationId : Evaluation)
    (requirements : List ApprovalRequirement) (ids : List String) (createdAt : Rat) : Workflow Evaluation :=
  let records := (requirements.zip ids).map fun drawn =>
    ({ id := drawn.2, evaluationId, requirement := drawn.1, createdAt } : ApprovalRecord Evaluation)
  { engine with
    approvals := engine.approvals ++ records,
    evaluationApprovals := assign engine.evaluationApprovals evaluationId (records.map (·.id)) }

def statusOf : ApprovalDecision → ApprovalStatus
  | .approved => .approved
  | .rejected => .rejected
  | .abstained | .expired => .abstained

def ApprovalRecord.decide (record : ApprovalRecord Evaluation) (decision : ApprovalDecision) (comments : Option String)
    (approvedConstraints : List Constraint) (now : Rat) : ApprovalRecord Evaluation :=
  { record with
    decision := some decision, status := statusOf decision, comments, approvedConstraints, decidedAt := some now }

/-- `submit_decision`; it raises for an unknown record and for one that is not pending. -/
def submitDecision (engine : Workflow Evaluation) (approvalId : String) (decision : ApprovalDecision)
    (comments : Option String) (approvedConstraints : List Constraint) : Option (Workflow Evaluation) :=
  match find ApprovalRecord.id engine.approvals approvalId with
  | none => none
  | some record =>
      if record.status = .pending then
        some { engine with
          approvals := put ApprovalRecord.id engine.approvals
            (record.decide decision comments approvedConstraints engine.now) }
      else none

def refreshTimeouts (engine : Workflow Evaluation) : Workflow Evaluation × Bool :=
  let refreshed := refreshLoop python engine.now engine.approvals
  ({ engine with approvals := refreshed.1 }, refreshed.2)

def approvalIds (engine : Workflow Evaluation) (evaluationId : Evaluation) : List String :=
  (get engine.evaluationApprovals evaluationId).getD []

def approvalsFor (engine : Workflow Evaluation) (evaluationId : Evaluation) : List (ApprovalRecord Evaluation) :=
  (approvalIds engine evaluationId).filterMap (find ApprovalRecord.id engine.approvals)

/-- What records are matched by. -/
def approverKey (requirement : ApprovalRequirement) : ApproverType × String :=
  (requirement.approverType, requirement.approverId.getD "")

/-- The loop of `approve` over the required list. -/
def judge (records : List (ApprovalRecord Evaluation)) : List ApprovalRequirement → Decision
  | [] => .allow
  | requirement :: rest =>
      let matching := records.filter fun record => approverKey record.requirement = approverKey requirement
      if matching.isEmpty then .requireApproval
      else if matching.any fun record => record.status = .rejected then .deny
      else if matching.any fun record =>
          record.status = .expired ∧ record.requirement.timeoutPolicy = .denyOnTimeout then .deny
      else if requirement.required && !matching.any fun record => record.status = .approved then .requireApproval
      else judge records rest

/-- `approve`; it raises where `refresh_timeouts` does. -/
def approve (engine : Workflow Evaluation) (evaluationId : Evaluation) (required : List ApprovalRequirement) :
    Workflow Evaluation × Option Decision :=
  let refreshed := refreshTimeouts python engine
  (refreshed.1, if refreshed.2 then some (judge (approvalsFor refreshed.1 evaluationId) required) else none)

inductive Command (Evaluation : Type) where
  | advance (now : Rat)
  | create (evaluationId : Evaluation) (requirements : List ApprovalRequirement) (ids : List String) (createdAt : Rat)
  | submit (approvalId : String) (decision : ApprovalDecision) (comments : Option String)
      (approvedConstraints : List Constraint)
  | refresh
  | approve (evaluationId : Evaluation) (required : List ApprovalRequirement)

/-- The generated ids are one for each requirement, new and different from each other. -/
def Fresh (engine : Workflow Evaluation) (requirements : List ApprovalRequirement) (ids : List String) : Prop :=
  ids.length = requirements.length ∧ ids.Nodup ∧ ∀ id ∈ ids, id ∉ engine.approvals.map ApprovalRecord.id

instance (engine : Workflow Evaluation) (requirements : List ApprovalRequirement) (ids : List String) :
    Decidable (Fresh engine requirements ids) :=
  inferInstanceAs (Decidable (_ ∧ _ ∧ _))

/-- One call. The clock does not go back; a call that raises leaves what it changed before. -/
def execute (engine : Workflow Evaluation) : Command Evaluation → Option (Workflow Evaluation)
  | .advance now => if engine.now ≤ now then some { engine with now } else none
  | .create evaluationId requirements ids createdAt =>
      if Fresh engine requirements ids then
        some (createApprovalRequest engine evaluationId requirements ids createdAt)
      else none
  | .submit approvalId decision comments approvedConstraints =>
      some ((submitDecision engine approvalId decision comments approvedConstraints).getD engine)
  | .refresh => some (refreshTimeouts python engine).1
  | .approve evaluationId required => some (approve python engine evaluationId required).1

end AutonomousApi.ApprovalWorkflow
