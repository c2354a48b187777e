import AutonomousApi.JsonIndented
import AutonomousApi.PythonText
import AutonomousApi.RecordTable
import Mathlib.Data.Prod.Lex

/-! The chain of constitution versions. A version is proposed under a number above all others and is
ratified by an approved vote, which supersedes the version ratified before. The versions are kept in
memory or in one JSON file that every command reads and writes again. -/

namespace AutonomousApi.ConstitutionVersions

open JsonValue OrderedMap PythonLiteral PythonText RecordTable

inductive VersionStatus where
  | proposed
  | ratified
  | superseded
  | retired
  deriving DecidableEq

def VersionStatus.value : VersionStatus → String
  | .proposed => "proposed"
  | .ratified => "ratified"
  | .superseded => "superseded"
  | .retired => "retired"

inductive ChangeKind where
  | amendment
  | emergencyPatch
  | restatement
  deriving DecidableEq

variable {Moment : Type}

structure ConstitutionVersionISR (Moment : Type) where
  versionId : String
  semver : String
  status : VersionStatus
  policySetRef : String
  proposedBy : String
  proposedAt : Moment
  predecessorRef : Option String
  ratificationWorkflowRef : Option String
  lineageRef : Option String
  effectiveAt : Option Moment
  deriving DecidableEq

structure ChangeLineageISR (Moment : Type) where
  lineageId : String
  changeKind : ChangeKind
  parentVersionRefs : List String
  authorizingWorkflowRef : String
  summary : String
  createdAt : Moment
  deriving DecidableEq

structure VoteOutcome where
  workflowRef : String
  approved : Bool
  reason : String

/-- `integer` and `validation` are what `int` and pydantic raise. -/
inductive VersioningError where
  | invalidSemver (value : String)
  | integer (value : String)
  | validation
  | duplicateVersionId (versionId : String)
  | unknownVersionId (versionId : String)
  | semverMustStrictlyIncrease (semver existing : String)
  | onlyProposedVersionsCanBeRatified (status : VersionStatus)
  | ratificationRequiresApprovedVote (reason : String)
  | multipleRatifiedHeadsDetected
  deriving DecidableEq

/-- The texts of the errors that the versioning code raises itself. -/
def VersioningError.message (repr : String → String) : VersioningError → Option String
  | .invalidSemver value => some ("invalid semver:" ++ repr value)
  | .integer _ => none
  | .validation => none
  | .duplicateVersionId versionId => some ("duplicate_version_id:" ++ versionId)
  | .unknownVersionId versionId => some ("unknown_version_id:" ++ versionId)
  | .semverMustStrictlyIncrease semver existing => some ("semver_must_strictly_increase:" ++ semver ++ "<=" ++ existing)
  | .onlyProposedVersionsCanBeRatified status => some ("only_proposed_versions_can_be_ratified:" ++ status.value)
  | .ratificationRequiresApprovedVote reason => some ("ratification_requires_approved_vote:" ++ reason)
  | .multipleRatifiedHeadsDetected => some "multiple_ratified_heads_detected"

section

abbrev Semver := Nat ×ₗ Nat ×ₗ Nat

-- `int` reads decimals of any script and refuses texts over the interpreter's limit of digits
variable (table : CharTable) (int : List Char → Option Nat)

def decimals (part : List Char) : Bool := !part.isEmpty && part.all table.isDecimal

def parseSemver (value : String) : Except VersioningError Semver :=
  match (strip table value.toList).splitOn '.' with
  | [major, minor, patch] =>
      if decimals table major && decimals table minor && decimals table patch then
        match int major, int minor, int patch with
        | some major, some minor, some patch => .ok (toLex (major, toLex (minor, patch)))
        | _, _, _ => .error (.integer value)
      else .error (.invalidSemver value)
  | _ => .error (.invalidSemver value)

structure Repository (Store Moment : Type) where
  add : Store → ConstitutionVersionISR Moment → Except VersioningError Store
  replace : Store → ConstitutionVersionISR Moment → Except VersioningError Store
  get : Store → String → Except VersioningError (Option (ConstitutionVersionISR Moment))
  all : Store → Except VersioningError (List (ConstitutionVersionISR Moment))

abbrev Versions (Moment : Type) := List (ConstitutionVersionISR Moment)

def versionIds (versions : Versions Moment) : List String := versions.map ConstitutionVersionISR.versionId

def inMemory : Repository (Versions Moment) Moment where
  add versions version :=
    if version.versionId ∈ versionIds versions then .error (.duplicateVersionId version.versionId)
    else .ok (put ConstitutionVersionISR.versionId versions version)
  replace versions version :=
    if version.versionId ∈ versionIds versions then .ok (put ConstitutionVersionISR.versionId versions version)
    else .error (.unknownVersionId version.versionId)
  get versions versionId := .ok (find ConstitutionVersionISR.versionId versions versionId)
  all versions := .ok versions

/-- How pydantic writes a datetime into JSON and reads one. -/
structure MomentText (Moment : Type) where
  dump : Moment → String
  validate : Json → Option Moment
  readBack (moment : Moment) : validate (.str (dump moment)) = some moment

variable (moments : MomentText Moment)

def dumpText : Option String → Json
  | none => .null
  | some text => .str text

/-- `version.model_dump(mode="json")`. -/
def dumpVersion (version : ConstitutionVersionISR Moment) : List (String × Json) :=
  [("version_id", .str version.versionId), ("semver", .str version.semver), ("status", .str version.status.value),
    ("policy_set_ref", .str version.policySetRef), ("proposed_by", .str version.proposedBy),
    ("proposed_at", .str (moments.dump version.proposedAt)), ("predecessor_ref", dumpText version.predecessorRef),
    ("ratification_workflow_ref", dumpText version.ratificationWorkflowRef),
    ("lineage_ref", dumpText version.lineageRef), ("effective_at", dumpText (version.effectiveAt.map moments.dump))]

def readText : Json → Option String
  | .str text => some text
  | _ => none

def readStatus : Json → Option VersionStatus
  | .str "proposed" => some .proposed
  | .str "ratified" => some .ratified
  | .str "superseded" => some .superseded
  | .str "retired" => some .retired
  | _ => none

/-- A field of type `T | None` with the default `None`. -/
def readOptional {Value : Type} (read : Json → Option Value) : Option Json → Option (Option Value)
  | none => some none
  | some .null => some none
  | some value => (read value).map some

/-- `ConstitutionVersionISR.model_validate`. -/
def validateVersion : Json → Option (ConstitutionVersionISR Moment)
  | .dict entries => do
      let versionId ← (get entries "version_id").bind readText
      let semver ← (get entries "semver").bind readText
      let status ← ((get entries "status").map readStatus).getD (some .proposed)
      let policySetRef ← (get entries "policy_set_ref").bind readText
      let proposedBy ← (get entries "proposed_by").bind readText
      let proposedAt ← (get entries "proposed_at").bind moments.validate
      let predecessorRef ← readOptional readText (get entries "predecessor_ref")
      let ratificationWorkflowRef ← readOptional readText (get entries "ratification_workflow_ref")
      let lineageRef ← readOptional readText (get entries "lineage_ref")
      let effectiveAt ← readOptional moments.validate (get entries "effective_at")
      some {
        versionId, semver, status, policySetRef, proposedBy, proposedAt, predecessorRef, ratificationWorkflowRef,
        lineageRef, effectiveAt }
  | _ => none

def modelValidate (raw : Json) : Except VersioningError (ConstitutionVersionISR Moment) :=
  match validateVersion moments raw with
  | some version => .ok version
  | none => .error .validation

/-- What the file holds, when there is one. -/
abbrev File := Option String

variable (numbers : NumberText JsonFloat)

def read (file : File) : Dict String Json :=
  match file.bind (JsonCodec.loads numbers) with
  | some (.dict data) => data
  | _ => []

def write (data : Dict String Json) : File := some (JsonIndented.fileText numbers (.dict data))

def fileBacked : Repository File Moment where
  add file version :=
    if version.versionId ∈ keys (read numbers file) then .error (.duplicateVersionId version.versionId)
    else .ok (write numbers (assign (read numbers file) version.versionId (.dict (dumpVersion moments version))))
  replace file version :=
    if version.versionId ∈ keys (read numbers file) then
      .ok (write numbers (assign (read numbers file) version.versionId (.dict (dumpVersion moments version))))
    else .error (.unknownVersionId version.versionId)
  get file versionId :=
    match OrderedMap.get (read numbers file) versionId with
    | none => .ok none
    | some .null => .ok none
    | some raw => (modelValidate moments raw).map some
  all file := (read numbers file).mapM fun entry => modelValidate moments entry.2

end

variable {Store : Type} (table : CharTable) (int : List Char → Option Nat) (repo : Repository Store Moment)

structure VersionManager (Store Moment : Type) where
  store : Store
  lineages : List (ChangeLineageISR Moment)
  proposals : Dict String (ChangeKind × String)

/-- The answer to a command: a version, or the error it is refused with. -/
abbrev Answer (Moment : Type) := Except VersioningError (ConstitutionVersionISR Moment)

def headOf (versions : Versions Moment) : Except VersioningError (Option (ConstitutionVersionISR Moment)) :=
  match versions.filter fun version => version.status = .ratified with
  | [] => .ok none
  | [head] => .ok (some head)
  | _ => .error .multipleRatifiedHeadsDetected

def current (store : Store) : Except VersioningError (Option (ConstitutionVersionISR Moment)) :=
  (repo.all store).bind headOf

/-- Arguments of `propose`. -/
structure Proposal (Moment : Type) where
  semver : String
  policySetRef : String
  proposedBy : String
  changeKind : ChangeKind
  summary : String
  now : Moment

/-- The loop of `propose` over the versions there are. -/
def checkIncreasing (candidate : Semver) (semver : String) : Versions Moment → Except VersioningError Unit
  | [] => .ok ()
  | existing :: rest => do
      let other ← parseSemver table int existing.semver
      if candidate ≤ other then .error (.semverMustStrictlyIncrease semver existing.semver)
      else checkIncreasing candidate semver rest

def newVersion (proposal : Proposal Moment) (head : Option (ConstitutionVersionISR Moment)) (generated : String) :
    ConstitutionVersionISR Moment where
  versionId := "cv-" ++ generated
  semver := proposal.semver
  status := .proposed
  policySetRef := proposal.policySetRef
  proposedBy := proposal.proposedBy
  proposedAt := proposal.now
  predecessorRef := head.map ConstitutionVersionISR.versionId
  ratificationWorkflowRef := none
  lineageRef := none
  effectiveAt := none

/-- The version that `propose` is going to add. -/
def proposedVersion (store : Store) (proposal : Proposal Moment) (generated : String) :
    Except VersioningError (ConstitutionVersionISR Moment) := do
  let candidate ← parseSemver table int proposal.semver
  checkIncreasing table int candidate proposal.semver (← repo.all store)
  .ok (newVersion proposal (← current repo store) generated)

def propose (manager : VersionManager Store Moment) (proposal : Proposal Moment) (generated : String) :
    VersionManager Store Moment × Answer Moment :=
  match proposedVersion table int repo manager.store proposal generated with
  | .error error => (manager, .error error)
  | .ok version =>
      match repo.add manager.store version with
      | .error error => (manager, .error error)
      | .ok store =>
          ({ manager with
              store
              proposals := assign manager.proposals version.versionId (proposal.changeKind, proposal.summary) },
            .ok version)

/-- Arguments of `ratify`. -/
structure Ratification (Moment : Type) where
  versionId : String
  outcome : VoteOutcome
  now : Moment

/-- The version to ratify and the head it supersedes. -/
def ratifiable (store : Store) (command : Ratification Moment) :
    Except VersioningError (ConstitutionVersionISR Moment × Option (ConstitutionVersionISR Moment)) := do
  match ← repo.get store command.versionId with
  | none => .error (.unknownVersionId command.versionId)
  | some version =>
      if version.status ≠ .proposed then .error (.onlyProposedVersionsCanBeRatified version.status)
      else if !command.outcome.approved then .error (.ratificationRequiresApprovedVote command.outcome.reason)
      else .ok (version, ← current repo store)

def lineageOf (proposals : Dict String (ChangeKind × String)) (version : ConstitutionVersionISR Moment)
    (head : Option (ConstitutionVersionISR Moment)) (command : Ratification Moment) (generated : String) :
    ChangeLineageISR Moment :=
  let (changeKind, summary) := (OrderedMap.get proposals command.versionId).getD (.amendment, "")
  { lineageId := "cl-" ++ generated
    changeKind
    parentVersionRefs := head.toList.map ConstitutionVersionISR.versionId
    authorizingWorkflowRef := command.outcome.workflowRef
    summary := if summary ≠ "" then summary else "ratify " ++ version.semver
    createdAt := command.now }

def ratifiedVersion (version : ConstitutionVersionISR Moment) (command : Ratification Moment) (generated : String) :
    ConstitutionVersionISR Moment :=
  { version with
    status := .ratified
    ratificationWorkflowRef := some command.outcome.workflowRef
    lineageRef := some ("cl-" ++ generated)
    effectiveAt := some command.now }

def ratify (manager : VersionManager Store Moment) (command : Ratification Moment) (generated : String) :
    VersionManager Store Moment × Answer Moment :=
  match ratifiable repo manager.store command with
  | .error error => (manager, .error error)
  | .ok (version, head) =>
      let ratified := ratifiedVersion version command generated
      -- the lineage is recorded before the repository is written
      let manager := { manager with
        lineages := manager.lineages ++ [lineageOf manager.proposals version head command generated] }
      match repo.replace manager.store ratified with
      | .error error => (manager, .error error)
      | .ok store =>
          match head with
          | none => ({ manager with store }, .ok ratified)
          | some head =>
              match repo.replace store { head with status := .superseded } with
              | .error error => ({ manager with store }, .error error)
              | .ok store => ({ manager with store }, .ok ratified)

end AutonomousApi.ConstitutionVersions
