import AutonomousApi.ModuleModel

/-! The carriers of a system's semantics, its modules and the representation that holds
them all. Each class has the fields of the source with their defaults; what its
`__post_init__` refuses is excluded by the last field, except that blank but non-empty texts are let through. -/

namespace AutonomousApi.SystemModel

open DataclassValues ModuleModel

inductive TemporalConstraintKind where
  | transitionDeadline | stateMinDuration | eventOrdering
  deriving DecidableEq

instance : StrEnum TemporalConstraintKind where
  members := [.transitionDeadline, .stateMinDuration, .eventOrdering]
  value
    | .transitionDeadline => "TRANSITION_DEADLINE"
    | .stateMinDuration => "STATE_MIN_DURATION"
    | .eventOrdering => "EVENT_ORDERING"
  complete member := by cases member <;> decide
  distinct := by decide

structure TemporalConstraint where
  constraintId : String
  kind : TemporalConstraintKind
  targetRef : String
  durationMs : Int
  referenceRef : Option String := none
  admitted : constraintId ≠ "" ∧ 0 ≤ durationMs ∧ (kind = .eventOrdering → referenceRef ≠ none)

inductive CompatibilityPolicy where
  | backward | forward | bidirectional | breaking | custom
  deriving DecidableEq

instance : StrEnum CompatibilityPolicy where
  members := [.backward, .forward, .bidirectional, .breaking, .custom]
  value
    | .backward => "BACKWARD"
    | .forward => "FORWARD"
    | .bidirectional => "BIDIRECTIONAL"
    | .breaking => "BREAKING"
    | .custom => "CUSTOM"
  complete member := by cases member <;> decide
  distinct := by decide

structure DataMigrationIntent where
  migrationId : String
  sourceSchemaRef : String
  targetSchemaRef : String
  compatibilityPolicy : CompatibilityPolicy
  preservationRefs : List String := []
  dependsOn : List String := []
  rollbackRequired : Bool := false
  rollbackTargetRef : Option String := none
  rollbackInvariants : List String := []
  postconditions : List String := []
  admitted : migrationId ≠ "" ∧ sourceSchemaRef ≠ "" ∧ targetSchemaRef ≠ "" ∧
    sourceSchemaRef ≠ targetSchemaRef ∧
    (rollbackRequired = true → rollbackTargetRef.getD "" ≠ "") ∧
    (compatibilityPolicy = .custom → postconditions ≠ [])

structure BusinessCapability where
  capabilityId : String
  intent : String
  behaviorRefs : List String := []
  interfaceRefs : List String := []
  constraintRefs : List String := []
  requirementRefs : List String := []
  name : String := ""
  description : String := ""
  criticality : String := "core"
  priority : String := "must"
  admitted : capabilityId ≠ "" ∧ intent ≠ ""

structure RequirementGraphReference where
  graphId : String
  graphSha256 : String
  sourceSha256 : String
  projectionComplete : Bool := true
  projectionBlockers : List String := []
  admitted : (graphId ≠ "" ∧ graphSha256 ≠ "" ∧ sourceSha256 ≠ "") ∧
    (projectionComplete = true ↔ projectionBlockers = [])

structure RequirementSourceMetadata where
  requirementId : String
  sourceKind : String
  priority : String
  acceptanceCriteria : List String := []
  verificationMethod : String := "test"
  rationale : String := ""
  provenanceSource : String := "unknown"
  taxonomyVersion : Option String := none
  stratum : Option String := none
  seed : Option Int := none
  createdBy : String := "unknown"
  admitted : requirementId ≠ "" ∧ sourceKind ≠ "" ∧ priority ≠ ""

structure RequirementRelation where
  sourceRequirementId : String
  targetRequirementId : String
  kind : String
  rationale : String := ""
  admitted : sourceRequirementId ≠ "" ∧ targetRequirementId ≠ "" ∧ kind ≠ ""

inductive ObligationKind where
  | ordering | presence | absence | invariant | threshold
  deriving DecidableEq

instance : StrEnum ObligationKind where
  members := [.ordering, .presence, .absence, .invariant, .threshold]
  value
    | .ordering => "ORDERING"
    | .presence => "PRESENCE"
    | .absence => "ABSENCE"
    | .invariant => "INVARIANT"
    | .threshold => "THRESHOLD"
  complete member := by cases member <;> decide
  distinct := by decide

structure AcceptanceCriterion where
  criterionId : String
  obligation : String
  kind : ObligationKind
  subjectRefs : List String := []
  admitted : criterionId ≠ "" ∧ obligation ≠ ""

structure Requirement where
  requirementId : String
  statement : String
  targetRefs : List String
  acceptanceRefs : List String := []
  constraintRefs : List String := []
  admitted : requirementId ≠ "" ∧ statement ≠ "" ∧ targetRefs ≠ []

inductive FailureMode where
  | transientDependencyFailure | permanentDependencyFailure | resourceExhaustion
  | partialCapacityLoss | dataIntegrityViolation | cascadeFailure
  deriving DecidableEq

instance : StrEnum FailureMode where
  members := [.transientDependencyFailure, .permanentDependencyFailure, .resourceExhaustion,
    .partialCapacityLoss, .dataIntegrityViolation, .cascadeFailure]
  value
    | .transientDependencyFailure => "TRANSIENT_DEPENDENCY_FAILURE"
    | .permanentDependencyFailure => "PERMANENT_DEPENDENCY_FAILURE"
    | .resourceExhaustion => "RESOURCE_EXHAUSTION"
    | .partialCapacityLoss => "PARTIAL_CAPACITY_LOSS"
    | .dataIntegrityViolation => "DATA_INTEGRITY_VIOLATION"
    | .cascadeFailure => "CASCADE_FAILURE"
  complete member := by cases member <;> decide
  distinct := by decide

inductive RecoveryBehavior where
  | eventualRecovery | immediateFailover | gracefulDegradation | controlledShutdown
  deriving DecidableEq

instance : StrEnum RecoveryBehavior where
  members := [.eventualRecovery, .immediateFailover, .gracefulDegradation, .controlledShutdown]
  value
    | .eventualRecovery => "EVENTUAL_RECOVERY"
    | .immediateFailover => "IMMEDIATE_FAILOVER"
    | .gracefulDegradation => "GRACEFUL_DEGRADATION"
    | .controlledShutdown => "CONTROLLED_SHUTDOWN"
  complete member := by cases member <;> decide
  distinct := by decide

inductive DegradationPolicy where
  | noDegradation | partialService | readOnlyService | degradedThroughput
  deriving DecidableEq

instance : StrEnum DegradationPolicy where
  members := [.noDegradation, .partialService, .readOnlyService, .degradedThroughput]
  value
    | .noDegradation => "NO_DEGRADATION"
    | .partialService => "PARTIAL_SERVICE"
    | .readOnlyService => "READ_ONLY_SERVICE"
    | .degradedThroughput => "DEGRADED_THROUGHPUT"
  complete member := by cases member <;> decide
  distinct := by decide

structure RecoveryObjective where
  failureMode : FailureMode
  requiredBehavior : RecoveryBehavior
  maxRecoveryDurationMs : Option Int := none
  maxDataLossTolerance : Option String := none
  admitted : 0 ≤ maxRecoveryDurationMs.getD 0

structure ReliabilityRequirement where
  requirementId : String
  targetRefs : List String
  failureModes : List FailureMode
  recoveryObjectives : List RecoveryObjective := []
  degradationPolicy : Option DegradationPolicy := none
  preservationInvariants : List String := []
  dependencyConstraints : List String := []
  admitted : requirementId ≠ "" ∧ targetRefs ≠ [] ∧ failureModes ≠ []

structure ArchitecturalBoundary where
  boundaryId : String
  memberRefs : List String
  forbiddenDependencyRefs : List String := []
  isProtected : Bool := false
  crossingInvariants : List String := []
  admitted : boundaryId ≠ "" ∧ memberRefs ≠ [] ∧
    ∀ member ∈ memberRefs, member ∉ forbiddenDependencyRefs

inductive RolloutStrategy where
  | immediate | canary | blueGreen | progressive
  deriving DecidableEq

instance : StrEnum RolloutStrategy where
  members := [.immediate, .canary, .blueGreen, .progressive]
  value
    | .immediate => "IMMEDIATE"
    | .canary => "CANARY"
    | .blueGreen => "BLUE_GREEN"
    | .progressive => "PROGRESSIVE"
  complete member := by cases member <;> decide
  distinct := by decide

structure DeploymentIntent where
  deploymentId : String
  targetRefs : List String
  rolloutStrategy : RolloutStrategy
  rolloutConstraints : List String := []
  healthRequirements : List String := []
  rollbackRequired : Bool := false
  rollbackTargetRef : Option String := none
  rollbackInvariants : List String := []
  preservationRequirements : List String := []
  admitted : deploymentId ≠ "" ∧ targetRefs ≠ [] ∧
    (rollbackRequired = true → rollbackTargetRef.getD "" ≠ "")

inductive ProtectionPolicy where
  | protectedAnchor | evolvable
  deriving DecidableEq

instance : StrEnum ProtectionPolicy where
  members := [.protectedAnchor, .evolvable]
  value
    | .protectedAnchor => "PROTECTED"
    | .evolvable => "EVOLVABLE"
  complete member := by cases member <;> decide
  distinct := by decide

inductive AnchorAuthority where
  | authoritative | derived
  deriving DecidableEq

instance : StrEnum AnchorAuthority where
  members := [.authoritative, .derived]
  value
    | .authoritative => "AUTHORITATIVE"
    | .derived => "DERIVED"
  complete member := by cases member <;> decide
  distinct := by decide

structure TestingAnchor where
  anchorId : String
  subjectRefs : List String
  obligationRefs : List String := []
  evidenceRequirements : List String := []
  protectionPolicy : ProtectionPolicy := .evolvable
  authority : AnchorAuthority := .derived
  admitted : anchorId ≠ "" ∧ subjectRefs ≠ []

inductive DocumentationPurpose where
  | operationalReference | architecturalRationale | apiContract | onboarding | compliance
  deriving DecidableEq

instance : StrEnum DocumentationPurpose where
  members := [.operationalReference, .architecturalRationale, .apiContract, .onboarding, .compliance]
  value
    | .operationalReference => "OPERATIONAL_REFERENCE"
    | .architecturalRationale => "ARCHITECTURAL_RATIONALE"
    | .apiContract => "API_CONTRACT"
    | .onboarding => "ONBOARDING"
    | .compliance => "COMPLIANCE"
  complete member := by cases member <;> decide
  distinct := by decide

inductive DocumentationAudience where
  | operator | developer | architect | securityAuditor | endUser
  deriving DecidableEq

instance : StrEnum DocumentationAudience where
  members := [.operator, .developer, .architect, .securityAuditor, .endUser]
  value
    | .operator => "OPERATOR"
    | .developer => "DEVELOPER"
    | .architect => "ARCHITECT"
    | .securityAuditor => "SECURITY_AUDITOR"
    | .endUser => "END_USER"
  complete member := by cases member <;> decide
  distinct := by decide

structure DocumentationIntent where
  documentationId : String
  subjectRefs : List String
  purpose : DocumentationPurpose
  audience : DocumentationAudience
  obligations : List String := []
  admitted : documentationId ≠ "" ∧ subjectRefs ≠ []

inductive ObjectiveDimension where
  | correctness | reliability | performance | complexity | cost | security | maintainability
  | adaptability
  deriving DecidableEq

instance : StrEnum ObjectiveDimension where
  members := [.correctness, .reliability, .performance, .complexity, .cost, .security,
    .maintainability, .adaptability]
  value
    | .correctness => "CORRECTNESS"
    | .reliability => "RELIABILITY"
    | .performance => "PERFORMANCE"
    | .complexity => "COMPLEXITY"
    | .cost => "COST"
    | .security => "SECURITY"
    | .maintainability => "MAINTAINABILITY"
    | .adaptability => "ADAPTABILITY"
  complete member := by cases member <;> decide
  distinct := by decide

inductive ObjectiveDirection where
  | minimize | maximize
  deriving DecidableEq

instance : StrEnum ObjectiveDirection where
  members := [.minimize, .maximize]
  value
    | .minimize => "MINIMIZE"
    | .maximize => "MAXIMIZE"
  complete member := by cases member <;> decide
  distinct := by decide

inductive ObjectiveTier where
  | constitutional | optimization
  deriving DecidableEq

instance : StrEnum ObjectiveTier where
  members := [.constitutional, .optimization]
  value
    | .constitutional => "CONSTITUTIONAL"
    | .optimization => "OPTIMIZATION"
  complete member := by cases member <;> decide
  distinct := by decide

inductive ProtectionKind where
  | immutable | constitutional | preservation
  deriving DecidableEq

instance : StrEnum ProtectionKind where
  members := [.immutable, .constitutional, .preservation]
  value
    | .immutable => "IMMUTABLE"
    | .constitutional => "CONSTITUTIONAL"
    | .preservation => "PRESERVATION"
  complete member := by cases member <;> decide
  distinct := by decide

structure EvolutionObjective where
  objectiveId : String
  dimension : ObjectiveDimension
  direction : ObjectiveDirection
  tier : ObjectiveTier := .optimization
  priority : Int := 0
  weight : JsonValue.JsonFloat := .finite 1
  subjectRefs : List String := []
  admitted : objectiveId ≠ "" ∧ (tier = .constitutional → priority = 0) ∧ ¬ weight.toRat < 0

structure PreservationInvariant where
  kind : ObligationKind
  subjectRefs : List String
  statement : String
  bound : Option JsonValue.JsonFloat := none
  admitted : statement ≠ "" ∧ (kind = .threshold ↔ bound ≠ none)

structure ProtectedRegion where
  regionId : String
  subjectRefs : List String
  protectionKind : ProtectionKind
  invariants : List PreservationInvariant := []
  admitted : regionId ≠ "" ∧ subjectRefs ≠ [] ∧ (protectionKind = .preservation ↔ invariants ≠ [])

structure EvolutionPolicy where
  policyId : String
  objectiveRefs : List String := []
  protectedRegionRefs : List String := []
  selectionConstraints : List String := []
  admitted : policyId ≠ ""

structure ArchitecturalDecision where
  decisionId : String
  context : String
  question : String
  selectedStrategy : String
  alternatives : List String
  tradeOffs : List String := []
  benefits : List String := []
  risks : List String := []
  rejected : StrDict (List String) := ∅
  futureEvolution : List String := []
  requirementRefs : List String := []
  invariantRefs : List String := []
  architecturalScope : List String := []
  verificationRefs : List String := []
  admitted : decisionId ≠ "" ∧ context ≠ "" ∧ question ≠ "" ∧ 2 ≤ alternatives.length ∧
    selectedStrategy ∈ alternatives ∧ (tradeOffs ≠ [] ∨ benefits ≠ [])

inductive ThreatSeverity where
  | critical | high | medium | low
  deriving DecidableEq

instance : StrEnum ThreatSeverity where
  members := [.critical, .high, .medium, .low]
  value
    | .critical => "CRITICAL"
    | .high => "HIGH"
    | .medium => "MEDIUM"
    | .low => "LOW"
  complete member := by cases member <;> decide
  distinct := by decide

structure SecurityThreat where
  threatId : String
  scenario : String
  severity : ThreatSeverity
  requirementRefs : List String
  invariantStatement : String
  architecturalControlRefs : List String
  implementationObligationRefs : List String
  verificationRefs : List String
  admitted : threatId ≠ "" ∧ scenario ≠ "" ∧ invariantStatement ≠ "" ∧
    (requirementRefs ≠ [] ∨ architecturalControlRefs ≠ [])

structure IntentArchitectureReference where
  systemModelSha256 : String
  projectionComplete : Bool
  projectionBlockers : List String := []
  admitted : systemModelSha256 ≠ "" ∧ (projectionComplete = true ↔ projectionBlockers = [])

structure SecurityPosture where
  authentication : String
  authorization : String
  dataClassification : String
  encryptionInTransitRequired : Bool
  encryptionAtRestRequired : Bool
  auditLoggingRequired : Bool
  secretsManagementRequired : Bool
  admitted :
    authentication ∈ ["anonymous", "credential_based", "token_based", "federated_identity",
      "mutual_authentication"] ∧
    authorization ∈ ["none", "rbac", "abac", "policy_based"] ∧
    dataClassification ∈ ["public", "internal", "confidential", "restricted"]

structure InfrastructurePosture where
  topology : String
  stateful : Bool
  scalingUnit : String
  availability : String
  admitted :
    topology ∈ ["single_service", "modular_monolith", "distributed_services", "event_driven", "hybrid"] ∧
    scalingUnit ∈ ["service", "instance", "partition"] ∧
    availability ∈ ["single_zone", "multi_zone", "multi_region"]

structure DeploymentPosture where
  rolloutStrategy : String
  environmentNames : List String
  scalingPolicy : String
  zeroDowntimeRequired : Bool
  admitted :
    rolloutStrategy ∈ ["all_at_once", "rolling", "blue_green", "canary"] ∧
    (∀ name ∈ environmentNames, name ≠ "") ∧ scalingPolicy ∈ ["static", "reactive", "predictive"]

structure TestingPosture where
  requiredLevels : List String
  coveragePosture : String
  performanceRequired : Bool
  securityRequired : Bool
  admitted :
    (∀ level ∈ requiredLevels, level ∈ ["unit", "integration", "end_to_end", "property_based",
      "performance", "security", "mutation"]) ∧
    coveragePosture ∈ ["none", "reported", "enforced"]

structure DocumentationPosture where
  requiredArtifacts : List String
  adrRequired : Bool
  admitted : ∀ item ∈ requiredArtifacts, item ≠ ""

structure OperationalSLO where
  name : String
  metric : String
  target : String
  admitted : name ≠ "" ∧ metric ≠ "" ∧ target ≠ ""

structure OperationalPosture where
  serviceLevelObjectives : List OperationalSLO
  observabilityRequirements : List String
  backupPosture : String
  disasterRecoveryPosture : String
  incidentResponseRequired : Bool
  admitted : ∀ item ∈ observabilityRequirements, item ≠ ""

structure Module where
  id : String
  name : String
  description : String := ""
  entities : List Entity := []
  services : List Service := []
  workflows : List Workflow := []
  policies : List Policy := []
  interfaces : List Interface := []
  events : List Event := []
  dependencies : List String := []
  metadata : StrDict String := ∅
  temporalConstraints : List TemporalConstraint := []
  dataMigrations : List DataMigrationIntent := []
  components : List Component := []
  capabilityRefs : List String := []
  apiContracts : List ApiContract := []
  ubiquitousLanguage : List (String × String) := []

structure SystemMetadata where
  version : String := "1.0"
  authors : List String := []
  license : String := ""
  description : String := ""
  tags : List String := []

structure System where
  id : String
  name : String
  description : String := ""
  modules : List Module := []
  deployment : Option Deployment := none
  metadata : SystemMetadata := {}
  globalPolicies : List String := []
  constraints : List Constraint := []
  businessCapabilities : List BusinessCapability := []
  reliabilityRequirements : List ReliabilityRequirement := []
  architecturalBoundaries : List ArchitecturalBoundary := []
  requirements : List Requirement := []
  requirementGraphRef : Option RequirementGraphReference := none
  requirementSourceMetadata : List RequirementSourceMetadata := []
  requirementRelations : List RequirementRelation := []
  intentArchitectureRef : Option IntentArchitectureReference := none
  securityPosture : Option SecurityPosture := none
  infrastructurePosture : Option InfrastructurePosture := none
  deploymentPosture : Option DeploymentPosture := none
  testingPosture : Option TestingPosture := none
  documentationPosture : Option DocumentationPosture := none
  operationalPosture : Option OperationalPosture := none
  acceptanceCriteria : List AcceptanceCriterion := []
  deploymentIntents : List DeploymentIntent := []
  testingAnchors : List TestingAnchor := []
  documentationIntents : List DocumentationIntent := []
  evolutionObjectives : List EvolutionObjective := []
  protectedRegions : List ProtectedRegion := []
  evolutionPolicies : List EvolutionPolicy := []
  architecturalDecisions : List ArchitecturalDecision := []
  securityThreats : List SecurityThreat := []

structure ISRProvenance where
  createdAt : String
  createdBy : String := ""
  parentHash : Option String := none
  mutationDescription : String := ""
  evolutionRunId : Option String := none
  generation : Int := 0

structure ISR where
  system : System
  version : Int := 1
  provenance : ISRProvenance
  contentHashCache : Option String := none

end AutonomousApi.SystemModel
