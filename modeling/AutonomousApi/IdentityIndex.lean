import AutonomousApi.StructureValidation

/-! The identity index of the evolution machinery: every semantic gene under its domain
and id, the ids that projection paths stand for, and the cross-gene references that name
nothing. The index is derived from the representation in the order in which the source
walks it; a gene that shares its domain and id with an earlier one takes its place. -/

namespace AutonomousApi.IdentityIndex

open DataclassValues ModuleModel SystemModel OrderedMap StructureValidation

inductive Domain where
  | capability | requirement | acceptanceCriterion | boundary | testingAnchor | reliability
  | deployment | documentation | migration | temporal | behavior | decision | threat
  deriving DecidableEq

instance : StrEnum Domain where
  members := [.capability, .requirement, .acceptanceCriterion, .boundary, .testingAnchor, .reliability,
    .deployment, .documentation, .migration, .temporal, .behavior, .decision, .threat]
  value
    | .capability => "capability"
    | .requirement => "requirement"
    | .acceptanceCriterion => "acceptance_criterion"
    | .boundary => "boundary"
    | .testingAnchor => "testing_anchor"
    | .reliability => "reliability"
    | .deployment => "deployment"
    | .documentation => "documentation"
    | .migration => "migration"
    | .temporal => "temporal"
    | .behavior => "behavior"
    | .decision => "decision"
    | .threat => "threat"
  complete member := by cases member <;> decide
  distinct := by decide

inductive Gene where
  | capability (gene : BusinessCapability)
  | requirement (gene : Requirement)
  | acceptanceCriterion (gene : AcceptanceCriterion)
  | boundary (gene : ArchitecturalBoundary)
  | testingAnchor (gene : TestingAnchor)
  | reliability (gene : ReliabilityRequirement)
  | deployment (gene : DeploymentIntent)
  | documentation (gene : DocumentationIntent)
  | migration (gene : DataMigrationIntent)
  | temporal (gene : TemporalConstraint)
  | behavior (gene : Workflow)
  | decision (gene : ArchitecturalDecision)
  | threat (gene : SecurityThreat)

def Gene.domain : Gene → Domain
  | .capability _ => .capability
  | .requirement _ => .requirement
  | .acceptanceCriterion _ => .acceptanceCriterion
  | .boundary _ => .boundary
  | .testingAnchor _ => .testingAnchor
  | .reliability _ => .reliability
  | .deployment _ => .deployment
  | .documentation _ => .documentation
  | .migration _ => .migration
  | .temporal _ => .temporal
  | .behavior _ => .behavior
  | .decision _ => .decision
  | .threat _ => .threat

def Gene.id : Gene → String
  | .capability gene => gene.capabilityId
  | .requirement gene => gene.requirementId
  | .acceptanceCriterion gene => gene.criterionId
  | .boundary gene => gene.boundaryId
  | .testingAnchor gene => gene.anchorId
  | .reliability gene => gene.requirementId
  | .deployment gene => gene.deploymentId
  | .documentation gene => gene.documentationId
  | .migration gene => gene.migrationId
  | .temporal gene => gene.constraintId
  | .behavior gene => gene.id
  | .decision gene => gene.decisionId
  | .threat gene => gene.threatId

abbrev GeneKey := Domain × String

def Gene.key (gene : Gene) : GeneKey := (gene.domain, gene.id)

def moduleGenes (mod : Module) : List Gene :=
  mod.workflows.map .behavior ++ mod.dataMigrations.map .migration ++ mod.temporalConstraints.map .temporal

/-- Every gene, in the order of the walk. -/
def walkedGenes (system : System) : List Gene :=
  system.businessCapabilities.map .capability ++ system.requirements.map .requirement ++
    system.acceptanceCriteria.map .acceptanceCriterion ++ system.architecturalBoundaries.map .boundary ++
    system.testingAnchors.map .testingAnchor ++ system.reliabilityRequirements.map .reliability ++
    system.deploymentIntents.map .deployment ++ system.documentationIntents.map .documentation ++
    system.architecturalDecisions.map .decision ++ system.securityThreats.map .threat ++
    system.modules.flatMap moduleGenes

/-- `_genes`: the last gene of a domain and id is the one the index holds. -/
def genes (isr : ISR) : Dict GeneKey Gene :=
  assignAll [] ((walkedGenes isr.system).map fun gene => (gene.key, gene))

/-- The ids of all genes, whatever their domain. -/
def identities (isr : ISR) : List String := (keys (genes isr)).map Prod.snd

theorem mem_identities {isr : ISR} {id : String} :
    id ∈ identities isr ↔ ∃ gene ∈ walkedGenes isr.system, gene.id = id := by
  have held (key : GeneKey) : key ∈ keys (genes isr) ↔ ∃ gene ∈ walkedGenes isr.system, gene.key = key := by
    rw [← get_isSome_iff, genes, isSome_assignAll]
    simp [keys]
  simp only [identities, List.mem_map, held]
  constructor
  · rintro ⟨key, ⟨gene, member, rfl⟩, rfl⟩
    exact ⟨gene, member, rfl⟩
  · rintro ⟨gene, member, rfl⟩
    exact ⟨gene.key, ⟨gene, member, rfl⟩, rfl⟩

variable (isr : ISR)

def systemTransitionIds : List String := isr.system.modules.flatMap transitionIds

def systemEventIds : List String := isr.system.modules.flatMap eventIds

def systemMigrationIds : List String :=
  isr.system.modules.flatMap fun mod => mod.dataMigrations.map (·.migrationId)

/-- `check` of `_dangling_references`. -/
def unresolved (owner field : String) (refs known : List String) : List String :=
  dangling refs known fun ref => owner ++ " " ++ field ++ " " ++ quoted ref

/-- An optional reference, which is checked only when it is there and not empty. -/
def present (reference : Option String) : List String := reference.toList.filter (· != "")

def capabilityDangles (capability : BusinessCapability) : List String :=
  let owner := "capability " ++ quoted capability.capabilityId
  unresolved owner "behavior_ref" capability.behaviorRefs (workflowIds isr.system) ++
    unresolved owner "interface_ref" capability.interfaceRefs (interfaceIds isr.system) ++
    unresolved owner "constraint_ref" capability.constraintRefs (constraintIds isr.system) ++
    unresolved owner "requirement_ref" capability.requirementRefs (requirementIds isr.system)

def requirementDangles (requirement : Requirement) : List String :=
  let owner := "requirement " ++ quoted requirement.requirementId
  unresolved owner "target_ref" requirement.targetRefs (identities isr) ++
    unresolved owner "acceptance_ref" requirement.acceptanceRefs (criterionIds isr.system) ++
    unresolved owner "constraint_ref" requirement.constraintRefs
      (constraintIds isr.system ++ workflowIds isr.system)

def criterionDangles (criterion : AcceptanceCriterion) : List String :=
  unresolved ("acceptance_criterion " ++ quoted criterion.criterionId) "subject_ref" criterion.subjectRefs
    (identities isr)

def reliabilityDangles (requirement : ReliabilityRequirement) : List String :=
  unresolved ("reliability " ++ quoted requirement.requirementId) "target_ref" requirement.targetRefs
    (identities isr)

def deploymentDangles (intent : DeploymentIntent) : List String :=
  let owner := "deployment " ++ quoted intent.deploymentId
  unresolved owner "target_ref" intent.targetRefs (identities isr) ++
    unresolved owner "rollback_target_ref" (present intent.rollbackTargetRef) (identities isr)

def boundaryDangles (boundary : ArchitecturalBoundary) : List String :=
  let owner := "boundary " ++ quoted boundary.boundaryId
  unresolved owner "member_ref" boundary.memberRefs (moduleIds isr.system) ++
    unresolved owner "forbidden_dependency_ref" boundary.forbiddenDependencyRefs (moduleIds isr.system)

def anchorDangles (anchor : TestingAnchor) : List String :=
  let owner := "testing_anchor " ++ quoted anchor.anchorId
  unresolved owner "subject_ref" anchor.subjectRefs (identities isr) ++
    unresolved owner "obligation_ref" anchor.obligationRefs (criterionIds isr.system)

def decisionDangles (decision : ArchitecturalDecision) : List String :=
  let owner := "decision " ++ quoted decision.decisionId
  unresolved owner "requirement_ref" decision.requirementRefs (requirementIds isr.system) ++
    unresolved owner "invariant_ref" decision.invariantRefs (invariantCarrierIds isr.system) ++
    unresolved owner "architectural_scope" decision.architecturalScope (moduleIds isr.system) ++
    unresolved owner "verification_ref" decision.verificationRefs (anchorIds isr.system)

def threatDangles (threat : SecurityThreat) : List String :=
  let owner := "threat " ++ quoted threat.threatId
  unresolved owner "requirement_ref" threat.requirementRefs (requirementIds isr.system) ++
    unresolved owner "architectural_control_ref" threat.architecturalControlRefs (boundaryIds isr.system) ++
    unresolved owner "implementation_obligation_ref" threat.implementationObligationRefs (decisionIds isr.system) ++
    unresolved owner "verification_ref" threat.verificationRefs (anchorIds isr.system)

def documentationDangles (intent : DocumentationIntent) : List String :=
  unresolved ("documentation " ++ quoted intent.documentationId) "subject_ref" intent.subjectRefs
    (identities isr)

def migrationDangles (migration : DataMigrationIntent) : List String :=
  let owner := "migration " ++ quoted migration.migrationId
  unresolved owner "source_schema_ref" [migration.sourceSchemaRef] (entityIds isr.system) ++
    unresolved owner "target_schema_ref" [migration.targetSchemaRef] (entityIds isr.system) ++
    unresolved owner "preservation_ref" migration.preservationRefs (entityIds isr.system) ++
    unresolved owner "rollback_target_ref" (present migration.rollbackTargetRef) (entityIds isr.system) ++
    unresolved owner "depends_on" migration.dependsOn (systemMigrationIds isr)

def temporalDangles (constraint : TemporalConstraint) : List String :=
  let owner := "temporal " ++ quoted constraint.constraintId
  unresolved owner "target_ref" [constraint.targetRef] (systemTransitionIds isr ++ workflowIds isr.system) ++
    unresolved owner "reference_ref" (present constraint.referenceRef) (systemEventIds isr)

def moduleDangles (mod : Module) : List String :=
  mod.dataMigrations.flatMap (migrationDangles isr) ++ mod.temporalConstraints.flatMap (temporalDangles isr)

def danglingReferences : List String :=
  isr.system.businessCapabilities.flatMap (capabilityDangles isr) ++
    isr.system.requirements.flatMap (requirementDangles isr) ++
    isr.system.acceptanceCriteria.flatMap (criterionDangles isr) ++
    isr.system.reliabilityRequirements.flatMap (reliabilityDangles isr) ++
    isr.system.deploymentIntents.flatMap (deploymentDangles isr) ++
    isr.system.architecturalBoundaries.flatMap (boundaryDangles isr) ++
    isr.system.testingAnchors.flatMap (anchorDangles isr) ++
    isr.system.architecturalDecisions.flatMap (decisionDangles isr) ++
    isr.system.securityThreats.flatMap (threatDangles isr) ++
    isr.system.documentationIntents.flatMap (documentationDangles isr) ++
    isr.system.modules.flatMap (moduleDangles isr)

end AutonomousApi.IdentityIndex
