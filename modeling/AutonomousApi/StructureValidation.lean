import AutonomousApi.SystemModel
import AutonomousApi.PythonText

/-! `ISR.validate_structure` and the validators of the carriers it calls. A validator
answers with its complaints in the order in which the source appends them; it passes a
carrier when there are none. Most of them go through the carriers of one kind, complain
about an id that came before and check the references of each one: that walk is `audit`,
and the references of one field are `dangling`. -/

namespace AutonomousApi.StructureValidation

open DataclassValues ModuleModel SystemModel OrderedMap PythonText

section

variable {Item : Type}

def quoted (text : String) : String := "'" ++ text ++ "'"

/-- One complaint for each reference outside the ids it may name. -/
def dangling (refs known : List String) (complaint : String → String) : List String :=
  (refs.filter fun ref => !known.contains ref).map complaint

/-- The walk over the carriers of one kind; `seen` are the ids of those before. -/
def auditFrom (idOf : Item → String) (duplicate : String → String) (check : Item → List String) :
    List String → List Item → List String
  | _, [] => []
  | seen, item :: rest =>
      (if idOf item ∈ seen then [duplicate (idOf item)] else []) ++ check item ++
        auditFrom idOf duplicate check (idOf item :: seen) rest

def audit (idOf : Item → String) (duplicate : String → String) (check : Item → List String)
    (items : List Item) : List String := auditFrom idOf duplicate check [] items

@[simp] theorem dangling_eq_nil {refs known : List String} {complaint : String → String} :
    dangling refs known complaint = [] ↔ ∀ ref ∈ refs, ref ∈ known := by
  simp [dangling]

variable {idOf : Item → String} {duplicate : String → String} {check : Item → List String} {items : List Item}

theorem auditFrom_eq_nil {seen : List String} (silent : auditFrom idOf duplicate check seen items = []) :
    ∀ item ∈ items, check item = [] := by
  induction items generalizing seen with
  | nil => simp
  | cons first rest ih =>
      obtain ⟨head, later⟩ := List.append_eq_nil_iff.mp silent
      intro item member
      rcases List.mem_cons.mp member with rfl | inside
      · exact (List.append_eq_nil_iff.mp head).2
      · exact ih later item inside

theorem audit_eq_nil (silent : audit idOf duplicate check items = []) : ∀ item ∈ items, check item = [] :=
  auditFrom_eq_nil silent

variable (system : System)

def moduleIds : List String := system.modules.map (·.id)

def serviceIds : List String := system.modules.flatMap fun mod => mod.services.map (·.id)

def workflowIds : List String := system.modules.flatMap fun mod => mod.workflows.map (·.id)

def interfaceIds : List String := system.modules.flatMap fun mod => mod.interfaces.map (·.id)

def policyIds : List String := system.modules.flatMap fun mod => mod.policies.map (·.id)

def entityIds : List String := system.modules.flatMap fun mod => mod.entities.map (·.id)

def capabilityIds : List String := system.businessCapabilities.map (·.capabilityId)

def requirementIds : List String := system.requirements.map (·.requirementId)

def criterionIds : List String := system.acceptanceCriteria.map (·.criterionId)

def boundaryIds : List String := system.architecturalBoundaries.map (·.boundaryId)

def anchorIds : List String := system.testingAnchors.map (·.anchorId)

def reliabilityRequirementIds : List String := system.reliabilityRequirements.map (·.requirementId)

def regionIds : List String := system.protectedRegions.map (·.regionId)

def decisionIds : List String := system.architecturalDecisions.map (·.decisionId)

def constraintIds : List String :=
  system.constraints.map (·.id) ++
    system.modules.flatMap fun mod => mod.entities.flatMap fun entity => entity.constraints.map (·.id)

end

def transitionIds (mod : Module) : List String :=
  mod.workflows.flatMap fun workflow => workflow.transitions.map (·.id)

def stateIds (mod : Module) : List String := mod.workflows.flatMap fun workflow => workflow.states.map (·.id)

def eventIds (mod : Module) : List String := mod.events.map (·.id)

def temporalReferences (mod : Module) (constraint : TemporalConstraint) : List String :=
  dangling [constraint.targetRef] (transitionIds mod ++ stateIds mod ++ eventIds mod) (fun ref =>
      "temporal constraint " ++ quoted constraint.constraintId ++ " targets unknown gene " ++ quoted ref ++
        " in module " ++ quoted mod.id) ++
    -- Only an ordering has its reference looked up; the other kinds may carry any.
    dangling (if constraint.kind = .eventOrdering then constraint.referenceRef.toList else []) (eventIds mod)
      (fun ref => "temporal constraint " ++ quoted constraint.constraintId ++ " references unknown preceding event " ++
        quoted ref ++ " in module " ++ quoted mod.id)

def validateModuleTemporalConstraints (mod : Module) : List String :=
  audit (·.constraintId)
    (fun id => "duplicate temporal constraint id " ++ quoted id ++ " in module " ++ quoted mod.id)
    (temporalReferences mod) mod.temporalConstraints

/-- The marks of the depth-first walk: absent, on the current path, or done. -/
inductive Visit where
  | visiting | done
  deriving DecidableEq

structure Walked where
  state : Dict String Visit
  errors : List String

/-- `visit` of the cycle check. A path repeats no id before it complains, so a depth of one
more than the number of migrations is never used up. -/
def visit (byId : Dict String DataMigrationIntent) : Nat → String → List String → Walked → Walked
  | 0, _, _, walked => walked
  | depth + 1, migrationId, stack, walked =>
      match get walked.state migrationId with
      | some .done => walked
      | some .visiting =>
          { walked with errors := walked.errors ++
              ["circular migration dependency: " ++ String.intercalate " -> " (stack ++ [migrationId])] }
      | none =>
          let deps := ((get byId migrationId).map (·.dependsOn)).getD []
          let entered := { walked with state := assign walked.state migrationId .visiting }
          let left := (deps.filter fun dep => (get byId dep).isSome).foldl
            (fun walked dep => visit byId depth dep (stack ++ [migrationId]) walked) entered
          { left with state := assign left.state migrationId .done }

def validateAcyclic (byId : Dict String DataMigrationIntent) : List String :=
  ((keys byId).foldl (fun walked migrationId => visit byId (byId.length + 1) migrationId [] walked) ⟨[], []⟩).errors

def migrationReferences (mod : Module) (migration : DataMigrationIntent) : List String :=
  let entities := mod.entities.map (·.id)
  let named := "migration " ++ quoted migration.migrationId
  let within := " in module " ++ quoted mod.id
  dangling [migration.sourceSchemaRef] entities (fun ref =>
      named ++ " references unknown source schema " ++ quoted ref ++ within) ++
    dangling [migration.targetSchemaRef] entities (fun ref =>
      named ++ " references unknown target schema " ++ quoted ref ++ within) ++
    dangling migration.rollbackTargetRef.toList [migration.sourceSchemaRef] (fun ref =>
      named ++ " rollback target " ++ quoted ref ++ " is not its source schema " ++
        quoted migration.sourceSchemaRef) ++
    dangling migration.preservationRefs entities (fun ref =>
      named ++ " preserves unknown data gene " ++ quoted ref ++ within) ++
    dangling migration.dependsOn (mod.dataMigrations.map (·.migrationId)) (fun ref =>
      named ++ " depends on unknown migration " ++ quoted ref ++ within)

def validateModuleMigrationConstraints (mod : Module) : List String :=
  audit (·.migrationId) (fun id => "duplicate migration id " ++ quoted id ++ " in module " ++ quoted mod.id)
      (migrationReferences mod) mod.dataMigrations ++
    validateAcyclic (assignAll [] (mod.dataMigrations.map fun migration => (migration.migrationId, migration)))

section

variable (system : System)

def capabilityReferences (capability : BusinessCapability) : List String :=
  let named := "business capability " ++ quoted capability.capabilityId
  dangling capability.behaviorRefs (workflowIds system) (fun ref =>
      named ++ " references unknown behavior " ++ quoted ref) ++
    dangling capability.interfaceRefs (interfaceIds system) (fun ref =>
      named ++ " references unknown interface " ++ quoted ref) ++
    dangling capability.constraintRefs (constraintIds system) (fun ref =>
      named ++ " references unknown constraint " ++ quoted ref) ++
    dangling capability.requirementRefs (requirementIds system) (fun ref =>
      named ++ " references unknown requirement " ++ quoted ref)

def validateSystemCapabilityConstraints : List String :=
  audit (·.capabilityId) (fun id => "duplicate business capability id " ++ quoted id)
    (capabilityReferences system) system.businessCapabilities

def reliabilityTargetIds : List String := capabilityIds system ++ moduleIds system ++ serviceIds system

/-- The objectives of one requirement in turn, with the behavior each failure mode got first. -/
def recoveryConflicts (requirement : ReliabilityRequirement) :
    Dict FailureMode RecoveryBehavior → List RecoveryObjective → List String
  | _, [] => []
  | behaviorByMode, objective :: rest =>
      let mode := objective.failureMode
      let named := "reliability requirement " ++ quoted requirement.requirementId
      (if mode ∈ requirement.failureModes then []
        else [named ++ " recovery objective addresses undeclared failure mode " ++ quoted (StrEnum.value mode)]) ++
      match get behaviorByMode mode with
      | some behavior =>
          (if behavior = objective.requiredBehavior then []
            else [named ++ " demands contradictory recovery for failure mode " ++ quoted (StrEnum.value mode)]) ++
          recoveryConflicts requirement behaviorByMode rest
      | none => recoveryConflicts requirement (assign behaviorByMode mode objective.requiredBehavior) rest

def reliabilityReferences (requirement : ReliabilityRequirement) : List String :=
  dangling requirement.targetRefs (reliabilityTargetIds system) (fun ref =>
      "reliability requirement " ++ quoted requirement.requirementId ++ " targets unknown identity " ++ quoted ref) ++
    recoveryConflicts requirement [] requirement.recoveryObjectives

def validateSystemReliabilityConstraints : List String :=
  audit (·.requirementId) (fun id => "duplicate reliability requirement id " ++ quoted id)
    (reliabilityReferences system) system.reliabilityRequirements

/-- `_gene_ids` of the boundary and of the requirement validator. -/
def geneIds : List String :=
  moduleIds system ++ serviceIds system ++ workflowIds system ++ interfaceIds system ++ policyIds system ++
    entityIds system ++ capabilityIds system

def boundaryReferences (boundary : ArchitecturalBoundary) : List String :=
  let named := "architectural boundary " ++ quoted boundary.boundaryId
  dangling boundary.memberRefs (geneIds system) (fun ref => named ++ " encloses unknown gene " ++ quoted ref) ++
    dangling boundary.forbiddenDependencyRefs (geneIds system) (fun ref =>
      named ++ " forbids dependency on unknown gene " ++ quoted ref)

def validateSystemBoundaryConstraints : List String :=
  audit (·.boundaryId) (fun id => "duplicate architectural boundary id " ++ quoted id)
    (boundaryReferences system) system.architecturalBoundaries

def requirementReferences (requirement : Requirement) : List String :=
  let named := "requirement " ++ quoted requirement.requirementId
  dangling requirement.targetRefs (capabilityIds system) (fun ref =>
      named ++ " targets unknown capability " ++ quoted ref) ++
    dangling requirement.acceptanceRefs (criterionIds system) (fun ref =>
      named ++ " references unknown acceptance criterion " ++ quoted ref) ++
    dangling requirement.constraintRefs (geneIds system) (fun ref =>
      named ++ " constrains unknown gene " ++ quoted ref)

def criterionReferences (criterion : AcceptanceCriterion) : List String :=
  dangling criterion.subjectRefs (geneIds system) fun ref =>
    "acceptance criterion " ++ quoted criterion.criterionId ++ " applies to unknown gene " ++ quoted ref

def validateSystemRequirementConstraints : List String :=
  audit (·.requirementId) (fun id => "duplicate requirement id " ++ quoted id)
      (requirementReferences system) system.requirements ++
    audit (·.criterionId) (fun id => "duplicate acceptance criterion id " ++ quoted id)
      (criterionReferences system) system.acceptanceCriteria ++
    system.businessCapabilities.flatMap fun capability =>
      dangling capability.requirementRefs (requirementIds system) fun ref =>
        "business capability " ++ quoted capability.capabilityId ++ " references unknown requirement " ++ quoted ref

def deploymentTargetIds : List String := capabilityIds system ++ moduleIds system

/-- `tuple(refs)` as an f-string prints it, for texts that `repr` leaves as they are. -/
def printedTuple (refs : List String) : String :=
  match refs with
  | [ref] => "(" ++ quoted ref ++ ",)"
  | refs => "(" ++ String.intercalate ", " (refs.map quoted) ++ ")"

def deploymentReferences (intent : DeploymentIntent) : List String :=
  let named := "deployment " ++ quoted intent.deploymentId
  dangling intent.targetRefs (deploymentTargetIds system) (fun ref =>
      named ++ " targets unknown gene " ++ quoted ref) ++
    dangling intent.rollbackTargetRef.toList intent.targetRefs (fun ref =>
      named ++ " rollback target " ++ quoted ref ++ " is not one of its targets " ++ printedTuple intent.targetRefs)

def validateSystemDeploymentConstraints : List String :=
  audit (·.deploymentId) (fun id => "duplicate deployment id " ++ quoted id)
    (deploymentReferences system) system.deploymentIntents

def documentableGeneIds : List String :=
  moduleIds system ++ workflowIds system ++ capabilityIds system ++ requirementIds system ++ boundaryIds system

def documentationReferences (doc : DocumentationIntent) : List String :=
  dangling doc.subjectRefs (documentableGeneIds system) fun ref =>
    "documentation " ++ quoted doc.documentationId ++ " documents unknown gene " ++ quoted ref

def validateSystemDocumentationConstraints : List String :=
  audit (·.documentationId) (fun id => "duplicate documentation id " ++ quoted id)
    (documentationReferences system) system.documentationIntents

/-- `_protected_gene_ids`: what an objective or a region may name. -/
def protectedGeneIds : List String :=
  capabilityIds system ++ requirementIds system ++ boundaryIds system ++ anchorIds system ++
    reliabilityRequirementIds system ++ system.deploymentIntents.map (·.deploymentId) ++
    system.documentationIntents.map (·.documentationId) ++
    (system.modules.flatMap fun mod =>
      mod.dataMigrations.map (·.migrationId) ++ mod.temporalConstraints.map (·.constraintId) ++
        mod.workflows.map (·.id)) ++
    decisionIds system

def regionReferences (region : ProtectedRegion) : List String :=
  dangling region.subjectRefs (protectedGeneIds system) (fun ref =>
      "region " ++ quoted region.regionId ++ " protects unknown gene " ++ quoted ref) ++
    region.invariants.flatMap fun invariant =>
      dangling invariant.subjectRefs (protectedGeneIds system) fun ref =>
        "region " ++ quoted region.regionId ++ " invariant references unknown gene " ++ quoted ref

def policyReferences (policy : EvolutionPolicy) : List String :=
  let named := "policy " ++ quoted policy.policyId
  (if policy.objectiveRefs.isEmpty && policy.protectedRegionRefs.isEmpty then
      [named ++ " governs nothing: no objective or protected region referenced"] else []) ++
    dangling policy.objectiveRefs (system.evolutionObjectives.map (·.objectiveId)) (fun ref =>
      named ++ " references unknown objective " ++ quoted ref) ++
    dangling policy.protectedRegionRefs (regionIds system) (fun ref =>
      named ++ " references unknown protected region " ++ quoted ref)

def validateSystemEvolutionPolicyConstraints : List String :=
  audit (·.objectiveId) (fun id => "duplicate objective id " ++ quoted id)
      (fun objective => dangling objective.subjectRefs (protectedGeneIds system) fun ref =>
        "objective " ++ quoted objective.objectiveId ++ " references unknown gene " ++ quoted ref)
      system.evolutionObjectives ++
    audit (·.regionId) (fun id => "duplicate region id " ++ quoted id)
      (regionReferences system) system.protectedRegions ++
    audit (·.policyId) (fun id => "duplicate policy id " ++ quoted id)
      (policyReferences system) system.evolutionPolicies

def invariantCarrierIds : List String :=
  boundaryIds system ++ reliabilityRequirementIds system ++ regionIds system

def decisionReferences (decision : ArchitecturalDecision) : List String :=
  let named := "decision " ++ quoted decision.decisionId
  dangling decision.requirementRefs (requirementIds system) (fun ref =>
      named ++ " requirement_ref " ++ quoted ref ++ " does not name a requirement (F)") ++
    dangling decision.invariantRefs (invariantCarrierIds system) (fun ref =>
      named ++ " invariant_ref " ++ quoted ref ++ " does not name an invariant-bearing carrier (E/D/J)") ++
    dangling decision.architecturalScope (moduleIds system) (fun ref =>
      named ++ " architectural_scope " ++ quoted ref ++ " does not name a module") ++
    dangling decision.verificationRefs (anchorIds system) (fun ref =>
      named ++ " verification_ref " ++ quoted ref ++ " does not name a testing anchor (H)")

def validateSystemDecisionConstraints : List String :=
  audit (·.decisionId) (fun id => "duplicate decision id " ++ quoted id)
    (decisionReferences system) system.architecturalDecisions

def threatReferences (threat : SecurityThreat) : List String :=
  let named := "threat " ++ quoted threat.threatId
  dangling threat.requirementRefs (requirementIds system) (fun ref =>
      named ++ " requirement_ref " ++ quoted ref ++ " does not name a requirement (F)") ++
    dangling threat.architecturalControlRefs (boundaryIds system) (fun ref =>
      named ++ " architectural_control_ref " ++ quoted ref ++ " does not name a boundary (E)") ++
    dangling threat.implementationObligationRefs (decisionIds system) (fun ref =>
      named ++ " implementation_obligation_ref " ++ quoted ref ++ " does not name a decision/obligation carrier") ++
    dangling threat.verificationRefs (anchorIds system) (fun ref =>
      named ++ " verification_ref " ++ quoted ref ++ " does not name a testing anchor (H)")

def validateSystemThreatConstraints : List String :=
  audit (·.threatId) (fun id => "duplicate threat id " ++ quoted id) (threatReferences system) system.securityThreats

def subjectGeneIds : List String := workflowIds system ++ capabilityIds system ++ requirementIds system

def anchorReferences (anchor : TestingAnchor) : List String :=
  let named := "anchor " ++ quoted anchor.anchorId
  dangling anchor.subjectRefs (subjectGeneIds system) (fun ref => named ++ " subjects unknown gene " ++ quoted ref) ++
    dangling anchor.obligationRefs (criterionIds system) (fun ref =>
      named ++ " demonstrates unknown acceptance criterion " ++ quoted ref)

def validateSystemTestingAnchorConstraints : List String :=
  audit (·.anchorId) (fun id => "duplicate anchor id " ++ quoted id) (anchorReferences system) system.testingAnchors

end

section

variable (table : CharTable) (system : System)

/-- The owners met so far by `validate_system_architecture_projection`, which complains
about the first walk over the modules while it fills them. -/
structure Survey where
  errors : List String := []
  serviceOwner : Dict String String := []
  componentIds : List String := []
  entityOwner : Dict String String := []
  eventIds : List String := []
  apiIds : List String := []

def Survey.report (survey : Survey) (complaints : List String) : Survey :=
  { survey with errors := survey.errors ++ complaints }

/-- One complaint where the condition holds. -/
def complain (condition : Bool) (complaint : String) : List String := if condition then [complaint] else []

def communicationStyles : List String :=
  ["synchronous_request_response", "asynchronous_event", "batch", "streaming"]

def interactionStyles : List String := ["request_response", "event_driven", "batch", "streaming"]

def operationSemantics : List String := ["command", "query"]

def eventOrderings : List String := ["none", "partition_ordered", "totally_ordered"]

def blank (text : String) : Bool := (strip table text.toList).isEmpty

/-- The service must be known and owned by the module; the two complaints exclude each other. -/
def colocation (serviceOwner : Dict String String) (mod : Module) (serviceId unknown elsewhere : String) :
    List String :=
  match get serviceOwner serviceId with
  | none => [unknown]
  | some owner => complain (owner != mod.id) elsewhere

def surveyService (mod : Module) (survey : Survey) (service : Service) : Survey :=
  let named := "service " ++ quoted service.id
  let duplicate := complain (get survey.serviceOwner service.id).isSome ("duplicate service ID " ++ quoted service.id)
  let misplaced := (service.domainId.toList.filter (· != mod.id)).map fun domain =>
    named ++ " domain " ++ quoted domain ++ " does not match owning module " ++ quoted mod.id
  -- The source also checks that statefulness is a boolean or unknown, which the type ensures.
  let exposed := dangling service.exposedCapabilityRefs (capabilityIds system) fun ref =>
    named ++ " exposes unknown capability " ++ quoted ref
  let unknownStyles := service.communicationStyles.filter fun style => !communicationStyles.contains style
  let styles := complain (!unknownStyles.isEmpty)
    (named ++ " has unsupported communication styles: " ++ String.intercalate ", " (sortedSet unknownStyles))
  { survey with
    errors := survey.errors ++ duplicate ++ misplaced ++ exposed ++ styles
    serviceOwner := assign survey.serviceOwner service.id mod.id }

def surveyComponent (mod : Module) (survey : Survey) (component : Component) : Survey :=
  let named := "component " ++ quoted component.componentId
  let duplicate := complain (survey.componentIds.contains component.componentId)
    ("duplicate component ID " ++ quoted component.componentId)
  let placed := colocation survey.serviceOwner mod component.serviceId
    (named ++ " references unknown service " ++ quoted component.serviceId)
    (named ++ " is not colocated with its service")
  { survey with
    errors := survey.errors ++ duplicate ++ placed
    componentIds := component.componentId :: survey.componentIds }

def surveyEntity (mod : Module) (survey : Survey) (entity : Entity) : Survey :=
  let named := "entity " ++ quoted entity.id
  let duplicate := complain (get survey.entityOwner entity.id).isSome ("duplicate entity ID " ++ quoted entity.id)
  let owned := entity.owningServiceId.toList.flatMap fun owner =>
    colocation survey.serviceOwner mod owner
      (named ++ " references unknown owning service " ++ quoted owner)
      (named ++ " is not colocated with its owning service")
  { survey with
    errors := survey.errors ++ duplicate ++ owned
    entityOwner := assign survey.entityOwner entity.id mod.id }

/-- The relationships of a module's entities: an entity met so far or any entity of the system. -/
def relationshipComplaints (survey : Survey) (mod : Module) : List String :=
  mod.entities.flatMap fun entity =>
    dangling (entity.relationships.map (·.targetEntityId)) (keys survey.entityOwner ++ entityIds system) fun target =>
      "entity " ++ quoted entity.id ++ " references unknown entity " ++ quoted target

def surveyEvent (survey : Survey) (event : Event) : Survey :=
  let duplicate := complain (survey.eventIds.contains event.id) ("duplicate event ID " ++ quoted event.id)
  let ordering := complain (!eventOrderings.contains event.orderingSemantics)
    ("event " ++ quoted event.id ++ " has unsupported ordering semantics " ++ quoted event.orderingSemantics)
  { survey with
    errors := survey.errors ++ duplicate ++ ordering
    eventIds := event.id :: survey.eventIds }

def surveyApi (survey : Survey) (api : ApiContract) : Survey :=
  let named := "API " ++ quoted api.apiId
  let duplicate := complain (survey.apiIds.contains api.apiId) ("duplicate API contract ID " ++ quoted api.apiId)
  let interaction := complain (!interactionStyles.contains api.interactionStyle)
    (named ++ " has unsupported interaction style " ++ quoted api.interactionStyle)
  -- Idempotency is a boolean by its type, so its check has no complaint.
  let operations := api.operations.flatMap fun operation =>
    complain (!operationSemantics.contains operation.semantics)
      (named ++ " operation " ++ quoted operation.name ++ " has unsupported semantics " ++ quoted operation.semantics)
  { survey with
    errors := survey.errors ++ duplicate ++ interaction ++ operations
    apiIds := api.apiId :: survey.apiIds }

def surveyModule (survey : Survey) (mod : Module) : Survey :=
  let language := mod.ubiquitousLanguage.flatMap fun entry =>
    complain (blank table entry.1 || blank table entry.2)
      ("module " ++ quoted mod.id ++ " has an empty ubiquitous-language term or definition")
  let capabilities := dangling mod.capabilityRefs (capabilityIds system) fun ref =>
    "module " ++ quoted mod.id ++ " references unknown capability " ++ quoted ref
  let survey := survey.report (language ++ capabilities)
  let survey := mod.services.foldl (surveyService system mod) survey
  let survey := mod.components.foldl (surveyComponent mod) survey
  let survey := mod.entities.foldl (surveyEntity mod) survey
  let survey := survey.report (relationshipComplaints system survey mod)
  let survey := mod.events.foldl surveyEvent survey
  mod.apiContracts.foldl surveyApi survey

/-- The second walk over the modules, once every service and entity is known. -/
def moduleLinks (survey : Survey) (mod : Module) : List String :=
  let services := keys survey.serviceOwner
  let components := mod.components.flatMap fun component =>
    dangling [component.serviceId] services fun ref =>
      "component " ++ quoted component.componentId ++ " references unknown service " ++ quoted ref
  let events := mod.events.flatMap fun event =>
    let named := "event " ++ quoted event.id
    (event.producerServiceId.toList.flatMap fun producer =>
      colocation survey.serviceOwner mod producer
        (named ++ " references unknown producer service " ++ quoted producer)
        (named ++ " is not colocated with its producer service")) ++
    dangling event.consumerServiceIds services (fun ref =>
      named ++ " references unknown consumer service " ++ quoted ref) ++
    dangling event.payloadModelId.toList (keys survey.entityOwner) (fun ref =>
      named ++ " references unknown payload model " ++ quoted ref)
  let apis := mod.apiContracts.flatMap fun api =>
    let named := "API " ++ quoted api.apiId
    colocation survey.serviceOwner mod api.providerServiceId
      (named ++ " references unknown provider service " ++ quoted api.providerServiceId)
      (named ++ " is not colocated with its provider service") ++
    dangling api.consumerServiceIds services (fun ref =>
      named ++ " references unknown consumer service " ++ quoted ref)
  components ++ events ++ apis

def postureComplaints : List String :=
  let missing (absent : Bool) (words : String) : List String :=
    complain absent ("typed architecture projection is missing first-class " ++ words)
  missing system.securityPosture.isNone "security posture" ++
    missing system.infrastructurePosture.isNone "infrastructure posture" ++
    missing system.deploymentPosture.isNone "deployment posture" ++
    missing system.testingPosture.isNone "testing posture" ++
    missing system.documentationPosture.isNone "documentation posture" ++
    missing system.operationalPosture.isNone "operational posture"

def referenceComplaints : List String :=
  match system.intentArchitectureRef with
  | none => []
  | some reference =>
      (if reference.projectionComplete then []
        else (reference.projectionBlockers.map fun item => "typed architecture projection incomplete: " ++ item) ++
          complain reference.projectionBlockers.isEmpty
            "typed architecture projection is marked incomplete without blockers") ++
      postureComplaints system

def validateSystemArchitectureProjection : List String :=
  let survey := system.modules.foldl (surveyModule table system) { errors := referenceComplaints system }
  survey.errors ++ system.modules.flatMap (moduleLinks survey)

end

variable (table : CharTable) (isr : ISR)

/-- The loop over the modules: an id that came before or a complaint ends it. -/
def modulesAdmitted : List String → List Module → Bool
  | _, [] => true
  | seen, mod :: rest =>
      !seen.contains mod.id && (validateModuleTemporalConstraints mod).isEmpty &&
        (validateModuleMigrationConstraints mod).isEmpty && modulesAdmitted (mod.id :: seen) rest

def validateStructure : Bool :=
  !isr.system.modules.isEmpty && modulesAdmitted [] isr.system.modules &&
    (validateSystemCapabilityConstraints isr.system).isEmpty &&
    (validateSystemReliabilityConstraints isr.system).isEmpty &&
    (validateSystemBoundaryConstraints isr.system).isEmpty &&
    (validateSystemRequirementConstraints isr.system).isEmpty &&
    (validateSystemDeploymentConstraints isr.system).isEmpty &&
    (validateSystemDocumentationConstraints isr.system).isEmpty &&
    (validateSystemEvolutionPolicyConstraints isr.system).isEmpty &&
    (validateSystemDecisionConstraints isr.system).isEmpty &&
    (validateSystemThreatConstraints isr.system).isEmpty &&
    (validateSystemTestingAnchorConstraints isr.system).isEmpty &&
    (validateSystemArchitectureProjection table isr.system).isEmpty

end AutonomousApi.StructureValidation
