import AutonomousApi.GeneHash
import AutonomousApi.PathTree

/-! The gene index and the path identities of a representation. Both address its parts by
projection paths: the index hashes every node under its path, the identities name the ids
that some of the paths stand for. A path is kept as its segments; `pathText` is the text
that the source builds for it. -/

namespace AutonomousApi.GeneIndex

open JsonValue PythonLiteral OrderedMap PathTree DataclassValues ModuleModel SystemModel SemanticHash GeneHash

def segmentText : Segment → String
  | (name, none) => name
  | (name, some index) => name ++ "[" ++ toString index ++ "]"

def pathText (path : Path) : String := ".".intercalate (path.map segmentText)

def root : Path := [("system", none)]

variable {Source : Type} [Reflect Source]

def leaf (item : Source) : AddressTree PyValue := .node (reflect item) []

def workflowTree (workflow : Workflow) : AddressTree PyValue :=
  .node (.tuple [reflect workflow.id, reflect workflow.name, reflect workflow.description, reflect workflow.metadata])
    (family "states" workflow.states leaf ++ family "transitions" workflow.transitions leaf)

def interfaceTree (interface : Interface) : AddressTree PyValue :=
  .node (reflect interface) (family "endpoints" interface.endpoints leaf)

def moduleTree (mod : Module) : AddressTree PyValue :=
  .node (.tuple [reflect mod.id, reflect mod.name, reflect mod.description, reflect mod.metadata])
    ([(("dependencies", none), leaf mod.dependencies)] ++ family "entities" mod.entities leaf ++
      family "services" mod.services leaf ++ family "workflows" mod.workflows workflowTree ++
      family "policies" mod.policies leaf ++ family "interfaces" mod.interfaces interfaceTree ++
      family "events" mod.events leaf ++ family "temporal_constraints" mod.temporalConstraints leaf ++
      family "data_migrations" mod.dataMigrations leaf)

def deploymentTree (deployment : Deployment) : AddressTree PyValue :=
  .node (.tuple [reflect deployment.id, reflect deployment.name, reflect deployment.description,
      reflect deployment.environment, reflect deployment.metadata])
    ([(("scaling", none), leaf deployment.scaling)] ++ [(("networking", none), leaf deployment.networking)] ++
      [(("monitoring", none), leaf deployment.monitoring)] ++ [(("storage", none), leaf deployment.storage)] ++
      [(("secrets", none), leaf deployment.secrets)])

def deploymentSlot : Option Deployment → List (Segment × AddressTree PyValue)
  | none => []
  | some deployment => [(("deployment", none), deploymentTree deployment)]

def geneTree (system : System) : AddressTree PyValue :=
  .node (.tuple [reflect system.id, reflect system.name, reflect system.description, reflect system.metadata,
      reflect system.globalPolicies])
    (family "constraints" system.constraints leaf ++ family "global_policies" system.globalPolicies leaf ++
      deploymentSlot system.deployment ++ family "business_capabilities" system.businessCapabilities leaf ++
      family "reliability_requirements" system.reliabilityRequirements leaf ++
      family "architectural_boundaries" system.architecturalBoundaries leaf ++
      family "requirements" system.requirements leaf ++ family "acceptance_criteria" system.acceptanceCriteria leaf ++
      family "deployment_intents" system.deploymentIntents leaf ++
      family "testing_anchors" system.testingAnchors leaf ++
      family "documentation_intents" system.documentationIntents leaf ++
      family "evolution_objectives" system.evolutionObjectives leaf ++
      family "protected_regions" system.protectedRegions leaf ++
      family "evolution_policies" system.evolutionPolicies leaf ++ family "modules" system.modules moduleTree)

/-- `gene_index`. -/
def geneIndex (numbers : NumberText JsonFloat) (sha256 : String → String) (isr : ISR) :
    Except String (Dict Path String) := do
  return assignAll [] (← hashed numbers sha256 (flatten root (geneTree isr.system)))

theorem addressed_leaf (item : Source) : Addressed (leaf item) := slots_nil.node _

theorem addressed_workflow (workflow : Workflow) : Addressed (workflowTree workflow) :=
  ((slots_family fun state _ => addressed_leaf state).append
    (slots_family fun transition _ => addressed_leaf transition) (by decide)).node _

theorem addressed_interface (interface : Interface) : Addressed (interfaceTree interface) :=
  (slots_family fun endpoint _ => addressed_leaf endpoint).node _

theorem addressed_module (mod : Module) : Addressed (moduleTree mod) :=
  (((((((((slots_single (addressed_leaf mod.dependencies)).append (slots_family fun item _ => addressed_leaf item)
    (by decide)).append
    (slots_family fun item _ => addressed_leaf item) (by decide)).append
    (slots_family fun item _ => addressed_workflow item) (by decide)).append
    (slots_family fun item _ => addressed_leaf item) (by decide)).append
    (slots_family fun item _ => addressed_interface item) (by decide)).append
    (slots_family fun item _ => addressed_leaf item) (by decide)).append
    (slots_family fun item _ => addressed_leaf item) (by decide)).append
    (slots_family fun item _ => addressed_leaf item) (by decide)).node _

theorem addressed_deployment (deployment : Deployment) : Addressed (deploymentTree deployment) :=
  (((((slots_single (addressed_leaf deployment.scaling)).append (slots_single (addressed_leaf deployment.networking))
    (by decide)).append
    (slots_single (addressed_leaf deployment.monitoring)) (by decide)).append
    (slots_single (addressed_leaf deployment.storage)) (by decide)).append
    (slots_single (addressed_leaf deployment.secrets)) (by decide)).node _

theorem slots_deployment (deployment : Option Deployment) : Slots ["deployment"] (deploymentSlot deployment) := by
  cases deployment with
  | none => exact ⟨by simp [deploymentSlot], List.nodup_nil, by simp [deploymentSlot]⟩
  | some deployment => exact slots_single (addressed_deployment deployment)

theorem addressed_gene (system : System) : Addressed (geneTree system) :=
  (((((((((((((((slots_family fun item _ => addressed_leaf item).append
    (slots_family fun item _ => addressed_leaf item) (by decide)).append
    (slots_deployment system.deployment) (by decide)).append
    (slots_family fun item _ => addressed_leaf item) (by decide)).append
    (slots_family fun item _ => addressed_leaf item) (by decide)).append
    (slots_family fun item _ => addressed_leaf item) (by decide)).append
    (slots_family fun item _ => addressed_leaf item) (by decide)).append
    (slots_family fun item _ => addressed_leaf item) (by decide)).append
    (slots_family fun item _ => addressed_leaf item) (by decide)).append
    (slots_family fun item _ => addressed_leaf item) (by decide)).append
    (slots_family fun item _ => addressed_leaf item) (by decide)).append
    (slots_family fun item _ => addressed_leaf item) (by decide)).append
    (slots_family fun item _ => addressed_leaf item) (by decide)).append
    (slots_family fun item _ => addressed_leaf item) (by decide)).append
    (slots_family fun item _ => addressed_module item) (by decide)).node _

variable {numbers : NumberText JsonFloat} {sha256 : String → String} {isr : ISR} {index : Dict Path String}

/-- The index holds the hashes of the values of the tree, each under its path. -/
theorem get_geneIndex (indexed : geneIndex numbers sha256 isr = .ok index) (path : Path) :
    get index (root ++ path) = (lookup path (geneTree isr.system)).map (digestOf numbers sha256) := by
  obtain ⟨hashes, computed, same⟩ := FailFast.bind_ok indexed
  cases same
  obtain ⟨_, rfl⟩ := hashed_ok computed
  have distinct := keys_flatten_nodup (addressed_gene isr.system) root
  rw [assignAll_distinct _ (by simpa [keys, Function.comp_def] using distinct), get_map_values,
    get_flatten (addressed_gene isr.system)]

theorem geneIndex_built (indexed : geneIndex numbers sha256 isr = .ok index) {path : Path} {value : PyValue}
    (held : lookup path (geneTree isr.system) = some value) :
    SemanticProjection.canonicalForm numbers value = .ok (formOf numbers value) := by
  obtain ⟨hashes, computed, _⟩ := FailFast.bind_ok indexed
  refine (hashed_ok computed).1 (root ++ path, value) (mem_of_get ?_)
  rw [get_flatten (addressed_gene isr.system), held]

def named (id : String) : AddressTree (Option String) := .node (some id) []

def workflowIdentities (workflow : Workflow) : AddressTree (Option String) :=
  .node (some workflow.id)
    (family "states" workflow.states (fun _ => named workflow.id) ++
      family "transitions" workflow.transitions fun _ => named workflow.id)

def moduleIdentities (mod : Module) : AddressTree (Option String) :=
  .node none
    (family "workflows" mod.workflows workflowIdentities ++
      family "data_migrations" mod.dataMigrations (fun migration => named migration.migrationId) ++
      family "temporal_constraints" mod.temporalConstraints fun constraint => named constraint.constraintId)

def identityTree (system : System) : AddressTree (Option String) :=
  .node none
    (family "business_capabilities" system.businessCapabilities (fun capability => named capability.capabilityId) ++
      family "reliability_requirements" system.reliabilityRequirements
        (fun requirement => named requirement.requirementId) ++
      family "architectural_boundaries" system.architecturalBoundaries (fun boundary => named boundary.boundaryId) ++
      family "requirements" system.requirements (fun requirement => named requirement.requirementId) ++
      family "acceptance_criteria" system.acceptanceCriteria (fun criterion => named criterion.criterionId) ++
      family "deployment_intents" system.deploymentIntents (fun intent => named intent.deploymentId) ++
      family "testing_anchors" system.testingAnchors (fun anchor => named anchor.anchorId) ++
      family "documentation_intents" system.documentationIntents (fun intent => named intent.documentationId) ++
      family "architectural_decisions" system.architecturalDecisions (fun decision => named decision.decisionId) ++
      family "security_threats" system.securityThreats (fun threat => named threat.threatId) ++
      family "modules" system.modules moduleIdentities)

/-- `_path_identities`: the nodes without an id are the paths that stay unkeyed. -/
def pathIdentities (isr : ISR) : Dict Path String :=
  assignAll [] ((flatten root (identityTree isr.system)).filterMap fun entry => entry.2.map fun id => (entry.1, id))

theorem addressed_named (id : String) : Addressed (named id) := slots_nil.node _

theorem addressed_workflowIdentities (workflow : Workflow) : Addressed (workflowIdentities workflow) :=
  ((slots_family fun _ _ => addressed_named workflow.id).append
    (slots_family fun _ _ => addressed_named workflow.id) (by decide)).node _

theorem addressed_moduleIdentities (mod : Module) : Addressed (moduleIdentities mod) :=
  (((slots_family fun workflow _ => addressed_workflowIdentities workflow).append
    (slots_family fun migration _ => addressed_named migration.migrationId) (by decide)).append
    (slots_family fun constraint _ => addressed_named constraint.constraintId) (by decide)).node _

theorem addressed_identity (system : System) : Addressed (identityTree system) :=
  (((((((((((slots_family fun item _ => addressed_named item.capabilityId).append
    (slots_family fun item _ => addressed_named item.requirementId) (by decide)).append
    (slots_family fun item _ => addressed_named item.boundaryId) (by decide)).append
    (slots_family fun item _ => addressed_named item.requirementId) (by decide)).append
    (slots_family fun item _ => addressed_named item.criterionId) (by decide)).append
    (slots_family fun item _ => addressed_named item.deploymentId) (by decide)).append
    (slots_family fun item _ => addressed_named item.anchorId) (by decide)).append
    (slots_family fun item _ => addressed_named item.documentationId) (by decide)).append
    (slots_family fun item _ => addressed_named item.decisionId) (by decide)).append
    (slots_family fun item _ => addressed_named item.threatId) (by decide)).append
    (slots_family fun item _ => addressed_moduleIdentities item) (by decide)).node _

theorem keys_filterMap_sublist {Key Value : Type} (entries : List (Key × Option Value)) :
    (keys (entries.filterMap fun entry => entry.2.map fun value => (entry.1, value))).Sublist (keys entries) := by
  induction entries with
  | nil => exact List.Sublist.slnil
  | cons entry rest ih =>
      obtain ⟨key, held⟩ := entry
      cases held with
      | none => exact ih.cons key
      | some value => exact ih.cons_cons key

theorem get_filterMap {Key Value : Type} [DecidableEq Key] {entries : List (Key × Option Value)}
    (distinct : (keys entries).Nodup) (key : Key) :
    get (entries.filterMap fun entry => entry.2.map fun value => (entry.1, value)) key = (get entries key).join := by
  cases found : get entries key with
  | none =>
      refine Option.not_isSome_iff_eq_none.mp fun present => ?_
      have member := (keys_filterMap_sublist entries).subset ((get_isSome_iff _ key).mp present)
      rw [← get_isSome_iff, found] at member
      cases member
  | some held =>
      have unique := distinct.sublist (keys_filterMap_sublist entries)
      cases held with
      | some value => exact get_of_mem unique (List.mem_filterMap.mpr ⟨_, mem_of_get found, rfl⟩)
      | none =>
          refine Option.not_isSome_iff_eq_none.mp fun present => ?_
          obtain ⟨value, holds⟩ := Option.isSome_iff_exists.mp present
          obtain ⟨source, member, made⟩ := List.mem_filterMap.mp (mem_of_get holds)
          obtain ⟨kept, held, same⟩ := Option.map_eq_some_iff.mp made
          cases same
          have again := @get_of_mem _ _ _ _ _ (some value) distinct (by rw [← held]; exact member)
          rw [found] at again
          cases again

theorem get_pathIdentities (isr : ISR) (path : Path) :
    get (pathIdentities isr) (root ++ path) = (lookup path (identityTree isr.system)).join := by
  have distinct := keys_flatten_nodup (addressed_identity isr.system) root
  rw [pathIdentities, assignAll_distinct _ (distinct.sublist (keys_filterMap_sublist _)), get_filterMap distinct,
    get_flatten (addressed_identity isr.system)]

end AutonomousApi.GeneIndex
