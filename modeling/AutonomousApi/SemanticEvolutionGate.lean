import AutonomousApi.EvolutionProtection

/-! The semantic evolution gate: the policy under which a candidate is judged, which is
always the parent's, and the verdict on a candidate. Protection comes first; a candidate
that passes it is feasible when the four proofs hold. The lists of terms stand for sets. -/

namespace AutonomousApi.SemanticEvolutionGate

open JsonValue PythonLiteral PythonText OrderedMap DataclassValues SystemModel StructureValidation IdentityIndex
  SemanticProjection GeneHash EvolutionProtection

/-- The references of all policies, each where it occurs first. -/
def merged (field : EvolutionPolicy → List String) (policies : List EvolutionPolicy) : List String :=
  keepFirst id [] (policies.flatMap field)

def resolveEvolutionPolicy (isr : ISR) : EvolutionPolicy :=
  match isr.system.evolutionPolicies with
  | [] => { policyId := "parent", admitted := by decide }
  | [policy] => policy
  | policies =>
      { policyId := "merged"
        objectiveRefs := merged (·.objectiveRefs) policies
        protectedRegionRefs := merged (·.protectedRegionRefs) policies
        selectionConstraints := merged (·.selectionConstraints) policies
        admitted := by decide }

def boundaryMechanismTerms : List String :=
  ["package", "namespace", "container", "pod", "process_id", "service_mesh", "network_zone", "vpc", "subnet", "region",
    "deployment_unit", "kubernetes", "docker"]

def deploymentMechanismTerms : List String :=
  ["kubernetes", "k8s", "docker", "ecs", "ec2", "lambda", "nomad", "mesos", "terraform", "pulumi", "cloudformation",
    "ansible", "helm", "kubectl", "aws", "gcp", "azure", "replica_count", "pod_spec", "container_image",
    "deployment_manifest", "ingress", "load_balancer_config", "service_mesh", "jenkins", "github_actions", "gitlab_ci",
    "circleci", "argo"]

def documentationMechanismTerms : List String :=
  ["markdown", "html", "rst", "mdx", "latex", "asciidoc", "template", "filepath", "file_path", "output_path",
    "render_config", "docusaurus", "mkdocs", "sphinx", "javadoc", "typedoc", "doxygen", "gitbook"]

def evolutionMechanismTerms : List String :=
  ["optimizer", "algorithm", "fitness_function", "selection_algorithm", "mutation_rate", "population_size", "annealing",
    "tournament", "roulette", "genetic_algorithm", "pymoo", "nsga", "reinforcement_learning"]

def migrationMechanismTerms : List String :=
  ["alembic", "ecto", "prisma", "flyway", "liquibase", "migration_script", "migration_command", "rollback_command",
    "orm_model", "ddl", "dml"]

def reliabilityMechanismTerms : List String :=
  ["kubernetes", "k8s", "docker", "systemd", "supervisor", "restart_policy", "retry_count", "max_retries", "backoff",
    "exponential_backoff", "circuit_breaker", "bulkhead", "replica_count", "replication_config", "failover_config",
    "liveness_probe", "readiness_probe", "queue_name", "database_replica"]

def requirementMechanismTerms : List String :=
  ["pytest", "junit", "cypress", "selenium", "jest", "mocha", "testng", "test_file", "test_name", "test_case",
    "assertion_library", "http_request", "sql_query", "browser_action", "grpc_call"]

def testingMechanismTerms : List String :=
  ["pytest", "junit", "cypress", "selenium", "jest", "mocha", "testng", "rspec", "test_file", "test_function",
    "test_name", "test_case", "fixture", "conftest", "pytest_marker", "assert_function", "mock_object",
    "docker_command", "shell_command", "ci_step", "runner_config"]

def allTerms : List String :=
  (boundaryMechanismTerms ++ deploymentMechanismTerms ++ documentationMechanismTerms ++ evolutionMechanismTerms ++
    migrationMechanismTerms ++ reliabilityMechanismTerms ++ requirementMechanismTerms ++ testingMechanismTerms).dedup

/-- The domain of an edit is free text; one that names no domain edits no gene. -/
structure GeneEdit where
  domain : String
  geneId : String
  newGene : Gene

structure MultiGeneDelta where
  deltaId : String
  edits : List GeneEdit

def MultiGeneDelta.editedGenes (delta : MultiGeneDelta) : List (String × String) :=
  (delta.edits.map fun edit => (edit.domain, edit.geneId)).dedup

def MultiGeneDelta.declares (delta : MultiGeneDelta) (key : GeneKey) : Bool :=
  delta.editedGenes.contains (StrEnum.value key.1, key.2)

structure GateProof where
  proofId : String
  held : Bool
  evidence : String

variable (table : CharTable) (numbers : NumberText JsonFloat) (sha256 : String → String) (parent candidate : ISR)
  (delta : MultiGeneDelta)

def geneValue : Gene → PyValue
  | .capability gene => reflect gene
  | .requirement gene => reflect gene
  | .acceptanceCriterion gene => reflect gene
  | .boundary gene => reflect gene
  | .testingAnchor gene => reflect gene
  | .reliability gene => reflect gene
  | .deployment gene => reflect gene
  | .documentation gene => reflect gene
  | .migration gene => reflect gene
  | .temporal gene => reflect gene
  | .behavior gene => reflect gene
  | .decision gene => reflect gene
  | .threat gene => reflect gene

/-- `IdentityIndex.derive(isr).gene_hashes`. -/
def geneHashes (isr : ISR) : Except String (Dict GeneKey String) :=
  hashed numbers sha256 ((genes isr).map fun entry => (entry.1, geneValue entry.2))

def keyText (key : String × String) : String := "(" ++ quoted key.1 ++ ", " ++ quoted key.2 ++ ")"

def disturbedGenes (before after : Dict GeneKey String) : List (String × String) :=
  ((after.filter fun entry => get before entry.1 != some entry.2 && !delta.declares entry.1).map
    fun entry => (StrEnum.value entry.1.1, entry.1.2)).insertionSort
      fun left right => left.1 < right.1 ∨ left.1 = right.1 ∧ left.2 ≤ right.2

def proveLocality : Except String GateProof := do
  let before ← geneHashes numbers sha256 parent
  let after ← geneHashes numbers sha256 candidate
  let disturbed := disturbedGenes delta before after
  let moved := "moved " ++ toString delta.editedGenes.length ++ " declared gene(s)"
  return {
    proofId := "locality"
    held := disturbed.isEmpty
    evidence :=
      if disturbed.isEmpty then moved ++ ", 0 disturbed"
      else moved ++ " but disturbed " ++ toString disturbed.length ++ " undeclared gene(s): [" ++
        String.intercalate ", " (disturbed.map keyText) ++ "]" }

def proveReferenceIntegrity : GateProof :=
  let newlyDangling := (danglingReferences candidate).filter fun dangle => !(danglingReferences parent).contains dangle
  { proofId := "reference_integrity"
    held := newlyDangling.isEmpty
    evidence :=
      if newlyDangling.isEmpty then "no new dangling cross-gene reference"
      else "new dangling cross-gene reference(s): " ++ printedTuple newlyDangling }

/-- The terms that occur in a text, in lower case. -/
def termsIn (terms : List String) (text : String) : List String :=
  let lowered := String.ofList (table.lower text.toList)
  terms.filter fun term => mentions term lowered

/-- `assert_..._technology_agnostic` of one carrier: what its exception says, if there is one. -/
def lint {Source : Type} [Reflect Source] (terms : List String) (couples : Source → String) (carrier : Source) :
    Except String (List String) := do
  let hits := termsIn table terms (← canonicalize numbers (reflect carrier))
  return complain (!hits.isEmpty) (couples carrier ++ ": " ++ printedTuple hits)

def lintAll {Source : Type} [Reflect Source] (name : String) (terms : List String) (couples : Source → String) :
    List Source → Except String (List String)
  | [] => .ok []
  | carrier :: rest => do
      let hits ← lint table numbers terms couples carrier
      return hits.map (fun hit => name ++ ": " ++ hit) ++ (← lintAll name terms couples rest)

def capabilityHits (capability : BusinessCapability) : List String :=
  let leaked := termsIn table allTerms capability.intent
  complain (!leaked.isEmpty) ("capability " ++ quoted capability.capabilityId ++
    " intent couples to mechanism(s): " ++ printedTuple leaked)

def backendHits : Except String (List String) := do
  let system := candidate.system
  let migration ← lintAll table numbers "migration" migrationMechanismTerms
    (fun carrier => "migration " ++ quoted carrier.migrationId ++ " couples to mechanism(s)")
    (system.modules.flatMap (·.dataMigrations))
  let reliability ← lintAll table numbers "reliability" reliabilityMechanismTerms
    (fun carrier => "reliability " ++ quoted carrier.requirementId ++ " couples to mechanism(s)")
    system.reliabilityRequirements
  let boundary ← lintAll table numbers "boundary" boundaryMechanismTerms
    (fun carrier => "boundary " ++ quoted carrier.boundaryId ++ " couples to realization(s)")
    system.architecturalBoundaries
  let deployment ← lintAll table numbers "deployment" deploymentMechanismTerms
    (fun carrier => "deployment " ++ quoted carrier.deploymentId ++ " couples to realization(s)")
    system.deploymentIntents
  let requirement ← lintAll table numbers "requirement" requirementMechanismTerms
    (fun _ => "requirement semantic couples to test mechanism(s)") system.requirements
  let anchor ← lintAll table numbers "testing_anchor" testingMechanismTerms
    (fun carrier => "anchor " ++ quoted carrier.anchorId ++ " couples to test mechanism(s)") system.testingAnchors
  let documentation ← lintAll table numbers "documentation" documentationMechanismTerms
    (fun carrier => "documentation " ++ quoted carrier.documentationId ++ " couples to realization mechanism(s)")
    system.documentationIntents
  let evolution ← lintAll table numbers "evolution" evolutionMechanismTerms
    (fun carrier => "policy " ++ quoted carrier.policyId ++ " couples to engine mechanism(s)") system.evolutionPolicies
  return system.businessCapabilities.flatMap (capabilityHits table) ++ migration ++ reliability ++ boundary ++
    deployment ++ requirement ++ anchor ++ documentation ++ evolution

def proveBackendIndependence : Except String GateProof := do
  let hits ← backendHits table numbers candidate
  return {
    proofId := "backend_independence"
    held := hits.isEmpty
    evidence := "all 10 primitives' mechanism lints hold (8 named lints + capability free-text scan + " ++
      "temporal by-construction): " ++
      (if hits.isEmpty then "clean" else "coupling found: " ++ printedList hits) }

/-- The scan of the package's own sources is an argument: it does not look at the candidate. -/
def proveR28EvidencePath (consumed : Bool) : GateProof :=
  { proofId := "r28_evidence_path"
    held := consumed
    evidence :=
      if consumed then "protection projection consumed by the R2.8 gate stack; no evaluation machinery in " ++
        "evolution-gate or universal-search sources"
      else "evaluation machinery found in evolution sources" }

structure SemanticEvolutionVerdict where
  feasible : Bool
  candidateSemanticHash : String
  protection : ProtectionResult
  proofs : List GateProof
  policyResolvedFrom : String := "parent"

/-- What a gate is built with: its protection evaluator's authority, and what the code takes from
outside the representation. -/
structure GateContext where
  table : CharTable
  numbers : NumberText JsonFloat
  sha256 : String → String
  authority : Authority := none
  consumed : Bool

/-- `evaluate_candidate` of a gate without a ledger. -/
def evaluateCandidate (context : GateContext) (parent candidate : ISR) (delta : MultiGeneDelta)
    (authorization : Option Authorization) : Except String SemanticEvolutionVerdict := do
  let policy := resolveEvolutionPolicy parent
  let protection ← evaluate context.authority context.numbers context.sha256 parent candidate policy authorization
  if protection.protectedOk then
    let locality ← proveLocality context.numbers context.sha256 parent candidate delta
    let backend ← proveBackendIndependence context.table context.numbers candidate
    let proofs := [locality, proveReferenceIntegrity parent candidate, backend, proveR28EvidencePath context.consumed]
    return {
      feasible := proofs.all (·.held)
      candidateSemanticHash := ← semanticContentHash context.numbers context.sha256 candidate
      protection := protection
      proofs := proofs }
  else
    return {
      feasible := false
      candidateSemanticHash := ← semanticContentHash context.numbers context.sha256 candidate
      protection := protection
      proofs := [] }

end AutonomousApi.SemanticEvolutionGate
