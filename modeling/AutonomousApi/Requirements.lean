import AutonomousApi.IsrGraph

/-! The requirement graph and the checks it passes before it is mapped (reqgraph/core/graph.py,
invariants.py). Requirements and their edges are dictionaries; an edge names requirements by
their keys, and the `id` field of a requirement or an edge need not repeat its key. -/

namespace AutonomousApi.Requirements

open JsonValue OrderedMap FailFast PythonText IsrGraph

inductive Priority where
  | must | should | could
  deriving DecidableEq

def Priority.value : Priority → String
  | .must => "must"
  | .should => "should"
  | .could => "could"

inductive RequirementKind where
  | functional | nonFunctional | domainConcept | stakeholder | constraint
  deriving DecidableEq

def RequirementKind.value : RequirementKind → String
  | .functional => "functional"
  | .nonFunctional => "non_functional"
  | .domainConcept => "domain_concept"
  | .stakeholder => "stakeholder"
  | .constraint => "constraint"

structure RequirementNode where
  id : String
  kind : RequirementKind
  statement : String
  priority : Priority
  acceptanceCriteria : List String := []
  ambiguityScore : JsonFloat := .finite 0
  resolutionRef : Option String := none
  sourceRefs : List String := []
  properties : Dict String Json := []
  named : id ≠ "" := by decide
  stated : statement ≠ "" := by decide
  scored : 0 ≤ ambiguityScore.toRat ∧ ambiguityScore.toRat ≤ 1 := by decide

inductive RequirementEdgeType where
  | dependsOn | conflictsWith | refines | ownedBy
  deriving DecidableEq

structure RequirementEdge where
  id : String
  type : RequirementEdgeType
  sourceId : String
  targetId : String
  resolutionRef : Option String := none
  named : id ≠ "" := by decide
  joined : sourceId ≠ "" ∧ targetId ≠ "" := by decide

structure RequirementGraph where
  nodes : Dict String RequirementNode := []
  edges : Dict String RequirementEdge := []
  distinctNodes : (keys nodes).Nodup := by decide
  distinctEdges : (keys edges).Nodup := by decide

def RequirementGraph.requirements (graph : RequirementGraph) : List RequirementNode := graph.nodes.map Prod.snd

def RequirementGraph.relations (graph : RequirementGraph) : List RequirementEdge := graph.edges.map Prod.snd

inductive RequirementInvariantViolation where
  | missingSource (edge source : String)
  | missingTarget (edge target : String)
  | unresolvedConflict (edge : String)
  | lacksCriteria (requirement : String)
  | ambiguous (requirement : String) (score : JsonFloat)
  | leakage (entity term : String)
  | criteriaLeakage (requirement term : String)

def ambiguityThreshold : Rat := { num := 1, den := 2 }

/-- The list that this package keeps of the terms. -/
def forbiddenTerms : List String :=
  ["aws", "boto", "docker", "django", "fastapi", "flask", "graphql",
    "grpc", "java", "kafka", "kubernetes", "mongo", "mysql", "nestjs",
    "neo4j", "nginx", "nodejs", "postgres", "postgresql", "rabbitmq",
    "react", "redis", "spring", "terraform", "vue"]

/-- `not text` of an optional text. -/
def unset : Option String → Bool
  | none => true
  | some text => text == ""

def checkRequirementEdge (nodes : Dict String RequirementNode) (edge : RequirementEdge) :
    Except RequirementInvariantViolation Unit := do
  require (get nodes edge.sourceId).isSome (.missingSource edge.id edge.sourceId)
  require (get nodes edge.targetId).isSome (.missingTarget edge.id edge.targetId)
  require (!(edge.type == .conflictsWith && unset edge.resolutionRef)) (.unresolvedConflict edge.id)

def checkForbidden (table : CharTable) (fault : String → RequirementInvariantViolation) (texts : List String) :
    Except RequirementInvariantViolation Unit :=
  checkAll (fun text =>
    match searchTerms table forbiddenTerms false text.toList with
    | some term => .error (fault term)
    | none => .ok ()) texts

def checkRequirement (table : CharTable) (node : RequirementNode) : Except RequirementInvariantViolation Unit := do
  require (!(node.kind == .functional && node.acceptanceCriteria.isEmpty)) (.lacksCriteria node.id)
  require (!(ambiguityThreshold < node.ambiguityScore.toRat && unset node.resolutionRef))
    (.ambiguous node.id node.ambiguityScore)
  checkForbidden table (.leakage node.id) (mappingStrings node.properties)
  checkForbidden table (.criteriaLeakage node.id) node.acceptanceCriteria

def validateRequirementGraph (table : CharTable) (graph : RequirementGraph) :
    Except RequirementInvariantViolation Unit := do
  checkAll (checkRequirementEdge graph.nodes) graph.relations
  checkAll (checkRequirement table) graph.requirements

theorem checkForbidden_ok_iff (table : CharTable) (fault : String → RequirementInvariantViolation)
    (texts : List String) :
    checkForbidden table fault texts = .ok () ↔
      ∀ text ∈ texts, searchTerms table forbiddenTerms false text.toList = none := by
  rw [checkForbidden, checkAll_ok_iff]
  refine forall₂_congr fun text _ => ?_
  cases searchTerms table forbiddenTerms false text.toList <;> simp

theorem validateRequirementGraph_ok_iff (table : CharTable) (graph : RequirementGraph) :
    validateRequirementGraph table graph = .ok () ↔
      (∀ edge ∈ graph.relations, checkRequirementEdge graph.nodes edge = .ok ()) ∧
        ∀ node ∈ graph.requirements, checkRequirement table node = .ok () := by
  rw [validateRequirementGraph, bind_unit_ok_iff, checkAll_ok_iff, checkAll_ok_iff]

variable {table : CharTable} {graph : RequirementGraph}

/-- The edges of an accepted graph join requirements that are there. -/
theorem accepted_endpoints (accepted : validateRequirementGraph table graph = .ok ()) {edge : RequirementEdge}
    (member : edge ∈ graph.relations) :
    (∃ source, get graph.nodes edge.sourceId = some source) ∧
      ∃ target, get graph.nodes edge.targetId = some target := by
  have checked := ((validateRequirementGraph_ok_iff table graph).mp accepted).1 edge member
  rw [checkRequirementEdge, bind_unit_ok_iff, bind_unit_ok_iff, require_ok_iff, require_ok_iff] at checked
  exact ⟨Option.isSome_iff_exists.mp checked.1, Option.isSome_iff_exists.mp checked.2.1⟩

/-- What an accepted graph promises about forbidden terms: the properties and the criteria of its
requirements have none. -/
theorem accepted_texts (accepted : validateRequirementGraph table graph = .ok ()) {node : RequirementNode}
    (member : node ∈ graph.requirements) {text : String}
    (inside : text ∈ mappingStrings node.properties ∨ text ∈ node.acceptanceCriteria) :
    searchTerms table forbiddenTerms false text.toList = none := by
  have checked := ((validateRequirementGraph_ok_iff table graph).mp accepted).2 node member
  rw [checkRequirement, bind_unit_ok_iff, bind_unit_ok_iff, bind_unit_ok_iff, checkForbidden_ok_iff,
    checkForbidden_ok_iff] at checked
  exact inside.elim (checked.2.2.1 text) (checked.2.2.2 text)

end AutonomousApi.Requirements
