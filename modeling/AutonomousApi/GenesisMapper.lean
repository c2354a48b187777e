import AutonomousApi.GenomeMaterializer
import AutonomousApi.Requirements

/-! The deterministic mapping of a requirement graph to the initial ISR graph
(genesis/mapper.py). Every requirement becomes a reference node, concepts and functional
requirements an architectural node as well; requirement edges become typed edges between the
references. Requirements may declare further nodes and edges in their properties. -/

namespace AutonomousApi.GenesisMapper

open JsonValue OrderedMap FailFast IsrGraph Requirements

inductive MappingError where
  | fragmentsNotLists (requirement : String)
  | malformedNode (requirement : String)
  | incompleteNode (requirement : String)
  | nodeType (node type : String)
  | nodeCitation (node requirement : String)
  | duplicateNode (node : String)
  | malformedEdge (requirement : String)
  | incompleteEdge (requirement : String)
  | edgeType (edge type : String)
  | edgeCitation (edge requirement : String)
  | duplicateEdge (edge : String)
  | constitutionalCollision (node : String)
  | relationshipEndpoint (edge : String)
  | edgeEndpoint (edge : String)
  | edgeEndpointTypes (edge : String) (type : EdgeType)

def sortById {Item : Type} (id : Item → String) (items : List Item) : List Item :=
  items.insertionSort fun left right => id left ≤ id right

def texts (items : List String) : Json := .arr (items.map Json.str)

def optionalText : Option String → Json
  | none => .null
  | some text => .str text

def refKey (id : String) : String := "requirement_ref" ++ ":" ++ id

/-- Every requirement is kept as a reference of its own. -/
def referenceNode (n : RequirementNode) : Node where
  id := refKey n.id
  type := .requirementRef
  properties := [("ref_id", .str n.id), ("requirement_id", .str n.id), ("semantic_content", .str n.statement),
    ("statement", .str n.statement), ("requirement_kind", .str n.kind.value), ("priority", .str n.priority.value),
    ("acceptance_criteria", texts n.acceptanceCriteria), ("ambiguity_score", .float n.ambiguityScore),
    ("source_refs", texts n.sourceRefs), ("resolution_ref", optionalText n.resolutionRef),
    ("properties", .obj n.properties)]

def targetType : RequirementKind → Option NodeType
  | .domainConcept => some .domain
  | .functional => some .capability
  | .nonFunctional | .constraint | .stakeholder => none

def architectureNode (n : RequirementNode) : Option Node :=
  (targetType n.kind).map fun type =>
    { id := type.value ++ ":" ++ n.id, type,
      properties := [("label", .str n.statement), ("priority", .str n.priority.value), ("requirement_id", .str n.id),
        ("source_refs", texts n.sourceRefs)] }

def projectedNodes (n : RequirementNode) : List Node := referenceNode n :: (architectureNode n).toList

def nodeOf (node : Node) : String × Node := (node.id, node)

def edgeOf (edge : Edge) : String × Edge := (edge.id, edge)

/-- The requirements in the order of their ids. -/
def ordered (req : RequirementGraph) : List RequirementNode := sortById RequirementNode.id req.requirements

def generatedNodes (req : RequirementGraph) : Dict String Node :=
  assignAll [] ((ordered req).flatMap fun n => (projectedNodes n).map nodeOf)

def coverage (req : RequirementGraph) : Dict String (List String) :=
  ((ordered req).flatMap fun n => (projectedNodes n).map fun node => (n.id, node.id)).foldl
    (fun covered entry => push covered entry.1 entry.2) []

structure Declared where
  nodes : Dict String Node := []
  edges : Dict String Edge := []

/-- `.get` with a default empty list, on properties that should hold a list there. -/
def fragments (properties : Dict String Json) (key : String) : Option (List Json) :=
  match get properties key with
  | none => some []
  | some (.list items) => some items
  | some _ => none

/-- The declared properties cite known requirements, the declaring one among them. -/
def cites (known : List String) (requirementId : String) (properties : Dict String Json) : Bool :=
  match get properties "source_requirement_ids" with
  | some (.list ids) =>
      !ids.isEmpty && ids.all (fun id => match id with
        | .atom (.str text) => known.contains text
        | _ => false) && ids.contains (Json.str requirementId)
  | _ => false

def readDeclaredNode (known : List String) (requirementId : String) (declaration : Json) :
    Except MappingError (String × Node) :=
  match declaration with
  | .dict record =>
      match get record "id", get record "type", get record "properties" with
      | some (.atom (.str id)), some (.atom (.str value)), some (.dict properties) =>
          if id = "" then .error (.incompleteNode requirementId)
          else
            match GenomeMaterializer.nodeTypes.find? fun type => type.value == value with
            | none => .error (.nodeType id value)
            | some type =>
                if cites known requirementId properties then .ok (nodeOf { id, type, properties })
                else .error (.nodeCitation id requirementId)
      | _, _, _ => .error (.incompleteNode requirementId)
  | _ => .error (.malformedNode requirementId)

/-- The properties of a declared edge, which may be left out. -/
def edgeProperties (record : Dict String Json) : Option (Dict String Json) :=
  match get record "properties" with
  | none => some []
  | some (.dict properties) => some properties
  | some _ => none

def readDeclaredEdge (known : List String) (requirementId : String) (declaration : Json) :
    Except MappingError (String × Edge) :=
  match declaration with
  | .dict record =>
      match get record "id", get record "type", get record "source_id", get record "target_id",
          edgeProperties record with
      | some (.atom (.str id)), some (.atom (.str value)), some (.atom (.str sourceId)), some (.atom (.str targetId)),
          some properties =>
          if id = "" ∨ value = "" ∨ sourceId = "" ∨ targetId = "" then .error (.incompleteEdge requirementId)
          else
            match GenomeMaterializer.edgeTypes.find? fun type => type.value == value with
            | none => .error (.edgeType id value)
            | some type =>
                if cites known requirementId properties then .ok (edgeOf { id, type, sourceId, targetId, properties })
                else .error (.edgeCitation id requirementId)
      | _, _, _, _, _ => .error (.incompleteEdge requirementId)
  | _ => .error (.malformedEdge requirementId)

/-- What one requirement declares is added; an id that is taken is refused. -/
def declare (known : List String) (generated : Dict String Node) (declared : Declared) (requirement : RequirementNode) :
    Except MappingError Declared :=
  match fragments requirement.properties "isr_nodes", fragments requirement.properties "isr_edges" with
  | some rawNodes, some rawEdges => do
      let nodes ← registerAll (readDeclaredNode known requirement.id)
          (fun id => (get generated id).isSome) .duplicateNode
        (fun _ => .ok ()) declared.nodes rawNodes
      let edges ← registerAll (readDeclaredEdge known requirement.id) (fun _ => false) .duplicateEdge
        (fun _ => .ok ()) declared.edges rawEdges
      .ok { nodes, edges }
  | _, _ => .error (.fragmentsNotLists requirement.id)

def declarations (req : RequirementGraph) : Except MappingError Declared :=
  foldChecked (declare (keys req.nodes) (generatedNodes req)) {} (ordered req)

def constitutionalDefaults : List String := ["security", "observability", "testing", "deployment", "documentation"]

def constitutionalServiceResponsibility (default : String) : String :=
  "uphold the " ++ default ++ " baseline for every generated service"

def constitutionalService (default : String) : Node where
  id := "service:constitution:" ++ default
  type := .service
  properties := [("label", .str ("constitutional baseline: " ++ default)),
    ("derivation_ref", .str ("constitution:" ++ default)),
    ("responsibility", .str (constitutionalServiceResponsibility default))]

def withBaseline (nodes : Dict String Node) : Except MappingError (Dict String Node) :=
  registerAll (fun default => .ok (nodeOf (constitutionalService default))) (fun _ => false) .constitutionalCollision
    (fun _ => .ok ()) nodes constitutionalDefaults

def satisfiesEdge (nodes : Dict String Node) (n : RequirementNode) : Option Edge :=
  let capabilityId := "capability" ++ ":" ++ n.id
  if n.kind = .functional ∧ (get nodes capabilityId).isSome ∧ (get nodes (refKey n.id)).isSome then
    some { id := "satisfies:" ++ n.id, type := .satisfies, sourceId := capabilityId, targetId := refKey n.id }
  else none

def relationshipType : RequirementEdgeType → EdgeType
  | .dependsOn => .requirementDependsOn
  | .conflictsWith => .requirementConflictsWith
  | .refines => .requirementRefines
  | .ownedBy => .requirementOwnedBy

def relationKey (id : String) : String := "requirement:" ++ id

def relationEdge (edge : RequirementEdge) : Edge where
  id := relationKey edge.id
  type := relationshipType edge.type
  sourceId := refKey edge.sourceId
  targetId := refKey edge.targetId
  properties := [("source_requirement_edge_id", .str edge.id), ("resolution_ref", optionalText edge.resolutionRef)]

/-- A requirement edge with an unknown endpoint stops the mapping. -/
def relate (nodes : Dict String Node) (edges : Dict String Edge) (edge : RequirementEdge) :
    Except MappingError (Dict String Edge) := do
  require ((get nodes (refKey edge.sourceId)).isSome && (get nodes (refKey edge.targetId)).isSome)
    (.relationshipEndpoint edge.id)
  .ok (assign edges (relationKey edge.id) (relationEdge edge))

def checkDeclaredEdge (nodes : Dict String Node) (edge : Edge) : Except MappingError Unit :=
  match get nodes edge.sourceId, get nodes edge.targetId with
  | some source, some target =>
      require ((edgeTypeCompatibility edge.type).1.contains source.type &&
        (edgeTypeCompatibility edge.type).2.contains target.type) (.edgeEndpointTypes edge.id edge.type)
  | _, _ => .error (.edgeEndpoint edge.id)

def projectedEdges (req : RequirementGraph) (nodes : Dict String Node) (declared : Dict String Edge) :
    Except MappingError (Dict String Edge) := do
  let satisfied := assignAll [] (((ordered req).filterMap (satisfiesEdge nodes)).map edgeOf)
  let related ← foldChecked (relate nodes) satisfied (sortById RequirementEdge.id req.relations)
  registerAll (fun entry => .ok entry) (fun _ => false) .duplicateEdge (checkDeclaredEdge nodes) related declared

structure CoverageReport where
  requirementToIsr : Dict String (List String)
  uncovered : List String

structure GenesisResult where
  graph : Graph
  coverage : CoverageReport
  defaults : List String

def uncovered (req : RequirementGraph) : List String :=
  (req.requirements.map RequirementNode.id).filter fun id => (get (coverage req) id).isNone

/-- The graph holds copies of the two dictionaries. -/
def isrGraph (nodes : Dict String Node) (edges : Dict String Edge) : Graph where
  nodes := assignAll [] nodes
  edges := assignAll [] edges
  distinctNodes := GenomeMaterializer.distinct_dictionary nodes
  distinctEdges := GenomeMaterializer.distinct_dictionary edges

/-- `ReferenceDeterministicMapper.map`. The version of the mapping specification is not read. -/
def map (req : RequirementGraph) : Except MappingError GenesisResult := do
  let declared ← declarations req
  let nodes ← withBaseline (assignAll (generatedNodes req) declared.nodes)
  let edges ← projectedEdges req nodes declared.edges
  .ok { graph := isrGraph nodes edges, coverage := ⟨coverage req, uncovered req⟩, defaults := constitutionalDefaults }

end AutonomousApi.GenesisMapper
