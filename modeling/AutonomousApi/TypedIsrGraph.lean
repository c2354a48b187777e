import AutonomousApi.JsonValue
import AutonomousApi.OrderedMap

/-! The typed graph of the ISR (isr/graph/typed_graph.py): nodes and edges under their ids and two indexes from
a node to the ids of its edges. `WellFormed` is what every graph built by `add_node` and `add_edge` has. What a
node or an edge carries besides its ends and its type is not read by the graph and is a parameter. -/

namespace AutonomousApi.TypedIsrGraph

open JsonValue OrderedMap

inductive EdgeType where
  | owns | dependsOn | emits | consumes | references | implements | securedBy | deploysTo | orchestrates
  | constrains | contains | transitionsTo | triggers | validates | documents | tests
  deriving DecidableEq

variable {Detail Attributes : Type}

/-- `detail` stands for the type, label, attributes and parent of the node. -/
structure GraphNode (Detail : Type) where
  id : String
  detail : Detail

structure GraphEdge (Attributes : Type) where
  id : String
  sourceId : String
  targetId : String
  edgeType : EdgeType
  attributes : Attributes
  metadata : Dict String Json := []

structure TypedGraph (Detail Attributes : Type) where
  nodes : Dict String (GraphNode Detail) := []
  edges : Dict String (GraphEdge Attributes) := []
  adjacency : Dict String (List String) := []
  reverseAdjacency : Dict String (List String) := []

section

variable (graph : TypedGraph Detail Attributes)

def addNode (node : GraphNode Detail) : Except String (TypedGraph Detail Attributes) :=
  if (get graph.nodes node.id).isSome then .error s!"Node '{node.id}' already exists"
  else .ok { graph with
    nodes := assign graph.nodes node.id node
    adjacency := setDefaults graph.adjacency [(node.id, [])]
    reverseAdjacency := setDefaults graph.reverseAdjacency [(node.id, [])] }

def addEdge (edge : GraphEdge Attributes) : Except String (TypedGraph Detail Attributes) :=
  if (get graph.edges edge.id).isSome then .error s!"Edge '{edge.id}' already exists"
  else if (get graph.nodes edge.sourceId).isNone then .error s!"Source node '{edge.sourceId}' does not exist"
  else if (get graph.nodes edge.targetId).isNone then .error s!"Target node '{edge.targetId}' does not exist"
  else .ok { graph with
    edges := assign graph.edges edge.id edge
    adjacency := push graph.adjacency edge.sourceId edge.id
    reverseAdjacency := push graph.reverseAdjacency edge.targetId edge.id }

def getNode (id : String) : Option (GraphNode Detail) := get graph.nodes id

def getEdge (id : String) : Option (GraphEdge Attributes) := get graph.edges id

/-- `graph.nodes()`, in the order in which they were added. -/
def nodeList : List (GraphNode Detail) := graph.nodes.map Prod.snd

/-- `graph.edges()`, in the order in which they were added. -/
def edgeList : List (GraphEdge Attributes) := graph.edges.map Prod.snd

/-- The edges an index lists; a listed id without an edge is a KeyError. -/
def listed (index : Dict String (List String)) (id : String) : Option (List (GraphEdge Attributes)) :=
  (group index id).mapM (get graph.edges)

def getOutgoingEdges (id : String) : Option (List (GraphEdge Attributes)) := listed graph graph.adjacency id

def getIncomingEdges (id : String) : Option (List (GraphEdge Attributes)) := listed graph graph.reverseAdjacency id

end

/-- The graphs that `add_node` and `add_edge` lead to. -/
inductive Built : TypedGraph Detail Attributes → Prop
  | empty : Built {}
  | node {graph grown : TypedGraph Detail Attributes} {node : GraphNode Detail} (built : Built graph)
      (added : addNode graph node = .ok grown) : Built grown
  | edge {graph grown : TypedGraph Detail Attributes} {edge : GraphEdge Attributes} (built : Built graph)
      (added : addEdge graph edge = .ok grown) : Built grown

/-- An index from nodes to edges has an entry for each node and lists exactly the edges with that end. -/
structure Indexed (graph : TypedGraph Detail Attributes) (index : Dict String (List String))
    (endOf : GraphEdge Attributes → String) : Prop where
  present : keys index = keys graph.nodes
  lists : ∀ id, group index id = ((edgeList graph).filter fun edge => endOf edge = id).map GraphEdge.id

/-- Everything is kept under its own id, the ends of every edge exist and the indexes list the edges. -/
structure WellFormed (graph : TypedGraph Detail Attributes) : Prop where
  distinctNodes : (keys graph.nodes).Nodup
  nodeIds : ∀ entry ∈ graph.nodes, entry.1 = entry.2.id
  distinctEdges : (keys graph.edges).Nodup
  edgeIds : ∀ entry ∈ graph.edges, entry.1 = entry.2.id
  ends : ∀ edge ∈ edgeList graph, edge.sourceId ∈ keys graph.nodes ∧ edge.targetId ∈ keys graph.nodes
  outgoing : Indexed graph graph.adjacency GraphEdge.sourceId
  incoming : Indexed graph graph.reverseAdjacency GraphEdge.targetId

section

variable {graph grown : TypedGraph Detail Attributes} {node : GraphNode Detail} {edge : GraphEdge Attributes}
  {index : Dict String (List String)} {endOf : GraphEdge Attributes → String} {id : String}

theorem addNode_ok (added : addNode graph node = .ok grown) :
    node.id ∉ keys graph.nodes ∧ grown =
      { graph with
        nodes := graph.nodes ++ [(node.id, node)]
        adjacency := setDefaults graph.adjacency [(node.id, [])]
        reverseAdjacency := setDefaults graph.reverseAdjacency [(node.id, [])] } := by
  rw [addNode] at added
  split_ifs at added with known
  rw [get_isSome_iff] at known
  refine ⟨known, ?_⟩
  rw [← assign_fresh graph.nodes node.id node known]
  exact (Except.ok.inj added).symm

theorem addEdge_ok (added : addEdge graph edge = .ok grown) :
    edge.id ∉ keys graph.edges ∧ edge.sourceId ∈ keys graph.nodes ∧ edge.targetId ∈ keys graph.nodes ∧ grown =
      { graph with
        edges := graph.edges ++ [(edge.id, edge)]
        adjacency := push graph.adjacency edge.sourceId edge.id
        reverseAdjacency := push graph.reverseAdjacency edge.targetId edge.id } := by
  rw [addEdge] at added
  split_ifs at added with known source target
  rw [get_isSome_iff] at known
  rw [Option.isNone_iff_eq_none, ← Ne, Option.ne_none_iff_isSome, get_isSome_iff] at source target
  refine ⟨known, source, target, ?_⟩
  rw [← assign_fresh graph.edges edge.id edge known]
  exact (Except.ok.inj added).symm

theorem wellFormed_empty : WellFormed ({} : TypedGraph Detail Attributes) where
  distinctNodes := List.nodup_nil
  nodeIds := by simp
  distinctEdges := List.nodup_nil
  edgeIds := by simp
  ends := by simp [edgeList]
  outgoing := ⟨rfl, fun _ => rfl⟩
  incoming := ⟨rfl, fun _ => rfl⟩

theorem keys_push {key : String} {value : String} (present : key ∈ keys index) :
    keys (push index key value) = keys index := by
  induction index with
  | nil => cases present
  | cons entry rest ih =>
      rw [push]
      split_ifs with same
      · rfl
      · have later := (List.mem_cons.mp present).resolve_left (Ne.symm same)
        exact congrArg (entry.1 :: ·) (ih later)

theorem Indexed.addNode (indexed : Indexed graph index endOf) (fresh : node.id ∉ keys graph.nodes)
    (nodes : keys grown.nodes = keys graph.nodes ++ [node.id]) (edges : grown.edges = graph.edges) :
    Indexed grown (setDefaults index [(node.id, [])]) endOf where
  present := by
    have absent : (get index node.id).isNone := by
      rw [get_absent (by rwa [indexed.present])]
      rfl
    rw [setDefaults, setDefaults, merge, List.filter_cons_of_pos (by simpa using absent), nodes, ← indexed.present]
    exact List.map_append
  lists := by
    intro id
    rw [edgeList, edges]
    refine Eq.trans ?_ (indexed.lists id)
    rw [group, group, get_setDefaults]
    cases get index id with
    | some ids => rfl
    | none => by_cases hit : node.id = id <;> simp [OrderedMap.get, hit]

theorem Indexed.addEdge (indexed : Indexed graph index endOf) (known : endOf edge ∈ keys graph.nodes)
    (nodes : grown.nodes = graph.nodes) (edges : grown.edges = graph.edges ++ [(edge.id, edge)]) :
    Indexed grown (push index (endOf edge) edge.id) endOf where
  present := by rw [keys_push (by rwa [indexed.present]), indexed.present, nodes]
  lists := by
    intro id
    have list : edgeList grown = edgeList graph ++ [edge] := by rw [edgeList, edges, List.map_append]; rfl
    rw [group_push, indexed.lists, list, List.filter_append, List.map_append]
    by_cases hit : endOf edge = id <;> simp [hit]

theorem WellFormed.addNode (wellFormed : WellFormed graph) (added : addNode graph node = .ok grown) :
    WellFormed grown := by
  obtain ⟨fresh, rfl⟩ := addNode_ok added
  have nodes : keys (graph.nodes ++ [(node.id, node)]) = keys graph.nodes ++ [node.id] := List.map_append
  exact {
    distinctNodes := keys_append_nodup wellFormed.distinctNodes (List.nodup_singleton _) (by simpa using fresh)
    nodeIds := by
      intro entry member
      rcases List.mem_append.mp member with old | new
      · exact wellFormed.nodeIds entry old
      · rw [List.mem_singleton.mp new]
    distinctEdges := wellFormed.distinctEdges
    edgeIds := wellFormed.edgeIds
    ends := by
      intro edge member
      rw [nodes]
      exact (wellFormed.ends edge member).imp (List.mem_append_left _) (List.mem_append_left _)
    outgoing := wellFormed.outgoing.addNode fresh nodes rfl
    incoming := wellFormed.incoming.addNode fresh nodes rfl }

theorem WellFormed.addEdge (wellFormed : WellFormed graph) (added : addEdge graph edge = .ok grown) :
    WellFormed grown := by
  obtain ⟨fresh, source, target, rfl⟩ := addEdge_ok added
  exact {
    distinctNodes := wellFormed.distinctNodes
    nodeIds := wellFormed.nodeIds
    distinctEdges := keys_append_nodup wellFormed.distinctEdges (List.nodup_singleton _) (by simpa using fresh)
    edgeIds := by
      intro entry member
      rcases List.mem_append.mp member with old | new
      · exact wellFormed.edgeIds entry old
      · rw [List.mem_singleton.mp new]
    ends := by
      intro other member
      rw [edgeList, List.map_append] at member
      rcases List.mem_append.mp member with old | new
      · exact wellFormed.ends other old
      · rw [List.mem_singleton.mp new]
        exact ⟨source, target⟩
    outgoing := wellFormed.outgoing.addEdge source rfl rfl
    incoming := wellFormed.incoming.addEdge target rfl rfl }

theorem Built.wellFormed (built : Built graph) : WellFormed graph := by
  induction built with
  | empty => exact wellFormed_empty
  | node _ added ih => exact ih.addNode added
  | edge _ added ih => exact ih.addEdge added

theorem map_own_values {Value : Type} {dict : Dict String Value} {keyOf : Value → String}
    (own : ∀ entry ∈ dict, entry.1 = keyOf entry.2) :
    (dict.map Prod.snd).map (fun value => (keyOf value, value)) = dict := by
  rw [List.map_map]
  conv_rhs => rw [← List.map_id dict]
  exact List.map_congr_left fun entry member => Prod.ext (own entry member).symm rfl

theorem WellFormed.keys_nodes (wellFormed : WellFormed graph) :
    keys graph.nodes = (nodeList graph).map GraphNode.id := keys_eq_map_own wellFormed.nodeIds

/-- No listed edge is missing, so that reading an index gives the edges with that end. -/
theorem WellFormed.listed (wellFormed : WellFormed graph) (indexed : Indexed graph index endOf) (id : String) :
    listed graph index id = some ((edgeList graph).filter fun edge => endOf edge = id) := by
  have found : ∀ edge ∈ edgeList graph, get graph.edges edge.id = some edge := by
    intro edge member
    obtain ⟨entry, inside, rfl⟩ := List.mem_map.mp member
    rw [← wellFormed.edgeIds entry inside]
    exact get_of_mem wellFormed.distinctEdges inside
  rw [TypedIsrGraph.listed, indexed.lists, FailFast.mapM_eq_some_iff, List.forall₂_map_left_iff, List.forall₂_same]
  exact fun edge member => found edge (List.mem_of_mem_filter member)

end

/-- A graph together with how it was built. -/
abbrev BuiltGraph (Detail Attributes : Type) := { graph : TypedGraph Detail Attributes // Built graph }

end AutonomousApi.TypedIsrGraph
