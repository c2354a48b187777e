import AutonomousApi.TypedIsrGraph

/-! The rewrites of the typed graph (isr/graph/operations.py). All of them work on a clone and then call a method
that removes something from it. The graph class has no such method, so that only a merge of no nodes at all, which
calls none, returns. -/

namespace AutonomousApi.GraphOperations

open FailFast OrderedMap TypedIsrGraph

variable {Detail Attributes : Type}

section

def addNodes (graph : TypedGraph Detail Attributes) (nodes : List (GraphNode Detail)) :
    Except String (TypedGraph Detail Attributes) := nodes.foldlM addNode graph

def addEdges (graph : TypedGraph Detail Attributes) (edges : List (GraphEdge Attributes)) :
    Except String (TypedGraph Detail Attributes) := edges.foldlM addEdge graph

def clone (graph : TypedGraph Detail Attributes) : Except String (TypedGraph Detail Attributes) := do
  let nodes ← addNodes {} (nodeList graph)
  addEdges nodes (edgeList graph)

/-- A call of `remove_node` or `remove_edge`, which the class does not have. -/
def callMissing (method : String) (_ : TypedGraph Detail Attributes) (_ : String) :
    Except String (TypedGraph Detail Attributes) := .error s!"'TypedGraph' object has no attribute '{method}'"

/-- The edges an index lists, if all of them are there. -/
def read (edges : Option (List (GraphEdge Attributes))) : Except String (List (GraphEdge Attributes)) :=
  match edges with
  | some edges => .ok edges
  | none => .error "KeyError"

def removeNode (graph : TypedGraph Detail Attributes) (nodeId : String) :
    Except String (TypedGraph Detail Attributes) := do
  let copy ← clone graph
  callMissing "remove_node" copy nodeId

def removeEdge (graph : TypedGraph Detail Attributes) (edgeId : String) :
    Except String (TypedGraph Detail Attributes) := do
  let copy ← clone graph
  callMissing "remove_edge" copy edgeId

variable (newId : Nat → String)

/-- New edges into a node, for edges that had another target; `newId` are the generated ids. -/
def redirected (start : Nat) (edges : List (GraphEdge Attributes)) (targetId : String) : List (GraphEdge Attributes) :=
  (edges.zipIdx start).map fun (edge, place) =>
    { id := newId place, sourceId := edge.sourceId, targetId, edgeType := edge.edgeType, attributes := edge.attributes }

/-- New edges from a node, for edges that had another source. -/
def rerooted (start : Nat) (edges : List (GraphEdge Attributes)) (sourceId : String) : List (GraphEdge Attributes) :=
  (edges.zipIdx start).map fun (edge, place) =>
    { id := newId place, sourceId, targetId := edge.targetId, edgeType := edge.edgeType, attributes := edge.attributes }

def replaceNode (graph : TypedGraph Detail Attributes) (oldNodeId : String) (newNode : GraphNode Detail) :
    Except String (TypedGraph Detail Attributes) := do
  let copy ← clone graph
  let incoming ← read (getIncomingEdges copy oldNodeId)
  let outgoing ← read (getOutgoingEdges copy oldNodeId)
  let pruned ← callMissing "remove_node" copy oldNodeId
  let grown ← addNode pruned newNode
  let entered ← addEdges grown (redirected newId 0 incoming newNode.id)
  addEdges entered (rerooted newId incoming.length outgoing newNode.id)

def mergeNodes (graph : TypedGraph Detail Attributes) (nodeIds : List String) (mergedNode : GraphNode Detail) :
    Except String (TypedGraph Detail Attributes) := do
  let copy ← clone graph
  let allIncoming ← nodeIds.mapM fun id => read (getIncomingEdges copy id)
  let allOutgoing ← nodeIds.mapM fun id => read (getOutgoingEdges copy id)
  let pruned ← nodeIds.foldlM (callMissing "remove_node") copy
  let grown ← addNode pruned mergedNode
  let leaving := keepFirst (fun edge => (edge.targetId, edge.edgeType)) []
    (allOutgoing.flatten.filter fun edge => edge.targetId ∉ nodeIds)
  let left ← addEdges grown (rerooted newId 0 leaving mergedNode.id)
  let entering := keepFirst (fun edge => (edge.sourceId, edge.edgeType)) []
    (allIncoming.flatten.filter fun edge => edge.sourceId ∉ nodeIds)
  addEdges left (redirected newId leaving.length entering mergedNode.id)

/-- Copies of the edges from a node, to the targets that the mapping has for theirs. -/
def remapped (edges : List (GraphEdge Attributes)) (nodeId : String) (edgeMapping : Dict String String) :
    List (GraphEdge Attributes) :=
  edges.zipIdx.map fun (edge, place) =>
    { id := newId place, sourceId := nodeId, targetId := (get edgeMapping edge.targetId).getD edge.targetId,
      edgeType := edge.edgeType, attributes := edge.attributes }

def splitNode (graph : TypedGraph Detail Attributes) (nodeId : String) (childNodes : List (GraphNode Detail))
    (edgeMapping : Dict String String) : Except String (TypedGraph Detail Attributes) := do
  let copy ← clone graph
  match getNode copy nodeId with
  | none => .error s!"Node '{nodeId}' not found"
  | some _ =>
      let grown ← addNodes copy childNodes
      let outgoing ← read (getOutgoingEdges grown nodeId)
      addEdges grown (remapped newId outgoing nodeId edgeMapping)

def retypeEdge (graph : TypedGraph Detail Attributes) (edgeId : String) (newEdgeType : EdgeType) :
    Except String (TypedGraph Detail Attributes) := do
  let copy ← clone graph
  match getEdge copy edgeId with
  | none => .error s!"Edge '{edgeId}' not found"
  | some edge =>
      let pruned ← callMissing "remove_edge" copy edgeId
      addEdge pruned { edge with id := edgeId, edgeType := newEdgeType }

end

inductive Rewrite (Detail : Type) where
  | removeNode (nodeId : String)
  | removeEdge (edgeId : String)
  | replaceNode (oldNodeId : String) (newNode : GraphNode Detail)
  | mergeNodes (nodeIds : List String) (mergedNode : GraphNode Detail)
  | retypeEdge (edgeId : String) (newEdgeType : EdgeType)

def Rewrite.run (newId : Nat → String) (graph : TypedGraph Detail Attributes) :
    Rewrite Detail → Except String (TypedGraph Detail Attributes)
  | .removeNode nodeId => GraphOperations.removeNode graph nodeId
  | .removeEdge edgeId => GraphOperations.removeEdge graph edgeId
  | .replaceNode oldNodeId newNode => GraphOperations.replaceNode newId graph oldNodeId newNode
  | .mergeNodes nodeIds mergedNode => GraphOperations.mergeNodes newId graph nodeIds mergedNode
  | .retypeEdge edgeId newEdgeType => GraphOperations.retypeEdge graph edgeId newEdgeType

/-- The nodes that a rewrite names. -/
def Rewrite.nodeIds : Rewrite Detail → List String
  | .removeNode nodeId => [nodeId]
  | .replaceNode oldNodeId _ => [oldNodeId]
  | .mergeNodes nodeIds _ => nodeIds
  | .removeEdge _ | .retypeEdge _ _ => []

/-- The edges that a rewrite names. -/
def Rewrite.edgeIds : Rewrite Detail → List String
  | .removeEdge edgeId | .retypeEdge edgeId _ => [edgeId]
  | .removeNode _ | .replaceNode _ _ | .mergeNodes _ _ => []

/-- The node that takes the place of those a rewrite names. -/
def Rewrite.newNode : Rewrite Detail → Option (GraphNode Detail)
  | .replaceNode _ newNode => some newNode
  | .mergeNodes _ mergedNode => some mergedNode
  | .removeNode _ | .removeEdge _ | .retypeEdge _ _ => none

/-- Everything that a rewrite names exists. -/
def Existing (graph : TypedGraph Detail Attributes) (rewrite : Rewrite Detail) : Prop :=
  rewrite.nodeIds ⊆ keys graph.nodes ∧ rewrite.edgeIds ⊆ keys graph.edges

/-- An edge of that type between those nodes. -/
def Joined (graph : TypedGraph Detail Attributes) (sourceId targetId : String) (edgeType : EdgeType) : Prop :=
  ∃ edge ∈ edgeList graph, edge.sourceId = sourceId ∧ edge.targetId = targetId ∧ edge.edgeType = edgeType

/-- What a rewrite gives back is well formed, keeps what has nothing to do with the named elements and joins the new
node with what the replaced ones were joined with. -/
structure Rewritten (graph : TypedGraph Detail Attributes) (rewrite : Rewrite Detail)
    (result : TypedGraph Detail Attributes) : Prop where
  wellFormed : WellFormed result
  nodesKept : ∀ node ∈ nodeList graph, node.id ∉ rewrite.nodeIds → node ∈ nodeList result
  edgesKept : ∀ edge ∈ edgeList graph, edge.id ∉ rewrite.edgeIds → edge.sourceId ∉ rewrite.nodeIds →
    edge.targetId ∉ rewrite.nodeIds → edge ∈ edgeList result
  leaving : ∀ newNode, rewrite.newNode = some newNode → ∀ edge ∈ edgeList graph, edge.sourceId ∈ rewrite.nodeIds →
    edge.targetId ∉ rewrite.nodeIds → Joined result newNode.id edge.targetId edge.edgeType
  entering : ∀ newNode, rewrite.newNode = some newNode → ∀ edge ∈ edgeList graph, edge.targetId ∈ rewrite.nodeIds →
    edge.sourceId ∉ rewrite.nodeIds → Joined result edge.sourceId newNode.id edge.edgeType
  loops : ∀ newNode, rewrite.newNode = some newNode → ∀ edge ∈ edgeList graph, edge.sourceId ∈ rewrite.nodeIds →
    edge.targetId = edge.sourceId → Joined result newNode.id newNode.id edge.edgeType

section

variable {graph : TypedGraph Detail Attributes}

theorem addNode_fresh {node : GraphNode Detail} (fresh : node.id ∉ keys graph.nodes) :
    ∃ grown, addNode graph node = .ok grown := by
  rw [addNode, if_neg (by rwa [get_isSome_iff])]
  exact ⟨_, rfl⟩

theorem addEdge_fresh {edge : GraphEdge Attributes} (fresh : edge.id ∉ keys graph.edges)
    (source : edge.sourceId ∈ keys graph.nodes) (target : edge.targetId ∈ keys graph.nodes) :
    ∃ grown, addEdge graph edge = .ok grown := by
  rw [← get_isSome_iff] at source target
  rw [addEdge, if_neg (by rwa [get_isSome_iff]), if_neg (by simpa using Option.isSome_iff_ne_none.mp source),
    if_neg (by simpa using Option.isSome_iff_ne_none.mp target)]
  exact ⟨_, rfl⟩

theorem addNodes_fresh {nodes : List (GraphNode Detail)} (built : Built graph)
    (distinct : (keys graph.nodes ++ nodes.map GraphNode.id).Nodup) :
    ∃ grown, addNodes graph nodes = .ok grown ∧ Built grown ∧
      grown.nodes = graph.nodes ++ nodes.map (fun node => (node.id, node)) ∧ grown.edges = graph.edges := by
  induction nodes generalizing graph with
  | nil => exact ⟨graph, rfl, built, by simp, rfl⟩
  | cons node rest ih =>
      have fresh : node.id ∉ keys graph.nodes := fun known =>
        (List.nodup_append.mp distinct).2.2 _ known _ List.mem_cons_self rfl
      obtain ⟨next, added⟩ := addNode_fresh fresh
      obtain ⟨-, same⟩ := addNode_ok added
      have nodes : next.nodes = graph.nodes ++ [(node.id, node)] := congrArg TypedGraph.nodes same
      have distinct' : (keys next.nodes ++ rest.map GraphNode.id).Nodup := by
        rw [nodes, keys, List.map_append, List.append_assoc]
        exact distinct
      obtain ⟨grown, rests, whole, nodes', edges⟩ := ih (.node built added) distinct'
      refine ⟨grown, ?_, whole, ?_, edges.trans (by rw [same])⟩
      · rw [addNodes, List.foldlM_cons, added]
        exact rests
      · rw [nodes', nodes, List.append_assoc]
        rfl

theorem addEdges_fresh {edges : List (GraphEdge Attributes)} (built : Built graph)
    (distinct : (keys graph.edges ++ edges.map GraphEdge.id).Nodup)
    (ends : ∀ edge ∈ edges, edge.sourceId ∈ keys graph.nodes ∧ edge.targetId ∈ keys graph.nodes) :
    ∃ grown, addEdges graph edges = .ok grown ∧ Built grown ∧ grown.nodes = graph.nodes ∧
      grown.edges = graph.edges ++ edges.map fun edge => (edge.id, edge) := by
  induction edges generalizing graph with
  | nil => exact ⟨graph, rfl, built, rfl, by simp⟩
  | cons edge rest ih =>
      have fresh : edge.id ∉ keys graph.edges := fun known =>
        (List.nodup_append.mp distinct).2.2 _ known _ List.mem_cons_self rfl
      obtain ⟨source, target⟩ := ends edge List.mem_cons_self
      obtain ⟨next, added⟩ := addEdge_fresh fresh source target
      obtain ⟨-, -, -, same⟩ := addEdge_ok added
      have edges : next.edges = graph.edges ++ [(edge.id, edge)] := congrArg TypedGraph.edges same
      have nodes : next.nodes = graph.nodes := by rw [same]
      have distinct' : (keys next.edges ++ rest.map GraphEdge.id).Nodup := by
        rw [edges, keys, List.map_append, List.append_assoc]
        exact distinct
      have ends' : ∀ other ∈ rest, other.sourceId ∈ keys next.nodes ∧ other.targetId ∈ keys next.nodes := by
        rw [nodes]
        exact fun other member => ends other (List.mem_cons_of_mem _ member)
      obtain ⟨grown, rests, whole, nodes', edges'⟩ := ih (.edge built added) distinct' ends'
      refine ⟨grown, ?_, whole, nodes'.trans nodes, ?_⟩
      · rw [addEdges, List.foldlM_cons, added]
        exact rests
      · rw [edges', edges, List.append_assoc]
        rfl

/-- A clone succeeds and has the same nodes and edges in the same order. -/
theorem clone_ok (wellFormed : WellFormed graph) :
    ∃ copy, clone graph = .ok copy ∧ Built copy ∧ copy.nodes = graph.nodes ∧ copy.edges = graph.edges := by
  have start : Built ({} : TypedGraph Detail Attributes) := .empty
  have distinctNodes : (keys ({} : TypedGraph Detail Attributes).nodes ++ (nodeList graph).map GraphNode.id).Nodup := by
    rw [← wellFormed.keys_nodes]
    exact wellFormed.distinctNodes
  obtain ⟨bare, first, built, nodes, none⟩ := addNodes_fresh start distinctNodes
  have same : bare.nodes = graph.nodes := nodes.trans (map_own_values wellFormed.nodeIds)
  have distinctEdges : (keys bare.edges ++ (edgeList graph).map GraphEdge.id).Nodup := by
    rw [none, edgeList, ← keys_eq_map_own wellFormed.edgeIds]
    exact wellFormed.distinctEdges
  obtain ⟨copy, second, whole, kept, edges⟩ := addEdges_fresh built distinctEdges (by rw [same]; exact wellFormed.ends)
  refine ⟨copy, ?_, whole, kept.trans same, ?_⟩
  · rw [clone, first]
    exact second
  · rw [edges, none]
    exact map_own_values wellFormed.edgeIds

end

section

variable {graph copy : TypedGraph Detail Attributes} {newId : Nat → String} {rewrite : Rewrite Detail}

/-- Every rewrite but a merge of nothing calls a method that the class does not have. -/
theorem run_ok {result : TypedGraph Detail Attributes} (returned : rewrite.run newId graph = .ok result) :
    ∃ mergedNode, rewrite = .mergeNodes [] mergedNode := by
  cases rewrite with
  | removeNode nodeId =>
      obtain ⟨copy, -, called⟩ := bind_ok returned
      cases called
  | removeEdge edgeId =>
      obtain ⟨copy, -, called⟩ := bind_ok returned
      cases called
  | replaceNode oldNodeId newNode =>
      obtain ⟨copy, -, returned⟩ := bind_ok returned
      obtain ⟨incoming, -, returned⟩ := bind_ok returned
      obtain ⟨outgoing, -, returned⟩ := bind_ok returned
      cases returned
  | mergeNodes nodeIds mergedNode =>
      cases nodeIds with
      | nil => exact ⟨mergedNode, rfl⟩
      | cons nodeId rest =>
          obtain ⟨copy, -, returned⟩ := bind_ok returned
          obtain ⟨incoming, -, returned⟩ := bind_ok returned
          obtain ⟨outgoing, -, returned⟩ := bind_ok returned
          cases returned
  | retypeEdge edgeId newEdgeType =>
      obtain ⟨copy, -, returned⟩ := bind_ok returned
      cases found : getEdge copy edgeId <;> rw [found] at returned <;> cases returned

theorem mergeNodes_nil (mergedNode : GraphNode Detail) (cloned : clone graph = .ok copy) :
    Rewrite.run newId graph (.mergeNodes [] mergedNode) = addNode copy mergedNode := by
  rw [Rewrite.run, mergeNodes, cloned]
  change (addNode copy mergedNode >>= fun grown => Except.ok grown) = _
  cases addNode copy mergedNode <;> rfl

/-- The rewrites do what they say exactly where nothing is merged into a new node. -/
theorem rewritten_iff (newId : Nat → String) (graph : BuiltGraph Detail Attributes)
    (rewrite : { rewrite : Rewrite Detail // Existing graph.val rewrite }) :
    (∃ result, rewrite.val.run newId graph.val = .ok result ∧ Rewritten graph.val rewrite.val result) ↔
      ∃ mergedNode, rewrite.val = .mergeNodes [] mergedNode ∧ mergedNode.id ∉ keys graph.val.nodes := by
  obtain ⟨rewrite, existing⟩ := rewrite
  obtain ⟨copy, cloned, built, nodes, edges⟩ := clone_ok graph.property.wellFormed
  constructor
  · rintro ⟨result, returned, -⟩
    obtain ⟨mergedNode, rfl⟩ := run_ok returned
    rw [mergeNodes_nil mergedNode cloned] at returned
    have fresh := (addNode_ok returned).1
    rw [nodes] at fresh
    exact ⟨mergedNode, rfl, fresh⟩
  · rintro ⟨mergedNode, rfl, fresh⟩
    rw [← nodes] at fresh
    obtain ⟨result, added⟩ := addNode_fresh fresh
    obtain ⟨-, same⟩ := addNode_ok added
    have wellFormed := (Built.node built added).wellFormed
    refine ⟨result, (mergeNodes_nil mergedNode cloned).trans added, wellFormed, ?_, ?_, ?_, ?_, ?_⟩
    · intro node member _
      rw [same, nodeList, nodes, List.map_append]
      exact List.mem_append_left _ member
    · intro edge member _ _ _
      rw [same, edgeList, edges]
      exact member
    all_goals simp [Rewrite.nodeIds]

theorem removal_missing : ¬ ∀ (newId : Nat → String) (graph : BuiltGraph Unit Unit)
    (rewrite : { rewrite : Rewrite Unit // Existing graph.val rewrite }),
    ∃ result, rewrite.val.run newId graph.val = .ok result ∧ Rewritten graph.val rewrite.val result := by
  intro all
  have built : Built ({ nodes := [("a", ⟨"a", ()⟩)], adjacency := [("a", [])], reverseAdjacency := [("a", [])] } :
      TypedGraph Unit Unit) := (Built.empty : Built ({} : TypedGraph Unit Unit)).node (rfl : addNode {} ⟨"a", ()⟩ = _)
  obtain ⟨result, returned, -⟩ := all toString ⟨_, built⟩
    ⟨.removeNode "a", by simp [Existing, Rewrite.nodeIds, Rewrite.edgeIds, keys]⟩
  obtain ⟨mergedNode, same⟩ := run_ok returned
  cases same

end

variable {graph grown : TypedGraph Detail Attributes}

theorem addNodes_ok {nodes : List (GraphNode Detail)} (built : Built graph) (added : addNodes graph nodes = .ok grown) :
    Built grown ∧ nodeList grown = nodeList graph ++ nodes ∧ edgeList grown = edgeList graph := by
  induction nodes generalizing graph with
  | nil =>
      cases added
      exact ⟨built, by simp, rfl⟩
  | cons node rest ih =>
      obtain ⟨next, first, later⟩ := bind_ok added
      obtain ⟨-, rfl⟩ := addNode_ok first
      obtain ⟨whole, nodes, edges⟩ := ih (.node built first) later
      exact ⟨whole, nodes.trans (by simp [nodeList]), edges⟩

theorem addEdges_ok {edges : List (GraphEdge Attributes)} (built : Built graph)
    (added : addEdges graph edges = .ok grown) :
    Built grown ∧ nodeList grown = nodeList graph ∧ edgeList grown = edgeList graph ++ edges := by
  induction edges generalizing graph with
  | nil =>
      cases added
      exact ⟨built, rfl, by simp⟩
  | cons edge rest ih =>
      obtain ⟨next, first, later⟩ := bind_ok added
      obtain ⟨-, -, -, rfl⟩ := addEdge_ok first
      obtain ⟨whole, nodes, edges⟩ := ih (.edge built first) later
      exact ⟨whole, nodes, edges.trans (by simp [edgeList])⟩

end AutonomousApi.GraphOperations
