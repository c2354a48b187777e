import AutonomousApi.DepthFirst
import AutonomousApi.ParentTrails
import AutonomousApi.TypedIsrGraph

/-! Searching the typed graph along admitted edges (isr/graph/traversal.py): breadth first, depth first, and for a
path between two nodes. The path search gives a node a new parent each time it is put into the queue, so that its paths
are shortest exactly where no admitted edge stays within a level of the breadth-first search. -/

namespace AutonomousApi.GraphSearch

open GraphWalks OrderedMap TypedIsrGraph

variable {Detail Attributes : Type}

section

variable (graph : TypedGraph Detail Attributes) (edgeFilter : Option (GraphEdge Attributes → Bool))

def admits (edge : GraphEdge Attributes) : Bool :=
  match edgeFilter with
  | some admitted => admitted edge
  | none => true

/-- Where the admitted edges lead that the graph lists for the node. A graph that was built lists no edge that is
missing (`WellFormed.listed`), so that reading them raises nothing. -/
def successors (id : String) : List String :=
  (((getOutgoingEdges graph id).getD []).filter (admits edgeFilter)).map GraphEdge.targetId

/-- Each edge puts at most one node into the queue. -/
def rounds : Nat := graph.edges.length + 2

def bfs (startId : String) : List (GraphNode Detail) :=
  (ParentTrails.visitAll (successors graph edgeFilter) (rounds graph) [] [startId]).filterMap (getNode graph)

/-- The visited nodes are the opened ones, and no search goes deeper than there are nodes. -/
def dfs (startId : String) : List (GraphNode Detail) :=
  (DepthFirst.enter (successors graph edgeFilter) (graph.nodes.length + 1) [] startId {}).opened.filterMap
    (getNode graph)

def findPath (sourceId targetId : String) : Option (List String) :=
  ParentTrails.pathTo (successors graph edgeFilter) sourceId (rounds graph) targetId

/-- Where the admitted edges lead from a node. -/
def targets (id : String) : List String :=
  ((edgeList graph).filter fun edge => edge.sourceId = id ∧ admits edgeFilter edge).map GraphEdge.targetId

/-- What the searches from a node have to do with the admitted edges. -/
structure Searches (startId : String) : Prop where
  breadth : (bfs graph edgeFilter startId).Nodup ∧ ∀ node, node ∈ bfs graph edgeFilter startId ↔
    node ∈ nodeList graph ∧ Reaches (targets graph edgeFilter) startId node.id
  depth : (dfs graph edgeFilter startId).Nodup ∧ ∀ node, node ∈ dfs graph edgeFilter startId ↔
    node ∈ nodeList graph ∧ Reaches (targets graph edgeFilter) startId node.id
  found : ∀ targetId, (∃ path, findPath graph edgeFilter startId targetId = some path) ↔
    Reaches (targets graph edgeFilter) startId targetId
  path : ∀ targetId path, findPath graph edgeFilter startId targetId = some path →
    Path (targets graph edgeFilter) startId targetId path ∧ path.Nodup
  shortest : ∀ targetId path, findPath graph edgeFilter startId targetId = some path →
    ∀ other, Path (targets graph edgeFilter) startId targetId other → path.length ≤ other.length

end

section

variable {graph : TypedGraph Detail Attributes} {edgeFilter : Option (GraphEdge Attributes → Bool)}

theorem edge_targets {source target : String} : Edge (targets graph edgeFilter) source target ↔
    ∃ edge ∈ edgeList graph, admits edgeFilter edge ∧ edge.sourceId = source ∧ edge.targetId = target := by
  simp only [Edge, targets, List.mem_map, List.mem_filter, decide_eq_true_eq]
  exact exists_congr fun edge => by tauto

theorem successors_eq (wellFormed : WellFormed graph) : successors graph edgeFilter = targets graph edgeFilter := by
  funext id
  rw [successors, getOutgoingEdges, wellFormed.listed wellFormed.outgoing, Option.getD_some, List.filter_filter,
    targets]
  congr 2
  funext edge
  simp [Bool.and_comm]

theorem edge_known (wellFormed : WellFormed graph) {source target : String}
    (edge : Edge (targets graph edgeFilter) source target) :
    source ∈ keys graph.nodes ∧ target ∈ keys graph.nodes := by
  obtain ⟨held, member, -, rfl, rfl⟩ := edge_targets.mp edge
  exact wellFormed.ends held member

theorem targets_within (edgeFilter : Option (GraphEdge Attributes → Bool)) (wellFormed : WellFormed graph) (id : String)
    (some : targets graph edgeFilter id ≠ []) :
    id ∈ keys graph.nodes := by
  obtain ⟨other, edge⟩ := List.exists_mem_of_ne_nil _ some
  exact (edge_known wellFormed edge).1

/-- The nodes have no more admitted edges together than the graph has edges. -/
theorem enough_rounds (edgeFilter : Option (GraphEdge Attributes → Bool)) (wellFormed : WellFormed graph) :
    1 + BreadthFirst.budget (targets graph edgeFilter) (keys graph.nodes) [] < rounds graph := by
  have perm : ((keys graph.nodes).flatMap fun id => (edgeList graph).filter fun edge => edge.sourceId = id).Perm _ :=
    perm_flatMap_filter wellFormed.distinctNodes fun edge member => (wellFormed.ends edge member).1
  have whole := perm.length_eq
  rw [List.length_flatMap] at whole
  have few : BreadthFirst.budget (targets graph edgeFilter) (keys graph.nodes) [] ≤
      ((keys graph.nodes).map fun id => ((edgeList graph).filter fun edge => edge.sourceId = id).length).sum := by
    rw [BreadthFirst.budget, List.filter_eq_self.mpr (by simp)]
    apply List.sum_le_sum
    intro id _
    rw [targets, List.length_map]
    apply List.Sublist.length_le
    apply List.monotone_filter_right
    intro edge kept
    exact decide_eq_true (of_decide_eq_true kept).1
  rw [rounds]
  have long : (edgeList graph).length = graph.edges.length := by rw [edgeList, List.length_map]
  omega

theorem getNode_eq_some_iff (wellFormed : WellFormed graph) {id : String} {node : GraphNode Detail} :
    getNode graph id = some node ↔ node ∈ nodeList graph ∧ node.id = id := by
  constructor
  · intro held
    have entry := mem_of_get held
    exact ⟨List.mem_map.mpr ⟨_, entry, rfl⟩, (wellFormed.nodeIds _ entry).symm⟩
  · rintro ⟨member, rfl⟩
    obtain ⟨entry, inside, rfl⟩ := List.mem_map.mp member
    rw [getNode, ← wellFormed.nodeIds entry inside]
    exact get_of_mem wellFormed.distinctNodes inside

/-- The nodes with given ids, each once. -/
theorem found_nodes (wellFormed : WellFormed graph) {ids : List String} {reached : String → Prop} (distinct : ids.Nodup)
    (exact : ∀ id, id ∈ ids ↔ reached id) : (ids.filterMap (getNode graph)).Nodup ∧
      ∀ node, node ∈ ids.filterMap (getNode graph) ↔ node ∈ nodeList graph ∧ reached node.id := by
  constructor
  · apply distinct.filterMap
    intro id other node held again
    rw [Option.mem_def, getNode_eq_some_iff wellFormed] at held again
    exact held.2.symm.trans again.2
  · intro node
    simp only [List.mem_filterMap, getNode_eq_some_iff wellFormed, ← exact]
    constructor
    · rintro ⟨_, member, inside, rfl⟩
      exact ⟨inside, member⟩
    · rintro ⟨inside, member⟩
      exact ⟨node.id, member, inside, rfl⟩

theorem bfs_reached (wellFormed : WellFormed graph) (startId : String) :
    (bfs graph edgeFilter startId).Nodup ∧ ∀ node, node ∈ bfs graph edgeFilter startId ↔
      node ∈ nodeList graph ∧ Reaches (targets graph edgeFilter) startId node.id := by
  have levelled : BreadthFirst.Levelled (targets graph edgeFilter) startId
      (ParentTrails.visitAll (targets graph edgeFilter) (rounds graph) [] [startId]) [] :=
    ParentTrails.visitAll_levelled (targets_within edgeFilter wellFormed)
      BreadthFirst.levelled_initial (enough_rounds edgeFilter wellFormed)
  obtain ⟨distinct, reached⟩ := levelled.finished
  rw [bfs, successors_eq wellFormed]
  exact found_nodes wellFormed distinct reached

theorem dfs_reached (wellFormed : WellFormed graph) {startId : String} (known : startId ∈ keys graph.nodes) :
    (dfs graph edgeFilter startId).Nodup ∧ ∀ node, node ∈ dfs graph edgeFilter startId ↔
      node ∈ nodeList graph ∧ Reaches (targets graph edgeFilter) startId node.id := by
  have closed : ∀ id ∈ keys graph.nodes, targets graph edgeFilter id ⊆ keys graph.nodes :=
    fun id _ other edge => (edge_known wellFormed edge).2
  have room : (DepthFirst.unopened (keys graph.nodes) {}).length < graph.nodes.length + 1 := by
    refine Nat.lt_succ_of_le ((List.length_filter_le _ _).trans ?_)
    rw [keys, List.length_map]
  have searched : DepthFirst.Searched (targets graph edgeFilter) [] [startId] {} _ :=
    DepthFirst.enter_searched closed known (List.nil_subset _) room
  rw [dfs, successors_eq wellFormed]
  exact found_nodes wellFormed (searched.once List.nodup_nil) fun _ => searched.opened_iff

end

/-- The searches do what they say exactly where no admitted edge leads from a node to a later one that is as far from
the start. -/
theorem searches_iff (graph : BuiltGraph Detail Attributes) (edgeFilter : Option (GraphEdge Attributes → Bool))
    (startId : { id : String // id ∈ keys graph.val.nodes }) :
    Searches graph.val edgeFilter startId.val ↔ ParentTrails.Straight (targets graph.val edgeFilter) startId.val := by
  have wellFormed := graph.property.wellFormed
  have within := targets_within edgeFilter wellFormed
  have room := enough_rounds edgeFilter wellFormed
  have paths (targetId : String) : findPath graph.val edgeFilter startId.val targetId =
      ParentTrails.pathTo (targets graph.val edgeFilter) startId.val (rounds graph.val) targetId := by
    rw [findPath, successors_eq wellFormed]
  rw [← ParentTrails.pathTo_shortest_iff within room]
  constructor
  · intro searches targetId path found
    exact searches.shortest targetId path ((paths targetId).trans found)
  · intro shortest
    have correct := ParentTrails.pathTo_path startId.val within room
    refine ⟨bfs_reached wellFormed startId.val, dfs_reached wellFormed startId.property, ?_, ?_, ?_⟩
    · intro targetId
      rw [paths]
      exact (correct targetId).1
    · intro targetId path found
      exact (correct targetId).2 path ((paths targetId).symm.trans found)
    · intro targetId path found
      exact shortest targetId path ((paths targetId).symm.trans found)

/-- Two edges from `s`, and a third between the nodes they lead to. -/
def sidewaysGraph : TypedGraph Unit Unit where
  nodes := [("s", ⟨"s", ()⟩), ("y", ⟨"y", ()⟩), ("x", ⟨"x", ()⟩)]
  edges := [("a", ⟨"a", "s", "y", .dependsOn, (), []⟩), ("b", ⟨"b", "s", "x", .dependsOn, (), []⟩),
    ("c", ⟨"c", "y", "x", .dependsOn, (), []⟩)]
  adjacency := [("s", ["a", "b"]), ("y", ["c"]), ("x", [])]
  reverseAdjacency := [("s", []), ("y", ["a"]), ("x", ["b", "c"])]

theorem sidewaysGraph_built : Built sidewaysGraph := by
  have nodes := (((Built.empty : Built ({} : TypedGraph Unit Unit)).node (rfl : addNode _ ⟨"s", ()⟩ = _)).node
    (rfl : addNode _ ⟨"y", ()⟩ = _)).node (rfl : addNode _ ⟨"x", ()⟩ = _)
  exact ((nodes.edge (rfl : addEdge _ ⟨"a", "s", "y", .dependsOn, (), []⟩ = _)).edge
    (rfl : addEdge _ ⟨"b", "s", "x", .dependsOn, (), []⟩ = _)).edge
      (rfl : addEdge _ ⟨"c", "y", "x", .dependsOn, (), []⟩ = _)

theorem longer_path_found : ¬ ∀ (graph : BuiltGraph Unit Unit) (edgeFilter : Option (GraphEdge Unit → Bool))
    (startId : { id : String // id ∈ keys graph.val.nodes }), Searches graph.val edgeFilter startId.val := by
  intro all
  have found : findPath sidewaysGraph none "s" "x" = some ["s", "y", "x"] := by decide
  have direct : Path (targets sidewaysGraph none) "s" "x" ["s", "x"] := by
    refine ⟨rfl, rfl, List.isChain_cons_cons.mpr ⟨?_, List.isChain_singleton _⟩⟩
    exact edge_targets.mpr ⟨⟨"b", "s", "x", .dependsOn, (), []⟩, by simp [edgeList, sidewaysGraph], rfl, rfl, rfl⟩
  have shortest := (all ⟨sidewaysGraph, sidewaysGraph_built⟩ none ⟨"s", by decide⟩).shortest "x" _ found _ direct
  simp at shortest

end AutonomousApi.GraphSearch
