import AutonomousApi.DepthFirst
import AutonomousApi.TopologicalOrder
import AutonomousApi.TypedIsrGraph

/-! Sorting the typed graph along one type of edge and listing its cycles (isr/graph/traversal.py). Both are compared
with the edges of that type: a sort exists exactly where they have no cycle, which is where no cycle is listed. -/

namespace AutonomousApi.GraphTraversal

open OrderedMap GraphWalks TypedIsrGraph

variable {Detail Attributes : Type}

section

variable (graph : TypedGraph Detail Attributes) (edgeType : EdgeType)

/-- The edges that both functions follow: those of the type between the nodes they know. -/
def followed (ids : List String) : List (GraphEdge Attributes) :=
  (edgeList graph).filter fun edge => edge.edgeType = edgeType ∧ edge.sourceId ∈ ids ∧ edge.targetId ∈ ids

def adjacencyOf (ids : List String) : Dict String (List String) :=
  (followed graph edgeType ids).foldl (fun adjacency edge => push adjacency edge.sourceId edge.targetId)
    (ids.map fun id => (id, []))

def inDegree (ids : List String) : Dict String Int :=
  TopologicalOrder.counts ids ((followed graph edgeType ids).map GraphEdge.targetId)

/-- The queue starts with the nodes that no edge leads to; each node enters it once, so as many rounds as there
are nodes empty it. -/
def sortedIds (ids : List String) : List String :=
  TopologicalOrder.settle (group (adjacencyOf graph edgeType ids)) ids.length
    ⟨inDegree graph edgeType ids, TopologicalOrder.unwaited (inDegree graph edgeType ids)⟩ []

def topologicalSort : Except String (List (GraphNode Detail)) :=
  let nodes := assignAll [] ((nodeList graph).map fun node => (node.id, node))
  let result := (sortedIds graph edgeType (keys nodes)).filterMap (get nodes)
  if result.length ≠ nodes.length then .error "Cycle detected in dependency graph" else .ok result

/-- `order` is the set of the node ids in whatever order it is gone through. `visited` is what the search opened,
`rec_stack` and `path` are the path it is on, and a search goes at most one node deeper than there are nodes. -/
def detectCycles (order : List String) : List (List String) :=
  let search := order.foldl (fun search node =>
    DepthFirst.enter (group (adjacencyOf graph edgeType order)) (order.length + 1) [] node search) {}
  search.back.map fun (path, neighbor) => path.drop (path.idxOf neighbor) ++ [neighbor]

end

section

variable {graph : TypedGraph Detail Attributes} {edgeType : EdgeType} {ids : List String}

/-- Where the edges of the type lead from a node. -/
def targets (graph : TypedGraph Detail Attributes) (edgeType : EdgeType) (id : String) : List String :=
  ((edgeList graph).filter fun edge => edge.edgeType = edgeType ∧ edge.sourceId = id).map GraphEdge.targetId

theorem edge_targets {source target : String} : Edge (targets graph edgeType) source target ↔
    ∃ edge ∈ edgeList graph, edge.edgeType = edgeType ∧ edge.sourceId = source ∧ edge.targetId = target := by
  simp only [Edge, targets, List.mem_map, List.mem_filter, decide_eq_true_eq]
  exact exists_congr fun edge => by tauto

variable (graph) in
/-- The ids of the nodes, each once. -/
def Lists (ids : List String) : Prop := ids.Perm (keys graph.nodes)

/-- Every edge of the type is followed. -/
theorem followed_eq (wellFormed : WellFormed graph) (lists : Lists graph ids) :
    followed graph edgeType ids = (edgeList graph).filter fun edge => edge.edgeType = edgeType := by
  apply List.filter_congr
  intro edge member
  obtain ⟨source, target⟩ := wellFormed.ends edge member
  simp [lists.mem_iff.mpr source, lists.mem_iff.mpr target]

theorem group_adjacencyOf (wellFormed : WellFormed graph) (lists : Lists graph ids) :
    group (adjacencyOf graph edgeType ids) = targets graph edgeType := by
  funext id
  have start : group (ids.map fun id => (id, ([] : List String))) id = [] := by
    rw [group]
    cases held : get (ids.map fun id => (id, ([] : List String))) id with
    | none => rfl
    | some values =>
        obtain ⟨_, -, same⟩ := List.mem_map.mp (mem_of_get held)
        exact (Prod.ext_iff.mp same).2.symm
  have filed := group_filed (fun edge : GraphEdge Attributes => some (edge.sourceId, edge.targetId))
    (followed graph edgeType ids) (ids.map fun id => (id, [])) id
  refine filed.trans ?_
  rw [start, List.nil_append, followed_eq wellFormed lists, targets, ← List.filterMap_eq_map, List.filterMap_filter,
    List.filterMap_filter]
  apply List.filterMap_congr
  intro edge _
  by_cases type : edge.edgeType = edgeType <;> by_cases source : edge.sourceId = id <;> simp [placedAt, type, source]

theorem edge_known (wellFormed : WellFormed graph) (lists : Lists graph ids) (source target : String)
    (edge : Edge (targets graph edgeType) source target) : source ∈ ids ∧ target ∈ ids := by
  obtain ⟨held, member, -, rfl, rfl⟩ := edge_targets.mp edge
  rw [lists.mem_iff, lists.mem_iff]
  exact wellFormed.ends held member

theorem balanced_start (wellFormed : WellFormed graph) : TopologicalOrder.Balanced (targets graph edgeType)
    (keys graph.nodes) [] [] ⟨inDegree graph edgeType (keys graph.nodes),
      TopologicalOrder.unwaited (inDegree graph edgeType (keys graph.nodes))⟩ := by
  have lists : Lists graph (keys graph.nodes) := .refl _
  have all : followed graph edgeType (keys graph.nodes) = _ := followed_eq wellFormed lists
  apply TopologicalOrder.balanced_initial wellFormed.distinctNodes
  · intro id member
    obtain ⟨edge, inside, rfl⟩ := List.mem_map.mp member
    rw [all] at inside
    exact (wellFormed.ends edge (List.mem_of_mem_filter inside)).2
  · intro id
    have perm : ((keys graph.nodes).flatMap fun key => (followed graph edgeType (keys graph.nodes)).filter fun edge =>
        edge.sourceId = key).Perm (followed graph edgeType (keys graph.nodes)) := by
      apply perm_flatMap_filter wellFormed.distinctNodes
      intro edge inside
      rw [all] at inside
      exact (wellFormed.ends edge (List.mem_of_mem_filter inside)).1
    rw [← (perm.map GraphEdge.targetId).count_eq, List.map_flatMap]
    congr 1
    apply List.flatMap_congr
    intro key _
    rw [all, targets, List.filter_filter]
    congr 2
    funext edge
    simp [and_comm]

/-- The ids come without repetition and in order, and all of them exactly where there is no cycle. -/
theorem sortedIds_laws (edgeType : EdgeType) (wellFormed : WellFormed graph) :
    (sortedIds graph edgeType (keys graph.nodes)).Nodup ∧
      sortedIds graph edgeType (keys graph.nodes) ⊆ keys graph.nodes ∧
      TopologicalOrder.Ordered (targets graph edgeType) (sortedIds graph edgeType (keys graph.nodes)) ∧
      (keys graph.nodes ⊆ sortedIds graph edgeType (keys graph.nodes) ↔
        ∀ id, ¬ OnCycle (targets graph edgeType) id) := by
  have within : ∀ source target, Edge (targets graph edgeType) source target →
      source ∈ keys graph.nodes ∧ target ∈ keys graph.nodes := edge_known wellFormed (.refl _)
  obtain ⟨⟨degrees, balanced⟩, ordered⟩ := TopologicalOrder.settle_balanced wellFormed.distinctNodes within
    (balanced_start wellFormed) (by intro before node after split; simp at split) (Nat.le_add_left _ 0)
  rw [sortedIds, group_adjacencyOf wellFormed (.refl _)]
  have distinct := balanced.distinct
  have listed := balanced.listed
  rw [List.append_nil] at distinct listed
  exact ⟨distinct, listed, ordered, TopologicalOrder.settled_iff within balanced ordered⟩

theorem nodes_again (wellFormed : WellFormed graph) :
    assignAll [] ((nodeList graph).map fun node => (node.id, node)) = graph.nodes := by
  rw [nodeList, map_own_values wellFormed.nodeIds, assignAll_distinct _ wellFormed.distinctNodes]

/-- The sort returns where everything was settled, and then the nodes in the order of the ids. -/
theorem topologicalSort_ok_iff (wellFormed : WellFormed graph) {result : List (GraphNode Detail)} :
    topologicalSort graph edgeType = .ok result ↔
      keys graph.nodes ⊆ sortedIds graph edgeType (keys graph.nodes) ∧
        (sortedIds graph edgeType (keys graph.nodes)).filterMap (get graph.nodes) = result := by
  obtain ⟨distinct, known, -, -⟩ := sortedIds_laws edgeType wellFormed
  have long := congrArg List.length (map_own_found wellFormed.nodeIds known)
  have count : graph.nodes.length = (keys graph.nodes).length := by rw [keys, List.length_map]
  rw [List.length_map] at long
  rw [topologicalSort, nodes_again wellFormed, long, count]
  split_ifs with short
  · simp only [false_iff, not_and]
    intro all _
    exact short ((List.subperm_of_subset distinct known).length_le.antisymm
      (List.subperm_of_subset wellFormed.distinctNodes all).length_le)
  · have whole := (List.subperm_of_subset distinct known).perm_of_length_le (by omega)
    rw [Except.ok.injEq]
    exact ⟨fun same => ⟨whole.symm.subset, same⟩, fun both => both.2⟩

end

variable (graph : TypedGraph Detail Attributes) (edgeType : EdgeType)

/-- What a sort and a listing of the cycles have to do with the edges of the type. -/
structure Agrees (order : List String) : Prop where
  returns_iff : (∃ result, topologicalSort graph edgeType = .ok result) ↔ ∀ id, ¬ OnCycle (targets graph edgeType) id
  silent_iff : detectCycles graph edgeType order = [] ↔ ∀ id, ¬ OnCycle (targets graph edgeType) id
  complete : ∀ result, topologicalSort graph edgeType = .ok result → result.Perm (nodeList graph)
  placed : ∀ result, topologicalSort graph edgeType = .ok result → ∀ before node after,
    result = before ++ node :: after → ∀ edge ∈ edgeList graph, edge.edgeType = edgeType →
      edge.targetId = node.id → edge.sourceId ∈ before.map GraphNode.id
  walks : ∀ walk ∈ detectCycles graph edgeType order, ClosedWalk (targets graph edgeType) walk

variable {graph edgeType} {order : List String}

theorem detectCycles_silent_iff (wellFormed : WellFormed graph) (lists : Lists graph order) :
    detectCycles graph edgeType order = [] ↔ ∀ id, ¬ OnCycle (targets graph edgeType) id := by
  rw [detectCycles, group_adjacencyOf wellFormed lists]
  dsimp only
  rw [List.map_eq_nil_iff]
  exact DepthFirst.quiet_iff (edge_known wellFormed lists) (fun _ => Iff.rfl) (Nat.lt_succ_self _)

theorem detectCycles_walks (wellFormed : WellFormed graph) (lists : Lists graph order) :
    ∀ walk ∈ detectCycles graph edgeType order, ClosedWalk (targets graph edgeType) walk := by
  intro walk member
  rw [detectCycles, group_adjacencyOf wellFormed lists] at member
  obtain ⟨entry, noted, rfl⟩ := List.mem_map.mp member
  refine DepthFirst.BackEdge.closedWalk (DepthFirst.foldl_back (fun node later =>
    DepthFirst.enter (targets graph edgeType) (order.length + 1) [] node later) ?_ (by simp) entry noted)
  intro node _ later soFar
  exact DepthFirst.enter_back (List.isChain_singleton node) soFar

theorem sort_agrees (graph : BuiltGraph Detail Attributes) (edgeType : EdgeType)
    (order : { ids : List String // Lists graph.val ids }) : Agrees graph.val edgeType order.val := by
  obtain ⟨graph, built⟩ := graph
  have wellFormed := built.wellFormed
  obtain ⟨distinct, known, ordered, all⟩ := sortedIds_laws edgeType wellFormed
  refine ⟨?_, detectCycles_silent_iff wellFormed order.property, ?_, ?_, detectCycles_walks wellFormed order.property⟩
  · simp only [topologicalSort_ok_iff wellFormed, exists_and_left, exists_eq', and_true, all]
  · intro result returned
    obtain ⟨whole, rfl⟩ := (topologicalSort_ok_iff wellFormed).mp returned
    have reordered := (List.perm_ext_iff_of_nodup distinct wellFormed.distinctNodes).mpr fun id =>
      ⟨fun member => known member, fun member => whole member⟩
    rw [nodeList, ← filterMap_keys wellFormed.distinctNodes]
    exact reordered.filterMap _
  · intro result returned before node after split edge member type target
    obtain ⟨whole, rfl⟩ := (topologicalSort_ok_iff wellFormed).mp returned
    have ids := map_own_found wellFormed.nodeIds known
    rw [split, List.map_append, List.map_cons] at ids
    exact ordered _ _ _ ids.symm edge.sourceId (edge_targets.mpr ⟨edge, member, type, rfl, target⟩)

end AutonomousApi.GraphTraversal
