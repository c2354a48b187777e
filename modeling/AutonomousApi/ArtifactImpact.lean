import AutonomousApi.GraphWalks
import AutonomousApi.OrderedMap
import Mathlib.Data.List.Sort
import Mathlib.Data.String.Basic

/-! The impact of changed artifacts on what depends on them (compiler_graph.py). The walk reads the dependencies
only, so a graph is its dependencies; an end of one need not be a declared artifact. A node is marked when it enters
the queue, and the queue never holds paths of more than two neighbouring lengths: a path in it is as short as any.
-/

namespace AutonomousApi.ArtifactImpact

open OrderedMap GraphWalks

structure ArtifactDependency where
  upstreamId : String
  downstreamId : String

structure ArtifactGraph where
  dependencies : List ArtifactDependency

structure ImpactedArtifact where
  artifactId : String
  reason : String
  path : List String
  deriving DecidableEq

/-- The state of the walk: the queue of ids, each with its path, the marked ids and the results. -/
structure Sweep where
  queue : List (String × List String)
  seen : List String
  results : List ImpactedArtifact

def adjacency (graph : ArtifactGraph) : Dict String (List String) :=
  graph.dependencies.foldl (file fun dependency => some (dependency.upstreamId, dependency.downstreamId)) []

def children (graph : ArtifactGraph) (current : String) : List String :=
  (group (adjacency graph) current).insertionSort (· ≤ ·)

def visitChild (current : String) (path : List String) (sweep : Sweep) (child : String) : Sweep :=
  if child ∈ sweep.seen then sweep else
    { queue := sweep.queue ++ [(child, path ++ [child])]
      seen := child :: sweep.seen
      results := sweep.results ++ [⟨child, "downstream of changed artifact " ++ current, path ++ [child]⟩] }

/-- The loop; without a result where the rounds do not suffice. -/
def sweepQueue (graph : ArtifactGraph) : Nat → Sweep → Option (List ImpactedArtifact)
  | 0, _ => none
  | rounds + 1, sweep =>
      match sweep.queue with
      | [] => some sweep.results
      | (current, path) :: rest =>
          sweepQueue graph rounds
            ((children graph current).foldl (visitChild current path) { sweep with queue := rest })

def initialSweep (changedIds : List String) : Sweep :=
  ⟨changedIds.map fun id => (id, [id]), changedIds, []⟩

def downstreamImpact (graph : ArtifactGraph) (changedIds : List String) : Option (List ImpactedArtifact) :=
  sweepQueue graph (changedIds.length + graph.dependencies.length + 1) (initialSweep changedIds)

/-- What depends on an artifact, as the dependencies say it. -/
def dependents (graph : ArtifactGraph) (id : String) : List String :=
  (graph.dependencies.filter (·.upstreamId = id)).map (·.downstreamId)

section

variable {graph : ArtifactGraph} {changedIds : List String}

theorem mem_children {current child : String} :
    child ∈ children graph current ↔ Edge (dependents graph) current child := by
  rw [children, List.mem_insertionSort, adjacency, group_filed, group_nil, List.nil_append, Edge, dependents]
  simp only [List.mem_filterMap, List.mem_map, List.mem_filter, placedAt, Option.ite_none_right_eq_some,
    Option.some.injEq, decide_eq_true_eq, and_assoc]

variable (graph changedIds) in
/-- That many dependencies lead there from a changed id. -/
def Near (count : Nat) (id : String) : Prop := ∃ changed ∈ changedIds, Steps (dependents graph) count changed id

variable (graph changedIds) in
/-- A path from a changed id that is as short as any. -/
structure Traced (id : String) (path : List String) : Prop where
  leads : ∃ changed ∈ changedIds, Path (dependents graph) changed id path
  shortest : ∀ count, Near graph changedIds count id → path.length ≤ count + 1

variable (graph changedIds) in
/-- The walk between two nodes; `done` are the ids taken from the queue. -/
structure Sweeping (done : List String) (sweep : Sweep) : Prop where
  changed : ∀ id ∈ changedIds, id ∈ sweep.seen
  known : ∀ id, id ∈ sweep.seen ↔ id ∈ done ∨ ∃ path, (id, path) ∈ sweep.queue
  closed : ∀ id ∈ done, ∀ child, Edge (dependents graph) id child → child ∈ sweep.seen
  queued : ∀ entry ∈ sweep.queue, Traced graph changedIds entry.1 entry.2
  level : sweep.queue.Pairwise fun entry later =>
    entry.2.length ≤ later.2.length ∧ later.2.length ≤ entry.2.length + 1
  found : ∀ result ∈ sweep.results, Traced graph changedIds result.artifactId result.path
  listed : ∀ id, id ∈ sweep.seen ↔ id ∈ changedIds ∨ id ∈ sweep.results.map (·.artifactId)
  fresh : ∀ id ∈ sweep.results.map (·.artifactId), id ∉ changedIds
  once : (sweep.results.map (·.artifactId)).Nodup

variable {done : List String} {sweep : Sweep} {current child : String} {path : List String}
  {rest : List (String × List String)}

/-- What is nearer than everything in the queue has been taken from it. -/
theorem Sweeping.near_done (sweeping : Sweeping graph changedIds done sweep) {count : Nat} {id : String}
    (near : Near graph changedIds count id) (beyond : ∀ entry ∈ sweep.queue, count + 1 < entry.2.length) :
    id ∈ done := by
  have marked : id ∈ sweep.seen := by
    induction count generalizing id with
    | zero =>
        obtain ⟨changed, member, same⟩ := near
        exact same ▸ sweeping.changed changed member
    | succ count ih =>
        obtain ⟨changed, member, before, earlier, edge⟩ := near
        have nearer : Near graph changedIds count before := ⟨changed, member, earlier⟩
        have further : ∀ entry ∈ sweep.queue, count + 1 < entry.2.length := fun entry inside =>
          Nat.lt_of_succ_lt (beyond entry inside)
        rcases (sweeping.known before).mp (ih nearer further) with taken | ⟨path, inside⟩
        · exact sweeping.closed before taken id edge
        · have short := (sweeping.queued _ inside).shortest count nearer
          have long := further _ inside
          omega
  rcases (sweeping.known id).mp marked with taken | ⟨path, inside⟩
  · exact taken
  · have short := (sweeping.queued _ inside).shortest count near
    have long := beyond _ inside
    omega

theorem sweeping_initial : Sweeping graph changedIds [] (initialSweep changedIds) where
  changed := fun _ member => member
  known := by simp [initialSweep]
  closed := by simp
  queued := by
    intro entry member
    obtain ⟨id, changed, rfl⟩ := List.mem_map.mp member
    exact ⟨⟨id, changed, .refl id⟩, fun count _ => Nat.le_add_left 1 count⟩
  level := by
    rw [initialSweep, List.pairwise_map]
    exact List.pairwise_of_forall fun _ _ => ⟨Nat.le_refl 1, Nat.le_succ 1⟩
  found := by simp [initialSweep]
  listed := by simp [initialSweep]
  fresh := by simp [initialSweep]
  once := by simp [initialSweep]

/-- A child that was not marked is reached by a shortest path: what is as near as the node that leads to it has been
taken from the queue, and so its children are marked. -/
theorem Sweeping.traced (sweeping : Sweeping graph changedIds done sweep)
    (front : sweep.queue = (current, path) :: rest)
    (edge : Edge (dependents graph) current child) (unseen : child ∉ sweep.seen) :
    Traced graph changedIds child (path ++ [child]) := by
  have traced := sweeping.queued (current, path) (by rw [front]; exact List.mem_cons_self)
  obtain ⟨changed, member, leads⟩ := traced.leads
  refine ⟨⟨changed, member, leads.snoc edge⟩, fun count near => ?_⟩
  rw [List.length_append, List.length_singleton]
  by_contra shorter
  obtain ⟨origin, known, steps⟩ := near
  cases count with
  | zero => exact unseen (steps ▸ sweeping.changed origin known)
  | succ count =>
      obtain ⟨before, earlier, last⟩ := steps
      have taken : before ∈ done := by
        apply sweeping.near_done ⟨origin, known, earlier⟩
        intro entry inside
        have ordered := sweeping.level
        rw [front] at inside ordered
        have atLeast : path.length ≤ entry.2.length := by
          rcases List.mem_cons.mp inside with rfl | later
          · exact Nat.le_refl _
          · exact ((List.pairwise_cons.mp ordered).1 entry later).1
        omega
      exact unseen (sweeping.closed before taken child last)

/-- One child of the node at the front of the queue. -/
theorem Sweeping.visitChild (sweeping : Sweeping graph changedIds done sweep)
    (front : sweep.queue = (current, path) :: rest) (edge : Edge (dependents graph) current child) :
    Sweeping graph changedIds done (visitChild current path sweep child) := by
  rw [ArtifactImpact.visitChild]
  split_ifs with marked
  · exact sweeping
  · have traced := sweeping.traced front edge marked
    constructor
    · exact fun id member => List.mem_cons_of_mem _ (sweeping.changed id member)
    · intro id
      simp only [List.mem_cons, sweeping.known, List.mem_append, List.not_mem_nil, or_false, exists_or, Prod.mk.injEq,
        exists_and_left, exists_eq, and_true]
      tauto
    · exact fun id taken other leads => List.mem_cons_of_mem _ (sweeping.closed id taken other leads)
    · intro entry member
      rcases List.mem_append.mp member with old | new
      · exact sweeping.queued entry old
      · rw [List.mem_singleton.mp new]
        exact traced
    · -- the new path is one longer than the one at the front, and so is no path in the queue longer than it
      refine List.pairwise_append.mpr ⟨sweeping.level, List.pairwise_singleton _ _, fun entry inside later new => ?_⟩
      have ordered := sweeping.level
      rw [front] at inside ordered
      rw [List.mem_singleton.mp new, List.length_append, List.length_singleton]
      rcases List.mem_cons.mp inside with rfl | behind
      · exact ⟨Nat.le_succ _, Nat.le_refl _⟩
      · have near := (List.pairwise_cons.mp ordered).1 entry behind
        exact ⟨near.2, Nat.succ_le_succ near.1⟩
    · intro result member
      rcases List.mem_append.mp member with old | new
      · exact sweeping.found result old
      · rw [List.mem_singleton.mp new]
        exact traced
    · intro id
      simp only [List.mem_cons, sweeping.listed, List.map_append, List.mem_append, List.map_cons, List.map_nil,
        List.not_mem_nil, or_false]
      tauto
    · intro id member
      rw [List.map_append, List.mem_append] at member
      rcases member with old | new
      · exact sweeping.fresh id old
      · rw [List.mem_singleton.mp new]
        exact fun changed => marked (sweeping.changed child changed)
    · rw [List.map_append]
      refine List.nodup_append.mpr ⟨sweeping.once, List.nodup_singleton _, fun id old other new same => ?_⟩
      rw [same, List.mem_singleton.mp new] at old
      exact marked ((sweeping.listed child).mpr (.inr old))

end

variable {graph : ArtifactGraph} {changedIds done : List String} {sweep : Sweep} {current child : String}
  {path : List String}

/-- The node whose children are visited, still at the front of the queue. -/
def held (entry : String × List String) (sweep : Sweep) : Sweep := { sweep with queue := entry :: sweep.queue }

theorem visitChild_held (sweep : Sweep) (child : String) :
    visitChild current path (held (current, path) sweep) child =
      held (current, path) (visitChild current path sweep child) := by
  unfold visitChild
  by_cases marked : child ∈ sweep.seen
  · have also : child ∈ (held (current, path) sweep).seen := marked
    rw [if_pos marked, if_pos also]
  · have also : child ∉ (held (current, path) sweep).seen := marked
    rw [if_neg marked, if_neg also]
    rfl

theorem seen_visitChild : sweep.seen ⊆ (visitChild current path sweep child).seen ∧
    child ∈ (visitChild current path sweep child).seen := by
  rw [visitChild]
  split_ifs with marked
  · exact ⟨List.Subset.refl _, marked⟩
  · exact ⟨List.subset_cons_self _ _, List.mem_cons_self⟩

/-- All children of the node at the front: the invariant holds on, and they are all marked. -/
theorem Sweeping.children {others : List String}
    (sweeping : Sweeping graph changedIds done (held (current, path) sweep))
    (edges : ∀ child ∈ others, Edge (dependents graph) current child) :
    Sweeping graph changedIds done
      (held (current, path) (others.foldl (ArtifactImpact.visitChild current path) sweep)) ∧
      sweep.seen ⊆ (others.foldl (ArtifactImpact.visitChild current path) sweep).seen ∧
        ∀ child ∈ others, child ∈ (others.foldl (ArtifactImpact.visitChild current path) sweep).seen := by
  induction others generalizing sweep with
  | nil => exact ⟨sweeping, List.Subset.refl _, by simp⟩
  | cons child others ih =>
      have next := sweeping.visitChild rfl (edges child List.mem_cons_self)
      rw [visitChild_held] at next
      obtain ⟨kept, grown, marked⟩ := ih next fun other member => edges other (List.mem_cons_of_mem _ member)
      refine ⟨kept, fun id old => grown (seen_visitChild.1 old), fun other member => ?_⟩
      rcases List.mem_cons.mp member with rfl | later
      · exact grown seen_visitChild.2
      · exact marked other later

/-- A node whose children are marked is taken from the queue. -/
theorem Sweeping.take (sweeping : Sweeping graph changedIds done (held (current, path) sweep))
    (marked : ∀ child, Edge (dependents graph) current child → child ∈ sweep.seen) :
    Sweeping graph changedIds (current :: done) sweep where
  changed := sweeping.changed
  known := by
    intro id
    rw [show id ∈ sweep.seen ↔ _ from sweeping.known id]
    simp only [held, List.mem_cons, Prod.mk.injEq]
    constructor
    · rintro (taken | ⟨path', ⟨rfl, -⟩ | inside⟩)
      · exact .inl (.inr taken)
      · exact .inl (.inl rfl)
      · exact .inr ⟨path', inside⟩
    · rintro ((rfl | taken) | ⟨path', inside⟩)
      · exact .inr ⟨path, .inl ⟨rfl, rfl⟩⟩
      · exact .inl taken
      · exact .inr ⟨path', .inr inside⟩
  closed := by
    intro id member child edge
    rcases List.mem_cons.mp member with rfl | taken
    · exact marked child edge
    · exact sweeping.closed id taken child edge
  queued := fun entry inside => sweeping.queued entry (List.mem_cons_of_mem _ inside)
  level := (List.pairwise_cons.mp sweeping.level).2
  found := sweeping.found
  listed := sweeping.listed
  fresh := sweeping.fresh
  once := sweeping.once

/-- How many rounds the walk still takes at most: those for the queue and those for the ends not marked yet. -/
def roundsLeft (graph : ArtifactGraph) (sweep : Sweep) : Nat :=
  sweep.queue.length + ((graph.dependencies.map (·.downstreamId)).filter (· ∉ sweep.seen)).length

theorem edge_listed (edge : Edge (dependents graph) current child) :
    child ∈ graph.dependencies.map (·.downstreamId) := by
  obtain ⟨dependency, chosen, same⟩ := List.mem_map.mp edge
  exact List.mem_map.mpr ⟨dependency, (List.mem_filter.mp chosen).1, same⟩

theorem roundsLeft_visitChild (listed : child ∈ graph.dependencies.map (·.downstreamId)) :
    roundsLeft graph (visitChild current path sweep child) ≤ roundsLeft graph sweep := by
  rw [visitChild]
  split_ifs with marked
  · exact Nat.le_refl _
  · have fewer : (graph.dependencies.map (·.downstreamId)).filter (· ∉ child :: sweep.seen) =
        ((graph.dependencies.map (·.downstreamId)).filter (· ∉ sweep.seen)).filter (· ≠ child) := by
      rw [List.filter_filter]
      congr 1
      funext id
      by_cases same : id = child <;> simp [same]
    have left : child ∈ (graph.dependencies.map (·.downstreamId)).filter (· ∉ sweep.seen) :=
      List.mem_filter.mpr ⟨listed, decide_eq_true marked⟩
    have less : (((graph.dependencies.map (·.downstreamId)).filter (· ∉ sweep.seen)).filter (· ≠ child)).length <
        ((graph.dependencies.map (·.downstreamId)).filter (· ∉ sweep.seen)).length :=
      List.length_filter_lt_length_iff_exists.mpr ⟨child, left, by simp⟩
    rw [roundsLeft, roundsLeft, List.length_append, List.length_singleton]
    simp only [fewer]
    omega

theorem roundsLeft_children (current : String) (path : List String) {others : List String}
    (listed : ∀ child ∈ others, child ∈ graph.dependencies.map (·.downstreamId)) :
    roundsLeft graph (others.foldl (visitChild current path) sweep) ≤ roundsLeft graph sweep := by
  induction others generalizing sweep with
  | nil => exact Nat.le_refl _
  | cons child others ih =>
      refine Nat.le_trans (ih fun other member => listed other (List.mem_cons_of_mem _ member)) ?_
      exact roundsLeft_visitChild (listed child List.mem_cons_self)

/-- The walk ends with an empty queue, and the invariant holds there. -/
theorem sweepQueue_ends {rounds : Nat} (sweeping : Sweeping graph changedIds done sweep)
    (enough : roundsLeft graph sweep < rounds) :
    ∃ done seen results, sweepQueue graph rounds sweep = some results ∧
      Sweeping graph changedIds done ⟨[], seen, results⟩ := by
  induction rounds generalizing done sweep with
  | zero => exact absurd enough (Nat.not_lt_zero _)
  | succ rounds ih =>
      obtain ⟨queue, seen, results⟩ := sweep
      cases queue with
      | nil => exact ⟨done, seen, results, rfl, sweeping⟩
      | cons entry rest =>
          obtain ⟨current, path⟩ := entry
          rw [sweepQueue]
          have edges : ∀ child ∈ children graph current, Edge (dependents graph) current child :=
            fun child member => mem_children.mp member
          have held' : Sweeping graph changedIds done (held (current, path) ⟨rest, seen, results⟩) := sweeping
          obtain ⟨kept, -, marked⟩ := held'.children edges
          apply ih (kept.take fun child edge => marked child (mem_children.mpr edge))
          refine Nat.lt_of_le_of_lt
            (roundsLeft_children current path fun child member => edge_listed (edges child member)) ?_
          simp only [roundsLeft, List.length_cons] at enough ⊢
          omega

/-- The walk ends. Its results are the artifacts that depend on a changed one, through one dependency or more, and
are not changed themselves, each once and with a shortest path from a changed id. -/
theorem downstreamImpact_exact (graph : ArtifactGraph) (changedIds : List String) :
    ∃ results, downstreamImpact graph changedIds = some results ∧
      (results.map (·.artifactId)).Nodup ∧
      (∀ id, id ∈ results.map (·.artifactId) ↔
        (∃ changed ∈ changedIds, Relation.TransGen (Edge (dependents graph)) changed id) ∧ id ∉ changedIds) ∧
      ∀ result ∈ results, (∃ changed ∈ changedIds, Path (dependents graph) changed result.artifactId result.path) ∧
        ∀ changed ∈ changedIds, ∀ other, Path (dependents graph) changed result.artifactId other →
          result.path.length ≤ other.length := by
  have enough : roundsLeft graph (initialSweep changedIds) < changedIds.length + graph.dependencies.length + 1 := by
    have few := List.length_filter_le (· ∉ (initialSweep changedIds).seen) (graph.dependencies.map (·.downstreamId))
    simp only [roundsLeft, initialSweep, List.length_map] at few ⊢
    omega
  obtain ⟨done, seen, results, ended, sweeping⟩ := sweepQueue_ends sweeping_initial enough
  have marked : ∀ {count : Nat} {id : String}, Near graph changedIds count id → id ∈ seen := fun near =>
    (sweeping.known _).mpr (.inl (sweeping.near_done near (by simp)))
  refine ⟨results, ended, sweeping.once, fun id => ⟨fun member => ?_, ?_⟩, fun result member => ⟨?_, ?_⟩⟩
  · obtain ⟨result, inside, rfl⟩ := List.mem_map.mp member
    obtain ⟨changed, origin, leads⟩ := (sweeping.found result inside).leads
    have unchanged := sweeping.fresh _ member
    refine ⟨⟨changed, origin, ?_⟩, unchanged⟩
    have reached : Reaches (dependents graph) changed result.artifactId := reaches_iff_steps.mpr ⟨_, leads.steps⟩
    rcases Relation.reflTransGen_iff_eq_or_transGen.mp reached with same | chain
    · exact absurd (same ▸ origin) unchanged
    · exact chain
  · rintro ⟨⟨changed, origin, chain⟩, unchanged⟩
    obtain ⟨count, steps⟩ := reaches_iff_steps.mp chain.to_reflTransGen
    exact ((sweeping.listed id).mp (marked ⟨changed, origin, steps⟩)).resolve_left unchanged
  · exact (sweeping.found result member).leads
  · intro changed origin other leads
    have shortest := (sweeping.found result member).shortest _ ⟨changed, origin, leads.steps⟩
    have size := List.length_pos_iff.mpr leads.ne_nil
    omega

end AutonomousApi.ArtifactImpact
