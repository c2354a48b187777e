import AutonomousApi.GraphWalks
import AutonomousApi.Layers
import AutonomousApi.OrderedMap
import Mathlib.Algebra.GroupWithZero.Nat
import Mathlib.Algebra.Order.BigOperators.Group.List
import Mathlib.Algebra.Order.Group.Nat

/-! Sorting a graph by the number of edges that still lead to each node, over any successor function with
parallel edges and loops. A node is settled once every edge to it comes from a settled node, so that everything is
settled exactly where there is no cycle. -/

namespace AutonomousApi.TopologicalOrder

open GraphWalks OrderedMap

variable {Node : Type} {adj : Node → List Node}

section

variable {result : List Node} {node : Node}

variable (adj) in
/-- Every edge comes from before. -/
def Ordered (result : List Node) : Prop :=
  ∀ before node after, result = before ++ node :: after → ∀ other, Edge adj other node → other ∈ before

theorem Ordered.snoc (ordered : Ordered adj result) (settled : ∀ other, Edge adj other node → other ∈ result) :
    Ordered adj (result ++ [node]) := by
  intro before last after split other edge
  rcases List.eq_nil_or_concat after with rfl | ⟨after, final, rfl⟩
  · obtain ⟨same, ends⟩ := List.append_inj' split rfl
    rw [← same]
    exact settled other (by rwa [List.singleton_inj.mp ends])
  · have earlier : result = before ++ last :: after := by
      have : result ++ [node] = (before ++ last :: after) ++ [final] := by rw [split]; simp
      exact (List.append_inj' this rfl).1
    exact ordered before last after earlier other edge

/-- No cycle runs through a node of an ordered list. -/
theorem Ordered.not_onCycle (ordered : Ordered adj result) : ∀ node ∈ result, ¬ OnCycle adj node := by
  induction result using List.reverseRecOn with
  | nil => simp
  | append_singleton result last ih =>
      have earlier : Ordered adj result := by
        intro before node after split
        exact ordered before node (after ++ [last]) (by rw [split]; simp)
      intro node member cycle
      rcases List.mem_append.mp member with old | new
      · exact ih earlier node old cycle
      · rw [List.mem_singleton.mp new] at cycle
        -- the node before it on the cycle is listed before it, and lies on the cycle too
        obtain ⟨before, way, edge⟩ := Relation.TransGen.tail'_iff.mp cycle
        exact ih earlier before (ordered result last [] rfl before edge) (Relation.TransGen.head' edge way)

end

variable [DecidableEq Node]

section

/-- How many edges still lead to each node, and the nodes that none leads to. -/
structure Waiting (Node : Type) where
  degrees : Dict Node Int
  queue : List Node

/-- One edge to the node is gone. -/
def release (waiting : Waiting Node) (node : Node) : Waiting Node :=
  let degree := (get waiting.degrees node).getD 0 - 1
  { degrees := assign waiting.degrees node degree
    queue := if degree = 0 then waiting.queue ++ [node] else waiting.queue }

/-- One edge more to the node. -/
def count (degrees : Dict Node Int) (node : Node) : Dict Node Int :=
  assign degrees node ((get degrees node).getD 0 + 1)

/-- The counts before anything is settled, given where all the edges lead. -/
def counts (nodes targets : List Node) : Dict Node Int := targets.foldl count (nodes.map fun node => (node, 0))

def unwaited (degrees : Dict Node Int) : List Node := keys (degrees.filter fun entry => entry.2 = 0)

variable (adj) in
/-- The nodes in the order in which they are taken from the queue; `rounds` bounds how many. -/
def settle : Nat → Waiting Node → List Node → List Node
  | 0, _, result => result
  | rounds + 1, waiting, result =>
      match waiting.queue with
      | [] => result
      | node :: queue => settle rounds ((adj node).foldl release { waiting with queue }) (result ++ [node])

end

section

variable {nodes result todo queue : List Node} {node other : Node} {waiting : Waiting Node}

variable (adj nodes) in
/-- The edges to a node from nodes that are not settled. -/
def remaining (result : List Node) (node : Node) : Nat :=
  ((nodes.filter (· ∉ result)).map fun other => (adj other).count node).sum

theorem remaining_eq_zero_iff :
    remaining adj nodes result node = 0 ↔ ∀ other ∈ nodes, Edge adj other node → other ∈ result := by
  rw [remaining, List.sum_eq_zero_iff]
  simp only [List.mem_map, List.mem_filter, decide_eq_true_eq]
  constructor
  · intro none other member edge
    by_contra fresh
    exact List.count_eq_zero.mp (none _ ⟨other, ⟨member, fresh⟩, rfl⟩) edge
  · rintro settled _ ⟨other, ⟨member, fresh⟩, rfl⟩
    exact List.count_eq_zero.mpr fun edge => fresh (settled other member edge)

/-- Settling a node takes its edges away. -/
theorem remaining_snoc (distinct : nodes.Nodup) (member : other ∈ nodes) (fresh : other ∉ result) :
    remaining adj nodes result node = remaining adj nodes (result ++ [other]) node + (adj other).count node := by
  have split : (nodes.filter (· ∉ result)).Perm (other :: nodes.filter (· ∉ result ++ [other])) := by
    have inside : other ∈ nodes.filter (· ∉ result) := List.mem_filter.mpr ⟨member, by simpa using fresh⟩
    have rest : (nodes.filter (· ∉ result)).erase other = nodes.filter (· ∉ result ++ [other]) := by
      rw [(distinct.filter _).erase_eq_filter, List.filter_filter]
      congr 1
      funext item
      by_cases same : item = other <;> simp [same]
    rw [← rest]
    exact List.perm_cons_erase inside
  rw [remaining, (split.map _).sum_eq, List.map_cons, List.sum_cons, remaining, Nat.add_comm]

variable (adj nodes) in
/-- The counts between two steps: `todo` is what the node settled last still leads to. -/
structure Balanced (result todo : List Node) (waiting : Waiting Node) : Prop where
  distinct : (result ++ waiting.queue).Nodup
  listed : result ++ waiting.queue ⊆ nodes
  counted : ∀ node ∈ nodes,
    get waiting.degrees node = some ((remaining adj nodes result node + todo.count node : Nat) : Int)
  free : ∀ node ∈ nodes,
    node ∈ result ++ waiting.queue ↔ remaining adj nodes result node + todo.count node = 0

variable {targets : List Node} {degrees : Dict Node Int}

theorem get_counts {degree : Int} (held : get degrees node = some degree) :
    get (targets.foldl count degrees) node = some (degree + targets.count node) := by
  induction targets generalizing degrees degree with
  | nil => simpa using held
  | cons target rest ih =>
      rw [List.foldl_cons]
      by_cases same : target = node
      · have more : get (count degrees target) node = some (degree + 1) := by
          rw [count, get_assign, if_pos same, same, held]
          rfl
        rw [ih more, same, List.count_cons_self]
        congr 1
        push_cast
        omega
      · have kept : get (count degrees target) node = some degree := by rw [count, get_assign, if_neg same, held]
        rw [ih kept, List.count_cons_of_ne same]

theorem keys_counts (known : targets ⊆ keys degrees) :
    keys (targets.foldl count degrees) = keys degrees := by
  induction targets generalizing degrees with
  | nil => rfl
  | cons target rest ih =>
      have kept : keys (count degrees target) = keys degrees := by
        rw [count, keys_assign, if_pos (known List.mem_cons_self)]
      rw [List.foldl_cons, ih (by rw [kept]; exact fun other member => known (List.mem_cons_of_mem _ member)), kept]

/-- The counts are right before anything is settled. -/
theorem balanced_initial (distinct : nodes.Nodup) (inside : targets ⊆ nodes)
    (listed : ∀ node, (nodes.flatMap adj).count node = targets.count node) :
    Balanced adj nodes [] [] ⟨counts nodes targets, unwaited (counts nodes targets)⟩ := by
  have start : keys (nodes.map fun node => (node, (0 : Int))) = nodes := by simp [keys, Function.comp_def]
  have same : keys (counts nodes targets) = nodes := by rw [counts, keys_counts (by rwa [start]), start]
  have unique : (keys (counts nodes targets)).Nodup := same.symm ▸ distinct
  have all (node : Node) : remaining adj nodes [] node = targets.count node := by
    rw [← listed, List.count_flatMap, remaining]
    simp [Function.comp_def]
  have counted : ∀ node ∈ nodes, get (counts nodes targets) node =
      some ((remaining adj nodes [] node + ([] : List Node).count node : Nat) : Int) := by
    intro node member
    have zero : get (nodes.map fun node => (node, (0 : Int))) node = some 0 :=
      get_of_mem (start.symm ▸ distinct) (List.mem_map.mpr ⟨node, member, rfl⟩)
    rw [counts, get_counts zero, all]
    simp
  have queued : (unwaited (counts nodes targets)).Sublist nodes := by
    conv_rhs => rw [← same]
    exact List.filter_sublist.map _
  refine ⟨distinct.sublist queued, queued.subset, counted, ?_⟩
  intro node member
  rw [List.nil_append, unwaited, keys, List.mem_map]
  have held := counted node member
  constructor
  · rintro ⟨entry, free, rfl⟩
    obtain ⟨entered, zero⟩ := List.mem_filter.mp free
    rw [get_of_mem unique entered, of_decide_eq_true zero] at held
    exact_mod_cast (Option.some.inj held).symm
  · intro none
    rw [none] at held
    exact ⟨(node, 0), List.mem_filter.mpr ⟨mem_of_get held, by simp⟩, rfl⟩

theorem Balanced.release (balanced : Balanced adj nodes result (node :: todo) waiting) (member : node ∈ nodes) :
    Balanced adj nodes result todo (release waiting node) := by
  have held := balanced.counted node member
  rw [List.count_cons_self] at held
  have waits : node ∉ result ++ waiting.queue := by
    rw [balanced.free node member, List.count_cons_self]
    omega
  have degree : (get waiting.degrees node).getD 0 - 1 =
      ((remaining adj nodes result node + todo.count node : Nat) : Int) := by
    rw [held, Option.getD_some]
    omega
  have kept (other : Node) (apart : node ≠ other) : (node :: todo).count other = todo.count other :=
    List.count_cons_of_ne apart
  rw [TopologicalOrder.release, degree]
  have counted : ∀ other ∈ nodes, get (assign waiting.degrees node
      ((remaining adj nodes result node + todo.count node : Nat) : Int)) other =
        some ((remaining adj nodes result other + todo.count other : Nat) : Int) := by
    intro other inside
    rw [get_assign]
    by_cases same : node = other
    · rw [if_pos same, same]
    · rw [if_neg same, balanced.counted other inside, kept other same]
  by_cases last : ((remaining adj nodes result node + todo.count node : Nat) : Int) = 0
  · have gone : remaining adj nodes result node + todo.count node = 0 := by omega
    rw [if_pos last]
    refine ⟨?_, ?_, counted, ?_⟩
    · rw [← List.append_assoc]
      exact List.nodup_append.mpr ⟨balanced.distinct, List.nodup_singleton node, fun first early second late same =>
        waits (by rwa [← List.mem_singleton.mp late, ← same])⟩
    · rw [← List.append_assoc]
      exact List.append_subset.mpr ⟨balanced.listed, by simpa using member⟩
    · intro other inside
      rw [← List.append_assoc, List.mem_append, List.mem_singleton]
      by_cases same : other = node
      · rw [same]
        exact iff_of_true (.inr rfl) gone
      · rw [or_iff_left same, balanced.free other inside, kept other (Ne.symm same)]
  · have left : remaining adj nodes result node + todo.count node ≠ 0 := by omega
    rw [if_neg last]
    refine ⟨balanced.distinct, balanced.listed, counted, ?_⟩
    intro other inside
    by_cases same : other = node
    · rw [same]
      exact iff_of_false waits left
    · rw [balanced.free other inside, kept other (Ne.symm same)]

theorem Balanced.releaseAll (balanced : Balanced adj nodes result todo waiting) (inside : todo ⊆ nodes) :
    Balanced adj nodes result [] (todo.foldl TopologicalOrder.release waiting) := by
  induction todo generalizing waiting with
  | nil => exact balanced
  | cons node rest ih =>
      exact ih (balanced.release (inside List.mem_cons_self)) fun other member => inside (List.mem_cons_of_mem _ member)

theorem Balanced.take (distinct : nodes.Nodup) (balanced : Balanced adj nodes result [] ⟨degrees, node :: queue⟩) :
    Balanced adj nodes (result ++ [node]) (adj node) ⟨degrees, queue⟩ := by
  have apart := balanced.distinct
  have member : node ∈ nodes := balanced.listed (by simp)
  have fresh : node ∉ result := fun early =>
    (List.nodup_append.mp apart).2.2 node early node List.mem_cons_self rfl
  have shift : result ++ node :: queue = result ++ [node] ++ queue := by simp
  have same (other : Node) : remaining adj nodes result other + ([] : List Node).count other =
      remaining adj nodes (result ++ [node]) other + (adj node).count other := by
    rw [List.count_nil, Nat.add_zero, remaining_snoc distinct member fresh]
  refine ⟨shift ▸ apart, shift ▸ balanced.listed, fun other inside => ?_, fun other inside => ?_⟩
  · rw [← same]
    exact balanced.counted other inside
  · rw [← same, ← shift]
    exact balanced.free other inside

end

variable {nodes result : List Node} {node other : Node} {waiting : Waiting Node} {rounds : Nat}

/-- With enough rounds the queue is emptied, and the list stays ordered. -/
theorem settle_balanced (distinct : nodes.Nodup) (within : ∀ node other, Edge adj node other → node ∈ nodes ∧
    other ∈ nodes) (balanced : Balanced adj nodes result [] waiting) (ordered : Ordered adj result)
    (enough : nodes.length ≤ result.length + rounds) :
    (∃ degrees, Balanced adj nodes (settle adj rounds waiting result) [] ⟨degrees, []⟩) ∧
      Ordered adj (settle adj rounds waiting result) := by
  induction rounds generalizing waiting result with
  | zero =>
      have few := (List.subperm_of_subset balanced.distinct balanced.listed).length_le
      rw [List.length_append] at few
      have empty : waiting.queue = [] := List.eq_nil_of_length_eq_zero (by omega)
      obtain ⟨degrees, queue⟩ := waiting
      cases empty
      exact ⟨⟨degrees, balanced⟩, ordered⟩
  | succ rounds ih =>
      obtain ⟨degrees, queue⟩ := waiting
      cases queue with
      | nil => exact ⟨⟨degrees, balanced⟩, ordered⟩
      | cons node queue =>
          have member : node ∈ nodes := balanced.listed (by simp)
          have none := (balanced.free node member).mp (by simp)
          have settled : ∀ other, Edge adj other node → other ∈ result := fun other edge =>
            remaining_eq_zero_iff.mp (by simpa using none) other (within other node edge).1 edge
          have taken := (balanced.take distinct).releaseAll fun other edge => (within node other edge).2
          exact ih taken (ordered.snoc settled) (by rw [List.length_append, List.length_singleton]; omega)

/-- Everything is settled exactly where there is no cycle. -/
theorem settled_iff (within : ∀ node other, Edge adj node other → node ∈ nodes ∧ other ∈ nodes)
    {degrees : Dict Node Int} (balanced : Balanced adj nodes result [] ⟨degrees, []⟩) (ordered : Ordered adj result) :
    nodes ⊆ result ↔ ∀ node, ¬ OnCycle adj node := by
  constructor
  · intro all node cycle
    obtain ⟨other, edge, -⟩ := Relation.TransGen.head'_iff.mp cycle
    exact ordered.not_onCycle node (all (within node other edge).1) cycle
  · intro acyclic node member
    have peels : ∀ item ∈ nodes, ∃ depth, Layers.Peeled (Edge adj) nodes depth item :=
      Layers.all_peeled_iff.mpr fun item _ cycle =>
        acyclic item (Relation.TransGen.mono (fun _ _ step => step.2) _ _ cycle)
    obtain ⟨depth, peeled⟩ := peels node member
    induction depth generalizing node with
    | zero => exact peeled.elim
    | succ depth ih =>
        have free := (balanced.free node member).mpr (by
          rw [List.count_nil, Nat.add_zero, remaining_eq_zero_iff]
          exact fun other inside edge => ih inside (peeled.2 other inside edge))
        simpa using free

/-- Without a cycle the nodes can be put in order. -/
theorem exists_ordered (distinct : nodes.Nodup)
    (within : ∀ node other, Edge adj node other → node ∈ nodes ∧ other ∈ nodes) (acyclic : ∀ node, ¬ OnCycle adj node) :
    ∃ result, result.Perm nodes ∧ Ordered adj result := by
  have inside : nodes.flatMap adj ⊆ nodes := by
    intro other member
    obtain ⟨node, -, edge⟩ := List.mem_flatMap.mp member
    exact (within node other edge).2
  have initial := balanced_initial distinct inside fun _ => rfl
  obtain ⟨⟨degrees, balanced⟩, ordered⟩ := settle_balanced distinct within initial
    (by intro before node after split; simp at split) (Nat.le_add_left _ 0)
  have all := (settled_iff within balanced ordered).mpr acyclic
  have unique := balanced.distinct
  have known := balanced.listed
  rw [List.append_nil] at unique known
  exact ⟨_, (List.perm_ext_iff_of_nodup unique distinct).mpr fun node => ⟨fun old => known old, fun old => all old⟩,
    ordered⟩

end AutonomousApi.TopologicalOrder
