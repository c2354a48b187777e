import AutonomousApi.GraphWalks
import AutonomousApi.OrderedMap
import Mathlib.Algebra.GroupWithZero.Nat
import Mathlib.Algebra.Order.BigOperators.Group.List
import Mathlib.Algebra.Order.Group.Nat

/-! Breadth-first search over any successor function, by its levels: the nodes at each distance from the
start, each level in the order in which the nodes before it lead there. A search that takes nodes from the front of a
queue and puts unvisited successors at its end visits the levels one after another (`Levelled`). -/

namespace AutonomousApi.BreadthFirst

open GraphWalks OrderedMap

variable {Node : Type} [DecidableEq Node] {adj : Node → List Node} {start : Node}

section

variable (adj start)

/-- The nodes before a level, and the level. -/
def levels : Nat → List Node × List Node
  | 0 => ([], [start])
  | depth + 1 =>
      ((levels depth).1 ++ (levels depth).2,
        keepFirst id ((levels depth).1 ++ (levels depth).2) ((levels depth).2.flatMap adj))

def below (depth : Nat) : List Node := (levels adj start depth).1

def level (depth : Nat) : List Node := (levels adj start depth).2

variable {adj start} {node other : Node} {depth further : Nat}

theorem below_succ : below adj start (depth + 1) = below adj start depth ++ level adj start depth := rfl

theorem level_succ : level adj start (depth + 1) =
    keepFirst id (below adj start (depth + 1)) ((level adj start depth).flatMap adj) := rfl

theorem below_nodup : (below adj start depth).Nodup ∧ (level adj start depth).Nodup ∧
    List.Disjoint (below adj start depth) (level adj start depth) := by
  induction depth with
  | zero => exact ⟨List.nodup_nil, List.nodup_singleton start, List.disjoint_nil_left _⟩
  | succ depth ih =>
      obtain ⟨distinct, fresh⟩ := keepFirst_keys id (below adj start (depth + 1)) ((level adj start depth).flatMap adj)
      refine ⟨ih.1.append ih.2.1 ih.2.2, ?_, ?_⟩
      · rwa [List.map_id] at distinct
      · exact fun node old new => fresh node new old

theorem below_mono (later : depth ≤ further) : below adj start depth <+: below adj start further := by
  induction later with
  | refl => exact List.prefix_refl _
  | step _ ih => exact ih.trans (List.prefix_append _ _)

theorem mem_below : node ∈ below adj start depth ↔ ∃ round < depth, node ∈ level adj start round := by
  induction depth with
  | zero => simp [below, levels]
  | succ depth ih =>
      rw [below_succ, List.mem_append, ih]
      constructor
      · rintro (⟨round, before, member⟩ | member)
        · exact ⟨round, Nat.lt_succ_of_lt before, member⟩
        · exact ⟨depth, Nat.lt_succ_self depth, member⟩
      · rintro ⟨round, before, member⟩
        rcases Nat.lt_or_eq_of_le (Nat.le_of_lt_succ before) with earlier | rfl
        · exact .inl ⟨round, earlier, member⟩
        · exact .inr member

theorem mem_level_succ : node ∈ level adj start (depth + 1) ↔
    (∃ before ∈ level adj start depth, Edge adj before node) ∧ node ∉ below adj start (depth + 1) := by
  rw [level_succ, mem_keepFirst_id, List.mem_flatMap]
  rfl

/-- Where an edge leads is at most one level further. -/
theorem edge_below (member : node ∈ below adj start depth) (edge : Edge adj node other) :
    other ∈ below adj start (depth + 1) := by
  obtain ⟨round, before, inside⟩ := mem_below.mp member
  by_cases old : other ∈ below adj start (round + 1)
  · exact (below_mono (by omega)).subset old
  · exact mem_below.mpr ⟨round + 1, by omega, mem_level_succ.mpr ⟨⟨node, inside, edge⟩, old⟩⟩

theorem level_steps (member : node ∈ level adj start depth) : Steps adj depth start node := by
  induction depth generalizing node with
  | zero => exact (List.mem_singleton.mp member).symm
  | succ depth ih =>
      obtain ⟨⟨before, inside, edge⟩, -⟩ := mem_level_succ.mp member
      exact ⟨before, ih inside, edge⟩

theorem steps_below (steps : Steps adj depth start node) : node ∈ below adj start (depth + 1) := by
  induction depth generalizing node with
  | zero => exact mem_below.mpr ⟨0, Nat.one_pos, List.mem_singleton.mpr steps.symm⟩
  | succ depth ih =>
      obtain ⟨before, earlier, edge⟩ := steps
      exact edge_below (ih earlier) edge

theorem level_unique (member : node ∈ level adj start depth) (also : node ∈ level adj start further) :
    depth = further := by
  by_contra apart
  rcases Nat.lt_or_gt_of_ne apart with before | after
  · exact below_nodup.2.2 (mem_below.mpr ⟨depth, before, member⟩) also
  · exact below_nodup.2.2 (mem_below.mpr ⟨further, after, also⟩) member

/-- No walk to a node has fewer edges than the number of its level. -/
theorem level_le_steps (member : node ∈ level adj start depth) (steps : Steps adj further start node) :
    depth ≤ further := by
  obtain ⟨round, before, inside⟩ := mem_below.mp (steps_below steps)
  rw [level_unique member inside]
  omega

end

variable {order rest queue everything : List Node} {node : Node}

variable (adj) in
/-- The successors of a node that are put into the queue when it is visited. -/
def unvisited (order : List Node) (node : Node) : List Node := (adj node).filter (· ∉ order)

variable (adj start) in
/-- What was visited is the levels up to a place in one of them, and what the queue is going to bring first is the
rest of that level, then where its visited part leads. -/
def Levelled (order queue : List Node) : Prop :=
  ∃ depth done todo, level adj start depth = done ++ todo ∧ order = below adj start depth ++ done ∧
    keepFirst id order queue = todo ++ keepFirst id (order ++ todo) (done.flatMap adj)

theorem levelled_initial : Levelled adj start [] [start] := ⟨0, [], [start], rfl, rfl, rfl⟩

theorem Levelled.skip (levelled : Levelled adj start order (node :: rest)) (visited : node ∈ order) :
    Levelled adj start order rest := by
  obtain ⟨depth, done, todo, split, sofar, queued⟩ := levelled
  refine ⟨depth, done, todo, split, sofar, ?_⟩
  rwa [keepFirst, id, if_pos (List.contains_iff_mem.mpr visited)] at queued

/-- An unvisited node at the front of the queue is the next one of the current level, once a finished level is left. -/
theorem Levelled.front (levelled : Levelled adj start order (node :: rest)) (fresh : node ∉ order) :
    ∃ depth done todo, level adj start depth = done ++ node :: todo ∧ order = below adj start depth ++ done ∧
      keepFirst id (order ++ [node]) rest =
        todo ++ keepFirst id (order ++ node :: todo) (done.flatMap adj) := by
  obtain ⟨depth, done, todo, split, sofar, queued⟩ := levelled
  rw [keepFirst, id, if_neg (by simpa using fresh)] at queued
  cases todo with
  | cons first todo =>
      obtain ⟨same, later⟩ := List.cons.inj queued
      obtain rfl : node = first := same
      exact ⟨depth, done, todo, split, sofar, later⟩
  | nil =>
      -- the level is done, and what the queue brings is the next one
      have finished : order = below adj start (depth + 1) := by
        rw [sofar, below_succ, split, List.append_nil]
      have next : level adj start (depth + 1) = node :: keepFirst id (order ++ [node]) rest := by
        rw [level_succ, ← finished, split, List.append_nil]
        rwa [List.append_nil, List.nil_append, eq_comm] at queued
      exact ⟨depth + 1, [], keepFirst id (order ++ [node]) rest, next, by rw [finished, List.append_nil],
        by rw [List.flatMap_nil, keepFirst, List.append_nil]⟩

theorem Levelled.visit (levelled : Levelled adj start order (node :: rest)) (fresh : node ∉ order) :
    Levelled adj start (order ++ [node]) (rest ++ unvisited adj (order ++ [node]) node) := by
  obtain ⟨depth, done, todo, split, sofar, queued⟩ := levelled.front fresh
  refine ⟨depth, done ++ [node], todo, by rw [split]; simp, by rw [sofar, List.append_assoc], ?_⟩
  have known : order ++ [node] ⊆ order ++ [node] ++ keepFirst id (order ++ [node]) rest := List.subset_append_left _ _
  rw [keepFirst_append, unvisited, keepFirst_filter known, List.flatMap_append, keepFirst_append, queued]
  simp

/-- With an empty queue everything the start leads to has been visited, and nothing twice. -/
theorem Levelled.finished (levelled : Levelled adj start order []) :
    order.Nodup ∧ ∀ node, node ∈ order ↔ Reaches adj start node := by
  obtain ⟨depth, done, todo, split, sofar, queued⟩ := levelled
  obtain ⟨nothing, empty⟩ := List.append_eq_nil_iff.mp queued.symm
  subst nothing
  rw [List.append_nil] at split
  have whole : order = below adj start (depth + 1) := by rw [sofar, below_succ, split]
  have last : level adj start (depth + 1) = [] := by
    rw [level_succ, ← whole, split]
    rwa [List.append_nil] at empty
  have closed : ∀ further, below adj start (depth + 1 + further) = below adj start (depth + 1) ∧
      level adj start (depth + 1 + further) = [] := by
    intro further
    induction further with
    | zero => exact ⟨rfl, last⟩
    | succ further ih =>
        rw [← Nat.add_assoc, below_succ, level_succ, below_succ, ih.1, ih.2]
        exact ⟨List.append_nil _, rfl⟩
  rw [whole]
  refine ⟨below_nodup.1, fun node => ⟨fun member => ?_, fun reaches => ?_⟩⟩
  · obtain ⟨round, -, inside⟩ := mem_below.mp member
    exact reaches_iff_steps.mpr ⟨round, level_steps inside⟩
  · obtain ⟨count, steps⟩ := reaches_iff_steps.mp reaches
    rw [← (closed count).1]
    exact (below_mono (by omega)).subset (steps_below steps)

/-- What was visited, and the front of the queue if it was not, begin the list of the levels. -/
theorem Levelled.next (levelled : Levelled adj start order (node :: rest)) (fresh : node ∉ order) :
    ∃ depth, order ++ [node] <+: below adj start depth := by
  obtain ⟨depth, done, todo, split, sofar, -⟩ := levelled.front fresh
  refine ⟨depth + 1, todo, ?_⟩
  rw [below_succ, split, sofar]
  simp

variable (adj everything) in
/-- How many nodes the search may still put into its queue. -/
def budget (order : List Node) : Nat := ((everything.filter (· ∉ order)).map fun node => (adj node).length).sum

theorem sum_without (cost : Node → Nat) {nodes : List Node} (member : node ∈ nodes) :
    cost node + ((nodes.filter (· ≠ node)).map cost).sum ≤ (nodes.map cost).sum := by
  induction nodes with
  | nil => cases member
  | cons first rest ih =>
      by_cases same : first = node
      · have less : ((rest.filter (· ≠ node)).map cost).sum ≤ (rest.map cost).sum :=
          (List.filter_sublist.map cost).sum_le_sum fun _ _ => Nat.zero_le _
        rw [List.filter_cons_of_neg (by simpa using same), List.map_cons, List.sum_cons, same]
        omega
      · have further := ih ((List.mem_cons.mp member).resolve_left (Ne.symm same))
        rw [List.filter_cons_of_pos (by simpa using same), List.map_cons, List.map_cons, List.sum_cons, List.sum_cons]
        omega

theorem budget_visit (fresh : node ∉ order) (within : adj node ≠ [] → node ∈ everything) :
    (unvisited adj (order ++ [node]) node).length + budget adj everything (order ++ [node]) ≤
      budget adj everything order := by
  have few : (unvisited adj (order ++ [node]) node).length ≤ (adj node).length := List.length_filter_le _ _
  have left : everything.filter (· ∉ order ++ [node]) = (everything.filter (· ∉ order)).filter (· ≠ node) := by
    rw [List.filter_filter]
    congr 1
    funext other
    by_cases same : other = node <;> simp [same]
  rw [budget, budget, left]
  by_cases none : adj node = []
  · rw [none, List.length_nil, Nat.le_zero] at few
    rw [few, Nat.zero_add]
    exact (List.filter_sublist.map _).sum_le_sum fun _ _ => Nat.zero_le _
  · have counted := sum_without (fun node => (adj node).length)
      (List.mem_filter.mpr ⟨within none, by simpa using fresh⟩ : node ∈ everything.filter (· ∉ order))
    omega

end AutonomousApi.BreadthFirst
