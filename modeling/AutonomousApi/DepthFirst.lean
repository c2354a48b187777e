import AutonomousApi.GraphWalks
import Mathlib.Data.List.Nodup

/-! Depth-first search over any successor function. A search opens each node once, carries the path
it is on and notes every edge that leads back into that path. `Searched` says what a search adds to what was
opened before it; from it come what is reached, and that nothing is noted exactly if there is no cycle. -/

namespace AutonomousApi.DepthFirst

open GraphWalks

variable {Node : Type} {adj : Node → List Node}

section

/-- What was opened, in its order, and the edges that led back into the path, each with the path it left. -/
structure Search (Node : Type) where
  opened : List Node := []
  back : List (List Node × Node) := []

variable (adj) in
/-- What the search from these nodes on this path adds. -/
structure Searched (path nodes : List Node) (before after : Search Node) : Prop where
  kept : before.opened <+: after.opened
  entered : ∀ node ∈ nodes, node ∈ after.opened
  reached : ∀ node ∈ after.opened, node ∉ before.opened → ∃ first ∈ nodes, Reaches adj first node
  finished : ∀ node ∈ after.opened, node ∉ before.opened → ∀ other ∈ adj node, other ∈ after.opened
  once : before.opened.Nodup → after.opened.Nodup
  noted : before.back <+: after.back
  grounded : before.back = after.back → (∀ node ∈ before.opened, node ∉ path → Grounded adj node) →
    ∀ node ∈ after.opened, node ∉ path → Grounded adj node
  leaves : before.back = after.back → ∀ node ∈ nodes, node ∉ path

variable {path nodes more : List Node} {node : Node} {before between after search : Search Node}

theorem Searched.nil (search : Search Node) : Searched adj path [] search search where
  kept := List.prefix_refl _
  entered := by simp
  reached := fun _ opened fresh => absurd opened fresh
  finished := fun _ opened fresh => absurd opened fresh
  once := id
  noted := List.prefix_refl _
  grounded := fun _ done => done
  leaves := by simp

theorem eq_of_prefixes {Item : Type} {first second third : List Item} (early : first <+: second)
    (late : second <+: third) (same : first = third) : first = second ∧ second = third := by
  subst same
  have equal := early.eq_of_length (Nat.le_antisymm early.length_le late.length_le)
  exact ⟨equal, equal.symm⟩

theorem Searched.append (first : Searched adj path nodes before between)
    (second : Searched adj path more between after) : Searched adj path (nodes ++ more) before after where
  kept := first.kept.trans second.kept
  entered := by
    intro node member
    rcases List.mem_append.mp member with early | late
    · exact second.kept.subset (first.entered node early)
    · exact second.entered node late
  reached := by
    intro node opened fresh
    by_cases early : node ∈ between.opened
    · obtain ⟨start, member, reaches⟩ := first.reached node early fresh
      exact ⟨start, List.mem_append_left _ member, reaches⟩
    · obtain ⟨start, member, reaches⟩ := second.reached node opened early
      exact ⟨start, List.mem_append_right _ member, reaches⟩
  finished := by
    intro node opened fresh other edge
    by_cases early : node ∈ between.opened
    · exact second.kept.subset (first.finished node early fresh other edge)
    · exact second.finished node opened early other edge
  once := fun distinct => second.once (first.once distinct)
  noted := first.noted.trans second.noted
  grounded := by
    intro quiet done
    obtain ⟨quietFirst, quietSecond⟩ := eq_of_prefixes first.noted second.noted quiet
    exact second.grounded quietSecond (first.grounded quietFirst done)
  leaves := by
    intro quiet node member
    obtain ⟨quietFirst, quietSecond⟩ := eq_of_prefixes first.noted second.noted quiet
    rcases List.mem_append.mp member with early | late
    · exact first.leaves quietFirst node early
    · exact second.leaves quietSecond node late

/-- A node that was open already adds nothing but the note of an edge into the path. -/
theorem Searched.again {added : List (List Node × Node)} (opened : node ∈ search.opened)
    (silent : added = [] → node ∉ path) :
    Searched adj path [node] search { search with back := search.back ++ added } where
  kept := List.prefix_refl _
  entered := by simpa using opened
  reached := fun _ open' fresh => absurd open' fresh
  finished := fun _ open' fresh => absurd open' fresh
  once := id
  noted := List.prefix_append _ _
  grounded := fun _ done => done
  leaves := by
    intro quiet other same
    rw [List.mem_singleton.mp same]
    exact silent (List.self_eq_append_right.mp quiet)

/-- A node that was not open yet is opened and then everything it leads to is searched. -/
theorem Searched.open (fresh : node ∉ search.opened) (onPath : path ⊆ search.opened)
    (below : Searched adj (path ++ [node]) (adj node) { search with opened := search.opened ++ [node] } after) :
    Searched adj path [node] search after where
  kept := (List.prefix_append _ _).trans below.kept
  entered := by
    intro other same
    rw [List.mem_singleton.mp same]
    exact below.kept.subset (by simp)
  reached := by
    intro other opened unopened
    by_cases same : other = node
    · exact ⟨node, List.mem_singleton_self node, same ▸ .refl⟩
    · obtain ⟨first, edge, reaches⟩ := below.reached other opened (by simp [unopened, same])
      exact ⟨node, List.mem_singleton_self node, .head edge reaches⟩
  finished := by
    intro other opened unopened
    by_cases same : other = node
    · rw [same]
      exact below.entered
    · exact below.finished other opened (by simp [unopened, same])
  once := by
    intro distinct
    apply below.once
    refine List.nodup_append.mpr ⟨distinct, List.nodup_singleton node, ?_⟩
    intro other opened again same equal
    rw [equal, List.mem_singleton.mp same] at opened
    exact fresh opened
  noted := below.noted
  grounded := by
    intro quiet done other opened offPath
    have others := below.grounded quiet fun before opened offPath => by
      simp only [List.mem_append, List.mem_singleton, not_or] at opened offPath
      exact done before (opened.resolve_right offPath.2) offPath.1
    by_cases same : other = node
    · -- everything the node leads to is off the path, so it is finished and has no cycle ahead
      rw [same]
      exact ⟨node, fun further edge => others further (below.entered further edge) (below.leaves quiet further edge)⟩
    · exact others other opened (by simp [offPath, same])
  leaves := by
    intro _ other same
    rw [List.mem_singleton.mp same]
    exact fun inside => fresh (onPath inside)

theorem searched_foldl {step : Node → Search Node → Search Node}
    (each : ∀ node ∈ nodes, ∀ later, search.opened <+: later.opened →
      Searched adj path [node] later (step node later)) :
    Searched adj path nodes search (nodes.foldl (fun search node => step node search) search) := by
  induction nodes generalizing search with
  | nil => exact .nil search
  | cons node rest ih =>
      have first := each node List.mem_cons_self search (List.prefix_refl _)
      refine first.append (ih fun other member later kept => ?_)
      exact each other (List.mem_cons_of_mem _ member) later (first.kept.trans kept)

/-- From nothing opened, a search opens exactly what its first node leads to. -/
theorem Searched.opened_iff {start : Node} (searched : Searched adj path [start] {} after) :
    node ∈ after.opened ↔ Reaches adj start node := by
  constructor
  · intro opened
    obtain ⟨first, same, reaches⟩ := searched.reached node opened (by simp)
    rwa [List.mem_singleton.mp same] at reaches
  · intro reaches
    induction reaches with
    | refl => exact searched.entered start (List.mem_singleton_self start)
    | tail _ edge ih => exact searched.finished _ ih (by simp) _ edge

variable (adj) in
/-- The path and one more edge, which leads back into it. -/
structure BackEdge (entry : List Node × Node) : Prop where
  inside : entry.2 ∈ entry.1
  chained : (entry.1 ++ [entry.2]).IsChain (Edge adj)

theorem foldl_back (step : Node → Search Node → Search Node)
    (each : ∀ node ∈ nodes, ∀ later, (∀ entry ∈ later.back, BackEdge adj entry) →
      ∀ entry ∈ (step node later).back, BackEdge adj entry)
    (before : ∀ entry ∈ search.back, BackEdge adj entry) :
    ∀ entry ∈ (nodes.foldl (fun search node => step node search) search).back, BackEdge adj entry := by
  induction nodes generalizing search with
  | nil => exact before
  | cons node rest ih =>
      apply ih fun other member => each other (List.mem_cons_of_mem _ member)
      exact each node List.mem_cons_self search before

end

variable [DecidableEq Node]

variable (adj) in
/-- A node is opened on the path that led to it; `depth` bounds the recursion. -/
def enter : Nat → List Node → Node → Search Node → Search Node
  | 0, _, _, search => search
  | depth + 1, path, node, search =>
      if node ∈ search.opened then
        if node ∈ path then { search with back := search.back ++ [(path, node)] } else search
      else
        (adj node).foldl (fun search other => enter depth (path ++ [node]) other search)
          { search with opened := search.opened ++ [node] }

variable {path nodes everything : List Node} {node : Node} {search : Search Node} {depth : Nat}

/-- What is left to open. -/
def unopened (everything : List Node) (search : Search Node) : List Node :=
  everything.filter fun node => node ∉ search.opened

theorem unopened_le (everything : List Node) {later : Search Node} (kept : search.opened <+: later.opened) :
    (unopened everything later).length ≤ (unopened everything search).length := by
  refine List.Sublist.length_le (List.monotone_filter_right _ fun node left => ?_)
  simp only [decide_eq_true_eq] at left ⊢
  exact fun opened => left (kept.subset opened)

theorem unopened_lt (member : node ∈ everything) (fresh : node ∉ search.opened) :
    (unopened everything { search with opened := search.opened ++ [node] }).length <
      (unopened everything search).length := by
  have split : unopened everything { search with opened := search.opened ++ [node] } =
      (unopened everything search).filter fun other => other ≠ node := by
    simp only [unopened, List.filter_filter, List.mem_append, List.mem_singleton, not_or]
    congr 1
    funext other
    by_cases same : other = node <;> simp [same]
  rw [split]
  exact List.length_filter_lt_length_iff_exists.mpr
    ⟨node, List.mem_filter.mpr ⟨member, by simpa using fresh⟩, by simp⟩

/-- A depth of more than the number of nodes left to open is never used up. -/
theorem enter_searched (closed : ∀ node ∈ everything, adj node ⊆ everything) (member : node ∈ everything)
    (onPath : path ⊆ search.opened) (room : (unopened everything search).length < depth) :
    Searched adj path [node] search (enter adj depth path node search) := by
  induction depth generalizing path node search with
  | zero => exact absurd room (Nat.not_lt_zero _)
  | succ depth ih =>
      by_cases opened : node ∈ search.opened
      · by_cases inside : node ∈ path
        · rw [enter, if_pos opened, if_pos inside]
          exact .again opened (by simp)
        · rw [enter, if_pos opened, if_neg inside]
          have silent : Searched adj path [node] search { search with back := search.back ++ [] } :=
            .again opened fun _ => inside
          rwa [List.append_nil] at silent
      · rw [enter, if_neg opened]
        apply Searched.open opened onPath
        apply searched_foldl
        intro other edge later kept
        apply ih (closed node member edge)
        · intro before inside
          apply kept.subset
          simp only [List.mem_append, List.mem_singleton] at inside ⊢
          exact inside.imp_left fun earlier => onPath earlier
        · have smaller := unopened_lt member opened
          have later := unopened_le everything kept
          omega

theorem foldl_searched (closed : ∀ node ∈ everything, adj node ⊆ everything) (within : nodes ⊆ everything)
    (onPath : path ⊆ search.opened) (room : (unopened everything search).length < depth) :
    Searched adj path nodes search (nodes.foldl (fun search node => enter adj depth path node search) search) := by
  apply searched_foldl
  intro node member later kept
  apply enter_searched closed (within member) fun other inside => kept.subset (onPath inside)
  exact Nat.lt_of_le_of_lt (unopened_le everything kept) room

/-- Only edges back into the path are noted. -/
theorem enter_back (chained : (path ++ [node]).IsChain (Edge adj))
    (before : ∀ entry ∈ search.back, BackEdge adj entry) :
    ∀ entry ∈ (enter adj depth path node search).back, BackEdge adj entry := by
  induction depth generalizing path node search with
  | zero => exact before
  | succ depth ih =>
      rw [enter]
      split_ifs with opened inside
      · intro entry member
        rcases List.mem_append.mp member with old | new
        · exact before entry old
        · rw [List.mem_singleton.mp new]
          exact ⟨inside, chained⟩
      · exact before
      · refine foldl_back (fun other later => enter adj depth (path ++ [node]) other later) ?_ before
        intro other edge later soFar
        apply ih _ soFar
        rw [List.append_assoc]
        exact List.isChain_append_cons_cons.mpr ⟨chained, edge, List.isChain_singleton other⟩

theorem BackEdge.closedWalk {entry : List Node × Node} (backEdge : BackEdge adj entry) :
    ClosedWalk adj (entry.1.drop (entry.1.idxOf entry.2) ++ [entry.2]) := by
  obtain ⟨path, node⟩ := entry
  obtain ⟨inside, chained⟩ := backEdge
  have found := List.idxOf_lt_length_of_mem inside
  have split : path.drop (path.idxOf node) = node :: path.drop (path.idxOf node + 1) := by
    rw [List.drop_eq_getElem_cons found, List.getElem_idxOf]
  rw [split]
  refine ⟨by simp, ?_, ?_⟩
  · rw [List.getLast?_concat]
    rfl
  rw [← split]
  rw [← List.take_append_drop (path.idxOf node) path, List.append_assoc] at chained
  exact chained.right_of_append

/-- A search from every node notes nothing exactly if no walk comes back to where it began. -/
theorem quiet_iff (within : ∀ node other, Edge adj node other → node ∈ everything ∧ other ∈ everything)
    (listed : ∀ node, node ∈ nodes ↔ node ∈ everything) (room : everything.length < depth) :
    (nodes.foldl (fun search node => enter adj depth [] node search) {}).back = [] ↔ ∀ node, ¬ OnCycle adj node := by
  have searched : Searched adj [] nodes {} (nodes.foldl (fun search node => enter adj depth [] node search) {}) := by
    have room' : (unopened everything {}).length < depth := Nat.lt_of_le_of_lt (List.length_filter_le _ _) room
    exact foldl_searched (fun node _ other edge => (within node other edge).2)
      (fun node member => (listed node).mp member) (List.nil_subset _) room'
  constructor
  · intro quiet node cycle
    obtain ⟨other, edge, -⟩ := Relation.TransGen.head'_iff.mp cycle
    have opened := searched.entered node ((listed node).mpr (within node other edge).1)
    have grounded := searched.grounded quiet.symm (by simp) node opened (by simp)
    exact grounded.not_onCycle cycle
  · intro acyclic
    by_contra noted
    obtain ⟨entry, member⟩ := List.exists_mem_of_ne_nil _ noted
    have backEdge : BackEdge adj entry := by
      refine foldl_back (fun node later => enter adj depth [] node later) ?_ (by simp) entry member
      intro node _ later soFar
      exact enter_back (List.isChain_singleton node) soFar
    obtain ⟨node, cycle⟩ := backEdge.closedWalk.onCycle
    exact acyclic node cycle

end AutonomousApi.DepthFirst
