import AutonomousApi.BreadthFirst
import Mathlib.Data.List.TakeWhile

/-! Breadth-first searches that keep, for every node put into the queue, the node from which it was put there last,
and follow these parents back from a target. The trail is a walk without repetition, and it has no edge too many
exactly where no edge leads from a node of a level to a later one of the same level (`Straight`). -/

namespace AutonomousApi.ParentTrails

open BreadthFirst GraphWalks OrderedMap

variable {Node : Type} [DecidableEq Node] {adj : Node → List Node} {start : Node}

section

variable (adj) in
/-- The nodes in the order in which they are first taken from the queue; `rounds` bounds how often one is taken. -/
def visitAll : Nat → List Node → List Node → List Node
  | 0, order, _ => order
  | _ + 1, order, [] => order
  | rounds + 1, order, node :: rest =>
      if node ∈ order then visitAll rounds order rest
      else visitAll rounds (order ++ [node]) (rest ++ unvisited adj (order ++ [node]) node)

/-- The node becomes the parent of the others, whatever theirs was. -/
def adopt (parent : Dict Node (Option Node)) (node : Node) (others : List Node) : Dict Node (Option Node) :=
  others.foldl (fun parent other => assign parent other (some node)) parent

/-- The parents back from a node, the earliest first; `steps` bounds how many. -/
def trail (parent : Dict Node (Option Node)) : Nat → Option Node → Option (List Node)
  | _, none => some []
  | 0, some _ => none
  | steps + 1, some node => (get parent node).bind fun before => (trail parent steps before).map (· ++ [node])

variable (adj) in
/-- The trail to the target once it is at the front of the queue. -/
def findPath (target : Node) : Nat → List Node → Dict Node (Option Node) → List Node → Option (List Node)
  | 0, _, _, _ => none
  | _ + 1, _, _, [] => none
  | rounds + 1, order, parent, node :: rest =>
      if node = target then trail parent (order.length + 1) (some target)
      else if node ∈ order then findPath target rounds order parent rest
      else findPath target rounds (order ++ [node]) (adopt parent node (unvisited adj (order ++ [node]) node))
        (rest ++ unvisited adj (order ++ [node]) node)

variable {order rest queue everything done todo : List Node} {node other : Node} {rounds depth further : Nat}

theorem visitAll_levelled (within : ∀ node, adj node ≠ [] → node ∈ everything)
    (levelled : Levelled adj start order queue) (room : queue.length + budget adj everything order < rounds) :
    Levelled adj start (visitAll adj rounds order queue) [] := by
  induction rounds generalizing order queue with
  | zero => exact absurd room (Nat.not_lt_zero _)
  | succ rounds ih =>
      cases queue with
      | nil => exact levelled
      | cons node rest =>
          rw [List.length_cons] at room
          rw [visitAll]
          split_ifs with visited
          · exact ih (levelled.skip visited) (by omega)
          · have spent := budget_visit visited (within node)
            exact ih (levelled.visit visited) (by rw [List.length_append]; omega)

/-- The start is visited before everything else. -/
theorem start_mem (levelled : Levelled adj start order (node :: rest)) (fresh : node ∉ order) :
    start ∈ order ++ [node] := by
  obtain ⟨depth, early⟩ := levelled.next fresh
  have first : [start] <+: below adj start depth := by
    have later : 1 ≤ depth := by
      by_contra zero
      obtain rfl : depth = 0 := by omega
      exact absurd early.length_le (by simp [below, levels])
    exact (List.prefix_refl _ : [start] <+: below adj start 1).trans (below_mono later)
  exact (List.prefix_of_prefix_length_le first early (by simp)).subset (List.mem_singleton_self start)

/-- The nodes before the first place of a node. -/
def upTo (order : List Node) (node : Node) : List Node := order.takeWhile (· ≠ node)

theorem upTo_append (member : node ∈ order) : upTo (order ++ rest) node = upTo order node := by
  induction order with
  | nil => cases member
  | cons first order ih =>
      by_cases same : first = node
      · simp [upTo, same]
      · have later := (List.mem_cons.mp member).resolve_left (Ne.symm same)
        simpa [upTo, same] using ih later

theorem upTo_self (fresh : node ∉ order) : upTo order node = order := by
  rw [upTo, List.takeWhile_eq_self_iff]
  exact fun other member => decide_eq_true fun same => fresh (same ▸ member)

theorem upTo_at (fresh : node ∉ done) : upTo (done ++ node :: todo) node = done := by
  have kept : ∀ other ∈ done, decide (other ≠ node) = true :=
    fun other member => decide_eq_true fun same => fresh (same ▸ member)
  rw [upTo, List.takeWhile_append_of_pos kept]
  simp

theorem not_mem_upTo : node ∉ upTo order node := by
  intro member
  simpa using List.mem_takeWhile_imp member

theorem upTo_prefix : upTo order node <+: order := List.takeWhile_prefix _

/-- A node that comes before another has fewer nodes before it. -/
theorem upTo_upTo (early : other ∈ upTo order node) : upTo (upTo order node) other = upTo order other := by
  obtain ⟨more, whole⟩ : upTo order node <+: order := upTo_prefix
  conv_rhs => rw [← whole]
  exact (upTo_append early).symm

theorem upTo_lt (early : other ∈ upTo order node) : (upTo order other).length < (upTo order node).length := by
  rw [← upTo_upTo early]
  refine Nat.lt_of_le_of_ne upTo_prefix.length_le fun same => ?_
  have whole := upTo_prefix.eq_of_length same
  exact not_mem_upTo (whole.symm ▸ early)

/-- What is visited before a node of a level: the levels before it and its own level up to it. -/
theorem upTo_below (later : depth < further) (split : level adj start depth = done ++ node :: todo) :
    upTo (below adj start further) node = below adj start depth ++ done := by
  obtain ⟨more, whole⟩ : below adj start (depth + 1) <+: below adj start further := below_mono (Nat.succ_le_of_lt later)
  rw [below_succ, split] at whole
  have apart : _ ∧ (level adj start depth).Nodup ∧ List.Disjoint (below adj start depth) (level adj start depth) :=
    below_nodup
  rw [split] at apart
  have fresh : node ∉ below adj start depth ++ done := by
    rw [List.mem_append, not_or]
    refine ⟨fun early => apart.2.2 early (by simp), fun early => ?_⟩
    exact (List.nodup_append.mp apart.2.1).2.2 node early node List.mem_cons_self rfl
  rw [← whole, ← List.append_assoc, List.append_assoc, List.cons_append, upTo_at fresh]

end

section

variable {order rest queue : List Node} {parent : Dict Node (Option Node)} {node other : Node}

variable (adj) in
/-- The last of the nodes that leads to the node. -/
def lastTo (order : List Node) (node : Node) : Option Node := (order.filter (node ∈ adj ·)).getLast?

variable (adj start) in
/-- The parent of a node: of the nodes visited before it, the last that leads to it. -/
def parentOf (order : List Node) (node : Node) : Option (Option Node) :=
  if node = start then some none else (lastTo adj (upTo order node) node).map some

variable (adj start) in
structure Parented (order queue : List Node) (parent : Dict Node (Option Node)) : Prop where
  parents : ∀ node, get parent node = parentOf adj start order node
  known : ∀ node ∈ order ++ queue, (get parent node).isSome

theorem get_adopt {others : List Node} : get (adopt parent node others) other =
    if other ∈ others then some (some node) else get parent other := by
  induction others generalizing parent with
  | nil => rfl
  | cons first rest ih =>
      rw [adopt, List.foldl_cons, ← adopt, ih, get_assign]
      by_cases later : other ∈ rest
      · simp [later]
      · by_cases same : first = other <;> simp [later, same, Ne.symm]

theorem parented_initial : Parented adj start [] [start] (assign [] start none) where
  parents := by
    intro node
    rw [get_assign, parentOf]
    by_cases same : start = node
    · simp [same]
    · simp [same, Ne.symm same, lastTo, upTo]
  known := by
    intro node member
    obtain rfl : node = start := by simpa using member
    rw [get_assign, if_pos rfl]
    rfl

theorem Parented.skip (parented : Parented adj start order (node :: rest) parent) :
    Parented adj start order rest parent where
  parents := parented.parents
  known := by
    intro other member
    apply parented.known
    simp only [List.mem_append, List.mem_cons] at member ⊢
    tauto

theorem lastTo_snoc : lastTo adj (order ++ [other]) node =
    if node ∈ adj other then some other else lastTo adj order node := by
  rw [lastTo, List.filter_append]
  split_ifs with edge
  · rw [List.filter_cons_of_pos (by simpa using edge), List.filter_nil, List.getLast?_concat]
  · rw [List.filter_cons_of_neg (by simpa using edge), List.filter_nil, List.append_nil, lastTo]

theorem Parented.visit (parented : Parented adj start order (node :: rest) parent)
    (levelled : Levelled adj start order (node :: rest)) (fresh : node ∉ order) :
    Parented adj start (order ++ [node]) (rest ++ unvisited adj (order ++ [node]) node)
      (adopt parent node (unvisited adj (order ++ [node]) node)) where
  parents := by
    intro other
    have begun := start_mem levelled fresh
    rw [get_adopt, unvisited]
    by_cases visited : other ∈ order ++ [node]
    · -- the parent of a visited node is not changed any more
      have same : upTo (order ++ [node]) other = upTo order other := by
        by_cases old : other ∈ order
        · exact upTo_append old
        · obtain rfl : other = node := by simpa [old] using visited
          rw [upTo_at fresh, upTo_self fresh]
      have waits : ¬ other ∈ (adj node).filter (· ∉ order ++ [node]) := fun queued => by
        exact absurd visited (of_decide_eq_true (List.mem_filter.mp queued).2)
      rw [if_neg waits, parented.parents, parentOf, parentOf, same]
    · have apart : other ≠ start := fun same => visited (same ▸ begun)
      have old : other ∉ order := fun old => visited (List.mem_append_left _ old)
      rw [parented.parents, parentOf, parentOf, if_neg apart, if_neg apart, upTo_self visited,
        upTo_self old, lastTo_snoc]
      by_cases edge : other ∈ adj node
      · rw [if_pos (List.mem_filter.mpr ⟨edge, decide_eq_true visited⟩), if_pos edge, Option.map_some]
      · rw [if_neg fun queued => edge (List.mem_filter.mp queued).1, if_neg edge]
  known := by
    intro other member
    rw [get_adopt]
    split_ifs with queued
    · rfl
    · apply parented.known
      simp only [List.mem_append, List.mem_cons, List.not_mem_nil, or_false] at member queued ⊢
      tauto

/-- The trail from a node goes back over nodes visited before it, each once. -/
theorem Parented.trail_path (steps : Nat) (parented : Parented adj start order queue parent)
    (member : node ∈ order ++ queue) (room : (upTo order node).length < steps) :
    ∃ nodes, trail parent steps (some node) = some nodes ∧ Path adj start node nodes ∧ nodes.Nodup ∧
      nodes ⊆ upTo order node ++ [node] := by
  induction steps generalizing node with
  | zero => exact absurd room (Nat.not_lt_zero _)
  | succ steps ih =>
      have held := parented.parents node
      have present := parented.known node member
      rw [trail, held]
      rw [held] at present
      by_cases same : node = start
      · subst same
        refine ⟨[node], ?_, .refl node, List.nodup_singleton node, List.subset_append_right _ _⟩
        rw [parentOf, if_pos rfl, Option.bind_some, trail]
        rfl
      · rw [parentOf, if_neg same] at present ⊢
        obtain ⟨before, last⟩ := Option.isSome_iff_exists.mp (by simpa using present)
        obtain ⟨early, edge⟩ := List.mem_filter.mp (List.mem_of_getLast? last)
        rw [decide_eq_true_eq] at edge
        have shorter := upTo_lt early
        have visited : before ∈ order := upTo_prefix.subset early
        obtain ⟨nodes, found, path, distinct, inside⟩ := ih (List.mem_append_left _ visited) (by omega)
        rw [last, Option.map_some, Option.bind_some, found]
        have within : nodes ⊆ upTo order node := by
          intro other listed
          rcases List.mem_append.mp (inside listed) with earlier | last
          · rw [← upTo_upTo early] at earlier
            exact upTo_prefix.subset earlier
          · exact List.mem_singleton.mp last ▸ early
        refine ⟨nodes ++ [node], rfl, path.snoc edge, ?_, ?_⟩
        · exact distinct.append (List.nodup_singleton node) fun other listed again =>
            not_mem_upTo (List.mem_singleton.mp again ▸ within listed)
        · exact List.append_subset.mpr ⟨fun other listed => List.mem_append_left _ (within listed),
            List.subset_append_right _ _⟩

end

section

variable {order rest queue everything done todo nodes : List Node} {parent : Dict Node (Option Node)}
  {node other target : Node} {depth further rounds steps : Nat}

variable (adj start) in
/-- No edge leads from a node of a level to a later one of that level. -/
def Straight : Prop :=
  ∀ depth done node todo, level adj start depth = done ++ node :: todo → ∀ other ∈ done, ¬ Edge adj other node

/-- The nodes visited before one of a level, of which its parent is one, while the search is at that place or later. -/
theorem upTo_level (levelled : Levelled adj start order (target :: rest)) (fresh : target ∉ order)
    (member : node ∈ order ++ [target]) (split : level adj start depth = done ++ node :: todo) :
    upTo order node = below adj start depth ++ done := by
  obtain ⟨further, early⟩ := levelled.next fresh
  obtain ⟨more, whole⟩ := early
  have inside : node ∈ below adj start further := by
    rw [← whole]
    exact List.mem_append_left _ member
  obtain ⟨round, before, again⟩ := mem_below.mp inside
  have here : node ∈ level adj start depth := by rw [split]; simp
  obtain rfl := level_unique here again
  rw [← upTo_below before split, ← whole, upTo_append member]
  by_cases visited : node ∈ order
  · rw [upTo_append visited]
  · obtain rfl : node = target := by simpa [visited] using member
    rw [upTo_at fresh, upTo_self fresh]

/-- Where no edge stays within a level, the parent is in the level before. -/
theorem lastTo_straight (straight : Straight adj start) (split : level adj start (depth + 1) = done ++ node :: todo)
    (last : lastTo adj (below adj start (depth + 1) ++ done) node = some other) : other ∈ level adj start depth := by
  have none : done.filter (node ∈ adj ·) = [] := by
    rw [List.filter_eq_nil_iff]
    intro item member
    rw [decide_eq_true_eq]
    exact straight (depth + 1) done node todo split item member
  have here : node ∈ level adj start (depth + 1) := by rw [split]; simp
  obtain ⟨⟨before, inside, edge⟩, -⟩ := mem_level_succ.mp here
  have some : (level adj start depth).filter (node ∈ adj ·) ≠ [] :=
    List.ne_nil_of_mem (List.mem_filter.mpr ⟨inside, decide_eq_true edge⟩)
  rw [lastTo, List.filter_append, none, List.append_nil, below_succ, List.filter_append,
    List.getLast?_append_of_ne_nil _ some] at last
  exact (List.mem_filter.mp (List.mem_of_getLast? last)).1

/-- Where an edge does, the parent is in the level itself. -/
theorem lastTo_sideways (start : Node) (depth : Nat) (edge : Edge adj other node) (member : other ∈ done) :
    ∃ last ∈ done, lastTo adj (below adj start depth ++ done) node = some last := by
  have some : done.filter (node ∈ adj ·) ≠ [] := List.ne_nil_of_mem (List.mem_filter.mpr ⟨member, decide_eq_true edge⟩)
  refine ⟨_, (List.mem_filter.mp (List.getLast_mem some)).1, ?_⟩
  rw [lastTo, List.filter_append, List.getLast?_append_of_ne_nil _ some, List.getLast?_eq_some_getLast some]

/-- The last step of a trail. -/
theorem Parented.trail_some (parented : Parented adj start order queue parent) (apart : node ≠ start)
    (found : trail parent (steps + 1) (some node) = some nodes) :
    ∃ before earlier, lastTo adj (upTo order node) node = some before ∧
      trail parent steps (some before) = some earlier ∧ nodes = earlier ++ [node] := by
  rw [trail, parented.parents, parentOf, if_neg apart] at found
  obtain ⟨parent, held, further⟩ := Option.bind_eq_some_iff.mp found
  obtain ⟨before, last, rfl⟩ := Option.map_eq_some_iff.mp held
  obtain ⟨earlier, sofar, rfl⟩ := Option.map_eq_some_iff.mp further
  exact ⟨before, earlier, last, sofar, rfl⟩

theorem Parented.trail_start (parented : Parented adj start order queue parent)
    (found : trail parent steps (some start) = some nodes) : nodes = [start] := by
  cases steps with
  | zero => simp [trail] at found
  | succ steps =>
      rw [trail, parented.parents, parentOf, if_pos rfl, Option.bind_some, trail] at found
      exact (Option.some.inj found).symm

theorem lastTo_mem (last : lastTo adj (upTo order node) node = some other) : other ∈ order :=
  upTo_prefix.subset (List.mem_filter.mp (List.mem_of_getLast? last)).1

theorem trail_straight (straight : Straight adj start) (levelled : Levelled adj start order (target :: rest))
    (fresh : target ∉ order) (parented : Parented adj start order queue parent) (member : node ∈ order ++ [target])
    (here : node ∈ level adj start depth) (found : trail parent steps (some node) = some nodes) :
    nodes.length = depth + 1 := by
  induction steps generalizing node depth nodes with
  | zero => simp [trail] at found
  | succ steps ih =>
      by_cases same : node = start
      · subst same
        obtain rfl : depth = 0 := level_unique here (List.mem_singleton_self node)
        rw [parented.trail_start found, List.length_singleton]
      · obtain ⟨before, earlier, last, sofar, rfl⟩ := parented.trail_some same found
        cases depth with
        | zero => exact absurd (List.mem_singleton.mp here) same
        | succ depth =>
            obtain ⟨done, todo, split⟩ := List.append_of_mem here
            have visited := lastTo_mem last
            rw [upTo_level levelled fresh member split] at last
            have above := lastTo_straight straight split last
            rw [List.length_append, ih (List.mem_append_left _ visited) above sofar, List.length_singleton]

/-- The search ends at the target with the levels before it visited, or with everything reached and the target not
among it. -/
theorem findPath_cases (within : ∀ node, adj node ≠ [] → node ∈ everything)
    (levelled : Levelled adj start order queue) (parented : Parented adj start order queue parent)
    (waiting : target ∉ order) (room : queue.length + budget adj everything order < rounds) :
    (findPath adj target rounds order parent queue = none ∧ ¬ Reaches adj start target) ∨
      ∃ visited rest parents, Levelled adj start visited (target :: rest) ∧ target ∉ visited ∧
        Parented adj start visited (target :: rest) parents ∧
          findPath adj target rounds order parent queue = trail parents (visited.length + 1) (some target) := by
  induction rounds generalizing order parent queue with
  | zero => exact absurd room (Nat.not_lt_zero _)
  | succ rounds ih =>
      cases queue with
      | nil =>
          left
          rw [findPath]
          exact ⟨rfl, fun reaches => waiting ((levelled.finished.2 target).mpr reaches)⟩
      | cons node rest =>
          rw [List.length_cons] at room
          rw [findPath]
          split_ifs with found visited
          · subst found
            exact .inr ⟨order, rest, parent, levelled, waiting, parented, rfl⟩
          · exact ih (levelled.skip visited) parented.skip waiting (by omega)
          · have spent := budget_visit visited (within node)
            refine ih (levelled.visit visited) (parented.visit levelled visited) ?_ (by rw [List.length_append]; omega)
            simpa [waiting] using Ne.symm found

end

variable {everything nodes : List Node} {target : Node} {rounds : Nat}

variable (adj start) in
/-- The search for one target from a queue with nothing but the start. -/
def pathTo (rounds : Nat) (target : Node) : Option (List Node) :=
  findPath adj target rounds [] (assign [] start none) [start]

theorem pathTo_cases (start : Node) (within : ∀ node, adj node ≠ [] → node ∈ everything)
    (room : 1 + budget adj everything [] < rounds) (target : Node) :
    (pathTo adj start rounds target = none ∧ ¬ Reaches adj start target) ∨
      ∃ visited rest parents, Levelled adj start visited (target :: rest) ∧ target ∉ visited ∧
        Parented adj start visited (target :: rest) parents ∧
          pathTo adj start rounds target = trail parents (visited.length + 1) (some target) :=
  findPath_cases within levelled_initial parented_initial (by simp) room

/-- A path is found where there is one, and what is found is one without repetition. -/
theorem pathTo_path (start : Node) (within : ∀ node, adj node ≠ [] → node ∈ everything)
    (room : 1 + budget adj everything [] < rounds) (target : Node) :
    ((∃ nodes, pathTo adj start rounds target = some nodes) ↔ Reaches adj start target) ∧
      ∀ nodes, pathTo adj start rounds target = some nodes → Path adj start target nodes ∧ nodes.Nodup := by
  rcases pathTo_cases start within room target with ⟨none, apart⟩ | ⟨visited, rest, parents, -, -, parented, same⟩
  · rw [none]
    simp [apart]
  · obtain ⟨nodes, found, path, distinct, -⟩ := parented.trail_path (visited.length + 1)
      (by simp : target ∈ visited ++ target :: rest) (Nat.lt_succ_of_le upTo_prefix.length_le)
    rw [same, found]
    refine ⟨iff_of_true ⟨nodes, rfl⟩ (reaches_iff_steps.mpr ⟨_, path.steps⟩), ?_⟩
    rintro _ ⟨⟩
    exact ⟨path, distinct⟩

/-- Every found path has as few edges as possible exactly where no edge stays within a level. -/
theorem pathTo_shortest_iff (within : ∀ node, adj node ≠ [] → node ∈ everything)
    (room : 1 + budget adj everything [] < rounds) :
    (∀ target nodes, pathTo adj start rounds target = some nodes → ∀ others, Path adj start target others →
      nodes.length ≤ others.length) ↔ Straight adj start := by
  constructor
  · intro shortest depth done node todo split other member edge
    have here : node ∈ level adj start depth := by rw [split]; simp
    have steps := level_steps here
    obtain ⟨others, path, count⟩ := steps.path
    rcases pathTo_cases start within room node with ⟨-, apart⟩ | ⟨visited, rest, parents, levelled, fresh,
      parented, same⟩
    · exact apart (reaches_iff_steps.mpr ⟨depth, steps⟩)
    obtain ⟨nodes, found, -, -, -⟩ := parented.trail_path (visited.length + 1)
      (by simp : node ∈ visited ++ node :: rest) (Nat.lt_succ_of_le upTo_prefix.length_le)
    have least := shortest node nodes (same.trans found) others path
    have later : node ≠ start := by
      rintro rfl
      obtain rfl : depth = 0 := level_unique here (List.mem_singleton_self node)
      have single : [node] = done ++ node :: todo := split
      cases done <;> simp_all
    -- the parent lies in the same level, so the walk to it has as many edges as a shortest one to the node
    obtain ⟨before, earlier, last, sofar, rfl⟩ := parented.trail_some later found
    have visitedBefore := lastTo_mem last
    have shorter := upTo_lt (List.mem_filter.mp (List.mem_of_getLast? last)).1
    rw [upTo_level levelled fresh (by simp) split] at last
    obtain ⟨sibling, sideways, held⟩ := lastTo_sideways start depth edge member
    obtain rfl : before = sibling := Option.some.inj (last.symm.trans held)
    obtain ⟨again, sofar', walk, -, -⟩ := parented.trail_path visited.length
      (List.mem_append_left _ visitedBefore) (Nat.lt_of_lt_of_le shorter upTo_prefix.length_le)
    obtain rfl : earlier = again := Option.some.inj (sofar.symm.trans sofar')
    have deep := level_le_steps (by rw [split]; exact List.mem_append_left _ sideways) walk.steps
    have some := List.length_pos_iff.mpr walk.ne_nil
    rw [List.length_append, List.length_singleton] at least
    omega
  · intro straight target nodes found others path
    rcases pathTo_cases start within room target with ⟨none, -⟩ | ⟨visited, rest, parents, levelled, fresh,
      parented, same⟩
    · rw [none] at found
      cases found
    · rw [same] at found
      obtain ⟨depth, done, todo, split, -, -⟩ := levelled.front fresh
      have here : target ∈ level adj start depth := by rw [split]; simp
      have long := trail_straight straight levelled fresh parented (by simp) here found
      have least := level_le_steps here path.steps
      have some := List.length_pos_iff.mpr path.ne_nil
      omega

end AutonomousApi.ParentTrails
