import Mathlib.Data.List.Chain

/-! Walks over any successor function: what a node leads to, which nodes lie on a cycle, how many edges a walk has.
A list of nodes is a walk where each has an edge to the next. -/

namespace AutonomousApi.GraphWalks

variable {Node : Type} {adj : Node → List Node}

section

variable (adj)

def Edge (node other : Node) : Prop := other ∈ adj node

/-- There is a walk, of no edge or more. -/
def Reaches : Node → Node → Prop := Relation.ReflTransGen (Edge adj)

/-- There is a walk back to the node, of one edge or more. -/
def OnCycle (node : Node) : Prop := Relation.TransGen (Edge adj) node node

/-- Every walk from the node ends. -/
def Grounded : Node → Prop := Acc fun other node => Edge adj node other

/-- Each node has an edge to the one after it, and the walk ends where it began. -/
structure ClosedWalk (walk : List Node) : Prop where
  long : 2 ≤ walk.length
  closed : walk.head? = walk.getLast?
  chained : walk.IsChain (Edge adj)

end

variable {node : Node} {walk : List Node}

theorem Grounded.not_onCycle (grounded : Grounded adj node) : ¬ OnCycle adj node := by
  induction grounded with
  | intro node _ ih =>
      intro cycle
      obtain ⟨other, edge, way⟩ := Relation.TransGen.head'_iff.mp cycle
      exact ih other edge (Relation.TransGen.tail' way edge)

theorem ClosedWalk.onCycle (closedWalk : ClosedWalk adj walk) : ∃ node, OnCycle adj node := by
  obtain ⟨long, closed, chained⟩ := closedWalk
  cases walk with
  | nil => simp at long
  | cons first rest =>
      cases rest with
      | nil => simp at long
      | cons second rest =>
          obtain ⟨edge, further⟩ := List.isChain_cons_cons.mp chained
          have back : (second :: rest).getLast (by simp) = first := by
            rw [List.head?_cons, List.getLast?_cons_cons, List.getLast?_eq_some_getLast (by simp)] at closed
            exact (Option.some.inj closed).symm
          have way : Reaches adj second first :=
            List.relationReflTransGen_of_exists_isChain_cons rest further back
          exact ⟨first, Relation.TransGen.head' edge way⟩

variable (adj) in
/-- There is a walk of that many edges. -/
def Steps : Nat → Node → Node → Prop
  | 0, first, last => first = last
  | count + 1, first, last => ∃ before, Steps count first before ∧ Edge adj before last

variable (adj) in
/-- A walk from the one node to the other, as the list of what it passes. -/
structure Path (first last : Node) (nodes : List Node) : Prop where
  starts : nodes.head? = some first
  ends : nodes.getLast? = some last
  chained : nodes.IsChain (Edge adj)

variable {first last other : Node} {nodes : List Node} {count : Nat}

theorem Path.refl (node : Node) : Path adj node node [node] := ⟨rfl, rfl, List.isChain_singleton node⟩

theorem Path.ne_nil (path : Path adj first last nodes) : nodes ≠ [] := by
  rintro rfl
  cases path.starts

theorem Path.snoc (path : Path adj first last nodes) (edge : Edge adj last other) :
    Path adj first other (nodes ++ [other]) where
  starts := by rw [List.head?_append_of_ne_nil _ path.ne_nil, path.starts]
  ends := List.getLast?_concat
  chained := by
    apply path.chained.append (List.isChain_singleton other)
    intro before atEnd after atStart
    obtain rfl : last = before := Option.some.inj (path.ends.symm.trans atEnd)
    obtain rfl : other = after := Option.some.inj atStart
    exact edge

theorem Steps.path (steps : Steps adj count first last) :
    ∃ nodes, Path adj first last nodes ∧ nodes.length = count + 1 := by
  induction count generalizing last with
  | zero =>
      obtain rfl : first = last := steps
      exact ⟨[first], .refl first, rfl⟩
  | succ count ih =>
      obtain ⟨before, earlier, edge⟩ := steps
      obtain ⟨nodes, walked, length⟩ := ih earlier
      exact ⟨nodes ++ [last], walked.snoc edge, by simp [length]⟩

theorem Path.steps (path : Path adj first last nodes) : Steps adj (nodes.length - 1) first last := by
  induction nodes using List.reverseRecOn generalizing last with
  | nil => exact absurd rfl path.ne_nil
  | append_singleton nodes node ih =>
      obtain rfl : node = last := Option.some.inj (List.getLast?_concat.symm.trans path.ends)
      by_cases empty : nodes = []
      · subst empty
        exact (Option.some.inj path.starts).symm
      · have starts : nodes.head? = some first := by
          rw [← List.head?_append_of_ne_nil _ empty, path.starts]
        obtain ⟨chained, -, joined⟩ := List.isChain_append.mp path.chained
        have ends := List.getLast?_eq_some_getLast empty
        have walked := ih ⟨starts, ends, chained⟩
        have size := List.length_pos_iff.mpr empty
        obtain ⟨count, long⟩ : ∃ count, nodes.length = count + 1 := ⟨nodes.length - 1, by omega⟩
        rw [List.length_append, List.length_singleton, Nat.add_sub_cancel, long]
        rw [long, Nat.add_sub_cancel] at walked
        exact ⟨nodes.getLast empty, walked, joined _ ends _ rfl⟩

theorem reaches_iff_steps : Reaches adj first last ↔ ∃ count, Steps adj count first last := by
  constructor
  · intro reaches
    induction reaches with
    | refl => exact ⟨0, rfl⟩
    | tail _ edge ih =>
        obtain ⟨count, steps⟩ := ih
        exact ⟨count + 1, _, steps, edge⟩
  · rintro ⟨count, steps⟩
    induction count generalizing last with
    | zero => exact steps ▸ .refl
    | succ count ih =>
        obtain ⟨before, earlier, edge⟩ := steps
        exact (ih earlier).tail edge

end AutonomousApi.GraphWalks
