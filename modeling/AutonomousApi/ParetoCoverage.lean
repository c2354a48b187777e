import AutonomousApi.ParetoFronts

/-! What the selection takes: the first of the ranked candidates. With a tolerance dominance may go round in a circle,
and who is on one or behind one is not ranked at all. -/

namespace AutonomousApi.ParetoSelection

open OrderedMap Layers

variable {candidates : Candidates Rat} {objectives : List String}

theorem sortedFront_perm (front : List String) : (sortedFront candidates objectives front).Perm front :=
  List.perm_insertionSort _ _

theorem rankLoop_cons (maxSelected rank : Nat) (selected front : List String) (rest : List (List String)) :
    rankLoop candidates objectives maxSelected rank selected (front :: rest) =
      if maxSelected ≤
          (selected ++ (sortedFront candidates objectives front).take (maxSelected - selected.length)).length then
        ([frontModel candidates objectives rank front],
          selected ++ (sortedFront candidates objectives front).take (maxSelected - selected.length))
      else
        (frontModel candidates objectives rank front ::
          (rankLoop candidates objectives maxSelected (rank + 1)
            (selected ++ (sortedFront candidates objectives front).take (maxSelected - selected.length)) rest).1,
          (rankLoop candidates objectives maxSelected (rank + 1)
            (selected ++ (sortedFront candidates objectives front).take (maxSelected - selected.length)) rest).2) :=
  rfl

/-- The loop takes from the sorted fronts, one after the other, until there are enough. -/
theorem rankLoop_selected (maxSelected rank : Nat) (selected : List String) (fronts : List (List String)) :
    (rankLoop candidates objectives maxSelected rank selected fronts).2 =
      selected ++ (fronts.flatMap (sortedFront candidates objectives)).take (maxSelected - selected.length) := by
  induction fronts generalizing rank selected with
  | nil => simp [rankLoop]
  | cons front rest ih =>
      rw [rankLoop_cons, List.flatMap_cons, List.take_append]
      generalize sortedFront candidates objectives front = sorted
      have size : (sorted.take (maxSelected - selected.length)).length =
          min (maxSelected - selected.length) sorted.length := List.length_take
      by_cases enough : maxSelected ≤ (selected ++ sorted.take (maxSelected - selected.length)).length
      · have full : maxSelected - selected.length - sorted.length = 0 := by
          rw [List.length_append, size] at enough
          omega
        rw [if_pos enough, full, List.take_zero, List.append_nil]
      · have left : maxSelected - (selected ++ sorted.take (maxSelected - selected.length)).length =
            maxSelected - selected.length - sorted.length := by
          rw [List.length_append, size] at enough ⊢
          omega
        rw [if_neg enough, ih, left, List.append_assoc]

variable (evaluations : List CandidateEvaluationRecord) (policy : ParetoSelectionPolicy)

def ranked : List String := objectivesOf policy (feasibleEvaluations policy evaluations)

/-- The feasible candidates with the values they are compared by. -/
def contest : Candidates Rat := valuesByCandidate (ranked evaluations policy) (feasibleEvaluations policy evaluations)

/-- One feasible candidate dominates another by more than the tolerance. -/
def Rival (other id : String) : Prop :=
  (contest evaluations policy).Beats (ranked evaluations policy) policy.epsilon other id

instance (other id : String) : Decidable (Rival evaluations policy other id) := inferInstanceAs (Decidable (_ = _))

def frontsOf : List (List String) :=
  (contest evaluations policy).nonDominatedSort (ranked evaluations policy) policy.epsilon

/-- Someone is selected, and everyone once where the selection has room for all. -/
def Selects : Prop :=
  (selectPareto evaluations policy).selectedCandidateIds ≠ [] ∧
    ((contest evaluations policy).ids.length ≤ policy.maxSelected →
      (selectPareto evaluations policy).selectedCandidateIds.Perm (contest evaluations policy).ids)

variable {evaluations policy}

theorem selectPareto_eq (passing : feasibleEvaluations policy evaluations ≠ []) :
    selectPareto evaluations policy =
      { objectives := ranked evaluations policy,
        fronts := (rankLoop (contest evaluations policy) (ranked evaluations policy) policy.maxSelected 0 []
          (frontsOf evaluations policy)).1,
        selectedCandidateIds := (rankLoop (contest evaluations policy) (ranked evaluations policy) policy.maxSelected 0
          [] (frontsOf evaluations policy)).2 } := by
  rw [selectPareto]
  simp only [if_neg passing]
  rfl

theorem selected_eq (passing : feasibleEvaluations policy evaluations ≠ []) :
    (selectPareto evaluations policy).selectedCandidateIds =
      ((frontsOf evaluations policy).flatMap
        (sortedFront (contest evaluations policy) (ranked evaluations policy))).take policy.maxSelected := by
  rw [selectPareto_eq passing]
  exact (rankLoop_selected _ _ _ _).trans (List.nil_append _)

theorem sorted_perm :
    ((frontsOf evaluations policy).flatMap
      (sortedFront (contest evaluations policy) (ranked evaluations policy))).Perm
        (frontsOf evaluations policy).flatten := by
  generalize frontsOf evaluations policy = fronts
  induction fronts with
  | nil => exact List.Perm.refl []
  | cons front rest ih =>
      rw [List.flatMap_cons, List.flatten_cons]
      exact (sortedFront_perm front).append ih

theorem nodup_frontsOf : (frontsOf evaluations policy).flatten.Nodup := nodup_fronts

theorem mem_frontsOf_iff {id : String} : id ∈ (frontsOf evaluations policy).flatten ↔
    ∃ depth, Peeled (Rival evaluations policy) (contest evaluations policy).ids depth id :=
  mem_fronts_iff

theorem frontsOf_subset : (frontsOf evaluations policy).flatten ⊆ (contest evaluations policy).ids := by
  intro id listed
  obtain ⟨depth, done⟩ := mem_frontsOf_iff.mp listed
  exact done.mem

theorem selected_ne_nil_iff (passing : feasibleEvaluations policy evaluations ≠ []) :
    (selectPareto evaluations policy).selectedCandidateIds ≠ [] ↔
      ∃ id ∈ (contest evaluations policy).ids, ∀ other ∈ (contest evaluations policy).ids,
        ¬ Rival evaluations policy other id := by
  have room : policy.maxSelected ≠ 0 := Nat.one_le_iff_ne_zero.mp policy.selecting
  rw [selected_eq passing, ne_eq, List.take_eq_nil_iff, or_iff_right room, ← List.length_eq_zero_iff,
    sorted_perm.length_eq, List.length_eq_zero_iff]
  constructor
  · intro inhabited
    obtain ⟨id, listed⟩ := List.exists_mem_of_ne_nil _ inhabited
    obtain ⟨depth, done⟩ := mem_frontsOf_iff.mp listed
    obtain ⟨round, -, layer⟩ := peeled_iff.mp done
    obtain ⟨first, front⟩ := layer.earlier (Nat.zero_le round)
    exact ⟨first, front.mem, front.1.2⟩
  · rintro ⟨id, member, free⟩
    exact List.ne_nil_of_mem (mem_frontsOf_iff.mpr ⟨1, member, fun other inside rival => free other inside rival⟩)

/-- With room for all, the selection is everyone that is in a front. -/
theorem selected_perm_iff (passing : feasibleEvaluations policy evaluations ≠ [])
    (room : (contest evaluations policy).ids.length ≤ policy.maxSelected) :
    (selectPareto evaluations policy).selectedCandidateIds.Perm (contest evaluations policy).ids ↔
      ∀ id ∈ (contest evaluations policy).ids,
        ¬ Relation.TransGen (Within (Rival evaluations policy) (contest evaluations policy).ids) id id := by
  have size : (frontsOf evaluations policy).flatten.length ≤ policy.maxSelected :=
    (List.subperm_of_subset nodup_frontsOf frontsOf_subset).length_le.trans room
  have whole : (selectPareto evaluations policy).selectedCandidateIds.Perm (frontsOf evaluations policy).flatten := by
    rw [selected_eq passing, List.take_of_length_le (sorted_perm.length_eq.trans_le size)]
    exact sorted_perm
  rw [whole.congr_left, List.perm_ext_iff_of_nodup nodup_frontsOf (ids_nodup _),
    ← all_peeled_iff]
  constructor
  · intro same id member
    exact mem_frontsOf_iff.mp ((same id).mpr member)
  · intro each id
    exact ⟨fun listed => frontsOf_subset listed, fun member => mem_frontsOf_iff.mpr (each id member)⟩

/-- The selection does its work exactly if someone is not dominated and, where it has room for all, nobody dominates
itself through a chain of candidates. -/
theorem selects_iff_acyclic (evaluations : List CandidateEvaluationRecord) (policy : ParetoSelectionPolicy)
    (passing : feasibleEvaluations policy evaluations ≠ []) :
    Selects evaluations policy ↔
      (∃ id ∈ (contest evaluations policy).ids, ∀ other ∈ (contest evaluations policy).ids,
        ¬ Rival evaluations policy other id) ∧
      ((contest evaluations policy).ids.length ≤ policy.maxSelected → ∀ id ∈ (contest evaluations policy).ids,
        ¬ Relation.TransGen (Within (Rival evaluations policy) (contest evaluations policy).ids) id id) := by
  rw [Selects, selected_ne_nil_iff passing]
  apply and_congr_right
  intro _
  exact forall_congr' fun room => selected_perm_iff passing room

def evaluated (candidateId : String) (objectives : Dict String Rat) : CandidateEvaluationRecord :=
  { candidateId, fitness := some { objectives }, feasible := true }

/-- Each is better than the next by 1/5 in one objective and worse by 1/10 in the others. -/
def circle : List CandidateEvaluationRecord :=
  [evaluated "a" [("x", 3 / 5), ("y", 3 / 5), ("z", 3 / 10)], evaluated "b" [("x", 2 / 5), ("y", 7 / 10), ("z", 2 / 5)],
    evaluated "c" [("x", 1 / 2), ("y", 1 / 2), ("z", 1 / 2)]]

def within (epsilon : Rat) (tolerant : 0 ≤ epsilon) : ParetoSelectionPolicy :=
  { maxSelected := 3, epsilon, selecting := by decide, tolerant }

def narrow : ParetoSelectionPolicy := within (1 / 10) (by decide +kernel)

def wide : ParetoSelectionPolicy := within (1 / 4) (by decide +kernel)

theorem circle_selected : feasibleEvaluations wide circle ≠ [] ∧ Selects circle wide := by
  have passing : feasibleEvaluations wide circle ≠ [] := by decide +kernel
  have free : ∀ id ∈ (contest circle wide).ids, ∀ other ∈ (contest circle wide).ids, ¬ Rival circle wide other id := by
    decide +kernel
  refine ⟨passing, (selects_iff_acyclic circle wide passing).mpr ⟨?_, fun _ id member cycle => ?_⟩⟩
  · have listed : "a" ∈ (contest circle wide).ids := by decide +kernel
    exact ⟨"a", listed, free "a" listed⟩
  · obtain ⟨other, -, rival⟩ := Relation.TransGen.tail'_iff.mp cycle
    exact free id member other rival.1 rival.2

/-- Within a tolerance of 1/10 each dominates the next and nobody is selected, although all three are feasible. -/
theorem circle_unselected : ¬ ∀ (evaluations : List CandidateEvaluationRecord) (policy : ParetoSelectionPolicy),
    feasibleEvaluations policy evaluations ≠ [] → Selects evaluations policy := by
  intro claim
  have selected := (claim circle narrow (by decide +kernel)).1
  exact selected (by decide +kernel)

end AutonomousApi.ParetoSelection
