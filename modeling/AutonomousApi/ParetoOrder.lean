import AutonomousApi.ParetoCoverage

/-! Whether the selection depends on the order in which candidates were evaluated. The fronts do not. The crowding
distances do where candidates of one front tie: the bonus of a boundary, and the gap on either side, go
to whoever was listed first. -/

namespace AutonomousApi.ParetoSelection

open OrderedMap Layers

section

variable {Item Key : Type} [LinearOrder Key] {key : Item → Key} {items others : List Item}

instance totalKey : Std.Total fun left right : Item => key left ≤ key right :=
  ⟨fun left right => le_total (key left) (key right)⟩

instance transKey : IsTrans Item fun left right => key left ≤ key right :=
  ⟨fun _ _ _ first second => first.trans second⟩

/-- Sorting by a key that tells the items apart gives one result for every order. -/
theorem insertionSort_of_perm (reordered : items.Perm others)
    (apart : ∀ item ∈ items, ∀ other ∈ items, key item = key other → item = other) :
    items.insertionSort (fun left right => key left ≤ key right) =
      others.insertionSort fun left right => key left ≤ key right := by
  apply List.Perm.eq_of_pairwise ?_ (List.pairwise_insertionSort _ _) (List.pairwise_insertionSort _ _)
  · exact (List.perm_insertionSort _ _).trans (reordered.trans (List.perm_insertionSort _ _).symm)
  · intro item other inLeft inRight before after
    have member := (List.mem_insertionSort _).mp inLeft
    have also := reordered.mem_iff.mpr ((List.mem_insertionSort _).mp inRight)
    exact apart item member other also (le_antisymm before after)

end

section

variable {front others : List String} {objectives : List String} {value : String → String → Rat}

/-- Of three candidates no two share a value. -/
def Apart (objectives : List String) (value : String → String → Rat) (front : List String) : Prop :=
  ∀ first ∈ front, ∀ second ∈ front, ∀ third ∈ front, first ≠ second → third ≠ first → third ≠ second →
    ∀ objective ∈ objectives, value first objective ≠ value second objective

theorem exists_third (distinct : front.Nodup) (many : 2 < front.length) (first second : String) :
    ∃ third ∈ front, third ≠ first ∧ third ≠ second := by
  by_contra none
  have inside : front ⊆ [first, second] := by
    intro third member
    by_contra other
    rw [List.mem_cons, List.mem_singleton, not_or] at other
    exact none ⟨third, member, other⟩
  have size := (List.subperm_of_subset distinct inside).length_le
  exact absurd size (Nat.not_le.mpr many)

theorem crowdingDistance_of_perm (reordered : front.Perm others) (distinct : front.Nodup)
    (apart : Apart objectives value front) :
    crowdingDistance front objectives value = crowdingDistance others objectives value := by
  rw [crowdingDistance, crowdingDistance, ← reordered.length_eq]
  by_cases few : front.length ≤ 2
  · rw [if_pos few, if_pos few]
  · rw [if_neg few, if_neg few]
    apply List.foldl_ext
    intro distances objective member
    have sorted : sortBy (fun candidateId => value candidateId objective) front =
        sortBy (fun candidateId => value candidateId objective) others := by
      apply insertionSort_of_perm reordered
      intro first inFirst second inSecond same
      by_contra differ
      obtain ⟨third, inThird, notFirst, notSecond⟩ := exists_third distinct (not_le.mp few) first second
      exact apart first inFirst second inSecond third inThird differ notFirst notSecond objective member same
    rw [crowdObjective, crowdObjective, sorted]

end

section

variable {candidates others : Candidates Rat} {objectives : List String} {epsilon : Rat}

theorem valuesOf_of_perm (reordered : candidates.values.Perm others.values) :
    others.valuesOf = candidates.valuesOf := by
  funext candidateId
  rw [Candidates.valuesOf, Candidates.valuesOf, get_perm candidates.distinct reordered]

theorem front_of_perm (reordered : candidates.values.Perm others.values) {depth : Nat} {id : String} :
    candidates.Front objectives epsilon depth id ↔ others.Front objectives epsilon depth id := by
  have beats : others.Beats objectives epsilon = candidates.Beats objectives epsilon := by
    funext other id
    rw [Candidates.Beats, Candidates.Beats, Candidates.beats, Candidates.beats, valuesOf_of_perm reordered]
  rw [Candidates.Front, Candidates.Front, beats]
  exact layer_congr fun id => (reordered.map Prod.fst).mem_iff

theorem nodup_front {depth : Nat} : ((candidates.nonDominatedSort objectives epsilon).getD depth []).Nodup := by
  obtain ⟨fuel, -, lists⟩ := @nonDominatedSort_lists _ _ _ candidates objectives epsilon
  by_cases below : depth < (candidates.nonDominatedSort objectives epsilon).length
  · rw [List.getD_eq_getElem _ _ below]
    exact (lists.each _ (List.getElem_mem below)).2
  · rw [List.getD_eq_default _ _ (not_lt.mp below)]
    exact List.nodup_nil

/-- There is a front of that number exactly if the layer is not empty. -/
theorem lt_length_iff {depth : Nat} : depth < (candidates.nonDominatedSort objectives epsilon).length ↔
    ∃ id, candidates.Front objectives epsilon depth id := by
  constructor
  · intro below
    obtain ⟨fuel, -, lists⟩ := @nonDominatedSort_lists _ _ _ candidates objectives epsilon
    obtain ⟨id, member⟩ := List.exists_mem_of_ne_nil _ (lists.each _ (List.getElem_mem below)).1
    rw [← List.getD_eq_getElem _ [] below] at member
    exact ⟨id, (mem_front_iff depth id).mp member⟩
  · rintro ⟨id, front⟩
    by_contra past
    have member := (mem_front_iff depth id).mpr front
    rw [List.getD_eq_default _ _ (not_lt.mp past)] at member
    exact List.not_mem_nil member

theorem fronts_of_perm (reordered : candidates.values.Perm others.values) :
    List.Forall₂ List.Perm (candidates.nonDominatedSort objectives epsilon)
      (others.nonDominatedSort objectives epsilon) := by
  have size : (candidates.nonDominatedSort objectives epsilon).length =
      (others.nonDominatedSort objectives epsilon).length := by
    apply Nat.le_antisymm <;> by_contra longer
    · obtain ⟨id, front⟩ := lt_length_iff.mp (not_le.mp longer)
      exact Nat.lt_irrefl _ (lt_length_iff.mpr ⟨id, (front_of_perm reordered).mp front⟩)
    · obtain ⟨id, front⟩ := lt_length_iff.mp (not_le.mp longer)
      exact Nat.lt_irrefl _ (lt_length_iff.mpr ⟨id, (front_of_perm reordered).mpr front⟩)
  apply List.forall₂_iff_get.mpr
  refine ⟨size, fun depth below also => ?_⟩
  rw [List.get_eq_getElem, List.get_eq_getElem, ← List.getD_eq_getElem _ [] below, ← List.getD_eq_getElem _ [] also]
  apply (List.perm_ext_iff_of_nodup nodup_front nodup_front).mpr
  intro id
  rw [mem_front_iff, mem_front_iff]
  exact front_of_perm reordered

variable {front other : List String}

/-- A front without ties is ranked alike however it is listed. -/
theorem ranked_of_perm (values : others.valuesOf = candidates.valuesOf) (reordered : front.Perm other)
    (distinct : front.Nodup)
    (apart : Apart objectives (fun candidateId => valueOf (candidates.valuesOf candidateId)) front) (rank : Nat) :
    sortedFront candidates objectives front = sortedFront others objectives other ∧
      frontModel candidates objectives rank front = frontModel others objectives rank other := by
  have distances : distancesOf candidates objectives front = distancesOf others objectives other := by
    rw [distancesOf, distancesOf, values]
    exact crowdingDistance_of_perm reordered distinct apart
  have sorted : sortedFront candidates objectives front = sortedFront others objectives other := by
    have listed : objectiveValues candidates objectives = objectiveValues others objectives := by
      funext candidateId
      rw [objectiveValues, objectiveValues, values]
    rw [sortedFront, sortedFront, distances, listed]
    apply insertionSort_of_perm reordered
    intro first _ second _ same
    exact congrArg (fun key => (ofLex (ofLex key).2).2) same
  refine ⟨sorted, ?_⟩
  rw [frontModel, frontModel, sorted, distances, values]

theorem sortedFront_length : (sortedFront candidates objectives front).length = front.length :=
  (sortedFront_perm front).length_eq

/-- The loop gives one result where none of the fronts that it comes to has a tie. -/
theorem rankLoop_of_perm (values : others.valuesOf = candidates.valuesOf) {maxSelected rank : Nat}
    {selected : List String} {fronts reordered : List (List String)} (same : List.Forall₂ List.Perm fronts reordered)
    (distinct : ∀ front ∈ fronts, front.Nodup) (room : selected.length < maxSelected)
    (apart : ∀ before front after, fronts = before ++ front :: after →
      selected.length + before.flatten.length < maxSelected →
        Apart objectives (fun candidateId => valueOf (candidates.valuesOf candidateId)) front) :
    rankLoop candidates objectives maxSelected rank selected fronts =
      rankLoop others objectives maxSelected rank selected reordered := by
  induction same generalizing rank selected with
  | nil => rfl
  | @cons front other rest more perm same ih =>
      obtain ⟨sorted, model⟩ := ranked_of_perm values perm (distinct front List.mem_cons_self)
        (apart [] front rest rfl (by simpa using room)) rank
      rw [rankLoop_cons, rankLoop_cons, ← sorted, ← model]
      generalize chosen : selected ++ (sortedFront candidates objectives front).take (maxSelected - selected.length) =
        next
      by_cases enough : maxSelected ≤ next.length
      · rw [if_pos enough, if_pos enough]
      · have size : next.length = selected.length + front.length := by
          have taken := congrArg List.length chosen
          rw [List.length_append, List.length_take, sortedFront_length] at taken
          omega
        have later := @ih (rank + 1) next (fun front member => distinct front (List.mem_cons_of_mem _ member))
          (not_le.mp enough)
          fun before inner after split below => by
            refine apart (front :: before) inner after (by rw [split, List.cons_append]) ?_
            rw [List.flatten_cons, List.length_append]
            omega
        rw [if_neg enough, if_neg enough, later]

end

section

variable {evaluations reordered : List CandidateEvaluationRecord} {policy : ParetoSelectionPolicy}

theorem feasible_of_perm (same : evaluations.Perm reordered) :
    (feasibleEvaluations policy evaluations).Perm (feasibleEvaluations policy reordered) :=
  same.filterMap _

theorem feasible_sublist : ((feasibleEvaluations policy evaluations).map Prod.fst).Sublist
    (evaluations.map CandidateEvaluationRecord.candidateId) := by
  induction evaluations with
  | nil => exact List.Sublist.slnil
  | cons evaluation rest ih =>
      rw [feasibleEvaluations, List.filterMap_cons, List.map_cons]
      cases feasibleFitness policy evaluation with
      | none => exact ih.cons _
      | some fitness => exact ih.cons_cons _

theorem ranked_eq (same : evaluations.Perm reordered) : ranked reordered policy = ranked evaluations policy := by
  rw [ranked, ranked, objectivesOf, objectivesOf]
  by_cases named : policy.objectives ≠ []
  · rw [if_pos named, if_pos named]
  · rw [if_neg named, if_neg named]
    have passing : (feasibleEvaluations policy reordered).Perm (feasibleEvaluations policy evaluations) :=
      (feasible_of_perm same).symm
    have names := (passing.flatMap_right fun evaluation => keys evaluation.2.objectives).dedup
    exact @insertionSort_of_perm _ _ _ (fun name => name) _ _ names fun _ _ _ _ equal => equal

/-- Candidates with ids of their own are compared by the values of their own evaluations. -/
theorem contest_of_perm (same : evaluations.Perm reordered)
    (distinct : (evaluations.map CandidateEvaluationRecord.candidateId).Nodup) :
    (contest evaluations policy).values.Perm (contest reordered policy).values := by
  have unique : ((feasibleEvaluations policy evaluations).map Prod.fst).Nodup := distinct.sublist feasible_sublist
  have also := ((feasible_of_perm same).map Prod.fst).nodup_iff.mp unique
  have keyed (feasible : List (String × FitnessEvaluation)) (apart : (feasible.map Prod.fst).Nodup)
      (objectives : List String) : (valuesByCandidate objectives feasible).values = feasible.map fun evaluation =>
        (evaluation.1, assignAll [] (objectives.map fun objective =>
          (objective, valueOf evaluation.2.objectives objective))) := by
    apply assignAll_distinct
    rwa [keys, List.map_map]
  rw [contest, contest, ranked_eq same, keyed _ unique, keyed _ also]
  exact (feasible_of_perm same).map _

variable (evaluations policy)

open Classical in
/-- How many candidates are in earlier fronts. -/
noncomputable def placedBefore (depth : Nat) : Nat :=
  (contest evaluations policy).ids.countP fun id =>
    Peeled (Rival evaluations policy) (contest evaluations policy).ids depth id

/-- In a front that the selection comes to, of three candidates no two share the value of an objective. -/
def Untied : Prop :=
  ∀ depth, placedBefore evaluations policy depth < policy.maxSelected → ∀ first second third,
    Layer (Rival evaluations policy) (contest evaluations policy).ids depth first →
    Layer (Rival evaluations policy) (contest evaluations policy).ids depth second →
    Layer (Rival evaluations policy) (contest evaluations policy).ids depth third →
    first ≠ second → third ≠ first → third ≠ second → ∀ objective ∈ ranked evaluations policy,
      valueOf ((contest evaluations policy).valuesOf first) objective ≠
        valueOf ((contest evaluations policy).valuesOf second) objective

variable {evaluations policy}

theorem placedBefore_split {before after : List (List String)} (split : frontsOf evaluations policy = before ++ after) :
    before.flatten.length = placedBefore evaluations policy before.length := by
  classical
  have unique : before.flatten.Nodup := by
    have whole : (frontsOf evaluations policy).flatten.Nodup := nodup_frontsOf
    rw [split, List.flatten_append] at whole
    exact whole.of_append_left
  have listed : before.flatten.Perm ((contest evaluations policy).ids.filter fun id =>
      Peeled (Rival evaluations policy) (contest evaluations policy).ids before.length id) := by
    apply (List.perm_ext_iff_of_nodup unique ((ids_nodup _).filter _)).mpr
    intro id
    rw [List.mem_filter, decide_eq_true_eq]
    refine (done_split split).trans ?_
    exact ⟨fun done => ⟨done.mem, done⟩, And.right⟩
  rw [listed.length_eq, ← List.countP_eq_length_filter, placedBefore]

/-- The order of the evaluations does not matter where the fronts that the selection comes to have no ties. -/
theorem select_of_perm (same : evaluations.Perm reordered)
    (distinct : (evaluations.map CandidateEvaluationRecord.candidateId).Nodup)
    (untied : Untied evaluations policy) : selectPareto reordered policy = selectPareto evaluations policy := by
  by_cases passing : feasibleEvaluations policy evaluations = []
  · have none : feasibleEvaluations policy reordered = [] := by
      rw [← List.length_eq_zero_iff, ← (feasible_of_perm same).length_eq, passing, List.length_nil]
    rw [selectPareto, selectPareto, passing, none]
  · have also : feasibleEvaluations policy reordered ≠ [] := by
      intro none
      rw [← List.length_eq_zero_iff, ← (feasible_of_perm same).length_eq, List.length_eq_zero_iff] at none
      exact passing none
    have compared : (contest evaluations policy).values.Perm (contest reordered policy).values :=
      contest_of_perm same distinct
    have loops : rankLoop (contest evaluations policy) (ranked evaluations policy) policy.maxSelected 0 []
        (frontsOf evaluations policy) = rankLoop (contest reordered policy) (ranked evaluations policy)
          policy.maxSelected 0 [] (frontsOf reordered policy) := by
      have reorderedFronts : List.Forall₂ List.Perm (frontsOf evaluations policy) (frontsOf reordered policy) := by
        rw [frontsOf, frontsOf, ranked_eq same]
        exact fronts_of_perm compared
      refine rankLoop_of_perm (valuesOf_of_perm compared) reorderedFronts ?_ policy.selecting ?_
      · intro front member
        exact (List.nodup_flatten.mp nodup_frontsOf).1 front member
      · intro before front after split below first inFirst second inSecond third inThird differ notFirst notSecond
        rw [List.length_nil, Nat.zero_add, placedBefore_split split] at below
        exact untied before.length below first second third ((front_split split).mp inFirst)
          ((front_split split).mp inSecond) ((front_split split).mp inThird) differ notFirst notSecond
    rw [selectPareto_eq passing, selectPareto_eq also, ranked_eq same, loops]

end

def three : ParetoSelectionPolicy := within 0 (le_refl 0)

/-- Each is the best in one objective, the one between is so in none. -/
def slope : List CandidateEvaluationRecord :=
  [evaluated "a" [("x", 1), ("y", 1 / 2)], evaluated "b" [("x", 3 / 4), ("y", 3 / 4)],
    evaluated "c" [("x", 1 / 2), ("y", 1)]]

def slopeReordered : List CandidateEvaluationRecord :=
  [evaluated "b" [("x", 3 / 4), ("y", 3 / 4)], evaluated "a" [("x", 1), ("y", 1 / 2)],
    evaluated "c" [("x", 1 / 2), ("y", 1)]]

theorem slope_reordered : selectPareto slopeReordered three = selectPareto slope three ∧
    (selectPareto slope three).selectedCandidateIds = ["a", "c", "b"] := by
  have apart : ∀ first ∈ (contest slope three).ids, ∀ second ∈ (contest slope three).ids, first ≠ second →
      ∀ objective ∈ ranked slope three, valueOf ((contest slope three).valuesOf first) objective ≠
        valueOf ((contest slope three).valuesOf second) objective := by
    decide +kernel
  refine ⟨select_of_perm (List.Perm.swap _ _ _) (by decide) ?_, by decide +kernel⟩
  intro depth _ first second third inFirst inSecond _ differ _ _
  exact apart first inFirst.mem second inSecond.mem differ

def level : List CandidateEvaluationRecord :=
  [evaluated "a" [("x", 1)], evaluated "b" [("x", 1)], evaluated "c" [("x", 1)]]

def levelReordered : List CandidateEvaluationRecord :=
  [evaluated "b" [("x", 1)], evaluated "a" [("x", 1)], evaluated "c" [("x", 1)]]

/-- Of three equal candidates the first and the last to be evaluated get the bonus of a boundary. -/
theorem level_reordered : ¬ ∀ (evaluations reordered : List CandidateEvaluationRecord)
    (policy : ParetoSelectionPolicy), evaluations.Perm reordered →
      (evaluations.map CandidateEvaluationRecord.candidateId).Nodup →
        selectPareto reordered policy = selectPareto evaluations policy := by
  intro claim
  have same := claim level levelReordered three (List.Perm.swap _ _ _) (by decide)
  have selected := congrArg ParetoSelectionResult.selectedCandidateIds same
  exact absurd selected (by decide +kernel)

end AutonomousApi.ParetoSelection
