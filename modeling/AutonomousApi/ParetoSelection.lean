import AutonomousApi.OrderedMap
import Mathlib.Algebra.Order.Ring.Unbundled.Rat
import Mathlib.Data.List.Sort
import Mathlib.Data.Prod.Lex
import Mathlib.Data.String.Basic

/-! Pareto selection of evolution/pareto.py: dominance, the sort into fronts by counting down how many candidates
dominate one, crowding distances and the selection. Values are exact. -/

namespace AutonomousApi.ParetoSelection

open OrderedMap

section

variable {Value : Type} [LinearOrder Value] [AddZeroClass Value]

def valueOf (values : Dict String Value) (objective : String) : Value := (get values objective).getD 0

/-- The loop of `dominates`. -/
def dominatesLoop (a b : Dict String Value) (epsilon : Value) : Bool → List String → Bool
  | atLeastOneBetter, [] => atLeastOneBetter
  | atLeastOneBetter, objective :: rest =>
      if valueOf a objective + epsilon < valueOf b objective then false
      else
        dominatesLoop a b epsilon
          (atLeastOneBetter || decide (valueOf b objective + epsilon < valueOf a objective)) rest

def dominates (a b : Dict String Value) (objectives : List String) (epsilon : Value) : Bool :=
  dominatesLoop a b epsilon false objectives

/-- One pass over a front: every domination is counted down, and who comes to zero is next. -/
def release (dominationCount : String → Int) : List String → (String → Int) × List String
  | [] => (dominationCount, [])
  | dominated :: rest =>
      let left := Function.update dominationCount dominated (dominationCount dominated - 1)
      let (following, nextFront) := release left rest
      (following, if left dominated = 0 then dominated :: nextFront else nextFront)

/-- The `while` loop. -/
def frontsLoop (dominatedSet : String → List String) : Nat → (String → Int) → List String → List (List String)
  | 0, _, _ => []
  | fuel + 1, dominationCount, currentFront =>
      let (following, nextFront) := release dominationCount (currentFront.flatMap dominatedSet)
      if nextFront = [] then [] else nextFront :: frontsLoop dominatedSet fuel following nextFront

/-- No dictionary has a key twice. -/
structure Candidates (Value : Type) where
  values : Dict String (Dict String Value)
  distinct : (keys values).Nodup

namespace Candidates

variable (candidates : Candidates Value) (objectives : List String) (epsilon : Value)

def ids : List String := keys candidates.values

def valuesOf (candidateId : String) : Dict String Value := (get candidates.values candidateId).getD []

def beats (candidateId otherId : String) : Bool :=
  dominates (candidates.valuesOf candidateId) (candidates.valuesOf otherId) objectives epsilon

def dominatedSet (candidateId : String) : List String :=
  candidates.ids.filter fun otherId => candidateId ≠ otherId ∧ candidates.beats objectives epsilon candidateId otherId

def dominationCount (candidateId : String) : Int :=
  (candidates.ids.filter fun otherId => candidateId ≠ otherId ∧
    candidates.beats objectives epsilon candidateId otherId = false ∧
    candidates.beats objectives epsilon otherId candidateId).length

def firstFront : List String :=
  candidates.ids.filter fun candidateId => candidates.dominationCount objectives epsilon candidateId = 0

/-- There are no more fronts than candidates, see `mem_fronts_iff`. -/
def nonDominatedSort : List (List String) :=
  let first := candidates.firstFront objectives epsilon
  if first = [] then []
  else
    first :: frontsLoop (candidates.dominatedSet objectives epsilon) candidates.ids.length
      (candidates.dominationCount objectives epsilon) first

end Candidates

end

def largeCrowdingDistance : Rat := 1000000000

/-- The gaps around the inner ids of a sorted front. -/
def addGaps (value : String → Rat) (range : Rat) : (String → Rat) → List String → String → Rat
  | distances, previous :: candidateId :: next :: rest =>
      addGaps value range
        (Function.update distances candidateId (distances candidateId + (value next - value previous) / range))
        (candidateId :: next :: rest)
  | distances, _ => distances

def sortBy (value : String → Rat) (front : List String) : List String :=
  front.insertionSort fun left right => value left ≤ value right

/-- One objective. -/
def crowdObjective (front : List String) (value : String → Rat) (distances : String → Rat) : String → Rat :=
  match sortBy value front with
  | [] => distances
  | first :: rest =>
      let last := (first :: rest).getLast (List.cons_ne_nil first rest)
      let bounded := Function.update (Function.update distances first largeCrowdingDistance) last largeCrowdingDistance
      if value last = value first then bounded
      else addGaps value (value last - value first) bounded (first :: rest)

def crowdingDistance (front objectives : List String) (value : String → String → Rat) : String → Rat :=
  if front.length ≤ 2 then fun _ => largeCrowdingDistance
  else
    objectives.foldl (fun distances objective =>
      crowdObjective front (fun candidateId => value candidateId objective) distances) fun _ => 0

structure FitnessEvaluation where
  objectives : Dict String Rat := []
  constraints : Dict String Bool := []

structure CandidateEvaluationRecord where
  candidateId : String
  fitness : Option FitnessEvaluation := none
  feasible : Bool := false

/-- The upper bounds of `Field` are left out: nothing depends on them. -/
structure ParetoSelectionPolicy where
  objectives : List String := []
  maxSelected : Nat := 1
  minObjectiveValue : Rat := 1 / 5
  epsilon : Rat := 0
  requireConstraints : Bool := true
  selecting : 1 ≤ maxSelected
  tolerant : 0 ≤ epsilon

structure ParetoCandidate where
  candidateId : String
  rank : Nat
  crowdingDistance : Rat
  objectives : Dict String Rat
  deriving DecidableEq

structure ParetoSelectionResult where
  objectives : List String
  fronts : List (List ParetoCandidate)
  selectedCandidateIds : List String
  deriving DecidableEq

def ParetoSelectionResult.selectedCandidateId (result : ParetoSelectionResult) : Option String :=
  result.selectedCandidateIds.head?

/-- The fitness of an evaluation that passes the filters. -/
def feasibleFitness (policy : ParetoSelectionPolicy) (evaluation : CandidateEvaluationRecord) :
    Option FitnessEvaluation :=
  match evaluation.fitness with
  | none => none
  | some fitness =>
      if evaluation.feasible = false then none
      else if policy.requireConstraints ∧ ¬ fitness.constraints.all fun constraint => constraint.2 then none
      else if fitness.objectives.any fun objective => objective.2 < policy.minObjectiveValue then none
      else some fitness

/-- The ids and fitnesses of the evaluations that pass. -/
def feasibleEvaluations (policy : ParetoSelectionPolicy) (evaluations : List CandidateEvaluationRecord) :
    List (String × FitnessEvaluation) :=
  evaluations.filterMap fun evaluation =>
    (feasibleFitness policy evaluation).map fun fitness => (evaluation.candidateId, fitness)

/-- The objectives of the policy, or else all that are named, sorted. -/
def objectivesOf (policy : ParetoSelectionPolicy) (feasible : List (String × FitnessEvaluation)) : List String :=
  if policy.objectives ≠ [] then policy.objectives
  else ((feasible.flatMap fun evaluation => keys evaluation.2.objectives).dedup).insertionSort (· ≤ ·)

def valuesByCandidate (objectives : List String) (feasible : List (String × FitnessEvaluation)) : Candidates Rat where
  values := assignAll [] (feasible.map fun evaluation =>
    (evaluation.1,
      assignAll [] (objectives.map fun objective => (objective, valueOf evaluation.2.objectives objective))))
  distinct := keys_assignAll_nodup _ List.nodup_nil

/-- The key `(-distance, -values, candidate_id)` of a candidate in its front. -/
def rankKey (distances : String → Rat) (values : String → List Rat) (candidateId : String) :
    Rat ×ₗ List Rat ×ₗ String :=
  toLex (-distances candidateId, toLex ((values candidateId).map (- ·), candidateId))

section

variable (candidates : Candidates Rat) (objectives : List String)

def distancesOf (front : List String) : String → Rat :=
  crowdingDistance front objectives fun candidateId objective => valueOf (candidates.valuesOf candidateId) objective

def objectiveValues (candidateId : String) : List Rat := objectives.map (valueOf (candidates.valuesOf candidateId))

def sortedFront (front : List String) : List String :=
  let key := rankKey (distancesOf candidates objectives front) (objectiveValues candidates objectives)
  front.insertionSort fun left right => key left ≤ key right

def frontModel (rank : Nat) (front : List String) : List ParetoCandidate :=
  (sortedFront candidates objectives front).map fun candidateId =>
    { candidateId, rank, crowdingDistance := distancesOf candidates objectives front candidateId,
      objectives := candidates.valuesOf candidateId }

/-- The loop over the fronts; it ends once enough are selected. -/
def rankLoop (maxSelected : Nat) : Nat → List String → List (List String) → List (List ParetoCandidate) × List String
  | _, selected, [] => ([], selected)
  | rank, selected, front :: rest =>
      let chosen := selected ++ (sortedFront candidates objectives front).take (maxSelected - selected.length)
      if maxSelected ≤ chosen.length then ([frontModel candidates objectives rank front], chosen)
      else
        let (models, final) := rankLoop maxSelected (rank + 1) chosen rest
        (frontModel candidates objectives rank front :: models, final)

end

def selectPareto (evaluations : List CandidateEvaluationRecord) (policy : ParetoSelectionPolicy) :
    ParetoSelectionResult :=
  let feasible := feasibleEvaluations policy evaluations
  if feasible = [] then { objectives := policy.objectives, fronts := [], selectedCandidateIds := [] }
  else
    let objectives := objectivesOf policy feasible
    let candidates := valuesByCandidate objectives feasible
    let (fronts, selected) :=
      rankLoop candidates objectives policy.maxSelected 0 [] (candidates.nonDominatedSort objectives policy.epsilon)
    { objectives, fronts, selectedCandidateIds := selected }

end AutonomousApi.ParetoSelection
