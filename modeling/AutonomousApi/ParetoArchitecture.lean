import AutonomousApi.OrderedMap
import AutonomousApi.PythonText
import Mathlib.Data.Set.Finite.List

/-! The frontier of scored architectures (pareto_architecture.py), over any exact values. Dominance is decided for
scores and recorded for ids: where one id has several scores, an architecture can be dominated by one that is
dominated itself. -/

namespace AutonomousApi.ParetoArchitecture

open OrderedMap PythonText FailFast

structure Objective where
  name : String
  direction : String
  deriving DecidableEq

inductive ParetoError where
  | invalidObjectiveDirection | missingObjectiveValue | requiresArchitectures | requiresObjectives | requiresEvidence
  deriving DecidableEq

def Objective.validate (objective : Objective) : Except ParetoError Unit :=
  require (["maximize", "minimize"].contains objective.direction) .invalidObjectiveDirection

variable {Value : Type} [LinearOrder Value]

structure ArchitectureScore (Value : Type) where
  architectureId : String
  values : Dict String Value
  evidence : List String

structure ParetoResult where
  frontier : List String
  dominated : List String
  deriving DecidableEq

/-- The first value is better for the objective. -/
def Objective.prefers (objective : Objective) (value other : Value) : Bool :=
  if objective.direction = "maximize" then other < value else value < other

/-- The loop of `dominates`. -/
def compare (left right : ArchitectureScore Value) (betterOrEqual strictlyBetter : Bool) :
    List Objective → Except ParetoError Bool
  | [] => .ok (betterOrEqual && strictlyBetter)
  | objective :: rest => do
      objective.validate
      match get left.values objective.name, get right.values objective.name with
      | some a, some b =>
          compare left right (betterOrEqual && !objective.prefers b a) (strictlyBetter || objective.prefers a b) rest
      | _, _ => .error .missingObjectiveValue

def dominates (left right : ArchitectureScore Value) (objectives : List Objective) : Except ParetoError Bool :=
  compare left right true false objectives

def checkScore (objectives : List Objective) (score : ArchitectureScore Value) : Except ParetoError Unit := do
  require (!score.evidence.isEmpty) .requiresEvidence
  checkAll (fun objective => do
    objective.validate
    require (get score.values objective.name).isSome .missingObjectiveValue) objectives

/-- `any` over the scores of the others. -/
def dominatedByAny (objectives : List Objective) (right : ArchitectureScore Value) :
    List (ArchitectureScore Value) → Except ParetoError Bool
  | [] => .ok false
  | left :: rest => do
      let beaten ← if left.architectureId ≠ right.architectureId then dominates left right objectives else .ok false
      if beaten then .ok true else dominatedByAny objectives right rest

def dominatedIds (objectives : List Objective) (scores : List (ArchitectureScore Value)) :
    List (ArchitectureScore Value) → Except ParetoError (List String)
  | [] => .ok []
  | right :: rest => do
      let beaten ← dominatedByAny objectives right scores
      let others ← dominatedIds objectives scores rest
      .ok (if beaten then right.architectureId :: others else others)

def buildFrontier (scores : List (ArchitectureScore Value)) (objectives : List Objective) :
    Except ParetoError ParetoResult := do
  require (!scores.isEmpty) .requiresArchitectures
  require (!objectives.isEmpty) .requiresObjectives
  checkAll (checkScore objectives) scores
  let dominated ← dominatedIds objectives scores scores
  .ok ⟨(scores.map (·.architectureId)).filter (· ∉ dominated), sortedSet dominated⟩

section

variable {objectives : List Objective} {left right middle : ArchitectureScore Value}

/-- The value of a score, for an objective it has one for. -/
def Rated (objectives : List Objective) (score : ArchitectureScore Value) : Prop :=
  ∀ objective ∈ objectives, objective.validate = .ok () ∧ ∃ value, get score.values objective.name = some value

/-- The objective prefers the value of the left score. -/
def Better (objective : Objective) (left right : ArchitectureScore Value) : Prop :=
  ∃ a b, get left.values objective.name = some a ∧ get right.values objective.name = some b ∧
    objective.prefers a b = true

/-- No objective prefers the right score, and one prefers the left. -/
def Dominates (objectives : List Objective) (left right : ArchitectureScore Value) : Prop :=
  (∀ objective ∈ objectives, ¬ Better objective right left) ∧ ∃ objective ∈ objectives, Better objective left right

theorem better_iff {objective : Objective} {a b : Value} (found : get left.values objective.name = some a)
    (other : get right.values objective.name = some b) :
    Better objective left right ↔ objective.prefers a b = true := by
  simp [Better, found, other]

/-- What an objective does not prefer is a linear order, read upwards or downwards. -/
theorem prefers_trans (objective : Objective) {a b c : Value} (first : ¬ objective.prefers b a = true)
    (second : ¬ objective.prefers c b = true) : ¬ objective.prefers c a = true ∧
      (objective.prefers a b = true ∨ objective.prefers b c = true → objective.prefers a c = true) := by
  unfold Objective.prefers at *
  split_ifs at * with upward
  · simp only [not_lt, decide_eq_true_eq] at *
    exact ⟨le_trans second first, fun strict => strict.elim (fun less => lt_of_le_of_lt second less)
      fun less => lt_of_lt_of_le less first⟩
  · simp only [not_lt, decide_eq_true_eq] at *
    exact ⟨le_trans first second, fun strict => strict.elim (fun less => lt_of_lt_of_le less second)
      fun less => lt_of_le_of_lt first less⟩

theorem Dominates.irrefl (score : ArchitectureScore Value) : ¬ Dominates objectives score score := by
  rintro ⟨worse, objective, member, better⟩
  exact worse objective member better

theorem Dominates.trans (ratedLeft : Rated objectives left) (rated : Rated objectives middle)
    (ratedRight : Rated objectives right) (first : Dominates objectives left middle)
    (second : Dominates objectives middle right) : Dominates objectives left right := by
  have along : ∀ objective ∈ objectives, ¬ Better objective right left ∧
      (Better objective left middle ∨ Better objective middle right → Better objective left right) := by
    intro objective member
    obtain ⟨-, a, atLeft⟩ := ratedLeft objective member
    obtain ⟨-, b, between⟩ := rated objective member
    obtain ⟨-, c, atRight⟩ := ratedRight objective member
    have early := first.1 objective member
    have late := second.1 objective member
    rw [better_iff between atLeft] at early
    rw [better_iff atRight between] at late
    rw [better_iff atRight atLeft, better_iff atLeft between, better_iff between atRight, better_iff atLeft atRight]
    exact prefers_trans objective early late
  obtain ⟨objective, member, better⟩ := first.2
  exact ⟨fun objective member => (along objective member).1, objective, member,
    (along objective member).2 (.inl better)⟩

theorem compare_eq (ratedLeft : Rated objectives left) (ratedRight : Rated objectives right)
    (betterOrEqual strictlyBetter : Bool) :
    ∃ outcome, compare left right betterOrEqual strictlyBetter objectives = .ok outcome ∧
      (outcome = true ↔ (betterOrEqual = true ∧ ∀ objective ∈ objectives, ¬ Better objective right left) ∧
        (strictlyBetter = true ∨ ∃ objective ∈ objectives, Better objective left right)) := by
  induction objectives generalizing betterOrEqual strictlyBetter with
  | nil => exact ⟨_, rfl, by simp⟩
  | cons objective rest ih =>
      obtain ⟨valid, a, found⟩ := ratedLeft objective List.mem_cons_self
      obtain ⟨-, b, other⟩ := ratedRight objective List.mem_cons_self
      obtain ⟨outcome, computed, decided⟩ := ih (fun next member => ratedLeft next (List.mem_cons_of_mem _ member))
        (fun next member => ratedRight next (List.mem_cons_of_mem _ member))
        (betterOrEqual && !objective.prefers b a) (strictlyBetter || objective.prefers a b)
      refine ⟨outcome, ?_, ?_⟩
      · rw [compare, valid]
        simp only [found, other]
        exact computed
      · rw [decided, List.forall_mem_cons, better_iff other found]
        simp only [List.mem_cons, exists_eq_or_imp, better_iff found other, Bool.and_eq_true, Bool.or_eq_true,
          Bool.not_eq_true', Bool.not_eq_true, and_assoc, or_assoc]

theorem dominates_eq (ratedLeft : Rated objectives left) (ratedRight : Rated objectives right) :
    ∃ outcome, dominates left right objectives = .ok outcome ∧ (outcome = true ↔ Dominates objectives left right) := by
  obtain ⟨outcome, computed, decided⟩ := compare_eq ratedLeft ratedRight true false
  exact ⟨outcome, computed, by simpa [Dominates] using decided⟩

end

variable {objectives : List Objective} {scores others : List (ArchitectureScore Value)}
  {right : ArchitectureScore Value}
  {result : ParetoResult}

/-- A score of one architecture dominates a score of another, or of the same. -/
def Beats (scores : List (ArchitectureScore Value)) (objectives : List Objective) (id other : String) : Prop :=
  ∃ left ∈ scores, ∃ right ∈ scores, left.architectureId = id ∧ right.architectureId = other ∧
    Dominates objectives left right

def BeatenByOther (scores : List (ArchitectureScore Value)) (objectives : List Objective) (id : String) : Prop :=
  ∃ other, other ≠ id ∧ Beats scores objectives other id

theorem dominatedByAny_eq (rated : ∀ score ∈ others, Rated objectives score) (ratedRight : Rated objectives right) :
    ∃ outcome, dominatedByAny objectives right others = .ok outcome ∧ (outcome = true ↔
      ∃ left ∈ others, left.architectureId ≠ right.architectureId ∧ Dominates objectives left right) := by
  induction others with
  | nil => exact ⟨false, rfl, by simp⟩
  | cons left rest ih =>
      obtain ⟨later, computed, decided⟩ := ih fun score member => rated score (List.mem_cons_of_mem _ member)
      obtain ⟨first, asked, answered⟩ := dominates_eq (rated left List.mem_cons_self) ratedRight
      rw [dominatedByAny]
      simp only [List.mem_cons, exists_eq_or_imp]
      by_cases same : left.architectureId = right.architectureId
      · exact ⟨later, by simpa [same, bind, Except.bind] using computed, by simp [same, decided]⟩
      · cases first with
        | true => exact ⟨true, by simp [same, asked, bind, Except.bind], by simp [same, answered.mp rfl]⟩
        | false =>
            have free : ¬ Dominates objectives left right := fun beats => by simpa using answered.mpr beats
            exact ⟨later, by simpa [same, asked, bind, Except.bind] using computed, by simp [free, decided]⟩

theorem dominatedIds_eq (rated : ∀ score ∈ scores, Rated objectives score) (within : others ⊆ scores) :
    ∃ ids, dominatedIds objectives scores others = .ok ids ∧ ∀ id, id ∈ ids ↔
      ∃ right ∈ others, right.architectureId = id ∧
        ∃ left ∈ scores, left.architectureId ≠ right.architectureId ∧ Dominates objectives left right := by
  induction others with
  | nil => exact ⟨[], rfl, by simp⟩
  | cons right rest ih =>
      obtain ⟨ids, computed, listed⟩ := ih fun score member => within (List.mem_cons_of_mem _ member)
      obtain ⟨beaten, asked, answered⟩ := dominatedByAny_eq rated (rated right (within List.mem_cons_self))
      refine ⟨if beaten then right.architectureId :: ids else ids, ?_, fun id => ?_⟩
      · rw [dominatedIds, asked, computed]
        rfl
      · simp only [List.mem_cons, exists_eq_or_imp, ← answered, ← listed]
        cases beaten
        · simp
        · simp [eq_comm]

omit [LinearOrder Value] in
theorem rated_of_checked (score : ArchitectureScore Value) (checked : checkScore objectives score = .ok ()) :
    Rated objectives score := by
  obtain ⟨_, -, each⟩ := bind_ok checked
  intro objective member
  obtain ⟨_, valid, present⟩ := bind_ok ((checkAll_ok_iff _ _).mp each objective member)
  exact ⟨valid, Option.isSome_iff_exists.mp ((require_ok_iff _ _).mp present)⟩

/-- What the frontier lists and what it lists as dominated, for an input that is accepted. -/
theorem buildFrontier_ok (built : buildFrontier scores objectives = .ok result) :
    scores ≠ [] ∧ (∀ score ∈ scores, Rated objectives score) ∧
      (∀ id, id ∈ result.dominated ↔ BeatenByOther scores objectives id) ∧
      ∀ id, id ∈ result.frontier ↔ id ∈ scores.map (·.architectureId) ∧ ¬ BeatenByOther scores objectives id := by
  obtain ⟨_, some', built⟩ := bind_ok built
  obtain ⟨_, -, built⟩ := bind_ok built
  obtain ⟨_, checked, built⟩ := bind_ok built
  have rated : ∀ score ∈ scores, Rated objectives score := fun score member =>
    rated_of_checked score ((checkAll_ok_iff _ _).mp checked score member)
  obtain ⟨ids, computed, listed⟩ := dominatedIds_eq rated (List.Subset.refl scores)
  rw [computed] at built
  obtain rfl := Except.ok.inj built
  have beaten : ∀ id, id ∈ ids ↔ BeatenByOther scores objectives id := by
    intro id
    rw [listed, BeatenByOther]
    constructor
    · rintro ⟨right, member, rfl, left, inside, apart, dominates⟩
      exact ⟨left.architectureId, apart, left, inside, right, member, rfl, rfl, dominates⟩
    · rintro ⟨other, apart, left, inside, right, member, rfl, rfl, dominates⟩
      exact ⟨right, member, rfl, left, inside, apart, dominates⟩
  refine ⟨?_, rated, fun id => by rw [mem_sortedSet, beaten], fun id => ?_⟩
  · rintro rfl
    simp [require] at some'
  · rw [List.mem_filter, decide_eq_true_eq, beaten]

/-- What a frontier is for. -/
structure Sound (scores : List (ArchitectureScore Value)) (objectives : List Objective) (result : ParetoResult) :
    Prop where
  nonempty : result.frontier ≠ []
  disjoint : ∀ id ∈ result.frontier, id ∉ result.dominated
  together : ∀ id, id ∈ scores.map (·.architectureId) ↔ id ∈ result.frontier ∨ id ∈ result.dominated
  undominated : ∀ score ∈ scores, score.architectureId ∈ result.frontier →
    ∀ other ∈ scores, ¬ Dominates objectives other score
  covered : ∀ id ∈ result.dominated, ∃ score ∈ scores, score.architectureId = id ∧
    ∃ other ∈ scores, other.architectureId ∈ result.frontier ∧ Dominates objectives other score

/-- An architecture with a score that dominates another one of its own is beaten by another architecture, and what
another one beats is beaten by one that no other beats. -/
structure Consistent (scores : List (ArchitectureScore Value)) (objectives : List Objective) : Prop where
  itself : ∀ id, Beats scores objectives id id → BeatenByOther scores objectives id
  topped : ∀ id, BeatenByOther scores objectives id →
    ∃ top, Beats scores objectives top id ∧ ¬ BeatenByOther scores objectives top

theorem beats_listed {id other : String} (beats : Beats scores objectives id other) :
    id ∈ scores.map (·.architectureId) ∧ other ∈ scores.map (·.architectureId) := by
  obtain ⟨left, inside, right, member, rfl, rfl, -⟩ := beats
  exact ⟨List.mem_map_of_mem inside, List.mem_map_of_mem member⟩

/-- Dominance among finitely many rated scores has an undominated score above each dominated one. -/
theorem exists_undominated (rated : ∀ score ∈ scores, Rated objectives score) {score other : ArchitectureScore Value}
    (member : score ∈ scores) (inside : other ∈ scores) (dominated : Dominates objectives other score) :
    ∃ top ∈ scores, Dominates objectives top score ∧ ∀ left ∈ scores, ¬ Dominates objectives left top := by
  have finite : Finite { score // score ∈ scores } := (List.finite_toSet scores).to_subtype
  let above (left right : { score // score ∈ scores }) : Prop := Dominates objectives left.1 right.1
  have transitive : IsTrans _ above :=
    ⟨fun left middle right => Dominates.trans (rated _ left.2) (rated _ middle.2) (rated _ right.2)⟩
  have irreflexive : Std.Irrefl above := ⟨fun score => Dominates.irrefl score.1⟩
  have founded : WellFounded above := Finite.wellFounded_of_trans_of_irrefl above
  obtain ⟨top, dominates, minimal⟩ :=
    founded.has_min { left | Dominates objectives left.1 score } ⟨⟨other, inside⟩, dominated⟩
  refine ⟨top.1, top.2, dominates, fun left listed beats => ?_⟩
  exact minimal ⟨left, listed⟩ (beats.trans (rated left listed) (rated _ top.2) (rated score member) dominates) beats

/-- Where no id repeats, ids and scores correspond. -/
theorem consistent_of_nodup (rated : ∀ score ∈ scores, Rated objectives score)
    (distinct : (scores.map (·.architectureId)).Nodup) : Consistent scores objectives where
  itself := by
    rintro id ⟨left, inside, right, member, rfl, same, dominates⟩
    obtain rfl := List.inj_on_of_nodup_map distinct member inside same
    exact absurd dominates (Dominates.irrefl right)
  topped := by
    rintro id ⟨_, -, left, inside, right, member, -, rfl, dominated⟩
    obtain ⟨top, listed, dominates, free⟩ := exists_undominated rated member inside dominated
    refine ⟨top.architectureId, ⟨top, listed, right, member, rfl, rfl, dominates⟩, ?_⟩
    rintro ⟨_, -, other, known, same, chosen, -, equal, beats⟩
    obtain rfl := List.inj_on_of_nodup_map distinct chosen listed equal
    exact free other known beats

/-- For an accepted input the frontier is sound exactly if ids and scores do not disagree; where no id repeats they
cannot. -/
theorem buildFrontier_sound_iff (scores : List (ArchitectureScore Value)) (objectives : List Objective)
    (result : ParetoResult) (built : buildFrontier scores objectives = .ok result) :
    (Sound scores objectives result ↔ Consistent scores objectives) ∧
      ((scores.map (·.architectureId)).Nodup → Consistent scores objectives) := by
  obtain ⟨inhabited, rated, dominated, frontier⟩ := buildFrontier_ok built
  refine ⟨⟨fun sound => ⟨fun id itself => ?_, fun id beaten => ?_⟩, fun consistent => ?_⟩, consistent_of_nodup rated⟩
  · by_contra unbeaten
    have listed := (frontier id).mpr ⟨(beats_listed itself).1, unbeaten⟩
    obtain ⟨left, inside, right, member, -, rfl, dominates⟩ := itself
    exact sound.undominated right member listed left inside dominates
  · obtain ⟨score, member, same, other, inside, listed, dominates⟩ := sound.covered id ((dominated id).mpr beaten)
    exact ⟨other.architectureId, ⟨other, inside, score, member, rfl, same, dominates⟩,
      ((frontier other.architectureId).mp listed).2⟩
  · constructor
    · -- some id is listed: that of any score, or of one that beats it and that no other beats
      obtain ⟨score, rest, rfl⟩ := List.exists_cons_of_ne_nil inhabited
      intro empty
      have none : ∀ id, id ∉ result.frontier := fun id => by simp [empty]
      have beaten : BeatenByOther (score :: rest) objectives score.architectureId := by
        by_contra unbeaten
        exact none _ ((frontier score.architectureId).mpr ⟨by simp, unbeaten⟩)
      obtain ⟨top, beats, unbeaten⟩ := consistent.topped _ beaten
      exact none top ((frontier top).mpr ⟨(beats_listed beats).1, unbeaten⟩)
    · exact fun id listed beaten => ((frontier id).mp listed).2 ((dominated id).mp beaten)
    · intro id
      rw [frontier, dominated]
      constructor
      · intro member
        by_cases beaten : BeatenByOther scores objectives id
        · exact .inr beaten
        · exact .inl ⟨member, beaten⟩
      · rintro (⟨member, -⟩ | ⟨other, -, beats⟩)
        · exact member
        · exact (beats_listed beats).2
    · intro score member listed other inside dominates
      have unbeaten := ((frontier score.architectureId).mp listed).2
      by_cases same : other.architectureId = score.architectureId
      · exact unbeaten (consistent.itself _ ⟨other, inside, score, member, same, rfl, dominates⟩)
      · exact unbeaten ⟨other.architectureId, same, other, inside, score, member, rfl, rfl, dominates⟩
    · intro id listed
      obtain ⟨top, beats, unbeaten⟩ := consistent.topped id ((dominated id).mp listed)
      have known := (frontier top).mpr ⟨(beats_listed beats).1, unbeaten⟩
      obtain ⟨other, inside, score, member, rfl, same, dominates⟩ := beats
      exact ⟨score, member, same, other, inside, known, dominates⟩

def speed : Objective := ⟨"speed", "maximize"⟩

def scored (id : String) (value : Int) : ArchitectureScore Int := ⟨id, [("speed", value)], ["run"]⟩

/-- Two architectures with one score each. -/
theorem buildFrontier_sound_iff_distinct :
    Consistent [scored "a" 3, scored "b" 2] [speed] :=
  (buildFrontier_sound_iff [scored "a" 3, scored "b" 2] [speed] ⟨["a"], ["b"]⟩ (by decide)).2 (by decide)

/-- The one score of `b` lies between the two of `a`: both are dominated, and the frontier is empty. -/
theorem frontier_empty : buildFrontier [scored "a" 3, scored "a" 1, scored "b" 2] [speed] = .ok ⟨[], ["a", "b"]⟩ ∧
    ¬ Sound [scored "a" 3, scored "a" 1, scored "b" 2] [speed] ⟨[], ["a", "b"]⟩ :=
  ⟨by decide, fun sound => sound.nonempty rfl⟩

end AutonomousApi.ParetoArchitecture
