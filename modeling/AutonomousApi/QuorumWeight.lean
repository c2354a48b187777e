import AutonomousApi.GovernanceLaws
import Mathlib.Algebra.Order.BigOperators.Group.Finset
import Mathlib.Tactic.Linarith

/-! G-5 and G-7 of one approval. G-5 looks at which deciders a list names and G-7 adds up a weight
for every naming, so a decider named twice counts twice. The weights are added exactly here. -/

namespace AutonomousApi.QuorumWeight

open FailFast Governance

variable {Name : Type} [DecidableEq Name] {weight : Name → Rat} {names : List Name}

/-- Every name counts once. -/
def onceWeight (weight : Name → Rat) (names : List Name) : Rat := ∑ name ∈ names.toFinset, weight name

/-- What the namings behind the first one of each name add. -/
def repeatedWeight (weight : Name → Rat) (names : List Name) : Rat :=
  ∑ name ∈ names.toFinset, (names.count name - 1) • weight name

theorem sum_split : (names.map weight).sum = onceWeight weight names + repeatedWeight weight names := by
  rw [Finset.sum_list_map_count, onceWeight, repeatedWeight, ← Finset.sum_add_distrib]
  apply Finset.sum_congr rfl
  intro name member
  have named : 0 < names.count name := List.count_pos_iff.mpr (List.mem_toFinset.mp member)
  have counted : names.count name = 1 + (names.count name - 1) := by omega
  calc names.count name • weight name = (1 + (names.count name - 1)) • weight name := by rw [← counted]
    _ = weight name + (names.count name - 1) • weight name := by rw [add_nsmul, one_nsmul]

/-- Weights whose sums and comparisons are exact. -/
def exactly (threshold executiveWeight : Rat) : Quorum Rat :=
  ⟨threshold, executiveWeight, 0, List.sum, fun total quorum => decide (total < quorum)⟩

variable {council : List (CouncilMember Rat)} {gates : List Gate} {state : CandidateState}
  {command : RequestGovernanceDecision} {now : String} {executiveWeight threshold : Rat} {decision : Decision}

/-- The weight that G-7 looks up for a decider, which no threshold changes. -/
def weightOf (executiveWeight : Rat) (council : List (CouncilMember Rat)) (decider : String) : Rat :=
  votes (exactly 0 executiveWeight) council decider

/-- The deciders sit on the council or are the executive, and together they weigh enough. -/
structure Carried (executiveWeight threshold : Rat) (council : List (CouncilMember Rat)) (decidedBy : List String) :
    Prop where
  authorized : ∀ decider ∈ decidedBy, decider = executiveId ∨ ∃ member ∈ council, member.memberId = decider
  enough : threshold ≤ onceWeight (weightOf executiveWeight council) decidedBy

/-- Whatever approval is accepted is carried by its deciders. -/
def Honoured (executiveWeight threshold : Rat) (council : List (CouncilMember Rat)) (gates : List Gate)
    (state : CandidateState) (command : RequestGovernanceDecision) (now : String) : Prop :=
  ∀ decision, requestDecision (exactly threshold executiveWeight) council gates state command now = .ok decision →
    decision.verdict = .approve → Carried executiveWeight threshold council command.decidedBy

/-- An approval that every check but the one of the quorum lets pass. -/
def Unobjected (council : List (CouncilMember Rat)) (gates : List Gate) (state : CandidateState)
    (command : RequestGovernanceDecision) (now : String) : Prop :=
  ∃ decision, buildDecision state command now = some decision ∧ decision.verdict = .approve ∧
    (checkTransition state decision : Except (Violation Rat) Unit) = .ok () ∧
    checkG5 decision.decidedBy council = .ok () ∧
    (checkG2 decision state.gateOutcomes gates : Except (Violation Rat) Unit) = .ok ()

theorem checkG5_ok_iff {decidedBy : List String} : checkG5 decidedBy council = .ok () ↔
    ∀ decider ∈ decidedBy, decider = executiveId ∨ ∃ member ∈ council, member.memberId = decider := by
  simp only [checkG5]
  split
  case isTrue none => simpa [List.filter_eq_nil_iff, List.any_eq_true, or_iff_not_imp_left] using none
  case isFalse some =>
      constructor
      · nofun
      · intro authorized
        refine absurd ?_ some
        simpa [List.filter_eq_nil_iff, List.any_eq_true, or_iff_not_imp_left] using authorized

theorem checkG7_ok_iff {decidedBy : List String} :
    checkG7 (exactly threshold executiveWeight) decidedBy council = .ok () ↔
      threshold ≤ onceWeight (weightOf executiveWeight council) decidedBy +
        repeatedWeight (weightOf executiveWeight council) decidedBy := by
  have total : (exactly threshold executiveWeight).sum
      (decidedBy.map (votes (exactly threshold executiveWeight) council)) =
      onceWeight (weightOf executiveWeight council) decidedBy +
        repeatedWeight (weightOf executiveWeight council) decidedBy := sum_split
  simp only [checkG7, total]
  simp [exactly]

theorem buildDecision_decidedBy (built : buildDecision state command now = some decision) :
    decision.decidedBy = command.decidedBy := by
  rw [buildDecision] at built
  split at built
  · cases built
  · cases built
  · cases built
    rfl

/-- An approval is accepted exactly where nothing objects and the namings weigh enough. -/
theorem accepted_iff :
    (∃ decision, requestDecision (exactly threshold executiveWeight) council gates state command now = .ok decision ∧
      decision.verdict = .approve) ↔
    Unobjected council gates state command now ∧
      threshold ≤ onceWeight (weightOf executiveWeight council) command.decidedBy +
        repeatedWeight (weightOf executiveWeight council) command.decidedBy := by
  constructor
  · rintro ⟨decision, accepted, approves⟩
    rw [requestDecision] at accepted
    split at accepted
    · cases accepted
    · next built found =>
        cases checked : checkDecision (exactly threshold executiveWeight) council gates state built with
        | error violation =>
            rw [checked] at accepted
            cases accepted
        | ok _ =>
            rw [checked] at accepted
            cases accepted
            obtain ⟨_, transition, rest⟩ := bind_ok checked
            obtain ⟨_, authorized, approval⟩ := bind_ok rest
            rw [checkApproval, if_pos approves] at approval
            obtain ⟨_, satisfied, quorum⟩ := bind_ok approval
            rw [buildDecision_decidedBy found] at quorum
            exact ⟨⟨built, found, approves, transition, authorized, satisfied⟩, checkG7_ok_iff.mp quorum⟩
  · rintro ⟨⟨decision, found, approves, transition, authorized, satisfied⟩, enough⟩
    have quorum := (@checkG7_ok_iff council executiveWeight threshold command.decidedBy).mpr enough
    rw [← buildDecision_decidedBy found] at quorum
    refine ⟨decision, ?_, approves⟩
    have approval : checkApproval (exactly threshold executiveWeight) council gates state decision = .ok () := by
      rw [checkApproval, if_pos approves, satisfied]
      exact quorum
    have checked : checkDecision (exactly threshold executiveWeight) council gates state decision = .ok () := by
      rw [checkDecision, transition, authorized]
      exact approval
    rw [requestDecision, found]
    simp only [checked]
    rfl

theorem honoured_iff : Honoured executiveWeight threshold council gates state command now ↔
    ¬ (Unobjected council gates state command now ∧
      onceWeight (weightOf executiveWeight council) command.decidedBy < threshold ∧
      threshold ≤ onceWeight (weightOf executiveWeight council) command.decidedBy +
        repeatedWeight (weightOf executiveWeight council) command.decidedBy) := by
  constructor
  · rintro honoured ⟨unobjected, short, reached⟩
    obtain ⟨decision, accepted, approves⟩ := accepted_iff.mpr ⟨unobjected, reached⟩
    exact absurd (honoured decision accepted approves).enough (not_le.mpr short)
  · intro outside decision accepted approves
    obtain ⟨unobjected, reached⟩ := accepted_iff.mp ⟨decision, accepted, approves⟩
    have authorized := unobjected
    obtain ⟨built, found, -, -, passed, -⟩ := authorized
    rw [buildDecision_decidedBy found] at passed
    refine ⟨checkG5_ok_iff.mp passed, ?_⟩
    apply not_lt.mp
    intro short
    exact outside ⟨unobjected, short, reached⟩

/-- An accepted approval is carried at every threshold exactly where the repetitions in the list of
deciders add no weight; at one threshold it fails exactly between the two sums. -/
theorem quorum_carried_iff (executiveWeight : Rat) (council : List (CouncilMember Rat)) (gates : List Gate)
    (state : CandidateState) (command : RequestGovernanceDecision) (now : String) :
    ((∀ threshold, Honoured executiveWeight threshold council gates state command now) ↔
      (Unobjected council gates state command now →
        repeatedWeight (weightOf executiveWeight council) command.decidedBy ≤ 0)) ∧
    ∀ threshold, Honoured executiveWeight threshold council gates state command now ↔
      ¬ (Unobjected council gates state command now ∧
        onceWeight (weightOf executiveWeight council) command.decidedBy < threshold ∧
        threshold ≤ onceWeight (weightOf executiveWeight council) command.decidedBy +
          repeatedWeight (weightOf executiveWeight council) command.decidedBy) := by
  refine ⟨?_, fun threshold => honoured_iff⟩
  constructor
  · intro honoured unobjected
    apply not_lt.mp
    intro heavier
    refine honoured_iff.mp (honoured _) ⟨unobjected, ?_, le_refl _⟩
    exact lt_add_of_pos_right _ heavier
  · intro weightless threshold
    apply honoured_iff.mpr
    rintro ⟨unobjected, short, reached⟩
    have repetitions := weightless unobjected
    linarith

def twice : RequestGovernanceDecision :=
  { candidateId := "c", generation := 0, fromState := .proposed, toState := .evaluating, decidedBy := ["m", "m"] }

def twiceDecision : Decision :=
  { decisionId := "dec-c-1", candidateId := "c", generation := 0, verdict := .approve, fromState := .proposed,
    toState := .evaluating, authorizesTransition := true, decidedBy := ["m", "m"], rationale := "",
    supersedesDecisionId := none, decidedAt := "t" }

/-- Half a quorum, named twice, approves. -/
theorem half_approves :
    requestDecision (exactly 1 0) [⟨"m", 1 / 2⟩] [] {} twice "t" = .ok twiceDecision ∧
      ¬ Honoured 0 1 [⟨"m", 1 / 2⟩] [] {} twice "t" := by
  have accepted : requestDecision (exactly 1 0) [⟨"m", 1 / 2⟩] [] {} twice "t" = .ok twiceDecision := by
    decide +kernel
  refine ⟨accepted, fun honoured => ?_⟩
  have short : onceWeight (weightOf 0 [⟨"m", 1 / 2⟩]) ["m", "m"] < 1 := by decide +kernel
  exact absurd (honoured twiceDecision accepted rfl).enough (not_le.mpr short)

end AutonomousApi.QuorumWeight
