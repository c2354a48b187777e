import AutonomousApi.OrderedMap
import Mathlib.Algebra.Order.BigOperators.Group.List
import Mathlib.Data.List.Sort
import Mathlib.Data.String.Basic
import Mathlib.Tactic.Linarith

/-! Votes over an approval workflow (governance/voting.py), over exact weights and instants. The ballots are sorted
by stage and ballot id, then each is looked up, checked against the voters counted so far, and only then passed over
if it is late; a tally reads the weights of the voters but not the approvers of the stage. -/

namespace AutonomousApi.Voting

open OrderedMap

inductive VotingRuleKind where
  | unanimity | simpleMajority | weightedMajority
  deriving DecidableEq

def VotingRuleKind.value : VotingRuleKind → String
  | .unanimity => "unanimity"
  | .simpleMajority => "simple_majority"
  | .weightedMajority => "weighted_majority"

structure ApprovalStageISR where
  stageId : String
  approvers : List String
  rule : VotingRuleKind
  weights : Dict String Rat

structure ApprovalWorkflowISR where
  workflowId : String
  stages : List ApprovalStageISR
  quorum : Nat
  deadline : Option Int
  quorumPositive : 1 ≤ quorum

structure Ballot where
  ballotId : String
  stageId : String
  voter : String
  approve : Bool
  castAt : Int
  deriving DecidableEq

structure StageResult where
  stageId : String
  approved : Bool
  votesFor : Rat
  votesAgainst : Rat
  participating : Nat
  quorumMet : Bool
  reason : String
  deriving DecidableEq

structure VoteOutcome where
  workflowRef : String
  approved : Bool
  decidedAt : Int
  reason : String
  stageResults : List StageResult
  deriving DecidableEq

inductive VotingError where
  | unknownStage (stageId : String)
  | duplicateVoter (voter stageId : String)
  deriving DecidableEq

section

variable (stage : ApprovalStageISR) (ballots : List Ballot) (quorum : Nat)

def shortfall : StageResult := ⟨stage.stageId, false, 0, 0, ballots.length, false, "quorum_not_met"⟩

def inFavour : List Ballot := ballots.filter (·.approve)

def against : List Ballot := ballots.filter fun ballot => !ballot.approve

def unanimityTally : StageResult :=
  if ballots.length < quorum then shortfall stage ballots else
    let votesFor : Rat := (inFavour ballots).length
    let votesAgainst : Rat := ballots.length - votesFor
    if 0 < votesAgainst then
      ⟨stage.stageId, false, votesFor, votesAgainst, ballots.length, true, "unanimity_broken"⟩
    else ⟨stage.stageId, true, votesFor, 0, ballots.length, true, "unanimous"⟩

def simpleMajorityTally : StageResult :=
  if ballots.length < quorum then shortfall stage ballots else
    let votesFor : Rat := (inFavour ballots).length
    let votesAgainst : Rat := ballots.length - votesFor
    let approved := decide (votesAgainst < votesFor)
    ⟨stage.stageId, approved, votesFor, votesAgainst, ballots.length, true,
      if approved then "simple_majority" else "tie_or_minority"⟩

def weightOf (votes : List Ballot) : Rat := (votes.map fun ballot => (get stage.weights ballot.voter).getD 1).sum

def weightedMajorityTally : StageResult :=
  if ballots.length < quorum then shortfall stage ballots else
    let votesFor := weightOf stage (inFavour ballots)
    let votesAgainst := weightOf stage (against ballots)
    let total := votesFor + votesAgainst
    let approved := decide (0 < total ∧ total / 2 < votesFor)
    ⟨stage.stageId, approved, votesFor, votesAgainst, ballots.length, true,
      if approved then "weighted_majority" else "weighted_tie_or_minority"⟩

end

def defaultStrategies : VotingRuleKind → Option (ApprovalStageISR → List Ballot → Nat → StageResult)
  | .unanimity => some unanimityTally
  | .simpleMajority => some simpleMajorityTally
  | .weightedMajority => some weightedMajorityTally

section

variable (workflow : ApprovalWorkflowISR)

def late (ballot : Ballot) : Bool :=
  match workflow.deadline with
  | some deadline => deadline < ballot.castAt
  | none => false

/-- The order of `sorted`, by stage and then by ballot id. -/
def Before (ballot other : Ballot) : Prop :=
  ballot.stageId < other.stageId ∨ ballot.stageId = other.stageId ∧ ballot.ballotId ≤ other.ballotId

instance beforeDecidable : DecidableRel Before := fun _ _ => inferInstanceAs (Decidable (_ ∨ _))

def voterKey (ballot : Ballot) : String × String := (ballot.stageId, ballot.voter)

def knownStages : List String := workflow.stages.map (·.stageId)

/-- The loop over the sorted ballots. -/
def groupBallots (seen : List (String × String)) (valid : Dict String (List Ballot)) :
    List Ballot → Except VotingError (Dict String (List Ballot))
  | [] => .ok valid
  | ballot :: rest =>
      if ballot.stageId ∉ knownStages workflow then .error (.unknownStage ballot.stageId)
      else if voterKey ballot ∈ seen then .error (.duplicateVoter ballot.voter ballot.stageId)
      else if late workflow ballot then groupBallots seen valid rest
      else groupBallots (voterKey ballot :: seen) (push valid ballot.stageId ballot) rest

def groupValidBallots (ballots : List Ballot) : Except VotingError (Dict String (List Ballot)) :=
  groupBallots workflow [] [] (ballots.insertionSort Before)

/-- The loop over the stages, in declared order. -/
def tallyStages (strategies : VotingRuleKind → Option (ApprovalStageISR → List Ballot → Nat → StageResult))
    (valid : Dict String (List Ballot)) (now : Int) (results : List StageResult) : List ApprovalStageISR → VoteOutcome
  | [] => ⟨workflow.workflowId, true, now, "all_stages_approved", results⟩
  | stage :: rest =>
      match strategies stage.rule with
      | none => ⟨workflow.workflowId, false, now, "no_strategy_for_rule:" ++ stage.rule.value, results⟩
      | some strategy =>
          let result := strategy stage (group valid stage.stageId) workflow.quorum
          if result.approved then tallyStages strategies valid now (results ++ [result]) rest
          else ⟨workflow.workflowId, false, now, "stage_rejected:" ++ stage.stageId ++ ":" ++ result.reason,
            results ++ [result]⟩

def expired (now : Int) : Bool :=
  match workflow.deadline with
  | some deadline => deadline < now
  | none => false

def conductVote (strategies : VotingRuleKind → Option (ApprovalStageISR → List Ballot → Nat → StageResult))
    (ballots : List Ballot) (now : Int) : Except VotingError VoteOutcome := do
  if expired workflow now then return ⟨workflow.workflowId, false, now, "deadline_expired", []⟩
  if workflow.stages.isEmpty then return ⟨workflow.workflowId, false, now, "workflow_has_no_stages", []⟩
  let valid ← groupValidBallots workflow ballots
  return tallyStages workflow strategies valid now [] workflow.stages

/-- The verdict of a vote, none where it raises. -/
def verdict (ballots : List Ballot) (now : Int) : Option Bool :=
  match conductVote workflow defaultStrategies ballots now with
  | .ok outcome => some outcome.approved
  | .error _ => none

variable (ballots : List Ballot)

/-- The rule of a stage, for the votes it counts. -/
def Carries (stage : ApprovalStageISR) (votes : List Ballot) : Prop :=
  match stage.rule with
  | .unanimity => against votes = []
  | .simpleMajority => (against votes).length < (inFavour votes).length
  | .weightedMajority => weightOf stage (against votes) < weightOf stage (inFavour votes)

/-- The timely ballots of a stage. -/
def timely (stage : ApprovalStageISR) : List Ballot :=
  ballots.filter fun ballot => ballot.stageId = stage.stageId ∧ ¬ late workflow ballot

/-- Those of them that were cast by its declared approvers. -/
def entitled (stage : ApprovalStageISR) : List Ballot :=
  (timely workflow ballots stage).filter fun ballot => stage.approvers.contains ballot.voter

def Passes (votes : ApprovalStageISR → List Ballot) : Prop :=
  ∀ stage ∈ workflow.stages, workflow.quorum ≤ (votes stage).length ∧ Carries stage (votes stage)

/-- The ballots without the late ones for known stages. -/
def withoutLate : List Ballot :=
  ballots.filter fun ballot => ¬ (ballot.stageId ∈ knownStages workflow ∧ late workflow ballot)

/-- What is promised of a vote held in time. -/
structure Orderly (now : Int) : Prop where
  reordered : ∀ others : List Ballot, others.Perm ballots → verdict workflow others now = verdict workflow ballots now
  lateIgnored : verdict workflow (withoutLate workflow ballots) now = verdict workflow ballots now
  byApprovers : ∀ approved, verdict workflow ballots now = some approved →
    (approved = true ↔ workflow.stages ≠ [] ∧ Passes workflow (entitled workflow ballots))

end

section

variable {workflow : ApprovalWorkflowISR} {ballots : List Ballot}

/-- An earlier ballot that counts and a later one of the same voter for the same stage. -/
def Clash (workflow : ApprovalWorkflowISR) (earlier later : Ballot) : Prop :=
  late workflow earlier = false ∧ voterKey earlier = voterKey later

/-- The loop goes through exactly where every stage is known and no counted voter comes again; then it files the ballots
that are not late under their stages. -/
theorem groupBallots_spec (workflow : ApprovalWorkflowISR) (ballots : List Ballot) (seen : List (String × String))
    (valid : Dict String (List Ballot)) :
    (∀ filed, groupBallots workflow seen valid ballots = .ok filed →
      ∀ stageId, group filed stageId = group valid stageId ++
        ballots.filter fun ballot => ballot.stageId = stageId ∧ ¬ late workflow ballot) ∧
    ((∃ filed, groupBallots workflow seen valid ballots = .ok filed) ↔
      (∀ ballot ∈ ballots, ballot.stageId ∈ knownStages workflow ∧ voterKey ballot ∉ seen) ∧
        ballots.Pairwise fun earlier later => ¬ Clash workflow earlier later) := by
  induction ballots generalizing seen valid with
  | nil =>
      refine ⟨fun filed same => ?_, by simp [groupBallots]⟩
      rw [← Except.ok.inj same]
      simp
  | cons ballot rest ih =>
      rw [groupBallots, List.forall_mem_cons, List.pairwise_cons]
      by_cases known : ballot.stageId ∈ knownStages workflow
      · by_cases again : voterKey ballot ∈ seen
        · rw [if_neg (not_not.mpr known), if_pos again]
          exact ⟨fun _ same => absurd same (by simp), by simp [again]⟩
        · rw [if_neg (not_not.mpr known), if_neg again]
          by_cases passed : late workflow ballot = true
          · rw [if_pos passed]
            obtain ⟨files, goes⟩ := ih seen valid
            refine ⟨fun filed same stageId => ?_, ?_⟩
            · rw [files filed same, List.filter_cons_of_neg (by simp [passed])]
            · -- a late ballot is not counted, so it clashes with no later one
              rw [goes]
              simp [Clash, passed, known, again]
          · rw [if_neg passed]
            rw [Bool.not_eq_true] at passed
            obtain ⟨files, goes⟩ := ih (voterKey ballot :: seen) (push valid ballot.stageId ballot)
            refine ⟨fun filed same stageId => ?_, ?_⟩
            · rw [files filed same, group_push]
              by_cases hit : ballot.stageId = stageId
              · rw [if_pos hit, List.filter_cons_of_pos (by simp [hit, passed]), List.append_assoc]
                rfl
              · rw [if_neg hit, List.filter_cons_of_neg (by simp [hit])]
            · rw [goes]
              simp only [List.mem_cons, not_or, Clash, passed, true_and]
              constructor
              · rintro ⟨each, apart⟩
                exact ⟨⟨⟨known, again⟩, fun later member => ⟨(each later member).1, (each later member).2.2⟩⟩,
                  fun later member same => (each later member).2.1 same.symm, apart⟩
              · rintro ⟨⟨-, each⟩, fresh, apart⟩
                exact ⟨fun later member => ⟨(each later member).1, fun same => fresh later member same.symm,
                  (each later member).2⟩, apart⟩
      · rw [if_pos known]
        exact ⟨fun _ same => absurd same (by simp), by simp [known]⟩

end

section

variable {workflow : ApprovalWorkflowISR} {ballots others : List Ballot} {stage : ApprovalStageISR} {now : Int}

theorem length_split (votes : List Ballot) : votes.length = (inFavour votes).length + (against votes).length := by
  rw [inFavour, against, ← List.countP_eq_length_filter, ← List.countP_eq_length_filter]
  simpa using List.length_eq_countP_add_countP (fun ballot : Ballot => ballot.approve) (l := votes)

theorem weightOf_nonneg (unsigned : ∀ entry ∈ stage.weights, 0 ≤ entry.2) (votes : List Ballot) :
    0 ≤ weightOf stage votes := by
  apply List.sum_nonneg
  intro weight member
  obtain ⟨ballot, -, rfl⟩ := List.mem_map.mp member
  cases found : get stage.weights ballot.voter with
  | none => norm_num
  | some held => exact unsigned _ (mem_of_get found)

/-- Each strategy approves exactly at its quorum and by its rule. -/
theorem strategy_approved (unsigned : ∀ entry ∈ stage.weights, 0 ≤ entry.2) (votes : List Ballot) (quorum : Nat) :
    ∃ strategy, defaultStrategies stage.rule = some strategy ∧
      ((strategy stage votes quorum).approved = true ↔ quorum ≤ votes.length ∧ Carries stage votes) := by
  have counted := length_split votes
  cases rule : stage.rule with
  | unanimity =>
      refine ⟨unanimityTally, rfl, ?_⟩
      rw [unanimityTally, Carries, rule]
      by_cases short : votes.length < quorum
      · simp [shortfall, short]
      rw [if_neg short]
      dsimp only
      split_ifs with objected
      · rw [counted] at objected
        push_cast at objected
        have some' : 0 < (against votes).length := by exact_mod_cast (by linarith : (0 : Rat) < (against votes).length)
        simp [List.ne_nil_of_length_pos some']
      · rw [counted] at objected
        push_cast at objected
        have none : (against votes).length = 0 := by
          by_contra some'
          have positive : (0 : Rat) < (against votes).length := by exact_mod_cast Nat.pos_of_ne_zero some'
          exact objected (by linarith)
        simp [List.length_eq_zero_iff.mp none, not_lt.mp short]
  | simpleMajority =>
      refine ⟨simpleMajorityTally, rfl, ?_⟩
      rw [simpleMajorityTally, Carries, rule]
      split_ifs with short
      · simp [shortfall, short]
      · simp only [decide_eq_true_eq, not_lt.mp short, true_and]
        rw [counted]
        push_cast
        rw [add_sub_cancel_left]
        exact Nat.cast_lt
  | weightedMajority =>
      refine ⟨weightedMajorityTally, rfl, ?_⟩
      rw [weightedMajorityTally, Carries, rule]
      split_ifs with short
      · simp [shortfall, short]
      · simp only [decide_eq_true_eq, not_lt.mp short, true_and]
        have nonneg := weightOf_nonneg unsigned (against votes)
        constructor
        · rintro ⟨-, half⟩
          linarith
        · intro more
          exact ⟨by linarith, by linarith⟩

theorem tallyStages_approved {valid : Dict String (List Ballot)} {results : List StageResult}
    {stages : List ApprovalStageISR} (unsigned : ∀ stage ∈ stages, ∀ entry ∈ stage.weights, 0 ≤ entry.2) :
    (tallyStages workflow defaultStrategies valid now results stages).approved = true ↔
      ∀ stage ∈ stages, workflow.quorum ≤ (group valid stage.stageId).length ∧
        Carries stage (group valid stage.stageId) := by
  induction stages generalizing results with
  | nil => simp [tallyStages]
  | cons stage rest ih =>
      obtain ⟨strategy, chosen, approves⟩ := strategy_approved (unsigned stage List.mem_cons_self)
        (group valid stage.stageId) workflow.quorum
      rw [tallyStages, chosen, List.forall_mem_cons, ← approves]
      by_cases approved : (strategy stage (group valid stage.stageId) workflow.quorum).approved = true
      · simp only [approved, ↓reduceIte, true_and]
        exact ih fun stage member => unsigned stage (List.mem_cons_of_mem _ member)
      · simp [approved]

theorem carries_perm (same : ballots.Perm others) : Carries stage ballots ↔ Carries stage others := by
  have favour : (inFavour ballots).Perm (inFavour others) := same.filter _
  have opposed : (against ballots).Perm (against others) := same.filter _
  unfold Carries
  cases stage.rule with
  | unanimity => exact ⟨fun none => List.Perm.nil_eq (none ▸ opposed) ▸ rfl, fun none => (none ▸ opposed).eq_nil⟩
  | simpleMajority => rw [favour.length_eq, opposed.length_eq]
  | weightedMajority => simp only [weightOf, (favour.map _).sum_eq, (opposed.map _).sum_eq]

theorem passes_perm (same : ballots.Perm others) :
    Passes workflow (timely workflow ballots) ↔ Passes workflow (timely workflow others) := by
  refine forall₂_congr fun stage _ => ?_
  have kept : (timely workflow ballots stage).Perm (timely workflow others stage) := same.filter _
  rw [kept.length_eq, carries_perm kept]

/-- Where the sorted ballots are gone through. -/
def Admitted (workflow : ApprovalWorkflowISR) (ballots : List Ballot) : Prop :=
  (∀ ballot ∈ ballots, ballot.stageId ∈ knownStages workflow) ∧
    (ballots.insertionSort Before).Pairwise fun earlier later => ¬ Clash workflow earlier later

/-- A vote in time over some stages raises exactly where the ballots are not admitted; else all timely ballots are
tallied. -/
theorem verdict_cases (inTime : expired workflow now = false) (staged : workflow.stages ≠ [])
    (unsigned : ∀ stage ∈ workflow.stages, ∀ entry ∈ stage.weights, 0 ≤ entry.2) (ballots : List Ballot) :
    ((verdict workflow ballots now).isSome = true ↔ Admitted workflow ballots) ∧
      ∀ approved, verdict workflow ballots now = some approved →
        (approved = true ↔ Passes workflow (timely workflow ballots)) := by
  have sorted := List.perm_insertionSort Before ballots
  obtain ⟨files, goes⟩ := groupBallots_spec workflow (ballots.insertionSort Before) [] []
  have admitted : (∃ filed, groupValidBallots workflow ballots = .ok filed) ↔ Admitted workflow ballots := by
    rw [groupValidBallots, goes, Admitted]
    simp only [List.not_mem_nil, not_false_eq_true, and_true, List.mem_insertionSort]
  rw [← admitted]
  unfold verdict conductVote
  cases grouped : groupValidBallots workflow ballots with
  | error fault => simp [inTime, staged, bind, Except.bind]
  | ok filed =>
      simp only [inTime, List.isEmpty_iff, staged, bind, Except.bind, pure, Except.pure, Bool.false_eq_true,
        ↓reduceIte, Option.isSome_some, Except.ok.injEq, exists_eq', Option.some.injEq, true_and]
      rintro approved rfl
      rw [tallyStages_approved unsigned]
      refine forall₂_congr fun stage _ => ?_
      have kept : (group filed stage.stageId).Perm (timely workflow ballots stage) := by
        rw [files filed grouped, group_nil, List.nil_append]
        exact sorted.filter _
      rw [kept.length_eq, carries_perm kept]

instance beforeTotal : Std.Total Before where
  total ballot other := by
    unfold Before
    rcases lt_trichotomy ballot.stageId other.stageId with less | same | more
    · exact .inl (.inl less)
    · exact (le_total ballot.ballotId other.ballotId).imp (fun le => .inr ⟨same, le⟩) fun le => .inr ⟨same.symm, le⟩
    · exact .inr (.inl more)

instance beforeTrans : IsTrans Ballot Before where
  trans first second third := by
    rintro (less | ⟨same, le⟩) (less' | ⟨same', le'⟩)
    · exact .inl (lt_trans less less')
    · exact .inl (same' ▸ less)
    · exact .inl (same ▸ less')
    · exact .inr ⟨same.trans same', le_trans le le'⟩

/-- No voter has two timely ballots for a stage. -/
def Once (workflow : ApprovalWorkflowISR) (ballots : List Ballot) : Prop :=
  ballots.Pairwise fun ballot other =>
    ¬ (late workflow ballot = false ∧ late workflow other = false ∧ voterKey ballot = voterKey other)

/-- A late ballot has a smaller id than a timely one of its voter for the stage. -/
def LateFirst (workflow : ApprovalWorkflowISR) (ballots : List Ballot) : Prop :=
  ∀ counted ∈ ballots, ∀ passed ∈ ballots, late workflow counted = false → late workflow passed = true →
    voterKey passed = voterKey counted → passed.ballotId < counted.ballotId

theorem once_perm (same : ballots.Perm others) : Once workflow ballots ↔ Once workflow others :=
  same.pairwise_iff fun apart ⟨timelyOne, timelyOther, key⟩ => apart ⟨timelyOther, timelyOne, key.symm⟩

theorem Admitted.once (admitted : Admitted workflow ballots) : Once workflow ballots := by
  rw [← once_perm (List.perm_insertionSort Before ballots)]
  exact admitted.2.imp fun apart ⟨timelyOne, _, key⟩ => apart ⟨timelyOne, key⟩

theorem admitted_of (known : ∀ ballot ∈ ballots, ballot.stageId ∈ knownStages workflow) (once : Once workflow ballots)
    (lateFirst : LateFirst workflow ballots) : Admitted workflow ballots := by
  refine ⟨known, ?_⟩
  have apart := (once_perm (List.perm_insertionSort Before ballots)).mpr once
  have sorted := List.pairwise_insertionSort Before ballots
  refine (apart.and sorted).imp_of_mem ?_
  rintro earlier later inside member ⟨single, before⟩ ⟨counted, key⟩
  rw [List.mem_insertionSort] at inside member
  cases passed : late workflow later with
  | false => exact single ⟨counted, passed, key⟩
  | true =>
      have smaller := lateFirst earlier inside later member counted passed key.symm
      rcases before with less | ⟨-, le⟩
      · exact absurd (congrArg Prod.fst key) (ne_of_lt less)
      · exact absurd smaller (not_lt.mpr le)

theorem orderedInsert_before {ballot passed : Ballot} (before : Before ballot passed) (member : passed ∈ others) :
    ∃ earlier later, others.orderedInsert Before ballot = earlier ++ ballot :: later ∧ passed ∈ later := by
  induction others with
  | nil => cases member
  | cons first rest ih =>
      rw [List.orderedInsert_cons]
      by_cases here : Before ballot first
      · rw [if_pos here]
        exact ⟨[], first :: rest, rfl, member⟩
      · rw [if_neg here]
        have further : passed ∈ rest := by
          rcases List.mem_cons.mp member with rfl | inside
          · exact absurd before here
          · exact inside
        obtain ⟨earlier, later, split, inside⟩ := ih further
        exact ⟨first :: earlier, later, by rw [split]; rfl, inside⟩

/-- A timely ballot with an id not above that of a late one of its voter can be given first; then the vote raises. -/
theorem exists_refused_order (clashes : ¬ LateFirst workflow ballots) :
    ∃ others : List Ballot, others.Perm ballots ∧ ¬ Admitted workflow others := by
  simp only [LateFirst, not_forall, not_lt] at clashes
  obtain ⟨counted, inside, passed, member, timelyOne, tardy, key, le⟩ := clashes
  refine ⟨counted :: ballots.erase counted, (List.perm_cons_erase inside).symm, fun admitted => ?_⟩
  have apart : passed ≠ counted := by
    rintro rfl
    simp [timelyOne] at tardy
  have left : passed ∈ (ballots.erase counted).insertionSort Before := by
    rw [List.mem_insertionSort]
    exact (List.mem_erase_of_ne apart).mpr member
  have before : Before counted passed := .inr ⟨(congrArg Prod.fst key).symm, le⟩
  obtain ⟨earlier, later, split, behind⟩ := orderedInsert_before before left
  have pairs := admitted.2
  rw [List.insertionSort_cons, split, List.pairwise_append] at pairs
  exact (List.pairwise_cons.mp pairs.2.1).1 passed behind ⟨timelyOne, key.symm⟩

theorem mem_withoutLate {ballot : Ballot} : ballot ∈ withoutLate workflow ballots ↔
    ballot ∈ ballots ∧ ¬ (ballot.stageId ∈ knownStages workflow ∧ late workflow ballot = true) := by
  rw [withoutLate, List.mem_filter, decide_eq_true_eq]

theorem timely_withoutLate : Passes workflow (timely workflow (withoutLate workflow ballots)) ↔
    Passes workflow (timely workflow ballots) := by
  refine forall₂_congr fun stage member => ?_
  have same : timely workflow (withoutLate workflow ballots) stage = timely workflow ballots stage := by
    rw [timely, withoutLate, List.filter_filter, timely]
    apply List.filter_congr
    intro ballot _
    cases late workflow ballot <;> simp
  rw [same]

theorem once_withoutLate :
    Once workflow (withoutLate workflow ballots) ↔ Once workflow ballots := by
  rw [Once, withoutLate, List.pairwise_filter]
  constructor
  · intro apart
    refine apart.imp fun kept ⟨timelyOne, timelyOther, key⟩ => ?_
    exact kept (by simp [timelyOne]) (by simp [timelyOther]) ⟨timelyOne, timelyOther, key⟩
  · exact fun apart => apart.imp fun kept _ _ => kept

end

variable {workflow : ApprovalWorkflowISR} {ballots others : List Ballot} {now : Int}

theorem verdict_congr (inTime : expired workflow now = false) (staged : workflow.stages ≠ [])
    (unsigned : ∀ stage ∈ workflow.stages, ∀ entry ∈ stage.weights, 0 ≤ entry.2)
    (admitted : Admitted workflow ballots) (also : Admitted workflow others)
    (same : Passes workflow (timely workflow ballots) ↔ Passes workflow (timely workflow others)) :
    verdict workflow ballots now = verdict workflow others now := by
  obtain ⟨raised, passed⟩ := verdict_cases inTime staged unsigned ballots
  obtain ⟨raised', passed'⟩ := verdict_cases inTime staged unsigned others
  obtain ⟨approved, given⟩ := Option.isSome_iff_exists.mp (raised.mpr admitted)
  obtain ⟨approved', given'⟩ := Option.isSome_iff_exists.mp (raised'.mpr also)
  rw [given, given', Option.some.injEq, Bool.eq_iff_iff, passed approved given, passed' approved' given', same]

/-- A vote in time is orderly exactly if there is no stage to vote on, or a ballot is for an unknown stage, or a
voter has two timely ballots for a stage, or late ballots come first by their ids and the ballots of others than the
approvers do not turn the stages. -/
theorem orderly_iff (workflow : ApprovalWorkflowISR) (ballots : List Ballot) (now : Int)
    (inTime : ∀ deadline, workflow.deadline = some deadline → now ≤ deadline)
    (unsigned : ∀ stage ∈ workflow.stages, ∀ entry ∈ stage.weights, 0 ≤ entry.2) :
    Orderly workflow ballots now ↔ workflow.stages = [] ∨
      (∃ ballot ∈ ballots, ballot.stageId ∉ workflow.stages.map (·.stageId)) ∨ ¬ Once workflow ballots ∨
      LateFirst workflow ballots ∧
        (Passes workflow (timely workflow ballots) ↔ Passes workflow (entitled workflow ballots)) := by
  have open' : expired workflow now = false := by
    unfold expired
    cases limit : workflow.deadline with
    | none => rfl
    | some deadline => exact decide_eq_false (not_lt.mpr (inTime deadline limit))
  by_cases staged : workflow.stages = []
  · have denied : ∀ ballots, verdict workflow ballots now = some false := fun ballots => by
      simp [verdict, conductVote, open', staged, pure, Except.pure]
    refine iff_of_true ⟨fun _ _ => by rw [denied, denied], by rw [denied, denied], fun approved given => ?_⟩
      (.inl staged)
    rw [denied, Option.some.injEq] at given
    simp [← given, staged]
  have cases' := verdict_cases open' staged unsigned
  have refused : ∀ {ballots : List Ballot}, ¬ Admitted workflow ballots → verdict workflow ballots now = none :=
    fun {ballots} raises => Option.not_isSome_iff_eq_none.mp fun given => raises ((cases' ballots).1.mp given)
  -- where no order of the ballots is admitted, with or without the late ones, there is nothing to compare
  have silent : (∀ others : List Ballot, others.Perm ballots → ¬ Admitted workflow others) →
      ¬ Admitted workflow (withoutLate workflow ballots) → Orderly workflow ballots now := by
    intro never neverLess
    have raises := refused (never ballots (.refl ballots))
    refine ⟨fun others same => ?_, ?_, fun approved given => ?_⟩
    · rw [raises, refused (never others same)]
    · rw [raises, refused neverLess]
    · rw [raises] at given
      cases given
  by_cases unknown : ∃ ballot ∈ ballots, ballot.stageId ∉ knownStages workflow
  · refine iff_of_true ?_ (.inr (.inl unknown))
    obtain ⟨ballot, member, strange⟩ := unknown
    apply silent
    · exact fun others same admitted => strange (admitted.1 ballot (same.mem_iff.mpr member))
    · exact fun admitted => strange (admitted.1 ballot (mem_withoutLate.mpr ⟨member, fun both => strange both.1⟩))
  have known : ∀ ballot ∈ ballots, ballot.stageId ∈ knownStages workflow := by
    intro ballot member
    by_contra strange
    exact unknown ⟨ballot, member, strange⟩
  by_cases once : Once workflow ballots
  · have lessAdmitted : Admitted workflow (withoutLate workflow ballots) := by
      apply admitted_of fun ballot member => known ballot (mem_withoutLate.mp member).1
      · exact (once_withoutLate).mpr once
      · intro counted _ passed member _ tardy
        exact absurd ⟨known passed (mem_withoutLate.mp member).1, tardy⟩ (mem_withoutLate.mp member).2
    have plain : (workflow.stages = [] ∨ (∃ ballot ∈ ballots, ballot.stageId ∉ workflow.stages.map (·.stageId)) ∨
        ¬ Once workflow ballots ∨ LateFirst workflow ballots ∧
          (Passes workflow (timely workflow ballots) ↔ Passes workflow (entitled workflow ballots))) ↔
        LateFirst workflow ballots ∧
          (Passes workflow (timely workflow ballots) ↔ Passes workflow (entitled workflow ballots)) := by
      have none : ¬ ∃ ballot ∈ ballots, ballot.stageId ∉ workflow.stages.map (·.stageId) := unknown
      rw [or_iff_right staged, or_iff_right none, or_iff_right (not_not.mpr once)]
    rw [plain]
    constructor
    · intro orderly
      have lateFirst : LateFirst workflow ballots := by
        by_contra clashes
        obtain ⟨others, same, raises⟩ := exists_refused_order clashes
        have given := (cases' (withoutLate workflow ballots)).1.mpr lessAdmitted
        rw [orderly.lateIgnored, ← orderly.reordered others same, refused raises] at given
        cases given
      refine ⟨lateFirst, ?_⟩
      obtain ⟨approved, given⟩ := Option.isSome_iff_exists.mp
        ((cases' ballots).1.mpr (admitted_of known once lateFirst))
      rw [← (cases' ballots).2 approved given, orderly.byApprovers approved given]
      exact and_iff_right staged
    · rintro ⟨lateFirst, agree⟩
      have admitted := admitted_of known once lateFirst
      refine ⟨fun others same => ?_, ?_, fun approved given => ?_⟩
      · refine verdict_congr open' staged unsigned (admitted_of ?_ ((once_perm same).mpr once) ?_) admitted
          (passes_perm same)
        · exact fun ballot member => known ballot (same.mem_iff.mp member)
        · exact fun counted inside passed member =>
            lateFirst counted (same.mem_iff.mp inside) passed (same.mem_iff.mp member)
      · exact verdict_congr open' staged unsigned lessAdmitted admitted timely_withoutLate
      · rw [(cases' ballots).2 approved given, agree]
        exact (and_iff_right staged).symm
  · refine iff_of_true ?_ (.inr (.inr (.inl once)))
    apply silent
    · exact fun others same admitted => once ((once_perm same).mp admitted.once)
    · exact fun admitted => once ((once_withoutLate).mp admitted.once)

def council : ApprovalWorkflowISR where
  workflowId := "release"
  stages := [⟨"security", ["ada"], .simpleMajority, []⟩]
  quorum := 1
  deadline := some 10
  quorumPositive := Nat.one_pos

def castBy (voter : String) : Ballot := ⟨"b1", "security", voter, true, 5⟩

/-- The ballot of an approver, cast in time. -/
theorem orderly_iff_ada : Orderly council [castBy "ada"] 7 :=
  (orderly_iff council [castBy "ada"] 7 (by decide) (by decide)).mpr
    (.inr (.inr (.inr ⟨fun counted inside passed member timelyOne tardy _ => by
      rw [List.mem_singleton.mp member] at tardy
      exact absurd tardy (by decide), by
        refine forall₂_congr fun stage single => ?_
        rw [List.mem_singleton.mp single]
        exact Iff.rfl⟩)))

/-- A ballot of somebody who is no approver carries the stage. -/
theorem stranger_decides :
    verdict council [castBy "mallory"] 7 = some true ∧ ¬ Orderly council [castBy "mallory"] 7 := by
  have carried : verdict council [castBy "mallory"] 7 = some true := by decide +kernel
  refine ⟨carried, fun orderly => ?_⟩
  have passes := ((orderly.byApprovers true carried).mp rfl).2 _ List.mem_cons_self
  exact absurd passes.1 (by decide)

end AutonomousApi.Voting
