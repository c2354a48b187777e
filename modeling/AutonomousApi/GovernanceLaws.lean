import AutonomousApi.Governance

/-! What an accepted request for a decision guarantees. G-1 is checked against the state
that the call has loaded, so it holds of the log only as far as that state is still the
candidate's when the decision is appended. G-2 looks for any satisfied outcome of a gate,
while the status of a gate is its last outcome. -/

namespace AutonomousApi.GovernanceLaws

open OrderedMap Runs FailFast Governance

variable {Weight : Type}

section

variable {quorum : Quorum Weight} {council : List (CouncilMember Weight)} {gates : List Gate} {state : CandidateState}
  {command : RequestGovernanceDecision} {now : String} {decision : Decision}

/-- The decision carries the command. -/
structure Carries (command : RequestGovernanceDecision) (decision : Decision) : Prop where
  candidateId : decision.candidateId = command.candidateId
  fromState : decision.fromState = command.fromState
  toState : decision.toState = command.toState
  authorizes : decision.authorizesTransition = command.authorizesTransition
  verdict : Verdict.read command.verdict = some decision.verdict

theorem requestDecision_ok (accepted : requestDecision quorum council gates state command now = .ok decision) :
    Carries command decision ∧ checkDecision quorum council gates state decision = .ok () := by
  rw [requestDecision] at accepted
  split at accepted
  · cases accepted
  · next built found =>
      cases checked : checkDecision quorum council gates state built with
      | error violation =>
          rw [checked] at accepted
          cases accepted
      | ok _ =>
          rw [checked] at accepted
          cases accepted
          rw [buildDecision] at found
          split at found
          · cases found
          · cases found
          · next verdict _ read _ =>
              cases found
              exact ⟨⟨rfl, rfl, rfl, rfl, read⟩, checked⟩

theorem checkG1_ok (passed : (checkG1 decision : Except (Violation Weight) Unit) = .ok ()) :
    isLegalTransition decision.fromState decision.toState = true := by
  rw [checkG1] at passed
  split at passed
  · cases passed
  · split at passed
    · cases passed
    · next legal => simpa using legal

theorem checkTransition_ok (authorizes : decision.authorizesTransition = true)
    (passed : (checkTransition state decision : Except (Violation Weight) Unit) = .ok ()) :
    isLegalTransition decision.fromState decision.toState = true ∧ state.currentState = decision.fromState := by
  rw [checkTransition, if_pos authorizes] at passed
  obtain ⟨_, first, second⟩ := bind_ok passed
  refine ⟨checkG1_ok first, ?_⟩
  by_contra other
  rw [if_pos other] at second
  cases second

theorem moves_iff : decision.moves = true ↔ decision.verdict = .approve ∧ decision.authorizesTransition = true := by
  simp [Decision.moves]

/-- An accepted decision that moves the candidate starts at the loaded state and goes to the
next one, and it has passed the check of the gates. -/
theorem checkDecision_ok (accepted : checkDecision quorum council gates state decision = .ok ())
    (moves : decision.moves = true) :
    isLegalTransition decision.fromState decision.toState = true ∧ state.currentState = decision.fromState ∧
      (checkG2 decision state.gateOutcomes gates : Except (Violation Weight) Unit) = .ok () := by
  obtain ⟨approves, authorizes⟩ := moves_iff.mp moves
  obtain ⟨_, transition, rest⟩ := bind_ok accepted
  obtain ⟨_, _, approval⟩ := bind_ok rest
  obtain ⟨legal, current⟩ := checkTransition_ok authorizes transition
  refine ⟨legal, current, ?_⟩
  rw [checkApproval, if_pos approves] at approval
  obtain ⟨_, satisfied, _⟩ := bind_ok approval
  exact satisfied

theorem discardSatisfied_cons (candidateId : String) (ids : List String) (outcome : GateOutcome)
    (rest : List GateOutcome) :
    discardSatisfied candidateId ids (outcome :: rest) =
      discardSatisfied candidateId
        (if outcome.candidateId == candidateId && outcome.status.satisfied then ids.filter (· != outcome.gateId)
          else ids) rest := rfl

theorem mem_discardSatisfied (candidateId : String) (ids : List String) (outcomes : List GateOutcome) (id : String) :
    id ∈ discardSatisfied candidateId ids outcomes ↔
      id ∈ ids ∧ ∀ outcome ∈ outcomes, outcome.candidateId = candidateId → outcome.status.satisfied = true →
        id ≠ outcome.gateId := by
  induction outcomes generalizing ids with
  | nil => simp [discardSatisfied]
  | cons outcome rest ih =>
      rw [discardSatisfied_cons, ih]
      by_cases discards : outcome.candidateId = candidateId ∧ outcome.status.satisfied = true
      · simp [discards.1, discards.2, and_assoc]
      · have kept : (outcome.candidateId == candidateId && outcome.status.satisfied) = false := by
          simpa using discards
        rw [kept, List.forall_mem_cons]
        simp only [Bool.false_eq_true, if_false]
        constructor
        · rintro ⟨listed, others⟩
          exact ⟨listed, fun same satisfied => absurd ⟨same, satisfied⟩ discards, others⟩
        · rintro ⟨listed, -, others⟩
          exact ⟨listed, others⟩

/-- Every legal transition is in the table, so G-2 does not return early. -/
theorem requiredGateCategories_legal {fromState toState : LifecycleState}
    (legal : isLegalTransition fromState toState = true) :
    (requiredGateCategories fromState toState).isEmpty = false := by
  revert legal
  cases fromState <;> cases toState <;> decide

variable {outcomes : List GateOutcome} {gateId : String}

theorem checkG2_ok {decision : Decision} {gates : List Gate}
    (moves : decision.moves = true) (legal : isLegalTransition decision.fromState decision.toState = true)
    (passed : (checkG2 decision outcomes gates : Except (Violation Weight) Unit) = .ok ()) :
    ∀ gate ∈ gates, gate.guarding decision.fromState decision.toState = true →
      ∃ outcome ∈ outcomes, outcome.gateId = gate.gateId ∧ outcome.status.satisfied = true := by
  intro gate registered guarding
  by_contra none
  rw [checkG2, moves] at passed
  simp only [Bool.not_true, Bool.false_eq_true, if_false, requiredGateCategories_legal legal] at passed
  split at passed
  · next empty =>
      -- the gate is among those that no outcome discards
      have outstanding : gate.gateId ∈ discardSatisfied decision.candidateId
          ((gates.filter (Gate.guarding decision.fromState decision.toState)).map Gate.gateId) outcomes := by
        rw [mem_discardSatisfied]
        refine ⟨List.mem_map_of_mem (List.mem_filter.mpr ⟨registered, guarding⟩), ?_⟩
        intro outcome listed _ satisfied same
        exact none ⟨outcome, listed, same.symm, satisfied⟩
      rw [(PythonText.sortedSet_isEmpty _).mp empty] at outstanding
      cases outstanding
  · cases passed

/-- A satisfied outcome of the gate comes before its last one, which is not. -/
def Overturned (outcomes : List GateOutcome) (gateId : String) : Prop :=
  ∃ before between after satisfied last, outcomes = before ++ satisfied :: between ++ last :: after ∧
    satisfied.gateId = gateId ∧ satisfied.status.satisfied = true ∧
    last.gateId = gateId ∧ last.status.satisfied = false ∧ ∀ outcome ∈ after, outcome.gateId ≠ gateId

def latest (outcomes : List GateOutcome) (gateId : String) : Option GateOutcome :=
  outcomes.reverse.find? fun outcome => outcome.gateId == gateId

theorem latest_split {last : GateOutcome} (found : latest outcomes gateId = some last) :
    last.gateId = gateId ∧ ∃ before after, outcomes = before ++ last :: after ∧
      ∀ outcome ∈ after, outcome.gateId ≠ gateId := by
  obtain ⟨isLast, before, after, split, none⟩ := List.find?_eq_some_iff_append.mp found
  refine ⟨by simpa using isLast, after.reverse, before.reverse, ?_, ?_⟩
  · have reversed := congrArg List.reverse split
    simpa using reversed
  · intro outcome listed
    simpa using none outcome (by simpa using listed)

theorem latest_of_split {before after : List GateOutcome} {last : GateOutcome}
    (isLast : last.gateId = gateId) (none : ∀ outcome ∈ after, outcome.gateId ≠ gateId) :
    latest (before ++ last :: after) gateId = some last := by
  apply List.find?_eq_some_iff_append.mpr
  refine ⟨by simp [isLast], after.reverse, before.reverse, by simp, ?_⟩
  intro outcome listed
  simpa using none outcome (by simpa using listed)

/-- Once a gate has a satisfied outcome, its last one is satisfied unless it was overturned. -/
theorem latest_satisfied_iff
    (some_ : ∃ outcome ∈ outcomes, outcome.gateId = gateId ∧ outcome.status.satisfied = true) :
    (∃ last, latest outcomes gateId = some last ∧ last.status.satisfied = true) ↔ ¬ Overturned outcomes gateId := by
  constructor
  · rintro ⟨last, found, satisfied⟩ ⟨before, between, after, _, other, split, _, _, isLast, unsatisfied, none⟩
    rw [split, latest_of_split isLast none] at found
    cases found
    rw [satisfied] at unsatisfied
    cases unsatisfied
  · intro standing
    obtain ⟨outcome, listed, isGate, satisfied⟩ := some_
    cases found : latest outcomes gateId with
    | none =>
        have absent := List.find?_eq_none.mp found outcome (by simpa using listed)
        simp [isGate] at absent
    | some last =>
        refine ⟨last, rfl, ?_⟩
        by_contra unsatisfied
        apply standing
        obtain ⟨isLast, before, after, split, none⟩ := latest_split found
        rw [split] at listed
        -- the satisfied outcome is neither the last one nor after it
        rcases List.mem_append.mp listed with early | late
        · obtain ⟨first, between, rfl⟩ := List.append_of_mem early
          exact ⟨first, between, after, outcome, last, split, isGate, satisfied, isLast,
            Bool.eq_false_iff.mpr unsatisfied, none⟩
        · rcases List.mem_cons.mp late with rfl | later
          · exact absurd satisfied unsatisfied
          · exact absurd isGate (none outcome later)

/-- Of an accepted approval, the last outcome of every guarding gate is passed or waived
exactly where none of them was overturned. -/
theorem approved_gates_iff {quorum : Quorum Weight} {council : List (CouncilMember Weight)} {gates : List Gate}
    {events : List (Event Weight)} {command : RequestGovernanceDecision} {now : String} {decision : Decision}
    (accepted : requestDecision quorum council gates (fold events) command now = .ok decision)
    (approves : command.verdict = "approve") (authorizes : command.authorizesTransition = true) :
    (∀ gate ∈ gates, gate.guarding command.fromState command.toState = true →
      ∃ status, (fold events).gateStatus gate.gateId = some status ∧ status.satisfied = true) ↔
    ∀ gate ∈ gates, gate.guarding command.fromState command.toState = true →
      ¬ Overturned (fold events).gateOutcomes gate.gateId := by
  obtain ⟨carries, checked⟩ := requestDecision_ok accepted
  have verdict : decision.verdict = .approve := by
    have read := carries.verdict
    rw [approves] at read
    exact (Option.some.inj read).symm
  have moves := moves_iff.mpr ⟨verdict, carries.authorizes.trans authorizes⟩
  obtain ⟨legal, -, passed⟩ := checkDecision_ok checked moves
  have once := checkG2_ok moves legal passed
  rw [carries.fromState, carries.toState] at once
  have status (gateId : String) : (∃ status, (fold events).gateStatus gateId = some status ∧ status.satisfied = true) ↔
      ∃ last, latest (fold events).gateOutcomes gateId = some last ∧ last.status.satisfied = true := by
    rw [CandidateState.gateStatus]
    simp [latest, Option.map_eq_some_iff]
  constructor
  · intro current gate registered guarding
    exact (latest_satisfied_iff (once gate registered guarding)).mp ((status _).mp (current gate registered guarding))
  · intro standing gate registered guarding
    exact (status _).mpr ((latest_satisfied_iff (once gate registered guarding)).mpr
        (standing gate registered guarding))

/-- Unit votes, of which one makes the quorum. -/
def oneVote : Quorum Nat := ⟨1, 0, 0, fun votes => votes.foldl Nat.add 0, Nat.blt⟩

def intake : RequestGovernanceDecision :=
  { candidateId := "c", generation := 0, fromState := .proposed, toState := .evaluating, decidedBy := ["m"] }

def intakeDecision : Decision :=
  { decisionId := "dec-c-1", candidateId := "c", generation := 0, verdict := .approve, fromState := .proposed,
    toState := .evaluating, authorizesTransition := true, decidedBy := ["m"], rationale := "",
    supersedesDecisionId := none, decidedAt := "t" }

def intakeGate : Gate := ⟨"g", [(.proposed, .evaluating)]⟩

def evaluated (status : GateStatus) : Event Nat :=
  .gateEvaluated { gateId := "g", candidateId := "c", status, evaluatedBy := "e", evaluatedAt := "t" }

theorem intake_gates_current :
    requestDecision oneVote [⟨"m", 1⟩] [intakeGate] (fold [evaluated .failed, evaluated .passed]) intake "t" =
        .ok intakeDecision ∧
      ∃ status, (fold [evaluated .failed, evaluated .passed]).gateStatus "g" = some status ∧
        status.satisfied = true := by
  have accepted : requestDecision oneVote [⟨"m", 1⟩] [intakeGate] (fold [evaluated .failed, evaluated .passed]) intake
      "t" = .ok intakeDecision := by decide
  refine ⟨accepted, (approved_gates_iff accepted rfl rfl).mpr ?_ intakeGate (by simp) (by decide)⟩
  intro gate registered _
  rw [List.mem_singleton.mp registered]
  apply (latest_satisfied_iff ?_).mp
  · exact ⟨_, rfl, rfl⟩
  · exact ⟨_, List.mem_cons_of_mem _ List.mem_cons_self, rfl, rfl⟩

/-- A gate that passed and then failed does not stop the transition it guards. -/
theorem failed_gate_approved :
    requestDecision oneVote [⟨"m", 1⟩] [intakeGate] (fold [evaluated .passed, evaluated .failed]) intake "t" =
        .ok intakeDecision ∧
      intakeGate.guarding .proposed .evaluating = true ∧
      (fold [evaluated .passed, evaluated .failed]).gateStatus "g" = some .failed := by
  decide

end

variable {quorum : Quorum Weight} {certifiers : List String} {system following : System Weight} {action : Action Weight}

/-- G-1 at every prefix of a log: a decision that moves the candidate starts where the
events before it have brought it, and goes to the next state. -/
def Legal (events : List (Event Weight)) : Prop :=
  ∀ before decision after, events = before ++ .decisionMade decision :: after → decision.moves = true →
    decision.fromState = (fold before).currentState ∧
      isLegalTransition decision.fromState decision.toState = true

variable {events : List (Event Weight)} {event : Event Weight} {calls : List (Call Weight)}

theorem Legal.append (legal : Legal events)
    (follows : ∀ decision, event = .decisionMade decision → decision.moves = true →
      decision.fromState = (fold events).currentState ∧
        isLegalTransition decision.fromState decision.toState = true) :
    Legal (events ++ [event]) := by
  intro before decision after split moves
  -- the decision is the new event, or it stands in the log before it
  rcases List.eq_nil_or_concat after with rfl | ⟨rest, last, rfl⟩
  · obtain ⟨same, isLast⟩ := List.append_inj' split rfl
    rw [← same]
    exact follows decision (List.singleton_inj.mp isLast) moves
  · have shorter : events ++ [event] = (before ++ .decisionMade decision :: rest) ++ [last] := by
      simpa using split
    exact legal before decision rest (List.append_inj' shorter rfl).1 moves

/-- Along a legal log the state stays or goes to the next one. -/
theorem Legal.advances (legal : Legal events) {before after : List (Event Weight)}
    (split : events = before ++ event :: after) :
    (fold (before ++ [event])).currentState = (fold before).currentState ∨
      (fold (before ++ [event])).currentState.order = (fold before).currentState.order + 1 := by
  have folded : fold (before ++ [event]) = (fold before).apply event := by simp [fold]
  rw [folded]
  cases event with
  | decisionMade decision =>
      by_cases moves : decision.moves = true
      · obtain ⟨current, next⟩ := legal before decision after split moves
        rw [isLegalTransition, beq_iff_eq, current] at next
        simp [CandidateState.apply, moves, next]
      · simp [CandidateState.apply, moves]
  | gateEvaluated outcome => exact .inl rfl
  | certificationGranted certification => exact .inl rfl
  | certificationRevoked certificationId revokedAt revokedBy => exact .inl rfl
  | councilUpdated members updatedBy updatedAt => exact .inl rfl
  | gateRegistered gate => exact .inl rfl

/-- When a decision that moves the candidate is appended, the candidate is still in the
state that the call had loaded. -/
def Fresh (system : System Weight) (action : Action Weight) : Prop :=
  ∀ index state decision, action = .append index → system.calls[index]? = some (.checked state decision) →
    decision.moves = true → (system.candidate decision.candidateId).currentState = state.currentState

/-- What G-1 has checked of the decisions that are yet to be appended. -/
def Checked (calls : List (Call Weight)) : Prop :=
  ∀ state decision, Call.checked state decision ∈ calls → decision.moves = true →
    isLegalTransition decision.fromState decision.toState = true ∧ state.currentState = decision.fromState

theorem Checked.eraseIdx (checked : Checked calls) (index : Nat) :
    Checked (calls.eraseIdx index) :=
  fun state decision member => checked state decision (List.mem_of_mem_eraseIdx member)

theorem Checked.set (checked : Checked calls) (index : Nat) {call : Call Weight}
    (fresh : ∀ state decision, call = .checked state decision → decision.moves = true →
      isLegalTransition decision.fromState decision.toState = true ∧ state.currentState = decision.fromState) :
    Checked (calls.set index call) := by
  intro state decision member moves
  rcases List.mem_or_eq_of_mem_set member with old | new
  · exact checked state decision old moves
  · exact fresh state decision new.symm moves

/-- Every log is legal, and so is every decision in flight for the state it was checked on. -/
structure Governed (system : System Weight) : Prop where
  legal : ∀ candidateId, Legal (group system.log candidateId)
  checked : Checked system.calls

theorem legal_push {log : Dict String (List (Event Weight))} (legal : ∀ candidateId, Legal (group log candidateId))
    {stream : String}
    (follows : ∀ decision, event = .decisionMade decision → decision.moves = true →
      decision.fromState = (fold (group log stream)).currentState ∧
        isLegalTransition decision.fromState decision.toState = true) :
    ∀ candidateId, Legal (group (push log stream event) candidateId) := by
  intro candidateId
  rw [group_push]
  split
  · next same =>
      subst same
      exact (legal stream).append follows
  · exact legal candidateId

theorem Governed.next (governed : Governed system) (fresh : Fresh system action)
    (taken : step quorum certifiers system action = some following) : Governed following := by
  have other {stream : String} {event : Event Weight} (none : ∀ decision, event ≠ .decisionMade decision) :
      ∀ candidateId, Legal (group (push system.log stream event) candidateId) :=
    legal_push governed.legal fun decision same => absurd same (none decision)
  cases action with
  | request command =>
      cases taken
      refine ⟨governed.legal, ?_⟩
      intro state decision member moves
      rcases List.mem_append.mp member with old | new
      · exact governed.checked state decision old moves
      · cases List.mem_singleton.mp new
  | loadGates index =>
      simp only [step] at taken
      split at taken
      · cases taken
        exact ⟨governed.legal, governed.checked.set index fun _ _ same => by cases same⟩
      · cases taken
  | materialize index now =>
      simp only [step] at taken
      split at taken
      · split at taken
        · next command council gates _ decision accepted =>
            cases taken
            refine ⟨governed.legal, governed.checked.set index ?_⟩
            intro state made same moves
            cases same
            obtain ⟨legal, current, -⟩ := checkDecision_ok (requestDecision_ok accepted).2 moves
            exact ⟨legal, current⟩
        · cases taken
          exact ⟨governed.legal, governed.checked.eraseIdx index⟩
      · cases taken
  | append index =>
      simp only [step] at taken
      split at taken
      · next state decision found =>
          cases taken
          refine ⟨legal_push governed.legal ?_, governed.checked.eraseIdx index⟩
          intro made same moves
          cases same
          obtain ⟨legal, current⟩ := governed.checked state decision (List.mem_of_getElem? found) moves
          -- the state that was checked is still the folded one
          exact ⟨current.symm.trans (fresh index state decision rfl found moves).symm, legal⟩
      · cases taken
  | recordGateEvaluation outcome =>
      simp only [step] at taken
      split at taken
      · cases taken
        exact ⟨other (by simp), governed.checked⟩
      · cases taken
        exact governed
  | grantCertification certification =>
      simp only [step] at taken
      split at taken
      · cases taken
        exact governed
      · cases taken
        exact ⟨other (by simp), governed.checked⟩
  | revokeCertification candidateId certificationId revokedAt revokedBy =>
      cases taken
      exact ⟨other (by simp), governed.checked⟩
  | updateCouncil members updatedBy updatedAt =>
      cases taken
      exact ⟨other (by simp), governed.checked⟩
  | registerGate gate =>
      cases taken
      exact ⟨other (by simp), governed.checked⟩

/-- Where no decision is appended after its candidate has moved on, every log satisfies G-1
at every prefix, and along it the state stays or goes to the next one. -/
theorem log_legal (reached : Reaches (step quorum certifiers) Fresh {} system) (candidateId : String) :
    Legal (group system.log candidateId) ∧
      ∀ before event after, group system.log candidateId = before ++ event :: after →
        (fold (before ++ [event])).currentState = (fold before).currentState ∨
          (fold (before ++ [event])).currentState.order = (fold before).currentState.order + 1 := by
  have governed : Governed system := by
    apply reached.invariant
    · constructor
      · intro candidateId before decision after split
        simp [group, OrderedMap.get] at split
      · intro state decision member
        cases member
    · intro system action following governed fresh taken
      exact governed.next fresh taken
  refine ⟨governed.legal candidateId, ?_⟩
  intro before event after split
  exact (governed.legal candidateId).advances split

theorem fresh_of_ne (other : ∀ index, action ≠ .append index) : Fresh system action :=
  fun index _ _ same => absurd same (other index)

def councilSeated : System Nat :=
  { council := some [⟨"m", 1⟩], log := [(registry, [.councilUpdated [⟨"m", 1⟩] "a" "t"])] }

def intakeChecked : System Nat := { councilSeated with calls := [.checked {} intakeDecision] }

def intakeMade : System Nat :=
  { councilSeated with log := councilSeated.log ++ [("c", [.decisionMade intakeDecision])] }

theorem intakeMade_fresh : Reaches (step oneVote []) Fresh {} intakeMade := by
  have seated : step oneVote [] {} (.updateCouncil [⟨"m", 1⟩] "a" "t") = some councilSeated := by decide
  have requested : step oneVote [] councilSeated (.request intake) =
      some { councilSeated with calls := [.council intake [⟨"m", 1⟩]] } := by decide
  have loaded : step oneVote [] { councilSeated with calls := [.council intake [⟨"m", 1⟩]] } (.loadGates 0) =
      some { councilSeated with calls := [.gates intake [⟨"m", 1⟩] []] } := by decide
  have checked : step oneVote [] { councilSeated with calls := [.gates intake [⟨"m", 1⟩] []] } (.materialize 0 "t") =
      some intakeChecked := by decide
  have appended : step oneVote [] intakeChecked (.append 0) = some intakeMade := by decide
  refine .next (.next (.next (.next (.next .start ?_ seated) ?_ requested) ?_ loaded) ?_ checked) ?_ appended
  · exact fresh_of_ne (by simp)
  · exact fresh_of_ne (by simp)
  · exact fresh_of_ne (by simp)
  · exact fresh_of_ne (by simp)
  · intro index state decision same found _
    cases same
    cases found
    decide

theorem intakeMade_legal : group intakeMade.log "c" = [.decisionMade intakeDecision] ∧
    Legal (group intakeMade.log "c") :=
  ⟨by decide, (log_legal intakeMade_fresh "c").1⟩

def intakeTwice : System Nat :=
  { councilSeated with
    log := councilSeated.log ++ [("c", [.decisionMade intakeDecision, .decisionMade intakeDecision])] }

/-- Two clients that load the same log both have their approval appended, and the second one
starts at a state that the candidate has left. -/
theorem concurrent_approvals_repeat :
    Reaches (step oneVote []) (fun _ _ => True) {} intakeTwice ∧ ¬ Legal (group intakeTwice.log "c") := by
  constructor
  · have both : run (step oneVote []) {}
        [.updateCouncil [⟨"m", 1⟩] "a" "t", .request intake, .request intake, .loadGates 0, .loadGates 1,
          .materialize 0 "t", .materialize 1 "t", .append 0, .append 0] = some intakeTwice := by decide
    exact reaches_of_run .start both
  · intro legal
    have second := legal [.decisionMade intakeDecision] intakeDecision [] (by decide) (by decide)
    exact absurd second.1 (by decide)

end AutonomousApi.GovernanceLaws
