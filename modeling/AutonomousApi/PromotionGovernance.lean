import AutonomousApi.Promotion

/-! What a promotion passes on its way. Safety reports are never missing where they are required. A
decision of governance is missing exactly where a request was left pending at its creation, and such
a request can be approved but not submitted any more. -/

namespace AutonomousApi.PromotionGovernance

open RecordTable Runs Promotion

variable {config : Config} {requests following : Requests} {request : PromotionRequest} {command : Command}

/-- Governance allowed the request, or asked for an approval that was given. -/
def Granted (request : PromotionRequest) : Prop :=
  ∃ decision, request.governanceDecision = some decision ∧
    (decision.decision = .allow ∨ decision.decision = .requireApproval ∧ request.approval.isSome = true)

/-- The request is or was promoted. -/
def Promoted (request : PromotionRequest) : Prop := request.status = .promoted ∨ request.status = .rolledBack

def ReportPassed (request : PromotionRequest) : Prop :=
  ∃ report, request.safetyReport = some report ∧ report.passed = true

structure Governed (config : Config) (requests : Requests) (request : PromotionRequest) : Prop where
  granted : Promoted request → governanceRequired config request.environment = true → Granted request
  safe : Promoted request → config.policy.requireSafetyChecks = true → ReportPassed request
  submittable : request.status = .governancePending → request.governanceDecision = none →
    ∀ answer, (submitGovernance config requests request.id answer).2 ≠ .error .notSubmittable

/-- What each request keeps as long as none is left pending without a decision. -/
structure Settled (config : Config) (request : PromotionRequest) : Prop where
  safe : request.status ≠ .safetyFailed → config.policy.requireSafetyChecks = true → ReportPassed request
  pending : request.status = .governancePending →
    ∃ decision, request.governanceDecision = some decision ∧ decision.decision ≠ .deny
  granted : request.status = .approved ∨ Promoted request →
    governanceRequired config request.environment = true → Granted request

theorem Settled.governed (settled : Settled config request) : Governed config requests request where
  granted promoted := settled.granted (.inr promoted)
  safe promoted := settled.safe (by rcases promoted with status | status <;> simp [status])
  submittable pending undecided := by
    obtain ⟨decision, decided, -⟩ := settled.pending pending
    rw [undecided] at decided
    cases decided

theorem settled_save (settled : ∀ request ∈ requests, Settled config request) (new : Settled config request) :
    ∀ other ∈ save requests request, Settled config other := by
  intro other member
  rcases mem_put member with rfl | old
  · exact new
  · exact settled other old

/-- The interlocks let a candidate through. -/
def Passes (config : Config) (evidence : EvolutionEvidence) : Prop :=
  config.policy.requireSafetyChecks = true → (config.safetyEngine config.safetyPolicy evidence).passed = true

theorem checked_passes (passes : Passes config request.evidence) :
    (checked config request).status = .safetyChecksPassed ∧
      (config.policy.requireSafetyChecks = true → ReportPassed (checked config request)) := by
  rw [checked]
  by_cases required : config.policy.requireSafetyChecks = true
  · rw [if_pos required]
    simp only [passes required, if_true]
    exact ⟨trivial, fun _ => ⟨_, rfl, passes required⟩⟩
  · rw [if_neg required]
    exact ⟨rfl, fun needed => absurd needed required⟩

theorem checked_fails (fails : ¬ Passes config request.evidence) :
    (checked config request).status = .safetyFailed := by
  rw [Passes, Classical.not_imp] at fails
  rw [checked, if_pos fails.1]
  simp only [if_neg fails.2]

theorem checked_environment : (checked config request).environment = request.environment := by
  rw [checked]
  split
  · dsimp only
    split <;> rfl
  · rfl

theorem checked_undecided : (checked config request).governanceDecision = request.governanceDecision := by
  rw [checked]
  split
  · dsimp only
    split <;> rfl
  · rfl

/-- A candidate whose request must go through governance is submitted to it at once. -/
def Submitted (config : Config) : Command → Prop
  | .create _ _ environment _ evidence collected _ _ => ∀ found, (evidence <|> collected) = some found →
      Passes config found → governanceRequired config environment = true → config.policy.autoSubmitGovernance = true
  | _ => True

theorem settled_failed (status : request.status = .safetyFailed) : Settled config request where
  safe other := absurd status other
  pending other := by simp [status] at other
  granted other := by simp [status, Promoted] at other

theorem settled_governed (decision : GovernanceDecision)
    (safe : config.policy.requireSafetyChecks = true → ReportPassed request) :
    Settled config (request.governed config decision) := by
  have kept : (request.governed config decision).safetyReport = request.safetyReport := by
    simp only [PromotionRequest.governed]
    split <;> rfl
  have decided : (request.governed config decision).governanceDecision = some decision := by
    simp only [PromotionRequest.governed]
    split <;> rfl
  constructor
  · intro _ required
    rw [ReportPassed, kept]
    exact safe required
  · intro pending
    refine ⟨decision, decided, fun denied => ?_⟩
    simp [PromotionRequest.governed, denied] at pending
  · intro approved _
    refine ⟨decision, decided, .inl ?_⟩
    -- only an ALLOW approves at once
    cases verdict : decision.decision with
    | allow => rfl
    | requireApproval => simp [PromotionRequest.governed, verdict, Promoted] at approved
    | deny => simp [PromotionRequest.governed, verdict, Promoted] at approved

theorem settled_submit {answer : Answer} (settled : ∀ request ∈ requests, Settled config request)
    (safe : request.status ≠ .safetyFailed → config.policy.requireSafetyChecks = true → ReportPassed request) :
    ∀ other ∈ (submitRequest config requests request answer).1, Settled config other := by
  rw [submitRequest]
  split
  case isFalse => exact settled
  case isTrue passed =>
      split
      · exact settled
      · next decision _ =>
          apply settled_save settled
          exact settled_governed decision (safe (by simp [passed]))

theorem settled_create {proposalId candidateId environment actorId : String} {evidence collected :
    Option EvolutionEvidence}
    {answer : Answer} {now : String} (settled : ∀ request ∈ requests, Settled config request)
    (submitted : Submitted config
      (.create proposalId candidateId environment actorId evidence collected answer now)) :
    ∀ other ∈ (createPromotionRequest config requests proposalId candidateId environment actorId evidence collected
      answer now).1, Settled config other := by
  rw [createPromotionRequest]
  cases given : (evidence <|> collected) with
  | none => exact settled
  | some found =>
      dsimp only
      obtain ⟨request, fresh⟩ : ∃ request, draft config proposalId candidateId environment actorId found now =
          request :=
        ⟨_, rfl⟩
      have carries : request.evidence = found ∧ request.environment = environment := by simp [← fresh, draft]
      rw [fresh]
      by_cases passes : Passes config request.evidence
      · obtain ⟨status, safe⟩ := checked_passes passes
        have needed := submitted found given (carries.1 ▸ passes)
        -- a request that has passed its checks and waits for nothing
        have saved : ∀ other ∈ save requests (checked config request), Settled config other := by
          apply settled_save settled
          constructor
          · exact fun _ => safe
          · intro pending
            simp [status] at pending
          · intro approved
            simp [status, Promoted] at approved
        rw [if_neg (by simp [status])]
        split
        case isTrue required =>
            rw [if_pos (needed required)]
            exact settled_submit saved fun _ => safe
        case isFalse free =>
            apply settled_save saved
            constructor
            · exact fun _ => safe
            · intro pending
              cases pending
            · intro _ required
              rw [checked_environment, carries.2] at required
              exact absurd required free
      · rw [if_pos (checked_fails passes)]
        exact settled_save settled (settled_failed (checked_fails passes))

theorem settled_step (settled : ∀ request ∈ requests, Settled config request) (submitted : Submitted config command)
    (taken : step config requests command = some following) : ∀ request ∈ following, Settled config request := by
  cases taken
  cases command with
  | create => exact settled_create settled submitted
  | submit requestId answer =>
      rw [execute, submitGovernance]
      split
      · exact settled
      · next request found => exact settled_submit settled (settled request (mem_of_find found).1).safe
  | approve requestId approverId comments now =>
      rw [execute, approve]
      split
      · exact settled
      · next request found =>
          have here := settled request (mem_of_find found).1
          split
          case isFalse => exact settled
          case isTrue pending =>
              obtain ⟨decision, decided, granted⟩ := here.pending pending
              apply settled_save settled
              constructor
              · exact fun _ => here.safe (by simp [pending])
              · intro other
                cases other
              · intro _ _
                refine ⟨decision, decided, ?_⟩
                cases verdict : decision.decision with
                | allow => exact .inl rfl
                | requireApproval => exact .inr ⟨rfl, rfl⟩
                | deny => exact absurd verdict granted
  | promote requestId now =>
      rw [execute, promote]
      split
      · exact settled
      · next request found =>
          have here := settled request (mem_of_find found).1
          split
          case isFalse => exact settled
          case isTrue approved =>
              apply settled_save settled
              constructor
              · exact fun _ => here.safe (by simp [approved])
              · intro other
                cases other
              · exact fun _ => here.granted (.inl approved)
  | rollback requestId reason now =>
      rw [execute, rollback]
      split
      · exact settled
      · next request found =>
          have here := settled request (mem_of_find found).1
          split
          case isFalse => exact settled
          case isTrue promoted =>
              apply settled_save settled
              constructor
              · exact fun _ => here.safe (by simp [promoted])
              · intro other
                cases other
              · exact fun _ => here.granted (.inr (.inl promoted))

/-- A request that is left pending at its creation cannot be submitted. -/
theorem submitted_of_governed (taken : step config requests command = some following)
    (governed : ∀ request ∈ following, Governed config following request) : Submitted config command := by
  cases taken
  cases command with
  | create proposalId candidateId environment actorId evidence collected answer now =>
      intro found given passes required
      by_contra unsent
      rw [execute, createPromotionRequest, given] at governed
      dsimp only at governed
      obtain ⟨request, fresh⟩ : ∃ request, draft config proposalId candidateId environment actorId found now =
          request :=
        ⟨_, rfl⟩
      have carries : request.evidence = found ∧ request.governanceDecision = none := by simp [← fresh, draft]
      rw [fresh] at governed
      have status := (@checked_passes config request (carries.1 ▸ passes)).1
      rw [if_neg (by simp [status]), if_pos required, if_neg unsent] at governed
      have left := governed _ record_mem_put
      have undecided := (@checked_undecided config request).trans carries.2
      refine left.submittable rfl undecided (fun _ => none) ?_
      rw [submitGovernance, getRequest, save, find_put, if_pos rfl]
      simp [submitRequest]
  | _ => trivial

/-- In a run every promotion has passed governance and safety, and every pending request without a decision
can still be submitted, exactly where each candidate that needs governance is submitted at its creation. -/
theorem promotions_governed (config : Config) (commands : List Command) (final : Requests)
    (finished : run (step config) [] commands = some final) :
    (∀ before after requests, commands = before ++ after → run (step config) [] before = some requests →
      ∀ request ∈ requests, Governed config requests request) ↔
    ∀ before command after requests, commands = before ++ command :: after →
      run (step config) [] before = some requests → Submitted config command :=
  @along_iff _ _ (step config) (fun _ command => Submitted config command) [] final
    (fun requests => ∀ request ∈ requests, Settled config request)
    (fun requests => ∀ request ∈ requests, Governed config requests request)
    (fun _ member => nomatch member) settled_step (fun settled request member => (settled request member).governed)
    (fun _ => submitted_of_governed) commands finished

def sound : EvolutionEvidence :=
  { proposalId := "p", candidateId := "c", simulationStatus := some "PASSED", verificationValid := some true,
    fitnessPassed := some true, paretoSelected := true, rollbackPlan := some [("parent_isr_hash", "h")] }

/-- A gateway is configured; whether requests are submitted at their creation is open. -/
def gated (autoSubmitGovernance : Bool) : Config :=
  { table := PythonText.asciiTable, policy := { autoSubmitGovernance }, gateway := true,
    requestId := fun proposalId _ _ _ => proposalId }

def allowing : Answer := fun _ => some { decision := .allow }

def created : Command := .create "p" "c" "production" "a" (some sound) none allowing "t"

def pending : PromotionRequest :=
  { id := "p", proposalId := "p", candidateId := "c", environment := "production", actorId := "a",
    status := .governancePending, evidence := sound, safetyReport := some (evaluate {} sound),
    rollbackPlan := sound.rollbackPlan, createdAt := "t" }

def unheard : PromotionRequest :=
  { pending with status := .promoted, approval := some ⟨"b", "", "t"⟩, promotedAt := some "t" }

def heard : PromotionRequest :=
  { pending with status := .promoted, governanceDecision := some { decision := .allow }, promotedAt := some "t" }

theorem submitted_promotion_governed :
    run (step (gated true)) [] [created, .promote "p" "t"] = some [heard] ∧ Governed (gated true) [heard] heard := by
  have finished : run (step (gated true)) [] [created, .promote "p" "t"] = some [heard] := by decide
  refine ⟨finished, ?_⟩
  refine (promotions_governed (gated true) _ _ finished).mpr ?_ _ [] _ (List.append_nil _).symm finished heard
    List.mem_cons_self
  intro before command after requests _ _
  cases command with
  | create => exact fun _ _ _ _ => rfl
  | _ => trivial

/-- A request that was not submitted at its creation is promoted to production without governance, and
before that it could not be submitted. -/
theorem unsubmitted_promoted :
    run (step (gated false)) [] [created] = some [pending] ∧
      (submitGovernance (gated false) [pending] "p" allowing).2 = .error .notSubmittable ∧
      run (step (gated false)) [] [created, .approve "p" "b" "" "t", .promote "p" "t"] = some [unheard] ∧
      governanceRequired (gated false) unheard.environment = true ∧ ¬ Granted unheard := by
  refine ⟨by decide, by decide, by decide, by decide, ?_⟩
  rintro ⟨decision, decided, -⟩
  cases decided

end AutonomousApi.PromotionGovernance
