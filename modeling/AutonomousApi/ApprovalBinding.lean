import AutonomousApi.GovernanceKernel

/-! What an approval authorizes: over whole runs of the kernel and the enforcement point, the action
that `confirm` lets through against the evaluation whose approvals were granted. -/

namespace AutonomousApi.GovernanceKernel

open JsonValue OrderedMap RecordTable Runs Compliance ApprovalWorkflow

variable {Digest : Type} [DecidableEq Digest] {digest : DecisionPayload → Digest} {python : FloatText}
  {evalCondition : Condition → EvaluationRequest → Bool × String} {policySets : List PolicySet}
  {session following : Session Digest}

section

theorem resolve_distinct (request : EvaluationRequest) (scan : Scan) :
    ((resolve request scan).requiredApprovals.map approverKey).Nodup := by
  have allowed : ((resolveAllowed scan).requiredApprovals.map approverKey).Nodup := by
    unfold resolveAllowed
    split
    · exact (keepFirst_keys approverKey [] _).1
    · split <;> exact List.nodup_nil
  unfold resolve
  split
  · split
    · exact List.nodup_nil
    · exact allowed
  · exact List.nodup_nil

/-- A decision of the engine names each approver once, under the hash of its content. -/
def Hashed (digest : DecisionPayload → Digest) (decision : GovernanceDecision Digest) : Prop :=
  (∃ payload, decision = recomputeHash digest payload) ∧ (decision.requiredApprovals.map approverKey).Nodup

theorem hashed_evaluate (session : Session Digest) (now : Int) (request : EvaluationRequest) :
    Hashed digest (evaluate digest evalCondition policySets session now request).2 :=
  ⟨⟨_, rfl⟩, resolve_distinct request _⟩

variable {decision other : GovernanceDecision Digest}

omit [DecidableEq Digest] in
/-- Under one id stands one content. -/
theorem content_of_id (injective : Function.Injective digest)
    (hashed : Hashed digest decision) (hashed' : Hashed digest other)
    (same : decisionIdOf decision = decisionIdOf other) :
    canonicalPayload decision.toDecisionPayload = canonicalPayload other.toDecisionPayload := by
  obtain ⟨⟨payload, rfl⟩, -⟩ := hashed
  obtain ⟨⟨payload', rfl⟩, -⟩ := hashed'
  exact injective same

omit [DecidableEq Digest] in
theorem decision_of_id (injective : Function.Injective digest)
    (hashed : Hashed digest decision) (hashed' : Hashed digest other)
    (same : decisionIdOf decision = decisionIdOf other) :
    decision.decision = other.decision ∧ decision.requiredApprovals = other.requiredApprovals := by
  have content := content_of_id injective hashed hashed' same
  have kind := congrArg DecisionPayload.decision content
  have required := congrArg DecisionPayload.requiredApprovals content
  exact ⟨kind, required⟩

end

/-- Each requirement the decision needs has an approved record that was filed for it under the decision. -/
def ApprovalsGranted (session : Session Digest) (decision : GovernanceDecision Digest) : Prop :=
  ∀ requirement ∈ needed decision.requiredApprovals, ∃ record ∈ session.kernel.approvals.approvals,
    record.evaluationId = decisionIdOf decision ∧ record.requirement = requirement ∧ record.status = .approved

structure Sound (digest : DecisionPayload → Digest) (session : Session Digest) : Prop where
  approvals : ApprovalWorkflow.Sound session.kernel.approvals
  hashed : ∀ entry ∈ session.evaluated, Hashed digest entry.2
  own : ∀ record ∈ session.kernel.approvals.approvals, ∃ entry ∈ session.evaluated,
    decisionIdOf entry.2 = record.evaluationId ∧ record.requirement ∈ entry.2.requiredApprovals
  granted : ∀ id dossier, get session.kernel.dossiers id = some dossier → dossier.finalDecision = some .allow →
    ∃ entry ∈ session.evaluated, decisionIdOf entry.2 = id ∧ ApprovalsGranted session entry.2

def opened (exceptions : List GovernanceException) (now : Rat) : Session Digest :=
  { kernel := { exceptions, approvals := ApprovalWorkflow.opened now } }

theorem sound_opened (exceptions : List GovernanceException) (now : Rat) :
    Sound digest (opened exceptions now : Session Digest) where
  approvals := ApprovalWorkflow.sound_opened now
  hashed := fun _ member => nomatch member
  own := fun _ member => nomatch member
  granted := fun _ _ found => nomatch found

theorem Sound.evaluate (sound : Sound digest session) (now : Int) (request : EvaluationRequest) :
    Sound digest (evaluate digest evalCondition policySets session now request).1 where
  approvals := sound.approvals
  hashed := by
    intro entry member
    rcases List.mem_append.mp member with old | new
    · exact sound.hashed entry old
    · rw [List.mem_singleton.mp new]
      exact hashed_evaluate session now request
  own := by
    intro record member
    obtain ⟨entry, inside, filed⟩ := sound.own record member
    exact ⟨entry, List.mem_append_left _ inside, filed⟩
  granted := by
    intro id dossier found final
    have earlier : ∃ old, get session.kernel.dossiers id = some old ∧ old.finalDecision = some .allow := by
      simp only [GovernanceKernel.evaluate, recordDecisionDossier, get_assign] at found
      split at found
      · next same =>
          cases found
          rw [same] at final
          exact Option.bind_eq_some_iff.mp final
      · exact ⟨dossier, found, final⟩
    obtain ⟨old, found', final'⟩ := earlier
    obtain ⟨entry, inside, named, granted⟩ := sound.granted id old found' final'
    exact ⟨entry, List.mem_append_left _ inside, named, granted⟩

variable {approvals : Workflow Digest} {command : ApprovalWorkflow.Command Digest}
variable {evaluation : GovernanceDecision Digest}

/-- An approved record stays as it is, whatever the workflow does next. -/
theorem granted_next
    {decision : GovernanceDecision Digest} (keyed : Keyed ApprovalRecord.id session.kernel.approvals.approvals)
    (taken : ApprovalWorkflow.execute python session.kernel.approvals command = some approvals)
    (granted : ApprovalsGranted session decision) :
    ApprovalsGranted { session with kernel := { session.kernel with approvals } } decision := by
  obtain ⟨-, front, added, table, evolves, -, -⟩ := execute_cases keyed taken
  intro requirement member
  obtain ⟨record, inside, filed, same, approved⟩ := granted requirement member
  obtain ⟨later, found, evolved⟩ := exists_later evolves inside
  have stays : later = record := by
    cases evolved with
    | kept => rfl
    | timedOut pending | decided pending =>
        rw [approved] at pending
        cases pending
  refine ⟨record, ?_, filed, same, approved⟩
  change record ∈ approvals.approvals
  rw [table, ← stays]
  exact List.mem_append_left _ found

/-- A call of the approval workflow that creates records for issued decisions only. -/
theorem Sound.next (sound : Sound digest session)
    (taken : ApprovalWorkflow.execute python session.kernel.approvals command = some approvals)
    (filed : ∀ record, CreatedBy command record → ∃ entry ∈ session.evaluated,
      decisionIdOf entry.2 = record.evaluationId ∧ record.requirement ∈ entry.2.requiredApprovals) :
    Sound digest { session with kernel := { session.kernel with approvals } } where
  approvals := sound.approvals.execute taken
  hashed := sound.hashed
  own := by
    intro record member
    obtain ⟨-, front, added, table, evolves, -, new⟩ := execute_cases sound.approvals.keyed taken
    change record ∈ approvals.approvals at member
    rw [table, List.mem_append] at member
    rcases member with old | created
    · obtain ⟨earlier, inside, evolved⟩ := exists_earlier evolves old
      obtain ⟨-, evaluation, requirement, -⟩ := evolved.identity
      rw [evaluation, requirement]
      exact sound.own earlier inside
    · exact filed record (new record created).2.2
  granted := by
    intro id dossier found final
    obtain ⟨entry, inside, named, granted⟩ := sound.granted id dossier found final
    exact ⟨entry, inside, named, granted_next sound.approvals.keyed taken granted⟩

theorem Sound.createApprovals (python : FloatText) (sound : Sound digest session) {ids : List String}
    {createdAt : Rat} (issued : Issued session evaluation)
    (fresh : Fresh session.kernel.approvals evaluation.requiredApprovals ids) :
    Sound digest (createApprovals session evaluation ids createdAt) := by
  have taken : ApprovalWorkflow.execute python session.kernel.approvals
      (.create (decisionIdOf evaluation) evaluation.requiredApprovals ids createdAt) =
        some (createApprovalRequest session.kernel.approvals (decisionIdOf evaluation) evaluation.requiredApprovals
          ids createdAt) := if_pos fresh
  refine sound.next taken fun record created => ?_
  obtain ⟨entry, inside, hash, required⟩ := issued
  obtain ⟨_, _, _, _, same, filed, member⟩ := created
  cases same
  exact ⟨entry, inside, hash.symm.trans filed.symm, required ▸ member⟩

theorem get_updateDossier (dossiers : Dict Digest (Dossier Digest)) (id wanted : Digest)
    (change : Dossier Digest → Dossier Digest) :
    get (updateDossier dossiers id change) wanted =
      if id = wanted then (get dossiers id).map change else get dossiers wanted := by
  unfold updateDossier
  cases found : get dossiers id with
  | none =>
      by_cases same : id = wanted
      · rw [if_pos same, ← same, found, Option.map_none]
      · rw [if_neg same]
  | some dossier => rw [get_assign, Option.map_some]

/-- Where `approve` allows, the decision's own requirements were approved. -/
theorem approve_granted (injective : Function.Injective digest) (sound : Sound digest session)
    {entry : EvaluationRequest × GovernanceDecision Digest} (inside : entry ∈ session.evaluated)
    (allowed : (approve python session.kernel.approvals (decisionIdOf entry.2) entry.2.requiredApprovals).2 =
      some .allow)
    (refreshed : Sound digest { session with kernel := { session.kernel with
      approvals := (approve python session.kernel.approvals (decisionIdOf entry.2) entry.2.requiredApprovals).1 } }) :
    ApprovalsGranted { session with kernel := { session.kernel with
      approvals := (approve python session.kernel.approvals (decisionIdOf entry.2) entry.2.requiredApprovals).1 } }
      entry.2 := by
  have granted : ∀ requirement ∈ entry.2.requiredApprovals, Granted (approvalsFor (approve python
      session.kernel.approvals (decisionIdOf entry.2) entry.2.requiredApprovals).1 (decisionIdOf entry.2))
        requirement := by
    unfold approve at allowed
    dsimp only at allowed
    split at allowed
    · exact (judge_allow_iff _ _).mp (Option.some_inj.mp allowed)
    · cases allowed
  intro requirement member
  obtain ⟨listed, wanted⟩ := List.mem_filter.mp member
  obtain ⟨record, read, matched, approved⟩ := (granted requirement listed).approved wanted
  obtain ⟨found, filed⟩ := refreshed.approvals.mem_approvalsFor.mp read
  have evaluation := refreshed.approvals.evaluation_of_listed found filed
  refine ⟨record, found, evaluation, ?_, approved⟩
  -- the record was created for a requirement of a decision with this id, and approvers are named once
  obtain ⟨other, also, named, asked⟩ := refreshed.own record found
  have hashed := sound.hashed entry inside
  have content := decision_of_id injective (refreshed.hashed other also) hashed (named.trans evaluation)
  exact List.inj_on_of_nodup_map hashed.2 (content.2 ▸ asked) listed matched

theorem Sound.finalize (injective : Function.Injective digest) (sound : Sound digest session)
    (issued : Issued session evaluation) :
    Sound digest (finalize python session evaluation) := by
  obtain ⟨entry, inside, hash, required⟩ := issued
  have id : decisionIdOf evaluation = decisionIdOf entry.2 := hash
  have taken : ApprovalWorkflow.execute python session.kernel.approvals
      (.approve (decisionIdOf entry.2) entry.2.requiredApprovals) =
        some (approve python session.kernel.approvals (decisionIdOf entry.2) entry.2.requiredApprovals).1 := rfl
  have refreshed := sound.next taken fun record created => by
    obtain ⟨_, _, _, _, same, -⟩ := created
    cases same
  unfold GovernanceKernel.finalize
  dsimp only
  rw [id, required]
  cases verdict : (approve python session.kernel.approvals (decisionIdOf entry.2) entry.2.requiredApprovals).2 with
  | none => exact refreshed
  | some final =>
      constructor
      case approvals => exact refreshed.approvals
      case hashed => exact refreshed.hashed
      case own => exact refreshed.own
      case granted =>
        intro wanted dossier found allowed
        dsimp only [finalizeDossierDecision, attachApprovalIds] at found
        rw [get_updateDossier, get_updateDossier, get_updateDossier, if_pos rfl] at found
        by_cases same : decisionIdOf entry.2 = wanted
        · rw [if_pos same] at found
          obtain ⟨middle, -, rfl⟩ := Option.map_eq_some_iff.mp found
          have final : final = .allow := Option.some_inj.mp allowed
          subst final
          exact ⟨entry, inside, same, approve_granted injective sound inside verdict refreshed⟩
        · rw [if_neg same, if_neg same] at found
          exact refreshed.granted wanted dossier found allowed

/-- What the calls do: they evaluate, they move the approval workflow, they finalize. -/
theorem Sound.execute (injective : Function.Injective digest) (sound : Sound digest session) {command : Command Digest}
    (taken : execute digest python evalCondition policySets session command = some following) :
    Sound digest following := by
  cases command with
  | advance now =>
      rw [GovernanceKernel.execute] at taken
      split at taken
      · next forward =>
          cases taken
          have moved : ApprovalWorkflow.execute python session.kernel.approvals (.advance now) =
              some { session.kernel.approvals with now } := if_pos forward
          refine sound.next moved fun record created => ?_
          obtain ⟨_, _, _, _, same, -⟩ := created
          cases same
      · cases taken
  | evaluate now request =>
      cases taken
      exact sound.evaluate now request
  | createApprovals evaluation ids createdAt =>
      rw [GovernanceKernel.execute] at taken
      split at taken
      · next permitted =>
          cases taken
          exact sound.createApprovals python permitted.1 permitted.2
      · cases taken
  | submitApproval approvalId decision comments =>
      cases taken
      have moved : ApprovalWorkflow.execute python session.kernel.approvals (.submit approvalId decision comments []) =
          some ((submitDecision session.kernel.approvals approvalId decision comments []).getD
            session.kernel.approvals) := rfl
      refine sound.next moved fun record created => ?_
      obtain ⟨_, _, _, _, same, -⟩ := created
      cases same
  | finalize evaluation =>
      rw [GovernanceKernel.execute] at taken
      split at taken
      · next issued =>
          cases taken
          exact sound.finalize injective issued
      · cases taken
  | enforce call environment satisfied ids createdAt now =>
      rw [GovernanceKernel.execute] at taken
      split at taken
      · next drawn =>
          cases taken
          have evaluated := @Sound.evaluate _ _ _ evalCondition policySets _ sound now (requestOf call environment)
          unfold enforce
          dsimp only
          split
          case h_3 asks =>
              apply evaluated.createApprovals python
              · exact ⟨_, List.mem_append_right _ (List.mem_singleton_self _), rfl, rfl⟩
              · exact drawn asks
          all_goals exact evaluated
      · cases taken
  | confirm originalDecisionId call now =>
      cases taken
      have evaluated := @Sound.evaluate _ _ _ evalCondition policySets _ sound now
        (requestOf call defaultEnvironment)
      unfold confirm
      dsimp only
      split <;> exact evaluated

theorem sound_of_reaches (injective : Function.Injective digest)
    {allowed : Session Digest → Command Digest → Prop} {start : Session Digest} (sound : Sound digest start)
    (reached : Reaches (execute digest python evalCondition policySets) allowed start session) :
    Sound digest session :=
  reached.invariant sound fun sound _ taken => sound.execute injective taken

/-- Who does what to which subject, and in which environment. -/
def actionOf (request : EvaluationRequest) : String × String × String × Actor × Option Json :=
  (request.subjectType, request.subjectId, request.action, request.actor, get request.context "environment")

/-- The decision on the request differs in its content from every decision on another action so far. -/
def Telling (evalCondition : Condition → EvaluationRequest → Bool × String) (policySets : List PolicySet)
    (session : Session Digest) (now : Int) (request : EvaluationRequest) : Prop :=
  ∀ entry ∈ session.evaluated, actionOf entry.1 ≠ actionOf request →
    canonicalPayload entry.2.toDecisionPayload ≠
      canonicalPayload (Compliance.evaluate evalCondition policySets session.kernel.exceptions now request).1

/-- Every evaluation that the call makes is telling. -/
def TellingCall (evalCondition : Condition → EvaluationRequest → Bool × String) (policySets : List PolicySet)
    (session : Session Digest) : Command Digest → Prop
  | .evaluate now request => Telling evalCondition policySets session now request
  | .enforce call environment _ _ _ now =>
      Telling evalCondition policySets session now (requestOf call environment)
  | .confirm _ call now => Telling evalCondition policySets session now (requestOf call defaultEnvironment)
  | _ => True

/-- One id is the id of one action. -/
def Unshared (session : Session Digest) : Prop :=
  ∀ entry ∈ session.evaluated, ∀ other ∈ session.evaluated, decisionIdOf entry.2 = decisionIdOf other.2 →
    actionOf entry.1 = actionOf other.1

theorem Unshared.evaluate (injective : Function.Injective digest) (sound : Sound digest session) {now : Int}
    {request : EvaluationRequest} (telling : Telling evalCondition policySets session now request)
    (unshared : Unshared session) :
    Unshared (evaluate digest evalCondition policySets session now request).1 := by
  have fresh (entry : EvaluationRequest × GovernanceDecision Digest) (old : entry ∈ session.evaluated)
      (same : decisionIdOf entry.2 =
        decisionIdOf (GovernanceKernel.evaluate digest evalCondition policySets session now request).2) :
      actionOf entry.1 = actionOf request := by
    by_contra differs
    exact telling entry old differs
      (content_of_id injective (sound.hashed entry old) (hashed_evaluate session now request) same)
  intro entry member other also same
  rcases List.mem_append.mp member with old | new
  · rcases List.mem_append.mp also with old' | new'
    · exact unshared entry old other old' same
    · rw [List.mem_singleton.mp new'] at same ⊢
      exact fresh entry old same
  · rw [List.mem_singleton.mp new] at same ⊢
    rcases List.mem_append.mp also with old' | new'
    · exact (fresh other old' same.symm).symm
    · rw [List.mem_singleton.mp new']

/-- Only evaluations add to what was evaluated. -/
theorem execute_evaluated {command : Command Digest}
    (taken : execute digest python evalCondition policySets session command = some following) :
    following.evaluated = session.evaluated ∨ ∃ now request,
      (TellingCall evalCondition policySets session command → Telling evalCondition policySets session now request) ∧
        following.evaluated = (evaluate digest evalCondition policySets session now request).1.evaluated := by
  cases command with
  | advance now =>
      rw [execute] at taken
      split at taken
      · cases taken
        exact .inl rfl
      · cases taken
  | evaluate now request =>
      cases taken
      exact .inr ⟨now, request, id, rfl⟩
  | createApprovals evaluation ids createdAt =>
      rw [execute] at taken
      split at taken
      · cases taken
        exact .inl rfl
      · cases taken
  | submitApproval approvalId decision comments =>
      cases taken
      exact .inl rfl
  | finalize evaluation =>
      rw [execute] at taken
      split at taken
      · cases taken
        left
        unfold finalize
        dsimp only
        split <;> rfl
      · cases taken
  | enforce call environment satisfied ids createdAt now =>
      rw [execute] at taken
      split at taken
      · cases taken
        refine .inr ⟨now, requestOf call environment, id, ?_⟩
        unfold enforce
        dsimp only
        split <;> rfl
      · cases taken
  | confirm originalDecisionId call now =>
      cases taken
      refine .inr ⟨now, requestOf call defaultEnvironment, id, ?_⟩
      unfold confirm
      dsimp only
      split <;> rfl

theorem unshared_of_reaches (injective : Function.Injective digest) {start : Session Digest}
    (sound : Sound digest start) (begun : start.evaluated = [])
    (reached : Reaches (execute digest python evalCondition policySets) (TellingCall evalCondition policySets) start
      session) : Unshared session := by
  induction reached with
  | start =>
      intro entry member
      rw [begun] at member
      cases member
  | next reached permitted taken ih =>
      rcases execute_evaluated taken with same | ⟨now, request, telling, same⟩
      · unfold Unshared
        rw [same]
        exact ih
      · unfold Unshared
        rw [same]
        exact ih.evaluate injective (sound_of_reaches injective sound reached) (telling permitted)

/-- Granted approvals are found under the id, whichever decision with that id asked for them. -/
theorem ApprovalsGranted.of_id (injective : Function.Injective digest) (sound : Sound digest session)
    {entry other : EvaluationRequest × GovernanceDecision Digest} (member : entry ∈ session.evaluated)
    (also : other ∈ session.evaluated) (same : decisionIdOf entry.2 = decisionIdOf other.2)
    (granted : ApprovalsGranted session entry.2) : ApprovalsGranted session other.2 := by
  have content := decision_of_id injective (sound.hashed entry member) (sound.hashed other also) same
  unfold ApprovalsGranted at granted ⊢
  rw [← content.2, ← same]
  exact granted

/-- A new dossier keeps the final decision that stood under its id. -/
theorem final_recorded (dossiers : Dict Digest (Dossier Digest)) (decision : GovernanceDecision Digest)
    (request : EvaluationRequest) (id : Digest) :
    (get (recordDecisionDossier dossiers decision request) id).bind (·.finalDecision) =
      (get dossiers id).bind (·.finalDecision) := by
  rw [recordDecisionDossier, get_assign]
  split
  · next same => rw [same, Option.bind_some]
  · rfl

/-- The evaluation named by the id is one of this action that asked for approval. -/
def Own (session : Session Digest) (originalDecisionId : Digest) (request : EvaluationRequest) : Prop :=
  ∃ entry ∈ session.evaluated, decisionIdOf entry.2 = originalDecisionId ∧ actionOf entry.1 = actionOf request ∧
    entry.2.decision = .requireApproval

/-- The id is that of an evaluation of this action whose own approvals were granted, and of no other action. -/
def Bound (session : Session Digest) (originalDecisionId : Digest) (request : EvaluationRequest) : Prop :=
  (∃ entry ∈ session.evaluated, decisionIdOf entry.2 = originalDecisionId ∧ actionOf entry.1 = actionOf request ∧
    entry.2.decision = .requireApproval ∧ ApprovalsGranted session entry.2) ∧
  ∀ other ∈ session.evaluated, decisionIdOf other.2 = originalDecisionId → actionOf other.1 = actionOf request

def gate (conditions : List Condition) : PolicyRule :=
  { id := "gate", name := "gate", effect := .requireApproval, subjectTypes := ["GENE"], actions := ["MUTATE"],
    conditions, requiredApprovals := [reviewer "security"] }

def gates (conditions : List Condition) : List PolicySet :=
  [{ id := "gates", status := .active, policyRules := [gate conditions] }]

def mutationOf (subjectId : String) : Call :=
  { subjectType := "GENE", subjectId, action := "MUTATE", actor := { actorId := "agent" } }

def metAlways : Condition → EvaluationRequest → Bool × String := fun _ _ => (true, "met")

def metInEnvironment : Condition → EvaluationRequest → Bool × String := fun condition request =>
  (get request.context "environment" == some condition.value, "compared")

abbrev stepOf (evalCondition : Condition → EvaluationRequest → Bool × String) (policySets : List PolicySet) :
    Session DecisionPayload → Command DecisionPayload → Option (Session DecisionPayload) :=
  execute id asciiFloats evalCondition policySets

def asked : Session DecisionPayload × GovernanceDecision DecisionPayload :=
  evaluate id metAlways (gates []) (opened [] 0) 0 (requestOf (mutationOf "gene-1") "staging")

def pausing : Command DecisionPayload := .enforce (mutationOf "gene-1") "staging" false ["approval-1"] 0 0

def approving : Command DecisionPayload := .submitApproval "approval-1" .approved none

def paused : Session DecisionPayload := (stepOf metAlways (gates []) (opened [] 0) pausing).getD (opened [] 0)

def approved : Session DecisionPayload := (stepOf metAlways (gates []) paused approving).getD (opened [] 0)

/-- The mutation of the first gene was evaluated, approved and finalized. -/
def granted : Session DecisionPayload := finalize asciiFloats approved asked.2

theorem granted_reached :
    Reaches (stepOf metAlways (gates [])) (TellingCall metAlways (gates [])) (opened [] 0) granted := by
  have first : stepOf metAlways (gates []) (opened [] 0) pausing = some paused := by decide
  have second : stepOf metAlways (gates []) paused approving = some approved := by decide
  have third : stepOf metAlways (gates []) approved (.finalize asked.2) = some granted := by decide
  have telling : TellingCall metAlways (gates []) (opened [] 0 : Session DecisionPayload) pausing :=
    fun _ member => nomatch member
  have quiet : TellingCall metAlways (gates []) paused approving := trivial
  have still : TellingCall metAlways (gates []) approved (.finalize asked.2) := trivial
  exact .next (.next (.next .start telling first) quiet second) still third

theorem evaluated_granted :
    granted.evaluated = [(requestOf (mutationOf "gene-1") "staging", asked.2)] := by decide

end AutonomousApi.GovernanceKernel
