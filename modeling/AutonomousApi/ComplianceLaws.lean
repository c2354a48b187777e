import AutonomousApi.Compliance
import AutonomousApi.StableSort
import Mathlib.Data.List.Induction

/-! What the decision of the compliance engine says about the rules that match a request. The
engine resolves one kept rule of each kind; the law speaks of all of them, and of what one more
rule does to the decision. -/

namespace AutonomousApi.Compliance

open OrderedMap

section

def denies (rule : PolicyRule) : Bool := rule.effect = .deny

def asksApproval (rule : PolicyRule) : Bool := rule.effect = .requireApproval

def asksEvidence (rule : PolicyRule) : Bool := rule.effect = .requireEvidence

def allows (rule : PolicyRule) : Bool := rule.effect = .allow || rule.effect = .allowWithConstraints

def constrains (rule : PolicyRule) : Bool := allows rule && !rule.constraints.isEmpty

/-- What the loop has kept of the rules that match, in the order of their evaluation. -/
def kept (ordered : List PolicyRule) : Scan where
  deniedBy := ordered.filter denies
  matchedApproval := ordered.find? asksApproval
  matchedEvidence := ordered.find? asksEvidence
  matchedConstraints := (ordered.filter constrains).getLast?
  matchedAllow := ordered.any allows

variable (evalCondition : Condition → EvaluationRequest → Bool × String)

def holds (request : EvaluationRequest) (rule : PolicyRule) : Bool :=
  rule.conditions.all fun condition => (evalCondition condition request).1

/-- The rules of the active policy sets that match a request. -/
def matching (policySets : List PolicySet) (request : EvaluationRequest) : List PolicyRule :=
  ((candidates policySets request.subjectType request.action).map Prod.snd).filter (holds evalCondition request)

/-- The same rules in the order of their evaluation. -/
def orderedMatching (policySets : List PolicySet) (request : EvaluationRequest) : List PolicyRule :=
  (((candidates policySets request.subjectType request.action).map Prod.snd).insertionSort Sooner).filter
    (holds evalCondition request)

instance : Std.Total Sooner := ⟨fun left right => by
  rcases lt_trichotomy left.priority right.priority with less | same | more
  · exact .inl (.inl less)
  · rcases le_total left.id right.id with earlier | later
    · exact .inl (.inr ⟨same, earlier⟩)
    · exact .inr (.inr ⟨same.symm, later⟩)
  · exact .inr (.inl more)⟩

instance : IsTrans PolicyRule Sooner := ⟨fun first second third one two => by
  rcases one with less | ⟨same, earlier⟩
  · rcases two with further | ⟨equal, -⟩
    · exact .inl (less.trans further)
    · exact .inl (equal ▸ less)
  · rcases two with further | ⟨equal, later⟩
    · exact .inl (same ▸ further)
    · exact .inr ⟨same.trans equal, earlier.trans later⟩⟩

theorem mem_orderedMatching {policySets : List PolicySet} {request : EvaluationRequest} {rule : PolicyRule} :
    rule ∈ orderedMatching evalCondition policySets request ↔ rule ∈ matching evalCondition policySets request := by
  simp only [orderedMatching, matching, List.mem_filter, List.mem_insertionSort]

theorem rulesFor_snd (policySets : List PolicySet) (subjectType action : String) :
    (rulesFor policySets subjectType action).map Prod.snd =
      ((candidates policySets subjectType action).map Prod.snd).insertionSort Sooner :=
  List.map_insertionSort _ _ _ _ fun _ _ _ _ => Iff.rfl

/-- A rule's outcome is fixed by its conditions and its effect. -/
theorem evaluateRule_outcome (rule : PolicyRule) (request : EvaluationRequest) :
    (evaluateRule evalCondition rule request).1 =
      if holds evalCondition request rule then
        match rule.effect with
        | .deny => .matchedDeny
        | .requireApproval => .matchedRequireApproval
        | .requireEvidence => .matchedRequireEvidence
        | .allowWithConstraints | .allow => .matchedAllow
      else .notMatched := by
  have failing : (rule.conditions.find? fun condition => !(evalCondition condition request).1).isSome =
      !holds evalCondition request rule := by
    simp [holds, List.isSome_find?, List.not_all_eq_any_not]
  unfold evaluateRule
  cases found : rule.conditions.find? fun condition => !(evalCondition condition request).1 with
  | some condition =>
      have unmet : holds evalCondition request rule = false := by simpa [found] using failing
      simp [unmet]
  | none =>
      have met : holds evalCondition request rule = true := by simpa [found] using failing
      cases rule.effect <;> simp [met]

/-- Without exceptions the loop keeps, of each kind, what `kept` says. -/
theorem scan_spec (request : EvaluationRequest) (rules : List (PolicySet × PolicyRule)) :
    { rules.foldl (scanRule evalCondition request []) {} with evaluations := [] } =
      kept ((rules.map Prod.snd).filter (holds evalCondition request)) := by
  induction rules using List.reverseRecOn with
  | nil => rfl
  | append_singleton earlier candidate ih =>
      rw [List.foldl_append, List.foldl_cons, List.foldl_nil, List.map_append, List.filter_append]
      generalize earlier.foldl (scanRule evalCondition request []) {} = scan at ih ⊢
      generalize (earlier.map Prod.snd).filter (holds evalCondition request) = before at ih ⊢
      have outcome := evaluateRule_outcome evalCondition candidate.2 request
      unfold scanRule
      cases met : holds evalCondition request candidate.2 with
      | false =>
          have left : (evaluateRule evalCondition candidate.2 request).1 = .notMatched := by simpa [met] using outcome
          simpa [left, met] using ih
      | true =>
          have denied : scan.deniedBy = before.filter denies := congrArg Scan.deniedBy ih
          have approval : scan.matchedApproval = before.find? asksApproval := congrArg Scan.matchedApproval ih
          have evidence : scan.matchedEvidence = before.find? asksEvidence := congrArg Scan.matchedEvidence ih
          have last : scan.matchedConstraints = (before.filter constrains).getLast? :=
            congrArg Scan.matchedConstraints ih
          have allowed : scan.matchedAllow = before.any allows := congrArg Scan.matchedAllow ih
          rw [if_pos met] at outcome
          cases effect : candidate.2.effect <;> rw [effect] at outcome <;> dsimp only at outcome
          all_goals
            simp [outcome, kept, met, denied, approval, evidence, last, allowed, List.find?_append, denies,
              asksApproval, asksEvidence, constrains, allows, effect]
          all_goals cases candidate.2.constraints <;> rfl

/-- Some matching rule denies. -/
def Denied (rules : List PolicyRule) : Prop := ∃ rule ∈ rules, rule.effect = .deny

/-- Evidence that a matching rule requires and the request does not refer to. -/
def Wanted (rules : List PolicyRule) (request : EvaluationRequest) (evidence : String) : Prop :=
  ∃ rule ∈ rules, rule.effect = .requireEvidence ∧ evidence ∈ missing rule request

/-- Some matching rule asks for approval. -/
def Gated (rules : List PolicyRule) : Prop := ∃ rule ∈ rules, rule.effect = .requireApproval

/-- The decision speaks of all the rules that match, not only of some of them. -/
structure Lawful (rules : List PolicyRule) (request : EvaluationRequest) (decision : DecisionPayload) : Prop where
  deny : decision.decision = .deny ↔ Denied rules
  evidence : ¬Denied rules →
    (decision.decision = .requireEvidence ↔ ∃ evidence, Wanted rules request evidence) ∧
      ∀ evidence, evidence ∈ decision.requiredEvidence ↔ Wanted rules request evidence
  approval : ¬Denied rules → (∀ evidence, ¬Wanted rules request evidence) →
    (decision.decision = .requireApproval ↔ Gated rules) ∧
      ∀ approval, approval ∈ decision.requiredApprovals ↔
        ∃ rule ∈ rules, rule.effect = .requireApproval ∧ approval ∈ rule.requiredApprovals
  constraints : ¬Denied rules → (∀ evidence, ¬Wanted rules request evidence) → ¬Gated rules →
    ∀ rule ∈ rules, rule.effect = .allowWithConstraints → rule.constraints ⊆ decision.constraints

/-- The rule that is kept of a kind asks for what every other matching rule of the kind asks for. -/
structure Covered (rules : List PolicyRule) (request : EvaluationRequest) : Prop where
  evidence : ¬Denied rules → ∀ first, rules.find? asksEvidence = some first →
    ∀ rule ∈ rules, rule.effect = .requireEvidence → missing rule request ⊆ missing first request
  approval : ¬Denied rules → (∀ evidence, ¬Wanted rules request evidence) →
    ∀ first, rules.find? asksApproval = some first → ∀ rule ∈ rules, rule.effect = .requireApproval →
      rule.requiredApprovals ⊆ uniqueApprovals first.requiredApprovals
  constraints : ¬Denied rules → (∀ evidence, ¬Wanted rules request evidence) → ¬Gated rules →
    ∀ last, (rules.filter constrains).getLast? = some last → ∀ rule ∈ rules, rule.effect = .allowWithConstraints →
      rule.constraints ⊆ last.constraints

/-- What the kept evidence rule still misses. -/
def demand (request : EvaluationRequest) (rules : List PolicyRule) : List String :=
  ((rules.find? asksEvidence).map fun rule => missing rule request).getD []

def settled (request : EvaluationRequest) (rules : List PolicyRule) : DecisionPayload := resolve request (kept rules)

/-- The decision as a function of what is kept: whether a rule denied, the evidence that is still
lacking, the rule that gates the request by approval and the rule whose constraints bind it. -/
def outcome (denied : Bool) (lacking : List String) (gate bound : Option PolicyRule) : DecisionPayload :=
  if denied then { decision := .deny }
  else if lacking.isEmpty then
    match gate, bound with
    | some rule, _ =>
        { decision := .requireApproval, requiredApprovals := uniqueApprovals rule.requiredApprovals,
          constraints := rule.constraints }
    | none, some rule => { decision := .allowWithConstraints, constraints := rule.constraints }
    | none, none => { decision := .allow }
  else { decision := .requireEvidence, requiredEvidence := lacking.insertionSort (· ≤ ·) }

def binding (rules : List PolicyRule) : Option PolicyRule := (rules.filter constrains).getLast?

variable {request : EvaluationRequest} {rules : List PolicyRule}

theorem denied_iff : rules.any denies = true ↔ Denied rules := by simp [Denied, denies]

theorem gated_iff : (rules.find? asksApproval).isSome = true ↔ Gated rules := by simp [Gated, asksApproval]

variable {rule : PolicyRule} {evidence : String} {decision : DecisionPayload}

theorem binding_constrains (bound : binding rules = some rule) :
    rule.constraints.isEmpty = false := by
  have constrained := (List.mem_filter.mp (List.mem_of_getLast? bound)).2
  simpa using (Bool.and_eq_true_iff.mp constrained).2

theorem resolveAllowed_outcome : resolveAllowed (kept rules) =
    { outcome false [] (rules.find? asksApproval) (binding rules) with
      reason := (resolveAllowed (kept rules)).reason } := by
  cases gate : rules.find? asksApproval with
  | some rule =>
      simp only [resolveAllowed, kept, gate]
      rfl
  | none =>
      cases bound : binding rules with
      | none =>
          have unbound : (rules.filter constrains).getLast? = none := bound
          simp only [resolveAllowed, kept, gate, unbound]
          rfl
      | some rule =>
          have last : (rules.filter constrains).getLast? = some rule := bound
          simp only [resolveAllowed, kept, gate, last, Option.filter, binding_constrains bound, Bool.not_false, if_true]
          rfl

/-- Apart from its reason, the decision is a function of what is kept. -/
theorem settled_outcome : settled request rules =
    { outcome (rules.any denies) (demand request rules) (rules.find? asksApproval) (binding rules) with
      reason := (settled request rules).reason } := by
  have refused : (kept rules).deniedBy.isEmpty = !rules.any denies := by
    cases any : rules.any denies <;> simp_all [kept]
  have evidence : (kept rules).matchedEvidence = rules.find? asksEvidence := rfl
  unfold demand
  simp only [settled, resolve, refused, evidence]
  cases rules.any denies with
  | true => rfl
  | false =>
      cases rules.find? asksEvidence with
      | none => exact resolveAllowed_outcome
      | some rule =>
          simp only [Option.map_some, Option.getD_some]
          cases missing rule request with
          | nil => exact resolveAllowed_outcome
          | cons first rest => rfl

variable {lacking : List String} {gate bound : Option PolicyRule}

theorem outcome_deny {denied : Bool} : (outcome denied lacking gate bound).decision = .deny ↔ denied = true := by
  unfold outcome
  cases denied <;> cases lacking.isEmpty <;> cases gate <;> cases bound <;> simp

theorem outcome_evidence : ((outcome false lacking gate bound).decision = .requireEvidence ↔ lacking ≠ []) ∧
    ∀ evidence, evidence ∈ (outcome false lacking gate bound).requiredEvidence ↔ evidence ∈ lacking := by
  unfold outcome
  cases lacking <;> cases gate <;> cases bound <;> simp

theorem outcome_approval : ((outcome false [] gate bound).decision = .requireApproval ↔ gate.isSome = true) ∧
    (outcome false [] gate bound).requiredApprovals =
      (gate.map fun rule => uniqueApprovals rule.requiredApprovals).getD [] := by
  cases gate <;> cases bound <;> simp [outcome]

theorem outcome_constraints : (outcome false [] none bound).constraints =
    (bound.map fun rule => rule.constraints).getD [] := by
  cases bound <;> rfl

theorem demand_wanted (lacking : evidence ∈ demand request rules) :
    Wanted rules request evidence := by
  unfold demand at lacking
  cases found : rules.find? asksEvidence with
  | none => simp [found] at lacking
  | some first =>
      rw [found] at lacking
      have effect : first.effect = .requireEvidence := by simpa [asksEvidence] using List.find?_some found
      exact ⟨first, List.mem_of_find?_eq_some found, effect, lacking⟩

theorem demand_of_nothing (nothing : ∀ evidence, ¬Wanted rules request evidence) : demand request rules = [] :=
  List.eq_nil_iff_forall_not_mem.mpr fun evidence lacking => nothing evidence (demand_wanted lacking)

theorem Covered.wanted_demand (covered : Covered rules request) (passed : ¬Denied rules)
    (wanted : Wanted rules request evidence) : evidence ∈ demand request rules := by
  obtain ⟨rule, member, effect, lacking⟩ := wanted
  cases found : rules.find? asksEvidence with
  | none => simpa [asksEvidence, effect] using List.find?_eq_none.mp found rule member
  | some first => simpa [demand, found] using covered.evidence passed first found rule member effect lacking

theorem mem_constrains (member : rule ∈ rules) (effect : rule.effect = .allowWithConstraints)
    (nonempty : rule.constraints ≠ []) : rule ∈ rules.filter constrains :=
  List.mem_filter.mpr ⟨member, by simp [constrains, allows, effect, nonempty]⟩

/-- What the law says of a decision that is an outcome, kind by kind. -/
theorem Covered.of_lawful (passed : ¬Denied rules)
    (lawful : Lawful rules request
      (outcome false (demand request rules) (rules.find? asksApproval) (binding rules))) : Covered rules request where
  evidence := by
    intro _ first found rule member effect evidence lacking
    have inside := (outcome_evidence.2 evidence).mp
      (((lawful.evidence passed).2 evidence).mpr ⟨rule, member, effect, lacking⟩)
    simpa [demand, found] using inside
  approval := by
    intro _ nothing first found rule member effect approval asked
    have inside := ((lawful.approval passed nothing).2 approval).mpr ⟨rule, member, effect, asked⟩
    rw [demand_of_nothing nothing, outcome_approval.2, found] at inside
    exact inside
  constraints := by
    intro _ nothing ungated last found rule member effect
    have inside := lawful.constraints passed nothing ungated rule member effect
    have gate : rules.find? asksApproval = none := by simpa using mt gated_iff.mp ungated
    rw [demand_of_nothing nothing, gate, outcome_constraints, binding, found] at inside
    exact inside

theorem Covered.lawful (covered : Covered rules request) (passed : ¬Denied rules) :
    Lawful rules request
      (outcome false (demand request rules) (rules.find? asksApproval) (binding rules)) where
  deny := by simp [outcome_deny, passed]
  evidence := by
    intro _
    refine ⟨outcome_evidence.1.trans ?_, fun evidence =>
      (outcome_evidence.2 evidence).trans ⟨demand_wanted, covered.wanted_demand passed⟩⟩
    constructor
    · intro lacking
      exact (List.exists_mem_of_ne_nil _ lacking).imp fun evidence => demand_wanted
    · rintro ⟨evidence, wanted⟩
      exact List.ne_nil_of_mem (covered.wanted_demand passed wanted)
  approval := by
    intro _ nothing
    rw [demand_of_nothing nothing, ← gated_iff]
    refine ⟨outcome_approval.1, fun approval => ?_⟩
    rw [outcome_approval.2]
    constructor
    · intro inside
      cases found : rules.find? asksApproval with
      | none => simp [found] at inside
      | some first =>
          rw [found] at inside
          have effect : first.effect = .requireApproval := by simpa [asksApproval] using List.find?_some found
          exact ⟨first, List.mem_of_find?_eq_some found, effect, mem_of_keepFirst _ _ _ inside⟩
    · rintro ⟨rule, member, effect, wanted⟩
      cases found : rules.find? asksApproval with
      | none => simpa [asksApproval, effect] using List.find?_eq_none.mp found rule member
      | some first => exact covered.approval passed nothing first found rule member effect wanted
  constraints := by
    intro _ nothing ungated rule member effect constraint bound
    have gate : rules.find? asksApproval = none := by simpa using mt gated_iff.mp ungated
    rw [demand_of_nothing nothing, gate, outcome_constraints]
    have constrained := mem_constrains member effect (List.ne_nil_of_mem bound)
    cases found : binding rules with
    | none => simp [List.getLast?_eq_none_iff.mp found] at constrained
    | some last => exact covered.constraints passed nothing ungated last found rule member effect bound

theorem Lawful.of_same_rules {others : List PolicyRule}
    (same : ∀ rule, rule ∈ rules ↔ rule ∈ others) (lawful : Lawful rules request decision) :
    Lawful others request decision := by
  have denied : Denied rules ↔ Denied others := by simp only [Denied, same]
  have gated : Gated rules ↔ Gated others := by simp only [Gated, same]
  have wanted (evidence : String) : Wanted rules request evidence ↔ Wanted others request evidence := by
    simp only [Wanted, same]
  have evidence := lawful.evidence
  have approval := lawful.approval
  have constraints := lawful.constraints
  simp only [denied, gated, wanted, same] at evidence approval constraints
  exact ⟨lawful.deny.trans denied, evidence, approval, constraints⟩

/-- The law does not speak of the reason, nor of the report on rules and exceptions. -/
theorem Lawful.of_reported {reason : String} {report : List PolicyEvaluation} {applied : List String} :
    Lawful rules request
        { decision with reason := reason, evaluatedPolicies := report, exceptionsApplied := applied } ↔
      Lawful rules request decision := by
  constructor
  · intro lawful
    exact ⟨lawful.deny, lawful.evidence, lawful.approval, lawful.constraints⟩
  · intro lawful
    exact ⟨lawful.deny, lawful.evidence, lawful.approval, lawful.constraints⟩

/-- The decision speaks of all the rules exactly when the kept ones cover the others. -/
theorem outcome_lawful_iff : Lawful rules request
    (outcome (rules.any denies) (demand request rules) (rules.find? asksApproval) (binding rules)) ↔
      Covered rules request := by
  by_cases denied : Denied rules
  · constructor
    · intro _
      exact ⟨absurd denied, absurd denied, absurd denied⟩
    · intro _
      exact ⟨outcome_deny.trans denied_iff, absurd denied, absurd denied, absurd denied⟩
  · have passed : rules.any denies = false := by simpa using mt denied_iff.mp denied
    rw [passed]
    exact ⟨Covered.of_lawful denied, fun covered => covered.lawful denied⟩

end

variable (evalCondition : Condition → EvaluationRequest → Bool × String) {exceptions : List GovernanceException}
  {now : Int} {request : EvaluationRequest}

/-- Without an exception in force, the decision is the outcome of the matching rules in their order. -/
theorem evaluate_outcome (policySets : List PolicySet) (unexcepted : applicableTo exceptions now request = []) :
    ∃ reason report applied, (evaluate evalCondition policySets exceptions now request).1 =
      { outcome ((orderedMatching evalCondition policySets request).any denies)
          (demand request (orderedMatching evalCondition policySets request))
          ((orderedMatching evalCondition policySets request).find? asksApproval)
          (binding (orderedMatching evalCondition policySets request)) with
        reason := reason, evaluatedPolicies := report, exceptionsApplied := applied } := by
  have scanned := scan_spec evalCondition request (rulesFor policySets request.subjectType request.action)
  rw [rulesFor_snd] at scanned
  change _ = kept (orderedMatching evalCondition policySets request) at scanned
  simp only [evaluate, unexcepted]
  generalize (rulesFor policySets request.subjectType request.action).foldl
    (scanRule evalCondition request []) {} = scan at scanned ⊢
  have resolved : resolve request scan = settled request (orderedMatching evalCondition policySets request) := by
    rw [settled, ← scanned]
    rfl
  rw [resolved, settled_outcome]
  exact ⟨_, _, _, rfl⟩

theorem evaluate_lawful_iff (policySets : List PolicySet) (unexcepted : applicableTo exceptions now request = []) :
    Lawful (matching evalCondition policySets request) request
        (evaluate evalCondition policySets exceptions now request).1 ↔
      Covered (orderedMatching evalCondition policySets request) request := by
  obtain ⟨reason, report, applied, same⟩ := evaluate_outcome evalCondition policySets unexcepted
  rw [same, Lawful.of_reported, ← outcome_lawful_iff]
  constructor
  · exact Lawful.of_same_rules fun rule => (mem_orderedMatching evalCondition).symm
  · exact Lawful.of_same_rules fun rule => mem_orderedMatching evalCondition

end AutonomousApi.Compliance
