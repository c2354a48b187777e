import AutonomousApi.ComplianceLaws

/-! What one more rule does to the decision. The engine keeps one rule of each kind, so a rule that
takes the place of the kept one can make the decision weaker. -/

namespace AutonomousApi.Compliance

open StableSort

/-- The decisions in the order in which the engine prefers them. -/
def Decision.rank : Decision → Nat
  | .allow => 0
  | .allowWithConstraints => 1
  | .requireApproval => 2
  | .requireEvidence => 3
  | .deny => 4

/-- A stricter decision, or the same with nothing that was asked left out. -/
def AtLeastAsStrict (after before : DecisionPayload) : Prop :=
  before.decision.rank < after.decision.rank ∨
    before.decision.rank = after.decision.rank ∧ before.requiredEvidence ⊆ after.requiredEvidence ∧
      before.requiredApprovals ⊆ after.requiredApprovals ∧ before.constraints ⊆ after.constraints

theorem AtLeastAsStrict.refl (decision : DecisionPayload) : AtLeastAsStrict decision decision :=
  .inr ⟨rfl, List.Subset.refl _, List.Subset.refl _, List.Subset.refl _⟩

/-- The reasons and the reports play no part. -/
theorem atLeastAsStrict_reported {after before : DecisionPayload} {reason reason' : String}
    {report report' : List PolicyEvaluation} {applied applied' : List String} :
    AtLeastAsStrict
        { after with reason := reason, evaluatedPolicies := report, exceptionsApplied := applied }
        { before with reason := reason', evaluatedPolicies := report', exceptionsApplied := applied' } ↔
      AtLeastAsStrict after before := Iff.rfl

variable {denied : Bool} {lacking : List String} {gate bound : Option PolicyRule}

theorem strict_of_denied : AtLeastAsStrict (outcome true lacking gate bound) (outcome denied lacking gate bound) := by
  cases denied with
  | true => exact .refl _
  | false =>
      left
      cases lacking <;> cases gate <;> cases bound <;> simp [outcome, Decision.rank]

theorem strict_lacking_iff (lacking' : List String) :
    AtLeastAsStrict (outcome denied lacking' gate bound) (outcome denied lacking gate bound) ↔
      denied = true ∨ lacking ⊆ lacking' := by
  cases denied with
  | true => simpa [outcome] using AtLeastAsStrict.refl _
  | false =>
      cases lacking with
      | nil =>
          cases lacking' with
          | nil => simpa using AtLeastAsStrict.refl _
          | cons head rest =>
              simp only [List.nil_subset, or_true, iff_true]
              left
              cases gate <;> cases bound <;> simp [outcome, Decision.rank]
      | cons first others =>
          cases lacking' with
          | nil => cases gate <;> cases bound <;> simp [outcome, AtLeastAsStrict, Decision.rank]
          | cons head rest =>
              have sorted {items : List String} {item : String} : item ∈ items.insertionSort (· ≤ ·) ↔ item ∈ items :=
                List.mem_insertionSort _
              simp [outcome, AtLeastAsStrict, Decision.rank, List.subset_def, sorted]

theorem strict_gate_iff (rule : PolicyRule) :
    AtLeastAsStrict (outcome denied lacking (some rule) bound) (outcome denied lacking gate bound) ↔
      denied = true ∨ lacking ≠ [] ∨ ∀ first, gate = some first →
        uniqueApprovals first.requiredApprovals ⊆ uniqueApprovals rule.requiredApprovals ∧
          first.constraints ⊆ rule.constraints := by
  cases denied with
  | true => simpa [outcome] using AtLeastAsStrict.refl _
  | false =>
      cases lacking with
      | cons first others => simpa [outcome] using AtLeastAsStrict.refl _
      | nil =>
          cases gate with
          | none => cases bound <;> simp [outcome, AtLeastAsStrict, Decision.rank]
          | some first => simp [outcome, AtLeastAsStrict, Decision.rank]

theorem strict_bound_iff (rule : PolicyRule) :
    AtLeastAsStrict (outcome denied lacking gate (some rule)) (outcome denied lacking gate bound) ↔
      denied = true ∨ lacking ≠ [] ∨ gate.isSome = true ∨
        ∀ last, bound = some last → last.constraints ⊆ rule.constraints := by
  cases denied with
  | true => simpa [outcome] using AtLeastAsStrict.refl _
  | false =>
      cases lacking with
      | cons first others => simpa [outcome] using AtLeastAsStrict.refl _
      | nil =>
          cases gate with
          | some first => simpa [outcome] using AtLeastAsStrict.refl _
          | none => cases bound <;> simp [outcome, AtLeastAsStrict, Decision.rank]

/-- The added rule takes the place of no kept rule, or it asks for all that the kept rule asked for;
where a stricter kind of rule decides before and after, its place does not matter. -/
def Undisplacing (request : EvaluationRequest) (ahead : List PolicyRule) (added : PolicyRule)
    (behind : List PolicyRule) : Prop :=
  match added.effect with
  | .requireEvidence =>
      Denied (ahead ++ behind) ∨ (∃ rule ∈ ahead, rule.effect = .requireEvidence) ∨
        ∀ first, behind.find? asksEvidence = some first → missing first request ⊆ missing added request
  | .requireApproval =>
      Denied (ahead ++ behind) ∨ demand request (ahead ++ behind) ≠ [] ∨ Gated ahead ∨
        ∀ first, behind.find? asksApproval = some first →
          uniqueApprovals first.requiredApprovals ⊆ uniqueApprovals added.requiredApprovals ∧
            first.constraints ⊆ added.constraints
  | .allowWithConstraints =>
      Denied (ahead ++ behind) ∨ demand request (ahead ++ behind) ≠ [] ∨ Gated (ahead ++ behind) ∨
        added.constraints = [] ∨ (binding behind).isSome = true ∨
          ∀ last, binding ahead = some last → last.constraints ⊆ added.constraints
  | .deny | .allow => True

variable (request : EvaluationRequest) (ahead behind : List PolicyRule) (added : PolicyRule)

theorem demand_eq_of_effect (other : added.effect ≠ .requireEvidence) :
    demand request (ahead ++ added :: behind) = demand request (ahead ++ behind) := by
  simp [demand, List.find?_append, asksEvidence, other]

theorem gate_eq_of_effect (other : added.effect ≠ .requireApproval) :
    (ahead ++ added :: behind).find? asksApproval = (ahead ++ behind).find? asksApproval := by
  simp [List.find?_append, asksApproval, other]

theorem denied_eq_of_effect (other : added.effect ≠ .deny) :
    (ahead ++ added :: behind).any denies = (ahead ++ behind).any denies := by
  simp [denies, other]

theorem binding_eq_of_constrains (other : constrains added = false) :
    binding (ahead ++ added :: behind) = binding (ahead ++ behind) := by
  simp [binding, other]

theorem constrains_of_effect (other : added.effect ≠ .allow) (further : added.effect ≠ .allowWithConstraints) :
    constrains added = false := by
  simp [constrains, allows, other, further]

theorem binding_append : binding (ahead ++ behind) = (binding behind).or (binding ahead) := by
  simp [binding]

theorem addition_evidence (effect : added.effect = .requireEvidence) :
    ((ahead ++ behind).any denies = true ∨
        demand request (ahead ++ behind) ⊆ demand request (ahead ++ added :: behind)) ↔
      Undisplacing request ahead added behind := by
  simp only [Undisplacing, effect, denied_iff]
  refine or_congr_right ?_
  cases found : ahead.find? asksEvidence with
  | some first =>
      have inside : ∃ rule ∈ ahead, rule.effect = .requireEvidence :=
        ⟨first, List.mem_of_find?_eq_some found, by simpa [asksEvidence] using List.find?_some found⟩
      simp [demand, List.find?_append, found, inside]
  | none =>
      have outside : ¬∃ rule ∈ ahead, rule.effect = .requireEvidence := by
        simpa [asksEvidence] using List.find?_eq_none.mp found
      simp only [outside, false_or]
      cases next : behind.find? asksEvidence <;>
        simp [demand, List.find?_append, found, next, asksEvidence, effect]

theorem addition_gate (effect : added.effect = .requireApproval) (bound : Option PolicyRule) :
    AtLeastAsStrict
        (outcome ((ahead ++ behind).any denies) (demand request (ahead ++ behind))
          ((ahead ++ added :: behind).find? asksApproval) bound)
        (outcome ((ahead ++ behind).any denies) (demand request (ahead ++ behind))
          ((ahead ++ behind).find? asksApproval) bound) ↔
      Undisplacing request ahead added behind := by
  simp only [Undisplacing, effect, List.find?_append, ← gated_iff, ← denied_iff]
  cases found : ahead.find? asksApproval with
  | some first => simpa using AtLeastAsStrict.refl _
  | none =>
      have asks : asksApproval added = true := by simp [asksApproval, effect]
      simp [asks, strict_gate_iff]

theorem addition_bound (effect : added.effect = .allowWithConstraints) :
    AtLeastAsStrict
        (outcome ((ahead ++ behind).any denies) (demand request (ahead ++ behind))
          ((ahead ++ behind).find? asksApproval) (binding (ahead ++ added :: behind)))
        (outcome ((ahead ++ behind).any denies) (demand request (ahead ++ behind))
          ((ahead ++ behind).find? asksApproval) (binding (ahead ++ behind))) ↔
      Undisplacing request ahead added behind := by
  simp only [Undisplacing, effect, ← gated_iff, ← denied_iff]
  cases bare : added.constraints with
  | nil =>
      have other : constrains added = false := by simp [constrains, bare]
      simpa [binding_eq_of_constrains _ _ _ other] using AtLeastAsStrict.refl _
  | cons head rest =>
      have constrained : constrains added = true := by simp [constrains, allows, effect, bare]
      have own : binding (added :: behind) = (binding behind).or (some added) := by
        have alone : binding [added] = some added := by simp [binding, constrained]
        rw [← alone]
        exact binding_append [added] behind
      rw [binding_append, binding_append, own]
      cases found : binding behind with
      | some last => simpa using AtLeastAsStrict.refl _
      | none => simp [strict_bound_iff, bare]

/-- One more rule leaves the decision at least as strict exactly when it displaces none. -/
theorem addition_iff (effect : added.effect ≠ .allow) :
    AtLeastAsStrict
        (outcome ((ahead ++ added :: behind).any denies) (demand request (ahead ++ added :: behind))
          ((ahead ++ added :: behind).find? asksApproval) (binding (ahead ++ added :: behind)))
        (outcome ((ahead ++ behind).any denies) (demand request (ahead ++ behind))
          ((ahead ++ behind).find? asksApproval) (binding (ahead ++ behind))) ↔
      Undisplacing request ahead added behind := by
  cases kind : added.effect with
  | allow => exact absurd kind effect
  | deny =>
      rw [demand_eq_of_effect _ _ _ _ (by simp [kind]), gate_eq_of_effect _ _ _ (by simp [kind]),
        binding_eq_of_constrains _ _ _ (constrains_of_effect _ (by simp [kind]) (by simp [kind]))]
      have denying : (ahead ++ added :: behind).any denies = true := by simp [denies, kind]
      simp only [denying, strict_of_denied, Undisplacing, kind]
  | requireEvidence =>
      rw [denied_eq_of_effect _ _ _ (by simp [kind]), gate_eq_of_effect _ _ _ (by simp [kind]),
        binding_eq_of_constrains _ _ _ (constrains_of_effect _ (by simp [kind]) (by simp [kind])),
        strict_lacking_iff]
      exact addition_evidence request ahead behind added kind
  | requireApproval =>
      rw [denied_eq_of_effect _ _ _ (by simp [kind]), demand_eq_of_effect _ _ _ _ (by simp [kind]),
        binding_eq_of_constrains _ _ _ (constrains_of_effect _ (by simp [kind]) (by simp [kind]))]
      exact addition_gate request ahead behind added kind _
  | allowWithConstraints =>
      rw [denied_eq_of_effect _ _ _ (by simp [kind]), demand_eq_of_effect _ _ _ _ (by simp [kind]),
        gate_eq_of_effect _ _ _ (by simp [kind])]
      exact addition_bound request ahead behind added kind

/-- The rule is in force and its conditions hold of the request. -/
def Applicable (evalCondition : Condition → EvaluationRequest → Bool × String) (policySet : PolicySet)
    (rule : PolicyRule) (request : EvaluationRequest) : Prop :=
  policySet.status = .active ∧ rule.speaksTo request.subjectType request.action = true ∧
    holds evalCondition request rule = true

/-- A rule written into a policy set enters the candidates at one place, or not at all. -/
theorem candidates_around (fore aft : List PolicySet) (policySet : PolicySet) (front back : List PolicyRule)
    (added : PolicyRule) (subjectType action : String) :
    ∃ left right,
      (candidates (fore ++ { policySet with policyRules := front ++ back } :: aft) subjectType action).map Prod.snd =
        left ++ right ∧
      (candidates (fore ++ { policySet with policyRules := front ++ added :: back } :: aft) subjectType
          action).map Prod.snd =
        left ++ (if policySet.status = .active ∧ added.speaksTo subjectType action = true then [added] else []) ++
          right := by
  have rules (policySets : List PolicySet) : (candidates policySets subjectType action).map Prod.snd =
      (policySets.filter fun policySet => policySet.status = .active).flatMap fun policySet =>
        policySet.policyRules.filter fun rule => rule.speaksTo subjectType action := by
    simp [candidates, List.map_flatMap, Function.comp_def]
  by_cases active : policySet.status = .active
  · refine ⟨(candidates fore subjectType action).map Prod.snd ++
        front.filter (fun rule => rule.speaksTo subjectType action),
      back.filter (fun rule => rule.speaksTo subjectType action) ++
        (candidates aft subjectType action).map Prod.snd, ?_, ?_⟩
    · simp [rules, active]
    · cases speaks : added.speaksTo subjectType action <;> simp [rules, active, speaks]
  · exact ⟨(candidates fore subjectType action).map Prod.snd, (candidates aft subjectType action).map Prod.snd,
      by simp [rules, active], by simp [rules, active]⟩

/-- A rule written into a policy set enters the matching rules at one place, or not at all. -/
theorem orderedMatching_around (evalCondition : Condition → EvaluationRequest → Bool × String)
    (request : EvaluationRequest) (fore aft : List PolicySet) (policySet : PolicySet)
    (front back : List PolicyRule) (added : PolicyRule) :
    ∃ ahead behind,
      orderedMatching evalCondition (fore ++ { policySet with policyRules := front ++ back } :: aft) request =
        ahead ++ behind ∧
      (Applicable evalCondition policySet added request →
        orderedMatching evalCondition (fore ++ { policySet with policyRules := front ++ added :: back } :: aft)
          request = ahead ++ added :: behind) ∧
      (¬Applicable evalCondition policySet added request →
        orderedMatching evalCondition (fore ++ { policySet with policyRules := front ++ added :: back } :: aft)
          request = ahead ++ behind) := by
  obtain ⟨left, right, before, after⟩ :=
    candidates_around fore aft policySet front back added request.subjectType request.action
  obtain ⟨ahead, behind, within, without⟩ := @insertionSort_around _ Sooner _ _ _ left right added
  refine ⟨ahead.filter (holds evalCondition request), behind.filter (holds evalCondition request), ?_, ?_, ?_⟩
  · rw [orderedMatching, before, without, List.filter_append]
  · rintro ⟨active, speaks, met⟩
    rw [orderedMatching, after, if_pos ⟨active, speaks⟩, List.append_assoc, List.singleton_append, within,
      List.filter_append, List.filter_cons_of_pos met]
  · intro idle
    rw [orderedMatching, after]
    split
    · next speaking =>
        have unmet : ¬holds evalCondition request added = true := fun met => idle ⟨speaking.1, speaking.2, met⟩
        rw [List.append_assoc, List.singleton_append, within, List.filter_append, List.filter_cons_of_neg unmet]
    · rw [List.append_nil, without, List.filter_append]

/-- The decision speaks of all the matching rules exactly when the kept ones cover the others, and a
rule that is added leaves it at least as strict exactly when it displaces no kept rule. -/
theorem evaluate_law (evalCondition : Condition → EvaluationRequest → Bool × String)
    (exceptions : List GovernanceException) (now : Int) (request : EvaluationRequest)
    (unexcepted : applicableTo exceptions now request = []) :
    (∀ policySets : List PolicySet,
      Lawful (matching evalCondition policySets request) request
          (evaluate evalCondition policySets exceptions now request).1 ↔
        Covered (orderedMatching evalCondition policySets request) request) ∧
    ∀ (fore aft : List PolicySet) (policySet : PolicySet) (front back : List PolicyRule) (added : PolicyRule),
      added.effect ≠ .allow →
      ∃ ahead behind,
        orderedMatching evalCondition (fore ++ { policySet with policyRules := front ++ back } :: aft) request =
          ahead ++ behind ∧
        (Applicable evalCondition policySet added request →
          orderedMatching evalCondition (fore ++ { policySet with policyRules := front ++ added :: back } :: aft)
            request = ahead ++ added :: behind) ∧
        (AtLeastAsStrict
            (evaluate evalCondition (fore ++ { policySet with policyRules := front ++ added :: back } :: aft)
              exceptions now request).1
            (evaluate evalCondition (fore ++ { policySet with policyRules := front ++ back } :: aft)
              exceptions now request).1 ↔
          (Applicable evalCondition policySet added request → Undisplacing request ahead added behind)) := by
  refine ⟨fun policySets => evaluate_lawful_iff evalCondition policySets unexcepted, ?_⟩
  intro fore aft policySet front back added effect
  obtain ⟨ahead, behind, before, entered, absent⟩ :=
    orderedMatching_around evalCondition request fore aft policySet front back added
  refine ⟨ahead, behind, before, entered, ?_⟩
  obtain ⟨reason, report, applied, earlier⟩ := evaluate_outcome evalCondition
    (fore ++ { policySet with policyRules := front ++ back } :: aft) unexcepted
  obtain ⟨reason', report', applied', later⟩ := evaluate_outcome evalCondition
    (fore ++ { policySet with policyRules := front ++ added :: back } :: aft) unexcepted
  rw [earlier, later, atLeastAsStrict_reported, before]
  by_cases applicable : Applicable evalCondition policySet added request
  · rw [entered applicable, addition_iff request ahead behind added effect]
    exact ⟨fun undisplacing _ => undisplacing, fun undisplacing => undisplacing applicable⟩
  · rw [absent applicable]
    exact iff_of_true (AtLeastAsStrict.refl _) fun further => absurd further applicable

def alwaysMet : Condition → EvaluationRequest → Bool × String := fun _ _ => (true, "met")

def evidenceRule (id evidence : String) : PolicyRule :=
  { id, name := id, effect := .requireEvidence, subjectTypes := ["GENE"], actions := ["MUTATE"],
    requiredEvidence := [evidence] }

def mutation : EvaluationRequest :=
  { subjectType := "GENE", subjectId := "gene-1", action := "MUTATE", actor := { actorId := "agent" },
    evidenceRefs := ["audit"] }

def reviews (rules : List PolicyRule) : List PolicySet := [{ id := "reviews", status := .active, policyRules := rules }]

theorem evaluate_law_alone :
    Lawful (matching alwaysMet (reviews [evidenceRule "b" "test"]) mutation) mutation
      (evaluate alwaysMet (reviews [evidenceRule "b" "test"]) [] 0 mutation).1 := by
  apply ((evaluate_law alwaysMet [] 0 mutation rfl).1 (reviews [evidenceRule "b" "test"])).mpr
  have alone : orderedMatching alwaysMet (reviews [evidenceRule "b" "test"]) mutation = [evidenceRule "b" "test"] := by
    decide
  have ungated : (orderedMatching alwaysMet (reviews [evidenceRule "b" "test"]) mutation).find? asksApproval =
      none := by decide
  have unbound : ((orderedMatching alwaysMet (reviews [evidenceRule "b" "test"]) mutation).filter
      constrains).getLast? = none := by decide
  constructor
  case evidence =>
    intro _ first found rule member _
    have kept := List.mem_of_find?_eq_some found
    rw [alone, List.mem_singleton] at kept member
    rw [kept, member]
    exact List.Subset.refl _
  case approval =>
    intro _ _ first found
    rw [ungated] at found
    cases found
  case constraints =>
    intro _ _ _ last found
    rw [unbound] at found
    cases found

/-- The evidence that the second rule asks for is overlooked once the first rule is there, whose
evidence the request has. -/
theorem evidence_overlooked :
    ¬Lawful (matching alwaysMet (reviews [evidenceRule "a" "audit", evidenceRule "b" "test"]) mutation) mutation
        (evaluate alwaysMet (reviews [evidenceRule "a" "audit", evidenceRule "b" "test"]) [] 0 mutation).1 ∧
      ¬AtLeastAsStrict
        (evaluate alwaysMet (reviews [evidenceRule "a" "audit", evidenceRule "b" "test"]) [] 0 mutation).1
        (evaluate alwaysMet (reviews [evidenceRule "b" "test"]) [] 0 mutation).1 := by
  have after : (evaluate alwaysMet (reviews [evidenceRule "a" "audit", evidenceRule "b" "test"]) [] 0
      mutation).1.decision = .allow := by decide
  have before : (evaluate alwaysMet (reviews [evidenceRule "b" "test"]) [] 0 mutation).1.decision =
      .requireEvidence := by decide
  constructor
  · intro lawful
    have member : evidenceRule "b" "test" ∈
        matching alwaysMet (reviews [evidenceRule "a" "audit", evidenceRule "b" "test"]) mutation := by
      decide
    have passed : ¬Denied (matching alwaysMet (reviews [evidenceRule "a" "audit", evidenceRule "b" "test"])
        mutation) := by
      rw [← lawful.deny, after]
      decide
    have wanted := (lawful.evidence passed).1.mpr ⟨"test", _, member, rfl, by decide⟩
    rw [after] at wanted
    cases wanted
  · simp [AtLeastAsStrict, after, before, Decision.rank]

end AutonomousApi.Compliance
