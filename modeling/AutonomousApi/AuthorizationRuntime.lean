import AutonomousApi.Authorization

/-! The two decision procedures of a generated program: `evaluate` of app/core/authorization.py with the
tenant of the resource and its attributes, and `authorize` of app/core/behavior.py. Both let a matching deny
rule win over every allow rule; they differ in which rules match. Rules stand for their payloads. -/

namespace AutonomousApi.AuthorizationRuntime

open JsonValue IsrBehavior CompilationPlan OrderedMap DeclaredApi Authorization

structure Principal extends Authorization.Principal where
  principalId : String
  tenantId : Option String := none

def conditionMatches (principal : Principal) (attributes : Dict String Json) (condition : String × Json) : Bool :=
  match get attributes condition.1 with
  | some actual => pyEqual actual condition.2
  | none =>
      match get principal.attributes condition.1 with
      | some actual => pyEqual actual condition.2
      | none => false

/-- `_matches`. -/
def ruleMatches (principal : Principal) (action resource : String) (attributes : Dict String Json)
    (rule : AuthorizationRule) : Bool :=
  resourceMatches resource rule && governs action rule && (rule.roles.any fun role => principal.roles.contains role) &&
    rule.conditions.all (conditionMatches principal attributes)

inductive Decision where
  | tenantMissing
  | differentTenant
  | explicitDeny (ruleId : String)
  | allowed (ruleId : String)
  | defaultDeny
  deriving DecidableEq

def Decision.allows : Decision → Bool
  | .allowed _ => true
  | _ => false

def Decision.reason : Decision → String
  | .tenantMissing => "tenant identity is missing"
  | .differentTenant => "resource belongs to a different tenant"
  | .explicitDeny ruleId => "explicit deny rule '" ++ ruleId ++ "' matched"
  | .allowed ruleId => "allow rule '" ++ ruleId ++ "' matched"
  | .defaultDeny => "no matching allow rule; default deny"

/-- The test of the resource's tenant; nothing when it does not decide. -/
def tenantRefusal (principal : Principal) (attributes : Dict String Json) : Option Decision :=
  match get attributes "tenant_id" with
  | none => none
  | some resourceTenant =>
      if resourceTenant = .null then none
      else
        match principal.tenantId with
        | none => some .tenantMissing
        | some tenant =>
            if tenant = "" then some .tenantMissing
            else if pyEqual (.str tenant) resourceTenant then none
            else some .differentTenant

def rulesOf (policies : List SecurityPolicy) : List AuthorizationRule := policies.flatMap policyRules

def evaluate (policies : List SecurityPolicy) (principal : Principal) (action resource : String)
    (attributes : Dict String Json) : Decision :=
  match tenantRefusal principal attributes with
  | some refusal => refusal
  | none =>
      let fits (effect : RuleEffect) (rule : AuthorizationRule) :=
        rule.effect == effect && ruleMatches principal action resource attributes rule
      match (rulesOf policies).find? (fits .deny) with
      | some rule => .explicitDeny rule.ruleId
      | none =>
          match (rulesOf policies).find? (fits .allow) with
          | some rule => .allowed rule.ruleId
          | none => .defaultDeny

/-- The tests of `authorize` that skip a rule. -/
def authorizes (role action resource : String) (attributes : Dict String Json) (rule : AuthorizationRule) : Bool :=
  rule.roles.contains role && rule.actions.contains action && resourceMatches resource rule &&
    rule.conditions.all fun condition => pyEqual ((get attributes condition.1).getD .null) condition.2

def authorizeRules (fits : AuthorizationRule → Bool) (matchedAllow : Bool) : List AuthorizationRule → Bool
  | [] => matchedAllow
  | rule :: rest =>
      if fits rule then
        match rule.effect with
        | .deny => false
        | .allow => authorizeRules fits true rest
      else authorizeRules fits matchedAllow rest

def authorize (policies : List SecurityPolicy) (role action resource : String) (attributes : Dict String Json) : Bool :=
  authorizeRules (authorizes role action resource attributes) false (rulesOf policies)

/-- No deny rule fits and some allow rule does. -/
def Grants (fits : AuthorizationRule → Bool) (rules : List AuthorizationRule) : Prop :=
  (∀ rule ∈ rules, rule.effect = .deny → fits rule = false) ∧ ∃ rule ∈ rules, rule.effect = .allow ∧ fits rule = true

variable {fits : AuthorizationRule → Bool} {rules others : List AuthorizationRule} {rule : AuthorizationRule}

theorem Grants.of_perm (same : rules.Perm others) (grants : Grants fits rules) : Grants fits others := by
  obtain ⟨undenied, rule, member, allows, fit⟩ := grants
  exact ⟨fun other inside => undenied other (same.mem_iff.mpr inside), rule, same.mem_iff.mp member, allows, fit⟩

theorem Grants.of_denied (denies : rule.effect = .deny) (grants : Grants fits (rule :: rules)) : Grants fits rules := by
  obtain ⟨undenied, other, member, allows, fit⟩ := grants
  refine ⟨fun other inside => undenied other (List.mem_cons_of_mem _ inside), other, ?_, allows, fit⟩
  refine (List.mem_cons.mp member).resolve_left fun same => ?_
  rw [same, denies] at allows
  cases allows

theorem Grants.of_allowed (allows : rule.effect = .allow) (grants : Grants fits rules) :
    Grants fits (rule :: rules) := by
  obtain ⟨undenied, other, member, also, fit⟩ := grants
  refine ⟨fun other inside denies => ?_, other, List.mem_cons_of_mem _ member, also, fit⟩
  rcases List.mem_cons.mp inside with same | later
  · rw [same, allows] at denies
    cases denies
  · exact undenied other later denies

theorem authorizeRules_iff (matchedAllow : Bool) :
    authorizeRules fits matchedAllow rules = true ↔
      (∀ rule ∈ rules, rule.effect = .deny → fits rule = false) ∧
        (matchedAllow = true ∨ ∃ rule ∈ rules, rule.effect = .allow ∧ fits rule = true) := by
  induction rules generalizing matchedAllow with
  | nil => simp [authorizeRules]
  | cons rule rest ih =>
      rw [authorizeRules, List.forall_mem_cons, List.exists_mem_cons_iff]
      cases fit : fits rule with
      | false => simp [ih]
      | true =>
          cases effect : rule.effect with
          | deny => simp
          | allow => simp [ih]

theorem authorize_iff (policies : List SecurityPolicy) (role action resource : String) (attributes : Dict String Json) :
    authorize policies role action resource attributes = true ↔
      Grants (authorizes role action resource attributes) (rulesOf policies) := by
  rw [authorize, authorizeRules_iff, Grants, or_iff_right Bool.false_ne_true]

/-- The resource has no tenant, or the principal has the same one. -/
def TenantAdmits (principal : Principal) (attributes : Dict String Json) : Prop :=
  get attributes "tenant_id" = none ∨ get attributes "tenant_id" = some .null ∨
    ∃ tenant value, principal.tenantId = some tenant ∧ tenant ≠ "" ∧ get attributes "tenant_id" = some value ∧
      pyEqual (.str tenant) value = true

theorem tenantRefusal_none_iff (principal : Principal) (attributes : Dict String Json) :
    tenantRefusal principal attributes = none ↔ TenantAdmits principal attributes := by
  unfold tenantRefusal TenantAdmits
  cases held : get attributes "tenant_id" with
  | none => simp
  | some value =>
      by_cases null : value = .null
      · simp [null]
      · cases owner : principal.tenantId with
        | none => simp [null]
        | some tenant => by_cases named : tenant = "" <;> simp [null, named]

theorem tenantRefusal_refuses {principal : Principal} {attributes : Dict String Json} {refusal : Decision}
    (refused : tenantRefusal principal attributes = some refusal) : refusal.allows = false := by
  unfold tenantRefusal at refused
  split at refused
  · cases refused
  · split at refused
    · cases refused
    · split at refused
      · cases refused
        rfl
      · split at refused
        · cases refused
          rfl
        · split at refused
          · cases refused
          · cases refused
            rfl

theorem evaluate_allows_iff (policies : List SecurityPolicy) (principal : Principal) (action resource : String)
    (attributes : Dict String Json) :
    (evaluate policies principal action resource attributes).allows = true ↔
      TenantAdmits principal attributes ∧
        Grants (ruleMatches principal action resource attributes) (rulesOf policies) := by
  rw [← tenantRefusal_none_iff, evaluate]
  cases refused : tenantRefusal principal attributes with
  | some refusal => simp [tenantRefusal_refuses refused]
  | none =>
      dsimp only
      generalize ruleMatches principal action resource attributes = fits
      have found (effect : RuleEffect) :
          ((rulesOf policies).find? fun rule => rule.effect == effect && fits rule).isSome = true ↔
            ∃ rule ∈ rulesOf policies, rule.effect = effect ∧ fits rule = true := by
        simp only [List.find?_isSome, Bool.and_eq_true, beq_iff_eq]
      have denied := found .deny
      have allowed := found .allow
      cases deny : (rulesOf policies).find? fun rule => rule.effect == .deny && fits rule with
      | some rule =>
          rw [deny, Option.isSome_some] at denied
          obtain ⟨other, member, denies, fit⟩ := denied.mp rfl
          refine iff_of_false Bool.false_ne_true fun grants => ?_
          rw [grants.2.1 other member denies] at fit
          cases fit
      | none =>
          rw [deny, Option.isSome_none] at denied
          have undenied : ∀ rule ∈ rulesOf policies, rule.effect = .deny → fits rule = false := by
            intro rule member denies
            refine Bool.eq_false_iff.mpr fun fit => Bool.false_ne_true (denied.mpr ⟨rule, member, denies, fit⟩)
          cases allow : (rulesOf policies).find? fun rule => rule.effect == .allow && fits rule with
          | some rule =>
              rw [allow, Option.isSome_some] at allowed
              exact iff_of_true rfl ⟨rfl, undenied, allowed.mp rfl⟩
          | none =>
              rw [allow, Option.isSome_none] at allowed
              exact iff_of_false Bool.false_ne_true fun grants => Bool.false_ne_true (allowed.mpr grants.2.2)

variable (role action resource : String) (attributes : Dict String Json)

/-- What both procedures ask of a rule besides its actions and conditions. -/
def concerns (rule : AuthorizationRule) : Bool := resourceMatches resource rule && rule.roles.contains role

/-- Every condition names an attribute of the resource with the value asked for. -/
def conditionsHeld (rule : AuthorizationRule) : Bool :=
  rule.conditions.all fun condition => (get attributes condition.1).any fun actual => pyEqual actual condition.2

/-- Every condition holds when an absent attribute counts as null, and some attribute is absent. -/
def conditionsAbsent (rule : AuthorizationRule) : Bool :=
  (rule.conditions.all fun condition => pyEqual ((get attributes condition.1).getD .null) condition.2) &&
    rule.conditions.any fun condition => (get attributes condition.1).isNone

/-- A rule that names the action and asks for attributes the resource has. -/
def plainRule (rule : AuthorizationRule) : Bool :=
  concerns role resource rule && rule.actions.contains action && conditionsHeld attributes rule

/-- A rule that covers the action by the wildcard only. -/
def wildcardRule (rule : AuthorizationRule) : Bool :=
  concerns role resource rule && rule.actions.contains "*" && !rule.actions.contains action &&
    conditionsHeld attributes rule

/-- A rule that names the action and asks for null where the resource has no attribute. -/
def absentRule (rule : AuthorizationRule) : Bool :=
  concerns role resource rule && rule.actions.contains action && conditionsAbsent attributes rule

/-- Some rule with the effect fits. -/
def Stands (effect : RuleEffect) (fits : AuthorizationRule → Bool) (rules : List AuthorizationRule) : Prop :=
  ∃ rule ∈ rules, rule.effect = effect ∧ fits rule = true

def Tenanted (attributes : Dict String Json) : Prop :=
  ∃ tenant, get attributes "tenant_id" = some tenant ∧ tenant ≠ .null

/-- The rules that one procedure matches and the other does not are not what decides: on a resource with a
tenant the named rules refuse, and without one a plain deny rule decides, or a plain allow rule does and wildcard
and absent rules deny together, or no plain rule does and they grant together. -/
@[mk_iff] structure Undivided (rules : List AuthorizationRule) : Prop where
  tenanted : Tenanted attributes → Stands .deny (plainRule role action resource attributes) rules ∨
    Stands .deny (absentRule role action resource attributes) rules ∨
    ¬ Stands .allow (plainRule role action resource attributes) rules ∧
      ¬ Stands .allow (absentRule role action resource attributes) rules
  untenanted : ¬ Tenanted attributes → Stands .deny (plainRule role action resource attributes) rules ∨
    Stands .allow (plainRule role action resource attributes) rules ∧
      (Stands .deny (wildcardRule role action resource attributes) rules ↔
        Stands .deny (absentRule role action resource attributes) rules) ∨
    ¬ Stands .allow (plainRule role action resource attributes) rules ∧
      (Stands .allow (wildcardRule role action resource attributes) rules ∧
          ¬ Stands .deny (wildcardRule role action resource attributes) rules ↔
        Stands .allow (absentRule role action resource attributes) rules ∧
          ¬ Stands .deny (absentRule role action resource attributes) rules)

/-- A principal with one role, no tenant and no attributes. -/
structure Bare (principal : Principal) : Prop where
  roles : ∀ other, other ∈ principal.roles ↔ other = role
  tenant : principal.tenantId = none
  attributes : principal.attributes = []

variable {role action resource : String} {attributes : Dict String Json} {principal : Principal}

theorem ruleMatches_bare (bare : Bare role principal) (rule : AuthorizationRule) :
    ruleMatches principal action resource attributes rule =
      (plainRule role action resource attributes rule || wildcardRule role action resource attributes rule) := by
  have roles : (rule.roles.any fun other => principal.roles.contains other) = rule.roles.contains role := by
    rw [Bool.eq_iff_iff, List.any_eq_true, List.contains_iff_mem]
    simp only [List.contains_iff_mem, bare.roles, exists_eq_right]
  have conditions : rule.conditions.all (conditionMatches principal attributes) = conditionsHeld attributes rule := by
    rw [conditionsHeld]
    congr 1
    funext condition
    rw [conditionMatches, bare.attributes, get_nil]
    cases get attributes condition.1 <;> rfl
  rw [ruleMatches, roles, conditions, plainRule, wildcardRule, concerns, governs]
  cases resourceMatches resource rule <;> cases rule.roles.contains role <;> cases rule.actions.contains action <;>
    cases rule.actions.contains "*" <;> cases conditionsHeld attributes rule <;> rfl

theorem authorizes_eq (rule : AuthorizationRule) :
    authorizes role action resource attributes rule =
      (plainRule role action resource attributes rule || absentRule role action resource attributes rule) := by
  -- where no attribute is absent, asking for null in its place makes no difference
  have conditions : (rule.conditions.all fun condition =>
      pyEqual ((get attributes condition.1).getD .null) condition.2) =
        (conditionsHeld attributes rule || conditionsAbsent attributes rule) := by
    unfold conditionsHeld conditionsAbsent
    cases absent : rule.conditions.any fun condition => (get attributes condition.1).isNone with
    | true =>
        obtain ⟨condition, member, missing⟩ := List.any_eq_true.mp absent
        have unheld : (rule.conditions.all fun condition =>
            (get attributes condition.1).any fun actual => pyEqual actual condition.2) = false :=
          List.all_eq_false.mpr ⟨condition, member, by simp [Option.isNone_iff_eq_none.mp missing]⟩
        rw [unheld, Bool.false_or, Bool.and_true]
    | false =>
        rw [Bool.and_false, Bool.or_false, Bool.eq_iff_iff, List.all_eq_true, List.all_eq_true]
        refine forall₂_congr fun condition member => ?_
        have present := List.any_eq_false.mp absent condition member
        cases held : get attributes condition.1 with
        | none => simp [held] at present
        | some actual => rfl
  rw [authorizes, conditions, plainRule, absentRule, concerns]
  cases resourceMatches resource rule <;> cases rule.roles.contains role <;> cases rule.actions.contains action <;>
    cases conditionsHeld attributes rule <;> cases conditionsAbsent attributes rule <;> rfl

theorem grants_either_iff (left right : AuthorizationRule → Bool) (rules : List AuthorizationRule) :
    Grants (fun rule => left rule || right rule) rules ↔
      ¬ Stands .deny left rules ∧ ¬ Stands .deny right rules ∧
        (Stands .allow left rules ∨ Stands .allow right rules) := by
  unfold Grants Stands
  constructor
  · rintro ⟨undenied, rule, member, allows, fit⟩
    refine ⟨?_, ?_, (Bool.or_eq_true_iff.mp fit).imp (fun fit => ⟨rule, member, allows, fit⟩) fun fit =>
      ⟨rule, member, allows, fit⟩⟩
    · rintro ⟨other, inside, denies, hit⟩
      simpa [hit] using undenied other inside denies
    · rintro ⟨other, inside, denies, hit⟩
      simpa [hit] using undenied other inside denies
  · rintro ⟨first, second, allowed⟩
    refine ⟨fun rule member denies => ?_, ?_⟩
    · refine Bool.or_eq_false_iff.mpr ⟨?_, ?_⟩
      · exact Bool.eq_false_iff.mpr fun hit => first ⟨rule, member, denies, hit⟩
      · exact Bool.eq_false_iff.mpr fun hit => second ⟨rule, member, denies, hit⟩
    · rcases allowed with ⟨rule, member, allows, fit⟩ | ⟨rule, member, allows, fit⟩
      · exact ⟨rule, member, allows, by simp [fit]⟩
      · exact ⟨rule, member, allows, by simp [fit]⟩

theorem tenantAdmits_bare_iff (bare : Bare role principal) :
    TenantAdmits principal attributes ↔ ¬ Tenanted attributes := by
  unfold TenantAdmits Tenanted
  rw [bare.tenant]
  cases get attributes "tenant_id" <;> simp

theorem agree_iff (bare : Bare role principal) (policies : List SecurityPolicy) :
    (evaluate policies principal action resource attributes).allows =
        authorize policies role action resource attributes ↔
      Undivided role action resource attributes (rulesOf policies) := by
  have matching : ruleMatches principal action resource attributes = fun rule =>
      plainRule role action resource attributes rule || wildcardRule role action resource attributes rule :=
    funext (ruleMatches_bare bare)
  have naming : authorizes role action resource attributes = fun rule =>
      plainRule role action resource attributes rule || absentRule role action resource attributes rule :=
    funext authorizes_eq
  rw [Bool.eq_iff_iff, evaluate_allows_iff, authorize_iff, tenantAdmits_bare_iff bare, matching, naming,
    grants_either_iff, grants_either_iff]
  rw [undivided_iff]
  by_cases tenanted : Tenanted attributes
  · simp only [tenanted, not_true_eq_false, false_and, false_iff, true_imp_iff, false_imp_iff, and_true]
    tauto
  · simp only [tenanted, not_false_eq_true, true_and, false_imp_iff, true_imp_iff]
    by_cases denied : Stands .deny (plainRule role action resource attributes) (rulesOf policies)
    · simp [denied]
    · by_cases allowed : Stands .allow (plainRule role action resource attributes) (rulesOf policies)
      · simp only [denied, allowed, not_false_eq_true, true_and, true_or, and_true, not_true_eq_false, false_and,
          or_false, false_or]
        exact not_iff_not
      · simp only [denied, allowed, not_false_eq_true, true_and, false_or, false_and]
        exact Iff.of_eq (congrArg₂ Iff (propext and_comm) (propext and_comm))

/-- A resource without a tenant, or with the principal's, is granted by some allow rule against no deny rule;
neither order nor further deny rules nor fewer allow rules can turn a refusal into a grant; and for a principal
that is one role, `authorize` decides alike exactly on undivided rules. -/
theorem evaluate_authorize_iff (policies : List SecurityPolicy) (principal : Principal) (action resource : String)
    (attributes : Dict String Json) :
    ((evaluate policies principal action resource attributes).allows = true ↔ TenantAdmits principal attributes ∧
        (∀ rule ∈ rulesOf policies, rule.effect = .deny →
          ruleMatches principal action resource attributes rule = false) ∧
        ∃ rule ∈ rulesOf policies, rule.effect = .allow ∧
          ruleMatches principal action resource attributes rule = true) ∧
      (∀ others, (rulesOf others).Perm (rulesOf policies) →
        (evaluate others principal action resource attributes).allows =
          (evaluate policies principal action resource attributes).allows) ∧
      (∀ others rule, rule.effect = .deny → (rulesOf others).Perm (rule :: rulesOf policies) →
        (evaluate others principal action resource attributes).allows = true →
          (evaluate policies principal action resource attributes).allows = true) ∧
      (∀ others rule, rule.effect = .allow → (rulesOf policies).Perm (rule :: rulesOf others) →
        (evaluate others principal action resource attributes).allows = true →
          (evaluate policies principal action resource attributes).allows = true) ∧
      ∀ role, Bare role principal →
        ((evaluate policies principal action resource attributes).allows =
            authorize policies role action resource attributes ↔
          Undivided role action resource attributes (rulesOf policies)) := by
  refine ⟨evaluate_allows_iff policies principal action resource attributes, ?_, ?_, ?_, fun role bare =>
    agree_iff bare policies⟩
  · intro others same
    rw [Bool.eq_iff_iff, evaluate_allows_iff, evaluate_allows_iff]
    exact and_congr_right fun _ => ⟨Grants.of_perm same, Grants.of_perm same.symm⟩
  · intro others rule denies same granted
    rw [evaluate_allows_iff] at granted ⊢
    exact ⟨granted.1, (granted.2.of_perm same).of_denied denies⟩
  · intro others rule allows same granted
    rw [evaluate_allows_iff] at granted ⊢
    exact ⟨granted.1, (granted.2.of_allowed allows).of_perm same.symm⟩

def reader : Principal where
  principalId := "p1"
  roles := ["reader"]

/-- One rule that lets readers do everything to employees. -/
def anything : SecurityPolicy where
  policyId := "p"
  behavior := some {
    roles := ["reader"]
    rules := [⟨"allow", .allow, ["reader"], ["*"], "Employee", [], by decide⟩]
    consistent := by decide }

theorem reader_bare : Bare "reader" reader := ⟨fun other => by simp [reader], rfl, rfl⟩

/-- The action named, the two procedures agree on the reader. -/
def reading : SecurityPolicy where
  policyId := "p"
  behavior := some {
    roles := ["reader"]
    rules := [⟨"allow", .allow, ["reader"], ["employee.read"], "Employee", [], by decide⟩]
    consistent := by decide }

theorem reading_undivided : Undivided "reader" "employee.read" "Employee" [] (rulesOf [reading]) :=
  ((evaluate_authorize_iff [reading] reader "employee.read" "Employee" []).2.2.2.2 "reader" reader_bare).mp
    (by decide)

/-- A wildcard rule grants in one procedure and not in the other. -/
theorem anything_divided : ¬ ∀ (policies : List SecurityPolicy) (principal : Principal) (role action resource : String)
    (attributes : Dict String Json), Bare role principal →
      (evaluate policies principal action resource attributes).allows =
        authorize policies role action resource attributes := by
  intro agree
  have same := agree [anything] reader "reader" "employee.read" "Employee" [] reader_bare
  revert same
  decide

end AutonomousApi.AuthorizationRuntime
