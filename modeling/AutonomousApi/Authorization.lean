import AutonomousApi.DeclaredApi
import AutonomousApi.PolicyContainment

/-! Authorization obligations (compiler/core/authorization.py) and the decision
procedure that the FastAPI backend emits as app/core/authorization.py. The emitted
`evaluate` reads a policy payload; the payload copies a typed rule field by field, so
rules stand for their payloads here. Token verification is not modelled: a principal
is what `resolve_principal` returns. -/

namespace AutonomousApi.Authorization

open JsonValue IsrBehavior CompilationPlan OrderedMap FailFast PythonText Capabilities DeclaredApi

inductive RouteVerb where
  | read | create | update | delete
  deriving DecidableEq

def RouteVerb.value : RouteVerb → String
  | .read => "read"
  | .create => "create"
  | .update => "update"
  | .delete => "delete"

def routeVerbs : List RouteVerb := [.read, .create, .update, .delete]

/-- Runs of underscores shrink to one: the fixed point of replacing `__` by `_`. -/
def squeeze (afterUnderscore : Bool) : List Char → List Char
  | [] => []
  | c :: rest =>
      if c = '_' then
        if afterUnderscore then squeeze true rest else c :: squeeze true rest
      else c :: squeeze false rest

def stripUnderscores (chars : List Char) : List Char :=
  ((chars.dropWhile (· == '_')).reverse.dropWhile (· == '_')).reverse

def canonicalAction (table : CharTable) (entityName : String) (verb : RouteVerb) : String :=
  let replaced := (table.lower entityName.toList).map fun c => if table.isAlnum c then c else '_'
  String.ofList (squeeze false (stripUnderscores replaced)) ++ "." ++ verb.value

def servicePolicies (service : Service) : List SecurityPolicy :=
  service.securityPolicies.filter fun policy => policy.behavior.isSome

def effectText : RuleEffect → String
  | .allow => "allow"
  | .deny => "deny"

def rulePayload (rule : AuthorizationRule) : Json :=
  .obj [("rule_id", .str rule.ruleId),
    ("effect", .str (effectText rule.effect)),
    ("roles", .arr (rule.roles.map .str)),
    ("actions", .arr (rule.actions.map .str)),
    ("resource", .str rule.resource),
    ("conditions", .obj rule.conditions)]

def policyPayload (policy : SecurityPolicy) : Option Json :=
  policy.behavior.map fun behavior =>
    .obj [("policy_id", .str policy.policyId),
      ("roles", .arr (behavior.roles.map .str)),
      ("rules", .arr (behavior.rules.map rulePayload))]

variable (table : CharTable)

def ownedActions (service : Service) : List String :=
  service.dataModels.flatMap fun model => routeVerbs.map (canonicalAction table model.entityName)

def checkRule (service : Service) (policy : SecurityPolicy) (rule : AuthorizationRule) :
    Except UnsupportedSemanticsError Unit := do
  let unknown := rule.actions.filter fun action =>
    action != "*" && !(ownedActions table service).contains action
  require unknown.isEmpty (.unknownActions rule.ruleId policy.policyId
    (unknown.insertionSort (· ≤ ·)) service.id)
  require (rule.resource == "*" || service.dataModels.any fun model => model.entityName == rule.resource)
    (.unownedResource rule.ruleId policy.policyId rule.resource service.id)

def checkService (service : Service) : Except UnsupportedSemanticsError Unit :=
  match servicePolicies service with
  | [] => .ok ()
  | first :: rest =>
      if service.dataModels.isEmpty then .error (.unroutedPolicy service.id first.policyId)
      else checkAll (fun policy => checkAll (checkRule table service policy) (policyRules policy))
        (first :: rest)

def assertAuthorizationEnforceable (plan : Plan) : Except UnsupportedSemanticsError Unit := do
  let _ ← declaredRoutes plan
  checkAll (checkService table) plan.services

def protectedServices (plan : Plan) : Dict String (List SecurityPolicy) :=
  assignAll [] ((plan.services.filter fun service => !(servicePolicies service).isEmpty).map
    fun service => (service.id, servicePolicies service))

structure Principal where
  roles : List String := []
  attributes : Dict String Json := []
  distinct : (keys attributes).Nodup := by decide

def resourceMatches (resource : String) (rule : AuthorizationRule) : Bool :=
  rule.resource == resource || rule.resource == "*"

/-- The attribute test of `_matches` for a request without resource attributes. -/
def attributeMatches (principal : Principal) (condition : String × Json) : Bool :=
  match get principal.attributes condition.1 with
  | none => false
  | some actual => pyEqual actual condition.2

def ruleMatches (principal : Principal) (action resource : String) (rule : AuthorizationRule) : Bool :=
  resourceMatches resource rule && governs action rule &&
    (rule.roles.any fun role => principal.roles.contains role) &&
    rule.conditions.all (attributeMatches principal)

inductive Decision where
  | explicitDeny (ruleId : String)
  | allowed (ruleId : String)
  | defaultDeny
  deriving DecidableEq

def Decision.allows : Decision → Bool
  | .allowed _ => true
  | _ => false

def evaluate (policies : List SecurityPolicy) (principal : Principal) (action resource : String) : Decision :=
  let rules := policies.flatMap policyRules
  match rules.find? fun rule => rule.effect == .deny && ruleMatches principal action resource rule with
  | some rule => .explicitDeny rule.ruleId
  | none =>
      match rules.find? fun rule => rule.effect == .allow && ruleMatches principal action resource rule with
      | some rule => .allowed rule.ruleId
      | none => .defaultDeny

open PolicyContainment

abbrev AttributeView := DataTree.Tree String PyAtom

/-- A rule as the containment test sees it: attribute values up to Python equality. -/
def ruleView (rule : AuthorizationRule) : Rule String String AttributeView :=
  ⟨rule.roles, rule.conditions.map fun condition => (condition.1, pyView condition.2)⟩

/-- The rules that can match one action on one resource. -/
def applicable (policies : List SecurityPolicy) (action resource : String) :
    Policy String String AttributeView :=
  let rules := (policies.flatMap policyRules).filter fun rule =>
    resourceMatches resource rule && governs action rule
  { allows := (rules.filter fun rule => rule.effect == .allow).map ruleView
    denies := (rules.filter fun rule => rule.effect == .deny).map ruleView }

def requestView (principal : Principal) : Request String String AttributeView :=
  ⟨principal.roles, principal.attributes.map fun entry => (entry.1, pyView entry.2)⟩

theorem get_view (attributes : Dict String Json) (key : String) :
    get (attributes.map fun entry => (entry.1, pyView entry.2)) key = (get attributes key).map pyView := by
  induction attributes with
  | nil => rfl
  | cons entry rest ih =>
      obtain ⟨name, value⟩ := entry
      by_cases hit : name = key
      · simp [OrderedMap.get, hit]
      · simpa [OrderedMap.get, hit] using ih

theorem ruleMatches_eq (principal : Principal) (action resource : String) (rule : AuthorizationRule) :
    ruleMatches principal action resource rule =
      (resourceMatches resource rule && governs action rule && hits (requestView principal) (ruleView rule)) := by
  have conditions : rule.conditions.all (attributeMatches principal) =
      (ruleView rule).conditions.all (PolicyContainment.holds (requestView principal)) := by
    rw [ruleView, List.all_map]
    congr 1
    funext condition
    simp only [attributeMatches, Function.comp_apply, PolicyContainment.holds, requestView, get_view]
    cases get principal.attributes condition.1 <;> simp [pyEqual]
  rw [ruleMatches, hits, conditions, Bool.and_assoc (_ && _)]
  rfl

theorem evaluate_allows_iff (policies : List SecurityPolicy) (principal : Principal)
    (action resource : String) :
    (evaluate policies principal action resource).allows = true ↔
      admits (applicable policies action resource) (requestView principal) = true := by
  have found (effect : RuleEffect) :
      ((policies.flatMap policyRules).find? fun rule =>
          rule.effect == effect && ruleMatches principal action resource rule).isSome =
        ((((policies.flatMap policyRules).filter fun rule =>
          resourceMatches resource rule && governs action rule).filter fun rule =>
            rule.effect == effect).map ruleView).any (hits (requestView principal)) := by
    rw [Bool.eq_iff_iff, List.find?_isSome, List.any_map, List.any_filter, List.any_filter, List.any_eq_true]
    simp only [ruleMatches_eq, Function.comp_apply, Bool.and_eq_true]
    constructor <;> rintro ⟨rule, member, facts⟩ <;> exact ⟨rule, member, by tauto⟩
  simp only [admits, applicable, ← found, Bool.and_eq_true, Bool.not_eq_true']
  cases denied : (policies.flatMap policyRules).find? fun rule =>
      rule.effect == .deny && ruleMatches principal action resource rule with
  | some rule => simp only [evaluate, denied, Decision.allows, Option.isSome_some, reduceCtorEq, false_and]
  | none =>
      cases allowed : (policies.flatMap policyRules).find? fun rule =>
          rule.effect == .allow && ruleMatches principal action resource rule with
      | some rule =>
          simp only [evaluate, denied, allowed, Decision.allows, Option.isSome_some, Option.isSome_none, and_self]
      | none =>
          simp only [evaluate, denied, allowed, Decision.allows, Option.isSome_none, reduceCtorEq, and_false]

theorem merge_view (first second : Dict String Json) :
    merge (first.map fun entry => (entry.1, pyView entry.2))
        (second.map fun entry => (entry.1, pyView entry.2)) =
      (merge first second).map fun entry => (entry.1, pyView entry.2) := by
  simp only [merge, List.map_append, List.filter_map, get_view, Function.comp_def, Option.isNone_map]

theorem ruleView_distinct (rule : AuthorizationRule) : PolicyContainment.Distinct (ruleView rule) := by
  simpa [PolicyContainment.Distinct, ruleView, keys, Function.comp_def] using rule.distinct

/-- One table of policies admits no principal that another refuses exactly when the
finite check says so; every probe of that check is a principal. -/
theorem evaluate_contained_iff (inner outer : List SecurityPolicy)
    (action resource action' resource' : String) :
    (∀ principal, (evaluate inner principal action resource).allows = true →
        (evaluate outer principal action' resource').allows = true) ↔
      covers (applicable inner action resource) (applicable outer action' resource') = true := by
  simp only [evaluate_allows_iff]
  constructor
  · intro contained
    refine covers_complete _ _ ?_ ?_ ?_
    · intro rule member
      obtain ⟨source, -, rfl⟩ := List.mem_map.mp member
      exact ruleView_distinct source
    · intro rule member
      obtain ⟨source, -, rfl⟩ := List.mem_map.mp member
      exact ruleView_distinct source
    · intro request probe
      cases probe with
      | @single _ role listed =>
          obtain ⟨rule, -, rfl⟩ := List.mem_map.mp listed
          exact contained ⟨[role], rule.conditions, rule.distinct⟩
      | @joint _ _ role other listed denied =>
          obtain ⟨allow, -, rfl⟩ := List.mem_map.mp listed
          obtain ⟨deny, -, rfl⟩ := List.mem_map.mp denied
          have realised : jointRequest role other (ruleView allow) (ruleView deny) =
              requestView ⟨[role, other], merge allow.conditions deny.conditions,
                keys_merge_nodup allow.distinct deny.distinct⟩ := by
            simp [jointRequest, requestView, ruleView, merge_view]
          rw [realised]
          exact contained _
  · intro covered principal
    exact covers_sound _ _ covered _

end AutonomousApi.Authorization
