import AutonomousApi.Capabilities

/-! Declared API operations (compiler/core/declared_api.py). A route exists only when
every binding it needs resolves; the loop stops at the first operation that lacks
one. Templates are compared with their parameter names erased. -/

namespace AutonomousApi.DeclaredApi

open IsrBehavior CompilationPlan OrderedMap FailFast PythonText Capabilities

structure DeclaredRoute where
  operation : ApiOperation
  behavior : ApiBehavior
  service : Service
  resource : String
  policies : List SecurityPolicy
  pathFields : List FieldSpec
  bodyFields : List FieldSpec
  responseFields : List FieldSpec
  declared : operation.behavior = some behavior

namespace DeclaredRoute

def path (route : DeclaredRoute) : String := route.behavior.path

def method (route : DeclaredRoute) : Method := route.behavior.method

def action (route : DeclaredRoute) : String := route.behavior.operationId

end DeclaredRoute

def normalizedPath (path : String) : List Char := PathTemplate.erased (PathTemplate.parse path)

def placeholders (path : String) : List String :=
  (PathTemplate.holes (PathTemplate.parse path)).map String.ofList

variable (plan : Plan) (api : ApiOperation) (contract : ApiBehavior)

def resolvePolicies (byId : Dict String SecurityPolicy) :
    List String → Except UnsupportedSemanticsError (List SecurityPolicy)
  | [] => .ok []
  | policyId :: rest =>
      match get byId policyId with
      | none => .error (.unknownPolicy api.id policyId)
      | some policy => do
          let others ← resolvePolicies byId rest
          pure (policy :: others)

def boundPolicies : Except UnsupportedSemanticsError (List SecurityPolicy) := do
  let byId := assignAll [] (plan.security.map fun policy => (policy.policyId, policy))
  let named ← resolvePolicies api byId contract.authorizationPolicyIds
  let resolved := keepFirst SecurityPolicy.policyId [] (api.securityPolicies ++ named)
  checkAll (fun policy => require policy.behavior.isSome (.untypedPolicy policy.policyId api.id)) resolved
  pure resolved

def policyRules (policy : SecurityPolicy) : List AuthorizationRule :=
  match policy.behavior with
  | none => []
  | some behavior => behavior.rules

def governs (action : String) (rule : AuthorizationRule) : Bool :=
  rule.actions.contains "*" || rule.actions.contains action

def resourceFor (service : Service) (policies : List SecurityPolicy) :
    Except UnsupportedSemanticsError String := do
  let action := contract.operationId
  checkAll (fun policy => require ((policyRules policy).any (governs action))
    (.ungovernedAction policy.policyId api.id action)) policies
  let matching := policies.flatMap fun policy => (policyRules policy).filter (governs action)
  let resources := ((matching.map AuthorizationRule.resource).filter fun name => name != "*").dedup
  let resource ← match resources with
    | [resource] => pure resource
    | [] =>
        match service.dataModels with
        | [model] => pure model.entityName
        | models => .error (.noResourceBinding api.id service.id models.length)
    | several => .error (.multipleResources api.id (sortedSet several))
  require (service.dataModels.any fun model => model.entityName == resource)
    (.resourceNotPersisted api.id resource service.id)
  pure resource

/-- Path and body parameters of an operation; each method has its own shape. -/
def routeShape : Except UnsupportedSemanticsError (List FieldSpec × List FieldSpec) := do
  require (!(contract.path.toList.contains '?' || contract.path.toList.contains '#'))
    (.queryInPath api.id contract.path)
  let names := placeholders contract.path
  require (decide names.Nodup) (.duplicateParameters api.id)
  let byName := assignAll [] (contract.requestFields.map fun field => (field.name, field))
  let missing := names.filter fun name => (get byName name).isNone
  require missing.isEmpty (.missingParameters api.id missing)
  let pathFields := names.filterMap (get byName)
  require (pathFields.all FieldSpec.required) (.optionalParameter api.id)
  let remaining := contract.requestFields.filter fun field => !names.contains field.name
  match contract.method with
  | .get => do
      require (decide (pathFields.length ≤ 1)) (.getParameters api.id pathFields.length)
      require remaining.isEmpty (.getRequestFields api.id (remaining.map FieldSpec.name))
      pure (pathFields, [])
  | .delete => do
      require (decide (pathFields.length = 1)) (.deleteParameters api.id)
      require remaining.isEmpty (.deleteRequestFields api.id)
      pure (pathFields, [])
  | .put | .patch => do
      require (decide (pathFields.length = 1)) (.updateParameters contract.method api.id)
      pure (pathFields, remaining)
  | .post => do
      require pathFields.isEmpty (.postParameters api.id)
      pure ([], remaining)

def checkedResponseFields (service : Service) (resource : String) :
    Except UnsupportedSemanticsError (List FieldSpec) := do
  let names := contract.responseFields.map FieldSpec.name
  require (decide names.Nodup) (.duplicateResponseFields api.id)
  let stored := match contract.method with
    | .get | .delete | .patch =>
        match service.dataModels.find? fun model => model.entityName == resource with
        | some model => (model.behavior.map fun behavior => behavior.fields.map FieldSpec.name).getD []
        | none => []
    | _ => []
  let produced := "id" :: contract.requestFields.map FieldSpec.name ++ stored
  let unsupported := sortedSet (names.filter fun name => !produced.contains name)
  require unsupported.isEmpty (.unsupportedResponse api.id unsupported)
  pure contract.responseFields

def unenforceable : ConstraintOperator → Bool
  | .oneOf | .unique | .immutable | .references => true
  | _ => false

def validateFieldConstraints (fields : List FieldSpec) : Except UnsupportedSemanticsError Unit :=
  checkAll (fun field => checkAll (fun (constraint : FieldConstraint) =>
    require (!unenforceable constraint.operator)
      (.unenforceableConstraint api.id constraint.operator field.name)) field.constraints) fields

structure RouteState where
  routes : List DeclaredRoute := []
  seen : Dict (Method × List Char) String := []

def routeKey (contract : ApiBehavior) : Method × List Char := (contract.method, normalizedPath contract.path)

def declareRoute (plan : Plan) (state : RouteState) (api : ApiOperation) :
    Except UnsupportedSemanticsError RouteState :=
  match declared : api.behavior with
  | none => do
      require api.securityPolicies.isEmpty (.policyWithoutBehavior api.id)
      pure state
  | some contract => do
      let policies ← boundPolicies plan api contract
      match api.serviceId with
      | none => .error (.unboundOperation api.id)
      | some serviceId =>
          match get (assignAll [] (plan.services.map fun service => (service.id, service))) serviceId with
          | none => .error (.unknownService api.id serviceId)
          | some service =>
              match get state.seen (routeKey contract) with
              | some previous => .error (.duplicateRoute previous api.id contract.method contract.path)
              | none => do
                  let resource ← resourceFor api contract service policies
                  let shape ← routeShape api contract
                  let responses ← checkedResponseFields api contract service resource
                  validateFieldConstraints api (shape.1 ++ shape.2 ++ responses)
                  pure
                    { routes := state.routes ++
                        [⟨api, contract, service, resource, policies, shape.1, shape.2, responses, declared⟩]
                      seen := assign state.seen (routeKey contract) api.id }

def declaredRoutes (plan : Plan) : Except UnsupportedSemanticsError (List DeclaredRoute) :=
  (foldChecked (declareRoute plan) {} plan.apis).map RouteState.routes

/-- What `declared_routes` established about a route it returned. -/
structure RouteChecked (plan : Plan) (route : DeclaredRoute) : Prop where
  listed : route.operation ∈ plan.apis
  bound : boundPolicies plan route.operation route.behavior = .ok route.policies
  owner : route.service ∈ plan.services
  governed : resourceFor route.operation route.behavior route.service route.policies = .ok route.resource
  shaped : routeShape route.operation route.behavior = .ok (route.pathFields, route.bodyFields)

theorem declareRoute_cases {plan : Plan} {state next : RouteState} {api : ApiOperation}
    (listed : api ∈ plan.apis) (success : declareRoute plan state api = .ok next) :
    (api.behavior = none ∧ next = state) ∨
      ∃ route, RouteChecked plan route ∧ get state.seen (routeKey route.behavior) = none ∧
        next = ⟨state.routes ++ [route], assign state.seen (routeKey route.behavior) route.operation.id⟩ := by
  unfold declareRoute at success
  split at success
  next undeclared =>
    obtain ⟨_, _, kept⟩ := bind_ok success
    exact .inl ⟨undeclared, (Except.ok.inj kept).symm⟩
  next contract declared =>
    obtain ⟨policies, bound, success⟩ := bind_ok success
    split at success
    · cases success
    next serviceId exposed =>
      split at success
      · cases success
      next service found =>
        split at success
        · cases success
        next fresh =>
          obtain ⟨resource, governed, success⟩ := bind_ok success
          obtain ⟨shape, shaped, success⟩ := bind_ok success
          obtain ⟨responses, _, success⟩ := bind_ok success
          obtain ⟨_, _, success⟩ := bind_ok success
          have owner : service ∈ plan.services := by
            have member := mem_of_get_assignAll found
            simp only [List.mem_map, Prod.mk.injEq] at member
            obtain ⟨other, inside, _, rfl⟩ := member
            exact inside
          exact .inr ⟨⟨api, contract, service, resource, policies, shape.1, shape.2, responses, declared⟩,
            ⟨listed, bound, owner, governed, shaped⟩, fresh, (Except.ok.inj success).symm⟩

/-- Every returned route is checked, and no two share a method and an erased template. -/
theorem declaredRoutes_checked {plan : Plan} {routes : List DeclaredRoute}
    (success : declaredRoutes plan = .ok routes) :
    (∀ route ∈ routes, RouteChecked plan route) ∧
      (routes.map fun route => routeKey route.behavior).Nodup := by
  unfold declaredRoutes at success
  cases run : foldChecked (declareRoute plan) {} plan.apis with
  | error fault => simp [run, Except.map] at success
  | ok final =>
      simp only [run, Except.map, Except.ok.injEq] at success
      subst success
      have kept := foldChecked_invariant run
        (fun _ state => (∀ route ∈ state.routes, RouteChecked plan route) ∧
          keys state.seen = state.routes.map (fun route => routeKey route.behavior) ∧
          (keys state.seen).Nodup)
        (by simp [keys]) ?_
      · exact ⟨kept.1, kept.2.1 ▸ kept.2.2⟩
      · rintro seen api rest state next split ⟨checked, sameKeys, distinct⟩ step
        have listed : api ∈ plan.apis := by simp [split]
        obtain ⟨-, rfl⟩ | ⟨route, valid, fresh, rfl⟩ := declareRoute_cases listed step
        · exact ⟨checked, sameKeys, distinct⟩
        · have absent : routeKey route.behavior ∉ keys state.seen := by
            rw [← get_isSome_iff, fresh]
            simp
          have extended : keys (assign state.seen (routeKey route.behavior) route.operation.id) =
              keys state.seen ++ [routeKey route.behavior] := by
            rw [assign_fresh _ _ _ absent]
            simp [keys]
          refine ⟨?_, ?_, ?_⟩
          · intro other member
            rcases List.mem_append.mp member with earlier | last
            · exact checked other earlier
            · exact List.mem_singleton.mp last ▸ valid
          · simp [extended, sameKeys]
          · rw [extended]
            exact distinct.append (by simp) (by simpa using absent)

/-- The resource of an operation is a data model that its service persists. -/
theorem resourceFor_persisted {api : ApiOperation} {contract : ApiBehavior} {service : Service}
    {policies : List SecurityPolicy} {resource : String}
    (governed : resourceFor api contract service policies = .ok resource) :
    ∃ model ∈ service.dataModels, model.entityName = resource := by
  obtain ⟨_, _, governed⟩ := bind_ok governed
  have persisted {name : String}
      (checked : (do
        require (service.dataModels.any fun model => model.entityName == name)
          (UnsupportedSemanticsError.resourceNotPersisted api.id name service.id)
        pure name) = Except.ok resource) : ∃ model ∈ service.dataModels, model.entityName = resource := by
    obtain ⟨_, found, kept⟩ := bind_ok checked
    obtain rfl := Except.ok.inj kept
    obtain ⟨model, owned, named⟩ := List.any_eq_true.mp ((require_ok_iff _ _).mp found)
    exact ⟨model, owned, beq_iff_eq.mp named⟩
  dsimp only at governed
  split at governed
  · exact persisted governed
  · split at governed
    · exact persisted governed
    · cases governed
  · cases governed

end AutonomousApi.DeclaredApi
