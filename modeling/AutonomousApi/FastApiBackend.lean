import AutonomousApi.Authorization
import AutonomousApi.Naming

/-! The gates of `PythonFastAPIBackend.compile` (compiler/backends/python_fastapi.py):
supported features, enforceable authorization, and no declared route that repeats an
emitted one. A plan is accepted when all three pass. -/

namespace AutonomousApi.FastApiBackend

open IsrBehavior CompilationPlan FailFast PythonText Capabilities DeclaredApi Authorization Naming

def capabilities : BackendCapabilities where
  backendId := "python-fastapi"
  version := "1.4.0"
  supportedFeatures := [.typedFields, .decimalShape, .expressions, .businessRules,
    .stateTransitions, .apiContracts, .authorizationPolicies]

def crudRouteKeys (table : CharTable) (plan : Plan) : List (Method × List Char) :=
  [(.get, "/health".toList), (.get, "/api/services".toList)] ++
    (planEntities table plan).flatMap fun entity =>
      let collection := "/api/".toList ++ entity.plural.toList
      let item := collection ++ ['/', '{', '}']
      [(.get, collection), (.post, collection), (.get, item), (.put, item), (.delete, item)]

def assertNoRouteCollision (table : CharTable) (plan : Plan) : Except UnsupportedSemanticsError Unit := do
  let routes ← declaredRoutes plan
  checkAll (fun route =>
    require (!(crudRouteKeys table plan).contains (routeKey route.behavior))
      (.routeCollision route.operation.id route.method route.path)) routes

def gates (table : CharTable) (plan : Plan) : Except UnsupportedSemanticsError Unit := do
  assertPlanSupported plan capabilities
  assertAuthorizationEnforceable table plan
  assertNoRouteCollision table plan

def Accepts (table : CharTable) (plan : Plan) : Prop := gates table plan = .ok ()

theorem Accepts.routes {table : CharTable} {plan : Plan} (accepted : Accepts table plan) :
    ∃ routes, declaredRoutes plan = .ok routes ∧
      ∀ route ∈ routes, routeKey route.behavior ∉ crudRouteKeys table plan := by
  obtain ⟨_, _, rest⟩ := bind_ok accepted
  obtain ⟨_, _, rest⟩ := bind_ok rest
  obtain ⟨routes, declared, rest⟩ := bind_ok rest
  refine ⟨routes, declared, fun route member => ?_⟩
  have fresh := (checkAll_ok_iff _ _).mp rest route member
  simpa using (require_ok_iff _ _).mp fresh

end AutonomousApi.FastApiBackend
