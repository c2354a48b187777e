import AutonomousApi.CompilationPlan
import AutonomousApi.PythonText

/-! Capability gate of compiler/core/capabilities.py: the features a plan requires
against the features a backend declares. The error type lists every refusal the
compiler gates raise, each with the values its message names. -/

namespace AutonomousApi.Capabilities

open IsrBehavior CompilationPlan FailFast PythonText

inductive SemanticFeature where
  | typedFields | decimalShape | fieldConstraints | expressions | businessRules
  | stateTransitions | apiContracts | authorizationPolicies | effectSemantics | invariants
  | typedEvents
  deriving DecidableEq

def SemanticFeature.value : SemanticFeature → String
  | .typedFields => "typed_fields"
  | .decimalShape => "decimal_shape"
  | .fieldConstraints => "field_constraints"
  | .expressions => "expressions"
  | .businessRules => "business_rules"
  | .stateTransitions => "state_transitions"
  | .apiContracts => "api_contracts"
  | .authorizationPolicies => "authorization_policies"
  | .effectSemantics => "effect_semantics"
  | .invariants => "invariants"
  | .typedEvents => "typed_events"

inductive UnsupportedSemanticsError where
  | unsupportedFeatures (backend version : String) (features : List String)
  | unknownPolicy (operation policy : String)
  | untypedPolicy (policy operation : String)
  | ungovernedAction (policy operation action : String)
  | multipleResources (operation : String) (resources : List String)
  | noResourceBinding (operation service : String) (owned : Nat)
  | resourceNotPersisted (operation resource service : String)
  | queryInPath (operation path : String)
  | duplicateParameters (operation : String)
  | missingParameters (operation : String) (names : List String)
  | optionalParameter (operation : String)
  | getParameters (operation : String) (count : Nat)
  | getRequestFields (operation : String) (names : List String)
  | deleteParameters (operation : String)
  | deleteRequestFields (operation : String)
  | updateParameters (method : Method) (operation : String)
  | postParameters (operation : String)
  | duplicateResponseFields (operation : String)
  | unsupportedResponse (operation : String) (names : List String)
  | unenforceableConstraint (operation : String) (operator : ConstraintOperator) (field : String)
  | policyWithoutBehavior (operation : String)
  | unboundOperation (operation : String)
  | unknownService (operation service : String)
  | duplicateRoute (previous operation : String) (method : Method) (path : String)
  | unroutedPolicy (service policy : String)
  | unknownActions (rule policy : String) (actions : List String) (service : String)
  | unownedResource (rule policy resource service : String)
  | routeCollision (operation : String) (method : Method) (path : String)
  | untypedEffect (service : String)

def whenever (condition : Bool) (features : List SemanticFeature) : List SemanticFeature :=
  if condition then features else []

def dataModelFeatures (model : DataModel) : List SemanticFeature :=
  match model.behavior with
  | none => []
  | some behavior =>
      .typedFields ::
        whenever (behavior.fields.any fun field => field.precision.isSome || field.scale.isSome) [.decimalShape] ++
        whenever (behavior.fields.any fun field => !field.constraints.isEmpty) [.fieldConstraints] ++
        whenever (!behavior.invariants.isEmpty) [.invariants, .expressions]

def eventFeatures (event : Event) : List SemanticFeature :=
  match event.behavior with
  | none => []
  | some behavior => whenever (!behavior.fields.isEmpty) [.typedEvents, .typedFields]

def serviceFeatures (service : Service) : List SemanticFeature :=
  (match service.behavior with
    | none => []
    | some behavior =>
        whenever (!behavior.rules.isEmpty) [.businessRules, .expressions] ++
        whenever (!behavior.transitions.isEmpty) [.stateTransitions] ++
        whenever (behavior.transitions.any fun transition => transition.guard.isSome) [.expressions]) ++
  whenever (service.securityPolicies.any fun policy => policy.behavior.isSome) [.authorizationPolicies]

def apiFeatures (api : ApiOperation) : List SemanticFeature :=
  whenever api.behavior.isSome [.apiContracts] ++
  whenever (!api.securityPolicies.isEmpty ||
    (api.behavior.any fun behavior => !behavior.authorizationPolicyIds.isEmpty)) [.authorizationPolicies]

def requiredFeatures (plan : Plan) : List SemanticFeature :=
  plan.dataModels.flatMap dataModelFeatures ++
  plan.events.flatMap eventFeatures ++
  plan.services.flatMap serviceFeatures ++
  plan.apis.flatMap apiFeatures ++
  plan.security.flatMap (fun policy => whenever policy.behavior.isSome [.authorizationPolicies]) ++
  plan.effects.flatMap (fun effect => whenever effect.behavior.isSome [.effectSemantics]) ++
  plan.invariants.flatMap (fun invariant => whenever invariant.behavior.isSome [.invariants, .expressions])

structure BackendCapabilities where
  backendId : String
  version : String
  supportedFeatures : List SemanticFeature

def assertPlanSupported (plan : Plan) (capabilities : BackendCapabilities) :
    Except UnsupportedSemanticsError Unit :=
  let unsupported := sortedSet (((requiredFeatures plan).filter fun feature =>
    !capabilities.supportedFeatures.contains feature).map SemanticFeature.value)
  require unsupported.isEmpty
    (.unsupportedFeatures capabilities.backendId capabilities.version unsupported)

end AutonomousApi.Capabilities
