import AutonomousApi.IsrBehavior

/-! The technology-neutral plan of compiler/core/plan.py. Payloads are carried as
typed models; a security policy has an identifier and a payload but no name. -/

namespace AutonomousApi.CompilationPlan

open IsrBehavior

structure DataModel where
  id : String
  entityName : String
  behavior : Option DataModelBehavior := none
  deriving DecidableEq

structure Event where
  id : String
  name : String
  behavior : Option EventBehavior := none
  deriving DecidableEq

structure SecurityPolicy where
  policyId : String
  behavior : Option SecurityBehavior := none
  deriving DecidableEq

structure Effect where
  id : String
  name : String
  behavior : Option EffectBehavior := none
  deriving DecidableEq

structure Service where
  id : String
  name : String
  dataModels : List DataModel := []
  publishedEvents : List Event := []
  consumedEvents : List Event := []
  effects : List Effect := []
  behavior : Option ServiceBehavior := none
  securityPolicies : List SecurityPolicy := []
  deriving DecidableEq

structure ApiOperation where
  id : String
  name : String
  behavior : Option ApiBehavior := none
  serviceId : Option String := none
  securityPolicies : List SecurityPolicy := []
  deriving DecidableEq

structure FrontendInteraction where
  id : String
  name : String
  behavior : Option FrontendInteractionBehavior := none
  targetApiOperation : Option ApiOperation := none
  deriving DecidableEq

structure FrontendRoute where
  id : String
  name : String
  behavior : Option FrontendRouteBehavior := none
  apiOperations : List ApiOperation := []
  interactions : List FrontendInteraction := []
  deriving DecidableEq

structure Invariant where
  id : String
  name : String
  behavior : Option InvariantSpec := none
  deriving DecidableEq

structure Plan where
  planId : String
  isrId : String
  services : List Service := []
  dataModels : List DataModel := []
  events : List Event := []
  security : List SecurityPolicy := []
  apis : List ApiOperation := []
  effects : List Effect := []
  invariants : List Invariant := []
  frontendRoutes : List FrontendRoute := []
  frontendInteractions : List FrontendInteraction := []
  deriving DecidableEq

end AutonomousApi.CompilationPlan
