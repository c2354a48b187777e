import AutonomousApi.DataclassValues

/-! The parts of a module of the intermediate software representation: fields and
constraints, entities, services, workflows, policies, interfaces, events, components
and API contracts, and the environment a system is deployed to. Each class has the
fields of the source with their defaults; what its `__post_init__` refuses is excluded
by the last field. -/

namespace AutonomousApi.ModuleModel

open DataclassValues

inductive FieldType where
  | string | text | integer | float | decimal | boolean | date | datetime | time | uuid
  | identifier | email | url | enum | json | binary | array | reference
  deriving DecidableEq

instance : StrEnum FieldType where
  members := [.string, .text, .integer, .float, .decimal, .boolean, .date, .datetime, .time, .uuid,
    .identifier, .email, .url, .enum, .json, .binary, .array, .reference]
  value
    | .string => "string"
    | .text => "text"
    | .integer => "integer"
    | .float => "float"
    | .decimal => "decimal"
    | .boolean => "boolean"
    | .date => "date"
    | .datetime => "datetime"
    | .time => "time"
    | .uuid => "uuid"
    | .identifier => "identifier"
    | .email => "email"
    | .url => "url"
    | .enum => "enum"
    | .json => "json"
    | .binary => "binary"
    | .array => "array"
    | .reference => "reference"
  complete member := by cases member <;> decide
  distinct := by decide

inductive FieldCardinality where
  | required | optional | list
  deriving DecidableEq

instance : StrEnum FieldCardinality where
  members := [.required, .optional, .list]
  value
    | .required => "required"
    | .optional => "optional"
    | .list => "list"
  complete member := by cases member <;> decide
  distinct := by decide

structure FieldConstraint where
  name : String
  constraintType : String
  parameters : StrDict PyValue := ∅
  message : String := ""

structure Field where
  name : String
  fieldType : FieldType
  cardinality : FieldCardinality := .required
  description : String := ""
  defaultValue : Option String := none
  constraints : List FieldConstraint := []
  enumValues : List String := []
  referenceTarget : Option String := none
  isPrimaryKey : Bool := false
  isIndexed : Bool := false
  metadata : StrDict String := ∅
  abstractSourceType : Option String := none
  admitted : (fieldType = .enum → enumValues ≠ []) ∧
    (fieldType = .reference → referenceTarget.getD "" ≠ "")

inductive ConstraintScope where
  | system | module | entity | service | field | interface | global
  deriving DecidableEq

instance : StrEnum ConstraintScope where
  members := [.system, .module, .entity, .service, .field, .interface, .global]
  value
    | .system => "system"
    | .module => "module"
    | .entity => "entity"
    | .service => "service"
    | .field => "field"
    | .interface => "interface"
    | .global => "global"
  complete member := by cases member <;> decide
  distinct := by decide

inductive ConstraintSeverity where
  | error | warning | info
  deriving DecidableEq

instance : StrEnum ConstraintSeverity where
  members := [.error, .warning, .info]
  value
    | .error => "error"
    | .warning => "warning"
    | .info => "info"
  complete member := by cases member <;> decide
  distinct := by decide

structure Constraint where
  id : String
  name : String
  scope : ConstraintScope
  severity : ConstraintSeverity := .error
  description : String := ""
  ruleType : String := ""
  parameters : StrDict PyValue := ∅
  targetNodeIds : List String := []
  message : String := ""

structure Relationship where
  targetEntityId : String
  relationshipType : String := "one_to_many"
  fieldName : String := ""
  inverseFieldName : String := ""
  cascadeDelete : Bool := false
  description : String := ""

structure Entity where
  id : String
  name : String
  description : String := ""
  fields : List Field := []
  relationships : List Relationship := []
  constraints : List Constraint := []
  isAggregateRoot : Bool := false
  isValueObject : Bool := false
  metadata : StrDict String := ∅
  owningServiceId : Option String := none
  invariants : List String := []
  consistencyPosture : String := "strong"

inductive OperationType where
  | command | query | eventHandler | scheduled | internal
  deriving DecidableEq

instance : StrEnum OperationType where
  members := [.command, .query, .eventHandler, .scheduled, .internal]
  value
    | .command => "command"
    | .query => "query"
    | .eventHandler => "event_handler"
    | .scheduled => "scheduled"
    | .internal => "internal"
  complete member := by cases member <;> decide
  distinct := by decide

structure Operation where
  id : String
  name : String
  operationType : OperationType := .command
  description : String := ""
  inputSchema : List Field := []
  outputSchema : List Field := []
  isIdempotent : Bool := false
  isPublic : Bool := true
  requiredPermissions : List String := []
  metadata : StrDict String := ∅

structure ServiceDependency where
  targetServiceId : String
  dependencyType : String := "runtime"
  isRequired : Bool := true
  description : String := ""

structure Service where
  id : String
  name : String
  description : String := ""
  operations : List Operation := []
  dependencies : List ServiceDependency := []
  emittedEvents : List String := []
  consumedEvents : List String := []
  isStateless : Option Bool := none
  metadata : StrDict String := ∅
  domainId : Option String := none
  responsibilityRefs : List String := []
  exposedCapabilityRefs : List String := []
  communicationStyles : List String := []

inductive StateType where
  | initial | intermediate | final | error
  deriving DecidableEq

instance : StrEnum StateType where
  members := [.initial, .intermediate, .final, .error]
  value
    | .initial => "initial"
    | .intermediate => "intermediate"
    | .final => "final"
    | .error => "error"
  complete member := by cases member <;> decide
  distinct := by decide

structure WorkflowState where
  id : String
  name : String
  stateType : StateType := .intermediate
  description : String := ""
  entryActions : List String := []
  exitActions : List String := []
  metadata : StrDict String := ∅

structure WorkflowTransition where
  id : String
  name : String
  fromStateId : String
  toStateId : String
  trigger : String := ""
  guardCondition : String := ""
  actions : List String := []
  description : String := ""
  metadata : StrDict String := ∅

structure Workflow where
  id : String
  name : String
  description : String := ""
  states : List WorkflowState := []
  transitions : List WorkflowTransition := []
  metadata : StrDict String := ∅

inductive PolicyType where
  | authentication | authorization | encryption | rateLimiting | audit | dataRetention
  | compliance | operational
  deriving DecidableEq

instance : StrEnum PolicyType where
  members := [.authentication, .authorization, .encryption, .rateLimiting, .audit, .dataRetention,
    .compliance, .operational]
  value
    | .authentication => "authentication"
    | .authorization => "authorization"
    | .encryption => "encryption"
    | .rateLimiting => "rate_limiting"
    | .audit => "audit"
    | .dataRetention => "data_retention"
    | .compliance => "compliance"
    | .operational => "operational"
  complete member := by cases member <;> decide
  distinct := by decide

structure PolicyRule where
  id : String
  name : String
  description : String := ""
  ruleType : String := ""
  parameters : StrDict PyValue := ∅
  priority : Int := 0

structure Permission where
  id : String
  name : String
  description : String := ""
  resource : String := ""
  actions : List String := []
  conditions : List String := []

structure Policy where
  id : String
  name : String
  policyType : PolicyType
  description : String := ""
  strategy : String := ""
  roles : List String := []
  rules : List PolicyRule := []
  permissions : List Permission := []
  metadata : StrDict String := ∅

inductive InterfaceType where
  | rest | graphql | grpc | eventSubscription | websocket | internal
  deriving DecidableEq

instance : StrEnum InterfaceType where
  members := [.rest, .graphql, .grpc, .eventSubscription, .websocket, .internal]
  value
    | .rest => "rest"
    | .graphql => "graphql"
    | .grpc => "grpc"
    | .eventSubscription => "event_subscription"
    | .websocket => "websocket"
    | .internal => "internal"
  complete member := by cases member <;> decide
  distinct := by decide

inductive HttpMethod where
  | get | post | put | patch | delete | head | options
  deriving DecidableEq

instance : StrEnum HttpMethod where
  members := [.get, .post, .put, .patch, .delete, .head, .options]
  value
    | .get => "GET"
    | .post => "POST"
    | .put => "PUT"
    | .patch => "PATCH"
    | .delete => "DELETE"
    | .head => "HEAD"
    | .options => "OPTIONS"
  complete member := by cases member <;> decide
  distinct := by decide

structure Endpoint where
  id : String
  name : String
  path : String := ""
  method : HttpMethod := .get
  description : String := ""
  inputSchema : List Field := []
  outputSchema : List Field := []
  requiredPermissions : List String := []
  isPublic : Bool := false
  rateLimit : Option Int := none
  metadata : StrDict String := ∅

structure Interface where
  id : String
  name : String
  interfaceType : InterfaceType := .rest
  description : String := ""
  version : String := "1.0"
  endpoints : List Endpoint := []
  securedByPolicyId : Option String := none
  isInternal : Bool := false
  metadata : StrDict String := ∅

inductive EventPattern where
  | fireAndForget | publishSubscribe | pointToPoint | requestReply
  deriving DecidableEq

instance : StrEnum EventPattern where
  members := [.fireAndForget, .publishSubscribe, .pointToPoint, .requestReply]
  value
    | .fireAndForget => "fire_and_forget"
    | .publishSubscribe => "publish_subscribe"
    | .pointToPoint => "point_to_point"
    | .requestReply => "request_reply"
  complete member := by cases member <;> decide
  distinct := by decide

inductive EventGuarantee where
  | atMostOnce | atLeastOnce | exactlyOnce
  deriving DecidableEq

instance : StrEnum EventGuarantee where
  members := [.atMostOnce, .atLeastOnce, .exactlyOnce]
  value
    | .atMostOnce => "at_most_once"
    | .atLeastOnce => "at_least_once"
    | .exactlyOnce => "exactly_once"
  complete member := by cases member <;> decide
  distinct := by decide

structure Event where
  id : String
  name : String
  description : String := ""
  schema : List Field := []
  pattern : Option EventPattern := none
  guarantee : EventGuarantee := .atLeastOnce
  orderingRequired : Bool := false
  ttlSeconds : Option Int := none
  metadata : StrDict String := ∅
  orderingSemantics : String := "none"
  producerServiceId : Option String := none
  consumerServiceIds : List String := []
  payloadModelId : Option String := none

structure Component where
  componentId : String
  serviceId : String
  name : String
  responsibility : String := ""
  kind : String := "application_service"
  admitted : componentId ≠ "" ∧ serviceId ≠ "" ∧ name ≠ "" ∧ kind ≠ ""

structure ApiOperationContract where
  name : String
  description : String := ""
  semantics : String := "query"
  idempotent : Bool := false
  admitted : name ≠ "" ∧ semantics ∈ ["command", "query"]

structure ApiContract where
  apiId : String
  name : String
  providerServiceId : String
  consumerServiceIds : List String := []
  interactionStyle : String := "request_response"
  operations : List ApiOperationContract := []
  admitted : (apiId ≠ "" ∧ name ≠ "" ∧ providerServiceId ≠ "") ∧
    interactionStyle ∈ ["request_response", "event_driven", "batch", "streaming"]

inductive ScalingStrategy where
  | horizontal | vertical | auto | none
  deriving DecidableEq

instance : StrEnum ScalingStrategy where
  members := [.horizontal, .vertical, .auto, .none]
  value
    | .horizontal => "horizontal"
    | .vertical => "vertical"
    | .auto => "auto"
    | .none => "none"
  complete member := by cases member <;> decide
  distinct := by decide

inductive EnvironmentTier where
  | development | staging | production
  deriving DecidableEq

instance : StrEnum EnvironmentTier where
  members := [.development, .staging, .production]
  value
    | .development => "development"
    | .staging => "staging"
    | .production => "production"
  complete member := by cases member <;> decide
  distinct := by decide

structure ScalingConfig where
  strategy : ScalingStrategy := .auto
  minInstances : Int := 1
  maxInstances : Int := 10
  targetCpuPercent : JsonValue.JsonFloat := .finite 70
  targetMemoryPercent : JsonValue.JsonFloat := .finite 80

structure NetworkingConfig where
  exposePublicly : Bool := false
  internalDns : String := ""
  tlsRequired : Bool := true
  allowedOrigins : List String := []
  port : Int := 8080

structure MonitoringConfig where
  healthCheckPath : String := "/health"
  readinessCheckPath : String := "/ready"
  metricsEnabled : Bool := true
  tracingEnabled : Bool := true
  structuredLogging : Bool := true
  alertRules : List String := []

structure StorageConfig where
  persistentStorageRequired : Bool := false
  storageSizeGb : Option Int := none
  backupEnabled : Bool := true
  encryptionAtRest : Bool := true

structure SecretsConfig where
  secrets : List String := []
  rotationPolicyDays : Int := 90
  encryptionInTransit : Bool := true

structure Deployment where
  id : String
  name : String
  description : String := ""
  environment : EnvironmentTier := .production
  scaling : ScalingConfig := {}
  networking : NetworkingConfig := {}
  monitoring : MonitoringConfig := {}
  storage : StorageConfig := {}
  secrets : SecretsConfig := {}
  metadata : StrDict String := ∅

end AutonomousApi.ModuleModel
