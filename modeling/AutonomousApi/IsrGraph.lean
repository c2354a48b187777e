import AutonomousApi.IsrBehavior
import AutonomousApi.PythonText

/-! The typed ISR graph and the checks a revision passes before it is hashed
(isr/core/graph.py, invariants.py, behavior_validation.py, revision.py). Nodes and
edges are dictionaries, so their keys are distinct; a node's own `id` field is
separate data and need not repeat its key. Schema parsing belongs to pydantic and
is a parameter: it returns a payload of the class that the node type selects, so
a type without a schema never parses. -/

namespace AutonomousApi.IsrGraph

open JsonValue OrderedMap IsrBehavior FailFast PythonText

inductive NodeType where
  | domain | capability | service | api | dataModel | event | securityPolicy
  | infrastructureTarget | requirementRef | frontendRoute | frontendInteraction
  | effect | invariant | consequence
  deriving DecidableEq

def NodeType.value : NodeType → String
  | .domain => "domain"
  | .capability => "capability"
  | .service => "service"
  | .api => "api"
  | .dataModel => "data_model"
  | .event => "event"
  | .securityPolicy => "security_policy"
  | .infrastructureTarget => "infrastructure_target"
  | .requirementRef => "requirement_ref"
  | .frontendRoute => "frontend_route"
  | .frontendInteraction => "frontend_interaction"
  | .effect => "effect"
  | .invariant => "invariant"
  | .consequence => "consequence"

inductive EdgeType where
  | satisfies | implementedBy | exposes | persists | publishes | consumedBy | dependsOn
  | securedBy | contains | routesTo | invokes | causesEffect | requiresInvariant
  | consequenceOf | requirementDependsOn | requirementConflictsWith | requirementRefines
  | requirementOwnedBy
  deriving DecidableEq

def EdgeType.value : EdgeType → String
  | .satisfies => "satisfies"
  | .implementedBy => "implemented_by"
  | .exposes => "exposes"
  | .persists => "persists"
  | .publishes => "publishes"
  | .consumedBy => "consumed_by"
  | .dependsOn => "depends_on"
  | .securedBy => "secured_by"
  | .contains => "contains"
  | .routesTo => "routes_to"
  | .invokes => "invokes"
  | .causesEffect => "causes_effect"
  | .requiresInvariant => "requires_invariant"
  | .consequenceOf => "consequence_of"
  | .requirementDependsOn => "requirement_depends_on"
  | .requirementConflictsWith => "requirement_conflicts_with"
  | .requirementRefines => "requirement_refines"
  | .requirementOwnedBy => "requirement_owned_by"

structure Node where
  id : String
  type : NodeType
  properties : Dict String Json := []
  deriving DecidableEq

structure Edge where
  id : String
  type : EdgeType
  sourceId : String
  targetId : String
  properties : Dict String Json := []
  deriving DecidableEq

structure Graph where
  nodes : Dict String Node := []
  edges : Dict String Edge := []
  distinctNodes : (keys nodes).Nodup := by decide
  distinctEdges : (keys edges).Nodup := by decide

def Graph.node (graph : Graph) (id : String) : Option Node := get graph.nodes id

def Graph.hasType (graph : Graph) (id : String) (type : NodeType) : Bool :=
  match graph.node id with
  | some node => node.type == type
  | none => false

def Graph.edgeList (graph : Graph) : List Edge := graph.edges.map Prod.snd

def edgeTypeCompatibility : EdgeType → List NodeType × List NodeType
  | .satisfies => ([.capability], [.requirementRef])
  | .implementedBy => ([.capability], [.service])
  | .exposes => ([.service], [.api])
  | .persists => ([.service], [.dataModel])
  | .publishes => ([.service], [.event])
  | .consumedBy => ([.event], [.service])
  | .dependsOn => ([.service, .capability], [.service, .capability])
  | .securedBy => ([.service, .api], [.securityPolicy])
  | .contains => ([.domain, .service, .frontendRoute],
      [.capability, .service, .api, .dataModel, .event, .frontendRoute, .frontendInteraction])
  | .routesTo => ([.frontendRoute], [.api])
  | .invokes => ([.frontendInteraction], [.api, .service])
  | .causesEffect => ([.api, .service, .event], [.effect])
  | .requiresInvariant => ([.dataModel, .service, .effect], [.invariant])
  | .consequenceOf => ([.consequence], [.effect, .invariant])
  | .requirementDependsOn => ([.requirementRef], [.requirementRef])
  | .requirementConflictsWith => ([.requirementRef], [.requirementRef])
  | .requirementRefines => ([.requirementRef], [.requirementRef])
  | .requirementOwnedBy => ([.requirementRef], [.requirementRef])

inductive IsrInvariantViolation where
  | duplicateEdgeIds (ids : List String)
  | missingSource (edge source : String)
  | missingTarget (edge target : String)
  | sourceType (edge : String) (type : EdgeType) (source : String) (found : NodeType)
  | targetType (edge : String) (type : EdgeType) (target : String) (found : NodeType)
  | missingRefId (node : String)
  | implementationLeakage (entity term : String)
  | testingMechanism (entity term : String)

def forbiddenImplementationTerms : List String :=
  ["aws", "boto", "docker", "django", "fastapi", "flask", "graphql", "grpc", "java", "kafka",
    "kubernetes", "mongo", "mysql", "nestjs", "neo4j", "nginx", "nodejs", "postgres",
    "postgresql", "rabbitmq", "react", "redis", "spring", "terraform", "vue"]

def testingMechanismTerms : List String :=
  ["pytest", "playwright", "selenium", "junit", "testng", "mocha", "jest", "rspec", "xunit", "nunit"]

mutual
def deepStrings : Json → List String
  | .str value => [value]
  | .obj entries => entryStrings entries
  | .arr items => itemStrings items
  | _ => []

def itemStrings : List Json → List String
  | [] => []
  | item :: rest => deepStrings item ++ itemStrings rest

def entryStrings : List (String × Json) → List String
  | [] => []
  | (key, value) :: rest => key :: deepStrings value ++ entryStrings rest
end

def mappingStrings (properties : Dict String Json) : List String := entryStrings properties

def checkTerms (table : CharTable) (terms : List String) (fault : String → IsrInvariantViolation)
    (texts : List String) : Except IsrInvariantViolation Unit :=
  checkAll (fun text =>
    match searchTerms table terms false text.toList with
    | some term => .error (fault term)
    | none => .ok ()) texts

def checkLeakage (table : CharTable) (entity : String) (texts : List String) :
    Except IsrInvariantViolation Unit :=
  checkTerms table forbiddenImplementationTerms (.implementationLeakage entity) texts

def checkTestingMechanism (table : CharTable) (entity : String) (texts : List String) :
    Except IsrInvariantViolation Unit :=
  checkTerms table testingMechanismTerms (.testingMechanism entity) texts

def checkEdge (table : CharTable) (nodes : Dict String Node) (edge : Edge) :
    Except IsrInvariantViolation Unit :=
  match get nodes edge.sourceId with
  | none => .error (.missingSource edge.id edge.sourceId)
  | some source =>
      match get nodes edge.targetId with
      | none => .error (.missingTarget edge.id edge.targetId)
      | some target =>
          if (edgeTypeCompatibility edge.type).1.contains source.type then
            if (edgeTypeCompatibility edge.type).2.contains target.type then
              checkLeakage table ("edge:" ++ edge.id) (mappingStrings edge.properties ++ [edge.type.value])
            else .error (.targetType edge.id edge.type edge.targetId target.type)
          else .error (.sourceType edge.id edge.type edge.sourceId source.type)

def checkNode (table : CharTable) (node : Node) : Except IsrInvariantViolation Unit :=
  let texts := mappingStrings node.properties ++ [node.type.value]
  if node.type = .requirementRef then
    match get node.properties "ref_id" with
    | some (.str refId) =>
        if strip table refId.toList = [] then .error (.missingRefId node.id)
        else checkLeakage table ("node:" ++ node.id) texts
    | _ => .error (.missingRefId node.id)
  else checkLeakage table ("node:" ++ node.id) texts

def duplicateEdgeKeys (edges : Dict String Edge) : List String :=
  (keys edges).filter fun key => 1 < (edges.filter fun entry => entry.2.id == key).length

def validateInvariants (table : CharTable) (graph : Graph) : Except IsrInvariantViolation Unit := do
  require (decide (graph.edgeList.map Edge.id).Nodup)
    (.duplicateEdgeIds ((duplicateEdgeKeys graph.edges).take 5))
  checkAll (checkEdge table graph.nodes) graph.edgeList
  checkAll (checkNode table) (graph.nodes.map Prod.snd)
  checkAll (fun node => checkTestingMechanism table ("node:" ++ node.id)
    (mappingStrings node.properties ++ [node.type.value])) (graph.nodes.map Prod.snd)

theorem bind_unit_ok_iff {Fault Next : Type} (first : Except Fault Unit) (rest : Except Fault Next)
    (next : Next) : (first >>= fun _ => rest) = .ok next ↔ first = .ok () ∧ rest = .ok next := by
  cases first <;> simp [bind, Except.bind]

theorem validateInvariants_ok_iff (table : CharTable) (graph : Graph) :
    validateInvariants table graph = .ok () ↔
      (graph.edgeList.map Edge.id).Nodup ∧
      (∀ edge ∈ graph.edgeList, checkEdge table graph.nodes edge = .ok ()) ∧
      (∀ node ∈ graph.nodes.map Prod.snd, checkNode table node = .ok ()) ∧
      (∀ node ∈ graph.nodes.map Prod.snd, checkTestingMechanism table ("node:" ++ node.id)
        (mappingStrings node.properties ++ [node.type.value]) = .ok ()) := by
  simp only [validateInvariants, bind_unit_ok_iff, require_ok_iff, decide_eq_true_eq, checkAll_ok_iff]

/-- An admitted edge joins two nodes of types its relation allows. -/
theorem checkEdge_endpoints {table : CharTable} {nodes : Dict String Node} {edge : Edge}
    (admitted : checkEdge table nodes edge = .ok ()) :
    ∃ source target, get nodes edge.sourceId = some source ∧ get nodes edge.targetId = some target ∧
      source.type ∈ (edgeTypeCompatibility edge.type).1 ∧
      target.type ∈ (edgeTypeCompatibility edge.type).2 := by
  unfold checkEdge at admitted
  split at admitted
  · cases admitted
  next source foundSource =>
    split at admitted
    · cases admitted
    next target foundTarget =>
      split at admitted
      next sourceAllowed =>
        split at admitted
        next targetAllowed =>
          exact ⟨source, target, foundSource, foundTarget, by simpa using sourceAllowed,
            by simpa using targetAllowed⟩
        next => cases admitted
      next => cases admitted

/-- The schema class `validate_behavior_payload` picks for a node type. -/
def Behavior : NodeType → Type
  | .dataModel => DataModelBehavior
  | .event => EventBehavior
  | .service => ServiceBehavior
  | .api => ApiBehavior
  | .effect => EffectBehavior
  | .securityPolicy => SecurityBehavior
  | .invariant => InvariantSpec
  | .frontendRoute => FrontendRouteBehavior
  | .frontendInteraction => FrontendInteractionBehavior
  | _ => Empty

/-- What the development takes from pydantic and the Python runtime: parsing a
payload against a schema class, and `str` of a value that is not a string. -/
structure Schemas where
  validate : (type : NodeType) → Json → Option (Behavior type)
  str : Json → String

structure ParsedPayload where
  type : NodeType
  payload : Behavior type

inductive BehavioralContractViolation where
  | invalidPayload (node : String)
  | duplicateFields (node : String)
  | duplicateRoutePath (path previous node : String)
  | routeWithoutContract (node : String)
  | routeInvalidContract (node : String)
  | effectWithoutService (node : String)
  | interactionOwner (node : String)
  | interactionTarget (node : String)
  | interactionContract (node : String)
  | interactionInvalidContract (node : String)
  | interactionMethod (node : String) (action : InteractionAction) (method : Method)
  | toggleInvokes (node : String)
  | missingPolicies (node : String) (policies : List String)
  | unknownFields (node : String) (fieldRefs : List String)

def validateBehaviorPayload (schemas : Schemas) (node : Node) : Option (Option ParsedPayload) :=
  match get node.properties "behavior" with
  | none => some none
  | some payload => (schemas.validate node.type payload).map fun behavior => some ⟨node.type, behavior⟩

def declaredFields : ParsedPayload → Option (List FieldSpec)
  | ⟨.dataModel, behavior⟩ => some (DataModelBehavior.fields behavior)
  | ⟨.event, behavior⟩ => some (EventBehavior.fields behavior)
  | _ => none

def parsePayload (schemas : Schemas) (entry : String × Node) :
    Except BehavioralContractViolation (Option (String × ParsedPayload)) :=
  match validateBehaviorPayload schemas entry.2 with
  | none => .error (.invalidPayload entry.1)
  | some none => .ok none
  | some (some parsed) =>
      if decide (((declaredFields parsed).getD []).map FieldSpec.name).Nodup then
        .ok (some (entry.1, parsed))
      else .error (.duplicateFields entry.1)

/-- The relations of a graph that the contract checks read. -/
structure Links where
  routesTo : String → List String
  effectOwners : String → List String
  ownerRoutes : String → List String
  invoked : String → List String

def sourcesInto (graph : Graph) (type : EdgeType) (sourceType : NodeType) (target : String) : List String :=
  graph.edgeList.filterMap fun edge =>
    if edge.type = type ∧ edge.targetId = target ∧ graph.hasType edge.sourceId sourceType then
      some edge.sourceId
    else none

def targetsFrom (graph : Graph) (type : EdgeType) (source : String) : List String :=
  graph.edgeList.filterMap fun edge =>
    if edge.type = type ∧ edge.sourceId = source then some edge.targetId else none

def linksOf (graph : Graph) : Links where
  routesTo := targetsFrom graph .routesTo
  effectOwners := sourcesInto graph .causesEffect .service
  ownerRoutes := sourcesInto graph .contains .frontendRoute
  invoked := targetsFrom graph .invokes

/-- The operation contract of an API node: absent, invalid or parsed. -/
def apiContract (schemas : Schemas) (nodes : Dict String Node) (id : String) :
    Option (Option ApiBehavior) :=
  match get nodes id with
  | none => none
  | some node =>
      if node.type = .api then (get node.properties "behavior").map (schemas.validate .api) else none

def expectedMethods : InteractionAction → List Method
  | .submit => [.post, .put, .patch]
  | .refresh => [.get]
  | .delete => [.delete]
  | .toggle => []

def checkInteraction (schemas : Schemas) (nodes : Dict String Node) (links : Links) (id : String)
    (behavior : FrontendInteractionBehavior) : Except BehavioralContractViolation Unit := do
  require (decide ((links.ownerRoutes id).length = 1)) (.interactionOwner id)
  if behavior.action = .toggle then
    require (links.invoked id).isEmpty (.toggleInvokes id)
  else
    match links.invoked id with
    | [target] =>
        require (get nodes target).isSome (.interactionTarget id)
        match apiContract schemas nodes target with
        | none => .error (.interactionContract id)
        | some none => .error (.interactionInvalidContract id)
        | some (some api) =>
            require ((expectedMethods behavior.action).contains api.method)
              (.interactionMethod id behavior.action api.method)
    | _ => .error (.interactionTarget id)

def checkRouteTargets (schemas : Schemas) (nodes : Dict String Node) (links : Links) (id : String) :
    Except BehavioralContractViolation Unit :=
  checkAll (fun target =>
    match apiContract schemas nodes target with
    | none => .error (.routeWithoutContract id)
    | some none => .error (.routeInvalidContract id)
    | some (some _) => .ok ()) (links.routesTo id)

def checkStructure (schemas : Schemas) (nodes : Dict String Node) (links : Links)
    (routePaths : Dict String String) (entry : String × ParsedPayload) :
    Except BehavioralContractViolation (Dict String String) :=
  match entry.2 with
  | ⟨.frontendRoute, behavior⟩ =>
      let path := FrontendRouteBehavior.path behavior
      match get routePaths path with
      | some previous => .error (.duplicateRoutePath path previous entry.1)
      | none => do
          checkRouteTargets schemas nodes links entry.1
          pure (assign routePaths path entry.1)
  | ⟨.effect, _⟩ => do
      require (!(links.effectOwners entry.1).isEmpty) (.effectWithoutService entry.1)
      pure routePaths
  | ⟨.frontendInteraction, behavior⟩ => do
      checkInteraction schemas nodes links entry.1 behavior
      pure routePaths
  | _ => .ok routePaths

def nodeText (schemas : Schemas) (value : Json) : String :=
  match value with
  | .str text => text
  | other => schemas.str other

def modelFields (parsed : ParsedPayload) : List FieldSpec :=
  match parsed with
  | ⟨.dataModel, behavior⟩ => DataModelBehavior.fields behavior
  | _ => []

/-- Qualified references, and the field names that only one data model declares. -/
def validRefs (schemas : Schemas) (nodes : Dict String Node)
    (parsed : List (String × ParsedPayload)) : List String :=
  let qualified := parsed.flatMap fun entry =>
    let label := match get nodes entry.1 with
      | some node => nodeText schemas ((get node.properties "label").getD (.str entry.1))
      | none => entry.1
    (modelFields entry.2).map fun field => label ++ "." ++ field.name
  let simple := parsed.flatMap fun entry => (modelFields entry.2).map FieldSpec.name
  qualified ++ simple.filter fun name => simple.count name == 1

def behaviorExpressions : ParsedPayload → List Expression
  | ⟨.dataModel, behavior⟩ => (DataModelBehavior.invariants behavior).map InvariantSpec.expression
  | ⟨.service, behavior⟩ =>
      (ServiceBehavior.rules behavior).map BusinessRule.expression ++
        (ServiceBehavior.transitions behavior).filterMap StateTransition.guard
  | ⟨.invariant, behavior⟩ => [InvariantSpec.expression behavior]
  | _ => []

def checkReferences (policyIds refs : List String) (entry : String × ParsedPayload) :
    Except BehavioralContractViolation Unit := do
  match entry.2 with
  | ⟨.api, behavior⟩ =>
      let missing := sortedSet ((ApiBehavior.authorizationPolicyIds behavior).filter
        fun id => !policyIds.contains id)
      require missing.isEmpty (.missingPolicies entry.1 missing)
  | _ => pure ()
  checkAll (fun expression =>
    let unknown := sortedSet ((expressionFieldRefs expression).filter fun ref => !refs.contains ref)
    require unknown.isEmpty (.unknownFields entry.1 unknown)) (behaviorExpressions entry.2)

def validateContracts (schemas : Schemas) (nodes : Dict String Node) (links : Links) :
    Except BehavioralContractViolation Unit := do
  let parsed ← gather (parsePayload schemas) nodes
  let _ ← foldChecked (checkStructure schemas nodes links) [] parsed
  let policyIds := (nodes.filter fun entry => entry.2.type == .securityPolicy).map Prod.fst
  checkAll (checkReferences policyIds (validRefs schemas nodes parsed)) parsed

def validateBehavioralGraph (schemas : Schemas) (graph : Graph) :
    Except BehavioralContractViolation Unit :=
  validateContracts schemas graph.nodes (linksOf graph)

def nodeDocument (node : Node) : Json :=
  .obj [("id", .str node.id), ("type", .str node.type.value), ("properties", .obj node.properties)]

def edgeDocument (edge : Edge) : Json :=
  .obj [("id", .str edge.id), ("type", .str edge.type.value), ("source_id", .str edge.sourceId),
    ("target_id", .str edge.targetId), ("properties", .obj edge.properties)]

def canonicalDocument (schemaVersion : String) (graph : Graph) : Json :=
  .obj [("schema_version", .str schemaVersion),
    ("nodes", .obj (graph.nodes.map fun entry => (entry.1, nodeDocument entry.2))),
    ("edges", .obj (graph.edges.map fun entry => (entry.1, edgeDocument entry.2)))]

/-- `digest` is the SHA-256 of the compact text of a key-sorted document. -/
def computeContentHash (digest : Json → String) (schemaVersion : String) (graph : Graph) : String :=
  digest (DataTree.sortKeys (canonicalDocument schemaVersion graph))

structure Revision where
  systemId : String
  revisionId : String
  schemaVersion : String
  graph : Graph
  contentHash : String

inductive CreateError where
  | invariant (violation : IsrInvariantViolation)
  | contract (violation : BehavioralContractViolation)
  | emptyIdentity
  | schemaVersion (found : String)

/-- The pattern `^\d+\.\d+$`, with the optional final newline that `$` lets pass. -/
def schemaVersionPattern (table : CharTable) (version : List Char) : Bool :=
  let major := version.takeWhile table.isDecimal
  match version.dropWhile table.isDecimal with
  | '.' :: rest =>
      let minor := rest.takeWhile table.isDecimal
      let tail := rest.dropWhile table.isDecimal
      !major.isEmpty && !minor.isEmpty && (tail.isEmpty || tail == ['\n'])
  | _ => false

def create (table : CharTable) (schemas : Schemas) (digest : Json → String)
    (systemId revisionId schemaVersion : String) (graph : Graph) : Except CreateError Revision := do
  (validateInvariants table graph).mapError .invariant
  (validateBehavioralGraph schemas graph).mapError .contract
  require (systemId ≠ "" && revisionId ≠ "") .emptyIdentity
  require (schemaVersionPattern table schemaVersion.toList) (.schemaVersion schemaVersion)
  pure ⟨systemId, revisionId, schemaVersion, graph, computeContentHash digest schemaVersion graph⟩

theorem mapError_ok_iff {Fault Other : Type} (outcome : Except Fault Unit) (wrap : Fault → Other) :
    outcome.mapError wrap = .ok () ↔ outcome = .ok () := by
  cases outcome <;> simp [Except.mapError]

theorem create_ok_iff (table : CharTable) (schemas : Schemas) (digest : Json → String)
    (systemId revisionId schemaVersion : String) (graph : Graph) (revision : Revision) :
    create table schemas digest systemId revisionId schemaVersion graph = .ok revision ↔
      validateInvariants table graph = .ok () ∧ validateBehavioralGraph schemas graph = .ok () ∧
      (systemId ≠ "" ∧ revisionId ≠ "") ∧ schemaVersionPattern table schemaVersion.toList = true ∧
      revision = ⟨systemId, revisionId, schemaVersion, graph,
        computeContentHash digest schemaVersion graph⟩ := by
  simp only [create, bind_unit_ok_iff, mapError_ok_iff, require_ok_iff, pure, Except.pure,
    Except.ok.injEq, Bool.and_eq_true, decide_eq_true_eq, eq_comm (a := revision)]

end AutonomousApi.IsrGraph
