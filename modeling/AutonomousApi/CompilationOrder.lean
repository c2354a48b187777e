import AutonomousApi.GeneratedFiles
import AutonomousApi.LoweringFidelity

/-! What the order of declarations decides. The content hash reads a graph as maps and
forgets every order. The lowering and the emitters keep the order of the nodes of one
type and of the edges of one type, and nothing else of it: how the types are mixed and
in which order properties are written does not reach the repository. -/

namespace AutonomousApi.CompilationOrder

open DataTree JsonValue OrderedMap IsrGraph CompilationPlan PythonText PythonLiteral
open Lowering LoweringFidelity GeneratedFiles

/-- Equality of graphs as maps, with property maps compared at every depth. -/
structure SameContent (left right : Graph) : Prop where
  nodeCount : left.nodes.length = right.nodes.length
  nodes : ∀ entry ∈ left.nodes, ∃ other, (entry.1, other) ∈ right.nodes ∧ entry.2.id = other.id ∧
    entry.2.type = other.type ∧ SameMap (Json.obj entry.2.properties) (Json.obj other.properties)
  edgeCount : left.edges.length = right.edges.length
  edges : ∀ entry ∈ left.edges, ∃ other, (entry.1, other) ∈ right.edges ∧ entry.2.id = other.id ∧
    entry.2.type = other.type ∧ entry.2.sourceId = other.sourceId ∧ entry.2.targetId = other.targetId ∧
    SameMap (Json.obj entry.2.properties) (Json.obj other.properties)

/-- No property map repeats a key at any depth, as for every Python dictionary. -/
structure Dictionaries (graph : Graph) : Prop where
  nodes : ∀ entry ∈ graph.nodes, Distinct (Json.obj entry.2.properties)
  edges : ∀ entry ∈ graph.edges, Distinct (Json.obj entry.2.properties)

theorem canonicalDocument_sameMap (schemaVersion : String) {left right : Graph} (same : SameContent left right) :
    SameMap (canonicalDocument schemaVersion left) (canonicalDocument schemaVersion right) := by
  have nodes : SameMap (Json.obj (left.nodes.map fun entry => (entry.1, nodeDocument entry.2)))
      (Json.obj (right.nodes.map fun entry => (entry.1, nodeDocument entry.2))) := by
    refine (sameMap_dict_iff _ _).mpr ⟨by simpa using same.nodeCount, List.forall_mem_map.mpr fun entry listed => ?_⟩
    obtain ⟨other, found, sameId, sameType, sameProperties⟩ := same.nodes entry listed
    refine ⟨nodeDocument other, List.mem_map.mpr ⟨_, found, rfl⟩, (sameMap_dict_iff _ _).mpr ⟨rfl, ?_⟩⟩
    rw [sameId, sameType]
    simp only [List.forall_mem_cons, List.not_mem_nil, false_implies, implies_true, and_true]
    exact ⟨⟨_, by simp, sameMap_atom _⟩, ⟨_, by simp, sameMap_atom _⟩, ⟨_, by simp, sameProperties⟩⟩
  have edges : SameMap (Json.obj (left.edges.map fun entry => (entry.1, edgeDocument entry.2)))
      (Json.obj (right.edges.map fun entry => (entry.1, edgeDocument entry.2))) := by
    refine (sameMap_dict_iff _ _).mpr ⟨by simpa using same.edgeCount, List.forall_mem_map.mpr fun entry listed => ?_⟩
    obtain ⟨other, found, sameId, sameType, sameSource, sameTarget, sameProperties⟩ := same.edges entry listed
    refine ⟨edgeDocument other, List.mem_map.mpr ⟨_, found, rfl⟩, (sameMap_dict_iff _ _).mpr ⟨rfl, ?_⟩⟩
    rw [sameId, sameType, sameSource, sameTarget]
    simp only [List.forall_mem_cons, List.not_mem_nil, false_implies, implies_true, and_true]
    exact ⟨⟨_, by simp, sameMap_atom _⟩, ⟨_, by simp, sameMap_atom _⟩, ⟨_, by simp, sameMap_atom _⟩,
      ⟨_, by simp, sameMap_atom _⟩, ⟨_, by simp, sameProperties⟩⟩
  refine (sameMap_dict_iff _ _).mpr ⟨rfl, ?_⟩
  simp only [List.forall_mem_cons, List.not_mem_nil, false_implies, implies_true, and_true]
  exact ⟨⟨_, by simp, sameMap_atom _⟩, ⟨_, by simp, nodes⟩, ⟨_, by simp, edges⟩⟩

theorem canonicalDocument_distinct (schemaVersion : String) {graph : Graph} (dictionaries : Dictionaries graph) :
    Distinct (canonicalDocument schemaVersion graph) := by
  have atom (text : String) : Distinct (Json.str text) := by rw [Distinct]; trivial
  have nodes : Distinct (Json.obj (graph.nodes.map fun entry => (entry.1, nodeDocument entry.2))) := by
    refine (distinct_dict_iff _).mpr ⟨by simpa [Function.comp_def, keys] using graph.distinctNodes,
      List.forall_mem_map.mpr fun entry listed => (distinct_dict_iff _).mpr ⟨by simp, ?_⟩⟩
    simpa [atom] using dictionaries.nodes entry listed
  have edges : Distinct (Json.obj (graph.edges.map fun entry => (entry.1, edgeDocument entry.2))) := by
    refine (distinct_dict_iff _).mpr ⟨by simpa [Function.comp_def, keys] using graph.distinctEdges,
      List.forall_mem_map.mpr fun entry listed => (distinct_dict_iff _).mpr ⟨by simp, ?_⟩⟩
    simpa [atom] using dictionaries.edges entry listed
  refine (distinct_dict_iff _).mpr ⟨by simp, ?_⟩
  simpa [atom] using ⟨nodes, edges⟩

theorem computeContentHash_sameContent (digest : Json → String) (schemaVersion : String) {left right : Graph}
    (same : SameContent left right) (leftDictionaries : Dictionaries left)
    (rightDictionaries : Dictionaries right) :
    computeContentHash digest schemaVersion left = computeContentHash digest schemaVersion right := by
  rw [computeContentHash, computeContentHash, sortKeys_of_sameMap _ _
    (canonicalDocument_sameMap schemaVersion same) (canonicalDocument_distinct schemaVersion leftDictionaries)
    (canonicalDocument_distinct schemaVersion rightDictionaries)]

section

variable {schemas : Schemas} {left right : Graph}

/-- The nodes of each carried type stand in the same order, with the same labels and
parsed behaviors, and the edges of each type stand in the same order. -/
structure SameOrder (schemas : Schemas) (left right : Graph) : Prop where
  nodes : ∀ type ∈ carriedTypes,
    (nodesOf left type).map (described schemas type) = (nodesOf right type).map (described schemas type)
  edges : ∀ type, edgePairs left type = edgePairs right type

def nameFrom (id : String) : Json → Option String
  | .str name => if id = "" ∨ name = "" then none else some name
  | _ => none

theorem nameFrom_labelOf (entry : String × Node) :
    nameFrom entry.1 (labelOf entry) = (carrierName entry).toOption := by
  unfold nameFrom carrierName
  cases labelOf entry with
  | list items => rfl
  | dict entries => rfl
  | atom value =>
      cases value with
      | str name => by_cases unnamed : entry.1 = "" ∨ name = "" <;> simp [unnamed, Except.toOption]
      | null => rfl
      | bool value => rfl
      | int value => rfl
      | float value => rfl

/-- The carrier that a node's description alone leads to. -/
def namedCarrier {Carrier : Type} {type : NodeType} (build : String → String → Option (Behavior type) → Carrier)
    (description : Description type) : Option (String × Carrier) :=
  description.2.2.bind fun behavior => (nameFrom description.1 description.2.1).map fun name =>
    (description.1, build description.1 name behavior)

theorem carriersOf_named {Carrier : Type} (type : NodeType)
    (build : String → String → Option (Behavior type) → Carrier) (graph : Graph) :
    carriersOf type (lowerNamed schemas type build) graph.nodes =
      ((nodesOf graph type).map (described schemas type)).filterMap (namedCarrier build) := by
  rw [carriersOf, nodesOf, List.filterMap_map, List.filterMap_filter]
  congr 1
  funext entry
  by_cases hit : entry.2.type = type
  · simp only [hit, if_true, decide_true, Function.comp_apply, lowerNamed, described, namedCarrier,
      nameFrom_labelOf]
    cases behaviorOf schemas type entry with
    | error fault => rfl
    | ok behavior => cases carrierName entry <;> rfl
  · simp [hit]

def policyCarrier (description : Description .securityPolicy) : Option (String × SecurityPolicy) :=
  description.2.2.bind fun behavior =>
    if description.1 = "" then none else some (description.1, ⟨description.1, behavior⟩)

theorem carriersOf_policies (graph : Graph) :
    carriersOf .securityPolicy (lowerSecurityPolicy schemas) graph.nodes =
      ((nodesOf graph .securityPolicy).map (described schemas .securityPolicy)).filterMap policyCarrier := by
  rw [carriersOf, nodesOf, List.filterMap_map, List.filterMap_filter]
  congr 1
  funext entry
  by_cases hit : entry.2.type = .securityPolicy
  · simp only [hit, if_true, decide_true, Function.comp_apply, lowerSecurityPolicy, described, policyCarrier]
    cases behaviorOf schemas .securityPolicy entry with
    | error fault => simp [bind, Except.bind, Except.toOption]
    | ok behavior =>
        simp only [bind, Except.bind, Except.toOption, Option.bind_some]
        split_ifs <;> simp_all [pure, Except.pure]
  · simp [hit]

/-- A reading of the edges of one type reads their end points in order. -/
theorem filterMap_edgePairs {Item : Type} (graph : Graph) (type : EdgeType) (read : Edge → Option Item)
    (readPair : String × String → Option Item)
    (agree : ∀ edge, read edge = if edge.type = type then readPair (edge.sourceId, edge.targetId) else none) :
    graph.edgeList.filterMap read = (edgePairs graph type).filterMap readPair := by
  rw [edgePairs, List.filterMap_map, List.filterMap_filter]
  congr 1
  funext edge
  simp [agree edge]

theorem isApi_eq (graph : Graph) (id : String) :
    isApi graph.nodes id = decide (id ∈ (nodesOf graph .api).map Prod.fst) := by
  have listed : isApi graph.nodes id = true ↔ id ∈ (nodesOf graph .api).map Prod.fst := by
    unfold isApi nodesOf
    constructor
    · intro api
      cases found : get graph.nodes id with
      | none => simp [found] at api
      | some node =>
          have kind : node.type = .api := by simpa [found] using api
          exact List.mem_map.mpr ⟨_, List.mem_filter.mpr ⟨mem_of_get found, by simpa using kind⟩, rfl⟩
    · intro member
      obtain ⟨⟨key, node⟩, kept, rfl⟩ := List.mem_map.mp member
      obtain ⟨inside, kind⟩ := List.mem_filter.mp kept
      rw [get_of_mem graph.distinctNodes inside]
      simpa using kind
  rw [Bool.eq_iff_iff, listed, decide_eq_true_eq]

variable (same : SameOrder schemas left right)
include same

theorem SameOrder.carriers {Carrier : Type} (type : NodeType) (carried : type ∈ carriedTypes)
    (build : String → String → Option (Behavior type) → Carrier) :
    carriersOf type (lowerNamed schemas type build) left.nodes =
      carriersOf type (lowerNamed schemas type build) right.nodes := by
  rw [carriersOf_named, carriersOf_named, same.nodes type carried]

theorem SameOrder.apiNodes : isApi left.nodes = isApi right.nodes := by
  funext id
  have ids (graph : Graph) : (nodesOf graph .api).map Prod.fst =
      ((nodesOf graph .api).map (described schemas .api)).map Prod.fst := by
    rw [List.map_map]
    rfl
  rw [isApi_eq, isApi_eq, ids left, ids right, same.nodes .api (by decide)]

theorem SameOrder.targets (type : EdgeType) : targetsFrom left type = targetsFrom right type := by
  funext source
  have pairs (graph : Graph) := filterMap_edgePairs graph type
    (fun edge => if edge.type = type ∧ edge.sourceId = source then some edge.targetId else none)
    (fun pair => if pair.1 = source then some pair.2 else none)
    (fun edge => by by_cases kind : edge.type = type <;> simp [kind])
  rw [targetsFrom, targetsFrom, pairs left, pairs right, same.edges]

/-- Two edge passes with the same place for every edge file the same groups. -/
theorem SameOrder.placed {Item : Type} (type : EdgeType) (place : Edge → Option (String × Item)) (id : String)
    (placePair : String × String → Option (String × Item))
    (agree : ∀ edge, place edge = if edge.type = type then placePair (edge.sourceId, edge.targetId) else none) :
    left.edgeList.filterMap (placedAt place id) = right.edgeList.filterMap (placedAt place id) := by
  have pairs (graph : Graph) := filterMap_edgePairs graph type (placedAt place id) (placedAt placePair id)
    (fun edge => by
      by_cases kind : edge.type = type
      · simp only [placedAt, agree edge, kind, if_true]
      · simp only [placedAt, agree edge, kind, if_false])
  rw [pairs left, pairs right, same.edges]

variable (leftStages : Stages schemas left)

theorem SameOrder.index (rightStages : Stages schemas right) :
    leftStages.index = rightStages.index := by
  have leftCollected := leftStages.collected
  have rightCollected := rightStages.collected
  obtain ⟨models, events, security, apis, effects, invariants, -⟩ := leftCollected
  obtain ⟨models', events', security', apis', effects', invariants', -⟩ := rightCollected
  have policies : carriersOf .securityPolicy (lowerSecurityPolicy schemas) left.nodes =
      carriersOf .securityPolicy (lowerSecurityPolicy schemas) right.nodes := by
    rw [carriersOf_policies, carriersOf_policies, same.nodes _ (by decide)]
  have sameModels := same.carriers .dataModel (by decide) fun id name behavior => (⟨id, name, behavior⟩ : DataModel)
  have sameEvents := same.carriers .event (by decide) fun id name behavior => (⟨id, name, behavior⟩ : Event)
  have sameApis := same.carriers .api (by decide)
    fun id name behavior => (⟨id, name, behavior, none, []⟩ : ApiOperation)
  have sameEffects := same.carriers .effect (by decide) fun id name behavior => (⟨id, name, behavior⟩ : Effect)
  have sameInvariants := same.carriers .invariant (by decide)
    fun id name behavior => (⟨id, name, behavior⟩ : Invariant)
  cases leftIndex : leftStages.index
  cases rightIndex : rightStages.index
  simp only [leftIndex, rightIndex] at *
  subst models events security apis effects invariants models' events' security' apis' effects' invariants'
  simp only [NodeIndex.mk.injEq]
  exact ⟨sameModels, sameEvents, policies, congrArg _ sameApis, congrArg _ sameEffects,
    congrArg _ sameInvariants⟩

/-- Only the groups of an edge pass reach the plan, and they agree. -/
structure SameGroups (left right : EdgeIndex) : Prop where
  dataModels : group left.dataModels = group right.dataModels
  publishedEvents : group left.publishedEvents = group right.publishedEvents
  consumedEvents : group left.consumedEvents = group right.consumedEvents
  effects : group left.effects = group right.effects
  serviceSecurity : group left.serviceSecurity = group right.serviceSecurity
  apiSecurity : group left.apiSecurity = group right.apiSecurity
  apiServices : group left.apiServices = group right.apiServices

theorem SameOrder.groups (rightStages : Stages schemas right) :
    SameGroups leftStages.routed rightStages.routed := by
  have index := same.index leftStages rightStages
  have target {Carrier : Type} (type : EdgeType) (known : Dict String Carrier) (id : String) :=
    same.placed type (placeTarget type known) id (fun pair => (get known pair.2).map (Prod.mk pair.1))
      (fun edge => rfl)
  have policy (onApi : Bool) (id : String) :=
    same.placed .securedBy (placePolicy right.nodes rightStages.index onApi) id
      (fun pair => if isApi right.nodes pair.1 = onApi then
        (get rightStages.index.security pair.2).map (Prod.mk pair.1) else none)
      (fun edge => by by_cases kind : edge.type = .securedBy <;> simp [placePolicy, placeTarget, kind])
  have groups (id : String) := routed_group leftStages id
  have groups' (id : String) := routed_group rightStages id
  have places : placePolicy left.nodes = placePolicy right.nodes := by
    funext index onApi edge
    rw [placePolicy, same.apiNodes, placePolicy]
  rw [index, places] at groups
  refine ⟨?_, ?_, ?_, ?_, ?_, ?_, ?_⟩ <;> funext id <;>
    obtain ⟨models, published, consumed, effects, onService, onApi, exposed⟩ := groups id <;>
    obtain ⟨models', published', consumed', effects', onService', onApi', exposed'⟩ := groups' id
  · rw [models, models', target]
  · rw [published, published', target]
  · rw [consumed, consumed']
    exact same.placed .consumedBy (placeConsumer rightStages.index) id
      (fun pair => (get rightStages.index.events pair.1).map (Prod.mk pair.2)) (fun edge => rfl)
  · rw [effects, effects', target]
  · rw [onService, onService', policy]
  · rw [onApi, onApi', policy]
  · rw [exposed, exposed']
    exact same.placed .exposes (placeExposes rightStages.index) id
      (fun pair => if (rightStages.index.apis.map ApiOperation.id).contains pair.2 then some (pair.2, pair.1) else none)
      (fun edge => by by_cases kind : edge.type = .exposes <;> simp [placeExposes, kind])

/-- The operation behind an interaction, which invokes at most one. -/
def invoked (graph : Graph) (apiById : Dict String ApiOperation) (id : String) : Option ApiOperation :=
  match targetsFrom graph .invokes id with
  | [target] => get apiById target
  | _ => none

theorem SameOrder.plan (rightStages : Stages schemas right)
    (planId isrId : String) : leftStages.plan planId isrId = rightStages.plan planId isrId := by
  have index := same.index leftStages rightStages
  have groups := same.groups leftStages rightStages
  have bound : bindApis leftStages.index leftStages.routed = bindApis rightStages.index rightStages.routed := by
    simp only [bindApis, index]
    congr 1
    funext api
    simp only [bindApi, groups.apiSecurity, groups.apiServices]
  have byId : apisById leftStages.index leftStages.routed = apisById rightStages.index rightStages.routed := by
    rw [apisById, bound, apisById]
  have interactions : leftStages.interactions = rightStages.interactions := by
    rw [leftStages.interactions_eq.1, rightStages.interactions_eq.1]
    have built := same.carriers .frontendInteraction (by decide) fun id name behavior =>
      (⟨id, name, behavior, invoked right (apisById rightStages.index rightStages.routed) id⟩ : FrontendInteraction)
    refine congrArg _ (Eq.trans ?_ built)
    rw [byId]
    unfold buildInteraction
    rw [same.targets]
    rfl
  have routes : leftStages.routes = rightStages.routes := by
    rw [leftStages.routes_eq.1, rightStages.routes_eq.1]
    have built := same.carriers .frontendRoute (by decide) fun id name behavior =>
      (⟨id, name, behavior,
        (targetsFrom right .routesTo id).filterMap (get (apisById rightStages.index rightStages.routed)),
        (targetsFrom right .contains id).filterMap (get rightStages.interactions)⟩ : FrontendRoute)
    refine congrArg _ (Eq.trans ?_ built)
    rw [byId, interactions]
    unfold buildRoute
    rw [same.targets, same.targets]
    rfl
  have services : leftStages.services = rightStages.services := by
    rw [leftStages.services_eq.1, rightStages.services_eq.1]
    refine congrArg _ (Eq.trans (same.carriers .service (by decide) _) ?_)
    simp only [groups.dataModels, groups.publishedEvents, groups.consumedEvents, groups.effects,
      groups.serviceSecurity]
    rfl
  rw [Stages.plan, Stages.plan, bound, services, index, routes, interactions]

end

def billingEntry : String × Node := ("service:billing", ⟨"service:billing", .service, [("label", .str "Billing")]⟩)

def stockEntry : String × Node := ("service:stock", ⟨"service:stock", .service, [("label", .str "Stock")]⟩)

def invoiceEntry : String × Node := ("dm:invoice", ⟨"dm:invoice", .dataModel, [("label", .str "Invoice")]⟩)

def pairGraph (first second : String × Node) (distinct : (keys [first, second]).Nodup) : Graph where
  nodes := [first, second]
  distinctNodes := distinct

theorem pairGraph_sameContent {first second : String × Node} (distinct : (keys [first, second]).Nodup)
    (swapped : (keys [second, first]).Nodup)
    (firstAtoms : SameMap (Json.obj first.2.properties) (Json.obj first.2.properties))
    (secondAtoms : SameMap (Json.obj second.2.properties) (Json.obj second.2.properties)) :
    SameContent (pairGraph first second distinct) (pairGraph second first swapped) where
  nodeCount := rfl
  nodes := by
    simp only [pairGraph, List.forall_mem_cons, List.not_mem_nil, false_implies, implies_true, and_true]
    exact ⟨⟨first.2, by simp, rfl, rfl, firstAtoms⟩, ⟨second.2, by simp, rfl, rfl, secondAtoms⟩⟩
  edgeCount := rfl
  edges := by simp [pairGraph]

theorem labelled_sameMap (label : String) :
    SameMap (Json.obj [("label", .str label)]) (Json.obj [("label", .str label)]) :=
  (sameMap_dict_iff _ _).mpr ⟨rfl, by simpa using sameMap_atom _⟩

/-- SHA-256 of the document with an invoice model. -/
def invoiceRevision (graph : Graph) : Revision :=
  ⟨"billing", "r1", "1.0", graph, "0e786b6b6c73281460a24024c4f6ea9186caf0f6498b414bf0f4bcb48b51a76c"⟩

def invoicePlan : Plan where
  planId := "plan:0e786b6b6c732814"
  isrId := "billing"
  services := [{ id := "service:billing", name := "Billing" }]
  dataModels := [⟨"dm:invoice", "Invoice", none⟩]

def serviceFirst : Graph := pairGraph billingEntry invoiceEntry (by decide)

def modelFirst : Graph := pairGraph invoiceEntry billingEntry (by decide)

theorem serviceFirst_order : SameOrder noPayloads serviceFirst modelFirst :=
  ⟨fun type _ => by cases type <;> rfl, fun _ => rfl⟩

def billingFirst : Graph := pairGraph billingEntry stockEntry (by decide)

def stockFirst : Graph := pairGraph stockEntry billingEntry (by decide)

/-- SHA-256 of the document with the two services. -/
def storeRevision (graph : Graph) : Revision :=
  ⟨"store", "r1", "1.0", graph, "bfdd3f215f2c8c4d1a421a1cf16914a95ab43a1a3d2f7abaa6380ff5dc243f0b"⟩

def storePlan (services : List Service) : Plan where
  planId := "plan:bfdd3f215f2c8c4d"
  isrId := "store"
  services := services

def billingService : Service := { id := "service:billing", name := "Billing" }

def stockService : Service := { id := "service:stock", name := "Stock" }

end AutonomousApi.CompilationOrder
