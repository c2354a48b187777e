import AutonomousApi.Lowering

/-! What a plan lets a reader recover of the graph it was lowered from. Nodes are
compared by identifier, label and parsed behavior, edges by their endpoints; the
edge-type table that `ISRRevision.create` enforces is what makes the type filters
of the lowering harmless. Two relations have no carrier for some of their edges. -/

namespace AutonomousApi.LoweringFidelity

open JsonValue OrderedMap IsrGraph CompilationPlan FailFast PythonText Lowering

def nodesOf (graph : Graph) (type : NodeType) : List (String × Node) :=
  graph.nodes.filter fun entry => entry.2.type = type

/-- A node as the claims of a plan compare it: identifier, label and parsed behavior.
The behavior is absent, or the payload the schema accepts. -/
abbrev Description (type : NodeType) := String × Json × Option (Option (Behavior type))

def described (schemas : Schemas) (type : NodeType) (entry : String × Node) : Description type :=
  (entry.1, labelOf entry, (behaviorOf schemas type entry).toOption)

def Description.contract {type : NodeType} (description : Description type) :
    String × Option (Option (Behavior type)) := (description.1, description.2.2)

def contracts (schemas : Schemas) (graph : Graph) (type : NodeType) :
    List (String × Option (Option (Behavior type))) :=
  (nodesOf graph type).map fun entry => (described schemas type entry).contract

def labels (graph : Graph) (type : NodeType) : List (String × Json) :=
  (nodesOf graph type).map fun entry => (entry.1, labelOf entry)

def edgePairs (graph : Graph) (type : EdgeType) : List (String × String) :=
  (graph.edgeList.filter fun edge => edge.type = type).map fun edge => (edge.sourceId, edge.targetId)

def carriedTypes : List NodeType :=
  [.service, .dataModel, .event, .securityPolicy, .api, .effect, .invariant, .frontendRoute,
    .frontendInteraction]

/-- The named carriers of a plan; security policies come without a label. -/
def planNodes (plan : Plan) : (type : NodeType) → List (Description type)
  | .service => plan.services.map fun item => (item.id, .str item.name, some item.behavior)
  | .dataModel => plan.dataModels.map fun item => (item.id, .str item.entityName, some item.behavior)
  | .event => plan.events.map fun item => (item.id, .str item.name, some item.behavior)
  | .api => plan.apis.map fun item => (item.id, .str item.name, some item.behavior)
  | .effect => plan.effects.map fun item => (item.id, .str item.name, some item.behavior)
  | .invariant => plan.invariants.map fun item => (item.id, .str item.name, some item.behavior)
  | .frontendRoute => plan.frontendRoutes.map fun item => (item.id, .str item.name, some item.behavior)
  | .frontendInteraction =>
      plan.frontendInteractions.map fun item => (item.id, .str item.name, some item.behavior)
  | _ => []

def planContracts (plan : Plan) : (type : NodeType) → List (String × Option (Option (Behavior type)))
  | .securityPolicy => plan.security.map fun item => (item.policyId, some item.behavior)
  | type => (planNodes plan type).map Description.contract

def planLabels (plan : Plan) (type : NodeType) : List (String × Json) :=
  (planNodes plan type).map fun description => (description.1, description.2.1)

def planIds (plan : Plan) (type : NodeType) : List String := (planContracts plan type).map Prod.fst

def planPairs (plan : Plan) : EdgeType → List (String × String)
  | .persists => plan.services.flatMap fun service => service.dataModels.map fun item => (service.id, item.id)
  | .publishes =>
      plan.services.flatMap fun service => service.publishedEvents.map fun item => (service.id, item.id)
  | .consumedBy =>
      plan.services.flatMap fun service => service.consumedEvents.map fun item => (item.id, service.id)
  | .securedBy =>
      (plan.services.flatMap fun service => service.securityPolicies.map fun item => (service.id, item.policyId)) ++
        plan.apis.flatMap fun api => api.securityPolicies.map fun item => (api.id, item.policyId)
  | .exposes => plan.apis.filterMap fun api => api.serviceId.map fun service => (service, api.id)
  | .causesEffect => plan.services.flatMap fun service => service.effects.map fun item => (service.id, item.id)
  | _ => []

section

variable {Carrier : Type} {type : NodeType}

variable {lower : String × Node → Except LoweringError Carrier} {schemas : Schemas} {entry : String × Node}

theorem carriersOf_view {View : Type} {nodes : Dict String Node} (all : AllLower type lower nodes)
    (read : String × Carrier → View) (view : String × Node → View)
    (faithful : ∀ entry carrier, lower entry = .ok carrier → read (entry.1, carrier) = view entry) :
    (carriersOf type lower nodes).map read =
      (nodes.filter fun entry => entry.2.type = type).map view := by
  induction nodes with
  | nil => rfl
  | cons entry rest ih =>
      have tail := ih fun other member => all other (List.mem_cons_of_mem _ member)
      by_cases hit : entry.2.type = type
      · obtain ⟨carrier, lowered⟩ := all entry (by simp) hit
        simpa [carriersOf, hit, lowered, Except.toOption, faithful entry carrier lowered] using tail
      · simpa [carriersOf, hit] using tail

theorem lowerNamed_described {build : String → String → Option (Behavior type) → Carrier}
    {carrier : Carrier} (lowered : lowerNamed schemas type build entry = .ok carrier) :
    ∃ name behavior, carrier = build entry.1 name behavior ∧
      described schemas type entry = (entry.1, .str name, some behavior) := by
  obtain ⟨behavior, name, parsed, named, built⟩ := (lowerNamed_ok_iff type build entry carrier).mp lowered
  refine ⟨name, behavior, built, ?_⟩
  simp [described, labelOf_of_carrierName named, parsed, Except.toOption]

theorem lowerSecurityPolicy_ok {policy : SecurityPolicy} (lowered : lowerSecurityPolicy schemas entry = .ok policy) :
    (policy.policyId, some policy.behavior) = (described schemas .securityPolicy entry).contract := by
  obtain ⟨behavior, parsed, built⟩ := bind_ok lowered
  split at built
  · cases built
  · cases built
    rw [described, parsed]
    rfl

variable {schemas : Schemas} {graph : Graph}

theorem named_described (all : AllLower type lower graph.nodes)
    (build : String × Node → String → String → Option (Behavior type) → Carrier)
    (named : ∀ entry, lower entry = lowerNamed schemas type (build entry) entry)
    (read : Carrier → Description type)
    (reads : ∀ entry id name behavior, read (build entry id name behavior) = (id, .str name, some behavior)) :
    ((carriersOf type lower graph.nodes).map Prod.snd).map read =
      (nodesOf graph type).map (described schemas type) := by
  rw [List.map_map]
  refine carriersOf_view all _ _ fun entry carrier lowered => ?_
  rw [named entry] at lowered
  obtain ⟨name, behavior, rfl, same⟩ := lowerNamed_described lowered
  rw [Function.comp_apply, reads, same]

variable (stages : Stages schemas graph) (planId isrId : String)

variable (type : NodeType)

/-- Every named node is recovered with its identifier, label and parsed behavior. -/
theorem planNodes_eq (carried : type ∈ carriedTypes) (named : type ≠ .securityPolicy) :
    planNodes (stages.plan planId isrId) type = (nodesOf graph type).map (described schemas type) := by
  have collected := stages.collected
  simp only [carriedTypes, List.mem_cons, List.not_mem_nil, or_false] at carried
  rcases carried with rfl | rfl | rfl | rfl | rfl | rfl | rfl | rfl | rfl
  · rw [planNodes, Stages.plan, stages.services_eq.1]
    exact named_described stages.services_eq.2 _ (fun _ => rfl) _ (fun _ _ _ _ => rfl)
  · rw [planNodes, Stages.plan, collected.dataModels]
    exact named_described collected.allDataModels _ (fun _ => rfl) _ (fun _ _ _ _ => rfl)
  · rw [planNodes, Stages.plan, collected.events]
    exact named_described collected.allEvents _ (fun _ => rfl) _ (fun _ _ _ _ => rfl)
  · exact absurd rfl named
  · rw [planNodes, Stages.plan, bindApis, collected.apis, List.map_map]
    exact named_described collected.allApis _ (fun _ => rfl) _ (fun _ _ _ _ => rfl)
  · rw [planNodes, Stages.plan, collected.effects]
    exact named_described collected.allEffects _ (fun _ => rfl) _ (fun _ _ _ _ => rfl)
  · rw [planNodes, Stages.plan, collected.invariants]
    exact named_described collected.allInvariants _ (fun _ => rfl) _ (fun _ _ _ _ => rfl)
  · rw [planNodes, Stages.plan, stages.routes_eq.1]
    exact named_described stages.routes_eq.2 (fun _ id name behavior => ⟨id, name, behavior, _, _⟩)
      (fun _ => rfl) _ (fun _ _ _ _ => rfl)
  · rw [planNodes, Stages.plan, stages.interactions_eq.1, List.map_id]
    exact named_described stages.interactions_eq.2 (fun _ id name behavior => ⟨id, name, behavior, _⟩)
      (fun _ => rfl) _ (fun _ _ _ _ => rfl)

theorem planLabels_eq (carried : type ∈ carriedTypes) (named : type ≠ .securityPolicy) :
    planLabels (stages.plan planId isrId) type = labels graph type := by
  rw [planLabels, planNodes_eq stages planId isrId type carried named, List.map_map]
  rfl

theorem planContracts_eq (carried : type ∈ carriedTypes) :
    planContracts (stages.plan planId isrId) type = contracts schemas graph type := by
  by_cases policy : type = .securityPolicy
  · subst policy
    rw [planContracts, Stages.plan, stages.collected.security, List.map_map]
    exact carriersOf_view stages.collected.allSecurity _ _ fun _ _ lowered =>
      lowerSecurityPolicy_ok lowered
  · have others : planContracts (stages.plan planId isrId) type =
        (planNodes (stages.plan planId isrId) type).map Description.contract := by
      cases type <;> first | rfl | exact absurd rfl policy
    rw [others, planNodes_eq stages planId isrId type carried policy, List.map_map]
    rfl

theorem planIds_eq (carried : type ∈ carriedTypes) :
    planIds (stages.plan planId isrId) type = (nodesOf graph type).map Prod.fst := by
  rw [planIds, planContracts_eq stages planId isrId type carried, contracts, List.map_map]
  rfl

theorem planIds_count (carried : type ∈ carriedTypes) (id : String) (present : graph.hasType id type = true) :
    (planIds (stages.plan planId isrId) type).count id = 1 := by
  rw [planIds_eq stages planId isrId type carried]
  have distinct : ((nodesOf graph type).map Prod.fst).Nodup :=
    graph.distinctNodes.sublist (List.filter_sublist.map Prod.fst)
  refine List.count_eq_one_of_mem distinct ?_
  unfold Graph.hasType Graph.node at present
  split at present
  next node found =>
    exact List.mem_map.mpr ⟨(id, node), List.mem_filter.mpr ⟨mem_of_get found, by simpa using present⟩, rfl⟩
  next => cases present

end

section

variable {schemas : Schemas} {graph : Graph} (stages : Stages schemas graph)

theorem hasType_iff (id : String) (type : NodeType) :
    graph.hasType id type = true ↔ ∃ node, get graph.nodes id = some node ∧ node.type = type := by
  unfold Graph.hasType Graph.node
  cases get graph.nodes id <;> simp

/-- The endpoint types that `validate_invariants` leaves in an accepted graph. -/
def Typed (graph : Graph) : Prop :=
  ∀ edge ∈ graph.edgeList,
    (∃ type ∈ (edgeTypeCompatibility edge.type).1, graph.hasType edge.sourceId type = true) ∧
    (∃ type ∈ (edgeTypeCompatibility edge.type).2, graph.hasType edge.targetId type = true)

theorem typed_of_valid {table : CharTable} (valid : validateInvariants table graph = .ok ()) :
    Typed graph := by
  intro edge member
  obtain ⟨source, target, foundSource, foundTarget, sourceAllowed, targetAllowed⟩ :=
    checkEdge_endpoints (((validateInvariants_ok_iff table graph).mp valid).2.1 edge member)
  exact ⟨⟨_, sourceAllowed, (hasType_iff _ _).mpr ⟨source, foundSource, rfl⟩⟩,
    ⟨_, targetAllowed, (hasType_iff _ _).mpr ⟨target, foundTarget, rfl⟩⟩⟩

theorem mem_edgePairs (type : EdgeType) (source target : String) :
    (source, target) ∈ edgePairs graph type ↔
      ∃ edge ∈ graph.edgeList, edge.type = type ∧ edge.sourceId = source ∧ edge.targetId = target := by
  simp [edgePairs, and_assoc]

variable {Carrier : Type} {type : NodeType}

variable {lower : String × Node → Except LoweringError Carrier} {id : String}

/-- The carriers found under a key are those of the node with that key. -/
theorem carrier_found_iff (all : AllLower type lower graph.nodes) (idOf : Carrier → String)
    (identified : ∀ entry carrier, lower entry = .ok carrier → idOf carrier = entry.1) (key id : String) :
    (∃ carrier, get (carriersOf type lower graph.nodes) key = some carrier ∧ idOf carrier = id) ↔
      key = id ∧ graph.hasType id type = true := by
  simp only [get_carriersOf graph.distinctNodes, hasType_iff]
  constructor
  · rintro ⟨carrier, ⟨node, found, kind, lowered⟩, rfl⟩
    have same := identified _ carrier lowered
    exact ⟨same.symm, node, by rw [same]; exact found, kind⟩
  · rintro ⟨rfl, node, found, kind⟩
    obtain ⟨carrier, lowered⟩ := all (key, node) (mem_of_get found) kind
    exact ⟨carrier, ⟨node, found, kind, lowered⟩, identified _ carrier lowered⟩

theorem lowerNamed_id {build : String → String → Option (Behavior type) → Carrier} (idOf : Carrier → String)
    (reads : ∀ id name behavior, idOf (build id name behavior) = id) (entry : String × Node)
    (carrier : Carrier) (lowered : lowerNamed schemas type build entry = .ok carrier) :
    idOf carrier = entry.1 := by
  obtain ⟨name, behavior, rfl, -⟩ := lowerNamed_described lowered
  exact reads _ _ _

theorem dataModel_found_iff (key id : String) :
    (∃ model, get stages.index.dataModels key = some model ∧ model.id = id) ↔
      key = id ∧ graph.hasType id .dataModel = true := by
  rw [stages.collected.dataModels]
  exact carrier_found_iff stages.collected.allDataModels DataModel.id
    (lowerNamed_id DataModel.id fun _ _ _ => rfl) key id

theorem event_found_iff (key id : String) :
    (∃ event, get stages.index.events key = some event ∧ event.id = id) ↔
      key = id ∧ graph.hasType id .event = true := by
  rw [stages.collected.events]
  exact carrier_found_iff stages.collected.allEvents Event.id
    (lowerNamed_id Event.id fun _ _ _ => rfl) key id

theorem policy_found_iff (key id : String) :
    (∃ policy, get stages.index.security key = some policy ∧ policy.policyId = id) ↔
      key = id ∧ graph.hasType id .securityPolicy = true := by
  rw [stages.collected.security]
  exact carrier_found_iff stages.collected.allSecurity SecurityPolicy.policyId
    (fun _ _ lowered => congrArg Prod.fst (lowerSecurityPolicy_ok lowered)) key id

/-- A list of carriers indexed by their own identifiers is the list it was read from. -/
theorem reindexed (idOf : Carrier → String)
    (identified : ∀ entry carrier, lower entry = .ok carrier → idOf carrier = entry.1) :
    assignAll [] (((carriersOf type lower graph.nodes).map Prod.snd).map fun item => (idOf item, item)) =
      carriersOf type lower graph.nodes := by
  have same : ((carriersOf type lower graph.nodes).map Prod.snd).map (fun item => (idOf item, item)) =
      carriersOf type lower graph.nodes := by
    rw [List.map_map]
    refine (List.map_congr_left fun ⟨key, carrier⟩ member => ?_).trans (List.map_id _)
    obtain ⟨node, -, -, lowered⟩ := (mem_carriersOf key carrier).mp member
    simp [identified _ carrier lowered]
  rw [same, assignAll_distinct _ (carriersOf_distinct type lower graph.distinctNodes)]

theorem effect_found_iff (key id : String) :
    (∃ effect, get stages.index.effectsById key = some effect ∧ effect.id = id) ↔
      key = id ∧ graph.hasType id .effect = true := by
  have identified : ∀ entry effect, lowerEffect schemas entry = .ok effect → effect.id = entry.1 :=
    lowerNamed_id Effect.id fun _ _ _ => rfl
  rw [NodeIndex.effectsById, stages.collected.effects, reindexed Effect.id identified]
  exact carrier_found_iff stages.collected.allEffects Effect.id identified key id

theorem placeTarget_iff (type : EdgeType) (known : Dict String Carrier) (edge : Edge)
    (owner : String) (carrier : Carrier) :
    placeTarget type known edge = some (owner, carrier) ↔
      edge.type = type ∧ edge.sourceId = owner ∧ get known edge.targetId = some carrier := by
  by_cases kind : edge.type = type
  · simp only [placeTarget, kind, ↓reduceIte, Option.map_eq_some_iff, Prod.mk.injEq, true_and]
    constructor
    · rintro ⟨found, hit, same, rfl⟩
      exact ⟨same, hit⟩
    · rintro ⟨same, hit⟩
      exact ⟨carrier, hit, same, rfl⟩
  · simp [placeTarget, kind]

theorem placedAt_iff (place : Edge → Option (String × Carrier)) (owner : String) (edge : Edge) (carrier : Carrier) :
    placedAt place owner edge = some carrier ↔ place edge = some (owner, carrier) := by
  unfold placedAt
  cases placed : place edge with
  | none => simp
  | some entry =>
      obtain ⟨key, value⟩ := entry
      by_cases hit : key = owner <;> simp [hit]

/-- The services of a plan are the service nodes, each with its groups of carriers. -/
theorem service_groups {service : Service} (member : service ∈ stages.services) :
    graph.hasType service.id .service = true ∧
      service.dataModels = group stages.routed.dataModels service.id ∧
      service.publishedEvents = group stages.routed.publishedEvents service.id ∧
      service.consumedEvents = group stages.routed.consumedEvents service.id ∧
      service.effects = group stages.routed.effects service.id ∧
      service.securityPolicies = group stages.routed.serviceSecurity service.id := by
  rw [stages.services_eq.1, List.mem_map] at member
  obtain ⟨⟨key, carrier⟩, listed, rfl⟩ := member
  obtain ⟨node, present, kind, lowered⟩ := (mem_carriersOf key carrier).mp listed
  obtain ⟨name, behavior, rfl, -⟩ := lowerNamed_described (show lowerNamed _ _ _ _ = _ from lowered)
  exact ⟨(hasType_iff _ _).mpr ⟨node, get_of_mem graph.distinctNodes present, kind⟩,
    rfl, rfl, rfl, rfl, rfl⟩

theorem service_listed_iff (id : String) :
    (∃ service ∈ stages.services, service.id = id) ↔ graph.hasType id .service = true := by
  constructor
  · rintro ⟨service, member, rfl⟩
    exact (service_groups stages member).1
  · intro present
    obtain ⟨node, found, kind⟩ := (hasType_iff id .service).mp present
    obtain ⟨service, lowered⟩ := stages.services_eq.2 (id, node) (mem_of_get found) kind
    refine ⟨service, ?_, lowerNamed_id Service.id (fun _ _ _ => rfl) _ service lowered⟩
    rw [stages.services_eq.1, List.mem_map]
    exact ⟨(id, service), (mem_carriersOf id service).mpr ⟨node, mem_of_get found, kind, lowered⟩, rfl⟩

theorem api_listed_iff (id : String) :
    (∃ api ∈ stages.index.apis, api.id = id) ↔ graph.hasType id .api = true := by
  have identified : ∀ entry api, lowerApi schemas entry = .ok api → api.id = entry.1 :=
    lowerNamed_id ApiOperation.id fun _ _ _ => rfl
  rw [stages.collected.apis, hasType_iff]
  constructor
  · rintro ⟨api, member, rfl⟩
    obtain ⟨⟨key, carrier⟩, listed, rfl⟩ := List.mem_map.mp member
    obtain ⟨node, present, kind, lowered⟩ := (mem_carriersOf key carrier).mp listed
    rw [identified _ carrier lowered]
    exact ⟨node, get_of_mem graph.distinctNodes present, kind⟩
  · rintro ⟨node, found, kind⟩
    obtain ⟨api, lowered⟩ := stages.collected.allApis (id, node) (mem_of_get found) kind
    refine ⟨api, List.mem_map.mpr ⟨(id, api), ?_, rfl⟩, identified _ api lowered⟩
    exact (mem_carriersOf id api).mpr ⟨node, mem_of_get found, kind, lowered⟩

section

variable {Owner Carrier : Type} {owners : List Owner} {ownerId : Owner → String} {ownerType : NodeType}
  (listed : ∀ id, (∃ owner ∈ owners, ownerId owner = id) ↔ graph.hasType id ownerType = true)
include listed

/-- An owner carries an item when some edge files the item under that owner. -/
theorem owner_carries_iff (field : Owner → List Carrier) (place : Edge → Option (String × Carrier))
    (grouped : ∀ owner ∈ owners, field owner = graph.edgeList.filterMap (placedAt place (ownerId owner)))
    (id : String) (holds : Carrier → Prop) :
    (∃ owner ∈ owners, ∃ item ∈ field owner, holds item ∧ ownerId owner = id) ↔
      graph.hasType id ownerType = true ∧
        ∃ edge ∈ graph.edgeList, ∃ item, place edge = some (id, item) ∧ holds item := by
  constructor
  · rintro ⟨owner, member, item, inside, held, rfl⟩
    rw [grouped owner member, List.mem_filterMap] at inside
    obtain ⟨edge, filed, placed⟩ := inside
    exact ⟨(listed _).mp ⟨owner, member, rfl⟩, edge, filed, item, (placedAt_iff _ _ _ _).mp placed, held⟩
  · rintro ⟨present, edge, filed, item, placed, held⟩
    obtain ⟨owner, member, rfl⟩ := (listed id).mpr present
    refine ⟨owner, member, item, ?_, held, rfl⟩
    rw [grouped owner member]
    exact List.mem_filterMap.mpr ⟨edge, filed, (placedAt_iff _ _ _ _).mpr placed⟩

theorem owner_targets_iff {known : Dict String Carrier} {idOf : Carrier → String} {targetType : NodeType}
    (found : ∀ key id, (∃ item, get known key = some item ∧ idOf item = id) ↔
      key = id ∧ graph.hasType id targetType = true)
    (field : Owner → List Carrier) (type : EdgeType)
    (grouped : ∀ owner ∈ owners,
      field owner = graph.edgeList.filterMap (placedAt (placeTarget type known) (ownerId owner)))
    (typed : Typed graph) (targets : (edgeTypeCompatibility type).2 = [targetType])
    (source target : String) :
    (source, target) ∈ owners.flatMap (fun owner => (field owner).map fun item => (ownerId owner, idOf item)) ↔
      graph.hasType source ownerType = true ∧ (source, target) ∈ edgePairs graph type := by
  have carried := owner_carries_iff listed field _ grouped source fun item => idOf item = target
  simp only [List.mem_flatMap, List.mem_map, Prod.mk.injEq, and_comm (a := _ = source)]
  rw [carried, mem_edgePairs]
  refine and_congr_right fun _ => ?_
  constructor
  · rintro ⟨edge, filed, item, placed, same⟩
    obtain ⟨kind, owner, hit⟩ := (placeTarget_iff _ _ _ _ _).mp placed
    exact ⟨edge, filed, kind, owner, ((found _ _).mp ⟨item, hit, same⟩).1⟩
  · rintro ⟨edge, filed, kind, rfl, rfl⟩
    obtain ⟨-, otherType, allowed, present⟩ := typed edge filed
    rw [kind, targets, List.mem_singleton] at allowed
    obtain ⟨item, hit, same⟩ := (found _ _).mpr ⟨rfl, allowed ▸ present⟩
    exact ⟨edge, filed, item, (placeTarget_iff _ _ _ _ _).mpr ⟨kind, rfl, hit⟩, same⟩

end

theorem source_type {type : EdgeType} {sourceType : NodeType} (typed : Typed graph)
    (sources : (edgeTypeCompatibility type).1 = [sourceType]) {source target : String}
    (pair : (source, target) ∈ edgePairs graph type) : graph.hasType source sourceType = true := by
  obtain ⟨edge, filed, rfl, rfl, -⟩ := (mem_edgePairs type source target).mp pair
  obtain ⟨⟨otherType, allowed, present⟩, -⟩ := typed edge filed
  rw [sources, List.mem_singleton] at allowed
  exact allowed ▸ present

theorem routed_group (id : String) :
    group stages.routed.dataModels id =
        graph.edgeList.filterMap (placedAt (placeTarget .persists stages.index.dataModels) id) ∧
      group stages.routed.publishedEvents id =
        graph.edgeList.filterMap (placedAt (placeTarget .publishes stages.index.events) id) ∧
      group stages.routed.consumedEvents id =
        graph.edgeList.filterMap (placedAt (placeConsumer stages.index) id) ∧
      group stages.routed.effects id =
        graph.edgeList.filterMap (placedAt (placeTarget .causesEffect stages.index.effectsById) id) ∧
      group stages.routed.serviceSecurity id =
        graph.edgeList.filterMap (placedAt (placePolicy graph.nodes stages.index false) id) ∧
      group stages.routed.apiSecurity id =
        graph.edgeList.filterMap (placedAt (placePolicy graph.nodes stages.index true) id) ∧
      group stages.routed.apiServices id =
        graph.edgeList.filterMap (placedAt (placeExposes stages.index) id) := by
  rw [stages.route, routeEdges_eq]
  refine ⟨?_, ?_, ?_, ?_, ?_, ?_, ?_⟩ <;> rw [group_filed] <;> rfl

variable (typed : Typed graph) (planId isrId source target : String)
include typed

theorem persists_iff :
    (source, target) ∈ planPairs (stages.plan planId isrId) .persists ↔
      (source, target) ∈ edgePairs graph .persists := by
  have carried := owner_targets_iff (service_listed_iff stages) (dataModel_found_iff stages)
    Service.dataModels .persists
    (fun service member => (service_groups stages member).2.1.trans (routed_group stages _).1)
    typed rfl source target
  exact carried.trans (and_iff_right_of_imp (source_type typed rfl))

theorem publishes_iff :
    (source, target) ∈ planPairs (stages.plan planId isrId) .publishes ↔
      (source, target) ∈ edgePairs graph .publishes := by
  have carried := owner_targets_iff (service_listed_iff stages) (event_found_iff stages)
    Service.publishedEvents .publishes
    (fun service member => (service_groups stages member).2.2.1.trans (routed_group stages _).2.1)
    typed rfl source target
  exact carried.trans (and_iff_right_of_imp (source_type typed rfl))

theorem causesEffect_iff :
    (source, target) ∈ planPairs (stages.plan planId isrId) .causesEffect ↔
      graph.hasType source .service = true ∧ (source, target) ∈ edgePairs graph .causesEffect :=
  owner_targets_iff (service_listed_iff stages) (effect_found_iff stages) Service.effects .causesEffect
    (fun _ member => (service_groups stages member).2.2.2.2.1.trans (routed_group stages _).2.2.2.1)
    typed rfl source target

/-- Consumption edges run from the event to its consumer, so the owner is the target. -/
theorem consumedBy_iff :
    (source, target) ∈ planPairs (stages.plan planId isrId) .consumedBy ↔
      (source, target) ∈ edgePairs graph .consumedBy := by
  have carried := owner_carries_iff (service_listed_iff stages) Service.consumedEvents
    (placeConsumer stages.index)
    (fun service member => (service_groups stages member).2.2.2.1.trans (routed_group stages _).2.2.1)
    target fun event => event.id = source
  have listed : (source, target) ∈ planPairs (stages.plan planId isrId) .consumedBy ↔
      ∃ service ∈ stages.services, ∃ event ∈ service.consumedEvents, event.id = source ∧ service.id = target := by
    simp [planPairs, Stages.plan]
  rw [listed, carried, mem_edgePairs]
  constructor
  · rintro ⟨-, edge, filed, event, placed, same⟩
    by_cases kind : edge.type = .consumedBy
    · simp only [placeConsumer, kind, ↓reduceIte, Option.map_eq_some_iff, Prod.mk.injEq] at placed
      obtain ⟨found, hit, owner, rfl⟩ := placed
      exact ⟨edge, filed, kind, ((event_found_iff stages _ _).mp ⟨found, hit, same⟩).1, owner⟩
    · simp [placeConsumer, kind] at placed
  · rintro ⟨edge, filed, kind, rfl, rfl⟩
    obtain ⟨⟨sourceType, sourceAllowed, produced⟩, ⟨targetType, targetAllowed, consumed⟩⟩ := typed edge filed
    simp only [kind, edgeTypeCompatibility, List.mem_singleton] at sourceAllowed targetAllowed
    subst sourceAllowed targetAllowed
    obtain ⟨event, hit, same⟩ := (event_found_iff stages _ _).mpr ⟨rfl, produced⟩
    exact ⟨consumed, edge, filed, event, by simp [placeConsumer, kind, hit], same⟩

omit typed in
theorem hasType_unique {first second : NodeType} (one : graph.hasType id first = true)
    (two : graph.hasType id second = true) : first = second := by
  obtain ⟨node, found, rfl⟩ := (hasType_iff id first).mp one
  obtain ⟨other, again, rfl⟩ := (hasType_iff id second).mp two
  rw [found] at again
  cases again
  rfl

omit typed in
theorem placedPolicy_eq (index : NodeIndex) (onApi : Bool) (owner : String)
    (side : graph.hasType owner .api = onApi) :
    placedAt (placePolicy graph.nodes index onApi) owner =
      placedAt (placeTarget .securedBy index.security) owner := by
  have same : isApi graph.nodes owner = graph.hasType owner .api := rfl
  funext edge
  by_cases hit : edge.sourceId = owner
  · simp [placedAt, placePolicy, hit, same, side]
  · by_cases secured : edge.type = .securedBy
    · by_cases otherSide : isApi graph.nodes edge.sourceId = onApi <;>
        cases found : get index.security edge.targetId <;>
          simp [placedAt, placePolicy, placeTarget, hit, secured, found, otherSide]
    · simp [placedAt, placePolicy, placeTarget, secured]

theorem securedBy_iff :
    (source, target) ∈ planPairs (stages.plan planId isrId) .securedBy ↔
      (source, target) ∈ edgePairs graph .securedBy := by
  have onServices := owner_targets_iff (service_listed_iff stages) (policy_found_iff stages)
    Service.securityPolicies .securedBy
    (by
      intro service member
      have plain : graph.hasType service.id .api = false := by
        by_contra api
        cases hasType_unique (service_groups stages member).1 (Bool.eq_true_of_not_eq_false api)
      rw [(service_groups stages member).2.2.2.2.2, (routed_group stages _).2.2.2.2.1,
        placedPolicy_eq stages.index false service.id plain])
    typed rfl source target
  have onApis := owner_targets_iff (api_listed_iff stages) (policy_found_iff stages)
    (fun api => (bindApi stages.routed api).securityPolicies) .securedBy
    (by
      intro api member
      have present := (api_listed_iff stages api.id).mp ⟨api, member, rfl⟩
      rw [← placedPolicy_eq stages.index true api.id present]
      exact (routed_group stages api.id).2.2.2.2.2.1)
    typed rfl source target
  have listed : (source, target) ∈ planPairs (stages.plan planId isrId) .securedBy ↔
      (source, target) ∈ stages.services.flatMap (fun service =>
        service.securityPolicies.map fun item => (service.id, item.policyId)) ∨
      (source, target) ∈ stages.index.apis.flatMap (fun api =>
        (bindApi stages.routed api).securityPolicies.map fun item => (api.id, item.policyId)) := by
    simp only [planPairs, Stages.plan, bindApis, List.mem_append, List.flatMap_map]
    rfl
  rw [listed, onServices, onApis, ← or_and_right]
  refine and_iff_right_of_imp fun pair => ?_
  obtain ⟨edge, filed, kind, rfl, -⟩ := (mem_edgePairs _ _ _).mp pair
  obtain ⟨⟨type, allowed, present⟩, -⟩ := typed edge filed
  simp only [kind, edgeTypeCompatibility, List.mem_cons, List.not_mem_nil, or_false] at allowed
  rcases allowed with rfl | rfl
  · exact .inl present
  · exact .inr present

omit typed in
/-- Every service that exposes one operation is the same service. -/
theorem exposed_once {routed : EdgeIndex} (unambiguous : ambiguousApiServices routed = [])
    {first second : String} (one : first ∈ group routed.apiServices id)
    (two : second ∈ group routed.apiServices id) : first = second := by
  unfold group at one two
  cases found : get routed.apiServices id with
  | none => simp [found] at one
  | some services =>
      simp only [found, Option.getD_some] at one two
      have single : (sortedSet services).length = 1 := by
        have dropped := List.filterMap_eq_nil_iff.mp unambiguous (id, services) (mem_of_get found)
        by_contra several
        simp [several] at dropped
      rw [sortedSet, List.length_insertionSort, List.length_eq_one_iff] at single
      obtain ⟨only, exact⟩ := single
      have all : ∀ service ∈ services, service = only := by
        intro service member
        rw [← List.mem_dedup, exact] at member
        exact List.mem_singleton.mp member
      rw [all first one, all second two]

theorem exposes_iff :
    (source, target) ∈ planPairs (stages.plan planId isrId) .exposes ↔
      (source, target) ∈ edgePairs graph .exposes := by
  have exposed (id service : String) (present : graph.hasType id .api = true) :
      service ∈ group stages.routed.apiServices id ↔ (service, id) ∈ edgePairs graph .exposes := by
    have known : (stages.index.apis.map ApiOperation.id).contains id = true := by
      simpa using (api_listed_iff stages id).mpr present
    rw [(routed_group stages id).2.2.2.2.2.2, mem_edgePairs, List.mem_filterMap]
    simp only [placedAt_iff, placeExposes]
    constructor
    · rintro ⟨edge, filed, placed⟩
      split at placed
      next kind =>
        simp only [Option.some.injEq, Prod.mk.injEq] at placed
        exact ⟨edge, filed, kind.1, placed.2, placed.1⟩
      next => cases placed
    · rintro ⟨edge, filed, kind, rfl, rfl⟩
      exact ⟨edge, filed, by rw [if_pos ⟨kind, known⟩]⟩
  have listed : (source, target) ∈ planPairs (stages.plan planId isrId) .exposes ↔
      ∃ api ∈ stages.index.apis, (group stages.routed.apiServices api.id).head? = some source ∧
        api.id = target := by
    simp [planPairs, Stages.plan, bindApis, bindApi]
  rw [listed]
  constructor
  · rintro ⟨api, member, first, rfl⟩
    exact (exposed _ _ ((api_listed_iff stages _).mp ⟨api, member, rfl⟩)).mp (List.mem_of_mem_head? first)
  · intro pair
    have present : graph.hasType target .api = true := by
      obtain ⟨edge, filed, kind, -, rfl⟩ := (mem_edgePairs _ _ _).mp pair
      obtain ⟨-, type, allowed, present⟩ := typed edge filed
      simp only [kind, edgeTypeCompatibility, List.mem_singleton] at allowed
      exact allowed ▸ present
    obtain ⟨api, member, rfl⟩ := (api_listed_iff stages target).mpr present
    have inside := (exposed _ _ present).mpr pair
    refine ⟨api, member, ?_, rfl⟩
    cases services : group stages.routed.apiServices api.id with
    | nil => simp [services] at inside
    | cons first rest =>
        have same := exposed_once stages.unambiguous (services ▸ List.mem_cons_self) inside
        simp [same]

end

section

variable {table : CharTable} {schemas : Schemas} {digest : Json → String}

/-- A revision that `create` accepts, with the plan it is lowered to. -/
structure Accepted (table : CharTable) (schemas : Schemas) (digest : Json → String)
    (revision : Revision) (plan : Plan) : Prop where
  created : create table schemas digest revision.systemId revision.revisionId
    revision.schemaVersion revision.graph = .ok revision
  lowered : isrToPlan schemas revision = .ok plan

def samePlan (left right : Plan) : Prop := { left with planId := "" } = { right with planId := "" }

theorem Accepted.typed {revision : Revision} {plan : Plan}
    (accepted : Accepted table schemas digest revision plan) : Typed revision.graph :=
  typed_of_valid ((create_ok_iff _ _ _ _ _ _ _ _).mp accepted.created).1

/-- Plans that agree up to their identifier read alike. -/
theorem samePlan.readers {left right : Plan} (agree : samePlan left right) :
    planContracts left = planContracts right ∧ planLabels left = planLabels right ∧
      planPairs left = planPairs right := by
  obtain ⟨leftId, _⟩ := left
  obtain ⟨rightId, _⟩ := right
  simp only [samePlan, Plan.mk.injEq, true_and] at agree
  obtain ⟨rfl, rfl, rfl, rfl, rfl, rfl, rfl, rfl, rfl, rfl⟩ := agree
  exact ⟨rfl, rfl, rfl⟩

def carriedRelations : List EdgeType := [.persists, .publishes, .consumedBy, .securedBy, .exposes]

theorem carriedRelations_iff {graph : Graph} (stages : Stages schemas graph) (typed : Typed graph)
    (planId isrId : String) (type : EdgeType) (carried : type ∈ carriedRelations)
    (pair : String × String) :
    pair ∈ planPairs (stages.plan planId isrId) type ↔ pair ∈ edgePairs graph type := by
  obtain ⟨source, target⟩ := pair
  simp only [carriedRelations, List.mem_cons, List.not_mem_nil, or_false] at carried
  rcases carried with rfl | rfl | rfl | rfl | rfl
  · exact persists_iff stages typed planId isrId source target
  · exact publishes_iff stages typed planId isrId source target
  · exact consumedBy_iff stages typed planId isrId source target
  · exact securedBy_iff stages typed planId isrId source target
  · exact exposes_iff stages typed planId isrId source target

/-- Agreement on the nodes and relations a plan is meant to carry, with labels
compared for the node types `labelled`. -/
structure SameStructure (schemas : Schemas) (labelled : List NodeType) (left right : Graph) : Prop where
  nodes : ∀ type ∈ carriedTypes, ∀ item,
    item ∈ contracts schemas left type ↔ item ∈ contracts schemas right type
  names : ∀ type ∈ labelled, ∀ item, item ∈ labels left type ↔ item ∈ labels right type
  relations : ∀ type ∈ carriedRelations, ∀ pair,
    pair ∈ edgePairs left type ↔ pair ∈ edgePairs right type

def ListedOnce (graph : Graph) (plan : Plan) : Prop :=
  ∀ type ∈ carriedTypes, ∀ id, graph.hasType id type = true → (planIds plan type).count id = 1

def namedTypes : List NodeType := carriedTypes.filter fun type => type ≠ .securityPolicy

theorem isrToPlan_lossFree (table : CharTable) (schemas : Schemas) (digest : Json → String)
    (left right : Revision) (leftPlan rightPlan : Plan)
    (acceptedLeft : Accepted table schemas digest left leftPlan)
    (acceptedRight : Accepted table schemas digest right rightPlan)
    (agree : samePlan leftPlan rightPlan) :
    SameStructure schemas namedTypes left.graph right.graph ∧
      ListedOnce left.graph leftPlan ∧ ListedOnce right.graph rightPlan := by
  obtain ⟨leftStages, rfl⟩ := (isrToPlan_ok_iff _ _).mp acceptedLeft.lowered
  obtain ⟨rightStages, rfl⟩ := (isrToPlan_ok_iff _ _).mp acceptedRight.lowered
  obtain ⟨sameContracts, sameLabels, samePairs⟩ := agree.readers
  refine ⟨⟨?_, ?_, ?_⟩, fun type carried => planIds_count leftStages _ _ type carried,
    fun type carried => planIds_count rightStages _ _ type carried⟩
  · intro type carried item
    rw [← planContracts_eq leftStages (planIdOf left) left.systemId type carried,
      ← planContracts_eq rightStages (planIdOf right) right.systemId type carried, sameContracts]
  · intro type named item
    obtain ⟨carried, other⟩ := List.mem_filter.mp named
    have labelled : type ≠ .securityPolicy := by simpa using other
    rw [← planLabels_eq leftStages (planIdOf left) left.systemId type carried labelled,
      ← planLabels_eq rightStages (planIdOf right) right.systemId type carried labelled, sameLabels]
  · intro type carried pair
    rw [← carriedRelations_iff leftStages acceptedLeft.typed (planIdOf left) left.systemId type carried,
      ← carriedRelations_iff rightStages acceptedRight.typed (planIdOf right) right.systemId type carried,
      samePairs]

/-- A service that persists one model under one policy; only the label of the
policy varies. -/
def payrollGraph (policyLabel : String) : Graph where
  nodes :=
    [("service:payroll", ⟨"service:payroll", .service, [("label", .str "Payroll")]⟩),
     ("dm:run", ⟨"dm:run", .dataModel, [("label", .str "PayrollRun")]⟩),
     ("policy:read", ⟨"policy:read", .securityPolicy, [("label", .str policyLabel)]⟩)]
  edges :=
    [("e1", ⟨"e1", .persists, "service:payroll", "dm:run", []⟩),
     ("e2", ⟨"e2", .securedBy, "service:payroll", "policy:read", []⟩)]
  distinctNodes := by simp [keys]

/-- No payload occurs in the graph, so nothing is ever parsed. -/
def noPayloads : Schemas := ⟨fun _ _ => none, fun _ => ""⟩

/-- SHA-256 of the two documents. -/
def payrollDigest (document : Json) : String :=
  if document = DataTree.sortKeys (canonicalDocument "1.0" (payrollGraph "Readers")) then
    "c69c88b667b8c2e1fa254f88617bd6c6e651e53fddb20d54ffe73b0d9da5f686"
  else "9290293bfd4b2b842b662dfb70363c303d1c43194a8f04fd83939545dd00d72b"

def payrollRevision (policyLabel : String) : Revision :=
  ⟨"payroll", "r1", "1.0", payrollGraph policyLabel,
    computeContentHash payrollDigest "1.0" (payrollGraph policyLabel)⟩

def payrollPlan (planId : String) : Plan where
  planId := planId
  isrId := "payroll"
  services := [{ id := "service:payroll", name := "Payroll", dataModels := [⟨"dm:run", "PayrollRun", none⟩]
                 securityPolicies := [⟨"policy:read", none⟩] }]
  dataModels := [⟨"dm:run", "PayrollRun", none⟩]
  security := [⟨"policy:read", none⟩]

theorem payroll_accepted_readers :
    Accepted asciiTable noPayloads payrollDigest (payrollRevision "Readers")
      (payrollPlan "plan:c69c88b667b8c2e1") := by
  refine ⟨?_, ?_⟩ <;> rfl

theorem payroll_accepted_approvers :
    Accepted asciiTable noPayloads payrollDigest (payrollRevision "Approvers")
      (payrollPlan "plan:9290293bfd4b2b84") := by
  refine ⟨?_, ?_⟩ <;> rfl

theorem isrToPlan_lossFree_payroll :
    SameStructure noPayloads namedTypes (payrollGraph "Readers") (payrollGraph "Approvers") ∧
      ListedOnce (payrollGraph "Readers") (payrollPlan "plan:c69c88b667b8c2e1") ∧
      ListedOnce (payrollGraph "Approvers") (payrollPlan "plan:9290293bfd4b2b84") :=
  isrToPlan_lossFree asciiTable noPayloads payrollDigest (payrollRevision "Readers")
    (payrollRevision "Approvers") _ _ payroll_accepted_readers payroll_accepted_approvers rfl

/-- The two revisions differ in a label that neither plan holds. -/
theorem policy_label_lost :
    (Accepted asciiTable noPayloads payrollDigest (payrollRevision "Readers")
        (payrollPlan "plan:c69c88b667b8c2e1") ∧
      Accepted asciiTable noPayloads payrollDigest (payrollRevision "Approvers")
        (payrollPlan "plan:9290293bfd4b2b84") ∧
      samePlan (payrollPlan "plan:c69c88b667b8c2e1") (payrollPlan "plan:9290293bfd4b2b84")) ∧
    ¬ SameStructure noPayloads carriedTypes (payrollGraph "Readers") (payrollGraph "Approvers") := by
  refine ⟨⟨payroll_accepted_readers, payroll_accepted_approvers, rfl⟩, fun same => ?_⟩
  have named := (same.names .securityPolicy (by decide) ("policy:read", .str "Readers")).mp (by decide)
  revert named
  decide

end

variable {table : CharTable} {schemas : Schemas} {digest : Json → String}

/-- The relations no carrier of the plan records. -/
def isSilent (graph : Graph) (edge : Edge) : Bool :=
  edge.type == .requiresInvariant || (edge.type == .causesEffect && !graph.hasType edge.sourceId .service)

def spoken (graph : Graph) : Graph where
  nodes := graph.nodes
  edges := graph.edges.filter fun entry => !isSilent graph entry.2
  distinctNodes := graph.distinctNodes
  distinctEdges := graph.distinctEdges.sublist (List.filter_sublist.map Prod.fst)

variable (graph : Graph)

theorem spoken_edgeList :
    (spoken graph).edgeList = graph.edgeList.filter fun edge => !isSilent graph edge := by
  rw [Graph.edgeList, Graph.edgeList, List.filter_map]
  rfl

theorem filterMap_spoken {Item : Type} (read : Edge → Option Item)
    (unread : ∀ edge, isSilent graph edge = true → read edge = none) :
    (spoken graph).edgeList.filterMap read = graph.edgeList.filterMap read := by
  rw [spoken_edgeList, List.filterMap_filter]
  congr 1
  funext edge
  cases silent : isSilent graph edge with
  | true => simp [unread edge silent]
  | false => simp

theorem filed_spoken {Item : Type} (place : Edge → Option (String × Item))
    (dict : Dict String (List Item)) (unread : ∀ edge, isSilent graph edge = true → place edge = none) :
    (spoken graph).edgeList.foldl (file place) dict = graph.edgeList.foldl (file place) dict := by
  rw [spoken_edgeList]
  induction graph.edgeList generalizing dict with
  | nil => rfl
  | cons edge rest ih =>
      cases silent : isSilent graph edge with
      | true => simpa [silent, file, unread edge silent] using ih dict
      | false => simpa [silent] using ih _

theorem silent_type {graph : Graph} {edge : Edge} (silent : isSilent graph edge = true) :
    edge.type = .requiresInvariant ∨
      edge.type = .causesEffect ∧ graph.hasType edge.sourceId .service = false := by
  simpa [isSilent] using silent

theorem targetsFrom_spoken (type : EdgeType) (loud : type ≠ .requiresInvariant ∧ type ≠ .causesEffect) :
    targetsFrom (spoken graph) type = targetsFrom graph type := by
  funext source
  refine filterMap_spoken graph _ fun edge silent => ?_
  rcases silent_type silent with kind | ⟨kind, -⟩ <;> simp [kind, loud.1.symm, loud.2.symm]

theorem linksOf_spoken : linksOf (spoken graph) = linksOf graph := by
  have owners : sourcesInto (spoken graph) .causesEffect .service = sourcesInto graph .causesEffect .service := by
    funext target
    refine filterMap_spoken graph _ fun edge silent => ?_
    rcases silent_type silent with kind | ⟨kind, unowned⟩
    · simp [kind]
    · simp [show (spoken graph).hasType = graph.hasType from rfl, unowned]
  have holders : sourcesInto (spoken graph) .contains .frontendRoute = sourcesInto graph .contains .frontendRoute := by
    funext target
    refine filterMap_spoken graph _ fun edge silent => ?_
    rcases silent_type silent with kind | ⟨kind, -⟩ <;> simp [kind]
  simp only [linksOf, targetsFrom_spoken graph .routesTo (by decide),
    targetsFrom_spoken graph .invokes (by decide), owners, holders]

theorem validate_spoken {graph : Graph} (valid : validateInvariants table graph = .ok ()) :
    validateInvariants table (spoken graph) = .ok () := by
  rw [validateInvariants_ok_iff] at valid ⊢
  obtain ⟨distinct, edges, nodes⟩ := valid
  rw [spoken_edgeList]
  exact ⟨distinct.sublist (List.filter_sublist.map Edge.id),
    fun edge member => edges edge (List.mem_of_mem_filter member), nodes⟩

section

variable {graph : Graph}

theorem placeTarget_silent {Carrier : Type} (type : EdgeType) (known : Dict String Carrier)
    (loud : type ≠ .requiresInvariant ∧ type ≠ .causesEffect) (edge : Edge)
    (silent : isSilent graph edge = true) : placeTarget type known edge = none := by
  rcases silent_type silent with kind | ⟨kind, -⟩ <;> simp [placeTarget, kind, loud.1.symm, loud.2.symm]

/-- Without the silent edges only the effect lists are filed differently. -/
theorem routeEdges_spoken (index : NodeIndex) :
    routeEdges graph.nodes index (spoken graph).edgeList =
      { routeEdges graph.nodes index graph.edgeList with
        effects := (spoken graph).edgeList.foldl
          (file (placeTarget .causesEffect index.effectsById)) [] } := by
  have unexposed : ∀ edge, isSilent graph edge = true → placeExposes index edge = none := by
    intro edge silent
    rcases silent_type silent with kind | ⟨kind, -⟩ <;> simp [placeExposes, kind]
  have unconsumed : ∀ edge, isSilent graph edge = true → placeConsumer index edge = none := by
    intro edge silent
    rcases silent_type silent with kind | ⟨kind, -⟩ <;> simp [placeConsumer, kind]
  have unsecured (onApi : Bool) :
      ∀ edge, isSilent graph edge = true → placePolicy graph.nodes index onApi edge = none := by
    intro edge silent
    simp [placePolicy, placeTarget_silent .securedBy index.security (by decide) edge silent]
  simp only [routeEdges_eq, filed_spoken graph _ _ unexposed, filed_spoken graph _ _ unconsumed,
    filed_spoken graph _ _ (unsecured true), filed_spoken graph _ _ (unsecured false),
    filed_spoken graph _ _ (placeTarget_silent .persists index.dataModels (by decide)),
    filed_spoken graph _ _ (placeTarget_silent .publishes index.events (by decide))]

/-- The differing effect lists stand under identifiers that no service has. -/
theorem effects_spoken (known : Dict String Effect) (id : String)
    (service : graph.hasType id .service = true) :
    group ((spoken graph).edgeList.foldl (file (placeTarget .causesEffect known)) []) id =
      group (graph.edgeList.foldl (file (placeTarget .causesEffect known)) []) id := by
  rw [group_filed, group_filed, filterMap_spoken]
  intro edge silent
  rcases silent_type silent with kind | ⟨kind, unowned⟩
  · simp [placedAt, placeTarget, kind]
  · have other : edge.sourceId ≠ id := by
      rintro rfl
      simp [service] at unowned
    cases found : get known edge.targetId <;> simp [placedAt, placeTarget, kind, found, other]

theorem lowerNamed_congr {Carrier : Type} {type : NodeType} {entry : String × Node}
    {build other : String → String → Option (Behavior type) → Carrier}
    (same : ∀ name behavior, build entry.1 name behavior = other entry.1 name behavior) :
    lowerNamed schemas type build entry = lowerNamed schemas type other entry := by
  simp only [lowerNamed, same]

theorem stages_spoken (stages : Stages schemas graph) :
    ∃ quiet : Stages schemas (spoken graph),
      ∀ planId isrId, quiet.plan planId isrId = stages.plan planId isrId := by
  have routed := @routeEdges_spoken graph stages.index
  rw [← stages.route] at routed
  have bound : bindApi (routeEdges graph.nodes stages.index (spoken graph).edgeList) =
      bindApi stages.routed := by
    rw [routed]
    rfl
  have apis : bindApis stages.index (routeEdges graph.nodes stages.index (spoken graph).edgeList) =
      bindApis stages.index stages.routed := by
    rw [bindApis, bound, bindApis]
  have interactions (apiById : Dict String ApiOperation) :
      lowerInteraction schemas (spoken graph) apiById = lowerInteraction schemas graph apiById := by
    funext entry
    simp only [lowerInteraction, buildInteraction, targetsFrom_spoken graph .invokes (by decide)]
  have routes (apiById : Dict String ApiOperation) (known : Dict String FrontendInteraction) :
      lowerRoute schemas (spoken graph) apiById known = lowerRoute schemas graph apiById known := by
    funext entry
    simp only [lowerRoute, buildRoute, targetsFrom_spoken graph .routesTo (by decide),
      targetsFrom_spoken graph .contains (by decide)]
  have services : gather (lowerService schemas
        (routeEdges graph.nodes stages.index (spoken graph).edgeList)) graph.nodes =
      gather (lowerService schemas stages.routed) graph.nodes := by
    refine gather_congr fun entry member => ?_
    by_cases kind : entry.2.type = .service
    · have service : graph.hasType entry.1 .service = true :=
        (hasType_iff _ _).mpr ⟨entry.2, get_of_mem graph.distinctNodes member, kind⟩
      have effects := effects_spoken stages.index.effectsById entry.1 service
      have before : stages.routed.effects =
          graph.edgeList.foldl (file (placeTarget .causesEffect stages.index.effectsById)) [] := by
        rw [stages.route, routeEdges_eq]
      rw [← before] at effects
      rw [lowerService, lowerService, if_pos kind, if_pos kind, routed]
      refine congrArg (Except.map some) (lowerNamed_congr fun name behavior => ?_)
      simp only [effects]
    · simp [lowerService, kind]
  refine ⟨⟨stages.index, _, stages.interactions, stages.routes, stages.services, stages.collect, rfl,
    ?_, ?_, ?_, services.trans stages.lowerServices⟩, fun planId isrId => ?_⟩
  · rw [show (spoken graph).nodes = graph.nodes from rfl, routed]
    exact stages.unambiguous
  · rw [interactions, apisById, show (spoken graph).nodes = graph.nodes from rfl, apis]
    exact stages.lowerInteractions
  · rw [routes, apisById, show (spoken graph).nodes = graph.nodes from rfl, apis]
    exact stages.lowerRoutes
  · simp only [Stages.plan]
    rw [show (spoken graph).nodes = graph.nodes from rfl, apis]

theorem Accepted.spoken {revision : Revision} {plan : Plan}
    (accepted : Accepted table schemas digest revision plan) :
    ∃ quiet quietPlan, Accepted table schemas digest quiet quietPlan ∧ samePlan plan quietPlan ∧
      quiet.graph = LoweringFidelity.spoken revision.graph := by
  obtain ⟨valid, contracts, identity, version, same⟩ :=
    (create_ok_iff _ _ _ _ _ _ _ _).mp accepted.created
  obtain ⟨stages, rfl⟩ := (isrToPlan_ok_iff _ _).mp accepted.lowered
  obtain ⟨quietStages, samePlans⟩ := stages_spoken stages
  let quiet : Revision := ⟨revision.systemId, revision.revisionId, revision.schemaVersion,
    LoweringFidelity.spoken revision.graph,
    computeContentHash digest revision.schemaVersion (LoweringFidelity.spoken revision.graph)⟩
  refine ⟨quiet, quietStages.plan (planIdOf quiet) quiet.systemId, ⟨?_, ?_⟩, ?_, rfl⟩
  · refine (create_ok_iff _ _ _ _ _ _ _ _).mpr ⟨validate_spoken valid, ?_, identity, version, rfl⟩
    rw [validateBehavioralGraph, linksOf_spoken]
    exact contracts
  · exact (isrToPlan_ok_iff _ _).mpr ⟨quietStages, rfl⟩
  · rw [samePlans]
    rfl

end

/-- Every accepted revision with this plan has the edge, so a reader of the plan
can tell its endpoints. -/
def Recoverable (table : CharTable) (schemas : Schemas) (digest : Json → String) (plan : Plan)
    (type : EdgeType) (source target : String) : Prop :=
  ∀ other otherPlan, Accepted table schemas digest other otherPlan → samePlan plan otherPlan →
    (source, target) ∈ edgePairs other.graph type

def effectRelations : List EdgeType := [.causesEffect, .requiresInvariant]

theorem effect_relations_recoverable_iff (table : CharTable) (schemas : Schemas)
    (digest : Json → String) (revision : Revision) (plan : Plan)
    (accepted : Accepted table schemas digest revision plan) :
    (∀ edge ∈ revision.graph.edgeList, edge.type ∈ effectRelations →
        Recoverable table schemas digest plan edge.type edge.sourceId edge.targetId) ↔
      ∀ edge ∈ revision.graph.edgeList, edge.type ≠ .requiresInvariant ∧
        (edge.type = .causesEffect → revision.graph.hasType edge.sourceId .service = true) := by
  constructor
  · intro recoverable edge filed
    obtain ⟨quiet, quietPlan, quietAccepted, agree, dropped⟩ := accepted.spoken
    have loud : edge.type ∈ effectRelations → isSilent revision.graph edge = false := by
      intro relation
      have kept := recoverable edge filed relation quiet quietPlan quietAccepted agree
      obtain ⟨other, member, kind, source, -⟩ := (mem_edgePairs _ _ _).mp kept
      rw [dropped, spoken_edgeList, List.mem_filter] at member
      simpa only [isSilent, kind, source, Bool.not_eq_true'] using member.2
    constructor
    · intro kind
      simpa [isSilent, kind] using loud (by simp [effectRelations, kind])
    · intro kind
      simpa [isSilent, kind] using loud (by simp [effectRelations, kind])
  · intro carried edge filed relation other otherPlan otherAccepted agree
    have kind : edge.type = .causesEffect := by
      simp only [effectRelations, List.mem_cons, List.not_mem_nil, or_false] at relation
      exact relation.resolve_right (carried edge filed).1
    obtain ⟨stages, rfl⟩ := (isrToPlan_ok_iff _ _).mp accepted.lowered
    obtain ⟨otherStages, rfl⟩ := (isrToPlan_ok_iff _ _).mp otherAccepted.lowered
    have recorded := (causesEffect_iff stages accepted.typed (planIdOf revision) revision.systemId
      edge.sourceId edge.targetId).mpr ⟨(carried edge filed).2 kind,
        (mem_edgePairs _ _ _).mpr ⟨edge, filed, kind, rfl, rfl⟩⟩
    rw [agree.readers.2.2] at recorded
    rw [kind]
    exact ((causesEffect_iff otherStages otherAccepted.typed _ _ _ _).mp recorded).2

/-- An owner and an effect, with the edge between them or without it. -/
def transferGraph (owner : NodeType) (linked : Bool) : Graph where
  nodes :=
    [("pay", ⟨"pay", owner, [("label", .str "Pay")]⟩),
     ("transfer", ⟨"transfer", .effect, [("label", .str "Transfer")]⟩)]
  edges := if linked then [("e1", ⟨"e1", .causesEffect, "pay", "transfer", []⟩)] else []
  distinctNodes := by simp [keys]
  distinctEdges := by cases linked <;> decide

/-- SHA-256 of the three documents used below. -/
def transferDigest (document : Json) : String :=
  if document = DataTree.sortKeys (canonicalDocument "1.0" (transferGraph .api true)) then
    "fdd7285522d0e48769b4a06d48af4f29059c9ce6f5f0c03c86622de24b85de21"
  else if document = DataTree.sortKeys (canonicalDocument "1.0" (transferGraph .api false)) then
    "a15644feb83963866bcfb1e74d6c1ebd782cb805f811afb9c1ebd20730e3d03d"
  else "5232cca10e8d9f1520ff963054a88f282ac46b9d6731bdeeb04f716d1ad4f6fd"

def transferRevision (owner : NodeType) (linked : Bool) : Revision :=
  ⟨"bank", "r1", "1.0", transferGraph owner linked,
    computeContentHash transferDigest "1.0" (transferGraph owner linked)⟩

def operationPlan (planId : String) : Plan where
  planId := planId
  isrId := "bank"
  apis := [{ id := "pay", name := "Pay" }]
  effects := [{ id := "transfer", name := "Transfer" }]

theorem operation_linked_accepted :
    Accepted asciiTable noPayloads transferDigest (transferRevision .api true)
      (operationPlan "plan:fdd7285522d0e487") := by
  refine ⟨?_, ?_⟩ <;> rfl

theorem operation_unlinked_accepted :
    Accepted asciiTable noPayloads transferDigest (transferRevision .api false)
      (operationPlan "plan:a15644feb8396386") := by
  refine ⟨?_, ?_⟩ <;> rfl

/-- The effect of an operation leaves no trace: the plan without the edge is the same. -/
theorem operation_effect_lost :
    Accepted asciiTable noPayloads transferDigest (transferRevision .api true)
      (operationPlan "plan:fdd7285522d0e487") ∧
    ¬ ∀ edge ∈ (transferGraph .api true).edgeList, edge.type ∈ effectRelations →
        Recoverable asciiTable noPayloads transferDigest (operationPlan "plan:fdd7285522d0e487")
          edge.type edge.sourceId edge.targetId := by
  refine ⟨operation_linked_accepted, fun recoverable => ?_⟩
  have kept := recoverable ⟨"e1", .causesEffect, "pay", "transfer", []⟩ (by decide) (by decide)
    (transferRevision .api false) _ operation_unlinked_accepted rfl
  exact absurd kept (by decide : ("pay", "transfer") ∉ edgePairs (transferGraph .api false) .causesEffect)

def servicePlan : Plan where
  planId := "plan:5232cca10e8d9f15"
  isrId := "bank"
  services := [{ id := "pay", name := "Pay", effects := [{ id := "transfer", name := "Transfer" }] }]
  effects := [{ id := "transfer", name := "Transfer" }]

theorem service_linked_accepted :
    Accepted asciiTable noPayloads transferDigest (transferRevision .service true) servicePlan := by
  refine ⟨?_, ?_⟩ <;> rfl

theorem service_effect_recoverable :
    (transferGraph .service true).edgeList ≠ [] ∧
      ∀ edge ∈ (transferGraph .service true).edgeList, edge.type ∈ effectRelations →
        Recoverable asciiTable noPayloads transferDigest servicePlan edge.type edge.sourceId edge.targetId :=
  ⟨by decide, (effect_relations_recoverable_iff asciiTable noPayloads transferDigest (transferRevision .service true)
    servicePlan service_linked_accepted).mpr
      (by decide : ∀ edge ∈ (transferGraph .service true).edgeList, edge.type ≠ .requiresInvariant ∧
        (edge.type = .causesEffect → (transferGraph .service true).hasType edge.sourceId .service = true))⟩

end AutonomousApi.LoweringFidelity
