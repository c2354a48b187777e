import AutonomousApi.CompilationPlan
import AutonomousApi.IsrGraph

/-! `isr_to_plan` of compiler/core/lowering.py: one pass over the nodes files each
carrier under its type, one pass over the edges groups targets under their owner,
and three further passes build the frontend carriers and the services. The laws
give every list of the plan as a filter of the graph in insertion order. -/

namespace AutonomousApi.Lowering

open JsonValue OrderedMap IsrGraph CompilationPlan FailFast PythonText

inductive LoweringError where
  | invalidBehavior (node : String)
  | invalidCarrier (node : String)
  | ambiguousServices (services : Dict String (List String))

section

variable (schemas : Schemas)

def behaviorOf (type : NodeType) (entry : String × Node) :
    Except LoweringError (Option (Behavior type)) :=
  match get entry.2.properties "behavior" with
  | none => .ok none
  | some payload =>
      match schemas.validate type payload with
      | some behavior => .ok (some behavior)
      | none => .error (.invalidBehavior entry.1)

def labelOf (entry : String × Node) : Json :=
  (get entry.2.properties "label").getD (.str (String.ofList (afterColon entry.1.toList)))

/-- Every named carrier demands a nonempty identifier and a nonempty text label. -/
def carrierName (entry : String × Node) : Except LoweringError String :=
  match labelOf entry with
  | .str label =>
      if entry.1 = "" ∨ label = "" then .error (.invalidCarrier entry.1) else .ok label
  | _ => .error (.invalidCarrier entry.1)

def lowerNamed {Carrier : Type} (type : NodeType)
    (build : String → String → Option (Behavior type) → Carrier) (entry : String × Node) :
    Except LoweringError Carrier := do
  let behavior ← behaviorOf schemas type entry
  let name ← carrierName entry
  pure (build entry.1 name behavior)

def lowerDataModel (entry : String × Node) : Except LoweringError DataModel :=
  lowerNamed schemas .dataModel (fun id name behavior => ⟨id, name, behavior⟩) entry

def lowerEvent (entry : String × Node) : Except LoweringError Event :=
  lowerNamed schemas .event (fun id name behavior => ⟨id, name, behavior⟩) entry

def lowerApi (entry : String × Node) : Except LoweringError ApiOperation :=
  lowerNamed schemas .api (fun id name behavior => ⟨id, name, behavior, none, []⟩) entry

def lowerEffect (entry : String × Node) : Except LoweringError Effect :=
  lowerNamed schemas .effect (fun id name behavior => ⟨id, name, behavior⟩) entry

def lowerInvariant (entry : String × Node) : Except LoweringError Invariant :=
  lowerNamed schemas .invariant (fun id name behavior => ⟨id, name, behavior⟩) entry

def lowerSecurityPolicy (entry : String × Node) : Except LoweringError SecurityPolicy := do
  let behavior ← behaviorOf schemas .securityPolicy entry
  if entry.1 = "" then .error (.invalidCarrier entry.1) else pure ⟨entry.1, behavior⟩

end

structure NodeIndex where
  dataModels : Dict String DataModel := []
  events : Dict String Event := []
  security : Dict String SecurityPolicy := []
  apis : List ApiOperation := []
  effects : List Effect := []
  invariants : List Invariant := []

def collectNode (schemas : Schemas) (index : NodeIndex) (entry : String × Node) :
    Except LoweringError NodeIndex :=
  match entry.2.type with
  | .dataModel => do
      let model ← lowerDataModel schemas entry
      pure { index with dataModels := assign index.dataModels entry.1 model }
  | .event => do
      let event ← lowerEvent schemas entry
      pure { index with events := assign index.events entry.1 event }
  | .securityPolicy => do
      let policy ← lowerSecurityPolicy schemas entry
      pure { index with security := assign index.security entry.1 policy }
  | .api => do
      let api ← lowerApi schemas entry
      pure { index with apis := index.apis ++ [api] }
  | .effect => do
      let effect ← lowerEffect schemas entry
      pure { index with effects := index.effects ++ [effect] }
  | .invariant => do
      let invariant ← lowerInvariant schemas entry
      pure { index with invariants := index.invariants ++ [invariant] }
  | _ => .ok index

def collectNodes (schemas : Schemas) (nodes : Dict String Node) : Except LoweringError NodeIndex :=
  foldChecked (collectNode schemas) {} nodes

structure EdgeIndex where
  apiServices : Dict String (List String) := []
  effects : Dict String (List Effect) := []
  dataModels : Dict String (List DataModel) := []
  publishedEvents : Dict String (List Event) := []
  consumedEvents : Dict String (List Event) := []
  apiSecurity : Dict String (List SecurityPolicy) := []
  serviceSecurity : Dict String (List SecurityPolicy) := []

def NodeIndex.effectsById (index : NodeIndex) : Dict String Effect :=
  assignAll [] (index.effects.map fun effect => (effect.id, effect))

def isApi (nodes : Dict String Node) (id : String) : Bool :=
  match get nodes id with
  | some node => node.type == .api
  | none => false

def routeEdge (nodes : Dict String Node) (index : NodeIndex) (routed : EdgeIndex) (edge : Edge) :
    EdgeIndex :=
  match edge.type with
  | .exposes =>
      if (index.apis.map ApiOperation.id).contains edge.targetId then
        { routed with apiServices := push routed.apiServices edge.targetId edge.sourceId }
      else routed
  | .causesEffect =>
      match get index.effectsById edge.targetId with
      | some effect => { routed with effects := push routed.effects edge.sourceId effect }
      | none => routed
  | .persists =>
      match get index.dataModels edge.targetId with
      | some model => { routed with dataModels := push routed.dataModels edge.sourceId model }
      | none => routed
  | .publishes =>
      match get index.events edge.targetId with
      | some event => { routed with publishedEvents := push routed.publishedEvents edge.sourceId event }
      | none => routed
  | .consumedBy =>
      match get index.events edge.sourceId with
      | some event => { routed with consumedEvents := push routed.consumedEvents edge.targetId event }
      | none => routed
  | .securedBy =>
      match get index.security edge.targetId with
      | some policy =>
          if isApi nodes edge.sourceId then
            { routed with apiSecurity := push routed.apiSecurity edge.sourceId policy }
          else { routed with serviceSecurity := push routed.serviceSecurity edge.sourceId policy }
      | none => routed
  | _ => routed

def routeEdges (nodes : Dict String Node) (index : NodeIndex) (edges : List Edge) : EdgeIndex :=
  edges.foldl (routeEdge nodes index) {}

/-- The operations exposed by no single service, with the services that claim them. -/
def ambiguousApiServices (routed : EdgeIndex) : Dict String (List String) :=
  routed.apiServices.filterMap fun entry =>
    let services := sortedSet entry.2
    if services.length = 1 then none else some (entry.1, services)

def bindApi (routed : EdgeIndex) (api : ApiOperation) : ApiOperation :=
  { api with
    securityPolicies := group routed.apiSecurity api.id
    serviceId := (group routed.apiServices api.id).head? }

def buildInteraction (schemas : Schemas) (graph : Graph) (apiById : Dict String ApiOperation)
    (entry : String × Node) : Except LoweringError FrontendInteraction :=
  let target := match targetsFrom graph .invokes entry.1 with
    | [id] => get apiById id
    | _ => none
  lowerNamed schemas .frontendInteraction (fun id name behavior => ⟨id, name, behavior, target⟩) entry

def lowerInteraction (schemas : Schemas) (graph : Graph) (apiById : Dict String ApiOperation)
    (entry : String × Node) : Except LoweringError (Option (String × FrontendInteraction)) :=
  if entry.2.type = .frontendInteraction then
    (buildInteraction schemas graph apiById entry).map fun interaction => some (entry.1, interaction)
  else .ok none

def buildRoute (schemas : Schemas) (graph : Graph) (apiById : Dict String ApiOperation)
    (interactions : Dict String FrontendInteraction) (entry : String × Node) :
    Except LoweringError FrontendRoute :=
  let operations := (targetsFrom graph .routesTo entry.1).filterMap (get apiById)
  let contained := (targetsFrom graph .contains entry.1).filterMap (get interactions)
  lowerNamed schemas .frontendRoute
    (fun id name behavior => ⟨id, name, behavior, operations, contained⟩) entry

def lowerRoute (schemas : Schemas) (graph : Graph) (apiById : Dict String ApiOperation)
    (interactions : Dict String FrontendInteraction) (entry : String × Node) :
    Except LoweringError (Option FrontendRoute) :=
  if entry.2.type = .frontendRoute then
    (buildRoute schemas graph apiById interactions entry).map some
  else .ok none

def buildService (schemas : Schemas) (routed : EdgeIndex) (entry : String × Node) :
    Except LoweringError Service :=
  lowerNamed schemas .service
    (fun id name behavior =>
      { id := id, name := name, behavior := behavior
        dataModels := group routed.dataModels id
        publishedEvents := group routed.publishedEvents id
        consumedEvents := group routed.consumedEvents id
        effects := group routed.effects id
        securityPolicies := group routed.serviceSecurity id }) entry

def lowerService (schemas : Schemas) (routed : EdgeIndex) (entry : String × Node) :
    Except LoweringError (Option Service) :=
  if entry.2.type = .service then (buildService schemas routed entry).map some else .ok none

def isrToPlan (schemas : Schemas) (revision : Revision) : Except LoweringError Plan := do
  let graph := revision.graph
  let index ← collectNodes schemas graph.nodes
  let routed := routeEdges graph.nodes index graph.edgeList
  let ambiguous := ambiguousApiServices routed
  require ambiguous.isEmpty (.ambiguousServices ambiguous)
  let apis := index.apis.map (bindApi routed)
  let apiById := assignAll [] (apis.map fun api => (api.id, api))
  let interactions ← gather (lowerInteraction schemas graph apiById) graph.nodes
  let routes ← gather (lowerRoute schemas graph apiById interactions) graph.nodes
  let services ← gather (lowerService schemas routed) graph.nodes
  pure
    { planId := String.ofList ("plan:".toList ++ revision.contentHash.toList.take 16)
      isrId := revision.systemId
      services := services
      dataModels := index.dataModels.map Prod.snd
      events := index.events.map Prod.snd
      security := index.security.map Prod.snd
      apis := apis
      effects := index.effects
      invariants := index.invariants
      frontendRoutes := routes
      frontendInteractions := interactions.map Prod.snd }

section

variable {schemas : Schemas}

variable {Carrier : Type} {entry : String × Node} {index : NodeIndex} {nodes : Dict String Node}

theorem lowerNamed_ok_iff (type : NodeType)
    (build : String → String → Option (Behavior type) → Carrier) (entry : String × Node)
    (carrier : Carrier) :
    lowerNamed schemas type build entry = .ok carrier ↔
      ∃ behavior name, behaviorOf schemas type entry = .ok behavior ∧ carrierName entry = .ok name ∧
        carrier = build entry.1 name behavior := by
  cases parsed : behaviorOf schemas type entry with
  | error fault => simp [lowerNamed, parsed, bind, Except.bind]
  | ok behavior =>
      cases named : carrierName entry with
      | error fault => simp [lowerNamed, parsed, named, bind, Except.bind]
      | ok name =>
          simp only [lowerNamed, parsed, named, bind, Except.bind, pure, Except.pure,
            Except.ok.injEq, ↓existsAndEq, true_and]
          exact eq_comm

theorem labelOf_of_carrierName {name : String}
    (named : carrierName entry = .ok name) : labelOf entry = .str name := by
  unfold carrierName at named
  split at named
  next label found =>
    split at named
    · cases named
    · cases named
      exact found
  next => cases named

/-- One node changes the list of its own type only. -/
theorem collectNode_cases {next : NodeIndex} (success : collectNode schemas index entry = .ok next) :
    (entry.2.type = .dataModel ∧ ∃ model, lowerDataModel schemas entry = .ok model ∧
      next = { index with dataModels := assign index.dataModels entry.1 model }) ∨
    (entry.2.type = .event ∧ ∃ event, lowerEvent schemas entry = .ok event ∧
      next = { index with events := assign index.events entry.1 event }) ∨
    (entry.2.type = .securityPolicy ∧ ∃ policy, lowerSecurityPolicy schemas entry = .ok policy ∧
      next = { index with security := assign index.security entry.1 policy }) ∨
    (entry.2.type = .api ∧ ∃ api, lowerApi schemas entry = .ok api ∧
      next = { index with apis := index.apis ++ [api] }) ∨
    (entry.2.type = .effect ∧ ∃ effect, lowerEffect schemas entry = .ok effect ∧
      next = { index with effects := index.effects ++ [effect] }) ∨
    (entry.2.type = .invariant ∧ ∃ invariant, lowerInvariant schemas entry = .ok invariant ∧
      next = { index with invariants := index.invariants ++ [invariant] }) ∨
    ((entry.2.type ≠ .dataModel ∧ entry.2.type ≠ .event ∧ entry.2.type ≠ .securityPolicy ∧
      entry.2.type ≠ .api ∧ entry.2.type ≠ .effect ∧ entry.2.type ≠ .invariant) ∧ next = index) := by
  unfold collectNode at success
  split at success
  next kind =>
    obtain ⟨model, lowered, stored⟩ := bind_ok success
    exact .inl ⟨kind, model, lowered, (Except.ok.inj stored).symm⟩
  next kind =>
    obtain ⟨event, lowered, stored⟩ := bind_ok success
    exact .inr (.inl ⟨kind, event, lowered, (Except.ok.inj stored).symm⟩)
  next kind =>
    obtain ⟨policy, lowered, stored⟩ := bind_ok success
    exact .inr (.inr (.inl ⟨kind, policy, lowered, (Except.ok.inj stored).symm⟩))
  next kind =>
    obtain ⟨api, lowered, stored⟩ := bind_ok success
    exact .inr (.inr (.inr (.inl ⟨kind, api, lowered, (Except.ok.inj stored).symm⟩)))
  next kind =>
    obtain ⟨effect, lowered, stored⟩ := bind_ok success
    exact .inr (.inr (.inr (.inr (.inl ⟨kind, effect, lowered, (Except.ok.inj stored).symm⟩))))
  next kind =>
    obtain ⟨invariant, lowered, stored⟩ := bind_ok success
    exact .inr (.inr (.inr (.inr (.inr (.inl
      ⟨kind, invariant, lowered, (Except.ok.inj stored).symm⟩)))))
  next notModel notEvent notPolicy notApi notEffect notInvariant =>
    exact .inr (.inr (.inr (.inr (.inr (.inr
      ⟨⟨notModel, notEvent, notPolicy, notApi, notEffect, notInvariant⟩,
        (Except.ok.inj success).symm⟩)))))

/-- The carriers of one node type with their identifiers, in the order of the nodes. -/
def carriersOf {Carrier : Type} (type : NodeType) (lower : String × Node → Except LoweringError Carrier)
    (nodes : Dict String Node) : Dict String Carrier :=
  nodes.filterMap fun entry =>
    if entry.2.type = type then (lower entry).toOption.map (Prod.mk entry.1) else none

/-- Every node of the type has a carrier. -/
def AllLower {Carrier : Type} (type : NodeType) (lower : String × Node → Except LoweringError Carrier)
    (nodes : Dict String Node) : Prop :=
  ∀ entry ∈ nodes, entry.2.type = type → ∃ carrier, lower entry = .ok carrier

/-- A step over an entry extends the list that `project` reads when the entry is of the type,
and leaves it otherwise. -/
def Extends {Carrier Collection : Type} (type : NodeType) (lower : String × Node → Except LoweringError Carrier)
    (project : NodeIndex → Collection) (add : Collection → String × Carrier → Collection)
    (index : NodeIndex) (entry : String × Node) (next : NodeIndex) : Prop :=
  (entry.2.type = type → ∃ carrier, lower entry = .ok carrier ∧ project next = add (project index) (entry.1, carrier)) ∧
    (entry.2.type ≠ type → project next = project index)

/-- What one step of the node pass does to every list. -/
structure Filed (schemas : Schemas) (index : NodeIndex) (entry : String × Node) (next : NodeIndex) : Prop where
  dataModels : Extends .dataModel (lowerDataModel schemas) NodeIndex.dataModels
    (fun dict carrier => assign dict carrier.1 carrier.2) index entry next
  events : Extends .event (lowerEvent schemas) NodeIndex.events
    (fun dict carrier => assign dict carrier.1 carrier.2) index entry next
  security : Extends .securityPolicy (lowerSecurityPolicy schemas) NodeIndex.security
    (fun dict carrier => assign dict carrier.1 carrier.2) index entry next
  apis : Extends .api (lowerApi schemas) NodeIndex.apis (fun list carrier => list ++ [carrier.2]) index entry next
  effects : Extends .effect (lowerEffect schemas) NodeIndex.effects (fun list carrier => list ++ [carrier.2]) index
    entry next
  invariants : Extends .invariant (lowerInvariant schemas) NodeIndex.invariants
    (fun list carrier => list ++ [carrier.2]) index entry next

theorem collectNode_filed {next : NodeIndex}
    (success : collectNode schemas index entry = .ok next) : Filed schemas index entry next := by
  rcases collectNode_cases success with ⟨kind, carrier, lowered, rfl⟩ | ⟨kind, carrier, lowered, rfl⟩ |
    ⟨kind, carrier, lowered, rfl⟩ | ⟨kind, carrier, lowered, rfl⟩ | ⟨kind, carrier, lowered, rfl⟩ |
    ⟨kind, carrier, lowered, rfl⟩ | ⟨others, rfl⟩
  · constructor <;> simp [Extends, kind, lowered]
  · constructor <;> simp [Extends, kind, lowered]
  · constructor <;> simp [Extends, kind, lowered]
  · constructor <;> simp [Extends, kind, lowered]
  · constructor <;> simp [Extends, kind, lowered]
  · constructor <;> simp [Extends, kind, lowered]
  · constructor <;> simp [Extends, others]

/-- `project` reads one list of the index and `add` is how the loop extends it. -/
theorem collectNodes_project {Collection : Type} (success : collectNodes schemas nodes = .ok index) (type : NodeType)
    (lower : String × Node → Except LoweringError Carrier) (project : NodeIndex → Collection)
    (add : Collection → String × Carrier → Collection)
    (steps : ∀ {index entry next}, collectNode schemas index entry = .ok next →
      Extends type lower project add index entry next) :
    project index = (carriersOf type lower nodes).foldl add (project {}) ∧
      AllLower type lower nodes := by
  refine foldChecked_invariant success
    (fun seen state => project state = (carriersOf type lower seen).foldl add (project {}) ∧
      AllLower type lower seen) ⟨rfl, by simp [AllLower]⟩ ?_
  rintro seen entry rest state next - ⟨sofar, lowered⟩ step
  by_cases hit : entry.2.type = type
  · obtain ⟨carrier, built, stored⟩ := (steps step).1 hit
    constructor
    · rw [stored, sofar]
      simp [carriersOf, hit, built, Except.toOption]
    · intro other member kind
      rcases List.mem_append.mp member with earlier | last
      · exact lowered other earlier kind
      · obtain rfl := List.mem_singleton.mp last
        exact ⟨carrier, built⟩
  · constructor
    · rw [(steps step).2 hit, sofar]
      simp [carriersOf, hit]
    · intro other member kind
      rcases List.mem_append.mp member with earlier | last
      · exact lowered other earlier kind
      · obtain rfl := List.mem_singleton.mp last
        exact absurd kind hit

/-- What the node pass leaves in each list of the index. -/
structure Collected (schemas : Schemas) (nodes : Dict String Node) (index : NodeIndex) : Prop where
  dataModels : index.dataModels = carriersOf .dataModel (lowerDataModel schemas) nodes
  events : index.events = carriersOf .event (lowerEvent schemas) nodes
  security : index.security = carriersOf .securityPolicy (lowerSecurityPolicy schemas) nodes
  apis : index.apis = (carriersOf .api (lowerApi schemas) nodes).map Prod.snd
  effects : index.effects = (carriersOf .effect (lowerEffect schemas) nodes).map Prod.snd
  invariants : index.invariants = (carriersOf .invariant (lowerInvariant schemas) nodes).map Prod.snd
  allDataModels : AllLower .dataModel (lowerDataModel schemas) nodes
  allEvents : AllLower .event (lowerEvent schemas) nodes
  allSecurity : AllLower .securityPolicy (lowerSecurityPolicy schemas) nodes
  allApis : AllLower .api (lowerApi schemas) nodes
  allEffects : AllLower .effect (lowerEffect schemas) nodes
  allInvariants : AllLower .invariant (lowerInvariant schemas) nodes

theorem foldl_assign_eq (entries dict : Dict String Carrier) :
    entries.foldl (fun dict entry => assign dict entry.1 entry.2) dict = assignAll dict entries := by
  induction entries generalizing dict with
  | nil => rfl
  | cons entry rest ih => simpa [assignAll] using ih _

theorem foldl_snoc_eq (entries : Dict String Carrier) (list : List Carrier) :
    entries.foldl (fun list entry => list ++ [entry.2]) list = list ++ entries.map Prod.snd := by
  induction entries generalizing list with
  | nil => simp
  | cons entry rest ih => simp [ih]

theorem carriersOf_distinct (type : NodeType) (lower : String × Node → Except LoweringError Carrier)
    (distinct : (keys nodes).Nodup) : (keys (carriersOf type lower nodes)).Nodup := by
  have inside : (keys (carriersOf type lower nodes)).Sublist (keys nodes) := by
    induction nodes with
    | nil => simp [carriersOf, keys]
    | cons entry rest ih =>
        simp only [keys, List.map_cons, List.nodup_cons] at distinct
        have tail := ih distinct.2
        simp only [carriersOf, keys, List.filterMap_cons, List.map_cons] at tail ⊢
        split
        · exact tail.trans (List.sublist_cons_self _ _)
        next carrier found =>
          have same : carrier.1 = entry.1 := by
            split at found
            · obtain ⟨_, _, rfl⟩ := Option.map_eq_some_iff.mp found
              rfl
            · cases found
          simpa [same] using tail
  exact distinct.sublist inside

theorem collectNodes_collected (distinct : (keys nodes).Nodup) (success : collectNodes schemas nodes = .ok index) :
    Collected schemas nodes index := by
  have models := collectNodes_project success .dataModel (lowerDataModel schemas) NodeIndex.dataModels _
    fun step => (collectNode_filed step).dataModels
  have events := collectNodes_project success .event (lowerEvent schemas) NodeIndex.events _
    fun step => (collectNode_filed step).events
  have security := collectNodes_project success .securityPolicy (lowerSecurityPolicy schemas) NodeIndex.security _
    fun step => (collectNode_filed step).security
  have apis := collectNodes_project success .api (lowerApi schemas) NodeIndex.apis _
    fun step => (collectNode_filed step).apis
  have effects := collectNodes_project success .effect (lowerEffect schemas) NodeIndex.effects _
    fun step => (collectNode_filed step).effects
  have invariants := collectNodes_project success .invariant (lowerInvariant schemas) NodeIndex.invariants _
    fun step => (collectNode_filed step).invariants
  simp only [foldl_assign_eq, foldl_snoc_eq, List.nil_append,
    assignAll_distinct _ (carriersOf_distinct _ _ distinct)] at models events security apis effects invariants
  exact ⟨models.1, events.1, security.1, apis.1, effects.1, invariants.1,
    models.2, events.2, security.2, apis.2, effects.2, invariants.2⟩

theorem gather_carriers {Result : Type} {results : List Result}
    {produce : String × Node → Except LoweringError (Option Result)} (type : NodeType)
    (lower : String × Node → Except LoweringError Carrier) (wrap : String × Carrier → Result)
    (produced : ∀ entry, produce entry = if entry.2.type = type then
      (lower entry).map fun carrier => some (wrap (entry.1, carrier)) else .ok none)
    (success : gather produce nodes = .ok results) :
    results = (carriersOf type lower nodes).map wrap ∧ AllLower type lower nodes := by
  obtain ⟨all, collected⟩ := gather_ok success
  constructor
  · rw [collected, carriersOf, List.map_filterMap]
    congr 1
    funext entry
    rw [produced entry]
    by_cases hit : entry.2.type = type
    · cases outcome : lower entry <;> simp [hit, Except.map, Except.toOption]
    · simp [hit, Except.toOption]
  · intro entry member kind
    obtain ⟨found, outcome⟩ := all entry member
    rw [produced entry, if_pos kind] at outcome
    cases lowered : lower entry with
    | error fault => simp [lowered, Except.map] at outcome
    | ok carrier => exact ⟨carrier, rfl⟩

end

section

variable (nodes : Dict String Node) (index : NodeIndex)

/-! Where the edge pass files an edge, one function for each dictionary. -/

def placeExposes (edge : Edge) : Option (String × String) :=
  if edge.type = .exposes ∧ (index.apis.map ApiOperation.id).contains edge.targetId then
    some (edge.targetId, edge.sourceId)
  else none

def placeTarget {Carrier : Type} (type : EdgeType) (known : Dict String Carrier) (edge : Edge) :
    Option (String × Carrier) :=
  if edge.type = type then (get known edge.targetId).map (Prod.mk edge.sourceId) else none

def placeConsumer (edge : Edge) : Option (String × Event) :=
  if edge.type = .consumedBy then (get index.events edge.sourceId).map (Prod.mk edge.targetId)
  else none

def placePolicy (onApi : Bool) (edge : Edge) : Option (String × SecurityPolicy) :=
  if isApi nodes edge.sourceId = onApi then placeTarget .securedBy index.security edge else none

theorem routeEdge_eq (routed : EdgeIndex) (edge : Edge) :
    routeEdge nodes index routed edge =
      { apiServices := file (placeExposes index) routed.apiServices edge
        effects := file (placeTarget .causesEffect index.effectsById) routed.effects edge
        dataModels := file (placeTarget .persists index.dataModels) routed.dataModels edge
        publishedEvents := file (placeTarget .publishes index.events) routed.publishedEvents edge
        consumedEvents := file (placeConsumer index) routed.consumedEvents edge
        apiSecurity := file (placePolicy nodes index true) routed.apiSecurity edge
        serviceSecurity := file (placePolicy nodes index false) routed.serviceSecurity edge } := by
  cases kind : edge.type
  case exposes =>
    simp only [routeEdge, file, placeExposes, placeTarget, placeConsumer, placePolicy, kind]
    cases (index.apis.map ApiOperation.id).contains edge.targetId <;> simp
  case securedBy =>
    cases found : get index.security edge.targetId with
    | none => simp [routeEdge, file, placeExposes, placeTarget, placeConsumer, placePolicy, kind, found]
    | some policy =>
        cases onApi : isApi nodes edge.sourceId <;>
          simp [routeEdge, file, placeExposes, placeTarget, placeConsumer, placePolicy, kind, found, onApi]
  all_goals
    simp only [routeEdge, file, placeExposes, placeTarget, placeConsumer, placePolicy, kind]
    simp only [reduceCtorEq, false_and, ↓reduceIte, ite_self]
  all_goals
    split <;> simp_all

theorem routeEdges_eq (edges : List Edge) :
    routeEdges nodes index edges =
      { apiServices := edges.foldl (file (placeExposes index)) []
        effects := edges.foldl (file (placeTarget .causesEffect index.effectsById)) []
        dataModels := edges.foldl (file (placeTarget .persists index.dataModels)) []
        publishedEvents := edges.foldl (file (placeTarget .publishes index.events)) []
        consumedEvents := edges.foldl (file (placeConsumer index)) []
        apiSecurity := edges.foldl (file (placePolicy nodes index true)) []
        serviceSecurity := edges.foldl (file (placePolicy nodes index false)) [] } := by
  have general (routed : EdgeIndex) :
      edges.foldl (routeEdge nodes index) routed =
        { apiServices := edges.foldl (file (placeExposes index)) routed.apiServices
          effects := edges.foldl (file (placeTarget .causesEffect index.effectsById)) routed.effects
          dataModels := edges.foldl (file (placeTarget .persists index.dataModels)) routed.dataModels
          publishedEvents := edges.foldl (file (placeTarget .publishes index.events)) routed.publishedEvents
          consumedEvents := edges.foldl (file (placeConsumer index)) routed.consumedEvents
          apiSecurity := edges.foldl (file (placePolicy nodes index true)) routed.apiSecurity
          serviceSecurity := edges.foldl (file (placePolicy nodes index false)) routed.serviceSecurity } := by
    induction edges generalizing routed with
    | nil => rfl
    | cons edge rest ih => simp only [List.foldl_cons, ih, routeEdge_eq]
  exact general {}

end

variable {schemas : Schemas}

def bindApis (index : NodeIndex) (routed : EdgeIndex) : List ApiOperation :=
  index.apis.map (bindApi routed)

def apisById (index : NodeIndex) (routed : EdgeIndex) : Dict String ApiOperation :=
  assignAll [] ((bindApis index routed).map fun api => (api.id, api))

/-- The stages of a lowering and the plan they make. -/
structure Stages (schemas : Schemas) (graph : Graph) where
  index : NodeIndex
  routed : EdgeIndex
  interactions : Dict String FrontendInteraction
  routes : List FrontendRoute
  services : List Service
  collect : collectNodes schemas graph.nodes = .ok index
  route : routed = routeEdges graph.nodes index graph.edgeList
  unambiguous : ambiguousApiServices routed = []
  lowerInteractions :
    gather (lowerInteraction schemas graph (apisById index routed)) graph.nodes = .ok interactions
  lowerRoutes :
    gather (lowerRoute schemas graph (apisById index routed) interactions) graph.nodes = .ok routes
  lowerServices : gather (lowerService schemas routed) graph.nodes = .ok services

def Stages.plan {graph : Graph} (stages : Stages schemas graph) (planId isrId : String) : Plan where
  planId := planId
  isrId := isrId
  services := stages.services
  dataModels := stages.index.dataModels.map Prod.snd
  events := stages.index.events.map Prod.snd
  security := stages.index.security.map Prod.snd
  apis := bindApis stages.index stages.routed
  effects := stages.index.effects
  invariants := stages.index.invariants
  frontendRoutes := stages.routes
  frontendInteractions := stages.interactions.map Prod.snd

def planIdOf (revision : Revision) : String :=
  String.ofList ("plan:".toList ++ revision.contentHash.toList.take 16)

theorem isrToPlan_ok_iff (revision : Revision) (plan : Plan) :
    isrToPlan schemas revision = .ok plan ↔ ∃ stages : Stages schemas revision.graph,
      plan = stages.plan (planIdOf revision) revision.systemId := by
  constructor
  · intro success
    obtain ⟨index, collect, success⟩ := bind_ok success
    obtain ⟨_, unambiguous, success⟩ := bind_ok success
    obtain ⟨interactions, lowerInteractions, success⟩ := bind_ok success
    obtain ⟨routes, lowerRoutes, success⟩ := bind_ok success
    obtain ⟨services, lowerServices, success⟩ := bind_ok success
    refine ⟨⟨index, _, interactions, routes, services, collect, rfl, ?_, lowerInteractions,
      lowerRoutes, lowerServices⟩, (Except.ok.inj success).symm⟩
    simpa using (require_ok_iff _ _).mp unambiguous
  · rintro ⟨⟨index, _, interactions, routes, services, collect, rfl, unambiguous, lowerInteractions,
      lowerRoutes, lowerServices⟩, rfl⟩
    unfold isrToPlan
    simp only [apisById, bindApis] at lowerInteractions lowerRoutes
    simp only [collect, unambiguous, bind, Except.bind, require, List.isEmpty_nil, ↓reduceIte,
      lowerInteractions, lowerRoutes, lowerServices]
    rfl

variable {Carrier : Type} {type : NodeType} {nodes : Dict String Node}
variable {lower : String × Node → Except LoweringError Carrier}

theorem mem_carriersOf (id : String) (carrier : Carrier) :
    (id, carrier) ∈ carriersOf type lower nodes ↔
      ∃ node, (id, node) ∈ nodes ∧ node.type = type ∧ lower (id, node) = .ok carrier := by
  unfold carriersOf
  rw [List.mem_filterMap]
  constructor
  · rintro ⟨⟨key, node⟩, member, built⟩
    by_cases kind : node.type = type
    · cases outcome : lower (key, node) with
      | error fault => simp [kind, outcome, Except.toOption] at built
      | ok carried =>
          simp only [kind, outcome, Except.toOption, ↓reduceIte, Option.map_some, Option.some.injEq,
            Prod.mk.injEq] at built
          obtain ⟨rfl, rfl⟩ := built
          exact ⟨node, member, kind, outcome⟩
    · simp [kind] at built
  · rintro ⟨node, member, kind, lowered⟩
    exact ⟨(id, node), member, by simp [kind, lowered, Except.toOption]⟩

theorem get_carriersOf (distinct : (keys nodes).Nodup) (id : String) (carrier : Carrier) :
    get (carriersOf type lower nodes) id = some carrier ↔
      ∃ node, get nodes id = some node ∧ node.type = type ∧ lower (id, node) = .ok carrier := by
  constructor
  · intro found
    obtain ⟨node, member, kind, lowered⟩ := (mem_carriersOf id carrier).mp (mem_of_get found)
    exact ⟨node, get_of_mem distinct member, kind, lowered⟩
  · rintro ⟨node, found, kind, lowered⟩
    exact get_of_mem (carriersOf_distinct type lower distinct)
      ((mem_carriersOf id carrier).mpr ⟨node, mem_of_get found, kind, lowered⟩)

variable {graph : Graph} (stages : Stages schemas graph)

theorem Stages.collected : Collected schemas graph.nodes stages.index :=
  collectNodes_collected graph.distinctNodes stages.collect

theorem Stages.services_eq :
    stages.services = (carriersOf .service (buildService schemas stages.routed) graph.nodes).map Prod.snd ∧
      AllLower .service (buildService schemas stages.routed) graph.nodes :=
  gather_carriers .service _ Prod.snd (fun _ => rfl) stages.lowerServices

theorem Stages.routes_eq :
    let build := buildRoute schemas graph (apisById stages.index stages.routed) stages.interactions
    stages.routes = (carriersOf .frontendRoute build graph.nodes).map Prod.snd ∧
      AllLower .frontendRoute build graph.nodes :=
  gather_carriers .frontendRoute _ Prod.snd (fun _ => rfl) stages.lowerRoutes

theorem Stages.interactions_eq :
    let build := buildInteraction schemas graph (apisById stages.index stages.routed)
    stages.interactions = (carriersOf .frontendInteraction build graph.nodes).map id ∧
      AllLower .frontendInteraction build graph.nodes :=
  gather_carriers .frontendInteraction _ id (fun _ => rfl) stages.lowerInteractions

end AutonomousApi.Lowering
