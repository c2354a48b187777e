import AutonomousApi.EvolutionGenome

/-! Materialization of a genome into an ISR graph (evolution/core/materialize.py). Nodes and
edges are derived from the chromosomes, and the substrate that the genome carries is laid
under them: what it holds under a derived key stays. Requirement refinements of the substrate
then bind capabilities to the services of their domains. -/

namespace AutonomousApi.GenomeMaterializer

open JsonValue OrderedMap IsrGraph PythonText EvolutionGenome

/-- `.get` and iteration on a value that should be a mapping. Where it is none, the validation
of the substrate fails in the end. -/
def entriesOf : Option Json → Dict String Json
  | some (.dict entries) => entries
  | _ => []

def nodeTypes : List NodeType :=
  [.domain, .capability, .service, .api, .dataModel, .event, .securityPolicy, .infrastructureTarget, .requirementRef,
    .frontendRoute, .frontendInteraction, .effect, .invariant, .consequence]

def edgeTypes : List EdgeType :=
  [.satisfies, .implementedBy, .exposes, .persists, .publishes, .consumedBy, .dependsOn, .securedBy, .contains,
    .routesTo, .invokes, .causesEffect, .requiresInvariant, .consequenceOf, .requirementDependsOn,
    .requirementConflictsWith, .requirementRefines, .requirementOwnedBy]

/-- A required text of at least one character. -/
def readName (record : Dict String Json) (key : String) : Option String :=
  match get record key with
  | some (.atom (.str text)) => if text = "" then none else some text
  | _ => none

def readProperties (record : Dict String Json) : Option (Dict String Json) :=
  match get record "properties" with
  | none => some []
  | some (.dict entries) => some entries
  | _ => none

/-- `Node.model_validate`. -/
def readNode : Json → Option Node
  | .dict record => do
      let id ← readName record "id"
      let value ← readName record "type"
      let type ← nodeTypes.find? fun type => type.value == value
      let properties ← readProperties record
      some { id, type, properties }
  | _ => none

/-- `Edge.model_validate`. -/
def readEdge : Json → Option Edge
  | .dict record => do
      let id ← readName record "id"
      let value ← readName record "type"
      let type ← edgeTypes.find? fun type => type.value == value
      let sourceId ← readName record "source_id"
      let targetId ← readName record "target_id"
      let properties ← readProperties record
      some { id, type, sourceId, targetId, properties }
  | _ => none

def readEntries {Value : Type} (read : Json → Option Value) (entries : Dict String Json) :
    Option (List (String × Value)) :=
  entries.mapM fun entry => (read entry.2).map fun value => (entry.1, value)

variable (table : CharTable) (genome : Genome)

def chromosome (family : ChromosomeFamily) : Option Chromosome := get genome.chromosomes family.value

/-- The genes of a chromosome have distinct ids, so sorting them is sorting their set. -/
def domainNames : List String :=
  match chromosome genome .architecture with
  | some arch => sortedSet (keys arch.genes)
  | none => []

/-- The properties of the first requirement reference whose requirement is the domain. -/
def domainRequirement (domain : String) : Option (Dict String Json) :=
  (entriesOf (get genome.sourceGraph "nodes")).findSome? fun entry =>
    let properties := entriesOf (get (entriesOf (some entry.2)) "properties")
    if get (entriesOf (some entry.2)) "type" = some (.str NodeType.requirementRef.value) ∧
        get properties "requirement_id" = some (.str domain) then some properties
    else none

def serviceProperties (style domain : String) : Dict String Json :=
  match (domainRequirement genome domain).bind fun properties => get properties "semantic_content" with
  | some (.atom (.str statement)) =>
      if strip table statement.toList = [] then [("style", .str style)]
      else [("style", .str style), ("responsibility", .str statement),
        ("source_requirement_ref", .str ("requirement_ref:" ++ domain))]
  | _ => [("style", .str style)]

def nodeEntry (id : String) (type : NodeType) (properties : Dict String Json) : String × Node :=
  (id, { id, type, properties })

def edgeEntry (id : String) (type : EdgeType) (sourceId targetId : String) : String × Edge :=
  (id, { id, type, sourceId, targetId })

def geneValue (family : ChromosomeFamily) (geneId : String) : Option String :=
  ((chromosome genome family).bind fun chromosome => get chromosome.genes geneId).map Gene.value

def domainNodes (domain : String) : Option (List (String × Node)) :=
  (geneValue genome .architecture domain).map fun style =>
    [nodeEntry ("domain:" ++ domain) .domain [("label", .str domain)],
      nodeEntry ("service:" ++ domain) .service (serviceProperties table genome style domain)]

/-- One data model for each domain; reading the gene fails only where there is a domain. -/
def modelNodes : Option (List (String × Node)) :=
  if (chromosome genome .persistence).isSome then
    (domainNames genome).mapM fun domain => (geneValue genome .persistence "baseline").map fun storage =>
      nodeEntry ("dm:" ++ domain) .dataModel [("storage", .str storage)]
  else some []

def policyNodes : Option (List (String × Node)) :=
  if (chromosome genome .security).isSome then
    (geneValue genome .security "baseline").map fun authn =>
      [nodeEntry "sec:policy" .securityPolicy [("authn", .str authn)]]
  else some []

/-- Whether services are joined by an event. -/
def eventDriven : Bool :=
  match chromosome genome .messaging with
  | some _ => 2 ≤ (domainNames genome).length &&
      (geneValue genome .messaging "style").getD "event-driven" == "event-driven"
  | none => false

/-- The nodes that the chromosomes call for, under their ids. -/
def derivedNodes : Option (List (String × Node)) := do
  let services ← (domainNames genome).mapM (domainNodes table genome)
  let models ← modelNodes genome
  let policies ← policyNodes genome
  let events := if eventDriven genome then [nodeEntry "event:domain" .event []] else []
  some (services.flatten ++ models ++ policies ++ events)

def messagingEdges : List (String × Edge) :=
  match eventDriven genome, (domainNames genome).head?, (domainNames genome).getLast? with
  | true, some first, some last =>
      [edgeEntry "pub" .publishes ("service:" ++ first) "event:domain",
        edgeEntry "con" .consumedBy "event:domain" ("service:" ++ last)]
  | _, _, _ => []

def dependencyEdges : List (String × Edge) :=
  match domainNames genome with
  | first :: _ :: third :: _ =>
      [edgeEntry ("dep-svc-" ++ first ++ "-" ++ third) .dependsOn ("service:" ++ first) ("service:" ++ third)]
  | _ => []

def derivedEdges : List (String × Edge) :=
  (if (chromosome genome .persistence).isSome then
    (domainNames genome).map fun domain =>
      edgeEntry ("persist-" ++ domain) .persists ("service:" ++ domain) ("dm:" ++ domain)
  else []) ++
  (if (chromosome genome .security).isSome then
    (domainNames genome).map fun domain =>
      edgeEntry ("sec-" ++ domain) .securedBy ("service:" ++ domain) "sec:policy"
  else []) ++
  messagingEdges genome ++ dependencyEdges genome

/-- A property in a formatted string; `str` is Python's for values that are no strings. -/
def formatted (str : Json → String) (default : String) : Option Json → String
  | none => default
  | some (.atom (.str text)) => text
  | some value => str value

/-- What a requirement refinement adds: the capability of a functional requirement is
implemented by the service of the domain that it refines, where both are there. -/
def binding (str : Json → String) (nodes : Dict String Node) (edge : Edge) : Option (String × Edge) :=
  if edge.type = .requirementRefines then
    match get nodes edge.sourceId, get nodes edge.targetId with
    | some source, some target =>
        let capabilityId := "capability:" ++ formatted str "" (get source.properties "requirement_id")
        let serviceId := "service:" ++ formatted str "" (get target.properties "requirement_id")
        if get source.properties "requirement_kind" = some (.str "functional") ∧
            get target.properties "requirement_kind" = some (.str "domain_concept") ∧
            (get nodes capabilityId).isSome ∧ (get nodes serviceId).isSome then
          let edgeId := "implemented-by:" ++ formatted str "None" (get source.properties "requirement_id")
          some (edgeId, { id := edgeId, type := .implementedBy, sourceId := capabilityId, targetId := serviceId,
                          properties := [("derived_from_requirement_edge", .str edge.id),
                            ("source_requirement_ref", .str edge.sourceId),
                            ("target_requirement_ref", .str edge.targetId)] })
        else none
    | _, _ => none
  else none

theorem distinct_dictionary {Value : Type} (entries : List (String × Value)) : (keys (assignAll [] entries)).Nodup :=
  keys_assignAll_nodup entries List.nodup_nil

/-- `materialize`, or nothing when it raises. -/
def materialize (table : CharTable) (str : Json → String) (genome : Genome) : Option Graph := do
  let nodes ← derivedNodes table genome
  let edges := derivedEdges genome
  if genome.sourceGraph = [] then
    some { nodes := assignAll [] nodes, edges := assignAll [] edges, distinctNodes := distinct_dictionary nodes,
           distinctEdges := distinct_dictionary edges }
  else
    match get genome.sourceGraph "nodes", get genome.sourceGraph "edges" with
    | some (.dict sourceNodes), some (.dict sourceEdges) => do
        let preservedNodes ← readEntries readNode sourceNodes
        let preservedEdges ← readEntries readEdge sourceEdges
        let allNodes := setDefaults (assignAll [] preservedNodes) (assignAll [] nodes)
        let allEdges := setDefaults (assignAll [] preservedEdges) (assignAll [] edges)
        some { nodes := allNodes,
               edges := setDefaults allEdges ((allEdges.map Prod.snd).filterMap (binding str allNodes)),
               distinctNodes := keys_setDefaults_nodup _ (distinct_dictionary preservedNodes),
               distinctEdges := keys_setDefaults_nodup _
                   (keys_setDefaults_nodup _ (distinct_dictionary preservedEdges)) }
    | _, _ => none

end AutonomousApi.GenomeMaterializer
