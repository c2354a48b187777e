import AutonomousApi.GenomeLaws
import AutonomousApi.IsrAdmission

/-! When a materialized graph is admitted. What is derived from a genome is fixed by the domain
names of the revision, up to the values of the genes, so whether the extended graph passes the
invariants is a question about the revision: what it holds under the derived keys, and which
words its names and refinements contain. -/

namespace AutonomousApi.MaterializedGraph

open DataTree JsonValue OrderedMap FailFast IsrGraph PythonText EvolutionGenome GenomeMaterializer GenomeLaws
    IsrAdmission

section

variable (table : CharTable) (str : Json → String) (graph : Graph)

/-- The choices of a space contain no forbidden term. -/
def NeutralSpace (space : DecisionSpace) : Prop := ∀ entry ∈ space, ∀ value ∈ entry.2, Neutral table value

def names : List String := sortedSet ((domains graph).map domainName)

def persistLink (domain : String) : Edge :=
  { id := "persist-" ++ domain, type := .persists, sourceId := "service:" ++ domain, targetId := "dm:" ++ domain }

def securityLink (domain : String) : Edge :=
  { id := "sec-" ++ domain, type := .securedBy, sourceId := "service:" ++ domain, targetId := "sec:policy" }

def eventLinks (names : List String) : List Edge :=
  match names.head?, names.getLast? with
  | some first, some last =>
      [{ id := "pub", type := .publishes, sourceId := "service:" ++ first, targetId := "event:domain" },
        { id := "con", type := .consumedBy, sourceId := "event:domain", targetId := "service:" ++ last }]
  | _, _ => []

def dependencyLinks : List String → List Edge
  | first :: _ :: third :: _ =>
      [{ id := "dep-svc-" ++ first ++ "-" ++ third, type := .dependsOn, sourceId := "service:" ++ first,
         targetId := "service:" ++ third }]
  | _ => []

/-- The edges that the domain names call for; services may be joined by an event. -/
def links (names : List String) (joined : Bool) : List Edge :=
  names.map persistLink ++ names.map securityLink ++ (if joined then eventLinks names else []) ++ dependencyLinks names

def Unused (id : String) : Prop := ∀ edge ∈ graph.edgeList, edge.id ≠ id

/-- What the graph holds at the ends of an edge is of types that the edge allows. -/
def Fits (edge : Edge) : Prop :=
  (∀ node, graph.node edge.sourceId = some node → node.type ∈ (edgeTypeCompatibility edge.type).1) ∧
    ∀ node, graph.node edge.targetId = some node → node.type ∈ (edgeTypeCompatibility edge.type).2

/-- The nodes of the graph and a service for each of its domains. -/
def withServices : Dict String Node :=
  setDefaults graph.nodes ((names graph).map fun domain => nodeEntry ("service:" ++ domain) .service [])

structure Admits (joined : Bool) : Prop where
  labels : ∀ domain ∈ names graph, graph.node ("domain:" ++ domain) = none → Neutral table domain
  links : ∀ link ∈ links (names graph) joined, get graph.edges link.id = none → Unused graph link.id ∧ Fits graph link
  refinements : ∀ key edge, get (graph.edgeList.filterMap (binding str (withServices graph))) key = some edge →
    get graph.edges key = none → Unused graph key ∧ Fits graph edge ∧
      ∀ name text, (name, Json.str text) ∈ edge.properties → Unleaked table text

end

section

variable {State : Type} {rng : Random State} {table : CharTable} {isr : Revision} {genome : Genome}
  {allowed : DecisionSpace → Prop} {refined : Bool}

variable {geneId family : String} {gene : Gene} {space : DecisionSpace} {state : State}

theorem of_value {decision value : String} (built : Gene.of geneId decision value = some gene) :
    gene.value = value := by
  rw [Gene.of] at built
  split at built
  · cases built
    rfl
  · cases built

theorem mem_decomposition {domainIds : List String} {genes : List (String × Gene)}
    (built : (domainIds.mapM fun domain => decompositionGene (domainName domain)) = some genes) :
    (∀ name, name ∈ keys genes ↔ name ∈ domainIds.map domainName) ∧
      ∀ entry ∈ genes, entry.2.value = "bounded-context" := by
  have related := mapM_eq_some_iff.mp built
  have named (domain : String) (entry : String × Gene) (known : decompositionGene (domainName domain) = some entry) :
      entry.1 = domainName domain ∧ entry.2.value = "bounded-context" := by
    rw [decompositionGene, Option.map_eq_some_iff] at known
    obtain ⟨gene, made, rfl⟩ := known
    exact ⟨rfl, of_value made⟩
  refine ⟨fun name => ?_, fun entry member => ?_⟩
  · rw [keys, List.mem_map, List.mem_map]
    constructor
    · rintro ⟨entry, member, rfl⟩
      obtain ⟨domain, inside, known⟩ := (mem_of_mapM built).mp member
      exact ⟨domain, inside, (named domain entry known).1.symm⟩
    · rintro ⟨domain, inside, rfl⟩
      obtain ⟨index, bound, rfl⟩ := List.getElem_of_mem inside
      have paired := related.get (by simpa using bound) (by simpa [related.length_eq] using bound)
      exact ⟨_, List.getElem_mem _, (named _ _ paired).1⟩
  · obtain ⟨domain, inside, known⟩ := (mem_of_mapM built).mp member
    exact (named domain entry known).2

/-- The chromosomes of a constructed genome: a gene for each domain name, and fixed ones. -/
theorem construct_genes {start : Genome} (constructed : construct isr = some start) :
    (∀ name, (geneAt start "architecture" name).isSome ↔ name ∈ (domains isr.graph).map domainName) ∧
      (get start.chromosomes "persistence").isSome ∧ (get start.chromosomes "security").isSome ∧
      ∀ family geneId gene, geneAt start family geneId = some gene →
        gene.value ∈ ["bounded-context", "json", "token", "event-driven"] := by
  rw [construct] at constructed
  split at constructed
  case isFalse => cases constructed
  case isTrue =>
    obtain ⟨genes, built, rfl⟩ := Option.map_eq_some_iff.mp constructed
    obtain ⟨known, values⟩ := mem_decomposition built
    refine ⟨fun name => ?_, rfl, rfl, fun family geneId gene held => ?_⟩
    · rw [← known name]
      change (get (assignAll [] genes) name).isSome ↔ _
      rw [isSome_assignAll]
    · rw [geneAt, Option.bind_eq_some_iff] at held
      obtain ⟨chromosome, found, held⟩ := held
      have member := mem_of_get found
      simp only [List.mem_append, List.mem_cons, List.not_mem_nil, or_false] at member
      rcases member with (same | same | same) | joined
      · obtain ⟨-, rfl⟩ := Prod.mk.inj same
        exact values _ (mem_of_get_assignAll held) ▸ List.mem_cons_self
      · obtain ⟨-, rfl⟩ := Prod.mk.inj same
        obtain ⟨-, rfl⟩ := Prod.mk.inj (List.mem_singleton.mp (mem_of_get held))
        decide
      · obtain ⟨-, rfl⟩ := Prod.mk.inj same
        obtain ⟨-, rfl⟩ := Prod.mk.inj (List.mem_singleton.mp (mem_of_get held))
        decide
      · split at joined
        · obtain ⟨-, rfl⟩ := Prod.mk.inj (List.mem_singleton.mp joined)
          obtain ⟨-, rfl⟩ := Prod.mk.inj (List.mem_singleton.mp (mem_of_get held))
          decide
        · cases joined

theorem derived_domainNames (derived : Derived rng allowed isr refined genome) :
    domainNames genome = names isr.graph := by
  obtain ⟨start, constructed, same⟩ := derived.layout
  have members (name : String) : (geneValue genome .architecture name).isSome ↔
      name ∈ (domains isr.graph).map domainName := by
    rw [geneValue_isSome, ChromosomeFamily.value, ← same.genes]
    exact (construct_genes constructed).1 name
  have set : GenomeMaterializer.domainNames genome =
      sortedSet (GenomeMaterializer.domainNames genome) := by
    rw [GenomeMaterializer.domainNames]
    split
    · exact (sortedSet_congr fun _ => mem_sortedSet).symm
    · rfl
  rw [set]
  exact sortedSet_congr fun name => mem_domainNames.trans (members name)

theorem derived_fixedChromosomes (derived : Derived rng allowed isr refined genome) :
    (chromosome genome .persistence).isSome ∧ (chromosome genome .security).isSome := by
  obtain ⟨start, constructed, same⟩ := derived.layout
  obtain ⟨-, persistence, security, -⟩ := construct_genes constructed
  exact ⟨(same.families "persistence").symm.trans persistence, (same.families "security").symm.trans security⟩

theorem mutateGene_value {mutationRate : Rat}
    {mutant : Gene × State} (mutated : mutateGene rng mutationRate space geneId gene state = some mutant) :
    mutant.1 = gene ∨ mutant.1.value ∈ space.values geneId := by
  rw [mutateGene] at mutated
  split at mutated
  · cases mutated
    exact .inl rfl
  next first rest options =>
    dsimp only at mutated
    split at mutated
    · obtain ⟨next, made, rfl⟩ := Option.map_eq_some_iff.mp mutated
      right
      have chosen : (first :: rest).get (rng.randbelow rest.length (rng.random state).2).1 ∈ first :: rest :=
        List.get_mem _ _
      rw [← of_value made, ← options] at chosen
      exact (List.mem_filter.mp chosen).1
    · cases mutated
      exact .inl rfl

theorem mem_values {value : String} (member : value ∈ space.values geneId) :
    ∃ entry ∈ space, value ∈ entry.2 := by
  rw [DecisionSpace.values, group] at member
  cases held : get space geneId with
  | none => simp [held] at member
  | some values =>
      rw [held, Option.getD_some] at member
      exact ⟨_, mem_of_get held, member⟩

theorem geneAt_mutate {mutationRate : Rat} {mutant : Genome × State}
    (mutated : mutate rng genome mutationRate space state = some mutant)
    (held : geneAt mutant.1 family geneId = some gene) :
    geneAt genome family geneId = some gene ∨ gene.value ∈ space.values geneId := by
  obtain ⟨outcome, done, rfl⟩ := Option.map_eq_some_iff.mp mutated
  rw [geneAt, Option.bind_eq_some_iff] at held
  obtain ⟨chromosome, found, held⟩ := held
  obtain ⟨before, _, _, foundBefore, stepped⟩ := get_rebuild done found
  obtain ⟨genes, rebuilt, same⟩ := Option.map_eq_some_iff.mp stepped
  obtain ⟨rfl, -⟩ := Prod.mk.inj same
  obtain ⟨old, _, _, heldBefore, steppedGene⟩ := get_rebuild rebuilt held
  rcases mutateGene_value steppedGene with kept | chosen
  · left
    rw [geneAt, foundBefore, Option.bind_some, heldBefore]
    exact congrArg some kept.symm
  · exact .inr chosen

theorem geneAt_crossover {left right : Genome} {child : Genome × State}
    (crossed : crossover rng left right state = some child)
    (held : geneAt child.1 family geneId = some gene) :
    geneAt left family geneId = some gene ∨ geneAt right family geneId = some gene := by
  rw [crossover] at crossed
  split at crossed
  case isFalse => cases crossed
  case isTrue =>
    cases crossed
    rw [geneAt, Option.bind_eq_some_iff] at held
    obtain ⟨chromosome, found, held⟩ := held
    rw [geneAt, geneAt]
    rcases get_crossChromosomes found with ⟨mine, -⟩ | ⟨-, other⟩ | ⟨own, inherited, before, mine, other, genes⟩
    · rw [mine]
      exact .inl held
    · rw [other]
      exact .inr held
    · rw [mine, other]
      rw [genes] at held
      exact get_crossGenes held

/-- Mutation within neutral spaces and crossover keep every gene neutral. -/
theorem derived_neutral (faithful : AsciiFaithful table) (derived : Derived rng (NeutralSpace table) isr refined genome)
    (unrefined : refined = false)
    (held : geneAt genome family geneId = some gene) :
    Neutral table gene.value := by
  induction derived generalizing family geneId gene with
  | construct constructed =>
      have value := (construct_genes constructed).2.2.2 family geneId gene held
      have plain : ∀ text ∈ ["bounded-context", "json", "token", "event-driven"],
          ascii text.toList = true ∧ Neutral asciiTable text := by decide
      exact .ofAscii faithful (plain _ value).1 (plain _ value).2
  | mutate earlier mutationRate space permitted state mutated ih =>
      rcases geneAt_mutate mutated held with kept | chosen
      · exact ih unrefined kept
      · obtain ⟨entry, member, inside⟩ := mem_values chosen
        exact permitted entry member _ inside
  | crossover first second state crossed ih ih' =>
      obtain ⟨unrefinedLeft, unrefinedRight⟩ := Bool.or_eq_false_iff.mp unrefined
      rcases geneAt_crossover crossed held with mine | other
      · exact ih unrefinedLeft mine
      · exact ih' unrefinedRight other
  | refine earlier weakDims done ih => cases unrefined

variable {entries : List (String × Node)}

/-- The nodes that are derived from a genome. -/
inductive DerivedNode (table : CharTable) (genome : Genome) : String × Node → Prop where
  | domain {domain : String} (named : domain ∈ domainNames genome) :
      DerivedNode table genome (nodeEntry ("domain:" ++ domain) .domain [("label", .str domain)])
  | service {domain style : String} (named : domain ∈ domainNames genome)
      (held : geneValue genome .architecture domain = some style) :
      DerivedNode table genome (nodeEntry ("service:" ++ domain) .service (serviceProperties table genome style domain))
  | model {domain storage : String} (named : domain ∈ domainNames genome)
      (stored : (chromosome genome .persistence).isSome)
      (held : geneValue genome .persistence "baseline" = some storage) :
      DerivedNode table genome (nodeEntry ("dm:" ++ domain) .dataModel [("storage", .str storage)])
  | policy {authn : String} (secured : (chromosome genome .security).isSome)
      (held : geneValue genome .security "baseline" = some authn) :
      DerivedNode table genome (nodeEntry "sec:policy" .securityPolicy [("authn", .str authn)])
  | event (joined : eventDriven genome = true) : DerivedNode table genome (nodeEntry "event:domain" .event [])

variable {entry : String × Node}

theorem mem_services {services : List (List (String × Node))}
    (built : (domainNames genome).mapM (domainNodes table genome) = some services) :
    entry ∈ services.flatten ↔ ∃ domain ∈ domainNames genome, ∃ style, geneValue genome .architecture domain =
      some style ∧
      (entry = nodeEntry ("domain:" ++ domain) .domain [("label", .str domain)] ∨
        entry = nodeEntry ("service:" ++ domain) .service (serviceProperties table genome style domain)) := by
  rw [List.mem_flatten]
  constructor
  · rintro ⟨pair, member, inside⟩
    obtain ⟨domain, named, known⟩ := (mem_of_mapM built).mp member
    rw [domainNodes, Option.map_eq_some_iff] at known
    obtain ⟨style, held, rfl⟩ := known
    exact ⟨domain, named, style, held, by simpa using inside⟩
  · rintro ⟨domain, named, style, held, either⟩
    refine ⟨_, (mem_of_mapM built).mpr ⟨domain, named, by rw [domainNodes, held]; rfl⟩, by simpa using either⟩

theorem mem_models {models : List (String × Node)} (built : modelNodes genome = some models) :
    entry ∈ models ↔ (chromosome genome .persistence).isSome ∧ ∃ domain ∈ domainNames genome, ∃ storage,
      geneValue genome .persistence "baseline" = some storage ∧
      entry = nodeEntry ("dm:" ++ domain) .dataModel [("storage", .str storage)] := by
  rw [modelNodes] at built
  split at built
  next stored =>
    rw [mem_of_mapM built]
    simp only [Option.map_eq_some_iff, stored, true_and]
    grind
  next absent =>
    cases built
    simp [absent]

theorem mem_policies {policies : List (String × Node)} (built : policyNodes genome = some policies) :
    entry ∈ policies ↔ (chromosome genome .security).isSome ∧ ∃ authn,
      geneValue genome .security "baseline" = some authn ∧
      entry = nodeEntry "sec:policy" .securityPolicy [("authn", .str authn)] := by
  rw [policyNodes] at built
  split at built
  next secured =>
    obtain ⟨authn, held, rfl⟩ := Option.map_eq_some_iff.mp built
    simp [secured, held]
  next absent =>
    cases built
    simp [absent]

theorem mem_derivedNodes (found : derivedNodes table genome = some entries) (entry : String × Node) :
    entry ∈ entries ↔ DerivedNode table genome entry := by
  rw [derivedNodes] at found
  obtain ⟨services, builtServices, found⟩ := Option.bind_eq_some_iff.mp found
  obtain ⟨models, builtModels, found⟩ := Option.bind_eq_some_iff.mp found
  obtain ⟨policies, builtPolicies, found⟩ := Option.bind_eq_some_iff.mp found
  obtain rfl := Option.some.inj found
  simp only [List.mem_append]
  rw [mem_services builtServices, mem_models builtModels, mem_policies builtPolicies]
  constructor
  · rintro (((⟨domain, named, style, held, rfl | rfl⟩ | ⟨stored, domain, named, storage, held, rfl⟩) |
      ⟨secured, authn, held, rfl⟩) | joined)
    · exact .domain named
    · exact .service named held
    · exact .model named stored held
    · exact .policy secured held
    · split at joined
      next driven =>
        obtain rfl := List.mem_singleton.mp joined
        exact .event driven
      next => cases joined
  · intro derived
    cases derived with
    | @domain domain named =>
        obtain ⟨style, held⟩ := Option.isSome_iff_exists.mp (mem_domainNames.mp named)
        exact .inl (.inl (.inl ⟨domain, named, style, held, .inl rfl⟩))
    | service named held => exact .inl (.inl (.inl ⟨_, named, _, held, .inr rfl⟩))
    | model named stored held => exact .inl (.inl (.inr ⟨stored, _, named, _, held, rfl⟩))
    | policy secured held => exact .inl (.inr ⟨secured, _, held, rfl⟩)
    | event joined => exact .inr (by rw [joined]; exact List.mem_singleton_self _)

/-- The type of the node that a derived key stands for. -/
def keyType (key : String) : Option NodeType :=
  match key.toList with
  | 'd' :: 'o' :: _ => some .domain
  | 's' :: 'e' :: 'r' :: _ => some .service
  | 'd' :: 'm' :: _ => some .dataModel
  | 's' :: 'e' :: 'c' :: _ => some .securityPolicy
  | 'e' :: _ => some .event
  | _ => none

theorem DerivedNode.keyType (derived : DerivedNode table genome entry) :
    keyType entry.1 = some entry.2.type := by
  cases derived <;> simp [MaterializedGraph.keyType, nodeEntry]

/-- The node under a derived domain key belongs to a domain of the genome. -/
theorem DerivedNode.named (derived : DerivedNode table genome entry) {domain : String}
    (key : entry.1 = "domain:" ++ domain) : domain ∈ domainNames genome := by
  have type : MaterializedGraph.keyType entry.1 = some .domain := by simp [key, MaterializedGraph.keyType]
  rw [derived.keyType] at type
  cases derived with
  | domain named => rwa [← (String.append_right_inj "domain:").mp key]
  | service | model | policy | event => cases type

theorem keyType_capability (text : String) : keyType ("capability:" ++ text) = none := by simp [keyType]

theorem get_derived (found : derivedNodes table genome = some entries) {key : String} {node : Node}
    (held : get (assignAll [] entries) key = some node) : DerivedNode table genome (key, node) :=
  (mem_derivedNodes found _).mp (mem_of_get_assignAll held)

theorem derived_isSome (found : derivedNodes table genome = some entries)
    (derived : DerivedNode table genome entry) : (get (assignAll [] entries) entry.1).isSome := by
  rw [isSome_assignAll, keys, List.mem_map]
  exact ⟨entry, (mem_derivedNodes found entry).mpr derived, rfl⟩

 

/-- The requirement that a service is responsible for is a node of the revision. -/
theorem domainRequirement_node (substrate : genome.sourceGraph = graphDump isr.graph) {domain : String}
    {properties : Dict String Json} (found : domainRequirement genome domain = some properties) :
    get properties "requirement_id" = some (.str domain) ∧ ∃ entry ∈ isr.graph.nodes,
      entry.2.properties = properties := by
  have held : entriesOf (get genome.sourceGraph "nodes") =
      isr.graph.nodes.map fun entry => (entry.1, nodeDocument entry.2) := by
    rw [substrate]
    rfl
  rw [domainRequirement, held] at found
  obtain ⟨document, member, matched⟩ := List.exists_of_findSome?_eq_some found
  obtain ⟨entry, inside, rfl⟩ := List.mem_map.mp member
  dsimp only at matched
  split at matched
  next required =>
    obtain rfl := Option.some.inj matched
    exact ⟨required.2, entry, inside, rfl⟩
  next => cases matched

theorem neutral_property (admitted : ∀ entry ∈ isr.graph.nodes, Admitted table entry.2) {properties : Dict String Json}
    (held : ∃ entry ∈ isr.graph.nodes, entry.2.properties = properties) {key text : String}
    (property : get properties key = some (.str text)) : Neutral table text := by
  obtain ⟨entry, member, rfl⟩ := held
  refine ((admitted_iff entry.2).mp (admitted entry member)).2 text ?_
  exact List.mem_append_left _ (mem_mappingStrings_of_get property)

theorem serviceProperties_neutral (faithful : AsciiFaithful table)
    (substrate : genome.sourceGraph = graphDump isr.graph)
    (admitted : ∀ entry ∈ isr.graph.nodes, Admitted table entry.2) {style domain : String}
    (neutral : Neutral table style) :
    ∀ text ∈ mappingStrings (serviceProperties table genome style domain), Neutral table text := by
  have words : ∀ text ∈ ["style", "responsibility", "source_requirement_ref", "requirement_ref"],
      Neutral table text := by
    intro text member
    have plain : ∀ text ∈ ["style", "responsibility", "source_requirement_ref", "requirement_ref"],
        ascii text.toList = true ∧ Neutral asciiTable text := by decide
    exact .ofAscii faithful (plain text member).1 (plain text member).2
  have alone : ∀ text ∈ mappingStrings [("style", Json.str style)], Neutral table text := by
    simp only [mappingStrings, entryStrings, deepStrings]
    simp [neutral, words]
  intro text member
  rw [serviceProperties] at member
  split at member
  next statement held =>
    split at member
    · exact alone text member
    · obtain ⟨properties, found, stated⟩ := Option.bind_eq_some_iff.mp held
      obtain ⟨required, node⟩ := domainRequirement_node substrate found
      have domainNeutral : Neutral table domain := neutral_property admitted node required
      have statementNeutral : Neutral table statement := neutral_property admitted node stated
      have reference : Neutral table ("requirement_ref:" ++ domain) :=
        (neutral_colon faithful "requirement_ref" domain).mpr ⟨words _ (by simp), domainNeutral⟩
      simp only [mappingStrings, entryStrings, deepStrings] at member
      simp only [List.cons_append, List.nil_append, List.append_nil, List.mem_cons, List.not_mem_nil,
          or_false] at member
      rcases member with rfl | rfl | rfl | rfl | rfl | rfl
      · exact words _ (by simp)
      · exact neutral
      · exact words _ (by simp)
      · exact statementNeutral
      · exact words _ (by simp)
      · exact reference
  next => exact alone text member

/-- A derived node is admitted, unless it is labelled with a forbidden term. -/
theorem DerivedNode.admitted_iff (faithful : AsciiFaithful table) (substrate : genome.sourceGraph = graphDump isr.graph)
    (admitted : ∀ entry ∈ isr.graph.nodes, Admitted table entry.2)
    (neutral : ∀ family geneId value, geneValue genome family geneId = some value → Neutral table value)
    {entry : String × Node} (derived : DerivedNode table genome entry) :
    Admitted table entry.2 ↔ ∀ domain, entry.1 = "domain:" ++ domain → Neutral table domain := by
  have type (type : NodeType) : Neutral table type.value := neutral_nodeType faithful type
  have words : ∀ text ∈ ["label", "storage", "authn"], Neutral table text := by
    intro text member
    have plain : ∀ text ∈ ["label", "storage", "authn"], ascii text.toList = true ∧ Neutral asciiTable text := by decide
    exact .ofAscii faithful (plain text member).1 (plain text member).2
  have single (key value : String) (kind : NodeType) (word : Neutral table key) :
      (∀ text ∈ mappingStrings [(key, Json.str value)] ++ [kind.value], Neutral table text) ↔ Neutral table value := by
    simp only [mappingStrings, entryStrings, deepStrings]
    simp [word, type]
  have other (name : String) (unlike : ∀ domain, name ≠ "domain:" ++ domain) :
      (∀ domain, name = "domain:" ++ domain → Neutral table domain) ↔ True :=
    ⟨fun _ => trivial, fun _ domain same => absurd same (unlike domain)⟩
  have unlike {name : String} {kind : NodeType} (known : MaterializedGraph.keyType name = some kind)
      (different : kind ≠ .domain) (domain : String) : name ≠ "domain:" ++ domain := by
    rintro rfl
    simp only [MaterializedGraph.keyType, String.toList_append] at known
    exact different (by simpa using known.symm)
  rw [IsrAdmission.admitted_iff, References]
  cases derived with
  | @domain domain named =>
      simp only [nodeEntry, reduceCtorEq, false_implies, true_and, single "label" domain .domain (words _ (by simp))]
      constructor
      · intro holds name same
        rwa [← (String.append_right_inj "domain:").mp same]
      · exact fun holds => holds domain rfl
  | @service domain style named held =>
      simp only [nodeEntry, reduceCtorEq, false_implies, true_and]
      rw [other _ (unlike (by simp [MaterializedGraph.keyType] : _ = some NodeType.service) (by decide)), iff_true]
      intro text member
      rcases List.mem_append.mp member with property | kind
      · exact serviceProperties_neutral faithful substrate admitted (neutral _ _ _ held) text property
      · rw [List.mem_singleton.mp kind]
        exact type .service
  | @model domain storage named stored held =>
      simp only [nodeEntry, reduceCtorEq, false_implies, true_and, single "storage" storage .dataModel
          (words _ (by simp))]
      rw [other _ (unlike (by simp [MaterializedGraph.keyType] : _ = some NodeType.dataModel) (by decide)), iff_true]
      exact neutral _ _ _ held
  | @policy authn secured held =>
      simp only [nodeEntry, reduceCtorEq, false_implies, true_and, single "authn" authn .securityPolicy
          (words _ (by simp))]
      rw [other _ (unlike (by decide : _ = some NodeType.securityPolicy) (by decide)), iff_true]
      exact neutral _ _ _ held
  | event joined =>
      simp only [nodeEntry, reduceCtorEq, false_implies, true_and]
      rw [other _ (unlike (by decide : _ = some NodeType.event) (by decide)), iff_true]
      intro text member
      have named : text = NodeType.event.value := by simpa [mappingStrings, entryStrings] using member
      rw [named]
      exact type .event

variable {graph : Graph}

/-- The type of the edge that a derived key stands for. -/
def edgeKeyType (key : String) : Option EdgeType :=
  match key.toList with
  | 'p' :: 'e' :: _ => some .persists
  | 's' :: _ => some .securedBy
  | 'p' :: 'u' :: _ => some .publishes
  | 'c' :: _ => some .consumedBy
  | 'd' :: _ => some .dependsOn
  | 'i' :: _ => some .implementedBy
  | _ => none

variable {joined : Bool} {link : Edge}

theorem mem_links {domainNames : List String} (member : link ∈ links domainNames joined) :
    (∃ domain ∈ domainNames, link = persistLink domain) ∨ (∃ domain ∈ domainNames, link = securityLink domain) ∨
      (joined = true ∧ ∃ first ∈ domainNames, ∃ last ∈ domainNames, domainNames.head? = some first ∧
        domainNames.getLast? = some last ∧
        (link = { id := "pub", type := .publishes, sourceId := "service:" ++ first, targetId := "event:domain" } ∨
          link = { id := "con", type := .consumedBy, sourceId := "event:domain", targetId := "service:" ++ last })) ∨
      ∃ first second third rest, domainNames = first :: second :: third :: rest ∧
        link = { id := "dep-svc-" ++ first ++ "-" ++ third, type := .dependsOn, sourceId := "service:" ++ first,
                 targetId := "service:" ++ third } := by
  rw [links, List.mem_append, List.mem_append, List.mem_append, List.mem_map, List.mem_map] at member
  rcases member with ((⟨domain, named, rfl⟩ | ⟨domain, named, rfl⟩) | event) | dependency
  · exact .inl ⟨domain, named, rfl⟩
  · exact .inr (.inl ⟨domain, named, rfl⟩)
  · split at event
    next driven =>
      rw [eventLinks] at event
      split at event
      next first last head final =>
        refine .inr (.inr (.inl ⟨driven, first, List.mem_of_head? head, last, List.mem_of_getLast? final, head, final,
            ?_⟩))
        simpa using event
      next => cases event
    next => cases event
  · rw [dependencyLinks.eq_def] at dependency
    split at dependency
    next first second third rest =>
      exact .inr (.inr (.inr ⟨first, second, third, rest, rfl, List.mem_singleton.mp dependency⟩))
    next => cases dependency

theorem links_keyType {domainNames : List String} (member : link ∈ links domainNames joined) :
    edgeKeyType link.id = some link.type ∧ link.type ≠ .implementedBy ∧ link.type ≠ .requirementRefines := by
  rcases mem_links member with ⟨domain, named, rfl⟩ | ⟨domain, named, rfl⟩ |
    ⟨-, first, -, last, -, -, -, rfl | rfl⟩ | ⟨first, second, third, rest, -, rfl⟩
  · simp [edgeKeyType, persistLink]
  · simp [edgeKeyType, securityLink]
  · exact ⟨(by decide : edgeKeyType "pub" = some .publishes), by simp, by simp⟩
  · exact ⟨(by decide : edgeKeyType "con" = some .consumedBy), by simp, by simp⟩
  · simp [edgeKeyType]

/-- A derived key fixes its link. -/
theorem links_unique {domainNames : List String} {other : Edge}
    (member : link ∈ links domainNames joined) (inside : other ∈ links domainNames joined) (same : link.id = other.id) :
    link = other := by
  have types : link.type = other.type :=
    Option.some.inj ((links_keyType member).1.symm.trans (same ▸ (links_keyType inside).1))
  rcases mem_links member with ⟨domain, -, rfl⟩ | ⟨domain, -, rfl⟩ |
      ⟨-, first, -, last, -, head, final, rfl | rfl⟩ | ⟨first, second, third, rest, shape, rfl⟩ <;>
    rcases mem_links inside with ⟨domain', -, rfl⟩ | ⟨domain', -, rfl⟩ |
      ⟨-, first', -, last', -, head', final', rfl | rfl⟩ | ⟨first', second', third', rest', shape', rfl⟩ <;>
    try cases types
  · obtain rfl := (String.append_right_inj "persist-").mp same
    rfl
  · obtain rfl := (String.append_right_inj "sec-").mp same
    rfl
  · rw [head] at head'
    rw [Option.some.inj head']
  · rw [final] at final'
    rw [Option.some.inj final']
  · rw [shape] at shape'
    obtain ⟨rfl, rfl, rfl, -⟩ := by simpa using shape'
    rfl

def entryOf (edge : Edge) : String × Edge := (edge.id, edge)

theorem derivedEdges_eq (persistence : (chromosome genome .persistence).isSome)
    (security : (chromosome genome .security).isSome) :
    derivedEdges genome = (links (domainNames genome) (eventDriven genome)).map entryOf := by
  have events : messagingEdges genome =
      (if eventDriven genome then eventLinks (domainNames genome) else []).map entryOf := by
    rw [messagingEdges, eventLinks]
    cases eventDriven genome with
    | false => rfl
    | true => cases (domainNames genome).head? <;> cases (domainNames genome).getLast? <;> rfl
  have dependencies : dependencyEdges genome = (dependencyLinks (domainNames genome)).map entryOf := by
    rw [dependencyEdges]
    generalize domainNames genome = all
    rcases all with _ | ⟨first, _ | ⟨second, _ | ⟨third, rest⟩⟩⟩ <;> rfl
  rw [derivedEdges, links, events, dependencies, if_pos persistence, if_pos security, List.map_append, List.map_append,
    List.map_append, List.map_map, List.map_map]
  rfl

theorem get_links {domainNames : List String} (key : String) (edge : Edge) :
    get (assignAll [] ((links domainNames joined).map entryOf)) key = some edge ↔
      edge ∈ links domainNames joined ∧ edge.id = key := by
  constructor
  · intro held
    obtain ⟨link, member, same⟩ := List.mem_map.mp (mem_of_get_assignAll held)
    obtain ⟨rfl, rfl⟩ := Prod.mk.inj same
    exact ⟨member, rfl⟩
  · rintro ⟨member, rfl⟩
    have present : (get (assignAll [] ((links domainNames joined).map entryOf)) edge.id).isSome := by
      rw [isSome_assignAll, keys, List.map_map, List.mem_map]
      exact ⟨edge, member, rfl⟩
    obtain ⟨other, held⟩ := Option.isSome_iff_exists.mp present
    obtain ⟨link, inside, same⟩ := List.mem_map.mp (mem_of_get_assignAll held)
    obtain ⟨named, rfl⟩ := Prod.mk.inj same
    rw [held, links_unique inside member named]

/-- An end of a derived edge that the graph does not hold is derived, with a type that fits. -/
theorem end_typed {nodes : Dict String Node} {id : String} {types : List NodeType}
    (present : (get (setDefaults nodes (assignAll [] entries)) id).isSome)
    (fits : ∀ node, get (assignAll [] entries) id = some node → node.type ∈ types) :
    (∃ node, get (setDefaults nodes (assignAll [] entries)) id = some node ∧ node.type ∈ types) ↔
      ∀ node, get nodes id = some node → node.type ∈ types := by
  constructor
  · rintro ⟨node, held, typed⟩ other old
    rw [get_setDefaults, old] at held
    obtain rfl := Option.some.inj held
    exact typed
  · intro typed
    obtain ⟨node, held⟩ := Option.isSome_iff_exists.mp present
    refine ⟨node, held, ?_⟩
    rcases get_extended.mp held with old | ⟨-, new⟩
    · exact typed node old
    · exact fits node new

/-- A derived edge passes exactly when what the graph holds at its ends fits. -/
theorem checkEdge_iff_fits (found : derivedNodes table genome = some entries) {edge : Edge}
    (source : (get (setDefaults graph.nodes (assignAll [] entries)) edge.sourceId).isSome)
    (target : (get (setDefaults graph.nodes (assignAll [] entries)) edge.targetId).isSome)
    (sourceType : ∀ kind, keyType edge.sourceId = some kind → kind ∈ (edgeTypeCompatibility edge.type).1)
    (targetType : ∀ kind, keyType edge.targetId = some kind → kind ∈ (edgeTypeCompatibility edge.type).2) :
    checkEdge table (setDefaults graph.nodes (assignAll [] entries)) edge = .ok () ↔
      Fits graph edge ∧ ∀ text ∈ mappingStrings edge.properties ++ [edge.type.value], Unleaked table text := by
  have typed {id : String} {types : List NodeType} (known : ∀ kind, keyType id = some kind → kind ∈ types) (node : Node)
      (held : get (assignAll [] entries) id = some node) : node.type ∈ types :=
    known _ (get_derived found held).keyType
  rw [checkEdge_ok_iff, end_typed source (typed sourceType), end_typed target (typed targetType), Fits, and_assoc]
  rfl

end

section

variable {table : CharTable} {str : Json → String} {isr : Revision} {genome : Genome} {entries : List (String × Node)}

theorem derived_service_iff (found : derivedNodes table genome = some entries) (domain : String) :
    (get (assignAll [] entries) ("service:" ++ domain)).isSome ↔ domain ∈ domainNames genome := by
  constructor
  · intro present
    obtain ⟨node, held⟩ := Option.isSome_iff_exists.mp present
    have derived := get_derived found held
    generalize shape : (("service:" ++ domain, node) : String × Node) = entry at derived
    have type : keyType entry.1 = some .service := by
      rw [← shape]
      simp [keyType]
    rw [derived.keyType] at type
    cases derived with
    | service named _ =>
        have same := congrArg Prod.fst shape
        rwa [(String.append_right_inj "service:").mp same]
    | domain | model | policy | event => cases type
  · intro named
    obtain ⟨style, held⟩ := Option.isSome_iff_exists.mp (mem_domainNames.mp named)
    exact derived_isSome found (.service named held)

theorem derived_capability (found : derivedNodes table genome = some entries) (text : String) :
    get (assignAll [] entries) ("capability:" ++ text) = none := by
  cases held : get (assignAll [] entries) ("capability:" ++ text) with
  | none => rfl
  | some node =>
      have known := (get_derived found held).keyType
      rw [keyType_capability] at known
      cases known

/-- A refinement binds to what is derived as it does to a service for each domain. -/
theorem binding_eq (found : derivedNodes table genome = some entries) (same : domainNames genome = names isr.graph)
    {edge : Edge} (checked : checkEdge table isr.graph.nodes edge = .ok ()) :
    binding str (setDefaults isr.graph.nodes (assignAll [] entries)) edge = binding str
      (withServices isr.graph) edge := by
  obtain ⟨⟨source, foundSource, -⟩, ⟨target, foundTarget, -⟩, -⟩ := (checkEdge_ok_iff _ edge).mp checked
  have capability (text : String) :
      (get (setDefaults isr.graph.nodes (assignAll [] entries)) ("capability:" ++ text)).isSome =
        (get (withServices isr.graph) ("capability:" ++ text)).isSome := by
    have absent : get ((names isr.graph).map fun domain => nodeEntry ("service:" ++ domain) .service [])
        ("capability:" ++ text) = none := by
      rw [← Option.not_isSome_iff_eq_none, get_isSome_iff, keys, List.map_map, List.mem_map]
      rintro ⟨domain, -, clash⟩
      have heads := congrArg (fun key : String => key.toList.head?) clash
      simp [nodeEntry] at heads
    rw [withServices, get_setDefaults, get_setDefaults, derived_capability found, absent]
  have service (text : String) :
      (get (setDefaults isr.graph.nodes (assignAll [] entries)) ("service:" ++ text)).isSome =
        (get (withServices isr.graph) ("service:" ++ text)).isSome := by
    have known : (get (assignAll [] entries) ("service:" ++ text)).isSome =
        (get ((names isr.graph).map fun domain => nodeEntry ("service:" ++ domain) .service [])
          ("service:" ++ text)).isSome := by
      rw [Bool.eq_iff_iff, derived_service_iff found, get_isSome_iff, keys, List.map_map, List.mem_map, same]
      constructor
      · exact fun named => ⟨text, named, rfl⟩
      · rintro ⟨domain, named, clash⟩
        rwa [← (String.append_right_inj "service:").mp clash]
    rw [withServices, get_setDefaults, get_setDefaults]
    cases get isr.graph.nodes ("service:" ++ text) with
    | some node => rfl
    | none => exact known
  have kept (newNodes : Dict String Node) : get (setDefaults isr.graph.nodes newNodes) edge.sourceId = some source ∧
      get (setDefaults isr.graph.nodes newNodes) edge.targetId = some target :=
    ⟨get_extended.mpr (.inl foundSource), get_extended.mpr (.inl foundTarget)⟩
  simp only [binding, capability, service]
  rw [(kept _).1, (kept _).2, withServices, (kept _).1, (kept _).2]

/-- The shape of a bound edge. -/
theorem binding_shape {nodes : Dict String Node} {edge : Edge} {bound : String × Edge}
    (binds : binding str nodes edge = some bound) :
    ∃ text capability service, bound.1 = "implemented-by:" ++ text ∧ bound.2.id = bound.1 ∧
      bound.2.type = .implementedBy ∧ bound.2.sourceId = "capability:" ++ capability ∧
      bound.2.targetId = "service:" ++ service ∧ (get nodes bound.2.sourceId).isSome ∧
      (get nodes bound.2.targetId).isSome ∧
      bound.2.properties = [("derived_from_requirement_edge", .str edge.id),
      ("source_requirement_ref", .str edge.sourceId), ("target_requirement_ref", .str edge.targetId)] := by
  rw [binding] at binds
  split at binds
  case isFalse => cases binds
  case isTrue =>
    split at binds
    next source target =>
      dsimp only at binds
      split at binds
      case isFalse => cases binds
      case isTrue holds =>
        cases binds
        exact ⟨_, _, _, rfl, rfl, rfl, rfl, rfl, holds.2.2.1, holds.2.2.2, rfl⟩
    next => cases binds

theorem bound_texts (faithful : AsciiFaithful table) {edge : Edge} {id sourceId targetId : String}
    (type : edge.type = .implementedBy)
    (properties : edge.properties = [("derived_from_requirement_edge", .str id),
      ("source_requirement_ref", .str sourceId), ("target_requirement_ref", .str targetId)]) :
    (∀ text ∈ mappingStrings edge.properties ++ [edge.type.value], Unleaked table text) ↔
      ∀ name text, (name, Json.str text) ∈ edge.properties → Unleaked table text := by
  have words : ∀ text ∈ ["derived_from_requirement_edge", "source_requirement_ref", "target_requirement_ref",
      EdgeType.implementedBy.value], Unleaked table text := by
    intro text member
    have plain : ∀ text ∈ ["derived_from_requirement_edge", "source_requirement_ref", "target_requirement_ref",
        EdgeType.implementedBy.value], ascii text.toList = true ∧ Neutral asciiTable text := by decide
    exact (Neutral.ofAscii faithful (plain text member).1 (plain text member).2).1
  simp only [List.mem_cons, List.not_mem_nil, or_false, forall_eq_or_imp, forall_eq] at words
  rw [properties, type]
  simp only [mappingStrings, entryStrings, deepStrings, List.cons_append, List.nil_append, List.append_nil,
      List.mem_cons,
    List.not_mem_nil, or_false, forall_eq_or_imp, forall_eq, Prod.mk.injEq, Json.str, Tree.atom.injEq,
        JsonAtom.str.injEq]
  constructor
  · rintro ⟨-, first, -, second, -, third, -⟩ name text (⟨-, rfl⟩ | ⟨-, rfl⟩ | ⟨-, rfl⟩)
    · exact first
    · exact second
    · exact third
  · intro unleaked
    exact ⟨words.1, unleaked _ id (.inl ⟨rfl, rfl⟩), words.2.1, unleaked _ sourceId (.inr (.inl ⟨rfl, rfl⟩)),
        words.2.2.1, unleaked _ targetId (.inr (.inr ⟨rfl, rfl⟩)), words.2.2.2⟩

end

variable {State : Type} {rng : Random State} {table : CharTable} {str : Json → String} {isr : Revision}
    {genome : Genome}
  {entries : List (String × Node)}

/-- The node that a link ends at is derived, and its type fits. -/
theorem link_ends (found : derivedNodes table genome = some entries) (readable : Readable genome)
    (persistence : (chromosome genome .persistence).isSome) (security : (chromosome genome .security).isSome)
    {link : Edge}
    (member : link ∈ links (domainNames genome) (eventDriven genome)) :
    ((get (assignAll [] entries) link.sourceId).isSome ∧ (get (assignAll [] entries) link.targetId).isSome) ∧
      (∀ kind, keyType link.sourceId = some kind → kind ∈ (edgeTypeCompatibility link.type).1) ∧
      (∀ kind, keyType link.targetId = some kind → kind ∈ (edgeTypeCompatibility link.type).2) ∧
      link.properties = [] := by
  have service {domain : String} (named : domain ∈ domainNames genome) :
      (get (assignAll [] entries) ("service:" ++ domain)).isSome := (derived_service_iff found domain).mpr named
  have model {domain : String} (named : domain ∈ domainNames genome) :
      (get (assignAll [] entries) ("dm:" ++ domain)).isSome := by
    obtain ⟨storage, held⟩ := Option.isSome_iff_exists.mp (readable.persistence persistence)
    exact derived_isSome found (.model named persistence held)
  have policy : (get (assignAll [] entries) "sec:policy").isSome := by
    obtain ⟨authn, held⟩ := Option.isSome_iff_exists.mp (readable.security security)
    exact derived_isSome found (.policy security held)
  have serviceType (domain : String) : keyType ("service:" ++ domain) = some .service := by simp [keyType]
  have modelType (domain : String) : keyType ("dm:" ++ domain) = some .dataModel := by simp [keyType]
  have policyType : keyType "sec:policy" = some .securityPolicy := by decide
  have eventType : keyType "event:domain" = some .event := by decide
  rcases mem_links member with ⟨domain, named, rfl⟩ | ⟨domain, named, rfl⟩ |
    ⟨joined, first, firstNamed, last, lastNamed, -, -, rfl | rfl⟩ | ⟨first, second, third, rest, shape, rfl⟩
  · refine ⟨⟨service named, model named⟩, ?_, ?_, rfl⟩ <;>
      simp [persistLink, serviceType, modelType, edgeTypeCompatibility]
  · refine ⟨⟨service named, policy⟩, ?_, ?_, rfl⟩ <;>
      simp [securityLink, serviceType, policyType, edgeTypeCompatibility]
  · refine ⟨⟨service firstNamed, derived_isSome found (.event joined)⟩, ?_, ?_, rfl⟩ <;>
      simp [serviceType, eventType, edgeTypeCompatibility]
  · refine ⟨⟨derived_isSome found (.event joined), service lastNamed⟩, ?_, ?_, rfl⟩ <;>
      simp [serviceType, eventType, edgeTypeCompatibility]
  · refine ⟨⟨service (by simp [shape]), service (by simp [shape])⟩, ?_, ?_, rfl⟩ <;>
      simp [serviceType, edgeTypeCompatibility]

theorem isSome_extended {nodes newNodes : Dict String Node} {id : String} (present : (get newNodes id).isSome) :
    (get (setDefaults nodes newNodes) id).isSome := by
  rw [get_setDefaults]
  cases get nodes id with
  | none => exact present
  | some node => rfl

/-- A link is admitted exactly when what the revision holds at its ends fits. -/
theorem link_admitted_iff (faithful : AsciiFaithful table) (found : derivedNodes table genome = some entries)
    (readable : Readable genome) (persistence : (chromosome genome .persistence).isSome)
    (security : (chromosome genome .security).isSome) {link : Edge}
    (member : link ∈ links (domainNames genome) (eventDriven genome)) :
    checkEdge table (setDefaults isr.graph.nodes (assignAll [] entries)) link = .ok () ↔ Fits isr.graph link := by
  obtain ⟨⟨source, target⟩, sourceType, targetType, bare⟩ := link_ends found readable persistence security member
  rw [checkEdge_iff_fits found (isSome_extended source) (isSome_extended target) sourceType targetType, bare,
    and_iff_left_iff_imp]
  intro _ text only
  rw [List.mem_singleton.mp only]
  exact (neutral_edgeType faithful link.type).1

/-- A bound refinement is admitted exactly when what the revision holds at its ends fits and
the ids that it records are free of implementation terms. -/
theorem binding_admitted_iff (faithful : AsciiFaithful table) (found : derivedNodes table genome = some entries)
    {edge : Edge} {bound : String × Edge}
    (binds : binding str (setDefaults isr.graph.nodes (assignAll [] entries)) edge = some bound) :
    checkEdge table (setDefaults isr.graph.nodes (assignAll [] entries)) bound.2 = .ok () ↔
      Fits isr.graph bound.2 ∧ ∀ name text, (name, Json.str text) ∈ bound.2.properties → Unleaked table text := by
  obtain ⟨text, capability, service, -, -, type, sourceId, targetId, source, target, properties⟩ := binding_shape binds
  rw [checkEdge_iff_fits found source target, bound_texts faithful type properties]
  · intro kind known
    rw [sourceId, keyType_capability] at known
    cases known
  · intro kind known
    have derived : keyType ("service:" ++ service) = some .service := by simp [keyType]
    rw [targetId, derived] at known
    rw [← Option.some.inj known, type]
    decide

/-- The graph of a genome that was not refined is admitted exactly when the revision admits
what is derived from its names. -/
theorem materialized_valid_iff {schemas : Schemas} {digest : Json → String} (str : Json → String)
    (faithful : AsciiFaithful table) (created : Created table schemas digest isr)
    (derived : Derived rng (NeutralSpace table) isr false genome) :
    (∃ graph, materialize table str genome = some graph ∧ validateInvariants table graph = .ok ()) ↔
      Admits table str isr.graph (eventDriven genome) := by
  obtain ⟨entries, graph, found, materialized, nodes, edges⟩ := derived.materialized str created
  obtain ⟨persistence, security⟩ := derived_fixedChromosomes derived
  have valid := ((create_ok_iff ..).mp created.created).1
  obtain ⟨-, checked, admitted⟩ := (validateInvariants_iff isr.graph).mp valid
  have same := derived_domainNames derived
  rw [derivedEdges_eq persistence security] at edges
  have unbound (link : Edge) (member : link ∈ links (domainNames genome) (eventDriven genome)) :
      binding str graph.nodes link = none := if_neg (links_keyType member).2.2
  have refinements : ((setDefaults isr.graph.edges
      (assignAll [] ((links (domainNames genome) (eventDriven genome)).map entryOf))).map
      Prod.snd).filterMap (binding str graph.nodes) = isr.graph.edgeList.filterMap
          (binding str (withServices isr.graph)) := by
    obtain ⟨added, split, inside⟩ := setDefaults_split isr.graph.edges
      (assignAll [] ((links (domainNames genome) (eventDriven genome)).map entryOf))
    have skipped : (added.map Prod.snd).filterMap (binding str graph.nodes) = [] := by
      rw [List.filterMap_eq_nil_iff]
      intro edge member
      obtain ⟨entry, added, rfl⟩ := List.mem_map.mp member
      obtain ⟨link, linked, rfl⟩ := List.mem_map.mp (mem_of_assignAll (inside entry added))
      exact unbound link linked
    rw [split, List.map_append, List.filterMap_append, skipped, List.append_nil, nodes]
    exact List.filterMap_congr fun edge member => binding_eq found same (checked edge member)
  rw [refinements] at edges
  have bound {key : String} {edge : Edge}
      (held : get (isr.graph.edgeList.filterMap (binding str (withServices isr.graph))) key = some edge) :
      ∃ refinement, binding str (setDefaults isr.graph.nodes (assignAll [] entries)) refinement = some (key, edge) := by
    obtain ⟨refinement, member, binds⟩ := List.mem_filterMap.mp (mem_of_get held)
    exact ⟨refinement, (binding_eq found same (checked refinement member)).trans binds⟩
  have named : ∀ entry ∈ assignAll [] ((links (domainNames genome) (eventDriven genome)).map entryOf) ++
      isr.graph.edgeList.filterMap (binding str (withServices isr.graph)), entry.2.id = entry.1 := by
    intro entry member
    rcases List.mem_append.mp member with linked | refined
    · obtain ⟨link, -, rfl⟩ := List.mem_map.mp (mem_of_assignAll linked)
      rfl
    · obtain ⟨refinement, -, binds⟩ := List.mem_filterMap.mp refined
      obtain ⟨_, _, _, _, id, _⟩ := binding_shape binds
      exact id
  have apart {key : String} {edge : Edge}
      (held : get (isr.graph.edgeList.filterMap (binding str (withServices isr.graph))) key = some edge) :
      get (assignAll [] ((links (domainNames genome) (eventDriven genome)).map entryOf)) key = none := by
    cases linked : get (assignAll [] ((links (domainNames genome) (eventDriven genome)).map entryOf)) key with
    | none => rfl
    | some link =>
        obtain ⟨member, rfl⟩ := (get_links key link).mp linked
        obtain ⟨refinement, binds⟩ := bound held
        obtain ⟨text, _, _, shape, _⟩ := binding_shape binds
        have type := (links_keyType member).1
        rw [show link.id = "implemented-by:" ++ text from shape] at type
        have known : edgeKeyType ("implemented-by:" ++ text) = some .implementedBy := by simp [edgeKeyType]
        exact absurd (Option.some.inj (type.symm.trans known)) (links_keyType member).2.1
  have substrate : genome.sourceGraph = graphDump isr.graph := derived.substrate
  have neutral (family : ChromosomeFamily) (geneId value : String)
      (held : geneValue genome family geneId = some value) :
      Neutral table value := by
    obtain ⟨gene, expressed, rfl⟩ := Option.map_eq_some_iff.mp held
    exact derived_neutral faithful derived rfl expressed
  have unique : (∃ result, materialize table str genome = some result ∧ validateInvariants table result = .ok ()) ↔
      validateInvariants table graph = .ok () := by
    rw [materialized]
    simp
  rw [unique, validate_extension_iff valid nodes edges named, nodes]
  constructor
  · rintro ⟨newNodes, newEdges⟩
    refine ⟨fun domain member fresh => ?_, fun link member fresh => ?_, fun key edge held fresh => ?_⟩
    · rw [← same] at member
      obtain ⟨node, held⟩ := Option.isSome_iff_exists.mp (derived_isSome found (.domain member))
      have passes := newNodes _ node fresh held
      exact ((get_derived found held).admitted_iff faithful substrate admitted neutral).mp passes domain rfl
    · rw [← same] at member
      have linked := (get_links link.id link).mpr ⟨member, rfl⟩
      obtain ⟨unused, passes⟩ := newEdges link.id link fresh (by rw [get_append, linked]; rfl)
      exact ⟨unused, (link_admitted_iff faithful found derived.readable persistence security member).mp passes⟩
    · obtain ⟨unused, passes⟩ := newEdges key edge fresh (by rw [get_append, apart held, held]; rfl)
      obtain ⟨refinement, binds⟩ := bound held
      exact ⟨unused, (binding_admitted_iff faithful found binds).mp passes⟩
  · intro admits
    refine ⟨fun key node fresh held => ?_, fun key edge fresh held => ?_⟩
    · refine ((get_derived found held).admitted_iff faithful substrate admitted neutral).mpr fun domain shape => ?_
      have member : domain ∈ names isr.graph := same ▸ (get_derived found held).named shape
      rw [show key = "domain:" ++ domain from shape] at fresh
      exact admits.labels domain member fresh
    · rw [get_append] at held
      cases linked : get (assignAll [] ((links (domainNames genome) (eventDriven genome)).map entryOf)) key with
      | some link =>
          rw [linked] at held
          obtain rfl := Option.some.inj held
          obtain ⟨member, rfl⟩ := (get_links key link).mp linked
          obtain ⟨unused, fits⟩ := admits.links link (same ▸ member) fresh
          exact ⟨unused, (link_admitted_iff faithful found derived.readable persistence security member).mpr fits⟩
      | none =>
          rw [linked] at held
          obtain ⟨unused, fits⟩ := admits.refinements key edge held fresh
          obtain ⟨refinement, binds⟩ := bound held
          exact ⟨unused, (binding_admitted_iff faithful found binds).mpr fits⟩

/-- A capability under the key of the service that its domain would derive. -/
def clashing : Revision where
  systemId := "shop"
  revisionId := "r0"
  schemaVersion := "1.0"
  graph := {
    nodes := [("domain:billing", { id := "domain:billing", type := .domain }),
      ("service:billing", { id := "service:billing", type := .capability })]
    edges := []
    distinctEdges := List.nodup_nil }
  contentHash := ""

theorem clashing_created : Created asciiTable unbehaved (fun _ => "") clashing where
  created := rfl
  nodes := by decide
  edges := by decide

theorem clashing_constructed :
    construct clashing = some (billingGenome "bounded-context" (by decide) (graphDump clashing.graph)) := by decide

/-- The derived data model is persisted by a node that is no service. -/
theorem clashing_rejected :
    Created asciiTable unbehaved (fun _ => "") clashing ∧
      ∃ genome, Derived still (NeutralSpace asciiTable) clashing false genome ∧
        ∃ graph, materialize asciiTable (fun _ => "None") genome = some graph ∧
          validateInvariants asciiTable graph =
            .error (.sourceType "persist-billing" .persists "service:billing" .capability) :=
  ⟨clashing_created, _, .construct clashing_constructed, _, rfl, rfl⟩

theorem asciiTable_faithful : AsciiFaithful asciiTable := ⟨fun _ _ => rfl, fun _ _ _ _ => rfl⟩

theorem billing_admits : Admits asciiTable (fun _ => "None") billing.graph false := by
  have named : names billing.graph = ["billing"] := by decide
  refine ⟨fun domain member fresh => ?_, fun link member fresh => ?_, fun key edge held fresh => ?_⟩
  · rw [named] at member
    rw [List.mem_singleton.mp member] at fresh
    cases fresh
  · rw [named] at member
    refine ⟨fun edge inside => (List.not_mem_nil inside).elim, ?_⟩
    simp only [links, List.map_cons, List.map_nil, dependencyLinks, List.append_nil, List.cons_append, List.nil_append,
      List.mem_cons, List.not_mem_nil, or_false, Bool.false_eq_true, ↓reduceIte] at member
    rcases member with rfl | rfl <;> exact ⟨fun node held => (by cases held), fun node held => (by cases held)⟩
  · cases held

theorem billing_materializes :
    ∃ graph, materialize asciiTable (fun _ => "None")
        (billingGenome "bounded-context" (by decide) (graphDump billing.graph)) = some graph ∧
      validateInvariants asciiTable graph = .ok () :=
  (materialized_valid_iff (fun _ => "None") asciiTable_faithful billing_created
    (.construct billing_constructed : Derived still (NeutralSpace asciiTable) billing false _)).mpr billing_admits

end AutonomousApi.MaterializedGraph
