import AutonomousApi.GenomeMaterializer

/-! What evolution does to a genome's layout and to the substrate it carries. Every operator
keeps the chromosomes and the gene ids; mutation and crossover keep the substrate, refinement
drops it. So a materialized genome contains the revision it came from exactly when it was never
refined. -/

namespace AutonomousApi.GenomeLaws

open DataTree JsonValue OrderedMap FailFast IsrGraph PythonText EvolutionGenome GenomeMaterializer

variable {State : Type} {rng : Random State}

section

def geneAt (genome : Genome) (family geneId : String) : Option Gene :=
  (get genome.chromosomes family).bind fun chromosome => get chromosome.genes geneId

/-- The same chromosomes with the same gene ids. -/
structure SameLayout (left right : Genome) : Prop where
  families : ∀ family, (get left.chromosomes family).isSome = (get right.chromosomes family).isSome
  genes : ∀ family geneId, (geneAt left family geneId).isSome = (geneAt right family geneId).isSome

theorem SameLayout.refl (genome : Genome) : SameLayout genome genome := ⟨fun _ => rfl, fun _ _ => rfl⟩

theorem SameLayout.trans {first second third : Genome} (left : SameLayout first second)
    (right : SameLayout second third) : SameLayout first third :=
  ⟨fun family => (left.families family).trans (right.families family),
    fun family geneId => (left.genes family geneId).trans (right.genes family geneId)⟩

variable {Value : Type} {state : State} {genome : Genome}

variable {step : String → Value → State → Option (Value × State)} {dict left : Dict String Value}
variable {rebuilt : Dict String Value × State} {key : String} {right : Dict String Gene}
variable {geneIds families : List String}

/-- A rebuilt dictionary has the keys that it had. -/
theorem keys_rebuild (done : rebuild step dict state = some rebuilt) :
    keys rebuilt.1 = keys dict := by
  induction dict generalizing state rebuilt with
  | nil =>
      cases done
      rfl
  | cons entry rest ih =>
      obtain ⟨first, value⟩ := entry
      rw [rebuild] at done
      split at done
      · cases done
      next next later stepped =>
        obtain ⟨tail, tailDone, rfl⟩ := Option.map_eq_some_iff.mp done
        exact congrArg (first :: ·) (ih tailDone)

/-- Each value of a rebuilt dictionary comes from the step on the value before it. -/
theorem get_rebuild (done : rebuild step dict state = some rebuilt)
    {next : Value} (found : get rebuilt.1 key = some next) :
    ∃ value before after, get dict key = some value ∧ step key value before = some (next, after) := by
  induction dict generalizing state rebuilt with
  | nil =>
      cases done
      cases found
  | cons entry rest ih =>
      obtain ⟨first, value⟩ := entry
      rw [rebuild] at done
      split at done
      · cases done
      next next later stepped =>
        obtain ⟨tail, tailDone, rfl⟩ := Option.map_eq_some_iff.mp done
        by_cases hit : first = key
        · subst hit
          simp only [OrderedMap.get, ↓reduceIte, Option.some.injEq] at found ⊢
          exact ⟨value, state, later, rfl, found ▸ stepped⟩
        · simp only [OrderedMap.get, hit, ↓reduceIte] at found ⊢
          exact ih tailDone found

theorem isSome_of_keys {Image : Type} {right : Dict String Image}
    (same : key ∈ keys left ↔ key ∈ keys right) : (get left key).isSome = (get right key).isSome := by
  rw [Bool.eq_iff_iff, get_isSome_iff, get_isSome_iff, same]

/-- Whatever rebuilds every chromosome with its gene ids keeps the layout. -/
theorem sameLayout_of_rebuild {step : String → Chromosome → State → Option (Chromosome × State)}
    {rebuilt : Genome} {outcome : Dict String Chromosome × State}
    (done : rebuild step genome.chromosomes state = some outcome) (chromosomes : rebuilt.chromosomes = outcome.1)
    (each : ∀ family chromosome before next after, step family chromosome before = some (next, after) →
      keys next.genes = keys chromosome.genes) : SameLayout genome rebuilt := by
  have families (family : String) : (get genome.chromosomes family).isSome = (get rebuilt.chromosomes family).isSome :=
    isSome_of_keys (by rw [chromosomes, keys_rebuild done])
  refine ⟨families, fun family geneId => ?_⟩
  cases found : get rebuilt.chromosomes family with
  | none =>
      have absent : get genome.chromosomes family = none := by simpa [found] using families family
      rw [geneAt, geneAt, found, absent]
  | some next =>
      obtain ⟨chromosome, before, after, held, stepped⟩ := get_rebuild done (chromosomes ▸ found)
      rw [geneAt, geneAt, found, held]
      exact isSome_of_keys (by rw [each family chromosome before next after stepped])

theorem sameLayout_mutate {mutationRate : Rat} {space : DecisionSpace}
    {mutant : Genome × State} (mutated : mutate rng genome mutationRate space state = some mutant) :
    SameLayout genome mutant.1 := by
  obtain ⟨outcome, done, rfl⟩ := Option.map_eq_some_iff.mp mutated
  refine sameLayout_of_rebuild done rfl fun family chromosome before next after stepped => ?_
  obtain ⟨genes, rebuilt, same⟩ := Option.map_eq_some_iff.mp stepped
  obtain ⟨rfl, rfl⟩ := Prod.mk.inj same
  exact keys_rebuild rebuilt

theorem sameLayout_refine {refined : Genome} {weakDims : List FitnessDimension}
    (done : refine genome weakDims = some refined) : SameLayout genome refined := by
  obtain ⟨outcome, rebuilt, rfl⟩ := Option.map_eq_some_iff.mp done
  refine sameLayout_of_rebuild rebuilt rfl fun family chromosome before next after stepped => ?_
  obtain ⟨genes, inner, same⟩ := Option.map_eq_some_iff.mp stepped
  obtain ⟨rfl, -⟩ := Prod.mk.inj same
  exact keys_rebuild inner

/-- A crossed gene is one of the parents' genes. -/
theorem get_crossGenes {left : Dict String Gene} {geneId : String}
    {gene : Gene} (found : get (crossGenes rng left right geneIds state).1 geneId = some gene) :
    get left geneId = some gene ∨ get right geneId = some gene := by
  induction geneIds generalizing state with
  | nil => cases found
  | cons first rest ih =>
      rw [crossGenes] at found
      by_cases hit : first = geneId
      · subst hit
        cases mine : get left first with
        | none =>
            cases other : get right first with
            | none =>
                simp only [mine, other] at found
                simpa [mine, other] using ih found
            | some inherited => simpa [mine, other, OrderedMap.get] using found
        | some own =>
            cases other : get right first with
            | none => simpa [mine, other, OrderedMap.get] using found
            | some inherited =>
                simp only [mine, other, OrderedMap.get, ↓reduceIte, Option.some.injEq] at found ⊢
                split at found
                · exact .inl found
                · exact .inr found
      · cases mine : get left first <;> cases other : get right first <;>
          simp only [mine, other, OrderedMap.get, hit, ↓reduceIte] at found <;> exact ih found

theorem keys_crossGenes {left : Dict String Gene}
    (known : ∀ geneId ∈ geneIds, geneId ∈ keys left ∨ geneId ∈ keys right) :
    keys (crossGenes rng left right geneIds state).1 = geneIds := by
  induction geneIds generalizing state with
  | nil => rfl
  | cons first rest ih =>
      have later (state : State) : keys (crossGenes rng left right rest state).1 = rest :=
        ih fun geneId member => known geneId (List.mem_cons_of_mem first member)
      have present := known first List.mem_cons_self
      rw [← get_isSome_iff, ← get_isSome_iff] at present
      rw [crossGenes]
      cases mine : get left first <;> cases other : get right first <;> simp_all [keys]

theorem get_crossChromosomes {left right : Dict String Chromosome} {family : String} {crossed : Chromosome}
    (found : get (crossChromosomes rng left right families state).1 family = some crossed) :
    (get left family = some crossed ∧ get right family = none) ∨
      (get left family = none ∧ get right family = some crossed) ∨
      ∃ mine other before, get left family = some mine ∧ get right family = some other ∧
        crossed.genes = (crossGenes rng mine.genes other.genes
        (sortedSet (keys mine.genes ++ keys other.genes)) before).1 := by
  induction families generalizing state with
  | nil => cases found
  | cons first rest ih =>
      rw [crossChromosomes] at found
      by_cases hit : first = family
      · subst hit
        cases mine : get left first with
        | none =>
            cases other : get right first with
            | none =>
                simp only [mine, other] at found
                simpa [mine, other] using ih found
            | some inherited => simpa [mine, other, OrderedMap.get] using found
        | some own =>
            cases other : get right first with
            | none => simpa [mine, other, OrderedMap.get] using found
            | some inherited =>
                simp only [mine, other, OrderedMap.get, ↓reduceIte, Option.some.injEq] at found
                subst found
                exact .inr (.inr ⟨own, inherited, state, rfl, rfl, rfl⟩)
      · cases mine : get left first <;> cases other : get right first <;>
          simp only [mine, other, OrderedMap.get, hit, ↓reduceIte] at found <;> exact ih found

theorem keys_crossChromosomes {left right : Dict String Chromosome}
    (known : ∀ family ∈ families, family ∈ keys left ∨ family ∈ keys right) :
    keys (crossChromosomes rng left right families state).1 = families := by
  induction families generalizing state with
  | nil => rfl
  | cons first rest ih =>
      have later (state : State) : keys (crossChromosomes rng left right rest state).1 = rest :=
        ih fun family member => known family (List.mem_cons_of_mem first member)
      have present := known first List.mem_cons_self
      rw [← get_isSome_iff, ← get_isSome_iff] at present
      rw [crossChromosomes]
      cases mine : get left first <;> cases other : get right first <;> simp_all [keys]

theorem mem_sortedKeys {right : Dict String Value} :
    ∀ key ∈ sortedSet (keys left ++ keys right), key ∈ keys left ∨ key ∈ keys right := by
  intro key member
  rwa [mem_sortedSet, List.mem_append] at member

/-- Crossing genomes of one layout keeps it. -/
theorem sameLayout_crossover {left right : Genome} (same : SameLayout left right)
    {child : Genome × State} (crossed : crossover rng left right state = some child) : SameLayout left child.1 := by
  rw [crossover] at crossed
  split at crossed
  case isFalse => cases crossed
  case isTrue =>
    cases crossed
    have families (family : String) : (get left.chromosomes family).isSome =
        (get (crossChromosomes rng left.chromosomes right.chromosomes
          (sortedSet (keys left.chromosomes ++ keys right.chromosomes)) state).1 family).isSome := by
      refine isSome_of_keys ?_
      have shared := same.families family
      rw [Bool.eq_iff_iff, get_isSome_iff, get_isSome_iff] at shared
      rw [keys_crossChromosomes mem_sortedKeys, mem_sortedSet, List.mem_append, ← shared, or_self]
    refine ⟨families, fun family geneId => ?_⟩
    have shared := same.genes family geneId
    rw [geneAt, geneAt] at shared ⊢
    cases found : get (crossChromosomes rng left.chromosomes right.chromosomes
        (sortedSet (keys left.chromosomes ++ keys right.chromosomes)) state).1 family with
    | none =>
        have absent : get left.chromosomes family = none := by simpa [found] using families family
        rw [absent]
    | some chromosome =>
        have paired := same.families family
        rcases get_crossChromosomes found with ⟨mine, other⟩ | ⟨mine, other⟩ | ⟨own, inherited, before, mine, other,
            genes⟩
        · rw [mine]
        · simp [mine, other] at paired
        · rw [mine, other] at shared
          rw [mine]
          refine isSome_of_keys ?_
          rw [Option.bind_some, Option.bind_some, Bool.eq_iff_iff, get_isSome_iff, get_isSome_iff] at shared
          rw [genes, keys_crossGenes mem_sortedKeys, mem_sortedSet, List.mem_append, ← shared, or_self]

end

section

/-- Genomes obtained from a revision; the flag says whether a refinement was among the steps. -/
inductive Derived (rng : Random State) (allowed : DecisionSpace → Prop) (isr : Revision) : Bool → Genome → Prop where
  | construct {genome : Genome} (constructed : construct isr = some genome) : Derived rng allowed isr false genome
  | mutate {refined : Bool} {genome : Genome} (earlier : Derived rng allowed isr refined genome) (mutationRate : Rat)
      (space : DecisionSpace) (permitted : allowed space) (state : State) {mutant : Genome × State}
      (mutated : mutate rng genome mutationRate space state = some mutant) : Derived rng allowed isr refined mutant.1
  | crossover {refined refined' : Bool} {left right : Genome} (first : Derived rng allowed isr refined left)
      (second : Derived rng allowed isr refined' right) (state : State) {child : Genome × State}
      (crossed : crossover rng left right state = some child) : Derived rng allowed isr (refined || refined') child.1
  | refine {refined : Bool} {genome result : Genome} (earlier : Derived rng allowed isr refined genome)
      (weakDims : List FitnessDimension) (done : refine genome weakDims = some result) :
      Derived rng allowed isr true result

variable {allowed : DecisionSpace → Prop} {isr : Revision} {refined : Bool} {genome : Genome}

theorem Derived.layout (derived : Derived rng allowed isr refined genome) :
    ∃ start, EvolutionGenome.construct isr = some start ∧ SameLayout start genome := by
  induction derived with
  | construct constructed => exact ⟨_, constructed, .refl _⟩
  | mutate earlier mutationRate space permitted state mutated ih =>
      obtain ⟨start, constructed, same⟩ := ih
      exact ⟨start, constructed, same.trans (sameLayout_mutate mutated)⟩
  | crossover first second state crossed ih ih' =>
      obtain ⟨start, constructed, same⟩ := ih
      obtain ⟨start', constructed', same'⟩ := ih'
      obtain rfl := Option.some.inj (constructed.symm.trans constructed')
      have paired : SameLayout _ _ := SameLayout.trans ⟨fun family => (same.families family).symm,
        fun family geneId => (same.genes family geneId).symm⟩ same'
      exact ⟨start, constructed, same.trans (sameLayout_crossover paired crossed)⟩
  | refine earlier weakDims done ih =>
      obtain ⟨start, constructed, same⟩ := ih
      exact ⟨start, constructed, same.trans (sameLayout_refine done)⟩

theorem graphDump_ne_empty (graph : Graph) : pyEqual (.obj (graphDump graph)) (.obj []) = false := by
  rw [pyEqual, decide_eq_false_iff_not]
  intro same
  simp only [pyView, mapAtoms, sortKeys, Tree.dict.injEq] at same
  have sizes := congrArg List.length same
  rw [List.length_insertionSort, List.length_insertionSort] at sizes
  simp [graphDump, mapEntries, sortEntries] at sizes

/-- The substrate is the dump of the revision's graph until a refinement drops it. -/
theorem Derived.substrate (derived : Derived rng allowed isr refined genome) :
    genome.sourceGraph = if refined then [] else graphDump isr.graph := by
  induction derived with
  | construct constructed =>
      rw [EvolutionGenome.construct] at constructed
      split at constructed
      · obtain ⟨genes, -, rfl⟩ := Option.map_eq_some_iff.mp constructed
        rfl
      · cases constructed
  | mutate earlier mutationRate space permitted state mutated ih =>
      obtain ⟨outcome, -, rfl⟩ := Option.map_eq_some_iff.mp mutated
      exact ih
  | @crossover dropped dropped' left right first second state child crossed ih ih' =>
      rw [EvolutionGenome.crossover] at crossed
      split at crossed
      case isFalse => cases crossed
      case isTrue agreed =>
        cases crossed
        change left.sourceGraph = _
        cases dropped with
        | true => exact ih
        | false =>
            cases dropped' with
            | false => exact ih
            | true =>
                -- a genome with its substrate does not cross with a refined one
                rw [ih, ih'] at agreed
                exact absurd agreed (by simp [graphDump_ne_empty])
  | refine earlier weakDims done ih =>
      obtain ⟨outcome, -, rfl⟩ := Option.map_eq_some_iff.mp done
      rfl

end

variable {table : CharTable} {str : Json → String}

/-- Each chromosome that the materializer reads a fixed gene of has that gene. -/
structure Readable (genome : Genome) : Prop where
  persistence : (chromosome genome .persistence).isSome → (geneValue genome .persistence "baseline").isSome
  security : (chromosome genome .security).isSome → (geneValue genome .security "baseline").isSome

theorem geneValue_isSome (genome : Genome) (family : ChromosomeFamily) (geneId : String) :
    (geneValue genome family geneId).isSome = (geneAt genome family.value geneId).isSome := Option.isSome_map

theorem Derived.readable (derived : Derived rng allowed isr refined genome) : Readable genome := by
  obtain ⟨start, constructed, same⟩ := derived.layout
  have baseline : (geneAt start "persistence" "baseline").isSome ∧ (geneAt start "security" "baseline").isSome := by
    rw [EvolutionGenome.construct] at constructed
    split at constructed
    · obtain ⟨genes, -, rfl⟩ := Option.map_eq_some_iff.mp constructed
      exact ⟨rfl, rfl⟩
    · cases constructed
  refine ⟨fun _ => ?_, fun _ => ?_⟩
  · rw [geneValue_isSome, ChromosomeFamily.value, ← same.genes]
    exact baseline.1
  · rw [geneValue_isSome, ChromosomeFamily.value, ← same.genes]
    exact baseline.2

theorem mem_domainNames {genome : Genome} {domain : String} :
    domain ∈ domainNames genome ↔ (geneValue genome .architecture domain).isSome := by
  rw [domainNames, geneValue, Option.isSome_map]
  cases chromosome genome .architecture with
  | none => simp
  | some arch => rw [mem_sortedSet, Option.bind_some, get_isSome_iff]

theorem derivedNodes_isSome (readable : Readable genome) : (derivedNodes table genome).isSome := by
  have services : ((domainNames genome).mapM (domainNodes table genome)).isSome :=
    mapM_isSome fun domain member => by
      rw [domainNodes, Option.isSome_map]
      exact mem_domainNames.mp member
  have models : (modelNodes genome).isSome := by
    rw [modelNodes]
    split
    next present => exact mapM_isSome fun domain _ => by rw [Option.isSome_map]; exact readable.persistence present
    next => rfl
  have policies : (policyNodes genome).isSome := by
    rw [policyNodes]
    split
    next present => rw [Option.isSome_map]; exact readable.security present
    next => rfl
  obtain ⟨services, foundServices⟩ := Option.isSome_iff_exists.mp services
  obtain ⟨models, foundModels⟩ := Option.isSome_iff_exists.mp models
  obtain ⟨policies, foundPolicies⟩ := Option.isSome_iff_exists.mp policies
  simp [derivedNodes, foundServices, foundModels, foundPolicies]

theorem nodeType_read (type : NodeType) : (nodeTypes.find? fun other => other.value == type.value) = some type := by
  cases type <;> decide

theorem edgeType_read (type : EdgeType) : (edgeTypes.find? fun other => other.value == type.value) = some type := by
  cases type <;> decide

theorem nodeType_named (type : NodeType) : type.value ≠ "" := by cases type <;> decide

theorem edgeType_named (type : EdgeType) : type.value ≠ "" := by cases type <;> decide

theorem readNode_nodeDocument {node : Node} (named : node.id ≠ "") : readNode (nodeDocument node) = some node := by
  simp [readNode, nodeDocument, readName, readProperties, OrderedMap.get, named, nodeType_named, nodeType_read]

theorem readEdge_edgeDocument {edge : Edge} (named : edge.id ≠ "") (source : edge.sourceId ≠ "")
    (target : edge.targetId ≠ "") : readEdge (edgeDocument edge) = some edge := by
  simp [readEdge, edgeDocument, readName, readProperties, OrderedMap.get, named, source, target, edgeType_named,
    edgeType_read]

theorem readEntries_dump {Value : Type} (read : Json → Option Value) (dump : Value → Json) {entries : Dict String Value}
    (each : ∀ entry ∈ entries, read (dump entry.2) = some entry.2) :
    readEntries read (entries.map fun entry => (entry.1, dump entry.2)) = some entries := by
  rw [readEntries]
  induction entries with
  | nil => rfl
  | cons entry rest ih =>
      rw [List.map_cons, List.mapM_cons, ih fun other member => each other (List.mem_cons_of_mem entry member),
        each entry List.mem_cons_self]
      rfl

/-- What the class of a revision and its `create` promise: ids are not empty, and the graph
passes the checks. -/
structure Created (table : CharTable) (schemas : Schemas) (digest : Json → String) (isr : Revision) : Prop where
  created : create table schemas digest isr.systemId isr.revisionId isr.schemaVersion isr.graph = .ok isr
  nodes : ∀ entry ∈ isr.graph.nodes, entry.2.id ≠ ""
  edges : ∀ entry ∈ isr.graph.edges, entry.2.id ≠ "" ∧ entry.2.sourceId ≠ "" ∧ entry.2.targetId ≠ ""

variable {schemas : Schemas} {digest : Json → String}

variable (str) in
/-- The parts of the materialized graph of a genome that was not refined: what is derived
fills the gaps of the revision's graph. -/
theorem Derived.materialized (derived : Derived rng allowed isr false genome)
    (created : Created table schemas digest isr) :
    ∃ entries graph, derivedNodes table genome = some entries ∧ materialize table str genome = some graph ∧
      graph.nodes = setDefaults isr.graph.nodes (assignAll [] entries) ∧
      graph.edges = setDefaults isr.graph.edges (assignAll [] (derivedEdges genome) ++
        ((setDefaults isr.graph.edges (assignAll [] (derivedEdges genome))).map Prod.snd).filterMap
          (binding str graph.nodes)) := by
  have complete : (derivedNodes table genome).isSome := derivedNodes_isSome derived.readable
  obtain ⟨entries, found⟩ := Option.isSome_iff_exists.mp complete
  have substrate : genome.sourceGraph = graphDump isr.graph := derived.substrate
  have nodes := readEntries_dump readNode nodeDocument fun entry member => readNode_nodeDocument
      (created.nodes entry member)
  have edges := readEntries_dump readEdge edgeDocument fun entry member =>
    readEdge_edgeDocument (created.edges entry member).1 (created.edges entry member).2.1
        (created.edges entry member).2.2
  have distinct := assignAll_distinct _ isr.graph.distinctNodes
  have distinctEdges := assignAll_distinct _ isr.graph.distinctEdges
  have held : get (graphDump isr.graph) "nodes" = some
      (.obj (isr.graph.nodes.map fun entry => (entry.1, nodeDocument entry.2))) ∧
      get (graphDump isr.graph) "edges" = some
      (.obj (isr.graph.edges.map fun entry => (entry.1, edgeDocument entry.2))) :=
    ⟨rfl, rfl⟩
  refine ⟨entries, ?_⟩
  rw [materialize, found, substrate, Option.bind_eq_bind, Option.bind_some, if_neg (by simp [graphDump]), held.1,
      held.2]
  simp only [nodes, edges, Option.bind_eq_bind, Option.bind_some]
  refine ⟨_, trivial, rfl, ?_, ?_⟩
  · simp only [distinct]
  · simp only [distinct, distinctEdges, setDefaults_append]

/-- The graph holds every node and every edge of the other one under its key. -/
def Contains (graph other : Graph) : Prop :=
  (∀ key node, get other.nodes key = some node → get graph.nodes key = some node) ∧
    ∀ key edge, get other.edges key = some edge → get graph.edges key = some edge

/-- A revision's graph survives evolution exactly where no step was a refinement. -/
theorem substrate_survives_iff (str : Json → String) (created : Created table schemas digest isr)
    (derived : Derived rng allowed isr refined genome) :
    (genome.sourceGraph = graphDump isr.graph ∧
      ∃ graph, materialize table str genome = some graph ∧ Contains graph isr.graph) ↔ refined = false := by
  constructor
  · rintro ⟨kept, -⟩
    cases refined with
    | false => rfl
    | true =>
        have dropped := derived.substrate
        rw [if_pos rfl, kept] at dropped
        cases dropped
  · rintro rfl
    obtain ⟨entries, graph, -, materialized, nodes, edges⟩ := derived.materialized str created
    refine ⟨derived.substrate, graph, materialized, fun key node held => ?_, fun key edge held => ?_⟩
    · rw [nodes, get_setDefaults, held]
      rfl
    · rw [edges, get_setDefaults, held]
      rfl

/-- A domain that is contained nowhere and the reference to a requirement. -/
def billingGraph : Graph where
  nodes := [("domain:billing", { id := "domain:billing", type := .domain }),
    ("requirement_ref:r1",
      { id := "requirement_ref:r1", type := .requirementRef, properties := [("ref_id", .str "r1")] })]
  edges := []
  distinctEdges := List.nodup_nil

def unbehaved : Schemas := ⟨fun _ _ => none, fun _ => "None"⟩

def billing : Revision where
  systemId := "shop"
  revisionId := "r0"
  schemaVersion := "1.0"
  graph := billingGraph
  contentHash := ""

theorem billing_created : Created asciiTable unbehaved (fun _ => "") billing where
  created := rfl
  nodes := by decide
  edges := by decide

/-- A generator that always rolls zero. -/
def still : Random Unit := ⟨fun state => (0, state), fun _ state => (0, state)⟩

def billingGene (value : String) (valued : value ≠ "") : Gene :=
  ⟨"billing", "decomposition", value, by decide, by decide, valued⟩

def billingGenome (value : String) (valued : value ≠ "") (sourceGraph : Dict String Json) : Genome where
  systemId := "shop"
  chromosomes := [("architecture", ⟨.architecture, [("billing", billingGene value valued)]⟩),
    ("persistence", ⟨.persistence, [("baseline", storageGene)]⟩), ("security", ⟨.security, [("baseline", authnGene)]⟩)]
  sourceGraph
  identified := by decide

theorem billing_constructed :
    construct billing = some (billingGenome "bounded-context" (by decide) (graphDump billingGraph)) := by decide

theorem billing_refined :
    refine (billingGenome "bounded-context" (by decide) (graphDump billingGraph)) [.modularity] =
      some (billingGenome "domain-driven" (by decide) []) := by decide

/-- One refinement, and the materialized graph has lost the requirement. -/
theorem refined_requirement_lost :
    Created asciiTable unbehaved (fun _ => "") billing ∧
      ∃ genome, Derived still (fun _ => True) billing true genome ∧ genome.sourceGraph = [] ∧
        ∃ graph, materialize asciiTable (fun _ => "None") genome = some graph ∧
          get billing.graph.nodes "requirement_ref:r1" ≠ none ∧ get graph.nodes "requirement_ref:r1" = none := by
  refine ⟨billing_created, _, .refine (.construct billing_constructed) [.modularity] billing_refined, rfl, _, rfl, ?_,
      ?_⟩
  · decide
  · decide

theorem constructed_substrate_survives :
    (billingGenome "bounded-context" (by decide) (graphDump billingGraph)).sourceGraph = graphDump billing.graph ∧
      ∃ graph, materialize asciiTable (fun _ => "None")
        (billingGenome "bounded-context" (by decide) (graphDump billingGraph)) = some graph ∧
          Contains graph billing.graph :=
  (substrate_survives_iff (fun _ => "None") billing_created
    (.construct billing_constructed : Derived still (fun _ => True) billing false _)).mpr rfl

end AutonomousApi.GenomeLaws
