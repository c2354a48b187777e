import AutonomousApi.IsrGraph

/-! Genomes and the operators on them (evolution/core/genome.py, construction.py, operations.py
and refinement.py): construction from a revision, mutation within a decision space, crossover
and refinement. A genome carries the dump of the graph it was constructed from. What a random
generator returns is a parameter, so an operator is a function of the generator's state. -/

namespace AutonomousApi.EvolutionGenome

open JsonValue OrderedMap IsrGraph PythonText

inductive ChromosomeFamily where
  | architecture | persistence | security | messaging | infrastructure
  deriving DecidableEq

def ChromosomeFamily.value : ChromosomeFamily → String
  | .architecture => "architecture"
  | .persistence => "persistence"
  | .security => "security"
  | .messaging => "messaging"
  | .infrastructure => "infrastructure"

structure Gene where
  geneId : String
  decision : String
  value : String
  identified : geneId ≠ ""
  decided : decision ≠ ""
  valued : value ≠ ""
  deriving DecidableEq

/-- A gene with an empty field does not validate. -/
def Gene.of (geneId decision value : String) : Option Gene :=
  if valid : geneId ≠ "" ∧ decision ≠ "" ∧ value ≠ "" then
    some ⟨geneId, decision, value, valid.1, valid.2.1, valid.2.2⟩
  else none

structure Chromosome where
  family : ChromosomeFamily
  genes : Dict String Gene := []
  deriving DecidableEq

structure Genome where
  systemId : String
  chromosomes : Dict String Chromosome := []
  sourceGraph : Dict String Json := []
  identified : systemId ≠ ""
  deriving DecidableEq

/-- The choices for each gene id. -/
abbrev DecisionSpace := Dict String (List String)

def DecisionSpace.values (space : DecisionSpace) (geneId : String) : List String := group space geneId

/-- `graph.model_dump(mode="json")`. -/
def graphDump (graph : Graph) : Dict String Json :=
  [("nodes", .obj (graph.nodes.map fun entry => (entry.1, nodeDocument entry.2))),
    ("edges", .obj (graph.edges.map fun entry => (entry.1, edgeDocument entry.2)))]

def domains (graph : Graph) : List String :=
  (((graph.nodes.map Prod.snd).insertionSort fun left right => left.id ≤ right.id).filter
    fun node => node.type == .domain).map Node.id

/-- The id behind its first colon. -/
def domainName (domain : String) : String := String.ofList (afterColon domain.toList)

def storageGene : Gene := ⟨"baseline", "storage", "json", by decide, by decide, by decide⟩

def authnGene : Gene := ⟨"baseline", "authn", "token", by decide, by decide, by decide⟩

def protocolGene : Gene := ⟨"style", "protocol", "event-driven", by decide, by decide, by decide⟩

def decompositionGene (name : String) : Option (String × Gene) :=
  (Gene.of name "decomposition" "bounded-context").map fun gene => (name, gene)

/-- `construct`, or nothing when a model does not validate. -/
def construct (isr : Revision) : Option Genome :=
  if identified : isr.systemId ≠ "" then
    ((domains isr.graph).mapM fun domain => decompositionGene (domainName domain)).map fun genes =>
      { systemId := isr.systemId,
        chromosomes :=
          [(ChromosomeFamily.architecture.value, ⟨.architecture, assignAll [] genes⟩),
            (ChromosomeFamily.persistence.value, ⟨.persistence, [("baseline", storageGene)]⟩),
            (ChromosomeFamily.security.value, ⟨.security, [("baseline", authnGene)]⟩)] ++
          (if 2 ≤ (domains isr.graph).length then
            [(ChromosomeFamily.messaging.value, ⟨.messaging, [("style", protocolGene)]⟩)] else []),
        sourceGraph := graphDump isr.graph,
        identified }
  else none

section

/-- `random.Random`: a roll below one, and an index into a list of choices. -/
structure Random (State : Type) where
  random : State → Rat × State
  randbelow : (limit : Nat) → State → Fin (limit + 1) × State

variable {State : Type} (rng : Random State)

/-- Rebuilds a dictionary entry by entry. -/
def rebuild {Value : Type} (step : String → Value → State → Option (Value × State)) :
    Dict String Value → State → Option (Dict String Value × State)
  | [], state => some ([], state)
  | (key, value) :: rest, state =>
      match step key value state with
      | none => none
      | some (next, later) => (rebuild step rest later).map fun rebuilt => ((key, next) :: rebuilt.1, rebuilt.2)

def mutateGene (mutationRate : Rat) (space : DecisionSpace) (geneId : String) (gene : Gene) (state : State) :
    Option (Gene × State) :=
  match (space.values geneId).filter fun value => value != gene.value with
  | [] => some (gene, state)
  | first :: rest =>
      let rolled := rng.random state
      if rolled.1 < mutationRate then
        let chosen := rng.randbelow rest.length rolled.2
        (Gene.of geneId gene.decision ((first :: rest).get chosen.1)).map fun mutant => (mutant, chosen.2)
      else some (gene, rolled.2)

def mutateChromosome (mutationRate : Rat) (space : DecisionSpace) (_ : String) (chromosome : Chromosome)
    (state : State) : Option (Chromosome × State) :=
  (rebuild (mutateGene rng mutationRate space) chromosome.genes state).map fun rebuilt =>
    (⟨chromosome.family, rebuilt.1⟩, rebuilt.2)

def mutate (genome : Genome) (mutationRate : Rat) (space : DecisionSpace) (state : State) : Option (Genome × State) :=
  (rebuild (mutateChromosome rng mutationRate space) genome.chromosomes state).map fun rebuilt =>
    ({ genome with chromosomes := rebuilt.1 }, rebuilt.2)

/-- The genes of two chromosomes, each common one from either of them. -/
def crossGenes (left right : Dict String Gene) : List String → State → Dict String Gene × State
  | [], state => ([], state)
  | geneId :: rest, state =>
      match get left geneId, get right geneId with
      | some mine, some other =>
          let rolled := rng.random state
          let later := crossGenes left right rest rolled.2
          ((geneId, if rolled.1 < 1 / 2 then mine else other) :: later.1, later.2)
      | some gene, none | none, some gene =>
          let later := crossGenes left right rest state
          ((geneId, gene) :: later.1, later.2)
      | none, none => crossGenes left right rest state

def crossChromosomes (left right : Dict String Chromosome) : List String → State → Dict String Chromosome × State
  | [], state => ([], state)
  | family :: rest, state =>
      match get left family, get right family with
      | some mine, some other =>
          let crossed := crossGenes rng mine.genes other.genes (sortedSet (keys mine.genes ++ keys other.genes)) state
          let later := crossChromosomes left right rest crossed.2
          ((family, ⟨mine.family, crossed.1⟩) :: later.1, later.2)
      | some chromosome, none | none, some chromosome =>
          let later := crossChromosomes left right rest state
          ((family, chromosome) :: later.1, later.2)
      | none, none => crossChromosomes left right rest state

/-- `crossover`, or nothing when the substrates differ. A system id is not empty, so it is
always the left one that is kept. -/
def crossover (left right : Genome) (state : State) : Option (Genome × State) :=
  if pyEqual (.obj left.sourceGraph) (.obj right.sourceGraph) then
    let crossed := crossChromosomes rng left.chromosomes right.chromosomes
      (sortedSet (keys left.chromosomes ++ keys right.chromosomes)) state
    some ({ left with chromosomes := crossed.1 }, crossed.2)
  else none

end

inductive FitnessDimension where
  | modularity | simplicity | testability | securityPosture | deployability
  deriving DecidableEq

def FitnessDimension.value : FitnessDimension → String
  | .modularity => "modularity"
  | .simplicity => "simplicity"
  | .testability => "testability"
  | .securityPosture => "security_posture"
  | .deployability => "deployability"

def improvements : Dict String String :=
  [(FitnessDimension.modularity.value, "domain-driven"), (FitnessDimension.simplicity.value, "modular"),
    (FitnessDimension.testability.value, "contract-tested"), (FitnessDimension.securityPosture.value, "zero-trust"),
    (FitnessDimension.deployability.value, "containerized")]

def refineGene (weakDims : List FitnessDimension) (family geneId : String) (gene : Gene) : Option Gene :=
  if family = ChromosomeFamily.architecture.value ∧ gene.decision = "decomposition" then
    match weakDims.findSome? fun dim => get improvements dim.value with
    | some value => Gene.of geneId gene.decision value
    | none => some gene
  else some gene

def refineChromosome (weakDims : List FitnessDimension) (family : String) (chromosome : Chromosome) (_ : Unit) :
    Option (Chromosome × Unit) :=
  (rebuild (fun geneId gene _ => (refineGene weakDims family geneId gene).map fun refined => (refined, ()))
    chromosome.genes ()).map fun rebuilt => (⟨chromosome.family, rebuilt.1⟩, ())

/-- The refined genome is built from the system id and the chromosomes only. -/
def refine (genome : Genome) (weakDims : List FitnessDimension) : Option Genome :=
  (rebuild (refineChromosome weakDims) genome.chromosomes ()).map fun rebuilt =>
    { systemId := genome.systemId, chromosomes := rebuilt.1, identified := genome.identified }

end AutonomousApi.EvolutionGenome
