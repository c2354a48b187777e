import AutonomousApi.EvolutionLedger
import Mathlib.Algebra.Order.Floor.Div

/-! Compiling a prompt under a token budget (application/intelligence/prompt_compiler.py, context_budgeter.py and
tokenizing.py). Each section is counted for itself, rounded up; the woven text also has headers and separators, and it
is held against the total without the output reserve. -/

namespace AutonomousApi.PromptCompilation

open OrderedMap JsonValue
open EvolutionLedger (Hashing canonicalHash)

section

inductive ContextKind where
  | requirement | capability | service | dataModel | securityPosture | operationalPolicy | testingPolicy
  | documentationPolicy | evidence | constraint | example_

def ContextKind.value : ContextKind → String
  | .requirement => "requirement"
  | .capability => "capability"
  | .service => "service"
  | .dataModel => "data_model"
  | .securityPosture => "security_posture"
  | .operationalPolicy => "operational_policy"
  | .testingPolicy => "testing_policy"
  | .documentationPolicy => "documentation_policy"
  | .evidence => "evidence"
  | .constraint => "constraint"
  | .example_ => "example"

inductive Priority where
  | must | should | could
  deriving DecidableEq

def Priority.value : Priority → String
  | .must => "must"
  | .should => "should"
  | .could => "could"

structure ContextNode where
  nodeId : String
  kind : ContextKind
  priority : Priority := .should
  title : String := ""
  payload : List (String × Json) := []

inductive TaskKind where
  | extraction | synthesis | classification | diagnosis | evaluation | translation

def TaskKind.value : TaskKind → String
  | .extraction => "extraction"
  | .synthesis => "synthesis"
  | .classification => "classification"
  | .diagnosis => "diagnosis"
  | .evaluation => "evaluation"
  | .translation => "translation"

structure ContextGraph where
  graphId : String
  taskKind : TaskKind
  subjectRef : Option String := none
  nodes : List ContextNode := []
  uniqueNodeIds : (nodes.map ContextNode.nodeId).Nodup

structure TokenBudget where
  totalTokens : Nat
  outputReserveTokens : Nat
  instructionReserveTokens : Nat
  schemaReserveTokens : Nat
  reservesFit : outputReserveTokens + instructionReserveTokens + schemaReserveTokens < totalTokens

def TokenBudget.contextPoolTokens (budget : TokenBudget) : Nat :=
  budget.totalTokens - budget.outputReserveTokens - budget.instructionReserveTokens - budget.schemaReserveTokens

structure TaskInstruction where
  role : String
  objective : String
  constraints : List String := []
  outputSchemaId : String
  outputSchemaSummary : String := ""

structure CharRatioEstimator where
  ratio : Nat := 4
  positive : 1 ≤ ratio

variable (hashing : Hashing)

def ContextNode.render (node : ContextNode) : String :=
  let header := "### [" ++ node.kind.value ++ ":" ++ node.priority.value ++ "] " ++
    (if node.title = "" then node.nodeId else node.title)
  header ++ "\n" ++ String.ofList (JsonText.dumps hashing.numbers (.dict node.payload))

def ContextNode.dump (node : ContextNode) : Json :=
  .dict [("node_id", Json.str node.nodeId), ("kind", Json.str node.kind.value),
    ("priority", Json.str node.priority.value), ("title", Json.str node.title), ("payload", .dict node.payload)]

def ContextGraph.contentHash (graph : ContextGraph) : String :=
  canonicalHash hashing (.dict [("task_kind", Json.str graph.taskKind.value),
    ("subject_ref", graph.subjectRef.elim Json.null Json.str), ("nodes", .list (graph.nodes.map ContextNode.dump))])

def TaskInstruction.render (instruction : TaskInstruction) : String :=
  "\n".intercalate (["ROLE: " ++ instruction.role, "OBJECTIVE: " ++ instruction.objective] ++
    (if instruction.constraints.isEmpty then []
      else "CONSTRAINTS:" :: instruction.constraints.map fun constraint => "- " ++ constraint) ++
    ["Respond ONLY with JSON conforming to output schema '" ++ instruction.outputSchemaId ++ "'."])

def TaskInstruction.renderSchemaBlock (instruction : TaskInstruction) : String :=
  "\n".intercalate (["OUTPUT SCHEMA: " ++ instruction.outputSchemaId] ++
    (if instruction.outputSchemaSummary = "" then [] else [instruction.outputSchemaSummary]))

/-- The quotient of two integers below 2^53 is rounded up exactly. -/
def CharRatioEstimator.count (estimator : CharRatioEstimator) (text : String) : Nat :=
  if text = "" then 0 else max 1 (text.length ⌈/⌉ estimator.ratio)

inductive CompileError where
  | mustContextOverflow (nodeId : String) (required available : Nat)
  | instructionOverflow (required reserve : Nat)
  | schemaOverflow (required reserve : Nat)
  | contextBudgetOverflow (actual limit : Nat)

def CompileError.message : CompileError → String
  | .mustContextOverflow nodeId required available =>
      "MUST context node '" ++ nodeId ++ "' requires " ++ toString required ++ " tokens but only " ++
        toString available ++ " remain in the context pool"
  | .instructionOverflow required reserve =>
      "instruction requires " ++ toString required ++ " tokens; reserve is " ++ toString reserve
  | .schemaOverflow required reserve =>
      "schema block requires " ++ toString required ++ " tokens; reserve is " ++ toString reserve
  | .contextBudgetOverflow actual limit =>
      "compiled prompt needs " ++ toString actual ++ " tokens; budget is " ++ toString limit

structure BudgetPlanning where
  includedNodeIds : List String := []
  droppedNodeIds : List String := []
  sectionTokens : Dict String Nat := []
  contextTokensUsed : Nat := 0

def BudgetPlanning.cost (planning : BudgetPlanning) (node : ContextNode) : Nat :=
  (get planning.sectionTokens node.nodeId).getD 0

def BudgetPlanning.taking (planning : BudgetPlanning) (node : ContextNode) : BudgetPlanning :=
  { planning with includedNodeIds := planning.includedNodeIds ++ [node.nodeId]
                  contextTokensUsed := planning.contextTokensUsed + planning.cost node }

def takeMust (poolTokens : Nat) (planning : BudgetPlanning) : List ContextNode → Except CompileError BudgetPlanning
  | [] => .ok planning
  | node :: rest =>
      if planning.contextTokensUsed + planning.cost node > poolTokens then
        .error (.mustContextOverflow node.nodeId (planning.cost node) (poolTokens - planning.contextTokensUsed))
      else takeMust poolTokens (planning.taking node) rest

def takeFitting (poolTokens : Nat) (planning : BudgetPlanning) : List ContextNode → BudgetPlanning
  | [] => planning
  | node :: rest =>
      if planning.contextTokensUsed + planning.cost node ≤ poolTokens then
        takeFitting poolTokens (planning.taking node) rest
      else
        takeFitting poolTokens { planning with droppedNodeIds := planning.droppedNodeIds ++ [node.nodeId] } rest

variable (tokenizer : CharRatioEstimator)

def tokens (node : ContextNode) : Nat := tokenizer.count (node.render hashing)

def planContextSelection (nodes : List ContextNode) (poolTokens : Nat) : Except CompileError BudgetPlanning := do
  let renderedTokens := assignAll [] (nodes.map fun node => (node.nodeId, tokens hashing tokenizer node))
  let planning ← takeMust poolTokens { sectionTokens := renderedTokens }
    (nodes.filter fun node => node.priority = .must)
  return [Priority.should, Priority.could].foldl (fun planning priority =>
    takeFitting poolTokens planning (nodes.filter fun node => node.priority = priority)) planning

structure CompiledPrompt where
  prompt : String
  graphId : String
  graphHash : String
  promptHash : String
  budget : TokenBudget
  tokenizerName : String
  instructionTokens : Nat
  schemaTokens : Nat
  contextTokens : Nat
  totalTokens : Nat
  includedNodeIds : List String
  droppedNodeIds : List String

/-- The text of the selected nodes, in the order of the graph. -/
def contextText (graph : ContextGraph) (included : List String) : String :=
  "\n\n".intercalate ((graph.nodes.filter fun node => node.nodeId ∈ included).map (ContextNode.render hashing))

/-- An empty context adds no part, and no character. -/
def weave (instruction : TaskInstruction) (context : String) : String :=
  instruction.render ++ "\n## CONTEXT\n" ++ context ++ "\n\n## OUTPUT SCHEMA\n" ++ instruction.renderSchemaBlock

def compile (graph : ContextGraph) (budget : TokenBudget) (instruction : TaskInstruction) :
    Except CompileError CompiledPrompt :=
  let instructionTokens := tokenizer.count instruction.render
  let schemaTokens := tokenizer.count instruction.renderSchemaBlock
  if instructionTokens > budget.instructionReserveTokens then
    .error (.instructionOverflow instructionTokens budget.instructionReserveTokens)
  else if schemaTokens > budget.schemaReserveTokens then
    .error (.schemaOverflow schemaTokens budget.schemaReserveTokens)
  else
    match planContextSelection hashing tokenizer graph.nodes budget.contextPoolTokens with
    | .error error => .error error
    | .ok planning =>
        let context := contextText hashing graph planning.includedNodeIds
        let prompt := weave instruction context
        let totalTokens := tokenizer.count prompt
        if totalTokens > budget.totalTokens then .error (.contextBudgetOverflow totalTokens budget.totalTokens)
        else
          .ok { prompt, graphId := graph.graphId, graphHash := graph.contentHash hashing
                promptHash := canonicalHash hashing (Json.str prompt), budget, tokenizerName := "char_ratio_4"
                instructionTokens, schemaTokens, contextTokens := tokenizer.count context, totalTokens
                includedNodeIds := planning.includedNodeIds, droppedNodeIds := planning.droppedNodeIds }

end

section

variable {Item : Type} (cost : Item → Nat) (pool : Nat)

/-- The items that are taken in order while they fit, beside what is used already. -/
def taken (used : Nat) : List Item → List Item
  | [] => []
  | item :: rest => if used + cost item ≤ pool then item :: taken (used + cost item) rest else taken used rest

def left (used : Nat) : List Item → List Item
  | [] => []
  | item :: rest => if used + cost item ≤ pool then left (used + cost item) rest else item :: left used rest

def total (items : List Item) : Nat := (items.map cost).sum

variable {cost pool}

attribute [local simp] taken left

theorem total_cons (item : Item) (items : List Item) : total cost (item :: items) = cost item + total cost items := by
  rw [total, List.map_cons, List.sum_cons, total]

variable (used : Nat)

theorem taken_append (items more : List Item) :
    taken cost pool used (items ++ more) =
      taken cost pool used items ++ taken cost pool (used + total cost (taken cost pool used items)) more := by
  induction items generalizing used with
  | nil => simp [total]
  | cons item rest ih =>
      by_cases fits : used + cost item ≤ pool
      · simp [fits, ih, total_cons, Nat.add_assoc]
      · simp [fits, ih]

theorem left_append (items more : List Item) :
    left cost pool used (items ++ more) =
      left cost pool used items ++ left cost pool (used + total cost (taken cost pool used items)) more := by
  induction items generalizing used with
  | nil => simp [total]
  | cons item rest ih =>
      by_cases fits : used + cost item ≤ pool
      · simp [fits, ih, total_cons, Nat.add_assoc]
      · simp [fits, ih]

theorem taken_left_perm (items : List Item) :
    (taken cost pool used items ++ left cost pool used items).Perm items := by
  induction items generalizing used with
  | nil => simp
  | cons item rest ih =>
      by_cases fits : used + cost item ≤ pool
      · simpa [fits] using (ih (used + cost item)).cons item
      · simpa [fits] using List.perm_middle.trans ((ih used).cons item)

theorem taken_sublist (items : List Item) : (taken cost pool used items).Sublist items := by
  induction items generalizing used with
  | nil => simp
  | cons item rest ih =>
      by_cases fits : used + cost item ≤ pool
      · simpa [fits] using ih (used + cost item)
      · simpa [fits] using (ih used).cons item

/-- Items that fit together are all taken. -/
theorem taken_all (items : List Item) (fits : used + total cost items ≤ pool) :
    taken cost pool used items = items ∧ left cost pool used items = [] := by
  induction items generalizing used with
  | nil => simp
  | cons item rest ih =>
      rw [total_cons] at fits
      have here : used + cost item ≤ pool := by omega
      simpa [here] using ih (used + cost item) (by omega)

end

section

variable {planning : BudgetPlanning} {poolTokens : Nat} {cost : ContextNode → Nat} {nodes : List ContextNode}

theorem cost_taking (counted : ∀ other ∈ nodes, planning.cost other = cost other) (node : ContextNode) :
    ∀ other ∈ nodes, (planning.taking node).cost other = cost other := counted

theorem takeFitting_eq (counted : ∀ node ∈ nodes, planning.cost node = cost node) :
    takeFitting poolTokens planning nodes =
      { planning with
        includedNodeIds := planning.includedNodeIds ++
          (taken cost poolTokens planning.contextTokensUsed nodes).map ContextNode.nodeId
        droppedNodeIds := planning.droppedNodeIds ++
          (left cost poolTokens planning.contextTokensUsed nodes).map ContextNode.nodeId
        contextTokensUsed := planning.contextTokensUsed +
          total cost (taken cost poolTokens planning.contextTokensUsed nodes) } := by
  induction nodes generalizing planning with
  | nil => simp [takeFitting, taken, left, total]
  | cons node rest ih =>
      have here := counted node List.mem_cons_self
      have later : ∀ other ∈ rest, planning.cost other = cost other :=
        fun other member => counted other (List.mem_cons_of_mem node member)
      have dropping : ∀ other ∈ rest, BudgetPlanning.cost
          { planning with droppedNodeIds := planning.droppedNodeIds ++ [node.nodeId] } other = cost other := later
      rw [takeFitting, here]
      by_cases fits : planning.contextTokensUsed + cost node ≤ poolTokens
      · rw [if_pos fits, ih (cost_taking later node)]
        simp [BudgetPlanning.taking, here, taken, left, fits, total_cons, Nat.add_assoc]
      · rw [if_neg fits, ih dropping]
        simp [taken, left, fits]

theorem takeMust_fits (counted : ∀ node ∈ nodes, planning.cost node = cost node)
    (fits : planning.contextTokensUsed + total cost nodes ≤ poolTokens) :
    takeMust poolTokens planning nodes =
      .ok { planning with
        includedNodeIds := planning.includedNodeIds ++ nodes.map ContextNode.nodeId
        contextTokensUsed := planning.contextTokensUsed + total cost nodes } := by
  induction nodes generalizing planning with
  | nil => simp [takeMust, total]
  | cons node rest ih =>
      have here := counted node List.mem_cons_self
      have later : ∀ other ∈ rest, planning.cost other = cost other :=
        fun other member => counted other (List.mem_cons_of_mem node member)
      rw [total_cons] at fits
      rw [takeMust, here, if_neg (by omega),
        ih (cost_taking later node) (by simp only [BudgetPlanning.taking, here]; omega)]
      simp [BudgetPlanning.taking, here, total_cons, Nat.add_assoc]

theorem takeMust_overflows (counted : ∀ node ∈ nodes, planning.cost node = cost node)
    (large : poolTokens < planning.contextTokensUsed + total cost nodes)
    (started : planning.contextTokensUsed ≤ poolTokens) :
    ∃ error, takeMust poolTokens planning nodes = .error error := by
  induction nodes generalizing planning with
  | nil => simp [total] at large; omega
  | cons node rest ih =>
      have here := counted node List.mem_cons_self
      have later : ∀ other ∈ rest, planning.cost other = cost other :=
        fun other member => counted other (List.mem_cons_of_mem node member)
      rw [total_cons] at large
      rw [takeMust, here]
      by_cases fits : planning.contextTokensUsed + cost node > poolTokens
      · exact ⟨_, if_pos fits⟩
      · rw [if_neg fits]
        exact ih (cost_taking later node) (by simp only [BudgetPlanning.taking, here]; omega)
          (by simp only [BudgetPlanning.taking, here]; omega)

/-- The nodes in the order in which they are considered. -/
def considered (nodes : List ContextNode) : List ContextNode :=
  (nodes.filter fun node => node.priority = .must) ++
    ((nodes.filter fun node => node.priority = .should) ++ nodes.filter fun node => node.priority = .could)

theorem considered_perm (nodes : List ContextNode) : (considered nodes).Perm nodes := by
  induction nodes with
  | nil => exact .refl _
  | cons node rest ih =>
      have behind := ih.cons node
      rw [considered] at behind ⊢
      cases priority : node.priority with
      | must => simpa [priority] using behind
      | should => simpa [priority] using List.perm_middle.trans behind
      | could =>
          rw [← List.append_assoc] at behind
          simpa [priority] using List.perm_middle.trans behind

variable {hashing : Hashing} {tokenizer : CharRatioEstimator}

theorem rendered_cost (hashing : Hashing) (tokenizer : CharRatioEstimator)
    (unique : (nodes.map ContextNode.nodeId).Nodup) {node : ContextNode} (member : node ∈ nodes)
    (rest : BudgetPlanning) :
    BudgetPlanning.cost { rest with
      sectionTokens := assignAll [] (nodes.map fun node => (node.nodeId, tokens hashing tokenizer node)) } node =
        tokens hashing tokenizer node := by
  have distinct : (keys (nodes.map fun node => (node.nodeId, tokens hashing tokenizer node))).Nodup := by
    rw [keys, List.map_map]
    exact unique
  rw [BudgetPlanning.cost, assignAll_distinct _ distinct,
    get_of_mem distinct (List.mem_map.mpr ⟨node, member, rfl⟩), Option.getD_some]

theorem plan_fits (unique : (nodes.map ContextNode.nodeId).Nodup)
    (fits : total (tokens hashing tokenizer) (nodes.filter fun node => node.priority = .must) ≤ poolTokens) :
    ∃ sectionTokens, planContextSelection hashing tokenizer nodes poolTokens =
      .ok { includedNodeIds := (taken (tokens hashing tokenizer) poolTokens 0 (considered nodes)).map ContextNode.nodeId
            droppedNodeIds := (left (tokens hashing tokenizer) poolTokens 0 (considered nodes)).map ContextNode.nodeId
            sectionTokens
            contextTokensUsed := total (tokens hashing tokenizer)
              (taken (tokens hashing tokenizer) poolTokens 0 (considered nodes)) } := by
  generalize priced : assignAll [] (nodes.map fun node => (node.nodeId, tokens hashing tokenizer node)) = sectionTokens
  have counted (priority : Priority) (rest : BudgetPlanning) (same : rest.sectionTokens = sectionTokens) :
      ∀ node ∈ nodes.filter (fun node => node.priority = priority), rest.cost node = tokens hashing tokenizer node := by
    intro node member
    have known := rendered_cost hashing tokenizer unique (List.mem_of_mem_filter member) rest
    rw [priced, ← same] at known
    exact known
  have must := takeMust_fits (counted .must { sectionTokens } rfl) (by simpa using fits)
  obtain ⟨allTaken, noneLeft⟩ := taken_all 0 (nodes.filter fun node => node.priority = .must) (by simpa using fits)
  refine ⟨sectionTokens, ?_⟩
  rw [planContextSelection, priced, must]
  simp only [bind, Except.bind, List.foldl_cons, List.foldl_nil]
  rw [takeFitting_eq (counted .should _ rfl), takeFitting_eq (counted .could _ rfl), considered, taken_append,
    taken_append, left_append, left_append, allTaken, noneLeft]
  simp [pure, Except.pure, total, Nat.add_assoc]

theorem plan_overflows (unique : (nodes.map ContextNode.nodeId).Nodup)
    (large : poolTokens < total (tokens hashing tokenizer) (nodes.filter fun node => node.priority = .must)) :
    ∃ error, planContextSelection hashing tokenizer nodes poolTokens = .error error := by
  have counted := fun node (member : node ∈ nodes.filter fun node => node.priority = .must) =>
    rendered_cost hashing tokenizer unique (List.mem_of_mem_filter member) {}
  obtain ⟨error, refused⟩ := takeMust_overflows counted (by simpa using large) (Nat.zero_le poolTokens)
  exact ⟨error, by rw [planContextSelection, refused]; rfl⟩

end

section

variable (hashing : Hashing) (tokenizer : CharRatioEstimator) (graph : ContextGraph) (budget : TokenBudget)
  (instruction : TaskInstruction)

/-- The instruction or the schema exceeds its reserve, or the MUST nodes do not fit the context pool. -/
def Overflows : Prop :=
  budget.instructionReserveTokens < tokenizer.count instruction.render ∨
    budget.schemaReserveTokens < tokenizer.count instruction.renderSchemaBlock ∨
    budget.contextPoolTokens <
      total (tokens hashing tokenizer) (graph.nodes.filter fun node => node.priority = .must)

/-- What the compilation promises of a prompt, and of a refusal. -/
structure Budgeted : Prop where
  partition : ∀ compiled, compile hashing tokenizer graph budget instruction = .ok compiled →
    (compiled.includedNodeIds ++ compiled.droppedNodeIds).Perm (graph.nodes.map ContextNode.nodeId)
  complete : ∀ compiled, compile hashing tokenizer graph budget instruction = .ok compiled →
    ∀ node ∈ graph.nodes, node.priority = .must →
      ∃ before after, compiled.prompt = before ++ node.render hashing ++ after
  greedy : ∀ compiled, compile hashing tokenizer graph budget instruction = .ok compiled →
    ∀ before node after, considered graph.nodes = before ++ node :: after → node.nodeId ∈ compiled.droppedNodeIds →
      budget.contextPoolTokens < total (tokens hashing tokenizer)
        (before.filter fun node => node.nodeId ∈ compiled.includedNodeIds) + tokens hashing tokenizer node
  reserved : ∀ compiled, compile hashing tokenizer graph budget instruction = .ok compiled →
    tokenizer.count compiled.prompt + budget.outputReserveTokens ≤ budget.totalTokens
  raises : ∀ error, compile hashing tokenizer graph budget instruction = .error error →
    Overflows hashing tokenizer graph budget instruction

/-- The nodes that the selection takes, in the order of the graph. -/
def chosen : List ContextNode :=
  match planContextSelection hashing tokenizer graph.nodes budget.contextPoolTokens with
  | .ok planning => graph.nodes.filter fun node => node.nodeId ∈ planning.includedNodeIds
  | .error _ => []

/-- The characters of the prompt: the sections, 31 of the two headers, and two between each two nodes. -/
def characters : Nat :=
  instruction.render.length + instruction.renderSchemaBlock.length +
    ((chosen hashing tokenizer graph budget).map fun node => (node.render hashing).length).sum +
    2 * ((chosen hashing tokenizer graph budget).length - 1) + 31

end

theorem length_intercalate (separator : String) (texts : List String) :
    (separator.intercalate texts).length = (texts.map String.length).sum + separator.length * (texts.length - 1) := by
  induction texts with
  | nil => simp
  | cons text rest ih =>
      cases rest with
      | nil => simp
      | cons next later =>
          rw [String.intercalate_cons_cons, String.length_append, String.length_append, ih]
          simp only [List.map_cons, List.sum_cons, List.length_cons, Nat.add_sub_cancel]
          ring

theorem mem_intercalate (separator : String) {texts : List String} {text : String} (member : text ∈ texts) :
    ∃ before after, separator.intercalate texts = before ++ text ++ after := by
  induction texts with
  | nil => cases member
  | cons first rest ih =>
      cases rest with
      | nil =>
          refine ⟨"", "", ?_⟩
          rw [List.mem_singleton.mp member]
          simp
      | cons next later =>
          rw [String.intercalate_cons_cons]
          rcases List.mem_cons.mp member with rfl | behind
          · exact ⟨"", separator ++ separator.intercalate (next :: later), by simp [String.append_assoc]⟩
          · obtain ⟨before, after, split⟩ := ih behind
            exact ⟨first ++ separator ++ before, after, by rw [split]; simp [String.append_assoc]⟩

theorem length_weave (instruction : TaskInstruction) (context : String) :
    (weave instruction context).length =
      instruction.render.length + instruction.renderSchemaBlock.length + context.length + 31 := by
  have opening : "\n## CONTEXT\n".length = 12 := by decide
  have closing : "\n\n## OUTPUT SCHEMA\n".length = 19 := by decide
  simp only [weave, String.length_append, opening, closing]
  omega

/-- A text that is not empty fits beside a reserve exactly when its characters do. -/
theorem count_fits_iff (tokenizer : CharRatioEstimator) {text : String} (written : 0 < text.length)
    {reserve limit : Nat} (room : reserve < limit) :
    tokenizer.count text + reserve ≤ limit ↔ text.length ≤ tokenizer.ratio * (limit - reserve) := by
  have visible : text ≠ "" := by
    rintro rfl
    simp at written
  have counted : tokenizer.count text ≤ limit - reserve ↔ text.length ≤ tokenizer.ratio * (limit - reserve) := by
    rw [CharRatioEstimator.count, if_neg visible, max_le_iff, ceilDiv_le_iff_le_mul tokenizer.positive]
    exact and_iff_right (by omega)
  rw [← counted]
  omega

section

variable {hashing : Hashing} {tokenizer : CharRatioEstimator} {graph : ContextGraph} {budget : TokenBudget}
  {instruction : TaskInstruction}

theorem compile_overflows (overflows : Overflows hashing tokenizer graph budget instruction) :
    ∃ error, compile hashing tokenizer graph budget instruction = .error error := by
  rw [compile]
  dsimp only
  split_ifs with instructed schema
  · exact ⟨_, rfl⟩
  · exact ⟨_, rfl⟩
  · rcases overflows with large | large | large
    · exact absurd large instructed
    · exact absurd large schema
    · obtain ⟨error, refused⟩ := plan_overflows graph.uniqueNodeIds large
      exact ⟨error, by rw [refused]⟩

/-- The ids of the nodes that are taken, and of those that are left. -/
def takenIds (hashing : Hashing) (tokenizer : CharRatioEstimator) (graph : ContextGraph) (budget : TokenBudget) :
    List String :=
  (taken (tokens hashing tokenizer) budget.contextPoolTokens 0 (considered graph.nodes)).map ContextNode.nodeId

def leftIds (hashing : Hashing) (tokenizer : CharRatioEstimator) (graph : ContextGraph) (budget : TokenBudget) :
    List String :=
  (left (tokens hashing tokenizer) budget.contextPoolTokens 0 (considered graph.nodes)).map ContextNode.nodeId

/-- Where nothing overflows, the prompt is woven from the nodes that are taken, and held against the total alone. -/
theorem compile_fits (fits : ¬ Overflows hashing tokenizer graph budget instruction) :
    let prompt := weave instruction (contextText hashing graph (takenIds hashing tokenizer graph budget))
    graph.nodes.filter (fun node => node.nodeId ∈ takenIds hashing tokenizer graph budget) =
        chosen hashing tokenizer graph budget ∧
      ((budget.totalTokens < tokenizer.count prompt ∧ ∃ error,
        compile hashing tokenizer graph budget instruction = .error error) ∨
      (tokenizer.count prompt ≤ budget.totalTokens ∧ ∃ compiled,
        compile hashing tokenizer graph budget instruction = .ok compiled ∧ compiled.prompt = prompt ∧
          compiled.includedNodeIds = takenIds hashing tokenizer graph budget ∧
          compiled.droppedNodeIds = leftIds hashing tokenizer graph budget)) := by
  simp only [Overflows, not_or, not_lt] at fits
  obtain ⟨instructed, schema, must⟩ := fits
  obtain ⟨sectionTokens, planned⟩ := plan_fits graph.uniqueNodeIds must
  refine ⟨by rw [chosen, planned]; rfl, ?_⟩
  rw [compile]
  dsimp only
  rw [if_neg (not_lt.mpr instructed), if_neg (not_lt.mpr schema), planned]
  dsimp only
  split_ifs with large
  · exact .inl ⟨large, _, rfl⟩
  · exact .inr ⟨not_lt.mp large, _, rfl, rfl, rfl, rfl⟩

theorem ids_perm : (takenIds hashing tokenizer graph budget ++ leftIds hashing tokenizer graph budget).Perm
    (graph.nodes.map ContextNode.nodeId) := by
  rw [takenIds, leftIds, ← List.map_append]
  exact ((taken_left_perm _ _).trans (considered_perm graph.nodes)).map ContextNode.nodeId

theorem considered_unique (graph : ContextGraph) : ((considered graph.nodes).map ContextNode.nodeId).Nodup :=
  ((considered_perm graph.nodes).map ContextNode.nodeId).nodup_iff.mpr graph.uniqueNodeIds

variable {node : ContextNode} {before after : List ContextNode}

/-- MUST nodes are considered first, and taken where they fit. -/
theorem must_taken (fits : ¬ Overflows hashing tokenizer graph budget instruction)
    (member : node ∈ graph.nodes) (must : node.priority = .must) :
    node.nodeId ∈ takenIds hashing tokenizer graph budget := by
  simp only [Overflows, not_or, not_lt] at fits
  have together : 0 + total (tokens hashing tokenizer) (graph.nodes.filter fun node => node.priority = .must) ≤
      budget.contextPoolTokens := by simpa using fits.2.2
  have first := (taken_all 0 _ together).1
  rw [takenIds, considered, taken_append, first]
  refine List.mem_map_of_mem (List.mem_append_left _ (List.mem_filter.mpr ⟨member, by simpa using must⟩))

theorem filter_sublist {Item : Type} {part items : List Item} {wanted : Item → Prop} [DecidablePred wanted]
    (inside : part.Sublist items) (unique : items.Nodup) (known : ∀ item ∈ items, wanted item ↔ item ∈ part) :
    items.filter wanted = part := by
  induction inside with
  | slnil => rfl
  | @cons part items first inside ih =>
      have fresh : first ∉ part := fun member => (List.nodup_cons.mp unique).1 (inside.subset member)
      have skipped : ¬ wanted first := fun holds => fresh ((known first List.mem_cons_self).mp holds)
      rw [List.filter_cons_of_neg (by simpa using skipped)]
      exact ih (List.nodup_cons.mp unique).2 fun item member => known item (List.mem_cons_of_mem first member)
  | @cons_cons part items first inside ih =>
      have kept : wanted first := (known first List.mem_cons_self).mpr List.mem_cons_self
      rw [List.filter_cons_of_pos (by simpa using kept)]
      refine congrArg (List.cons first) (ih (List.nodup_cons.mp unique).2 fun item member => ?_)
      have other : item ≠ first := fun same => (List.nodup_cons.mp unique).1 (same ▸ member)
      rw [known item (List.mem_cons_of_mem first member), List.mem_cons]
      exact or_iff_right other

/-- The nodes of a part of the order that are taken at all are the ones taken there. -/
theorem filter_taken (split : considered graph.nodes = before ++ after) :
    before.filter (fun node => node.nodeId ∈ takenIds hashing tokenizer graph budget) =
      taken (tokens hashing tokenizer) budget.contextPoolTokens 0 before := by
  have unique := considered_unique graph
  rw [split, List.map_append] at unique
  have apart := (List.nodup_append.mp unique).2.2
  have known : ∀ node ∈ before, node.nodeId ∈ takenIds hashing tokenizer graph budget ↔
      node ∈ taken (tokens hashing tokenizer) budget.contextPoolTokens 0 before := by
    intro node member
    rw [takenIds, split, taken_append, List.map_append, List.mem_append]
    constructor
    · rintro (here | later)
      · obtain ⟨other, inside, same⟩ := List.mem_map.mp here
        rwa [← List.inj_on_of_nodup_map (List.nodup_append.mp unique).1 ((taken_sublist _ _).subset inside) member same]
      · obtain ⟨other, inside, same⟩ := List.mem_map.mp later
        exact absurd same.symm (apart _ (List.mem_map_of_mem member) _
          (List.mem_map_of_mem ((taken_sublist _ _).subset inside)))
    · intro inside
      exact .inl (List.mem_map_of_mem inside)
  exact filter_sublist (taken_sublist _ _) (List.Nodup.of_map _ (List.nodup_append.mp unique).1) known

theorem left_bound (split : considered graph.nodes = before ++ node :: after)
    (dropped : node.nodeId ∈ leftIds hashing tokenizer graph budget) :
    budget.contextPoolTokens < total (tokens hashing tokenizer)
      (before.filter fun node => node.nodeId ∈ takenIds hashing tokenizer graph budget) +
        tokens hashing tokenizer node := by
  rw [filter_taken split]
  by_contra small
  have apart : (takenIds hashing tokenizer graph budget ++ leftIds hashing tokenizer graph budget).Nodup :=
    ids_perm.nodup_iff.mpr graph.uniqueNodeIds
  have inside : node.nodeId ∈ takenIds hashing tokenizer graph budget := by
    rw [takenIds, split, taken_append, taken, if_pos (by omega)]
    exact List.mem_map_of_mem (List.mem_append_right _ List.mem_cons_self)
  exact (List.nodup_append.mp apart).2.2 _ inside _ dropped rfl

theorem length_prompt (fits : ¬ Overflows hashing tokenizer graph budget instruction) :
    (weave instruction (contextText hashing graph (takenIds hashing tokenizer graph budget))).length =
      characters hashing tokenizer graph budget instruction := by
  rw [length_weave, contextText, (compile_fits fits).1, length_intercalate, characters]
  have separator : "\n\n".length = 2 := by decide
  rw [separator, List.length_map, List.map_map]
  simp only [Function.comp_def]
  omega

/-- The compilation keeps its promises exactly when something overflows, or the whole text fits beside the output
reserve. -/
theorem budgeted_iff (hashing : Hashing) (tokenizer : CharRatioEstimator) (graph : ContextGraph) (budget : TokenBudget)
    (instruction : TaskInstruction) :
    Budgeted hashing tokenizer graph budget instruction ↔
      Overflows hashing tokenizer graph budget instruction ∨
        characters hashing tokenizer graph budget instruction ≤
          tokenizer.ratio * (budget.totalTokens - budget.outputReserveTokens) := by
  by_cases overflows : Overflows hashing tokenizer graph budget instruction
  · obtain ⟨error, refused⟩ := compile_overflows overflows
    refine iff_of_true ⟨?_, ?_, ?_, ?_, fun _ _ => overflows⟩ (.inl overflows)
    · intro compiled succeeded
      cases refused.symm.trans succeeded
    · intro compiled succeeded
      cases refused.symm.trans succeeded
    · intro compiled succeeded
      cases refused.symm.trans succeeded
    · intro compiled succeeded
      cases refused.symm.trans succeeded
  · have written : 0 < (weave instruction (contextText hashing graph
        (takenIds hashing tokenizer graph budget))).length := by
      rw [length_weave]
      omega
    have room : budget.outputReserveTokens < budget.totalTokens := by
      have := budget.reservesFit
      omega
    rw [or_iff_right overflows, ← length_prompt overflows, ← count_fits_iff tokenizer written room]
    rcases (compile_fits overflows).2 with ⟨large, error, refused⟩ | ⟨small, compiled, succeeded, prompt, included,
      dropped⟩
    · refine iff_of_false (fun budgeted => overflows (budgeted.raises error refused)) ?_
      omega
    · have only (other : CompiledPrompt)
          (same : compile hashing tokenizer graph budget instruction = .ok other) : other = compiled :=
        Except.ok.inj (same.symm.trans succeeded)
      constructor
      · intro budgeted
        have reserved := budgeted.reserved compiled succeeded
        rwa [prompt] at reserved
      · intro fits
        refine ⟨?_, ?_, ?_, ?_, ?_⟩
        · intro other same
          rw [only other same, included, dropped]
          exact ids_perm
        · intro other same node member must
          have chosenNode : node ∈ graph.nodes.filter
              fun node => node.nodeId ∈ takenIds hashing tokenizer graph budget :=
            List.mem_filter.mpr ⟨member, by simpa using must_taken overflows member must⟩
          obtain ⟨before, after, split⟩ := mem_intercalate "\n\n"
            (List.mem_map_of_mem (f := ContextNode.render hashing) chosenNode)
          rw [only other same, prompt, weave, contextText, split]
          exact ⟨instruction.render ++ "\n## CONTEXT\n" ++ before,
            after ++ "\n\n## OUTPUT SCHEMA\n" ++ instruction.renderSchemaBlock, by simp only [String.append_assoc]⟩
        · intro other same before node after split isDropped
          rw [only other same, dropped] at isDropped
          rw [only other same, included]
          exact left_bound split isDropped
        · intro other same
          rw [only other same, prompt]
          exact fits
        · intro error refused
          cases refused.symm.trans succeeded

end

def plainHashing : Hashing := ⟨JsonText.exactDecimals, id⟩

def perFour : CharRatioEstimator := { positive := by decide }

def emptyGraph : ContextGraph := { graphId := "cg-1", taskKind := .synthesis, uniqueNodeIds := by decide }

def briefTask : TaskInstruction := { role := "r", objective := "o", outputSchemaId := "s" }

/-- Reserves that the instruction and the schema fill, ten tokens for the output, and one for the context. -/
def tightBudget : TokenBudget where
  totalTokens := 34
  outputReserveTokens := 10
  instructionReserveTokens := 19
  schemaReserveTokens := 4
  reservesFit := by decide

/-- The prompt is returned with 31 of the 34 tokens, and leaves three of the ten for the output. -/
theorem headers_take_reserve :
    (∃ compiled, compile plainHashing perFour emptyGraph tightBudget briefTask = .ok compiled ∧
      perFour.count compiled.prompt = 31) ∧
      ¬ Budgeted plainHashing perFour emptyGraph tightBudget briefTask := by
  have fits : ¬ Overflows plainHashing perFour emptyGraph tightBudget briefTask := by
    unfold Overflows
    decide
  have counted : perFour.count (weave briefTask (contextText plainHashing emptyGraph
      (takenIds plainHashing perFour emptyGraph tightBudget))) = 31 := by
    have instructed : briefTask.render.length = 76 := by decide
    have schema : briefTask.renderSchemaBlock.length = 16 := by decide
    have long : (weave briefTask (contextText plainHashing emptyGraph
        (takenIds plainHashing perFour emptyGraph tightBudget))).length = 123 := by
      rw [length_weave, instructed, schema]
      rfl
    rw [CharRatioEstimator.count, if_neg (by rw [← String.length_eq_zero_iff, long]; decide), long]
    decide
  rcases (compile_fits fits).2 with ⟨large, -⟩ | ⟨-, compiled, succeeded, prompt, -⟩
  · rw [counted] at large
    exact absurd large (by decide)
  · rw [← prompt] at counted
    refine ⟨⟨compiled, succeeded, counted⟩, fun budgeted => ?_⟩
    have reserved := budgeted.reserved compiled succeeded
    rw [counted] at reserved
    exact absurd reserved (by decide)

end AutonomousApi.PromptCompilation
