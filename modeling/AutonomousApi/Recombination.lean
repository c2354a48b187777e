import AutonomousApi.EvolutionLedger
import AutonomousApi.PythonText

/-! Crossover of two architectures by their blocks (evolution/recombination.py): `PolicyBlockCrossover` and the
`GenomeGuidedCrossover` that inherits from it and narrows the blocks to the active chromosome families. Objective
values are exact. -/

namespace AutonomousApi.Recombination

open JsonValue OrderedMap
open EvolutionLedger (truthy)
open PythonText (CharTable)

section

def architecturalBlocks : List String :=
  ["architecture", "persistence", "infrastructure", "security", "messaging", "observability", "ai", "testing",
    "deployment", "frontend", "backend", "governance", "documentation", "performance", "reliability"]

def blockToObjective : Dict String String :=
  [("reliability", "reliability"), ("security", "security_posture"), ("performance", "performance_efficiency"),
    ("observability", "operational_stability"), ("infrastructure", "cost_efficiency"),
    ("frontend", "user_satisfaction"), ("testing", "testability"), ("deployment", "deployment_readiness"),
    ("documentation", "documentation_quality"), ("governance", "governance_readiness")]

abbrev Payload := Dict String Json

structure RecombinationContext where
  parentCandidateIds : List String := []
  objectivesByParent : Dict String (Dict String Rat) := []
  genome : Option Payload := none
  generation : Int := 0

structure Parents where
  a : Payload
  b : Payload

def Parents.carried (parents : Parents) (block : String) : Bool :=
  (get parents.a block).isSome || (get parents.b block).isSome

/-- `policy.preserve_base_identity` says which parent is the base. -/
def Parents.base (parents : Parents) (preserveBaseIdentity : Bool) : Payload :=
  if preserveBaseIdentity then parents.a else parents.b

/-- `PolicyBlockCrossover._select_blocks`. -/
def selectBlocks (parents : Parents) : List String :=
  (architecturalBlocks.filter parents.carried).insertionSort (· ≤ ·)

variable (table : CharTable)

/-- The family that an active gene names; what `str()` makes of anything but a text is no block. -/
def activeFamily : Json → Option String
  | .obj gene =>
      if truthy ((get gene "active").getD (.bool true)) then
        match get gene "chromosome_family" with
        | some (.str family) => some (String.ofList (table.lower family.toList))
        | _ => none
      else none
  | _ => none

/-- What a loop over `genome.get("genes", []) or []` sees; it raises where this is `none`. -/
def genesOf (genome : Payload) : Option (List Json) :=
  match (get genome "genes").getD (.arr []) with
  | .arr genes => some genes
  | .obj entries => some (entries.map fun entry => .str entry.1)
  | .str text => some (text.toList.map fun c => .str (String.singleton c))
  | other => if truthy other then none else some []

def activeBlocks (genome : Payload) : Option (List String) :=
  (genesOf genome).map fun genes =>
    (genes.filterMap (activeFamily table)).filter fun family => family ∈ architecturalBlocks

/-- `GenomeGuidedCrossover._select_blocks`. -/
def genomeBlocks (parents : Parents) (genome : Option Payload) : Option (List String) :=
  let blocks := selectBlocks parents
  match genome with
  | none | some [] => some blocks
  | some genome =>
      (activeBlocks table genome).map fun active =>
        if active = [] then blocks else blocks.filter fun block => block ∈ active

def objectiveValue (objectives : Dict String Rat) (objectiveName : String) : Option Rat :=
  match [objectiveName, "feedback_" ++ objectiveName, "compiler_" ++ objectiveName].findSome? (get objectives) with
  | some value => some value
  | none => (objectives.find? fun entry => entry.1.endsWith objectiveName).map Prod.snd

variable (context : RecombinationContext)

def parentAId : String := context.parentCandidateIds[0]?.getD "parent_a"

def parentBId : String := context.parentCandidateIds[1]?.getD "parent_b"

def chooseBetterParent (block defaultParentId : String) : String :=
  let objectiveName := (get blockToObjective block).getD block
  let aValue := objectiveValue ((get context.objectivesByParent (parentAId context)).getD []) objectiveName
  let bValue := objectiveValue ((get context.objectivesByParent (parentBId context)).getD []) objectiveName
  match aValue, bValue with
  | none, none => defaultParentId
  | none, some _ => parentBId context
  | some _, none => parentAId context
  | some aValue, some bValue =>
      if aValue = bValue then defaultParentId
      else if bValue < aValue then parentAId context else parentBId context

/-- The parents that the two children take a block from. -/
def choice (parents : Parents) (index : Nat) (block : String) : String × String :=
  let a := parentAId context
  let b := parentBId context
  if (get parents.a block).isSome ∧ (get parents.b block).isSome then
    let chosen := chooseBetterParent context block (if index % 2 = 0 then a else b)
    (chosen, if chosen = a then b else a)
  else if (get parents.a block).isSome then (a, a)
  else (b, b)

/-- The loop over the blocks. -/
def choices (parents : Parents) : Nat → List String → List (String × String × String)
  | _, [] => []
  | index, block :: rest => (block, choice context parents index block) :: choices parents (index + 1) rest

def crossover (operatorName offspringRole : String) : Json :=
  .obj [("operator", .str operatorName),
    ("parent_candidate_ids", .arr (context.parentCandidateIds.map fun id => .str id)),
    ("generation", .int context.generation), ("offspring_role", .str offspringRole)]

/-- The value of `evolution` with one crossover more; `setdefault` or `append` raises where this is `none`. -/
def withCrossover (entry : Json) : Option Json → Option Json
  | none => some (.obj [("crossovers", .arr [entry])])
  | some (.obj evolution) =>
      match get evolution "crossovers" with
      | none => some (.obj (assign evolution "crossovers" (.arr [entry])))
      | some (.arr crossovers) => some (.obj (assign evolution "crossovers" (.arr (crossovers ++ [entry]))))
      | some _ => none
  | some _ => none

/-- `_add_crossover_metadata`. -/
def addCrossoverMetadata (isr : Payload) (entry : Json) : Option Payload :=
  (withCrossover entry (get isr "evolution")).map fun evolution => assign isr "evolution" evolution

def dropBlocks (payload : Payload) : Payload := payload.filter fun entry => entry.1 ∉ architecturalBlocks

/-- The value that the chosen parent has for a block. -/
def picked (parents : Parents) (chosenParentId block : String) : Option Json :=
  if chosenParentId = parentAId context then get parents.a block else get parents.b block

/-- The loop that adds the chosen blocks; `None` is not added. -/
def addBlocks (parents : Parents) : Payload → List (String × String) → Payload
  | child, [] => child
  | child, (block, chosenParentId) :: rest =>
      match picked context parents chosenParentId block with
      | none | some .null => addBlocks parents child rest
      | some value => addBlocks parents (assign child block value) rest

/-- `_build_offspring`. -/
def buildOffspring (operatorName : String) (parents : Parents) (preserveBaseIdentity : Bool)
    (chosen : List (String × String)) (offspringRole : String) : Option Payload :=
  addCrossoverMetadata (addBlocks context parents (dropBlocks (parents.base preserveBaseIdentity)) chosen)
    (crossover context operatorName offspringRole)

/-- `recombine`, for the blocks that the operator selects. -/
def recombineBlocks (operatorName : String) (blocks : List String) (parents : Parents) (preserveBaseIdentity : Bool) :
    Option (Payload × Payload) := do
  let chosen := choices context parents 0 blocks
  let childOne ← buildOffspring context operatorName parents preserveBaseIdentity
    (chosen.map fun choice => (choice.1, choice.2.1)) "policy_block_child_one"
  let childTwo ← buildOffspring context operatorName parents preserveBaseIdentity
    (chosen.map fun choice => (choice.1, choice.2.2)) "policy_block_child_two"
  return (childOne, childTwo)

def policyBlockCrossover (parents : Parents) (preserveBaseIdentity : Bool) : Option (Payload × Payload) :=
  recombineBlocks context "policy_block" (selectBlocks parents) parents preserveBaseIdentity

/-- The two children of `GenomeGuidedCrossover.recombine`, if it does not raise. -/
def genomeGuidedCrossover (table : CharTable) (parents : Parents) (preserveBaseIdentity : Bool) :
    Option (Payload × Payload) := do
  let blocks ← genomeBlocks table parents context.genome
  recombineBlocks context "genome_guided" blocks parents preserveBaseIdentity

end

section

variable {parents : Parents} {context : RecombinationContext} {block : String}

theorem get_dropBlocks (payload : Payload) (key : String) :
    OrderedMap.get (dropBlocks payload) key = if key ∈ architecturalBlocks then none else get payload key := by
  induction payload with
  | nil => simp [dropBlocks]
  | cons entry rest ih =>
      rw [dropBlocks, List.filter_cons]
      rw [dropBlocks] at ih
      by_cases dropped : entry.1 ∈ architecturalBlocks
      · rw [if_neg (by simpa using dropped), ih]
        by_cases block : key ∈ architecturalBlocks
        · rw [if_pos block, if_pos block]
        · have other : entry.1 ≠ key := fun same => block (same ▸ dropped)
          rw [if_neg block, if_neg block, OrderedMap.get, if_neg other]
      · rw [if_pos (by simpa using dropped), OrderedMap.get, OrderedMap.get, ih]
        by_cases same : entry.1 = key
        · rw [if_pos same, if_pos same, if_neg (same ▸ dropped)]
        · rw [if_neg same, if_neg same]

/-- A value that is added. -/
def kept : Option Json → Option Json
  | some .null => none
  | value => value

theorem kept_isSome_iff (value : Option Json) : (kept value).isSome ↔ value.isSome ∧ value ≠ some .null := by
  unfold kept
  split
  next => simp
  next notNull => exact ⟨fun present => ⟨present, notNull⟩, And.left⟩

theorem kept_eq_some {value : Option Json} {result : Json} (found : kept value = some result) :
    value = some result := by
  unfold kept at found
  split at found
  · cases found
  · exact found

theorem addBlocks_cons (child : Payload) (chosenParentId : String) (rest : List (String × String)) :
    addBlocks context parents child ((block, chosenParentId) :: rest) =
      match kept (picked context parents chosenParentId block) with
      | none => addBlocks context parents child rest
      | some value => addBlocks context parents (assign child block value) rest := by
  rw [addBlocks]
  split
  next absent => rw [absent]; rfl
  next null => rw [null]; rfl
  next value notNull found =>
    rw [found, kept]
    exact fun null => notNull (Option.some.inj null)

theorem get_addBlocks (child : Payload) {chosen : List (String × String)} (distinct : (keys chosen).Nodup)
    (key : String) : OrderedMap.get (addBlocks context parents child chosen) key =
      ((get chosen key).bind fun chosenParentId => kept (picked context parents chosenParentId key)).or
        (get child key) := by
  induction chosen generalizing child with
  | nil => rfl
  | cons choice rest ih =>
      obtain ⟨block, chosenParentId⟩ := choice
      obtain ⟨absent, distinct⟩ := List.nodup_cons.mp distinct
      rw [addBlocks_cons, OrderedMap.get]
      by_cases same : block = key
      · subst same
        have later : get rest block = none := get_absent absent
        rw [if_pos rfl, Option.bind_some]
        split
        next nothing => rw [nothing, ih child distinct, later]; rfl
        next value found => rw [found, ih _ distinct, later, get_assign, if_pos rfl]; rfl
      · rw [if_neg same]
        split
        · exact ih child distinct
        · rw [ih _ distinct, get_assign, if_neg same]

theorem keys_choices (choose : String × String → String) (index : Nat) (blocks : List String) :
    keys ((choices context parents index blocks).map fun choice => (choice.1, choose choice.2)) = blocks := by
  induction blocks generalizing index with
  | nil => rfl
  | cons block rest ih => exact congrArg (block :: ·) (ih (index + 1))

theorem get_choices (choose : String × String → String) (index : Nat) {blocks : List String}
    (member : block ∈ blocks) :
    get ((choices context parents index blocks).map fun choice => (choice.1, choose choice.2)) block =
      some (choose (choice context parents (index + blocks.idxOf block) block)) := by
  induction blocks generalizing index with
  | nil => exact absurd member List.not_mem_nil
  | cons first rest ih =>
      rw [choices, List.map_cons, OrderedMap.get]
      by_cases same : first = block
      · rw [if_pos same, same, List.idxOf_cons_self, Nat.add_zero]
      · rw [if_neg same, ih (index + 1) ((List.mem_cons.mp member).resolve_left (Ne.symm same)),
          List.idxOf_cons_ne rest same, Nat.add_right_comm, Nat.add_assoc]

theorem mem_selectBlocks :
    block ∈ selectBlocks parents ↔ block ∈ architecturalBlocks ∧ parents.carried block = true := by
  rw [selectBlocks, (List.perm_insertionSort _ _).mem_iff, List.mem_filter]

variable (parents) in
theorem selectBlocks_nodup : (selectBlocks parents).Nodup :=
  (List.perm_insertionSort _ _).nodup_iff.mpr (List.Nodup.filter _ (by decide))

variable {table : CharTable} {genome : Payload} {active : List String}

theorem activeBlocks_architectural (chosen : activeBlocks table genome = some active) (member : block ∈ active) :
    block ∈ architecturalBlocks := by
  obtain ⟨genes, -, rfl⟩ := Option.map_eq_some_iff.mp chosen
  exact of_decide_eq_true (List.mem_filter.mp member).2

theorem genomeBlocks_active (chosen : activeBlocks table genome = some active) (some_active : active ≠ []) :
    genomeBlocks table parents (some genome) = some ((selectBlocks parents).filter fun block => block ∈ active) := by
  cases genome with
  | nil => exact absurd (Option.some.inj chosen).symm some_active
  | cons gene rest =>
      rw [genomeBlocks, chosen, Option.map_some, if_neg some_active]
      exact nofun

end

section

variable {parents : Parents} {context : RecombinationContext} {preserveBaseIdentity : Bool}

/-- Both children of a block take the value of a parent: which one is a matter of the objectives. -/
theorem chooseBetterParent_mem (block : String) {defaultParentId : String}
    (default : defaultParentId = parentAId context ∨ defaultParentId = parentBId context) :
    chooseBetterParent context block defaultParentId = parentAId context ∨
      chooseBetterParent context block defaultParentId = parentBId context := by
  unfold chooseBetterParent
  dsimp only
  split
  · exact default
  · exact .inr rfl
  · exact .inl rfl
  · split
    · exact default
    · split
      · exact .inl rfl
      · exact .inr rfl

theorem picked_a (block : String) : picked context parents (parentAId context) block = get parents.a block :=
  if_pos rfl

theorem picked_b (apart : parentAId context ≠ parentBId context) (block : String) :
    picked context parents (parentBId context) block = get parents.b block :=
  if_neg (Ne.symm apart)

variable (context parents) in
theorem choice_mem (place : Nat) (block : String) :
    ((choice context parents place block).1 = parentAId context ∨
      (choice context parents place block).1 = parentBId context) ∧
    ((choice context parents place block).2 = parentAId context ∨
      (choice context parents place block).2 = parentBId context) := by
  unfold choice
  dsimp only
  split
  · exact ⟨chooseBetterParent_mem block (ite_eq_or_eq ..), (ite_eq_or_eq ..).symm⟩
  · split
    · exact ⟨.inl rfl, .inl rfl⟩
    · exact ⟨.inr rfl, .inr rfl⟩

/-- Where both parents carry a block, each child has that of another. -/
theorem choice_both (apart : parentAId context ≠ parentBId context) (place : Nat) {block : String}
    (inA : (get parents.a block).isSome) (inB : (get parents.b block).isSome) :
    choice context parents place block = (parentAId context, parentBId context) ∨
      choice context parents place block = (parentBId context, parentAId context) := by
  unfold choice
  rw [if_pos ⟨inA, inB⟩]
  dsimp only
  have default := ite_eq_or_eq (place % 2 = 0) (parentAId context) (parentBId context)
  rcases chooseBetterParent_mem block default with chosen | chosen
  · rw [chosen, if_pos rfl]
    exact .inl rfl
  · rw [chosen, if_neg (Ne.symm apart)]
    exact .inr rfl

variable (context) in
/-- When both children have a value for a block that a parent carries. -/
theorem both_kept_iff (place : Nat) {block : String} (carried : parents.carried block = true) :
    ((kept (picked context parents (choice context parents place block).1 block)).isSome ∧
      (kept (picked context parents (choice context parents place block).2 block)).isSome) ↔
    get parents.a block ≠ some .null ∧
      (parentAId context ≠ parentBId context → get parents.b block ≠ some .null) ∧
      (parentAId context = parentBId context → (get parents.a block).isSome) := by
  rw [kept_isSome_iff, kept_isSome_iff]
  by_cases same : parentAId context = parentBId context
  · obtain ⟨one, two⟩ := choice_mem parents context place block
    rw [← same, or_self] at one two
    rw [one, two, picked_a]
    exact ⟨fun ⟨⟨present, notNull⟩, _⟩ => ⟨notNull, absurd same, fun _ => present⟩,
      fun ⟨notNull, _, present⟩ => ⟨⟨present same, notNull⟩, present same, notNull⟩⟩
  by_cases inA : (get parents.a block).isSome
  · by_cases inB : (get parents.b block).isSome
    · rcases choice_both same place inA inB with chosen | chosen <;>
        rw [chosen, picked_a, picked_b same] <;> simp [inA, inB, same, and_comm]
    · have chosen : choice context parents place block = (parentAId context, parentAId context) := by
        simp [choice, inA, inB]
      rw [chosen, picked_a, Option.not_isSome_iff_eq_none.mp inB]
      simp [inA]
  · have inB : (get parents.b block).isSome := by simpa [Parents.carried, inA] using carried
    have chosen : choice context parents place block = (parentBId context, parentBId context) := by
      simp [choice, inA]
    rw [chosen, picked_b same, Option.not_isSome_iff_eq_none.mp inA]
    simp [inB, same]

theorem buildOffspring_ok {operatorName role : String} {chosen : List (String × String)} {child : Payload}
    (distinct : (keys chosen).Nodup) (blocks : ∀ block ∈ keys chosen, block ∈ architecturalBlocks)
    (built : buildOffspring context operatorName parents preserveBaseIdentity chosen role = some child) (key : String) :
    (key ≠ "evolution" → OrderedMap.get child key =
      ((get chosen key).bind fun chosenParentId => kept (picked context parents chosenParentId key)).or
        (if key ∈ architecturalBlocks then none else get (parents.base preserveBaseIdentity) key)) ∧
    OrderedMap.get child "evolution" =
      withCrossover (crossover context operatorName role) (get (parents.base preserveBaseIdentity) "evolution") := by
  obtain ⟨evolution, added, rfl⟩ := Option.map_eq_some_iff.mp built
  have unchosen : get chosen "evolution" = none :=
    get_absent fun member => absurd (blocks "evolution" member) (by decide)
  rw [get_addBlocks _ distinct, unchosen, Option.bind_none, Option.none_or, get_dropBlocks, if_neg (by decide)] at added
  refine ⟨fun other => ?_, by rw [get_assign, if_pos rfl, added]⟩
  rw [get_assign, if_neg (Ne.symm other), get_addBlocks _ distinct, get_dropBlocks]

/-- What a child is to be. -/
structure Framed (parents : Parents) (base : Payload) (active : List String) (entry : Json) (child : Payload) :
    Prop where
  activeBlock : ∀ block ∈ active, parents.carried block = true → ∃ value, OrderedMap.get child block = some value ∧
    (get parents.a block = some value ∨ get parents.b block = some value)
  inactiveBlock : ∀ block ∈ architecturalBlocks, block ∉ active → OrderedMap.get child block = get base block
  otherKey : ∀ key ∉ architecturalBlocks, key ≠ "evolution" → OrderedMap.get child key = get base key
  metadata : OrderedMap.get child "evolution" = withCrossover entry (get base "evolution")

variable {active : List String}

theorem picked_parent (chosenParentId block : String) :
    picked context parents chosenParentId block = get parents.a block ∨
      picked context parents chosenParentId block = get parents.b block :=
  ite_eq_or_eq ..

theorem framed_iff {operatorName role : String} {blocks : List String} {child : Payload} (distinct : blocks.Nodup)
    (narrowed : ∀ block, block ∈ blocks ↔
      (block ∈ architecturalBlocks ∧ parents.carried block = true) ∧ block ∈ active)
    (architectural : ∀ block ∈ active, block ∈ architecturalBlocks) (choose : String × String → String)
    (built : buildOffspring context operatorName parents preserveBaseIdentity
      ((choices context parents 0 blocks).map fun choice => (choice.1, choose choice.2)) role = some child) :
    Framed parents (parents.base preserveBaseIdentity) active (crossover context operatorName role) child ↔
      (∀ block ∈ architecturalBlocks, block ∉ active → get (parents.base preserveBaseIdentity) block = none) ∧
      ∀ block ∈ active, parents.carried block = true → (kept (picked context parents
        (choose (choice context parents (blocks.idxOf block) block)) block)).isSome := by
  have within : ∀ block ∈ blocks, block ∈ architecturalBlocks := fun block member => ((narrowed block).mp member).1.1
  have result := buildOffspring_ok (by rwa [keys_choices]) (by rwa [keys_choices]) built
  have notEvolution : ∀ block ∈ architecturalBlocks, block ≠ "evolution" :=
    fun block member same => absurd (same ▸ member) (by decide)
  have chosenBlock : ∀ block ∈ blocks, OrderedMap.get child block = kept (picked context parents
      (choose (choice context parents (blocks.idxOf block) block)) block) := by
    intro block member
    rw [(result block).1 (notEvolution block (within block member)), get_choices choose 0 member, Option.bind_some,
      if_pos (within block member), Option.or_none, Nat.zero_add]
  have unchosen : ∀ key, key ∉ blocks → key ≠ "evolution" → OrderedMap.get child key =
      if key ∈ architecturalBlocks then none else get (parents.base preserveBaseIdentity) key := by
    intro key absent other
    rw [(result key).1 other, get_absent (by rwa [keys_choices]), Option.bind_none, Option.none_or]
  constructor
  · intro framed
    refine ⟨fun block member inactive => ?_, fun block member carried => ?_⟩
    · rw [← framed.inactiveBlock block member inactive,
        unchosen block (fun chosen => inactive ((narrowed block).mp chosen).2) (notEvolution block member),
        if_pos member]
    · obtain ⟨value, found, -⟩ := framed.activeBlock block member carried
      rw [← chosenBlock block ((narrowed block).mpr ⟨⟨architectural block member, carried⟩, member⟩), found]
      rfl
  · rintro ⟨bare, present⟩
    refine ⟨fun block member carried => ?_, fun block member inactive => ?_, fun key other notMeta => ?_,
      (result "evolution").2⟩
    · obtain ⟨value, found⟩ := Option.isSome_iff_exists.mp (present block member carried)
      refine ⟨value, ?_, ?_⟩
      · rw [chosenBlock block ((narrowed block).mpr ⟨⟨architectural block member, carried⟩, member⟩), found]
      · rw [← kept_eq_some found]
        exact (picked_parent ..).imp Eq.symm Eq.symm
    · rw [bare block member inactive, unchosen block (fun chosen => inactive ((narrowed block).mp chosen).2)
        (notEvolution block member), if_pos member]
    · rw [unchosen key (fun chosen => other (within key chosen)) notMeta, if_neg other]

/-- Where crossover of the active families leaves the rest alone. The base parent has no other block, and every parent
that a child can get an active block from has a value for it. -/
structure Preserved (context : RecombinationContext) (parents : Parents) (base : Payload) (active : List String) :
    Prop where
  bare : ∀ block ∈ architecturalBlocks, block ∉ active → get base block = none
  fromA : ∀ block ∈ active, get parents.a block ≠ some .null
  fromB : parentAId context ≠ parentBId context → ∀ block ∈ active, get parents.b block ≠ some .null
  shared : parentAId context = parentBId context → ∀ block ∈ active, parents.carried block = true →
    (get parents.a block).isSome

theorem children_framed_iff {table : CharTable} {genome : Payload} {childOne childTwo : Payload}
    (given : context.genome = some genome) (chosen : activeBlocks table genome = some active)
    (some_active : active ≠ [])
    (children : genomeGuidedCrossover context table parents preserveBaseIdentity = some (childOne, childTwo)) :
    (Framed parents (parents.base preserveBaseIdentity) active
        (crossover context "genome_guided" "policy_block_child_one") childOne ∧
      Framed parents (parents.base preserveBaseIdentity) active
        (crossover context "genome_guided" "policy_block_child_two") childTwo) ↔
    Preserved context parents (parents.base preserveBaseIdentity) active := by
  unfold genomeGuidedCrossover recombineBlocks at children
  rw [given, genomeBlocks_active chosen some_active] at children
  simp only [Option.bind_eq_bind, Option.bind_some, Option.bind_eq_some_iff, Option.pure_def, Option.some.injEq,
    Prod.mk.injEq] at children
  obtain ⟨one, builtOne, two, builtTwo, rfl, rfl⟩ := children
  have architectural : ∀ block ∈ active, block ∈ architecturalBlocks :=
    fun block member => activeBlocks_architectural chosen member
  have narrowed : ∀ block, block ∈ (selectBlocks parents).filter (fun block => block ∈ active) ↔
      (block ∈ architecturalBlocks ∧ parents.carried block = true) ∧ block ∈ active := by
    intro block
    rw [List.mem_filter, mem_selectBlocks, decide_eq_true_iff]
  have distinct := (selectBlocks_nodup parents).filter fun block => block ∈ active
  rw [framed_iff distinct narrowed architectural Prod.fst builtOne,
    framed_iff distinct narrowed architectural Prod.snd builtTwo]
  constructor
  · rintro ⟨⟨bare, one⟩, -, two⟩
    have valued := fun block member carried =>
      (both_kept_iff context _ carried).mp ⟨one block member carried, two block member carried⟩
    refine ⟨bare, fun block member null => ?_, fun apart block member null => ?_, fun same block member carried =>
      (valued block member carried).2.2 same⟩
    · exact (valued block member (by simp [Parents.carried, null])).1 null
    · exact (valued block member (by simp [Parents.carried, null])).2.1 apart null
  · intro preserved
    have valued := fun block member carried => (both_kept_iff context
      (((selectBlocks parents).filter fun block => block ∈ active).idxOf block) carried).mpr
        ⟨preserved.fromA block member, fun apart => preserved.fromB apart block member,
          fun same => preserved.shared same block member carried⟩
    exact ⟨⟨preserved.bare, fun block member carried => (valued block member carried).1⟩,
      preserved.bare, fun block member carried => (valued block member carried).2⟩

end

/-- Security is the one active family. -/
def securityGenome : Payload := [("genes", .arr [.obj [("chromosome_family", .str "Security")]])]

def guided : RecombinationContext := { genome := some securityGenome }

def shop (security : String) : Payload := [("name", .str "shop"), ("security", .str security)]

def shopChild (security offspringRole : String) : Payload :=
  shop security ++
    [("evolution", .obj [("crossovers", .arr [crossover guided "genome_guided" offspringRole])])]

theorem securityGenome_active : activeBlocks PythonText.asciiTable securityGenome = some ["security"] := by decide

theorem shops_framed :
    Framed ⟨shop "strict", shop "open"⟩ (shop "strict") ["security"]
        (crossover guided "genome_guided" "policy_block_child_one") (shopChild "strict" "policy_block_child_one") ∧
      Framed ⟨shop "strict", shop "open"⟩ (shop "strict") ["security"]
        (crossover guided "genome_guided" "policy_block_child_two") (shopChild "open" "policy_block_child_two") :=
  (@children_framed_iff _ guided true _ _ _ _ _ rfl securityGenome_active (by decide) (by decide)).mpr
    ⟨by decide, by decide, fun _ => by decide, fun same => absurd same (by decide)⟩

/-- The deployment of the base parent is lost, though its family is inactive. -/
theorem deployment_lost :
    ¬ ∀ childOne childTwo, genomeGuidedCrossover guided PythonText.asciiTable
        ⟨shop "strict" ++ [("deployment", .str "rolling")], shop "open"⟩ true = some (childOne, childTwo) →
      Framed ⟨shop "strict" ++ [("deployment", .str "rolling")], shop "open"⟩
        (shop "strict" ++ [("deployment", .str "rolling")]) ["security"]
        (crossover guided "genome_guided" "policy_block_child_one") childOne ∧
      Framed ⟨shop "strict" ++ [("deployment", .str "rolling")], shop "open"⟩
        (shop "strict" ++ [("deployment", .str "rolling")]) ["security"]
        (crossover guided "genome_guided" "policy_block_child_two") childTwo := by
  intro framed
  have lost := (framed (shopChild "strict" "policy_block_child_one") (shopChild "open" "policy_block_child_two")
    (by decide)).1.inactiveBlock "deployment" (by decide) (by decide)
  exact absurd lost (by decide)

end AutonomousApi.Recombination
