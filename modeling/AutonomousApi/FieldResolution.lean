import AutonomousApi.Lowering
import Mathlib.Data.List.TakeWhile

/-! Field references, resolved twice. `validate_behavioral_graph` (isr/core/behavior_validation.py) matches them against
labels of the graph, `sample_context` (compiler/core/behavior_oracle.py) against the names of the lowered data models.
The validator writes label and field as one text, the oracle splits that text at its dots; and a missing label is the
whole node id for the one, the part after the first colon for the other. -/

namespace AutonomousApi.FieldResolution

open JsonValue OrderedMap IsrBehavior IsrGraph CompilationPlan Lowering FailFast PythonText

inductive OracleError where
  | undetermined (reference : String)
  deriving DecidableEq

/-- The owner, if the reference has one, and the field name: the last two parts between dots. -/
def splitReference (reference : String) : Option String × String :=
  match (reference.toList.splitOn '.').reverse with
  | field :: owner :: _ => (some (String.ofList owner), String.ofList field)
  | [field] => (none, String.ofList field)
  | [] => (none, "")

def behaviorFields (model : DataModel) : List FieldSpec :=
  match model.behavior with
  | some behavior => behavior.fields
  | none => []

def owned (owner : Option String) (name : String) : Bool :=
  match owner with
  | some owner => name == owner
  | none => true

/-- The fields that a reference matches, with the ids of their models. -/
def fieldMatches (plan : Plan) (reference : String) : List (String × FieldSpec) :=
  let (owner, fieldName) := splitReference reference
  plan.dataModels.flatMap fun model =>
    if owned owner model.entityName then
      ((behaviorFields model).filter fun field => field.name == fieldName).map (Prod.mk model.id)
    else []

def sampleValue : ValueType → Literal
  | .money | .decimal => .str "100.00"
  | .integer => .int 100
  | .boolean => .bool true
  | .identifier => .str "id-sample"
  | .date => .str "2026-01-01"
  | .datetime => .str "2026-01-01T00:00:00Z"
  | .string => .str "sample"

def sampleField (plan : Plan) (reference : String) : Except OracleError (Option (String × Literal)) :=
  match fieldMatches plan reference with
  | [(_, field)] => .ok (some (reference, sampleValue field.valueType))
  | _ => .error (.undetermined reference)

def sampleContext (expression : Expression) (plan : Plan) : Except OracleError (Dict String Literal) :=
  gather (sampleField plan) (sortedSet (expressionFieldRefs expression))

section

variable (schemas : Schemas) (nodes : Dict String Node) (parsed : List (String × ParsedPayload))

def nodeLabel (id : String) (node : Node) : String :=
  nodeText schemas ((get node.properties "label").getD (.str id))

/-- The names of the fields of all data models. -/
def simpleNames : List String := parsed.flatMap fun entry => (modelFields entry.2).map FieldSpec.name

/-- The fields that a valid reference stands for. -/
def denotes (label reference : String) (field : FieldSpec) : Bool :=
  label ++ "." ++ field.name == reference ||
    (field.name == reference && (simpleNames parsed).count reference == 1)

def validatorMatches (reference : String) : List (String × FieldSpec) :=
  parsed.flatMap fun entry =>
    match get nodes entry.1 with
    | some node =>
        ((modelFields entry.2).filter (denotes parsed (nodeLabel schemas entry.1 node) reference)).map
          (Prod.mk entry.1)
    | none => []

/-- The payloads of the nodes. -/
def payloads : List (String × ParsedPayload) := (gather (parsePayload schemas) nodes).toOption.getD []

/-- The rules, guards and invariants of a graph. -/
def expressions : List Expression := (payloads schemas nodes).flatMap fun entry => behaviorExpressions entry.2

/-- What stands after the last dot. -/
def lastPart (text : List Char) : List Char := (text.splitOn '.').getLast (List.splitOn_ne_nil _ _)

variable {name : String} {text : List Char}

theorem splitReference_dotted {label : String} (plain : '.' ∉ name.toList) :
    splitReference (label ++ "." ++ name) = (some (String.ofList (lastPart label.toList)), name) := by
  have parts : (label ++ "." ++ name).toList.splitOn '.' = label.toList.splitOn '.' ++ [name.toList] := by
    rw [String.toList_append, String.toList_append, List.append_assoc]
    change (label.toList ++ '.' :: name.toList).splitOn '.' = _
    rw [List.splitOn_append_cons_of_beq _ _ (beq_self_eq_true '.'), List.splitOn_eq_singleton plain]
  have last : ∃ earlier, label.toList.splitOn '.' = earlier ++ [lastPart label.toList] :=
    ⟨_, (List.dropLast_append_getLast (List.splitOn_ne_nil '.' label.toList)).symm⟩
  obtain ⟨earlier, split⟩ := last
  rw [splitReference, parts, split, List.reverse_append, List.reverse_singleton, List.singleton_append,
    List.reverse_append, List.reverse_singleton, List.singleton_append]
  change (some (String.ofList (lastPart label.toList)), String.ofList name.toList) = _
  rw [String.ofList_toList]

theorem splitReference_simple (plain : '.' ∉ name.toList) : splitReference name = (none, name) := by
  rw [splitReference, List.splitOn_eq_singleton plain]
  change (none, String.ofList name.toList) = _
  rw [String.ofList_toList]

/-- A text is split off at its last dot. -/
theorem last_dot (dotted : '.' ∈ text) :
    ∃ before last, text = before ++ '.' :: last ∧ '.' ∉ last := by
  induction text with
  | nil => cases dotted
  | cons c rest ih =>
      by_cases inside : '.' ∈ rest
      · obtain ⟨before, last, split, plain⟩ := ih inside
        exact ⟨c :: before, last, by rw [split]; rfl, plain⟩
      · obtain rfl := (List.mem_cons.mp dotted).resolve_right inside
        exact ⟨[], rest, rfl, inside⟩

theorem lastPart_plain (plain : '.' ∉ text) : lastPart text = text := by
  simp only [lastPart, List.splitOn_eq_singleton plain, List.getLast_singleton]

theorem lastPart_dotted (before : List Char) {last : List Char} (plain : '.' ∉ last) :
    lastPart (before ++ '.' :: last) = last := by
  simp only [lastPart, List.splitOn_append_cons_of_beq _ _ (beq_self_eq_true '.'), List.splitOn_eq_singleton plain,
    List.getLast_append_singleton]

theorem lastPart_eq_iff (text : List Char) : lastPart text = text ↔ '.' ∉ text := by
  constructor
  · intro same dotted
    obtain ⟨before, last, rfl, plain⟩ := last_dot dotted
    rw [lastPart_dotted before plain] at same
    have lengths := congrArg List.length same
    rw [List.length_append, List.length_cons] at lengths
    omega
  · exact lastPart_plain

theorem afterColon_plain (plain : ':' ∉ text) : afterColon text = text := by
  have dropped : text.dropWhile (· != ':') = [] := by
    rw [List.dropWhile_eq_nil_iff]
    intro c member
    exact bne_iff_ne.mpr fun same => plain (same ▸ member)
  rw [afterColon, dropped]

theorem afterColon_colon {before : List Char} (plain : ':' ∉ before) (rest : List Char) :
    afterColon (before ++ ':' :: rest) = rest := by
  have passed : ∀ c ∈ before, (c != ':') = true := by
    rintro c member
    exact bne_iff_ne.mpr fun same => plain (same ▸ member)
  rw [afterColon, List.dropWhile_append_of_pos passed]
  rfl

/-- The two defaults for a missing label agree on ids without a colon and a dot. -/
theorem afterColon_eq_lastPart_iff (text : List Char) :
    afterColon text = lastPart text ↔ ':' ∉ text ∧ '.' ∉ text := by
  constructor
  · intro same
    by_cases colon : ':' ∈ text
    · obtain ⟨before, rest, split, first⟩ := List.eq_append_cons_of_mem colon
      have after : lastPart text = rest := by rw [← same, split, afterColon_colon first]
      by_cases dot : '.' ∈ text
      · -- the first colon and the last dot would stand at one place
        obtain ⟨earlier, last, divided, plain⟩ := last_dot dot
        rw [divided, lastPart_dotted earlier plain] at after
        rw [split, after] at divided
        have places := List.append_inj_right' divided rfl
        exact absurd (List.cons.inj places).1 (by decide)
      · rw [lastPart_plain dot] at after
        have lengths := congrArg List.length (split.symm.trans after)
        rw [List.length_append, List.length_cons] at lengths
        omega
    · rw [afterColon_plain colon] at same
      exact ⟨colon, (lastPart_eq_iff text).mp same.symm⟩
  · rintro ⟨colon, dot⟩
    rw [afterColon_plain colon, lastPart_plain dot]

end

section

/-- A field of a data model, with the node that declares it. -/
structure Declaration where
  id : String
  node : Node
  field : FieldSpec
  deriving DecidableEq

variable (schemas : Schemas)

def payloadFields (node : Node) : List FieldSpec :=
  match validateBehaviorPayload schemas node with
  | some (some parsed) => modelFields parsed
  | _ => []

def declarations (nodes : Dict String Node) : List Declaration :=
  nodes.flatMap fun entry => (payloadFields schemas entry.2).map (Declaration.mk entry.1 entry.2)

namespace Declaration

/-- The label that the validator reads. -/
def label (declaration : Declaration) : String := nodeLabel schemas declaration.id declaration.node

/-- The name that the data model has in the plan. -/
def name (declaration : Declaration) : String := nodeText schemas (labelOf (declaration.id, declaration.node))

def entry (declaration : Declaration) : String × FieldSpec := (declaration.id, declaration.field)

/-- An explicit label without a dot, or an id without a colon and a dot. -/
def PlainlyNamed (declaration : Declaration) : Prop :=
  match get declaration.node.properties "label" with
  | some label => '.' ∉ (nodeText schemas label).toList
  | none => ':' ∉ declaration.id.toList ∧ '.' ∉ declaration.id.toList

theorem plainlyNamed_iff (declaration : Declaration) : declaration.PlainlyNamed schemas ↔
    (declaration.name schemas).toList = lastPart (declaration.label schemas).toList := by
  rw [PlainlyNamed, name, label, labelOf, nodeLabel]
  cases get declaration.node.properties "label" with
  | some found =>
      change _ ↔ (nodeText schemas found).toList = lastPart (nodeText schemas found).toList
      rw [eq_comm, lastPart_eq_iff]
  | none =>
      change _ ↔ (String.ofList (afterColon declaration.id.toList)).toList = lastPart declaration.id.toList
      rw [String.toList_ofList, afterColon_eq_lastPart_iff]

/-- The label of a plainly named model has no dot and is its name in the plan. -/
theorem PlainlyNamed.label_plain {declaration : Declaration} (named : declaration.PlainlyNamed schemas) :
    '.' ∉ (declaration.label schemas).toList ∧ declaration.name schemas = declaration.label schemas := by
  have plain : '.' ∉ (declaration.label schemas).toList := by
    rw [PlainlyNamed] at named
    rw [label, nodeLabel]
    cases found : get declaration.node.properties "label" with
    | some text =>
        rw [found] at named
        exact named
    | none =>
        rw [found] at named
        exact named.2
  have same := (plainlyNamed_iff schemas declaration).mp named
  rw [lastPart_plain plain] at same
  exact ⟨plain, String.toList_inj.mp same⟩

end Declaration

variable {schemas} {nodes : Dict String Node}

theorem fieldName_plain (field : FieldSpec) : '.' ∉ field.name.toList := by
  have pattern := field.named
  rw [fieldNamePattern] at pattern
  cases characters : field.name.toList with
  | nil => exact List.not_mem_nil
  | cons first rest =>
      rw [characters] at pattern
      simp only [Bool.and_eq_true, List.all_eq_true] at pattern
      intro dotted
      rcases List.mem_cons.mp dotted with rfl | inside
      · exact absurd pattern.1.1 (by decide)
      · exact absurd (pattern.2 '.' inside) (by decide)

/-- A dotted text says where the label ends. -/
theorem qualified_inj {label other : String} {field same : FieldSpec}
    (equal : label ++ "." ++ field.name = other ++ "." ++ same.name) : label = other ∧ field.name = same.name := by
  -- field names have no dot, so both texts are split at the same place
  have parts := congrArg splitReference equal
  rw [splitReference_dotted (fieldName_plain field), splitReference_dotted (fieldName_plain same)] at parts
  have names : field.name = same.name := congrArg Prod.snd parts
  rw [names] at equal
  exact ⟨(String.append_left_inj _).mp ((String.append_left_inj _).mp equal), names⟩

theorem qualified_dotted (label name : String) : '.' ∈ (label ++ "." ++ name).toList := by
  rw [String.toList_append, String.toList_append]
  exact List.mem_append_left _ (List.mem_append_right _ (List.mem_singleton_self _))

theorem payloadFields_other {node : Node} (other : node.type ≠ .dataModel) : payloadFields schemas node = [] := by
  rw [payloadFields, validateBehaviorPayload]
  cases get node.properties "behavior" with
  | none => rfl
  | some payload =>
      obtain ⟨id, type, properties⟩ := node
      dsimp only at other ⊢
      cases schemas.validate type payload with
      | none => rfl
      | some behavior =>
          cases type with
          | dataModel => exact absurd rfl other
          | _ => rfl

theorem payloadFields_model {entry : String × Node} {behavior : Option (Behavior .dataModel)}
    (model : entry.2.type = .dataModel) (parsed : behaviorOf schemas .dataModel entry = .ok behavior) (name : String) :
    payloadFields schemas entry.2 = behaviorFields ⟨entry.1, name, behavior⟩ := by
  obtain ⟨id, nodeId, type, properties⟩ := entry
  dsimp only at model
  subst model
  rw [behaviorOf] at parsed
  rw [payloadFields, validateBehaviorPayload]
  dsimp only at parsed ⊢
  cases found : get properties "behavior" with
  | none =>
      rw [found] at parsed
      cases parsed
      rfl
  | some payload =>
      cases valid : schemas.validate .dataModel payload with
      | none =>
          simp only [found, valid] at parsed
          cases parsed
      | some behavior =>
          simp only [found, valid] at parsed
          cases parsed
          simp only [valid, Option.map_some]
          rfl

/-- The payloads of a graph whose nodes all parse. -/
theorem payloads_eq {parsed : List (String × ParsedPayload)}
    (gathered : gather (parsePayload schemas) nodes = .ok parsed) : payloads schemas nodes = parsed := by
  rw [payloads, gathered]
  rfl

theorem parsePayload_ok {entry : String × Node} {found : Option (String × ParsedPayload)}
    (ok : parsePayload schemas entry = .ok found) :
    ((found = none ∧ payloadFields schemas entry.2 = []) ∨
        ∃ parsed, found = some (entry.1, parsed) ∧ modelFields parsed = payloadFields schemas entry.2) ∧
      ((payloadFields schemas entry.2).map FieldSpec.name).Nodup := by
  rw [parsePayload] at ok
  rw [payloadFields]
  cases payload : validateBehaviorPayload schemas entry.2 with
  | none =>
      rw [payload] at ok
      cases ok
  | some parsed =>
      rw [payload] at ok
      cases parsed with
      | none =>
          cases ok
          exact ⟨.inl ⟨rfl, rfl⟩, List.nodup_nil⟩
      | some parsed =>
          dsimp only at ok ⊢
          split at ok
          · rename_i distinct
            cases ok
            refine ⟨.inr ⟨parsed, rfl, rfl⟩, ?_⟩
            obtain ⟨type, behavior⟩ := parsed
            cases type with
            | dataModel => exact of_decide_eq_true distinct
            | _ => exact List.nodup_nil
          · cases ok

variable {parsed : List (String × ParsedPayload)}

/-- What is gathered from the payloads of the data models is gathered from the declarations. -/
theorem flatMap_payloads {Result : Type} (gathered : gather (parsePayload schemas) nodes = .ok parsed)
    (read : String → List FieldSpec → List Result) (empty : ∀ id, read id [] = []) :
    (parsed.flatMap fun entry => read entry.1 (modelFields entry.2)) =
      nodes.flatMap fun entry => read entry.1 (payloadFields schemas entry.2) := by
  obtain ⟨all, collected⟩ := gather_ok gathered
  rw [collected, List.filterMap_eq_flatMap_toList, List.flatMap_assoc]
  refine List.flatMap_congr fun entry member => ?_
  obtain ⟨found, ok⟩ := all entry member
  rw [ok]
  rcases (parsePayload_ok ok).1 with ⟨rfl, none⟩ | ⟨payload, rfl, same⟩
  · rw [none, empty]
    rfl
  · rw [← same]
    exact List.flatMap_singleton _ _

theorem simpleNames_eq (gathered : gather (parsePayload schemas) nodes = .ok parsed) :
    simpleNames parsed = (declarations schemas nodes).map fun declaration => declaration.field.name := by
  rw [simpleNames, flatMap_payloads gathered (fun _ fields => fields.map FieldSpec.name) fun _ => rfl, declarations,
    List.map_flatMap]
  refine List.flatMap_congr fun entry _ => ?_
  rw [List.map_map]
  rfl

/-- The validator matches declarations by their labels. -/
theorem validatorMatches_eq (distinct : (keys nodes).Nodup)
    (gathered : gather (parsePayload schemas) nodes = .ok parsed) (reference : String) :
    validatorMatches schemas nodes parsed reference =
      ((declarations schemas nodes).filter fun declaration =>
        denotes parsed (declaration.label schemas) reference declaration.field).map Declaration.entry := by
  have read := flatMap_payloads gathered (fun id fields => match get nodes id with
    | some node => (fields.filter (denotes parsed (nodeLabel schemas id node) reference)).map (Prod.mk id)
    | none => []) (fun id => by cases get nodes id <;> rfl)
  rw [validatorMatches, read, declarations, List.filter_flatMap, List.map_flatMap]
  refine List.flatMap_congr fun entry member => ?_
  rw [get_of_mem distinct member, List.filter_map, List.map_map]
  rfl

/-- What validation finds of a reference is what it takes it to denote. -/
theorem validRefs_iff (distinct : (keys nodes).Nodup) (gathered : gather (parsePayload schemas) nodes = .ok parsed)
    (reference : String) : reference ∈ validRefs schemas nodes parsed ↔
      ∃ declaration ∈ declarations schemas nodes,
        denotes parsed (declaration.label schemas) reference declaration.field = true := by
  have qualified : (parsed.flatMap fun entry => (modelFields entry.2).map fun field =>
      (match get nodes entry.1 with
        | some node => nodeText schemas ((get node.properties "label").getD (.str entry.1))
        | none => entry.1) ++ "." ++ field.name) =
      (declarations schemas nodes).map fun declaration =>
        declaration.label schemas ++ "." ++ declaration.field.name := by
    rw [flatMap_payloads gathered (fun id fields => fields.map fun field =>
      (match get nodes id with
        | some node => nodeText schemas ((get node.properties "label").getD (.str id))
        | none => id) ++ "." ++ field.name) fun _ => rfl, declarations, List.map_flatMap]
    refine List.flatMap_congr fun entry member => ?_
    rw [get_of_mem distinct member, List.map_map]
    rfl
  have names := simpleNames_eq gathered
  have valid : validRefs schemas nodes parsed =
      ((declarations schemas nodes).map fun declaration =>
        declaration.label schemas ++ "." ++ declaration.field.name) ++
        (simpleNames parsed).filter fun name => (simpleNames parsed).count name == 1 := by
    rw [← qualified]
    rfl
  rw [valid, List.mem_append, List.mem_map, List.mem_filter, beq_iff_eq]
  simp only [denotes, Bool.or_eq_true, Bool.and_eq_true, beq_iff_eq]
  constructor
  · rintro (⟨declaration, listed, same⟩ | ⟨inside, once⟩)
    · exact ⟨declaration, listed, .inl same⟩
    · have member := inside
      rw [names] at member
      obtain ⟨declaration, listed, same⟩ := List.mem_map.mp member
      exact ⟨declaration, listed, .inr ⟨same, once⟩⟩
  · rintro ⟨declaration, listed, same | ⟨same, once⟩⟩
    · exact .inl ⟨declaration, listed, same⟩
    · refine .inr ⟨?_, once⟩
      rw [names]
      exact List.mem_map.mpr ⟨declaration, listed, same⟩

/-- The oracle matches declarations by the names of their models. -/
theorem fieldMatches_eq {revision : Revision} {plan : Plan} (lowered : isrToPlan schemas revision = .ok plan)
    (reference : String) :
    fieldMatches plan reference =
      ((declarations schemas revision.graph.nodes).filter fun declaration =>
        owned (splitReference reference).1 (declaration.name schemas) &&
          declaration.field.name == (splitReference reference).2).map Declaration.entry := by
  obtain ⟨stages, rfl⟩ := (isrToPlan_ok_iff revision plan).mp lowered
  have collected := collectNodes_collected revision.graph.distinctNodes stages.collect
  generalize splits : splitReference reference = split
  obtain ⟨owner, fieldName⟩ := split
  rw [fieldMatches, splits]
  change (stages.index.dataModels.map Prod.snd).flatMap _ = _
  rw [collected.dataModels, carriersOf, List.filterMap_eq_flatMap_toList, List.map_flatMap, List.flatMap_assoc,
    declarations, List.filter_flatMap, List.map_flatMap]
  refine List.flatMap_congr fun entry member => ?_
  rw [List.filter_map, List.map_map]
  by_cases kind : entry.2.type = .dataModel
  · obtain ⟨model, built⟩ := collected.allDataModels entry member kind
    obtain ⟨behavior, name, parsed, named, rfl⟩ := (lowerNamed_ok_iff _ _ _ _).mp built
    have called : nodeText schemas (labelOf entry) = name := by
      rw [labelOf_of_carrierName named]
      rfl
    rw [if_pos kind, built, payloadFields_model kind parsed name]
    have same : ∀ field ∈ behaviorFields ⟨entry.1, name, behavior⟩,
        ((fun declaration => owned owner (declaration.name schemas) && declaration.field.name == fieldName) ∘
          Declaration.mk entry.1 entry.2) field = (owned owner name && field.name == fieldName) := by
      intro field _
      rw [← called]
      rfl
    rw [List.filter_congr same]
    change List.flatMap _ [(⟨entry.1, name, behavior⟩ : DataModel)] = _
    rw [List.flatMap_singleton]
    cases owned owner name with
    | true => rfl
    | false => simp
  · rw [if_neg kind, payloadFields_other kind]
    rfl

end

section

variable {schemas : Schemas} {nodes : Dict String Node} {parsed : List (String × ParsedPayload)}

theorem checkReferences_ok {policyIds refs : List String} {entry : String × ParsedPayload}
    (checked : checkReferences policyIds refs entry = .ok ()) {expression : Expression}
    (listed : expression ∈ behaviorExpressions entry.2) {reference : String}
    (read : reference ∈ expressionFieldRefs expression) : reference ∈ refs := by
  have all : checkAll (fun expression =>
      let unknown := sortedSet ((expressionFieldRefs expression).filter fun ref => !refs.contains ref)
      require unknown.isEmpty (BehavioralContractViolation.unknownFields entry.1 unknown))
      (behaviorExpressions entry.2) = .ok () := by
    rw [checkReferences] at checked
    split at checked
    · obtain ⟨_, _, rest⟩ := bind_ok checked
      exact rest
    · exact checked
  have known := (require_ok_iff _ _).mp ((checkAll_ok_iff _ _).mp all expression listed)
  rw [sortedSet_isEmpty, List.filter_eq_nil_iff] at known
  simpa using known reference read

theorem accepted_references {graph : Graph} (accepted : validateBehavioralGraph schemas graph = .ok ()) :
    gather (parsePayload schemas) graph.nodes = .ok (payloads schemas graph.nodes) ∧
      ∀ expression ∈ expressions schemas graph.nodes, ∀ reference ∈ expressionFieldRefs expression,
        reference ∈ validRefs schemas graph.nodes (payloads schemas graph.nodes) := by
  obtain ⟨parsed, gathered, rest⟩ := bind_ok accepted
  obtain ⟨_, _, rest⟩ := bind_ok rest
  rw [expressions, payloads_eq gathered]
  refine ⟨gathered, fun expression inside reference read => ?_⟩
  obtain ⟨entry, member, listed⟩ := List.mem_flatMap.mp inside
  exact checkReferences_ok ((checkAll_ok_iff _ _).mp rest entry member) listed read

/-- A declaration is known by its model and its field name. -/
theorem declaration_unique (distinct : (keys nodes).Nodup)
    (gathered : gather (parsePayload schemas) nodes = .ok parsed) {left right : Declaration}
    (leftListed : left ∈ declarations schemas nodes)
    (rightListed : right ∈ declarations schemas nodes) (ids : left.id = right.id)
    (names : left.field.name = right.field.name) : left = right := by
  obtain ⟨entry, member, inside⟩ := List.mem_flatMap.mp leftListed
  obtain ⟨field, held, rfl⟩ := List.mem_map.mp inside
  obtain ⟨other, otherMember, inside⟩ := List.mem_flatMap.mp rightListed
  obtain ⟨otherField, otherHeld, rfl⟩ := List.mem_map.mp inside
  obtain rfl : entry = other := by
    have found := get_of_mem distinct member
    have same : entry.1 = other.1 := ids
    rw [same, get_of_mem distinct otherMember] at found
    exact Prod.ext same (Option.some.inj found).symm
  obtain ⟨found, ok⟩ := (gather_ok gathered).1 entry member
  rw [List.inj_on_of_nodup_map (parsePayload_ok ok).2 held otherHeld names]

theorem declarations_nodup (distinct : (keys nodes).Nodup)
    (gathered : gather (parsePayload schemas) nodes = .ok parsed) : (declarations schemas nodes).Nodup := by
  rw [declarations, List.nodup_flatMap]
  constructor
  · intro entry member
    obtain ⟨found, ok⟩ := (gather_ok gathered).1 entry member
    refine (List.Nodup.of_map FieldSpec.name (parsePayload_ok ok).2).map ?_
    exact fun left right same => congrArg Declaration.field same
  · refine (List.pairwise_map.mp distinct).imp fun {left right} different declaration here there => ?_
    obtain ⟨_, _, rfl⟩ := List.mem_map.mp here
    obtain ⟨_, _, same⟩ := List.mem_map.mp there
    exact different (congrArg Declaration.id same).symm

end

variable (schemas : Schemas) (graph : Graph) (plan : Plan)

/-- Each reference is to one field, the same for the validator and the oracle, and every expression has a context. -/
structure Resolved : Prop where
  alike : ∀ expression ∈ expressions schemas graph.nodes, ∀ reference ∈ expressionFieldRefs expression,
    ∃ id field, fieldMatches plan reference = [(id, field)] ∧
      validatorMatches schemas graph.nodes (payloads schemas graph.nodes) reference = [(id, field)]
  sampled : ∀ expression ∈ expressions schemas graph.nodes, ∃ context, sampleContext expression plan = .ok context

/-- A data model that a dotted reference names is plainly named, and no other model with the field has its label, in
the graph or in the plan. -/
def PlainReferences : Prop :=
  ∀ expression ∈ expressions schemas graph.nodes, ∀ reference ∈ expressionFieldRefs expression,
    ∀ declaration ∈ declarations schemas graph.nodes,
      declaration.label schemas ++ "." ++ declaration.field.name = reference →
        declaration.PlainlyNamed schemas ∧
        ∀ other ∈ declarations schemas graph.nodes, other.field.name = declaration.field.name →
          (other.label schemas = declaration.label schemas ∨ other.name schemas = declaration.label schemas) →
            other.id = declaration.id

variable {schemas graph plan}

theorem filter_eq_singleton {Item : Type} [DecidableEq Item] {keep : Item → Bool} {items : List Item} {item : Item}
    (distinct : items.Nodup) (only : ∀ other ∈ items, keep other = true ↔ other = item) (listed : item ∈ items) :
    items.filter keep = [item] := by
  have same : items.filter keep = items.filter (· == item) :=
    List.filter_congr fun other member => by rw [Bool.eq_iff_iff, only other member, beq_iff_eq]
  rw [same, List.filter_beq, List.count_eq_one_of_mem distinct listed]
  rfl

/-- A context is made of an expression whose references each match one field. -/
theorem sampleContext_ok {expression : Expression}
    (matched : ∀ reference ∈ expressionFieldRefs expression, ∃ id field, fieldMatches plan reference = [(id, field)]) :
    ∃ context, sampleContext expression plan = .ok context := by
  have each : ∀ reference ∈ sortedSet (expressionFieldRefs expression),
      ∃ found, sampleField plan reference = .ok found := by
    intro reference member
    obtain ⟨id, field, one⟩ := matched reference (mem_sortedSet.mp member)
    exact ⟨some (reference, sampleValue field.valueType), by rw [sampleField, one]⟩
  rw [sampleContext]
  revert each
  generalize sortedSet (expressionFieldRefs expression) = references
  intro each
  induction references with
  | nil => exact ⟨[], rfl⟩
  | cons reference rest ih =>
      obtain ⟨found, here⟩ := each reference List.mem_cons_self
      obtain ⟨later, context⟩ := ih fun other member => each other (List.mem_cons_of_mem _ member)
      exact ⟨found.toList ++ later, by rw [gather, here, context]⟩

variable {declaration : Declaration}

theorem entry_of_singleton {items : List Declaration} {keep : Declaration → Bool} {entry : String × FieldSpec}
    (one : (items.filter keep).map Declaration.entry = [entry])
    (listed : declaration ∈ items) (kept : keep declaration = true) : declaration.entry = entry := by
  have member : declaration.entry ∈ (items.filter keep).map Declaration.entry :=
    List.mem_map_of_mem (List.mem_filter.mpr ⟨listed, kept⟩)
  rwa [one, List.mem_singleton] at member

/-- What the validator takes a dotted reference to denote. -/
theorem denotes_dotted {parsed : List (String × ParsedPayload)} (declaration other : Declaration) :
    denotes parsed (other.label schemas) (declaration.label schemas ++ "." ++ declaration.field.name) other.field =
        true ↔
      other.label schemas = declaration.label schemas ∧ other.field.name = declaration.field.name := by
  rw [denotes, Bool.or_eq_true, Bool.and_eq_true, beq_iff_eq, beq_iff_eq]
  constructor
  · rintro (same | ⟨same, _⟩)
    · exact qualified_inj same
    · exact absurd (same ▸ qualified_dotted _ _) (fieldName_plain other.field)
  · rintro ⟨labels, names⟩
    rw [labels, names]
    exact .inl rfl

/-- What the oracle matches with it. -/
theorem owned_dotted (declaration other : Declaration) :
    (owned (splitReference (declaration.label schemas ++ "." ++ declaration.field.name)).1 (other.name schemas) &&
      other.field.name == (splitReference (declaration.label schemas ++ "." ++ declaration.field.name)).2) = true ↔
      (other.name schemas).toList = lastPart (declaration.label schemas).toList ∧
        other.field.name = declaration.field.name := by
  rw [splitReference_dotted (fieldName_plain declaration.field), Bool.and_eq_true, beq_iff_eq]
  change (other.name schemas == String.ofList _) = true ∧ _ ↔ _
  rw [beq_iff_eq, ← String.toList_inj, String.toList_ofList]

variable {revision : Revision}

/-- A dotted reference is to the one plainly named model that has its label. -/
theorem alike_dotted (accepted : validateBehavioralGraph schemas revision.graph = .ok ())
    (lowered : isrToPlan schemas revision = .ok plan)
    (listed : declaration ∈ declarations schemas revision.graph.nodes) :
    (∃ id field, fieldMatches plan (declaration.label schemas ++ "." ++ declaration.field.name) = [(id, field)] ∧
      validatorMatches schemas revision.graph.nodes (payloads schemas revision.graph.nodes)
        (declaration.label schemas ++ "." ++ declaration.field.name) = [(id, field)]) ↔
      declaration.PlainlyNamed schemas ∧
      ∀ other ∈ declarations schemas revision.graph.nodes, other.field.name = declaration.field.name →
        (other.label schemas = declaration.label schemas ∨ other.name schemas = declaration.label schemas) →
          other.id = declaration.id := by
  have gathered := (accepted_references accepted).1
  have distinct := revision.graph.distinctNodes
  rw [validatorMatches_eq distinct gathered, fieldMatches_eq lowered]
  constructor
  · rintro ⟨id, field, oracle, validator⟩
    have own := entry_of_singleton validator listed ((denotes_dotted declaration declaration).mpr ⟨rfl, rfl⟩)
    have plain : declaration.PlainlyNamed schemas := by
      have matched : (id, field) ∈ [(id, field)] := List.mem_singleton_self _
      rw [← oracle] at matched
      obtain ⟨found, inside, same⟩ := List.mem_map.mp matched
      obtain ⟨held, kept⟩ := List.mem_filter.mp inside
      -- the field that the oracle found is the one that is declared here
      have entry := same.trans own.symm
      have one : found = declaration :=
        declaration_unique distinct gathered held listed (congrArg Prod.fst entry)
          (congrArg (fun entry => entry.2.name) entry)
      rw [one] at kept
      exact (declaration.plainlyNamed_iff schemas).mpr ((owned_dotted declaration declaration).mp kept).1
    refine ⟨plain, fun other member names called => ?_⟩
    rcases called with label | name
    · have same := entry_of_singleton validator member ((denotes_dotted declaration other).mpr ⟨label, names⟩)
      exact congrArg Prod.fst (same.trans own.symm)
    · -- the owner that the oracle reads is the whole label
      have unsplit := lastPart_plain plain.label_plain.1
      have same := entry_of_singleton oracle member
        ((owned_dotted declaration other).mpr ⟨by rw [unsplit, name], names⟩)
      exact congrArg Prod.fst (same.trans own.symm)
  · rintro ⟨plain, alone⟩
    have unsplit := lastPart_plain plain.label_plain.1
    have nodup := declarations_nodup distinct gathered
    have same : ∀ other ∈ declarations schemas revision.graph.nodes, other.field.name = declaration.field.name →
        (other.label schemas = declaration.label schemas ∨ other.name schemas = declaration.label schemas) →
          other = declaration :=
      fun other member names called =>
        declaration_unique distinct gathered member listed (alone other member names called) names
    refine ⟨declaration.id, declaration.field, ?_, ?_⟩
    · rw [filter_eq_singleton nodup (fun other member => ?_) listed]
      · rfl
      · rw [owned_dotted, unsplit]
        constructor
        · rintro ⟨name, names⟩
          exact same other member names (.inr (String.toList_inj.mp name))
        · rintro rfl
          exact ⟨by rw [plain.label_plain.2], rfl⟩
    · rw [filter_eq_singleton nodup (fun other member => ?_) listed]
      · rfl
      · rw [denotes_dotted]
        constructor
        · rintro ⟨label, names⟩
          exact same other member names (.inl label)
        · rintro rfl
          exact ⟨rfl, rfl⟩

/-- A reference without a dot is to the one field of its name. -/
theorem alike_simple (accepted : validateBehavioralGraph schemas revision.graph = .ok ())
    (lowered : isrToPlan schemas revision = .ok plan)
    (listed : declaration ∈ declarations schemas revision.graph.nodes)
    (once : (simpleNames (payloads schemas revision.graph.nodes)).count declaration.field.name = 1) :
    ∃ id field, fieldMatches plan declaration.field.name = [(id, field)] ∧
      validatorMatches schemas revision.graph.nodes (payloads schemas revision.graph.nodes) declaration.field.name =
        [(id, field)] := by
  have gathered := (accepted_references accepted).1
  have distinct := revision.graph.distinctNodes
  -- a name that is counted once is of one declaration
  have only : ∀ other ∈ declarations schemas revision.graph.nodes, other.field.name = declaration.field.name →
      other = declaration := by
    rw [simpleNames_eq gathered, List.count, List.countP_map, List.countP_eq_length_filter] at once
    obtain ⟨one, single⟩ := List.length_eq_one_iff.mp once
    have held : ∀ other ∈ declarations schemas revision.graph.nodes, other.field.name = declaration.field.name →
        other = one := by
      intro other member named
      have kept : other ∈ List.filter
          ((fun name => name == declaration.field.name) ∘ fun declaration => declaration.field.name)
          (declarations schemas revision.graph.nodes) := List.mem_filter.mpr ⟨member, beq_iff_eq.mpr named⟩
      rwa [single, List.mem_singleton] at kept
    intro other member named
    rw [held other member named, held declaration listed rfl]
  have nodup := declarations_nodup distinct gathered
  rw [validatorMatches_eq distinct gathered, fieldMatches_eq lowered]
  refine ⟨declaration.id, declaration.field, ?_, ?_⟩
  · rw [filter_eq_singleton nodup (fun other member => ?_) listed]
    · rfl
    · rw [splitReference_simple (fieldName_plain declaration.field)]
      change (true && other.field.name == declaration.field.name) = true ↔ _
      rw [Bool.true_and, beq_iff_eq]
      exact ⟨only other member, fun same => by rw [same]⟩
  · rw [filter_eq_singleton nodup (fun other member => ?_) listed]
    · rfl
    · rw [denotes, once, Bool.or_eq_true, Bool.and_eq_true, beq_iff_eq, beq_iff_eq]
      constructor
      · rintro (same | ⟨same, _⟩)
        · exact absurd (same ▸ qualified_dotted _ _) (fieldName_plain declaration.field)
        · exact only other member same
      · rintro rfl
        exact .inr ⟨rfl, rfl⟩

/-- Validator and oracle resolve every reference alike exactly on plain references. -/
theorem resolved_iff_plain (accepted : validateBehavioralGraph schemas revision.graph = .ok ())
    (lowered : isrToPlan schemas revision = .ok plan) :
    Resolved schemas revision.graph plan ↔ PlainReferences schemas revision.graph := by
  constructor
  · intro resolved expression inside reference read declaration listed same
    have alike := resolved.alike expression inside reference read
    rw [← same] at alike
    exact (alike_dotted accepted lowered listed).mp alike
  · intro plain
    have alike : ∀ expression ∈ expressions schemas revision.graph.nodes,
        ∀ reference ∈ expressionFieldRefs expression, ∃ id field, fieldMatches plan reference = [(id, field)] ∧
          validatorMatches schemas revision.graph.nodes (payloads schemas revision.graph.nodes) reference =
            [(id, field)] := by
      intro expression inside reference read
      obtain ⟨gathered, valid⟩ := accepted_references accepted
      obtain ⟨declaration, listed, denoted⟩ :=
        (validRefs_iff revision.graph.distinctNodes gathered reference).mp (valid expression inside reference read)
      rw [denotes, Bool.or_eq_true, Bool.and_eq_true, beq_iff_eq, beq_iff_eq, beq_iff_eq] at denoted
      -- a valid reference is label.field of a model, or a name that one model declares
      rcases denoted with rfl | ⟨rfl, once⟩
      · exact (alike_dotted accepted lowered listed).mpr (plain expression inside _ read declaration listed rfl)
      · exact alike_simple accepted lowered listed once
    refine ⟨alike, fun expression inside => sampleContext_ok fun reference read => ?_⟩
    obtain ⟨id, field, matched, _⟩ := alike expression inside reference read
    exact ⟨id, field, matched⟩

def paidField : FieldSpec where
  name := "paid"
  valueType := .boolean

def paidPayload : Json :=
  .obj [("fields", .arr [.obj [("name", .str "paid"), ("value_type", .str "boolean")]])]

def rulesPayload (reference : String) : Json :=
  .obj [("rules", .arr [.obj [("rule_id", .str "paid"), ("description", .str "Orders are paid."),
    ("expression", .obj [("op", .str "field"), ("field_ref", .str reference)])]])]

/-- The schemas on the payloads of the two nodes. -/
def orderSchemas (reference : String) : Schemas where
  validate
    | .dataModel, payload => if payload = paidPayload then some { fields := [paidField] } else none
    | .service, payload =>
        if payload = rulesPayload reference then
          some { rules := [⟨"paid", "Orders are paid.", .field reference⟩] }
        else none
    | _, _ => none
  str := fun _ => "None"

def orderNode (label : Dict String Json) : Node where
  id := "dm:order"
  type := .dataModel
  properties := label ++ [("behavior", paidPayload)]

def orderGraph (label : Dict String Json) (reference : String) : Graph where
  nodes := [("dm:order", orderNode label),
    ("service:shop", { id := "service:shop", type := .service, properties := [("behavior", rulesPayload reference)] })]
  edges := [("e1", { id := "e1", type := .persists, sourceId := "service:shop", targetId := "dm:order" })]
  distinctNodes := List.nodup_cons.mpr ⟨by simp, List.nodup_singleton _⟩

def orderRevision (label : Dict String Json) (reference : String) : Revision where
  systemId := "shop"
  revisionId := "r0"
  schemaVersion := "1.0"
  graph := orderGraph label reference
  contentHash := ""

/-- A rule that names the field by the label of its model. -/
theorem labelled_resolved : ∃ plan,
    isrToPlan (orderSchemas "Order.paid") (orderRevision [("label", .str "Order")] "Order.paid") = .ok plan ∧
      Resolved (orderSchemas "Order.paid") (orderRevision [("label", .str "Order")] "Order.paid").graph plan := by
  refine ⟨_, rfl, (@resolved_iff_plain _ _ (orderRevision [("label", .str "Order")] "Order.paid") rfl rfl).mpr ?_⟩
  intro expression _ reference _ declaration listed _
  have declared : declarations (orderSchemas "Order.paid") (orderGraph [("label", .str "Order")] "Order.paid").nodes =
      [⟨"dm:order", orderNode [("label", .str "Order")], paidField⟩] := rfl
  change declaration ∈ declarations _ (orderGraph _ _).nodes at listed
  rw [declared, List.mem_singleton] at listed
  subst listed
  have plain : '.' ∉ "Order".toList := by decide
  refine ⟨plain, fun other member _ _ => ?_⟩
  change other ∈ declarations _ (orderGraph _ _).nodes at member
  rw [declared, List.mem_singleton] at member
  rw [member]

/-- A rule that names the field by the id of its model, which has no label: it is accepted and has no context. -/
theorem unlabelled_unresolved :
    validateBehavioralGraph (orderSchemas "dm:order.paid") (orderRevision [] "dm:order.paid").graph = .ok () ∧
    ∃ plan, isrToPlan (orderSchemas "dm:order.paid") (orderRevision [] "dm:order.paid") = .ok plan ∧
      sampleContext (.field "dm:order.paid") plan = .error (.undetermined "dm:order.paid") ∧
      ¬ Resolved (orderSchemas "dm:order.paid") (orderRevision [] "dm:order.paid").graph plan := by
  refine ⟨rfl, _, rfl, rfl, fun resolved => ?_⟩
  obtain ⟨context, sampled⟩ := resolved.sampled (.field "dm:order.paid") List.mem_cons_self
  cases sampled

end AutonomousApi.FieldResolution
