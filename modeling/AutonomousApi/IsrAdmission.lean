import AutonomousApi.IsrGraph

/-! What the invariants of an ISR graph ask of its texts, nodes and edges, and of a graph that
extends an admitted one by entries under new keys. The invariants forbid terms as whole words,
so text on two sides of a character that no term has is searched apart. -/

namespace AutonomousApi.IsrAdmission

open JsonValue OrderedMap IsrGraph FailFast PythonText

section

variable {table : CharTable}

/-- On ASCII characters the table is Python's. -/
structure AsciiFaithful (table : CharTable) : Prop where
  alnum : ∀ c : Char, c.toNat < 128 → table.isAlnum c = asciiTable.isAlnum c
  letters : ∀ c d : Char, c.toNat < 128 → d.toNat < 128 → table.sameLetter c d = asciiTable.sameLetter c d

def ascii (chars : List Char) : Bool := chars.all fun c => c.toNat < 128

theorem termAt_ascii (faithful : AsciiFaithful table) (term text : List Char) (plainTerm : ascii term = true)
    (plain : ascii text = true) : termAt table term text = termAt asciiTable term text := by
  induction term generalizing text with
  | nil =>
      cases text with
      | nil => rfl
      | cons c rest =>
          simp only [ascii, List.all_cons, Bool.and_eq_true, decide_eq_true_eq] at plain
          simp [termAt, isWord, faithful.alnum c plain.1]
  | cons t term ih =>
      cases text with
      | nil => rfl
      | cons c rest =>
          simp only [ascii, List.all_cons, Bool.and_eq_true, decide_eq_true_eq] at plain plainTerm
          rw [termAt, termAt, faithful.letters t c plainTerm.1 plain.1, ih rest plainTerm.2 plain.2]

theorem searchTerms_ascii (faithful : AsciiFaithful table) (terms : List String)
    (plainTerms : ∀ term ∈ terms, ascii term.toList = true) (afterWord : Bool) (text : List Char)
    (plain : ascii text = true) :
    searchTerms table terms afterWord text = searchTerms asciiTable terms afterWord text := by
  induction text generalizing afterWord with
  | nil => rfl
  | cons c rest ih =>
      have tail := plain
      simp only [ascii, List.all_cons, Bool.and_eq_true, decide_eq_true_eq] at tail
      have found : (terms.find? fun term => termAt table term.toList (c :: rest)) =
          terms.find? fun term => termAt asciiTable term.toList (c :: rest) := by
        clear ih
        induction terms with
        | nil => rfl
        | cons term others ih =>
            rw [List.find?_cons, List.find?_cons, termAt_ascii faithful _ _ (plainTerms term List.mem_cons_self) plain,
              ih fun other member => plainTerms other (List.mem_cons_of_mem term member)]
      have word : isWord table c = isWord asciiTable c := by rw [isWord, isWord, faithful.alnum c tail.1]
      rw [searchTerms, searchTerms, found, word, ih (isWord asciiTable c) tail.2]

/-- A character that belongs to no word and to no term. -/
def Break (table : CharTable) (terms : List String) (c : Char) : Prop :=
  isWord table c = false ∧ ∀ term ∈ terms, ∀ t ∈ term.toList, table.sameLetter t c = false

theorem termAt_break {term : List Char} {c : Char} (word : isWord table c = false)
    (outside : ∀ t ∈ term, table.sameLetter t c = false) (left right : List Char) :
    termAt table term (left ++ c :: right) = termAt table term left := by
  induction term generalizing left with
  | nil =>
      cases left with
      | nil => simp [termAt, word]
      | cons d rest => simp [termAt]
  | cons t term ih =>
      cases left with
      | nil => simp [termAt, outside t List.mem_cons_self]
      | cons d rest =>
          rw [List.cons_append, termAt, termAt,
              ih (fun other member => outside other (List.mem_cons_of_mem t member)) rest]

theorem find?_congr {Item : Type} {items : List Item} {test other : Item → Bool}
    (same : ∀ item ∈ items, test item = other item) : items.find? test = items.find? other := by
  induction items with
  | nil => rfl
  | cons item rest ih =>
      rw [List.find?_cons, List.find?_cons, same item List.mem_cons_self,
        ih fun inner member => same inner (List.mem_cons_of_mem item member)]

theorem searchTerms_break {terms : List String} {c : Char} (breaks : Break table terms c)
    (named : ∀ term ∈ terms, term.toList.isEmpty = false) (afterWord : Bool) (left right : List Char) :
    searchTerms table terms afterWord (left ++ c :: right) =
      (searchTerms table terms afterWord left <|> searchTerms table terms false right) := by
  induction left generalizing afterWord with
  | nil =>
      have missed : (if afterWord then none else terms.find? fun term => termAt table term.toList (c :: right)) =
          none := by
        split
        · rfl
        · rw [List.find?_eq_none]
          intro term member
          cases shape : term.toList with
          | nil => exact absurd (named term member) (by simp [shape])
          | cons t rest => simp [termAt, breaks.2 term member t (by simp [shape])]
      rw [List.nil_append, searchTerms, searchTerms, missed, breaks.1]
      rfl
  | cons d left ih =>
      have found : (terms.find? fun term => termAt table term.toList (d :: (left ++ c :: right))) =
          terms.find? fun term => termAt table term.toList (d :: left) :=
        find?_congr fun term member => termAt_break breaks.1 (breaks.2 term member) (d :: left) right
      rw [List.cons_append, searchTerms, searchTerms, found, ih]
      split <;> simp

end

section

variable (table : CharTable)

/-- No implementation term occurs. -/
def Unleaked (text : String) : Prop := searchTerms table forbiddenImplementationTerms false text.toList = none

/-- Neither an implementation term nor a testing mechanism occurs. -/
def Neutral (text : String) : Prop :=
  Unleaked table text ∧ searchTerms table testingMechanismTerms false text.toList = none

instance (text : String) : Decidable (Unleaked table text) := inferInstanceAs (Decidable (_ = _))

instance (text : String) : Decidable (Neutral table text) := inferInstanceAs (Decidable (_ ∧ _))

variable {table}

variable {text : String} {properties : Dict String Json}

theorem Neutral.ofAscii (faithful : AsciiFaithful table) (plain : ascii text.toList = true)
    (neutral : Neutral asciiTable text) : Neutral table text := by
  rw [Neutral, Unleaked, searchTerms_ascii faithful _ (by decide) _ _ plain,
    searchTerms_ascii faithful _ (by decide) _ _ plain]
  exact neutral

theorem neutral_nodeType (faithful : AsciiFaithful table) (type : NodeType) : Neutral table type.value :=
  .ofAscii faithful (by cases type <;> decide) (by cases type <;> decide)

theorem neutral_edgeType (faithful : AsciiFaithful table) (type : EdgeType) : Neutral table type.value :=
  .ofAscii faithful (by cases type <;> decide) (by cases type <;> decide)

/-- Text behind a colon is searched apart from what stands before it. -/
theorem neutral_colon (faithful : AsciiFaithful table) (head tail : String) :
    Neutral table (head ++ ":" ++ tail) ↔ Neutral table head ∧ Neutral table tail := by
  have word : isWord table ':' = false := by
    rw [isWord, faithful.alnum ':' (by decide)]
    decide
  have breaks (terms : List String) (plain : ∀ term ∈ terms, ascii term.toList = true)
      (outside : (terms.all fun term => term.toList.all fun t => !asciiTable.sameLetter t ':') = true) :
      Break table terms ':' := by
    refine ⟨word, fun term member t inside => ?_⟩
    rw [faithful.letters t ':' (by simpa using List.all_eq_true.mp (plain term member) t inside) (by decide)]
    simpa using List.all_eq_true.mp (List.all_eq_true.mp outside term member) t inside
  have split : (head ++ ":" ++ tail).toList = head.toList ++ ':' :: tail.toList := by simp
  rw [Neutral, Neutral, Neutral, Unleaked, Unleaked, Unleaked, split,
    searchTerms_break (breaks _ (by decide) (by decide)) (by decide),
    searchTerms_break (breaks _ (by decide) (by decide)) (by decide)]
  have apart (first second : Option String) : (first <|> second) = none ↔ first = none ∧ second = none := by
    cases first <;> simp
  rw [apart, apart]
  tauto

theorem checkTerms_ok_iff (terms : List String) (fault : String → IsrInvariantViolation) (texts : List String) :
    checkTerms table terms fault texts = .ok () ↔ ∀ text ∈ texts, searchTerms table terms false text.toList = none := by
  rw [checkTerms, checkAll_ok_iff]
  refine forall₂_congr fun text _ => ?_
  cases searchTerms table terms false text.toList <;> simp

/-- The texts of a mapping are its keys and what stands deeper in its values. -/
theorem mem_mappingStrings :
    text ∈ mappingStrings properties ↔ ∃ entry ∈ properties, text = entry.1 ∨ text ∈ deepStrings entry.2 := by
  rw [mappingStrings]
  induction properties with
  | nil => simp [entryStrings]
  | cons entry rest ih =>
      obtain ⟨key, value⟩ := entry
      simp [entryStrings, ih, or_assoc]

theorem mem_mappingStrings_of_get {key : String}
    (held : get properties key = some (.str text)) : text ∈ mappingStrings properties :=
  mem_mappingStrings.mpr ⟨_, mem_of_get held, .inr (by simp [deepStrings])⟩

end

section

variable {table : CharTable}

/-- An admitted edge joins two nodes of types its relation allows, and its properties are
unleaked. -/
theorem checkEdge_ok_iff (nodes : Dict String Node) (edge : Edge) :
    checkEdge table nodes edge = .ok () ↔
      (∃ source, get nodes edge.sourceId = some source ∧ source.type ∈ (edgeTypeCompatibility edge.type).1) ∧
      (∃ target, get nodes edge.targetId = some target ∧ target.type ∈ (edgeTypeCompatibility edge.type).2) ∧
      ∀ text ∈ mappingStrings edge.properties ++ [edge.type.value], Unleaked table text := by
  rw [checkEdge]
  cases foundSource : get nodes edge.sourceId with
  | none => simp
  | some source =>
      cases foundTarget : get nodes edge.targetId with
      | none => simp
      | some target =>
          by_cases sourceAllowed : source.type ∈ (edgeTypeCompatibility edge.type).1
          · by_cases targetAllowed : target.type ∈ (edgeTypeCompatibility edge.type).2
            · simp only [List.contains_eq_mem, sourceAllowed, targetAllowed, decide_true, ↓reduceIte, checkLeakage,
                checkTerms_ok_iff, Option.some.injEq, exists_eq_left', true_and]
              rfl
            · simp [sourceAllowed, targetAllowed]
          · simp [sourceAllowed]

/-- A node passes both passes over the nodes. -/
def Admitted (table : CharTable) (node : Node) : Prop :=
  checkNode table node = .ok () ∧ checkTestingMechanism table ("node:" ++ node.id)
    (mappingStrings node.properties ++ [node.type.value]) = .ok ()

/-- What a requirement reference has to carry. -/
def References (table : CharTable) (node : Node) : Prop :=
  node.type = .requirementRef →
    ∃ refId, get node.properties "ref_id" = some (.str refId) ∧ strip table refId.toList ≠ []

theorem admitted_iff (node : Node) :
    Admitted table node ↔
      References table node ∧ ∀ text ∈ mappingStrings node.properties ++ [node.type.value], Neutral table text := by
  have texts : ((∀ text ∈ mappingStrings node.properties ++ [node.type.value], Unleaked table text) ∧
      ∀ text ∈ mappingStrings node.properties ++ [node.type.value],
        searchTerms table testingMechanismTerms false text.toList = none) ↔
      ∀ text ∈ mappingStrings node.properties ++ [node.type.value], Neutral table text := by
    rw [← forall₂_and]
    rfl
  rw [Admitted, checkTestingMechanism, checkTerms_ok_iff, ← texts, ← and_assoc]
  refine and_congr_left fun _ => ?_
  rw [checkNode, References]
  by_cases reference : node.type = .requirementRef
  · rw [if_pos reference]
    split
    next refId held =>
      by_cases blank : strip table refId.toList = []
      · simp [held, blank, reference]
      · simp only [blank, ↓reduceIte, checkLeakage, checkTerms_ok_iff, held, reference, Option.some.injEq]
        constructor
        · exact fun unleaked => ⟨fun _ => ⟨refId, rfl, blank⟩, unleaked⟩
        · exact fun both => both.2
    next other =>
      constructor
      · intro impossible
        cases impossible
      · rintro ⟨carried, -⟩
        obtain ⟨refId, held, -⟩ := carried reference
        exact absurd held (other refId)
  · rw [if_neg reference, checkLeakage, checkTerms_ok_iff]
    exact ⟨fun unleaked => ⟨fun same => absurd same reference, unleaked⟩, fun both => both.2⟩

theorem validateInvariants_iff (graph : Graph) :
    validateInvariants table graph = .ok () ↔
      (graph.edgeList.map Edge.id).Nodup ∧ (∀ edge ∈ graph.edgeList, checkEdge table graph.nodes edge = .ok ()) ∧
      ∀ entry ∈ graph.nodes, Admitted table entry.2 := by
  rw [validateInvariants_ok_iff]
  simp only [List.mem_map, Admitted, forall_and]
  constructor
  · rintro ⟨unique, edges, nodes, testing⟩
    exact ⟨unique, edges, fun entry member => nodes _ ⟨entry, member, rfl⟩, fun entry member =>
        testing _ ⟨entry, member, rfl⟩⟩
  · rintro ⟨unique, edges, nodes, testing⟩
    refine ⟨unique, edges, ?_, ?_⟩
    · rintro node ⟨entry, member, rfl⟩
      exact nodes entry member
    · rintro node ⟨entry, member, rfl⟩
      exact testing entry member

end

variable {table : CharTable} {graph extended : Graph} {newNodes : Dict String Node} {newEdges : Dict String Edge}

theorem checkEdge_mono {nodes more : Dict String Node} (kept : ∀ key node, get nodes key = some node →
    get more key = some node)
    {edge : Edge} (admitted : checkEdge table nodes edge = .ok ()) : checkEdge table more edge = .ok () := by
  rw [checkEdge_ok_iff] at admitted ⊢
  obtain ⟨⟨source, foundSource, sourceAllowed⟩, ⟨target, foundTarget, targetAllowed⟩, texts⟩ := admitted
  exact ⟨⟨source, kept _ _ foundSource, sourceAllowed⟩, ⟨target, kept _ _ foundTarget, targetAllowed⟩, texts⟩

/-- Ids repeat nowhere exactly when an id fixes the key and the edge. -/
theorem ids_nodup_iff (graph : Graph) :
    (graph.edgeList.map Edge.id).Nodup ↔
      ∀ key edge, get graph.edges key = some edge → ∀ key' edge', get graph.edges key' = some edge' →
        edge.id = edge'.id → key = key' := by
  have ids : graph.edgeList.map Edge.id = graph.edges.map fun entry => entry.2.id := by
    rw [Graph.edgeList, List.map_map]
    rfl
  rw [ids, List.nodup_map_iff_inj_on graph.distinctEdges.of_map]
  constructor
  · intro injective key edge held key' edge' held' same
    exact congrArg Prod.fst (injective _ (mem_of_get held) _ (mem_of_get held') same)
  · rintro fixed ⟨key, edge⟩ member ⟨key', edge'⟩ member' same
    have held := get_of_mem graph.distinctEdges member
    have held' := get_of_mem graph.distinctEdges member'
    obtain rfl := fixed key edge held key' edge' held' same
    rw [held] at held'
    rw [Option.some.inj held']

theorem mem_edgeList {edge : Edge} : edge ∈ graph.edgeList ↔ ∃ key, get graph.edges key = some edge := by
  rw [Graph.edgeList, List.mem_map]
  constructor
  · rintro ⟨⟨key, held⟩, member, rfl⟩
    exact ⟨key, get_of_mem graph.distinctEdges member⟩
  · rintro ⟨key, held⟩
    exact ⟨_, mem_of_get held, rfl⟩

/-- An entry of an extended dictionary is an old one, or a new one under a new key. -/
theorem get_extended {Value : Type} {dict entries : Dict String Value} {key : String} {value : Value} :
    get (setDefaults dict entries) key = some value ↔
      get dict key = some value ∨ get dict key = none ∧ get entries key = some value := by
  rw [get_setDefaults]
  cases get dict key <;> simp

/-- Whether an admitted graph stays admitted depends on the entries under new keys only: a new
edge, which has its key as id, must not meet that id again and must fit the nodes. -/
theorem validate_extension_iff (valid : validateInvariants table graph = .ok ())
    (nodes : extended.nodes = setDefaults graph.nodes newNodes)
    (edges : extended.edges = setDefaults graph.edges newEdges)
    (named : ∀ entry ∈ newEdges, entry.2.id = entry.1) :
    validateInvariants table extended = .ok () ↔
      (∀ key node, get graph.nodes key = none → get newNodes key = some node → Admitted table node) ∧
      ∀ key edge, get graph.edges key = none → get newEdges key = some edge →
        (∀ other ∈ graph.edgeList, other.id ≠ key) ∧ checkEdge table extended.nodes edge = .ok () := by
  rw [validateInvariants_iff] at valid ⊢
  obtain ⟨unique, checked, admitted⟩ := valid
  rw [ids_nodup_iff] at unique
  have kept (key : String) (node : Node) (held : get graph.nodes key = some node) :
      get extended.nodes key = some node := by
    rw [nodes]
    exact get_extended.mpr (.inl held)
  rw [ids_nodup_iff, forall_mem_iff_get extended.distinctNodes]
  constructor
  · rintro ⟨fixed, fits, all⟩
    refine ⟨fun key node fresh added => all key node ?_, fun key edge fresh added =>
        ⟨fun other member same => ?_, fits edge ?_⟩⟩
    · rw [nodes, get_extended]
      exact .inr ⟨fresh, added⟩
    · obtain ⟨place, held⟩ := mem_edgeList.mp member
      have old : get extended.edges place = some other := by
        rw [edges, get_extended]
        exact .inl held
      have new : get extended.edges key = some edge := by
        rw [edges, get_extended]
        exact .inr ⟨fresh, added⟩
      have placed := fixed place other old key edge new (same.trans (named _ (mem_of_get added)).symm)
      rw [placed, fresh] at held
      cases held
    · refine mem_edgeList.mpr ⟨key, ?_⟩
      rw [edges, get_extended]
      exact .inr ⟨fresh, added⟩
  · rintro ⟨newAdmitted, newFits⟩
    refine ⟨?_, ?_, ?_⟩
    · intro key edge held key' edge' held' same
      rw [edges, get_extended] at held held'
      rcases held with old | ⟨fresh, added⟩ <;> rcases held' with old' | ⟨fresh', added'⟩
      · exact unique key edge old key' edge' old' same
      · exact absurd (same.trans (named _ (mem_of_get added')))
          ((newFits key' edge' fresh' added').1 edge (mem_edgeList.mpr ⟨key, old⟩))
      · exact absurd (same.symm.trans (named _ (mem_of_get added)))
          ((newFits key edge fresh added).1 edge' (mem_edgeList.mpr ⟨key', old'⟩))
      · exact (named _ (mem_of_get added)).symm.trans (same.trans (named _ (mem_of_get added')))
    · intro edge member
      obtain ⟨key, held⟩ := mem_edgeList.mp member
      rw [edges, get_extended] at held
      rcases held with old | ⟨fresh, added⟩
      · exact checkEdge_mono kept (checked edge (mem_edgeList.mpr ⟨key, old⟩))
      · exact (newFits key edge fresh added).2
    · intro key node held
      rw [nodes, get_extended] at held
      rcases held with old | ⟨fresh, added⟩
      · exact admitted _ (mem_of_get old)
      · exact newAdmitted key node fresh added

end AutonomousApi.IsrAdmission
