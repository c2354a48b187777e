import AutonomousApi.GenesisMapper
import AutonomousApi.GenomeLaws
import AutonomousApi.IsrAdmission

/-! What a mapped requirement graph holds, and when it is the requirement graph that was
reviewed. Generated keys are told apart by what stands before the colon; the rest of a key is the
id of its requirement. -/

namespace AutonomousApi.GenesisLaws

open DataTree JsonValue OrderedMap FailFast PythonText IsrGraph IsrAdmission Requirements GenesisMapper

section

variable {req : RequirementGraph} {n : RequirementNode} {node : Node} {key : String}

@[simp] theorem mem_ordered : n ∈ ordered req ↔ n ∈ req.requirements := by
  rw [ordered, sortById, List.mem_insertionSort]

theorem mem_requirements : n ∈ req.requirements ↔ ∃ key, get req.nodes key = some n := by
  rw [RequirementGraph.requirements, List.mem_map]
  constructor
  · rintro ⟨⟨key, held⟩, member, rfl⟩
    exact ⟨key, get_of_mem req.distinctNodes member⟩
  · rintro ⟨key, held⟩
    exact ⟨_, mem_of_get held, rfl⟩

theorem mem_relations {edge : RequirementEdge} : edge ∈ req.relations ↔ ∃ key, get req.edges key = some edge := by
  rw [RequirementGraph.relations, List.mem_map]
  constructor
  · rintro ⟨⟨key, held⟩, member, rfl⟩
    exact ⟨key, get_of_mem req.distinctEdges member⟩
  · rintro ⟨key, held⟩
    exact ⟨_, mem_of_get held, rfl⟩

/-- The type of the node that is generated under a key. -/
def generatedType (key : String) : Option NodeType :=
  match key.toList with
  | 'r' :: _ => some .requirementRef
  | 'd' :: _ => some .domain
  | 'c' :: _ => some .capability
  | _ => none

theorem architectureNode_shape (made : architectureNode n = some node) :
    (node.type = .domain ∨ node.type = .capability) ∧ node.id = node.type.value ++ ":" ++ n.id ∧
      (n.kind = .functional ↔ node.type = .capability) := by
  rw [architectureNode, Option.map_eq_some_iff] at made
  obtain ⟨type, target, rfl⟩ := made
  cases kind : n.kind <;> simp_all [targetType]
  all_goals simp [← target]

theorem refKey_eq (id : String) : refKey id = "requirement_ref" ++ ":" ++ id := by
  delta refKey
  rfl

theorem generatedType_refKey (id : String) : generatedType (refKey id) = some .requirementRef := by
  rw [refKey_eq]
  simp [generatedType]

theorem generatedType_projected (member : node ∈ projectedNodes n) : generatedType node.id = some node.type := by
  rw [projectedNodes, List.mem_cons, Option.mem_toList] at member
  rcases member with rfl | made
  · exact generatedType_refKey n.id
  · obtain ⟨domain | capability, named, -⟩ := architectureNode_shape made
    · simp [generatedType, named, domain, NodeType.value]
    · simp [generatedType, named, capability, NodeType.value]

theorem refKey_inj {left right : String} : refKey left = refKey right ↔ left = right := by
  constructor
  · intro same
    rw [refKey_eq, refKey_eq] at same
    exact (String.append_right_inj _).mp same
  · rintro rfl
    rfl

theorem relationKey_eq (id : String) : relationKey id = "requirement:" ++ id := by
  delta relationKey
  rfl

theorem relationKey_inj {left right : String} : relationKey left = relationKey right ↔ left = right := by
  constructor
  · intro same
    rw [relationKey_eq, relationKey_eq] at same
    exact (String.append_right_inj _).mp same
  · rintro rfl
    rfl

/-- A node projected under the key of a reference is the reference of that id. -/
theorem projected_reference {id : String} (member : node ∈ projectedNodes n) (named : node.id = refKey id) :
    node = referenceNode n ∧ n.id = id := by
  have type := generatedType_projected member
  rw [named, generatedType_refKey] at type
  rw [projectedNodes, List.mem_cons, Option.mem_toList] at member
  rcases member with rfl | made
  · exact ⟨rfl, refKey_inj.mp named⟩
  · obtain ⟨other, -⟩ := architectureNode_shape made
    rw [← Option.some.inj type] at other
    simp at other

theorem get_generated (held : get (generatedNodes req) key = some node) :
    key = node.id ∧ ∃ n ∈ req.requirements, node ∈ projectedNodes n := by
  have member := mem_of_get_assignAll held
  rw [List.mem_flatMap] at member
  obtain ⟨n, inside, member⟩ := member
  obtain ⟨projected, projects, same⟩ := List.mem_map.mp member
  obtain ⟨rfl, rfl⟩ := Prod.mk.inj same
  exact ⟨rfl, n, mem_ordered.mp inside, projects⟩

theorem isSome_generated (inside : n ∈ req.requirements) (member : node ∈ projectedNodes n) :
    (get (generatedNodes req) node.id).isSome := by
  rw [generatedNodes, isSome_assignAll, keys, List.mem_map]
  exact ⟨nodeOf node, List.mem_flatMap.mpr ⟨n, mem_ordered.mpr inside, List.mem_map_of_mem member⟩, rfl⟩

theorem generated_type (held : get (generatedNodes req) key = some node) : generatedType key = some node.type := by
  obtain ⟨rfl, n, -, member⟩ := get_generated held
  exact generatedType_projected member

/-- Where ids fix their requirements, every requirement has its own reference. -/
theorem get_reference (fixed : ∀ m ∈ req.requirements, m.id = n.id → m = n) (inside : n ∈ req.requirements) :
    get (generatedNodes req) (refKey n.id) = some (referenceNode n) := by
  obtain ⟨node, held⟩ := Option.isSome_iff_exists.mp
    (isSome_generated inside (List.mem_cons_self : referenceNode n ∈ projectedNodes n))
  obtain ⟨named, m, member, projected⟩ := get_generated held
  obtain ⟨rfl, same⟩ := projected_reference projected named.symm
  rw [show (referenceNode n).id = refKey n.id from rfl] at held
  rw [held, fixed m member same]

/-- The declaration is that of a node, in each of its parts. -/
def DescribesNode (declaration : Json) (node : Node) : Prop :=
  ∃ record, declaration = .dict record ∧ get record "id" = some (Json.str node.id) ∧
    get record "type" = some (Json.str node.type.value) ∧ get record "properties" = some (.dict node.properties)

def DescribesEdge (declaration : Json) (edge : Edge) : Prop :=
  ∃ record, declaration = .dict record ∧ get record "id" = some (Json.str edge.id) ∧
    get record "type" = some (Json.str edge.type.value) ∧ get record "source_id" = some (Json.str edge.sourceId) ∧
    get record "target_id" = some (Json.str edge.targetId) ∧ get record "properties" = some (.dict edge.properties)

/-- The requirement declares a value under a key of its properties. -/
def Declares {Value : Type} (key : String) (describes : Json → Value → Prop) (n : RequirementNode) (value : Value) :
    Prop :=
  ∃ declarations, get n.properties key = some (.list declarations) ∧ ∃ declaration ∈ declarations,
      describes declaration value

abbrev DeclaresNode : RequirementNode → Node → Prop := Declares "isr_nodes" DescribesNode

abbrev DeclaresEdge : RequirementNode → Edge → Prop := Declares "isr_edges" DescribesEdge

variable {declaration : Json}

theorem describesNode_unique {node other : Node} (first : DescribesNode declaration node)
    (second : DescribesNode declaration other) : node = other := by
  obtain ⟨record, rfl, id, type, properties⟩ := first
  obtain ⟨_, same, id', type', properties'⟩ := second
  obtain rfl := Tree.dict.inj same
  have typed : node.type = other.type := by
    have value : node.type.value = other.type.value :=
      JsonAtom.str.inj (Tree.atom.inj (Option.some.inj (type.symm.trans type')))
    exact Option.some.inj
        ((GenomeLaws.nodeType_read node.type).symm.trans (value ▸ GenomeLaws.nodeType_read other.type))
  cases node
  cases other
  simp_all

theorem describesEdge_unique {edge other : Edge} (first : DescribesEdge declaration edge)
    (second : DescribesEdge declaration other) : edge = other := by
  obtain ⟨record, rfl, id, type, source, target, properties⟩ := first
  obtain ⟨_, same, id', type', source', target', properties'⟩ := second
  obtain rfl := Tree.dict.inj same
  have typed : edge.type = other.type := by
    have value : edge.type.value = other.type.value :=
      JsonAtom.str.inj (Tree.atom.inj (Option.some.inj (type.symm.trans type')))
    exact Option.some.inj
        ((GenomeLaws.edgeType_read edge.type).symm.trans (value ▸ GenomeLaws.edgeType_read other.type))
  cases edge
  cases other
  simp_all

variable {known : List String} {requirementId : String}

theorem readDeclaredNode_ok {entry : String × Node}
    (done : readDeclaredNode known requirementId declaration = .ok entry) :
    entry.1 = entry.2.id ∧ DescribesNode declaration entry.2 := by
  unfold readDeclaredNode at done
  split at done
  next record =>
    split at done
    next id value properties held type held' =>
      split at done
      · cases done
      · split at done
        · cases done
        next kind found =>
          split at done
          · obtain rfl := Except.ok.inj done
            have named := List.find?_some found
            rw [beq_iff_eq] at named
            exact ⟨rfl, record, rfl, held, by rw [type]; exact congrArg (fun text => some (Json.str text)) named.symm,
                held'⟩
          · cases done
    · cases done
  · cases done

theorem readDeclaredEdge_ok {entry : String × Edge}
    (done : readDeclaredEdge known requirementId declaration = .ok entry) :
    entry.1 = entry.2.id ∧ DescribesEdge declaration entry.2 := by
  unfold readDeclaredEdge at done
  split at done
  next record =>
    split at done
    next id value sourceId targetId properties held type source target rest =>
      split at done
      · cases done
      · split at done
        · cases done
        next kind found =>
          split at done
          next cited =>
            obtain rfl := Except.ok.inj done
            have named := List.find?_some found
            rw [beq_iff_eq] at named
            refine ⟨rfl, record, rfl, held, ?_, source, target, ?_⟩
            · rw [type]
              exact congrArg (fun text => some (Json.str text)) named.symm
            · unfold edgeProperties at rest
              split at rest
              · obtain rfl := Option.some.inj rest
                simp [cites, OrderedMap.get] at cited
              next stored => rw [stored, ← Option.some.inj rest]; rfl
              · cases rest
          · cases done
    · cases done
  · cases done

/-- A dictionary holds what the requirements that were met declare, under ids that nothing else
was generated for, and nothing more. -/
structure Collected {Value : Type} (id : Value → String) (declares : RequirementNode → Value → Prop)
    (taken : String → Bool)
    (seen : List RequirementNode) (dict : Dict String Value) : Prop where
  source : ∀ entry ∈ dict, entry.1 = id entry.2 ∧ taken entry.1 = false ∧ ∃ n ∈ seen, declares n entry.2
  all : ∀ n ∈ seen, ∀ value, declares n value → (id value, value) ∈ dict
  distinct : (keys dict).Nodup

/-- Registering the declarations of the next requirement keeps a collection complete. -/
theorem Collected.next {Value : Type} {id : Value → String} {key : String} {describes : Json → Value → Prop}
    {taken taken' : String → Bool} {seen : List RequirementNode} {dict next : Dict String Value}
    {clash : String → MappingError}
    {read : Json → Except MappingError (String × Value)} {declarations : List Json}
    (collected : Collected id (Declares key describes) taken seen dict)
    (spared : ∀ name, taken' name = false → taken name = false)
    (reads : ∀ declaration entry, read declaration = .ok entry → entry.1 = id entry.2 ∧ describes declaration entry.2)
    (unique : ∀ declaration value other, describes declaration value → describes declaration other → value = other)
    (held : fragments n.properties key = some declarations)
    (run : registerAll read taken' clash (fun _ => .ok ()) dict declarations = .ok next) :
    Collected id (Declares key describes) taken (seen ++ [n]) next := by
  obtain ⟨entries, rfl, every, each, distinct⟩ := registerAll_ok run
  have listed (declarations' : List Json) (found : get n.properties key = some (.list declarations')) :
      declarations' = declarations := by
    simpa [fragments, found] using held
  refine ⟨?_, ?_, keys_append_nodup collected.distinct distinct fun entry member => (each entry member).2.2.1⟩
  · intro entry member
    rcases List.mem_append.mp member with old | new
    · obtain ⟨named, free, m, inside, declared⟩ := collected.source entry old
      exact ⟨named, free, m, List.mem_append_left [n] inside, declared⟩
    · obtain ⟨⟨declaration, inside, known⟩, free, -, -⟩ := each entry new
      obtain ⟨named, described⟩ := reads declaration entry known
      refine ⟨named, spared _ free, n, by simp, declarations, ?_, declaration, inside, described⟩
      unfold fragments at held
      split at held
      · simp [← Option.some.inj held] at inside
      next found => rw [found, Option.some.inj held]
      · cases held
  · intro m member value declared
    rcases List.mem_append.mp member with old | new
    · exact List.mem_append_left entries (collected.all m old value declared)
    · obtain rfl := List.mem_singleton.mp new
      obtain ⟨declarations', found, declaration, inside, described⟩ := declared
      obtain rfl := listed declarations' found
      obtain ⟨entry, among, known⟩ := every declaration inside
      obtain ⟨named, described'⟩ := reads declaration entry known
      have same : entry = (id value, value) := by
        rw [unique declaration value entry.2 described described', ← named]
      exact List.mem_append_right dict (same ▸ among)

/-- What the loop over the requirements collects. -/
theorem declarations_ok {declared : GenesisMapper.Declared} (run : declarations req = .ok declared) :
    Collected Node.id DeclaresNode (fun id => (get (generatedNodes req) id).isSome) (ordered req) declared.nodes ∧
      Collected Edge.id DeclaresEdge (fun _ => false) (ordered req) declared.edges := by
  refine foldChecked_invariant run (fun seen state =>
    Collected Node.id DeclaresNode (fun id => (get (generatedNodes req) id).isSome) seen state.nodes ∧
      Collected Edge.id DeclaresEdge (fun _ => false) seen state.edges) ?_ ?_
  · exact ⟨⟨by simp, by simp, by simp [keys]⟩, ⟨by simp, by simp, by simp [keys]⟩⟩
  · rintro seen n rest state next - ⟨nodes, edges⟩ step
    unfold declare at step
    split at step
    next rawNodes rawEdges heldNodes heldEdges =>
      obtain ⟨newNodes, runNodes, step⟩ := bind_ok step
      obtain ⟨newEdges, runEdges, step⟩ := bind_ok step
      obtain rfl := Except.ok.inj step
      exact ⟨nodes.next (fun _ free => free) (fun _ _ => readDeclaredNode_ok)
          (fun _ _ _ => describesNode_unique) heldNodes runNodes,
        edges.next (fun _ free => free) (fun _ _ => readDeclaredEdge_ok)
            (fun _ _ _ => describesEdge_unique) heldEdges runEdges⟩
    · cases step

variable {graph : Graph} {result : GenesisResult}

/-- The edges that the mapping draws itself, in the order in which it assigns them. -/
def drawn (req : RequirementGraph) (nodes : Dict String Node) : List (String × Edge) :=
  (((ordered req).filterMap (satisfiesEdge nodes)) ++
    (sortById RequirementEdge.id req.relations).map relationEdge).map edgeOf

/-- What a mapping that ran through has built. -/
structure Mapped (req : RequirementGraph) (graph : Graph) (declared : GenesisMapper.Declared)
    (services : Dict String Node) :
    Prop where
  nodesCollected : Collected Node.id DeclaresNode (fun id => (get (generatedNodes req) id).isSome)
      (ordered req) declared.nodes
  edgesCollected : Collected Edge.id DeclaresEdge (fun _ => false) (ordered req) declared.edges
  nodes : ∀ entry, entry ∈ graph.nodes ↔ entry ∈ generatedNodes req ∨ entry ∈ declared.nodes ∨ entry ∈ services
  services : ∀ entry ∈ services, ∃ default ∈ constitutionalDefaults, entry = nodeOf (constitutionalService default)
  edges : ∀ entry, entry ∈ graph.edges ↔ entry ∈ assignAll [] (drawn req graph.nodes) ∨ entry ∈ declared.edges
  endpoints : ∀ edge ∈ req.relations, (get graph.nodes (refKey edge.sourceId)).isSome ∧
      (get graph.nodes (refKey edge.targetId)).isSome
  admitted : ∀ entry ∈ declared.edges, checkDeclaredEdge graph.nodes entry.2 = .ok ()

theorem relate_all {nodes : Dict String Node} {edges related : Dict String Edge} {relations : List RequirementEdge}
    (run : foldChecked (relate nodes) edges relations = .ok related) :
    related = assignAll edges (relations.map fun edge => edgeOf (relationEdge edge)) ∧
      ∀ edge ∈ relations, (get nodes (refKey edge.sourceId)).isSome ∧ (get nodes (refKey edge.targetId)).isSome := by
  induction relations generalizing edges with
  | nil =>
      cases run
      simp [assignAll]
  | cons edge rest ih =>
      rw [foldChecked] at run
      cases first : relate nodes edges edge with
      | error fault => simp [first] at run
      | ok next =>
          rw [first] at run
          obtain ⟨⟨⟩, present, same⟩ := bind_ok first
          rw [require_ok_iff, Bool.and_eq_true] at present
          obtain rfl := Except.ok.inj same
          obtain ⟨rfl, later⟩ := ih run
          refine ⟨rfl, fun other member => ?_⟩
          rcases List.mem_cons.mp member with rfl | inside
          · exact present
          · exact later other inside

theorem map_ok (mapped : GenesisMapper.map req = .ok result) : ∃ declared services,
    Mapped req result.graph declared services := by
  obtain ⟨declared, ranDeclarations, rest⟩ := bind_ok mapped
  obtain ⟨nodes, ranBaseline, rest⟩ := bind_ok rest
  obtain ⟨edges, ranEdges, built⟩ := bind_ok rest
  obtain ⟨nodesCollected, edgesCollected⟩ := declarations_ok ranDeclarations
  have generated : (keys (generatedNodes req)).Nodup := GenomeMaterializer.distinct_dictionary _
  have apart : ∀ entry ∈ declared.nodes, entry.1 ∉ keys (generatedNodes req) := by
    intro entry member inside
    rw [← get_isSome_iff, (nodesCollected.source entry member).2.1] at inside
    cases inside
  have distinct := keys_append_nodup generated nodesCollected.distinct apart
  rw [assignAll_fresh _ _ distinct] at ranBaseline
  obtain ⟨services, extended, -, each, servicesDistinct⟩ := registerAll_ok ranBaseline
  obtain ⟨related, ranRelations, ranDeclared⟩ := bind_ok ranEdges
  obtain ⟨assigned, endpoints⟩ := relate_all ranRelations
  obtain ⟨entries, appended, every, admitted, entriesDistinct⟩ := registerAll_ok ranDeclared
  have graphNodes : result.graph.nodes = nodes := by
    rw [← Except.ok.inj built]
    exact assignAll_distinct _ (extended ▸ keys_append_nodup distinct servicesDistinct fun entry member =>
        (each entry member).2.2.1)
  have graphEdges : result.graph.edges = edges := by
    have unique : (keys related).Nodup := assigned ▸ keys_assignAll_nodup _ (GenomeMaterializer.distinct_dictionary _)
    rw [← Except.ok.inj built]
    exact assignAll_distinct _ (appended ▸ keys_append_nodup unique entriesDistinct fun entry member =>
        (admitted entry member).2.2.1)
  have kept (entry : String × Edge) : entry ∈ entries ↔ entry ∈ declared.edges := by
    constructor
    · intro member
      obtain ⟨⟨source, inside, same⟩, -⟩ := admitted entry member
      exact Except.ok.inj same ▸ inside
    · intro member
      obtain ⟨found, inside, same⟩ := every entry member
      exact Except.ok.inj same ▸ inside
  refine ⟨declared, services, nodesCollected, edgesCollected, fun entry => ?_, fun entry member => ?_, fun entry => ?_,
    fun edge member => ?_, fun entry member => ?_⟩
  · rw [graphNodes, extended, List.mem_append, List.mem_append, or_assoc]
  · obtain ⟨⟨default, inside, same⟩, -⟩ := each entry member
    exact ⟨default, inside, (Except.ok.inj same).symm⟩
  · have drawnHere : assignAll [] (drawn req nodes) = related := by
      rw [assigned, drawn, List.map_append, List.map_map, assignAll_append]
      rfl
    rw [graphEdges, graphNodes, appended, List.mem_append, drawnHere, kept]
  · rw [graphNodes]
    exact endpoints edge (by rwa [sortById, List.mem_insertionSort])
  · rw [graphNodes]
    exact (admitted entry ((kept entry).mpr member)).2.2.2

end

section

variable {req : RequirementGraph} {n : RequirementNode} {graph : Graph}
    {declared : GenesisMapper.Declared}
  {services : Dict String Node} {key : String} {node : Node} {edge : Edge}

theorem Mapped.node_cases (mapped : Mapped req graph declared services) (held : get graph.nodes key = some node) :
    key = node.id ∧ ((∃ n ∈ req.requirements, node ∈ projectedNodes n) ∨ (∃ n ∈ req.requirements, DeclaresNode n node) ∨
      ∃ default ∈ constitutionalDefaults, node = constitutionalService default) := by
  rcases (mapped.nodes (key, node)).mp (mem_of_get held) with generated | declaredNode | service
  · have found : get (generatedNodes req) key = some node :=
      get_of_mem (GenomeMaterializer.distinct_dictionary _) generated
    obtain ⟨named, origin⟩ := get_generated found
    exact ⟨named, .inl origin⟩
  · obtain ⟨named, -, n, inside, declares⟩ := mapped.nodesCollected.source _ declaredNode
    exact ⟨named, .inr (.inl ⟨n, mem_ordered.mp inside, declares⟩)⟩
  · obtain ⟨default, inside, same⟩ := mapped.services _ service
    obtain ⟨rfl, rfl⟩ := Prod.mk.inj same
    exact ⟨rfl, .inr (.inr ⟨default, inside, rfl⟩)⟩

theorem Mapped.generated (mapped : Mapped req graph declared services)
    (held : get (generatedNodes req) key = some node) :
    get graph.nodes key = some node :=
  get_of_mem graph.distinctNodes ((mapped.nodes _).mpr (.inl (mem_of_get held)))

theorem Mapped.declaredNode (mapped : Mapped req graph declared services) (inside : n ∈ req.requirements)
    (declares : DeclaresNode n node) : get graph.nodes node.id = some node :=
  get_of_mem graph.distinctNodes
    ((mapped.nodes _).mpr (.inr (.inl (mapped.nodesCollected.all n (mem_ordered.mpr inside) node declares))))

theorem Mapped.declaredEdge (mapped : Mapped req graph declared services) (inside : n ∈ req.requirements)
    (declares : DeclaresEdge n edge) : get graph.edges edge.id = some edge :=
  get_of_mem graph.distinctEdges
      ((mapped.edges _).mpr (.inr (mapped.edgesCollected.all n (mem_ordered.mpr inside) edge declares)))

theorem mem_drawn {nodes : Dict String Node} {entry : String × Edge} :
    entry ∈ drawn req nodes ↔ entry.1 = entry.2.id ∧
      ((∃ n ∈ req.requirements, satisfiesEdge nodes n = some entry.2) ∨ ∃ relation ∈ req.relations,
        entry.2 = relationEdge relation) := by
  rw [drawn, List.mem_map]
  simp only [List.mem_append, List.mem_filterMap, mem_ordered, List.mem_map, sortById, List.mem_insertionSort]
  constructor
  · rintro ⟨edge, origin, rfl⟩
    refine ⟨rfl, origin.imp id ?_⟩
    rintro ⟨relation, inside, same⟩
    exact ⟨relation, inside, same.symm⟩
  · rintro ⟨named, origin⟩
    refine ⟨entry.2, origin.imp id ?_, Prod.ext named.symm rfl⟩
    rintro ⟨relation, inside, same⟩
    exact ⟨relation, inside, same.symm⟩

theorem Mapped.edge_cases (mapped : Mapped req graph declared services) (held : get graph.edges key = some edge) :
    key = edge.id ∧ ((∃ n ∈ req.requirements, satisfiesEdge graph.nodes n = some edge) ∨
      (∃ relation ∈ req.relations, edge = relationEdge relation) ∨
      ∃ n ∈ req.requirements, DeclaresEdge n edge ∧ checkDeclaredEdge graph.nodes edge = .ok ()) := by
  rcases (mapped.edges (key, edge)).mp (mem_of_get held) with own | declaredEdge
  · obtain ⟨named, satisfied | related⟩ := mem_drawn.mp (mem_of_assignAll own)
    · exact ⟨named, .inl satisfied⟩
    · exact ⟨named, .inr (.inl related)⟩
  · obtain ⟨named, -, n, inside, declares⟩ := mapped.edgesCollected.source _ declaredEdge
    exact ⟨named, .inr (.inr ⟨n, mem_ordered.mp inside, declares, mapped.admitted _ declaredEdge⟩)⟩

/-- A requirement edge whose id is its own has its edge in the graph. -/
theorem Mapped.related (mapped : Mapped req graph declared services) {relation : RequirementEdge}
    (inside : relation ∈ req.relations)
    (fixed : ∀ other ∈ req.relations, other.id = relation.id → other = relation) :
    get graph.edges (relationKey relation.id) = some (relationEdge relation) := by
  have assigned : (get (assignAll [] (drawn req graph.nodes)) (relationKey relation.id)).isSome := by
    rw [isSome_assignAll, keys, List.mem_map]
    exact ⟨edgeOf (relationEdge relation), mem_drawn.mpr ⟨rfl, .inr ⟨relation, inside, rfl⟩⟩, rfl⟩
  obtain ⟨edge, held⟩ := Option.isSome_iff_exists.mp assigned
  obtain ⟨named, ⟨n, -, satisfies⟩ | ⟨other, member, rfl⟩⟩ := mem_drawn.mp (mem_of_get_assignAll held)
  · rw [satisfiesEdge] at satisfies
    split at satisfies
    · obtain rfl := Option.some.inj satisfies
      simp [relationKey_eq, ← String.toList_inj] at named
    · cases satisfies
  · rw [fixed other member (relationKey_inj.mp named.symm)] at held
    exact get_of_mem graph.distinctEdges ((mapped.edges _).mpr (.inl (mem_of_get held)))

end

section

variable {table : CharTable} {n : RequirementNode} {node : Node} {edge : Edge}

/-- The texts of a requirement. -/
def ownTexts (n : RequirementNode) : List String :=
  n.id :: n.statement :: (n.acceptanceCriteria ++ n.sourceRefs ++ n.resolutionRef.toList ++ mappingStrings n.properties)

@[simp] theorem deepStrings_texts (items : List String) : deepStrings (texts items) = items := by
  rw [texts, deepStrings]
  induction items with
  | nil => rfl
  | cons item rest ih =>
      rw [List.map_cons, itemStrings, ih]
      rfl

@[simp] theorem deepStrings_optionalText (text : Option String) : deepStrings (optionalText text) = text.toList := by
  cases text <;> rfl

/-- The names and the fixed values that a generated node contains. -/
def fixedTexts : List String :=
  ["ref_id", "requirement_id", "semantic_content", "statement", "requirement_kind", "priority", "acceptance_criteria",
    "ambiguity_score", "source_refs", "resolution_ref", "properties", "label", "functional", "non_functional",
    "domain_concept", "stakeholder", "constraint", "must", "should", "could", "derivation_ref", "responsibility",
    "source_requirement_edge_id"]

variable {text : String}

theorem neutral_fixed (faithful : AsciiFaithful table) (member : text ∈ fixedTexts) :
    Neutral table text := by
  have plain : fixedTexts.all (fun text => ascii text.toList && decide (Neutral asciiTable text)) = true := by
    decide +kernel
  have both := List.all_eq_true.mp plain text member
  rw [Bool.and_eq_true, decide_eq_true_eq] at both
  exact .ofAscii faithful both.1 both.2

theorem kind_fixed (kind : RequirementKind) : kind.value ∈ fixedTexts := by cases kind <;> decide

theorem priority_fixed (priority : Priority) : priority.value ∈ fixedTexts := by cases priority <;> decide

/-- A reference is neutral exactly when all texts of its requirement are. -/
theorem reference_neutral_iff (faithful : AsciiFaithful table) :
    (∀ text ∈ mappingStrings (referenceNode n).properties ++ [(referenceNode n).type.value], Neutral table text) ↔
      ∀ text ∈ ownTexts n, Neutral table text := by
  have fixed : ∀ text ∈ fixedTexts, Neutral table text := fun text => neutral_fixed faithful
  have kind := neutral_fixed faithful (kind_fixed n.kind)
  have priority := neutral_fixed faithful (priority_fixed n.priority)
  have type := neutral_nodeType faithful .requirementRef
  simp only [fixedTexts, List.forall_mem_cons] at fixed
  simp only [referenceNode, mappingStrings, entryStrings, deepStrings, deepStrings_texts, deepStrings_optionalText,
      ownTexts,
    List.forall_mem_cons, List.forall_mem_append, List.cons_append, List.nil_append, List.append_nil, List.not_mem_nil,
    false_implies, implies_true, fixed, kind, priority, type, true_and, and_true]
  constructor
  · rintro ⟨id, -, statement, -, criteria, sources, resolution, properties⟩
    exact ⟨id, statement, ⟨⟨criteria, sources⟩, resolution⟩, properties⟩
  · rintro ⟨id, statement, ⟨⟨criteria, sources⟩, resolution⟩, properties⟩
    exact ⟨id, id, statement, statement, criteria, sources, resolution, properties⟩

theorem architecture_neutral (faithful : AsciiFaithful table) (made : architectureNode n = some node)
    (neutral : ∀ text ∈ ownTexts n, Neutral table text) :
    ∀ text ∈ mappingStrings node.properties ++ [node.type.value], Neutral table text := by
  have fixed : ∀ text ∈ fixedTexts, Neutral table text := fun text => neutral_fixed faithful
  have priority := neutral_fixed faithful (priority_fixed n.priority)
  rw [architectureNode, Option.map_eq_some_iff] at made
  obtain ⟨type, -, rfl⟩ := made
  have typed := neutral_nodeType faithful type
  simp only [fixedTexts, List.forall_mem_cons] at fixed
  simp only [mappingStrings, ownTexts, entryStrings, deepStrings, deepStrings_texts, List.forall_mem_cons,
      List.forall_mem_append,
    List.cons_append, List.nil_append, List.append_nil, List.not_mem_nil, false_implies, implies_true, fixed,
        priority, typed, true_and, and_true] at neutral ⊢
  obtain ⟨id, statement, ⟨⟨-, sources⟩, -⟩, -⟩ := neutral
  exact ⟨statement, id, sources⟩

/-- An ascii text in which nothing is found, by its characters. -/
def plainChars (chars : List Char) : Bool :=
  ascii chars && (searchTerms asciiTable forbiddenImplementationTerms false chars).isNone &&
    (searchTerms asciiTable testingMechanismTerms false chars).isNone

theorem neutral_of_chars (faithful : AsciiFaithful table) (plain : plainChars text.toList = true) :
    Neutral table text := by
  simp only [plainChars, Bool.and_eq_true, Option.isNone_iff_eq_none] at plain
  exact .ofAscii faithful plain.1.1 ⟨plain.1.2, plain.2⟩

theorem service_admitted (faithful : AsciiFaithful table) {default : String}
    (member : default ∈ constitutionalDefaults) :
    Admitted table (constitutionalService default) := by
  have searched : ∀ default ∈ constitutionalDefaults,
      plainChars ("constitutional baseline: ".toList ++ default.toList) = true ∧
        plainChars ("constitution:".toList ++ default.toList) = true ∧
        plainChars ("uphold the ".toList ++ default.toList ++ " baseline for every generated service".toList) =
          true := by
    decide +kernel
  obtain ⟨label, derivation, responsibility⟩ := searched default member
  rw [← String.toList_append] at label derivation
  rw [← String.toList_append, ← String.toList_append] at responsibility
  rw [admitted_iff]
  refine ⟨fun reference => (by cases reference), fun text inside => ?_⟩
  have texts : mappingStrings (constitutionalService default).properties ++
      [(constitutionalService default).type.value] =
        ["label", "constitutional baseline: " ++ default, "derivation_ref", "constitution:" ++ default,
          "responsibility", constitutionalServiceResponsibility default, NodeType.service.value] := rfl
  rw [texts] at inside
  simp only [List.mem_cons, List.not_mem_nil, or_false] at inside
  rcases inside with rfl | rfl | rfl | rfl | rfl | rfl | rfl
  · exact neutral_fixed faithful (by simp [fixedTexts])
  · exact neutral_of_chars faithful label
  · exact neutral_fixed faithful (by simp [fixedTexts])
  · exact neutral_of_chars faithful derivation
  · exact neutral_fixed faithful (by simp [fixedTexts])
  · exact neutral_of_chars faithful responsibility
  · exact neutral_nodeType faithful .service

theorem mem_itemStrings {items : List Json} :
    text ∈ itemStrings items ↔ ∃ item ∈ items, text ∈ deepStrings item := by
  induction items with
  | nil => simp [itemStrings]
  | cons item rest ih => simp [itemStrings, ih]

/-- What is declared in the properties of a requirement brings no text of its own. -/
theorem declared_texts {Value : Type} {key : String} {describes : Json → Value → Prop} {value : Value}
    {properties : Dict String Json} (declares : Declares key describes n value)
    (described : ∀ declaration, describes declaration value →
      ∃ record, declaration = .dict record ∧ get record "properties" = some (.dict properties))
    (member : text ∈ mappingStrings properties) : text ∈ mappingStrings n.properties := by
  obtain ⟨declarations, held, declaration, inside, describes⟩ := declares
  obtain ⟨record, rfl, stored⟩ := described declaration describes
  refine mem_mappingStrings.mpr ⟨_, mem_of_get held, .inr (mem_itemStrings.mpr ⟨_, inside, ?_⟩)⟩
  exact mem_mappingStrings.mpr ⟨_, mem_of_get stored, .inr member⟩

theorem declaredNode_texts (declares : DeclaresNode n node) (member : text ∈ mappingStrings node.properties) :
    text ∈ mappingStrings n.properties :=
  declared_texts declares (fun _ ⟨record, same, _, _, stored⟩ => ⟨record, same, stored⟩) member

theorem declaredEdge_texts (declares : DeclaresEdge n edge) (member : text ∈ mappingStrings edge.properties) :
    text ∈ mappingStrings n.properties :=
  declared_texts declares (fun _ ⟨record, same, _, _, _, _, stored⟩ => ⟨record, same, stored⟩) member

/-- The texts of an edge between requirements. -/
def relationTexts (relation : RequirementEdge) : List String := relation.id :: relation.resolutionRef.toList

theorem relation_unleaked_iff (faithful : AsciiFaithful table) (relation : RequirementEdge) :
    (∀ text ∈ mappingStrings (relationEdge relation).properties ++ [(relationEdge relation).type.value],
      Unleaked table text) ↔
      ∀ text ∈ relationTexts relation, Unleaked table text := by
  have named := (neutral_fixed faithful (by simp [fixedTexts] : "source_requirement_edge_id" ∈ fixedTexts)).1
  have resolved := (neutral_fixed faithful (by simp [fixedTexts] : "resolution_ref" ∈ fixedTexts)).1
  have type := (neutral_edgeType faithful (relationEdge relation).type).1
  simp only [relationEdge, mappingStrings, entryStrings, deepStrings, deepStrings_optionalText, relationTexts,
    List.forall_mem_cons, List.forall_mem_append, List.cons_append, List.nil_append, List.append_nil, List.not_mem_nil,
    false_implies, implies_true, named, resolved, true_and, and_true]
  exact and_congr_right fun _ => and_iff_left type

end

variable {table : CharTable} {req : RequirementGraph} {graph : Graph} {result : GenesisResult}

/-- The graph is the requirement graph, requirement for requirement and edge for edge, with the
declared fragments as they are and no further references or relations. -/
structure Projected (req : RequirementGraph) (graph : Graph) : Prop where
  references : ∀ n ∈ req.requirements, ∃ node, get graph.nodes (refKey n.id) = some node ∧ node.type = .requirementRef ∧
    get node.properties "statement" = some (Json.str n.statement) ∧
    get node.properties "requirement_kind" = some (Json.str n.kind.value) ∧
    get node.properties "acceptance_criteria" = some (texts n.acceptanceCriteria)
  apart : ∀ key n key' n', get req.nodes key = some n → get req.nodes key' = some n' → refKey n.id = refKey n'.id →
      key = key'
  otherReferences : ∀ key node, get graph.nodes key = some node → node.type = .requirementRef →
    (∃ n ∈ req.requirements, key = refKey n.id) ∨ ∃ n ∈ req.requirements, DeclaresNode n node
  relations : ∀ relation ∈ req.relations, ∃ source target edge, get req.nodes relation.sourceId = some source ∧
    get req.nodes relation.targetId = some target ∧ get graph.edges (relationKey relation.id) = some edge ∧
    edge.type = relationshipType relation.type ∧ edge.sourceId = refKey source.id ∧ edge.targetId = refKey target.id
  relationsApart : ∀ key relation key' relation', get req.edges key = some relation →
      get req.edges key' = some relation' →
    relationKey relation.id = relationKey relation'.id → key = key'
  otherRelations : ∀ key edge, get graph.edges key = some edge → (∃ type, edge.type = relationshipType type) →
    (∃ relation ∈ req.relations, key = relationKey relation.id) ∨ ∃ n ∈ req.requirements, DeclaresEdge n edge
  declaredNodes : ∀ n ∈ req.requirements, ∀ node, DeclaresNode n node → get graph.nodes node.id = some node
  declaredEdges : ∀ n ∈ req.requirements, ∀ edge, DeclaresEdge n edge → get graph.edges edge.id = some edge

/-- What an accepted requirement graph has to fulfil besides. Ids repeat nowhere, edges name
requirements by keys that are their ids, and the texts that only the ISR invariants look at are
free of the terms these forbid. -/
structure Projectable (table : CharTable) (req : RequirementGraph) : Prop where
  ids : ∀ key n key' n', get req.nodes key = some n → get req.nodes key' = some n' → n.id = n'.id → key = key'
  relationIds : ∀ key relation key' relation', get req.edges key = some relation → get req.edges key' = some relation' →
    relation.id = relation'.id → key = key'
  keyed : ∀ relation ∈ req.relations, (∀ n, get req.nodes relation.sourceId = some n → n.id = relation.sourceId) ∧
    ∀ n, get req.nodes relation.targetId = some n → n.id = relation.targetId
  named : ∀ n ∈ req.requirements, strip table n.id.toList ≠ []
  neutral : ∀ n ∈ req.requirements, ∀ text ∈ n.id :: n.statement :: (n.sourceRefs ++ n.resolutionRef.toList),
      Neutral table text
  untested : ∀ n ∈ req.requirements, ∀ text ∈ n.acceptanceCriteria ++ mappingStrings n.properties,
    searchTerms table testingMechanismTerms false text.toList = none
  unleaked : ∀ relation ∈ req.relations, ∀ text ∈ relationTexts relation, Unleaked table text
  declaredReferences : ∀ n ∈ req.requirements, ∀ node, DeclaresNode n node → References table node

variable {n : RequirementNode}

/-- What acceptance of the requirement graph adds makes all texts of a requirement neutral. -/
theorem ownTexts_neutral_iff (accepted : validateRequirementGraph table req = .ok ())
    (inside : n ∈ req.requirements) :
    (∀ text ∈ ownTexts n, Neutral table text) ↔
      (∀ text ∈ n.id :: n.statement :: (n.sourceRefs ++ n.resolutionRef.toList), Neutral table text) ∧
        ∀ text ∈ n.acceptanceCriteria ++ mappingStrings n.properties,
          searchTerms table testingMechanismTerms false text.toList = none := by
  have unleaked (text : String) (member : text ∈ mappingStrings n.properties ∨ text ∈ n.acceptanceCriteria) :
      Unleaked table text := accepted_texts accepted inside member
  simp only [ownTexts, List.forall_mem_cons, List.forall_mem_append]
  constructor
  · rintro ⟨id, statement, ⟨⟨criteria, sources⟩, resolution⟩, properties⟩
    exact ⟨⟨id, statement, sources, resolution⟩, fun text member => (criteria text member).2,
      fun text member => (properties text member).2⟩
  · rintro ⟨⟨id, statement, sources, resolution⟩, criteria, properties⟩
    exact ⟨id, statement, ⟨⟨fun text member => ⟨unleaked text (.inr member), criteria text member⟩, sources⟩,
        resolution⟩, fun text member => ⟨unleaked text (.inl member), properties text member⟩⟩

theorem Projectable.fixed (projectable : Projectable table req) (inside : n ∈ req.requirements) :
    ∀ m ∈ req.requirements, m.id = n.id → m = n := by
  intro m member same
  obtain ⟨key, held⟩ := mem_requirements.mp inside
  obtain ⟨key', held'⟩ := mem_requirements.mp member
  obtain rfl := projectable.ids key' m key n held' held same
  exact Option.some.inj (held'.symm.trans held)

theorem Projectable.fixedRelation (projectable : Projectable table req) {relation : RequirementEdge}
    (inside : relation ∈ req.relations) : ∀ other ∈ req.relations, other.id = relation.id → other = relation := by
  intro other member same
  obtain ⟨key, held⟩ := mem_relations.mp inside
  obtain ⟨key', held'⟩ := mem_relations.mp member
  obtain rfl := projectable.relationIds key' other key relation held' held same
  exact Option.some.inj (held'.symm.trans held)

variable {declared : GenesisMapper.Declared} {services : Dict String Node}

theorem Mapped.projected (mapped : Mapped req graph declared services)
    (accepted : validateRequirementGraph table req = .ok ())
    (projectable : Projectable table req) : Projected req graph where
  references n inside := by
    have held := mapped.generated (get_reference (projectable.fixed inside) inside)
    exact ⟨_, held, rfl, rfl, rfl, rfl⟩
  apart key n key' n' held held' same := projectable.ids key n key' n' held held' (refKey_inj.mp same)
  otherReferences key node held type := by
    obtain ⟨rfl, ⟨n, inside, projected⟩ | declares | ⟨default, -, rfl⟩⟩ := mapped.node_cases held
    · left
      rw [projectedNodes, List.mem_cons, Option.mem_toList] at projected
      rcases projected with rfl | made
      · exact ⟨n, inside, rfl⟩
      · obtain ⟨other, -⟩ := architectureNode_shape made
        simp [type] at other
    · exact .inr declares
    · cases type
  relations relation inside := by
    obtain ⟨⟨source, foundSource⟩, target, foundTarget⟩ := accepted_endpoints accepted inside
    obtain ⟨keyedSource, keyedTarget⟩ := projectable.keyed relation inside
    refine ⟨source, target, _, foundSource, foundTarget, mapped.related inside (projectable.fixedRelation inside),
        rfl, ?_, ?_⟩
    · rw [keyedSource source foundSource]
      rfl
    · rw [keyedTarget target foundTarget]
      rfl
  relationsApart key relation key' relation' held held' same :=
    projectable.relationIds key relation key' relation' held held' (relationKey_inj.mp same)
  otherRelations key edge held kind := by
    obtain ⟨rfl, ⟨n, -, satisfies⟩ | ⟨relation, inside, rfl⟩ | ⟨n, inside, declares, -⟩⟩ := mapped.edge_cases held
    · rw [satisfiesEdge] at satisfies
      split at satisfies
      · obtain rfl := Option.some.inj satisfies
        obtain ⟨type, same⟩ := kind
        cases type <;> cases same
      · cases satisfies
    · exact .inl ⟨relation, inside, rfl⟩
    · exact .inr ⟨n, inside, declares⟩
  declaredNodes n inside node declares := mapped.declaredNode inside declares
  declaredEdges n inside edge declares := mapped.declaredEdge inside declares

/-- The node of a requirement is a reference whether or not its id is its own. -/
theorem Mapped.reference_type (mapped : Mapped req graph declared services) (inside : n ∈ req.requirements) :
    ∃ node, get graph.nodes (refKey n.id) = some node ∧ node.type = .requirementRef := by
  obtain ⟨node, held⟩ := Option.isSome_iff_exists.mp
    (isSome_generated inside (List.mem_cons_self : referenceNode n ∈ projectedNodes n))
  have type := generated_type held
  rw [show (referenceNode n).id = refKey n.id from rfl, generatedType_refKey] at type
  exact ⟨node, mapped.generated held, (Option.some.inj type).symm⟩

theorem Mapped.satisfies_admitted (faithful : AsciiFaithful table) (mapped : Mapped req graph declared services)
    {edge : Edge} (inside : n ∈ req.requirements)
    (satisfies : satisfiesEdge graph.nodes n = some edge) :
    checkEdge table graph.nodes edge = .ok () := by
  rw [satisfiesEdge] at satisfies
  split at satisfies
  case isFalse => cases satisfies
  case isTrue present =>
    obtain ⟨functional, -⟩ := present
    obtain rfl := Option.some.inj satisfies
    obtain ⟨target, foundTarget, targetType⟩ := mapped.reference_type inside
    obtain ⟨capability, made, named⟩ : ∃ node, architectureNode n = some node ∧
        node.id = "capability" ++ ":" ++ n.id := by
      rw [architectureNode, functional]
      exact ⟨_, rfl, rfl⟩
    obtain ⟨source, held⟩ := Option.isSome_iff_exists.mp
      (isSome_generated inside (by simp [projectedNodes, made] : capability ∈ projectedNodes n))
    rw [named] at held
    have sourceType := generated_type held
    rw [show generatedType ("capability" ++ ":" ++ n.id) = some .capability by simp [generatedType]] at sourceType
    refine (checkEdge_ok_iff _ _).mpr ⟨⟨source, mapped.generated held, ?_⟩, ⟨target, foundTarget, ?_⟩, ?_⟩
    · rw [← Option.some.inj sourceType]
      exact List.mem_singleton_self _
    · rw [targetType]
      exact List.mem_singleton_self _
    · intro text only
      rw [List.mem_singleton.mp only]
      exact (neutral_edgeType faithful _).1

theorem relationship_types (type : RequirementEdgeType) :
    edgeTypeCompatibility (relationshipType type) = ([.requirementRef], [.requirementRef]) := by
  cases type <;> rfl

theorem Mapped.valid (faithful : AsciiFaithful table) (mapped : Mapped req graph declared services)
    (accepted : validateRequirementGraph table req = .ok ()) (projectable : Projectable table req) :
    validateInvariants table graph = .ok () := by
  have neutral {n : RequirementNode} (inside : n ∈ req.requirements) : ∀ text ∈ ownTexts n, Neutral table text :=
    (ownTexts_neutral_iff accepted inside).mpr ⟨projectable.neutral n inside, projectable.untested n inside⟩
  rw [validateInvariants_iff, ids_nodup_iff, forall_mem_iff_get graph.distinctNodes]
  refine ⟨?_, ?_, ?_⟩
  · intro key edge held key' edge' held' same
    rw [(mapped.edge_cases held).1, same, (mapped.edge_cases held').1]
  · intro edge member
    obtain ⟨key, held⟩ := mem_edgeList.mp member
    obtain ⟨rfl, ⟨n, inside, satisfies⟩ | ⟨relation, inside, rfl⟩ | ⟨n, inside, declares, checked⟩⟩ :=
        mapped.edge_cases held
    · exact mapped.satisfies_admitted faithful inside satisfies
    · obtain ⟨⟨source, foundSource⟩, target, foundTarget⟩ := accepted_endpoints accepted inside
      obtain ⟨keyedSource, keyedTarget⟩ := projectable.keyed relation inside
      obtain ⟨sourceNode, heldSource, sourceType⟩ := mapped.reference_type (mem_requirements.mpr ⟨_, foundSource⟩)
      obtain ⟨targetNode, heldTarget, targetType⟩ := mapped.reference_type (mem_requirements.mpr ⟨_, foundTarget⟩)
      rw [keyedSource source foundSource] at heldSource
      rw [keyedTarget target foundTarget] at heldTarget
      refine (checkEdge_ok_iff _ _).mpr ⟨⟨sourceNode, heldSource, ?_⟩, ⟨targetNode, heldTarget, ?_⟩,
        (relation_unleaked_iff faithful relation).mpr (projectable.unleaked relation inside)⟩
      · rw [sourceType, relationEdge, relationship_types]
        exact List.mem_singleton_self _
      · rw [targetType, relationEdge, relationship_types]
        exact List.mem_singleton_self _
    · rw [checkDeclaredEdge] at checked
      split at checked
      next source target foundSource foundTarget =>
        rw [require_ok_iff, Bool.and_eq_true, List.contains_iff_mem, List.contains_iff_mem] at checked
        refine (checkEdge_ok_iff _ _).mpr ⟨⟨source, foundSource, checked.1⟩, ⟨target, foundTarget, checked.2⟩, ?_⟩
        intro text among
        rcases List.mem_append.mp among with stored | only
        · exact accepted_texts accepted inside (.inl (declaredEdge_texts declares stored))
        · rw [List.mem_singleton.mp only]
          exact (neutral_edgeType faithful _).1
      · cases checked
  · intro key node held
    obtain ⟨rfl, ⟨n, inside, projected⟩ | ⟨n, inside, declares⟩ | ⟨default, member, rfl⟩⟩ := mapped.node_cases held
    · rw [projectedNodes, List.mem_cons, Option.mem_toList] at projected
      rcases projected with rfl | made
      · exact (admitted_iff _).mpr ⟨fun _ => ⟨n.id, rfl, projectable.named n inside⟩,
          (reference_neutral_iff faithful).mpr (neutral inside)⟩
      · refine (admitted_iff _).mpr ⟨fun (reference : node.type = .requirementRef) => ?_,
            architecture_neutral faithful made (neutral inside)⟩
        obtain ⟨other, -⟩ := architectureNode_shape made
        simp [reference] at other
    · refine (admitted_iff _).mpr ⟨projectable.declaredReferences n inside node declares, fun text among => ?_⟩
      rcases List.mem_append.mp among with stored | only
      · exact neutral inside text (by simp [ownTexts, declaredNode_texts declares stored])
      · rw [List.mem_singleton.mp only]
        exact neutral_nodeType faithful _
    · exact service_admitted faithful member

theorem Mapped.projectable (faithful : AsciiFaithful table) (mapped : Mapped req graph declared services)
    (accepted : validateRequirementGraph table req = .ok ()) (projected : Projected req graph)
    (valid : validateInvariants table graph = .ok ()) : Projectable table req := by
  rw [validateInvariants_iff, forall_mem_iff_get graph.distinctNodes] at valid
  obtain ⟨-, edges, nodes⟩ := valid
  have ids (key : String) (n : RequirementNode) (key' : String) (n' : RequirementNode)
      (held : get req.nodes key = some n)
      (held' : get req.nodes key' = some n') (same : n.id = n'.id) : key = key' :=
    projected.apart key n key' n' held held' (congrArg refKey same)
  have relationIds (key : String) (relation : RequirementEdge) (key' : String) (relation' : RequirementEdge)
      (held : get req.edges key = some relation) (held' : get req.edges key' = some relation')
      (same : relation.id = relation'.id) : key = key' :=
    projected.relationsApart key relation key' relation' held held' (congrArg relationKey same)
  have fixed {n : RequirementNode} (inside : n ∈ req.requirements) : ∀ m ∈ req.requirements, m.id = n.id → m = n := by
    intro m member same
    obtain ⟨key, held⟩ := mem_requirements.mp inside
    obtain ⟨key', held'⟩ := mem_requirements.mp member
    obtain rfl := ids key' m key n held' held same
    exact Option.some.inj (held'.symm.trans held)
  have fixedRelation {relation : RequirementEdge} (inside : relation ∈ req.relations) :
      ∀ other ∈ req.relations, other.id = relation.id → other = relation := by
    intro other member same
    obtain ⟨key, held⟩ := mem_relations.mp inside
    obtain ⟨key', held'⟩ := mem_relations.mp member
    obtain rfl := relationIds key' other key relation held' held same
    exact Option.some.inj (held'.symm.trans held)
  have reference {n : RequirementNode} (inside : n ∈ req.requirements) : Admitted table (referenceNode n) :=
    nodes _ _ (mapped.generated (get_reference (fixed inside) inside))
  have texts {n : RequirementNode} (inside : n ∈ req.requirements) :=
    (ownTexts_neutral_iff accepted inside).mp
    ((reference_neutral_iff faithful).mp ((admitted_iff _).mp (reference inside)).2)
  refine ⟨ids, relationIds, fun relation inside => ?_, fun n inside => ?_, fun n inside => (texts inside).1,
    fun n inside => (texts inside).2, fun relation inside => ?_, fun n inside node declares => ?_⟩
  · obtain ⟨source, target, edge, foundSource, foundTarget, held, -, sourceKey, targetKey⟩ :=
        projected.relations relation inside
    obtain rfl := Option.some.inj ((mapped.related inside (fixedRelation inside)).symm.trans held)
    constructor
    · intro n found
      rw [foundSource] at found
      exact Option.some.inj found ▸ (refKey_inj.mp sourceKey).symm
    · intro n found
      rw [foundTarget] at found
      exact Option.some.inj found ▸ (refKey_inj.mp targetKey).symm
  · obtain ⟨refId, held, visible⟩ := ((admitted_iff _).mp (reference inside)).1 rfl
    obtain rfl : n.id = refId := JsonAtom.str.inj (Tree.atom.inj (Option.some.inj held))
    exact visible
  · have member := mem_edgeList.mpr ⟨_, mapped.related inside (fixedRelation inside)⟩
    exact (relation_unleaked_iff faithful relation).mp ((checkEdge_ok_iff _ _).mp (edges _ member)).2.2
  · exact ((admitted_iff _).mp (nodes _ _ (mapped.declaredNode inside declares))).1

/-- An accepted requirement graph that is mapped is projected in full to an admitted graph exactly
when it is projectable. -/
theorem genesis_projects_iff (faithful : AsciiFaithful table) (accepted : validateRequirementGraph table req = .ok ())
    (mapped : GenesisMapper.map req = .ok result) :
    (Projected req result.graph ∧ validateInvariants table result.graph = .ok ()) ↔ Projectable table req := by
  obtain ⟨declared, services, built⟩ := map_ok mapped
  constructor
  · rintro ⟨projected, valid⟩
    exact built.projectable faithful accepted projected valid
  · intro projectable
    exact ⟨built.projected accepted projectable, built.valid faithful accepted projectable⟩

/-- Two related concepts; nothing forbidden occurs in their texts. -/
def shop : RequirementGraph where
  nodes := [("bills", { id := "bills", kind := .domainConcept, statement := "Bills", priority := .must }),
    ("purchases", { id := "purchases", kind := .domainConcept, statement := "Orders", priority := .must })]
  edges := [("e1", { id := "e1", type := .dependsOn, sourceId := "bills", targetId := "purchases" })]

/-- The statement names a technology, which only the ISR invariants look for. -/
def leaky : RequirementGraph where
  nodes :=
    [("R1", { id := "R1", kind := .constraint, statement := "Orders are published to Kafka", priority := .must })]
  edges := []
  distinctEdges := List.nodup_nil

theorem leaky_rejected :
    validateRequirementGraph asciiTable leaky = .ok () ∧ ∃ result, GenesisMapper.map leaky = .ok result ∧
      validateInvariants asciiTable result.graph = .error (.implementationLeakage "node:requirement_ref:R1" "kafka") :=
  ⟨rfl, _, rfl, rfl⟩

theorem shop_projectable : Projectable asciiTable shop := by
  have texts : shop.requirements.all (fun n =>
      (n.id :: n.statement :: (n.sourceRefs ++ n.resolutionRef.toList)).all fun text =>
        decide (Neutral asciiTable text)) = true := by
    decide +kernel
  have members (n : RequirementNode) (inside : n ∈ shop.requirements) :
      n.acceptanceCriteria = [] ∧ n.properties = [] ∧ (n.id = "bills" ∨ n.id = "purchases") := by
    simp only [RequirementGraph.requirements, shop, List.map_cons, List.map_nil, List.mem_cons, List.not_mem_nil,
        or_false] at inside
    rcases inside with rfl | rfl <;> simp
  refine ⟨?_, ?_, ?_, fun n inside => ?_, fun n inside => ?_, fun n inside => ?_, ?_, fun n inside node declares => ?_⟩
  · intro key n key' n' held held' same
    have member := mem_of_get held
    have member' := mem_of_get held'
    simp only [shop, List.mem_cons, Prod.mk.injEq, List.not_mem_nil, or_false] at member member'
    rcases member with ⟨rfl, rfl⟩ | ⟨rfl, rfl⟩ <;> rcases member' with ⟨rfl, rfl⟩ | ⟨rfl, rfl⟩ <;> simp_all
  · intro key relation key' relation' held held' same
    have member := mem_of_get held
    have member' := mem_of_get held'
    simp only [shop, List.mem_singleton, Prod.mk.injEq] at member member'
    exact member.1.trans member'.1.symm
  · intro relation inside
    obtain rfl := List.mem_singleton.mp inside
    exact ⟨fun n held => Option.some.inj held ▸ rfl, fun n held => Option.some.inj held ▸ rfl⟩
  · rcases (members n inside).2.2 with same | same <;> rw [same] <;> decide
  · exact fun text among => of_decide_eq_true (List.all_eq_true.mp (List.all_eq_true.mp texts n inside) text among)
  · obtain ⟨criteria, properties, -⟩ := members n inside
    simp [criteria, properties, mappingStrings, entryStrings]
  · intro relation inside
    obtain rfl := List.mem_singleton.mp inside
    decide
  · obtain ⟨declarations, held, -⟩ := declares
    simp [(members n inside).2.1] at held

theorem shop_projects : ∃ result, GenesisMapper.map shop = .ok result ∧ Projected shop result.graph ∧
    validateInvariants asciiTable result.graph = .ok () :=
  ⟨_, rfl, (genesis_projects_iff ⟨fun _ _ => rfl, fun _ _ _ _ => rfl⟩ rfl rfl).mpr shop_projectable⟩

end AutonomousApi.GenesisLaws
