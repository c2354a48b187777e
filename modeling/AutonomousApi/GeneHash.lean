import AutonomousApi.SemanticHash

/-! The hash of a gene: the digest of its canonical text. The form of a value never repeats a
key, so the text of a form determines the form up to the order of keys; with a digest that
separates texts, equal hashes come from equal forms, and of two values that one annotation
admits, from equal settled values. -/

namespace AutonomousApi.GeneHash

open DataTree JsonValue PythonLiteral OrderedMap DataclassValues SemanticProjection SemanticHash

variable {Key : Type} {numbers : NumberText JsonFloat} {sha256 : String → String}

section

variable (numbers : NumberText JsonFloat) (sha256 : String → String)

/-- `_gene_hash`. -/
def geneHash (value : PyValue) : Except String String := do return sha256 (← canonicalize numbers value)

/-- The hashes of values under their keys, up to the first value without a form. -/
def hashed : List (Key × PyValue) → Except String (List (Key × String))
  | [] => .ok []
  | (key, value) :: rest => do
      let hash ← geneHash numbers sha256 value
      return (key, hash) :: (← hashed rest)

/-- The hash of a value that has a form. -/
def digestOf (value : PyValue) : String := sha256 (JsonCodec.dumps .compact numbers (formOf numbers value))

/-- The canonical content of a value: its form with the keys in order. -/
def content (numbers : NumberText JsonFloat) (value : PyValue) : Json := sortKeys (formOf numbers value)

end

variable {forms : List Json} {items : List PyValue}

theorem distinct_sortedForms (each : ∀ form ∈ forms, Distinct form) :
    DistinctItems (sortedForms numbers forms) := by
  rw [distinctItems_iff]
  intro form member
  obtain ⟨entry, inside, rfl⟩ := List.mem_map.mp member
  obtain ⟨source, listed, rfl⟩ := List.mem_map.mp ((List.mem_insertionSort _).mp inside)
  exact JsonCodec.distinct_sortKeys source (each source listed)

theorem memberForms_ok (built : memberForms numbers items = .ok forms) :
    ∀ form ∈ forms, ∃ item ∈ items, canonicalForm numbers item = .ok form := by
  induction items generalizing forms with
  | nil =>
      cases built
      simp
  | cons item rest ih =>
      rw [memberForms] at built
      obtain ⟨first, head, built⟩ := FailFast.bind_ok built
      obtain ⟨others, tail, same⟩ := FailFast.bind_ok built
      cases same
      intro form member
      rcases List.mem_cons.mp member with rfl | inside
      · exact ⟨item, List.mem_cons_self, head⟩
      · obtain ⟨source, listed, found⟩ := ih tail form inside
        exact ⟨source, List.mem_cons_of_mem item listed, found⟩

theorem distinct_entries {entries : List (PyKey × PyValue)} {forms : List (String × Json)}
    (built : canonicalEntries numbers entries = .ok forms)
    (each : ∀ entry ∈ entries, Distinct (formOf numbers entry.2)) : Distinct (.obj (assignAll [] forms) : Json) := by
  obtain ⟨_, rfl⟩ := canonicalEntries_ok built
  refine (distinct_dict_iff _).mpr ⟨keys_assignAll_nodup _ List.nodup_nil, fun entry member => ?_⟩
  obtain ⟨source, kept, rfl⟩ := List.mem_map.mp (mem_of_assignAll member)
  exact each source (List.mem_of_mem_filter kept)

theorem distinct_items (built : canonicalItems numbers items = .ok forms)
    (each : ∀ item ∈ items, Distinct (formOf numbers item)) : Distinct (.arr forms : Json) := by
  obtain ⟨_, rfl⟩ := canonicalItems_ok built
  refine (distinctItems_iff _).mpr fun form member => ?_
  obtain ⟨source, kept, rfl⟩ := List.mem_map.mp member
  exact each source (List.mem_of_mem_filter kept)

/-- A form has no key twice. -/
theorem canonicalForm_distinct {value : PyValue} {form : Json} (built : canonicalForm numbers value = .ok form) :
    Distinct form := by
  induction value generalizing form with
  | scalar value =>
      cases value <;> simp only [canonicalForm, scalarForm, reduceCtorEq, Except.ok.injEq] at built <;>
        subst built <;> simp [Distinct, DistinctEntries]
  | tuple items ih =>
      obtain ⟨forms, gathered, rfl⟩ := gathered_ok built
      exact distinct_items gathered fun item member => ih item member ((canonicalItems_ok gathered).1 item member)
  | list items ih =>
      obtain ⟨forms, gathered, rfl⟩ := gathered_ok built
      exact distinct_items gathered fun item member => ih item member ((canonicalItems_ok gathered).1 item member)
  | set items ih =>
      obtain ⟨forms, gathered, rfl⟩ := gathered_ok built
      refine distinct_sortedForms fun form member => ?_
      obtain ⟨item, inside, made⟩ := memberForms_ok gathered form member
      exact ih item inside made
  | dict entries ih =>
      obtain ⟨forms, gathered, rfl⟩ := gathered_ok built
      exact distinct_entries gathered fun entry member => ih entry member
          ((canonicalEntries_ok gathered).1 entry member)
  | record fields ih =>
      obtain ⟨forms, gathered, rfl⟩ := gathered_ok built
      exact distinct_entries gathered fun field member => ih field member
          ((canonicalEntries_ok gathered).1 field member)

theorem sortKeys_mapAtoms {Atom Image : Type} (image : Atom → Image) (tree : Tree String Atom) :
    sortKeys (mapAtoms image tree) = mapAtoms image (sortKeys tree) := by
  have items (trees : List (Tree String Atom)) : mapItems image trees = trees.map (mapAtoms image) := by
    induction trees with
    | nil => rfl
    | cons head rest ih => rw [mapItems, ih, List.map_cons]
  have entries (trees : List (String × Tree String Atom)) :
      mapEntries image trees = trees.map fun entry => (entry.1, mapAtoms image entry.2) := by
    induction trees with
    | nil => rfl
    | cons head rest ih => rw [mapEntries, ih, List.map_cons]
  induction tree with
  | atom value => rfl
  | list trees ih =>
      rw [mapAtoms, items, sortKeys, sortItems_eq_map, sortKeys, sortItems_eq_map, mapAtoms, items, List.map_map,
        List.map_map]
      exact congrArg Tree.list (List.map_congr_left ih)
  | dict trees ih =>
      have reordered := List.map_insertionSort DataTree.keyOrder DataTree.keyOrder
        (fun entry : String × Tree String Atom => (entry.1, mapAtoms image entry.2))
        (trees.map fun entry => (entry.1, sortKeys entry.2)) fun _ _ _ _ => Iff.rfl
      rw [mapAtoms, entries, sortKeys, sortEntries_eq_map, sortKeys, sortEntries_eq_map, mapAtoms, entries, reordered,
        List.map_map, List.map_map]
      refine congrArg (fun sorted => Tree.dict (List.insertionSort DataTree.keyOrder sorted)) ?_
      exact List.map_congr_left fun entry member => Prod.ext rfl (ih entry member)

/-- Forms with the same content are equal in Python. -/
theorem pyView_of_content {left right : Json} (same : sortKeys left = sortKeys right) : pyView left = pyView right := by
  rw [pyView, pyView, sortKeys_mapAtoms, sortKeys_mapAtoms, same]

variable {value other : PyValue}

theorem geneHash_ok {hash : String} (computed : geneHash numbers sha256 value = .ok hash) :
    canonicalForm numbers value = .ok (formOf numbers value) ∧ hash = digestOf numbers sha256 value := by
  obtain ⟨text, written, same⟩ := FailFast.bind_ok computed
  obtain ⟨form, built, text_eq⟩ := FailFast.bind_ok written
  cases text_eq
  cases same
  rw [digestOf, formOf_ok built]
  exact ⟨built, rfl⟩

theorem hashed_ok {entries : List (Key × PyValue)} {hashes : List (Key × String)}
    (computed : hashed numbers sha256 entries = .ok hashes) :
    (∀ entry ∈ entries, canonicalForm numbers entry.2 = .ok (formOf numbers entry.2)) ∧
      hashes = entries.map fun entry => (entry.1, digestOf numbers sha256 entry.2) := by
  induction entries generalizing hashes with
  | nil =>
      cases computed
      simp
  | cons entry rest ih =>
      rw [hashed] at computed
      obtain ⟨hash, first, computed⟩ := FailFast.bind_ok computed
      obtain ⟨others, later, same⟩ := FailFast.bind_ok computed
      obtain ⟨built, rfl⟩ := geneHash_ok first
      obtain ⟨each, rfl⟩ := ih later
      cases same
      exact ⟨List.forall_mem_cons.mpr ⟨built, each⟩, rfl⟩

/-- A digest that separates texts separates contents. -/
theorem digestOf_inj (injective : Function.Injective sha256)
    (built : canonicalForm numbers value = .ok (formOf numbers value))
    (builtOther : canonicalForm numbers other = .ok (formOf numbers other)) :
    digestOf numbers sha256 value = digestOf numbers sha256 other ↔ content numbers value = content numbers other := by
  constructor
  · intro same
    exact JsonCodec.dumps_injective numbers .compact (canonicalForm_distinct built) (canonicalForm_distinct builtOther)
      (injective same)
  · intro same
    rw [content, content] at same
    rw [digestOf, digestOf, JsonCodec.dumps, JsonCodec.dumps, same]

/-- Two values of one annotation with the same content are equal up to empty values. -/
theorem settle_of_content (alike : Alike value other)
    (built : canonicalForm numbers value = .ok (formOf numbers value))
    (builtOther : canonicalForm numbers other = .ok (formOf numbers other))
    (same : content numbers value = content numbers other) : settle value = settle other :=
  alike_agree alike built builtOther (pyView_of_content same)

end AutonomousApi.GeneHash
