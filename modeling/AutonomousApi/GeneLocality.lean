import AutonomousApi.SemanticEvolutionGate

/-! Locality of the gate. The proof compares the hashes of the candidate's index with the
parent's, entry by entry of the candidate; a gene that the candidate no longer has is never
looked at, and of several genes under one identity the index holds the last. -/

namespace AutonomousApi.GeneLocality

open JsonValue PythonLiteral PythonText OrderedMap SystemModel IdentityIndex SemanticHash GeneHash
  SemanticProjection EvolutionProtection SemanticEvolutionGate

section

variable {isr : ISR} {key : GeneKey} {gene : Gene}

theorem mem_of_genes (held : get (genes isr) key = some gene) : gene ∈ walkedGenes isr.system ∧ gene.key = key := by
  obtain ⟨source, member, same⟩ := List.mem_map.mp (mem_of_get_assignAll held)
  cases same
  exact ⟨member, rfl⟩

theorem genes_held (member : gene ∈ walkedGenes isr.system) : ∃ held, get (genes isr) gene.key = some held := by
  refine Option.isSome_iff_exists.mp ((isSome_assignAll _ _).mpr ?_)
  exact List.mem_map.mpr ⟨(gene.key, gene), List.mem_map_of_mem member, rfl⟩

variable {numbers : NumberText JsonFloat} {sha256 : String → String} {hashes : Dict GeneKey String}

theorem get_geneHashes (computed : geneHashes numbers sha256 isr = .ok hashes) (key : GeneKey) :
    get hashes key = (get (genes isr) key).map fun gene => digestOf numbers sha256 (geneValue gene) := by
  obtain ⟨_, rfl⟩ := hashed_ok computed
  rw [List.map_map]
  exact get_map_values (fun gene => digestOf numbers sha256 (geneValue gene)) (genes isr) key

theorem geneHashes_built (computed : geneHashes numbers sha256 isr = .ok hashes)
    (held : get (genes isr) key = some gene) :
    SemanticProjection.canonicalForm numbers (geneValue gene) = .ok (formOf numbers (geneValue gene)) :=
  (hashed_ok computed).1 (key, geneValue gene) (List.mem_map.mpr ⟨(key, gene), mem_of_get held, rfl⟩)

end

section

variable (numbers : NumberText JsonFloat) (parent candidate : ISR) (delta : MultiGeneDelta)

/-- The candidate has a gene with the identity and the canonical content of a gene. -/
def Present (candidate : ISR) (gene : Gene) : Prop :=
  ∃ kept ∈ walkedGenes candidate.system, kept.key = gene.key ∧
    content numbers (geneValue kept) = content numbers (geneValue gene)

/-- The candidate differs from the parent in the declared genes only. -/
structure Local : Prop where
  kept : ∀ gene ∈ walkedGenes parent.system, delta.declares gene.key = false → Present numbers candidate gene
  added : ∀ gene ∈ walkedGenes candidate.system, (∀ old ∈ walkedGenes parent.system, old.key ≠ gene.key) →
    delta.declares gene.key = true

/-- No undeclared identity is gone, and of an undeclared gene that is not what the parent's index holds
under its identity, the candidate has the content. -/
structure Traced : Prop where
  identities : ∀ gene ∈ walkedGenes parent.system, delta.declares gene.key = false →
    ∃ kept ∈ walkedGenes candidate.system, kept.key = gene.key
  shadowed : ∀ gene ∈ walkedGenes parent.system, delta.declares gene.key = false → ∀ held,
    get (genes parent) gene.key = some held →
      content numbers (geneValue held) ≠ content numbers (geneValue gene) → Present numbers candidate gene

variable {numbers parent candidate delta} {sha256 : String → String} {before after : Dict GeneKey String}

/-- What an undisturbed index says about one entry of the candidate. -/
theorem undisturbed (intact : disturbedGenes delta before after = []) {key : GeneKey} {hash : String}
    (held : get after key = some hash) : get before key = some hash ∨ delta.declares key = true := by
  have empty := (List.perm_insertionSort _ _).symm.trans (List.Perm.of_eq intact)
  have none_ := List.map_eq_nil_iff.mp (List.perm_nil.mp empty)
  have skipped := List.filter_eq_nil_iff.mp none_ (key, hash) (mem_of_get held)
  by_cases same : get before key = some hash
  · exact Or.inl same
  · refine Or.inr ?_
    simpa [same] using skipped

theorem proveLocality_held {proof : GateProof}
    (proved : proveLocality numbers sha256 parent candidate delta = .ok proof)
    (held : proof.held = true) :
    ∃ before after, geneHashes numbers sha256 parent = .ok before ∧ geneHashes numbers sha256 candidate = .ok after ∧
      disturbedGenes delta before after = [] := by
  obtain ⟨before, computed, proved⟩ := FailFast.bind_ok proved
  obtain ⟨after, computedAfter, same⟩ := FailFast.bind_ok proved
  rw [← Except.ok.inj same] at held
  exact ⟨before, after, computed, computedAfter, List.isEmpty_iff.mp held⟩

theorem local_iff_traced (injective : Function.Injective sha256) {proof : GateProof}
    (proved : proveLocality numbers sha256 parent candidate delta = .ok proof) (held : proof.held = true) :
    Local numbers parent candidate delta ↔ Traced numbers parent candidate delta := by
  obtain ⟨before, after, computed, computedAfter, intact⟩ := proveLocality_held proved held
  constructor
  · intro located
    refine ⟨fun gene member undeclared => ?_, fun gene member undeclared _ _ _ => located.kept gene member undeclared⟩
    obtain ⟨kept, inside, same, _⟩ := located.kept gene member undeclared
    exact ⟨kept, inside, same⟩
  · intro traced
    refine ⟨fun gene member undeclared => ?_, fun gene member absent => ?_⟩
    · obtain ⟨held, here⟩ := genes_held member
      obtain ⟨other, inside, named⟩ := traced.identities gene member undeclared
      obtain ⟨kept, there⟩ := genes_held inside
      rw [named] at there
      have hash := get_geneHashes computedAfter gene.key
      rw [there] at hash
      -- The candidate's index has the identity, so its hash is the parent's.
      have hashes := (undisturbed intact hash).resolve_right (by simp [undeclared])
      rw [get_geneHashes computed, here] at hashes
      have contents := (digestOf_inj injective (geneHashes_built computed here)
        (geneHashes_built computedAfter there)).mp (Option.some.inj hashes)
      by_cases same : content numbers (geneValue held) = content numbers (geneValue gene)
      · exact ⟨kept, (mem_of_genes there).1, (mem_of_genes there).2, contents.symm.trans same⟩
      · exact traced.shadowed gene member undeclared held here same
    · obtain ⟨held, there⟩ := genes_held member
      have hash := get_geneHashes computedAfter gene.key
      rw [there] at hash
      refine (undisturbed intact hash).resolve_left fun known => ?_
      rw [get_geneHashes computed] at known
      obtain ⟨old, here, _⟩ := Option.map_eq_some_iff.mp known
      exact absent old (mem_of_genes here).1 (mem_of_genes here).2

end

variable {context : GateContext} {parent candidate : ISR} {delta : MultiGeneDelta}
  {authorization : Option Authorization} {verdict : SemanticEvolutionVerdict}

theorem feasible_locality (judged : evaluateCandidate context parent candidate delta authorization = .ok verdict)
    (feasible : verdict.feasible = true) :
    ∃ proof, proveLocality context.numbers context.sha256 parent candidate delta = .ok proof ∧ proof.held = true := by
  obtain ⟨protection, _, judged⟩ := FailFast.bind_ok judged
  by_cases protected_ : protection.protectedOk = true
  · rw [if_pos protected_] at judged
    obtain ⟨locality, proved, judged⟩ := FailFast.bind_ok judged
    obtain ⟨backend, _, judged⟩ := FailFast.bind_ok judged
    obtain ⟨hash, _, same⟩ := FailFast.bind_ok judged
    rw [← Except.ok.inj same] at feasible
    exact ⟨locality, proved, List.all_eq_true.mp feasible locality List.mem_cons_self⟩
  · rw [if_neg protected_] at judged
    obtain ⟨hash, _, same⟩ := FailFast.bind_ok judged
    rw [← Except.ok.inj same] at feasible
    cases feasible

/-- A feasible candidate differs from its parent in the declared genes only, exactly where no
undeclared identity is gone and no undeclared gene is hidden by a later one of its identity. -/
theorem feasible_local_iff (injective : Function.Injective context.sha256)
    (judged : evaluateCandidate context parent candidate delta authorization = .ok verdict)
    (feasible : verdict.feasible = true) :
    Local context.numbers parent candidate delta ↔ Traced context.numbers parent candidate delta := by
  obtain ⟨proof, proved, held⟩ := feasible_locality judged feasible
  exact local_iff_traced injective proved held

def plainGate : GateContext where
  table := asciiTable
  numbers := JsonText.exactDecimals
  sha256 := id
  consumed := true

def offering (capabilities : List BusinessCapability) : ISR where
  system := { id := "shop", name := "Shop", businessCapabilities := capabilities }
  provenance := { createdAt := "2026-01-01T00:00:00+00:00" }

theorem cancelling_named : "cancel-order" ≠ "" ∧ "cancel an order" ≠ "" := by decide

def cancelling : BusinessCapability where
  capabilityId := "cancel-order"
  intent := "cancel an order"
  admitted := cancelling_named

def noEdits : MultiGeneDelta where
  deltaId := "nothing"
  edits := []

def verdictOf (context : GateContext) (parent candidate : ISR) (delta : MultiGeneDelta) : Bool :=
  match evaluateCandidate context parent candidate delta none with
  | .ok verdict => verdict.feasible
  | .error _ => false

theorem verdictOf_true (feasible : verdictOf context parent candidate delta = true) :
    ∃ verdict, evaluateCandidate context parent candidate delta none = .ok verdict ∧ verdict.feasible = true := by
  unfold verdictOf at feasible
  generalize evaluateCandidate context parent candidate delta none = outcome at feasible ⊢
  cases outcome with
  | error fault => cases feasible
  | ok verdict => exact ⟨verdict, rfl, feasible⟩

theorem ok_of_any {Value : Type} {outcome : Except String Value} {test : Value → Bool}
    (passed : outcome.toOption.any test = true) : ∃ value, outcome = .ok value ∧ test value = true := by
  cases outcome with
  | error fault => cases passed
  | ok value => exact ⟨value, rfl, passed⟩

/-- A candidate whose gates hold is feasible. -/
theorem feasible_of_gates
    (guarded : (evaluate context.authority context.numbers context.sha256 parent candidate
      (resolveEvolutionPolicy parent) authorization).toOption.any (·.protectedOk) = true)
    (undisturbed : (proveLocality context.numbers context.sha256 parent candidate delta).toOption.any (·.held) = true)
    (sound : (proveReferenceIntegrity parent candidate).held = true)
    (independent : (proveBackendIndependence context.table context.numbers candidate).toOption.any (·.held) = true)
    (consumed : context.consumed = true)
    (hashed : (semanticContentHash context.numbers context.sha256 candidate).toOption.any (fun _ => true) = true) :
    ∃ verdict, evaluateCandidate context parent candidate delta authorization = .ok verdict ∧
      verdict.feasible = true := by
  obtain ⟨protection, judged, protected_⟩ := ok_of_any guarded
  obtain ⟨locality, located, kept⟩ := ok_of_any undisturbed
  obtain ⟨backend, proved, free⟩ := ok_of_any independent
  obtain ⟨hash, computed, -⟩ := ok_of_any hashed
  refine ⟨⟨true, hash, protection, [locality, proveReferenceIntegrity parent candidate, backend,
    proveR28EvidencePath context.consumed], "parent"⟩, ?_, rfl⟩
  have all : [locality, proveReferenceIntegrity parent candidate, backend,
      proveR28EvidencePath context.consumed].all (·.held) = true := by
    simp [kept, sound, free, proveR28EvidencePath, consumed]
  rw [evaluateCandidate, judged]
  change (if protection.protectedOk = true then _ else _) = _
  rw [if_pos protected_, located, proved, computed]
  change Except.ok (SemanticEvolutionVerdict.mk _ hash protection _ "parent") = _
  rw [all]

theorem backendHits_offering (table : CharTable) (numbers : NumberText JsonFloat)
    (capabilities : List BusinessCapability) (quiet : capabilities.flatMap (capabilityHits table) = []) :
    backendHits table numbers (offering capabilities) = .ok [] := by
  change Except.ok (capabilities.flatMap (capabilityHits table) ++ [] ++ [] ++ [] ++ [] ++ [] ++ [] ++ [] ++ []) = _
  rw [quiet]
  rfl

/-- The intent names no mechanism. -/
theorem capabilityHits_cancelling : capabilityHits asciiTable cancelling = [] := by
  have unmentioned : ∀ term ∈ boundaryMechanismTerms ++ deploymentMechanismTerms ++ documentationMechanismTerms ++
      evolutionMechanismTerms ++ migrationMechanismTerms ++ reliabilityMechanismTerms ++ requirementMechanismTerms ++
      testingMechanismTerms, mentions term "cancel an order" = false := by decide +kernel
  have lowered : asciiTable.lower "cancel an order".toList = "cancel an order".toList := by decide
  have free : termsIn asciiTable allTerms "cancel an order" = [] := by
    rw [termsIn, lowered, String.ofList_toList]
    apply List.filter_eq_nil_iff.mpr
    intro term member mentioned
    rw [unmentioned term (List.mem_dedup.mp member)] at mentioned
    cases mentioned
  rw [capabilityHits, show cancelling.intent = "cancel an order" from rfl, free]
  rfl

theorem unedited_local :
    Local JsonText.exactDecimals (offering [cancelling]) (offering [cancelling]) noEdits ↔
      Traced JsonText.exactDecimals (offering [cancelling]) (offering [cancelling]) noEdits := by
  have independent : (proveBackendIndependence plainGate.table plainGate.numbers
      (offering [cancelling])).toOption.any (·.held) = true := by
    rw [proveBackendIndependence, backendHits_offering]
    · rfl
    · exact List.append_eq_nil_iff.mpr ⟨capabilityHits_cancelling, rfl⟩
  obtain ⟨verdict, judged, feasible⟩ :=
    @feasible_of_gates plainGate (offering [cancelling]) (offering [cancelling]) noEdits none (by decide +kernel)
      (by decide +kernel) (by decide +kernel) independent rfl (by decide +kernel)
  exact @feasible_local_iff plainGate _ _ _ _ _ Function.injective_id judged feasible

/-- A candidate that lacks a gene of the parent is feasible under a delta that declares nothing. -/
theorem deleted_gene_feasible :
    ¬ ∀ (context : GateContext), Function.Injective context.sha256 → ∀ parent candidate delta authorization verdict,
      evaluateCandidate context parent candidate delta authorization = .ok verdict → verdict.feasible = true →
        Local context.numbers parent candidate delta := by
  intro located
  obtain ⟨verdict, judged, feasible⟩ :=
    @verdictOf_true plainGate (offering [cancelling]) (offering []) noEdits (by decide +kernel)
  have gone := located plainGate Function.injective_id _ _ _ _ verdict judged feasible
  obtain ⟨gene, member, _⟩ := gone.kept (.capability cancelling) List.mem_cons_self (by decide)
  cases member

end AutonomousApi.GeneLocality
