import AutonomousApi.IdentityIndex

/-! The two definitions of reference integrity: the validators of the carriers, and the
dangling references of the identity index. For most kinds of references the index
resolves whatever the validator admits. For eight of them the validator admits elements
that the index does not look among, so a valid representation dangles exactly where such
a reference names nothing that the index does look among. -/

namespace AutonomousApi.ReferenceAgreement

open DataclassValues SystemModel PythonText StructureValidation IdentityIndex

section

variable {table : CharTable} {isr : ISR}

theorem modulesAdmitted_each {modules : List Module} {seen : List String}
    (admitted : modulesAdmitted seen modules = true) :
    ∀ mod ∈ modules, validateModuleTemporalConstraints mod = [] ∧ validateModuleMigrationConstraints mod = [] := by
  induction modules generalizing seen with
  | nil => simp
  | cons first rest ih =>
      simp only [modulesAdmitted, Bool.and_eq_true, List.isEmpty_iff] at admitted
      intro mod member
      rcases List.mem_cons.mp member with rfl | inside
      · exact ⟨admitted.1.1.2, admitted.1.2⟩
      · exact ih admitted.2 mod inside

/-- The complaints that a valid representation does not have, carrier by carrier. -/
structure Silent (isr : ISR) : Prop where
  capabilities : ∀ capability ∈ isr.system.businessCapabilities, capabilityReferences isr.system capability = []
  reliability : ∀ requirement ∈ isr.system.reliabilityRequirements, reliabilityReferences isr.system requirement = []
  boundaries : ∀ boundary ∈ isr.system.architecturalBoundaries, boundaryReferences isr.system boundary = []
  requirements : ∀ requirement ∈ isr.system.requirements, requirementReferences isr.system requirement = []
  criteria : ∀ criterion ∈ isr.system.acceptanceCriteria, criterionReferences isr.system criterion = []
  deployments : ∀ intent ∈ isr.system.deploymentIntents, deploymentReferences isr.system intent = []
  documentation : ∀ doc ∈ isr.system.documentationIntents, documentationReferences isr.system doc = []
  decisions : ∀ decision ∈ isr.system.architecturalDecisions, decisionReferences isr.system decision = []
  threats : ∀ threat ∈ isr.system.securityThreats, threatReferences isr.system threat = []
  anchors : ∀ anchor ∈ isr.system.testingAnchors, anchorReferences isr.system anchor = []
  temporal : ∀ mod ∈ isr.system.modules, ∀ constraint ∈ mod.temporalConstraints,
    temporalReferences mod constraint = []
  migrations : ∀ mod ∈ isr.system.modules, ∀ migration ∈ mod.dataMigrations, migrationReferences mod migration = []

theorem silent_of_valid (valid : validateStructure table isr = true) : Silent isr := by
  simp only [validateStructure, Bool.and_eq_true, List.isEmpty_iff] at valid
  obtain ⟨⟨⟨⟨⟨⟨⟨⟨⟨⟨⟨⟨_, modules⟩, capabilities⟩, reliability⟩, boundaries⟩, requirements⟩, deployments⟩,
    documentation⟩, _⟩, decisions⟩, threats⟩, anchors⟩, _⟩ := valid
  have requirements := List.append_eq_nil_iff.mp (List.append_eq_nil_iff.mp requirements).1
  have each := modulesAdmitted_each modules
  exact {
    capabilities := audit_eq_nil capabilities
    reliability := audit_eq_nil reliability
    boundaries := audit_eq_nil boundaries
    requirements := audit_eq_nil requirements.1
    criteria := audit_eq_nil requirements.2
    deployments := audit_eq_nil deployments
    documentation := audit_eq_nil documentation
    decisions := audit_eq_nil decisions
    threats := audit_eq_nil threats
    anchors := audit_eq_nil anchors
    temporal := fun mod member => audit_eq_nil (each mod member).1
    migrations := fun mod member => audit_eq_nil (List.append_eq_nil_iff.mp (each mod member).2).1 }

@[simp] theorem unresolved_eq_nil {owner field : String} {refs known : List String} :
    unresolved owner field refs known = [] ↔ ∀ ref ∈ refs, ref ∈ known := dangling_eq_nil

/-- Every one of the references that names one of the wider ids names one of the narrower ones too. -/
def Narrowed (refs wide narrow : List String) : Prop := ∀ ref ∈ refs, ref ∈ wide → ref ∈ narrow

/-- Where the validator admits the wider ids beside ids that the index resolves, only they matter. -/
theorem resolved_iff {refs checked wide narrow : List String} {known : String → Prop}
    (admitted : ∀ ref ∈ refs, ref ∈ checked) (split : ∀ ref, ref ∈ checked → ref ∈ wide ∨ known ref)
    (within : ∀ ref, known ref → ref ∈ narrow) :
    (∀ ref ∈ refs, ref ∈ narrow) ↔ Narrowed refs wide narrow := by
  constructor
  · intro resolved ref member _
    exact resolved ref member
  · intro narrowed ref member
    rcases split ref (admitted ref member) with outside | inside
    · exact narrowed ref member outside
    · exact within ref inside

/-- Modules and what they hold besides workflows: elements that are no genes. -/
def structuralIds (system : System) : List String :=
  moduleIds system ++ serviceIds system ++ interfaceIds system ++ policyIds system ++ entityIds system

variable {ref : String}

theorem mem_geneIds {system : System} :
    ref ∈ geneIds system ↔ ref ∈ structuralIds system ∨ ref ∈ workflowIds system ∨ ref ∈ capabilityIds system := by
  simp only [geneIds, structuralIds, List.mem_append]
  tauto

theorem capability_identity (named : ref ∈ capabilityIds isr.system) : ref ∈ identities isr := by
  obtain ⟨capability, member, rfl⟩ := List.mem_map.mp named
  exact mem_identities.mpr ⟨.capability capability, by simp [walkedGenes, member], rfl⟩

theorem requirement_identity (named : ref ∈ requirementIds isr.system) : ref ∈ identities isr := by
  obtain ⟨requirement, member, rfl⟩ := List.mem_map.mp named
  exact mem_identities.mpr ⟨.requirement requirement, by simp [walkedGenes, member], rfl⟩

theorem boundary_identity (named : ref ∈ boundaryIds isr.system) : ref ∈ identities isr := by
  obtain ⟨boundary, member, rfl⟩ := List.mem_map.mp named
  exact mem_identities.mpr ⟨.boundary boundary, by simp [walkedGenes, member], rfl⟩

theorem workflow_identity (named : ref ∈ workflowIds isr.system) : ref ∈ identities isr := by
  obtain ⟨mod, inside, named⟩ := List.mem_flatMap.mp named
  obtain ⟨workflow, member, rfl⟩ := List.mem_map.mp named
  refine mem_identities.mpr ⟨.behavior workflow, ?_, rfl⟩
  have held : Gene.behavior workflow ∈ moduleGenes mod := by simp [moduleGenes, member]
  have walked := List.mem_flatMap.mpr ⟨mod, inside, held⟩
  simp only [walkedGenes, List.mem_append]
  exact Or.inr walked

/-- The references of a valid representation that the index would resolve only by luck. -/
structure Resolvable (isr : ISR) : Prop where
  constrained : ∀ requirement ∈ isr.system.requirements,
    Narrowed requirement.constraintRefs (structuralIds isr.system ++ capabilityIds isr.system)
      (constraintIds isr.system ++ workflowIds isr.system)
  judged : ∀ criterion ∈ isr.system.acceptanceCriteria,
    Narrowed criterion.subjectRefs (structuralIds isr.system) (identities isr)
  guarded : ∀ requirement ∈ isr.system.reliabilityRequirements,
    Narrowed requirement.targetRefs (moduleIds isr.system ++ serviceIds isr.system) (identities isr)
  deployed : ∀ intent ∈ isr.system.deploymentIntents,
    Narrowed intent.targetRefs (moduleIds isr.system) (identities isr)
  enclosed : ∀ boundary ∈ isr.system.architecturalBoundaries,
    Narrowed (boundary.memberRefs ++ boundary.forbiddenDependencyRefs) (geneIds isr.system) (moduleIds isr.system)
  documented : ∀ doc ∈ isr.system.documentationIntents,
    Narrowed doc.subjectRefs (moduleIds isr.system) (identities isr)
  timed : ∀ mod ∈ isr.system.modules, ∀ constraint ∈ mod.temporalConstraints,
    Narrowed [constraint.targetRef] (stateIds mod ++ eventIds mod) (systemTransitionIds isr ++ workflowIds isr.system)
  preceded : ∀ mod ∈ isr.system.modules, ∀ constraint ∈ mod.temporalConstraints,
    constraint.kind ≠ .eventOrdering → ∀ ref ∈ present constraint.referenceRef, ref ∈ systemEventIds isr

theorem capabilityDangles_nil {capability : BusinessCapability}
    (silent : capabilityReferences isr.system capability = []) : capabilityDangles isr capability = [] := by
  simpa [capabilityReferences, capabilityDangles] using silent

theorem decisionDangles_nil {decision : ArchitecturalDecision}
    (silent : decisionReferences isr.system decision = []) : decisionDangles isr decision = [] := by
  simpa [decisionReferences, decisionDangles] using silent

theorem threatDangles_nil {threat : SecurityThreat}
    (silent : threatReferences isr.system threat = []) : threatDangles isr threat = [] := by
  simpa [threatReferences, threatDangles] using silent

theorem anchorDangles_nil {anchor : TestingAnchor}
    (silent : anchorReferences isr.system anchor = []) : anchorDangles isr anchor = [] := by
  simp only [anchorReferences, List.append_eq_nil_iff, dangling_eq_nil] at silent
  simp only [anchorDangles, List.append_eq_nil_iff, unresolved_eq_nil]
  refine ⟨fun ref member => ?_, silent.2⟩
  have named := silent.1 ref member
  simp only [subjectGeneIds, List.mem_append] at named
  rcases named with (workflow | capability) | requirement
  · exact workflow_identity workflow
  · exact capability_identity capability
  · exact requirement_identity requirement

theorem migrationDangles_nil {mod : Module} {migration : DataMigrationIntent} (inside : mod ∈ isr.system.modules)
    (silent : migrationReferences mod migration = []) : migrationDangles isr migration = [] := by
  simp only [migrationReferences, List.append_eq_nil_iff, dangling_eq_nil] at silent
  obtain ⟨⟨⟨⟨source, target⟩, rollback⟩, preserved⟩, depended⟩ := silent
  have entity {ref : String} (local_ : ref ∈ mod.entities.map (·.id)) : ref ∈ entityIds isr.system :=
    List.mem_flatMap.mpr ⟨mod, inside, local_⟩
  simp only [migrationDangles, List.append_eq_nil_iff, unresolved_eq_nil]
  refine ⟨⟨⟨⟨?_, ?_⟩, ?_⟩, ?_⟩, ?_⟩
  · exact fun ref member => entity (source ref member)
  · exact fun ref member => entity (target ref member)
  · exact fun ref member => entity (preserved ref member)
  · intro ref member
    have same := rollback ref (List.mem_filter.mp member).1
    exact entity (source ref same)
  · exact fun ref member => List.mem_flatMap.mpr ⟨mod, inside, depended ref member⟩

theorem requirementDangles_iff {requirement : Requirement}
    (silent : requirementReferences isr.system requirement = []) :
    requirementDangles isr requirement = [] ↔
      Narrowed requirement.constraintRefs (structuralIds isr.system ++ capabilityIds isr.system)
        (constraintIds isr.system ++ workflowIds isr.system) := by
  simp only [requirementReferences, List.append_eq_nil_iff, dangling_eq_nil] at silent
  simp only [requirementDangles, List.append_eq_nil_iff, unresolved_eq_nil]
  have targets : ∀ ref ∈ requirement.targetRefs, ref ∈ identities isr := fun ref member =>
    capability_identity (silent.1.1 ref member)
  rw [← @resolved_iff _ _ _ _ (· ∈ workflowIds isr.system) silent.2]
  · exact ⟨And.right, fun constrained => ⟨⟨targets, silent.1.2⟩, constrained⟩⟩
  · intro ref named
    have kinds := mem_geneIds.mp named
    simp only [List.mem_append]
    tauto
  · exact fun ref named => List.mem_append_right _ named

theorem criterionDangles_iff {criterion : AcceptanceCriterion}
    (silent : criterionReferences isr.system criterion = []) :
    criterionDangles isr criterion = [] ↔
      Narrowed criterion.subjectRefs (structuralIds isr.system) (identities isr) := by
  rw [criterionDangles, unresolved_eq_nil]
  refine resolved_iff (dangling_eq_nil.mp silent) (fun ref named => mem_geneIds.mp named) ?_
  rintro ref (workflow | capability)
  · exact workflow_identity workflow
  · exact capability_identity capability

theorem reliabilityDangles_iff {requirement : ReliabilityRequirement}
    (silent : reliabilityReferences isr.system requirement = []) :
    reliabilityDangles isr requirement = [] ↔
      Narrowed requirement.targetRefs (moduleIds isr.system ++ serviceIds isr.system) (identities isr) := by
  simp only [reliabilityReferences, List.append_eq_nil_iff, dangling_eq_nil] at silent
  rw [reliabilityDangles, unresolved_eq_nil]
  refine resolved_iff silent.1 (fun ref named => ?_) (fun ref => capability_identity)
  simp only [reliabilityTargetIds, List.mem_append] at named
  simp only [List.mem_append]
  tauto

theorem deploymentDangles_iff {intent : DeploymentIntent}
    (silent : deploymentReferences isr.system intent = []) :
    deploymentDangles isr intent = [] ↔ Narrowed intent.targetRefs (moduleIds isr.system) (identities isr) := by
  simp only [deploymentReferences, List.append_eq_nil_iff, dangling_eq_nil] at silent
  simp only [deploymentDangles, List.append_eq_nil_iff, unresolved_eq_nil]
  rw [← resolved_iff silent.1 (fun ref named => (List.mem_append.mp named).symm) (fun ref => capability_identity)]
  -- The rollback target is one of the targets, so it resolves with them.
  refine ⟨And.left, fun deployed => ⟨deployed, fun ref member => ?_⟩⟩
  exact deployed ref (silent.2 ref (List.mem_filter.mp member).1)

theorem boundaryDangles_iff {boundary : ArchitecturalBoundary}
    (silent : boundaryReferences isr.system boundary = []) :
    boundaryDangles isr boundary = [] ↔
      Narrowed (boundary.memberRefs ++ boundary.forbiddenDependencyRefs) (geneIds isr.system)
        (moduleIds isr.system) := by
  simp only [boundaryReferences, List.append_eq_nil_iff, dangling_eq_nil] at silent
  simp only [boundaryDangles, List.append_eq_nil_iff, unresolved_eq_nil]
  have admitted : ∀ ref ∈ boundary.memberRefs ++ boundary.forbiddenDependencyRefs, ref ∈ geneIds isr.system := by
    intro ref member
    rcases List.mem_append.mp member with enclosed | forbidden
    · exact silent.1 ref enclosed
    · exact silent.2 ref forbidden
  rw [← @resolved_iff _ _ _ _ (fun _ => False) admitted (fun ref named => Or.inl named) (fun ref never => never.elim)]
  simp only [List.mem_append, or_imp, forall_and]

theorem documentationDangles_iff {doc : DocumentationIntent}
    (silent : documentationReferences isr.system doc = []) :
    documentationDangles isr doc = [] ↔ Narrowed doc.subjectRefs (moduleIds isr.system) (identities isr) := by
  rw [documentationDangles, unresolved_eq_nil]
  refine @resolved_iff _ _ _ _ (· ∈ identities isr) (dangling_eq_nil.mp silent) (fun ref named => ?_) (fun ref => id)
  simp only [documentableGeneIds, List.mem_append] at named
  rcases named with (((mod | workflow) | capability) | requirement) | boundary
  · exact Or.inl mod
  · exact Or.inr (workflow_identity workflow)
  · exact Or.inr (capability_identity capability)
  · exact Or.inr (requirement_identity requirement)
  · exact Or.inr (boundary_identity boundary)

theorem temporalDangles_iff {mod : Module} {constraint : TemporalConstraint} (inside : mod ∈ isr.system.modules)
    (silent : temporalReferences mod constraint = []) :
    temporalDangles isr constraint = [] ↔
      Narrowed [constraint.targetRef] (stateIds mod ++ eventIds mod)
          (systemTransitionIds isr ++ workflowIds isr.system) ∧
        (constraint.kind ≠ .eventOrdering → ∀ ref ∈ present constraint.referenceRef, ref ∈ systemEventIds isr) := by
  simp only [temporalReferences, List.append_eq_nil_iff, dangling_eq_nil] at silent
  simp only [temporalDangles, List.append_eq_nil_iff, unresolved_eq_nil]
  refine and_congr ?_ ?_
  · refine @resolved_iff _ _ _ _ (· ∈ transitionIds mod) silent.1 (fun ref named => ?_) (fun ref named => ?_)
    · simp only [List.mem_append] at named
      simp only [List.mem_append]
      tauto
    · exact List.mem_append_left _ (List.mem_flatMap.mpr ⟨mod, inside, named⟩)
  · refine ⟨fun resolved _ => resolved, fun others => ?_⟩
    by_cases ordering : constraint.kind = .eventOrdering
    · rw [if_pos ordering] at silent
      intro ref member
      exact List.mem_flatMap.mpr ⟨mod, inside, silent.2 ref (List.mem_filter.mp member).1⟩
    · exact others ordering

end

variable {table : CharTable} {isr : ISR}

theorem moduleDangles_nil_iff (silent : Silent isr) {mod : Module} (inside : mod ∈ isr.system.modules) :
    moduleDangles isr mod = [] ↔ ∀ constraint ∈ mod.temporalConstraints, temporalDangles isr constraint = [] := by
  simp only [moduleDangles, List.append_eq_nil_iff, List.flatMap_eq_nil_iff, and_iff_right_iff_imp]
  intro _ migration member
  exact migrationDangles_nil inside (silent.migrations mod inside migration member)

/-- A structurally valid representation has no dangling reference exactly when its references of
the eight kinds name something the index looks among. -/
theorem valid_intact_iff (valid : validateStructure table isr = true) :
    danglingReferences isr = [] ↔ Resolvable isr := by
  have silent := silent_of_valid valid
  have capabilities := fun capability member => capabilityDangles_nil (silent.capabilities capability member)
  have decisions := fun decision member => decisionDangles_nil (silent.decisions decision member)
  have threats := fun threat member => threatDangles_nil (silent.threats threat member)
  have anchors := fun anchor member => anchorDangles_nil (silent.anchors anchor member)
  simp only [danglingReferences, List.append_eq_nil_iff, List.flatMap_eq_nil_iff]
  constructor
  · rintro ⟨⟨⟨⟨⟨⟨⟨⟨⟨⟨_, requirements⟩, criteria⟩, reliability⟩, deployments⟩, boundaries⟩, _⟩, _⟩, _⟩, docs⟩, mods⟩
    have timed := fun mod inside constraint member =>
      (temporalDangles_iff inside (silent.temporal mod inside constraint member)).mp
        ((moduleDangles_nil_iff silent inside).mp (mods mod inside) constraint member)
    exact {
      constrained := fun item member =>
        (requirementDangles_iff (silent.requirements item member)).mp (requirements item member)
      judged := fun item member => (criterionDangles_iff (silent.criteria item member)).mp (criteria item member)
      guarded := fun item member =>
        (reliabilityDangles_iff (silent.reliability item member)).mp (reliability item member)
      deployed := fun item member =>
        (deploymentDangles_iff (silent.deployments item member)).mp (deployments item member)
      enclosed := fun item member => (boundaryDangles_iff (silent.boundaries item member)).mp (boundaries item member)
      documented := fun item member =>
        (documentationDangles_iff (silent.documentation item member)).mp (docs item member)
      timed := fun mod inside constraint member => (timed mod inside constraint member).1
      preceded := fun mod inside constraint member => (timed mod inside constraint member).2 }
  · intro resolvable
    refine ⟨⟨⟨⟨⟨⟨⟨⟨⟨⟨capabilities, ?_⟩, ?_⟩, ?_⟩, ?_⟩, ?_⟩, anchors⟩, decisions⟩, threats⟩, ?_⟩, ?_⟩
    · intro item member
      exact (requirementDangles_iff (silent.requirements item member)).mpr (resolvable.constrained item member)
    · intro item member
      exact (criterionDangles_iff (silent.criteria item member)).mpr (resolvable.judged item member)
    · intro item member
      exact (reliabilityDangles_iff (silent.reliability item member)).mpr (resolvable.guarded item member)
    · intro item member
      exact (deploymentDangles_iff (silent.deployments item member)).mpr (resolvable.deployed item member)
    · intro item member
      exact (boundaryDangles_iff (silent.boundaries item member)).mpr (resolvable.enclosed item member)
    · intro item member
      exact (documentationDangles_iff (silent.documentation item member)).mpr (resolvable.documented item member)
    · intro mod inside
      refine (moduleDangles_nil_iff silent inside).mpr fun constraint member => ?_
      exact (temporalDangles_iff inside (silent.temporal mod inside constraint member)).mpr
        ⟨resolvable.timed mod inside constraint member, resolvable.preceded mod inside constraint member⟩

/-- One module, one capability and a canary rollout of the named target. -/
def rolledOut (target : String) : ISR where
  system := {
    id := "shop"
    name := "Shop"
    modules := [{ id := "ordering", name := "Ordering" }]
    businessCapabilities := [{ capabilityId := "cancel-order", intent := "cancel an order", admitted := by decide }]
    deploymentIntents := [{
      deploymentId := "rollout", targetRefs := [target], rolloutStrategy := .canary
      admitted := ⟨by decide, List.cons_ne_nil _ _, by decide⟩ }] }
  provenance := { createdAt := "2026-01-01T00:00:00+00:00" }

theorem capability_rollout_intact :
    validateStructure asciiTable (rolledOut "cancel-order") = true ∧
      danglingReferences (rolledOut "cancel-order") = [] ∧
      (danglingReferences (rolledOut "cancel-order") = [] ↔ Resolvable (rolledOut "cancel-order")) :=
  ⟨by decide, by decide, @valid_intact_iff asciiTable _ (by decide)⟩

/-- The deployment validator lets an intent target a module, and the index then calls it dangling. -/
theorem module_rollout_dangles :
    ¬ ∀ (table : CharTable) (isr : ISR), validateStructure table isr = true → danglingReferences isr = [] := by
  intro agree
  have intact := agree asciiTable (rolledOut "ordering") (by decide)
  have dangles : danglingReferences (rolledOut "ordering") = ["deployment 'rollout' target_ref 'ordering'"] := by
    decide
  rw [dangles] at intact
  exact List.cons_ne_nil _ _ intact

end AutonomousApi.ReferenceAgreement
