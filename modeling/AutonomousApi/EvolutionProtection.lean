import AutonomousApi.GeneIndex
import AutonomousApi.IdentityIndex

/-! The protection evaluator, the feasibility gate of evolution. A candidate is compared with
its parent path by path in the gene index; the paths that were added, removed or changed
are named by the identities they stand for, and the regions and objectives of the parent
are judged against those subjects. A set of subjects is a list that is read for its members. -/

namespace AutonomousApi.EvolutionProtection

open JsonValue PythonLiteral PythonText OrderedMap PathTree DataclassValues SystemModel StructureValidation GeneIndex

section

structure EvolutionDiff where
  addedSubjects : List String
  removedSubjects : List String
  changedSubjects : List String
  orderingChanges : List String

def EvolutionDiff.affectedSubjects (diff : EvolutionDiff) : List String :=
  diff.addedSubjects ++ diff.removedSubjects ++ diff.changedSubjects

variable (numbers : NumberText JsonFloat) (sha256 : String → String) (parent candidate : ISR)

/-- The identity that a path stands for in an index; an empty id counts as none. -/
def identityAt (isr : ISR) (path : Path) : Option String := (get (pathIdentities isr) path).filter (· != "")

/-- `resolve_one`. -/
def resolveOne (path : Path) : String :=
  (identityAt parent path <|> identityAt candidate path).getD (pathText path)

def mentions (fragment text : String) : Bool := text.toList.tails.any fragment.toList.isPrefixOf

def addedPaths (before after : Dict Path String) : List Path :=
  (keys after).filter fun path => (get before path).isNone

def removedPaths (before after : Dict Path String) : List Path :=
  (keys before).filter fun path => (get after path).isNone

def changedPaths (before after : Dict Path String) : List Path :=
  (keys before).filter fun path => (get after path).isSome && get before path != get after path

def orderingPaths (changed : List Path) : List Path :=
  (changed.filter fun path => mentions ".transitions[" (pathText path)).insertionSort
    fun left right => pathText left ≤ pathText right

/-- `_semantic_diff`. -/
def semanticDiff : Except String EvolutionDiff := do
  let before ← geneIndex numbers sha256 parent
  let after ← geneIndex numbers sha256 candidate
  let resolve := List.map (resolveOne parent candidate)
  return {
    addedSubjects := resolve (addedPaths before after)
    removedSubjects := resolve (removedPaths before after)
    changedSubjects := resolve (changedPaths before after)
    orderingChanges := resolve (orderingPaths (changedPaths before after)) }

structure ProtectionResult where
  protectedOk : Bool
  kind : Option ProtectionKind := none
  affectedSubjects : List String := []
  authorizedBy : Option String := none
  notes : List String := []
  regionsEvaluated : List String := []

/-- What the evaluator asks of an authorization; one that lacks a method covers nothing. -/
structure Authorization where
  covers : String → List String → Bool
  anchorRef : String

/-- The `verifies` of the governance authority, where there is one. -/
abbrev Authority := Option (String → Bool)

def strictness : ProtectionKind → Nat
  | .immutable => 3
  | .constitutional => 2
  | .preservation => 1

def resolveRegion (isr : ISR) (regionRef : String) : Option ProtectedRegion :=
  isr.system.protectedRegions.find? (·.regionId == regionRef)

def resolveObjective (isr : ISR) (objectiveRef : String) : Option EvolutionObjective :=
  isr.system.evolutionObjectives.find? (·.objectiveId == objectiveRef)

def validAuthorization (authority : Authority) (authorization : Option Authorization) (regionRef : String)
    (affected : List String) : Bool :=
  match authorization, authority with
  | some granted, some verifies => granted.covers regionRef affected && verifies granted.anchorRef
  | _, _ => false

/-- The members of the first set that are in the second. -/
def common (subjects others : List String) : List String := subjects.dedup.filter others.contains

def thresholdHolds (invariant : PreservationInvariant) (diff : EvolutionDiff) : Bool :=
  match invariant.bound with
  | none => false
  | some bound => decide (((common invariant.subjectRefs diff.changedSubjects).length : Rat) ≤ bound.toRat)

def invariantHolds (invariant : PreservationInvariant) (diff : EvolutionDiff) : Bool :=
  let untouched (touched : List String) := (common invariant.subjectRefs touched).isEmpty
  match invariant.kind with
  | .presence => untouched diff.removedSubjects
  | .absence => untouched diff.addedSubjects
  | .invariant => untouched diff.changedSubjects
  | .ordering => untouched diff.orderingChanges
  | .threshold => thresholdHolds invariant diff

structure Violation where
  kind : ProtectionKind
  affected : List String
  notes : List String

variable (authority : Authority) (authorization : Option Authorization) (diff : EvolutionDiff)
 

/-- A region that a candidate puts in play, with the subjects it touches. -/
structure Trigger where
  regionRef : String
  region : ProtectedRegion
  affected : List String

def triggerOf (regionRef : String) : Option Trigger :=
  (resolveRegion parent regionRef).bind fun region =>
    let affected := common region.subjectRefs diff.affectedSubjects
    if affected.isEmpty then none else some ⟨regionRef, region, affected⟩

def judgeRegion (trigger : Trigger) : Option Violation :=
  let named := "region " ++ quoted trigger.regionRef
  match trigger.region.protectionKind with
  | .immutable => some ⟨.immutable, trigger.affected, [named ++ " is IMMUTABLE"]⟩
  | .constitutional =>
      if validAuthorization authority authorization trigger.regionRef trigger.affected then none
      else some ⟨.constitutional, trigger.affected,
        [named ++ " is CONSTITUTIONAL: external governance authorization required"]⟩
  | .preservation =>
      let violated := trigger.region.invariants.filter fun invariant => !invariantHolds invariant diff
      if violated.isEmpty then none else some ⟨.preservation, trigger.affected, violated.map (·.statement)⟩

/-- `sorted(refs)` as an f-string prints it, for texts that `repr` leaves as they are. -/
def printedList (refs : List String) : String := "[" ++ String.intercalate ", " (refs.map quoted) ++ "]"

def judgeObjective (objectiveRef : String) : Option (List String × String) :=
  (resolveObjective parent objectiveRef).bind fun objective =>
    if objective.tier ≠ .constitutional then none
    else
      let removed := common objective.subjectRefs diff.removedSubjects
      if removed.isEmpty then none
      else some (removed, "constitutional objective " ++ quoted objectiveRef ++ " subjects removed: " ++
        printedList (sortedSet removed) ++ " — presence gate")

variable {Item : Type}

def selfGovernanceRef : String := "self_governance"

def carrierPrefixes : List String :=
  ["system.evolution_objectives[", "system.protected_regions[", "system.evolution_policies["]

def isCarrierPath (subject : String) : Bool :=
  carrierPrefixes.any fun start => start.toList.isPrefixOf subject.toList

def carrierPaths (diff : EvolutionDiff) : List String := diff.affectedSubjects.filter isCarrierPath

/-- `{item.id: item for item in items}`. -/
def byId (idOf : Item → String) (items : List Item) : Dict String Item :=
  assignAll [] (items.map fun item => (idOf item, item))

def reduced (before after : List String) : Bool := !before.all after.contains

/-- The loop over the carriers of one kind: what is missing in the candidate, or weaker there. -/
def compareCarriers (noun : String) (idOf : Item → String) (weaker : String → Item → Item → List String)
    (before after : List Item) : List String :=
  (byId idOf before).flatMap fun entry =>
    match get (byId idOf after) entry.1 with
    | none => [noun ++ " " ++ quoted entry.1 ++ " removed"]
    | some counterpart => weaker (noun ++ " " ++ quoted entry.1) entry.2 counterpart

def weakerRegion (named : String) (region counterpart : ProtectedRegion) : List String :=
  complain (reduced region.subjectRefs counterpart.subjectRefs) (named ++ " subject_refs reduced") ++
    complain (strictness counterpart.protectionKind < strictness region.protectionKind)
      (named ++ " protection downgraded (" ++ StrEnum.value region.protectionKind ++ " -> " ++
        StrEnum.value counterpart.protectionKind ++ ")")

def weakerObjective (objectiveId named : String) (objective counterpart : EvolutionObjective) : List String :=
  complain (objective.tier = .constitutional ∧ counterpart.tier ≠ .constitutional)
      ("constitutional objective " ++ quoted objectiveId ++ " downgraded to OPTIMIZATION") ++
    complain (reduced objective.subjectRefs counterpart.subjectRefs) (named ++ " subject_refs reduced")

def weakerPolicy (named : String) (policy counterpart : EvolutionPolicy) : List String :=
  complain (reduced policy.objectiveRefs counterpart.objectiveRefs) (named ++ " objective_refs reduced") ++
    complain (reduced policy.protectedRegionRefs counterpart.protectedRegionRefs)
      (named ++ " protected_region_refs reduced")

/-- `_self_governance_weakened`. -/
def selfGovernanceWeakened (parent candidate : ISR) : List String :=
  compareCarriers "protected region" (·.regionId) weakerRegion parent.system.protectedRegions
      candidate.system.protectedRegions ++
    compareCarriers "evolution objective" (·.objectiveId)
      (fun named objective => weakerObjective objective.objectiveId named objective)
      parent.system.evolutionObjectives candidate.system.evolutionObjectives ++
    compareCarriers "evolution policy" (·.policyId) weakerPolicy parent.system.evolutionPolicies
      candidate.system.evolutionPolicies

/-- The weakenings that count: none unless the path of a carrier is among the subjects. -/
def weakenings (parent candidate : ISR) (diff : EvolutionDiff) : List String :=
  if (carrierPaths diff).isEmpty then [] else selfGovernanceWeakened parent candidate

def judgeSelfGovernance (authority : Authority) (authorization : Option Authorization) (parent candidate : ISR)
    (diff : EvolutionDiff) : Option Violation :=
  let weakened := weakenings parent candidate diff
  if weakened.isEmpty || validAuthorization authority authorization selfGovernanceRef (carrierPaths diff) then none
  else some ⟨.constitutional, carrierPaths diff,
    ["self-governance: " ++ String.intercalate "; " weakened ++ " — governance authorization required"]⟩

end

variable (authority : Authority) (numbers : NumberText JsonFloat) (sha256 : String → String)

/-- `max` over the violations by strictness: the first of the strictest. -/
def strictest (first : Violation) (rest : List Violation) : Violation :=
  rest.foldl (fun best violation =>
    if strictness best.kind < strictness violation.kind then violation else best) first

/-- The verdict on what the loops have gathered. -/
def conclude (violations : List Violation) (objectiveRemoved : List (List String × String)) (evaluated : List String) :
    ProtectionResult :=
  match violations with
  | first :: rest =>
      { protectedOk := false
        kind := some (strictest first rest).kind
        affectedSubjects := sortedSet ((first :: rest).flatMap (·.affected))
        notes := (first :: rest).flatMap (·.notes)
        regionsEvaluated := evaluated }
  | [] =>
      if objectiveRemoved.isEmpty then { protectedOk := true, regionsEvaluated := evaluated }
      else
        { protectedOk := false
          affectedSubjects := sortedSet (objectiveRemoved.flatMap (·.1))
          notes := objectiveRemoved.map (·.2)
          regionsEvaluated := evaluated }

/-- The judgement of a diff under a policy. -/
def judge (parent candidate : ISR) (policy : EvolutionPolicy) (authorization : Option Authorization)
    (diff : EvolutionDiff) : ProtectionResult :=
  let triggers := policy.protectedRegionRefs.filterMap (triggerOf parent diff)
  let regionViolations := triggers.filterMap (judgeRegion authority authorization diff)
  let objectiveRemoved := policy.objectiveRefs.filterMap (judgeObjective parent diff)
  let selfViolation := judgeSelfGovernance authority authorization parent candidate diff
  let selfEvaluated := if (weakenings parent candidate diff).isEmpty then [] else [selfGovernanceRef]
  conclude (regionViolations ++ selfViolation.toList) objectiveRemoved
    ((triggers.map (·.regionRef) ++ selfEvaluated).insertionSort (· ≤ ·))

/-- `EvolutionProtectionEvaluator.evaluate`. -/
def evaluate (parent candidate : ISR) (policy : EvolutionPolicy) (authorization : Option Authorization) :
    Except String ProtectionResult := do
  return judge authority parent candidate policy authorization (← semanticDiff numbers sha256 parent candidate)

end AutonomousApi.EvolutionProtection
