import AutonomousApi.Runs
import AutonomousApi.SemanticEvolutionGate

/-! What self-governance protects. A protection is upheld by a region that has its subjects,
is as strict and, where both preserve, keeps its invariants. The evaluator compares the
declarations of parent and candidate as dictionaries by id and looks at everything but the
invariants; where no path of a carrier changed it does not look at all, and the gene index
is what shows that the declarations stayed. -/

namespace AutonomousApi.SelfGovernance

open JsonValue PythonLiteral OrderedMap PathTree DataclassValues SystemModel SemanticProjection SemanticHash GeneHash
  GeneIndex EvolutionProtection SemanticEvolutionGate

/-- For each invariant of a region that preserves, one of its kind with its subjects. -/
def Retains (region counterpart : ProtectedRegion) : Prop :=
  region.protectionKind = .preservation → counterpart.protectionKind = .preservation →
    ∀ invariant ∈ region.invariants, ∃ kept ∈ counterpart.invariants,
      kept.kind = invariant.kind ∧ invariant.subjectRefs ⊆ kept.subjectRefs

structure Upheld (region counterpart : ProtectedRegion) : Prop where
  subjects : region.subjectRefs ⊆ counterpart.subjectRefs
  strict : strictness region.protectionKind ≤ strictness counterpart.protectionKind
  invariants : Retains region counterpart

/-- Every region that the policy of the first references is still referenced, and upheld, in the
second. -/
def Kept (before after : ISR) : Prop :=
  ∀ regionRef ∈ (resolveEvolutionPolicy before).protectedRegionRefs, ∀ region,
    resolveRegion before regionRef = some region →
      regionRef ∈ (resolveEvolutionPolicy after).protectedRegionRefs ∧
        ∃ counterpart, resolveRegion after regionRef = some counterpart ∧ Upheld region counterpart

theorem Upheld.refl (region : ProtectedRegion) : Upheld region region :=
  ⟨fun _ member => member, le_refl _, fun _ _ invariant member => ⟨invariant, member, rfl, fun _ inside => inside⟩⟩

theorem Upheld.trans {first second third : ProtectedRegion} (left : Upheld first second) (right : Upheld second third) :
    Upheld first third where
  subjects := fun _ member => right.subjects (left.subjects member)
  strict := left.strict.trans right.strict
  invariants := by
    intro preserves preserved invariant member
    -- No kind is weaker than preservation, so the region between preserves too.
    have between : second.protectionKind = .preservation := by
      have bound := right.strict
      rw [preserved] at bound
      cases kind : second.protectionKind with
      | preservation => rfl
      | immutable => simp [kind, strictness] at bound
      | constitutional => simp [kind, strictness] at bound
    obtain ⟨middle, inMiddle, sameKind, below⟩ := left.invariants preserves between invariant member
    obtain ⟨last, inLast, lastKind, above⟩ := right.invariants between preserved middle inMiddle
    exact ⟨last, inLast, lastKind.trans sameKind, fun _ inside => above (below inside)⟩

theorem Kept.refl (isr : ISR) : Kept isr isr :=
  fun _ referenced region resolved => ⟨referenced, region, resolved, Upheld.refl region⟩

theorem Kept.trans {first second third : ISR} (left : Kept first second) (right : Kept second third) :
    Kept first third := by
  intro regionRef referenced region resolved
  obtain ⟨still, counterpart, found, upheld⟩ := left regionRef referenced region resolved
  obtain ⟨last, final, foundLast, upheldLast⟩ := right regionRef still counterpart found
  exact ⟨last, final, foundLast, upheld.trans upheldLast⟩

theorem mem_keepFirst {items : List String} {text : String} {seen : List String} (fresh : text ∉ seen)
    (member : text ∈ items) : text ∈ keepFirst id seen items := by
  have found := find_keepFirst id seen items text fresh
  have some_found : (items.find? fun item => id item == text).isSome = true :=
    List.find?_isSome.mpr ⟨text, member, by simp⟩
  rw [← found] at some_found
  obtain ⟨held, inside, same⟩ := List.find?_isSome.mp some_found
  exact (eq_of_beq same : held = text) ▸ inside

/-- The resolved policy references what one of the policies references. -/
theorem mem_resolved {isr : ISR} {regionRef : String} :
    regionRef ∈ (resolveEvolutionPolicy isr).protectedRegionRefs ↔
      ∃ policy ∈ isr.system.evolutionPolicies, regionRef ∈ policy.protectedRegionRefs := by
  rw [resolveEvolutionPolicy]
  split
  next none_ => simp [none_]
  next policy single => simp [single]
  next =>
      constructor
      · intro member
        simpa using mem_of_keepFirst id [] _ member
      · rintro ⟨policy, listed, member⟩
        exact mem_keepFirst List.not_mem_nil (List.mem_flatMap.mpr ⟨policy, listed, member⟩)

section

variable {Item : Type} {idOf : Item → String} {items : List Item} {item : Item}

/-- No other item of the list has the id. -/
def Only (idOf : Item → String) (item : Item) (items : List Item) : Prop :=
  ∀ other ∈ items, idOf other = idOf item → other = item

theorem mem_of_byId {id : String} (found : get (byId idOf items) id = some item) : item ∈ items ∧ idOf item = id := by
  obtain ⟨source, member, same⟩ := List.mem_map.mp (mem_of_get_assignAll found)
  cases same
  exact ⟨member, rfl⟩

theorem byId_only (member : item ∈ items) (only : Only idOf item items) :
    get (byId idOf items) (idOf item) = some item := by
  have present : (get (byId idOf items) (idOf item)).isSome = true :=
    (isSome_assignAll _ _).mpr (List.mem_map.mpr ⟨(idOf item, item), List.mem_map_of_mem member, rfl⟩)
  obtain ⟨held, found⟩ := Option.isSome_iff_exists.mp present
  obtain ⟨inside, same⟩ := mem_of_byId found
  rw [found, only held inside same]

/-- Where the loop finds nothing, an item that is the only one under its id has a counterpart
that is not weaker. -/
theorem compareCarriers_nil {noun : String} {weaker : String → Item → Item → List String} {after : List Item}
    (silent : compareCarriers noun idOf weaker items after = []) (member : item ∈ items)
    (only : Only idOf item items) :
    ∃ counterpart ∈ after, idOf counterpart = idOf item ∧ get (byId idOf after) (idOf item) = some counterpart ∧
      ∃ named, weaker named item counterpart = [] := by
  have held := List.flatMap_eq_nil_iff.mp silent (idOf item, item) (mem_of_get (byId_only member only))
  cases found : get (byId idOf after) (idOf item) with
  | none => simp [found] at held
  | some counterpart =>
      rw [found] at held
      obtain ⟨inside, same⟩ := mem_of_byId found
      exact ⟨counterpart, inside, same, rfl, _, held⟩

theorem reduced_eq_false {before after : List String} (fine : reduced before after = false) : before ⊆ after := by
  intro text member
  simp only [reduced, Bool.not_eq_false', List.all_eq_true, List.contains_iff_mem] at fine
  exact fine text member

theorem complain_nil {condition : Bool} {words : String} (silent : StructureValidation.complain condition words = []) :
    condition = false := by
  cases condition with
  | false => rfl
  | true => cases silent

variable {parent candidate : ISR} {regionRef : String} {region : ProtectedRegion}

/-- What the comparison of the declarations takes for granted about one referenced region: that
no id is given twice where it looks, that no subject is the empty text, and that the invariants
stay. -/
structure Guarded (parent candidate : ISR) (regionRef : String) (region : ProtectedRegion) : Prop where
  referenced : ∃ policy ∈ parent.system.evolutionPolicies, regionRef ∈ policy.protectedRegionRefs ∧
    Only (·.policyId) policy parent.system.evolutionPolicies
  alone : Only (·.regionId) region parent.system.protectedRegions
  aloneThere : ∀ counterpart, resolveRegion candidate regionRef = some counterpart →
    Only (·.regionId) counterpart candidate.system.protectedRegions
  named : "" ∉ region.subjectRefs
  retains : ∀ counterpart, resolveRegion candidate regionRef = some counterpart → Retains region counterpart

def GuardedStep (parent candidate : ISR) : Prop :=
  ∀ regionRef ∈ (resolveEvolutionPolicy parent).protectedRegionRefs, ∀ region,
    resolveRegion parent regionRef = some region → Guarded parent candidate regionRef region

theorem resolveRegion_some (resolved : resolveRegion parent regionRef = some region) :
    region ∈ parent.system.protectedRegions ∧ region.regionId = regionRef :=
  ⟨List.mem_of_find?_eq_some resolved, by simpa using List.find?_some resolved⟩

/-- Nothing weakened: the region is still referenced and upheld. -/
theorem kept_of_comparison (silent : selfGovernanceWeakened parent candidate = [])
    (resolved : resolveRegion parent regionRef = some region) (guarded : Guarded parent candidate regionRef region) :
    regionRef ∈ (resolveEvolutionPolicy candidate).protectedRegionRefs ∧
      ∃ counterpart, resolveRegion candidate regionRef = some counterpart ∧ Upheld region counterpart := by
  simp only [selfGovernanceWeakened, List.append_eq_nil_iff] at silent
  obtain ⟨⟨regionsSilent, _⟩, policiesSilent⟩ := silent
  obtain ⟨member, rfl⟩ := resolveRegion_some resolved
  constructor
  · obtain ⟨policy, listed, references, only⟩ := guarded.referenced
    obtain ⟨later, inside, _, _, _, fine⟩ := compareCarriers_nil policiesSilent listed only
    have refs := complain_nil (List.append_eq_nil_iff.mp fine).2
    exact mem_resolved.mpr ⟨later, inside, reduced_eq_false refs references⟩
  · obtain ⟨last, inside, sameId, _, _, fine⟩ := compareCarriers_nil regionsSilent member guarded.alone
    obtain ⟨subjects, downgraded⟩ := List.append_eq_nil_iff.mp fine
    cases found : resolveRegion candidate region.regionId with
    | none =>
        have missed := List.find?_eq_none.mp found last inside
        simp [sameId] at missed
    | some counterpart =>
        have sameRegion : last = counterpart :=
          guarded.aloneThere counterpart found last inside (sameId.trans (resolveRegion_some found).2.symm)
        subst sameRegion
        refine ⟨last, rfl, reduced_eq_false (complain_nil subjects), ?_, guarded.retains last found⟩
        simpa using complain_nil downgraded

variable {left right : List (PyKey × PyValue)} {name : String}

/-- Of two instances that settle to one value, a field that counts in the first settles to the same
in the second. -/
theorem settled_field (same : settleEntries left = settleEntries right) (distinct : (right.map Prod.fst).Nodup)
    {key : PyKey} {value other : PyValue} (inLeft : (key, value) ∈ left) (counts : vacant (settle value) = false)
    (inRight : (key, other) ∈ right) : settle value = settle other := by
  have member : (key, settle value) ∈ settleEntries right :=
    same ▸ mem_settleEntries.mpr ⟨(key, value), inLeft, counts, rfl⟩
  obtain ⟨entry, inside, _, equal⟩ := mem_settleEntries.mp member
  obtain ⟨named, settled⟩ := Prod.mk.inj equal
  have only : entry = (key, other) := List.inj_on_of_nodup_map distinct inside inRight named
  rw [← settled, only]

theorem settle_texts (texts : List String) :
    settle (reflect texts) = .tuple ((texts.filter (· != "")).map PyValue.text) := by
  have settled : settleItems (texts.map PyValue.text) = (texts.filter (· != "")).map PyValue.text := by
    induction texts with
    | nil => rfl
    | cons text rest ih => by_cases empty : text = "" <;> simp [settleItems, settle, settleScalar, vacant, empty, ih]
  exact congrArg PyValue.tuple settled

theorem texts_kept (same : settleEntries left = settleEntries right) (distinct : (right.map Prod.fst).Nodup)
    {texts others : List String} (inLeft : (.text name, reflect texts) ∈ left)
    (inRight : (.text name, reflect others) ∈ right) {text : String} (member : text ∈ texts) (counts : text ≠ "") :
    text ∈ others := by
  have held : text ∈ texts.filter (· != "") := List.mem_filter.mpr ⟨member, by simpa using counts⟩
  have present : vacant (settle (reflect texts)) = false := by
    rw [settle_texts, vacant, List.isEmpty_map]
    exact List.isEmpty_eq_false_iff.mpr (List.ne_nil_of_mem held)
  have equal := settled_field same distinct inLeft present inRight
  rw [settle_texts, settle_texts] at equal
  have lists := List.map_injective_iff.mpr (fun _ _ equal => by simpa using equal) (PyValue.tuple.inj equal)
  exact List.mem_of_mem_filter (lists ▸ held)

theorem text_kept (same : settleEntries left = settleEntries right) (distinct : (right.map Prod.fst).Nodup)
    {text other : String} (inLeft : (.text name, reflect text) ∈ left) (counts : text ≠ "")
    (inRight : (.text name, reflect other) ∈ right) : text = other := by
  have equal := settled_field same distinct inLeft
      (by simpa [reflect, settle, settleScalar, vacant] using counts) inRight
  simpa [reflect, settle, settleScalar] using equal

/-- Regions that are equal up to empty values. -/
theorem region_of_settle {region other : ProtectedRegion} (same : settle (reflect region) = settle (reflect other)) :
    region.regionId = other.regionId ∧ region.protectionKind = other.protectionKind ∧
      ∀ subject ∈ region.subjectRefs, subject ≠ "" → subject ∈ other.subjectRefs := by
  have entries := PyValue.record.inj same
  refine ⟨?_, ?_, ?_⟩
  · exact text_kept entries (by simp [field]) List.mem_cons_self region.admitted.1 List.mem_cons_self
  · have equal := settled_field entries (by simp [field])
      (List.mem_cons_of_mem _ (List.mem_cons_of_mem _ List.mem_cons_self))
      (by cases kind : region.protectionKind <;> simp [field, reflect, settle, settleScalar, vacant, kind,
        StrEnum.value])
      (List.mem_cons_of_mem _ (List.mem_cons_of_mem _ List.mem_cons_self))
    have values : StrEnum.value region.protectionKind = StrEnum.value other.protectionKind := by
      simpa [field, reflect, settle, settleScalar] using equal
    have read := StrEnum.ofValue_value region.protectionKind
    rw [values, StrEnum.ofValue_value] at read
    exact (Option.some.inj read).symm
  · intro subject member counts
    exact texts_kept entries (by simp [field]) (List.mem_cons_of_mem _ List.mem_cons_self)
      (List.mem_cons_of_mem _ List.mem_cons_self) member counts

theorem policy_of_settle {policy other : EvolutionPolicy} (same : settle (reflect policy) = settle (reflect other)) :
    ∀ regionRef ∈ policy.protectedRegionRefs, regionRef ≠ "" → regionRef ∈ other.protectedRegionRefs := by
  intro regionRef member counts
  exact texts_kept (PyValue.record.inj same) (by simp [field])
    (List.mem_cons_of_mem _ (List.mem_cons_of_mem _ List.mem_cons_self))
    (List.mem_cons_of_mem _ (List.mem_cons_of_mem _ List.mem_cons_self)) member counts

end

section

variable {numbers : NumberText JsonFloat} {sha256 : String → String} {parent candidate : ISR}

theorem not_affected {before after : Dict Path String} {path : Path} (unadded : path ∉ addedPaths before after)
    (unremoved : path ∉ removedPaths before after) (unchanged : path ∉ changedPaths before after) :
    get before path = get after path := by
  simp only [addedPaths, removedPaths, changedPaths, List.mem_filter, not_and, Bool.not_eq_true,
    Bool.and_eq_true, ← get_isSome_iff] at unadded unremoved unchanged
  cases old : get before path <;> cases new : get after path <;> simp_all

def carrierNames : List String := ["evolution_objectives", "protected_regions", "evolution_policies"]

variable {name : String} {diff : EvolutionDiff}

/-- The path of a carrier stands for no identity, so it is its own subject. -/
theorem identityAt_carrier (isr : ISR) (carrier : name ∈ carrierNames) (index : Nat) :
    identityAt isr (root ++ [(name, some index)]) = none := by
  rw [identityAt, get_pathIdentities]
  simp only [carrierNames, List.mem_cons, List.not_mem_nil, or_false] at carrier
  rcases carrier with rfl | rfl | rfl <;> simp [identityTree, lookup, get_append, get_family_other]

theorem pathText_item (name : String) (index : Nat) :
    pathText (root ++ [(name, some index)]) = "system." ++ (name ++ "[" ++ toString index ++ "]") := rfl

theorem isCarrierPath_carrier (carrier : name ∈ carrierNames) (index : Nat) :
    isCarrierPath (pathText (root ++ [(name, some index)])) = true := by
  rw [pathText_item, isCarrierPath, List.any_eq_true]
  refine ⟨"system." ++ name ++ "[", ?_, ?_⟩
  · simp only [carrierNames, List.mem_cons, List.not_mem_nil, or_false] at carrier
    rcases carrier with rfl | rfl | rfl <;> decide
  · rw [List.isPrefixOf_iff_prefix]
    exact ⟨(toString index ++ "]").toList, by simp⟩

/-- Without a carrier path among the subjects, the carriers have the hashes they had. -/
theorem carrier_unchanged (compared : semanticDiff numbers sha256 parent candidate = .ok diff)
    (none_ : carrierPaths diff = []) (carrier : name ∈ carrierNames) (index : Nat) :
    ∃ before after, geneIndex numbers sha256 parent = .ok before ∧ geneIndex numbers sha256 candidate = .ok after ∧
      get before (root ++ [(name, some index)]) = get after (root ++ [(name, some index)]) := by
  obtain ⟨before, indexed, compared⟩ := FailFast.bind_ok compared
  obtain ⟨after, indexedAfter, same⟩ := FailFast.bind_ok compared
  cases same
  refine ⟨before, after, indexed, indexedAfter, ?_⟩
  have subject : resolveOne parent candidate (root ++ [(name, some index)]) =
      pathText (root ++ [(name, some index)]) := by
    rw [resolveOne, identityAt_carrier parent carrier, identityAt_carrier candidate carrier]
    rfl
  have untouched {paths : List Path} (quiet : (paths.map (resolveOne parent candidate)).filter isCarrierPath = []) :
      root ++ [(name, some index)] ∉ paths := by
    intro member
    have silent := List.filter_eq_nil_iff.mp quiet _ (List.mem_map_of_mem member)
    rw [subject, isCarrierPath_carrier carrier] at silent
    exact silent rfl
  simp only [carrierPaths, EvolutionDiff.affectedSubjects, List.filter_append, List.append_eq_nil_iff] at none_
  exact not_affected (untouched none_.1.1) (untouched none_.1.2) (untouched none_.2)

theorem lookup_region (system : System) (index : Nat) :
    lookup [("protected_regions", some index)] (geneTree system) = system.protectedRegions[index]?.map reflect := by
  cases held : system.deployment <;> cases found : system.protectedRegions[index]? <;>
    simp [geneTree, deploymentSlot, held, found, lookup, get_append, get_family_other, get_family, OrderedMap.get, leaf]

theorem lookup_policy (system : System) (index : Nat) :
    lookup [("evolution_policies", some index)] (geneTree system) = system.evolutionPolicies[index]?.map reflect := by
  cases held : system.deployment <;> cases found : system.evolutionPolicies[index]? <;>
    simp [geneTree, deploymentSlot, held, found, lookup, get_append, get_family_other, get_family, OrderedMap.get, leaf]

/-- The carrier at the same place is equal up to empty values. -/
theorem settled_carrier {Carrier : Type} [Reflect Carrier] (injective : Function.Injective sha256)
    (compared : semanticDiff numbers sha256 parent candidate = .ok diff) (none_ : carrierPaths diff = [])
    (carrier : name ∈ carrierNames) {index : Nat} {items others : List Carrier}
    (listed : lookup [(name, some index)] (geneTree parent.system) = items[index]?.map reflect)
    (listedThere : lookup [(name, some index)] (geneTree candidate.system) = others[index]?.map reflect)
    (plain : ∀ item : Carrier, Reflect.plain item) {item : Carrier} (held : items[index]? = some item) :
    ∃ other, others[index]? = some other ∧ settle (reflect item) = settle (reflect other) := by
  obtain ⟨before, after, indexed, indexedAfter, same⟩ := carrier_unchanged compared none_ carrier index
  rw [get_geneIndex indexed, get_geneIndex indexedAfter, listed, listedThere, held] at same
  cases found : others[index]? with
  | none => simp [found] at same
  | some other =>
      simp only [found, Option.map_some, Option.some.injEq] at same
      have built := geneIndex_built indexed (listed.trans (by rw [held]; rfl))
      have builtThere := geneIndex_built indexedAfter (listedThere.trans (by rw [found]; rfl))
      exact ⟨other, rfl, settle_of_content (Reflect.alike (plain item) (plain other)) built builtThere
        ((digestOf_inj injective built builtThere).mp same)⟩

theorem plain_region (region : ProtectedRegion) : Reflect.plain region := by
  simp [Reflect.plain, field]

theorem plain_policy (policy : EvolutionPolicy) : Reflect.plain policy := by
  simp [Reflect.plain, field]

variable {regionRef : String} {region : ProtectedRegion}

/-- Where no carrier path is among the subjects, each region stands where it stood. -/
theorem resolved_unchanged (injective : Function.Injective sha256)
    (compared : semanticDiff numbers sha256 parent candidate = .ok diff) (none_ : carrierPaths diff = [])
    (resolved : resolveRegion parent regionRef = some region) :
    ∃ counterpart, resolveRegion candidate regionRef = some counterpart ∧
      settle (reflect region) = settle (reflect counterpart) := by
  have carrier : "protected_regions" ∈ carrierNames := by decide
  have placed {index : Nat} {item : ProtectedRegion} (held : parent.system.protectedRegions[index]? = some item) :=
    settled_carrier injective compared none_ carrier (lookup_region parent.system index)
      (lookup_region candidate.system index) plain_region held
  obtain ⟨named, index, bound, here, earlier⟩ := List.find?_eq_some_iff_getElem.mp resolved
  obtain ⟨counterpart, there, same⟩ := placed (List.getElem?_eq_some_iff.mpr ⟨bound, here⟩)
  refine ⟨counterpart, List.find?_eq_some_iff_getElem.mpr ⟨?_, ?_⟩, same⟩
  · rw [← (region_of_settle same).1]
    exact named
  · obtain ⟨boundThere, at_⟩ := List.getElem?_eq_some_iff.mp there
    refine ⟨index, boundThere, at_, fun place before => ?_⟩
    obtain ⟨other, otherThere, otherSame⟩ := placed (List.getElem?_eq_some_iff.mpr ⟨before.trans bound, rfl⟩)
    obtain ⟨_, otherAt⟩ := List.getElem?_eq_some_iff.mp otherThere
    rw [otherAt, ← (region_of_settle otherSame).1]
    exact earlier place before

theorem kept_of_unchanged (injective : Function.Injective sha256)
    (compared : semanticDiff numbers sha256 parent candidate = .ok diff) (none_ : carrierPaths diff = [])
    (resolved : resolveRegion parent regionRef = some region)
    (referenced : regionRef ∈ (resolveEvolutionPolicy parent).protectedRegionRefs)
    (guarded : Guarded parent candidate regionRef region) :
    regionRef ∈ (resolveEvolutionPolicy candidate).protectedRegionRefs ∧
      ∃ counterpart, resolveRegion candidate regionRef = some counterpart ∧ Upheld region counterpart := by
  constructor
  · obtain ⟨policy, listed, references⟩ := mem_resolved.mp referenced
    obtain ⟨index, held⟩ := List.getElem?_of_mem listed
    obtain ⟨later, there, same⟩ := settled_carrier injective compared none_ (by decide)
      (lookup_policy parent.system index) (lookup_policy candidate.system index) plain_policy held
    have nonempty : regionRef ≠ "" := (resolveRegion_some resolved).2 ▸ region.admitted.1
    exact mem_resolved.mpr
      ⟨later, List.mem_of_getElem? there, policy_of_settle same regionRef references nonempty⟩
  · obtain ⟨counterpart, found, same⟩ := resolved_unchanged injective compared none_ resolved
    obtain ⟨_, kind, subjects⟩ := region_of_settle same
    refine ⟨counterpart, found, fun subject member => ?_, (congrArg strictness kind).le,
        guarded.retains counterpart found⟩
    exact subjects subject member fun empty => guarded.named (empty ▸ member)

end

section

variable {authority : Authority} {numbers : NumberText JsonFloat} {sha256 : String → String} {parent candidate : ISR}

/-- The evaluator lets a candidate without authorization pass, under the parent's policy. -/
def accepted (authority : Authority) (numbers : NumberText JsonFloat) (sha256 : String → String)
    (parent candidate : ISR) : Bool :=
  match evaluate authority numbers sha256 parent candidate (resolveEvolutionPolicy parent) none with
  | .ok result => result.protectedOk
  | .error _ => false

/-- One generation: an accepted candidate is the next parent. -/
def advance (authority : Authority) (numbers : NumberText JsonFloat) (sha256 : String → String)
    (parent candidate : ISR) : Option ISR :=
  if accepted authority numbers sha256 parent candidate then some candidate else none

theorem conclude_ok {violations : List Violation} {objectiveRemoved : List (List String × String)}
    {evaluated : List String} (ok : (conclude violations objectiveRemoved evaluated).protectedOk = true) :
    violations = [] ∧ objectiveRemoved = [] := by
  cases violations with
  | cons first rest => simp [conclude] at ok
  | nil => cases objectiveRemoved <;> simp_all [conclude]

theorem accepted_ok (passed : accepted authority numbers sha256 parent candidate = true) :
    ∃ result, evaluate authority numbers sha256 parent candidate (resolveEvolutionPolicy parent) none = .ok result ∧
      result.protectedOk = true := by
  unfold accepted at passed
  generalize evaluate authority numbers sha256 parent candidate (resolveEvolutionPolicy parent) none =
      outcome at passed ⊢
  cases outcome with
  | error fault => cases passed
  | ok result => exact ⟨result, rfl, passed⟩

theorem accepted_eq {diff : EvolutionDiff} (compared : semanticDiff numbers sha256 parent candidate = .ok diff) :
    accepted authority numbers sha256 parent candidate =
      (judge authority parent candidate (resolveEvolutionPolicy parent) none diff).protectedOk := by
  have judged : evaluate authority numbers sha256 parent candidate (resolveEvolutionPolicy parent) none =
      .ok (judge authority parent candidate (resolveEvolutionPolicy parent) none diff) := by
    unfold evaluate
    rw [compared]
    rfl
  unfold accepted
  rw [judged]

/-- Without authorization, a candidate passes only if nothing of its declarations is weakened or
no carrier path is among the subjects. -/
theorem accepted_cases (passed : accepted authority numbers sha256 parent candidate = true) :
    ∃ diff, semanticDiff numbers sha256 parent candidate = .ok diff ∧
      (carrierPaths diff = [] ∨ selfGovernanceWeakened parent candidate = []) := by
  obtain ⟨result, judged, ok⟩ := accepted_ok passed
  obtain ⟨diff, compared, same⟩ := FailFast.bind_ok judged
  rw [← Except.ok.inj same] at ok
  refine ⟨diff, compared, ?_⟩
  have quiet : (judgeSelfGovernance authority none parent candidate diff).toList = [] :=
    (List.append_eq_nil_iff.mp (conclude_ok ok).1).2
  have untriggered : weakenings parent candidate diff = [] := by
    cases weakened : weakenings parent candidate diff with
    | nil => rfl
    | cons problem rest => simp [judgeSelfGovernance, weakened, validAuthorization] at quiet
  cases paths : carrierPaths diff with
  | nil => exact Or.inl rfl
  | cons path rest =>
      rw [weakenings, paths] at untriggered
      exact Or.inr untriggered

theorem accepted_kept (injective : Function.Injective sha256) (guarded : GuardedStep parent candidate)
    (passed : accepted authority numbers sha256 parent candidate = true) : Kept parent candidate := by
  intro regionRef referenced region resolved
  have sound := guarded regionRef referenced region resolved
  obtain ⟨diff, compared, untouched | intact⟩ := accepted_cases passed
  · exact kept_of_unchanged injective compared untouched resolved referenced sound
  · exact kept_of_comparison intact resolved sound

/-- Along a run of accepted generations whose steps are all guarded, no protection of the first
generation is lost. -/
theorem protections_kept (injective : Function.Injective sha256) {start state : ISR}
    (reached : Runs.Reaches (advance authority numbers sha256) GuardedStep start state) : Kept start state := by
  refine Runs.Reaches.invariant (Kept.refl start) ?_ reached
  intro parent candidate following held guarded taken
  rw [advance] at taken
  split at taken
  next passed =>
      cases taken
      exact held.trans (accepted_kept injective guarded passed)
  next => cases taken

end

theorem cancel_named : "cancel-order" ≠ "" ∧ "cancel an order" ≠ "" := by decide

theorem charter_named : "charter" ≠ "" := by decide

theorem core_admitted {invariants : List PreservationInvariant} (present : invariants ≠ []) :
    "core" ≠ "" ∧ ["cancel-order"] ≠ [] ∧ (ProtectionKind.preservation = .preservation ↔ invariants ≠ []) := by
  refine ⟨by decide, by decide, ?_⟩
  exact iff_of_true rfl present

/-- A capability under a region that preserves it. -/
def preserved (invariants : List PreservationInvariant) (present : invariants ≠ []) : ISR where
  system := {
    id := "shop"
    name := "Shop"
    businessCapabilities := [{ capabilityId := "cancel-order", intent := "cancel an order", admitted := cancel_named }]
    protectedRegions := [{
      regionId := "core", subjectRefs := ["cancel-order"], protectionKind := .preservation, invariants := invariants
      admitted := core_admitted present }]
    evolutionPolicies := [{ policyId := "charter", protectedRegionRefs := ["core"], admitted := charter_named }] }
  provenance := { createdAt := "2026-01-01T00:00:00+00:00" }

def stays : PreservationInvariant where
  kind := .presence
  subjectRefs := ["cancel-order"]
  statement := "orders can be cancelled"
  admitted := by decide

def neverAppears : PreservationInvariant where
  kind := .absence
  subjectRefs := ["cancel-order"]
  statement := "no second way to cancel"
  admitted := by decide

def guardedShop : ISR := preserved [stays] (List.cons_ne_nil _ _)

def widenedShop : ISR := preserved [stays, neverAppears] (List.cons_ne_nil _ _)

def exchangedShop : ISR := preserved [neverAppears] (List.cons_ne_nil _ _)

/-- A candidate that removes nothing and weakens no declaration passes: the one region is there for presence. -/
theorem accepted_unremoved {authority : Authority} {numbers : NumberText JsonFloat} {sha256 : String → String}
    {candidate : ISR}
    (unremoved : (semanticDiff numbers sha256 guardedShop candidate).toOption.any (·.removedSubjects.isEmpty) = true)
    (unweakened : selfGovernanceWeakened guardedShop candidate = []) :
    accepted authority numbers sha256 guardedShop candidate = true := by
  cases compared : semanticDiff numbers sha256 guardedShop candidate with
  | error fault =>
      rw [compared] at unremoved
      cases unremoved
  | ok diff =>
      rw [compared] at unremoved
      have nothing : diff.removedSubjects = [] := List.isEmpty_iff.mp unremoved
      have untriggered : (["core"].filterMap (triggerOf guardedShop diff)).filterMap
          (judgeRegion authority none diff) = [] := by
        apply List.filterMap_eq_nil_iff.mpr
        intro trigger member
        obtain ⟨regionRef, core, triggered⟩ := List.mem_filterMap.mp member
        obtain rfl := List.mem_singleton.mp core
        obtain ⟨region, resolved, triggered⟩ := Option.bind_eq_some_iff.mp triggered
        have same := List.mem_singleton.mp (resolveRegion_some resolved).1
        subst same
        dsimp only at triggered
        split at triggered
        · cases triggered
        · cases triggered
          simp [judgeRegion, invariantHolds, stays, common, nothing]
      have ungoverned : judgeSelfGovernance authority none guardedShop candidate diff = none := by
        simp [judgeSelfGovernance, weakenings, unweakened]
      rw [accepted_eq compared, judge]
      change (conclude ((["core"].filterMap (triggerOf guardedShop diff)).filterMap (judgeRegion authority none diff) ++
        (judgeSelfGovernance authority none guardedShop candidate diff).toList) [] _).protectedOk = true
      rw [untriggered, ungoverned]
      rfl

theorem widened_step : GuardedStep guardedShop widenedShop := by
  intro regionRef referenced region resolved
  obtain ⟨member, rfl⟩ := resolveRegion_some resolved
  have same := List.mem_singleton.mp member
  subst same
  refine ⟨⟨_, List.mem_cons_self, List.mem_cons_self, ?_⟩, ?_, ?_, by decide, ?_⟩
  · exact fun other inside _ => List.mem_singleton.mp inside
  · exact fun other inside _ => List.mem_singleton.mp inside
  · intro counterpart found other inside _
    rw [List.mem_singleton.mp inside, List.mem_singleton.mp (resolveRegion_some found).1]
  · intro counterpart found _ _ invariant kept
    rw [List.mem_singleton.mp kept, List.mem_singleton.mp (resolveRegion_some found).1]
    exact ⟨stays, List.mem_cons_self, rfl, fun _ inside => inside⟩

theorem widened_shop_kept : Kept guardedShop widenedShop :=
  @protections_kept none JsonText.exactDecimals id Function.injective_id _ _
    (.next .start widened_step (if_pos (accepted_unremoved (by decide) (by decide))))

/-- A generation that exchanges the invariant of a region is accepted. -/
theorem exchanged_invariant_lost :
    ¬ ∀ (authority : Authority) (numbers : NumberText JsonFloat) (sha256 : String → String),
      Function.Injective sha256 → ∀ start state,
        Runs.Reaches (advance authority numbers sha256) (fun _ _ => True) start state → Kept start state := by
  intro keeps
  have kept := keeps none JsonText.exactDecimals id Function.injective_id guardedShop exchangedShop
    (.next .start trivial (if_pos (accepted_unremoved (by decide) (by decide))))
  obtain ⟨_, counterpart, found, upheld⟩ := kept "core" List.mem_cons_self _ rfl
  have same := List.mem_singleton.mp (resolveRegion_some found).1
  subst same
  obtain ⟨invariant, member, kind, _⟩ := upheld.invariants rfl rfl stays List.mem_cons_self
  rw [List.mem_singleton.mp member] at kind
  cases kind

end AutonomousApi.SelfGovernance
