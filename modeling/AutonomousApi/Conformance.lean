import AutonomousApi.ElementFiles
import AutonomousApi.JsonLines

/-! The conformance check of a generated repository (compiler/core/conformance.py). The checker takes the ids from
`plan_element_ids`, the paths from the layout of the backend and the texts from the repository; what it does not
enumerate it does not look at. -/

namespace AutonomousApi.Conformance

open CompilationPlan OrderedMap Naming RouteDispatch GeneratedFiles ElementFiles
open PythonText (CharTable asciiTable)
open JsonLines (strip splitLines)

section

abbrev Repository := Dict String String

structure ConformanceReport where
  passed : Bool
  missing : List String
  deriving DecidableEq

/-- The infrastructure that every backend has. -/
def infraIds : List String :=
  ["infra:docker", "infra:k8s", "infra:ci", "infra:readme", "infra:main", "infra:repositories", "infra:docs"]

def planElementIds (plan : Plan) : List String :=
  (plan.services.flatMap fun service =>
    service.id :: service.dataModels.map DataModel.id ++
      (service.publishedEvents ++ service.consumedEvents).map Event.id) ++
    plan.security.map SecurityPolicy.policyId ++ infraIds

def commentMarks : List String := ["#", "//", "--", ";", "<!--"]

def startsWith (line mark : String) : Bool := mark.toList.isPrefixOf line.toList

/-- The lines of a text that are neither blank nor comments. -/
def codeLines (stripped : String) : List String :=
  ((splitLines stripped).map strip).filter fun line => !(line == "" || commentMarks.any (startsWith line))

def endsWith (path ending : String) : Bool := ending.toList.isSuffixOf path.toList

/-- The message of the error that `ast.parse` raises on a text, if it does. -/
abbrev SyntaxCheck := String → Option String

variable (syntaxError : SyntaxCheck)

def hollowFinding (path content : String) : Option String :=
  let stripped := strip content
  if stripped = "" then some ("hollow:" ++ path ++ ":empty")
  else
    let lines := codeLines stripped
    if lines = [] then some ("hollow:" ++ path ++ ":comment-only")
    else match if endsWith path ".py" then syntaxError stripped else none with
      | some message => some ("syntax:" ++ path ++ ":" ++ message)
      | none => if ("\n".intercalate lines).length < 40 then some ("hollow:" ++ path ++ ":too-sparse") else none

variable (layout : Dict String String) (repo : Repository)

/-- What the check of one id adds to the report. -/
def finding (id : String) : Option String :=
  match get layout id with
  | none => some ("unmapped:" ++ id)
  | some path =>
      if path = "" then some ("unmapped:" ++ id)
      else match get repo path with
        | none => some path
        | some content => hollowFinding syntaxError path content

def check (plan : Plan) : ConformanceReport :=
  let missing := (planElementIds plan).filterMap (finding syntaxError layout repo)
  ⟨missing.isEmpty, missing⟩

/-- An id is mapped to a path that is in the repository with a text that is not hollow. -/
def Materialised (id : String) : Prop :=
  ∃ path content, get layout id = some path ∧ get repo path = some content ∧
    hollowFinding syntaxError path content = none

variable {syntaxError layout repo}

theorem finding_none_iff (id : String) : finding syntaxError layout repo id = none ↔
    Materialised syntaxError layout repo id ∧ get layout id ≠ some "" := by
  rw [finding, Materialised]
  cases mapped : get layout id with
  | none => simp
  | some path =>
      by_cases blank : path = ""
      · simp [blank]
      · cases present : get repo path with
        | none => simp [blank, present]
        | some content => simp [blank, present]

/-- A report passes exactly when each enumerated id is materialised. -/
theorem passed_iff (plan : Plan) : (check syntaxError layout repo plan).passed = true ↔
    ∀ id ∈ planElementIds plan, Materialised syntaxError layout repo id ∧ get layout id ≠ some "" := by
  change ((planElementIds plan).filterMap (finding syntaxError layout repo)).isEmpty = true ↔ _
  rw [List.isEmpty_iff, List.filterMap_eq_nil_iff]
  exact forall₂_congr fun id _ => finding_none_iff id

end

section

variable {syntaxError : SyntaxCheck} {layout : Dict String String} {plan : Plan}

def sampleModule : String := "answer = 'a substantive implementation of a module'"

theorem sample_material (valid : syntaxError sampleModule = none) (path : String) :
    hollowFinding syntaxError path sampleModule = none := by
  have stripped : strip sampleModule = sampleModule := by decide
  have lines : codeLines sampleModule = [sampleModule] := by decide
  have parsed : (if endsWith path ".py" then syntaxError sampleModule else none) = none := by
    rw [valid, ite_self]
  have long : ¬ ("\n".intercalate [sampleModule]).length < 40 := by decide
  rw [hollowFinding, stripped, if_neg (by decide), lines, if_neg (List.cons_ne_nil _ _), parsed]
  exact if_neg long

/-- A repository with a text at the path of each id, and nothing else. -/
def sampleRepository (layout : Dict String String) (ids : List String) : Repository :=
  ids.filterMap fun id => (get layout id).map fun path => (path, sampleModule)

theorem mem_sampleRepository {ids : List String} {path : String} :
    path ∈ keys (sampleRepository layout ids) ↔ ∃ id ∈ ids, get layout id = some path := by
  rw [keys, sampleRepository, List.mem_map]
  constructor
  · rintro ⟨entry, member, rfl⟩
    obtain ⟨id, listed, made⟩ := List.mem_filterMap.mp member
    obtain ⟨path, mapped, rfl⟩ := Option.map_eq_some_iff.mp made
    exact ⟨id, listed, mapped⟩
  · rintro ⟨id, listed, mapped⟩
    exact ⟨(path, sampleModule), List.mem_filterMap.mpr ⟨id, listed, by rw [mapped]; rfl⟩, rfl⟩

theorem sample_passes (valid : syntaxError sampleModule = none)
    (complete : ∀ id ∈ planElementIds plan, ∃ path, get layout id = some path ∧ path ≠ "") :
    (check syntaxError layout (sampleRepository layout (planElementIds plan)) plan).passed = true := by
  rw [passed_iff]
  intro id listed
  obtain ⟨path, mapped, named⟩ := complete id listed
  have present : get (sampleRepository layout (planElementIds plan)) path = some sampleModule := by
    apply get_of_agreed
    · intro entry member _
      obtain ⟨_, _, made⟩ := List.mem_filterMap.mp member
      obtain ⟨_, _, rfl⟩ := Option.map_eq_some_iff.mp made
      rfl
    · exact mem_sampleRepository.mpr ⟨id, listed, mapped⟩
  refine ⟨⟨path, sampleModule, mapped, present, sample_material valid path⟩, ?_⟩
  rw [mapped]
  exact fun same => named (Option.some.inj same)

/-- Over a layout that maps every enumerated id, passing says of an id what it says of the paths of enumerated ones. -/
theorem materialised_iff_listed (valid : syntaxError sampleModule = none)
    (complete : ∀ id ∈ planElementIds plan, ∃ path, get layout id = some path ∧ path ≠ "") (id : String) :
    (∀ repo, (check syntaxError layout repo plan).passed = true → Materialised syntaxError layout repo id) ↔
      ∃ listed ∈ planElementIds plan, get layout id = get layout listed := by
  constructor
  · intro sound
    -- the repository with nothing but the enumerated files passes
    obtain ⟨path, content, mapped, present, _⟩ := sound _ (sample_passes valid complete)
    have inside : path ∈ keys (sampleRepository layout (planElementIds plan)) :=
      (get_isSome_iff _ _).mp (by rw [present]; rfl)
    obtain ⟨listed, member, same⟩ := mem_sampleRepository.mp inside
    exact ⟨listed, member, mapped.trans same.symm⟩
  · rintro ⟨listed, member, same⟩ repo passed
    obtain ⟨path, content, mapped, present, solid⟩ := ((passed_iff plan).mp passed listed member).1
    exact ⟨path, content, same.trans mapped, present, solid⟩

end

variable (syntaxError : SyntaxCheck) (table : CharTable) (plan : Plan)

/-- The layout of the backend, with the paths as texts. -/
def pathTexts : Dict String String := (elementPaths table plan).map fun entry => (entry.1, entry.2.text)

def conformance (repo : Repository) : ConformanceReport := check syntaxError (pathTexts table plan) repo plan

/-- The ids under which the layout has the elements that bear behaviour. All declared operations are in one file. -/
def behaviourIds : List String :=
  plan.services.map Service.id ++ plan.dataModels.map DataModel.id ++ plan.events.map Event.id ++
    plan.security.map SecurityPolicy.policyId ++ plan.effects.map Effect.id ++
    (plan.apis.filter fun api => api.behavior.isSome).map fun _ => "infra:declared_apis"

/-- A repository that conforms has every element that bears behaviour. -/
def Sound : Prop :=
  ∀ repo, (conformance syntaxError table plan repo).passed = true →
    ∀ id ∈ behaviourIds plan, Materialised syntaxError (pathTexts table plan) repo id

/-- The module that the last effect with an id is written to. -/
def effectModule (id : String) : Option String :=
  get ((plan.effects.map fun effect => (effect.id, slug table effect.name)).reverse) id

/-- Every id of an element that bears behaviour is enumerated, or is that of an effect that is written to one module
with an effect whose id is. -/
def Enumerated : Prop :=
  ∀ id ∈ behaviourIds plan, id ∈ planElementIds plan ∨
    (id ∉ fixedIds plan ∧ ∃ listed ∈ planElementIds plan, listed ∉ fixedIds plan ∧
      ∃ mod, effectModule table plan id = some mod ∧ effectModule table plan listed = some mod)

variable {syntaxError table plan}

theorem suffixed_ne_empty (front middle : String) {back : String} (filled : back ≠ "") :
    front ++ middle ++ back ≠ "" := by
  intro blank
  have characters := congrArg String.toList blank
  rw [String.toList_append] at characters
  exact filled (String.toList_eq_nil_iff.mp (List.append_eq_nil_iff.mp characters).2)

theorem text_ne_empty (path : FilePath) : path.text ≠ "" := by
  cases path with
  | domain mod => exact suffixed_ne_empty _ mod (by decide)
  | application mod => exact suffixed_ne_empty _ mod (by decide)
  | events mod => exact suffixed_ne_empty _ mod (by decide)
  | effects mod => exact suffixed_ne_empty _ mod (by decide)
  | _ => decide

theorem listed_mapped {id : String} (listed : id ∈ planElementIds plan) :
    ∃ path, get (elementPaths table plan) id = some path := by
  apply Option.isSome_iff_exists.mp
  rw [elementPaths, isSome_assignAll, keys, List.map_append, List.map_append, List.map_append, List.map_append,
    List.map_flatMap, List.map_map]
  simp only [planElementIds, List.mem_append] at listed ⊢
  rcases listed with (element | policy) | infra
  · refine .inl (.inl (.inl (.inl ?_)))
    obtain ⟨service, member, inside⟩ := List.mem_flatMap.mp element
    refine List.mem_flatMap.mpr ⟨service, member, ?_⟩
    simpa [serviceElements, Function.comp_def] using inside
  · exact .inl (.inl (.inl (.inr policy)))
  · refine .inl (.inr ?_)
    revert id
    decide

theorem pathTexts_complete (table : CharTable) (plan : Plan) :
    ∀ id ∈ planElementIds plan, ∃ path, get (pathTexts table plan) id = some path ∧ path ≠ "" := by
  intro id listed
  obtain ⟨path, mapped⟩ := @listed_mapped table plan id listed
  refine ⟨path.text, ?_, text_ne_empty path⟩
  rw [pathTexts, get_map_values, mapped]
  rfl

theorem get_effects (id : String) :
    get ((plan.effects.map Element.effect).map (Element.entry table)).reverse id =
      (effectModule table plan id).map .effects := by
  rw [effectModule, ← get_map_values, List.map_reverse, List.map_map, List.map_map]
  rfl

theorem get_pathTexts_inj {id other : String} : get (pathTexts table plan) id = get (pathTexts table plan) other ↔
    get (elementPaths table plan) id = get (elementPaths table plan) other := by
  rw [pathTexts, get_map_values, get_map_values]
  exact (Option.map_injective FilePath.text_injective).eq_iff

/-- An id that is neither fixed nor enumerated can only be that of an effect. -/
theorem get_unlisted {id : String} (free : id ∉ fixedIds plan) (unlisted : id ∉ planElementIds plan) :
    get (elementPaths table plan) id = (effectModule table plan id).map .effects := by
  rw [planElementIds, List.mem_append, List.mem_append, not_or, not_or] at unlisted
  have services : get ((serviceSide plan).map (Element.entry table)).reverse id = none := by
    apply get_entries_absent
    rintro element inside rfl
    obtain ⟨service, listed, member⟩ := List.mem_flatMap.mp inside
    refine unlisted.1.1 (List.mem_flatMap.mpr ⟨service, listed, ?_⟩)
    have named : element.id ∈ (ofService service).map Element.id := List.mem_map_of_mem member
    simpa [ofService, Function.comp_def, Element.id] using named
  rw [get_unfixed free, get_policies, if_neg unlisted.1.2, services, get_effects]
  cases effectModule table plan id <;> rfl

/-- Where the file of an id is that of an effect, the id is one of an effect. -/
theorem effectModule_of_get {id mod : String} (free : id ∉ fixedIds plan)
    (found : get (elementPaths table plan) id = some (.effects mod)) : effectModule table plan id = some mod := by
  rw [get_unfixed free, get_effects] at found
  cases effect : effectModule table plan id with
  | some other =>
      rw [effect] at found
      cases found
      rfl
  | none =>
      rw [effect, get_policies] at found
      by_cases policy : id ∈ plan.security.map SecurityPolicy.policyId
      · rw [if_pos policy] at found
        cases found
      · rw [if_neg policy] at found
        -- the elements of the services are of the three other kinds
        obtain ⟨element, listed, same⟩ := List.mem_map.mp (List.mem_reverse.mp (mem_of_get found))
        have path : element.path table = .effects mod := congrArg Prod.snd same
        cases element with
        | effect effect => exact absurd rfl (not_effect_of_service listed effect)
        | service _ => cases path
        | dataModel _ => cases path
        | event _ => cases path

theorem shares_iff (id : String) :
    (∃ listed ∈ planElementIds plan, get (elementPaths table plan) id = get (elementPaths table plan) listed) ↔
      (id ∈ planElementIds plan ∨ (id ∉ fixedIds plan ∧ ∃ listed ∈ planElementIds plan, listed ∉ fixedIds plan ∧
        ∃ mod, effectModule table plan id = some mod ∧ effectModule table plan listed = some mod)) := by
  constructor
  · rintro ⟨listed, member, same⟩
    by_cases enumerated : id ∈ planElementIds plan
    · exact .inl enumerated
    · right
      obtain ⟨path, mapped⟩ := @listed_mapped table plan listed member
      have held := same.trans mapped
      by_cases fixed : id ∈ fixedIds plan
      · -- a fixed file is of its own id only
        obtain ⟨own, found, unsecured, unmade⟩ := fixed_path fixed
        rw [get_fixed fixed, found, Option.some.injEq] at held
        by_cases listedFixed : listed ∈ fixedIds plan
        · rw [get_fixed listedFixed] at mapped
          have alone : ∀ left ∈ fixedPaths, ∀ right ∈ fixedPaths, left.2 = right.2 → left.1 = right.1 := by decide
          have one : id = listed := alone (id, own) (mem_of_get found) (listed, path) (mem_of_get mapped) held
          exact absurd (one ▸ member) enumerated
        · rcases unfixed_path listedFixed mapped with secured | ⟨kind, mod, made⟩
          · exact absurd (held.trans secured) unsecured
          · exact absurd (held.trans made) (unmade kind mod)
      · -- what is not enumerated can only have the file of an effect
        have own := @get_unlisted table plan id fixed enumerated
        rw [held] at own
        obtain ⟨mod, effect, rfl⟩ := Option.map_eq_some_iff.mp own.symm
        by_cases listedFixed : listed ∈ fixedIds plan
        · obtain ⟨_, found, _, unmade⟩ := fixed_path listedFixed
          rw [get_fixed listedFixed, found, Option.some.injEq] at mapped
          exact absurd mapped (unmade .effect mod)
        · exact ⟨fixed, listed, member, listedFixed, mod, effect, effectModule_of_get listedFixed mapped⟩
  · rintro (enumerated | ⟨free, listed, member, listedFree, mod, own, other⟩)
    · exact ⟨id, enumerated, rfl⟩
    · refine ⟨listed, member, ?_⟩
      rw [get_unfixed free, get_unfixed listedFree, get_effects, get_effects, own, other]
      rfl

/-- What conforms has every element that bears behaviour exactly when those elements are enumerated. -/
theorem sound_iff_enumerated (valid : syntaxError sampleModule = none) (table : CharTable) (plan : Plan) :
    Sound syntaxError table plan ↔ Enumerated table plan := by
  have each (id : String) := materialised_iff_listed valid (pathTexts_complete table plan) id
  constructor
  · intro sound id bears
    obtain ⟨listed, member, same⟩ := (each id).mp fun repo passed => sound repo passed id bears
    exact (shares_iff id).mp ⟨listed, member, get_pathTexts_inj.mp same⟩
  · intro enumerated repo passed id bears
    obtain ⟨listed, member, same⟩ := (shares_iff id).mpr (enumerated id bears)
    exact (each id).mpr ⟨listed, member, get_pathTexts_inj.mpr same⟩ repo passed

def usersPlan : Plan where
  planId := "plan:0"
  isrId := "users"
  services := [userService]
  dataModels := userService.dataModels

theorem users_sound : Sound (fun _ => none) asciiTable usersPlan :=
  (sound_iff_enumerated rfl asciiTable usersPlan).mpr fun id bears => .inl (by revert id; decide)

/-- A data model that no service persists, and an effect. -/
def billingPlan : Plan where
  planId := "plan:0"
  isrId := "users"
  services := [userService]
  dataModels := userService.dataModels ++ [⟨"dm:invoice", "invoice", none⟩]
  effects := [⟨"effect:mail", "mail", none⟩]

/-- The module of the effect is a comment. -/
def billingRepository : Repository :=
  ("app/effects/mail.py", "# to be written") ::
    sampleRepository (pathTexts asciiTable billingPlan) (planElementIds billingPlan)

theorem billing_conforms : FastApiBackend.Accepts asciiTable billingPlan ∧
    (conformance (fun _ => none) asciiTable billingPlan billingRepository).passed = true ∧
    (∀ id ∈ ["dm:invoice", "effect:mail"], id ∈ behaviourIds billingPlan ∧
      ¬ Materialised (fun _ => none) (pathTexts asciiTable billingPlan) billingRepository id) ∧
    ¬ Sound (fun _ => none) asciiTable billingPlan := by
  have passed : (conformance (fun _ => none) asciiTable billingPlan billingRepository).passed = true := by
    decide
  have invoice : ¬ Materialised (fun _ => none) (pathTexts asciiTable billingPlan) billingRepository "dm:invoice" := by
    rintro ⟨path, _, mapped, _⟩
    have unmapped : get (pathTexts asciiTable billingPlan) "dm:invoice" = none := by decide
    rw [unmapped] at mapped
    cases mapped
  have mail : ¬ Materialised (fun _ => none) (pathTexts asciiTable billingPlan) billingRepository "effect:mail" := by
    have found : finding (fun _ => none) (pathTexts asciiTable billingPlan) billingRepository "effect:mail" ≠ none := by
      decide
    intro material
    refine found ((finding_none_iff _).mpr ⟨material, ?_⟩)
    decide
  refine ⟨rfl, passed, ?_, fun sound => invoice (sound _ passed _ (by decide))⟩
  simp only [List.mem_cons, List.not_mem_nil, or_false, forall_eq_or_imp, forall_eq]
  exact ⟨⟨by decide, invoice⟩, by decide, mail⟩

end AutonomousApi.Conformance
