import AutonomousApi.FastApiBackend

/-! Guards of the emitted CRUD routes (`_protected_service_for`,
`_authorization_dependency` and the `SERVICE_POLICIES` table of
compiler/backends/python_fastapi.py). The plan gate reasons over service identifiers
and entity names; the emitter looks policies up by service slug and names the resource
by the class name of the first entity with the slug. The table is taken as the
payloads it is written from; its text is the subject of another module. -/

namespace AutonomousApi.RouteGuards

open CompilationPlan OrderedMap PythonText Authorization Naming FastApiBackend
open PolicyContainment (covers)

variable (table : CharTable)

/-- The policies `protected_services` holds for a service, when there are any. -/
def protectedPolicies (plan : Plan) (service : Service) : Option (List SecurityPolicy) :=
  match get (protectedServices plan) service.id with
  | some (first :: rest) => some (first :: rest)
  | _ => none

def protectedServiceFor (plan : Plan) (entity : EntityInfo) : Option Service :=
  plan.services.find? fun service =>
    slug table service.name == entity.serviceMod && (protectedPolicies plan service).isSome

def servicePolicyTable (plan : Plan) : Dict String (List SecurityPolicy) :=
  assignAll [] (plan.services.filterMap fun service =>
    (protectedPolicies plan service).map fun policies => (slug table service.name, policies))

structure RouteGuard where
  action : String
  resource : String
  policies : List SecurityPolicy
  deriving DecidableEq

def authorizationDependency (plan : Plan) (entity : EntityInfo) (verb : RouteVerb) : Option RouteGuard :=
  (protectedServiceFor table plan entity).map fun service =>
    { action := canonicalAction table entity.entity verb
      resource := entity.cls
      policies := group (servicePolicyTable table plan) (slug table service.name) }

/-- The entity record whose routes serve a data model: the first with its slug. -/
def servingEntity (plan : Plan) (model : DataModel) : Option EntityInfo :=
  (planEntities table plan).find? fun entity => entity.mod == slug table model.entityName

def routeGuard (plan : Plan) (model : DataModel) (verb : RouteVerb) : Option RouteGuard :=
  (servingEntity table plan model).bind fun entity => authorizationDependency table plan entity verb

def RouteGuard.admits (guard : RouteGuard) (principal : Principal) : Bool :=
  (evaluate guard.policies principal guard.action guard.resource).allows

def ownDecision (service : Service) (model : DataModel) (verb : RouteVerb) (principal : Principal) : Bool :=
  (evaluate (servicePolicies service) principal (canonicalAction table model.entityName verb)
    model.entityName).allows

/-- The routes of every persisted model of a service with typed policies are guarded, and
admit only principals that the service's own policies allow. -/
def Enforced (plan : Plan) : Prop :=
  ∀ service ∈ plan.services, servicePolicies service ≠ [] → ∀ model ∈ service.dataModels, ∀ verb,
    ∃ guard, routeGuard table plan model verb = some guard ∧
      ∀ principal, guard.admits principal = true → ownDecision table service model verb principal = true

/-- The first owner, in plan order, of a model with the given slug. -/
def firstOwner (plan : Plan) (model : DataModel) : Option (Service × DataModel) :=
  (ownedModels plan).find? fun owned => slug table owned.2.entityName == slug table model.entityName

/-- The last protected service with the given slug: the one whose row stays in the table. -/
def lastProtected (plan : Plan) (serviceMod : String) : Option (List SecurityPolicy) :=
  get (plan.services.filterMap fun service =>
    (protectedPolicies plan service).map fun policies => (slug table service.name, policies)).reverse serviceMod

/-- The rules that stay in the table for the first owner, at the action and class name of
the first owner's model, admit no more than the service's own rules do for the model. -/
def coveredBy (plan : Plan) (service : Service) (model : DataModel) (verb : RouteVerb) : Bool :=
  match firstOwner table plan model with
  | none => false
  | some (owner, first) =>
      match lastProtected table plan (slug table owner.name) with
      | none => false
      | some row =>
          covers
            (applicable row (canonicalAction table first.entityName verb)
              (clsName table (slug table first.entityName)))
            (applicable (servicePolicies service) (canonicalAction table model.entityName verb) model.entityName)

section

variable {table} {plan : Plan}

theorem servingEntity_eq (model : DataModel) :
    servingEntity table plan model = (firstOwner table plan model).map (entityInfo table) := by
  rw [servingEntity, planEntities, find_keepFirst EntityInfo.mod [] _ _ (by simp), List.find?_map]
  rfl

theorem firstOwner_isSome {service : Service} {model : DataModel} (listed : service ∈ plan.services)
    (owned : model ∈ service.dataModels) : ∃ owner, firstOwner table plan model = some owner := by
  cases found : firstOwner table plan model with
  | some owner => exact ⟨owner, rfl⟩
  | none =>
      have member : (service, model) ∈ ownedModels plan :=
        List.mem_flatMap.mpr ⟨service, listed, List.mem_map_of_mem owned⟩
      simpa using List.find?_eq_none.mp found _ member

/-- The row found under a slug, whichever protected service led to it. -/
theorem servicePolicyTable_row (serviceMod : String) :
    get (servicePolicyTable table plan) serviceMod = lastProtected table plan serviceMod := by
  rw [servicePolicyTable, get_assignAll, lastProtected]
  simp

theorem protectedServiceFor_isSome (entity : EntityInfo) :
    (protectedServiceFor table plan entity).isSome = (lastProtected table plan entity.serviceMod).isSome := by
  rw [protectedServiceFor, Bool.eq_iff_iff, List.find?_isSome, lastProtected, get_isSome_iff, keys, List.map_reverse,
    List.mem_reverse]
  simp only [List.mem_map, List.mem_filterMap, Bool.and_eq_true, beq_iff_eq, Option.map_eq_some_iff]
  constructor
  · rintro ⟨service, listed, same, guarded⟩
    obtain ⟨policies, found⟩ := Option.isSome_iff_exists.mp guarded
    exact ⟨_, ⟨service, listed, policies, found, rfl⟩, same⟩
  · rintro ⟨_, ⟨service, listed, policies, found, rfl⟩, same⟩
    exact ⟨service, listed, same, by simp [found]⟩

theorem routeGuard_eq (model : DataModel) (verb : RouteVerb) :
    routeGuard table plan model verb = (firstOwner table plan model).bind fun owned =>
      (lastProtected table plan (slug table owned.1.name)).map fun row =>
        { action := canonicalAction table owned.2.entityName verb
          resource := clsName table (slug table owned.2.entityName)
          policies := row } := by
  rw [routeGuard, servingEntity_eq]
  cases firstOwner table plan model with
  | none => rfl
  | some owned =>
      simp only [Option.map_some, Option.bind_some, authorizationDependency]
      have paired : (protectedServiceFor table plan (entityInfo table owned)).isSome =
          (lastProtected table plan (slug table owned.1.name)).isSome :=
        protectedServiceFor_isSome (entityInfo table owned)
      cases found : protectedServiceFor table plan (entityInfo table owned) with
      | none =>
          rw [found] at paired
          simp only [Option.isSome_none, Bool.false_eq, Option.isSome_eq_false_iff,
            Option.isNone_iff_eq_none] at paired
          simp [paired]
      | some service =>
          rw [found] at paired
          obtain ⟨row, held⟩ := Option.isSome_iff_exists.mp paired.symm
          have same : slug table service.name = slug table owned.1.name := by
            have selected := List.find?_some found
            simp only [entityInfo, Bool.and_eq_true, beq_iff_eq] at selected
            exact selected.1
          simp [held, same, group, servicePolicyTable_row, entityInfo]

end

/-- Enforcement holds exactly when the row each guard reads is covered by the policies
of every service that persists the model. -/
theorem enforced_iff (plan : Plan) :
    Enforced table plan ↔
      ∀ service ∈ plan.services, servicePolicies service ≠ [] → ∀ model ∈ service.dataModels, ∀ verb,
        coveredBy table plan service model verb = true := by
  unfold Enforced
  refine forall₂_congr fun service listed => forall_congr' fun _ => forall₂_congr fun model owned =>
    forall_congr' fun verb => ?_
  obtain ⟨⟨owner, first⟩, found⟩ := @firstOwner_isSome table plan _ _ listed owned
  rw [routeGuard_eq, coveredBy, found]
  simp only [Option.bind_some]
  cases lastProtected table plan (slug table owner.name) with
  | none => simp
  | some row =>
      simp only [Option.map_some, Option.some.injEq, ↓existsAndEq, true_and, RouteGuard.admits, ownDecision]
      exact evaluate_contained_iff _ _ _ _ _ _

/-- Readers may read everything except employees; the entity has a lower-case label. -/
def employeePolicy : SecurityPolicy where
  policyId := "policy:hr"
  behavior := some
    { roles := ["reader"]
      rules :=
        [{ ruleId := "allow-read", effect := .allow, roles := ["reader"], actions := ["employee.read"]
           resource := "*", conditions := [], distinct := List.nodup_nil },
         { ruleId := "deny-read", effect := .deny, roles := ["reader"], actions := ["employee.read"]
           resource := "employee", conditions := [], distinct := List.nodup_nil }]
      consistent := rfl }

def employeeService : Service where
  id := "service:hr"
  name := "HR"
  dataModels := [⟨"dm:employee", "employee", none⟩]
  securityPolicies := [employeePolicy]

def employeePlan : Plan where
  planId := "plan:0"
  isrId := "hr"
  services := [employeeService]
  dataModels := [⟨"dm:employee", "employee", none⟩]
  security := [employeePolicy]

/-- The guard asks for the resource `Employee`, which the deny rule does not name. -/
theorem employee_deny_lost : Accepts asciiTable employeePlan ∧ ¬ Enforced asciiTable employeePlan := by
  refine ⟨rfl, fun enforced => ?_⟩
  obtain ⟨guard, found, contained⟩ := enforced employeeService (by simp [employeePlan]) (by decide)
    ⟨"dm:employee", "employee", none⟩ (by simp [employeeService]) .read
  have guarded : routeGuard asciiTable employeePlan ⟨"dm:employee", "employee", none⟩ .read =
      some ⟨"employee.read", "Employee", [employeePolicy]⟩ := by decide
  rw [found] at guarded
  obtain rfl := Option.some.inj guarded
  have allowed := contained ⟨["reader"], [], by decide⟩ (by decide)
  revert allowed
  decide

end AutonomousApi.RouteGuards
