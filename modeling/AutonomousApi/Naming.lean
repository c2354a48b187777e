import AutonomousApi.CompilationPlan
import AutonomousApi.PythonText

/-! Names of generated code (compiler/backends/_naming.py): labels become slugs, slugs
become class names and plurals, and the entities and events of a plan are listed
once per slug, at their first occurrence. -/

namespace AutonomousApi.Naming

open CompilationPlan OrderedMap PythonText

section

variable (table : CharTable)

def slug (name : String) : String :=
  let replaced := (strip table name.toList).map fun c => if isWord table c then c else '_'
  match replaced with
  | [] => "item"
  | first :: _ =>
      if table.isDigit first then String.ofList ('_' :: replaced) else String.ofList replaced

def clsName (slugText : String) : String :=
  match slugText.toList with
  | [] => ""
  | first :: rest => String.ofList (table.upper first ++ rest)

def plural (slugText : String) : String :=
  let low := table.lower slugText.toList
  if low.getLast? = some 's' then String.ofList low else String.ofList (low ++ ['s'])

end

structure EntityInfo where
  entity : String
  mod : String
  cls : String
  plural : String
  serviceMod : String
  serviceCls : String
  deriving DecidableEq

structure ServiceInfo where
  name : String
  mod : String
  cls : String
  owned : List String
  deriving DecidableEq

structure EventInfo where
  name : String
  mod : String
  deriving DecidableEq

section

variable (table : CharTable)

/-- The services with each data model they persist, in the order the loops visit them. -/
def ownedModels (plan : Plan) : List (Service × DataModel) :=
  plan.services.flatMap fun service => service.dataModels.map fun model => (service, model)

def entityInfo (owned : Service × DataModel) : EntityInfo :=
  let mod := slug table owned.2.entityName
  let serviceMod := slug table owned.1.name
  { entity := owned.2.entityName
    mod := mod
    cls := clsName table mod
    plural := plural table mod
    serviceMod := serviceMod
    serviceCls := clsName table serviceMod }

def planEntities (plan : Plan) : List EntityInfo :=
  keepFirst EntityInfo.mod [] ((ownedModels plan).map (entityInfo table))

def planServices (plan : Plan) : List ServiceInfo :=
  plan.services.map fun service =>
    let mod := slug table service.name
    { name := service.name
      mod := mod
      cls := clsName table mod
      owned := ((planEntities table plan).filter fun entity => entity.serviceMod == mod).map EntityInfo.mod }

def planEvents (plan : Plan) : List EventInfo :=
  keepFirst EventInfo.mod [] (plan.services.flatMap fun service =>
    (service.publishedEvents ++ service.consumedEvents).map fun event =>
      ⟨event.name, slug table event.name⟩)

end

variable (table : CharTable)

/-- Every persisted model is served by one entity record: the first with its slug. -/
theorem entity_serving (plan : Plan) {service : Service} {model : DataModel}
    (listed : service ∈ plan.services) (owned : model ∈ service.dataModels) :
    ∃ entity ∈ planEntities table plan, entity.mod = slug table model.entityName ∧
      (planEntities table plan).find? (fun item => item.mod == slug table model.entityName) = some entity := by
  have first := find_keepFirst EntityInfo.mod [] ((ownedModels plan).map (entityInfo table))
    (slug table model.entityName) (by simp)
  cases found : ((ownedModels plan).map (entityInfo table)).find?
      (fun item => item.mod == slug table model.entityName) with
  | none =>
      have member : entityInfo table (service, model) ∈ (ownedModels plan).map (entityInfo table) :=
        List.mem_map_of_mem (List.mem_flatMap.mpr ⟨service, listed, List.mem_map_of_mem owned⟩)
      have missed := List.find?_eq_none.mp found _ member
      simp [entityInfo] at missed
  | some entity =>
      rw [found] at first
      exact ⟨entity, List.mem_of_find?_eq_some first, by simpa using List.find?_some found, first⟩

end AutonomousApi.Naming
