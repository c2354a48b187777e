import AutonomousApi.GeneratedStores
import AutonomousApi.RouteDispatch

/-! The repositories of a generated application, by name. The CRUD methods of a service open the repository under
the slug of an entity, the declared operations open the one under `resource_module`; both names come from the label
of a data model. -/

namespace AutonomousApi.ResourceKeys

open JsonValue CompilationPlan OrderedMap PythonText DeclaredApi Naming FastApiBackend
  RouteDispatch GeneratedStores

section

variable (table : CharTable)

/-- `re.sub(r"\W", "_", label.strip())` -/
def replaced (label : String) : List Char :=
  (strip table label.toList).map fun c => if isWord table c then c else '_'

def resourceModule (route : DeclaredRoute) : String := String.ofList (table.lower (replaced table route.resource))

variable (plan : Plan)

/-- The repositories that the CRUD methods of the services open. -/
def crudKeys : List String := (planServices table plan).flatMap ServiceInfo.owned

/-- The one for the data model with a label. -/
def crudKey (label : String) : Option String := (crudKeys table plan).find? (· == slug table label)

/-- Where the records of a resource are kept. -/
def storageKeys (label : String) : List String :=
  (crudKey table plan label).toList ++
    ((planRoutes plan).filter fun route => route.resource == label).map (resourceModule table)

/-- The resources of a plan. -/
def labels : List String := (ownedModels plan).map fun owned => owned.2.entityName

end

abbrev Registry := Dict String InMemoryRepository

def repositoryFor (registry : Registry) (name : String) : InMemoryRepository := (get registry name).getD {}

/-- An operation on the repository with a name. -/
def serve (registry : Registry) (name : String) (operation : Operation Json) : Registry :=
  assign registry name ((repositoryFor registry name).step operation).1

theorem repositoryFor_serve (registry : Registry) (name other : String) (operation : Operation Json) :
    repositoryFor (serve registry name operation) other =
      if name = other then ((repositoryFor registry other).step operation).1 else repositoryFor registry other := by
  rw [repositoryFor, serve, get_assign]
  by_cases same : name = other
  · rw [if_pos same, if_pos same, same]
    rfl
  · rw [if_neg same, if_neg same]
    rfl

variable (table : CharTable) (plan : Plan)

/-- One repository for each resource: what one route does is there for the others, and no other resource sees it. -/
structure Shared : Prop where
  agreed : ∀ route ∈ planRoutes plan, crudKey table plan route.resource = some (resourceModule table route)
  apart : ∀ left ∈ labels plan, ∀ right ∈ labels plan, left ≠ right →
    ∀ key ∈ storageKeys table plan left, ∀ other ∈ storageKeys table plan right, key ≠ other
  visible : ∀ label ∈ labels plan, ∀ key ∈ storageKeys table plan label, ∀ other ∈ storageKeys table plan label,
    ∀ registry operation, repositoryFor (serve registry key operation) other =
      ((repositoryFor registry other).step operation).1
  untouched : ∀ left ∈ labels plan, ∀ right ∈ labels plan, left ≠ right →
    ∀ key ∈ storageKeys table plan left, ∀ other ∈ storageKeys table plan right,
      ∀ registry operation, repositoryFor (serve registry key operation) other = repositoryFor registry other

/-- Labels that both manglings treat alike: those of declared resources are lower case, begin with no digit and are
not blank, and no two labels have one slug. -/
structure PlainLabels : Prop where
  plain : ∀ route ∈ planRoutes plan, ∃ first rest, replaced table route.resource = first :: rest ∧
    table.isDigit first = false ∧ table.lower (first :: rest) = first :: rest
  distinct : ∀ left ∈ labels plan, ∀ right ∈ labels plan, slug table left = slug table right → left = right

/-- Lowering leaves the empty text and makes no underscore of a digit. -/
structure LowerKeeps : Prop where
  empty : table.lower [] = []
  digit : ∀ c rest, table.isDigit c = true → (table.lower (c :: rest)).head? ≠ some '_'

variable {table plan}

theorem resourceModule_eq_slug_iff (keeps : LowerKeeps table) (route : DeclaredRoute) :
    resourceModule table route = slug table route.resource ↔
      ∃ first rest, replaced table route.resource = first :: rest ∧ table.isDigit first = false ∧
        table.lower (first :: rest) = first :: rest := by
  have folded : (strip table route.resource.toList).map (fun c => if isWord table c then c else '_') =
      replaced table route.resource := rfl
  rw [slug, folded, resourceModule]
  cases shape : replaced table route.resource with
  | nil => simp [keeps.empty]
  | cons first rest =>
      simp only [List.cons.injEq]
      by_cases digit : table.isDigit first = true
      · rw [if_pos digit, String.ofList_inj]
        constructor
        · intro same
          refine absurd ?_ (keeps.digit first rest digit)
          rw [same]
          rfl
        · rintro ⟨_, _, ⟨rfl, rfl⟩, undigited, -⟩
          rw [digit] at undigited
          cases undigited
      · rw [if_neg digit, String.ofList_inj]
        constructor
        · intro same
          exact ⟨first, rest, ⟨rfl, rfl⟩, Bool.eq_false_iff.mpr digit, same⟩
        · rintro ⟨_, _, ⟨rfl, rfl⟩, -, lowered⟩
          exact lowered

/-- The resource of a declared route is a data model of its service. -/
theorem resource_label {route : DeclaredRoute} (listed : route ∈ planRoutes plan) : route.resource ∈ labels plan := by
  cases declared : declaredRoutes plan with
  | error fault => simp [planRoutes, declared, Except.toOption] at listed
  | ok routes =>
      rw [planRoutes, declared] at listed
      have checked := (declaredRoutes_checked declared).1 route listed
      obtain ⟨model, owned, named⟩ := resourceFor_persisted checked.governed
      refine List.mem_map.mpr ⟨(route.service, model), ?_, named⟩
      exact List.mem_flatMap.mpr ⟨route.service, checked.owner, List.mem_map_of_mem owned⟩

/-- The repository of a data model is opened by the service that owns its slug. -/
theorem crudKey_label {label : String} (listed : label ∈ labels plan) :
    crudKey table plan label = some (slug table label) := by
  obtain ⟨⟨service, model⟩, owned, rfl⟩ := List.mem_map.mp listed
  obtain ⟨owner, inside, found⟩ := List.mem_flatMap.mp owned
  obtain ⟨one, persisted, same⟩ := List.mem_map.mp found
  cases same
  obtain ⟨entity, served, named, -⟩ := entity_serving table plan inside persisted
  obtain ⟨⟨keeper, kept⟩, ownedToo, rfl⟩ := List.mem_map.mp (mem_of_keepFirst EntityInfo.mod [] _ served)
  obtain ⟨holder, holds, found⟩ := List.mem_flatMap.mp ownedToo
  obtain ⟨other, _, same⟩ := List.mem_map.mp found
  cases same
  have opened : slug table model.entityName ∈ crudKeys table plan := by
    refine List.mem_flatMap.mpr ⟨_, List.mem_map_of_mem holds, ?_⟩
    refine List.mem_map.mpr ⟨_, List.mem_filter.mpr ⟨served, ?_⟩, named⟩
    exact beq_self_eq_true _
  rw [crudKey]
  cases found : (crudKeys table plan).find? (· == slug table model.entityName) with
  | none =>
      have missed := List.find?_eq_none.mp found _ opened
      exact absurd (beq_self_eq_true _) missed
  | some key =>
      have same := List.find?_some found
      simp only [beq_iff_eq] at same
      rw [same]

theorem mem_storageKeys {label key : String} (listed : label ∈ labels plan)
    (agreed : ∀ route ∈ planRoutes plan, resourceModule table route = slug table route.resource) :
    key ∈ storageKeys table plan label ↔ key = slug table label := by
  rw [storageKeys, crudKey_label listed, List.mem_append]
  constructor
  · rintro (crud | declared)
    · exact List.mem_singleton.mp crud
    · obtain ⟨route, member, rfl⟩ := List.mem_map.mp declared
      obtain ⟨member, same⟩ := List.mem_filter.mp member
      rw [agreed route member, beq_iff_eq.mp same]
  · rintro rfl
    exact .inl (List.mem_singleton_self _)

/-- Declared operations and CRUD methods share a repository, one for each resource, exactly on plain labels. -/
theorem shared_iff_plain (keeps : LowerKeeps table) :
    Shared table plan ↔ PlainLabels table plan := by
  constructor
  · intro shared
    constructor
    · intro route listed
      have agreed := shared.agreed route listed
      rw [crudKey_label (resource_label listed)] at agreed
      exact (resourceModule_eq_slug_iff keeps route).mp (Option.some.inj agreed).symm
    · intro left leftListed right rightListed same
      by_contra different
      refine shared.apart left leftListed right rightListed different (slug table left) ?_ (slug table right) ?_ same
      · rw [storageKeys, crudKey_label leftListed]
        exact List.mem_cons_self
      · rw [storageKeys, crudKey_label rightListed]
        exact List.mem_cons_self
  · intro plainLabels
    have agreed : ∀ route ∈ planRoutes plan, resourceModule table route = slug table route.resource :=
      fun route listed => (resourceModule_eq_slug_iff keeps route).mpr (plainLabels.plain route listed)
    have apart : ∀ left ∈ labels plan, ∀ right ∈ labels plan, left ≠ right →
        ∀ key ∈ storageKeys table plan left, ∀ other ∈ storageKeys table plan right, key ≠ other := by
      intro left leftListed right rightListed different key here other there same
      rw [mem_storageKeys leftListed agreed] at here
      rw [mem_storageKeys rightListed agreed] at there
      exact different (plainLabels.distinct left leftListed right rightListed (here.symm.trans (same.trans there)))
    constructor
    · intro route listed
      rw [crudKey_label (resource_label listed), agreed route listed]
    · exact apart
    · intro label listed key here other there registry operation
      rw [mem_storageKeys listed agreed] at here there
      rw [repositoryFor_serve, if_pos (here.trans there.symm)]
    · intro left leftListed right rightListed different key here other there registry operation
      rw [repositoryFor_serve, if_neg (apart left leftListed right rightListed different key here other there)]

theorem asciiTable_keeps : LowerKeeps asciiTable where
  empty := rfl
  digit := by
    intro c rest digit
    have bounds : '0' ≤ c ∧ c ≤ '9' := by simpa [asciiTable] using digit
    have lower : ¬ ('A' ≤ c ∧ c ≤ 'Z') := fun capital => absurd (capital.1.trans bounds.2) (by decide)
    have kept : asciiTable.lower (c :: rest) = c :: rest.map lowerAscii := by
      change lowerAscii c :: rest.map lowerAscii = _
      rw [lowerAscii, if_neg lower]
    rw [kept]
    rintro ⟨⟩
    exact absurd bounds.2 (by decide)

theorem users_shared : Shared asciiTable activeUsersPlan :=
  (shared_iff_plain asciiTable_keeps).mpr
    ⟨fun route listed => ⟨'u', "ser".toList, by revert route; decide, rfl, rfl⟩, by decide⟩

def staffService : Service where
  id := "service:staff"
  name := "Staff"
  dataModels := [⟨"dm:employee", "Employee", none⟩]

/-- A declared read of employees, whose label has a capital. -/
def staffPlan : Plan where
  planId := "plan:0"
  isrId := "staff"
  services := [staffService]
  dataModels := [⟨"dm:employee", "Employee", none⟩]
  apis := [{ id := "api:staff", name := "Staff", serviceId := some "service:staff"
             behavior := some { operationId := "staff", method := .get, path := "/staff" } }]

/-- The CRUD methods write under "Employee", the declared operation reads under "employee". -/
theorem staff_apart : Accepts asciiTable staffPlan ∧ ¬ Shared asciiTable staffPlan := by
  refine ⟨rfl, fun shared => ?_⟩
  have agreed : ∀ route ∈ planRoutes staffPlan,
      crudKey asciiTable staffPlan route.resource = some (resourceModule asciiTable route) := shared.agreed
  revert agreed
  decide

end AutonomousApi.ResourceKeys
