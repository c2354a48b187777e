import AutonomousApi.FastApiBackend

/-! Dispatch in the emitted application (`_main` and `register_declared_routes` of
compiler/backends/python_fastapi.py). Routes are tried in registration order: health,
the CRUD routes entity by entity, the service catalog, then the declared routes in plan
order; the first whose method and template fit takes the request. FastAPI itself is
outside the repository, and this first-match rule is what is taken from it. -/

namespace AutonomousApi.RouteDispatch

open IsrBehavior CompilationPlan OrderedMap PythonText DeclaredApi Naming FastApiBackend
open PathTemplate

def literal (text : List Char) : Template := text.map .char

def collectionTemplate (entity : EntityInfo) : Template := literal ("/api/".toList ++ entity.plural.toList)

def itemTemplate (entity : EntityInfo) : Template :=
  collectionTemplate entity ++ [.char '/', .hole "item_id".toList]

def crudRoutes (entity : EntityInfo) : List (Method × Template) :=
  [(.get, collectionTemplate entity), (.post, collectionTemplate entity), (.get, itemTemplate entity),
    (.put, itemTemplate entity), (.delete, itemTemplate entity)]

def emittedRoutes (table : CharTable) (plan : Plan) : List (Method × Template) :=
  (.get, literal "/health".toList) ::
    (planEntities table plan).flatMap crudRoutes ++ [(.get, literal "/api/services".toList)]

def declaredTemplate (route : DeclaredRoute) : Template := parse route.path

/-- The declared routes of an accepted plan. -/
def planRoutes (plan : Plan) : List DeclaredRoute := (declaredRoutes plan).toOption.getD []

inductive Registered where
  | emitted (method : Method) (template : Template)
  | declared (route : DeclaredRoute)

def Registered.serves (method : Method) (path : List Char) : Registered → Bool
  | .emitted served template => served == method && accepts template path
  | .declared route => route.method == method && accepts (declaredTemplate route) path

def registration (table : CharTable) (plan : Plan) : List Registered :=
  (emittedRoutes table plan).map (fun route => .emitted route.1 route.2) ++
    (planRoutes plan).map .declared

def dispatch (table : CharTable) (plan : Plan) (method : Method) (path : List Char) : Option Registered :=
  (registration table plan).find? (Registered.serves method path)

/-- Every request that fits a declared route reaches it, or a declared route of the same
method that fits too and is not more general. -/
def DispatchedAsDeclared (table : CharTable) (plan : Plan) : Prop :=
  ∀ route ∈ planRoutes plan, ∀ path, accepts (declaredTemplate route) path = true →
    ∃ target, dispatch table plan route.method path = some (.declared target) ∧
      (target = route ∨ target.method = route.method ∧ accepts (declaredTemplate target) path = true ∧
        ¬ MoreGeneral (declaredTemplate target) (declaredTemplate route))

/-- Some route of `others` with the method of `route` accepts each of its paths, and
none of those routes is more general. -/
def Exhausted (others : List DeclaredRoute) (route : DeclaredRoute) : Prop :=
  ∀ path, accepts (declaredTemplate route) path = true →
    ∃ other ∈ others, other.method = route.method ∧ accepts (declaredTemplate other) path = true ∧
      ¬ MoreGeneral (declaredTemplate other) (declaredTemplate route)

/-- No emitted route overlaps a declared one, and no declared route comes after a more
general one of its method, unless the routes before that one leave it no path. -/
structure Unshadowed (table : CharTable) (plan : Plan) : Prop where
  emitted : ∀ route ∈ planRoutes plan, ∀ crud ∈ emittedRoutes table plan, crud.1 = route.method →
    overlaps crud.2 (declaredTemplate route) = false
  declared : ∀ before general between route after,
    planRoutes plan = before ++ general :: between ++ route :: after → general.method = route.method →
      MoreGeneral (declaredTemplate general) (declaredTemplate route) → Exhausted before route

theorem not_moreGeneral_self (template : Template) : ¬ MoreGeneral template template := by
  rintro ⟨-, path, fits, misses⟩
  rw [fits] at misses
  cases misses

variable {table : CharTable} {plan : Plan} {path : List Char}

/-- A request that no emitted route serves goes to the first declared route that does. -/
theorem dispatch_declared {method : Method}
    (missed : ∀ crud ∈ emittedRoutes table plan, crud.1 = method → accepts crud.2 path = false) :
    dispatch table plan method path =
      ((planRoutes plan).find? fun route =>
        route.method == method && accepts (declaredTemplate route) path).map .declared := by
  have none : ((emittedRoutes table plan).map fun route => Registered.emitted route.1 route.2).find?
      (Registered.serves method path) = none := by
    refine List.find?_eq_none.mpr fun served member => ?_
    obtain ⟨crud, listed, rfl⟩ := List.mem_map.mp member
    intro fits
    simp only [Registered.serves, Bool.and_eq_true, beq_iff_eq] at fits
    rw [missed crud listed fits.1] at fits
    cases fits.2
  rw [dispatch, registration, List.find?_append, none, Option.none_or, List.find?_map]
  rfl

theorem dispatch_emitted {method : Method}
    {crud : Method × Template} (listed : crud ∈ emittedRoutes table plan) (same : crud.1 = method)
    (fits : accepts crud.2 path = true) :
    ∃ served template, dispatch table plan method path = some (.emitted served template) := by
  have present : (((emittedRoutes table plan).map fun route => Registered.emitted route.1 route.2).find?
      (Registered.serves method path)).isSome = true := by
    rw [List.find?_isSome]
    exact ⟨_, List.mem_map_of_mem listed, by simp [Registered.serves, same, fits]⟩
  obtain ⟨found, taken⟩ := Option.isSome_iff_exists.mp present
  obtain ⟨route, -, rfl⟩ := List.mem_map.mp (List.mem_of_find?_eq_some taken)
  exact ⟨route.1, route.2, by rw [dispatch, registration, List.find?_append, taken, Option.some_or]⟩

/-- Without an overlap, a path of a declared route is served by declared routes only. -/
theorem unserved_of_disjoint {route : DeclaredRoute} (fits : accepts (declaredTemplate route) path = true)
    (disjoint : ∀ crud ∈ emittedRoutes table plan, crud.1 = route.method →
      overlaps crud.2 (declaredTemplate route) = false) :
    ∀ crud ∈ emittedRoutes table plan, crud.1 = route.method → accepts crud.2 path = false := by
  intro crud emitted method
  by_contra fitsCrud
  have overlapping := (overlaps_iff crud.2 (declaredTemplate route)).mpr
    ⟨path, by simpa using fitsCrud, fits⟩
  rw [disjoint crud emitted method] at overlapping
  cases overlapping

theorem dispatchedAsDeclared_iff (table : CharTable) (plan : Plan) :
    DispatchedAsDeclared table plan ↔ Unshadowed table plan := by
  constructor
  · intro dispatched
    have disjoint : ∀ route ∈ planRoutes plan, ∀ crud ∈ emittedRoutes table plan,
        crud.1 = route.method → overlaps crud.2 (declaredTemplate route) = false := by
      intro route listed crud emitted same
      by_contra overlapping
      obtain ⟨path, fitsCrud, fits⟩ := (overlaps_iff crud.2 (declaredTemplate route)).mp
        (by simpa using overlapping)
      obtain ⟨_, _, taken⟩ := dispatch_emitted emitted same fitsCrud
      obtain ⟨target, reached, -⟩ := dispatched route listed path fits
      rw [taken] at reached
      cases reached
    refine ⟨disjoint, ?_⟩
    intro before general between route after order same wider path fits
    have listed : route ∈ planRoutes plan := by simp [order]
    obtain ⟨target, reached, acceptable⟩ := dispatched route listed path fits
    have narrow : ¬ MoreGeneral (declaredTemplate target) (declaredTemplate route) := by
      rcases acceptable with rfl | ⟨-, -, narrow⟩
      · exact not_moreGeneral_self _
      · exact narrow
    rw [dispatch_declared (unserved_of_disjoint fits (disjoint route listed)), order, List.append_assoc,
      List.find?_append] at reached
    cases early : before.find? fun other =>
        other.method == route.method && accepts (declaredTemplate other) path with
    | none =>
        have taken : general = target := by
          simpa [early, same, wider.1 path fits] using reached
        exact absurd (taken ▸ wider) narrow
    | some other =>
        have taken : other = target := by simpa [early] using reached
        have serves := List.find?_some early
        simp only [Bool.and_eq_true, beq_iff_eq] at serves
        exact ⟨other, List.mem_of_find?_eq_some early, serves.1, serves.2, taken ▸ narrow⟩
  · intro unshadowed route listed path fits
    rw [dispatch_declared (unserved_of_disjoint fits (unshadowed.emitted route listed))]
    have served : ((planRoutes plan).find? fun other =>
        other.method == route.method && accepts (declaredTemplate other) path).isSome = true :=
      List.find?_isSome.mpr ⟨route, listed, by simp [fits]⟩
    obtain ⟨target, found⟩ := Option.isSome_iff_exists.mp served
    refine ⟨target, by rw [found]; rfl, ?_⟩
    obtain ⟨serves, before, after, order, skipped⟩ := List.find?_eq_some_iff_append.mp found
    simp only [Bool.and_eq_true, beq_iff_eq] at serves
    by_cases self : target = route
    · exact .inl self
    · refine .inr ⟨serves.1, serves.2, fun wider => ?_⟩
      -- The route stands after the one that was taken, so the routes in between are known.
      have later : route ∈ after := by
        rw [order] at listed
        rcases List.mem_append.mp listed with early | rest
        · have missed := skipped route early
          simp [fits] at missed
        · exact (List.mem_cons.mp rest).resolve_left (Ne.symm self)
      obtain ⟨between, last, rfl⟩ := List.append_of_mem later
      obtain ⟨other, early, same, taken, -⟩ :=
        unshadowed.declared before target between route last (by simp [order]) serves.1 wider path fits
      have missed := skipped other early
      simp [same, taken] at missed

def userService : Service where
  id := "service:users"
  name := "Users"
  dataModels := [⟨"dm:user", "user", none⟩]

/-- A declared read of the active users beside the CRUD routes of the user entity. -/
def activeUsersPlan : Plan where
  planId := "plan:0"
  isrId := "users"
  services := [userService]
  dataModels := [⟨"dm:user", "user", none⟩]
  apis := [{ id := "api:active", name := "Active", serviceId := some "service:users"
             behavior := some { operationId := "active", method := .get, path := "/api/users/active" } }]

theorem active_users_captured :
    Accepts asciiTable activeUsersPlan ∧ ¬ DispatchedAsDeclared asciiTable activeUsersPlan := by
  refine ⟨rfl, fun dispatched => ?_⟩
  have listed : ∃ route ∈ planRoutes activeUsersPlan, route.path = "/api/users/active" ∧ route.method = .get :=
    ⟨_, List.mem_singleton.mpr rfl, rfl, rfl⟩
  obtain ⟨route, member, path, method⟩ := listed
  obtain ⟨target, reached, -⟩ := dispatched route member "/api/users/active".toList
    (by rw [declaredTemplate, path]; decide)
  rw [method] at reached
  have captured : ∃ template, dispatch asciiTable activeUsersPlan .get "/api/users/active".toList =
      some (.emitted .get template) := ⟨_, rfl⟩
  obtain ⟨template, taken⟩ := captured
  rw [taken] at reached
  cases reached

end AutonomousApi.RouteDispatch
