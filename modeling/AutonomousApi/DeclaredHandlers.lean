import AutonomousApi.JsonText
import AutonomousApi.ResourceKeys

/-! The handlers of the declared operations (`_declared_apis` of compiler/backends/python_fastapi.py). The emitted
module defines one function for each operation and binds it by name, so a later definition of a name replaces an
earlier one; classes are named apart first. The fixed part of a name is ascii, so two names are one identifier when
the parts that come from labels are. -/

namespace AutonomousApi.DeclaredHandlers

open JsonValue IsrBehavior CompilationPlan OrderedMap PythonText DeclaredApi Naming
  FastApiBackend RouteDispatch ResourceKeys

section

/-- What Python makes of names and of constraint values: which names are identifiers and no keywords, the form in
which identifiers are compared, and `int()` and `str()`. -/
structure Python where
  identifier : String → Bool
  normal : String → String
  int : Json → Int
  str : Json → String

def candidate (base : String) : Nat → String
  | 0 => base
  | index + 1 => base ++ toString (index + 2)

/-- The first candidate that is not used. -/
def freshFrom (used : List String) (base : String) : Nat → Nat → String
  | 0, index => candidate base index
  | fuel + 1, index =>
      if candidate base index ∈ used then freshFrom used base fuel (index + 1) else candidate base index

/-- Among one more candidates than there are used names one is free. -/
def freshName (used : List String) (base : String) : String := freshFrom used base used.length 0

variable (table : CharTable)

def declaredNamesFrom (used : List String) : List DeclaredRoute → List String
  | [] => []
  | route :: rest =>
      let name := freshName used (clsName table (slug table route.operation.name))
      name :: declaredNamesFrom (name :: used) rest

def declaredNames (routes : List DeclaredRoute) : List String := declaredNamesFrom table [] routes

end

section

inductive TypeName where
  | str | int | decimal | bool
  deriving DecidableEq

def declaredAnnotations : ValueType → TypeName
  | .string | .identifier | .date | .datetime => .str
  | .integer => .int
  | .decimal | .money => .decimal
  | .boolean => .bool

inductive ConstraintArg where
  | maxDigits (digits : Nat)
  | decimalPlaces (places : Nat)
  | ge (bound : Json)
  | le (bound : Json)
  | minLength (length : Int)
  | maxLength (length : Int)
  | pattern (pattern : String)
  deriving DecidableEq

variable (python : Python)

def constraintArg (constraint : FieldConstraint) : Option ConstraintArg :=
  match constraint.operator with
  | .min => some (.ge constraint.value)
  | .max => some (.le constraint.value)
  | .minLength => some (.minLength (python.int constraint.value))
  | .maxLength => some (.maxLength (python.int constraint.value))
  | .pattern => some (.pattern (python.str constraint.value))
  | _ => none

def declaredConstraintArgs (field : FieldSpec) : List ConstraintArg :=
  (if field.valueType = .decimal ∨ field.valueType = .money then
    (field.precision.map ConstraintArg.maxDigits).toList ++ (field.scale.map ConstraintArg.decimalPlaces).toList
  else []) ++ field.constraints.filterMap (constraintArg python)

/-- A line of a model class: the field, its annotation, whether `None` is added and the default, and the arguments. -/
structure ModelLine where
  name : String
  typeName : TypeName
  optional : Bool
  args : List ConstraintArg
  deriving DecidableEq

def declaredModel (fields : List FieldSpec) : List ModelLine :=
  fields.map fun field => ⟨field.name, declaredAnnotations field.valueType, field.nullable || !field.required,
    declaredConstraintArgs python field⟩

/-- The repository call in the body of a handler. -/
inductive Access where
  | get | list | create
  | update (merge : Bool)
  | delete
  deriving DecidableEq

/-- The types of the parameters of a handler: a path field, or the request class of a base name. -/
inductive ParameterType where
  | path (typeName : TypeName)
  | request (base : String)
  deriving DecidableEq

/-- A function of the emitted module. `pathArgument` is read by name, and `body` where the call takes a payload. -/
structure Handler where
  parameters : List (String × ParameterType)
  access : Access
  module : String
  pathArgument : Option String
  names : List String
  deriving DecidableEq

def Access.takesPayload : Access → Bool
  | .create | .update _ => true
  | _ => false

/-- The call and the path field that each method leads to. -/
def declaredAccess (route : DeclaredRoute) : Access × Option FieldSpec :=
  match route.method with
  | .get => match route.pathFields with
    | field :: _ => (.get, some field)
    | [] => (.list, none)
  | .post => (.create, none)
  | .put => (.update false, route.pathFields.head?)
  | .patch => (.update true, route.pathFields.head?)
  | .delete => (.delete, route.pathFields.head?)

variable (table : CharTable)

def declaredHandler (route : DeclaredRoute) (base : String) : Handler where
  parameters := (route.pathFields.map fun field => (field.name, .path (declaredAnnotations field.valueType))) ++
    if route.bodyFields.isEmpty then [] else [("body", .request base)]
  access := (declaredAccess route).1
  module := resourceModule table route
  pathArgument := (declaredAccess route).2.map FieldSpec.name
  names := route.responseFields.map FieldSpec.name

variable (routes : List DeclaredRoute)

/-- The routes with the base names of their classes. -/
def entries : List (DeclaredRoute × String) := routes.zip (declaredNames table routes)

/-- The last of some definitions under a name. -/
def lastNamed {Definition : Type} (name : Definition → String) (definitions : List Definition) (wanted : String) :
    Option Definition :=
  definitions.reverse.find? fun definition => python.normal (name definition) == python.normal wanted

def handlerName (entry : DeclaredRoute × String) : String := slug table entry.1.operation.name

/-- The function that `register_declared_routes` finds under the handler name of a route. -/
def boundHandler (route : DeclaredRoute) : Option Handler :=
  (lastNamed python (handlerName table) (entries table routes) (slug table route.operation.name)).map fun entry =>
    declaredHandler table entry.1 entry.2

/-- The request classes. -/
def requestClasses : List (DeclaredRoute × String) :=
  (entries table routes).filter fun entry => !entry.1.bodyFields.isEmpty

/-- The request class that an annotation refers to. -/
def boundRequest (base : String) : Option (List ModelLine) :=
  (lastNamed python Prod.snd (requestClasses table routes) base).map fun entry =>
    declaredModel python entry.1.bodyFields

/-- What a call of a function does: which repository it opens and how, and what it reads of the request. -/
structure Behaviour where
  access : Access
  module : String
  path : Option (String × TypeName)
  body : Option (List ModelLine)
  names : List String
  deriving DecidableEq

/-- Nothing where a name is not bound, or to another kind of value. -/
def Handler.path (handler : Handler) : Option (Option (String × TypeName)) :=
  match handler.pathArgument with
  | none => some none
  | some name => match get handler.parameters name with
    | some (.path typeName) => some (some (name, typeName))
    | _ => none

def Handler.body (handler : Handler) : Option (Option (List ModelLine)) :=
  if handler.access.takesPayload then
    match get handler.parameters "body" with
    | some (.request base) => (boundRequest python table routes base).map some
    | _ => none
  else some none

def Handler.behaviour (handler : Handler) : Option Behaviour :=
  match handler.path, handler.body python table routes with
  | some path, some body => some ⟨handler.access, handler.module, path, body, handler.names⟩
  | _, _ => none

def pathOf (route : DeclaredRoute) : Option (String × TypeName) :=
  (declaredAccess route).2.map fun field => (field.name, declaredAnnotations field.valueType)

/-- What the operation of a route is to do. -/
def intended (route : DeclaredRoute) : Behaviour where
  access := (declaredAccess route).1
  module := resourceModule table route
  path := pathOf route
  body := if (declaredAccess route).1.takesPayload then some (declaredModel python route.bodyFields) else none
  names := route.responseFields.map FieldSpec.name

/-- The module is Python: names are identifiers, and no function has a parameter twice. -/
structure Compiles : Prop where
  handlers : ∀ entry ∈ entries table routes, python.identifier ("_declared_" ++ handlerName table entry) = true
  requests : ∀ entry ∈ requestClasses table routes, python.identifier (entry.2 ++ "Request") = true
  responses : ∀ entry ∈ entries table routes, entry.1.responseFields ≠ [] →
    python.identifier (entry.2 ++ "Response") = true
  fields : ∀ route ∈ routes, ∀ field ∈ route.pathFields ++ route.bodyFields ++ route.responseFields,
    python.identifier field.name = true
  parameters : ∀ entry ∈ entries table routes, (keys (declaredHandler table entry.1 entry.2).parameters).Nodup

/-- Every route is registered with a function that does what its operation is to do. -/
structure Serves : Prop where
  compiled : Compiles python table routes
  served : ∀ route ∈ routes, ∃ handler, boundHandler python table routes route = some handler ∧
    handler.behaviour python table routes = some (intended python table route)

/-- Operations that take a payload have fields for it, and the last operation with a handler name does what every
operation with that name is to do. -/
structure Unconfused : Prop where
  compiled : Compiles python table routes
  bodied : ∀ route ∈ routes, (declaredAccess route).1.takesPayload = true → route.bodyFields ≠ []
  alike : ∀ route ∈ routes, ∀ last base,
    lastNamed python (handlerName table) (entries table routes) (slug table route.operation.name) = some (last, base) →
      (declaredAccess last).1 = (declaredAccess route).1 ∧
      resourceModule table last = resourceModule table route ∧ pathOf last = pathOf route ∧
      last.responseFields.map FieldSpec.name = route.responseFields.map FieldSpec.name ∧
      ((declaredAccess route).1.takesPayload = true →
        boundRequest python table routes base = some (declaredModel python route.bodyFields))

theorem toString_toList (index : Nat) : (toString index).toList = Nat.toDigits 10 index := by
  rw [Nat.toString_eq_repr, Nat.toList_repr]

theorem candidate_injective (base : String) : Function.Injective (candidate base) := by
  have longer (index : Nat) : base ≠ base ++ toString index := by
    intro same
    have lists := congrArg String.toList same
    rw [String.toList_append, toString_toList] at lists
    exact Nat.toDigits_ne_nil (List.self_eq_append_right.mp lists)
  intro left right same
  cases left with
  | zero =>
      cases right with
      | zero => rfl
      | succ index => exact absurd same (longer _)
  | succ index =>
      cases right with
      | zero => exact absurd same.symm (longer _)
      | succ other =>
          have numerals : toString (index + 2) = toString (other + 2) := (String.append_right_inj base).mp same
          have digits := congrArg String.toList numerals
          rw [toString_toList, toString_toList] at digits
          have read := congrArg PythonLiteral.readNatural digits
          rw [JsonText.readNatural_toDigits, JsonText.readNatural_toDigits] at read
          have same := Option.some.inj read
          omega

/-- Where the loop ends with a used name, it has seen that many used candidates. -/
theorem freshFrom_unused {used : List String} {base : String} {fuel index : Nat}
    (taken : freshFrom used base fuel index ∈ used) :
    ∀ offset, offset ≤ fuel → candidate base (index + offset) ∈ used := by
  induction fuel generalizing index with
  | zero =>
      intro offset bound
      rw [Nat.le_zero.mp bound]
      exact taken
  | succ fuel ih =>
      rw [freshFrom] at taken
      by_cases here : candidate base index ∈ used
      · rw [if_pos here] at taken
        intro offset bound
        cases offset with
        | zero => exact here
        | succ offset =>
            have later := ih taken offset (by omega)
            rwa [Nat.add_right_comm] at later
      · rw [if_neg here] at taken
        exact absurd taken here

theorem freshName_unused (used : List String) (base : String) : freshName used base ∉ used := by
  intro taken
  have seen := freshFrom_unused taken
  have distinct : ((List.range (used.length + 1)).map (candidate base)).Nodup :=
    List.nodup_range.map (candidate_injective base)
  have inside : (List.range (used.length + 1)).map (candidate base) ⊆ used := by
    intro name member
    obtain ⟨offset, bound, rfl⟩ := List.mem_map.mp member
    have named := seen offset (by have := List.mem_range.mp bound; omega)
    rwa [Nat.zero_add] at named
  -- one more distinct name than there are used ones
  have count := (List.subperm_of_subset distinct inside).length_le
  rw [List.length_map, List.length_range] at count
  omega

theorem declaredNamesFrom_fresh (used : List String) (routes : List DeclaredRoute) :
    (declaredNamesFrom table used routes).Nodup ∧ ∀ name ∈ declaredNamesFrom table used routes, name ∉ used := by
  induction routes generalizing used with
  | nil => exact ⟨List.nodup_nil, by simp [declaredNamesFrom]⟩
  | cons route rest ih =>
      rw [declaredNamesFrom]
      obtain ⟨distinct, fresh⟩ := ih (freshName used (clsName table (slug table route.operation.name)) :: used)
      refine ⟨List.nodup_cons.mpr ⟨fun member => fresh _ member List.mem_cons_self, distinct⟩, ?_⟩
      intro name member
      rcases List.mem_cons.mp member with rfl | later
      · exact freshName_unused used _
      · exact fun taken => fresh name later (List.mem_cons_of_mem _ taken)

/-- The classes of two operations never share a name. -/
theorem declaredNames_nodup (routes : List DeclaredRoute) : (declaredNames table routes).Nodup :=
  (declaredNamesFrom_fresh table [] routes).1

theorem declaredNames_length (routes : List DeclaredRoute) : (declaredNames table routes).length = routes.length := by
  have lengths (used : List String) : (declaredNamesFrom table used routes).length = routes.length := by
    induction routes generalizing used with
    | nil => rfl
    | cons route rest ih => rw [declaredNamesFrom, List.length_cons, ih, List.length_cons]
  exact lengths []

end

variable {python : Python} {table : CharTable} {routes : List DeclaredRoute} {route : DeclaredRoute} {base : String}

theorem mem_entries (entry : DeclaredRoute × String) (listed : entry ∈ entries table routes) : entry.1 ∈ routes :=
  (List.of_mem_zip listed).1

theorem exists_entry (listed : route ∈ routes) : ∃ base, (route, base) ∈ entries table routes := by
  have routesOf : (entries table routes).map Prod.fst = routes :=
    List.map_fst_zip (declaredNames_length table routes).ge
  rw [← routesOf] at listed
  obtain ⟨⟨_, base⟩, member, rfl⟩ := List.mem_map.mp listed
  exact ⟨base, member⟩

/-- A function is found under the name of every route, and it is one of an operation with that name. -/
theorem lastNamed_entry (listed : route ∈ routes) :
    ∃ last ∈ entries table routes,
      lastNamed python (handlerName table) (entries table routes) (slug table route.operation.name) = some last := by
  obtain ⟨base, member⟩ := @exists_entry table _ _ listed
  have found : (lastNamed python (handlerName table) (entries table routes)
      (slug table route.operation.name)).isSome = true := by
    rw [lastNamed, List.find?_isSome]
    exact ⟨_, List.mem_reverse.mpr member, beq_self_eq_true _⟩
  obtain ⟨last, found⟩ := Option.isSome_iff_exists.mp found
  exact ⟨last, List.mem_reverse.mp (List.mem_of_find?_eq_some found), found⟩

/-- The path field of a call is a parameter of the function. -/
theorem handler_path (route : DeclaredRoute) (base : String) :
    (declaredHandler table route base).path = some (pathOf route) := by
  have shape : (declaredAccess route).2 = none ∨
      ∃ field rest, route.pathFields = field :: rest ∧ (declaredAccess route).2 = some field := by
    rw [declaredAccess]
    cases route.method <;> cases fields : route.pathFields <;> simp
  rw [Handler.path, pathOf]
  rcases shape with absent | ⟨field, rest, fields, present⟩
  · simp [declaredHandler, absent]
  · simp [declaredHandler, present, fields, OrderedMap.get]

/-- The payload parameter of a function that compiles. -/
theorem handler_payload (distinct : (keys (declaredHandler table route base).parameters).Nodup)
    (bodied : route.bodyFields ≠ []) :
    get (declaredHandler table route base).parameters "body" = some (.request base) := by
  apply get_of_mem distinct
  have filled : route.bodyFields.isEmpty = false := by simpa using bodied
  rw [declaredHandler, filled]
  exact List.mem_append_right _ (List.mem_singleton_self _)

/-- A function without payload fields has no such parameter. -/
theorem handler_unbodied (empty : route.bodyFields = []) (other : String) :
    get (declaredHandler table route base).parameters "body" ≠ some (.request other) := by
  intro found
  have member := mem_of_get found
  rw [declaredHandler, empty] at member
  rcases List.mem_append.mp member with path | none
  · obtain ⟨field, _, same⟩ := List.mem_map.mp path
    have kinds := congrArg Prod.snd same
    cases kinds
  · cases none

theorem handler_behaviour (compiled : Compiles python table routes) (listed : (route, base) ∈ entries table routes)
    (behaviour : Behaviour) :
    (declaredHandler table route base).behaviour python table routes = some behaviour ↔
      (declaredAccess route).1 = behaviour.access ∧ resourceModule table route = behaviour.module ∧
      pathOf route = behaviour.path ∧ route.responseFields.map FieldSpec.name = behaviour.names ∧
      if (declaredAccess route).1.takesPayload then
        route.bodyFields ≠ [] ∧ (boundRequest python table routes base).map some = some behaviour.body
      else behaviour.body = none := by
  have distinct := compiled.parameters (route, base) listed
  have body : (declaredHandler table route base).body python table routes =
      if (declaredAccess route).1.takesPayload then
        if route.bodyFields = [] then none else (boundRequest python table routes base).map some
      else some none := by
    rw [Handler.body]
    change (if (declaredAccess route).1.takesPayload = true then _ else _) = _
    by_cases payload : (declaredAccess route).1.takesPayload = true
    · rw [if_pos payload, if_pos payload]
      by_cases empty : route.bodyFields = []
      · rw [if_pos empty]
        split
        · rename_i other found
          exact absurd found (handler_unbodied empty other)
        · rfl
      · rw [if_neg empty, handler_payload distinct empty]
    · rw [if_neg payload, if_neg payload]
  rw [Handler.behaviour, handler_path, body]
  obtain ⟨access, module, path, payload, names⟩ := behaviour
  by_cases takes : (declaredAccess route).1.takesPayload = true
  · rw [if_pos takes, if_pos takes]
    by_cases empty : route.bodyFields = []
    · simp [empty]
    · rw [if_neg empty]
      cases found : boundRequest python table routes base with
      | none => simp
      | some lines =>
          simp only [Option.map_some, Option.some.injEq, Behaviour.mk.injEq]
          simp only [declaredHandler, ne_eq, empty, not_false_eq_true, true_and]
          tauto
  · rw [if_neg takes, if_neg takes]
    simp only [Option.some.injEq, Behaviour.mk.injEq]
    simp only [declaredHandler]
    constructor
    · rintro ⟨rfl, rfl, rfl, rfl, rfl⟩
      exact ⟨rfl, rfl, rfl, rfl, rfl⟩
    · rintro ⟨rfl, rfl, rfl, rfl, rfl⟩
      exact ⟨rfl, rfl, rfl, rfl, rfl⟩

theorem intended_body (payload : (declaredAccess route).1.takesPayload = true) :
    (intended python table route).body = some (declaredModel python route.bodyFields) := if_pos payload

theorem boundRequest_ne_nil {lines : List ModelLine} (bound : boundRequest python table routes base = some lines) :
    lines ≠ [] := by
  obtain ⟨entry, found, rfl⟩ := Option.map_eq_some_iff.mp bound
  have member := (List.mem_filter.mp (List.mem_reverse.mp (List.mem_of_find?_eq_some found))).2
  intro empty
  rw [List.map_eq_nil_iff.mp empty] at member
  cases member

/-- What the function of a route is, in terms of the operation it was made of. -/
theorem served_by (serves : Serves python table routes) (listed : route ∈ routes) {last : DeclaredRoute}
    (found : lastNamed python (handlerName table) (entries table routes) (slug table route.operation.name) =
      some (last, base)) :
    (declaredAccess last).1 = (declaredAccess route).1 ∧ resourceModule table last = resourceModule table route ∧
      pathOf last = pathOf route ∧
      last.responseFields.map FieldSpec.name = route.responseFields.map FieldSpec.name ∧
      ((declaredAccess route).1.takesPayload = true →
        boundRequest python table routes base = some (declaredModel python route.bodyFields)) := by
  have member := List.mem_reverse.mp (List.mem_of_find?_eq_some found)
  obtain ⟨handler, bound, behaves⟩ := serves.served route listed
  rw [boundHandler, found, Option.map_some, Option.some.injEq] at bound
  rw [← bound, handler_behaviour serves.compiled member] at behaves
  obtain ⟨access, module, path, names, body⟩ := behaves
  have access : (declaredAccess last).1 = (declaredAccess route).1 := access
  refine ⟨access, module, path, names, fun payload => ?_⟩
  rw [access, if_pos payload, intended_body payload] at body
  obtain ⟨lines, request, same⟩ := Option.map_eq_some_iff.mp body.2
  rw [request, Option.some.inj same]

/-- Every route is served by the function of its own operation exactly when names are not confused. -/
theorem serves_iff_unconfused (python : Python) (table : CharTable) (plan : Plan) :
    (declaredNames table (planRoutes plan)).Nodup ∧
      (Serves python table (planRoutes plan) ↔ Unconfused python table (planRoutes plan)) := by
  refine ⟨declaredNames_nodup table _, ?_⟩
  constructor
  · intro serves
    refine ⟨serves.compiled, ?_, fun route listed last base found => served_by serves listed found⟩
    intro route listed payload empty
    obtain ⟨⟨last, base⟩, _, found⟩ := @lastNamed_entry python table _ _ listed
    have request := (served_by serves listed found).2.2.2.2 payload
    rw [empty] at request
    exact boundRequest_ne_nil request rfl
  · intro unconfused
    refine ⟨unconfused.compiled, fun route listed => ?_⟩
    obtain ⟨⟨last, base⟩, member, found⟩ := @lastNamed_entry python table _ _ listed
    obtain ⟨access, module, path, names, request⟩ := unconfused.alike route listed last base found
    refine ⟨declaredHandler table last base, by rw [boundHandler, found]; rfl, ?_⟩
    apply (handler_behaviour unconfused.compiled member _).mpr
    refine ⟨access, module, path, names, ?_⟩
    rw [access]
    by_cases payload : (declaredAccess route).1.takesPayload = true
    · rw [if_pos payload, intended_body payload, request payload]
      exact ⟨unconfused.bodied last (mem_entries _ member) (by rw [access]; exact payload), rfl⟩
    · rw [if_neg payload]
      exact if_neg payload

def crewService : Service where
  id := "service:crew"
  name := "Crew"
  dataModels := [⟨"dm:pilot", "pilot", none⟩]

def fleetService : Service where
  id := "service:fleet"
  name := "Fleet"
  dataModels := [⟨"dm:plane", "plane", none⟩]

def listOperation (id service path : String) (rooted : path.toList.head? = some '/')
    (bound : validatePathParameters path [] = true) : ApiOperation where
  id := id
  name := "List"
  serviceId := some service
  behavior := some { operationId := id, method := .get, path := path, rooted := rooted, bound := bound }

/-- Two services, each with an operation labelled "List". -/
def listsPlan : Plan where
  planId := "plan:0"
  isrId := "lists"
  services := [crewService, fleetService]
  dataModels := [⟨"dm:pilot", "pilot", none⟩, ⟨"dm:plane", "plane", none⟩]
  apis := [listOperation "api:crew" "service:crew" "/crew" (by decide) (by decide),
    listOperation "api:fleet" "service:fleet" "/fleet" (by decide) (by decide)]

def plainPython : Python := ⟨fun _ => true, id, fun _ => 0, fun _ => ""⟩

/-- Both routes are served by the second function, which lists the planes. -/
theorem lists_confused :
    Accepts asciiTable listsPlan ∧ ¬ Serves plainPython asciiTable (planRoutes listsPlan) := by
  refine ⟨rfl, fun serves => ?_⟩
  have bound : ∀ route ∈ planRoutes listsPlan,
      (boundHandler plainPython asciiTable (planRoutes listsPlan) route).map Handler.module =
        some (resourceModule asciiTable route) := by
    intro route listed
    obtain ⟨⟨last, base⟩, _, found⟩ := @lastNamed_entry plainPython asciiTable _ _ listed
    rw [boundHandler, found, ← (served_by serves listed found).2.1]
    rfl
  revert bound
  decide

end AutonomousApi.DeclaredHandlers
