import AutonomousApi.DeclaredHandlers

/-! What a declared PATCH does to the record it finds. The body goes through the request class of the operation,
whose optional fields default to `None`, and is dumped in full; `_update` then writes every dumped field over the
record. Names of fields are ascii, so the attributes of a request class are the names of the fields. -/

namespace AutonomousApi.PatchHandlers

open JsonValue IsrBehavior CompilationPlan OrderedMap FailFast PythonText DeclaredApi
  RouteDispatch DeclaredHandlers ResourceKeys GeneratedStores

section

/-- A request class: its fields, each with the line that defines it last. -/
abbrev RequestModel := Dict String ModelLine

def requestModel (python : Python) (route : DeclaredRoute) : Option RequestModel :=
  if route.bodyFields.isEmpty then none
  else some (assignAll [] ((declaredModel python route.bodyFields).map fun line => (line.name, line)))

/-- What pydantic makes of a value under the line of a field: the dumped value, or nothing where it refuses. -/
abbrev Pydantic := ModelLine → Json → Option Json

variable (pydantic : Pydantic)

/-- A field of the body, or the default: `None` where the field is optional. -/
def dumpedValue (body : Record) (name : String) (line : ModelLine) : Option Json :=
  match get body name with
  | some supplied => pydantic line supplied
  | none => if line.optional then some .null else none

def dumpFields (body : Record) : RequestModel → Option Record
  | [] => some []
  | (name, line) :: rest =>
      match dumpedValue pydantic body name line, dumpFields body rest with
      | some value, some others => some ((name, value) :: others)
      | _, _ => none

/-- `model_dump(mode='json')` of a body that the class accepts; other fields than its own are forbidden. -/
def modelDump (model : RequestModel) (body : Record) : Option Record :=
  if (keys body).all fun name => (get model name).isSome then dumpFields pydantic body model else none

inductive Response where
  | ok (record : Record)
  | notFound (detail : String)
  | unprocessable
  | crashed (exception : String)
  deriving DecidableEq

/-- `_project` -/
def project (record : Record) (names : List String) : Record :=
  if names.isEmpty then record else assignAll [] (names.map fun name => (name, (get record name).getD .null))

/-- `InMemoryRepository.find`, with the comparison to the value from the path. -/
def find (repository : InMemoryRepository) (field : String) (equals : Json → Bool) : Option Record :=
  repository.records.find? fun record => equals ((get record field).getD .null)

/-- `_update` -/
def update (registry : Registry) (module field : String) (equals : Json → Bool) (payload : Record)
    (names : List String) (merge : Bool) : Registry × Response :=
  match find (repositoryFor registry module) field equals with
  | none => (registry, .notFound (module ++ " not found"))
  | some existing =>
      match get existing "id" with
      | none => (registry, .crashed "KeyError")
      | some itemId =>
          let operation := .update itemId (if merge then assignAll existing payload else payload)
          let response := match ((repositoryFor registry module).step operation).2 with
            | .record record => .ok (project record names)
            | .missing => .notFound (module ++ " not found")
            | _ => .crashed "TypeError"
          (serve registry module operation, response)

variable (python : Python) (table : CharTable)

/-- The handler of a PUT or PATCH. Without fields for a body there is no request class, and `body` is not bound. -/
def declaredUpdate (route : DeclaredRoute) (registry : Registry) (equals : Json → Bool) (body : Record) :
    Registry × Response :=
  match requestModel python route, route.pathFields with
  | some model, field :: _ =>
      match modelDump pydantic model body with
      | none => (registry, .unprocessable)
      | some payload =>
          update registry (resourceModule table route) field.name equals payload
            (route.responseFields.map FieldSpec.name) (route.method = .patch)
  | _, _ => (registry, .crashed "NameError")

/-- The repositories after some operations on them. -/
def registryAfter (calls : List (String × Operation Json)) : Registry :=
  calls.foldl (fun registry call => serve registry call.1 call.2) []

/-- What a PATCH is to do to a record: what is not supplied stays, what is supplied is taken as the request class
reads it, and the id stays. -/
structure Patched (model : RequestModel) (body before after : Record) : Prop where
  kept : ∀ name ∉ keys body, ∀ value, get before name = some value → get after name = some value
  taken : ∀ name supplied, get body name = some supplied →
    ∃ line, get model name = some line ∧ get after name = pydantic line supplied
  identified : get after "id" = get before "id"

/-- Nothing is lost: the fields of the class that the body leaves out have no value in the record, and an `id` in
the body is the record's. -/
structure Undisturbed (model : RequestModel) (body before : Record) : Prop where
  omitted : ∀ name ∈ keys model, name ∉ keys body → name ≠ "id" → ∀ value, get before name = some value →
    value = .null
  identified : ∀ line supplied, get model "id" = some line → get body "id" = some supplied →
    pydantic line supplied = get before "id"

end

section

variable {pydantic : Pydantic} {model : RequestModel} {body payload : Record}

theorem dumpFields_some (dumped : dumpFields pydantic body model = some payload) :
    keys payload = keys model ∧
      (∀ name, get payload name = (get model name).bind (dumpedValue pydantic body name)) ∧
      ∀ entry ∈ model, (dumpedValue pydantic body entry.1 entry.2).isSome = true := by
  induction model generalizing payload with
  | nil =>
      cases dumped
      exact ⟨rfl, fun _ => rfl, fun _ member => nomatch member⟩
  | cons entry rest ih =>
      obtain ⟨name, line⟩ := entry
      rw [dumpFields] at dumped
      split at dumped
      · rename_i value others here later
        cases dumped
        obtain ⟨aligned, found, all⟩ := ih later
        refine ⟨congrArg (name :: ·) aligned, ?_, ?_⟩
        · intro wanted
          by_cases hit : name = wanted
          · subst hit
            simp only [OrderedMap.get, if_true, Option.bind_some, here]
          · simp only [OrderedMap.get, if_neg hit]
            exact found wanted
        · intro other member
          rcases List.mem_cons.mp member with rfl | inside
          · rw [here]
            rfl
          · exact all other inside
      · cases dumped

/-- An accepted body: every field of it is one of the class, every field of the class has a value, and the payload
has these values. -/
theorem modelDump_some (accepted : modelDump pydantic model body = some payload) :
    keys payload = keys model ∧ (∀ name ∈ keys body, ∃ line, get model name = some line) ∧
      ∀ name line, get model name = some line →
        ∃ value, dumpedValue pydantic body name line = some value ∧ get payload name = some value := by
  rw [modelDump] at accepted
  split at accepted
  · rename_i known
    obtain ⟨aligned, found, all⟩ := dumpFields_some accepted
    refine ⟨aligned, ?_, ?_⟩
    · intro name member
      exact Option.isSome_iff_exists.mp (List.all_eq_true.mp known name member)
    · intro name line held
      obtain ⟨value, dumped⟩ := Option.isSome_iff_exists.mp (all (name, line) (mem_of_get held))
      exact ⟨value, dumped, by rw [found, held, Option.bind_some, dumped]⟩
  · cases accepted

variable {repository : InMemoryRepository} {registry : Registry}

/-- Every record has an id. -/
def Identified (repository : InMemoryRepository) : Prop :=
  ∀ record ∈ repository.records, ∃ itemId, get record "id" = some itemId

theorem Identified.assign (identified : Identified repository) (key : DataTree.Tree String PyAtom) {record : Record}
    {itemId : Json} (held : get record "id" = some itemId) (seq : Nat) :
    Identified ⟨OrderedMap.assign repository.items key record, seq⟩ := by
  intro other member
  obtain ⟨entry, inside, rfl⟩ := List.mem_map.mp member
  rcases mem_assign inside with old | new
  · exact identified entry.2 (List.mem_map.mpr ⟨entry, old, rfl⟩)
  · exact ⟨itemId, by rw [new, held]⟩

theorem get_assign_id (payload : Record) (itemId : Json) : get (assign payload "id" itemId) "id" = some itemId := by
  rw [get_assign, if_pos rfl]

theorem Identified.step (identified : Identified repository) (operation : Operation Json) :
    Identified (repository.step operation).1 := by
  cases operation with
  | create payload =>
      simp only [InMemoryRepository.step, InMemoryRepository.create]
      cases held : get payload "id" with
      | none =>
          rw [if_neg (by simp [idOf, held, EvolutionLedger.truthy])]
          exact identified.assign _ (get_assign_id payload _) _
      | some itemId =>
          split
          · split
            · exact identified.assign _ held _
            · exact identified
          · exact identified.assign _ (get_assign_id payload _) _
  | update itemId payload =>
      simp only [InMemoryRepository.step, InMemoryRepository.update]
      split
      · split
        · exact identified.assign _ (get_assign_id payload _) _
        · exact identified
      · exact identified
  | delete itemId =>
      simp only [InMemoryRepository.step, InMemoryRepository.delete]
      split
      · intro record member
        obtain ⟨entry, inside, rfl⟩ := List.mem_map.mp member
        exact identified entry.2 (List.mem_map.mpr ⟨entry, (List.mem_filter.mp inside).1, rfl⟩)
      · exact identified

/-- Every repository keeps its records under their ids. -/
def Sound (registry : Registry) : Prop :=
  ∀ name, (repositoryFor registry name).Keyed ∧ Identified (repositoryFor registry name)

theorem Sound.serve (sound : Sound registry) (name : String) (operation : Operation Json) :
    Sound (serve registry name operation) := by
  intro other
  obtain ⟨keyed, identified⟩ := sound other
  rw [repositoryFor_serve]
  split
  · exact ⟨keyed.step operation, identified.step operation⟩
  · exact ⟨keyed, identified⟩

theorem registryAfter_sound (calls : List (String × Operation Json)) : Sound (registryAfter calls) := by
  induction calls using List.reverseRecOn with
  | nil =>
      exact fun _ => ⟨⟨fun _ member => (nomatch member), fun _ member => (nomatch member), List.nodup_nil⟩,
        fun _ member => (nomatch member)⟩
  | append_singleton earlier call ih =>
      rw [registryAfter, List.foldl_append]
      exact ih.serve call.1 call.2

/-- Writing under the id of a record replaces this record and no other. -/
theorem step_update {existing : Record} {itemId : Json} (keyed : repository.Keyed)
    (stored : existing ∈ repository.records) (held : get existing "id" = some itemId) (payload : Record) :
    ∃ earlier later, repository.records = earlier ++ existing :: later ∧
      (repository.step (.update itemId payload)).1.records = earlier ++ assign payload "id" itemId :: later ∧
      (repository.step (.update itemId payload)).2 = .record (assign payload "id" itemId) := by
  obtain ⟨⟨key, existing⟩, inside, rfl⟩ := List.mem_map.mp stored
  have itself : idOf existing = itemId := by
    rw [idOf, held]
    rfl
  obtain rfl : pyView itemId = key := by rw [← itself]; exact keyed.named _ inside
  have hashed : hashable itemId = true := by rw [← itself]; exact keyed.hashed _ inside
  have present : pyView itemId ∈ keys repository.items := List.mem_map.mpr ⟨_, inside, rfl⟩
  obtain ⟨earlier, old, later, split, written, records, -⟩ := records_split keyed present
  -- keys are unique, so the record under the key is the one that was found
  have found := get_of_mem keyed.unique inside
  have also : get repository.items (pyView itemId) = some old :=
    get_of_mem keyed.unique (by rw [split]; exact List.mem_append_right _ List.mem_cons_self)
  obtain rfl := Option.some.inj (found.symm.trans also)
  refine ⟨earlier.map Prod.snd, later.map Prod.snd, records, ?_, ?_⟩
  · simp only [InMemoryRepository.step, InMemoryRepository.update, if_pos hashed,
      if_pos ((get_isSome_iff _ _).mpr present)]
    rw [InMemoryRepository.records, written, List.map_append]
    rfl
  · simp only [InMemoryRepository.step, InMemoryRepository.update, if_pos hashed,
      if_pos ((get_isSome_iff _ _).mpr present)]

end

variable {pydantic : Pydantic} {model : RequestModel} {body payload existing : Record} {itemId : Json}

/-- The fields of a merged record. -/
theorem get_merged (distinct : (keys payload).Nodup) (name : String) :
    get (assign (assignAll existing payload) "id" itemId) name =
      if "id" = name then some itemId else (get payload name <|> get existing name) := by
  have reversed : (keys payload.reverse).Nodup := by
    rw [keys, List.map_reverse]
    exact List.nodup_reverse.mpr distinct
  rw [get_assign, get_assignAll, get_perm reversed (List.reverse_perm payload)]

/-- A dumped field that was left out is `None`. -/
theorem dumpedValue_omitted {name : String} {line : ModelLine} {value : Json} (omitted : name ∉ keys body)
    (dumped : dumpedValue pydantic body name line = some value) : value = .null := by
  rw [dumpedValue, get_absent omitted] at dumped
  dsimp only at dumped
  split at dumped
  · exact (Option.some.inj dumped).symm
  · cases dumped

theorem patched_iff (distinct : (keys model).Nodup) (accepted : modelDump pydantic model body = some payload)
    (held : get existing "id" = some itemId) :
    Patched pydantic model body existing (assign (assignAll existing payload) "id" itemId) ↔
      Undisturbed pydantic model body existing := by
  obtain ⟨aligned, known, dumped⟩ := modelDump_some accepted
  have merged := @get_merged payload existing itemId (by rwa [aligned])
  have absent {name : String} (outside : name ∉ keys model) : get payload name = none :=
    get_absent (by rwa [aligned])
  constructor
  · intro patched
    refine ⟨?_, ?_⟩
    · intro name inModel omitted other value before
      obtain ⟨line, defined⟩ := Option.isSome_iff_exists.mp ((get_isSome_iff model name).mpr inModel)
      obtain ⟨written, field, found⟩ := dumped name line defined
      -- the record now holds the default, and is to hold what it held
      have after := patched.kept name omitted value before
      rw [merged, if_neg (Ne.symm other), found, dumpedValue_omitted omitted field] at after
      exact (Option.some.inj after).symm
    · intro line supplied defined given
      obtain ⟨line', also, taken⟩ := patched.taken "id" supplied given
      rw [defined] at also
      obtain rfl := Option.some.inj also
      rw [← taken, patched.identified]
  · intro undisturbed
    have identified : get (assign (assignAll existing payload) "id" itemId) "id" = get existing "id" := by
      rw [merged, if_pos rfl, held]
    refine ⟨?_, ?_, identified⟩
    · intro name omitted value before
      by_cases named : "id" = name
      · rw [← named, identified, named, before]
      · rw [merged, if_neg named]
        by_cases inModel : name ∈ keys model
        · obtain ⟨line, defined⟩ := Option.isSome_iff_exists.mp ((get_isSome_iff model name).mpr inModel)
          obtain ⟨written, field, found⟩ := dumped name line defined
          rw [found, dumpedValue_omitted omitted field,
            undisturbed.omitted name inModel omitted (Ne.symm named) value before]
          rfl
        · rw [absent inModel, before]
          rfl
    · intro name supplied given
      have present : name ∈ keys body := (get_isSome_iff body name).mp (by rw [given]; rfl)
      obtain ⟨line, defined⟩ := known name present
      refine ⟨line, defined, ?_⟩
      by_cases named : "id" = name
      · subst named
        rw [identified, undisturbed.identified line supplied defined given]
      · obtain ⟨written, field, found⟩ := dumped name line defined
        have read : pydantic line supplied = some written := by rwa [dumpedValue, given] at field
        rw [merged, if_neg named, found, read]
        rfl

theorem patch_field {plan : Plan} {route : DeclaredRoute} (listed : route ∈ planRoutes plan)
    (patch : route.method = .patch) : ∃ field, route.pathFields = [field] := by
  cases declared : declaredRoutes plan with
  | error fault => simp [planRoutes, declared, Except.toOption] at listed
  | ok routes =>
      rw [planRoutes, declared] at listed
      have shaped := ((declaredRoutes_checked declared).1 route listed).shaped
      obtain ⟨_, _, shaped⟩ := bind_ok shaped
      obtain ⟨_, _, shaped⟩ := bind_ok shaped
      obtain ⟨_, _, shaped⟩ := bind_ok shaped
      obtain ⟨_, _, shaped⟩ := bind_ok shaped
      rw [show route.behavior.method = .patch from patch] at shaped
      obtain ⟨_, single, shaped⟩ := bind_ok shaped
      rw [require_ok_iff, decide_eq_true_iff, (Prod.mk.inj (Except.ok.inj shaped)).1] at single
      exact List.length_eq_one_iff.mp single

/-- A declared PATCH writes to the record that it finds by the path field and to no other, and keeps its id. It does
to this record what a PATCH is to do exactly when nothing is lost. -/
theorem patch_merges_iff (python : Python) (table : CharTable) (pydantic : Pydantic) (plan : Plan)
    (route : DeclaredRoute) (listed : route ∈ planRoutes plan) (patch : route.method = .patch)
    (calls : List (String × Operation Json)) (equals : Json → Bool) (model : RequestModel)
    (requested : requestModel python route = some model) (body payload : Record)
    (accepted : modelDump pydantic model body = some payload) :
    ∃ field, route.pathFields = [field] ∧ ∀ existing,
      find (repositoryFor (registryAfter calls) (resourceModule table route)) field.name equals = some existing →
        let after := (declaredUpdate pydantic python table route (registryAfter calls) equals body).1
        ∃ earlier record later,
          (repositoryFor (registryAfter calls) (resourceModule table route)).records = earlier ++ existing :: later ∧
          (repositoryFor after (resourceModule table route)).records = earlier ++ record :: later ∧
          (∀ other, other ≠ resourceModule table route →
            repositoryFor after other = repositoryFor (registryAfter calls) other) ∧
          get record "id" = get existing "id" ∧
          (Patched pydantic model body existing record ↔ Undisturbed pydantic model body existing) := by
  obtain ⟨field, fields⟩ := patch_field listed patch
  refine ⟨field, fields, ?_⟩
  intro existing found after
  obtain ⟨keyed, identified⟩ := registryAfter_sound calls (resourceModule table route)
  have stored := List.mem_of_find?_eq_some found
  obtain ⟨itemId, held⟩ := identified existing stored
  have distinct : (keys model).Nodup := by
    rw [requestModel] at requested
    split at requested
    · cases requested
    · obtain rfl := Option.some.inj requested
      exact keys_assignAll_nodup _ List.nodup_nil
  obtain ⟨earlier, later, before, written, -⟩ := step_update keyed stored held (assignAll existing payload)
  have served : after = serve (registryAfter calls) (resourceModule table route)
      (.update itemId (assignAll existing payload)) := by
    simp only [after, declaredUpdate, requested, fields, accepted, update, found, held, patch, decide_true, if_true]
  refine ⟨earlier, assign (assignAll existing payload) "id" itemId, later, before, ?_, ?_, ?_,
    patched_iff distinct accepted held⟩
  · rw [served, repositoryFor_serve, if_pos rfl, written]
  · intro other apart
    rw [served, repositoryFor_serve, if_neg (Ne.symm apart)]
  · rw [get_assign_id, held]

def idField : FieldSpec where
  name := "id"
  valueType := .string
  shaped := by exact Eq.refl true

def nameField : FieldSpec where
  name := "name"
  valueType := .string
  required := false

def emailField : FieldSpec where
  name := "email"
  valueType := .string
  required := false

def editBehavior : ApiBehavior where
  operationId := "edit"
  method := .patch
  path := "/crew/{id}"
  requestFields := [idField, nameField, emailField]

/-- A PATCH of pilots by their id, with two fields that a client may leave out. -/
def editOperation : ApiOperation where
  id := "api:edit"
  name := "Edit"
  serviceId := some "service:crew"
  behavior := some editBehavior

def editPlan : Plan where
  planId := "plan:0"
  isrId := "edit"
  services := [crewService]
  dataModels := [⟨"dm:pilot", "pilot", none⟩]
  apis := [editOperation]

def editRoute : DeclaredRoute where
  operation := editOperation
  behavior := editBehavior
  service := crewService
  resource := "pilot"
  policies := []
  pathFields := [idField]
  bodyFields := [nameField, emailField]
  responseFields := []
  declared := rfl

theorem edit_planned : planRoutes editPlan = [editRoute] := rfl

def echo : Pydantic := fun _ value => some value

def editModel : RequestModel := [("name", ⟨"name", .str, true, []⟩), ("email", ⟨"email", .str, true, []⟩)]

def ada : Record := [("id", .str "1"), ("name", .str "Ada"), ("email", .str "ada@crew")]

def crew : List (String × Operation Json) := [("pilot", .create ada)]

def isFirst (value : Json) : Bool := pyEqual value (.str "1")

/-- Where the body has both fields, the record takes both and keeps its id. -/
theorem edit_merged : ∃ record, get record "id" = some (.str "1") ∧
    Patched echo editModel [("name", .str "Grace"), ("email", .str "grace@crew")] ada record := by
  obtain ⟨field, fields, merges⟩ := patch_merges_iff plainPython asciiTable echo editPlan editRoute
    (by rw [edit_planned]; exact List.mem_singleton_self _) rfl crew isFirst editModel rfl
    [("name", .str "Grace"), ("email", .str "grace@crew")] _ rfl
  obtain rfl := (List.cons.inj fields).1
  obtain ⟨_, record, _, _, _, _, itself, patched⟩ := merges ada (by decide)
  refine ⟨record, itself, patched.mpr ⟨?_, ?_⟩⟩
  · intro name inModel omitted
    exact absurd inModel omitted
  · intro line supplied defined
    cases defined

/-- A body with a new name alone takes the address away. -/
theorem email_lost :
    planRoutes editPlan = [editRoute] ∧ editRoute.method = .patch ∧
      requestModel plainPython editRoute = some editModel ∧
      find (repositoryFor (registryAfter crew) (resourceModule asciiTable editRoute)) "id" isFirst = some ada ∧
      (modelDump echo editModel [("name", .str "Grace")]).isSome = true ∧
      ∀ record ∈ (repositoryFor (declaredUpdate echo plainPython asciiTable editRoute (registryAfter crew) isFirst
          [("name", .str "Grace")]).1 (resourceModule asciiTable editRoute)).records,
        ¬ Patched echo editModel [("name", .str "Grace")] ada record := by
  refine ⟨edit_planned, rfl, rfl, by decide, rfl, ?_⟩
  intro record member patched
  have kept := patched.kept "email" (by decide) (.str "ada@crew") rfl
  have written : record = [("id", .str "1"), ("name", .str "Grace"), ("email", .null)] :=
    List.mem_singleton.mp member
  rw [written] at kept
  cases kept

end AutonomousApi.PatchHandlers
