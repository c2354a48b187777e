import AutonomousApi.PolicyTable

/-! The repository that `PythonFastAPIBackend.compile` writes: which files a plan leads
to, and their text. The files whose text depends on a label outside a slug, and the
policy table, are embedded; the text of the others is a parameter that may read the
whole plan. A label stands inside a string literal of the emitted source, between
fixed texts. -/

namespace AutonomousApi.GeneratedFiles

open CompilationPlan OrderedMap FailFast PythonText PythonLiteral Capabilities Naming FastApiBackend

/-- A string literal of the emitted source with a label in it. The fixed text on both
sides of the label cannot interfere with it. -/
structure LabelLiteral where
  style : Style
  lead : List Char
  label : List Char
  trail : List Char
  plainLead : lead.all (inert style) = true := by decide
  plainTrail : trail.all (inert style) = true := by decide

namespace LabelLiteral

def body (literal : LabelLiteral) : List Char := literal.lead ++ literal.label ++ literal.trail

def source (literal : LabelLiteral) : List Char :=
  delimiter literal.style ++ literal.body ++ delimiter literal.style

end LabelLiteral

def docstring (lead label trail : String) (plainLead : lead.toList.all (inert tripleQuoted) = true)
    (plainTrail : trail.toList.all (inert tripleQuoted) = true) : LabelLiteral :=
  ⟨tripleQuoted, lead.toList, label.toList, trail.toList, plainLead, plainTrail⟩

def serviceDocstring (name : String) : LabelLiteral :=
  docstring "Application service for " name " (generated, wired to repositories)." (by decide) (by decide)

def catalogName (name : String) : LabelLiteral := ⟨doubleQuoted, [], name.toList, [], rfl, rfl⟩

def handlerDocstring (name : String) : LabelLiteral :=
  docstring "Event handler for " name " (generated, validated)." (by decide) (by decide)

def wrapDocstring (name : String) : LabelLiteral :=
  docstring "Validate and wrap an incoming " name " event." (by decide) (by decide)

def eventType (name : String) : LabelLiteral := ⟨doubleQuoted, [], name.toList, [], rfl, rfl⟩

def appTitle (title : String) : LabelLiteral := ⟨doubleQuoted, [], title.toList, [], rfl, rfl⟩

def expectedType (name : String) : LabelLiteral := ⟨singleQuoted, [], name.toList, [], rfl, rfl⟩

/-- A domain module with or without typed fields; the class name is made of a slug. -/
def domainDocstring (typed : Bool) (cls : String) : LabelLiteral :=
  if typed then docstring "Typed domain model " cls " (generated from ISR)." (by decide) (by decide)
  else docstring "Domain model " cls " (generated)." (by decide) (by decide)

section

inductive FilePath where
  | dockerfile | requirements | main | tests | k8s | ci | readme | docs
  | repositories | security | authorization | policies | behavior | declared
  | domain (mod : String)
  | application (mod : String)
  | events (mod : String)
  | effects (mod : String)
  deriving DecidableEq

def FilePath.text : FilePath → String
  | .dockerfile => "Dockerfile"
  | .requirements => "requirements.txt"
  | .main => "app/main.py"
  | .tests => "tests/test_app.py"
  | .k8s => "k8s/deployment.yaml"
  | .ci => ".github/workflows/ci.yml"
  | .readme => "README.md"
  | .docs => "docs/architecture.md"
  | .repositories => "app/infrastructure/repositories.py"
  | .security => "app/core/security.py"
  | .authorization => "app/core/authorization.py"
  | .policies => "app/core/policies.py"
  | .behavior => "app/core/behavior.py"
  | .declared => "app/api/declared.py"
  | .domain mod => "app/domain/" ++ mod ++ ".py"
  | .application mod => "app/application/" ++ mod ++ ".py"
  | .events mod => "app/events/" ++ mod ++ ".py"
  | .effects mod => "app/effects/" ++ mod ++ ".py"

variable (table : CharTable)

def serviceElements (service : Service) : List (String × FilePath) :=
  (service.id, .application (slug table service.name)) ::
    (service.dataModels.map fun model => (model.id, .domain (slug table model.entityName))) ++
    ((service.publishedEvents ++ service.consumedEvents).map fun event =>
      (event.id, .events (slug table event.name)))

def infraElements : List (String × FilePath) :=
  [("infra:docker", .dockerfile), ("infra:k8s", .k8s), ("infra:ci", .ci), ("infra:readme", .readme),
    ("infra:main", .main), ("infra:repositories", .repositories), ("infra:behavior", .behavior),
    ("infra:authorization", .authorization), ("infra:policies", .policies), ("infra:docs", .docs),
    ("infra:requirements", .requirements), ("infra:test", .tests)]

def elementPaths (plan : Plan) : Dict String FilePath :=
  assignAll [] (plan.services.flatMap (serviceElements table) ++
    (plan.security.map fun policy => (policy.policyId, .security)) ++
    (plan.effects.map fun effect => (effect.id, .effects (slug table effect.name))) ++
    infraElements ++
    if plan.apis.any fun api => api.behavior.isSome then [("infra:declared_apis", .declared)] else [])

/-- The files that are written: each path once, at its first element. -/
def emittedPaths (plan : Plan) : List FilePath :=
  keepFirst id [] ((elementPaths table plan).map Prod.snd)

theorem mem_emittedPaths (plan : Plan) (path : FilePath) :
    path ∈ emittedPaths table plan ↔ ∃ element, get (elementPaths table plan) element = some path := by
  constructor
  · intro emitted
    obtain ⟨⟨element, found⟩, listed, rfl⟩ := List.mem_map.mp (mem_of_keepFirst id [] _ emitted)
    exact ⟨element, get_of_mem (keys_assignAll_nodup _ (by simp [keys])) listed⟩
  · rintro ⟨element, found⟩
    have listed : path ∈ (elementPaths table plan).map Prod.snd :=
      List.mem_map.mpr ⟨_, mem_of_get found, rfl⟩
    have first := find_keepFirst id [] ((elementPaths table plan).map Prod.snd) path (by simp)
    cases taken : ((elementPaths table plan).map Prod.snd).find? fun other => id other == path with
    | none => simpa using List.find?_eq_none.mp taken path listed
    | some other =>
        obtain rfl : other = path := by simpa using List.find?_some taken
        exact List.mem_of_find?_eq_some (first.trans taken)

/-- The fixed files are assigned last, so no element of the plan replaces them. -/
theorem infra_emitted (plan : Plan) (element : String) {path : FilePath}
    (fixed : get infraElements.reverse element = some path) (other : element ≠ "infra:declared_apis") :
    path ∈ emittedPaths table plan := by
  rw [mem_emittedPaths]
  refine ⟨element, ?_⟩
  rw [elementPaths, get_assignAll, List.reverse_append, get_append, List.reverse_append, get_append, fixed]
  split <;> simp [OrderedMap.get, Ne.symm other]

end

variable (table : CharTable)

/-- `"\n".join(lines)`. -/
def joinLines (lines : List (List Char)) : List Char := ['\n'].intercalate lines

def title (plan : Plan) : String := if plan.isrId = "" then "generated-service" else plan.isrId

def serviceName (plan : Plan) (mod : String) : String :=
  match (planServices table plan).find? fun service => service.mod == mod with
  | some service => service.name
  | none => mod

def eventName (plan : Plan) (mod : String) : String :=
  match (planEvents table plan).find? fun event => event.mod == mod with
  | some event => event.name
  | none => mod

def event (plan : Plan) (mod : String) : List Char :=
  let name := eventName table plan mod
  (handlerDocstring name).source ++
    ("\nfrom __future__ import annotations\n\n\ndef handle_" ++ mod ++ "(payload: dict) -> dict:\n    ").toList ++
    (wrapDocstring name).source ++
    ("\n    if not isinstance(payload, dict):\n" ++
      "        raise TypeError(\"event payload must be a mapping\")\n    return \x7b\"type\": ").toList ++
    (eventType name).source ++ ", \"payload\": payload\x7d\n".toList

def readmeService (service : ServiceInfo) : List Char :=
  let owned := if service.owned.isEmpty then "(no data models)" else ", ".intercalate service.owned
  ("- `" ++ service.name ++ "` — entities: " ++ owned).toList

def readmeEntity (entity : EntityInfo) : List Char :=
  ("- `/api/" ++ entity.plural ++ "` — CRUD for `" ++ entity.entity ++
    "` (GET, POST, GET/PUT/DELETE by id)").toList

def readmeEvent (event : EventInfo) : List Char :=
  ("- `" ++ event.name ++ "` — handler `app.events." ++ event.mod ++ "`").toList

/-- Items of a section, or the line that says there is none. -/
def listed (items : List (List Char)) (empty : String) : List (List Char) :=
  if items.isEmpty then [empty.toList] else items

def readme (plan : Plan) : List Char :=
  let events := planEvents table plan
  joinLines (
    [("# " ++ title plan).toList, [],
      "Generated Python/FastAPI service produced from the ISR compilation plan.".toList, [],
      "## Services".toList] ++
    listed ((planServices table plan).map readmeService) "- (plan contains no services)" ++
    [[], "## HTTP surface".toList, "- `GET /health` — liveness".toList,
      "- `GET /api/services` — service catalog".toList] ++
    listed ((planEntities table plan).map readmeEntity) "- (plan contains no data models)" ++
    [[]] ++
    (if events.isEmpty then [] else "## Events".toList :: events.map readmeEvent ++ [[]]) ++
    ["## Run".toList, "```bash".toList, "pip install -r requirements.txt".toList,
      "uvicorn app.main:app --host 0.0.0.0 --port 8000".toList, "```".toList] ++
    (if plan.security.isEmpty then [] else
      [[], "Authorization: set `GENERATED_API_KEY` and send `X-API-Key` on every".toList,
        "business request. Missing configuration refuses requests (fail-closed).".toList]) ++
    [[], "## Test".toList, "```bash".toList, "python -m pytest -q".toList, "```".toList, []])

/-- The text of the files that are not embedded, or the error that writing one raises. -/
abbrev OtherFiles := Plan → FilePath → Except UnsupportedSemanticsError (List Char)

variable (numbers : NumberText JsonValue.JsonFloat) (others : OtherFiles)

def emit (plan : Plan) : FilePath → Except UnsupportedSemanticsError (List Char)
  | .readme => .ok (readme table plan)
  | .policies => .ok (PolicyTable.policies table plan numbers)
  | .events mod => .ok (event table plan mod)
  | path => others plan path

def compile (plan : Plan) : Except UnsupportedSemanticsError (Dict FilePath (List Char)) := do
  gates table plan
  gather (fun path => do
    let content ← emit table numbers others plan path
    pure (some (path, content))) (emittedPaths table plan)

end AutonomousApi.GeneratedFiles
