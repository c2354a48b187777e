import AutonomousApi.EvolutionLedger
import AutonomousApi.LastWrite
import AutonomousApi.ObservatoryEvents
import AutonomousApi.PythonText

/-! The governance state of the observatory and the commands decided on it (`build_governance_state`
of observatory/backend/projections.py, governance.py, and `request_command` of gateway.py). -/

namespace AutonomousApi.CommandBoundary

open OrderedMap JsonValue PythonLiteral PythonText ObservatoryEvents
open EvolutionLedger (truthy)

/-- What the code takes from Python: the character data, `repr` of a text, and `json` with `hashlib`. -/
structure Platform where
  table : CharTable
  repr : String → String
  hashing : Hashing

section

variable (platform : Platform)

def reprAtom : JsonAtom → List Char
  | .null => "None".toList
  | .bool true => "True".toList
  | .bool false => "False".toList
  | .int value => integerText value
  | .float value => platform.hashing.numbers.text value
  | .str value => (platform.repr value).toList

mutual
def pyRepr : Json → List Char
  | .atom value => reprAtom platform value
  | .list items => '[' :: reprItems items ++ [']']
  | .dict entries => '{' :: reprEntries entries ++ ['}']

def reprItems : List Json → List Char
  | [] => []
  | [item] => pyRepr item
  | item :: next :: rest => pyRepr item ++ ", ".toList ++ reprItems (next :: rest)

def reprEntries : List (String × Json) → List Char
  | [] => []
  | [(key, value)] => (platform.repr key).toList ++ ": ".toList ++ pyRepr value
  | (key, value) :: next :: rest =>
      (platform.repr key).toList ++ ": ".toList ++ pyRepr value ++ ", ".toList ++ reprEntries (next :: rest)
end

/-- `str` of a document. -/
def pyStr : Json → String
  | Json.str value => value
  | value => String.ofList (pyRepr platform value)

def normalize (text : String) : String := String.ofList (platform.table.lower (strip platform.table text.toList))

def defaultAuthority : Dict String String :=
  [("interpretation", "granted"), ("evolution", "definition_only"), ("implementation", "none"), ("runtime", "none"),
    ("deployment", "none"), ("production", "none"), ("governance", "granted")]

inductive SafeMode where
  | unknown | enabled | disabled
  deriving DecidableEq

structure GovernanceState where
  currentAuthority : Dict String String := defaultAuthority
  gates : Dict String String := []
  safeMode : SafeMode := .unknown
  requested : Nat := 0
  accepted : Nat := 0
  rejected : Nat := 0

/-- The authority that an update names; keys and values are compared without case and blanks. -/
def normalizedAuthority (entries : Record) : Dict String String :=
  assignAll [] (entries.map fun entry => (normalize platform entry.1, normalize platform (pyStr platform entry.2)))

/-- The loop over the known keys. -/
def overwrite (normalized : Dict String String) (authority : Dict String String) : List String → Dict String String
  | [] => authority
  | key :: rest =>
      match get normalized key with
      | some value => overwrite normalized (assign authority key value) rest
      | none => overwrite normalized authority rest

def updateAuthority (authority normalized : Dict String String) : Dict String String :=
  overwrite normalized authority (keys defaultAuthority)

def applyEvent (state : GovernanceState) (event : Event) : GovernanceState :=
  if event.type = "authority_updated" then
    match (get event.payload "authority").getD (.dict []) with
    | .dict entries =>
        { state with currentAuthority := updateAuthority state.currentAuthority (normalizedAuthority platform entries) }
    | _ => state
  else if event.type = "gate_updated" then
    match (get event.payload "gate").getD .null with
    | .null => state
    | gate =>
        let status := (get event.payload "status").getD (Json.str "unknown")
        { state with gates := assign state.gates (pyStr platform gate) (pyStr platform status) }
  else if event.type = "safe_mode_enabled" then { state with safeMode := .enabled }
  else if event.type = "safe_mode_disabled" then { state with safeMode := .disabled }
  else if event.type = "command_requested" then { state with requested := state.requested + 1 }
  else if event.type = "command_accepted" then { state with accepted := state.accepted + 1 }
  else if event.type = "command_rejected" then { state with rejected := state.rejected + 1 }
  else state

def buildGovernanceState (events : List Event) : GovernanceState :=
  (sortAsc (events.filter fun event => event.category = .governance)).foldl (applyEvent platform) {}

/-- The gates as they are shown. -/
def GovernanceState.activeGates (state : GovernanceState) : List (String × String) :=
  state.gates.insertionSort fun left right => left.1 < right.1 ∨ left.1 = right.1 ∧ left.2 ≤ right.2

end

structure Actor where
  id : String
  role : String
  clearance : Option String := none

def readActions : List String :=
  ["view_dashboard", "view_overview", "view_runtime", "view_evolution", "view_evidence", "view_requirement",
    "view_capability", "view_knowledge", "view_governance", "trace", "explain"]

def commandActions : List String :=
  ["request_authorization", "request_evolution_definition", "request_implementation", "request_runtime",
    "request_production_deploy", "safe_mode_enable", "safe_mode_disable", "stop_runtime", "restart_runtime"]

/-- `value or default` for a text that may be absent. -/
def orElse (value : Option String) (default : String) : String :=
  match value with
  | some text => if text = "" then default else text
  | none => default

def checkActor (action : String) (actor : Actor) : Except String Unit :=
  let role := orElse (some actor.role) "observer"
  let clearance := orElse actor.clearance role
  if action ∈ readActions then
    if role ∈ ["observer", "operator", "architect", "admin", "system"] then .ok () else .error "unauthorized"
  else if action ∈ commandActions then
    if clearance ∈ ["operator", "architect", "admin"] then .ok () else .error "unauthorized"
  else .error "unsupported_action"

/-- The authority that a command needs, and the grants that suffice. -/
def needs : String → Option (String × List String)
  | "request_authorization" => some ("governance", ["granted"])
  | "request_evolution_definition" => some ("evolution", ["granted", "definition_only"])
  | "request_implementation" => some ("implementation", ["granted"])
  | "request_runtime" => some ("runtime", ["granted"])
  | "request_production_deploy" => some ("production", ["granted"])
  | "safe_mode_enable" => some ("governance", ["granted"])
  | "safe_mode_disable" => some ("governance", ["granted"])
  | "stop_runtime" => some ("runtime", ["granted"])
  | "restart_runtime" => some ("runtime", ["granted"])
  | _ => none

def authorized (value : Option String) (allowed : List String) : Bool := value.any allowed.contains

def checkAuthority (action : String) (authority : Dict String String) : Except String Unit :=
  match needs action with
  | some (key, allowed) =>
      if authorized (get authority key) allowed then .ok () else .error "blocked_by_constitution"
  | none => .error "unsupported_action"

def authorize (action : String) (actor : Actor) (authority : Dict String String) : Except String Unit :=
  if action ∉ readActions ∧ action ∉ commandActions then .error "unsupported_action"
  else do
    checkActor action actor
    if action ∈ readActions then .ok () else checkAuthority action authority

variable (platform : Platform)

def secretKeyMarkers : List String :=
  ["password", "secret", "token", "credential", "api_key", "apikey", "private_key", "session"]

def secretKey (key : String) : Bool :=
  secretKeyMarkers.any fun marker => (platform.table.lower key.toList).tails.any marker.toList.isPrefixOf

mutual
def redact : Json → Json
  | .atom value => .atom value
  | .list items => .list (redactItems items)
  | .dict entries => .dict (redactEntries entries)

def redactItems : List Json → List Json
  | [] => []
  | item :: rest => redact item :: redactItems rest

def redactEntries : List (String × Json) → List (String × Json)
  | [] => []
  | (key, value) :: rest =>
      (key, if secretKey platform key then Json.str "[REDACTED]" else redact value) :: redactEntries rest
end

/-- `params.get("target_id") or default`, as a text. -/
def targetId (params : Record) (default : String) : String :=
  match get params "target_id" with
  | some value => if truthy value then pyStr platform value else default
  | none => default

def governance (rows : EventStore) : GovernanceState :=
  buildGovernanceState platform (eventsByCategory rows .governance 10000)

/-- A failure of the audit is swallowed. -/
def auditRejection (rows : EventStore) (action : String) (params : Record) (actor : Actor) (reason : String)
    (now : Datetime) : EventStore :=
  let payload : Record :=
      [("action", Json.str action), ("params", redact platform (.dict params)), ("actor_id", Json.str actor.id)]
  match newGovernanceEvent platform.hashing "observatory_gateway" "command_rejected"
      (targetId platform params "GOVERNANCE")
      (some reason) payload .warning now with
  | .ok event => ((append platform.hashing rows event).map Prod.snd).getD rows
  | .error _ => rows

def generateRequestId (action : String) (params : Record) (now : Datetime) : String :=
  let basis := canonicalJson platform.hashing
      (.dict [("action", Json.str action), ("params", redact platform (.dict params)),
    ("timestamp", Json.str now.isoformat)])
  "REQ-" ++ String.ofList ((platform.hashing.sha256 basis).toList.take 20)

/-- The id of the pending request, or the text of the error, and the store after the call. The
clock is read for the request id, and again for the event or the audit. -/
def requestCommand (rows : EventStore) (action : String) (params : Record) (actor : Actor) (read now : Datetime) :
    Except String String × EventStore :=
  if action ∉ commandActions then (.error "unsupported_action", rows)
  else
    let state := governance platform rows
    if state.safeMode = .enabled ∧ action ≠ "safe_mode_disable" then
      (.error "safe_mode_enabled", auditRejection platform rows action params actor "safe_mode_enabled" now)
    else
      match authorize action actor state.currentAuthority with
      | .error reason => (.error reason, auditRejection platform rows action params actor reason now)
      | .ok () =>
          let requestId := generateRequestId platform action params read
          let payload : Record := [("request_id", Json.str requestId), ("action", Json.str action),
            ("params", redact platform (.dict params)), ("actor_id", Json.str actor.id)]
          match newGovernanceEvent platform.hashing "observatory_gateway" "command_requested"
              (targetId platform params requestId) none payload .info now with
          | .error text => (.error text, rows)
          | .ok event =>
              match append platform.hashing rows event with
              | some (_, rows) => (.ok requestId, rows)
              | none => (.error ("event id " ++ event.id ++ " already exists with a different hash"), rows)

end AutonomousApi.CommandBoundary
