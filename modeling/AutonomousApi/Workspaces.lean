import AutonomousApi.CommandBoundary

/-! Workspaces of the observatory: their store and the service under the governance layer
(observatory/backend/workspaces_store.py and workspace_service.py). Every operation returns its outcome
with the store it leaves behind; ids and clock readings are drawn from outside. -/

namespace AutonomousApi.Workspaces

open OrderedMap JsonValue PythonText ObservatoryEvents FailFast
open CommandBoundary (Platform pyStr)

structure Workspace where
  id : String
  name : String
  description : String
  ownerId : String
  visibility : String
  sharedWith : List String
  tags : List String
  query : Record
  createdAt : String
  updatedAt : String
  version : Int

structure WorkspaceAudit where
  id : String
  workspaceId : String
  actorId : String
  action : String
  timestamp : String
  details : Record

/-- The part of an emitted event that depends on the operation. -/
structure Emission where
  type : String
  subjectId : String
  payload : Record

structure Actor where
  id : String
  role : String := "observer"
  clearance : String := "observer"
  roles : List String := []
  authMethod : String := "unknown"

structure WorkspaceStore where
  workspaces : List Workspace := []
  audit : List WorkspaceAudit := []
  emitted : List Emission := []

inductive WorkspaceError where
  | notFound (workspaceId : String)
  | permissionDenied (message : String)
  | validation (message : String)
  | sqlite (message : String)
  deriving DecidableEq

abbrev Outcome (Result : Type) := Except WorkspaceError Result × WorkspaceStore

/-- The fresh ids and the texts of the clock that an operation uses. -/
structure Draw where
  workspaceId : String
  createdAt : String
  updatedAt : String
  auditId : String
  auditTime : String
  exportedAt : String

section

/-- What the service takes from Python: texts, `int` of a text, and the patterns of `scan_workspace_payload`. -/
structure Environment where
  platform : Platform
  parseInt : String → Option Int
  scan : Record → Option String

variable (environment : Environment)

def clean (text : String) : String := String.ofList (strip environment.platform.table text.toList)

def lookup (payload : Record) (key : String) : Json := (get payload key).getD .null

def cleanString (value : Json) (field : String) (maxLength : Nat) (required : Bool) :
    Except WorkspaceError (Option String) :=
  match value with
  | .null => if required then .error (.validation (field ++ " is required")) else .ok none
  | value =>
      let cleaned := clean environment (pyStr environment.platform value)
      if cleaned.length = 0 then
        if required then .error (.validation (field ++ " is required")) else .ok (some "")
      else if cleaned.length > maxLength then .error (.validation (field ++ " exceeds maximum length"))
      else .ok (some cleaned)

def cleanStringList (value : Json) (field : String) : Except WorkspaceError (List String) :=
  match value with
  | .null => .ok []
  | .list items =>
      .ok (sortedSet ((items.map fun item => clean environment (pyStr environment.platform item)).filter (· ≠ "")))
  | _ => .error (.validation (field ++ " must be a list"))

/-- `int(value)`, or nothing where it raises. -/
def pyInt : Json → Option Int
  | .int value => some value
  | .bool value => some (if value then 1 else 0)
  | .float value => some (if value.toRat < 0 then value.toRat.ceil else value.toRat.floor)
  | .str value => environment.parseInt value
  | _ => none

/-- A key that is left out when its text is empty. -/
def optionalEntry (key : String) : Option String → Record
  | none => []
  | some text => if text = "" then [] else [(key, .str text)]

def validateQuery (query : Json) : Except WorkspaceError Record :=
  match query with
  | .dict fields => do
      let q ← cleanString environment (lookup fields "q") "query.q" 1000 false
      let categories ← cleanStringList environment (lookup fields "categories") "query.categories"
      let severities ← cleanStringList environment (lookup fields "severities") "query.severities"
      let statuses ← cleanStringList environment (lookup fields "epistemic_statuses") "query.epistemic_statuses"
      let since ← cleanString environment (lookup fields "since") "query.since" 100 false
      let till ← cleanString environment (lookup fields "until") "query.until" 100 false
      match pyInt environment ((get fields "limit").getD (Json.int 200)) with
      | none => .error (.validation "query.limit must be an integer")
      | some limit =>
          if limit < 1 ∨ limit > 1000 then .error (.validation "query.limit must be between 1 and 1000")
          else
            .ok (optionalEntry "q" q ++ [("categories", .list (categories.map Json.str)),
              ("severities", .list (severities.map Json.str)), ("epistemic_statuses", .list (statuses.map Json.str))] ++
              optionalEntry "since" since ++ optionalEntry "until" till ++ [("limit", .int limit)])
  | _ => .error (.validation "query must be an object")

/-- The normalized payload: which keys it has, and their values. A partial update may name a null name. -/
structure Normalized where
  name : Option (Option String) := none
  description : Option String := none
  visibility : Option String := none
  sharedWith : Option (List String) := none
  tags : Option (List String) := none
  query : Option Record := none

def allowedVisibilities : List String := ["private", "shared", "public"]

/-- A field that is validated when it is given, and always in a full payload. -/
def field {Value : Type} (payload : Record) (wanted : Bool) (key : String) (validate : Json →
    Except WorkspaceError Value) :
    Except WorkspaceError (Option Value) :=
  if wanted || (get payload key).isSome then (validate (lookup payload key)).map some else .ok none

def validateVisibility (wanted : Bool) (value : Json) : Except WorkspaceError String := do
  match ← cleanString environment value "visibility" 20 wanted with
  | some visibility =>
      if visibility ∈ allowedVisibilities then .ok visibility
      else .error (.validation "visibility must be private, shared, or public")
  | none => .error (.validation "visibility must be private, shared, or public")

def requireShared (visibility : Option String) (sharedWith : List String) : Except WorkspaceError Unit :=
  require (visibility ≠ some "shared" || !sharedWith.isEmpty)
    (.validation "shared workspaces require at least one shared_with operator")

def validateWorkspacePayload (payload : Record) (isPartial : Bool) : Except WorkspaceError Normalized := do
  let wanted := !isPartial
  let name ← field payload wanted "name" fun value => cleanString environment value "name" 200 wanted
  let description ← field payload wanted "description" fun value =>
    (cleanString environment value "description" 2000 false).map fun text => text.getD ""
  let visibility ← field payload wanted "visibility" (validateVisibility environment wanted)
  let sharedWith ← field payload wanted "shared_with" fun value => cleanStringList environment value "shared_with"
  let tags ← field payload wanted "tags" fun value => cleanStringList environment value "tags"
  let query ← field payload wanted "query" (validateQuery environment)
  if wanted then requireShared visibility (sharedWith.getD []) else pure ()
  return { name, description, visibility, sharedWith, tags, query }

end

def WorkspaceStore.find (store : WorkspaceStore) (workspaceId : String) : Option Workspace :=
  store.workspaces.find? fun workspace => workspace.id = workspaceId

def addAudit (store : WorkspaceStore) (draw : Draw) (workspaceId actorId action : String) (details : Record) :
    WorkspaceStore :=
  { store with audit := store.audit ++ [⟨draw.auditId, workspaceId, actorId, action, draw.auditTime, details⟩] }

/-- The row as `_row_to_workspace` reads it: a query is written with sorted keys. -/
def Workspace.row (workspace : Workspace) : Workspace := { workspace with query := sortedRecord workspace.query }

def insertWorkspace (store : WorkspaceStore) (workspace : Workspace) : Outcome Workspace :=
  match store.find workspace.id with
  | some _ => (.error (.sqlite "UNIQUE constraint failed: workspaces.id"), store)
  | none => (.ok workspace, { store with workspaces := store.workspaces ++ [workspace.row] })

/-- `apply_update`: no check of the caller. -/
def applyUpdate (store : WorkspaceStore) (workspaceId : String) (updates : Normalized) (now : String) :
    Outcome Workspace :=
  match store.find workspaceId with
  | none => (.error (.notFound workspaceId), store)
  | some current =>
      match updates.name with
      | some none => (.error (.sqlite "NOT NULL constraint failed: workspaces.name"), store)
      | name =>
          let updated := { current with
            name := name.join.getD current.name
            description := updates.description.getD current.description
            visibility := updates.visibility.getD current.visibility
            sharedWith := updates.sharedWith.getD current.sharedWith
            tags := updates.tags.getD current.tags
            query := updates.query.getD current.query
            updatedAt := now
            version := current.version + 1 }
          (.ok updated, { store with workspaces := store.workspaces.map fun workspace =>
            if workspace.id = workspaceId then updated.row else workspace })

def removeWorkspace (store : WorkspaceStore) (workspaceId ownerId : String) : Outcome Workspace :=
  match store.find workspaceId with
  | none => (.error (.notFound workspaceId), store)
  | some workspace =>
      if workspace.ownerId ≠ ownerId then (.error (.permissionDenied workspaceId), store)
      else
        (.ok workspace, { store with workspaces := store.workspaces.filter fun workspace =>
          workspace.id ≠ workspaceId })

/-- `ORDER BY updated_at DESC, id ASC`. -/
def listed (store : WorkspaceStore) : List Workspace :=
  store.workspaces.insertionSort fun left right =>
    right.updatedAt < left.updatedAt ∨ left.updatedAt = right.updatedAt ∧ left.id ≤ right.id

/-- `ORDER BY timestamp DESC, id DESC LIMIT ?`; SQLite takes a negative limit for none. -/
def auditRows (store : WorkspaceStore) (workspaceId : String) (limit : Int) : List WorkspaceAudit :=
  let rows := (store.audit.filter fun row => row.workspaceId = workspaceId).insertionSort fun left right =>
    right.timestamp < left.timestamp ∨ left.timestamp = right.timestamp ∧ right.id ≤ left.id
  if limit < 0 then rows else rows.take limit.toNat

variable (environment : Environment)

def emitEvent (store : WorkspaceStore) (action : String) (workspace : Workspace) (actor : Actor) : WorkspaceStore :=
  { store with emitted := store.emitted ++ [⟨"workspace_" ++ action, workspace.id,
      [("workspace_id", .str workspace.id), ("workspace_name", .str workspace.name),
        ("owner_id", .str workspace.ownerId),
        ("visibility", .str workspace.visibility), ("action", .str action), ("actor_id", .str actor.id),
        ("summary", .str ("Workspace " ++ workspace.name ++ " " ++ action))]⟩] }

def canReadWorkspace (workspace : Workspace) (actorId : String) : Bool :=
  workspace.ownerId == actorId || workspace.visibility == "public" ||
    (workspace.visibility == "shared" && workspace.sharedWith.contains actorId)

def createWorkspace (store : WorkspaceStore) (draw : Draw) (actor : Actor) (payload : Record) : Outcome Workspace :=
  match validateWorkspacePayload environment payload false with
  | .error error => (.error error, store)
  | .ok normalized =>
      let workspace : Workspace :=
        { id := draw.workspaceId, name := normalized.name.join.getD "", description := normalized.description.getD "",
          ownerId := actor.id, visibility := normalized.visibility.getD "", sharedWith := normalized.sharedWith.getD [],
          tags := normalized.tags.getD [], query := normalized.query.getD [], createdAt := draw.createdAt,
          updatedAt := draw.updatedAt, version := 1 }
      match insertWorkspace store workspace with
      | (.error error, after) => (.error error, after)
      | (.ok created, after) =>
          let audited := addAudit after draw created.id actor.id "workspace_created"
            [("name", .str created.name), ("visibility", .str created.visibility)]
          (.ok created, emitEvent audited "created" created actor)

def getWorkspace (store : WorkspaceStore) (actor : Actor) (workspaceId : String) : Except WorkspaceError Workspace :=
  match store.find workspaceId with
  | none => .error (.notFound workspaceId)
  | some workspace =>
      if canReadWorkspace workspace actor.id then .ok workspace else .error (.permissionDenied workspaceId)

def listWorkspaces (store : WorkspaceStore) (actor : Actor) : List Workspace :=
  (listed store).filter fun workspace => canReadWorkspace workspace actor.id

def deleteWorkspace (store : WorkspaceStore) (draw : Draw) (actor : Actor) (workspaceId : String) : Outcome Workspace :=
  match removeWorkspace store workspaceId actor.id with
  | (.error error, after) => (.error error, after)
  | (.ok deleted, after) =>
      let audited := addAudit after draw workspaceId actor.id "workspace_deleted" [("name", .str deleted.name)]
      (.ok deleted, emitEvent audited "deleted" deleted actor)

structure Bundle where
  bundleVersion : String
  workspace : Workspace
  exportedBy : String
  exportedAt : String

def exportWorkspace (store : WorkspaceStore) (draw : Draw) (actor : Actor) (workspaceId : String) : Outcome Bundle :=
  match getWorkspace store actor workspaceId with
  | .error error => (.error error, store)
  | .ok workspace =>
      let audited := addAudit store draw workspaceId actor.id "workspace_exported" []
      (.ok ⟨"observatory-workspace-export-v1", workspace, actor.id, draw.exportedAt⟩,
        emitEvent audited "exported" workspace actor)

def getAudit (store : WorkspaceStore) (actor : Actor) (workspaceId : String) (limit : Int) :
    Except WorkspaceError (List WorkspaceAudit) :=
  (getWorkspace store actor workspaceId).map fun _ => auditRows store workspaceId limit

end AutonomousApi.Workspaces
