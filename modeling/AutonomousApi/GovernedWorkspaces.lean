import AutonomousApi.WorkspaceChains

/-! The governed workspace service (observatory/backend/workspace_governance_service.py) over the workspace
service and the governance store. -/

namespace AutonomousApi.GovernedWorkspaces

open JsonValue ObservatoryEvents Workspaces WorkspaceGovernance WorkspaceChains ConcurrentChain

section

structure RoleGrant where
  workspaceId : String
  operatorId : String
  role : String
  grantedBy : String
  grantedAt : String

structure GovernanceStore where
  states : List GovernanceState := []
  roles : List RoleGrant := []
  snapshots : List SnapshotRecord := []
  auditChain : List AuditChainRecord := []

/-- The fresh ids and clock readings of the governance store, beside those of the workspace store. -/
structure Draws where
  base : Draw
  stateTime : String
  grantedAt : String
  snapshotId : String
  snapshotTime : String
  chainId : String
  chainTime : String

def GovernanceStore.state (store : GovernanceStore) (workspaceId : String) : GovernanceState :=
  (store.states.find? fun state => state.workspaceId = workspaceId).getD { workspaceId }

/-- `INSERT OR IGNORE`. -/
def ensureGovernanceState (store : GovernanceStore) (workspaceId now : String) : GovernanceStore :=
  match store.states.find? fun state => state.workspaceId = workspaceId with
  | some _ => store
  | none => { store with states := store.states ++ [{ workspaceId, updatedAt := some now }] }

/-- The fields of `update_governance_state` that are given. -/
structure GovernanceUpdates where
  sensitivity : Option String := none
  lifecycleState : Option String := none
  requiresApproval : Option Bool := none
  immutable : Option Bool := none
  certifiedAt : Option (Option String) := none
  certifiedBy : Option (Option String) := none
  deriving DecidableEq

def updateGovernanceState (store : GovernanceStore) (workspaceId : String) (updates : GovernanceUpdates)
    (now : String) :
    Except WorkspaceError GovernanceStore :=
  if updates.sensitivity.any fun level => level ∉ sensitivityLevels then
    .error (.validation "invalid sensitivity level")
  else if updates.lifecycleState.any fun state => state ∉ lifecycleStates then
    .error (.validation "invalid lifecycle state")
  else if updates = {} then .ok store
  else
    .ok { store with states := store.states.map fun state =>
      if state.workspaceId = workspaceId then
        { state with
          sensitivity := updates.sensitivity.getD state.sensitivity
          lifecycleState := updates.lifecycleState.getD state.lifecycleState
          requiresApproval := updates.requiresApproval.getD state.requiresApproval
          immutable := updates.immutable.getD state.immutable
          certifiedAt := updates.certifiedAt.getD state.certifiedAt
          certifiedBy := updates.certifiedBy.getD state.certifiedBy
          updatedAt := some now }
      else state }

def GovernanceStore.roleRows (store : GovernanceStore) (workspaceId : String) : List RoleGrant :=
  store.roles.filter fun grant => grant.workspaceId = workspaceId

/-- `get_roles`: operators in order. -/
def GovernanceStore.workspaceRoles (store : GovernanceStore) (workspaceId : String) : List (String × String) :=
  OrderedMap.assignAll [] (((store.roleRows workspaceId).insertionSort fun left right =>
    left.operatorId ≤ right.operatorId).map fun grant => (grant.operatorId, grant.role))

/-- `INSERT ... ON CONFLICT DO UPDATE`. -/
def upsertRole (roles : List RoleGrant) (grant : RoleGrant) : List RoleGrant :=
  if roles.any fun other => other.workspaceId = grant.workspaceId ∧ other.operatorId = grant.operatorId then
    roles.map fun other =>
      if other.workspaceId = grant.workspaceId ∧ other.operatorId = grant.operatorId then grant else other
  else roles ++ [grant]

def dropRole (roles : List RoleGrant) (workspaceId operatorId : String) : List RoleGrant :=
  roles.filter fun grant => ¬ (grant.workspaceId = workspaceId ∧ grant.operatorId = operatorId)

variable (hashing : Hashing)

def addSnapshot (store : GovernanceStore) (draws : Draws) (workspace : Workspace) (state : GovernanceState)
    (actorId snapshotType : String) : GovernanceStore :=
  let previous := latest (snapshotTable hashing) store.snapshots workspace.id
  { store with snapshots := store.snapshots ++ [snapshotRecord hashing ⟨workspace, state, actorId, snapshotType⟩
      (previous.map SnapshotRecord.snapshotHash) draws.snapshotTime draws.snapshotId] }

def addAuditChain (store : GovernanceStore) (draws : Draws) (request : AuditRequest) : GovernanceStore :=
  let previous := latest (auditTable hashing) store.auditChain request.workspaceId
  { store with auditChain := store.auditChain ++ [auditRecord hashing request
      (previous.map AuditChainRecord.auditHash) draws.chainTime draws.chainId] }

structure System where
  base : WorkspaceStore := {}
  governance : GovernanceStore := {}

abbrev Answer (Result : Type) := Except WorkspaceError Result × System

variable (environment : Environment)

/-- `_authorize`: the workspace and its governance state, where the governor allows the action. -/
def authorize (system : System) (actor : Actor) (workspaceId action : String) :
    Except WorkspaceError (Workspace × GovernanceState) :=
  match system.base.find workspaceId with
  | none => .error (.notFound workspaceId)
  | some workspace =>
      let state := system.governance.state workspaceId
      let decision := authorizeAction (fromActor environment actor) workspace state action
        (system.governance.workspaceRoles workspaceId)
      if decision.allowed then .ok (workspace, state) else .error (.permissionDenied decision.reason)

def scanPayload (payload : Record) : Except WorkspaceError Unit :=
  match environment.scan payload with
  | some pattern => .error (.validation ("secret-shaped material detected: " ++ pattern))
  | none => .ok ()

/-- The audit entry of one action; its details hold texts and lists of texts. -/
def auditText (workspaceId actorId action : String) (details : Record)
    (distinct : DataTree.Distinct (.dict details : Json)) : AuditRequest :=
  { workspaceId, actorId, action, details, distinct }

def auditPair (workspaceId actorId action first second firstText secondText : String) (apart : first ≠ second) :
    AuditRequest :=
  auditText workspaceId actorId action [(first, .str firstText), (second, .str secondText)] (by
    rw [DataTree.distinct_dict_iff]
    exact ⟨by simp [apart], by simp [DataTree.Distinct]⟩)

def auditOne (workspaceId actorId action key text : String) : AuditRequest :=
  auditText workspaceId actorId action [(key, .str text)] (by
    rw [DataTree.distinct_dict_iff]
    exact ⟨by simp, by simp [DataTree.Distinct]⟩)

def auditFields (workspaceId actorId action : String) (fields : List String) : AuditRequest :=
  auditText workspaceId actorId action [("updated_fields", .list (fields.map Json.str))] (by
    rw [DataTree.distinct_dict_iff]
    refine ⟨by simp, ?_⟩
    intro entry member
    rw [List.mem_singleton.mp member, DataTree.Distinct, DataTree.distinctItems_iff]
    intro item inside
    obtain ⟨field, -, rfl⟩ := List.mem_map.mp inside
    trivial)

def createWorkspace (system : System) (draws : Draws) (actor : Actor) (payload : Record) : Answer Workspace :=
  let hashing := environment.platform.hashing
  let decision := authorizeCreate (fromActor environment actor)
  if decision.allowed then
    match scanPayload environment payload with
    | .error error => (.error error, system)
    | .ok _ =>
        match Workspaces.createWorkspace environment system.base draws.base actor payload with
        | (.error error, base) => (.error error, { system with base })
        | (.ok workspace, base) =>
            let governance := ensureGovernanceState system.governance workspace.id draws.stateTime
            let snapped := addSnapshot hashing governance draws workspace
                (governance.state workspace.id) actor.id "created"
            let audited := addAuditChain hashing snapped draws
                (auditPair workspace.id actor.id "workspace_created" "name"
              "visibility" workspace.name workspace.visibility (by decide))
            (.ok workspace, { base, governance := audited })
  else (.error (.permissionDenied decision.reason), system)

def getWorkspace (system : System) (actor : Actor) (workspaceId : String) : Except WorkspaceError Workspace :=
  (authorize environment system actor workspaceId "read").map Prod.fst

def listWorkspaces (system : System) (actor : Actor) : List Workspace :=
  (Workspaces.listWorkspaces system.base actor).filter fun workspace =>
    (authorizeAction (fromActor environment actor) workspace (system.governance.state workspace.id) "read"
      (system.governance.workspaceRoles workspace.id)).allowed

/-- The checks of `update_workspace`: what it is going to write. -/
def planUpdate (system : System) (actor : Actor) (workspaceId : String) (payload : Record) :
    Except WorkspaceError Normalized := do
  let authorized ← authorize environment system actor workspaceId "update"
  scanPayload environment payload
  let normalized ← validateWorkspacePayload environment payload true
  if normalized.visibility = some "shared" then
    let sharedWith := normalized.sharedWith.getD authorized.1.sharedWith
    requireShared normalized.visibility sharedWith
    return { normalized with sharedWith := some sharedWith }
  else return normalized

def updateWorkspace (system : System) (draws : Draws) (actor : Actor) (workspaceId : String) (payload : Record) :
    Answer Workspace :=
  let hashing := environment.platform.hashing
  match planUpdate environment system actor workspaceId payload with
  | .error error => (.error error, system)
  | .ok normalized =>
      match applyUpdate system.base workspaceId normalized draws.base.updatedAt with
      | (.error error, base) => (.error error, { system with base })
      | (.ok updated, base) =>
          let snapped := addSnapshot hashing system.governance draws updated
              (system.governance.state workspaceId) actor.id
            "updated"
          let audited := addAuditChain hashing snapped draws
            (auditFields workspaceId actor.id "workspace_updated" ((OrderedMap.keys payload).insertionSort (· ≤ ·)))
          (.ok updated, { base, governance := audited })

def deleteWorkspace (system : System) (draws : Draws) (actor : Actor) (workspaceId : String) : Answer Workspace :=
  let hashing := environment.platform.hashing
  match authorize environment system actor workspaceId "delete" with
  | .error error => (.error error, system)
  | .ok (_, state) =>
      match Workspaces.deleteWorkspace system.base draws.base actor workspaceId with
      | (.error error, base) => (.error error, { system with base })
      | (.ok deleted, base) =>
          let snapped := addSnapshot hashing system.governance draws deleted state actor.id "deleted"
          let audited := addAuditChain hashing snapped draws
            (auditOne workspaceId actor.id "workspace_deleted" "name" deleted.name)
          (.ok deleted, { base, governance := audited })

def exportWorkspace (system : System) (draws : Draws) (actor : Actor) (workspaceId : String) : Answer Bundle :=
  let hashing := environment.platform.hashing
  match authorize environment system actor workspaceId "export" with
  | .error error => (.error error, system)
  | .ok _ =>
      match Workspaces.exportWorkspace system.base draws.base actor workspaceId with
      | (.error error, base) => (.error error, { system with base })
      | (.ok exported, base) =>
          let audited := addAuditChain hashing system.governance draws
            (auditOne workspaceId actor.id "workspace_exported" "bundle_version" exported.bundleVersion)
          (.ok exported, { base, governance := audited })

structure AuditView where
  workspaceId : String
  governanceState : GovernanceState
  audit : List WorkspaceAudit
  auditChain : List AuditChainRecord
  snapshots : List SnapshotRecord

/-- SQLite takes a negative limit for none. -/
def limited {Row : Type} (rows : List Row) (limit : Int) : List Row := if limit < 0 then rows else rows.take limit.toNat

def getAudit (system : System) (actor : Actor) (workspaceId : String) (limit : Int) : Except WorkspaceError AuditView :=
  match authorize environment system actor workspaceId "audit" with
  | .error error => .error error
  | .ok (_, state) =>
      match Workspaces.getAudit system.base actor workspaceId limit with
      | .error error => .error error
      | .ok audit =>
          let hashing := environment.platform.hashing
          .ok ⟨workspaceId, state, audit,
            limited (newestFirst (auditTable hashing) system.governance.auditChain workspaceId) limit,
            limited (newestFirst (snapshotTable hashing) system.governance.snapshots workspaceId) limit⟩

def grantRole (system : System) (draws : Draws) (actor : Actor) (workspaceId operatorId role : String) :
    Answer RoleGrant :=
  match authorize environment system actor workspaceId "grant_role" with
  | .error error => (.error error, system)
  | .ok (workspace, _) =>
      if role ∉ assignableWorkspaceRoles then (.error (.validation "invalid workspace role"), system)
      else if operatorId = workspace.ownerId then (.error (.validation "cannot reassign owner role"), system)
      else
        let record : RoleGrant := ⟨workspaceId, operatorId, role, actor.id, draws.grantedAt⟩
        let granted := { system.governance with roles := upsertRole system.governance.roles record }
        let audited := addAuditChain environment.platform.hashing granted draws
          (auditPair workspaceId actor.id "workspace_role_granted" "operator_id" "role" operatorId role (by decide))
        (.ok record, { system with governance := audited })

def revokeRole (system : System) (draws : Draws) (actor : Actor) (workspaceId operatorId : String) : Answer Unit :=
  match authorize environment system actor workspaceId "revoke_role" with
  | .error error => (.error error, system)
  | .ok (workspace, _) =>
      if operatorId = workspace.ownerId then (.error (.validation "cannot revoke owner role"), system)
      else
        let revoked := { system.governance with roles := dropRole system.governance.roles workspaceId operatorId }
        let audited := addAuditChain environment.platform.hashing revoked draws
          (auditOne workspaceId actor.id "workspace_role_revoked" "operator_id" operatorId)
        (.ok (), { system with governance := audited })

end

/-- The operations of the service, and the one write of the governance store that it does not offer. -/
inductive Command where
  | create (draws : Draws) (actor : Actor) (payload : Record)
  | get (actor : Actor) (workspaceId : String)
  | list (actor : Actor)
  | update (draws : Draws) (actor : Actor) (workspaceId : String) (payload : Record)
  | delete (draws : Draws) (actor : Actor) (workspaceId : String)
  | export_ (draws : Draws) (actor : Actor) (workspaceId : String)
  | audit (actor : Actor) (workspaceId : String) (limit : Int)
  | grant (draws : Draws) (actor : Actor) (workspaceId operatorId role : String)
  | revoke (draws : Draws) (actor : Actor) (workspaceId operatorId : String)
  | govern (workspaceId : String) (updates : GovernanceUpdates) (now : String)

variable (environment : Environment)

def execute (system : System) : Command → System
  | .create draws actor payload => (createWorkspace environment system draws actor payload).2
  | .get _ _ | .list _ | .audit _ _ _ => system
  | .update draws actor workspaceId payload => (updateWorkspace environment system draws actor workspaceId payload).2
  | .delete draws actor workspaceId => (deleteWorkspace environment system draws actor workspaceId).2
  | .export_ draws actor workspaceId => (exportWorkspace environment system draws actor workspaceId).2
  | .grant draws actor workspaceId operatorId role =>
      (grantRole environment system draws actor workspaceId operatorId role).2
  | .revoke draws actor workspaceId operatorId => (revokeRole environment system draws actor workspaceId operatorId).2
  | .govern workspaceId updates now =>
      match updateGovernanceState system.governance workspaceId updates now with
      | .ok governance => { system with governance }
      | .error _ => system

def executeAll (system : System) (commands : List Command) : System := commands.foldl (execute environment) system

/-- Who asks, and for which workspace. -/
def Command.actor : Command → Option Actor
  | .create _ actor _ | .get actor _ | .list actor | .update _ actor _ _ | .delete _ actor _ | .export_ _ actor _
  | .audit actor _ _ | .grant _ actor _ _ _ | .revoke _ actor _ _ => some actor
  | .govern _ _ _ => none

end AutonomousApi.GovernedWorkspaces
