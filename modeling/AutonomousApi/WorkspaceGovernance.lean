import AutonomousApi.Workspaces

/-! The policy engine over workspaces (observatory/backend/workspace_governance.py): who an operator is,
which role it has on a workspace, and what the role and the governance state allow. -/

namespace AutonomousApi.WorkspaceGovernance

open JsonValue PythonText ObservatoryEvents Workspaces

/-- The row of a workspace's governance state. -/
structure GovernanceState where
  workspaceId : String
  sensitivity : String := "general"
  lifecycleState : String := "active"
  requiresApproval : Bool := false
  immutable : Bool := false
  certifiedAt : Option String := none
  certifiedBy : Option String := none
  updatedAt : Option String := none

structure OperatorIdentity where
  operatorId : String
  roles : List String
  clearance : String
  authMethod : String

structure GovernanceDecision where
  allowed : Bool
  reason : String
  deriving DecidableEq

def fromActor (environment : Environment) (actor : Actor) : OperatorIdentity where
  operatorId := actor.id
  roles :=
    match sortedSet (actor.roles.filter fun role => clean environment role ≠ "") with
    | [] => [actor.role]
    | roles => roles
  clearance := actor.clearance
  authMethod := actor.authMethod

def knownActions : List String :=
  ["create", "read", "update", "delete", "share", "export", "audit", "grant_role", "revoke_role", "lock", "unlock",
    "archive", "restore", "certify"]

def assignableWorkspaceRoles : List String := ["viewer", "auditor", "contributor", "admin"]

def rolePermissions : String → List String
  | "viewer" => ["read"]
  | "auditor" => ["read", "audit", "export"]
  | "contributor" => ["read", "update", "export"]
  | "admin" =>
      ["read", "update", "share", "audit", "export", "grant_role", "revoke_role", "lock", "unlock", "archive"]
  | "owner" =>
      ["read", "update", "delete", "share", "audit", "export", "grant_role", "revoke_role", "lock", "unlock", "archive",
        "restore", "certify"]
  | _ => []

def sensitivityLevels : List String := ["general", "restricted", "confidential"]

def lifecycleStates : List String := ["active", "locked", "archived"]

/-- The actions that an immutable workspace refuses. -/
def mutatingActions : List String :=
  ["update", "delete", "share", "grant_role", "revoke_role", "lock", "unlock", "archive", "restore", "certify"]

/-- The actions that wait for an approval. -/
def approvalActions : List String := "export" :: mutatingActions

variable (hashing : Hashing)

def workspaceGovernanceHash (workspace : Workspace) (state : GovernanceState) : String :=
  let content : Record :=
    [("workspace_id", .str workspace.id), ("name", .str workspace.name), ("description", .str workspace.description),
      ("owner_id", .str workspace.ownerId), ("visibility", .str workspace.visibility),
      ("shared_with", .list ((workspace.sharedWith.insertionSort (· ≤ ·)).map Json.str)),
      ("tags", .list ((workspace.tags.insertionSort (· ≤ ·)).map Json.str)), ("query", .dict workspace.query),
      ("version", .int workspace.version), ("sensitivity", .str state.sensitivity),
      ("lifecycle_state", .str state.lifecycleState), ("requires_approval", .bool state.requiresApproval),
      ("immutable", .bool state.immutable)]
  hashing.sha256 (canonicalJson hashing (.dict content))

def deny (reason : String) : GovernanceDecision := ⟨false, reason⟩

def authorizeCreate (identity : OperatorIdentity) : GovernanceDecision :=
  if identity.operatorId = "" ∨ identity.operatorId = "anonymous" then deny "operator_identity_required"
  else if "workspace_denied" ∈ identity.roles then deny "operator_denied"
  else if identity.clearance ∈ ["operator", "architect", "admin"] ∨ "workspace_creator" ∈ identity.roles ∨
      "global_workspace_admin" ∈ identity.roles then ⟨true, "create_allowed"⟩
  else deny "create_not_authorized"

def effectiveRole (identity : OperatorIdentity) (workspace : Workspace) (workspaceRoles : List (String × String)) :
    Option String :=
  let explicit := OrderedMap.get workspaceRoles identity.operatorId
  if workspace.ownerId = identity.operatorId then some "owner"
  else if "global_workspace_admin" ∈ identity.roles then some "admin"
  else if explicit.any fun role => role ≠ "" then explicit
  else if "global_auditor" ∈ identity.roles then some "auditor"
  else if workspace.visibility = "public" then some "viewer"
  else if workspace.visibility = "shared" ∧ identity.operatorId ∈ workspace.sharedWith then some "viewer"
  else none

def authorizeAction (identity : OperatorIdentity) (workspace : Workspace) (state : GovernanceState) (action : String)
    (workspaceRoles : List (String × String)) : GovernanceDecision :=
  if action ∉ knownActions then deny "unknown_action"
  else if "workspace_denied" ∈ identity.roles then deny "operator_denied"
  else
    match effectiveRole identity workspace workspaceRoles with
    | none => deny "no_workspace_access"
    | some role =>
        if state.lifecycleState ∉ lifecycleStates then deny "invalid_lifecycle_state"
        else if state.lifecycleState ∈ ["locked", "archived"] ∧ action ∉ ["read", "audit"] then
          deny ("lifecycle_" ++ state.lifecycleState ++ "_blocks_action")
        else if state.immutable ∧ action ∈ mutatingActions then deny "workspace_immutable"
        else if state.requiresApproval ∧ action ∈ approvalActions then deny "approval_required"
        else if state.sensitivity ∈ ["restricted", "confidential"] ∧ action = "export" ∧
            role ∉ ["owner", "admin", "auditor"] then deny "sensitivity_blocks_export"
        else if action ∉ rolePermissions role then deny "role_lacks_permission"
        else ⟨true, "allowed"⟩

variable {identity : OperatorIdentity} {workspace : Workspace} {state : GovernanceState} {action : String}
  {workspaceRoles : List (String × String)}

/-- The role by which an action is within an operator's permissions. -/
def Permitted (identity : OperatorIdentity) (workspace : Workspace) (workspaceRoles : List (String × String))
    (action : String) : Prop :=
  ∃ role, effectiveRole identity workspace workspaceRoles = some role ∧ action ∈ rolePermissions role

/-- The states in which a workspace takes changes. -/
def Open (state : GovernanceState) : Prop :=
  state.lifecycleState ≠ "locked" ∧ state.lifecycleState ≠ "archived" ∧ state.immutable = false ∧
    state.requiresApproval = false

/-- What an allowance rests on. -/
theorem allowed_iff :
    (authorizeAction identity workspace state action workspaceRoles).allowed = true ↔
      action ∈ knownActions ∧ "workspace_denied" ∉ identity.roles ∧ state.lifecycleState ∈ lifecycleStates ∧
        (state.lifecycleState ∈ ["locked", "archived"] → action ∈ ["read", "audit"]) ∧
        (state.immutable = true → action ∉ mutatingActions) ∧
        (state.requiresApproval = true → action ∉ approvalActions) ∧
        ∃ role, effectiveRole identity workspace workspaceRoles = some role ∧ action ∈ rolePermissions role ∧
          (state.sensitivity ∈ ["restricted", "confidential"] → action = "export" →
            role ∈ ["owner", "admin", "auditor"]) := by
  rw [authorizeAction]
  by_cases known : action ∈ knownActions
  · by_cases denied : "workspace_denied" ∈ identity.roles
    · simp [known, denied, deny]
    · rw [if_neg (not_not.mpr known), if_neg denied]
      cases found : effectiveRole identity workspace workspaceRoles with
      | none => simp [deny]
      | some role =>
          simp only
          split
          · next other => simp [deny, other]
          · next valid =>
            split
            · next blocked => simp [deny, blocked.1, blocked.2]
            · next passes =>
              split
              · next blocked => simp [deny, blocked.1, blocked.2]
              · next mutable =>
                split
                · next blocked => simp [deny, blocked.1, blocked.2]
                · next approved =>
                  split
                  · next blocked =>
                    refine iff_of_false (by simp [deny]) ?_
                    rintro ⟨-, -, -, -, -, -, other, same, -, exports⟩
                    cases same
                    exact blocked.2.2 (exports blocked.1 blocked.2.1)
                  · next general =>
                    by_cases holds : action ∈ rolePermissions role
                    · rw [not_and_not_right] at passes
                      rw [not_and] at mutable approved
                      have exports : state.sensitivity ∈ ["restricted", "confidential"] → action = "export" →
                          role ∈ ["owner", "admin", "auditor"] :=
                        fun sensitive export_ => by_contra fun outside => general ⟨sensitive, export_, outside⟩
                      simp only [not_not] at valid
                      rw [if_neg (not_not.mpr holds)]
                      exact iff_of_true rfl ⟨known, denied, valid, passes, mutable, approved, role, rfl, holds, exports⟩
                    · simp [deny, holds]
  · simp [known, deny]

end AutonomousApi.WorkspaceGovernance
