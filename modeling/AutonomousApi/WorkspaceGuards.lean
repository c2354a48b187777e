import AutonomousApi.GovernedWorkspaces

/-! Which permission guards which part of a workspace, over all runs of the governed service. Every
command has one of a few effects on the stored workspaces and the role rows; the permissions are read off
the effects. An update is authorized as an update, whatever fields its payload names. -/

namespace AutonomousApi.WorkspaceGuards

open Workspaces hiding createWorkspace getWorkspace listWorkspaces deleteWorkspace exportWorkspace getAudit
open WorkspaceGovernance WorkspaceChains GovernedWorkspaces

variable {environment : Environment}

section

variable {identity : OperatorIdentity} {workspace : Workspace} {state : GovernanceState} {action : String}
  {workspaceRoles : List (String × String)}

theorem permitted_of_allowed
    (allowed : (authorizeAction identity workspace state action workspaceRoles).allowed = true) :
    Permitted identity workspace workspaceRoles action := by
  obtain ⟨-, -, -, -, -, -, role, effective, permitted, -⟩ := allowed_iff.mp allowed
  exact ⟨role, effective, permitted⟩

theorem open_of_allowed (mutating : action ∈ mutatingActions)
    (allowed : (authorizeAction identity workspace state action workspaceRoles).allowed = true) : Open state := by
  obtain ⟨-, -, -, passive, mutable, approved, -⟩ := allowed_iff.mp allowed
  have active : action ∉ ["read", "audit"] := by
    intro passes
    rcases List.mem_cons.mp passes with rfl | rest
    · exact absurd mutating (by decide)
    · rw [List.mem_singleton.mp rest] at mutating
      exact absurd mutating (by decide)
  refine ⟨?_, ?_, ?_, ?_⟩
  · intro locked
    exact active (passive (by simp [locked]))
  · intro archived
    exact active (passive (by simp [archived]))
  · exact Bool.eq_false_iff.mpr fun immutable => mutable immutable mutating
  · exact Bool.eq_false_iff.mpr fun required => approved required (List.mem_cons_of_mem _ mutating)

theorem authorize_ok {system : System} {actor : Actor} {workspaceId : String}
    (authorized : authorize environment system actor workspaceId action = .ok (workspace, state)) :
    system.base.find workspaceId = some workspace ∧ state = system.governance.state workspaceId ∧
      (authorizeAction (fromActor environment actor) workspace state action
        (system.governance.workspaceRoles workspaceId)).allowed = true := by
  rw [authorize] at authorized
  cases found : system.base.find workspaceId with
  | none =>
      rw [found] at authorized
      cases authorized
  | some stored =>
      rw [found] at authorized
      by_cases allowed : (authorizeAction (fromActor environment actor) stored
          (system.governance.state workspaceId) action
          (system.governance.workspaceRoles workspaceId)).allowed = true
      · simp only [allowed, if_true, Except.ok.injEq, Prod.mk.injEq] at authorized
        obtain ⟨rfl, rfl⟩ := authorized
        exact ⟨rfl, rfl, allowed⟩
      · simp [allowed] at authorized

end

section

variable {store : WorkspaceStore} {workspace : Workspace} {workspaceId : String}

theorem find_id (found : store.find workspaceId = some workspace) : workspace.id = workspaceId := by
  simpa using List.find?_some found

/-- A row replaced under its own id is found under it, and the other rows as before. -/
theorem find_replaced (found : store.find workspaceId = some workspace) {updated : Workspace}
    (same : updated.id = workspaceId) (id : String) :
    (store.workspaces.map fun row => if row.id = workspaceId then updated else row).find? (fun row => row.id = id) =
      if id = workspaceId then some updated else store.find id := by
  have kept : ((fun row : Workspace => decide (row.id = id)) ∘ fun row : Workspace =>
      if row.id = workspaceId then updated else row) = fun row => decide (row.id = id) := by
    funext row
    by_cases here : row.id = workspaceId
    · simp [here, same]
    · simp [here]
  rw [List.find?_map, kept]
  by_cases here : id = workspaceId
  · subst here
    rw [WorkspaceStore.find] at found
    rw [found, if_pos rfl, Option.map_some, if_pos (find_id found)]
  · rw [if_neg here, WorkspaceStore.find]
    cases other : store.workspaces.find? fun row => row.id = id with
    | none => rfl
    | some row =>
        have named : row.id = id := by simpa using List.find?_some other
        rw [Option.map_some, if_neg (by rw [named]; exact here)]

theorem find_appended (absent : store.find workspace.id = none) (id : String) :
    (store.workspaces ++ [workspace]).find? (fun row => row.id = id) =
      if id = workspace.id then some workspace else store.find id := by
  rw [WorkspaceStore.find] at absent
  rw [List.find?_append, WorkspaceStore.find]
  by_cases here : id = workspace.id
  · rw [here, absent, if_pos rfl]
    simp
  · rw [if_neg here]
    simp [Ne.symm here]

theorem find_removed (store : WorkspaceStore) (workspaceId id : String) :
    (store.workspaces.filter fun row => row.id ≠ workspaceId).find? (fun row => row.id = id) =
      if id = workspaceId then none else store.find id := by
  rw [List.find?_filter]
  by_cases here : id = workspaceId
  · rw [if_pos here, List.find?_eq_none]
    intro row _
    simp [here]
  · rw [if_neg here, WorkspaceStore.find]
    congr 1
    funext row
    by_cases named : row.id = id
    · simp [named, here]
    · simp [named]

end

section

/-- What a command other than an update can do to the stored workspaces and the roles. -/
inductive Effect (environment : Environment) (system after : System) : Command → Prop where
  | still {command : Command} (workspaces : after.base.workspaces = system.base.workspaces)
      (roles : after.governance.roles = system.governance.roles) : Effect environment system after command
  | created {draws : Draws} {actor : Actor} {payload : ObservatoryEvents.Record} {created : Workspace}
      (fresh : system.base.find created.id = none)
      (workspaces : after.base.workspaces = system.base.workspaces ++ [created])
      (roles : after.governance.roles = system.governance.roles) :
      Effect environment system after (.create draws actor payload)
  | deleted {draws : Draws} {actor : Actor} {workspaceId : String} {workspace : Workspace} {state : GovernanceState}
      (authorized : authorize environment system actor workspaceId "delete" = .ok (workspace, state))
      (owned : workspace.ownerId = actor.id)
      (workspaces : after.base.workspaces = system.base.workspaces.filter fun row => row.id ≠ workspaceId)
      (roles : after.governance.roles = system.governance.roles) :
      Effect environment system after (.delete draws actor workspaceId)
  | granted {draws : Draws} {actor : Actor} {workspaceId operatorId role : String} {workspace : Workspace}
      {state : GovernanceState}
      (authorized : authorize environment system actor workspaceId "grant_role" = .ok (workspace, state))
      (assignable : role ∈ assignableWorkspaceRoles)
      (workspaces : after.base.workspaces = system.base.workspaces)
      (roles : after.governance.roles =
        upsertRole system.governance.roles ⟨workspaceId, operatorId, role, actor.id, draws.grantedAt⟩) :
      Effect environment system after (.grant draws actor workspaceId operatorId role)
  | revoked {draws : Draws} {actor : Actor} {workspaceId operatorId : String} {workspace : Workspace}
      {state : GovernanceState}
      (authorized : authorize environment system actor workspaceId "revoke_role" = .ok (workspace, state))
      (workspaces : after.base.workspaces = system.base.workspaces)
      (roles : after.governance.roles = dropRole system.governance.roles workspaceId operatorId) :
      Effect environment system after (.revoke draws actor workspaceId operatorId)

variable {id workspaceId : String} {system : System} {actor : Actor} {payload : ObservatoryEvents.Record}

theorem roleRows_upsert (roles : List RoleGrant) (grant : RoleGrant) (other : id ≠ grant.workspaceId) :
    (upsertRole roles grant).filter (fun row => row.workspaceId = id) =
      roles.filter fun row => row.workspaceId = id := by
  have replaced (rows : List RoleGrant) :
      (rows.map fun row => if row.workspaceId = grant.workspaceId ∧ row.operatorId = grant.operatorId then grant
        else row).filter (fun row => row.workspaceId = id) = rows.filter fun row => row.workspaceId = id := by
    induction rows with
    | nil => rfl
    | cons row rest ih =>
        rw [List.map_cons, List.filter_cons, List.filter_cons, ih]
        by_cases taken : row.workspaceId = grant.workspaceId ∧ row.operatorId = grant.operatorId
        · have elsewhere : row.workspaceId ≠ id := taken.1.trans_ne other.symm
          simp [if_pos taken, other.symm, elsewhere]
        · simp [if_neg taken]
  rw [upsertRole]
  split
  · exact replaced roles
  · simp [Ne.symm other]

theorem roleRows_drop (roles : List RoleGrant) (workspaceId operatorId : String) (other : id ≠ workspaceId) :
    (dropRole roles workspaceId operatorId).filter (fun row => row.workspaceId = id) =
      roles.filter fun row => row.workspaceId = id := by
  rw [dropRole, List.filter_filter]
  refine List.filter_congr fun row _ => ?_
  by_cases here : row.workspaceId = id
  · simp [here, other]
  · simp [here]

theorem roles_ensure (store : GovernanceStore) (workspaceId now : String) :
    (ensureGovernanceState store workspaceId now).roles = store.roles := by
  rw [ensureGovernanceState]
  split
  · rfl
  · rfl

/-- An update that passes its checks replaces the row. -/
theorem update_written (draws : Draws) {workspace : Workspace} {normalized : Normalized}
    (found : system.base.find workspaceId = some workspace)
    (planned : planUpdate environment system actor workspaceId payload = .ok normalized)
    (named : normalized.name ≠ some none) :
    ∃ updated : Workspace, updated.visibility = normalized.visibility.getD workspace.visibility ∧
      updated.sharedWith = normalized.sharedWith.getD workspace.sharedWith ∧ updated.ownerId = workspace.ownerId ∧
      updated.id = workspaceId ∧
      (updateWorkspace environment system draws actor workspaceId payload).2.base.workspaces =
        (system.base.workspaces.map fun row => if row.id = workspaceId then updated else row) ∧
      (updateWorkspace environment system draws actor workspaceId payload).2.governance.roles =
      system.governance.roles := by
  have written : ∃ updated : Workspace, updated.visibility = normalized.visibility.getD workspace.visibility ∧
      updated.sharedWith = normalized.sharedWith.getD workspace.sharedWith ∧
        updated.ownerId = workspace.ownerId ∧ updated.id = workspace.id ∧
          applyUpdate system.base workspaceId normalized draws.base.updatedAt =
            (.ok updated, { system.base with workspaces := system.base.workspaces.map fun row =>
              if row.id = workspaceId then updated.row else row }) := by
    cases name : normalized.name with
    | none =>
        simp only [applyUpdate, found, name]
        exact ⟨_, by rfl, by rfl, by rfl, by rfl, rfl⟩
    | some given =>
        cases given with
        | none => exact absurd name named
        | some text =>
            simp only [applyUpdate, found, name]
            exact ⟨_, by rfl, by rfl, by rfl, by rfl, rfl⟩
  obtain ⟨updated, visibility, sharedWith, owner, sameId, applied⟩ := written
  refine ⟨updated.row, visibility, sharedWith, owner, sameId.trans (find_id found), ?_, ?_⟩
  · rw [updateWorkspace, planned]
    simp only [applied]
  · rw [updateWorkspace, planned]
    simp only [applied]
    rfl

/-- An update that fails one of its checks changes no workspace and no role. -/
theorem update_refused (draws : Draws)
    (refused : ∀ workspace normalized, system.base.find workspaceId = some workspace →
      planUpdate environment system actor workspaceId payload = .ok normalized → normalized.name = some none) :
    Effect environment system (updateWorkspace environment system draws actor workspaceId payload).2
      (.update draws actor workspaceId payload) := by
  rw [updateWorkspace]
  cases planned : planUpdate environment system actor workspaceId payload with
  | error error => exact .still rfl rfl
  | ok normalized =>
      cases found : system.base.find workspaceId with
      | none =>
          simp only [applyUpdate, found]
          exact .still rfl rfl
      | some workspace =>
          simp only [applyUpdate, found, refused workspace normalized found planned]
          exact .still rfl rfl

variable (system : System)

theorem delete_effect (draws : Draws) (actor : Actor) (workspaceId : String) :
    Effect environment system (deleteWorkspace environment system draws actor workspaceId).2
      (.delete draws actor workspaceId) := by
  rw [deleteWorkspace]
  cases authorized : authorize environment system actor workspaceId "delete" with
  | error error => exact .still rfl rfl
  | ok pair =>
      cases pair with
      | mk workspace state =>
          have found := (authorize_ok authorized).1
          by_cases owned : workspace.ownerId = actor.id
          · simp only [Workspaces.deleteWorkspace, removeWorkspace, found, owned, ne_eq, not_true_eq_false, if_false]
            exact .deleted authorized owned rfl rfl
          · simp only [Workspaces.deleteWorkspace, removeWorkspace, found, owned, ne_eq, not_false_eq_true, if_true]
            exact .still rfl rfl

theorem create_effect (draws : Draws) (actor : Actor) (payload : ObservatoryEvents.Record) :
    Effect environment system (createWorkspace environment system draws actor payload).2
      (.create draws actor payload) := by
  rw [createWorkspace]
  split
  · cases scanned : scanPayload environment payload with
    | error error => exact .still rfl rfl
    | ok _ =>
        simp only [Workspaces.createWorkspace]
        cases validated : validateWorkspacePayload environment payload false with
        | error error => exact .still rfl rfl
        | ok normalized =>
            cases taken : system.base.find draws.base.workspaceId with
            | some other =>
                simp only [insertWorkspace, taken]
                exact .still rfl rfl
            | none =>
                simp only [insertWorkspace, taken]
                exact .created taken rfl (roles_ensure system.governance draws.base.workspaceId draws.stateTime)
  · exact .still rfl rfl

theorem export_effect (draws : Draws) (actor : Actor) (workspaceId : String) :
    Effect environment system (exportWorkspace environment system draws actor workspaceId).2
      (.export_ draws actor workspaceId) := by
  rw [exportWorkspace]
  cases authorize environment system actor workspaceId "export" with
  | error error => exact .still rfl rfl
  | ok pair =>
      simp only [Workspaces.exportWorkspace]
      cases Workspaces.getWorkspace system.base actor workspaceId with
      | error error => exact .still rfl rfl
      | ok workspace => exact .still rfl rfl

theorem grant_effect (draws : Draws) (actor : Actor) (workspaceId operatorId role : String) :
    Effect environment system (grantRole environment system draws actor workspaceId operatorId role).2
      (.grant draws actor workspaceId operatorId role) := by
  rw [grantRole]
  cases authorized : authorize environment system actor workspaceId "grant_role" with
  | error error => exact .still rfl rfl
  | ok pair =>
      cases pair with
      | mk workspace state =>
          by_cases assignable : role ∈ assignableWorkspaceRoles
          · by_cases owning : operatorId = workspace.ownerId
            · simp only [assignable, owning, not_true_eq_false, if_false, if_true]
              exact .still rfl rfl
            · simp only [assignable, owning, not_true_eq_false, if_false]
              exact .granted authorized assignable rfl rfl
          · simp only [assignable, not_false_eq_true, if_true]
            exact .still rfl rfl

theorem revoke_effect (draws : Draws) (actor : Actor) (workspaceId operatorId : String) :
    Effect environment system (revokeRole environment system draws actor workspaceId operatorId).2
      (.revoke draws actor workspaceId operatorId) := by
  rw [revokeRole]
  cases authorized : authorize environment system actor workspaceId "revoke_role" with
  | error error => exact .still rfl rfl
  | ok pair =>
      cases pair with
      | mk workspace state =>
          simp only
          split
          · exact .still rfl rfl
          · exact .revoked authorized rfl rfl

theorem govern_effect (workspaceId : String) (updates : GovernanceUpdates) (now : String) :
    Effect environment system (execute environment system (.govern workspaceId updates now))
      (.govern workspaceId updates now) := by
  rw [execute, updateGovernanceState]
  split
  · next governance updated =>
    split at updated
    · cases updated
    · split at updated
      · cases updated
      · split at updated
        · cases updated
          exact .still rfl rfl
        · cases updated
          exact .still rfl rfl
  · exact .still rfl rfl

end

section

variable (environment)

/-- The command comes from an actor whose role on the workspace has the permission at that moment. -/
def Acts (system : System) (command : Command) (workspace : Workspace) (action : String) : Prop :=
  ∃ actor, command.actor = some actor ∧
    Permitted (fromActor environment actor) workspace (system.governance.workspaceRoles workspace.id) action

/-- What a command may do to a workspace, by the permissions of its actor. -/
structure Guarded (system : System) (command : Command) (after : System) : Prop where
  shared : ∀ id workspace changed, system.base.find id = some workspace → after.base.find id = some changed →
    (changed.visibility ≠ workspace.visibility ∨ changed.sharedWith ≠ workspace.sharedWith) →
      Acts environment system command workspace "share"
  content : ∀ id workspace changed, system.base.find id = some workspace → after.base.find id = some changed →
    changed ≠ { workspace with visibility := changed.visibility, sharedWith := changed.sharedWith } →
      Acts environment system command workspace "update"
  roles : ∀ id, after.governance.roleRows id ≠ system.governance.roleRows id →
    ∃ workspace, system.base.find id = some workspace ∧
      (Acts environment system command workspace "grant_role" ∨ Acts environment system command workspace "revoke_role")
  deleted : ∀ id workspace, system.base.find id = some workspace → after.base.find id = none →
    ∃ actor, command.actor = some actor ∧ actor.id = workspace.ownerId
  owner : ∀ id workspace changed, system.base.find id = some workspace → after.base.find id = some changed →
    changed.ownerId = workspace.ownerId
  closed : ∀ id workspace, system.base.find id = some workspace → ¬ Open (system.governance.state id) →
    after.base.find id = some workspace ∧ after.governance.roleRows id = system.governance.roleRows id

/-- An update that is going to be written gives another visibility or other readers only by an actor
that may share. -/
def Entitled (system : System) : Command → Prop
  | .update _ actor workspaceId payload =>
      ∀ workspace normalized, system.base.find workspaceId = some workspace →
        planUpdate environment system actor workspaceId payload = .ok normalized → normalized.name ≠ some none →
          Permitted (fromActor environment actor) workspace (system.governance.workspaceRoles workspaceId) "share" ∨
            normalized.visibility.getD workspace.visibility = workspace.visibility ∧
              normalized.sharedWith.getD workspace.sharedWith = workspace.sharedWith
  | _ => True

variable {environment} {system after : System}

theorem find_same {left right : WorkspaceStore} (same : left.workspaces = right.workspaces) (id : String) :
    left.find id = right.find id := by
  rw [WorkspaceStore.find, same, WorkspaceStore.find]

theorem roleRows_same {left right : GovernanceStore} (same : left.roles = right.roles) (id : String) :
    left.roleRows id = right.roleRows id := by
  rw [GovernanceStore.roleRows, same, GovernanceStore.roleRows]

variable {command : Command} {actor : Actor} {workspaceId action : String} {workspace : Workspace}
variable {state : GovernanceState}

/-- A command that leaves the workspaces and the roles alone is guarded. -/
theorem guarded_still (workspaces : after.base.workspaces = system.base.workspaces)
    (roles : after.governance.roles = system.governance.roles) : Guarded environment system command after where
  shared := by
    intro id workspace changed found kept differs
    rw [find_same workspaces, found] at kept
    cases kept
    simp at differs
  content := by
    intro id workspace changed found kept differs
    rw [find_same workspaces, found] at kept
    cases kept
    exact absurd rfl differs
  roles := fun id differs => absurd (roleRows_same roles id) differs
  deleted := by
    intro id workspace found gone
    rw [find_same workspaces, found] at gone
    cases gone
  owner := by
    intro id workspace changed found kept
    rw [find_same workspaces, found] at kept
    cases kept
    rfl
  closed := fun id workspace found _ => ⟨(find_same workspaces id).trans found, roleRows_same roles id⟩

theorem planUpdate_authorized {payload : ObservatoryEvents.Record}
    {normalized : Normalized} (planned : planUpdate environment system actor workspaceId payload = .ok normalized) :
    ∃ workspace state, authorize environment system actor workspaceId "update" = .ok (workspace, state) := by
  obtain ⟨pair, authorized, -⟩ := FailFast.bind_ok planned
  exact ⟨pair.1, pair.2, authorized⟩

theorem acts_of_authorized (asked : command.actor = some actor)
    (authorized : authorize environment system actor workspaceId action = .ok (workspace, state)) :
    Acts environment system command workspace action := by
  obtain ⟨found, -, allowed⟩ := authorize_ok authorized
  rw [← find_id found] at allowed
  exact ⟨actor, asked, permitted_of_allowed allowed⟩

theorem open_of_authorized (mutating : action ∈ mutatingActions)
    (authorized : authorize environment system actor workspaceId action = .ok (workspace, state)) :
    Open (system.governance.state workspaceId) := by
  obtain ⟨-, rfl, allowed⟩ := authorize_ok authorized
  exact open_of_allowed mutating allowed

/-- A command that may write the role rows of one workspace is guarded. -/
theorem guarded_assigned (asked : command.actor = some actor)
    (assigning : action = "grant_role" ∨ action = "revoke_role")
    (authorized : authorize environment system actor workspaceId action = .ok (workspace, state))
    (workspaces : after.base.workspaces = system.base.workspaces)
    (roles : ∀ id, id ≠ workspaceId → after.governance.roleRows id = system.governance.roleRows id) :
    Guarded environment system command after where
  shared := by
    intro id stored changed found now differs
    cases ((find_same workspaces id).trans found).symm.trans now
    simp at differs
  content := by
    intro id stored changed found now differs
    cases ((find_same workspaces id).trans found).symm.trans now
    exact absurd rfl differs
  roles := by
    intro id differs
    by_cases here : id = workspaceId
    · subst here
      refine ⟨workspace, (authorize_ok authorized).1, ?_⟩
      rcases assigning with rfl | rfl
      · exact .inl (acts_of_authorized asked authorized)
      · exact .inr (acts_of_authorized asked authorized)
    · exact absurd (roles id here) differs
  deleted := by
    intro id stored found gone
    cases ((find_same workspaces id).trans found).symm.trans gone
  owner := by
    intro id stored changed found now
    cases ((find_same workspaces id).trans found).symm.trans now
    rfl
  closed := by
    intro id stored found closed
    refine ⟨(find_same workspaces id).trans found, ?_⟩
    by_cases here : id = workspaceId
    · subst here
      have mutating : action ∈ mutatingActions := by
        rcases assigning with rfl | rfl
        · decide
        · decide
      exact absurd (open_of_authorized mutating authorized) closed
    · exact roles id here

/-- Commands other than updates are guarded. -/
theorem guarded_of_effect (effect : Effect environment system after command) :
    Guarded environment system command after := by
  cases effect with
  | still workspaces roles => exact guarded_still workspaces roles
  | @created draws actor payload created fresh workspaces roles =>
      -- a stored workspace is none of the new one's id
      have kept (id : String) (workspace : Workspace) (found : system.base.find id = some workspace) :
          after.base.find id = some workspace := by
        rw [WorkspaceStore.find, workspaces, find_appended fresh, if_neg, found]
        rintro rfl
        cases fresh.symm.trans found
      constructor
      · intro id workspace changed found now differs
        cases (kept id workspace found).symm.trans now
        simp at differs
      · intro id workspace changed found now differs
        cases (kept id workspace found).symm.trans now
        exact absurd rfl differs
      · exact fun id differs => absurd (roleRows_same roles id) differs
      · intro id workspace found gone
        cases (kept id workspace found).symm.trans gone
      · intro id workspace changed found now
        cases (kept id workspace found).symm.trans now
        rfl
      · exact fun id workspace found _ => ⟨kept id workspace found, roleRows_same roles id⟩
  | @deleted draws actor workspaceId removed state authorized owned workspaces roles =>
      have stands := (authorize_ok authorized).1
      have kept (id : String) (workspace : Workspace) (found : system.base.find id = some workspace) :
          after.base.find id = none ∧ workspace = removed ∧ id = workspaceId ∨ after.base.find id = some workspace := by
        rw [WorkspaceStore.find, workspaces, find_removed]
        by_cases here : id = workspaceId
        · subst here
          cases stands.symm.trans found
          exact .inl ⟨if_pos rfl, rfl, rfl⟩
        · rw [if_neg here]
          exact .inr found
      constructor
      · intro id workspace changed found now differs
        rcases kept id workspace found with ⟨gone, -, -⟩ | same
        · cases gone.symm.trans now
        · cases same.symm.trans now
          simp at differs
      · intro id workspace changed found now differs
        rcases kept id workspace found with ⟨gone, -, -⟩ | same
        · cases gone.symm.trans now
        · cases same.symm.trans now
          exact absurd rfl differs
      · exact fun id differs => absurd (roleRows_same roles id) differs
      · intro id workspace found gone
        rcases kept id workspace found with ⟨-, rfl, -⟩ | same
        · exact ⟨actor, rfl, owned.symm⟩
        · cases same.symm.trans gone
      · intro id workspace changed found now
        rcases kept id workspace found with ⟨gone, -, -⟩ | same
        · cases gone.symm.trans now
        · cases same.symm.trans now
          rfl
      · intro id workspace found closed
        rcases kept id workspace found with ⟨-, -, rfl⟩ | same
        · exact absurd (open_of_authorized (by decide) authorized) closed
        · exact ⟨same, roleRows_same roles id⟩
  | granted authorized assignable workspaces roles =>
      refine guarded_assigned rfl (.inl rfl) authorized workspaces fun id other => ?_
      rw [GovernanceStore.roleRows, roles]
      exact roleRows_upsert system.governance.roles _ other
  | @revoked draws actor workspaceId operatorId workspace state authorized workspaces roles =>
      refine guarded_assigned rfl (.inr rfl) authorized workspaces fun id other => ?_
      rw [GovernanceStore.roleRows, roles]
      exact roleRows_drop system.governance.roles workspaceId operatorId other

/-- An update is guarded exactly when its actor is entitled to what it shares. -/
theorem guarded_update_iff (draws : Draws) (actor : Actor) (workspaceId : String) (payload : ObservatoryEvents.Record) :
    Guarded environment system (.update draws actor workspaceId payload)
        (updateWorkspace environment system draws actor workspaceId payload).2 ↔
      Entitled environment system (.update draws actor workspaceId payload) := by
  by_cases written : ∃ workspace normalized, system.base.find workspaceId = some workspace ∧
      planUpdate environment system actor workspaceId payload = .ok normalized ∧ normalized.name ≠ some none
  · obtain ⟨workspace, normalized, found, planned, named⟩ := written
    obtain ⟨updated, visibility, sharedWith, owner, sameId, written, roles⟩ := update_written draws found planned named
    have workspaces (id : String) :
        (updateWorkspace environment system draws actor workspaceId payload).2.base.find id =
        if id = workspaceId then some updated else system.base.find id := by
      rw [WorkspaceStore.find, written]
      exact find_replaced found sameId id
    obtain ⟨stored, state, authorized⟩ := planUpdate_authorized planned
    cases found.symm.trans (authorize_ok authorized).1
    have here : (updateWorkspace environment system draws actor workspaceId payload).2.base.find workspaceId =
        some updated := by
      rw [workspaces, if_pos rfl]
    constructor
    · intro guarded other again found' planned' named'
      cases found.symm.trans found'
      cases planned.symm.trans planned'
      by_cases same : normalized.visibility.getD workspace.visibility = workspace.visibility ∧
          normalized.sharedWith.getD workspace.sharedWith = workspace.sharedWith
      · exact .inr same
      · left
        have differs : updated.visibility ≠ workspace.visibility ∨ updated.sharedWith ≠ workspace.sharedWith := by
          rw [visibility, sharedWith]
          exact not_and_or.mp same
        obtain ⟨asker, asked, permitted⟩ := guarded.shared workspaceId workspace updated found here differs
        cases asked
        rw [find_id found] at permitted
        exact permitted
    · intro entitled
      -- the row under another id stays
      have split (id : String) (stored changed : Workspace) (before : system.base.find id = some stored)
          (now : (updateWorkspace environment system draws actor workspaceId payload).2.base.find id = some changed) :
          (id = workspaceId ∧ stored = workspace ∧ changed = updated) ∨ changed = stored := by
        rw [workspaces] at now
        by_cases same : id = workspaceId
        · subst same
          cases found.symm.trans before
          rw [if_pos rfl] at now
          cases now
          exact .inl ⟨rfl, rfl, rfl⟩
        · rw [if_neg same, before] at now
          cases now
          exact .inr rfl
      constructor
      · intro id stored changed before now differs
        rcases split id stored changed before now with ⟨rfl, rfl, rfl⟩ | rfl
        · rcases entitled _ normalized found planned named with permitted | ⟨sameVisibility, sameShared⟩
          · rw [← find_id found] at permitted
            exact ⟨actor, rfl, permitted⟩
          · rw [visibility, sharedWith] at differs
            exact absurd ⟨sameVisibility, sameShared⟩ (not_and_or.mpr differs)
        · simp at differs
      · intro id stored changed before now differs
        rcases split id stored changed before now with ⟨rfl, rfl, rfl⟩ | rfl
        · exact acts_of_authorized rfl authorized
        · exact absurd rfl differs
      · exact fun id differs => absurd (roleRows_same roles id) differs
      · intro id stored before gone
        rw [workspaces] at gone
        by_cases same : id = workspaceId
        · rw [if_pos same] at gone
          cases gone
        · rw [if_neg same, before] at gone
          cases gone
      · intro id stored changed before now
        rcases split id stored changed before now with ⟨rfl, rfl, rfl⟩ | rfl
        · exact owner
        · rfl
      · intro id stored before closed
        have other : id ≠ workspaceId := by
          rintro rfl
          exact closed (open_of_authorized (by decide) authorized)
        refine ⟨?_, roleRows_same roles id⟩
        rw [workspaces, if_neg other, before]
  · have refused : ∀ workspace normalized, system.base.find workspaceId = some workspace →
        planUpdate environment system actor workspaceId payload = .ok normalized → normalized.name = some none := by
      intro workspace normalized found planned
      by_contra named
      exact written ⟨workspace, normalized, found, planned, named⟩
    refine iff_of_true (guarded_of_effect (update_refused draws refused)) ?_
    intro workspace normalized found planned named
    exact absurd (refused workspace normalized found planned) named

/-- Every command is guarded, an update exactly when its actor is entitled to what it shares. -/
theorem guarded_iff (command : Command) :
    Guarded environment system command (execute environment system command) ↔ Entitled environment system command := by
  have still {command : Command} : Effect environment system system command := .still rfl rfl
  cases command with
  | create draws actor payload =>
      exact iff_of_true (guarded_of_effect (create_effect system draws actor payload)) trivial
  | get actor workspaceId => exact iff_of_true (guarded_of_effect still) trivial
  | list actor => exact iff_of_true (guarded_of_effect still) trivial
  | update draws actor workspaceId payload => exact guarded_update_iff draws actor workspaceId payload
  | delete draws actor workspaceId =>
      exact iff_of_true (guarded_of_effect (delete_effect system draws actor workspaceId)) trivial
  | export_ draws actor workspaceId =>
      exact iff_of_true (guarded_of_effect (export_effect system draws actor workspaceId)) trivial
  | audit actor workspaceId limit => exact iff_of_true (guarded_of_effect still) trivial
  | grant draws actor workspaceId operatorId role =>
      exact iff_of_true (guarded_of_effect (grant_effect system draws actor workspaceId operatorId role)) trivial
  | revoke draws actor workspaceId operatorId =>
      exact iff_of_true (guarded_of_effect (revoke_effect system draws actor workspaceId operatorId)) trivial
  | govern workspaceId updates now =>
      exact iff_of_true (guarded_of_effect (govern_effect system workspaceId updates now)) trivial

end

section

variable (environment)

/-- In every run of the service, and of writes to the governance states, all commands are guarded exactly
when no update shares more than its actor may. -/
theorem governed_changes_iff (commands : List Command) :
    (∀ before command after, commands = before ++ command :: after →
        Guarded environment (executeAll environment {} before) command
          (executeAll environment {} (before ++ [command]))) ↔
      ∀ before command after, commands = before ++ command :: after →
        Entitled environment (executeAll environment {} before) command := by
  have step (before : List Command) (command : Command) :
      executeAll environment {} (before ++ [command]) = execute environment
        (executeAll environment {} before) command := by
    rw [executeAll, List.foldl_append]
    rfl
  simp only [step, guarded_iff]

end

def plainEnvironment : Environment := ⟨⟨PythonText.asciiTable, id, plain⟩, fun _ => none, fun _ => none⟩

def ada : Actor := { id := "ada", role := "operator", clearance := "operator", roles := ["operator"] }

def bob : Actor := { id := "bob", role := "observer", clearance := "observer", roles := ["observer"] }

def draw (number : String) : Draws :=
  { base := ⟨"ws-" ++ number, noon, noon, "wsaud-" ++ number, noon, noon⟩, stateTime := noon, grantedAt := noon,
    snapshotId := "wssnap-" ++ number, snapshotTime := noon, chainId := "wsaudchain-" ++ number, chainTime := noon }

/-- A private workspace, and a contributor to it. -/
def contributed : List Command :=
  [.create (draw "1") ada [("name", .str "Plans"), ("query", .dict []), ("visibility", .str "private")],
    .grant (draw "2") ada "ws-1" "bob" "contributor"]

def publish : Command := .update (draw "3") bob "ws-1" [("visibility", .str "public")]

theorem contributed_private :
    ((executeAll plainEnvironment {} contributed).base.find "ws-1").map (fun workspace =>
      (workspace.visibility, effectiveRole (fromActor plainEnvironment bob) workspace
        ((executeAll plainEnvironment {} contributed).governance.workspaceRoles "ws-1"))) =
      some ("private", some "contributor") := by
  decide

theorem published_public :
    ((executeAll plainEnvironment {} (contributed ++ [publish])).base.find "ws-1").map Workspace.visibility =
      some "public" := by
  decide

/-- The contributor may update, not share, and makes the workspace public. -/
theorem contributor_publishes :
    ¬ ∀ before command after, contributed ++ [publish] = before ++ command :: after →
      Guarded plainEnvironment (executeAll plainEnvironment {} before) command
        (executeAll plainEnvironment {} (before ++ [command])) := by
  intro all
  have guarded := all contributed publish [] rfl
  obtain ⟨workspace, found, described⟩ := Option.map_eq_some_iff.mp contributed_private
  obtain ⟨changed, now, visible⟩ := Option.map_eq_some_iff.mp published_public
  obtain ⟨hidden, contributor⟩ := Prod.mk.inj described
  have differs : changed.visibility ≠ workspace.visibility := by
    rw [visible, hidden]
    decide
  obtain ⟨actor, asked, role, effective, permitted⟩ := guarded.shared "ws-1" workspace changed found now (.inl differs)
  cases asked
  rw [find_id found, contributor] at effective
  cases effective
  exact absurd permitted (by decide)

end AutonomousApi.WorkspaceGuards
