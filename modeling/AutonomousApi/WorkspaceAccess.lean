import AutonomousApi.WorkspaceGuards

/-! The governor's decision against what the operations of the governed service do. Reading one workspace
follows the governor alone; exporting, auditing and listing pass through the workspace service as well,
which knows owners and visibility but no roles. -/

namespace AutonomousApi.WorkspaceAccess

open Workspaces hiding createWorkspace getWorkspace listWorkspaces deleteWorkspace exportWorkspace getAudit
open WorkspaceGovernance GovernedWorkspaces WorkspaceGuards

section

variable (environment : Environment)

def Allows (system : System) (actor : Actor) (workspace : Workspace) (action : String) : Prop :=
  (authorizeAction (fromActor environment actor) workspace (system.governance.state workspace.id) action
    (system.governance.workspaceRoles workspace.id)).allowed = true

/-- Every operation on a stored workspace succeeds exactly when the governor allows its action, and the
list shows the workspace exactly when reading it succeeds. -/
structure Agrees (system : System) (actor : Actor) (workspace : Workspace) : Prop where
  read : (∃ seen, getWorkspace environment system actor workspace.id = .ok seen) ↔
    Allows environment system actor workspace "read"
  export_ : ∀ draws, (∃ bundle after, exportWorkspace environment system draws actor workspace.id =
      (.ok bundle, after)) ↔
    Allows environment system actor workspace "export"
  audit : ∀ limit, (∃ view, getAudit environment system actor workspace.id limit = .ok view) ↔
    Allows environment system actor workspace "audit"
  delete : ∀ draws, (∃ deleted after, deleteWorkspace environment system draws actor workspace.id =
      (.ok deleted, after)) ↔
    Allows environment system actor workspace "delete"
  list : ∀ seen, seen.id = workspace.id →
    (seen ∈ listWorkspaces environment system actor ↔ getWorkspace environment system actor workspace.id = .ok seen)

variable {environment} {system : System} {actor : Actor} {workspace : Workspace} {action : String}

theorem authorize_allowed (found : system.base.find workspace.id = some workspace)
    (allowed : Allows environment system actor workspace action) :
    authorize environment system actor workspace.id action = .ok (workspace, system.governance.state workspace.id) := by
  rw [Allows] at allowed
  rw [authorize, found]
  simp only [allowed, if_true]

theorem authorize_denied (found : system.base.find workspace.id = some workspace)
    (denied : ¬ Allows environment system actor workspace action) :
    ∃ error, authorize environment system actor workspace.id action = .error error := by
  rw [Allows, Bool.not_eq_true] at denied
  rw [authorize, found]
  simp only [denied]
  exact ⟨_, rfl⟩

theorem read_of_permission {role : String} (permitted : action ∈ rolePermissions role) :
    "read" ∈ rolePermissions role := by
  unfold rolePermissions at permitted ⊢
  split at permitted
  · simp
  · simp
  · simp
  · simp
  · simp
  · cases permitted

theorem owner_of_delete {role : String} (permitted : "delete" ∈ rolePermissions role) : role = "owner" := by
  unfold rolePermissions at permitted
  split at permitted
  · simp at permitted
  · simp at permitted
  · simp at permitted
  · simp at permitted
  · rfl
  · cases permitted

/-- Whoever may do anything with a workspace may read it. -/
theorem allows_read (allowed : Allows environment system actor workspace action) :
    Allows environment system actor workspace "read" := by
  obtain ⟨-, welcome, lifecycle, -, -, -, role, effective, permitted, -⟩ := allowed_iff.mp allowed
  exact allowed_iff.mpr ⟨by decide, welcome, lifecycle, fun _ => by decide, fun _ => by decide, fun _ => by decide,
      role, effective, read_of_permission permitted, fun _ other => absurd other (by decide)⟩

end

section

/-- Ids are primary keys, and no role row makes an owner. -/
structure Sound (system : System) : Prop where
  ids : (system.base.workspaces.map Workspace.id).Nodup
  roles : ∀ grant ∈ system.governance.roles, grant.role ∈ assignableWorkspaceRoles

variable {environment : Environment} {system after : System}

theorem sound_start : Sound {} := ⟨List.nodup_nil, nofun⟩

theorem Sound.effect (sound : Sound system) {command : Command} (effect : Effect environment system after command) :
    Sound after := by
  cases effect with
  | still workspaces roles => exact ⟨workspaces ▸ sound.ids, roles ▸ sound.roles⟩
  | @created draws actor payload created fresh workspaces roles =>
      refine ⟨?_, roles ▸ sound.roles⟩
      have apart : ∀ workspace ∈ system.base.workspaces, workspace.id ≠ created.id := by
        simpa [WorkspaceStore.find] using fresh
      rw [workspaces, List.map_append, List.nodup_append]
      refine ⟨sound.ids, by simp, ?_⟩
      intro id old other new same
      obtain ⟨workspace, member, rfl⟩ := List.mem_map.mp old
      rw [List.map_singleton, List.mem_singleton] at new
      exact apart workspace member (same.trans new)
  | deleted authorized owned workspaces roles =>
      refine ⟨?_, roles ▸ sound.roles⟩
      rw [workspaces]
      exact sound.ids.sublist (List.filter_sublist.map Workspace.id)
  | granted authorized assignable workspaces roles =>
      refine ⟨workspaces ▸ sound.ids, ?_⟩
      rw [roles, upsertRole]
      intro grant member
      split at member
      · obtain ⟨old, stored, rfl⟩ := List.mem_map.mp member
        split
        · exact assignable
        · exact sound.roles old stored
      · rcases List.mem_append.mp member with old | new
        · exact sound.roles grant old
        · rw [List.mem_singleton.mp new]
          exact assignable
  | revoked authorized workspaces roles =>
      refine ⟨workspaces ▸ sound.ids, ?_⟩
      rw [roles, dropRole]
      exact fun grant member => sound.roles grant (List.mem_filter.mp member).1

theorem Sound.execute (sound : Sound system) (command : Command) : Sound (execute environment system command) := by
  have still {command : Command} : Effect environment system system command := .still rfl rfl
  cases command with
  | create draws actor payload => exact sound.effect (create_effect system draws actor payload)
  | get actor workspaceId => exact sound
  | list actor => exact sound
  | update draws actor workspaceId payload =>
      by_cases written : ∃ workspace normalized, system.base.find workspaceId = some workspace ∧
          planUpdate environment system actor workspaceId payload = .ok normalized ∧ normalized.name ≠ some none
      · obtain ⟨workspace, normalized, found, planned, named⟩ := written
        obtain ⟨updated, -, -, -, sameId, workspaces, roles⟩ := update_written draws found planned named
        refine ⟨?_, roles ▸ sound.roles⟩
        rw [GovernedWorkspaces.execute, workspaces, List.map_map]
        have kept : Workspace.id ∘ (fun row => if row.id = workspaceId then updated else row) = Workspace.id := by
          funext row
          by_cases here : row.id = workspaceId
          · simp [here, sameId]
          · simp [here]
        rw [kept]
        exact sound.ids
      · refine sound.effect (update_refused draws fun workspace normalized found planned => ?_)
        by_contra named
        exact written ⟨workspace, normalized, found, planned, named⟩
  | delete draws actor workspaceId => exact sound.effect (delete_effect system draws actor workspaceId)
  | export_ draws actor workspaceId => exact sound.effect (export_effect system draws actor workspaceId)
  | audit actor workspaceId limit => exact sound
  | grant draws actor workspaceId operatorId role =>
      exact sound.effect (grant_effect system draws actor workspaceId operatorId role)
  | revoke draws actor workspaceId operatorId =>
      exact sound.effect (revoke_effect system draws actor workspaceId operatorId)
  | govern workspaceId updates now => exact sound.effect (govern_effect system workspaceId updates now)

theorem sound_executeAll (commands : List Command) : Sound (executeAll environment {} commands) := by
  induction commands using List.reverseRecOn with
  | nil => exact sound_start
  | append_singleton before command ih =>
      rw [executeAll, List.foldl_append]
      exact ih.execute command

/-- Only the owner may delete: the role table holds assignable roles. -/
theorem owner_of_allows (sound : Sound system) {actor : Actor} {workspace : Workspace}
    (allowed : Allows environment system actor workspace "delete") : workspace.ownerId = actor.id := by
  obtain ⟨-, -, -, -, -, -, role, effective, permitted, -⟩ := allowed_iff.mp allowed
  rw [owner_of_delete permitted, effectiveRole] at effective
  split at effective
  · next owns => exact owns
  · split at effective
    · exact absurd (Option.some.inj effective) (by decide)
    · split at effective
      · -- an explicit role is that of a role row
        have listed := OrderedMap.mem_of_get_assignAll effective
        obtain ⟨grant, member, same⟩ := List.mem_map.mp listed
        have stored : grant ∈ system.governance.roles := (List.mem_filter.mp ((List.mem_insertionSort _).mp member)).1
        have assignable := sound.roles grant stored
        rw [(Prod.mk.inj same).2] at assignable
        exact absurd assignable (by decide)
      · split at effective
        · exact absurd (Option.some.inj effective) (by decide)
        · split at effective
          · exact absurd (Option.some.inj effective) (by decide)
          · split at effective
            · exact absurd (Option.some.inj effective) (by decide)
            · cases effective

end

section

variable {environment : Environment} {system : System} {actor : Actor} {workspace : Workspace}

theorem getWorkspace_eq (found : system.base.find workspace.id = some workspace) :
    (Allows environment system actor workspace "read" →
        getWorkspace environment system actor workspace.id = .ok workspace) ∧
      (¬ Allows environment system actor workspace "read" →
        ∃ error, getWorkspace environment system actor workspace.id = .error error) := by
  rw [getWorkspace]
  constructor
  · intro allowed
    rw [authorize_allowed found allowed]
    rfl
  · intro denied
    obtain ⟨error, refused⟩ := authorize_denied found denied
    exact ⟨error, by rw [refused]; rfl⟩

theorem find_of_mem (ids : (system.base.workspaces.map Workspace.id).Nodup) {seen : Workspace}
    (stored : seen ∈ system.base.workspaces) : system.base.find seen.id = some seen := by
  cases found : system.base.find seen.id with
  | none =>
      rw [WorkspaceStore.find, List.find?_eq_none] at found
      exact absurd (by simp) (found seen stored)
  | some other =>
      have same := List.inj_on_of_nodup_map ids (List.mem_of_find?_eq_some found) stored (find_id found)
      rw [same]

theorem mem_listWorkspaces (ids : (system.base.workspaces.map Workspace.id).Nodup) {seen : Workspace} :
    seen ∈ listWorkspaces environment system actor ↔
      system.base.find seen.id = some seen ∧ canReadWorkspace seen actor.id = true ∧
        Allows environment system actor seen "read" := by
  rw [listWorkspaces, Workspaces.listWorkspaces, listed, List.mem_filter, List.mem_filter, List.mem_insertionSort,
      and_assoc]
  constructor
  · rintro ⟨stored, readable, allowed⟩
    exact ⟨find_of_mem ids stored, readable, allowed⟩
  · rintro ⟨found, readable, allowed⟩
    exact ⟨List.mem_of_find?_eq_some found, readable, allowed⟩

/-- The governor decides alone exactly for the actors that could read the workspace without a role, or
may not read it at all. -/
theorem agrees_iff (sound : Sound system) (found : system.base.find workspace.id = some workspace) :
    Agrees environment system actor workspace ↔
      (Allows environment system actor workspace "read" → canReadWorkspace workspace actor.id = true) := by
  have read := @getWorkspace_eq environment system actor workspace found
  constructor
  · intro agrees allowed
    have shown := (agrees.list workspace rfl).mpr (read.1 allowed)
    exact ((mem_listWorkspaces sound.ids).mp shown).2.1
  · intro readable
    constructor
    · constructor
      · rintro ⟨seen, answered⟩
        by_contra denied
        obtain ⟨error, refused⟩ := read.2 denied
        cases refused.symm.trans answered
      · exact fun allowed => ⟨workspace, read.1 allowed⟩
    · intro draws
      constructor
      · rintro ⟨bundle, after, exported⟩
        by_contra denied
        obtain ⟨error, refused⟩ := authorize_denied found denied
        rw [exportWorkspace, refused] at exported
        cases exported
      · intro allowed
        have visible := readable (allows_read allowed)
        rw [exportWorkspace, authorize_allowed found allowed]
        simp only [Workspaces.exportWorkspace, Workspaces.getWorkspace, found, visible, if_true]
        exact ⟨_, _, rfl⟩
    · intro limit
      constructor
      · rintro ⟨view, answered⟩
        by_contra denied
        obtain ⟨error, refused⟩ := authorize_denied found denied
        rw [getAudit, refused] at answered
        cases answered
      · intro allowed
        have visible := readable (allows_read allowed)
        rw [getAudit, authorize_allowed found allowed]
        simp only [Workspaces.getAudit, Workspaces.getWorkspace, found, visible, if_true, Except.map]
        exact ⟨_, rfl⟩
    · intro draws
      constructor
      · rintro ⟨deleted, after, removed⟩
        by_contra denied
        obtain ⟨error, refused⟩ := authorize_denied found denied
        rw [deleteWorkspace, refused] at removed
        cases removed
      · intro allowed
        have owns := owner_of_allows sound allowed
        rw [deleteWorkspace, authorize_allowed found allowed]
        simp only [Workspaces.deleteWorkspace, removeWorkspace, found, owns, ne_eq, not_true_eq_false, if_false]
        exact ⟨_, _, rfl⟩
    · intro seen same
      rw [mem_listWorkspaces sound.ids, same, found]
      constructor
      · rintro ⟨stored, visible, allowed⟩
        cases stored
        exact read.1 allowed
      · intro answered
        by_cases allowed : Allows environment system actor workspace "read"
        · cases (read.1 allowed).symm.trans answered
          exact ⟨rfl, readable allowed, allowed⟩
        · obtain ⟨error, refused⟩ := read.2 allowed
          cases refused.symm.trans answered

end

variable (environment : Environment)

/-- In every reachable state the operations on a stored workspace follow the governor exactly for the
actors that the workspace service lets read whatever the governor does. -/
theorem governor_decides_iff (commands : List Command) (actor : Actor) (workspace : Workspace)
    (stored : (executeAll environment {} commands).base.find workspace.id = some workspace) :
    Agrees environment (executeAll environment {} commands) actor workspace ↔
      (Allows environment (executeAll environment {} commands) actor workspace "read" →
        canReadWorkspace workspace actor.id = true) :=
  agrees_iff (sound_executeAll commands) stored

/-- A private workspace, and an auditor of it. -/
def audited : List Command :=
  [.create (draw "1") ada [("name", .str "Plans"), ("query", .dict []), ("visibility", .str "private")],
    .grant (draw "2") ada "ws-1" "bob" "auditor"]

theorem audited_hidden :
    ((executeAll plainEnvironment {} audited).base.find "ws-1").map (fun workspace =>
      (workspace.id, canReadWorkspace workspace bob.id, ["read", "export", "audit"].map fun action =>
        (authorizeAction (fromActor plainEnvironment bob) workspace
          ((executeAll plainEnvironment {} audited).governance.state workspace.id) action
          ((executeAll plainEnvironment {} audited).governance.workspaceRoles workspace.id)).allowed)) =
      some ("ws-1", false, [true, true, true]) := by
  decide

theorem auditor_decided :
    ∃ workspace, (executeAll plainEnvironment {} audited).base.find workspace.id = some workspace ∧
      (Agrees plainEnvironment (executeAll plainEnvironment {} audited) ada workspace ↔
        (Allows plainEnvironment (executeAll plainEnvironment {} audited) ada workspace "read" →
          canReadWorkspace workspace ada.id = true)) := by
  obtain ⟨workspace, found, described⟩ := Option.map_eq_some_iff.mp audited_hidden
  have named : workspace.id = "ws-1" := (Prod.mk.inj described).1
  have stored : (executeAll plainEnvironment {} audited).base.find workspace.id = some workspace := by
    rw [named]
    exact found
  exact ⟨workspace, stored, governor_decides_iff plainEnvironment audited ada workspace stored⟩

/-- The governor lets the auditor read, export and audit; the operations refuse or do not show it. -/
theorem auditor_refused :
    ∃ workspace, (executeAll plainEnvironment {} audited).base.find workspace.id = some workspace ∧
      Allows plainEnvironment (executeAll plainEnvironment {} audited) bob workspace "export" ∧
      ¬ Agrees plainEnvironment (executeAll plainEnvironment {} audited) bob workspace := by
  obtain ⟨workspace, found, described⟩ := Option.map_eq_some_iff.mp audited_hidden
  obtain ⟨named, hidden, allowed⟩ := (Prod.mk.inj described).imp_right Prod.mk.inj
  have stored : (executeAll plainEnvironment {} audited).base.find workspace.id = some workspace := by
    rw [named]
    exact found
  simp only [List.map_cons, List.map_nil, List.cons.injEq, and_true] at allowed
  refine ⟨workspace, stored, allowed.2.1, ?_⟩
  intro agrees
  have visible := (agrees_iff (sound_executeAll audited) stored).mp agrees allowed.1
  exact absurd (hidden.symm.trans visible) (by decide)

end AutonomousApi.WorkspaceAccess
