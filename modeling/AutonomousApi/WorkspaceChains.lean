import AutonomousApi.ConcurrentChain
import AutonomousApi.WorkspaceGovernance

/-! The audit chain and the snapshots of a workspace (observatory/backend/workspace_governance_store.py).
Both are chains that threads extend: `add_audit_chain` and `add_snapshot` read the latest record, build
theirs, and insert it under a lock of its own. -/

namespace AutonomousApi.WorkspaceChains

open DataTree JsonValue JsonCodec ObservatoryEvents Workspaces WorkspaceGovernance ConcurrentChain Runs

section

structure AuditChainRecord where
  id : String
  workspaceId : String
  actorId : String
  action : String
  timestamp : String
  details : Record
  previousHash : Option String
  auditHash : String

/-- A call of `add_audit_chain`. Details are a dictionary. -/
structure AuditRequest where
  workspaceId : String
  actorId : String
  action : String
  details : Record
  distinct : Distinct (.dict details : Json)

structure SnapshotRecord where
  id : String
  workspaceId : String
  version : Int
  snapshotType : String
  actorId : String
  timestamp : String
  contentHash : String
  previousHash : Option String
  snapshotHash : String
  workspace : Workspace
  state : GovernanceState

/-- A call of `add_snapshot`. -/
structure SnapshotRequest where
  workspace : Workspace
  state : GovernanceState
  actorId : String
  snapshotType : String

variable (hashing : Hashing)

def auditPayload (record : AuditChainRecord) : Record :=
  [("workspace_id", .str record.workspaceId), ("actor_id", .str record.actorId), ("action", .str record.action),
    ("timestamp", .str record.timestamp), ("details", .dict record.details),
    ("previous_hash", optionalText record.previousHash)]

def snapshotPayload (record : SnapshotRecord) : Record :=
  [("workspace_id", .str record.workspaceId), ("version", .int record.version),
    ("snapshot_type", .str record.snapshotType), ("actor_id", .str record.actorId),
    ("timestamp", .str record.timestamp),
    ("content_hash", .str record.contentHash), ("previous_hash", optionalText record.previousHash)]

def digestOf (payload : Record) : String := hashing.sha256 (canonicalJson hashing (.dict payload))

/-- The record that `add_audit_chain` inserts. -/
def auditRecord (request : AuditRequest) (previousHash : Option String) (timestamp id : String) : AuditChainRecord :=
  let record : AuditChainRecord :=
    { id, workspaceId := request.workspaceId, actorId := request.actorId, action := request.action, timestamp,
      details := request.details, previousHash, auditHash := "" }
  { record with auditHash := digestOf hashing (auditPayload record) }

/-- The record that `add_snapshot` inserts. -/
def snapshotRecord (request : SnapshotRequest) (previousHash : Option String) (timestamp id : String) :
    SnapshotRecord :=
  let record : SnapshotRecord :=
    { id, workspaceId := request.workspace.id, version := request.workspace.version,
      snapshotType := request.snapshotType, actorId := request.actorId, timestamp,
      contentHash := workspaceGovernanceHash hashing request.workspace request.state, previousHash, snapshotHash := "",
      workspace := request.workspace, state := request.state }
  { record with snapshotHash := digestOf hashing (snapshotPayload record) }

def auditTable : Table String AuditRequest AuditChainRecord String String String where
  slotOf request := request.workspaceId
  build := auditRecord hashing
  slot := AuditChainRecord.workspaceId
  previous := AuditChainRecord.previousHash
  digest := AuditChainRecord.auditHash
  time := AuditChainRecord.timestamp
  id := AuditChainRecord.id

def snapshotTable : Table String SnapshotRequest SnapshotRecord String String String where
  slotOf request := request.workspace.id
  build := snapshotRecord hashing
  slot := SnapshotRecord.workspaceId
  previous := SnapshotRecord.previousHash
  digest := SnapshotRecord.snapshotHash
  time := SnapshotRecord.timestamp
  id := SnapshotRecord.id

end

section

variable {hashing : Hashing}

theorem optionalText_injective : Function.Injective optionalText := by
  intro left right same
  cases left with
  | none =>
      cases right with
      | none => rfl
      | some text => cases same
  | some text =>
      cases right with
      | none => cases same
      | some other =>
          cases same
          rfl

/-- A digest fixes every text of its payload. -/
theorem previous_of_digest (injective : Function.Injective hashing.sha256) {left right : Record}
    (distinctLeft : Distinct (.dict left : Json)) (distinctRight : Distinct (.dict right : Json))
    (same : digestOf hashing left = digestOf hashing right) (key : String) :
    (OrderedMap.get left key).map sortKeys = (OrderedMap.get right key).map sortKeys := by
  have sorted := dumps_injective hashing.numbers .compactUnicode distinctLeft distinctRight (injective same)
  rw [sortKeys, sortKeys] at sorted
  have entries := Tree.dict.inj sorted
  rw [← get_sorted left ((distinct_dict_iff left).mp distinctLeft).1,
    ← get_sorted right ((distinct_dict_iff right).mp distinctRight).1, entries]

theorem sortKeys_optionalText (text : Option String) : sortKeys (optionalText text) = optionalText text := by
  cases text <;> rfl

theorem audit_binding (injective : Function.Injective hashing.sha256) : (auditTable hashing).Binding := by
  rintro _ _ ⟨left, leftPrevious, leftTime, leftId, rfl⟩ ⟨right, rightPrevious, rightTime, rightId, rfl⟩ same
  have distinct (request : AuditRequest) (previous : Option String) (time id : String) :
      Distinct (.dict (auditPayload (auditRecord hashing request previous time id)) : Json) := by
    rw [distinct_dict_iff]
    refine ⟨by simp [auditPayload], ?_⟩
    intro entry member
    simp only [auditPayload, List.mem_cons, List.not_mem_nil, or_false] at member
    rcases member with rfl | rfl | rfl | rfl | rfl | rfl
    · trivial
    · trivial
    · trivial
    · trivial
    · exact request.distinct
    · cases previous <;> trivial
  have named := previous_of_digest injective (distinct left leftPrevious leftTime leftId)
    (distinct right rightPrevious rightTime rightId) same "previous_hash"
  simp only [auditPayload, OrderedMap.get, String.reduceEq, if_false, if_true, Option.map_some, sortKeys_optionalText,
    Option.some.injEq] at named
  exact optionalText_injective named

theorem snapshot_binding (injective : Function.Injective hashing.sha256) : (snapshotTable hashing).Binding := by
  rintro _ _ ⟨left, leftPrevious, leftTime, leftId, rfl⟩ ⟨right, rightPrevious, rightTime, rightId, rfl⟩ same
  have distinct (request : SnapshotRequest) (previous : Option String) (time id : String) :
      Distinct (.dict (snapshotPayload (snapshotRecord hashing request previous time id)) : Json) := by
    rw [distinct_dict_iff]
    refine ⟨by simp [snapshotPayload], ?_⟩
    intro entry member
    simp only [snapshotPayload, List.mem_cons, List.not_mem_nil, or_false] at member
    rcases member with rfl | rfl | rfl | rfl | rfl | rfl | rfl
    · trivial
    · trivial
    · trivial
    · trivial
    · trivial
    · trivial
    · cases previous <;> trivial
  have named := previous_of_digest injective (distinct left leftPrevious leftTime leftId)
    (distinct right rightPrevious rightTime rightId) same "previous_hash"
  simp only [snapshotPayload, OrderedMap.get, String.reduceEq, if_false, if_true, Option.map_some,
      sortKeys_optionalText, Option.some.injEq] at named
  exact optionalText_injective named

end

/-- The two tables, with the calls that are under way on each. -/
structure Chains where
  audit : State Nat AuditRequest AuditChainRecord := {}
  snapshots : State Nat SnapshotRequest SnapshotRecord := {}

inductive ChainStep where
  | audit (action : Action Nat AuditRequest String String)
  | snapshots (action : Action Nat SnapshotRequest String String)

variable (hashing : Hashing)

def advance (chains : Chains) : ChainStep → Option Chains
  | .audit action => (step (auditTable hashing) chains.audit action).map fun audit => { chains with audit }
  | .snapshots action =>
      (step (snapshotTable hashing) chains.snapshots action).map fun snapshots => { chains with snapshots }

/-- Both tables hold one chain for every workspace. -/
def Intact (chains : Chains) : Prop :=
  (∀ workspace, Unbroken (auditTable hashing) chains.audit.records workspace) ∧
    ∀ workspace, Unbroken (snapshotTable hashing) chains.snapshots.records workspace

/-- The condition on a step: what is inserted names the latest record of its workspace and sorts behind it. -/
def Orderly (chains : Chains) : ChainStep → Prop
  | .audit action => Follow (auditTable hashing) chains.audit action
  | .snapshots action => Follow (snapshotTable hashing) chains.snapshots action

variable {hashing}

theorem unbroken_start {Slot Request Record Digest Time Id :
    Type} [LinearOrder Time] [LinearOrder Id] [DecidableEq Slot]
    (table : Table Slot Request Record Digest Time Id) (slot : Slot) : Unbroken table [] slot :=
  ⟨trivial, List.nodup_nil⟩

/-- Whatever the calls and their overlaps, the chains stay intact along a run exactly while every
insertion comes in order. -/
theorem chains_intact_iff (injective : Function.Injective hashing.sha256) (steps : List ChainStep) (final : Chains)
    (finished : run (advance hashing) {} steps = some final) :
    (∀ before after chains, steps = before ++ after → run (advance hashing) {} before = some chains →
        Intact hashing chains) ↔
      ∀ before action after chains, steps = before ++ action :: after →
        run (advance hashing) {} before = some chains → Orderly hashing chains action := by
  let sound (chains : Chains) : Prop := Sound (auditTable hashing) chains.audit ∧
      Sound (snapshotTable hashing) chains.snapshots
  refine @holds_along_iff Chains ChainStep (advance hashing) (Orderly hashing) {} final sound (Intact hashing)
    ⟨sound_start, sound_start⟩ ⟨unbroken_start _, unbroken_start _⟩ ?_ ?_ steps finished
  · intro chains action following held taken
    cases action with
    | audit action =>
        obtain ⟨audit, stepped, rfl⟩ := Option.map_eq_some_iff.mp taken
        exact ⟨held.1.step stepped, held.2⟩
    | snapshots action =>
        obtain ⟨snapshots, stepped, rfl⟩ := Option.map_eq_some_iff.mp taken
        exact ⟨held.1, held.2.step stepped⟩
  · intro chains action following held intact taken
    cases action with
    | audit action =>
        obtain ⟨audit, stepped, rfl⟩ := Option.map_eq_some_iff.mp taken
        rw [Orderly, ← unbroken_step_iff (audit_binding injective) held.1 intact.1 stepped]
        exact and_iff_left intact.2
    | snapshots action =>
        obtain ⟨snapshots, stepped, rfl⟩ := Option.map_eq_some_iff.mp taken
        rw [Orderly, ← unbroken_step_iff (snapshot_binding injective) held.2 intact.2 stepped]
        exact and_iff_right intact.1

/-- Texts that are their own digests. -/
def plain : Hashing := ⟨JsonText.exactDecimals, id⟩

theorem distinct_nothing : Distinct (.dict [] : Json) := by simp [distinct_dict_iff]

def opened : AuditRequest := ⟨"ws-1", "operator-1", "workspace_exported", [], distinct_nothing⟩

def noon : String := "2026-03-01T12:00:00+00:00"

/-- Two calls that read before either inserts. -/
def overlapping : List ChainStep :=
  [.audit (.read 0 opened), .audit (.read 1 opened), .audit (.prepare 0 noon "wsaudchain-1"),
    .audit (.prepare 1 noon "wsaudchain-2"), .audit (.insert 0), .audit (.insert 1)]

/-- Two calls one after the other, within one reading of the clock. -/
def tied : List ChainStep :=
  [.audit (.read 0 opened), .audit (.prepare 0 noon "wsaudchain-2"), .audit (.insert 0), .audit (.read 1 opened),
    .audit (.prepare 1 noon "wsaudchain-1"), .audit (.insert 1)]

def reached (steps : List ChainStep) : Chains := (run (advance plain) {} steps).getD {}

theorem overlapping_intact_iff :
    (∀ before after chains, overlapping = before ++ after → run (advance plain) {} before = some chains →
        Intact plain chains) ↔
      ∀ before action after chains, overlapping = before ++ action :: after →
        run (advance plain) {} before = some chains → Orderly plain chains action :=
  chains_intact_iff Function.injective_id overlapping (reached overlapping) rfl

theorem overlap_and_tie_break_chain :
    (run (advance plain) {} overlapping = some (reached overlapping) ∧ ¬ Intact plain (reached overlapping)) ∧
      run (advance plain) {} tied = some (reached tied) ∧ ¬ Intact plain (reached tied) := by
  refine ⟨⟨rfl, ?_⟩, rfl, ?_⟩
  · intro intact
    have once := (intact.1 "ws-1").2
    have first : auditRecord plain opened none noon "wsaudchain-1" ∈ oldestFirst (auditTable plain)
        (reached overlapping).audit.records "ws-1" :=
      mem_oldestFirst.mpr ⟨List.mem_cons_self, rfl⟩
    have second : auditRecord plain opened none noon "wsaudchain-2" ∈ oldestFirst (auditTable plain)
        (reached overlapping).audit.records "ws-1" :=
      mem_oldestFirst.mpr ⟨List.mem_cons_of_mem _ List.mem_cons_self, rfl⟩
    have same := List.inj_on_of_nodup_map once first second rfl
    exact absurd (congrArg AuditChainRecord.id same) (by decide)
  · intro intact
    have links := (intact.1 "ws-1").1
    exact absurd links.1 (by decide)

end AutonomousApi.WorkspaceChains
