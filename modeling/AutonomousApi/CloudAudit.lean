import AutonomousApi.WorkspaceChains

/-! The audit chain of the distributed evolution cloud (engine.py of distributed_evolution).
`verify_audit_chain` walks the links and never looks at `last_audit_hash`. -/

namespace AutonomousApi.CloudAudit

open DataTree JsonValue JsonCodec ObservatoryEvents WorkspaceChains HashChain

structure AuditEvent where
  eventId : String
  eventType : String
  campaignId : Option String := none
  jobId : Option String := none
  nodeId : Option String := none
  payload : Record := []
  createdAt : String
  previousHash : String := ""
  eventHash : String := ""
  distinct : Distinct (.dict payload : Json)

structure Audit where
  auditEvents : List AuditEvent := []
  lastAuditHash : String := "genesis"

def eventPayload (event : AuditEvent) : Record :=
  [("event_id", .str event.eventId), ("event_type", .str event.eventType),
    ("campaign_id", optionalText event.campaignId), ("job_id", optionalText event.jobId),
    ("node_id", optionalText event.nodeId), ("payload", .dict event.payload),
    ("created_at", .str event.createdAt), ("previous_hash", .str event.previousHash)]

variable (hashing : Hashing)

/-- `event` holds the arguments, the drawn id and the time. -/
def appendAudit (audit : Audit) (event : AuditEvent) : Audit :=
  let linked := { event with previousHash := audit.lastAuditHash }
  let eventHash := digestOf hashing (eventPayload linked)
  ⟨audit.auditEvents ++ [{ linked with eventHash }], eventHash⟩

def verifyFrom (previousHash : String) : List AuditEvent → Bool
  | [] => true
  | event :: rest => event.previousHash == previousHash &&
      event.eventHash == digestOf hashing (eventPayload event) && verifyFrom event.eventHash rest

def verifyAuditChain (auditEvents : List AuditEvent) : Bool := verifyFrom hashing "genesis" auditEvents

def written (events : List AuditEvent) : Audit := events.foldl (appendAudit hashing) {}

variable {hashing} {events forged : List AuditEvent}

theorem verifyFrom_iff (previousHash : String) : verifyFrom hashing previousHash events = true ↔
    Linked AuditEvent.previousHash AuditEvent.eventHash previousHash events ∧
      ∀ event ∈ events, event.eventHash = digestOf hashing (eventPayload event) := by
  induction events generalizing previousHash with
  | nil => simp [verifyFrom, Linked]
  | cons event rest ih =>
      simp only [verifyFrom, Linked, Bool.and_eq_true, beq_iff_eq, ih, List.forall_mem_cons]
      tauto

theorem written_linked (events : List AuditEvent) :
    verifyAuditChain hashing (written hashing events).auditEvents = true ∧
    tip AuditEvent.eventHash "genesis" (written hashing events).auditEvents =
      (written hashing events).lastAuditHash := by
  induction events using List.reverseRecOn with
  | nil => exact ⟨rfl, rfl⟩
  | append_singleton events event ih =>
      obtain ⟨linked, digests⟩ := (verifyFrom_iff _).mp ih.1
      rw [written, List.foldl_append]
      refine ⟨(verifyFrom_iff _).mpr ⟨(linked_append ..).mpr ⟨linked, ih.2.symm, trivial⟩, ?_⟩, tip_append ..⟩
      exact List.forall_mem_append.mpr ⟨digests, List.forall_mem_singleton.mpr rfl⟩

theorem distinct_optionalText (text : Option String) : Distinct (optionalText text) := by
  cases text <;> trivial

theorem eventPayload_distinct (event : AuditEvent) : Distinct (.dict (eventPayload event) : Json) := by
  rw [distinct_dict_iff]
  refine ⟨by simp [eventPayload], ?_⟩
  simp only [eventPayload, List.forall_mem_cons]
  exact ⟨trivial, trivial, distinct_optionalText _, distinct_optionalText _, distinct_optionalText _, event.distinct,
    trivial, trivial, nofun⟩

/-- The hashed texts agree, and with them the hashes. -/
def Same (left right : AuditEvent) : Prop :=
  sortKeys (.dict (eventPayload left) : Json) = sortKeys (.dict (eventPayload right))

/-- The chain verifies in every run, and still does when its last events are cut off. A verified list that
ends in `last_audit_hash` is the chain. -/
theorem trail_binding (injective : Function.Injective hashing.sha256) (fresh : ∀ text, hashing.sha256 text ≠ "genesis")
    (events forged : List AuditEvent) :
    (∀ kept, verifyAuditChain hashing ((written hashing events).auditEvents.take kept) = true) ∧
      (verifyAuditChain hashing forged = true →
        (forged.getLast?.map AuditEvent.eventHash).getD "genesis" = (written hashing events).lastAuditHash →
        List.Forall₂ Same forged (written hashing events).auditEvents) := by
  obtain ⟨verified, ends⟩ := @written_linked hashing events
  obtain ⟨linked, digests⟩ := (verifyFrom_iff _).mp verified
  refine ⟨fun kept => ?_, fun passed sameTip => ?_⟩
  · have whole := List.take_append_drop kept (written hashing events).auditEvents
    rw [← whole, linked_append] at linked
    exact (verifyFrom_iff _).mpr ⟨linked.1, fun event member => digests event (List.mem_of_mem_take member)⟩
  · obtain ⟨linkedForged, digestsForged⟩ := (verifyFrom_iff _).mp passed
    -- equal hashes are of equal texts, and these name the same hash before
    refine linkedForged.tip_binding linked ?_ ?_ ((tip_eq_getLast ..).trans (sameTip.trans ends.symm))
    · intro left inLeft right inRight same
      rw [digestsForged left inLeft, digests right inRight] at same
      refine ⟨dumps_injective hashing.numbers .compactUnicode (eventPayload_distinct left)
        (eventPayload_distinct right) (injective same), ?_⟩
      have named := previous_of_digest injective (eventPayload_distinct left) (eventPayload_distinct right) same
        "previous_hash"
      simpa [eventPayload, OrderedMap.get, sortKeys] using named
    · intro event member
      rcases List.mem_append.mp member with inForged | inWritten
      · exact digestsForged event inForged ▸ fresh _
      · exact digests event inWritten ▸ fresh _

def marked : Hashing := ⟨JsonText.exactDecimals, ("#" ++ ·)⟩

def registered : AuditEvent :=
  { eventId := "audit_1", eventType := "node_registered", nodeId := "n1", payload := [], createdAt := "noon",
    distinct := distinct_nothing }

theorem registered_binding : List.Forall₂ Same (written marked [registered]).auditEvents
    (written marked [registered]).auditEvents :=
  (trail_binding (fun _ _ same => by simpa [marked] using same)
    (fun text same => by simpa [marked] using congrArg String.toList same) [registered] _).2 (written_linked _).1 rfl

end AutonomousApi.CloudAudit
