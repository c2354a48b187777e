import AutonomousApi.Governance
import AutonomousApi.GovernanceStore

/-! The payloads of governance events as pydantic dumps and validates them, with the fields
that the events of the model carry. Every event is read back from its own payload. -/

namespace AutonomousApi.GovernancePayload

open DataTree JsonValue JsonCodec OrderedMap Governance GovernanceStore

/-- A required text. -/
def textAt (record : List (String × Json)) (key : String) : Option String :=
  match get record key with
  | some (.atom (.str text)) => some text
  | _ => none

/-- A text or null, null by default. -/
def optionalAt (record : List (String × Json)) (key : String) : Option (Option String) :=
  match get record key with
  | some (.atom (.str text)) => some (some text)
  | some (.atom .null) | none => some none
  | _ => none

def optionalText : Option String → Json
  | some text => .str text
  | none => .null

def readTexts : List Json → Option (List String)
  | [] => some []
  | .atom (.str text) :: rest => (readTexts rest).map fun texts => text :: texts
  | _ :: _ => none

def textsAt (record : List (String × Json)) (key : String) : Option (List String) :=
  match get record key with
  | some (.list items) => readTexts items
  | _ => none

def naturalAt (record : List (String × Json)) (key : String) : Option Nat :=
  match get record key with
  | some (.atom (.int value)) => if 0 ≤ value then some value.toNat else none
  | _ => none

def flagAt (record : List (String × Json)) (key : String) : Option Bool :=
  match get record key with
  | some (.atom (.bool value)) => some value
  | _ => none

/-- The member of an enumeration with this text. -/
def named {Member : Type} (text : Member → String) (members : List Member) (value : String) : Option Member :=
  members.find? fun member => text member == value

def lifecycleStates : List LifecycleState :=
  [.proposed, .evaluating, .verified, .certified, .selected, .deployed, .operating, .retired]

def statusText : GateStatus → String
  | .pending => "pending"
  | .passed => "passed"
  | .failed => "failed"
  | .waived => "waived"

def verdictText : Verdict → String
  | .approve => "approve"
  | .reject => "reject"
  | .defer => "defer"

def readState : String → Option LifecycleState := named LifecycleState.text lifecycleStates

def readStatus : String → Option GateStatus := named statusText [.pending, .passed, .failed, .waived]

@[simp] theorem readState_text (state : LifecycleState) : readState state.text = some state := by
  cases state <;> decide

@[simp] theorem readStatus_text (status : GateStatus) : readStatus (statusText status) = some status := by
  cases status <;> decide

@[simp] theorem read_verdictText (verdict : Verdict) : Verdict.read (verdictText verdict) = some verdict := by
  cases verdict <;> rfl

def decisionRecord (decision : Decision) : List (String × Json) :=
  [("decisionId", .str decision.decisionId), ("candidateId", .str decision.candidateId),
    ("generation", .int decision.generation), ("verdict", .str (verdictText decision.verdict)),
    ("fromState", .str decision.fromState.text), ("toState", .str decision.toState.text),
    ("authorizesTransition", .bool decision.authorizesTransition),
    ("decidedBy", .arr (decision.decidedBy.map Json.str)), ("rationale", .str decision.rationale),
    ("supersedesDecisionId", optionalText decision.supersedesDecisionId), ("decidedAt", .str decision.decidedAt)]

def readDecision (record : List (String × Json)) : Option Decision := do
  let decisionId ← textAt record "decisionId"
  let candidateId ← textAt record "candidateId"
  let generation ← naturalAt record "generation"
  let verdict ← (textAt record "verdict").bind Verdict.read
  let fromState ← (textAt record "fromState").bind readState
  let toState ← (textAt record "toState").bind readState
  let authorizesTransition ← flagAt record "authorizesTransition"
  let decidedBy ← textsAt record "decidedBy"
  let rationale ← textAt record "rationale"
  let supersedesDecisionId ← optionalAt record "supersedesDecisionId"
  let decidedAt ← textAt record "decidedAt"
  some { decisionId, candidateId, generation, verdict, fromState, toState, authorizesTransition, decidedBy, rationale,
         supersedesDecisionId, decidedAt }

def outcomeRecord (outcome : GateOutcome) : List (String × Json) :=
  [("gateId", .str outcome.gateId), ("candidateId", .str outcome.candidateId),
    ("status", .str (statusText outcome.status)), ("evaluatedBy", .str outcome.evaluatedBy),
    ("waivedBy", optionalText outcome.waivedBy), ("note", optionalText outcome.note),
    ("evaluatedAt", .str outcome.evaluatedAt)]

def readOutcome (record : List (String × Json)) : Option GateOutcome := do
  let gateId ← textAt record "gateId"
  let candidateId ← textAt record "candidateId"
  let status ← (textAt record "status").bind readStatus
  let evaluatedBy ← textAt record "evaluatedBy"
  let waivedBy ← optionalAt record "waivedBy"
  let note ← optionalAt record "note"
  let evaluatedAt ← textAt record "evaluatedAt"
  some { gateId, candidateId, status, evaluatedBy, waivedBy, note, evaluatedAt }

def certificationRecord (certification : Certification) : List (String × Json) :=
  [("certificationId", .str certification.certificationId), ("candidateId", .str certification.candidateId),
    ("certifiedBy", .str certification.certifiedBy), ("criteria", .str certification.criteria),
    ("grantedAt", .str certification.grantedAt), ("revokedAt", optionalText certification.revokedAt),
    ("revokedBy", optionalText certification.revokedBy)]

def readCertification (record : List (String × Json)) : Option Certification := do
  let certificationId ← textAt record "certificationId"
  let candidateId ← textAt record "candidateId"
  let certifiedBy ← textAt record "certifiedBy"
  let criteria ← textAt record "criteria"
  let grantedAt ← textAt record "grantedAt"
  let revokedAt ← optionalAt record "revokedAt"
  let revokedBy ← optionalAt record "revokedBy"
  some { certificationId, candidateId, certifiedBy, criteria, grantedAt, revokedAt, revokedBy }

def memberPayload (member : CouncilMember JsonFloat) : Json :=
  .obj [("memberId", .str member.memberId), ("votingWeight", .float member.votingWeight)]

def readMember : Json → Option (CouncilMember JsonFloat)
  | .dict record =>
      match textAt record "memberId", get record "votingWeight" with
      | some memberId, some (.atom (.float votingWeight)) => some { memberId, votingWeight }
      | _, _ => none
  | _ => none

def guardPayload (transition : LifecycleState × LifecycleState) : Json :=
  .obj [("fromState", .str transition.1.text), ("toState", .str transition.2.text)]

def readGuard : Json → Option (LifecycleState × LifecycleState)
  | .dict record =>
      match (textAt record "fromState").bind readState, (textAt record "toState").bind readState with
      | some fromState, some toState => some (fromState, toState)
      | _, _ => none
  | _ => none

def readAll {Item : Type} (read : Json → Option Item) : List Json → Option (List Item)
  | [] => some []
  | item :: rest =>
      match read item, readAll read rest with
      | some value, some values => some (value :: values)
      | _, _ => none

def readList {Item : Type} (read : Json → Option Item) : Option Json → Option (List Item)
  | some (.list items) => readAll read items
  | _ => none

def readCouncil (record : List (String × Json)) : Option (Event JsonFloat) :=
  match get record "composition" with
  | some (.dict composition) => do
      let members ← readList readMember (get composition "members")
      let updatedBy ← textAt record "updatedBy"
      let updatedAt ← textAt record "updatedAt"
      some (.councilUpdated members updatedBy updatedAt)
  | _ => none

def readGate (record : List (String × Json)) : Option Gate := do
  let gateId ← textAt record "gateId"
  let guards ← readList readGuard (get record "guards")
  some { gateId, guards }

def readRevocation (record : List (String × Json)) : Option (Event JsonFloat) := do
  let certificationId ← textAt record "certificationId"
  let revokedAt ← textAt record "revokedAt"
  let revokedBy ← textAt record "revokedBy"
  some (.certificationRevoked certificationId revokedAt revokedBy)

def eventName : Event JsonFloat → String
  | .decisionMade _ => "GovernanceDecisionMade"
  | .gateEvaluated _ => "GateEvaluated"
  | .certificationGranted _ => "CertificationGranted"
  | .certificationRevoked .. => "CertificationRevoked"
  | .councilUpdated .. => "CouncilUpdated"
  | .gateRegistered _ => "GateRegistered"

def eventRecord : Event JsonFloat → List (String × Json)
  | .decisionMade decision => [("decision", .obj (decisionRecord decision))]
  | .gateEvaluated outcome => [("outcome", .obj (outcomeRecord outcome))]
  | .certificationGranted certification => [("certification", .obj (certificationRecord certification))]
  | .certificationRevoked certificationId revokedAt revokedBy =>
      [("certificationId", .str certificationId), ("revokedAt", .str revokedAt), ("revokedBy", .str revokedBy)]
  | .councilUpdated members updatedBy updatedAt =>
      [("composition", .obj [("members", .arr (members.map memberPayload))]), ("updatedBy", .str updatedBy),
        ("updatedAt", .str updatedAt)]
  | .gateRegistered gate =>
      [("gate", .obj [("gateId", .str gate.gateId), ("guards", .arr (gate.guards.map guardPayload))])]

/-- A nested record, read by its own reader. -/
def nested {Item : Type} (record : List (String × Json)) (key : String) (read : List (String × Json) → Option Item) :
    Option Item :=
  match get record key with
  | some (.dict inner) => read inner
  | _ => none

def readEvent (name : String) (record : List (String × Json)) : Option (Event JsonFloat) :=
  match name with
  | "GovernanceDecisionMade" => (nested record "decision" readDecision).map .decisionMade
  | "GateEvaluated" => (nested record "outcome" readOutcome).map .gateEvaluated
  | "CertificationGranted" => (nested record "certification" readCertification).map .certificationGranted
  | "CertificationRevoked" => readRevocation record
  | "CouncilUpdated" => readCouncil record
  | "GateRegistered" => (nested record "gate" readGate).map .gateRegistered
  | _ => none

def eventCodec : EventCodec (Event JsonFloat) where
  name := eventName
  dump event := .obj (eventRecord event)
  validate name payload :=
    match payload with
    | .dict record => readEvent name record
    | _ => none

theorem readTexts_map (texts : List String) : readTexts (sortItems (texts.map Json.str)) = some texts := by
  induction texts with
  | nil => simp [readTexts, sortItems]
  | cons text rest ih => simp [readTexts, sortItems, sortKeys, ih]

theorem readAll_map {Item : Type} (read : Json → Option Item) (payload : Item → Json)
    (roundTrip : ∀ item, read (sortKeys (payload item)) = some item) (items : List Item) :
    readAll read (sortItems (items.map payload)) = some items := by
  induction items with
  | nil => simp [readAll, sortItems]
  | cons item rest ih => simp [readAll, sortItems, roundTrip, ih]

theorem sortKeys_optionalText (text : Option String) : sortKeys (optionalText text) = optionalText text := by
  cases text <;> simp [optionalText, sortKeys]

theorem optionalAt_text (record : List (String × Json)) (key : String) (text : Option String)
    (held : get record key = some (optionalText text)) : optionalAt record key = some text := by
  cases text <;> simp [optionalAt, held, optionalText]

theorem readMember_payload (member : CouncilMember JsonFloat) :
    readMember (sortKeys (memberPayload member)) = some member := by
  simp [memberPayload, sortKeys, readMember, textAt, get_sorted, keys, OrderedMap.get]

theorem readGuard_payload (transition : LifecycleState × LifecycleState) :
    readGuard (sortKeys (guardPayload transition)) = some transition := by
  simp [guardPayload, sortKeys, readGuard, textAt, get_sorted, keys, OrderedMap.get]

theorem readDecision_record (decision : Decision) :
    readDecision ((sortEntries (decisionRecord decision)).insertionSort keyOrder) = some decision := by
  have distinct : (keys (decisionRecord decision)).Nodup := by simp [keys, decisionRecord]
  have supersedes := optionalAt_text ((sortEntries (decisionRecord decision)).insertionSort keyOrder)
    "supersedesDecisionId" decision.supersedesDecisionId
    (by rw [get_sorted _ distinct]; simp [decisionRecord, OrderedMap.get, sortKeys_optionalText])
  simp only [readDecision, supersedes, textAt, naturalAt, flagAt, textsAt, get_sorted _ distinct]
  simp [decisionRecord, OrderedMap.get, sortKeys, readTexts_map]

theorem readOutcome_record (outcome : GateOutcome) :
    readOutcome ((sortEntries (outcomeRecord outcome)).insertionSort keyOrder) = some outcome := by
  have distinct : (keys (outcomeRecord outcome)).Nodup := by simp [keys, outcomeRecord]
  have optional (key : String) (text : Option String)
      (held : get (outcomeRecord outcome) key = some (optionalText text)) :
      optionalAt ((sortEntries (outcomeRecord outcome)).insertionSort keyOrder) key = some text :=
    optionalAt_text _ key text (by rw [get_sorted _ distinct, held, Option.map_some, sortKeys_optionalText])
  rw [readOutcome, optional "waivedBy" outcome.waivedBy (by simp [outcomeRecord, OrderedMap.get]),
    optional "note" outcome.note (by simp [outcomeRecord, OrderedMap.get])]
  simp only [textAt, get_sorted _ distinct]
  simp [outcomeRecord, OrderedMap.get, sortKeys]

theorem readCertification_record (certification : Certification) :
    readCertification ((sortEntries (certificationRecord certification)).insertionSort keyOrder) =
      some certification := by
  have distinct : (keys (certificationRecord certification)).Nodup := by simp [keys, certificationRecord]
  have optional (key : String) (text : Option String)
      (held : get (certificationRecord certification) key = some (optionalText text)) :
      optionalAt ((sortEntries (certificationRecord certification)).insertionSort keyOrder) key = some text :=
    optionalAt_text _ key text (by rw [get_sorted _ distinct, held, Option.map_some, sortKeys_optionalText])
  rw [readCertification, optional "revokedAt" certification.revokedAt (by simp [certificationRecord, OrderedMap.get]),
    optional "revokedBy" certification.revokedBy (by simp [certificationRecord, OrderedMap.get])]
  simp only [textAt, get_sorted _ distinct]
  simp [certificationRecord, OrderedMap.get, sortKeys]

theorem eventCodec_faithful : Faithful eventCodec where
  known event := by cases event <;> simp [eventCodec, eventName, eventTypes]
  distinct event := by
    have optional (text : Option String) : Distinct (optionalText text) := by
      cases text <;> simp [optionalText, Distinct]
    have texts (items : List String) : DistinctItems (items.map Json.str) := by
      simp [distinctItems_iff, Distinct]
    have members (items : List (CouncilMember JsonFloat)) : DistinctItems (items.map memberPayload) := by
      simp [distinctItems_iff, memberPayload, Distinct, DistinctEntries]
    have guards (items : List (LifecycleState × LifecycleState)) : DistinctItems (items.map guardPayload) := by
      rw [distinctItems_iff]
      intro payload member
      obtain ⟨transition, -, rfl⟩ := List.mem_map.mp member
      simp [guardPayload, Distinct, DistinctEntries]
    rw [eventCodec, distinct_dict_iff]
    cases event <;>
      simp [eventRecord, decisionRecord, outcomeRecord, certificationRecord, Distinct, DistinctEntries,
        optional, texts, members, guards]
  roundTrip event := by
    cases event with
    | decisionMade decision =>
        simp [eventCodec, eventName, eventRecord, sortKeys, readEvent, nested, get_sorted, keys, OrderedMap.get,
          readDecision_record]
    | gateEvaluated outcome =>
        simp [eventCodec, eventName, eventRecord, sortKeys, readEvent, nested, get_sorted, keys, OrderedMap.get,
          readOutcome_record]
    | certificationGranted certification =>
        simp [eventCodec, eventName, eventRecord, sortKeys, readEvent, nested, get_sorted, keys, OrderedMap.get,
          readCertification_record]
    | certificationRevoked certificationId revokedAt revokedBy =>
        simp [eventCodec, eventName, eventRecord, sortKeys, readEvent, readRevocation, textAt, get_sorted, keys,
            OrderedMap.get]
    | councilUpdated members updatedBy updatedAt =>
        simp [eventCodec, eventName, eventRecord, sortKeys, readEvent, readCouncil, readList, textAt, get_sorted, keys,
          OrderedMap.get, readAll_map readMember memberPayload readMember_payload]
    | gateRegistered gate =>
        simp [eventCodec, eventName, eventRecord, sortKeys, readEvent, nested, readGate, readList, textAt, get_sorted,
          keys, OrderedMap.get, readAll_map readGuard guardPayload readGuard_payload]

end AutonomousApi.GovernancePayload
