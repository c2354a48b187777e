import AutonomousApi.EvolutionLedger

/-! The recorders of the evolution ledger that name an event after what it records, so that
others can refer to it: compilations, verifications, generation outcomes, dimensions and
engineering certifications. A name is built from shortened hashes and finds the first event
that has it. References are sound exactly when no name is given to two contents and the
outcomes state what was recorded under the names they refer to. -/

namespace AutonomousApi.LedgerReferences

open DataTree JsonValue JsonCodec OrderedMap EvolutionLedger

section

structure CapabilityCoverage where
  capabilityId : String
  support : String
  note : String
  deriving DecidableEq

structure CompiledArtifact where
  artifactHash : String
  isrHash : String
  targetId : String
  backendId : String
  deriving DecidableEq

structure CompilationResult extends CompiledArtifact where
  backendVersion : String
  capabilityCoverage : List CapabilityCoverage := []
  deriving DecidableEq

/-- A verification as a campaign holds it, with the event that was recorded for it, if any. -/
structure ArtifactVerification where
  verified : Bool
  failures : List String := []
  verificationEventRef : Option String := none
  deriving DecidableEq

structure Finding where
  severity : String
  description : String
  deriving DecidableEq

structure DimensionReport where
  dimension : String
  meets : Bool
  findings : List Finding := []
  insufficientEvidence : Bool := false
  summary : String := ""
  isrRef : String
  architectureRef : String
  deriving DecidableEq

structure EngineeringCertificate where
  content : Document
  contentHash : String
  generationId : String
  verdict : String
  isrRef : String
  architectureRef : String
  deriving DecidableEq

def coveragePayload (item : CapabilityCoverage) : Json :=
  .obj [("capability_id", .str item.capabilityId), ("support", .str item.support), ("note", .str item.note)]

def findingPayload (finding : Finding) : Json :=
  .obj [("severity", .str finding.severity), ("description", .str finding.description)]

def compilationPayload (result : CompilationResult) : List (String × Json) :=
  [("isr_hash", .str result.isrHash), ("target_id", .str result.targetId), ("backend_id", .str result.backendId),
    ("backend_version", .str result.backendVersion), ("artifact_hash", .str result.artifactHash),
    ("coverage", .arr (result.capabilityCoverage.map coveragePayload))]

def verificationPayload (artifactHash : String) (verified : Bool) (failures : List String) : List (String × Json) :=
  [("artifact_hash", .str artifactHash), ("verified", .bool verified), ("failures", .arr (failures.map Json.str))]

def compilationId (backendId artifactHash : String) : String :=
  "compilation-" ++ backendId ++ "-" ++ shortened artifactHash 8

/-- A reference is `null` where nothing was recorded. -/
def referencePayload : Option String → Json
  | some reference => .str reference
  | none => .null

def outcomePayload (intentId : String) (compiled : CompiledArtifact) (verified : ArtifactVerification)
    (campaignId : String) : List (String × Json) :=
  [("campaign_id", .str campaignId), ("intent_id", .str intentId), ("isr_hash", .str compiled.isrHash),
    ("target_id", .str compiled.targetId), ("backend_id", .str compiled.backendId),
    ("artifact_hash", .str compiled.artifactHash),
    ("compilation_event_ref", .str (compilationId compiled.backendId compiled.artifactHash)),
    ("verification_verified", .bool verified.verified),
    ("verification_event_ref", referencePayload verified.verificationEventRef),
    ("failures", .arr (verified.failures.map Json.str))]

def dimensionPayload (report : DimensionReport) : List (String × Json) :=
  [("dimension", .str report.dimension), ("meets", .bool report.meets),
    ("findings", .arr (report.findings.map findingPayload)),
    ("insufficient_evidence", .bool report.insufficientEvidence), ("summary", .str report.summary)]

def certificationPayload (certificate : EngineeringCertificate) : List (String × Json) :=
  [("verdict", .str certificate.verdict), ("generation_id", .str certificate.generationId),
    ("content_hash", .str certificate.contentHash), ("certificate_content", certificate.content.json)]

theorem distinctItems_map {Item : Type} (payload : Item → Json) (each : ∀ item, Distinct (payload item))
    (items : List Item) : DistinctItems (items.map payload) := by
  rw [distinctItems_iff]
  intro value member
  obtain ⟨item, -, rfl⟩ := List.mem_map.mp member
  exact each item

theorem distinct_compilationPayload (result : CompilationResult) :
    Distinct (.dict (compilationPayload result) : Json) := by
  have coverage := distinctItems_map coveragePayload (fun item => by
    rw [coveragePayload, Json.obj, distinct_dict_iff]
    simp [Distinct]) result.capabilityCoverage
  rw [compilationPayload, distinct_dict_iff]
  refine ⟨by simp, ?_⟩
  simp only [List.mem_cons, List.not_mem_nil, or_false, forall_eq_or_imp, forall_eq, Distinct, coverage, and_self]

theorem distinctItems_texts (texts : List String) : DistinctItems (texts.map Json.str) :=
  distinctItems_map Json.str (fun _ => trivial) texts

theorem distinct_verificationPayload (artifactHash : String) (verified : Bool) (failures : List String) :
    Distinct (.dict (verificationPayload artifactHash verified failures) : Json) := by
  have texts := distinctItems_texts failures
  rw [verificationPayload, distinct_dict_iff]
  refine ⟨by simp, ?_⟩
  simp only [List.mem_cons, List.not_mem_nil, or_false, forall_eq_or_imp, forall_eq, Distinct, texts, and_self]

theorem distinct_outcomePayload (intentId : String) (compiled : CompiledArtifact) (verified : ArtifactVerification)
    (campaignId : String) : Distinct (.dict (outcomePayload intentId compiled verified campaignId) : Json) := by
  have texts := distinctItems_texts verified.failures
  have reference : Distinct (referencePayload verified.verificationEventRef) := by
    cases verified.verificationEventRef <;> trivial
  rw [outcomePayload, distinct_dict_iff]
  refine ⟨by simp, ?_⟩
  simp only [List.mem_cons, List.not_mem_nil, or_false, forall_eq_or_imp, forall_eq, Distinct, texts, reference,
      and_self]

theorem distinct_dimensionPayload (report : DimensionReport) : Distinct (.dict (dimensionPayload report) : Json) := by
  have findings := distinctItems_map findingPayload (fun finding => by
    rw [findingPayload, Json.obj, distinct_dict_iff]
    simp [Distinct]) report.findings
  rw [dimensionPayload, distinct_dict_iff]
  refine ⟨by simp, ?_⟩
  simp only [List.mem_cons, List.not_mem_nil, or_false, forall_eq_or_imp, forall_eq, Distinct, findings, and_self]

theorem distinct_certificationPayload (certificate : EngineeringCertificate) :
    Distinct (.dict (certificationPayload certificate) : Json) := by
  have content : Distinct certificate.content.json := certificate.content.distinct
  rw [certificationPayload, distinct_dict_iff]
  refine ⟨by simp, ?_⟩
  simp only [List.mem_cons, List.not_mem_nil, or_false, forall_eq_or_imp, forall_eq, Distinct, content, and_self]

def compilationEvent (result : CompilationResult) (evolutionId : String) : EvolutionEvent where
  eventId := compilationId result.backendId result.artifactHash
  evolutionId := orDefault evolutionId ("compilation-" ++ result.backendId)
  sequence := 0
  eventType := .compilation
  subjectId := result.isrHash
  payload := .of (compilationPayload result) (distinct_compilationPayload result)
  isrHash := result.isrHash
  candidateHash := result.artifactHash
  artifactHash := result.artifactHash

def verificationEvent (artifactHash : String) (verified : Bool) (failures : List String) (evolutionId : String) :
    EvolutionEvent where
  eventId := "verification-" ++ shortened artifactHash 8
  evolutionId := orDefault evolutionId ("verification-" ++ shortened artifactHash 8)
  sequence := 0
  eventType := .verification
  subjectId := artifactHash
  payload := .of (verificationPayload artifactHash verified failures)
    (distinct_verificationPayload artifactHash verified failures)
  candidateHash := artifactHash
  artifactHash

def outcomeEvent (intentId : String) (compiled : CompiledArtifact) (verified : ArtifactVerification)
    (campaignId evolutionId : String) : EvolutionEvent where
  eventId := "generation-" ++ campaignId ++ "-" ++ intentId ++ "-" ++ shortened compiled.artifactHash 8
  evolutionId := orDefault evolutionId ("campaign-" ++ campaignId)
  sequence := 0
  eventType := .generationOutcome
  subjectId := intentId
  payload := .of (outcomePayload intentId compiled verified campaignId)
    (distinct_outcomePayload intentId compiled verified campaignId)
  isrHash := compiled.isrHash
  candidateHash := compiled.artifactHash
  artifactHash := compiled.artifactHash

def dimensionEvent (report : DimensionReport) (evolutionId : String) : EvolutionEvent where
  eventId := "engineering-dim-" ++ report.dimension ++ "-" ++ shortened report.isrRef 12 ++ "-" ++
    shortened report.architectureRef 12
  evolutionId := orDefault evolutionId ("engineering-" ++ shortened report.isrRef 8)
  sequence := 0
  eventType := .engineeringDimension
  subjectId := report.isrRef
  payload := .of (dimensionPayload report) (distinct_dimensionPayload report)
  isrHash := report.isrRef
  artifactHash := report.architectureRef

def certificationEvent (certificate : EngineeringCertificate) (evolutionId : String) : EvolutionEvent where
  eventId := "engineering-cert-" ++ shortened certificate.isrRef 12 ++ "-" ++ shortened certificate.architectureRef 12
  evolutionId := orDefault evolutionId ("engineering-" ++ shortened certificate.isrRef 8)
  sequence := 0
  eventType := .engineeringCertification
  subjectId := certificate.isrRef
  payload := .of (certificationPayload certificate) (distinct_certificationPayload certificate)
  isrHash := certificate.isrRef
  artifactHash := certificate.architectureRef

variable (hashing : Hashing) (ledger : Ledger)

/-- The event has an id of its own, so no fresh one is drawn. -/
def recordEvent (event : EvolutionEvent) (evolutionId : String) : Ledger × String :=
  (ledger.appendEvent hashing event evolutionId "", event.eventId)

/-- An id that is already there is returned without recording anything. -/
def recordEventOnce (event : EvolutionEvent) (evolutionId : String) : Ledger × String :=
  if (ledger.eventByRef event.eventId).isSome then (ledger, event.eventId)
  else recordEvent hashing ledger event evolutionId

def recordCompilation (result : CompilationResult) (evolutionId : String) : Ledger × String :=
  recordEvent hashing ledger (compilationEvent result evolutionId)
    (orDefault evolutionId ("compilation-" ++ result.backendId))

def recordVerification (artifactHash : String) (verified : Bool) (failures : List String) (evolutionId : String) :
    Ledger × String :=
  recordEvent hashing ledger (verificationEvent artifactHash verified failures evolutionId)
    (orDefault evolutionId ("verification-" ++ shortened artifactHash 8))

def recordGenerationOutcome (intentId : String) (compiled : CompiledArtifact) (verified : ArtifactVerification)
    (campaignId evolutionId : String) : Ledger × String :=
  recordEvent hashing ledger (outcomeEvent intentId compiled verified campaignId evolutionId)
    (orDefault evolutionId ("campaign-" ++ campaignId))

/-- The event is filed under its own id, whatever evolution it was built with. -/
def recordDimension (report : DimensionReport) (evolutionId : String) : Ledger × String :=
  recordEventOnce hashing ledger (dimensionEvent report evolutionId) (dimensionEvent report evolutionId).eventId

def recordEngineeringCertification (certificate : EngineeringCertificate) (evolutionId : String) : Ledger × String :=
  recordEventOnce hashing ledger (certificationEvent certificate evolutionId)
    (certificationEvent certificate evolutionId).eventId

/-- What a reference in a payload finds. Only texts are ids. -/
def byReference (reference : Option Json) : Option EvolutionEvent :=
  match reference with
  | some (.atom (.str eventId)) => ledger.eventByRef eventId
  | _ => none

/-- `chain_complete`. -/
def chainComplete (provenanceChainRef : String) : Bool :=
  match ledger.eventByRef provenanceChainRef with
  | none => false
  | some event =>
      let compilationRef := get event.payload.record "compilation_event_ref"
      let verificationRef := get event.payload.record "verification_event_ref"
      compilationRef.any truthy && verificationRef.any truthy &&
        ((byReference ledger compilationRef).isSome && (byReference ledger verificationRef).isSome)

inductive Call where
  | compilation (result : CompilationResult) (evolutionId : String)
  | verification (artifactHash : String) (verified : Bool) (failures : List String) (evolutionId : String)
  | generationOutcome (intentId : String) (compiled : CompiledArtifact) (verified : ArtifactVerification)
      (campaignId evolutionId : String)
  | dimension (report : DimensionReport) (evolutionId : String)
  | engineeringCertification (certificate : EngineeringCertificate) (evolutionId : String)
  deriving DecidableEq

def record : Call → Ledger × String
  | .compilation result evolutionId => recordCompilation hashing ledger result evolutionId
  | .verification artifactHash verified failures evolutionId =>
      recordVerification hashing ledger artifactHash verified failures evolutionId
  | .generationOutcome intentId compiled verified campaignId evolutionId =>
      recordGenerationOutcome hashing ledger intentId compiled verified campaignId evolutionId
  | .dimension report evolutionId => recordDimension hashing ledger report evolutionId
  | .engineeringCertification certificate evolutionId =>
      recordEngineeringCertification hashing ledger certificate evolutionId

/-- The ledger after the calls, and the id that each of them returned. -/
def recordAll (ledger : Ledger) : List Call → Ledger × List String
  | [] => (ledger, [])
  | call :: rest =>
      let recorded := record hashing ledger call
      let later := recordAll recorded.1 rest
      (later.1, recorded.2 :: later.2)

end

section

/-- What an event says, apart from its place in the chain. -/
def placeless (event : EvolutionEvent) : EvolutionEvent :=
  { event with sequence := 0, parentEventId := "", eventHash := "" }

/-- The content of a call: the event that its recorder files. -/
def Call.event : Call → EvolutionEvent
  | .compilation result evolutionId => compilationEvent result evolutionId
  | .verification artifactHash verified failures evolutionId =>
      verificationEvent artifactHash verified failures evolutionId
  | .generationOutcome intentId compiled verified campaignId evolutionId =>
      outcomeEvent intentId compiled verified campaignId evolutionId
  | .dimension report evolutionId =>
      { dimensionEvent report evolutionId with evolutionId := (dimensionEvent report evolutionId).eventId }
  | .engineeringCertification certificate evolutionId =>
      { certificationEvent certificate evolutionId with
        evolutionId := (certificationEvent certificate evolutionId).eventId }

def Call.eventId (call : Call) : String := call.event.eventId

theorem append_ne_empty {head : String} (named : head ≠ "") (tail : String) : head ++ tail ≠ "" := by
  intro same
  exact named (String.append_eq_empty_iff.mp same).1

theorem compilationId_ne_empty (backendId artifactHash : String) : compilationId backendId artifactHash ≠ "" :=
  append_ne_empty (append_ne_empty (append_ne_empty (by decide) _) _) _

theorem Call.eventId_ne_empty (call : Call) : call.eventId ≠ "" := by
  cases call with
  | compilation result evolutionId => exact compilationId_ne_empty _ _
  | verification artifactHash verified failures evolutionId => exact append_ne_empty (by decide) _
  | generationOutcome intentId compiled verified campaignId evolutionId =>
      exact append_ne_empty
          (append_ne_empty (append_ne_empty (append_ne_empty (append_ne_empty (by decide) _) _) _) _) _
  | dimension report evolutionId =>
      exact append_ne_empty
          (append_ne_empty (append_ne_empty (append_ne_empty (append_ne_empty (by decide) _) _) _) _) _
  | engineeringCertification certificate evolutionId =>
      exact append_ne_empty (append_ne_empty (append_ne_empty (by decide) _) _) _

variable {hashing : Hashing} {ledger : Ledger}

theorem orDefault_ne_empty {default : String} (named : default ≠ "") (text : String) : orDefault text default ≠ "" := by
  rw [orDefault]
  split
  · exact named
  · assumption

/-- Appending an event with an id of its own makes exactly that id findable. -/
theorem eventByRef_recordEvent (event : EvolutionEvent) (evolutionId : String) (named : event.eventId ≠ "")
    (filed : evolutionId ≠ "") (unplaced : placeless event = event) (reference : String) :
    ((recordEvent hashing ledger event evolutionId).1.eventByRef reference).map placeless =
      ((ledger.eventByRef reference).map placeless <|>
        if event.eventId = reference then some { event with evolutionId } else none) := by
  have kept : orDefault event.eventId "" = event.eventId := if_neg named
  have under : orDefault evolutionId event.evolutionId = evolutionId := if_neg filed
  have final : placeless (ledger.finalize hashing event evolutionId "") = { event with evolutionId } := by
    rw [← unplaced]
    simp only [Ledger.finalize, placeless, kept, under]
  have id : (ledger.finalize hashing event evolutionId "").eventId = event.eventId := by
    simp only [Ledger.finalize, kept]
  have events : (recordEvent hashing ledger event evolutionId).1.events =
      ledger.events ++ [ledger.finalize hashing event evolutionId ""] := rfl
  rw [Ledger.eventByRef, events, Ledger.eventByRef, List.find?_append, List.find?_singleton, id]
  cases ledger.events.find? fun other => other.eventId == reference with
  | some found => rfl
  | none =>
      by_cases hit : event.eventId = reference
      · simp only [hit, beq_self_eq_true, ↓reduceIte, Option.none_or, Option.map_some, Option.map_none, final]
        rfl
      · simp [hit]

theorem eventByRef_recordEventOnce (event : EvolutionEvent) (evolutionId : String) (named : event.eventId ≠ "")
    (filed : evolutionId ≠ "") (unplaced : placeless event = event) (reference : String) :
    ((recordEventOnce hashing ledger event evolutionId).1.eventByRef reference).map placeless =
      ((ledger.eventByRef reference).map placeless <|>
        if event.eventId = reference then some { event with evolutionId } else none) := by
  rw [recordEventOnce]
  split
  next known =>
    by_cases hit : event.eventId = reference
    · subst hit
      obtain ⟨found, same⟩ := Option.isSome_iff_exists.mp known
      simp [same]
    · simp [hit]
  next => exact eventByRef_recordEvent event evolutionId named filed unplaced reference

/-- What a call adds to the lookups: its own event, unless its id was found before. -/
theorem eventByRef_record (call : Call) (reference : String) :
    ((record hashing ledger call).1.eventByRef reference).map placeless =
      ((ledger.eventByRef reference).map placeless <|>
        if call.eventId = reference then some call.event else none) := by
  have named := call.eventId_ne_empty
  cases call with
  | compilation result evolutionId =>
      exact eventByRef_recordEvent _ _ named (orDefault_ne_empty (by simp) _) rfl reference
  | verification artifactHash verified failures evolutionId =>
      exact eventByRef_recordEvent _ _ named (orDefault_ne_empty (by simp) _) rfl reference
  | generationOutcome intentId compiled verified campaignId evolutionId =>
      exact eventByRef_recordEvent _ _ named (orDefault_ne_empty (by simp) _) rfl reference
  | dimension report evolutionId => exact eventByRef_recordEventOnce _ _ named named rfl reference
  | engineeringCertification certificate evolutionId => exact eventByRef_recordEventOnce _ _ named named rfl reference

theorem record_returns (call : Call) : (record hashing ledger call).2 = call.eventId := by
  cases call with
  | compilation | verification | generationOutcome => rfl
  | dimension | engineeringCertification =>
      simp only [record, recordDimension, recordEngineeringCertification, recordEventOnce]
      split <;> rfl

theorem recordAll_returns (calls : List Call) : (recordAll hashing ledger calls).2 = calls.map Call.eventId := by
  induction calls generalizing ledger with
  | nil => rfl
  | cons call rest ih => rw [recordAll, List.map_cons, record_returns, ih]

/-- A name finds the first call that was given it. -/
theorem eventByRef_recordAll (calls : List Call) (reference : String) :
    ((recordAll hashing ledger calls).1.eventByRef reference).map placeless =
      ((ledger.eventByRef reference).map placeless <|>
        (calls.find? fun call => call.eventId == reference).map Call.event) := by
  induction calls generalizing ledger with
  | nil => simp [recordAll]
  | cons call rest ih =>
      rw [recordAll, ih, eventByRef_record, List.find?_cons]
      cases (ledger.eventByRef reference).map placeless with
      | some found => simp
      | none =>
          by_cases hit : call.eventId = reference
          · simp [hit]
          · simp [hit, beq_eq_false_iff_ne.mpr hit]

end

variable (hashing : Hashing) (calls : List Call)

/-- Every id that a call returned finds an event with that call's content. -/
def ReturnsResolve : Prop :=
  ∀ returned ∈ calls.zip (recordAll hashing {} calls).2, ∃ event,
    (recordAll hashing {} calls).1.eventByRef returned.2 = some event ∧ placeless event = returned.1.event

def CompiledAs (outcome compilation : EvolutionEvent) : Prop :=
  compilation.eventType = .compilation ∧ compilation.artifactHash = outcome.artifactHash ∧
    compilation.isrHash = outcome.isrHash

def VerifiedAs (outcome verification : EvolutionEvent) : Prop :=
  verification.eventType = .verification ∧ verification.artifactHash = outcome.artifactHash ∧
    get verification.payload.record "verified" = get outcome.payload.record "verification_verified" ∧
    get verification.payload.record "failures" = get outcome.payload.record "failures"

/-- What a complete chain promises about a generation outcome. -/
def ProvenanceSound (ledger : Ledger) : Prop :=
  ∀ reference outcome, ledger.eventByRef reference = some outcome → outcome.eventType = .generationOutcome →
    chainComplete ledger reference = true →
    (∃ compilation, byReference ledger (get outcome.payload.record "compilation_event_ref") = some compilation ∧
      CompiledAs outcome compilation) ∧
    ∃ verification, byReference ledger (get outcome.payload.record "verification_event_ref") = some verification ∧
      VerifiedAs outcome verification

/-- No id is given to two contents. -/
def Unambiguous : Prop :=
  ∀ call ∈ calls, ∀ other ∈ calls, call.eventId = other.eventId → call.event = other.event

/-- Where both of an outcome's references were recorded, they were recorded for what the
outcome states. -/
def OutcomesBacked : Prop :=
  ∀ intentId compiled verified campaignId evolutionId,
    .generationOutcome intentId compiled verified campaignId evolutionId ∈ calls →
    ∀ compilation ∈ calls, compilation.eventId = compilationId compiled.backendId compiled.artifactHash →
    ∀ verification ∈ calls, verified.verificationEventRef = some verification.eventId →
    (∃ result evolution, compilation = .compilation result evolution ∧ result.artifactHash = compiled.artifactHash ∧
      result.isrHash = compiled.isrHash) ∧
    ∃ evolution, verification = .verification compiled.artifactHash verified.verified verified.failures evolution

variable {hashing calls}

theorem get_document (entries : List (String × Json)) (distinct : Distinct (.dict entries : Json)) (key : String) :
    get (Document.of entries distinct).record key = (get entries key).map sortKeys :=
  get_sorted entries ((distinct_dict_iff entries).mp distinct).1 key

variable (hashing) in
/-- In a fresh ledger a name finds the first call that was given it. -/
theorem eventByRef_fresh (calls : List Call) (reference : String) :
    ((recordAll hashing {} calls).1.eventByRef reference).map placeless =
      (calls.find? fun call => call.eventId == reference).map Call.event := by
  rw [eventByRef_recordAll]
  rfl

variable {event : EvolutionEvent} {call : Call} {evolutionId : String}

variable {reference intentId campaignId : String} {compiled : CompiledArtifact} {verified : ArtifactVerification}

theorem call_of_found (found : (recordAll hashing {} calls).1.eventByRef reference = some event) :
    ∃ call ∈ calls, call.eventId = reference ∧ placeless event = call.event := by
  have first := eventByRef_fresh hashing calls reference
  rw [found, Option.map_some, eq_comm, Option.map_eq_some_iff] at first
  obtain ⟨call, known, same⟩ := first
  exact ⟨call, List.mem_of_find?_eq_some known, by simpa using List.find?_some known, same.symm⟩

variable (hashing) in
theorem found_of_call (member : call ∈ calls) :
    ∃ event, (recordAll hashing {} calls).1.eventByRef call.eventId = some event := by
  have first := eventByRef_fresh hashing calls call.eventId
  have present : (calls.find? fun other => other.eventId == call.eventId).isSome :=
    List.find?_isSome.mpr ⟨call, member, beq_self_eq_true _⟩
  obtain ⟨other, known⟩ := Option.isSome_iff_exists.mp present
  rw [known, Option.map_some, Option.map_eq_some_iff] at first
  exact ⟨first.choose, first.choose_spec.1⟩

theorem returnsResolve_iff : ReturnsResolve hashing calls ↔ Unambiguous calls := by
  rw [ReturnsResolve, recordAll_returns]
  constructor
  · intro resolve call member other inside same
    have pair (call : Call) (member : call ∈ calls) : (call, call.eventId) ∈ calls.zip (calls.map Call.eventId) := by
      rw [← List.map_prod_left_eq_zip]
      exact List.mem_map.mpr ⟨call, member, rfl⟩
    obtain ⟨event, found, carries⟩ := resolve _ (pair call member)
    obtain ⟨event', found', carries'⟩ := resolve _ (pair other inside)
    rw [← same, found] at found'
    obtain rfl := Option.some.inj found'
    exact carries.symm.trans carries'
  · intro unambiguous returned member
    rw [← List.map_prod_left_eq_zip] at member
    obtain ⟨call, inside, rfl⟩ := List.mem_map.mp member
    obtain ⟨event, found⟩ := found_of_call hashing inside
    obtain ⟨other, known, named, carries⟩ := call_of_found found
    exact ⟨event, found, carries.trans (unambiguous other known call inside named)⟩

/-- The fields that provenance is about are read off the content. -/
theorem fields_of_carries {content : EvolutionEvent} (carries : placeless event = content) :
    event.eventType = content.eventType ∧ event.artifactHash = content.artifactHash ∧
      event.isrHash = content.isrHash ∧ event.payload = content.payload := by
  subst carries
  exact ⟨rfl, rfl, rfl, rfl⟩

theorem truthy_text (text : String) : truthy (.str text) = true ↔ text ≠ "" := by simp [truthy]

theorem outcome_references
    (carries : placeless event = outcomeEvent intentId compiled verified campaignId evolutionId) :
    get event.payload.record "compilation_event_ref" =
        some (.str (compilationId compiled.backendId compiled.artifactHash)) ∧
      get event.payload.record "verification_event_ref" = some (referencePayload verified.verificationEventRef) ∧
      get event.payload.record "verification_verified" = some (.bool verified.verified) ∧
      get event.payload.record "failures" = some (sortKeys (Json.arr (verified.failures.map Json.str))) := by
  obtain ⟨-, -, -, payload⟩ := fields_of_carries carries
  have recorded : event.payload = .of (outcomePayload intentId compiled verified campaignId)
      (distinct_outcomePayload intentId compiled verified campaignId) := payload
  have reference : sortKeys (referencePayload verified.verificationEventRef) =
      referencePayload verified.verificationEventRef := by
    cases verified.verificationEventRef <;> rfl
  simp [recorded, get_document, outcomePayload, OrderedMap.get, sortKeys, reference]

theorem generationOutcome_of_type (type : call.event.eventType = .generationOutcome) :
    ∃ intentId compiled verified campaignId evolutionId,
      call = .generationOutcome intentId compiled verified campaignId evolutionId := by
  cases call with
  | generationOutcome intentId compiled verified campaignId evolutionId => exact ⟨_, _, _, _, _, rfl⟩
  | compilation | verification | dimension | engineeringCertification => cases type

theorem compilation_of_type (type : call.event.eventType = .compilation) :
    ∃ result evolutionId, call = .compilation result evolutionId := by
  cases call with
  | compilation result evolutionId => exact ⟨_, _, rfl⟩
  | generationOutcome | verification | dimension | engineeringCertification => cases type

theorem verification_of_type (type : call.event.eventType = .verification) :
    ∃ artifactHash verified failures evolutionId, call = .verification artifactHash verified failures evolutionId := by
  cases call with
  | verification artifactHash verified failures evolutionId => exact ⟨_, _, _, _, rfl⟩
  | generationOutcome | compilation | dimension | engineeringCertification => cases type

theorem sortItems_texts (texts : List String) : sortItems (texts.map Json.str) = texts.map Json.str := by
  rw [sortItems_eq_map, List.map_map]
  rfl

theorem verification_payload {artifactHash : String} {verified : Bool} {failures : List String}
    (carries : placeless event = verificationEvent artifactHash verified failures evolutionId) :
    get event.payload.record "verified" = some (.bool verified) ∧
      get event.payload.record "failures" = some (sortKeys (Json.arr (failures.map Json.str))) := by
  obtain ⟨-, -, -, payload⟩ := fields_of_carries carries
  have recorded : event.payload = .of (verificationPayload artifactHash verified failures)
      (distinct_verificationPayload artifactHash verified failures) := payload
  simp [recorded, get_document, verificationPayload, OrderedMap.get, sortKeys]

theorem texts_injective {left right : List String}
    (same : sortKeys (Json.arr (left.map Json.str)) = sortKeys (Json.arr (right.map Json.str))) : left = right := by
  rw [sortKeys, sortKeys, sortItems_texts, sortItems_texts, Tree.list.injEq] at same
  exact List.map_injective_iff.mpr (fun _ _ equal => by simpa using equal) same

/-- A chain is complete exactly when both references of the outcome were recorded. -/
theorem chainComplete_iff {ledger : Ledger} {outcome : EvolutionEvent}
    (found : ledger.eventByRef reference = some outcome)
    (carries : placeless outcome = outcomeEvent intentId compiled verified campaignId evolutionId) :
    chainComplete ledger reference = true ↔
      (ledger.eventByRef (compilationId compiled.backendId compiled.artifactHash)).isSome ∧
        ∃ verificationRef, verified.verificationEventRef = some verificationRef ∧ verificationRef ≠ "" ∧
          (ledger.eventByRef verificationRef).isSome := by
  obtain ⟨compilation, verification, -, -⟩ := outcome_references carries
  have named : truthy (.str (compilationId compiled.backendId compiled.artifactHash)) = true :=
    (truthy_text _).mpr (compilationId_ne_empty _ _)
  rw [chainComplete, found]
  simp only [compilation, verification, Option.any_some, named, Bool.true_and, byReference]
  cases verified.verificationEventRef with
  | none => simp [referencePayload, truthy]
  | some verificationRef =>
      simp only [referencePayload, Bool.and_eq_true, truthy_text, Option.some.injEq, exists_eq_left']
      tauto

variable (hashing) in
theorem carried (unambiguous : Unambiguous calls) {call : Call} (member : call ∈ calls) :
    ∃ event, (recordAll hashing {} calls).1.eventByRef call.eventId = some event ∧ placeless event = call.event := by
  obtain ⟨event, found⟩ := found_of_call hashing member
  obtain ⟨other, known, named, carries⟩ := call_of_found found
  exact ⟨event, found, carries.trans (unambiguous other known call member named)⟩

theorem provenanceSound_of_backed (backed : OutcomesBacked calls) :
    ProvenanceSound (recordAll hashing {} calls).1 := by
  intro reference outcome found type complete
  obtain ⟨call, member, -, carries⟩ := call_of_found found
  rw [(fields_of_carries carries).1] at type
  obtain ⟨intentId, compiled, verified, campaignId, evolutionId, rfl⟩ := generationOutcome_of_type type
  obtain ⟨compilationRef, verificationRef, verdict, failures⟩ := outcome_references carries
  obtain ⟨recorded, name, referred, -, present⟩ := (chainComplete_iff found carries).mp complete
  obtain ⟨compilation, foundCompilation⟩ := Option.isSome_iff_exists.mp recorded
  obtain ⟨verification, foundVerification⟩ := Option.isSome_iff_exists.mp present
  obtain ⟨compiling, memberCompiling, namedCompiling, carriesCompilation⟩ := call_of_found foundCompilation
  obtain ⟨verifying, memberVerifying, rfl, carriesVerification⟩ := call_of_found foundVerification
  obtain ⟨⟨result, evolution, rfl, artifact, isr⟩, ⟨evolution', rfl⟩⟩ :=
    backed _ _ _ _ _ member compiling memberCompiling namedCompiling verifying memberVerifying referred
  obtain ⟨typeOutcome, artifactOutcome, isrOutcome, -⟩ := fields_of_carries carries
  refine ⟨⟨compilation, ?_, ?_⟩, verification, ?_, ?_⟩
  · rw [compilationRef]
    exact foundCompilation
  · obtain ⟨typed, artifact', isr', -⟩ := fields_of_carries carriesCompilation
    exact ⟨typed, artifact'.trans (artifact.trans artifactOutcome.symm), isr'.trans (isr.trans isrOutcome.symm)⟩
  · rw [verificationRef, referred]
    exact foundVerification
  · obtain ⟨typed, artifact', -, -⟩ := fields_of_carries carriesVerification
    obtain ⟨verdict', failures'⟩ := verification_payload carriesVerification
    exact ⟨typed, artifact'.trans artifactOutcome.symm, verdict'.trans verdict.symm, failures'.trans failures.symm⟩

theorem backed_of_provenanceSound (unambiguous : Unambiguous calls)
    (sound : ProvenanceSound (recordAll hashing {} calls).1) : OutcomesBacked calls := by
  intro intentId compiled verified campaignId evolutionId member compiling memberCompiling namedCompiling verifying
    memberVerifying referred
  obtain ⟨outcome, found, carries⟩ := carried hashing unambiguous member
  obtain ⟨compilation, foundCompilation, carriesCompilation⟩ := carried hashing unambiguous memberCompiling
  obtain ⟨verification, foundVerification, carriesVerification⟩ :=
    carried hashing unambiguous memberVerifying
  rw [namedCompiling] at foundCompilation
  have complete := (chainComplete_iff found carries).mpr
    ⟨by rw [foundCompilation, Option.isSome_some], verifying.eventId, referred, verifying.eventId_ne_empty,
      by rw [foundVerification, Option.isSome_some]⟩
  obtain ⟨typeOutcome, artifactOutcome, isrOutcome, -⟩ := fields_of_carries carries
  obtain ⟨compilationRef, verificationRef, verdict, failures⟩ := outcome_references carries
  obtain ⟨⟨compilation', found', compiledAs⟩, verification', foundV', verifiedAs⟩ :=
      sound _ _ found typeOutcome complete
  rw [compilationRef, byReference, foundCompilation] at found'
  rw [verificationRef, referred, referencePayload, byReference, foundVerification] at foundV'
  obtain rfl := Option.some.inj found'
  obtain rfl := Option.some.inj foundV'
  obtain ⟨typeC, artifactC, isrC⟩ := compiledAs
  obtain ⟨typeV, artifactV, verdictV, failuresV⟩ := verifiedAs
  obtain ⟨typedC, artifactC', isrC', -⟩ := fields_of_carries carriesCompilation
  obtain ⟨typedV, artifactV', -, -⟩ := fields_of_carries carriesVerification
  obtain ⟨result, evolution, rfl⟩ := compilation_of_type (typedC.symm.trans typeC)
  obtain ⟨artifactHash, verdictHeld, failuresHeld, evolution', rfl⟩ := verification_of_type (typedV.symm.trans typeV)
  refine ⟨⟨result, evolution, rfl, artifactC'.symm.trans (artifactC.trans artifactOutcome),
    isrC'.symm.trans (isrC.trans isrOutcome)⟩, evolution', ?_⟩
  obtain ⟨verdict', failures'⟩ := verification_payload carriesVerification
  have sameArtifact : artifactHash = compiled.artifactHash := artifactV'.symm.trans (artifactV.trans artifactOutcome)
  have sameVerdict : verdictHeld = verified.verified := by
    simpa using verdict'.symm.trans (verdictV.trans verdict)
  have sameFailures : failuresHeld = verified.failures :=
    texts_injective (Option.some.inj (failures'.symm.trans (failuresV.trans failures)))
  rw [sameArtifact, sameVerdict, sameFailures]

theorem references_sound_iff (hashing : Hashing) (calls : List Call) :
    (ReturnsResolve hashing calls ∧ ProvenanceSound (recordAll hashing {} calls).1) ↔
      Unambiguous calls ∧ OutcomesBacked calls := by
  rw [returnsResolve_iff]
  constructor
  · rintro ⟨unambiguous, sound⟩
    exact ⟨unambiguous, backed_of_provenanceSound unambiguous sound⟩
  · rintro ⟨unambiguous, backed⟩
    exact ⟨unambiguous, provenanceSound_of_backed backed⟩

def reverified : List Call :=
  [.verification "a1b2c3d4e5f6" false ["entrypoint_missing"] "", .verification "a1b2c3d4e5f6" true [] ""]

def unhashed : Hashing := ⟨JsonText.exactDecimals, fun text => text⟩

/-- The id of the second verification finds the first one, with the other verdict. -/
theorem reverification_unfound :
    (recordAll unhashed {} reverified).2 = ["verification-a1b2c3d4", "verification-a1b2c3d4"] ∧
      ¬ (ReturnsResolve unhashed reverified ∧ ProvenanceSound (recordAll unhashed {} reverified).1) := by
  refine ⟨by rw [recordAll_returns]; decide, fun holds => ?_⟩
  have unambiguous := returnsResolve_iff.mp holds.1
  have same := unambiguous (.verification "a1b2c3d4e5f6" false ["entrypoint_missing"] "") List.mem_cons_self
    (.verification "a1b2c3d4e5f6" true [] "") (by simp [reverified]) rfl
  have content (verified : Bool) (failures : List String) :
      placeless (verificationEvent "a1b2c3d4e5f6" verified failures "") =
        verificationEvent "a1b2c3d4e5f6" verified failures "" := rfl
  have refused := (verification_payload (content false ["entrypoint_missing"])).1
  have accepted := (verification_payload (content true [])).1
  rw [Call.event, Call.event] at same
  rw [same, accepted] at refused
  simp at refused

end AutonomousApi.LedgerReferences
