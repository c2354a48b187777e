import AutonomousApi.JsonLines

/-! The evolution ledger of tiannara/application/evolution/ledger.py: records, selections and
the events that are projected from them or appended directly, each list a hash chain with a
file of JSON lines under the ledger's root, and the loading of a root. Appends are serialized
by a lock, so a run is a list of commands. -/

namespace AutonomousApi.EvolutionLedger

open DataTree JsonValue JsonCodec JsonLines PythonLiteral OrderedMap

/-- What the json module and hashlib provide: the text of fractions, and
`hashlib.sha256(...).hexdigest()`. -/
structure Hashing where
  numbers : NumberText JsonFloat
  sha256 : String → String

/-- A Python dictionary of JSON values. Dictionaries are equal whatever the order of their
keys, so they are held with the keys in order. -/
structure Document where
  record : List (String × Json)
  distinct : Distinct (.dict record : Json)
  ordered : sortKeys (.dict record : Json) = .dict record
  deriving DecidableEq

def Document.of (record : List (String × Json)) (distinct : Distinct (.dict record : Json)) : Document where
  record := (sortEntries record).insertionSort keyOrder
  distinct := by
    have sorted := distinct_sortKeys _ distinct
    rwa [sortKeys] at sorted
  ordered := by
    have sorted := sortKeys_sortKeys (.dict record : Json)
    rwa [sortKeys] at sorted

def Document.json (document : Document) : Json := .dict document.record

def Document.empty : Document := ⟨[], (distinct_dict_iff []).mpr ⟨.nil, by simp⟩, rfl⟩

variable (hashing : Hashing)

/-- `canonical_hash`. -/
def canonicalHash (value : Json) : String := hashing.sha256 (dumps .compact hashing.numbers value)

inductive EventType where
  | observation | anchor | measurement | candidateGenerated | candidateEvaluated | gateEvaluated | candidateSelected
  | candidateRejected | candidateAccepted | compilation | execution | delivery | deployment | feedback | certification
  | generationCompleted | schedulerDecision | isrCapabilityAudit | primitiveContract | verification
  | generationOutcome | calibration | matrix | taxonomyCase | taxonomyValidation | scaleRamp | engineeringDimension
  | engineeringCertification
  deriving DecidableEq

def EventType.value : EventType → String
  | .observation => "observation"
  | .anchor => "anchor"
  | .measurement => "measurement"
  | .candidateGenerated => "candidate_generated"
  | .candidateEvaluated => "candidate_evaluated"
  | .gateEvaluated => "gate_evaluated"
  | .candidateSelected => "candidate_selected"
  | .candidateRejected => "candidate_rejected"
  | .candidateAccepted => "candidate_accepted"
  | .compilation => "compilation"
  | .execution => "execution"
  | .delivery => "delivery"
  | .deployment => "deployment"
  | .feedback => "feedback"
  | .certification => "certification"
  | .generationCompleted => "generation_completed"
  | .schedulerDecision => "scheduler_decision"
  | .isrCapabilityAudit => "isr_capability_audit"
  | .primitiveContract => "primitive_contract"
  | .verification => "verification"
  | .generationOutcome => "generation_outcome"
  | .calibration => "calibration"
  | .matrix => "matrix"
  | .taxonomyCase => "taxonomy_case"
  | .taxonomyValidation => "taxonomy_validation"
  | .scaleRamp => "scale_ramp"
  | .engineeringDimension => "engineering_dimension"
  | .engineeringCertification => "engineering_certification"

structure EvolutionRecord where
  observationHash : String
  brokenHash : String
  operator : String
  hypothesis : String
  repairedHash : String
  repairedDiff : List String := []
  validation : List (String × String) := []
  fitnessDelta : JsonFloat := .finite 0
  decision : String := "accept"
  parentLink : String := ""
  repairedArtifactHash : String := ""
  runtimeEvidenceHash : String := ""
  createdAt : String := ""
  deriving DecidableEq

def pairPayload (pair : String × String) : Json := .arr [.str pair.1, .str pair.2]

/-- `model_dump(mode="json")`. -/
def EvolutionRecord.dump (record : EvolutionRecord) : List (String × Json) :=
  [("observation_hash", .str record.observationHash), ("broken_hash", .str record.brokenHash),
    ("operator", .str record.operator), ("hypothesis", .str record.hypothesis),
    ("repaired_hash", .str record.repairedHash), ("repaired_diff", .arr (record.repairedDiff.map Json.str)),
    ("validation", .arr (record.validation.map pairPayload)), ("fitness_delta", .float record.fitnessDelta),
    ("decision", .str record.decision), ("parent_link", .str record.parentLink),
    ("repaired_artifact_hash", .str record.repairedArtifactHash),
    ("runtime_evidence_hash", .str record.runtimeEvidenceHash), ("created_at", .str record.createdAt)]

def EvolutionRecord.recordId (record : EvolutionRecord) : String := canonicalHash hashing (.obj record.dump)

structure SelectionRecord where
  payload : Document
  parentLink : String := ""
  deriving DecidableEq

def SelectionRecord.dump (record : SelectionRecord) : List (String × Json) :=
  [("payload", record.payload.json), ("parent_link", .str record.parentLink)]

def SelectionRecord.recordId (record : SelectionRecord) : String :=
  canonicalHash hashing (.obj [("parent_link", .str record.parentLink), ("payload", record.payload.json)])

structure EvolutionEvent where
  eventId : String
  evolutionId : String
  sequence : Int
  eventType : EventType
  parentEventId : String := ""
  subjectId : String := ""
  payload : Document := .empty
  observationHash : String := ""
  candidateHash : String := ""
  isrHash : String := ""
  artifactHash : String := ""
  environmentHash : String := ""
  createdAt : String := ""
  eventHash : String := ""
  deriving DecidableEq

/-- `content`: the dump without the event's own hash. -/
def EvolutionEvent.content (event : EvolutionEvent) : List (String × Json) :=
  [("event_id", .str event.eventId), ("evolution_id", .str event.evolutionId), ("sequence", .int event.sequence),
    ("event_type", .str event.eventType.value), ("parent_event_id", .str event.parentEventId),
    ("subject_id", .str event.subjectId), ("payload", event.payload.json),
    ("observation_hash", .str event.observationHash), ("candidate_hash", .str event.candidateHash),
    ("isr_hash", .str event.isrHash), ("artifact_hash", .str event.artifactHash),
    ("environment_hash", .str event.environmentHash), ("created_at", .str event.createdAt)]

def EvolutionEvent.dump (event : EvolutionEvent) : List (String × Json) :=
  event.content ++ [("event_hash", .str event.eventHash)]

def EvolutionEvent.computedHash (event : EvolutionEvent) : String := canonicalHash hashing (.obj event.content)

def EvolutionEvent.isIntact (event : EvolutionEvent) : Bool := event.eventHash == event.computedHash hashing

/-- `text or default`. -/
def orDefault (text default : String) : String := if text = "" then default else text

def shortened (text : String) (length : Nat) : String := String.ofList (text.toList.take length)

theorem distinct_recordDump (record : EvolutionRecord) : Distinct (.dict record.dump : Json) := by
  have texts (items : List String) : DistinctItems (items.map Json.str) := by simp [distinctItems_iff, Distinct]
  have pairs (items : List (String × String)) : DistinctItems (items.map pairPayload) := by
    rw [distinctItems_iff]
    intro payload member
    obtain ⟨pair, -, rfl⟩ := List.mem_map.mp member
    simp [pairPayload, Distinct, DistinctItems]
  rw [EvolutionRecord.dump, distinct_dict_iff]
  refine ⟨by simp, ?_⟩
  simp only [List.mem_cons, List.not_mem_nil, or_false, forall_eq_or_imp, forall_eq, Distinct, texts, pairs, and_self]

/-- `project_record`. -/
def projectRecord (record : EvolutionRecord) (evolutionId : String) : EvolutionEvent where
  eventId := record.recordId hashing
  evolutionId := orDefault evolutionId ("evolution-" ++ shortened record.observationHash 8)
  sequence := 0
  eventType := if record.decision = "accept" then .candidateAccepted else .candidateRejected
  subjectId := record.repairedHash
  payload := .of record.dump (distinct_recordDump record)
  observationHash := record.observationHash
  candidateHash := record.repairedHash
  isrHash := record.repairedHash
  artifactHash := record.repairedArtifactHash
  createdAt := record.createdAt

/-- Python's truth of a JSON value. -/
def truthy : Json → Bool
  | .atom .null => false
  | .atom (.bool value) => value
  | .atom (.int value) => value ≠ 0
  | .atom (.float value) => value.toRat ≠ 0
  | .atom (.str text) => text ≠ ""
  | .list items => !items.isEmpty
  | .dict entries => !entries.isEmpty

/-- `selected_candidate_id` as the projection uses it: nothing when it is falsy, and the
event does not validate when it is neither falsy nor a text. -/
def selectedCandidate (payload : Document) : Option (Option String) :=
  match get payload.record "selected_candidate_id" with
  | none => some none
  | some (.atom (.str text)) => some (if text = "" then none else some text)
  | some value => if truthy value then none else some none

/-- `project_selection`. -/
def projectSelection (payload : Document) (evolutionId : String) : Option EvolutionEvent :=
  (selectedCandidate payload).map fun selected =>
    { eventId := canonicalHash hashing (.obj [("payload", payload.json)]),
      evolutionId := orDefault evolutionId ("evolution-" ++ shortened (selected.getD "sel") 8),
      sequence := 0,
      eventType := if selected.isSome then .candidateSelected else .candidateRejected,
      subjectId := selected.getD "",
      payload,
      candidateHash := selected.getD "" }

/-- The texts of `ledger.jsonl`, `selections.jsonl` and `events.jsonl` under the root. -/
structure Files where
  records : String := ""
  selections : String := ""
  events : String := ""
  deriving DecidableEq

structure Ledger where
  records : List EvolutionRecord := []
  ids : List String := []
  selectionRecords : List SelectionRecord := []
  selectionIds : List String := []
  events : List EvolutionEvent := []
  eventHashes : List String := []
  files : Files := {}
  deriving DecidableEq

def latest (ids : List String) : String := ids.getLast?.getD ""

/-- A line of one of the files: the record behind its id, with the default separators. -/
def lineOf (id : String) (dump : List (String × Json)) : String :=
  dumps .default hashing.numbers (.obj (("id", .str id) :: dump))

variable (ledger : Ledger)

/-- The event as `append_event` finalizes it; `fresh` is the uuid for an event without id. -/
def Ledger.finalize (event : EvolutionEvent) (evolutionId fresh : String) : EvolutionEvent :=
  let linked := { event with parentEventId := latest ledger.eventHashes, sequence := ledger.events.length,
                             evolutionId := orDefault evolutionId event.evolutionId }
  let named := { linked with eventId := orDefault linked.eventId fresh }
  { named with eventHash := named.computedHash hashing }

def Ledger.appendEvent (event : EvolutionEvent) (evolutionId fresh : String) : Ledger :=
  let final := ledger.finalize hashing event evolutionId fresh
  { ledger with
    events := ledger.events ++ [final],
    eventHashes := ledger.eventHashes ++ [final.eventHash],
    files := { ledger.files with
      events := ledger.files.events ++ fileOf [lineOf hashing final.eventHash final.dump] } }

def Ledger.append (record : EvolutionRecord) (fresh : String) : Ledger :=
  let linked := { record with parentLink := latest ledger.ids }
  let recordId := linked.recordId hashing
  let recorded := { ledger with
    records := ledger.records ++ [linked],
    ids := ledger.ids ++ [recordId],
    files := { ledger.files with
      records := ledger.files.records ++ fileOf [lineOf hashing recordId linked.dump] } }
  recorded.appendEvent hashing (projectRecord hashing linked (latest recorded.eventHashes))
    (latest recorded.eventHashes) fresh

/-- The selection is kept and persisted also when the projected event does not validate. -/
def Ledger.appendSelection (payload : Document) (fresh : String) : Ledger :=
  let record : SelectionRecord := { payload, parentLink := latest ledger.selectionIds }
  let recordId := record.recordId hashing
  let recorded := { ledger with
    selectionRecords := ledger.selectionRecords ++ [record],
    selectionIds := ledger.selectionIds ++ [recordId],
    files := { ledger.files with
      selections := ledger.files.selections ++ fileOf [lineOf hashing recordId record.dump] } }
  match projectSelection hashing payload (latest recorded.eventHashes) with
  | some event => recorded.appendEvent hashing event (latest recorded.eventHashes) fresh
  | none => recorded

def Ledger.eventByRef (eventId : String) : Option EvolutionEvent :=
  ledger.events.find? fun event => event.eventId == eventId

/-- Whether each link is the id before it. -/
def linksOk (links ids : List String) : Bool := (links.zip ("" :: ids)).all fun pair => pair.1 == pair.2

def Ledger.verifyChain : Bool := linksOk (ledger.records.map EvolutionRecord.parentLink) ledger.ids

def Ledger.verifySelectionChain : Bool :=
  linksOk (ledger.selectionRecords.map SelectionRecord.parentLink) ledger.selectionIds

def Ledger.verifyEventChain : Bool :=
  (ledger.events.zip ("" :: ledger.eventHashes)).all fun pair =>
    pair.1.isIntact hashing && pair.1.parentEventId == pair.2

inductive Command where
  | append (record : EvolutionRecord) (fresh : String)
  | appendSelection (payload : Document) (fresh : String)
  | appendEvent (event : EvolutionEvent) (evolutionId fresh : String)

def Ledger.execute : Command → Ledger
  | .append record fresh => ledger.append hashing record fresh
  | .appendSelection payload fresh => ledger.appendSelection hashing payload fresh
  | .appendEvent event evolutionId fresh => ledger.appendEvent hashing event evolutionId fresh

def Ledger.run (commands : List Command) : Ledger := commands.foldl (Ledger.execute hashing) ledger

/-- How pydantic reads the fields of a model from JSON values. -/
structure Validation where
  text : Json → Option String
  integer : Json → Option Int
  number : Json → Option JsonFloat
  texts : Json → Option (List String)
  pairs : Json → Option (List (String × String))
  eventType : Json → Option EventType
  document : Json → Option Document

/-- Values of a field's own type are read as they are. -/
structure Validation.Exact (validation : Validation) : Prop where
  text : ∀ value, validation.text (.str value) = some value
  integer : ∀ value, validation.integer (.int value) = some value
  number : ∀ value, validation.number (.float value) = some value
  texts : ∀ values, validation.texts (.arr (values.map Json.str)) = some values
  pairs : ∀ values, validation.pairs (.arr (values.map pairPayload)) = some values
  eventType : ∀ value, validation.eventType (.str (EventType.value value)) = some value
  document : ∀ value, validation.document (Document.json value) = some value

def required {Value : Type} (record : List (String × Json)) (key : String) (read : Json → Option Value) :
    Option Value :=
  (get record key).bind read

def defaulted {Value : Type} (record : List (String × Json)) (key : String) (read : Json → Option Value)
    (default : Value) : Option Value :=
  match get record key with
  | none => some default
  | some value => read value

variable (validation : Validation)

def readRecord (record : List (String × Json)) : Option EvolutionRecord := do
  let observationHash ← required record "observation_hash" validation.text
  let brokenHash ← required record "broken_hash" validation.text
  let operator ← required record "operator" validation.text
  let hypothesis ← required record "hypothesis" validation.text
  let repairedHash ← required record "repaired_hash" validation.text
  let repairedDiff ← defaulted record "repaired_diff" validation.texts []
  let validation' ← defaulted record "validation" validation.pairs []
  let fitnessDelta ← defaulted record "fitness_delta" validation.number (.finite 0)
  let decision ← defaulted record "decision" validation.text "accept"
  let parentLink ← defaulted record "parent_link" validation.text ""
  let repairedArtifactHash ← defaulted record "repaired_artifact_hash" validation.text ""
  let runtimeEvidenceHash ← defaulted record "runtime_evidence_hash" validation.text ""
  let createdAt ← defaulted record "created_at" validation.text ""
  some { observationHash, brokenHash, operator, hypothesis, repairedHash, repairedDiff, validation := validation',
         fitnessDelta, decision, parentLink, repairedArtifactHash, runtimeEvidenceHash, createdAt }

def readSelection (record : List (String × Json)) : Option SelectionRecord := do
  let payload ← required record "payload" validation.document
  let parentLink ← defaulted record "parent_link" validation.text ""
  some { payload, parentLink }

def readEvent (record : List (String × Json)) : Option EvolutionEvent := do
  let eventId ← required record "event_id" validation.text
  let evolutionId ← required record "evolution_id" validation.text
  let sequence ← required record "sequence" validation.integer
  let eventType ← required record "event_type" validation.eventType
  let parentEventId ← defaulted record "parent_event_id" validation.text ""
  let subjectId ← defaulted record "subject_id" validation.text ""
  let payload ← defaulted record "payload" validation.document .empty
  let observationHash ← defaulted record "observation_hash" validation.text ""
  let candidateHash ← defaulted record "candidate_hash" validation.text ""
  let isrHash ← defaulted record "isr_hash" validation.text ""
  let artifactHash ← defaulted record "artifact_hash" validation.text ""
  let environmentHash ← defaulted record "environment_hash" validation.text ""
  let createdAt ← defaulted record "created_at" validation.text ""
  let eventHash ← defaulted record "event_hash" validation.text ""
  some { eventId, evolutionId, sequence, eventType, parentEventId, subjectId, payload, observationHash, candidateHash,
         isrHash, artifactHash, environmentHash, createdAt, eventHash }

/-- `entry.pop(key, None)`. -/
def without (record : List (String × Json)) (key : String) : List (String × Json) :=
  record.filter fun entry => entry.1 != key

/-- One line of a file: its id, and the model that the other fields are. -/
def readEntry {Model : Type} (read : List (String × Json) → Option Model) (line : String) :
    Option (Option Json × Model) :=
  match loads hashing.numbers line with
  | some (.dict record) => (read (without record "id")).map fun model => (get record "id", model)
  | _ => none

def readFile {Model : Type} (read : List (String × Json) → Option Model) (text : String) :
    Option (List (Option Json × Model)) :=
  (readLines text).mapM (readEntry hashing read)

/-- `rid if rid else record_id()`. The id is a text in the files that a ledger writes. -/
def keptId (id : Option Json) (recordId : String) : String :=
  match id with
  | some (.atom (.str text)) => orDefault text recordId
  | _ => recordId

/-- `load`, or nothing when it raises. -/
def load (files : Files) : Option Ledger := do
  let records ← readFile hashing (readRecord validation) files.records
  let events ← readFile hashing (readEvent validation) files.events
  let selections ← readFile hashing (readSelection validation) files.selections
  some { records := records.map Prod.snd,
         ids := records.map fun entry => keptId entry.1 (entry.2.recordId hashing),
         selectionRecords := selections.map Prod.snd,
         selectionIds := selections.map fun entry => keptId entry.1 (entry.2.recordId hashing),
         events := events.map Prod.snd,
         eventHashes := events.map fun entry => entry.2.eventHash,
         files }

end AutonomousApi.EvolutionLedger
