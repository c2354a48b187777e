import AutonomousApi.IsoDatetime

/-! The two tables of the event store (observatory/backend/store.py): a row holds the columns that
`INSERT` writes, an operation returns its outcome together with the tables it leaves behind, and a
`with` block puts the tables back when it is left by an exception. -/

namespace AutonomousApi.EventTable

open DataTree JsonValue JsonCodec ObservatoryEvents IsoDatetime

section

structure EventRow where
  id : String
  eventHash : String
  timestamp : String
  source : String
  category : String
  type : String
  subjectId : String
  correlationId : Option String
  causationId : Option String
  payload : String
  epistemicStatus : String
  authorization : Option String
  evidenceRefs : String
  provenance : String
  severity : String

variable (hashing : Hashing)

def columns (event : Event) : EventRow where
  id := event.id
  eventHash := eventHash hashing event
  timestamp := event.timestamp.isoformat
  source := event.source
  category := event.category.value
  type := event.type
  subjectId := event.subjectId
  correlationId := event.correlationId
  causationId := event.causationId
  payload := dumps .default hashing.numbers (.dict event.payload)
  epistemicStatus := event.epistemicStatus.value
  authorization := event.authorization
  evidenceRefs := dumps .default hashing.numbers (.list (event.evidenceRefs.map Json.str))
  provenance := dumps .default hashing.numbers (.dict event.provenance)
  severity := event.severity.value

def readCategory (value : String) : Option EventCategory :=
  [.runtime, .evidence, .evolution, .governance, .knowledge].find? fun category => category.value == value

def readStatus (value : String) : Option EpistemicStatus :=
  [.observed, .inferred, .unknown, .contradiction].find? fun status => status.value == value

def readSeverity (value : String) : Option Severity :=
  [.debug, .info, .warning, .error, .fatal].find? fun severity => severity.value == value

def readRecord : Json → Option Record
  | .dict entries => some entries
  | _ => none

def readText : Json → Option String
  | .str text => some text
  | _ => none

def readTexts : Json → Option (List String)
  | .list items => items.mapM readText
  | _ => none

/-- `_row_to_event`: nothing where the model refuses a column. The datetime is read by the model library. -/
def rowToEvent (moment : String → Option Datetime) (row : EventRow) : Option Event := do
  let timestamp ← moment row.timestamp
  let category ← readCategory row.category
  let payload ← (loads hashing.numbers row.payload).bind readRecord
  let epistemicStatus ← readStatus row.epistemicStatus
  let evidenceRefs ← (loads hashing.numbers row.evidenceRefs).bind readTexts
  let provenance ← (loads hashing.numbers row.provenance).bind readRecord
  let severity ← readSeverity row.severity
  return { id := row.id, timestamp, source := row.source, category, type := row.type, subjectId := row.subjectId,
           correlationId := row.correlationId, causationId := row.causationId, payload, epistemicStatus,
           authorization := row.authorization, evidenceRefs, provenance, severity }

/-- What the types of an event promise: a dictionary repeats no key, a datetime is on the calendar. -/
structure Sound (event : Event) : Prop where
  payload : Distinct (.dict event.payload : Json)
  provenance : Distinct (.dict event.provenance : Json)
  timestamp : OnCalendar event.timestamp

abbrev SoundEvent := {event : Event // Sound event}

theorem readCategory_value (category : EventCategory) : readCategory category.value = some category := by
  cases category <;> decide

theorem readStatus_value (status : EpistemicStatus) : readStatus status.value = some status := by
  cases status <;> decide

theorem readSeverity_value (severity : Severity) : readSeverity severity.value = some severity := by
  cases severity <;> decide

theorem readTexts_strings (texts : List String) : readTexts (.list (texts.map Json.str)) = some texts := by
  rw [readTexts]
  induction texts with
  | nil => rfl
  | cons text rest ih => simp [readText, ih]

theorem sortKeys_strings (texts : List String) :
    sortKeys (.list (texts.map Json.str) : Json) = .list (texts.map Json.str) := by
  rw [sortKeys, sortItems_eq_map, List.map_map]
  rfl

theorem distinct_strings (texts : List String) : Distinct (.list (texts.map Json.str) : Json) := by
  rw [Distinct, distinctItems_iff]
  intro item member
  obtain ⟨text, -, rfl⟩ := List.mem_map.mp member
  trivial

/-- A row that was written for an event is read as that event with its records sorted. -/
theorem rowToEvent_columns {moment : String → Option Datetime}
    (exact : ∀ date, OnCalendar date → moment date.isoformat = some date) {event : Event} (sound : Sound event) :
    rowToEvent hashing moment (columns hashing event) = some event.stored := by
  have payload : (loads hashing.numbers (columns hashing event).payload).bind readRecord =
      some (sortedRecord event.payload) := by
    rw [columns, loads_dumps hashing.numbers .default _ sound.payload, sortKeys]
    rfl
  have provenance : (loads hashing.numbers (columns hashing event).provenance).bind readRecord =
      some (sortedRecord event.provenance) := by
    rw [columns, loads_dumps hashing.numbers .default _ sound.provenance, sortKeys]
    rfl
  have refs : (loads hashing.numbers (columns hashing event).evidenceRefs).bind readTexts =
      some event.evidenceRefs := by
    rw [columns, loads_dumps hashing.numbers .default _ (distinct_strings event.evidenceRefs), sortKeys_strings]
    exact readTexts_strings event.evidenceRefs
  have timestamp : moment (columns hashing event).timestamp = some event.timestamp := exact _ sound.timestamp
  have category : readCategory (columns hashing event).category = some event.category := readCategory_value _
  have status : readStatus (columns hashing event).epistemicStatus = some event.epistemicStatus := readStatus_value _
  have severity : readSeverity (columns hashing event).severity = some event.severity := readSeverity_value _
  simp only [rowToEvent, payload, provenance, refs, timestamp, category, status, severity, Option.bind_eq_bind,
    Option.bind_some]
  rfl

theorem sortKeys_sortedRecord (entries : Record) :
    sortKeys (.dict (sortedRecord entries) : Json) = sortKeys (.dict entries : Json) := by
  have again := sortKeys_sortKeys (.dict entries : Json)
  rw [sortKeys] at again
  rw [sortedRecord, again, sortKeys]

theorem sortKeys_dump (event : Event) : sortKeys event.stored.dump = sortKeys event.dump := by
  rw [Event.dump, Event.dump, Event.stored, sortKeys, sortKeys, sortEntries_eq_map, sortEntries_eq_map]
  simp only [List.map_cons, List.map_nil, sortKeys_sortedRecord]

/-- The hash does not depend on the order of a record's keys. -/
theorem eventHash_stored (event : Event) : eventHash hashing event.stored = eventHash hashing event := by
  rw [eventHash, eventHash, canonicalJson, canonicalJson, dumps, dumps, sortKeys_dump]

end

structure IdempotencyRecord where
  idempotencyKey : String
  requestHash : String
  eventId : String
  createdAt : String

structure Database where
  events : List EventRow := []
  idempotencyRecords : List IdempotencyRecord := []

inductive StoreError where
  | integrity (message : String)
  | conflict (message : String)
  | value (message : String)
  | sqlite (message : String)
  | validation

abbrev Outcome (Result : Type) := Except StoreError Result × Database

structure BatchAppendResult where
  inserted : Nat := 0
  duplicates : Nat := 0
  acceptedEventIds : List String := []
  insertedEvents : List Event := []

/-- `with self._conn`: an exception rolls back what the block has written. -/
def transaction {Result : Type} (database : Database) (body : Database → Outcome Result) : Outcome Result :=
  match body database with
  | (.ok result, after) => (.ok result, after)
  | (.error error, _) => (.error error, database)

def Database.row (database : Database) (id : String) : Option EventRow :=
  database.events.find? fun row => row.id = id

def Database.prior (database : Database) (key : String) : Option IdempotencyRecord :=
  database.idempotencyRecords.find? fun record => record.idempotencyKey = key

def differentHash (event : Event) : StoreError :=
  .integrity ("event id " ++ event.id ++ " already exists with a different hash")

variable (hashing : Hashing)

def insertEvent (database : Database) (event : Event) : Outcome Unit :=
  match database.row event.id with
  | some _ => (.error (.sqlite "UNIQUE constraint failed: events.id"), database)
  | none => (.ok (), { database with events := database.events ++ [columns hashing event] })

def insertRecord (database : Database) (record : IdempotencyRecord) : Outcome Unit :=
  match database.prior record.idempotencyKey with
  | some _ =>
      (.error (.sqlite "UNIQUE constraint failed: idempotency_records.idempotency_key"), database)
  | none => (.ok (), { database with idempotencyRecords := database.idempotencyRecords ++ [record] })

def append (database : Database) (event : Event) : Outcome Bool :=
  match database.row event.id with
  | some existing =>
      if existing.eventHash ≠ eventHash hashing event then (.error (differentHash event), database)
      else (.ok false, database)
  | none =>
      match insertEvent hashing database event with
      | (.ok _, after) => (.ok true, after)
      | (.error error, after) => (.error error, after)

/-- The loop of `append_batch` over the hashes that were read up front and the ones inserted since. -/
def appendBatchLoop (existingHashes : List (String × String)) (result : BatchAppendResult) (database : Database) :
    List Event → Outcome BatchAppendResult
  | [] => (.ok result, database)
  | event :: rest =>
      let accepted := { result with acceptedEventIds := result.acceptedEventIds ++ [event.id] }
      match OrderedMap.get existingHashes event.id with
      | some existing =>
          if existing ≠ eventHash hashing event then (.error (differentHash event), database)
          else appendBatchLoop existingHashes { accepted with duplicates := accepted.duplicates + 1 } database rest
      | none =>
          match insertEvent hashing database event with
          | (.error error, after) => (.error error, after)
          | (.ok _, after) =>
              appendBatchLoop (OrderedMap.assign existingHashes event.id (eventHash hashing event))
                { accepted with inserted := accepted.inserted + 1
                                insertedEvents := accepted.insertedEvents ++ [event] }
                after rest

/-- `SELECT id, event_hash ... WHERE id IN (?, ...)` as a dictionary. -/
def existingHashes (database : Database) (ids : List String) : List (String × String) :=
  OrderedMap.assignAll [] ((database.events.filter fun row => row.id ∈ ids).map fun row => (row.id, row.eventHash))

/-- The query binds one host parameter for each event, and SQLite bounds their number. The other
statements bind fifteen at most. -/
def appendBatch (maxVariables : Nat) (database : Database) (events : List Event) : Outcome BatchAppendResult :=
  if events.isEmpty then (.ok {}, database)
  else
    transaction database fun database =>
      if maxVariables < events.length then (.error (.sqlite "too many SQL variables"), database)
      else appendBatchLoop hashing (existingHashes database (events.map Event.id)) {} database events

/-- The event's id, whether the request was seen before, and whether the event was inserted. -/
def appendIdempotent (database : Database) (event : Event) (idempotencyKey requestHash : String) (now : Datetime) :
    Outcome (String × Bool × Bool) :=
  if idempotencyKey = "" ∨ idempotencyKey.length > 200 then (.error (.value "invalid idempotency key"), database)
  else if requestHash.length ≠ 64 then (.error (.value "invalid idempotency request hash"), database)
  else
    transaction database fun database =>
      match database.prior idempotencyKey with
      | some prior =>
          if prior.requestHash ≠ requestHash then
            (.error (.conflict "idempotency key reused with different request"), database)
          else (.ok (prior.eventId, true, false), database)
      | none =>
          let existing := database.row event.id
          if existing.any fun row => row.eventHash ≠ eventHash hashing event then
            (.error (differentHash event), database)
          else
            match (if existing.isNone then insertEvent hashing database event else (.ok (), database)) with
            | (.error error, after) => (.error error, after)
            | (.ok _, after) =>
                match insertRecord after ⟨idempotencyKey, requestHash, event.id, now.isoformat⟩ with
                | (.error error, final) => (.error error, final)
                | (.ok _, final) => (.ok (event.id, false, existing.isNone), final)

def getEvent (moment : String → Option Datetime) (database : Database) (id : String) :
    Except StoreError (Option Event) :=
  match database.row id with
  | none => .ok none
  | some row =>
      match rowToEvent hashing moment row with
      | some event => .ok (some event)
      | none => .error .validation

end AutonomousApi.EventTable
