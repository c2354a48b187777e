import AutonomousApi.EvolutionLedger
import AutonomousApi.HashChain
import AutonomousApi.NumberedLog

/-! What the files of a ledger say about it. Loading an untouched root gives the ledger back.
A file that was put together from the lines of a run passes the verification of the event
chain exactly when it is an initial segment of them, so only the loss of the last lines goes
unnoticed; and a line with a changed field passes exactly when it is read as the event it
was. -/

namespace AutonomousApi.LedgerPersistence

open DataTree JsonValue JsonCodec JsonLines OrderedMap HashChain NumberedLog EvolutionLedger

variable {hashing : Hashing} {validation : Validation} {ledger : Ledger}

theorem get_without (record : List (String × Json)) (key wanted : String) (other : wanted ≠ key) :
    get (without record key) wanted = get record wanted := by
  induction record with
  | nil => rfl
  | cons entry rest ih =>
      by_cases hit : entry.1 = wanted
      · have kept : entry.1 ≠ key := hit ▸ other
        simp [without, OrderedMap.get, hit, other]
      · by_cases dropped : entry.1 = key
        · simpa [without, OrderedMap.get, hit, dropped, Ne.symm other] using ih
        · simpa [without, OrderedMap.get, hit, dropped] using ih

/-- The entry of a line, field by field. -/
theorem loads_line (id : String) (dump : List (String × Json))
    (distinct : Distinct (.dict (("id", Json.str id) :: dump) : Json)) :
    ∃ record, loads hashing.numbers (lineOf hashing id dump) = some (.dict record) ∧
      get record "id" = some (Json.str id) ∧
      ∀ key, key ≠ "id" → get (without record "id") key = (get dump key).map sortKeys := by
  obtain ⟨record, read, field⟩ := loads_record hashing.numbers .default _ distinct
  refine ⟨record, read, by simp [field, OrderedMap.get, sortKeys], fun key other => ?_⟩
  rw [get_without record "id" key other, field, OrderedMap.get, if_neg (Ne.symm other)]

theorem distinct_eventDump (event : EvolutionEvent) (id : String) :
    Distinct (.dict (("id", Json.str id) :: event.dump) : Json) := by
  have payload : Distinct event.payload.json := event.payload.distinct
  rw [EvolutionEvent.dump, EvolutionEvent.content, distinct_dict_iff]
  refine ⟨by simp, ?_⟩
  simp only [List.cons_append, List.nil_append, List.mem_cons, List.not_mem_nil, or_false, forall_eq_or_imp, forall_eq,
    Distinct, payload, and_self]

theorem readEvent_dump (exact : validation.Exact) (event : EvolutionEvent) (record : List (String × Json))
    (fields : ∀ key, key ≠ "id" → get record key = (get event.dump key).map sortKeys) :
    readEvent validation record = some event := by
  have payload : sortKeys event.payload.json = event.payload.json := event.payload.ordered
  simp [readEvent, required, defaulted, fields, EvolutionEvent.dump, EvolutionEvent.content, OrderedMap.get, sortKeys,
    payload, exact.text, exact.integer, exact.eventType, exact.document]

theorem readRecord_dump (exact : validation.Exact) (model : EvolutionRecord) (record : List (String × Json))
    (fields : ∀ key, key ≠ "id" → get record key = (get model.dump key).map sortKeys) :
    readRecord validation record = some model := by
  have texts (items : List String) : sortItems (items.map Json.str) = items.map Json.str := by
    induction items with
    | nil => rfl
    | cons item rest ih => simp [sortItems, sortKeys, ih]
  have pairs (items : List (String × String)) : sortItems (items.map pairPayload) = items.map pairPayload := by
    induction items with
    | nil => rfl
    | cons item rest ih => simp [sortItems, pairPayload, sortKeys, ih]
  simp [readRecord, required, defaulted, fields, EvolutionRecord.dump, OrderedMap.get, sortKeys, texts, pairs,
      exact.text, exact.number, exact.texts, exact.pairs]

theorem readSelection_dump (exact : validation.Exact) (model : SelectionRecord) (record : List (String × Json))
    (fields : ∀ key, key ≠ "id" → get record key = (get model.dump key).map sortKeys) :
    readSelection validation record = some model := by
  have payload : sortKeys model.payload.json = model.payload.json := model.payload.ordered
  simp [readSelection, required, defaulted, fields, SelectionRecord.dump, OrderedMap.get, sortKeys, payload, exact.text,
    exact.document]

variable {Model : Type} {read : List (String × Json) → Option Model} {line : Model → String} {id : Model → String}

/-- A file of lines that are each read back is read back. -/
theorem readFile_fileOf (items : List Model) (plain : ∀ item ∈ items, PlainLine (line item))
    (each : ∀ item ∈ items, readEntry hashing read (line item) = some (some (.str (id item)), item)) :
    readFile hashing read (fileOf (items.map line)) = some (items.map fun item => (some (.str (id item)), item)) := by
  have lines : readLines (fileOf (items.map line)) = items.map line := by
    refine readLines_fileOf _ fun text member => ?_
    obtain ⟨item, inside, rfl⟩ := List.mem_map.mp member
    exact plain item inside
  rw [readFile, lines]
  clear lines plain
  induction items with
  | nil => rfl
  | cons item rest ih =>
      have later := ih fun other member => each other (List.mem_cons_of_mem item member)
      rw [List.map_cons, List.mapM_cons, each item List.mem_cons_self, later]
      rfl

def eventLine (hashing : Hashing) (event : EvolutionEvent) : String := lineOf hashing event.eventHash event.dump

def recordLine (hashing : Hashing) (record : EvolutionRecord) : String :=
  lineOf hashing (record.recordId hashing) record.dump

def selectionLine (hashing : Hashing) (record : SelectionRecord) : String :=
  lineOf hashing (record.recordId hashing) record.dump

theorem plainLine_lineOf (id : String) (dump : List (String × Json)) : PlainLine (lineOf hashing id dump) :=
  plainLine_dumps .default rfl hashing.numbers _

theorem readEntry_eventLine (exact : validation.Exact) (event : EvolutionEvent) :
    readEntry hashing (readEvent validation) (eventLine hashing event) = some (some (.str event.eventHash), event) := by
  obtain ⟨record, loaded, id, fields⟩ := @loads_line hashing event.eventHash event.dump
    (distinct_eventDump event _)
  rw [readEntry, eventLine, loaded]
  simp only [readEvent_dump exact event _ fields, Option.map_some, id]

theorem readEntry_recordLine (exact : validation.Exact) (record : EvolutionRecord) :
    readEntry hashing (readRecord validation) (recordLine hashing record) =
      some (some (.str (record.recordId hashing)), record) := by
  have distinct : Distinct (.dict (("id", Json.str (record.recordId hashing)) :: record.dump) : Json) := by
    have inner := (distinct_dict_iff _).mp (distinct_recordDump record)
    refine (distinct_dict_iff _).mpr ⟨?_, ?_⟩
    · rw [List.map_cons, List.nodup_cons]
      exact ⟨by simp [EvolutionRecord.dump], inner.1⟩
    · intro entry member
      rcases List.mem_cons.mp member with rfl | inside
      · trivial
      · exact inner.2 entry inside
  obtain ⟨loaded, read, id, fields⟩ := @loads_line hashing (record.recordId hashing) record.dump distinct
  rw [readEntry, recordLine, read]
  simp only [readRecord_dump exact record _ fields, Option.map_some, id]

theorem readEntry_selectionLine (exact : validation.Exact) (record : SelectionRecord) :
    readEntry hashing (readSelection validation) (selectionLine hashing record) =
      some (some (.str (record.recordId hashing)), record) := by
  have payload : Distinct record.payload.json := record.payload.distinct
  have distinct : Distinct (.dict (("id", Json.str (record.recordId hashing)) :: record.dump) : Json) := by
    rw [SelectionRecord.dump, distinct_dict_iff]
    refine ⟨by simp, ?_⟩
    simp only [List.mem_cons, List.not_mem_nil, or_false, forall_eq_or_imp, forall_eq, Distinct, payload, and_self]
  obtain ⟨loaded, read, id, fields⟩ := @loads_line hashing (record.recordId hashing) record.dump distinct
  rw [readEntry, selectionLine, read]
  simp only [readSelection_dump exact record _ fields, Option.map_some, id]

/-- What every command keeps: the chains are linked and intact, the events are numbered, and
the files hold one line for each item. -/
structure Kept (hashing : Hashing) (ledger : Ledger) : Prop where
  hashes : ledger.eventHashes = ledger.events.map EvolutionEvent.eventHash
  intact : ∀ event ∈ ledger.events, event.eventHash = event.computedHash hashing
  linked : Linked EvolutionEvent.parentEventId EvolutionEvent.eventHash "" ledger.events
  numbered : Numbered EvolutionEvent.sequence 0 ledger.events
  eventFile : ledger.files.events = fileOf (ledger.events.map (eventLine hashing))
  ids : ledger.ids = ledger.records.map (EvolutionRecord.recordId hashing)
  records : Linked EvolutionRecord.parentLink (EvolutionRecord.recordId hashing) "" ledger.records
  recordFile : ledger.files.records = fileOf (ledger.records.map (recordLine hashing))
  selectionIds : ledger.selectionIds = ledger.selectionRecords.map (SelectionRecord.recordId hashing)
  selections : Linked SelectionRecord.parentLink (SelectionRecord.recordId hashing) "" ledger.selectionRecords
  selectionFile : ledger.files.selections = fileOf (ledger.selectionRecords.map (selectionLine hashing))

theorem kept_start : Kept hashing ({} : Ledger) :=
  ⟨rfl, by simp, trivial, trivial, rfl, rfl, trivial, rfl, rfl, trivial, rfl⟩

theorem latest_map {Item : Type} (digest : Item → String) (items : List Item) :
    latest (items.map digest) = tip digest "" items := by
  rw [latest, tip_eq_getLast, List.getLast?_map]

theorem linked_snoc {Item : Type} {previous digest : Item → String} {items : List Item} {item : Item}
    (linked : Linked previous digest "" items) (link : previous item = latest (items.map digest)) :
    Linked previous digest "" (items ++ [item]) := by
  rw [linked_append]
  exact ⟨linked, link.trans (latest_map digest items), trivial⟩

theorem Kept.appendEvent (kept : Kept hashing ledger) (event : EvolutionEvent) (evolutionId fresh : String) :
    Kept hashing (ledger.appendEvent hashing event evolutionId fresh) := by
  have link : (ledger.finalize hashing event evolutionId fresh).parentEventId =
      latest (ledger.events.map EvolutionEvent.eventHash) := by
    rw [← kept.hashes]
    rfl
  exact { kept with
    hashes := by simp [Ledger.appendEvent, kept.hashes]
    intact := by
      intro other member
      rcases List.mem_append.mp member with old | new
      · exact kept.intact other old
      · rw [List.mem_singleton.mp new]
        rfl
    linked := linked_snoc kept.linked link
    numbered := by
      refine (numbered_append 0 _ _).mpr ⟨kept.numbered, ?_, trivial⟩
      simp [Ledger.finalize]
    eventFile := by
      simp only [Ledger.appendEvent, kept.eventFile, List.map_append, fileOf_append]
      rfl }

theorem Kept.append (kept : Kept hashing ledger) (record : EvolutionRecord) (fresh : String) :
    Kept hashing (ledger.append hashing record fresh) := by
  refine Kept.appendEvent ?_ _ _ _
  exact { kept with
    ids := by simp [kept.ids]
    records := linked_snoc kept.records (by rw [← kept.ids])
    recordFile := by
      simp only [kept.recordFile, List.map_append, fileOf_append]
      rfl }

theorem Kept.appendSelection (kept : Kept hashing ledger) (payload : Document) (fresh : String) :
    Kept hashing (ledger.appendSelection hashing payload fresh) := by
  have recorded : Kept hashing { ledger with
      selectionRecords := ledger.selectionRecords ++ [{ payload, parentLink := latest ledger.selectionIds }],
      selectionIds := ledger.selectionIds ++
        [SelectionRecord.recordId hashing { payload, parentLink := latest ledger.selectionIds }],
      files := { ledger.files with
        selections := ledger.files.selections ++
          fileOf [selectionLine hashing { payload, parentLink := latest ledger.selectionIds }] } } :=
    { kept with
      selectionIds := by simp [kept.selectionIds]
      selections := linked_snoc kept.selections (by rw [← kept.selectionIds])
      selectionFile := by simp only [kept.selectionFile, List.map_append, fileOf_append, List.map_cons, List.map_nil] }
  rw [Ledger.appendSelection]
  cases projectSelection hashing payload (latest ledger.eventHashes) with
  | none => exact recorded
  | some event => exact recorded.appendEvent event _ fresh

theorem kept_run (commands : List Command) : Kept hashing (Ledger.run hashing {} commands) := by
  induction commands using List.reverseRecOn with
  | nil => exact kept_start
  | append_singleton earlier command ih =>
      rw [Ledger.run, List.foldl_append]
      cases command with
      | append record fresh => exact ih.append record fresh
      | appendSelection payload fresh => exact ih.appendSelection payload fresh
      | appendEvent event evolutionId fresh => exact ih.appendEvent event evolutionId fresh

theorem readFile_events (exact : validation.Exact) (events : List EvolutionEvent) :
    readFile hashing (readEvent validation) (fileOf (events.map (eventLine hashing))) =
      some (events.map fun event => (some (.str event.eventHash), event)) :=
  readFile_fileOf events (fun _ _ => plainLine_lineOf _ _) fun event _ => readEntry_eventLine exact event

/-- Loading with another event file: the records and selections are the run's, and so are
the three files that further appends go to. -/
theorem Kept.load_events (kept : Kept hashing ledger) (exact : validation.Exact) (text : String) :
    load hashing validation { ledger.files with events := text } =
      (readFile hashing (readEvent validation) text).map fun events =>
        { ledger with
          events := events.map Prod.snd
          eventHashes := events.map fun entry => entry.2.eventHash
          files := { ledger.files with events := text } } := by
  have records : readFile hashing (readRecord validation) ledger.files.records =
      some (ledger.records.map fun record => (some (Json.str (record.recordId hashing)), record)) := by
    rw [kept.recordFile]
    exact readFile_fileOf ledger.records (fun _ _ => plainLine_lineOf _ _) fun record _ =>
        readEntry_recordLine exact record
  have selections : readFile hashing (readSelection validation) ledger.files.selections =
      some (ledger.selectionRecords.map fun record => (some (Json.str (record.recordId hashing)), record)) := by
    rw [kept.selectionFile]
    exact readFile_fileOf ledger.selectionRecords (fun _ _ => plainLine_lineOf _ _) fun record _ =>
      readEntry_selectionLine exact record
  rw [load, records, selections]
  cases readFile hashing (readEvent validation) text with
  | none => rfl
  | some events =>
      have orSame (id : String) : orDefault id id = id := by
        rw [orDefault]
        split <;> simp [*]
      simp [List.map_map, Function.comp_def, keptId, orSame, kept.ids, kept.selectionIds]

/-- A root that nobody has touched loads as the ledger that wrote it. -/
theorem Kept.load_files (kept : Kept hashing ledger) (exact : validation.Exact) :
    load hashing validation ledger.files = some ledger := by
  have loaded := kept.load_events exact ledger.files.events
  rw [kept.eventFile, readFile_events exact] at loaded
  have hashes : (ledger.events.map fun event => event.eventHash) = ledger.eventHashes := kept.hashes.symm
  simpa [List.map_map, Function.comp_def, hashes, ← kept.eventFile] using loaded

theorem isIntact_iff (event : EvolutionEvent) :
    event.isIntact hashing = true ↔ event.eventHash = event.computedHash hashing := by
  rw [EvolutionEvent.isIntact, beq_iff_eq]

theorem verifyEventChain_iff (ledger : Ledger)
    (hashes : ledger.eventHashes = ledger.events.map EvolutionEvent.eventHash) :
    ledger.verifyEventChain hashing = true ↔
      (∀ event ∈ ledger.events, event.eventHash = event.computedHash hashing) ∧
        Linked EvolutionEvent.parentEventId EvolutionEvent.eventHash "" ledger.events := by
  have split : ∀ (events : List EvolutionEvent) (start : String),
      (events.zip (start :: events.map EvolutionEvent.eventHash)).all
          (fun pair => pair.1.isIntact hashing && pair.1.parentEventId == pair.2) = true ↔
        (∀ event ∈ events, event.eventHash = event.computedHash hashing) ∧
          Linked EvolutionEvent.parentEventId EvolutionEvent.eventHash start events := by
    intro events
    induction events with
    | nil => simp [Linked]
    | cons event rest ih =>
        intro start
        rw [List.map_cons, List.zip_cons_cons, List.all_cons, Bool.and_eq_true, Bool.and_eq_true, ih, isIntact_iff,
          beq_iff_eq, List.forall_mem_cons, Linked]
        tauto
  rw [Ledger.verifyEventChain, hashes]
  exact split ledger.events ""

theorem Kept.verified (kept : Kept hashing ledger) :
    ledger.verifyEventChain hashing = true ∧ ledger.verifyChain = true ∧ ledger.verifySelectionChain = true := by
  refine ⟨(verifyEventChain_iff ledger kept.hashes).mpr ⟨kept.intact, kept.linked⟩, ?_, ?_⟩
  · rw [Ledger.verifyChain, kept.ids]
    exact (linked_iff_zip "" ledger.records).mpr kept.records
  · rw [Ledger.verifySelectionChain, kept.selectionIds]
    exact (linked_iff_zip "" ledger.selectionRecords).mpr kept.selections

/-- `canonical_hash` tells documents apart, and its digests are not empty. -/
structure Collisionless (hashing : Hashing) : Prop where
  injective : ∀ left right, Distinct left → Distinct right → canonicalHash hashing left = canonicalHash hashing right →
    sortKeys left = sortKeys right
  present : ∀ value, canonicalHash hashing value ≠ ""

/-- An event without its own hash. -/
def bare (event : EvolutionEvent) : EvolutionEvent := { event with eventHash := "" }

theorem distinct_content (event : EvolutionEvent) : Distinct (.dict event.content : Json) := by
  have payload : Distinct event.payload.json := event.payload.distinct
  rw [EvolutionEvent.content, distinct_dict_iff]
  refine ⟨by simp, ?_⟩
  simp only [List.mem_cons, List.not_mem_nil, or_false, forall_eq_or_imp, forall_eq, Distinct, payload, and_self]

theorem eventType_value_injective : Function.Injective EventType.value := by
  intro left right same
  cases left <;> cases right <;> first | rfl | exact absurd same (by decide)

variable {left right : EvolutionEvent} {events : List EvolutionEvent}

theorem content_injective
    (same : sortKeys (.dict left.content : Json) = sortKeys (.dict right.content)) : bare left = bare right := by
  have field (key : String) : (get left.content key).map sortKeys = (get right.content key).map sortKeys := by
    rw [← get_sorted _ ((distinct_dict_iff _).mp (distinct_content left)).1,
      ← get_sorted _ ((distinct_dict_iff _).mp (distinct_content right)).1]
    rw [sortKeys, sortKeys, Tree.dict.injEq] at same
    rw [same]
  have eventId : left.eventId = right.eventId := by
    simpa [EvolutionEvent.content, OrderedMap.get, sortKeys] using field "event_id"
  have evolutionId : left.evolutionId = right.evolutionId := by
    simpa [EvolutionEvent.content, OrderedMap.get, sortKeys] using field "evolution_id"
  have sequence : left.sequence = right.sequence := by
    simpa [EvolutionEvent.content, OrderedMap.get, sortKeys] using field "sequence"
  have eventType : left.eventType = right.eventType :=
    eventType_value_injective (by simpa [EvolutionEvent.content, OrderedMap.get, sortKeys] using field "event_type")
  have parent : left.parentEventId = right.parentEventId := by
    simpa [EvolutionEvent.content, OrderedMap.get, sortKeys] using field "parent_event_id"
  have subject : left.subjectId = right.subjectId := by
    simpa [EvolutionEvent.content, OrderedMap.get, sortKeys] using field "subject_id"
  have payload : left.payload = right.payload := by
    have ordered (document : Document) : sortKeys document.json = document.json := document.ordered
    have documents : left.payload.json = right.payload.json := by
      simpa [EvolutionEvent.content, OrderedMap.get, ordered] using field "payload"
    rw [Document.json, Document.json, Tree.dict.injEq] at documents
    rw [Document.mk.injEq]
    exact documents
  have observation : left.observationHash = right.observationHash := by
    simpa [EvolutionEvent.content, OrderedMap.get, sortKeys] using field "observation_hash"
  have candidate : left.candidateHash = right.candidateHash := by
    simpa [EvolutionEvent.content, OrderedMap.get, sortKeys] using field "candidate_hash"
  have isr : left.isrHash = right.isrHash := by
    simpa [EvolutionEvent.content, OrderedMap.get, sortKeys] using field "isr_hash"
  have artifact : left.artifactHash = right.artifactHash := by
    simpa [EvolutionEvent.content, OrderedMap.get, sortKeys] using field "artifact_hash"
  have environment : left.environmentHash = right.environmentHash := by
    simpa [EvolutionEvent.content, OrderedMap.get, sortKeys] using field "environment_hash"
  have created : left.createdAt = right.createdAt := by
    simpa [EvolutionEvent.content, OrderedMap.get, sortKeys] using field "created_at"
  rw [bare, bare, eventId, evolutionId, sequence, eventType, parent, subject, payload, observation, candidate, isr,
    artifact, environment, created]

theorem eq_of_bare (same : bare left = bare right) (hash : left.eventHash = right.eventHash) : left = right := by
  have restored (event : EvolutionEvent) : { bare event with eventHash := event.eventHash } = event := rfl
  rw [← restored left, ← restored right, same, hash]

/-- Intact events with one hash are one event. -/
theorem Collisionless.unique (secure : Collisionless hashing) {left right : EvolutionEvent}
    (intactLeft : left.eventHash = left.computedHash hashing)
    (intactRight : right.eventHash = right.computedHash hashing)
    (hash : left.eventHash = right.eventHash) : left = right := by
  have contents := secure.injective _ _ (distinct_content left) (distinct_content right)
    (intactLeft.symm.trans (hash.trans intactRight))
  exact eq_of_bare (content_injective contents) hash

theorem Numbered.nodup {first : Int} (numbered : Numbered EvolutionEvent.sequence first events) : events.Nodup := by
  induction events generalizing first with
  | nil => exact .nil
  | cons event rest ih =>
      refine List.nodup_cons.mpr ⟨fun member => ?_, ih numbered.2⟩
      have bound := (numbered.2.bounds event member).1
      have head := numbered.1
      omega

/-- No two events of a run have one hash, and none has the empty one. -/
theorem Kept.hashes_nodup (kept : Kept hashing ledger) (secure : Collisionless hashing) :
    ("" :: ledger.events.map EvolutionEvent.eventHash).Nodup := by
  refine List.nodup_cons.mpr ⟨?_, ?_⟩
  · intro member
    obtain ⟨event, inside, empty⟩ := List.mem_map.mp member
    rw [kept.intact event inside] at empty
    exact secure.present _ empty
  · exact (Numbered.nodup kept.numbered).map_on fun left inLeft right inRight same =>
      secure.unique (kept.intact left inLeft) (kept.intact right inRight) same

theorem eventLine_injective (exact : validation.Exact) : Function.Injective (eventLine hashing) := by
  intro left right same
  have read := @readEntry_eventLine hashing _ exact left
  rw [same, readEntry_eventLine exact right] at read
  exact (Prod.mk.inj (Option.some.inj read)).2.symm

theorem prefix_map_iff {Item Image : Type} {image : Item → Image} (injective : Function.Injective image)
    (left right : List Item) : left.map image <+: right.map image ↔ left <+: right := by
  induction left generalizing right with
  | nil => simp
  | cons item rest ih => cases right <;> simp [List.cons_prefix_cons, injective.eq_iff, ih]

/-- Lines that are all lines of the run are the lines of some of its events. -/
theorem drawn_events (lines : List String) (drawn : ∀ line ∈ lines, line ∈ events.map (eventLine hashing)) :
    ∃ chosen : List EvolutionEvent, chosen.map (eventLine hashing) = lines ∧ ∀ event ∈ chosen, event ∈ events := by
  induction lines with
  | nil => exact ⟨[], rfl, by simp⟩
  | cons line rest ih =>
      obtain ⟨chosen, same, inside⟩ := ih fun other member => drawn other (List.mem_cons_of_mem line member)
      obtain ⟨event, member, rfl⟩ := List.mem_map.mp (drawn line List.mem_cons_self)
      exact ⟨event :: chosen, by rw [List.map_cons, same], List.forall_mem_cons.mpr ⟨member, inside⟩⟩

/-- What was deleted, repeated or moved goes unnoticed exactly when the lines that are left
are the first ones. -/
theorem Kept.drawn_iff (kept : Kept hashing ledger) (exact : validation.Exact) (secure : Collisionless hashing)
    (lines : List String) (drawn : ∀ line ∈ lines, line ∈ ledger.events.map (eventLine hashing)) :
    ∃ loaded, load hashing validation { ledger.files with events := fileOf lines } = some loaded ∧
      (loaded.verifyEventChain hashing = true ↔ lines <+: ledger.events.map (eventLine hashing)) := by
  obtain ⟨chosen, rfl, inside⟩ := drawn_events lines drawn
  rw [kept.load_events exact, readFile_events exact]
  refine ⟨_, rfl, ?_⟩
  rw [prefix_map_iff (eventLine_injective exact), verifyEventChain_iff _ (by simp [List.map_map, Function.comp_def])]
  simp only [List.map_map, Function.comp_def, List.map_id']
  constructor
  · rintro ⟨-, relinked⟩
    exact kept.linked.of_drawn (kept.hashes_nodup secure) inside relinked
  · intro initial
    exact ⟨fun event member => kept.intact event (inside event member), kept.linked.restrict initial⟩

/-- The entry of a line with another value for one of its fields. -/
def changeField (record : List (String × Json)) (key : String) (value : Json) : List (String × Json) :=
  record.map fun entry => if entry.1 = key then (entry.1, value) else entry

def changedLine (hashing : Hashing) (event : EvolutionEvent) (key : String) (value : Json) : String :=
  dumps .default hashing.numbers (.obj (changeField (("id", .str event.eventHash) :: event.dump) key value))

/-- The event as its line is read with another value in one field. The id of a line is not
read. -/
def setField (validation : Validation) (event : EvolutionEvent) (key : String) (value : Json) : Option EvolutionEvent :=
  match key with
  | "event_id" => (validation.text value).map fun eventId => { event with eventId }
  | "evolution_id" => (validation.text value).map fun evolutionId => { event with evolutionId }
  | "sequence" => (validation.integer value).map fun sequence => { event with sequence }
  | "event_type" => (validation.eventType value).map fun eventType => { event with eventType }
  | "parent_event_id" => (validation.text value).map fun parentEventId => { event with parentEventId }
  | "subject_id" => (validation.text value).map fun subjectId => { event with subjectId }
  | "payload" => (validation.document value).map fun payload => { event with payload }
  | "observation_hash" => (validation.text value).map fun observationHash => { event with observationHash }
  | "candidate_hash" => (validation.text value).map fun candidateHash => { event with candidateHash }
  | "isr_hash" => (validation.text value).map fun isrHash => { event with isrHash }
  | "artifact_hash" => (validation.text value).map fun artifactHash => { event with artifactHash }
  | "environment_hash" => (validation.text value).map fun environmentHash => { event with environmentHash }
  | "created_at" => (validation.text value).map fun createdAt => { event with createdAt }
  | "event_hash" => (validation.text value).map fun eventHash => { event with eventHash }
  | _ => some event

theorem get_changeField (record : List (String × Json)) (key wanted : String) (value : Json) :
    get (changeField record key value) wanted =
      if wanted = key then (get record wanted).map fun _ => value else get record wanted := by
  induction record with
  | nil => simp [changeField]
  | cons entry rest ih =>
      rw [changeField] at ih ⊢
      by_cases changed : entry.1 = key
      · by_cases hit : entry.1 = wanted
        · have same : wanted = key := hit.symm.trans changed
          simp [OrderedMap.get, hit, same]
        · have other : ¬ wanted = key := fun same => hit (changed.trans same.symm)
          simpa [OrderedMap.get, changed, hit, other, Ne.symm other] using ih
      · by_cases hit : entry.1 = wanted
        · have other : ¬ wanted = key := fun same => changed (hit.trans same)
          simp [OrderedMap.get, hit, other]
        · simpa [OrderedMap.get, changed, hit] using ih

variable {value : Json} {event : EvolutionEvent}

theorem distinct_changeField {record : List (String × Json)} (distinct : Distinct (.dict record : Json))
    (key : String) (wellFormed : Distinct value) : Distinct (.dict (changeField record key value) : Json) := by
  obtain ⟨keys, values⟩ := (distinct_dict_iff record).mp distinct
  refine (distinct_dict_iff _).mpr ⟨?_, ?_⟩
  · have same : (changeField record key value).map Prod.fst = record.map Prod.fst := by
      rw [changeField, List.map_map]
      refine List.map_congr_left fun entry _ => ?_
      simp only [Function.comp_apply]
      split <;> rfl
    rw [same]
    exact keys
  · intro entry member
    obtain ⟨original, inside, rfl⟩ := List.mem_map.mp member
    split
    · exact wellFormed
    · exact values original inside

def eventFields : List String :=
  ["event_id", "evolution_id", "sequence", "event_type", "parent_event_id", "subject_id", "payload", "observation_hash",
    "candidate_hash", "isr_hash", "artifact_hash", "environment_hash", "created_at", "event_hash"]

theorem setField_unknown (event : EvolutionEvent) (key : String) (value : Json) (unknown : key ∉ eventFields) :
    setField validation event key value = some event := by
  unfold setField
  split
  case h_15 => rfl
  all_goals exact absurd (by decide) unknown

theorem get_dump_unknown (event : EvolutionEvent) (key : String) (unknown : key ∉ eventFields) :
    get event.dump key = none := by
  rw [← Option.not_isSome_iff_eq_none, get_isSome_iff]
  simpa [keys, EvolutionEvent.dump, EvolutionEvent.content, eventFields] using unknown

theorem get_dump (event : EvolutionEvent) :
    get event.dump "event_id" = some (.str event.eventId) ∧
      get event.dump "evolution_id" = some (.str event.evolutionId) ∧
    get event.dump "sequence" = some (.int event.sequence) ∧
    get event.dump "event_type" = some (.str event.eventType.value) ∧
    get event.dump "parent_event_id" = some (.str event.parentEventId) ∧
    get event.dump "subject_id" = some (.str event.subjectId) ∧ get event.dump "payload" = some event.payload.json ∧
    get event.dump "observation_hash" = some (.str event.observationHash) ∧
    get event.dump "candidate_hash" = some (.str event.candidateHash) ∧
    get event.dump "isr_hash" = some (.str event.isrHash) ∧ get event.dump "artifact_hash" = some
    (.str event.artifactHash) ∧
    get event.dump "environment_hash" = some (.str event.environmentHash) ∧
    get event.dump "created_at" = some (.str event.createdAt) ∧
    get event.dump "event_hash" = some (.str event.eventHash) := by
  simp [EvolutionEvent.dump, EvolutionEvent.content, OrderedMap.get]

/-- A record that holds an event with one other value is read as the event with that field. -/
theorem readEvent_changed (exact : validation.Exact) (event : EvolutionEvent) (key : String) (value : Json)
    (record : List (String × Json))
    (fields : ∀ wanted, wanted ≠ "id" → get record wanted =
      (if wanted = key then (get event.dump wanted).map fun _ => value else get event.dump wanted).map sortKeys) :
    readEvent validation record = setField validation event key (sortKeys value) := by
  by_cases known : key ∈ eventFields
  · have payload : sortKeys event.payload.json = event.payload.json := event.payload.ordered
    obtain ⟨h₁, h₂, h₃, h₄, h₅, h₆, h₇, h₈, h₉, h₁₀, h₁₁, h₁₂, h₁₃, h₁₄⟩ := get_dump event
    simp only [eventFields, List.mem_cons, List.not_mem_nil, or_false] at known
    -- one case per field: the others are read as they were
    rcases known with rfl | rfl | rfl | rfl | rfl | rfl | rfl | rfl | rfl | rfl | rfl | rfl | rfl | rfl <;>
      simp [readEvent, required, defaulted, fields, setField, h₁, h₂, h₃, h₄, h₅, h₆, h₇, h₈, h₉, h₁₀, h₁₁, h₁₂, h₁₃,
          h₁₄, sortKeys, payload, exact.text, exact.integer, exact.eventType, exact.document, Option.map_eq_bind]
  · rw [setField_unknown event key _ known]
    refine readEvent_dump exact event record fun wanted other => ?_
    rw [fields wanted other]
    split
    · next same => rw [same, get_dump_unknown event key known, Option.map_none]
    · rfl

/-- A line with a changed field is read as the event with that field. -/
theorem readEntry_changedLine (exact : validation.Exact) (event : EvolutionEvent) (key : String) {value : Json}
    (wellFormed : Distinct value) :
    ∃ id, readEntry hashing (readEvent validation) (changedLine hashing event key value) =
      (setField validation event key (sortKeys value)).map fun changed => (id, changed) := by
  obtain ⟨record, loaded, field⟩ := loads_record hashing.numbers .default _
    (distinct_changeField (distinct_eventDump event event.eventHash) key wellFormed)
  refine ⟨get record "id", ?_⟩
  rw [readEntry, changedLine, loaded]
  have read := readEvent_changed exact event key value (without record "id") fun wanted other => by
    rw [get_without record "id" wanted other, field, get_changeField, OrderedMap.get, if_neg (Ne.symm other)]
  simp only [read]

/-- One field is changed: the hash that is kept, or all that it is computed from. -/
theorem setField_cases {changed : EvolutionEvent} {key : String}
    (set : setField validation event key value = some changed) :
    changed.eventHash = event.eventHash ∨ bare changed = bare event := by
  unfold setField at set
  split at set
  case h_14 =>
    obtain ⟨hash, -, rfl⟩ := Option.map_eq_some_iff.mp set
    exact .inr rfl
  case h_15 =>
    cases set
    exact .inl rfl
  all_goals
    obtain ⟨read, -, rfl⟩ := Option.map_eq_some_iff.mp set
    exact .inl rfl

theorem computedHash_bare (event : EvolutionEvent) : (bare event).computedHash hashing = event.computedHash hashing :=
    rfl

theorem eq_of_setField (secure : Collisionless hashing) {changed : EvolutionEvent} {key : String}
    (set : setField validation event key value = some changed) (intact : event.eventHash = event.computedHash hashing)
    (intactChanged : changed.eventHash = changed.computedHash hashing) : changed = event := by
  rcases setField_cases set with hash | content
  · exact secure.unique intactChanged intact hash
  · refine eq_of_bare content ?_
    rw [intactChanged, intact, ← computedHash_bare changed, content, computedHash_bare]

theorem readFile_changed (exact : validation.Exact) (before after : List EvolutionEvent) (event : EvolutionEvent)
    (key : String) {value : Json} (wellFormed : Distinct value) :
    ∃ id, readFile hashing (readEvent validation) (fileOf (before.map (eventLine hashing) ++
        changedLine hashing event key value :: after.map (eventLine hashing))) =
      (setField validation event key (sortKeys value)).map fun changed =>
        before.map (fun event => (some (.str event.eventHash), event)) ++
          (id, changed) :: after.map fun event => (some (.str event.eventHash), event) := by
  obtain ⟨id, read⟩ := @readEntry_changedLine hashing _ exact event key _ wellFormed
  refine ⟨id, ?_⟩
  have plain : ∀ line ∈ before.map (eventLine hashing) ++ changedLine hashing event key value ::
      after.map (eventLine hashing), PlainLine line := by
    intro line member
    rcases List.mem_append.mp member with early | late
    · obtain ⟨inner, -, rfl⟩ := List.mem_map.mp early
      exact plainLine_lineOf _ _
    · rcases List.mem_cons.mp late with rfl | later
      · exact plainLine_dumps .default rfl hashing.numbers _
      · obtain ⟨inner, -, rfl⟩ := List.mem_map.mp later
        exact plainLine_lineOf _ _
  have lines (events : List EvolutionEvent) :
      (events.map (eventLine hashing)).mapM (readEntry hashing (readEvent validation)) =
        some (events.map fun event => (some (.str event.eventHash), event)) := by
    have whole := @readFile_events hashing _ exact events
    rwa [readFile, readLines_fileOf _ fun line member => by
      obtain ⟨inner, -, rfl⟩ := List.mem_map.mp member
      exact plainLine_lineOf _ _] at whole
  rw [readFile, readLines_fileOf _ plain, List.mapM_append, List.mapM_cons, lines, lines, read]
  cases setField validation event key (sortKeys value) <;> rfl

/-- A line with a changed field is noticed exactly when it is read as another event. -/
theorem Kept.changed_iff (kept : Kept hashing ledger) (exact : validation.Exact) (secure : Collisionless hashing)
    {before after : List EvolutionEvent} (split : ledger.events = before ++ event :: after)
    (key : String) (wellFormed : Distinct value) :
    (∃ loaded, load hashing validation { ledger.files with
        events := fileOf (before.map (eventLine hashing) ++
          changedLine hashing event key value :: after.map (eventLine hashing)) } = some loaded ∧
      loaded.verifyEventChain hashing = false) ↔
    ∃ changed, setField validation event key (sortKeys value) = some changed ∧ changed ≠ event := by
  obtain ⟨id, read⟩ := @readFile_changed hashing _ exact before after event key _ wellFormed
  rw [kept.load_events exact, read]
  cases set : setField validation event key (sortKeys value) with
  | none => simp
  | some changed =>
      have verified_iff : (Ledger.verifyEventChain hashing { ledger with
          events := before ++ changed :: after
          eventHashes := (before ++ changed :: after).map EvolutionEvent.eventHash }) = true ↔ changed = event := by
        rw [verifyEventChain_iff _ rfl]
        constructor
        · rintro ⟨intact, -⟩
          exact eq_of_setField secure set (kept.intact event (by simp [split])) (intact changed (by simp))
        · rintro rfl
          rw [← split]
          exact ⟨kept.intact, kept.linked⟩
      have other : (∃ read, some changed = some read ∧ read ≠ event) ↔ ¬ changed = event := by simp
      rw [other, ← verified_iff]
      simp [List.map_map, Function.comp_def, Ledger.verifyEventChain]

/-- An untouched root is the ledger that wrote it, and what is appended to it continues that
ledger. A changed event file is noticed unless its lines are the first lines of the run, or
the changed field is read as the value that it had. -/
theorem tampering_noticed_iff (exact : validation.Exact) (secure : Collisionless hashing) (commands : List Command) :
    let ledger := Ledger.run hashing {} commands
    let lines := ledger.events.map (eventLine hashing)
    (load hashing validation ledger.files = some ledger ∧ ledger.verifyEventChain hashing = true ∧
      ledger.verifyChain = true ∧ ledger.verifySelectionChain = true ∧
      ∀ more, (load hashing validation ledger.files).map (fun loaded => loaded.run hashing more) =
        some (Ledger.run hashing {} (commands ++ more))) ∧
    (∀ left : List String, (∀ line ∈ left, line ∈ lines) →
      ((∃ loaded, load hashing validation { ledger.files with events := fileOf left } = some loaded ∧
        loaded.verifyEventChain hashing = false) ↔ ¬ left <+: lines)) ∧
    ∀ before event after, ledger.events = before ++ event :: after → ∀ key value, Distinct value →
      ((∃ loaded, load hashing validation { ledger.files with
          events := fileOf (before.map (eventLine hashing) ++
            changedLine hashing event key value :: after.map (eventLine hashing)) } = some loaded ∧
        loaded.verifyEventChain hashing = false) ↔
      ∃ changed, setField validation event key (sortKeys value) = some changed ∧ changed ≠ event) := by
  intro ledger lines
  have kept : Kept hashing ledger := kept_run commands
  obtain ⟨events, records, selections⟩ := kept.verified
  refine ⟨⟨kept.load_files exact, events, records, selections, fun more => ?_⟩, fun left drawn => ?_, ?_⟩
  · rw [kept.load_files exact, Option.map_some, Ledger.run, Ledger.run, List.foldl_append]
    rfl
  · obtain ⟨loaded, read, verified⟩ := kept.drawn_iff exact secure left drawn
    rw [← verified, read]
    simp
  · intro before event after split key value wellFormed
    exact kept.changed_iff exact secure split key wellFormed

def eventTypes : List EventType :=
  [.observation, .anchor, .measurement, .candidateGenerated, .candidateEvaluated, .gateEvaluated, .candidateSelected,
    .candidateRejected, .candidateAccepted, .compilation, .execution, .delivery, .deployment, .feedback, .certification,
    .generationCompleted, .schedulerDecision, .isrCapabilityAudit, .primitiveContract, .verification,
    .generationOutcome, .calibration, .matrix, .taxonomyCase, .taxonomyValidation, .scaleRamp, .engineeringDimension,
    .engineeringCertification]

def readPair : Json → Option (String × String)
  | .list [.atom (.str first), .atom (.str second)] => some (first, second)
  | _ => none

def readString : Json → Option String
  | .atom (.str text) => some text
  | _ => none

/-- A validation that reads each value only from its own type. -/
def strict : Validation where
  text := readString
  integer
    | .atom (.int value) => some value
    | _ => none
  number
    | .atom (.float value) => some value
    | _ => none
  texts
    | .list items => items.mapM readString
    | _ => none
  pairs
    | .list items => items.mapM readPair
    | _ => none
  eventType
    | .atom (.str text) => eventTypes.find? fun eventType => eventType.value == text
    | _ => none
  document
    | .dict record =>
        if holds : Distinct (.dict record : Json) ∧ sortKeys (.dict record : Json) = .dict record then
          some ⟨record, holds.1, holds.2⟩
        else none
    | _ => none

theorem mapM_map {Item Value : Type} (read : Value → Option Item) (payload : Item → Value)
    (roundTrip : ∀ item, read (payload item) = some item) (items : List Item) :
    (items.map payload).mapM read = some items := by
  induction items with
  | nil => rfl
  | cons item rest ih => simp [List.mapM_cons, roundTrip, ih]

theorem strict_exact : strict.Exact where
  text _ := rfl
  integer _ := rfl
  number _ := rfl
  texts := mapM_map readString Json.str fun _ => rfl
  pairs := mapM_map readPair pairPayload fun _ => rfl
  eventType value := by cases value <;> decide
  document value := dif_pos ⟨value.distinct, value.ordered⟩

def marked : Hashing := ⟨JsonText.exactDecimals, fun text => "#" ++ text⟩

theorem marked_collisionless : Collisionless marked where
  injective left right distinctLeft distinctRight same :=
    dumps_injective _ .compact distinctLeft distinctRight (String.append_right_inj "#" |>.mp same)
  present value same := by
    have size := congrArg String.length same
    simp [canonicalHash, marked] at size

def observed : Command :=
  .appendEvent { eventId := "e-1", evolutionId := "run-1", sequence := 0, eventType := .observation } "" "uuid"

/-- A ledger whose only event line was deleted loads as an empty one that verifies. -/
theorem deleted_end_unnoticed :
    (Ledger.run marked {} [observed]).events.length = 1 ∧
    ∃ loaded, load marked strict { (Ledger.run marked {} [observed]).files with events := fileOf [] } = some loaded ∧
      loaded.verifyEventChain marked = true := by
  obtain ⟨loaded, read, verified⟩ := (kept_run [observed]).drawn_iff strict_exact marked_collisionless [] (by simp)
  exact ⟨rfl, loaded, read, verified.mpr List.nil_prefix⟩

theorem observed_root_restored :
    load marked strict (Ledger.run marked {} [observed]).files = some (Ledger.run marked {} [observed]) :=
  (tampering_noticed_iff strict_exact marked_collisionless [observed]).1.1

/-- A process that loads the files of another goes on as that one would have, with all three chains verified. -/
theorem restart_resumes (exact : validation.Exact) (before after : List Command) :
    (load hashing validation (Ledger.run hashing {} before).files).map (fun loaded => Ledger.run hashing loaded after) =
        some (Ledger.run hashing {} (before ++ after)) ∧
      (Ledger.run hashing {} (before ++ after)).verifyEventChain hashing = true ∧
      (Ledger.run hashing {} (before ++ after)).verifyChain = true ∧
      (Ledger.run hashing {} (before ++ after)).verifySelectionChain = true := by
  refine ⟨?_, (kept_run (before ++ after)).verified⟩
  rw [(kept_run before).load_files exact, Option.map_some, Ledger.run, Ledger.run, Ledger.run, List.foldl_append]

theorem observed_resumed :
    (load marked strict (Ledger.run marked {} [observed]).files).map
        (fun loaded => Ledger.run marked loaded [observed]) = some (Ledger.run marked {} [observed, observed]) :=
  (restart_resumes strict_exact [observed] [observed]).1

end AutonomousApi.LedgerPersistence
