import AutonomousApi.EventTableLaws

/-! The contract of the event store: a batch means what its events mean one by one, a bound key stays
bound, and a stored event is read with the hash it was stored under. The one query of a batch binds a
host parameter for each event, so a batch that SQLite cannot bind is refused although its events are
not. -/

namespace AutonomousApi.AppendContract

open ObservatoryEvents hiding append
open IsoDatetime EventTable EventTableLaws

variable (hashing : Hashing)

/-- A batch against its events one by one. -/
structure BatchRefines (maxVariables : Nat) (database : Database) (events : List Event) : Prop where
  succeeds :
    (∃ result after, appendBatch hashing maxVariables database events = (.ok result, after)) ↔
      ∃ flags after, appendEach hashing database events = (.ok flags, after)
  reports : ∀ result batch flags after,
    appendBatch hashing maxVariables database events = (.ok result, batch) →
    appendEach hashing database events = (.ok flags, after) →
      batch = after ∧ result.insertedEvents = newly events flags ∧ result.inserted = flags.count true ∧
        result.duplicates = flags.count false ∧ result.acceptedEventIds = events.map Event.id
  stored : ∀ result batch,
    appendBatch hashing maxVariables database events = (.ok result, batch) →
      batch.events = database.events ++ result.insertedEvents.map (columns hashing)
  unchanged : ∀ error after,
    appendBatch hashing maxVariables database events = (.error error, after) → after = database

/-- A key is bound by the first request that is taken under it, and answers for that request alone. -/
structure KeysBound (maxVariables : Nat) (database : Database) : Prop where
  once : (database.idempotencyRecords.map IdempotencyRecord.idempotencyKey).Nodup
  kept : ∀ later key record, database.prior key = some record →
    (executeAll hashing maxVariables database later).prior key = some record
  bound : ∀ event key requestHash now id inserted after,
    appendIdempotent hashing database event key requestHash now = (.ok (id, false, inserted), after) →
      id = event.id ∧ ∃ record, after.prior key = some record ∧ record.requestHash = requestHash ∧ record.eventId = id
  replayed : ∀ event key record now, database.prior key = some record →
    appendIdempotent hashing database event key record.requestHash now = (.ok (record.eventId, true, false), database)
  refused : ∀ event key record requestHash now, database.prior key = some record → requestHash ≠ record.requestHash →
    ∃ error, appendIdempotent hashing database event key requestHash now = (.error error, database)

/-- Every event that a command of the run has taken is read with the hash it was taken under. -/
def ReadsBack (moment : String → Option Datetime) (maxVariables : Nat) (commands : List Command) : Prop :=
  ∀ before command rest, commands = before ++ command :: rest →
    ∀ event ∈ accepted hashing maxVariables (executeAll hashing maxVariables {} before) command,
      ∃ found, getEvent hashing moment (executeAll hashing maxVariables {} commands) event.id = .ok (some found) ∧
        eventHash hashing found = eventHash hashing event

structure LogContract (moment : String → Option Datetime) (maxVariables : Nat) (commands : List Command)
    (events : List SoundEvent) : Prop where
  batch : BatchRefines hashing maxVariables (executeAll hashing maxVariables {} commands) (events.map Subtype.val)
  keys : KeysBound hashing maxVariables (executeAll hashing maxVariables {} commands)
  reads : ReadsBack hashing moment maxVariables commands

section

variable {hashing} {database : Database} {maxVariables : Nat} {events : List Event}

theorem refines_of_fits (distinct : (database.events.map EventRow.id).Nodup) (fits : events.length ≤ maxVariables) :
    BatchRefines hashing maxVariables database events := by
  have batch := appendBatch_fits hashing distinct fits
  cases appended : appendEach hashing database events with
  | mk outcome final =>
      rw [appended] at batch
      cases outcome with
      | error error =>
          constructor
          · simp [batch, appended]
          · simp [batch]
          · simp [batch]
          · rintro other after refused
            cases batch.symm.trans refused
            rfl
      | ok flags =>
          constructor
          · simp [batch, appended]
          · rintro result tables other after taken sequence
            cases batch.symm.trans taken
            cases appended.symm.trans sequence
            simp [extended]
          · rintro result tables taken
            cases batch.symm.trans taken
            simpa [extended] using (appendEach_rows appended).1
          · simp [batch]

theorem refines_of_conflict (distinct : (database.events.map EventRow.id).Nodup) (large : maxVariables < events.length)
    (conflict : Conflict hashing database events) : BatchRefines hashing maxVariables database events := by
  have batch : appendBatch hashing maxVariables database events = _ := appendBatch_large hashing large
  have refused := (not_iff_not.mpr (appendEach_ok_iff hashing distinct events)).mpr (not_not.mpr conflict)
  constructor
  · simp [batch, refused]
  · simp [batch]
  · simp [batch]
  · intro error after failed
    cases batch.symm.trans failed
    rfl

/-- A batch that is too large is refused, whatever its events are. -/
theorem refines_iff (distinct : (database.events.map EventRow.id).Nodup) :
    BatchRefines hashing maxVariables database events ↔
      events.length ≤ maxVariables ∨ Conflict hashing database events := by
  constructor
  · intro refines
    by_cases fits : events.length ≤ maxVariables
    · exact .inl fits
    · right
      by_contra peaceful
      obtain ⟨result, after, taken⟩ := refines.succeeds.mpr ((appendEach_ok_iff hashing distinct events).mpr peaceful)
      cases (appendBatch_large hashing (by omega)).symm.trans taken
  · rintro (fits | conflict)
    · exact refines_of_fits distinct fits
    · by_cases fits : events.length ≤ maxVariables
      · exact refines_of_fits distinct fits
      · exact refines_of_conflict distinct (by omega) conflict

theorem prior_appended {records : List IdempotencyRecord} {record : IdempotencyRecord}
    (absent : ∀ other ∈ records, other.idempotencyKey ≠ record.idempotencyKey) :
    (records ++ [record]).find? (fun other => other.idempotencyKey = record.idempotencyKey) = some record := by
  rw [List.find?_append, List.find?_eq_none.mpr (by simpa using absent)]
  simp

theorem Held.keysBound (held : Held hashing database) : KeysBound hashing maxVariables database where
  once := held.keys
  kept := fun later _ _ found => (held.executeAll maxVariables later).2.prior found
  bound := by
    intro event key requestHash now id inserted after answered
    rcases appendIdempotent_cases hashing database event key requestHash now with
      ⟨error, refused⟩ | ⟨record, found, same, replayed⟩ | ⟨unbound, admissible, stored, middle, appended, taken⟩
    · cases refused.symm.trans answered
    · cases replayed.symm.trans answered
    · cases taken.symm.trans answered
      have unchanged : middle.idempotencyRecords = database.idempotencyRecords := append_records appended
      refine ⟨rfl, ⟨key, requestHash, event.id, now.isoformat⟩, ?_, rfl, rfl⟩
      refine @prior_appended middle.idempotencyRecords ⟨key, requestHash, event.id, now.isoformat⟩ ?_
      rw [unchanged]
      simpa [Database.prior] using unbound
  replayed := by
    intro event key record now found
    have named : record.idempotencyKey = key := by simpa using List.find?_some found
    have admissible := held.requests record (List.mem_of_find?_eq_some found)
    rw [named] at admissible
    rw [appendIdempotent, if_neg (by simp [admissible.1, admissible.2.1]), if_neg (by simp [admissible.2.2]),
        transaction, found]
    simp
  refused := by
    intro event key record requestHash now found other
    rcases appendIdempotent_cases hashing database event key requestHash now with
      ⟨error, refused⟩ | ⟨again, stays, same, replayed⟩ | ⟨unbound, admissible, stored, middle, appended, taken⟩
    · exact ⟨error, refused⟩
    · cases found.symm.trans stays
      exact absurd same.symm other
    · cases found.symm.trans unbound

variable {moment : String → Option Datetime}

theorem executeAll_append (database : Database) (commands more : List Command) :
    executeAll hashing maxVariables database (commands ++ more) =
      executeAll hashing maxVariables (executeAll hashing maxVariables database commands) more := List.foldl_append

theorem Held.getEvent {database : Database} (held : Held hashing database)
    (exact : ∀ date, OnCalendar date → moment date.isoformat = some date) {event : Event}
    (filed : Filed hashing database event) :
    ∃ found, getEvent hashing moment database event.id = .ok (some found) ∧
      eventHash hashing found = eventHash hashing event := by
  obtain ⟨row, stands, same⟩ := filed
  obtain ⟨written, sound, rfl⟩ := held.written row (List.mem_of_find?_eq_some stands)
  refine ⟨written.stored, ?_, (eventHash_stored hashing written).trans same⟩
  rw [EventTable.getEvent, stands]
  simp only [rowToEvent_columns hashing exact sound]

theorem readsBack (exact : ∀ date, OnCalendar date → moment date.isoformat = some date) (commands : List Command) :
    ReadsBack hashing moment maxVariables commands := by
  rintro before command rest rfl event taken
  have start := (held_start hashing).executeAll maxVariables before
  have step := start.1.execute maxVariables command
  have final := step.1.executeAll maxVariables rest
  rw [executeAll_append, executeAll, List.foldl_cons, ← executeAll]
  exact Held.getEvent final.1 exact ((accepted_filed start.1 command taken).extended final.2)

end

variable {moment : String → Option Datetime}

/-- The store meets its contract for exactly the batches that one statement can bind, or that hold a
conflict. -/
theorem event_log_contract_iff (exact : ∀ date, OnCalendar date → moment date.isoformat = some date)
    (maxVariables : Nat)
    (commands : List Command) (events : List SoundEvent) :
    LogContract hashing moment maxVariables commands events ↔
      events.length ≤ maxVariables ∨
        Conflict hashing (executeAll hashing maxVariables {} commands) (events.map Subtype.val) := by
  have held := ((held_start hashing).executeAll maxVariables commands).1
  have size : (events.map Subtype.val).length = events.length := List.length_map _
  rw [← size, ← refines_iff held.ids]
  constructor
  · exact LogContract.batch
  · intro refines
    exact ⟨refines, Held.keysBound held, readsBack exact commands⟩

/-- Texts that are their own digests. -/
def undigested : Hashing := ⟨JsonText.exactDecimals, id⟩

def started : SoundEvent where
  val := { id := "evt-runtime-1", timestamp := ⟨2026, 3, 1, 9, 5, 0, 250, -90⟩, source := "worker",
           category := .runtime, type := "started", subjectId := "job-1" }
  property := ⟨by simp [DataTree.distinct_dict_iff], by simp [DataTree.distinct_dict_iff],
    ⟨by decide, by decide, by decide, by decide, by decide, by decide, by decide, by decide⟩⟩

theorem started_twice_contract :
    LogContract undigested readIso 32766 [.append started] [started, started] ↔
      [started, started].length ≤ 32766 ∨
        Conflict undigested (executeAll undigested 32766 {} [.append started]) ([started, started].map Subtype.val) :=
  event_log_contract_iff undigested (fun _ possible => readIso_isoformat possible) 32766
    [.append started] [started, started]

/-- One event more than the default number of host parameters, each the same. -/
theorem large_batch_refused :
    (∃ flags after, appendEach undigested {} (List.replicate 32767 started.val) = (.ok flags, after)) ∧
      appendBatch undigested 32766 {} (List.replicate 32767 started.val) =
        (.error (.sqlite "too many SQL variables"), {}) ∧
      ¬ LogContract undigested readIso 32766 [] (List.replicate 32767 started) := by
  have peaceful : ¬ Conflict undigested {} (List.replicate 32767 started.val) := by
    rintro ⟨event, member, ⟨row, stored, -⟩ | ⟨other, listed, -, differs⟩⟩
    · cases stored
    · rw [List.eq_of_mem_replicate member, List.eq_of_mem_replicate listed] at differs
      exact differs rfl
  have large : 32766 < (List.replicate 32767 started.val).length := by rw [List.length_replicate]; decide
  refine ⟨(appendEach_ok_iff undigested (held_start undigested).ids _).mpr peaceful,
      appendBatch_large undigested large, ?_⟩
  intro contract
  have refines := contract.batch
  rw [List.map_replicate] at refines
  rcases (refines_iff (held_start undigested).ids).mp refines with fits | conflict
  · omega
  · exact peaceful conflict

end AutonomousApi.AppendContract
