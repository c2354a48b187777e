import AutonomousApi.EventTable

/-! What the three insert paths of the event store agree on. Appending one by one is the meaning of a
batch; the tables only grow, so a row or a bound key that is found once is found for ever. -/

namespace AutonomousApi.EventTableLaws

open ObservatoryEvents hiding append
open DataTree EventTable

variable (hashing : Hashing)

section

/-- Rows are added at the end of either table. -/
structure Extends (database after : Database) : Prop where
  events : database.events <+: after.events
  records : database.idempotencyRecords <+: after.idempotencyRecords

variable {database after final : Database}

theorem Extends.refl (database : Database) : Extends database database := ⟨List.prefix_rfl, List.prefix_rfl⟩

theorem Extends.trans (first : Extends database after) (second : Extends after final) : Extends database final :=
  ⟨first.events.trans second.events, first.records.trans second.records⟩

theorem find_extended {Item : Type} {items more : List Item} {wanted : Item → Bool} {item : Item}
    (grown : items <+: more) (found : items.find? wanted = some item) : more.find? wanted = some item := by
  cases grown with
  | intro rest split => rw [← split, List.find?_append, found, Option.some_or]

theorem Extends.row (grown : Extends database after) {id : String} {row : EventRow}
    (found : database.row id = some row) : after.row id = some row :=
  find_extended grown.events found

theorem Extends.prior (grown : Extends database after) {key : String} {record : IdempotencyRecord}
    (found : database.prior key = some record) : after.prior key = some record :=
  find_extended grown.records found

def Database.withEvent (database : Database) (event : Event) : Database :=
  { database with events := database.events ++ [columns hashing event] }

theorem extends_withEvent (database : Database) (event : Event) :
    Extends database (Database.withEvent hashing database event) :=
  ⟨List.prefix_append _ _, List.prefix_rfl⟩

theorem row_withEvent (database : Database) (event : Event) (id : String) :
    (Database.withEvent hashing database event).row id =
      (database.row id).or (if event.id = id then some (columns hashing event) else none) := by
  rw [Database.row, Database.withEvent, List.find?_append, Database.row]
  by_cases same : event.id = id
  · simp [same, columns]
  · simp [same, columns]

end

section

variable {hashing}

/-- What `append` does: it finds the event, refuses its id, or adds a row. -/
theorem append_cases (hashing : Hashing) (database : Database) (event : Event) :
    (∃ row, database.row event.id = some row ∧ row.eventHash = eventHash hashing event ∧
        append hashing database event = (.ok false, database)) ∨
      (∃ row, database.row event.id = some row ∧ row.eventHash ≠ eventHash hashing event ∧
        append hashing database event = (.error (differentHash event), database)) ∨
      (database.row event.id = none ∧
        append hashing database event = (.ok true, Database.withEvent hashing database event)) := by
  cases found : database.row event.id with
  | none =>
      refine .inr (.inr ⟨rfl, ?_⟩)
      rw [append, insertEvent, found]
      rfl
  | some row =>
      by_cases same : row.eventHash = eventHash hashing event
      · exact .inl ⟨row, rfl, same, by simp [append, found, same]⟩
      · exact .inr (.inl ⟨row, rfl, same, by simp [append, found, same]⟩)

variable {database after : Database} {events : List Event}

theorem append_records {event : Event} {outcome : Except StoreError Bool}
    (appended : append hashing database event = (outcome, after)) :
    after.idempotencyRecords = database.idempotencyRecords := by
  rcases append_cases hashing database event with
    ⟨row, found, same, first⟩ | ⟨row, found, other, first⟩ | ⟨absent, first⟩
  · cases first.symm.trans appended
    rfl
  · cases first.symm.trans appended
    rfl
  · cases first.symm.trans appended
    rfl

variable (hashing)

/-- `append` for one event after the other, up to the first exception. -/
def appendEach (database : Database) : List Event → Outcome (List Bool)
  | [] => (.ok [], database)
  | event :: rest =>
      match append hashing database event with
      | (.error error, after) => (.error error, after)
      | (.ok stored, after) =>
          match appendEach after rest with
          | (.error error, final) => (.error error, final)
          | (.ok flags, final) => (.ok (stored :: flags), final)

/-- The events that `append` has stored. -/
def newly (events : List Event) (flags : List Bool) : List Event :=
  ((events.zip flags).filter Prod.snd).map Prod.fst

/-- A partial result, and what a run of appends adds to it. -/
def extended (result : BatchAppendResult) (events : List Event) (flags : List Bool) : BatchAppendResult where
  inserted := result.inserted + flags.count true
  duplicates := result.duplicates + flags.count false
  acceptedEventIds := result.acceptedEventIds ++ events.map Event.id
  insertedEvents := result.insertedEvents ++ newly events flags

variable {hashing}

attribute [local simp] appendEach

/-- The loop of a batch appends one by one, as long as its hashes are those of the rows. -/
theorem appendBatchLoop_each {hashes : List (String × String)} (result : BatchAppendResult) (database : Database)
    (cached : ∀ event ∈ events, OrderedMap.get hashes event.id = (database.row event.id).map EventRow.eventHash) :
    appendBatchLoop hashing hashes result database events =
      match appendEach hashing database events with
      | (.error error, after) => (.error error, after)
      | (.ok flags, after) => (.ok (extended result events flags), after) := by
  induction events generalizing hashes result database with
  | nil => simp [appendBatchLoop, appendEach, extended, newly]
  | cons event rest ih =>
      have here := cached event List.mem_cons_self
      rcases append_cases hashing database event with
        ⟨row, found, same, appended⟩ | ⟨row, found, other, appended⟩ | ⟨absent, appended⟩
      · rw [found, Option.map_some] at here
        rw [appendBatchLoop, here, appendEach, appended]
        simp only [same, ne_eq, not_true_eq_false, if_false]
        rw [ih _ database fun later member => cached later (List.mem_cons_of_mem _ member)]
        cases appendEach hashing database rest with
        | mk outcome final =>
            cases outcome with
            | error error => rfl
            | ok flags => simp [extended, newly, Nat.add_assoc, Nat.add_comm 1]
      · rw [found, Option.map_some] at here
        rw [appendBatchLoop, here, appendEach, appended]
        simp [other]
      · rw [absent, Option.map_none] at here
        rw [appendBatchLoop, here, appendEach, appended]
        simp only [insertEvent, absent]
        -- the dictionary gains the hash of the row that is inserted
        have kept : ∀ later ∈ rest,
            OrderedMap.get (OrderedMap.assign hashes event.id (eventHash hashing event)) later.id =
            ((Database.withEvent hashing database event).row later.id).map EventRow.eventHash := by
          intro later member
          rw [OrderedMap.get_assign, row_withEvent]
          by_cases same : event.id = later.id
          · rw [if_pos same, if_pos same, ← same, absent]
            rfl
          · rw [if_neg same, if_neg same, Option.or_none]
            exact cached later (List.mem_cons_of_mem _ member)
        have later := ih { result with acceptedEventIds := result.acceptedEventIds ++ [event.id]
                                       inserted := result.inserted + 1
                                       insertedEvents := result.insertedEvents ++ [event] } _ kept
        rw [Database.withEvent] at later ⊢
        rw [later]
        cases appendEach hashing { database with events := database.events ++ [columns hashing event] } rest with
        | mk outcome final =>
            cases outcome with
            | error error => rfl
            | ok flags => simp [extended, newly, Nat.add_assoc, Nat.add_comm 1]

/-- The rows that a run of appends adds are those of the events it has stored. -/
theorem appendEach_rows {flags : List Bool} (appended : appendEach hashing database events = (.ok flags, after)) :
    after.events = database.events ++ (newly events flags).map (columns hashing) ∧
      after.idempotencyRecords = database.idempotencyRecords := by
  induction events generalizing database flags with
  | nil =>
      cases appended
      simp [newly]
  | cons event rest ih =>
      rw [appendEach] at appended
      rcases append_cases hashing database event with
        ⟨row, found, same, first⟩ | ⟨row, found, other, first⟩ | ⟨absent, first⟩
      · rw [first] at appended
        cases later : appendEach hashing database rest with
        | mk outcome final =>
            simp only [later] at appended
            cases outcome with
            | error error => cases appended
            | ok rest =>
                cases appended
                simpa [newly] using ih later
      · rw [first] at appended
        cases appended
      · rw [first] at appended
        cases later : appendEach hashing (Database.withEvent hashing database event) rest with
        | mk outcome final =>
            simp only [later] at appended
            cases outcome with
            | error error => cases appended
            | ok rest =>
                cases appended
                have added := ih later
                simpa [newly, Database.withEvent] using added

end

section

/-- An event of the list has an id that is stored, or stands in the list again, with another hash. -/
def Conflict (database : Database) (events : List Event) : Prop :=
  ∃ event ∈ events,
    (∃ row ∈ database.events, row.id = event.id ∧ row.eventHash ≠ eventHash hashing event) ∨
      ∃ other ∈ events, other.id = event.id ∧ eventHash hashing other ≠ eventHash hashing event

variable {hashing} {database : Database} {event : Event} {rest : List Event}

theorem row_unique (distinct : (database.events.map EventRow.id).Nodup) {row other : EventRow}
    (found : database.row other.id = some row) (member : other ∈ database.events) : row = other := by
  have inside : row ∈ database.events := List.mem_of_find?_eq_some found
  have same : row.id = other.id := by simpa using List.find?_some found
  exact List.inj_on_of_nodup_map distinct inside member same

/-- Behind an event that is stored already, the rest of the list conflicts with the same rows. -/
theorem conflict_stored (distinct : (database.events.map EventRow.id).Nodup) {row : EventRow}
    (found : database.row event.id = some row) (same : row.eventHash = eventHash hashing event) :
    Conflict hashing database (event :: rest) ↔ Conflict hashing database rest := by
  have inside : row ∈ database.events := List.mem_of_find?_eq_some found
  have named : row.id = event.id := by simpa using List.find?_some found
  constructor
  · rintro ⟨first, member, ⟨other, stored, ids, differs⟩ | ⟨other, listed, ids, differs⟩⟩
    · rcases List.mem_cons.mp member with rfl | later
      · rw [← ids] at found
        rw [row_unique distinct found stored] at same
        exact (differs same).elim
      · exact ⟨first, later, .inl ⟨other, stored, ids, differs⟩⟩
    · rcases List.mem_cons.mp member with rfl | later
      · rcases List.mem_cons.mp listed with rfl | behind
        · exact (differs rfl).elim
        · exact ⟨other, behind, .inl ⟨row, inside, named.trans ids.symm, fun equal => differs (equal.symm.trans same)⟩⟩
      · rcases List.mem_cons.mp listed with rfl | behind
        · exact ⟨first, later, .inl ⟨row, inside, named.trans ids, fun equal => differs (same.symm.trans equal)⟩⟩
        · exact ⟨first, later, .inr ⟨other, behind, ids, differs⟩⟩
  · rintro ⟨first, member, stored | ⟨other, listed, ids, differs⟩⟩
    · exact ⟨first, List.mem_cons_of_mem _ member, .inl stored⟩
    · exact ⟨first, List.mem_cons_of_mem _ member, .inr ⟨other, List.mem_cons_of_mem _ listed, ids, differs⟩⟩

/-- Behind a new event, the rest of the list conflicts with the rows and the new one. -/
theorem conflict_inserted (absent : database.row event.id = none) :
    Conflict hashing database (event :: rest) ↔ Conflict hashing (Database.withEvent hashing database event) rest := by
  have fresh : ∀ row ∈ database.events, row.id ≠ event.id := by
    simpa [Database.row] using absent
  have added : columns hashing event ∈ (Database.withEvent hashing database event).events :=
    List.mem_append_right _ (List.mem_singleton_self _)
  constructor
  · rintro ⟨first, member, ⟨other, stored, ids, differs⟩ | ⟨other, listed, ids, differs⟩⟩
    · rcases List.mem_cons.mp member with rfl | later
      · exact absurd ids (fresh other stored)
      · exact ⟨first, later, .inl ⟨other, List.mem_append_left _ stored, ids, differs⟩⟩
    · rcases List.mem_cons.mp member with rfl | later
      · rcases List.mem_cons.mp listed with rfl | behind
        · exact (differs rfl).elim
        · exact ⟨other, behind, .inl ⟨_, added, ids.symm, differs.symm⟩⟩
      · rcases List.mem_cons.mp listed with rfl | behind
        · exact ⟨first, later, .inl ⟨_, added, ids, differs⟩⟩
        · exact ⟨first, later, .inr ⟨other, behind, ids, differs⟩⟩
  · rintro ⟨first, member, ⟨other, stored, ids, differs⟩ | ⟨other, listed, ids, differs⟩⟩
    · rcases List.mem_append.mp stored with old | new
      · exact ⟨first, List.mem_cons_of_mem _ member, .inl ⟨other, old, ids, differs⟩⟩
      · cases List.mem_singleton.mp new
        exact ⟨first, List.mem_cons_of_mem _ member, .inr ⟨event, List.mem_cons_self, ids, differs⟩⟩
    · exact ⟨first, List.mem_cons_of_mem _ member, .inr ⟨other, List.mem_cons_of_mem _ listed, ids, differs⟩⟩

theorem distinct_withEvent (distinct : (database.events.map EventRow.id).Nodup)
    (absent : database.row event.id = none) :
    ((Database.withEvent hashing database event).events.map EventRow.id).Nodup := by
  have fresh : ∀ row ∈ database.events, row.id ≠ event.id := by
    simpa [Database.row] using absent
  rw [Database.withEvent, List.map_append, List.nodup_append]
  refine ⟨distinct, by simp, ?_⟩
  intro id old new other same
  obtain ⟨row, member, rfl⟩ := List.mem_map.mp old
  have named : new = event.id := by simpa [columns] using other
  exact fresh row member (same.trans named)

/-- Appending one by one succeeds exactly when no id has two hashes. -/
theorem appendEach_ok_iff (hashing : Hashing) (distinct : (database.events.map EventRow.id).Nodup)
    (events : List Event) :
    (∃ flags after, appendEach hashing database events = (.ok flags, after)) ↔
      ¬ Conflict hashing database events := by
  induction events generalizing database with
  | nil => simp [appendEach, Conflict]
  | cons event rest ih =>
      rcases append_cases hashing database event with
        ⟨row, found, same, first⟩ | ⟨row, found, other, first⟩ | ⟨absent, first⟩
      · rw [conflict_stored distinct found same, ← ih distinct, appendEach, first]
        cases later : appendEach hashing database rest with
        | mk outcome final => cases outcome <;> simp [later]
      · have conflict : Conflict hashing database (event :: rest) := by
          have named : row.id = event.id := by simpa using List.find?_some found
          exact ⟨event, List.mem_cons_self, .inl ⟨row, List.mem_of_find?_eq_some found, named, other⟩⟩
        rw [appendEach, first]
        simp [conflict]
      · rw [conflict_inserted absent, ← ih (distinct_withEvent distinct absent), appendEach, first]
        cases later : appendEach hashing (Database.withEvent hashing database event) rest with
        | mk outcome final => cases outcome <;> simp [later]

theorem get_hashes (rows : List EventRow) (id : String) :
    OrderedMap.get (rows.map fun row => (row.id, row.eventHash)) id =
      (rows.find? fun row => row.id = id).map EventRow.eventHash := by
  induction rows with
  | nil => rfl
  | cons row rest ih =>
      rw [List.map_cons, OrderedMap.get, ih]
      by_cases here : row.id = id <;> simp [here]

/-- The hashes read up front are those of the rows that the batch asks for. -/
theorem get_existingHashes (distinct : (database.events.map EventRow.id).Nodup) {ids : List String} {id : String}
    (asked : id ∈ ids) :
    OrderedMap.get (existingHashes database ids) id = (database.row id).map EventRow.eventHash := by
  have unique : (OrderedMap.keys ((database.events.filter fun row => row.id ∈ ids).map
      fun row => (row.id, row.eventHash))).Nodup := by
    rw [OrderedMap.keys, List.map_map]
    exact distinct.sublist (List.filter_sublist.map EventRow.id)
  rw [existingHashes, OrderedMap.assignAll_distinct _ unique, get_hashes, List.find?_filter, Database.row]
  congr 2
  funext row
  by_cases here : row.id = id <;> simp [here, asked]

theorem appendBatch_fits (hashing : Hashing) {maxVariables : Nat} {events : List Event}
    (distinct : (database.events.map EventRow.id).Nodup)
    (fits : events.length ≤ maxVariables) :
    appendBatch hashing maxVariables database events =
      match appendEach hashing database events with
      | (.error error, _) => (.error error, database)
      | (.ok flags, after) => (.ok (extended {} events flags), after) := by
  cases events with
  | nil => simp [appendBatch, appendEach, extended, newly]
  | cons event rest =>
      have cached : ∀ wanted ∈ event :: rest,
          OrderedMap.get (existingHashes database ((event :: rest).map Event.id)) wanted.id =
            (database.row wanted.id).map EventRow.eventHash :=
        fun wanted member => get_existingHashes distinct (List.mem_map_of_mem member)
      rw [appendBatch, List.isEmpty_cons, if_neg (by decide), transaction, if_neg (by omega),
        appendBatchLoop_each {} database cached]
      cases appendEach hashing database (event :: rest) with
      | mk outcome after => cases outcome <;> rfl

theorem appendBatch_large (hashing : Hashing) {maxVariables : Nat} {events : List Event}
    (large : maxVariables < events.length) :
    appendBatch hashing maxVariables database events = (.error (.sqlite "too many SQL variables"), database) := by
  cases events with
  | nil => simp at large
  | cons event rest => rw [appendBatch, List.isEmpty_cons, if_neg (by decide), transaction, if_pos large]

/-- Requests that the idempotent path takes. -/
def Admissible (idempotencyKey requestHash : String) : Prop :=
  idempotencyKey ≠ "" ∧ idempotencyKey.length ≤ 200 ∧ requestHash.length = 64

/-- What `append_idempotent` does: it refuses and leaves the tables alone, repeats an answer, or
appends the event and binds the key. -/
theorem appendIdempotent_cases (hashing : Hashing) (database : Database) (event : Event) (idempotencyKey requestHash :
    String) (now : Datetime) :
    (∃ error, appendIdempotent hashing database event idempotencyKey requestHash now = (.error error, database)) ∨
      (∃ record, database.prior idempotencyKey = some record ∧ record.requestHash = requestHash ∧
        appendIdempotent hashing database event idempotencyKey requestHash now =
          (.ok (record.eventId, true, false), database)) ∨
      (database.prior idempotencyKey = none ∧ Admissible idempotencyKey requestHash ∧ ∃ inserted middle,
        append hashing database event = (.ok inserted, middle) ∧
          appendIdempotent hashing database event idempotencyKey requestHash now =
            (.ok (event.id, false, inserted), { middle with idempotencyRecords := middle.idempotencyRecords ++
              [⟨idempotencyKey, requestHash, event.id, now.isoformat⟩] })) := by
  by_cases badKey : idempotencyKey = "" ∨ idempotencyKey.length > 200
  · exact .inl ⟨_, by rw [appendIdempotent, if_pos badKey]⟩
  · by_cases badHash : requestHash.length ≠ 64
    · exact .inl ⟨_, by rw [appendIdempotent, if_neg badKey, if_pos badHash]⟩
    · have admissible : Admissible idempotencyKey requestHash := by
        rw [not_or] at badKey
        exact ⟨badKey.1, by omega, by omega⟩
      rw [appendIdempotent, if_neg badKey, if_neg badHash, transaction]
      cases bound : database.prior idempotencyKey with
      | some record =>
          by_cases other : record.requestHash = requestHash
          · exact .inr (.inl ⟨record, rfl, other, by simp [other]⟩)
          · exact .inl ⟨.conflict "idempotency key reused with different request", by simp [other]⟩
      | none =>
          rcases append_cases hashing database event with
            ⟨row, found, same, appended⟩ | ⟨row, found, other, appended⟩ | ⟨absent, appended⟩
          · refine .inr (.inr ⟨rfl, admissible, false, database, appended, ?_⟩)
            simp [found, same, insertRecord, bound]
          · exact .inl ⟨differentHash event, by simp [found, other]⟩
          · refine .inr (.inr ⟨rfl, admissible, true, _, appended, ?_⟩)
            have unbound : (Database.withEvent hashing database event).prior idempotencyKey = none := bound
            rw [Database.withEvent] at unbound ⊢
            simp [insertEvent, absent, insertRecord, unbound]

end

section

/-- Ids and keys are primary keys, every row was written for an event, and every key is one that the
idempotent path takes. -/
structure Held (database : Database) : Prop where
  ids : (database.events.map EventRow.id).Nodup
  written : ∀ row ∈ database.events, ∃ event, Sound event ∧ row = columns hashing event
  keys : (database.idempotencyRecords.map IdempotencyRecord.idempotencyKey).Nodup
  requests : ∀ record ∈ database.idempotencyRecords, Admissible record.idempotencyKey record.requestHash

variable {hashing} {database after : Database} {event : Event}

theorem held_start (hashing : Hashing) : Held hashing {} := ⟨List.nodup_nil, nofun, List.nodup_nil, nofun⟩

theorem Held.withEvent (held : Held hashing database) (sound : Sound event) (absent : database.row event.id = none) :
    Held hashing (Database.withEvent hashing database event) where
  ids := distinct_withEvent held.ids absent
  written := by
    intro row member
    rcases List.mem_append.mp member with old | new
    · exact held.written row old
    · exact ⟨event, sound, List.mem_singleton.mp new⟩
  keys := held.keys
  requests := held.requests

theorem Held.append (held : Held hashing database) (sound : Sound event) {outcome : Except StoreError Bool}
    (appended : append hashing database event = (outcome, after)) : Held hashing after ∧ Extends database after := by
  rcases append_cases hashing database event with
    ⟨row, found, same, first⟩ | ⟨row, found, other, first⟩ | ⟨absent, first⟩
  · cases first.symm.trans appended
    exact ⟨held, .refl _⟩
  · cases first.symm.trans appended
    exact ⟨held, .refl _⟩
  · cases first.symm.trans appended
    exact ⟨held.withEvent sound absent, extends_withEvent hashing database event⟩

theorem Held.appendEach {events : List Event} (held : Held hashing database) (sound : ∀ event ∈ events, Sound event)
    {flags : List Bool} (appended : appendEach hashing database events = (.ok flags, after)) :
    Held hashing after ∧ Extends database after := by
  induction events generalizing database flags with
  | nil =>
      cases appended
      exact ⟨held, .refl _⟩
  | cons event rest ih =>
      rw [EventTableLaws.appendEach] at appended
      cases first : EventTable.append hashing database event with
      | mk outcome middle =>
          have kept := held.append (sound event List.mem_cons_self) first
          simp only [first] at appended
          cases outcome with
          | error error => cases appended
          | ok stored =>
              cases later : EventTableLaws.appendEach hashing middle rest with
              | mk outcome final =>
                  simp only [later] at appended
                  cases outcome with
                  | error error => cases appended
                  | ok flags =>
                      cases appended
                      have whole := ih kept.1 (fun event member => sound event (List.mem_cons_of_mem _ member)) later
                      exact ⟨whole.1, kept.2.trans whole.2⟩

end

inductive Command where
  | append (event : SoundEvent)
  | appendBatch (events : List SoundEvent)
  | appendIdempotent (event : SoundEvent) (idempotencyKey requestHash : String) (now : Datetime)

variable (maxVariables : Nat)

def execute (database : Database) : Command → Database
  | .append event => (append hashing database event).2
  | .appendBatch events => (appendBatch hashing maxVariables database (events.map Subtype.val)).2
  | .appendIdempotent event idempotencyKey requestHash now =>
      (appendIdempotent hashing database event idempotencyKey requestHash now).2

def executeAll (database : Database) (commands : List Command) : Database :=
  commands.foldl (execute hashing maxVariables) database

/-- The events of a command that returns, a replayed request apart. -/
def accepted (database : Database) : Command → List Event
  | .append event =>
      match append hashing database event with
      | (.ok _, _) => [event]
      | (.error _, _) => []
  | .appendBatch events =>
      match appendBatch hashing maxVariables database (events.map Subtype.val) with
      | (.ok _, _) => events.map Subtype.val
      | (.error _, _) => []
  | .appendIdempotent event idempotencyKey requestHash now =>
      match appendIdempotent hashing database event idempotencyKey requestHash now with
      | (.ok (_, false, _), _) => [event]
      | _ => []

variable {hashing} {maxVariables} {database after : Database} {event : Event}

theorem sound_events (events : List SoundEvent) : ∀ event ∈ events.map Subtype.val, Sound event := by
  intro event member
  obtain ⟨wrapped, -, rfl⟩ := List.mem_map.mp member
  exact wrapped.2

theorem Held.appendBatch (held : Held hashing database) (maxVariables : Nat) {events : List Event}
    (sound : ∀ event ∈ events, Sound event) :
    Held hashing (appendBatch hashing maxVariables database events).2 ∧
      Extends database (appendBatch hashing maxVariables database events).2 := by
  by_cases fits : events.length ≤ maxVariables
  · rw [appendBatch_fits hashing held.ids fits]
    cases appended : EventTableLaws.appendEach hashing database events with
    | mk outcome final =>
        cases outcome with
        | error error => exact ⟨held, .refl _⟩
        | ok flags => exact held.appendEach sound appended
  · rw [appendBatch_large hashing (by omega)]
    exact ⟨held, .refl _⟩

theorem Held.appendIdempotent (held : Held hashing database) (sound : Sound event) (idempotencyKey requestHash : String)
    (now : Datetime) :
    Held hashing (appendIdempotent hashing database event idempotencyKey requestHash now).2 ∧
      Extends database (appendIdempotent hashing database event idempotencyKey requestHash now).2 := by
  rcases appendIdempotent_cases hashing database event idempotencyKey requestHash now with
    ⟨error, refused⟩ | ⟨record, bound, same, replayed⟩ | ⟨unbound, admissible, inserted, middle, appended, answered⟩
  · rw [refused]
    exact ⟨held, .refl _⟩
  · rw [replayed]
    exact ⟨held, .refl _⟩
  · have kept := held.append sound appended
    have unchanged : middle.idempotencyRecords = database.idempotencyRecords := append_records appended
    have fresh : ∀ record ∈ middle.idempotencyRecords, record.idempotencyKey ≠ idempotencyKey := by
      rw [unchanged]
      simpa [Database.prior] using unbound
    rw [answered]
    refine ⟨⟨kept.1.ids, kept.1.written, ?_, ?_⟩, kept.2.events, kept.2.records.trans (List.prefix_append _ _)⟩
    · rw [List.map_append, List.nodup_append]
      refine ⟨kept.1.keys, by simp, ?_⟩
      intro key old new other same
      obtain ⟨record, member, rfl⟩ := List.mem_map.mp old
      have named : new = idempotencyKey := by simpa using other
      exact fresh record member (same.trans named)
    · intro record member
      rcases List.mem_append.mp member with old | new
      · exact kept.1.requests record old
      · rw [List.mem_singleton.mp new]
        exact admissible

/-- One command keeps the tables sound and only adds to them. -/
theorem Held.execute (held : Held hashing database) (maxVariables : Nat) (command : Command) :
    Held hashing (execute hashing maxVariables database command) ∧
      Extends database (execute hashing maxVariables database command) := by
  cases command with
  | append event => exact held.append event.2 (@Prod.mk.eta _ _ (EventTable.append hashing database event)).symm
  | appendBatch events => exact held.appendBatch maxVariables (sound_events events)
  | appendIdempotent event idempotencyKey requestHash now =>
      exact held.appendIdempotent event.2 idempotencyKey requestHash now

theorem Held.executeAll (held : Held hashing database) (maxVariables : Nat) (commands : List Command) :
    Held hashing (executeAll hashing maxVariables database commands) ∧
      Extends database (executeAll hashing maxVariables database commands) := by
  induction commands generalizing database with
  | nil => exact ⟨held, .refl _⟩
  | cons command rest ih =>
      have first := held.execute maxVariables command
      have later := ih first.1
      exact ⟨later.1, first.2.trans later.2⟩

/-- The row under an event's id has the event's hash. -/
def Filed (hashing : Hashing) (database : Database) (event : Event) : Prop :=
  ∃ row, database.row event.id = some row ∧ row.eventHash = eventHash hashing event

theorem Filed.extended (filed : Filed hashing database event) (grown : Extends database after) :
    Filed hashing after event := by
  obtain ⟨row, found, same⟩ := filed
  exact ⟨row, grown.row found, same⟩

theorem append_filed {stored : Bool} (appended : append hashing database event = (.ok stored, after)) :
    Filed hashing after event := by
  rcases append_cases hashing database event with
    ⟨row, found, same, first⟩ | ⟨row, found, other, first⟩ | ⟨absent, first⟩
  · cases first.symm.trans appended
    exact ⟨row, found, same⟩
  · cases first.symm.trans appended
  · cases first.symm.trans appended
    exact ⟨columns hashing event, by rw [row_withEvent, absent]; simp, rfl⟩

theorem appendEach_filed {events : List Event} (held : Held hashing database) (sound : ∀ event ∈ events, Sound event)
    {flags : List Bool} (appended : appendEach hashing database events = (.ok flags, after)) :
    ∀ event ∈ events, Filed hashing after event := by
  induction events generalizing database flags with
  | nil => simp
  | cons event rest ih =>
      rw [appendEach] at appended
      cases first : append hashing database event with
      | mk outcome middle =>
          have kept := held.append (sound event List.mem_cons_self) first
          simp only [first] at appended
          cases outcome with
          | error error => cases appended
          | ok stored =>
              cases later : appendEach hashing middle rest with
              | mk outcome final =>
                  simp only [later] at appended
                  cases outcome with
                  | error error => cases appended
                  | ok flags =>
                      cases appended
                      have soundRest := fun event member => sound event (List.mem_cons_of_mem _ member)
                      intro wanted member
                      rcases List.mem_cons.mp member with rfl | behind
                      · exact (append_filed first).extended (kept.1.appendEach soundRest later).2
                      · exact ih kept.1 soundRest later wanted behind

theorem accepted_filed (held : Held hashing database) (command : Command)
    (taken : event ∈ accepted hashing maxVariables database command) :
    Filed hashing (execute hashing maxVariables database command) event := by
  cases command with
  | append wanted =>
      cases appended : append hashing database wanted.val with
      | mk outcome final =>
          cases outcome with
          | error error => simp [accepted, appended] at taken
          | ok stored =>
              have same : event = wanted.val := by simpa [accepted, appended] using taken
              rw [execute, appended, same]
              exact append_filed appended
  | appendBatch events =>
      by_cases fits : (events.map Subtype.val).length ≤ maxVariables
      · rw [accepted, appendBatch_fits hashing held.ids fits] at taken
        rw [execute, appendBatch_fits hashing held.ids fits]
        cases appended : appendEach hashing database (events.map Subtype.val) with
        | mk outcome final =>
            simp only [appended] at taken
            cases outcome with
            | error error => simp at taken
            | ok flags => exact appendEach_filed held (sound_events events) appended event taken
      · rw [accepted, appendBatch_large hashing (by omega)] at taken
        simp at taken
  | appendIdempotent wanted idempotencyKey requestHash now =>
      rcases appendIdempotent_cases hashing database wanted.val idempotencyKey requestHash now with
        ⟨error, refused⟩ | ⟨record, bound, same, replayed⟩ | ⟨unbound, admissible, inserted, middle, appended, answered⟩
      · simp [accepted, refused] at taken
      · simp [accepted, replayed] at taken
      · have same : event = wanted.val := by simpa [accepted, answered] using taken
        rw [execute, answered, same]
        exact (append_filed appended).extended ⟨List.prefix_rfl, List.prefix_append _ _⟩

end AutonomousApi.EventTableLaws
