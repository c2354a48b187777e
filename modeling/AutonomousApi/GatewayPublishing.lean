import AutonomousApi.AppendContract

/-! The fan-out of the gateway (observatory/backend/gateway.py). A call first asks the store, in one step, and
then publishes what it owes to the bus, an event at a time; other calls run between these steps. A batch and an
idempotent call publish what the store has inserted, `observe` publishes whenever the store does not refuse. -/

namespace AutonomousApi.GatewayPublishing

open ObservatoryEvents hiding append
open EventTable EventTableLaws

variable (hashing : Hashing)

section

inductive GatewayError where
  | observatory (message : String)
  | store (error : StoreError)

/-- What a call answers, the events that it publishes when the store is done, and the tables. -/
structure Observed (Result : Type) where
  answer : Except GatewayError Result
  publishes : List Event
  database : Database

def observe (database : Database) (event : Event) : Observed String :=
  match append hashing database event with
  | (.error (.integrity message), after) => ⟨.error (.observatory message), [], after⟩
  | (.error error, after) => ⟨.error (.store error), [], after⟩
  | (.ok _, after) => ⟨.ok event.id, [event], after⟩

def observeIdempotent (database : Database) (event : Event) (idempotencyKey requestHash : String) (now : Datetime) :
    Observed (String × Bool) :=
  match appendIdempotent hashing database event idempotencyKey requestHash now with
  | (.error (.integrity _), after) =>
      ⟨.error (.store (.conflict "event id conflicts with stored content")), [], after⟩
  | (.error (.value message), after) => ⟨.error (.observatory message), [], after⟩
  | (.error error, after) => ⟨.error (.store error), [], after⟩
  | (.ok (eventId, replayed, inserted), after) =>
      ⟨.ok (eventId, replayed), if inserted then [event] else [], after⟩

/-- The answer of `observe_batch` without its status, which is "accepted". -/
structure BatchAnswer where
  accepted : Nat := 0
  inserted : Nat := 0
  duplicates : Nat := 0
  eventIds : List String := []

def observeBatch (maxVariables : Nat) (database : Database) (events : List Event) : Observed BatchAnswer :=
  if events.isEmpty then ⟨.ok {}, [], database⟩
  else
    match appendBatch hashing maxVariables database events with
    | (.error error, after) => ⟨.error (.store error), [], after⟩
    | (.ok result, after) =>
        ⟨.ok ⟨result.acceptedEventIds.length, result.inserted, result.duplicates, result.acceptedEventIds⟩,
          result.insertedEvents, after⟩

inductive Call where
  | observe (event : SoundEvent)
  | observeBatch (events : List SoundEvent)
  | observeIdempotent (event : SoundEvent) (idempotencyKey requestHash : String) (now : Datetime)

variable (maxVariables : Nat)

/-- The events that a call publishes, and the tables it leaves. -/
def ask (database : Database) : Call → List Event × Database
  | .observe event =>
      let observed := observe hashing database event
      (observed.publishes, observed.database)
  | .observeBatch events =>
      let observed := observeBatch hashing maxVariables database (events.map Subtype.val)
      (observed.publishes, observed.database)
  | .observeIdempotent event idempotencyKey requestHash now =>
      let observed := observeIdempotent hashing database event idempotencyKey requestHash now
      (observed.publishes, observed.database)

/-- An event on the bus, and the tables at that moment. -/
structure Publication where
  event : Event
  seen : Database

/-- `owed` holds what each call that the store has answered is still to publish. -/
structure Gateway where
  database : Database := {}
  owed : List (List Event) := []
  published : List Publication := []

/-- A new call asks the store, or the call at a place publishes its next event. -/
inductive Step where
  | call (call : Call)
  | publish (place : Nat)

def step (gateway : Gateway) : Step → Gateway
  | .call call =>
      let (publishes, database) := ask hashing maxVariables gateway.database call
      { gateway with database, owed := gateway.owed ++ [publishes] }
  | .publish place =>
      match gateway.owed[place]? with
      | some (event :: rest) =>
          { gateway with owed := gateway.owed.set place rest
                         published := gateway.published ++ [⟨event, gateway.database⟩] }
      | _ => gateway

def run (steps : List Step) : Gateway :=
  steps.foldl (step hashing maxVariables) {}

/-- The events that are published or owed. -/
def Gateway.sent (gateway : Gateway) : List Event :=
  gateway.published.map Publication.event ++ gateway.owed.flatten

/-- A stored event is published once, by a call that has published it or owes it, and what is published is
stored by then. -/
structure PublishedOnce (gateway : Gateway) : Prop where
  once : ∀ row ∈ gateway.database.events, (gateway.sent.map Event.id).count row.id = 1
  stored : ∀ publication ∈ gateway.published, Filed hashing publication.seen publication.event

/-- `observe` is called with an event that the store holds. -/
def Repeats (steps : List Step) : Prop :=
  ∃ before after, ∃ event : SoundEvent, steps = before ++ .call (.observe event) :: after ∧
    Filed hashing (run hashing maxVariables before).database event.val

/-- The event of a call that publishes what is stored already. -/
def again (database : Database) : Call → List Event
  | .observe event =>
      if (database.row event.val.id).any fun row => row.eventHash = eventHash hashing event.val then [event.val] else []
  | _ => []

variable {hashing} {database after : Database} {event : Event}

theorem filed_iff : Filed hashing database event ↔
    ((database.row event.id).any fun row => row.eventHash = eventHash hashing event) = true := by
  cases found : database.row event.id with
  | none => simp [Filed, found]
  | some row => simp [Filed, found]

/-- What the store's answer to a call leaves: each event that is to be published is stored, and the new rows are
those events, but for one that was stored before. -/
structure Answered (hashing : Hashing) (database : Database) (repeated publishes : List Event) (after : Database) :
    Prop where
  held : Held hashing after
  grown : Extends database after
  filed : ∀ event ∈ publishes, Filed hashing after event
  balance : (publishes.map Event.id ++ database.events.map EventRow.id).Perm
    (repeated.map Event.id ++ after.events.map EventRow.id)

theorem Answered.refused (held : Held hashing database) : Answered hashing database [] [] database :=
  ⟨held, .refl database, by simp, .refl _⟩

theorem append_answered (held : Held hashing database) (sound : Sound event) {stored : Bool}
    (appended : append hashing database event = (.ok stored, after)) :
    Answered hashing database [] (if stored then [event] else []) after := by
  have kept := held.append sound appended
  refine ⟨kept.1, kept.2, ?_, ?_⟩
  · intro wanted member
    have same : wanted = event := by
      cases stored with
      | false => simp at member
      | true => simpa using member
    rw [same]
    exact append_filed appended
  · rcases append_cases hashing database event with
      ⟨row, found, same, first⟩ | ⟨row, found, other, first⟩ | ⟨absent, first⟩
    · cases first.symm.trans appended
      exact .refl _
    · cases first.symm.trans appended
    · cases first.symm.trans appended
      simpa [Database.withEvent, columns] using (List.perm_append_singleton event.id _).symm

theorem observe_answered (held : Held hashing database) (sound : SoundEvent) :
    Answered hashing database (again hashing database (.observe sound)) (observe hashing database sound).publishes
      (observe hashing database sound).database := by
  rcases append_cases hashing database sound with
    ⟨row, found, same, appended⟩ | ⟨row, found, other, appended⟩ | ⟨absent, appended⟩
  · have filed : Filed hashing database sound := ⟨row, found, same⟩
    rw [again, if_pos (filed_iff.mp filed), observe, appended]
    exact ⟨held, .refl database, by simpa using filed, .refl _⟩
  · have fresh : ¬ Filed hashing database sound.val := by
      rintro ⟨stored, here, same⟩
      cases found.symm.trans here
      exact other same
    rw [again, if_neg (fun filed => fresh (filed_iff.mpr filed)), observe, appended]
    exact .refused held
  · have fresh : ¬ Filed hashing database sound.val := by
      rintro ⟨stored, here, -⟩
      cases absent.symm.trans here
    rw [again, if_neg (fun filed => fresh (filed_iff.mpr filed)), observe, appended]
    exact append_answered held sound.2 appended

theorem newly_mem {events : List Event} {flags : List Bool} (new : event ∈ newly events flags) : event ∈ events := by
  rw [newly] at new
  obtain ⟨pair, member, rfl⟩ := List.mem_map.mp new
  exact (List.of_mem_zip (List.mem_filter.mp member).1).1

theorem observeBatch_answered (maxVariables : Nat) (held : Held hashing database) (events : List SoundEvent) :
    Answered hashing database [] (observeBatch hashing maxVariables database (events.map Subtype.val)).publishes
      (observeBatch hashing maxVariables database (events.map Subtype.val)).database := by
  rw [observeBatch]
  split
  · exact .refused held
  · by_cases fits : (events.map Subtype.val).length ≤ maxVariables
    · rw [appendBatch_fits hashing held.ids fits]
      cases appended : appendEach hashing database (events.map Subtype.val) with
      | mk outcome final =>
          cases outcome with
          | error error => exact .refused held
          | ok flags =>
              have kept := held.appendEach (sound_events events) appended
              have filed := appendEach_filed held (sound_events events) appended
              have rows := (appendEach_rows appended).1
              refine ⟨kept.1, kept.2, ?_, ?_⟩
              · intro wanted new
                exact filed wanted (newly_mem (by simpa [extended] using new))
              · rw [rows]
                simpa [extended, columns, Function.comp_def] using List.perm_append_comm
    · rw [appendBatch_large hashing (by omega)]
      exact .refused held

theorem observeIdempotent_answered (held : Held hashing database) (sound : Sound event)
    (idempotencyKey requestHash : String) (now : Datetime) :
    Answered hashing database []
      (observeIdempotent hashing database event idempotencyKey requestHash now).publishes
      (observeIdempotent hashing database event idempotencyKey requestHash now).database := by
  have kept := held.appendIdempotent sound idempotencyKey requestHash now
  rcases appendIdempotent_cases hashing database event idempotencyKey requestHash now with
    ⟨error, refused⟩ | ⟨record, bound, same, replayed⟩ | ⟨unbound, admissible, inserted, middle, appended, answered⟩
  · rw [observeIdempotent, refused]
    cases error <;> exact .refused held
  · rw [observeIdempotent, replayed]
    exact .refused held
  · rw [answered] at kept
    have stored := append_answered held sound appended
    rw [observeIdempotent, answered]
    exact ⟨kept.1, kept.2, fun wanted member =>
      (stored.filed wanted member).extended ⟨List.prefix_rfl, List.prefix_append _ _⟩, stored.balance⟩

theorem ask_answered (maxVariables : Nat) (held : Held hashing database) (call : Call) :
    Answered hashing database (again hashing database call) (ask hashing maxVariables database call).1
      (ask hashing maxVariables database call).2 := by
  cases call with
  | observe event => exact observe_answered held event
  | observeBatch events => exact observeBatch_answered maxVariables held events
  | observeIdempotent event idempotencyKey requestHash now =>
      exact observeIdempotent_answered held event.2 idempotencyKey requestHash now

end

section

/-- The events that the calls of a run publish although they are stored. -/
def repeated (maxVariables : Nat) (gateway : Gateway) : List Step → List Event
  | [] => []
  | .call call :: rest =>
      again hashing gateway.database call ++ repeated maxVariables (step hashing maxVariables gateway (.call call)) rest
  | .publish place :: rest => repeated maxVariables (step hashing maxVariables gateway (.publish place)) rest

variable {hashing} {maxVariables : Nat} {gateway : Gateway} {extra : List Event}

/-- Every event that is sent is stored, and beside one for each row there are only repetitions. -/
structure Balanced (hashing : Hashing) (gateway : Gateway) (extra : List Event) : Prop where
  held : Held hashing gateway.database
  filed : ∀ event ∈ gateway.sent, Filed hashing gateway.database event
  stored : ∀ publication ∈ gateway.published, Filed hashing publication.seen publication.event
  balance : (gateway.sent.map Event.id).Perm (extra.map Event.id ++ gateway.database.events.map EventRow.id)

theorem balanced_start (hashing : Hashing) : Balanced hashing {} [] :=
  ⟨held_start hashing, by simp [Gateway.sent], by simp, by simp [Gateway.sent]⟩

/-- What a call publishes next is taken out of what is owed. -/
theorem flatten_set {Item : Type} {lists : List (List Item)} {place : Nat} {item : Item} {rest : List Item}
    (here : lists[place]? = some (item :: rest)) : lists.flatten.Perm (item :: (lists.set place rest).flatten) := by
  induction lists generalizing place with
  | nil => simp at here
  | cons list lists ih =>
      cases place with
      | zero =>
          have same : list = item :: rest := by simpa using here
          simp [same]
      | succ place =>
          have later := ih (by simpa using here)
          rw [List.flatten_cons, List.set_cons_succ, List.flatten_cons]
          exact (later.append_left list).trans List.perm_middle

theorem Balanced.call (balanced : Balanced hashing gateway extra) (maxVariables : Nat) (call : Call) :
    Balanced hashing (step hashing maxVariables gateway (.call call))
      (extra ++ again hashing gateway.database call) := by
  have answered := ask_answered maxVariables balanced.held call
  have sent : (step hashing maxVariables gateway (.call call)).sent =
      gateway.sent ++ (ask hashing maxVariables gateway.database call).1 := by
    simp [step, Gateway.sent]
  refine ⟨answered.held, ?_, balanced.stored, ?_⟩
  · intro event member
    rw [sent] at member
    rcases List.mem_append.mp member with old | new
    · exact (balanced.filed event old).extended answered.grown
    · exact answered.filed event new
  · rw [sent, List.map_append, List.map_append, List.append_assoc]
    have before := balanced.balance.append_right ((ask hashing maxVariables gateway.database call).1.map Event.id)
    have after := answered.balance.append_left (extra.map Event.id)
    rw [List.append_assoc] at before
    exact before.trans ((List.perm_append_comm.append_left _).trans after)

theorem Balanced.publish (balanced : Balanced hashing gateway extra) (maxVariables place : Nat) :
    Balanced hashing (step hashing maxVariables gateway (.publish place)) extra := by
  rw [step]
  split
  · rename_i event rest here
    have sent : gateway.sent.Perm (Gateway.sent { gateway with
        owed := gateway.owed.set place rest
        published := gateway.published ++ [⟨event, gateway.database⟩] }) := by
      simpa [Gateway.sent] using (flatten_set here).append_left (gateway.published.map Publication.event)
    have owed : event ∈ gateway.sent :=
      sent.mem_iff.mpr (by simp [Gateway.sent])
    refine ⟨balanced.held, ?_, ?_, ?_⟩
    · intro wanted member
      exact balanced.filed wanted (sent.mem_iff.mpr member)
    · intro publication member
      rcases List.mem_append.mp member with old | new
      · exact balanced.stored publication old
      · rw [List.mem_singleton.mp new]
        exact balanced.filed event owed
    · exact (sent.map Event.id).symm.trans balanced.balance
  · exact balanced

theorem Balanced.run (balanced : Balanced hashing gateway extra) (maxVariables : Nat) (steps : List Step) :
    Balanced hashing (steps.foldl (step hashing maxVariables) gateway)
      (extra ++ repeated hashing maxVariables gateway steps) := by
  induction steps generalizing gateway extra with
  | nil => simpa [repeated] using balanced
  | cons first rest ih =>
      cases first with
      | call call =>
          have later := ih (balanced.call maxVariables call)
          rwa [List.append_assoc] at later
      | publish place => exact ih (balanced.publish maxVariables place)

/-- Exactly once means that nothing was sent beside the rows. -/
theorem Balanced.publishedOnce_iff (balanced : Balanced hashing gateway extra) :
    PublishedOnce hashing gateway ↔ extra = [] := by
  have counted : ∀ row ∈ gateway.database.events,
      (gateway.sent.map Event.id).count row.id = (extra.map Event.id).count row.id + 1 := by
    intro row member
    rw [balanced.balance.count_eq, List.count_append,
      List.count_eq_one_of_mem balanced.held.ids (List.mem_map_of_mem member)]
  constructor
  · intro published
    by_contra nonempty
    obtain ⟨event, member⟩ := List.exists_mem_of_ne_nil extra nonempty
    have sent : event.id ∈ gateway.sent.map Event.id :=
      balanced.balance.mem_iff.mpr (List.mem_append_left _ (List.mem_map_of_mem member))
    obtain ⟨other, inside, same⟩ := List.mem_map.mp sent
    obtain ⟨row, found, -⟩ := balanced.filed other inside
    have stored : row ∈ gateway.database.events := List.mem_of_find?_eq_some found
    have named : row.id = other.id := by simpa using List.find?_some found
    have positive : 0 < (extra.map Event.id).count row.id := by
      rw [named, same]
      exact List.count_pos_iff.mpr (List.mem_map_of_mem member)
    have once := published.once row stored
    rw [counted row stored] at once
    omega
  · rintro rfl
    exact ⟨fun row member => by simpa using counted row member, balanced.stored⟩

theorem repeated_eq_nil_iff (steps : List Step) :
    repeated hashing maxVariables gateway steps = [] ↔
      ∀ before after, ∀ event : SoundEvent, steps = before ++ .call (.observe event) :: after →
        ¬ Filed hashing (before.foldl (step hashing maxVariables) gateway).database event.val := by
  induction steps generalizing gateway with
  | nil => simp [repeated]
  | cons first rest ih =>
      have split : repeated hashing maxVariables gateway (first :: rest) =
          repeated hashing maxVariables gateway [first] ++
            repeated hashing maxVariables (step hashing maxVariables gateway first) rest := by
        cases first <;> simp [repeated]
      have here : repeated hashing maxVariables gateway [first] = [] ↔
          ∀ event : SoundEvent, first = .call (.observe event) → ¬ Filed hashing gateway.database event.val := by
        cases first with
        | publish place => simp [repeated]
        | call call =>
            cases call with
            | observe event => simp [repeated, again, filed_iff]
            | observeBatch events => simp [repeated, again]
            | observeIdempotent event idempotencyKey requestHash now => simp [repeated, again]
      rw [split, List.append_eq_nil_iff, here, ih]
      constructor
      · rintro ⟨now, later⟩ before after event shape
        cases before with
        | nil =>
            obtain ⟨rfl, -⟩ := List.cons.inj shape
            exact now event rfl
        | cons head before =>
            obtain ⟨rfl, behind⟩ := List.cons.inj shape
            exact later before after event behind
      · intro all
        refine ⟨fun event same => all [] rest event (by rw [same]; rfl), ?_⟩
        intro before after event shape
        exact all (first :: before) after event (by rw [shape]; rfl)

theorem publishedOnce_run_iff (steps : List Step) :
    PublishedOnce hashing (run hashing maxVariables steps) ↔ ¬ Repeats hashing maxVariables steps := by
  have balanced := (balanced_start hashing).run maxVariables steps
  rw [List.nil_append] at balanced
  rw [run, balanced.publishedOnce_iff, repeated_eq_nil_iff]
  constructor
  · rintro all ⟨before, after, event, shape, filed⟩
    exact all before after event shape filed
  · intro never before after event shape filed
    exact never ⟨before, after, event, shape, filed⟩

end

variable {maxVariables : Nat}

/-- In every state of a run, each stored event is sent once and none is sent before it is stored, exactly when
`observe` is never called with an event that the store holds. -/
theorem published_once_iff (steps : List Step) :
    (∀ before, before <+: steps → PublishedOnce hashing (run hashing maxVariables before)) ↔
      ¬ Repeats hashing maxVariables steps := by
  constructor
  · intro always
    exact (publishedOnce_run_iff steps).mp (always steps List.prefix_rfl)
  · rintro never before ⟨rest, rfl⟩
    apply (publishedOnce_run_iff before).mpr
    rintro ⟨first, after, event, shape, filed⟩
    exact never ⟨first, after ++ rest, event, by rw [shape]; simp, filed⟩

open AppendContract

/-- Whatever is called: each stored event is sent once, and once more for each `observe` that finds it stored; nothing
else is sent, and nothing before it is stored. -/
theorem sent_exactly (steps : List Step) :
    ((run hashing maxVariables steps).sent.map Event.id).Perm
      ((repeated hashing maxVariables {} steps).map Event.id ++
        (run hashing maxVariables steps).database.events.map EventRow.id) ∧
      ∀ publication ∈ (run hashing maxVariables steps).published,
        Filed hashing publication.seen publication.event := by
  have balanced := (balanced_start hashing).run maxVariables steps
  exact ⟨balanced.balance, balanced.stored⟩

/-- The same event in a batch, and then through `observe`. -/
def retold : List Step :=
  [.call (.observeBatch [started]), .publish 0, .call (.observe started), .publish 1]

theorem retold_published_twice :
    (run undigested 32766 retold).database.events.map EventRow.id = ["evt-runtime-1"] ∧
      (run undigested 32766 retold).published.map (fun publication => publication.event.id) =
        ["evt-runtime-1", "evt-runtime-1"] ∧
      ¬ PublishedOnce undigested (run undigested 32766 retold) := by
  have batched : ask undigested 32766 {} (.observeBatch [started]) =
      ([started.val], Database.withEvent undigested {} started.val) := by
    simp [ask, observeBatch, appendBatch, transaction, existingHashes, appendBatchLoop, insertEvent, Database.row,
      Database.withEvent, OrderedMap.assignAll, OrderedMap.get]
  have observed : ask undigested 32766 (Database.withEvent undigested {} started.val) (.observe started) =
      ([started.val], Database.withEvent undigested {} started.val) := by
    simp [ask, observe, append, Database.row, Database.withEvent, columns]
  have final : run undigested 32766 retold =
      { database := Database.withEvent undigested {} started.val
        owed := [[], []]
        published := [⟨started.val, Database.withEvent undigested {} started.val⟩,
          ⟨started.val, Database.withEvent undigested {} started.val⟩] } := by
    simp [run, retold, step, batched, observed]
  rw [final]
  refine ⟨rfl, rfl, ?_⟩
  intro published
  have once := published.once (columns undigested started.val) (List.mem_singleton_self _)
  exact absurd once (by decide)

end AutonomousApi.GatewayPublishing
