import AutonomousApi.JsonCodec

/-! Observatory events and their store (observatory/backend/domain.py and store.py). A datetime is
kept as its fields; the store writes `isoformat` and orders its rows by that text, the projections
order by the instant. Offsets are whole minutes, as the models read them. -/

namespace AutonomousApi.ObservatoryEvents

open DataTree JsonValue JsonCodec PythonLiteral

structure Datetime where
  year : Nat
  month : Nat
  day : Nat
  hour : Nat := 0
  minute : Nat := 0
  second : Nat := 0
  microsecond : Nat := 0
  offset : Int := 0
  deriving DecidableEq

def leap (year : Nat) : Bool := year % 4 == 0 && (year % 100 != 0 || year % 400 == 0)

def daysBeforeMonth (year month : Nat) : Nat :=
  [0, 31, 59, 90, 120, 151, 181, 212, 243, 273, 304, 334].getD (month - 1) 0 + if month > 2 && leap year then 1 else 0

/-- `toordinal`. -/
def Datetime.ordinal (date : Datetime) : Nat :=
  (date.year - 1) * 365 + (date.year - 1) / 4 - (date.year - 1) / 100 + (date.year - 1) / 400 +
    daysBeforeMonth date.year date.month + date.day

/-- Microseconds on the common clock. -/
def Datetime.instant (date : Datetime) : Int :=
  (((date.ordinal * 24 + date.hour) * 60 + date.minute - date.offset) * 60 + date.second) * 1000000 + date.microsecond

def padded (width value : Nat) : List Char :=
  let digits := Nat.toDigits 10 value
  List.replicate (width - digits.length) '0' ++ digits

def Datetime.clockText (date : Datetime) : List Char :=
  padded 4 date.year ++ ['-'] ++ padded 2 date.month ++ ['-'] ++ padded 2 date.day ++ ['T'] ++
    padded 2 date.hour ++ [':'] ++ padded 2 date.minute ++ [':'] ++ padded 2 date.second ++
      if date.microsecond = 0 then [] else '.' :: padded 6 date.microsecond

def Datetime.offsetText (date : Datetime) : List Char :=
  (if date.offset < 0 then '-' else '+') ::
    (padded 2 (date.offset.natAbs / 60) ++ [':'] ++ padded 2 (date.offset.natAbs % 60))

def Datetime.isoformat (date : Datetime) : String := String.ofList (date.clockText ++ date.offsetText)

/-- The text in a JSON dump of the model. -/
def Datetime.json (date : Datetime) : String :=
  String.ofList (date.clockText ++ if date.offset = 0 then ['Z'] else date.offsetText)

example : (⟨2026, 3, 1, 9, 5, 0, 250, -90⟩ : Datetime).isoformat = "2026-03-01T09:05:00.000250-01:30" := by decide

section

inductive EpistemicStatus where
  | observed | inferred | unknown | contradiction
  deriving DecidableEq

def EpistemicStatus.value : EpistemicStatus → String
  | .observed => "observed"
  | .inferred => "inferred"
  | .unknown => "unknown"
  | .contradiction => "contradiction"

inductive Severity where
  | debug | info | warning | error | fatal
  deriving DecidableEq

def Severity.value : Severity → String
  | .debug => "debug"
  | .info => "info"
  | .warning => "warning"
  | .error => "error"
  | .fatal => "fatal"

inductive EventCategory where
  | runtime | evidence | evolution | governance | knowledge
  deriving DecidableEq

def EventCategory.value : EventCategory → String
  | .runtime => "runtime"
  | .evidence => "evidence"
  | .evolution => "evolution"
  | .governance => "governance"
  | .knowledge => "knowledge"

abbrev Record := List (String × Json)

structure Event where
  id : String
  timestamp : Datetime
  source : String
  category : EventCategory
  type : String
  subjectId : String
  correlationId : Option String := none
  causationId : Option String := none
  payload : Record := []
  epistemicStatus : EpistemicStatus := .observed
  authorization : Option String := none
  evidenceRefs : List String := []
  provenance : Record := []
  severity : Severity := .info

structure Hashing where
  numbers : NumberText JsonFloat
  sha256 : String → String

variable (hashing : Hashing)

def canonicalJson (value : Json) : String := dumps .compactUnicode hashing.numbers value

def optionalText : Option String → Json
  | none => .null
  | some text => Json.str text

/-- `model_dump(mode="json")`. -/
def Event.dump (event : Event) : Json :=
  .dict [("id", Json.str event.id), ("timestamp", Json.str event.timestamp.json), ("source", Json.str event.source),
    ("category", Json.str event.category.value), ("type", Json.str event.type),
    ("subject_id", Json.str event.subjectId),
    ("correlation_id", optionalText event.correlationId), ("causation_id", optionalText event.causationId),
    ("payload", .dict event.payload), ("epistemic_status", Json.str event.epistemicStatus.value),
    ("authorization", optionalText event.authorization), ("evidence_refs", .list (event.evidenceRefs.map Json.str)),
    ("provenance", .dict event.provenance), ("severity", Json.str event.severity.value)]

def eventHash (event : Event) : String := hashing.sha256 (canonicalJson hashing event.dump)

def generateEventId (category : EventCategory) (source type subjectId : String) (payload : Record)
    (timestamp : Datetime) : String :=
  let basis := canonicalJson hashing (.dict [("category", Json.str category.value), ("source", Json.str source),
    ("type", Json.str type), ("subject_id", Json.str subjectId), ("payload", .dict payload),
    ("timestamp", Json.str timestamp.isoformat)])
  "evt-" ++ category.value ++ "-" ++ String.ofList ((hashing.sha256 basis).toList.take 24)

/-- Without an id of the caller's; the clock is read where no timestamp is given. -/
def newEvent (category : EventCategory) (source type subjectId : String) (payload : Record) (severity : Severity)
    (timestamp : Datetime) : Except String Event :=
  if source = "" then .error "event source is required"
  else if type = "" then .error "event type is required"
  else if subjectId = "" then .error "event subject_id is required"
  else .ok { id := generateEventId hashing category source type subjectId payload timestamp,
             timestamp, source, category, type, subjectId, payload, severity }

def newGovernanceEvent (source type subjectId : String) (reason : Option String) (payload : Record)
    (severity : Severity) (timestamp : Datetime) : Except String Event :=
  if type = "command_rejected" ∧ (reason.getD "" = "") then .error "command_rejected events require a reason"
  else
    let payload := match reason with
      | some text => OrderedMap.assign payload "reason" (Json.str text)
      | none => payload
    newEvent hashing .governance source type subjectId payload severity timestamp

end

variable (hashing : Hashing)

/-- A row, with the event that is read back from it. -/
structure Row where
  eventHash : String
  event : Event

def sortedRecord (entries : Record) : Record := (sortEntries entries).insertionSort keyOrder

/-- The records of an event are written with sorted keys. -/
def Event.stored (event : Event) : Event :=
  { event with payload := sortedRecord event.payload, provenance := sortedRecord event.provenance }

abbrev EventStore := List Row

def rowOf (event : Event) : Row := ⟨eventHash hashing event, event.stored⟩

/-- Nothing where the id is stored with a different hash. -/
def append (rows : EventStore) (event : Event) : Option (Bool × EventStore) :=
  match rows.find? fun row => row.event.id = event.id with
  | some existing => if existing.eventHash = eventHash hashing event then some (false, rows) else none
  | none => some (true, rows ++ [rowOf hashing event])

/-- The events of a history are handed to the store one by one. -/
def appendAll (rows : EventStore) (events : List Event) : EventStore :=
  events.foldl (fun rows event => ((append hashing rows event).map Prod.snd).getD rows) rows

/-- `ORDER BY timestamp ASC, id ASC`: texts compare by code point. -/
def textOrder (left right : Event) : Prop :=
  left.timestamp.isoformat < right.timestamp.isoformat ∨
    left.timestamp.isoformat = right.timestamp.isoformat ∧ left.id ≤ right.id

instance : DecidableRel textOrder := fun left right =>
  inferInstanceAs (Decidable (left.timestamp.isoformat < right.timestamp.isoformat ∨
    left.timestamp.isoformat = right.timestamp.isoformat ∧ left.id ≤ right.id))

/-- The rows of a category in the order of the query, before its limit. -/
def categoryEvents (rows : EventStore) (category : EventCategory) : List Event :=
  ((rows.map Row.event).filter fun event => event.category = category).insertionSort textOrder

def eventsByCategory (rows : EventStore) (category : EventCategory) (limit : Nat) : List Event :=
  (categoryEvents rows category).take limit

/-- Python sorts are stable. -/
def sortAsc (events : List Event) : List Event :=
  events.insertionSort fun left right => left.timestamp.instant ≤ right.timestamp.instant

/-- An item that may stand behind all others is sorted behind them. -/
theorem insertionSort_concat {Item : Type} {order : Item → Item → Prop} [DecidableRel order] {items : List Item}
    {last : Item}
    (behind : ∀ item ∈ items, order item last) :
    (items ++ [last]).insertionSort order = items.insertionSort order ++ [last] := by
  have insert (item : Item) (before : order item last) (sorted : List Item) :
      (sorted ++ [last]).orderedInsert order item = sorted.orderedInsert order item ++ [last] := by
    induction sorted with
    | nil => simp [before]
    | cons head rest ih =>
        by_cases here : order item head
        · simp [here]
        · simp [here, ih]
  induction items with
  | nil => rfl
  | cons item rest ih =>
      rw [List.cons_append, List.insertionSort_cons, ih fun other member => behind other
          (List.mem_cons_of_mem _ member), insert item (behind item List.mem_cons_self), List.insertionSort_cons]

/-- New ids are appended. -/
theorem appendAll_fresh (rows : EventStore) (events : List Event) (distinct : (events.map Event.id).Nodup)
    (fresh : ∀ row ∈ rows, row.event.id ∉ events.map Event.id) :
    appendAll hashing rows events = rows ++ events.map (rowOf hashing) := by
  induction events generalizing rows with
  | nil => simp [appendAll]
  | cons event rest ih =>
      rw [List.map_cons, List.nodup_cons] at distinct
      have absent : rows.find? (fun row => row.event.id = event.id) = none := by
        rw [List.find?_eq_none]
        intro row member same
        exact fresh row member (by simp [of_decide_eq_true same])
      have appended : append hashing rows event = some (true, rows ++ [rowOf hashing event]) := by rw [append, absent]
      rw [appendAll, List.foldl_cons, appended]
      have later := ih (rows ++ [rowOf hashing event]) distinct.2 fun row member inside => by
        rcases List.mem_append.mp member with old | new
        · exact fresh row old (List.mem_cons_of_mem _ inside)
        · rw [List.mem_singleton.mp new] at inside
          exact distinct.1 inside
      rw [appendAll] at later
      rw [Option.map_some, Option.getD_some, later, List.append_assoc, List.map_cons, List.singleton_append]

end AutonomousApi.ObservatoryEvents
