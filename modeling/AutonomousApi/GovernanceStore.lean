import AutonomousApi.HashChain
import AutonomousApi.JsonCodec
import AutonomousApi.Runs

/-! The durable event store of governance: core/governance/audit.py, which signs records and
verifies chains of them, and governance/adapters/sqlite.py, which keeps an event row and a
signed audit row for every event. An append reads the last audit row of its candidate and
inserts both rows of all its events later, in one transaction. -/

namespace AutonomousApi.GovernanceStore

open DataTree JsonValue JsonCodec PythonLiteral

/-- `hashlib.sha256(...).hexdigest()` of a text, and the HMAC of a text under a key. -/
structure Digests where
  sha256 : String → String
  hmac : String → String → String

/-- What the json module and hashlib provide. -/
structure Platform where
  numbers : NumberText JsonFloat
  digests : Digests

structure AuditRecord where
  candidateId : String
  sequence : Int
  eventType : String
  payload : String
  previousHash : String
  recordHash : String
  signature : String
  deriving DecidableEq

/-- `AuditIntegrityError`, for the record it names. -/
inductive AuditFault where
  | hashMismatch (candidateId : String) (sequence : Int)
  | signatureMismatch (candidateId : String) (sequence : Int)
  | sequenceGap (candidateId : String) (sequence : Int)
  | predecessorMismatch (candidateId : String) (sequence : Int)
  deriving DecidableEq

def AuditFault.message : AuditFault → String
  | .hashMismatch candidateId sequence =>
      "governance audit hash mismatch at " ++ candidateId ++ ":" ++ toString sequence
  | .signatureMismatch candidateId sequence =>
      "governance audit signature mismatch at " ++ candidateId ++ ":" ++ toString sequence
  | .sequenceGap candidateId sequence => "governance audit sequence gap at " ++ candidateId ++ ":" ++ toString sequence
  | .predecessorMismatch candidateId sequence =>
      "governance audit predecessor mismatch at " ++ candidateId ++ ":" ++ toString sequence

section

/-- `GovernanceAuditSigner`; it refuses an empty key. -/
structure Signer where
  platform : Platform
  key : String
  configured : key ≠ ""

variable (signer : Signer)

/-- The dictionary whose canonical text is hashed. -/
def material (candidateId : String) (sequence : Int) (eventType payload previousHash : String) : Json :=
  .obj [("candidate_id", .str candidateId), ("sequence", .int sequence), ("event_type", .str eventType),
    ("payload", .str payload), ("previous_hash", .str previousHash)]

def Signer.sign (candidateId : String) (sequence : Int) (eventType payload previousHash : String) : String × String :=
  let recordHash := signer.platform.digests.sha256
    (dumps .compactUnicode signer.platform.numbers (material candidateId sequence eventType payload previousHash))
  (recordHash, signer.platform.digests.hmac signer.key recordHash)

def Signer.verify (record : AuditRecord) : Except AuditFault Unit :=
  let expected := signer.sign record.candidateId record.sequence record.eventType record.payload record.previousHash
  if record.recordHash ≠ expected.1 then .error (.hashMismatch record.candidateId record.sequence)
  else if record.signature ≠ expected.2 then .error (.signatureMismatch record.candidateId record.sequence)
  else .ok ()

/-- The loop of `verify_chain`, from what it expects of the next record. -/
def verifyFrom (expectedPrevious : String) (expectedSequence : Int) : List AuditRecord → Except AuditFault Unit
  | [] => .ok ()
  | record :: rest =>
      if record.sequence ≠ expectedSequence then .error (.sequenceGap record.candidateId record.sequence)
      else if record.previousHash ≠ expectedPrevious then
        .error (.predecessorMismatch record.candidateId record.sequence)
      else
        match signer.verify record with
        | .error fault => .error fault
        | .ok _ => verifyFrom record.recordHash (expectedSequence + 1) rest

def verifyChain (records : List AuditRecord) : Except AuditFault Unit := verifyFrom signer "" 1 records

/-- What pydantic does with an event: its class name, `model_dump(mode="json")`, and
`model_validate` of a payload by the class of a name. -/
structure EventCodec (Event : Type) where
  name : Event → String
  dump : Event → Json
  validate : String → Json → Option Event

/-- `_EVENT_TYPES`. -/
def eventTypes : List String :=
  ["GovernanceDecisionMade", "GateEvaluated", "CertificationGranted", "CertificationRevoked", "CouncilUpdated",
    "GateRegistered", "PolicyRegistered"]

variable {Event : Type} (codec : EventCodec Event) (platform : Platform)

def dumpEvent (event : Event) : String :=
  dumps .compact platform.numbers (.obj [("type", .str (codec.name event)), ("payload", codec.dump event)])

/-- What reading the store raises. -/
inductive StoreFault where
  | audit (fault : AuditFault)
  | countMismatch
  | unknownType (eventType : Option Json)
  | malformed
  deriving Inhabited

def loadEvent (raw : String) : Except StoreFault Event :=
  match loads platform.numbers raw with
  | some (.dict record) =>
      match OrderedMap.get record "type" with
      | some (.atom (.str eventType)) =>
          if eventType ∈ eventTypes then
            match (OrderedMap.get record "payload").bind (codec.validate eventType) with
            | some event => .ok event
            | none => .error .malformed
          else .error (.unknownType (some (.str eventType)))
      | other => .error (.unknownType other)
  | _ => .error .malformed

/-- Events survive their own dump, and only events of the listed classes are appended. -/
structure Faithful : Prop where
  known : ∀ event, codec.name event ∈ eventTypes
  distinct : ∀ event, Distinct (codec.dump event)
  roundTrip : ∀ event, codec.validate (codec.name event) (sortKeys (codec.dump event)) = some event

end

/-- A row of `governance_events`. -/
structure EventRow where
  candidateId : String
  eventType : String
  payload : String
  deriving DecidableEq

/-- The tables `governance_events` and `governance_audit`. -/
structure Database where
  events : List EventRow := []
  audit : List AuditRecord := []
  deriving DecidableEq

def bySequence (left right : AuditRecord) : Prop := left.sequence ≤ right.sequence

instance : DecidableRel bySequence := fun left right => inferInstanceAs (Decidable (left.sequence ≤ right.sequence))

/-- The audit rows of a candidate, `ORDER BY sequence ASC`. -/
def Database.records (database : Database) (candidateId : String) : List AuditRecord :=
  (database.audit.filter fun record => record.candidateId == candidateId).insertionSort bySequence

def Database.eventCount (database : Database) (candidateId : String) : Nat :=
  (database.events.filter fun row => row.candidateId == candidateId).length

/-- The first row `ORDER BY sequence DESC`. -/
def Database.tail (database : Database) (candidateId : String) : Option (Int × String) :=
  (database.records candidateId).getLast?.map fun record => (record.sequence, record.recordHash)

/-- What an append inserts: an event type and its payload for each event. -/
abbrev Entry := String × String

/-- The rows of the loop in `append`. -/
def signedRows (signer : Signer) (candidateId : String) (sequence : Int) (previousHash : String) :
    List Entry → List AuditRecord
  | [] => []
  | (eventType, payload) :: rest =>
      let signed := signer.sign candidateId sequence eventType payload previousHash
      ⟨candidateId, sequence, eventType, payload, previousHash, signed.1, signed.2⟩ ::
        signedRows signer candidateId (sequence + 1) signed.1 rest

def rowsAfter (signer : Signer) (candidateId : String) (tail : Option (Int × String)) (entries : List Entry) :
    List AuditRecord :=
  match tail with
  | some (sequence, recordHash) => signedRows signer candidateId (sequence + 1) recordHash entries
  | none => signedRows signer candidateId 1 "" entries

def eventRows (candidateId : String) (entries : List Entry) : List EventRow :=
  entries.map fun entry => ⟨candidateId, entry.1, entry.2⟩

/-- `UNIQUE(candidate_id, sequence)`. -/
def Database.conflicts (database : Database) (rows : List AuditRecord) : Bool :=
  rows.any fun row => database.audit.any fun held =>
    held.candidateId == row.candidateId && held.sequence == row.sequence

/-- The inserts of one append with the tail that it has read: all of them or none. -/
def Database.insert (database : Database) (signer : Signer) (candidateId : String) (tail : Option (Int × String))
    (entries : List Entry) : Option Database :=
  let rows := rowsAfter signer candidateId tail entries
  if database.conflicts rows then none
  else some { events := database.events ++ eventRows candidateId entries, audit := database.audit ++ rows }

variable {Event : Type} (codec : EventCodec Event) (signer : Signer)

/-- `_dump_event` and the class name of an event. -/
def entryOf (event : Event) : Entry := (codec.name event, dumpEvent codec signer.platform event)

def Database.checked (database : Database) (candidateId : String) : Except StoreFault (List AuditRecord) :=
  let records := database.records candidateId
  if records.length ≠ database.eventCount candidateId then .error .countMismatch
  else
    match verifyChain signer records with
    | .error fault => .error (.audit fault)
    | .ok _ => .ok records

def loadAll : List AuditRecord → Except StoreFault (List Event)
  | [] => .ok []
  | record :: rest =>
      match loadEvent codec signer.platform record.payload with
      | .error fault => .error fault
      | .ok event => (loadAll rest).map fun events => event :: events

/-- `audit`. -/
def audit (database : Database) (candidateId : String) : Except StoreFault (List AuditRecord) :=
  database.checked signer candidateId

def load (database : Database) (candidateId : String) : Except StoreFault (List Event) :=
  match audit signer database candidateId with
  | .error fault => .error fault
  | .ok records => loadAll codec signer records

/-- An append that has read its tail and has not committed. -/
structure Transaction (Event : Type) where
  candidateId : String
  events : List Event
  tail : Option (Int × String)

/-- The tables, the transactions in flight, and the appends that have committed. -/
structure Store (Event : Type) where
  database : Database := {}
  transactions : List (Transaction Event) := []
  committed : List (String × List Event) := []

inductive Action (Event : Type) where
  | read (candidateId : String) (events : List Event)
  | commit (index : Nat)

def step (store : Store Event) : Action Event → Option (Store Event)
  -- `append` of no events does nothing
  | .read _ [] => some store
  | .read candidateId events =>
      some { store with
        transactions := store.transactions ++ [⟨candidateId, events, store.database.tail candidateId⟩] }
  | .commit index =>
      match store.transactions[index]? with
      | none => none
      | some transaction =>
          match store.database.insert signer transaction.candidateId transaction.tail
              (transaction.events.map (entryOf codec signer)) with
          | some database =>
              some { database, transactions := store.transactions.eraseIdx index,
                     committed := store.committed ++ [(transaction.candidateId, transaction.events)] }
          | none => some { store with transactions := store.transactions.eraseIdx index }

/-- The events of the committed appends to a candidate, in commit order. -/
def committedTo (committed : List (String × List Event)) (candidateId : String) : List Event :=
  committed.flatMap fun append => if append.1 = candidateId then append.2 else []

end AutonomousApi.GovernanceStore
