import AutonomousApi.HashChain
import AutonomousApi.JsonCodec
import AutonomousApi.PythonText

/-! Evidence of evolution transactions (app/engine/transaction_evidence.py) and the hash chain
of its records (transaction_evidence_chain.py). A record is digested when it is made and again
when it is verified; the two payloads are written in different places of the source. The
verification copies a mapping that materialization may leave absent, and raises there. -/

namespace AutonomousApi.TransactionEvidence

open DataTree JsonValue JsonCodec PythonLiteral PythonText FailFast

/-- A Python mapping with JSON values. -/
structure Mapping where
  entries : List (String × Json)
  distinct : Distinct (.dict entries : Json)

def Mapping.json (mapping : Mapping) : Json := .dict mapping.entries

def texts (items : List String) : Json := .list (items.map Json.str)

def optionalText : Option String → Json
  | none => .null
  | some text => .str text

def mappings (rows : List Mapping) : Json := .list (rows.map Mapping.json)

def optionalMapping : Option Mapping → Json
  | none => .null
  | some mapping => mapping.json

@[simp] theorem distinct_atom (value : JsonAtom) : Distinct (.atom value : Json) := by rw [Distinct]; trivial

@[simp] theorem distinct_texts (items : List String) : Distinct (texts items) := by
  simp [texts, Distinct, distinctItems_iff]

@[simp] theorem distinct_optionalText (text : Option String) : Distinct (optionalText text) := by
  cases text <;> exact distinct_atom _

@[simp] theorem distinct_json (mapping : Mapping) : Distinct mapping.json := mapping.distinct

@[simp] theorem distinct_mappings (rows : List Mapping) : Distinct (mappings rows) := by
  simp [mappings, Distinct, distinctItems_iff]

@[simp] theorem distinct_optionalMapping (mapping : Option Mapping) : Distinct (optionalMapping mapping) := by
  cases mapping with
  | none => exact distinct_atom _
  | some mapping => exact mapping.distinct

/-- A literal dictionary of the source. -/
theorem distinct_literal {entries : List (String × Json)} (names : (entries.map Prod.fst).Nodup)
    (values : ∀ entry ∈ entries, Distinct entry.2) : Distinct (.dict entries : Json) :=
  (distinct_dict_iff entries).mpr ⟨names, values⟩

section

/-- The keyword arguments of a record other than its digest. -/
structure Payload where
  schemaVersion : String
  transactionId : String
  sourceEventId : String
  sourceArchitectureId : String
  successorEventId : String
  successorArchitectureId : String
  mutations : List Mapping
  repairReports : List Mapping
  dependencyReports : List Mapping
  measurements : List Mapping
  score : Mapping
  admission : Mapping
  rejection : Option Mapping
  residuals : List String
  evidence : List String
  parentDigest : Option String
  verification : Option Mapping
  capabilityContext : Option Mapping

structure TransactionEvidenceRecord extends Payload where
  digest : String

/-- What the module takes from `json` and `hashlib`. -/
structure Hashing where
  numbers : NumberText JsonFloat
  sha256 : String → String

variable (hashing : Hashing)

def digestOf (payload : Json) : String := hashing.sha256 (dumps .compact hashing.numbers payload)

def Payload.entries (payload : Payload) : List (String × Json) :=
  [("schema_version", .str payload.schemaVersion), ("transaction_id", .str payload.transactionId),
    ("source_event_id", .str payload.sourceEventId), ("source_architecture_id", .str payload.sourceArchitectureId),
    ("successor_event_id", .str payload.successorEventId),
    ("successor_architecture_id", .str payload.successorArchitectureId), ("mutations", mappings payload.mutations),
    ("repair_reports", mappings payload.repairReports), ("dependency_reports", mappings payload.dependencyReports),
    ("measurements", mappings payload.measurements), ("score", payload.score.json),
    ("admission", payload.admission.json),
    ("rejection", optionalMapping payload.rejection), ("residuals", texts payload.residuals),
    ("evidence", texts payload.evidence), ("parent_digest", optionalText payload.parentDigest),
    ("verification", optionalMapping payload.verification),
    ("capability_context", optionalMapping payload.capabilityContext)]

/-- The payload as `_digest` writes it when a record is made. -/
def Payload.json (payload : Payload) : Json := .dict payload.entries

theorem Payload.distinct (payload : Payload) : Distinct payload.json := by
  refine distinct_literal ?_ (by simp [Payload.entries])
  simp [Payload.entries]

inductive TransactionChainError where
  | duplicateRecordDigest (digest : String)
  | parentDigestMismatch (expected actual : Option String)
  | invalidRecordDigest (transactionId : String)
  /-- `dict(None)`. -/
  | typeError
  deriving DecidableEq

/-- Copies every mapping; only the verification is copied without asking whether it is there. -/
def canonicalPayload (record : TransactionEvidenceRecord) : Except TransactionChainError Json :=
  match record.verification with
  | none => .error .typeError
  | some _ => .ok record.json

def verifyDigest (record : TransactionEvidenceRecord) : Except TransactionChainError Bool := do
  let payload ← canonicalPayload record
  .ok (record.digest == digestOf hashing payload)

def sealed (payload : Payload) : TransactionEvidenceRecord := { payload with digest := digestOf hashing payload.json }

structure AbortEvidenceRecord where
  transactionId : String
  sourceArchitectureId : String
  candidateArchitectureId : String
  reason : String
  attemptedMutations : List String
  verificationEvidence : List String
  residuals : List String

structure DomainChange where
  domain : String
  mutationId : String
  verificationProperties : List String

structure SuccessorEvent where
  eventId : String
  changes : List DomainChange
  architectureId : String
  evidence : List String
  passed : Bool

/-- A repair or a dependent execution, with the evidence of the gates of its report. -/
structure Execution where
  domain : String
  mutationId : String
  passed : Bool
  gates : List (List String)

structure ObservedMeasurement where
  objective : String
  value : JsonFloat
  evidence : List String

structure ArchitectureScore where
  architectureId : String
  values : List (String × JsonFloat)
  evidence : List String
  distinct : (values.map Prod.fst).Nodup

/-- The lineage of an admitted member. -/
structure Lineage where
  architectureId : String
  generation : Int

structure RejectionRecord where
  status : String
  reasons : List String
  frontier : List String

structure CandidateVerification where
  disposition : String
  evidenceDigests : List String
  failedVerifications : List String
  timedOutVerifications : List String
  missingArtifacts : List String

structure Transaction where
  transactionId : String
  sourceEventId : String
  sourceArchitectureId : String
  successor : SuccessorEvent
  repairs : List Execution
  dependencies : List Execution
  closureResiduals : List String
  measurements : List ObservedMeasurement
  score : ArchitectureScore
  admission : Option Lineage := none
  rejection : Option RejectionRecord := none
  counterfactuals : List Mapping := []
  verification : Option CandidateVerification := none
  capabilityContext : Option Mapping := none

def mutationRow (change : DomainChange) : Mapping where
  entries := [("domain", .str change.domain), ("mutation_id", .str change.mutationId),
    ("properties", texts change.verificationProperties)]
  distinct := distinct_literal (by simp) (by simp)

def executionRow (execution : Execution) : Mapping where
  entries := [("domain", .str execution.domain), ("mutation_id", .str execution.mutationId),
    ("passed", .bool execution.passed), ("evidence", texts execution.gates.flatten)]
  distinct := distinct_literal (by simp) (by simp)

def measurementRow (measurement : ObservedMeasurement) : Mapping where
  entries := [("objective", .str measurement.objective), ("value", .float measurement.value),
    ("evidence", texts measurement.evidence)]
  distinct := distinct_literal (by simp) (by simp)

def scoreValues (score : ArchitectureScore) : Json :=
  .dict (score.values.map fun entry => (entry.1, Json.float entry.2))

def scoreRow (score : ArchitectureScore) : Mapping where
  entries := [("architecture_id", .str score.architectureId), ("values", scoreValues score),
    ("evidence", texts score.evidence)]
  distinct := by
    have values : Distinct (scoreValues score) := by
      refine distinct_literal (by simpa [Function.comp_def] using score.distinct) fun entry member => ?_
      obtain ⟨value, -, rfl⟩ := List.mem_map.mp member
      exact distinct_atom _
    exact distinct_literal (by simp) (by simp [values])

def optionalInt : Option Int → Json
  | none => .null
  | some value => .int value

@[simp] theorem distinct_optionalInt (value : Option Int) : Distinct (optionalInt value) := by
  cases value <;> exact distinct_atom _

def admissionRow (admitted : Bool) (architectureId : Option String) (generation : Option Int) : Mapping where
  entries := [("admitted", .bool admitted), ("architecture_id", optionalText architectureId),
    ("generation", optionalInt generation)]
  distinct := distinct_literal (by simp) (by simp)

def rejectionRow (status : String) (reasons frontier : List String) (counterfactuals : List Mapping) : Mapping where
  entries := [("status", .str status), ("reasons", texts reasons), ("frontier", texts frontier),
    ("counterfactuals", mappings counterfactuals)]
  distinct := distinct_literal (by simp) (by simp)

def verificationRow (verification : CandidateVerification) : Mapping where
  entries := [("disposition", .str verification.disposition), ("evidence_digests", texts verification.evidenceDigests),
    ("failed_verifications", texts verification.failedVerifications),
    ("timed_out_verifications", texts verification.timedOutVerifications),
    ("missing_artifacts", texts verification.missingArtifacts)]
  distinct := distinct_literal (by simp) (by simp)

def attemptedRow (mutation : String) : Mapping where
  entries := [("mutation", .str mutation)]
  distinct := distinct_literal (by simp) (by simp)

def abortVerificationRow (evidence : List String) : Mapping where
  entries := [("disposition", .str "ABORTED"), ("evidence_digests", texts evidence)]
  distinct := distinct_literal (by simp) (by simp)

def emptyMapping : Mapping := ⟨[], distinct_literal .nil (by simp)⟩

def schemaVersion : String := "esap.transaction-evidence.v2"

/-- `TransactionEvidenceRecord.from_abort_record`. -/
def fromAbortRecord (record : AbortEvidenceRecord) (parentDigest : Option String) : TransactionEvidenceRecord :=
  sealed hashing {
    schemaVersion
    transactionId := record.transactionId
    sourceEventId := ""
    sourceArchitectureId := record.sourceArchitectureId
    successorEventId := ""
    successorArchitectureId := record.candidateArchitectureId
    mutations := record.attemptedMutations.map attemptedRow
    repairReports := []
    dependencyReports := []
    measurements := []
    score := emptyMapping
    admission := admissionRow false none none
    rejection := some (rejectionRow "ABORTED" [record.reason] [] [])
    residuals := record.residuals
    evidence := record.verificationEvidence
    parentDigest
    verification := some (abortVerificationRow record.verificationEvidence)
    capabilityContext := none }

def materializeTransactionEvidence (transaction : Transaction) (parentDigest : Option String) :
    TransactionEvidenceRecord :=
  sealed hashing {
    schemaVersion
    transactionId := transaction.transactionId
    sourceEventId := transaction.sourceEventId
    sourceArchitectureId := transaction.sourceArchitectureId
    successorEventId := transaction.successor.eventId
    successorArchitectureId := transaction.successor.architectureId
    mutations := transaction.successor.changes.map mutationRow
    repairReports := transaction.repairs.map executionRow
    dependencyReports := transaction.dependencies.map executionRow
    measurements := transaction.measurements.map measurementRow
    score := scoreRow transaction.score
    admission := admissionRow
      (transaction.admission.any fun lineage =>
        transaction.successor.passed && lineage.architectureId == transaction.successor.architectureId)
      (transaction.admission.map Lineage.architectureId) (transaction.admission.map Lineage.generation)
    rejection := transaction.rejection.map fun rejection =>
      rejectionRow rejection.status rejection.reasons rejection.frontier transaction.counterfactuals
    residuals := transaction.closureResiduals.insertionSort (· ≤ ·)
    evidence := sortedSet (transaction.successor.evidence ++ transaction.score.evidence)
    parentDigest
    verification := transaction.verification.map verificationRow
    capabilityContext := transaction.capabilityContext }

end

variable (hashing : Hashing)

/-- The records of a chain, oldest first. -/
abbrev TransactionEvidenceChain := List TransactionEvidenceRecord

def genesisParentDigest : Option String := none

def tipDigest (chain : TransactionEvidenceChain) : Option String :=
  match chain.getLast? with
  | some record => some record.digest
  | none => genesisParentDigest

def append (chain : TransactionEvidenceChain) (record : TransactionEvidenceRecord) :
    Except TransactionChainError TransactionEvidenceChain := do
  require (!chain.any fun existing => existing.digest == record.digest) (.duplicateRecordDigest record.digest)
  require (record.parentDigest == tipDigest chain) (.parentDigestMismatch (tipDigest chain) record.parentDigest)
  let valid ← verifyDigest hashing record
  require valid (.invalidRecordDigest record.transactionId)
  .ok (chain ++ [record])

/-- The loop of `verify`, with the expected parent and the digests seen so far. -/
def verifyFrom (expected : Option String) (seen : List String) : TransactionEvidenceChain →
    Except TransactionChainError Bool
  | [] => .ok true
  | record :: rest =>
      if seen.contains record.digest then .ok false
      else if record.parentDigest ≠ expected then .ok false
      else do
        let valid ← verifyDigest hashing record
        if valid then verifyFrom (some record.digest) (record.digest :: seen) rest else .ok false

def verify (chain : TransactionEvidenceChain) : Except TransactionChainError Bool :=
  verifyFrom hashing genesisParentDigest [] chain

def buildChain (records : List TransactionEvidenceRecord) : Except TransactionChainError TransactionEvidenceChain :=
  foldChecked (append hashing) [] records

end AutonomousApi.TransactionEvidence
