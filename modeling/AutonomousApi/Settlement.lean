import AutonomousApi.RecordTable
import AutonomousApi.Runs
import Mathlib.Data.Rat.Floor

/-! The settlement engine of product_factory/marketplace_settlement: an idempotent ledger of financial
events (ledger.py), batches of its entries that are approved and paid out (settlement.py) and the
reconciliation of events against entries (reconciliation.py). Amounts are exact. Generated ids, the
clock, what governance answers and what the settlement adapter does come with the call. -/

namespace AutonomousApi.Settlement

open RecordTable

inductive FinancialEventType where
  | paymentCaptured | paymentFailed | refundIssued | refundFailed | feeCharged | taxCharged | chargebackOpened
  | adjustment | payoutRequested | payoutCompleted
  deriving DecidableEq

def FinancialEventType.value : FinancialEventType → String
  | paymentCaptured => "PAYMENT_CAPTURED"
  | paymentFailed => "PAYMENT_FAILED"
  | refundIssued => "REFUND_ISSUED"
  | refundFailed => "REFUND_FAILED"
  | feeCharged => "FEE_CHARGED"
  | taxCharged => "TAX_CHARGED"
  | chargebackOpened => "CHARGEBACK_OPENED"
  | adjustment => "ADJUSTMENT"
  | payoutRequested => "PAYOUT_REQUESTED"
  | payoutCompleted => "PAYOUT_COMPLETED"

inductive LedgerEntryType where
  | credit | debit | fee | tax | adjustment | settlement
  deriving DecidableEq

def LedgerEntryType.value : LedgerEntryType → String
  | credit => "CREDIT"
  | debit => "DEBIT"
  | fee => "FEE"
  | tax => "TAX"
  | adjustment => "ADJUSTMENT"
  | settlement => "SETTLEMENT"

/-- `payloadAmount` is the `signed_amount` of the payload, if it has one, as `float` reads it; `float`
raises where it is `some none`. -/
structure FinancialEvent (Time : Type) where
  id : String
  idempotencyKey : String
  eventType : FinancialEventType
  marketplaceId : String
  tenantId : String
  orderId : Option String := none
  amount : Rat := 0
  currency : String := "USD"
  payloadAmount : Option (Option Rat) := none
  occurredAt : Time
  deriving DecidableEq

structure LedgerEntry (Time : Type) where
  id : String
  eventId : Option String
  idempotencyKey : String
  entryType : LedgerEntryType
  marketplaceId : String
  tenantId : String
  orderId : Option String := none
  amount : Rat
  currency : String
  createdAt : Time
  deriving DecidableEq

inductive SettlementStatus where
  | draft | pendingGovernance | approved | settling | settled | failed | reversed
  deriving DecidableEq

structure SettlementBatch (Time : Type) where
  id : String
  marketplaceId : String
  tenantId : String
  currency : String
  periodStart : Time
  periodEnd : Time
  grossAmount : Rat := 0
  refundAmount : Rat := 0
  feeAmount : Rat := 0
  taxAmount : Rat := 0
  netAmount : Rat := 0
  entryIds : List String := []
  status : SettlementStatus := .draft
  governanceRef : Option String := none
  providerRef : Option String := none
  createdAt : Time
  executedAt : Option Time := none
  deriving DecidableEq

structure PayoutInstruction where
  settlementBatchId : String
  participantId : String
  amount : Rat
  currency : String
  status : String := "CREATED"
  providerRef : Option String := none
  deriving DecidableEq

structure SettlementPolicy where
  requireGovernanceForSettlement : Bool := true
  allowNegativeSettlement : Bool := false
  allowNegativeBalances : Bool := false
  minSettlementAmount : Rat := 0
  maxBatchEntries : Nat := 5000

inductive MismatchType where
  | missingLedgerEntry | orphanLedgerEntry | negativeBalance
  deriving DecidableEq

def MismatchType.text : MismatchType → String
  | missingLedgerEntry => "MISSING_LEDGER_ENTRY"
  | orphanLedgerEntry => "ORPHAN_LEDGER_ENTRY"
  | negativeBalance => "NEGATIVE_BALANCE"

/-- Every mismatch that is built has severity HIGH. -/
structure ReconciliationMismatch where
  id : String
  marketplaceId : String
  mismatchType : MismatchType
  entityId : String
  expected : String
  observed : String
  details : List (String × String)
  resolved : Bool := false
  resolvedBy : Option String := none
  deriving DecidableEq

/-- A report names the open mismatches; `failed` is status FAIL, the only other one is OK. -/
structure ReconciliationReport (Time : Type) where
  marketplaceId : String
  periodStart : Time
  periodEnd : Time
  failed : Bool
  mismatchIds : List String
  deriving DecidableEq

inductive Verdict where
  | allow | deny | requireApproval
  deriving DecidableEq

structure GovernanceDecision where
  decision : Verdict
  reason : String := ""
  approvalRef : Option String := none
  deriving DecidableEq

inductive SettlementError where
  | unreadableAmount
  | noUnsettledEntries
  | tooManyEntries
  | belowMinimum
  | batchNotFound (batchId : String)
  | notApprovable
  | gatewayRequired
  | gatewayRaised
  | approvalDenied (reason : String)
  | notApproved
  | blockedByMismatches
  | blockedByReport
  | adapterMissing
  | executionFailed (reason : String)
  | mismatchNotFound (mismatchId : String)
  deriving DecidableEq

def SettlementError.message : SettlementError → String
  | unreadableAmount => ""
  | noUnsettledEntries => "No unsettled ledger entries found for period."
  | tooManyEntries => "Settlement batch exceeds maximum entry count."
  | belowMinimum => "Settlement amount is below minimum threshold."
  | batchNotFound batchId => "Settlement batch not found: " ++ batchId
  | notApprovable => "Settlement batch cannot be approved."
  | gatewayRequired => "Governance gateway is required for settlement approval."
  | gatewayRaised => ""
  | approvalDenied reason => "Settlement approval denied: " ++ reason
  | notApproved => "Settlement batch must be approved before execution."
  | blockedByMismatches => "Settlement blocked by unresolved reconciliation mismatches."
  | blockedByReport => "Settlement blocked because latest reconciliation failed."
  | adapterMissing => "Settlement adapter is not configured."
  | executionFailed reason => "Settlement execution failed: " ++ reason
  | mismatchNotFound mismatchId => "Mismatch not found: " ++ mismatchId

/-- The nearest integer, the even one of two. -/
def roundHalfEven (value : Rat) : Int :=
  let below := value.floor
  let rest := value - below
  if rest < 1 / 2 then below
  else if 1 / 2 < rest then below + 1
  else if below % 2 = 0 then below else below + 1

/-- `round(value, 2)`. -/
def round2 (value : Rat) : Rat := roundHalfEven (value * 100) / 100

/-- A whole number of cents. -/
def Cents (value : Rat) : Prop := ∃ cents : Int, value = cents / 100

theorem round2_cents {value : Rat} (whole : Cents value) : round2 value = value := by
  obtain ⟨cents, rfl⟩ := whole
  have scaled : (cents : Rat) / 100 * 100 = cents := Rat.div_mul_cancel (by decide)
  rw [round2, scaled, roundHalfEven, Rat.floor_intCast]
  simp

/-- `MarketplaceSettlementEngine`: the ledger, the batches with their payouts and the reconciliation. -/
structure Engine (Time : Type) where
  events : List (FinancialEvent Time) := []
  entries : List (LedgerEntry Time) := []
  idempotencyKeys : List String := []
  batches : List (SettlementBatch Time) := []
  payouts : List PayoutInstruction := []
  settledEntryIds : List String := []
  mismatches : List ReconciliationMismatch := []
  reports : List (ReconciliationReport Time) := []
  deriving DecidableEq

/-- `gateway` and `adapter` say which of the two is configured; `moneyText` is `str` of an amount. -/
structure Config where
  policy : SettlementPolicy := {}
  gateway : Bool := true
  adapter : Bool := true
  moneyText : Rat → String

section

variable {Time : Type}

def entryTypeForEvent : FinancialEventType → Option LedgerEntryType
  | .paymentCaptured => some .credit
  | .refundIssued | .chargebackOpened | .payoutCompleted => some .debit
  | .feeCharged => some .fee
  | .taxCharged => some .tax
  | .adjustment => some .adjustment
  | .paymentFailed | .refundFailed | .payoutRequested => none

/-- `_signed_amount`; it raises where this is `none`. -/
def signedAmount (event : FinancialEvent Time) : Option Rat :=
  match event.eventType with
  | .paymentCaptured => some event.amount
  | .refundIssued | .chargebackOpened | .feeCharged | .taxCharged | .payoutCompleted => some (-event.amount)
  | .adjustment => event.payloadAmount.getD (some event.amount)
  | .paymentFailed | .refundFailed | .payoutRequested => some 0

def entryFor (event : FinancialEvent Time) (entryType : LedgerEntryType) (amount : Rat) (entryId : String)
    (now : Time) :
    LedgerEntry Time :=
  { id := entryId, eventId := some event.id, idempotencyKey := event.idempotencyKey, entryType,
    marketplaceId := event.marketplaceId, tenantId := event.tenantId, orderId := event.orderId, amount,
    currency := event.currency, createdAt := now }

def ingestEvent (engine : Engine Time) (event : FinancialEvent Time) (entryId : String) (now : Time) :
    Engine Time × Except SettlementError (Option (LedgerEntry Time)) :=
  if event.idempotencyKey ∈ engine.idempotencyKeys then (engine, .ok none)
  else
    match entryTypeForEvent event.eventType with
    | none => (engine, .ok none)
    | some entryType =>
        match signedAmount event with
        | none => (engine, .error .unreadableAmount)
        | some amount =>
            let entry := entryFor event entryType amount entryId now
            ({ engine with
                events := engine.events ++ [event], entries := engine.entries ++ [entry],
                idempotencyKeys := event.idempotencyKey :: engine.idempotencyKeys }, .ok (some entry))

variable [LinearOrder Time]

def Within (periodStart periodEnd time : Time) : Prop := periodStart ≤ time ∧ time ≤ periodEnd

instance (periodStart periodEnd time : Time) : Decidable (Within periodStart periodEnd time) :=
  inferInstanceAs (Decidable (_ ∧ _))

def entriesForPeriod (engine : Engine Time) (marketplaceId : String) (periodStart periodEnd : Time)
    (tenantId : Option String) : List (LedgerEntry Time) :=
  engine.entries.filter fun entry =>
    -- an empty tenant id asks for every tenant
    entry.marketplaceId = marketplaceId ∧ (tenantId.getD "" = "" ∨ some entry.tenantId = tenantId) ∧
      Within periodStart periodEnd entry.createdAt

/-- The sum of the entries of a tenant in a currency, before rounding. -/
def ledgerTotal (engine : Engine Time) (marketplaceId tenantId currency : String) : Rat :=
  ((engine.entries.filter fun entry =>
    entry.marketplaceId = marketplaceId ∧ entry.tenantId = tenantId ∧ entry.currency = currency).map
      LedgerEntry.amount).sum

def balance (engine : Engine Time) (marketplaceId tenantId currency : String) : Rat :=
  round2 (ledgerTotal engine marketplaceId tenantId currency)

end

section

variable {Time : Type} [LinearOrder Time] (config : Config)

/-- The entries that a batch is made of. -/
def unsettledEntries (engine : Engine Time) (marketplaceId tenantId currency : String) (periodStart periodEnd : Time) :
    List (LedgerEntry Time) :=
  (entriesForPeriod engine marketplaceId periodStart periodEnd (some tenantId)).filter fun entry =>
    entry.id ∉ engine.settledEntryIds ∧ entry.currency = currency

def amountsOf (entryType : LedgerEntryType) (entries : List (LedgerEntry Time)) : List Rat :=
  (entries.filter fun entry => entry.entryType = entryType).map LedgerEntry.amount

/-- The batch of some entries; a negative one is failed from the start, unless the policy allows it. -/
def newBatch (entries : List (LedgerEntry Time)) (marketplaceId tenantId currency : String)
    (periodStart periodEnd : Time) (batchId : String) (now : Time) : SettlementBatch Time :=
  let netAmount := round2 (entries.map LedgerEntry.amount).sum
  { id := batchId, marketplaceId, tenantId, currency, periodStart, periodEnd,
    grossAmount := round2 (amountsOf .credit entries).sum,
    refundAmount := round2 ((amountsOf .debit entries).map abs).sum,
    feeAmount := round2 ((amountsOf .fee entries).map abs).sum,
    taxAmount := round2 ((amountsOf .tax entries).map abs).sum,
    netAmount, entryIds := entries.map LedgerEntry.id,
    status := if netAmount < 0 ∧ config.policy.allowNegativeSettlement = false then .failed else .draft,
    createdAt := now }

def createBatch (engine : Engine Time) (marketplaceId tenantId currency : String) (periodStart periodEnd : Time)
    (batchId : String) (now : Time) : Engine Time × Except SettlementError (SettlementBatch Time) :=
  let entries := unsettledEntries engine marketplaceId tenantId currency periodStart periodEnd
  if entries = [] then (engine, .error .noUnsettledEntries)
  else if config.policy.maxBatchEntries < entries.length then (engine, .error .tooManyEntries)
  else if round2 (entries.map LedgerEntry.amount).sum < config.policy.minSettlementAmount then
    (engine, .error .belowMinimum)
  else
    let batch := newBatch config entries marketplaceId tenantId currency periodStart periodEnd batchId now
    ({ engine with batches := put SettlementBatch.id engine.batches batch }, .ok batch)

def getBatch (engine : Engine Time) (batchId : String) : Option (SettlementBatch Time) :=
  find SettlementBatch.id engine.batches batchId

def saveBatch (engine : Engine Time) (batch : SettlementBatch Time) : Engine Time :=
  { engine with batches := put SettlementBatch.id engine.batches batch }

/-- `approve_settlement`; the gateway raises where its answer is `none`. -/
def approveSettlement (engine : Engine Time) (batchId : String) (approvalRef : Option String)
    (answer : Option GovernanceDecision) : Engine Time × Except SettlementError (SettlementBatch Time) :=
  match getBatch engine batchId with
  | none => (engine, .error (.batchNotFound batchId))
  | some batch =>
      if batch.status = .draft ∨ batch.status = .pendingGovernance then
        if config.policy.requireGovernanceForSettlement then
          if config.gateway then
            match answer with
            | none => (engine, .error .gatewayRaised)
            | some decision =>
                match decision.decision with
                | .deny => (saveBatch engine { batch with status := .failed }, .error (.approvalDenied decision.reason))
                | .requireApproval =>
                    let pending :=
                      { batch with status := .pendingGovernance, governanceRef := decision.approvalRef }
                    (saveBatch engine pending, .ok pending)
                | .allow =>
                    -- an empty reference is as good as none
                    let reference := if decision.approvalRef.getD "" = "" then approvalRef else decision.approvalRef
                    let approved := { batch with governanceRef := reference, status := .approved }
                    (saveBatch engine approved, .ok approved)
          else (engine, .error .gatewayRequired)
        else (saveBatch engine { batch with status := .approved }, .ok { batch with status := .approved })
      else (engine, .error .notApprovable)

def hasBlockingMismatches (engine : Engine Time) (marketplaceId : String) : Bool :=
  engine.mismatches.any fun mismatch => mismatch.marketplaceId = marketplaceId ∧ mismatch.resolved = false

def latestReport (engine : Engine Time) (marketplaceId : String) : Option (ReconciliationReport Time) :=
  engine.reports.reverse.find? fun report => report.marketplaceId = marketplaceId

/-- The checks of `execute_settlement` before the adapter is called. -/
def executable (engine : Engine Time) (batchId : String) : Except SettlementError (SettlementBatch Time) :=
  match getBatch engine batchId with
  | none => .error (.batchNotFound batchId)
  | some batch =>
      if batch.status ≠ .approved then .error .notApproved
      else if hasBlockingMismatches engine batch.marketplaceId then .error .blockedByMismatches
      else if (latestReport engine batch.marketplaceId).any ReconciliationReport.failed then .error .blockedByReport
      else if config.adapter then .ok batch else .error .adapterMissing

def settlementEntry (batch : SettlementBatch Time) (entryId : String) (now : Time) : LedgerEntry Time :=
  { id := entryId, eventId := some batch.id, idempotencyKey := "settlement:" ++ batch.id, entryType := .settlement,
    marketplaceId := batch.marketplaceId, tenantId := batch.tenantId, amount := -batch.netAmount,
    currency := batch.currency, createdAt := now }

/-- A batch without a net amount writes no entry, and its entries do not count as settled. -/
def offset (engine : Engine Time) (batch : SettlementBatch Time) (entryId : String) (now : Time) : Engine Time :=
  if batch.netAmount = 0 then engine
  else { engine with
    entries := engine.entries ++ [settlementEntry batch entryId now],
    idempotencyKeys := ("settlement:" ++ batch.id) :: engine.idempotencyKeys,
    settledEntryIds := engine.settledEntryIds ++ batch.entryIds }

def SettlementBatch.paid (batch : SettlementBatch Time) (providerRef : String) : SettlementBatch Time :=
  { batch with
    status := .settled, providerRef := some providerRef,
    executedAt := some (batch.executedAt.getD batch.createdAt) }

def payoutFor (batch : SettlementBatch Time) (providerRef : String) : PayoutInstruction :=
  { settlementBatchId := batch.id, participantId := batch.tenantId, amount := batch.netAmount,
    currency := batch.currency, status := "COMPLETED", providerRef := some providerRef }

/-- What is written once the adapter has paid. -/
def settle (engine : Engine Time) (batch : SettlementBatch Time) (providerRef entryId : String) (now : Time) :
    Engine Time :=
  let written := offset engine batch entryId now
  saveBatch { written with payouts := written.payouts ++ [payoutFor batch providerRef] } (batch.paid providerRef)

/-- `execute_settlement`; the adapter gives its reference or raises. -/
def executeSettlement (engine : Engine Time) (batchId : String) (adapter : Except String String) (entryId : String)
    (now : Time) : Engine Time × Except SettlementError (SettlementBatch Time) :=
  match executable config engine batchId with
  | .error error => (engine, .error error)
  | .ok batch =>
      match adapter with
      | .error reason => (saveBatch engine { batch with status := .failed }, .error (.executionFailed reason))
      | .ok providerRef => (settle engine batch providerRef entryId now, .ok (batch.paid providerRef))

end

section

variable {Time : Type} [LinearOrder Time] (config : Config)

def buildMismatch (marketplaceId : String) (mismatchType : MismatchType) (entityId expected observed : String)
    (details : List (String × String)) : ReconciliationMismatch :=
  { id := "mismatch:" ++ marketplaceId ++ ":" ++ mismatchType.text ++ ":" ++
      (if entityId = "" then "unknown" else entityId),
    marketplaceId, mismatchType, entityId, expected, observed, details }

/-- An event that `LEDGER_REQUIRED_EVENTS` lists; these are the ones with an entry type. -/
def ledgerRequired (event : FinancialEvent Time) : Bool := (entryTypeForEvent event.eventType).isSome

def eventsForPeriod (engine : Engine Time) (marketplaceId : String) (periodStart periodEnd : Time) :
    List (FinancialEvent Time) :=
  engine.events.filter fun event =>
    event.marketplaceId = marketplaceId ∧ Within periodStart periodEnd event.occurredAt

/-- The events without an entry of theirs; an empty event id is never found. -/
def missingEntries (marketplaceId : String) (events : List (FinancialEvent Time)) (entries : List (LedgerEntry Time)) :
    List ReconciliationMismatch :=
  (events.filter fun event => ledgerRequired event ∧
      ¬ ∃ entry ∈ entries, entry.eventId = some event.id ∧ event.id ≠ "").map fun event =>
    buildMismatch marketplaceId .missingLedgerEntry event.id "ledger_entry" "missing"
      [("event_type", event.eventType.value), ("idempotency_key", event.idempotencyKey)]

/-- The entries that name an event which is not among the events. -/
def orphanEntries (marketplaceId : String) (events : List (FinancialEvent Time)) (entries : List (LedgerEntry Time)) :
    List ReconciliationMismatch :=
  (entries.filter fun entry => entry.eventId.getD "" ≠ "" ∧
      ¬ ∃ event ∈ events, some event.id = entry.eventId).map fun entry =>
    buildMismatch marketplaceId .orphanLedgerEntry entry.id "financial_event" "missing"
      [("entry_type", entry.entryType.value), ("idempotency_key", entry.idempotencyKey)]

/-- The loop of `_balances_by_tenant`; every addition is rounded. -/
def balancesLoop (marketplaceId : String) : List ((String × String) × Rat) → List (LedgerEntry Time) →
    List ((String × String) × Rat)
  | balances, [] => balances
  | balances, entry :: rest =>
      if entry.marketplaceId = marketplaceId then
        let key := (entry.tenantId, entry.currency)
        let before := ((find Prod.fst balances key).map Prod.snd).getD 0
        balancesLoop marketplaceId (put Prod.fst balances (key, round2 (before + entry.amount))) rest
      else balancesLoop marketplaceId balances rest

def balancesByTenant (engine : Engine Time) (marketplaceId : String) : List ((String × String) × Rat) :=
  balancesLoop marketplaceId [] engine.entries

def negativeBalances (engine : Engine Time) (marketplaceId : String) : List ReconciliationMismatch :=
  ((balancesByTenant engine marketplaceId).filter fun balance =>
      balance.2 < 0 ∧ config.policy.allowNegativeBalances = false).map fun balance =>
    buildMismatch marketplaceId .negativeBalance (balance.1.1 ++ ":" ++ balance.1.2) ">=0" (config.moneyText balance.2)
      [("tenant_id", balance.1.1), ("currency", balance.1.2)]

/-- A mismatch that is known under its id stays as it is. -/
def recordMismatches (mismatches : List ReconciliationMismatch) : List ReconciliationMismatch →
    List ReconciliationMismatch
  | [] => mismatches
  | mismatch :: rest =>
      if mismatch.id ∈ mismatches.map ReconciliationMismatch.id then recordMismatches mismatches rest
      else recordMismatches (mismatches ++ [mismatch]) rest

def newMismatches (engine : Engine Time) (marketplaceId : String) (periodStart periodEnd : Time) :
    List ReconciliationMismatch :=
  let entries := entriesForPeriod engine marketplaceId periodStart periodEnd none
  let events := eventsForPeriod engine marketplaceId periodStart periodEnd
  missingEntries marketplaceId events entries ++ orphanEntries marketplaceId events entries ++
    negativeBalances config engine marketplaceId

/-- `ReconciliationEngine.run`. -/
def reconcile (engine : Engine Time) (marketplaceId : String) (periodStart periodEnd : Time) :
    Engine Time × ReconciliationReport Time :=
  let mismatches := recordMismatches engine.mismatches
    (newMismatches config engine marketplaceId periodStart periodEnd)
  let opened := mismatches.filter fun mismatch => mismatch.marketplaceId = marketplaceId ∧ mismatch.resolved = false
  let report : ReconciliationReport Time :=
    { marketplaceId, periodStart, periodEnd, failed := !opened.isEmpty, mismatchIds := opened.map (·.id) }
  ({ engine with mismatches, reports := engine.reports ++ [report] }, report)

def resolveMismatch (engine : Engine Time) (mismatchId actorId notes : String) :
    Engine Time × Except SettlementError ReconciliationMismatch :=
  match find ReconciliationMismatch.id engine.mismatches mismatchId with
  | none => (engine, .error (.mismatchNotFound mismatchId))
  | some mismatch =>
      let done := { mismatch with
        resolved := true, resolvedBy := some actorId,
        details := put Prod.fst mismatch.details ("resolution_notes", notes) }
      ({ engine with mismatches := put ReconciliationMismatch.id engine.mismatches done }, .ok done)

end

variable {Time : Type} [LinearOrder Time] (config : Config)

inductive Command (Time : Type) where
  | ingest (event : FinancialEvent Time) (entryId : String) (now : Time)
  | create (marketplaceId tenantId currency : String) (periodStart periodEnd : Time) (batchId : String) (now : Time)
  | approve (batchId : String) (approvalRef : Option String) (answer : Option GovernanceDecision)
  | execute (batchId : String) (adapter : Except String String) (entryId : String) (now : Time)
  | reconcile (marketplaceId : String) (periodStart periodEnd : Time)
  | resolve (mismatchId actorId notes : String)

/-- The engine after a call, and whether the call raised. -/
def perform (engine : Engine Time) : Command Time → Engine Time × Option SettlementError
  | .ingest event entryId now =>
      let done := ingestEvent engine event entryId now
      (done.1, match done.2 with | .error error => some error | .ok _ => none)
  | .create marketplaceId tenantId currency periodStart periodEnd batchId now =>
      let done := createBatch config engine marketplaceId tenantId currency periodStart periodEnd batchId now
      (done.1, match done.2 with | .error error => some error | .ok _ => none)
  | .approve batchId approvalRef answer =>
      let done := approveSettlement config engine batchId approvalRef answer
      (done.1, match done.2 with | .error error => some error | .ok _ => none)
  | .execute batchId adapter entryId now =>
      let done := executeSettlement config engine batchId adapter entryId now
      (done.1, match done.2 with | .error error => some error | .ok _ => none)
  | .reconcile marketplaceId periodStart periodEnd =>
      ((reconcile config engine marketplaceId periodStart periodEnd).1, none)
  | .resolve mismatchId actorId notes =>
      let done := resolveMismatch engine mismatchId actorId notes
      (done.1, match done.2 with | .error error => some error | .ok _ => none)

/-- The generated ids are new. -/
def Fresh (engine : Engine Time) : Command Time → Prop
  | .ingest _ entryId _ | .execute _ _ entryId _ => entryId ∉ engine.entries.map LedgerEntry.id
  | .create _ _ _ _ _ batchId _ => batchId ∉ engine.batches.map SettlementBatch.id
  | _ => True

instance (engine : Engine Time) (command : Command Time) : Decidable (Fresh engine command) := by
  cases command <;> unfold Fresh <;> infer_instance

def step (engine : Engine Time) (command : Command Time) : Option (Engine Time) :=
  if Fresh engine command then some (perform config engine command).1 else none

end AutonomousApi.Settlement
