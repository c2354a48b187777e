import AutonomousApi.PythonText
import AutonomousApi.RecordTable
import AutonomousApi.Runs
import Mathlib.Algebra.Order.Ring.Unbundled.Rat

/-! Payments and refunds of product_factory/marketplace_financial_hardening: the ledger with its idempotency
keys (ledger.py), the webhook engine (payments.py), refunds under governance (refunds.py) and the
reconciliation over them (reconciliation.py). Amounts are exact. The provider's adapter, what
governance answers and the generated ids come with the call. -/

namespace AutonomousApi.FinancialHardening

open PythonText RecordTable

/-- The text is there and not empty. -/
def stated (text : Option String) : Prop := text.getD "" ≠ ""

instance (text : Option String) : Decidable (stated text) := inferInstanceAs (Decidable (_ ≠ _))

inductive LedgerEntryType where
  | paymentCaptured | paymentFailed | refundRequested | refundApproved | refundCompleted
  deriving DecidableEq

def LedgerEntryType.value : LedgerEntryType → String
  | paymentCaptured => "PAYMENT_CAPTURED"
  | paymentFailed => "PAYMENT_FAILED"
  | refundRequested => "REFUND_REQUESTED"
  | refundApproved => "REFUND_APPROVED"
  | refundCompleted => "REFUND_COMPLETED"

structure FinancialLedgerEntry where
  ledgerId : String
  marketplaceId : String
  orderId : Option String := none
  listingId : Option String := none
  tenantId : Option String := none
  entryType : LedgerEntryType
  amount : Rat
  currency : String := "USD"
  status : String := "POSTED"
  idempotencyKey : Option String := none
  sourceEventId : Option String := none
  evidenceRef : Option String := none
  deriving DecidableEq

structure Ledger where
  entries : List FinancialLedgerEntry := []
  idempotencyKeys : List String := []
  deriving DecidableEq

/-- `append`; an entry whose key is known is dropped. -/
def Ledger.append (ledger : Ledger) (entry : FinancialLedgerEntry) : Ledger × Bool :=
  if stated entry.idempotencyKey then
    if entry.idempotencyKey.getD "" ∈ ledger.idempotencyKeys then (ledger, false)
    else
      ({ entries := put FinancialLedgerEntry.ledgerId ledger.entries entry,
         idempotencyKeys := entry.idempotencyKey.getD "" :: ledger.idempotencyKeys }, true)
  else ({ ledger with entries := put FinancialLedgerEntry.ledgerId ledger.entries entry }, true)

/-- `report`; no marketplace, or an empty one, asks for all. -/
def Ledger.report (ledger : Ledger) (marketplaceId : Option String) : List FinancialLedgerEntry :=
  ledger.entries.filter fun entry => ¬ stated marketplaceId ∨ some entry.marketplaceId = marketplaceId

/-- The loop of `duplicate_idempotency_keys`. -/
def countKeys : List (String × Nat) → List FinancialLedgerEntry → List (String × Nat)
  | seen, [] => seen
  | seen, entry :: rest =>
      if stated entry.idempotencyKey then
        let key := entry.idempotencyKey.getD ""
        countKeys (put Prod.fst seen (key, ((find Prod.fst seen key).map Prod.snd).getD 0 + 1)) rest
      else countKeys seen rest

def Ledger.duplicateIdempotencyKeys (ledger : Ledger) : List String :=
  ((countKeys [] ledger.entries).filter fun seen => 1 < seen.2).map Prod.fst

inductive PaymentStatus where
  | created | authorized | captured | failed | refunded | partiallyRefunded | cancelled | requiresAction
  deriving DecidableEq

def PaymentStatus.value : PaymentStatus → String
  | created => "CREATED"
  | authorized => "AUTHORIZED"
  | captured => "CAPTURED"
  | failed => "FAILED"
  | refunded => "REFUNDED"
  | partiallyRefunded => "PARTIALLY_REFUNDED"
  | cancelled => "CANCELLED"
  | requiresAction => "REQUIRES_ACTION"

structure PaymentWebhookEnvelope (Payload : Type) where
  provider : String
  providerEventId : String
  idempotencyKey : Option String := none
  signature : Option String := none
  payload : Payload

/-- What `normalize_event` gives; a key that is absent is `none`. -/
structure RawEvent where
  provider : Option String := none
  providerEventId : Option String := none
  rawStatus : Option String := none
  amount : Option Rat := none
  currency : Option String := none
  orderId : Option String := none
  listingId : Option String := none
  tenantId : Option String := none
  marketplaceId : Option String := none
  intentId : Option String := none
  idempotencyKey : Option String := none
  deriving DecidableEq

structure PaymentEvent where
  eventId : String
  intentId : Option String := none
  marketplaceId : String
  orderId : String
  listingId : String
  tenantId : String
  provider : String
  providerEventId : String
  status : PaymentStatus
  amount : Rat
  currency : String
  idempotencyKey : Option String := none
  evidenceRef : Option String := none
  deriving DecidableEq

/-- `PaymentProviderAdapter`; `normalizeEvent` raises where it is `none`. -/
structure Adapter (Payload : Type) where
  normalizeEvent : Payload → Option RawEvent
  verifySignature : PaymentWebhookEnvelope Payload → Bool

structure MarketplaceFinancialPolicy where
  autoApproveRefundThresholdAmount : Rat := 50
  autoApproveRefundThresholdCurrency : String := "USD"
  autoApproveSmallRefunds : Bool := true
  requireGovernanceForRefundAboveThreshold : Bool := true
  paymentWebhookSignatureRequired : Bool := true

inductive WebhookError where
  | unsigned | invalidSignature | adapterRaised | invalidEvent
  deriving DecidableEq

def WebhookError.message : WebhookError → String
  | unsigned => "Missing webhook signature; signature validation is required."
  | invalidSignature => "Invalid webhook signature; provider event rejected."
  | adapterRaised => ""
  | invalidEvent => "Invalid provider payment event: missing provider_event_id or status."

def mapStatus (table : CharTable) (rawStatus : String) : PaymentStatus :=
  match String.ofList (rawStatus.toList.flatMap table.upper) with
  | "CREATED" | "INITIALIZED" => .created
  | "AUTHORIZED" | "AUTHENTICATED" => .authorized
  | "CAPTURED" | "PAID" | "SUCCEEDED" | "COMPLETED" => .captured
  | "FAILED" | "DECLINED" | "ERROR" => .failed
  | "REFUNDED" => .refunded
  | "PARTIALLY_REFUNDED" => .partiallyRefunded
  | "CANCELLED" | "CANCELED" => .cancelled
  | _ => .requiresAction

/-- The key of an event: the envelope's, or else the payload's. -/
def keyOf (envelopeKey payloadKey : Option String) : Option String :=
  if stated envelopeKey then envelopeKey else payloadKey

def paymentEvent (table : CharTable) (envelopeKey : Option String) (raw : RawEvent) (eventId : String) : PaymentEvent :=
  let provider := raw.provider.getD "unknown"
  let providerEventId := raw.providerEventId.getD ""
  { eventId, intentId := if stated raw.intentId then raw.intentId else none,
    marketplaceId := raw.marketplaceId.getD "", orderId := raw.orderId.getD "", listingId := raw.listingId.getD "",
    tenantId := raw.tenantId.getD "", provider, providerEventId, status := mapStatus table (raw.rawStatus.getD ""),
    amount := raw.amount.getD 0, currency := raw.currency.getD "USD",
    idempotencyKey := keyOf envelopeKey raw.idempotencyKey,
    evidenceRef := some ("provider:" ++ provider ++ ":event:" ++ providerEventId) }

/-- The type of the entry an event gets, if its status is one that is ledgered. -/
def entryTypeOf : PaymentStatus → Option LedgerEntryType
  | .captured | .authorized => some .paymentCaptured
  | .failed | .cancelled => some .paymentFailed
  | _ => none

def paymentEntry (event : PaymentEvent) (entryType : LedgerEntryType) (ledgerId : String) : FinancialLedgerEntry :=
  { ledgerId, marketplaceId := event.marketplaceId, orderId := some event.orderId, listingId := some event.listingId,
    tenantId := some event.tenantId, entryType, amount := event.amount, currency := event.currency,
    status := event.status.value,
    idempotencyKey := if stated event.idempotencyKey then event.idempotencyKey else some event.eventId,
    sourceEventId := some event.eventId, evidenceRef := event.evidenceRef }

inductive RefundStatus where
  | requested | pendingApproval | approved | rejected | completed
  deriving DecidableEq

structure RefundRequest where
  refundId : String
  marketplaceId : String
  orderId : String
  listingId : String
  tenantId : String
  amount : Rat
  currency : String
  originalPaymentEventId : Option String := none
  reasonCode : String := ""
  reason : String := ""
  requestedBy : String
  status : RefundStatus := .requested
  governanceRef : Option String := none
  approvalRef : Option String := none
  idempotencyKey : Option String := none
  deriving DecidableEq

structure GovernanceDecision where
  allowed : Bool
  approvalRef : Option String := none
  auditRef : String
  deriving DecidableEq

inductive RefundError where
  | governanceRaised
  | deniedAboveThreshold
  | refundNotFound (refundId : String)
  | notPendingToApprove
  | notPendingToReject
  | approvalDenied
  deriving DecidableEq

def RefundError.message : RefundError → String
  | governanceRaised => ""
  | deniedAboveThreshold => "Refund above threshold requires governance approval, which was denied."
  | refundNotFound refundId => "Refund request not found: " ++ refundId
  | notPendingToApprove => "Refund must be pending approval to approve."
  | notPendingToReject => "Refund must be pending approval to reject."
  | approvalDenied => "Refund approval denied by governance."

def refundEntry (refund : RefundRequest) (entryType : LedgerEntryType) (keyPrefix ledgerId : String) :
    FinancialLedgerEntry :=
  { ledgerId, marketplaceId := refund.marketplaceId, orderId := some refund.orderId,
    listingId := some refund.listingId, tenantId := some refund.tenantId, entryType, amount := refund.amount,
    currency := refund.currency, status := entryType.value,
    idempotencyKey := some (keyPrefix ++ refund.refundId), sourceEventId := refund.originalPaymentEventId,
    evidenceRef := some refund.refundId }

/-- The ledger, the payment events under their two keys and the refunds. The key of a refund names it by id. -/
structure Engine where
  ledger : Ledger := {}
  eventsByProviderEventId : List PaymentEvent := []
  eventsByIdempotency : List (String × PaymentEvent) := []
  refunds : List RefundRequest := []
  refundsByIdempotency : List (String × String) := []
  deriving DecidableEq

/-- Without a governance engine every question is answered with yes. -/
structure Config (Payload : Type) where
  table : CharTable := asciiTable
  adapter : Adapter Payload
  policy : MarketplaceFinancialPolicy := {}
  governance : Bool := false

section

variable {Payload : Type} (config : Config Payload)

def Engine.append (engine : Engine) (entry : FinancialLedgerEntry) : Engine :=
  { engine with ledger := (engine.ledger.append entry).1 }

/-- An event that was processed before, found by the envelope's key or by the provider's id. -/
def processedEvent (engine : Engine) (envelopeKey providerEventId : Option String) : Option PaymentEvent :=
  let byKey :=
    if stated envelopeKey then find Prod.fst engine.eventsByIdempotency (envelopeKey.getD "") else none
  match byKey with
  | some found => some found.2
  | none => find PaymentEvent.providerEventId engine.eventsByProviderEventId (providerEventId.getD "")

def register (engine : Engine) (event : PaymentEvent) : Engine :=
  { engine with
    eventsByIdempotency :=
      if stated event.idempotencyKey then
        put Prod.fst engine.eventsByIdempotency (event.idempotencyKey.getD "", event)
      else engine.eventsByIdempotency,
    eventsByProviderEventId := put PaymentEvent.providerEventId engine.eventsByProviderEventId event }

def ledgerizePayment (engine : Engine) (event : PaymentEvent) (ledgerId : String) : Engine :=
  match entryTypeOf event.status with
  | none => engine
  | some entryType => engine.append (paymentEntry event entryType ledgerId)

/-- The event of a delivery that passes the checks. -/
def accepted (envelope : PaymentWebhookEnvelope Payload) : Except WebhookError RawEvent :=
  if config.policy.paymentWebhookSignatureRequired ∧ ¬ stated envelope.signature then .error .unsigned
  else if config.adapter.verifySignature envelope = false then .error .invalidSignature
  else
    match config.adapter.normalizeEvent envelope.payload with
    | none => .error .adapterRaised
    | some raw =>
        if stated raw.providerEventId ∧ stated raw.rawStatus then .ok raw else .error .invalidEvent

def ingestWebhook (engine : Engine) (envelope : PaymentWebhookEnvelope Payload) (eventId ledgerId : String) :
    Engine × Except WebhookError PaymentEvent :=
  match accepted config envelope with
  | .error error => (engine, .error error)
  | .ok raw =>
      match processedEvent engine envelope.idempotencyKey raw.providerEventId with
      | some event => (engine, .ok event)
      | none =>
          let event := paymentEvent config.table envelope.idempotencyKey raw eventId
          (ledgerizePayment (register engine event) event ledgerId, .ok event)

def saveRefund (engine : Engine) (refund : RefundRequest) : Engine :=
  { engine with refunds := put RefundRequest.refundId engine.refunds refund }

def getRefund (engine : Engine) (refundId : String) : Option RefundRequest :=
  find RefundRequest.refundId engine.refunds refundId

/-- `_store`. -/
def storeRefund (engine : Engine) (refund : RefundRequest) : Engine :=
  let saved := saveRefund engine refund
  if stated refund.idempotencyKey then
    { saved with
      refundsByIdempotency := put Prod.fst saved.refundsByIdempotency (refund.idempotencyKey.getD "", refund.refundId) }
  else saved

/-- The answer of `_governance_decision`; it raises where this is `none`. -/
def governanceDecision (answer : Option GovernanceDecision) (auditRef : String) : Option GovernanceDecision :=
  if config.governance then answer else some { allowed := true, auditRef }

/-- An approved refund is completed at once, with an entry for either status. -/
def completeRefund (engine : Engine) (refund : RefundRequest) (approvedId completedId : String) : Engine :=
  let noted := engine.append (refundEntry refund .refundApproved "refapp_" approvedId)
  let settled := noted.append (refundEntry refund .refundCompleted "refcomp_" completedId)
  saveRefund settled { refund with status := .completed }

/-- The ids that are generated in a call, and what governance answers in it. -/
structure Generated where
  refundId : String := ""
  requestedId : String := ""
  approvedId : String := ""
  completedId : String := ""
  auditRef : String := ""
  answer : Option GovernanceDecision := none

def aboveThreshold (amount : Rat) (currency : String) : Bool :=
  currency = config.policy.autoApproveRefundThresholdCurrency ∧ config.policy.autoApproveRefundThresholdAmount < amount

/-- `request_refund`; of `refund` only what the caller gives is read. -/
def requestRefund (engine : Engine) (refund : RefundRequest) (generated : Generated) :
    Engine × Except RefundError RefundRequest :=
  let known :=
    if stated refund.idempotencyKey then
      (find Prod.fst engine.refundsByIdempotency (refund.idempotencyKey.getD "")).bind fun key =>
        getRefund engine key.2
    else none
  match known with
  | some earlier => (engine, .ok earlier)
  | none =>
      let refund := { refund with
        refundId := generated.refundId, status := .requested, governanceRef := none, approvalRef := none }
      let stored :=
        (storeRefund engine refund).append (refundEntry refund .refundRequested "refreq_" generated.requestedId)
      let above := aboveThreshold config refund.amount refund.currency
      if above = false ∧ config.policy.autoApproveSmallRefunds then
        match governanceDecision config generated.answer generated.auditRef with
        | none => (stored, .error .governanceRaised)
        | some decision =>
            if decision.allowed then
              let approvalRef :=
                if stated decision.approvalRef then decision.approvalRef else some ("auto:" ++ refund.requestedBy)
              let approved := { refund with approvalRef, governanceRef := some decision.auditRef }
              (completeRefund stored approved generated.approvedId generated.completedId,
                .ok { approved with status := .completed })
            else (stored, .ok refund)
      else if above then
        match governanceDecision config generated.answer generated.auditRef with
        | none => (stored, .error .governanceRaised)
        | some decision =>
            let governed := { refund with governanceRef := some decision.auditRef }
            if decision.allowed then
              (saveRefund stored { governed with status := .pendingApproval },
                .ok { governed with status := .pendingApproval })
            else (saveRefund stored { governed with status := .rejected }, .error .deniedAboveThreshold)
      else
        (saveRefund stored { refund with status := .pendingApproval }, .ok { refund with status := .pendingApproval })

def approveRefund (engine : Engine) (refundId approverId : String) (approvalRef : Option String)
    (generated : Generated) : Engine × Except RefundError RefundRequest :=
  match getRefund engine refundId with
  | none => (engine, .error (.refundNotFound refundId))
  | some refund =>
      if refund.status ≠ .pendingApproval then (engine, .error .notPendingToApprove)
      else
        let reference := if stated approvalRef then approvalRef else some ("approval:" ++ approverId)
        let complete (refund : RefundRequest) : Engine × Except RefundError RefundRequest :=
          (completeRefund engine { refund with approvalRef := reference } generated.approvedId generated.completedId,
            .ok { refund with approvalRef := reference, status := .completed })
        if config.policy.requireGovernanceForRefundAboveThreshold then
          match governanceDecision config generated.answer generated.auditRef with
          | none => (engine, .error .governanceRaised)
          | some decision =>
              if decision.allowed then complete { refund with governanceRef := some decision.auditRef }
              else (saveRefund engine { refund with status := .rejected }, .error .approvalDenied)
        else complete refund

def rejectRefund (engine : Engine) (refundId reason : String) : Engine × Except RefundError RefundRequest :=
  match getRefund engine refundId with
  | none => (engine, .error (.refundNotFound refundId))
  | some refund =>
      if refund.status ≠ .pendingApproval then (engine, .error .notPendingToReject)
      else (saveRefund engine { refund with status := .rejected, reason },
          .ok { refund with status := .rejected, reason })

end

inductive MismatchKind where
  | paymentEventMissingLedger | ledgerMissingPaymentEvent | amountMismatch | currencyMismatch | statusMismatch
  | duplicateIdempotencyKey | refundWithoutOriginalPayment | refundExceedsCaptured
  deriving DecidableEq

inductive Severity where
  | low | medium | high | critical
  deriving DecidableEq

structure Mismatch where
  marketplaceId : String
  orderId : Option String := none
  kind : MismatchKind
  severity : Severity
  deriving DecidableEq

inductive ReconciliationStatus where
  | healthy | mismatchesDetected | failed
  deriving DecidableEq

structure Report where
  marketplaceId : String
  totalEntries : Nat
  mismatches : List Mismatch
  status : ReconciliationStatus
  deriving DecidableEq

/-- `ledger_payment_entries`: the first entry of a payment, by the event it names. -/
def ledgerPaymentEntry (entries : List FinancialLedgerEntry) (eventId : String) : Option FinancialLedgerEntry :=
  entries.find? fun entry => stated entry.sourceEventId ∧ entry.sourceEventId = some eventId ∧
    (entry.entryType = .paymentCaptured ∨ entry.entryType = .paymentFailed)

def tolerance : Rat := 1 / 10000

/-- What is found about one event against its entry. -/
def eventMismatches (entries : List FinancialLedgerEntry) (event : PaymentEvent) : List Mismatch :=
  let found (kind : MismatchKind) (severity : Severity) : Mismatch :=
    { marketplaceId := event.marketplaceId, orderId := some event.orderId, kind, severity }
  if (entryTypeOf event.status).isSome then
    match ledgerPaymentEntry entries event.eventId with
    | none => [found .paymentEventMissingLedger .high]
    | some entry =>
        (if tolerance < abs (entry.amount - event.amount) then [found .amountMismatch .medium] else []) ++
          (if entry.currency ≠ event.currency then [found .currencyMismatch .low] else []) ++
          if entry.status ≠ event.status.value then [found .statusMismatch .medium] else []
  else []

/-- The loop that fills `ledger_payment_entries` in the order of the ledger. -/
def ledgerPaymentSources : List String → List FinancialLedgerEntry → List String
  | sources, [] => sources
  | sources, entry :: rest =>
      if stated entry.sourceEventId ∧ (entry.entryType = .paymentCaptured ∨ entry.entryType = .paymentFailed) ∧
          entry.sourceEventId.getD "" ∉ sources then
        ledgerPaymentSources (sources ++ [entry.sourceEventId.getD ""]) rest
      else ledgerPaymentSources sources rest

def unknownSources (entries : List FinancialLedgerEntry) (events : List PaymentEvent) : List Mismatch :=
  ((ledgerPaymentSources [] entries).filter fun source => source ∉ events.map PaymentEvent.eventId).filterMap
    fun source => (ledgerPaymentEntry entries source).map fun entry =>
      { marketplaceId := entry.marketplaceId, orderId := entry.orderId, kind := .ledgerMissingPaymentEvent,
        severity := .medium }

/-- An approved and a completed refund are both entries of a refund. -/
def refunding (entry : FinancialLedgerEntry) : Bool :=
  entry.entryType = .refundApproved ∨ entry.entryType = .refundCompleted

def capturing (entry : FinancialLedgerEntry) : Bool := entry.entryType = .paymentCaptured

def unpaidRefunds (entries : List FinancialLedgerEntry) (events : List PaymentEvent) : List Mismatch :=
  let processed := (events.filter fun event => (entryTypeOf event.status).isSome).map PaymentEvent.eventId
  (entries.filter fun entry => stated entry.orderId ∧ refunding entry ∧ stated entry.sourceEventId ∧
      entry.sourceEventId.getD "" ∉ processed).map fun entry =>
    { marketplaceId := entry.marketplaceId, orderId := entry.orderId, kind := .refundWithoutOriginalPayment,
      severity := .high }

/-- The total of some key in a dictionary of totals. -/
def totalOf (totals : List (String × Rat)) (orderId : String) : Rat :=
    ((find Prod.fst totals orderId).map Prod.snd).getD 0

/-- The loop that adds up the amounts of some entries, order by order. -/
def totalsByOrder (counts : FinancialLedgerEntry → Bool) : List (String × Rat) → List FinancialLedgerEntry →
    List (String × Rat)
  | totals, [] => totals
  | totals, entry :: rest =>
      if stated entry.orderId ∧ counts entry = true then
        let orderId := entry.orderId.getD ""
        totalsByOrder counts (put Prod.fst totals (orderId, totalOf totals orderId + entry.amount)) rest
      else totalsByOrder counts totals rest

def excessiveRefunds (marketplaceId : Option String) (entries : List FinancialLedgerEntry) : List Mismatch :=
  let captured := totalsByOrder capturing [] entries
  ((totalsByOrder refunding [] entries).filter fun refunded =>
      totalOf captured refunded.1 + tolerance < refunded.2).map fun refunded =>
    { marketplaceId := marketplaceId.getD "", orderId := some refunded.1, kind := .refundExceedsCaptured,
      severity := .high }

/-- `run_reconciliation` without a tax engine; a severe mismatch is put to governance, and `allowed` is its answer. -/
def runReconciliation (engine : Engine) (marketplaceId : Option String) (governance : Option Bool) : Report :=
  let events := engine.eventsByProviderEventId.filter fun event =>
    ¬ stated marketplaceId ∨ some event.marketplaceId = marketplaceId
  let entries := engine.ledger.report marketplaceId
  let duplicates := engine.ledger.duplicateIdempotencyKeys.map fun _ =>
    ({ marketplaceId := marketplaceId.getD "", kind := .duplicateIdempotencyKey, severity := .critical } : Mismatch)
  let mismatches := events.flatMap (eventMismatches entries) ++ unknownSources entries events ++ duplicates ++
    unpaidRefunds entries events ++ excessiveRefunds marketplaceId entries
  let severe := mismatches.any fun mismatch => mismatch.severity = .high ∨ mismatch.severity = .critical
  { marketplaceId := marketplaceId.getD "", totalEntries := entries.length, mismatches,
    status :=
      if severe ∧ governance = some false then .failed
      else if mismatches = [] then .healthy else .mismatchesDetected }

variable {Payload : Type} (config : Config Payload)

inductive Command (Payload : Type) where
  | webhook (envelope : PaymentWebhookEnvelope Payload) (eventId ledgerId : String)
  | request (refund : RefundRequest) (generated : Generated)
  | approve (refundId approverId : String) (approvalRef : Option String) (generated : Generated)
  | reject (refundId reason : String)

def perform (engine : Engine) : Command Payload → Engine
  | .webhook envelope eventId ledgerId => (ingestWebhook config engine envelope eventId ledgerId).1
  | .request refund generated => (requestRefund config engine refund generated).1
  | .approve refundId approverId approvalRef generated =>
      (approveRefund config engine refundId approverId approvalRef generated).1
  | .reject refundId reason => (rejectRefund engine refundId reason).1

/-- The generated ids are new, and an event id is also no idempotency key that came before. -/
def Fresh (engine : Engine) : Command Payload → Prop
  | .webhook _ eventId ledgerId =>
      eventId ≠ "" ∧ eventId ∉ engine.eventsByProviderEventId.map PaymentEvent.eventId ∧
        eventId ∉ engine.ledger.idempotencyKeys ∧ ledgerId ∉ engine.ledger.entries.map FinancialLedgerEntry.ledgerId
  | .request _ generated =>
      generated.refundId ∉ engine.refunds.map RefundRequest.refundId ∧
        [generated.requestedId, generated.approvedId, generated.completedId].Nodup ∧
        ∀ ledgerId ∈ [generated.requestedId, generated.approvedId, generated.completedId],
          ledgerId ∉ engine.ledger.entries.map FinancialLedgerEntry.ledgerId
  | .approve _ _ _ generated =>
      generated.approvedId ≠ generated.completedId ∧
        ∀ ledgerId ∈ [generated.approvedId, generated.completedId],
          ledgerId ∉ engine.ledger.entries.map FinancialLedgerEntry.ledgerId
  | .reject _ _ => True

instance (engine : Engine) (command : Command Payload) : Decidable (Fresh engine command) := by
  cases command <;> unfold Fresh <;> infer_instance

def step (engine : Engine) (command : Command Payload) : Option Engine :=
  if Fresh engine command then some (perform config engine command) else none

end AutonomousApi.FinancialHardening
