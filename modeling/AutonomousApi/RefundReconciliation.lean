import AutonomousApi.PaymentLaws
import Mathlib.Algebra.BigOperators.Group.List.Basic
import Mathlib.Tactic.Ring

/-! When a reconciliation says that refunds exceed what was captured. It goes by entries of the ledger: a
completed refund has two that count, an authorized payment has one like a captured payment, and
currencies are added up together. -/

namespace AutonomousApi.FinancialHardening

open RecordTable Runs

variable {Payload : Type} {config : Config Payload} {engine following : Engine} {refund : RefundRequest}
  {entry : FinancialLedgerEntry} {marketplaceId : Option String} {orderId : String}

variable {counts : FinancialLedgerEntry → Bool} {totals : List (String × Rat)} {entries : List FinancialLedgerEntry}

theorem totalOf_put {wanted : String} {amount : Rat} :
    totalOf (put Prod.fst totals (orderId, amount)) wanted = if orderId =
      wanted then amount else totalOf totals wanted := by
  rw [totalOf, find_put]
  by_cases same : orderId = wanted
  · rw [if_pos same, if_pos same]
    rfl
  · rw [if_neg same, if_neg same, totalOf]

theorem keyed_totalsByOrder (keyed : Keyed Prod.fst totals) : Keyed Prod.fst (totalsByOrder counts totals entries) := by
  induction entries generalizing totals with
  | nil => exact keyed
  | cons entry rest ih =>
      rw [totalsByOrder]
      split
      · exact ih keyed.put
      · exact ih keyed

/-- The entries of an order that count. -/
def counted (counts : FinancialLedgerEntry → Bool) (orderId : String) (entries : List FinancialLedgerEntry) :
    List FinancialLedgerEntry :=
  entries.filter fun entry => counts entry = true ∧ entry.orderId = some orderId

theorem orderId_eq_iff (named : orderId ≠ "") :
    stated entry.orderId ∧ entry.orderId.getD "" = orderId ↔ entry.orderId = some orderId := by
  constructor
  · rintro ⟨given, same⟩
    cases held : entry.orderId with
    | none => exact absurd (held ▸ rfl) given
    | some text => rw [← same, held, Option.getD_some]
  · intro same
    rw [same]
    exact ⟨named, rfl⟩

theorem totalOf_totalsByOrder (named : orderId ≠ "") : totalOf (totalsByOrder counts totals entries) orderId =
    totalOf totals orderId + ((counted counts orderId entries).map FinancialLedgerEntry.amount).sum := by
  induction entries generalizing totals with
  | nil => exact (Rat.add_zero _).symm
  | cons entry rest ih =>
      rw [totalsByOrder, counted, List.filter_cons]
      by_cases inside : stated entry.orderId ∧ counts entry = true
      · rw [if_pos inside, ih, totalOf_put]
        by_cases same : entry.orderId.getD "" = orderId
        · have ofOrder := (orderId_eq_iff named).mp ⟨inside.1, same⟩
          rw [if_pos same, if_pos (decide_eq_true ⟨inside.2, ofOrder⟩), List.map_cons, List.sum_cons, same,
              Rat.add_assoc]
          rfl
        · have other : ¬ (counts entry = true ∧ entry.orderId = some orderId) :=
            fun both => same ((orderId_eq_iff named).mpr both.2).2
          rw [if_neg same, if_neg (by simpa using other)]
          rfl
      · have other : ¬ (counts entry = true ∧ entry.orderId = some orderId) :=
          fun both => inside ⟨((orderId_eq_iff named).mpr both.2).1, both.1⟩
        rw [if_neg inside, ih, if_neg (by simpa using other)]
        rfl

theorem mem_totalsByOrder (named : orderId ≠ "") : orderId ∈ (totalsByOrder counts totals entries).map Prod.fst ↔
    orderId ∈ totals.map Prod.fst ∨ counted counts orderId entries ≠ [] := by
  induction entries generalizing totals with
  | nil => simp [totalsByOrder, counted]
  | cons entry rest ih =>
      rw [totalsByOrder, counted, List.filter_cons]
      by_cases ofOrder : counts entry = true ∧ entry.orderId = some orderId
      · obtain ⟨given, same⟩ := (orderId_eq_iff named).mpr ofOrder.2
        rw [if_pos ⟨given, ofOrder.1⟩, ih, if_pos (decide_eq_true ofOrder), same]
        have present : orderId ∈
            (put Prod.fst totals (orderId, totalOf totals orderId + entry.amount)).map Prod.fst :=
          List.mem_map_of_mem (f := Prod.fst) record_mem_put
        exact ⟨fun _ => .inr (List.cons_ne_nil _ _), fun _ => .inl present⟩
      · have outside : ¬ decide (counts entry = true ∧ entry.orderId = some orderId) = true :=
          fun both => ofOrder (of_decide_eq_true both)
        rw [if_neg outside]
        by_cases inside : stated entry.orderId ∧ counts entry = true
        · have differs : entry.orderId.getD "" ≠ orderId :=
            fun same => ofOrder ⟨inside.2, (orderId_eq_iff named).mp ⟨inside.1, same⟩⟩
          rw [if_pos inside, ih, keys_put]
          split
          · rfl
          · simp [Ne.symm differs, counted]
        · rw [if_neg inside, ih]
          rfl

/-- What the report says of an order. -/
def Reported (engine : Engine) (marketplaceId : Option String) (governance : Option Bool) (orderId : String) : Prop :=
  ∃ mismatch ∈ (runReconciliation engine marketplaceId governance).mismatches,
    mismatch.kind = .refundExceedsCaptured ∧ mismatch.orderId = some orderId

instance (engine : Engine) (marketplaceId : Option String) (governance : Option Bool) (orderId : String) :
    Decidable (Reported engine marketplaceId governance orderId) :=
  inferInstanceAs (Decidable (∃ mismatch ∈ (runReconciliation engine marketplaceId governance).mismatches,
    mismatch.kind = .refundExceedsCaptured ∧ mismatch.orderId = some orderId))

theorem excessive_iff (named : orderId ≠ "") {entries : List FinancialLedgerEntry} :
    (∃ mismatch ∈ excessiveRefunds marketplaceId entries, mismatch.orderId = some orderId) ↔
      counted refunding orderId entries ≠ [] ∧
        ((counted capturing orderId entries).map FinancialLedgerEntry.amount).sum + tolerance <
          ((counted refunding orderId entries).map FinancialLedgerEntry.amount).sum := by
  have captured := @totalOf_totalsByOrder orderId capturing [] entries named
  have refunded := @totalOf_totalsByOrder orderId refunding [] entries named
  have start : totalOf [] orderId = 0 := rfl
  rw [start, Rat.zero_add] at captured refunded
  have keyed : Keyed Prod.fst (totalsByOrder refunding [] entries) := keyed_totalsByOrder List.nodup_nil
  have present := @mem_totalsByOrder orderId refunding [] entries named
  rw [List.map_nil, or_iff_right List.not_mem_nil] at present
  rw [← present, ← captured, ← refunded]
  constructor
  · rintro ⟨mismatch, member, ofOrder⟩
    obtain ⟨total, inside, rfl⟩ := List.mem_map.mp member
    obtain ⟨held, above⟩ := List.mem_filter.mp inside
    cases Option.some.inj ofOrder
    have own : totalOf (totalsByOrder refunding [] entries) total.1 = total.2 := by
      rw [totalOf, keyed.find_of_mem held]
      rfl
    rw [own]
    exact ⟨List.mem_map_of_mem held, of_decide_eq_true above⟩
  · rintro ⟨inside, above⟩
    obtain ⟨total, held, rfl⟩ := List.mem_map.mp inside
    have own : totalOf (totalsByOrder refunding [] entries) total.1 = total.2 := by
      rw [totalOf, keyed.find_of_mem held]
      rfl
    rw [own] at above
    exact ⟨_, List.mem_map_of_mem (List.mem_filter.mpr ⟨held, decide_eq_true above⟩), rfl⟩

theorem eventMismatches_kind {entries : List FinancialLedgerEntry} {event : PaymentEvent} {mismatch : Mismatch}
    (member : mismatch ∈ eventMismatches entries event) : mismatch.kind ≠ .refundExceedsCaptured := by
  rw [eventMismatches] at member
  split at member
  case isFalse => cases member
  case isTrue =>
      split at member
      · cases List.mem_singleton.mp member
        exact MismatchKind.noConfusion
      · have alone {kind : MismatchKind} {severity : Severity} {condition : Prop} [Decidable condition]
            (other : kind ≠ .refundExceedsCaptured)
            (listed : mismatch ∈ if condition then
              [({ marketplaceId := event.marketplaceId, orderId := some event.orderId, kind, severity } : Mismatch)]
              else []) : mismatch.kind ≠ .refundExceedsCaptured := by
          split at listed
          · cases List.mem_singleton.mp listed
            exact other
          · cases listed
        rcases List.mem_append.mp member with first | status
        · rcases List.mem_append.mp first with amount | currency
          · exact alone MismatchKind.noConfusion amount
          · exact alone MismatchKind.noConfusion currency
        · exact alone MismatchKind.noConfusion status

/-- The other parts of a report are about other things. -/
theorem reported_iff (named : orderId ≠ "") {governance : Option Bool} :
    Reported engine marketplaceId governance orderId ↔
      counted refunding orderId (engine.ledger.report marketplaceId) ≠ [] ∧
        ((counted capturing orderId (engine.ledger.report marketplaceId)).map FinancialLedgerEntry.amount).sum +
        tolerance <
          ((counted refunding orderId (engine.ledger.report marketplaceId)).map FinancialLedgerEntry.amount).sum := by
  rw [← @excessive_iff marketplaceId _ named, Reported, runReconciliation]
  dsimp only
  constructor
  · rintro ⟨mismatch, member, kind, ofOrder⟩
    simp only [List.mem_append] at member
    rcases member with (((event | source) | duplicate) | unpaid) | excessive
    · obtain ⟨paid, -, found⟩ := List.mem_flatMap.mp event
      exact absurd kind (eventMismatches_kind found)
    · obtain ⟨name, -, found⟩ := List.mem_filterMap.mp source
      obtain ⟨entry, -, rfl⟩ := Option.map_eq_some_iff.mp found
      cases kind
    · obtain ⟨key, -, rfl⟩ := List.mem_map.mp duplicate
      cases kind
    · obtain ⟨entry, -, rfl⟩ := List.mem_map.mp unpaid
      cases kind
    · exact ⟨mismatch, excessive, ofOrder⟩
  · rintro ⟨mismatch, member, ofOrder⟩
    refine ⟨mismatch, List.mem_append_right _ member, ?_, ofOrder⟩
    obtain ⟨total, -, rfl⟩ := List.mem_map.mp member
    rfl

/-- What the totals of an order are made of. -/
structure Line where
  marketplaceId : String
  orderId : Option String
  amount : Rat

def FinancialLedgerEntry.line (entry : FinancialLedgerEntry) : Line :=
    ⟨entry.marketplaceId, entry.orderId, entry.amount⟩

def PaymentEvent.line (event : PaymentEvent) : Line := ⟨event.marketplaceId, some event.orderId, event.amount⟩

def RefundRequest.line (refund : RefundRequest) : Line := ⟨refund.marketplaceId, some refund.orderId, refund.amount⟩

/-- The entry of an event counts as captured. -/
def counting (event : PaymentEvent) : Bool := entryTypeOf event.status = some .paymentCaptured

def completed (refund : RefundRequest) : Bool := refund.status = .completed

/-- The ledger has one entry of each captured or authorized payment, and two of each completed refund. -/
structure Tallied (engine : Engine) : Prop where
  keyed : Keyed RefundRequest.refundId engine.refunds
  captured : (engine.ledger.entries.filter capturing).map FinancialLedgerEntry.line =
    (engine.eventsByProviderEventId.filter counting).map PaymentEvent.line
  refunded : ((engine.ledger.entries.filter refunding).map FinancialLedgerEntry.line).Perm
    ((engine.refunds.filter completed).flatMap fun refund => [refund.line, refund.line])

theorem tallied_start : Tallied {} where
  keyed := List.nodup_nil
  captured := rfl
  refunded := .refl _

/-- What is added to the ledger beside some events, none of it for refunds. -/
theorem Tallied.extend (tallied : Tallied engine) {added : List FinancialLedgerEntry} {events : List PaymentEvent}
    (refunds : following.refunds = engine.refunds) (entries : following.ledger.entries = engine.ledger.entries ++ added)
    (processed : following.eventsByProviderEventId = engine.eventsByProviderEventId ++ events)
    (other : added.filter refunding = [])
    (captured : (added.filter capturing).map FinancialLedgerEntry.line =
      (events.filter counting).map PaymentEvent.line) :
    Tallied following where
  keyed := refunds ▸ tallied.keyed
  captured := by
    rw [entries, processed, List.filter_append, List.filter_append, List.map_append, List.map_append, captured,
      tallied.captured]
  refunded := by
    rw [entries, refunds, List.filter_append, other, List.append_nil]
    exact tallied.refunded

/-- An entry that does not count changes no total, whether it is dropped or not. -/
theorem Tallied.append_other (tallied : Tallied engine)
    (fresh : entry.ledgerId ∉ engine.ledger.entries.map FinancialLedgerEntry.ledgerId)
    (neither : capturing entry = false ∧ refunding entry = false) : Tallied (engine.append entry) := by
  have entries : (engine.append entry).ledger.entries = _ := append_entries fresh
  have refused : [entry].filter capturing = [] ∧ [entry].filter refunding = [] := by simp [neither]
  have processed : (engine.append entry).eventsByProviderEventId = engine.eventsByProviderEventId ++ [] :=
    (List.append_nil _).symm
  split at entries
  · rw [← List.append_nil engine.ledger.entries] at entries
    exact tallied.extend rfl entries processed rfl rfl
  · exact tallied.extend rfl entries processed refused.2 (congrArg _ refused.1)

/-- Saving a refund that is not completed, in place of none that is, changes no total. -/
theorem filter_put_other {refunds : List RefundRequest} (open_ : completed refund = false)
    (replaced : ∀ old ∈ refunds, old.refundId = refund.refundId → completed old = false) :
    (put RefundRequest.refundId refunds refund).filter completed = refunds.filter completed := by
  induction refunds with
  | nil => exact List.filter_cons_of_neg (by simp [open_])
  | cons first rest ih =>
      rw [put]
      split
      case isTrue same =>
          have before := replaced first List.mem_cons_self same
          rw [List.filter_cons_of_neg (by simp [open_]), List.filter_cons_of_neg (by simp [before])]
      case isFalse =>
          have rest := ih fun old member => replaced old (List.mem_cons_of_mem _ member)
          rw [List.filter_cons, List.filter_cons, rest]

theorem filter_put_completed {refunds : List RefundRequest} (done : completed refund = true)
    (replaced : ∀ old ∈ refunds, old.refundId = refund.refundId → completed old = false) :
    ((put RefundRequest.refundId refunds refund).filter completed).Perm (refund :: refunds.filter completed) := by
  induction refunds with
  | nil => rw [put, List.filter_cons_of_pos done]
  | cons first rest ih =>
      rw [put]
      split
      case isTrue same =>
          have before := replaced first List.mem_cons_self same
          rw [List.filter_cons_of_pos done, List.filter_cons_of_neg (by simp [before])]
      case isFalse =>
          have rest := ih fun old member => replaced old (List.mem_cons_of_mem _ member)
          by_cases counts : completed first = true
          · rw [List.filter_cons_of_pos counts, List.filter_cons_of_pos counts]
            exact (rest.cons first).trans (.swap _ _ _)
          · rw [List.filter_cons_of_neg counts, List.filter_cons_of_neg counts]
            exact rest

theorem Tallied.unreplaced (tallied : Tallied engine) {old : RefundRequest}
    (held : getRefund engine refund.refundId = some old) (open_ : completed old = false) :
    ∀ other ∈ engine.refunds, other.refundId = refund.refundId → completed other = false := by
  intro other member same
  obtain ⟨inside, named⟩ := mem_of_find held
  rw [tallied.keyed.unique member inside (same.trans named.symm)]
  exact open_

theorem Tallied.save (tallied : Tallied engine) (open_ : completed refund = false)
    (replaced : ∀ old ∈ engine.refunds, old.refundId = refund.refundId → completed old = false) :
    Tallied (saveRefund engine refund) where
  keyed := tallied.keyed.put
  captured := tallied.captured
  refunded := by
    rw [saveRefund, filter_put_other open_ replaced]
    exact tallied.refunded

theorem keys_apart (first second : String) : "refapp_" ++ first ≠ "refreq_" ++ second ∧
    "refcomp_" ++ first ≠ "refreq_" ++ second ∧ "refcomp_" ++ first ≠ "refapp_" ++ second := by
  refine ⟨fun same => ?_, fun same => ?_, fun same => ?_⟩
  all_goals
    have chars := congrArg String.toList same
    simp at chars

/-- The keys of the two entries of a completed refund are not taken. -/
def Free (ledger : Ledger) (refundId : String) : Prop :=
  "refapp_" ++ refundId ∉ ledger.idempotencyKeys ∧ "refcomp_" ++ refundId ∉ ledger.idempotencyKeys

theorem completeRefund_entries {approvedId completedId : String} (apart : approvedId ≠ completedId)
    (fresh : approvedId ∉ engine.ledger.entries.map FinancialLedgerEntry.ledgerId)
    (also : completedId ∉ engine.ledger.entries.map FinancialLedgerEntry.ledgerId)
    (free : Free engine.ledger refund.refundId) :
    (completeRefund engine refund approvedId completedId).ledger.entries = engine.ledger.entries ++
      [refundEntry refund .refundApproved "refapp_" approvedId,
        refundEntry refund .refundCompleted "refcomp_" completedId] := by
  have first := @append_entries _ (refundEntry refund .refundApproved "refapp_" approvedId) fresh
  rw [if_neg fun both => free.1 both.2] at first
  have later : completedId ∉
      (engine.ledger.append (refundEntry refund .refundApproved "refapp_" approvedId)).1.entries.map
      FinancialLedgerEntry.ledgerId := by
    intro member
    rcases append_ledgerIds member with before | same
    · exact also before
    · exact apart same.symm
  have open_ : "refcomp_" ++ refund.refundId ∉
      (engine.ledger.append (refundEntry refund .refundApproved "refapp_" approvedId)).1.idempotencyKeys := by
    intro member
    rcases append_keys member with before | same
    · exact free.2 before
    · exact (keys_apart _ _).2.2 (Option.some.inj same)
  have second := @append_entries _ (refundEntry refund .refundCompleted "refcomp_" completedId) later
  rw [if_neg fun both => open_ both.2, first, List.append_assoc] at second
  exact second

/-- Completing a refund adds its two entries, and the refund to the completed ones. -/
theorem Tallied.complete (tallied : Tallied engine) {approvedId completedId : String}
    (replaced : ∀ old ∈ engine.refunds, old.refundId = refund.refundId → completed old = false)
    (apart : approvedId ≠ completedId)
    (fresh : approvedId ∉ engine.ledger.entries.map FinancialLedgerEntry.ledgerId)
    (also : completedId ∉ engine.ledger.entries.map FinancialLedgerEntry.ledgerId)
    (free : Free engine.ledger refund.refundId) :
    Tallied (completeRefund engine refund approvedId completedId) := by
  have entries := completeRefund_entries apart fresh also free
  refine ⟨tallied.keyed.put, ?_, ?_⟩
  · rw [entries, List.filter_append]
    exact (congrArg _ (List.append_nil _)).trans tallied.captured
  · have refunds := @filter_put_completed { refund with status := .completed } _ rfl replaced
    have doubled := (refunds.flatMap_right fun refund => [refund.line, refund.line]).symm
    rw [entries, List.filter_append, List.map_append]
    exact (List.perm_append_comm.trans (tallied.refunded.append_left [refund.line, refund.line])).trans doubled

variable {command : Command Payload} {generated : Generated}

/-- No entry that counts is dropped by the ledger because its key is taken. -/
def Kept (config : Config Payload) (engine : Engine) : Command Payload → Prop
  | .webhook envelope eventId _ => ∀ raw, accepted config envelope = .ok raw →
      processedEvent engine envelope.idempotencyKey raw.providerEventId = none →
      counting (paymentEvent config.table envelope.idempotencyKey raw eventId) = true →
      ledgerKey (paymentEvent config.table envelope.idempotencyKey raw eventId) ∉ engine.ledger.idempotencyKeys
  | .request refund generated => ∀ done, (requestRefund config engine refund generated).2 = .ok done →
      done.refundId = generated.refundId → completed done = true → Free engine.ledger done.refundId
  | .approve refundId approverId approvalRef generated =>
      ∀ done, (approveRefund config engine refundId approverId approvalRef generated).2 = .ok done →
        Free engine.ledger done.refundId
  | .reject _ _ => True

theorem processedEvent_none {envelopeKey providerEventId : Option String}
    (unknown : processedEvent engine envelopeKey providerEventId = none) :
    providerEventId.getD "" ∉ engine.eventsByProviderEventId.map PaymentEvent.providerEventId := by
  rw [processedEvent] at unknown
  split at unknown
  · cases unknown
  · exact find_eq_none_iff.mp unknown

theorem entryTypeOf_cases (status : PaymentStatus) : entryTypeOf status = none ∨
    entryTypeOf status = some .paymentCaptured ∨ entryTypeOf status = some .paymentFailed := by
  cases status
  all_goals decide

variable {ledgerId refundId : String}

theorem Tallied.withPayment (tallied : Tallied engine) {event : PaymentEvent} (named : event.eventId ≠ "")
    (fresh : ledgerId ∉ engine.ledger.entries.map FinancialLedgerEntry.ledgerId)
    (absent : event.providerEventId ∉ engine.eventsByProviderEventId.map PaymentEvent.providerEventId)
    (free : counting event = true → ledgerKey event ∉ engine.ledger.idempotencyKeys) :
    Tallied (withPayment engine event ledgerId) := by
  have refunds := @withPayment_refunds engine event ledgerId
  have events := @withPayment_events engine event absent ledgerId
  have ledger := congrArg Ledger.entries (@withPayment_ledger engine event named ledgerId fresh)
  rcases entryTypeOf_cases event.status with none | captured | failed
  · have uncounted : [event].filter counting = [] := by simp [counting, none]
    rw [none, ← List.append_nil engine.ledger.entries] at ledger
    exact tallied.extend refunds ledger events rfl (by rw [uncounted]; rfl)
  · have counts : counting event = true := by simp [counting, captured]
    rw [captured] at ledger
    dsimp only at ledger
    rw [if_neg (free counts)] at ledger
    exact tallied.extend refunds ledger events rfl (by rw [List.filter_cons_of_pos counts]; rfl)
  · have uncounted : [event].filter counting = [] := by simp [counting, failed]
    rw [failed] at ledger
    dsimp only at ledger
    split at ledger
    · rw [← List.append_nil engine.ledger.entries] at ledger
      exact tallied.extend refunds ledger events rfl (by rw [uncounted]; rfl)
    · exact tallied.extend refunds ledger events rfl (by rw [uncounted]; rfl)

theorem Tallied.webhook (tallied : Tallied engine) {envelope : PaymentWebhookEnvelope Payload} {eventId : String}
    (fresh : Fresh engine (.webhook envelope eventId ledgerId))
    (kept : Kept config engine (.webhook envelope eventId ledgerId)) :
    Tallied (ingestWebhook config engine envelope eventId ledgerId).1 := by
  obtain ⟨named, -, -, newEntry⟩ := fresh
  rw [ingestWebhook]
  cases checked : accepted config envelope with
  | error error => exact tallied
  | ok raw =>
      cases known : processedEvent engine envelope.idempotencyKey raw.providerEventId with
      | some event => simpa only [known] using tallied
      | none =>
          simp only [known]
          exact tallied.withPayment named newEntry (processedEvent_none known) (kept raw checked known)

/-- A new refund as it is stored, with its entry. -/
def storedRefund (engine : Engine) (refund : RefundRequest) (generated : Generated) : Engine :=
  (storeRefund engine refund).append (refundEntry refund .refundRequested "refreq_" generated.requestedId)

theorem storeRefund_tables : (storeRefund engine refund).ledger = engine.ledger ∧
    (storeRefund engine refund).refunds = put RefundRequest.refundId engine.refunds refund ∧
    (storeRefund engine refund).eventsByProviderEventId = engine.eventsByProviderEventId := by
  rw [storeRefund]
  split
  · exact ⟨rfl, rfl, rfl⟩
  · exact ⟨rfl, rfl, rfl⟩

theorem Tallied.stored (tallied : Tallied engine) (open_ : completed refund = false)
    (newId : refund.refundId ∉ engine.refunds.map RefundRequest.refundId)
    (fresh : generated.requestedId ∉ engine.ledger.entries.map FinancialLedgerEntry.ledgerId) :
    Tallied (storedRefund engine refund generated) := by
  obtain ⟨ledger, refunds, events⟩ := @storeRefund_tables engine refund
  have saved : Tallied (saveRefund engine refund) := by
    refine tallied.save open_ fun old member same => ?_
    exact absurd (same ▸ List.mem_map_of_mem member) newId
  have stored : Tallied (storeRefund engine refund) := by
    refine ⟨refunds ▸ saved.keyed, ?_, ?_⟩
    · rw [ledger, events]
      exact saved.captured
    · rw [ledger, refunds]
      exact saved.refunded
  refine stored.append_other ?_ ⟨rfl, rfl⟩
  rw [ledger]
  exact fresh

/-- The stored refund is the only one under its id. -/
theorem storedRefund_own (newId : refund.refundId ∉ engine.refunds.map RefundRequest.refundId) (other : RefundRequest)
    (member : other ∈ (storedRefund engine refund generated).refunds) (same : other.refundId = refund.refundId) :
    other = refund := by
  have refunds : (storedRefund engine refund generated).refunds = put RefundRequest.refundId engine.refunds refund :=
    storeRefund_tables.2.1
  rw [refunds, put_absent newId] at member
  rcases List.mem_append.mp member with before | last
  · exact absurd (same ▸ List.mem_map_of_mem before) newId
  · exact List.mem_singleton.mp last

theorem storedRefund_ledger : (storedRefund engine refund generated).ledger =
    (engine.ledger.append (refundEntry refund .refundRequested "refreq_" generated.requestedId)).1 := by
  rw [storedRefund, Engine.append, storeRefund_tables.1]

/-- The two ids that are left are still unused. -/
theorem storedRefund_unused (refund : RefundRequest)
    (distinct : [generated.requestedId, generated.approvedId, generated.completedId].Nodup)
    (fresh : ∀ ledgerId ∈ [generated.requestedId, generated.approvedId, generated.completedId],
      ledgerId ∉ engine.ledger.entries.map FinancialLedgerEntry.ledgerId) :
    generated.approvedId ≠ generated.completedId ∧
      generated.approvedId ∉
        (storedRefund engine refund generated).ledger.entries.map FinancialLedgerEntry.ledgerId ∧
      generated.completedId ∉
        (storedRefund engine refund generated).ledger.entries.map FinancialLedgerEntry.ledgerId := by
  simp only [List.nodup_cons, List.mem_cons, List.not_mem_nil, or_false, not_or] at distinct
  have unused {ledgerId : String} (before : ledgerId ∉ engine.ledger.entries.map FinancialLedgerEntry.ledgerId)
      (apart : ledgerId ≠ generated.requestedId) :
      ledgerId ∉ (storedRefund engine refund generated).ledger.entries.map FinancialLedgerEntry.ledgerId := by
    rw [storedRefund_ledger]
    exact fun member => (append_ledgerIds member).elim before apart
  exact ⟨distinct.2.1, unused (fresh _ (by simp)) (Ne.symm distinct.1.1),
    unused (fresh _ (by simp)) (Ne.symm distinct.1.2)⟩

theorem storedRefund_free (free : Free engine.ledger refundId) :
    Free (storedRefund engine refund generated).ledger refundId := by
  have untaken {key : String} (before : key ∉ engine.ledger.idempotencyKeys)
      (apart : key ≠ "refreq_" ++ refund.refundId) :
      key ∉ (storedRefund engine refund generated).ledger.idempotencyKeys := by
    rw [storedRefund_ledger]
    exact fun member => (append_keys member).elim before fun same => apart (Option.some.inj same)
  exact ⟨untaken free.1 (keys_apart _ _).1, untaken free.2 (keys_apart _ _).2.1⟩

def RefundRequest.done (refund : RefundRequest) : RefundRequest := { refund with status := .completed }

/-- What `request_refund` leaves: nothing new, or the stored refund, which may be saved again or completed. -/
theorem requestRefund_cases : (requestRefund config engine refund generated).1 = engine ∨
    ∃ stored, stored.refundId = generated.refundId ∧ completed stored = false ∧
      ((requestRefund config engine refund generated).1 = storedRefund engine stored generated ∨
        (∃ saved, saved.refundId = generated.refundId ∧ completed saved = false ∧
          (requestRefund config engine refund generated).1 = saveRefund (storedRefund engine stored generated) saved) ∨
        ∃ approved, approved.refundId = generated.refundId ∧
          requestRefund config engine refund generated =
            (completeRefund (storedRefund engine stored generated) approved generated.approvedId generated.completedId,
              .ok approved.done)) := by
  rw [requestRefund]
  dsimp only
  split
  · exact .inl rfl
  · refine .inr ⟨{ refund with
      refundId := generated.refundId, status := .requested, governanceRef := none, approvalRef := none }, rfl, rfl, ?_⟩
    split
    · split
      · exact .inl rfl
      · split
        · exact .inr (.inr ⟨_, rfl, rfl⟩)
        · exact .inl rfl
    · split
      · split
        · exact .inl rfl
        · split
          · exact .inr (.inl ⟨_, rfl, rfl, rfl⟩)
          · exact .inr (.inl ⟨_, rfl, rfl, rfl⟩)
      · exact .inr (.inl ⟨_, rfl, rfl, rfl⟩)

theorem Tallied.request (tallied : Tallied engine) (fresh : Fresh engine (.request refund generated : Command Payload))
    (kept : Kept config engine (.request refund generated)) :
    Tallied (requestRefund config engine refund generated).1 := by
  obtain ⟨newId, distinct, newEntries⟩ := fresh
  rcases @requestRefund_cases _ config engine refund generated with same | ⟨stored, named, open_, outcome⟩
  · rw [same]
    exact tallied
  · rw [← named] at newId
    have base : Tallied (storedRefund engine stored generated) :=
      tallied.stored open_ newId (newEntries _ List.mem_cons_self)
    have own (refund : RefundRequest) (alike : refund.refundId = generated.refundId) :
        ∀ old ∈ (storedRefund engine stored generated).refunds, old.refundId = refund.refundId →
          completed old = false := by
      intro old member same
      rw [storedRefund_own newId old member (same.trans (alike.trans named.symm))]
      exact open_
    rcases outcome with left | ⟨saved, alike, waiting, left⟩ | ⟨approved, alike, left⟩
    · rw [left]
      exact base
    · rw [left]
      exact base.save waiting (own saved alike)
    · have free : Free engine.ledger approved.refundId := kept approved.done (congrArg Prod.snd left) alike rfl
      obtain ⟨apart, unused, also⟩ := storedRefund_unused stored distinct newEntries
      rw [left]
      exact base.complete (own approved alike) apart unused also (storedRefund_free free)

/-- What `approve_refund` leaves: nothing new, or a waiting refund that is rejected or completed. -/
theorem approveRefund_cases {refundId approverId : String} {approvalRef : Option String} :
    (∃ error, approveRefund config engine refundId approverId approvalRef generated = (engine, .error error)) ∨
      ∃ refund, getRefund engine refund.refundId = some refund ∧ refund.status = .pendingApproval ∧
        ((∃ error, approveRefund config engine refundId approverId approvalRef generated =
            (saveRefund engine { refund with status := .rejected }, .error error)) ∨
          ∃ approved, approved.refundId = refund.refundId ∧
            approveRefund config engine refundId approverId approvalRef generated =
              (completeRefund engine approved generated.approvedId generated.completedId,
                .ok approved.done)) := by
  rw [approveRefund]
  cases held : getRefund engine refundId with
  | none => exact .inl ⟨_, rfl⟩
  | some refund =>
      have named := (mem_of_find held).2
      dsimp only
      split
      case isTrue => exact .inl ⟨_, rfl⟩
      case isFalse waiting =>
          rw [← named] at held
          split
          · split
            · exact .inl ⟨_, rfl⟩
            · split
              · refine .inr ⟨refund, held, not_not.mp waiting, .inr ⟨_, ?_, rfl⟩⟩
                rfl
              · exact .inr ⟨refund, held, not_not.mp waiting, .inl ⟨_, rfl⟩⟩
          · refine .inr ⟨refund, held, not_not.mp waiting, .inr ⟨_, ?_, rfl⟩⟩
            rfl

theorem completed_waiting (waiting : refund.status = .pendingApproval) : completed refund = false := by
  rw [completed, waiting]
  rfl

theorem Tallied.approve (tallied : Tallied engine) {approverId : String} {approvalRef : Option String}
    (fresh : Fresh engine (.approve refundId approverId approvalRef generated : Command Payload))
    (kept : Kept config engine (.approve refundId approverId approvalRef generated)) :
    Tallied (approveRefund config engine refundId approverId approvalRef generated).1 := by
  obtain ⟨apart, newEntries⟩ := fresh
  rcases @approveRefund_cases _ config engine generated refundId approverId approvalRef with
    ⟨error, same⟩ | ⟨refund, held, waiting, outcome⟩
  · rw [same]
    exact tallied
  · have replaced := tallied.unreplaced held (completed_waiting waiting)
    rcases outcome with ⟨error, left⟩ | ⟨approved, alike, left⟩
    · rw [left]
      exact tallied.save rfl replaced
    · have free : Free engine.ledger approved.refundId := kept approved.done (congrArg Prod.snd left)
      rw [left]
      refine tallied.complete (alike ▸ replaced) apart ?_ ?_ free
      · exact newEntries _ (by simp)
      · exact newEntries _ (by simp)

theorem rejectRefund_cases {refundId reason : String} : (rejectRefund engine refundId reason).1 = engine ∨
    ∃ refund, getRefund engine refund.refundId = some refund ∧ refund.status = .pendingApproval ∧
      (rejectRefund engine refundId reason).1 = saveRefund engine { refund with status := .rejected, reason } := by
  rw [rejectRefund]
  cases held : getRefund engine refundId with
  | none => exact .inl rfl
  | some refund =>
      have named := (mem_of_find held).2
      dsimp only
      split
      case isTrue => exact .inl rfl
      case isFalse waiting => exact .inr ⟨refund, named ▸ held, not_not.mp waiting, rfl⟩

theorem Tallied.reject (tallied : Tallied engine) {reason : String} :
    Tallied (rejectRefund engine refundId reason).1 := by
  rcases @rejectRefund_cases engine refundId reason with same | ⟨refund, held, waiting, left⟩
  · rw [same]
    exact tallied
  · rw [left]
    exact tallied.save rfl (tallied.unreplaced held (completed_waiting waiting))

theorem Tallied.step (tallied : Tallied engine) (kept : Kept config engine command)
    (taken : step config engine command = some following) : Tallied following := by
  rw [FinancialHardening.step] at taken
  split at taken
  case isFalse => cases taken
  case isTrue fresh =>
      cases taken
      cases command with
      | webhook envelope eventId ledgerId => exact tallied.webhook fresh kept
      | request refund generated => exact tallied.request fresh kept
      | approve refundId approverId approvalRef generated => exact tallied.approve fresh kept
      | reject refundId reason => exact tallied.reject

/-- The line is of the order, in the marketplace that is reported on. -/
def Belongs (marketplaceId : Option String) (orderId : String) (line : Line) : Prop :=
  (¬ stated marketplaceId ∨ some line.marketplaceId = marketplaceId) ∧ line.orderId = some orderId

instance (marketplaceId : Option String) (orderId : String) (line : Line) :
    Decidable (Belongs marketplaceId orderId line) :=
  inferInstanceAs (Decidable (_ ∧ _))

/-- The processed payments of an order with a status. -/
def paymentsOf (engine : Engine) (marketplaceId : Option String) (orderId : String) (status : PaymentStatus) :
    List PaymentEvent :=
  engine.eventsByProviderEventId.filter fun event => event.status = status ∧ Belongs marketplaceId orderId event.line

/-- The completed refunds of an order. -/
def refundsOf (engine : Engine) (marketplaceId : Option String) (orderId : String) : List RefundRequest :=
  engine.refunds.filter fun refund => completed refund = true ∧ Belongs marketplaceId orderId refund.line

def paidTotal (events : List PaymentEvent) : Rat := (events.map PaymentEvent.amount).sum

def refundTotal (refunds : List RefundRequest) : Rat := (refunds.map RefundRequest.amount).sum

theorem counted_report {counts : FinancialLedgerEntry → Bool} :
    (counted counts orderId (engine.ledger.report marketplaceId)).map FinancialLedgerEntry.line =
      ((engine.ledger.entries.filter counts).map FinancialLedgerEntry.line).filter
        fun line => Belongs marketplaceId orderId line := by
  rw [counted, Ledger.report, List.filter_filter, List.filter_map, List.filter_filter]
  congr 1
  apply List.filter_congr
  intro entry _
  rw [Bool.eq_iff_iff, Bool.and_eq_true, Bool.and_eq_true, decide_eq_true_eq, decide_eq_true_eq, Function.comp_apply,
    decide_eq_true_eq]
  constructor
  · rintro ⟨⟨counts, ofOrder⟩, selected⟩
    exact ⟨⟨selected, ofOrder⟩, counts⟩
  · rintro ⟨⟨selected, ofOrder⟩, counts⟩
    exact ⟨⟨counts, ofOrder⟩, selected⟩

theorem sum_filter_either {Item : Type} (items : List Item) (left right : Item → Prop) [DecidablePred left]
    [DecidablePred right] (apart : ∀ item, left item → ¬ right item) (amount : Item → Rat) :
    ((items.filter fun item => left item ∨ right item).map amount).sum =
      ((items.filter fun item => left item).map amount).sum +
      ((items.filter fun item => right item).map amount).sum := by
  induction items with
  | nil => exact (Rat.add_zero 0).symm
  | cons item rest ih =>
      by_cases first : left item
      · simp only [List.filter_cons, first, apart item first, true_or, decide_true, decide_false, if_true,
            List.map_cons, List.sum_cons, ih, Rat.add_assoc, Bool.false_eq_true, if_false]
      · by_cases second : right item
        · simp only [List.filter_cons, first, second, or_true, decide_true, decide_false, if_true, List.map_cons,
            List.sum_cons, ih, Bool.false_eq_true, if_false]
          exact Rat.add_left_comm _ _ _
        · simpa only [List.filter_cons, first, second, or_self, decide_false, Bool.false_eq_true, if_false] using ih

theorem counting_iff (event : PaymentEvent) :
    counting event = true ↔ event.status = .captured ∨ event.status = .authorized := by
  rw [counting, decide_eq_true_eq]
  cases event.status
  all_goals decide

theorem paidTotal_counting (engine : Engine) :
    ((((engine.eventsByProviderEventId.filter counting).map PaymentEvent.line).filter fun line =>
        Belongs marketplaceId orderId line).map Line.amount).sum =
      paidTotal (paymentsOf engine marketplaceId orderId .captured) +
        paidTotal (paymentsOf engine marketplaceId orderId .authorized) := by
  have apart (event : PaymentEvent) (captured : event.status = .captured ∧ Belongs marketplaceId orderId event.line) :
      ¬ (event.status = .authorized ∧ Belongs marketplaceId orderId event.line) := by
    rintro ⟨authorized, -⟩
    cases captured.1.symm.trans authorized
  rw [paidTotal, paidTotal, paymentsOf, paymentsOf, ← sum_filter_either _ _ _ apart, List.filter_map, List.map_map,
    List.filter_filter]
  congr 2
  apply List.filter_congr
  intro event _
  rw [Bool.eq_iff_iff, Bool.and_eq_true, counting_iff, Function.comp_apply, decide_eq_true_eq, decide_eq_true_eq,
    ← or_and_right, and_comm]

theorem filter_doubled (refunds : List RefundRequest) :
    ((refunds.flatMap fun refund => [refund.line, refund.line]).filter fun line => Belongs marketplaceId orderId line) =
      (refunds.filter fun refund => Belongs marketplaceId orderId refund.line).flatMap fun refund =>
        [refund.line, refund.line] := by
  induction refunds with
  | nil => rfl
  | cons refund rest ih =>
      rw [List.flatMap_cons, List.filter_append, ih]
      by_cases belongs : Belongs marketplaceId orderId refund.line
      · simp [belongs]
      · simp [belongs]

theorem refundTotal_doubled (refunds : List RefundRequest) :
    ((refunds.flatMap fun refund => [refund.line, refund.line]).map Line.amount).sum = 2 * refundTotal refunds := by
  induction refunds with
  | nil => exact (Rat.mul_zero 2).symm
  | cons refund rest ih =>
      rw [List.flatMap_cons, List.map_append, List.sum_append, ih, refundTotal, refundTotal]
      change refund.amount + (refund.amount + 0) + _ = 2 * (refund.amount + (rest.map RefundRequest.amount).sum)
      ring

/-- With no entry dropped, a report goes by twice the completed refunds against captured and authorized payments. -/
theorem reported_totals (tallied : Tallied engine) (named : orderId ≠ "") {governance : Option Bool} :
    Reported engine marketplaceId governance orderId ↔ refundsOf engine marketplaceId orderId ≠ [] ∧
      paidTotal (paymentsOf engine marketplaceId orderId .captured) +
          paidTotal (paymentsOf engine marketplaceId orderId .authorized) + tolerance <
        2 * refundTotal (refundsOf engine marketplaceId orderId) := by
  have amounts {counts : FinancialLedgerEntry → Bool} :
      (counted counts orderId (engine.ledger.report marketplaceId)).map FinancialLedgerEntry.amount =
        (((engine.ledger.entries.filter counts).map FinancialLedgerEntry.line).filter fun line =>
          Belongs marketplaceId orderId line).map Line.amount := by
    rw [← counted_report, List.map_map]
    rfl
  have refunds : (engine.refunds.filter completed).filter (fun refund => Belongs marketplaceId orderId refund.line) =
      refundsOf engine marketplaceId orderId := by
    rw [List.filter_filter, refundsOf]
    apply List.filter_congr
    intro refund _
    rw [Bool.and_comm, Bool.decide_and, Bool.decide_eq_true]
  have lines := tallied.refunded.filter fun line => Belongs marketplaceId orderId line
  rw [filter_doubled, refunds] at lines
  have some_ : counted refunding orderId (engine.ledger.report marketplaceId) ≠ [] ↔
      refundsOf engine marketplaceId orderId ≠ [] := by
    rw [ne_eq, ← List.map_eq_nil_iff (f := FinancialLedgerEntry.line), counted_report, ← List.length_eq_zero_iff,
      lines.length_eq, List.length_eq_zero_iff, List.flatMap_eq_nil_iff]
    refine not_congr ⟨fun empty => List.eq_nil_iff_forall_not_mem.mpr fun refund member => ?_, fun none => ?_⟩
    · exact List.cons_ne_nil _ _ (empty refund member)
    · rw [none]
      exact fun _ member => absurd member List.not_mem_nil
  rw [reported_iff named, some_, amounts, amounts, tallied.captured, paidTotal_counting, (lines.map Line.amount).sum_eq,
    refundTotal_doubled]

/-- The completed refunds of an order exceed its captured payments, in one currency. -/
def Exceeds (engine : Engine) (marketplaceId : Option String) (orderId : String) : Prop :=
  ∃ currency, paidTotal ((paymentsOf engine marketplaceId orderId .captured).filter fun event =>
      event.currency = currency) +
      tolerance <
    refundTotal ((refundsOf engine marketplaceId orderId).filter fun refund => refund.currency = currency)

/-- Twice what was refunded exceeds what was captured or authorized, exactly when in one currency what was
refunded exceeds what was captured. -/
def Commensurate (engine : Engine) (marketplaceId : Option String) (orderId : String) : Prop :=
  (refundsOf engine marketplaceId orderId ≠ [] ∧
      paidTotal (paymentsOf engine marketplaceId orderId .captured) +
          paidTotal (paymentsOf engine marketplaceId orderId .authorized) + tolerance <
        2 * refundTotal (refundsOf engine marketplaceId orderId)) ↔
    Exceeds engine marketplaceId orderId

/-- In a run in which the ledger drops no entry that counts, the report on an order goes by twice its completed
refunds, and it says what it should exactly when that comes to the same. -/
theorem refund_report_iff {engine : Engine} (reached : Reaches (step config) (Kept config) {} engine)
    (marketplaceId : Option String) (governance : Option Bool) {orderId : String} (named : orderId ≠ "") :
    (Reported engine marketplaceId governance orderId ↔ refundsOf engine marketplaceId orderId ≠ [] ∧
      paidTotal (paymentsOf engine marketplaceId orderId .captured) +
          paidTotal (paymentsOf engine marketplaceId orderId .authorized) + tolerance <
        2 * refundTotal (refundsOf engine marketplaceId orderId)) ∧
    ((Reported engine marketplaceId governance orderId ↔ Exceeds engine marketplaceId orderId) ↔
      Commensurate engine marketplaceId orderId) := by
  have tallied : Tallied engine := reached.invariant tallied_start fun tallied kept taken => tallied.step kept taken
  have totals := @reported_totals engine marketplaceId orderId tallied named governance
  exact ⟨totals, by rw [totals, Commensurate]⟩

/-- An adapter whose payloads are normalized already. -/
def normalized : Config RawEvent where
  adapter := { normalizeEvent := some, verifySignature := fun _ => true }

def paymentOf (status : String) (amount : Rat) : Command RawEvent :=
  .webhook
    { provider := "bank", providerEventId := "event", signature := some "signature",
      payload :=
        { provider := some "bank", providerEventId := some "event", rawStatus := some status, amount := some amount,
          orderId := some "order" } } "payev_1" "le_1"

/-- A small refund, which is completed at once. -/
def smallRefund : Command RawEvent :=
  .request { refundId := "", marketplaceId := "market", orderId := "order", listingId := "listing",
             tenantId := "tenant", amount := 30, currency := "USD", requestedBy := "user" }
    { refundId := "refund_1", requestedId := "le_2", approvedId := "le_3", completedId := "le_4" }

def afterPayment (status : String) (amount : Rat) : Engine := perform normalized {} (paymentOf status amount)

def afterRefund (status : String) (amount : Rat) : Engine := perform normalized (afterPayment status amount) smallRefund

theorem refund_covered :
    run (step normalized) {} [paymentOf "CAPTURED" 100, smallRefund] = some (afterRefund "CAPTURED" 100) ∧
      ¬ Reported (afterRefund "CAPTURED" 100) none none "order" := by
  have first : Reaches (step normalized) (Kept normalized) {} (afterPayment "CAPTURED" 100) := by
    have taken : step normalized {} (paymentOf "CAPTURED" 100) = some (afterPayment "CAPTURED" 100) := by decide
    have kept : Kept normalized {} (paymentOf "CAPTURED" 100) := fun _ _ _ _ => List.not_mem_nil
    exact .next .start kept taken
  have second : Reaches (step normalized) (Kept normalized) {} (afterRefund "CAPTURED" 100) := by
    have taken : step normalized (afterPayment "CAPTURED" 100) smallRefund = some (afterRefund "CAPTURED" 100) := by
      decide
    refine .next first ?_ taken
    intro done _ named _
    rw [named]
    exact ⟨by decide, by decide⟩
  refine ⟨by decide, fun reported => ?_⟩
  have totals := ((refund_report_iff second none none (by decide)).1.mp reported).2
  exact absurd totals (by decide +kernel)

/-- A refund of 30 on a captured payment of 50 is reported, and one on a payment of 100 that was only authorized
is not. -/
theorem refund_misreported :
    (∃ engine, run (step normalized) {} [paymentOf "CAPTURED" 50, smallRefund] = some engine ∧
      Reported engine none none "order" ∧ ¬ Exceeds engine none "order") ∧
    ∃ engine, run (step normalized) {} [paymentOf "AUTHORIZED" 100, smallRefund] = some engine ∧
      ¬ Reported engine none none "order" ∧ Exceeds engine none "order" := by
  refine ⟨⟨afterRefund "CAPTURED" 50, by decide +kernel, by decide +kernel, ?_⟩,
    afterRefund "AUTHORIZED" 100, by decide +kernel, by decide +kernel, "USD", by decide +kernel⟩
  rintro ⟨currency, exceeds⟩
  by_cases dollars : currency = "USD"
  · subst dollars
    exact absurd exceeds (by decide +kernel)
  · -- nothing of the order is in another currency
    have payments : ∀ event ∈ paymentsOf (afterRefund "CAPTURED" 50) none "order" .captured,
        event.currency = "USD" := by
      decide
    have refunds : ∀ refund ∈ refundsOf (afterRefund "CAPTURED" 50) none "order", refund.currency = "USD" := by
      decide
    have unpaid : (paymentsOf (afterRefund "CAPTURED" 50) none "order" .captured).filter
        (fun event => event.currency = currency) = [] := by
      apply List.filter_eq_nil_iff.mpr
      intro event member same
      exact dollars ((of_decide_eq_true same).symm.trans (payments event member))
    have unrefunded : (refundsOf (afterRefund "CAPTURED" 50) none "order").filter
        (fun refund => refund.currency = currency) = [] := by
      apply List.filter_eq_nil_iff.mpr
      intro refund member same
      exact dollars ((of_decide_eq_true same).symm.trans (refunds refund member))
    rw [unpaid, unrefunded] at exceeds
    exact absurd exceeds (by decide +kernel)

end AutonomousApi.FinancialHardening
