import AutonomousApi.SettlementLaws

/-! The ledger balances: for every marketplace, tenant and currency, what its entries come to is what the
accepted events come to, less what was paid out for its batches. -/

namespace AutonomousApi.Settlement

open Runs

variable {Time : Type} [LinearOrder Time] {config : Config} {engine following final : Engine Time}
  {batch : SettlementBatch Time} {command : Command Time} {marketplaceId tenantId currency providerRef entryId : String}
  {now : Time}

section

omit [LinearOrder Time]

/-- The signed amounts of the accepted events. -/
def eventTotal (engine : Engine Time) (marketplaceId tenantId currency : String) : Rat :=
  ((engine.events.filter fun event =>
    event.marketplaceId = marketplaceId ∧ event.tenantId = tenantId ∧ event.currency = currency).map fun event =>
      (signedAmount event).getD 0).sum

/-- A completed payout in the currency for a paid batch of the tenant. -/
def PaysOut (engine : Engine Time) (marketplaceId tenantId currency : String) (payout : PayoutInstruction) : Prop :=
  payout.status = "COMPLETED" ∧ payout.currency = currency ∧
    ∃ batch ∈ getBatch engine payout.settlementBatchId,
      batch.status = .settled ∧ batch.marketplaceId = marketplaceId ∧ batch.tenantId = tenantId

instance (payout : PayoutInstruction) : Decidable (PaysOut engine marketplaceId tenantId currency payout) :=
  inferInstanceAs (Decidable (_ ∧ _ ∧ _))

def payoutTotal (engine : Engine Time) (marketplaceId tenantId currency : String) : Rat :=
  ((engine.payouts.filter fun payout => PaysOut engine marketplaceId tenantId currency payout).map
    PayoutInstruction.amount).sum

theorem sum_filter_snoc {Item : Type} (items : List Item) (item : Item) (belongs : Item → Prop) [DecidablePred belongs]
    (amount : Item → Rat) : (((items ++ [item]).filter fun item => belongs item).map amount).sum =
      ((items.filter fun item => belongs item).map amount).sum + if belongs item then amount item else 0 := by
  rw [List.filter_append, List.map_append, List.sum_append]
  by_cases inside : belongs item
  · simp [inside]
  · simp [inside]

/-- The accounts of every marketplace, tenant and currency balance; every payout belongs to a paid batch, and
no event was accepted twice or without a readable amount. -/
structure Conserved (engine : Engine Time) : Prop where
  balanced : ∀ marketplaceId tenantId currency, ledgerTotal engine marketplaceId tenantId currency =
    eventTotal engine marketplaceId tenantId currency - payoutTotal engine marketplaceId tenantId currency
  covered : ∀ payout ∈ engine.payouts,
    ∃ batch, getBatch engine payout.settlementBatchId = some batch ∧ batch.status = .settled
  distinct : (engine.events.map FinancialEvent.idempotencyKey).Nodup
  known : ∀ event ∈ engine.events, event.idempotencyKey ∈ engine.idempotencyKeys
  readable : ∀ event ∈ engine.events, (signedAmount event).isSome

theorem conserved_start : Conserved ({} : Engine Time) where
  balanced _ _ _ := (sub_zero _).symm
  covered _ member := absurd member List.not_mem_nil
  distinct := List.nodup_nil
  known _ member := absurd member List.not_mem_nil
  readable _ member := absurd member List.not_mem_nil

theorem Conserved.withEvent (conserved : Conserved engine) {event : FinancialEvent Time} {entryType : LedgerEntryType}
    {amount : Rat} (new : event.idempotencyKey ∉ engine.idempotencyKeys) (signed : signedAmount event = some amount) :
    Conserved (withEvent engine event (entryFor event entryType amount entryId now)) where
  balanced marketplaceId tenantId currency := by
    have before := conserved.balanced marketplaceId tenantId currency
    have paid : payoutTotal (Settlement.withEvent engine event (entryFor event entryType amount entryId now))
        marketplaceId tenantId currency = payoutTotal engine marketplaceId tenantId currency := rfl
    rw [paid]
    rw [ledgerTotal, eventTotal] at before ⊢
    rw [Settlement.withEvent, sum_filter_snoc, sum_filter_snoc, before, signed, Option.getD_some]
    -- the entry has the event's marketplace, tenant and currency
    exact sub_add_eq_add_sub _ _ _
  covered := conserved.covered
  distinct := by
    rw [Settlement.withEvent, List.map_append, List.nodup_append]
    refine ⟨conserved.distinct, List.nodup_singleton _, ?_⟩
    rintro key old _ last rfl
    obtain ⟨accepted, member, rfl⟩ := List.mem_map.mp old
    exact new (List.mem_singleton.mp last ▸ conserved.known accepted member)
  known accepted member := by
    rcases List.mem_append.mp member with old | last
    · exact List.mem_cons_of_mem _ (conserved.known accepted old)
    · exact List.mem_singleton.mp last ▸ List.mem_cons_self
  readable accepted member := by
    rcases List.mem_append.mp member with old | last
    · exact conserved.readable accepted old
    · rw [List.mem_singleton.mp last, signed]
      rfl

/-- No payout belongs to a batch that is not paid. -/
theorem Conserved.apart (conserved : Conserved engine) {batchId : String}
    (unpaid : ∀ old, getBatch engine batchId = some old → old.status ≠ .settled) {payout : PayoutInstruction}
    (member : payout ∈ engine.payouts) : batchId ≠ payout.settlementBatchId := by
  intro same
  obtain ⟨paid, held, settled⟩ := conserved.covered payout member
  exact unpaid paid (same ▸ held) settled

theorem paysOut_congr {payout : PayoutInstruction}
    (unmoved : getBatch following payout.settlementBatchId = getBatch engine payout.settlementBatchId) :
    PaysOut following marketplaceId tenantId currency payout ↔
      PaysOut engine marketplaceId tenantId currency payout := by
  rw [PaysOut, PaysOut, unmoved]

theorem filter_paysOut (unmoved : ∀ payout ∈ engine.payouts,
      getBatch following payout.settlementBatchId = getBatch engine payout.settlementBatchId) :
    (engine.payouts.filter fun payout => PaysOut following marketplaceId tenantId currency payout) =
      engine.payouts.filter fun payout => PaysOut engine marketplaceId tenantId currency payout := by
  apply List.filter_congr
  intro payout member
  rw [decide_eq_decide]
  exact paysOut_congr (unmoved payout member)

theorem Conserved.saveBatch (conserved : Conserved engine)
    (unpaid : ∀ old, getBatch engine batch.id = some old → old.status ≠ .settled) :
    Conserved (saveBatch engine batch) := by
  have unmoved : ∀ payout ∈ engine.payouts, getBatch (Settlement.saveBatch engine batch) payout.settlementBatchId =
      getBatch engine payout.settlementBatchId := by
    intro payout member
    rw [getBatch_saveBatch, if_neg (conserved.apart unpaid member)]
  refine ⟨fun marketplaceId tenantId currency => ?_, fun payout member => ?_, conserved.distinct, conserved.known,
    conserved.readable⟩
  · rw [payoutTotal, show (Settlement.saveBatch engine batch).payouts = engine.payouts from rfl, filter_paysOut unmoved]
    exact conserved.balanced marketplaceId tenantId currency
  · rw [unmoved payout member]
    exact conserved.covered payout member

/-- What the payment of a batch takes from an account. -/
def taken (batch : SettlementBatch Time) (marketplaceId tenantId currency : String) : Rat :=
  if batch.marketplaceId = marketplaceId ∧ batch.tenantId = tenantId ∧ batch.currency = currency then batch.netAmount
  else 0

theorem ledgerTotal_settle : ledgerTotal (settle engine batch providerRef entryId now) marketplaceId tenantId currency =
    ledgerTotal engine marketplaceId tenantId currency - taken batch marketplaceId tenantId currency := by
  rw [ledgerTotal, ledgerTotal, settle_entries, taken]
  split
  case isTrue nothing =>
      -- without a net amount there is neither an entry nor anything to take
      rw [nothing, ite_self, sub_zero]
  case isFalse =>
      rw [sum_filter_snoc, sub_eq_add_neg]
      congr 1
      rw [apply_ite Neg.neg, neg_zero]
      rfl

/-- The new payout is for the batch that is now paid, and what it pays is what is taken. -/
theorem payoutTotal_settle (unmoved : ∀ payout ∈ engine.payouts,
      getBatch (settle engine batch providerRef entryId now) payout.settlementBatchId =
        getBatch engine payout.settlementBatchId) :
    payoutTotal (settle engine batch providerRef entryId now) marketplaceId tenantId currency =
      payoutTotal engine marketplaceId tenantId currency + taken batch marketplaceId tenantId currency := by
  rw [payoutTotal, settle_payouts, sum_filter_snoc, filter_paysOut unmoved, payoutTotal, taken]
  congr 1
  have paid : PaysOut (settle engine batch providerRef entryId now) marketplaceId tenantId currency
      (payoutFor batch providerRef) ↔
        batch.marketplaceId = marketplaceId ∧ batch.tenantId = tenantId ∧ batch.currency = currency := by
    rw [PaysOut, getBatch_settle, if_pos (show batch.id = (payoutFor batch providerRef).settlementBatchId from rfl)]
    constructor
    · rintro ⟨-, inCurrency, found, inside, -, ofMarketplace, ofTenant⟩
      cases Option.mem_some_iff.mp inside
      exact ⟨ofMarketplace, ofTenant, inCurrency⟩
    · rintro ⟨ofMarketplace, ofTenant, inCurrency⟩
      exact ⟨rfl, inCurrency, batch.paid providerRef, rfl, rfl, ofMarketplace, ofTenant⟩
  simp only [paid]
  rfl

theorem Conserved.settle (conserved : Conserved engine) (held : getBatch engine batch.id = some batch)
    (unpaid : batch.status ≠ .settled) : Conserved (settle engine batch providerRef entryId now) := by
  have apart {payout : PayoutInstruction} (member : payout ∈ engine.payouts) : batch.id ≠ payout.settlementBatchId := by
    refine conserved.apart (fun old found => ?_) member
    cases held.symm.trans found
    exact unpaid
  have unmoved : ∀ payout ∈ engine.payouts,
      getBatch (Settlement.settle engine batch providerRef entryId now) payout.settlementBatchId =
        getBatch engine payout.settlementBatchId := by
    intro payout member
    rw [getBatch_settle, if_neg (apart member)]
  refine ⟨fun marketplaceId tenantId currency => ?_, fun payout member => ?_, ?_, fun event member => ?_, ?_⟩
  · rw [ledgerTotal_settle, payoutTotal_settle unmoved, conserved.balanced, eventTotal, eventTotal, settle_events]
    abel
  · rw [settle_payouts] at member
    rcases List.mem_append.mp member with old | last
    · rw [unmoved payout old]
      exact conserved.covered payout old
    · have named : batch.id = (payoutFor batch providerRef).settlementBatchId := rfl
      rw [List.mem_singleton.mp last, getBatch_settle, if_pos named]
      exact ⟨_, rfl, rfl⟩
  · rw [settle_events]
    exact conserved.distinct
  · rw [settle_events] at member
    have known := conserved.known event member
    rw [Settlement.settle, offset]
    split
    · exact known
    · exact List.mem_cons_of_mem _ known
  · rw [settle_events]
    exact conserved.readable

end

theorem Conserved.kept (conserved : Conserved engine) (effect : Effect config engine command following) :
    Conserved following := by
  cases effect with
  | same _ => exact conserved
  | ingested fresh new typed signed => exact conserved.withEvent new signed
  | created fresh made =>
      refine conserved.saveBatch fun old held => ?_
      obtain ⟨member, named⟩ := mem_of_getBatch held
      have present := @List.mem_map_of_mem _ _ _ _ SettlementBatch.id member
      rw [named] at present
      exact absurd present fresh
  | marked held unfinished _ _ =>
      refine conserved.saveBatch fun old found => ?_
      cases held.symm.trans found
      exact unfinished.unpaid
  | settled fresh ready =>
      obtain ⟨held, rfl, approved⟩ := executable_ok ready
      exact conserved.settle held (unfinished_of_approved approved).unpaid
  | reconciled => exact ⟨conserved.balanced, conserved.covered, conserved.distinct, conserved.known, conserved.readable⟩
  | resolved => exact ⟨conserved.balanced, conserved.covered, conserved.distinct, conserved.known, conserved.readable⟩

section

omit [LinearOrder Time]

theorem ledgerTotal_approve {batchId : String} {approvalRef : Option String} {answer : Option GovernanceDecision} :
    ledgerTotal (approveSettlement config engine batchId approvalRef answer).1 marketplaceId tenantId currency =
      ledgerTotal engine marketplaceId tenantId currency := by
  rw [approveSettlement]
  repeat' split
  all_goals rfl

theorem ledgerTotal_execute_raised {batchId : String} {adapter : Except String String} {error : SettlementError}
    (raised : (executeSettlement config engine batchId adapter entryId now).2 = .error error) :
    ledgerTotal (executeSettlement config engine batchId adapter entryId now).1 marketplaceId tenantId currency =
      ledgerTotal engine marketplaceId tenantId currency := by
  rw [executeSettlement] at raised ⊢
  cases ready : executable config engine batchId with
  | error _ => rfl
  | ok batch =>
      rw [ready] at raised
      cases adapter with
      | error _ => rfl
      | ok providerRef => cases raised

end

/-- In every state a run gets to the accounts balance, and an approval or an execution that raises moves
no balance. -/
theorem ledger_conserved (config : Config) (actions : List (Command Time)) (marketplaceId tenantId currency : String) :
    (∀ final ∈ run (step config) {} actions,
      (final.events.map FinancialEvent.idempotencyKey).Nodup ∧ (∀ event ∈ final.events, (signedAmount event).isSome) ∧
        ledgerTotal final marketplaceId tenantId currency =
          eventTotal final marketplaceId tenantId currency - payoutTotal final marketplaceId tenantId currency) ∧
    ∀ (engine : Engine Time) command,
      (∃ batchId approvalRef answer, command = .approve batchId approvalRef answer) ∨
        (∃ batchId adapter entryId now, command = .execute batchId adapter entryId now) →
      (perform config engine command).2.isSome →
      ledgerTotal (perform config engine command).1 marketplaceId tenantId currency =
        ledgerTotal engine marketplaceId tenantId currency := by
  constructor
  · intro final ran
    have conserved : Conserved final :=
      run_invariant conserved_start (fun conserved taken => conserved.kept (step_effect taken)) ran
    exact ⟨conserved.distinct, conserved.readable, conserved.balanced marketplaceId tenantId currency⟩
  · rintro engine command (⟨batchId, approvalRef, answer, rfl⟩ | ⟨batchId, adapter, entryId, now, rfl⟩) raised
    · exact ledgerTotal_approve
    · rw [perform] at raised ⊢
      cases ended : (executeSettlement config engine batchId adapter entryId now).2 with
      | ok batch =>
          simp only [ended] at raised
          cases raised
      | error error => exact ledgerTotal_execute_raised ended

def sale : FinancialEvent Nat :=
  { id := "event", idempotencyKey := "key", eventType := .paymentCaptured, marketplaceId := "market",
    tenantId := "tenant", amount := 100, occurredAt := 1 }

/-- A sale that is paid out. -/
def paidSale : List (Command Nat) :=
  [.ingest sale "entry" 1, .create "market" "tenant" "USD" 0 5 "batch" 2,
    .approve "batch" none (some { decision := .allow }), .execute "batch" (.ok "transfer") "offset" 6]

theorem sale_conserved : ∃ final, run (step { moneyText := fun _ => "" }) {} paidSale = some final ∧
    ledgerTotal final "market" "tenant" "USD" =
      eventTotal final "market" "tenant" "USD" - payoutTotal final "market" "tenant" "USD" ∧
    ledgerTotal (perform { moneyText := fun _ => "" } final (.execute "absent" (.ok "transfer") "further" 7)).1
      "market" "tenant" "USD" = ledgerTotal final "market" "tenant" "USD" := by
  have batches : (run (step { moneyText := fun _ => "" }) {} paidSale).map (fun engine => getBatch engine "absent") =
      some none := by
    decide +kernel
  obtain ⟨final, ran, absent⟩ := Option.map_eq_some_iff.mp batches
  have conserved := ledger_conserved { moneyText := fun _ => "" } paidSale "market" "tenant" "USD"
  refine ⟨final, ran, (conserved.1 final ran).2.2, conserved.2 final _ (.inr ⟨_, _, _, _, rfl⟩) ?_⟩
  rw [perform, executeSettlement, executable, absent]
  rfl

/-- Every paid batch has one payout, and every payout a paid batch. -/
structure PaidOnce (engine : Engine Time) : Prop where
  booked : Booked engine
  single : (engine.payouts.map PayoutInstruction.settlementBatchId).Nodup
  exact : ∀ batchId, batchId ∈ engine.payouts.map PayoutInstruction.settlementBatchId ↔
    ∃ batch, Settled engine batch ∧ batch.id = batchId

theorem PaidOnce.kept (paid : PaidOnce engine) (effect : Effect config engine command following) :
    PaidOnce following := by
  by_cases pays : ∃ batch, Pays config engine batch command
  · obtain ⟨batch, pays⟩ := pays
    obtain ⟨held, approved, providerRef, entryId, now, rfl⟩ := effect.pays pays
    have unpaid := (unfinished_of_approved approved).unpaid
    have payouts : (settle engine batch providerRef entryId now).payouts.map PayoutInstruction.settlementBatchId =
        engine.payouts.map PayoutInstruction.settlementBatchId ++ [batch.id] := by
      rw [settle_payouts, List.map_append]
      rfl
    -- an approved batch was not paid before
    have unseen : batch.id ∉ engine.payouts.map PayoutInstruction.settlementBatchId := by
      intro seen
      obtain ⟨old, ⟨member, settled⟩, same⟩ := (paid.exact _).mp seen
      exact paid.booked.replaced held unpaid old member same settled
    refine ⟨paid.booked.kept effect, ?_, fun batchId => ?_⟩
    · rw [payouts, ← List.concat_eq_append]
      exact paid.single.concat unseen
    · simp only [payouts, List.mem_append, List.mem_singleton, paid.exact, settled_settle paid.booked held unpaid,
        or_and_right, exists_or, exists_eq_left]
      rw [or_comm, eq_comm]
      rfl
  · have same := paid.booked.settled_same effect (not_exists.mp pays)
    have payouts : following.payouts = engine.payouts := by
      cases effect with
      | settled fresh ready => exact absurd ⟨_, ready⟩ pays
      | _ => rfl
    exact ⟨paid.booked.kept effect, payouts ▸ paid.single, fun batchId => by simp only [payouts, same, paid.exact]⟩

/-- In every run each batch that was paid has exactly one payout, and there is no other payout. -/
theorem payouts_exact {actions : List (Command Time)} (finished : run (step config) {} actions = some final) :
    (final.payouts.map PayoutInstruction.settlementBatchId).Nodup ∧
      ∀ batchId, batchId ∈ final.payouts.map PayoutInstruction.settlementBatchId ↔
        ∃ batch ∈ final.batches, batch.status = .settled ∧ batch.id = batchId := by
  have start : PaidOnce ({} : Engine Time) := ⟨booked_start, List.nodup_nil, by simp [Settled]⟩
  have paid : PaidOnce final := run_invariant start (fun paid taken => paid.kept (step_effect taken)) finished
  refine ⟨paid.single, fun batchId => (paid.exact batchId).trans ?_⟩
  simp only [Settled, and_assoc]

theorem paidSale_payouts : ∃ final, run (step { moneyText := fun _ => "" }) {} paidSale = some final ∧
    (final.payouts.map PayoutInstruction.settlementBatchId).Nodup := by
  have ran : (run (step { moneyText := fun _ => "" }) {} paidSale).isSome = true := by decide +kernel
  obtain ⟨final, finished⟩ := Option.isSome_iff_exists.mp ran
  exact ⟨final, finished, (payouts_exact finished).1⟩

/-- What is fixed at one time is there later. -/
structure Later (engine later : Engine Time) : Prop where
  booked : Booked later
  grown : engine.entries <+: later.entries
  stays : ∀ batch, Settled engine batch → Settled later batch

/-- No later call takes an entry off the ledger or touches a batch that was paid. -/
theorem paid_final {before after : List (Command Time)} {middle : Engine Time}
    (ran : run (step config) {} before = some middle) (finished : run (step config) middle after = some final) :
    middle.entries <+: final.entries ∧ ∀ batch ∈ middle.batches, batch.status = .settled → batch ∈ final.batches := by
  have booked : Booked middle := run_invariant booked_start (fun booked taken => booked.kept (step_effect taken)) ran
  have last : Later middle final := by
    refine run_invariant ⟨booked, List.prefix_rfl, fun _ => id⟩ ?_ finished
    rintro state action next ⟨sound, grown, stays⟩ taken
    have effect := step_effect taken
    obtain ⟨added, entries⟩ := effect.grown
    refine ⟨sound.kept effect, grown.trans ⟨added, entries.symm⟩, fun batch settled => ?_⟩
    -- an execution that pays adds one paid batch, and nothing else touches them
    by_cases pays : ∃ paid, Pays config state paid action
    · obtain ⟨paid, pays⟩ := pays
      obtain ⟨held, approved, providerRef, entryId, now, rfl⟩ := effect.pays pays
      exact (settled_settle sound held (unfinished_of_approved approved).unpaid).mpr (.inr (stays batch settled))
    · exact (sound.settled_same effect (not_exists.mp pays) batch).mpr (stays batch settled)
  exact ⟨last.grown, fun batch member settled => (last.stays batch ⟨member, settled⟩).1⟩

theorem paidSale_final : ∃ middle final, run (step { moneyText := fun _ => "" }) {} paidSale = some middle ∧
    run (step { moneyText := fun _ => "" }) middle [.ingest sale "again" 7] = some final ∧
      middle.entries <+: final.entries := by
  have ran : (run (step { moneyText := fun _ => "" }) {} (paidSale ++ [.ingest sale "again" 7])).isSome = true := by
    decide +kernel
  obtain ⟨final, finished⟩ := Option.isSome_iff_exists.mp ran
  rw [run_append] at finished
  obtain ⟨middle, before, after⟩ := Option.bind_eq_some_iff.mp finished
  exact ⟨middle, final, before, after, (paid_final before after).1⟩

end AutonomousApi.Settlement
