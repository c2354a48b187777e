import AutonomousApi.SettlementLaws

/-! What a reconciliation finds. Events are taken by the time they occurred and entries by the time they
were written, and an execution writes an entry that names its batch; where these differ a period
shows mismatches of a ledger that has every entry it should. -/

namespace AutonomousApi.Settlement

open RecordTable Runs

variable {Time : Type} [LinearOrder Time] {config : Config} {engine following : Engine Time} {command : Command Time}
  {marketplaceId : String} {periodStart periodEnd : Time} {event : FinancialEvent Time} {entry : LedgerEntry Time}
  {mismatch : ReconciliationMismatch}

section

omit [LinearOrder Time]

/-- The entry was written for the event. -/
structure EntryOf (event : FinancialEvent Time) (entry : LedgerEntry Time) : Prop where
  written : entry.entryType ≠ .settlement
  key : entry.idempotencyKey = event.idempotencyKey
  named : entry.eventId = some event.id
  marketplace : entry.marketplaceId = event.marketplaceId

/-- Every accepted event has its entry, and what is not the entry of one was written by an execution. -/
structure Paired (engine : Engine Time) : Prop where
  owned : ∀ event ∈ engine.events, ∃ entry ∈ engine.entries, EntryOf event entry
  written : ∀ entry ∈ engine.entries, entry.entryType = .settlement ∨ ∃ event ∈ engine.events, EntryOf event entry

theorem paired_start : Paired ({} : Engine Time) where
  owned _ member := absurd member List.not_mem_nil
  written _ member := absurd member List.not_mem_nil

theorem entryOf_entryFor {entryType : LedgerEntryType} (typed : entryTypeForEvent event.eventType = some entryType)
    (amount : Rat) (entryId : String) (now : Time) : EntryOf event (entryFor event entryType amount entryId now) where
  written := by
    rintro rfl
    cases kind : event.eventType <;> rw [kind] at typed <;> cases typed
  key := rfl
  named := rfl
  marketplace := rfl

theorem Paired.withEvent (paired : Paired engine) (own : EntryOf event entry) :
    Paired (withEvent engine event entry) where
  owned accepted member := by
    rcases List.mem_append.mp member with old | last
    · obtain ⟨entry, present, own⟩ := paired.owned accepted old
      exact ⟨entry, List.mem_append_left _ present, own⟩
    · rw [List.mem_singleton.mp last]
      exact ⟨entry, List.mem_append_right _ List.mem_cons_self, own⟩
  written present member := by
    rcases List.mem_append.mp member with old | last
    · exact (paired.written present old).imp id fun ⟨event, accepted, own⟩ =>
        ⟨event, List.mem_append_left _ accepted, own⟩
    · rw [List.mem_singleton.mp last]
      exact .inr ⟨event, List.mem_append_right _ List.mem_cons_self, own⟩

end

theorem Paired.kept (paired : Paired engine) (effect : Effect config engine command following) : Paired following := by
  cases effect with
  | ingested fresh new typed signed => exact paired.withEvent (entryOf_entryFor typed _ _ _)
  | @settled batchId providerRef entryId now batch fresh ready =>
      constructor
      · intro event accepted
        rw [settle_events] at accepted
        obtain ⟨entry, present, own⟩ := paired.owned event accepted
        rw [settle_entries]
        split
        · exact ⟨entry, present, own⟩
        · exact ⟨entry, List.mem_append_left _ present, own⟩
      · intro entry member
        rw [settle_events]
        rw [settle_entries] at member
        split at member
        · exact paired.written entry member
        · rcases List.mem_append.mp member with old | last
          · exact paired.written entry old
          · rw [List.mem_singleton.mp last]
            exact .inl rfl
  | _ => exact ⟨paired.owned, paired.written⟩

/-- The period separates no event of the marketplace from its entry, and no execution wrote in it. -/
structure Aligned (engine : Engine Time) (marketplaceId : String) (periodStart periodEnd : Time) : Prop where
  unsettled : ∀ entry ∈ engine.entries, entry.marketplaceId = marketplaceId →
    Within periodStart periodEnd entry.createdAt → entry.entryType ≠ .settlement
  together : ∀ event ∈ engine.events, ∀ entry ∈ engine.entries, event.marketplaceId = marketplaceId →
    entry.entryType ≠ .settlement → entry.idempotencyKey = event.idempotencyKey →
      (Within periodStart periodEnd event.occurredAt ↔ Within periodStart periodEnd entry.createdAt)
  named : ∀ event ∈ engine.events, event.marketplaceId = marketplaceId →
    Within periodStart periodEnd event.occurredAt → event.id ≠ ""

theorem mem_entriesForPeriod : entry ∈ entriesForPeriod engine marketplaceId periodStart periodEnd none ↔
    entry ∈ engine.entries ∧ entry.marketplaceId = marketplaceId ∧ Within periodStart periodEnd entry.createdAt := by
  simp [entriesForPeriod]

theorem mem_eventsForPeriod : event ∈ eventsForPeriod engine marketplaceId periodStart periodEnd ↔
    event ∈ engine.events ∧ event.marketplaceId = marketplaceId ∧ Within periodStart periodEnd event.occurredAt := by
  simp [eventsForPeriod]

theorem missingEntries_nil (paired : Paired engine) (aligned : Aligned engine marketplaceId periodStart periodEnd) :
    missingEntries marketplaceId (eventsForPeriod engine marketplaceId periodStart periodEnd)
      (entriesForPeriod engine marketplaceId periodStart periodEnd none) = [] := by
  rw [missingEntries, List.map_eq_nil_iff, List.filter_eq_nil_iff]
  intro event member
  obtain ⟨accepted, ofMarketplace, within⟩ := mem_eventsForPeriod.mp member
  obtain ⟨entry, present, own⟩ := paired.owned event accepted
  have created := (aligned.together event accepted entry present ofMarketplace own.written own.key).mp within
  have found : ∃ entry ∈ entriesForPeriod engine marketplaceId periodStart periodEnd none,
      entry.eventId = some event.id ∧ event.id ≠ "" :=
    ⟨entry, mem_entriesForPeriod.mpr ⟨present, own.marketplace.trans ofMarketplace, created⟩, own.named,
      aligned.named event accepted ofMarketplace within⟩
  simp only [decide_eq_true_eq, not_and, not_not]
  exact fun _ => found

theorem orphanEntries_nil (paired : Paired engine) (aligned : Aligned engine marketplaceId periodStart periodEnd) :
    orphanEntries marketplaceId (eventsForPeriod engine marketplaceId periodStart periodEnd)
      (entriesForPeriod engine marketplaceId periodStart periodEnd none) = [] := by
  rw [orphanEntries, List.map_eq_nil_iff, List.filter_eq_nil_iff]
  intro entry member
  obtain ⟨present, ofMarketplace, within⟩ := mem_entriesForPeriod.mp member
  have unsettled := aligned.unsettled entry present ofMarketplace within
  obtain ⟨event, accepted, own⟩ := (paired.written entry present).resolve_left unsettled
  have sold := own.marketplace.symm.trans ofMarketplace
  have occurred := (aligned.together event accepted entry present sold unsettled own.key).mpr within
  have found : ∃ event ∈ eventsForPeriod engine marketplaceId periodStart periodEnd, some event.id = entry.eventId :=
    ⟨event, mem_eventsForPeriod.mpr ⟨accepted, sold, occurred⟩, own.named.symm⟩
  simp only [decide_eq_true_eq, not_and, not_not]
  exact fun _ => found

section

omit [LinearOrder Time]

theorem recordMismatches_grown (known found : List ReconciliationMismatch) :
    ∃ added, recordMismatches known found = known ++ added ∧ added ⊆ found := by
  induction found generalizing known with
  | nil => exact ⟨[], (List.append_nil _).symm, List.Subset.refl _⟩
  | cons mismatch rest ih =>
      rw [recordMismatches]
      split
      · obtain ⟨added, grown, inside⟩ := ih known
        exact ⟨added, grown, List.subset_cons_of_subset _ inside⟩
      · obtain ⟨added, grown, inside⟩ := ih (known ++ [mismatch])
        refine ⟨mismatch :: added, ?_, List.cons_subset_cons _ inside⟩
        rw [grown, List.append_assoc, List.singleton_append]

theorem negativeBalances_spec (member : mismatch ∈ negativeBalances config engine marketplaceId) :
    mismatch.marketplaceId = marketplaceId ∧ mismatch.mismatchType = .negativeBalance ∧
      ∃ balance ∈ balancesByTenant engine marketplaceId, balance.2 < 0 := by
  obtain ⟨balance, inside, rfl⟩ := List.mem_map.mp member
  obtain ⟨held, below⟩ := List.mem_filter.mp inside
  exact ⟨rfl, rfl, balance, held, (of_decide_eq_true below).1⟩

end

theorem newMismatches_marketplace
    (member : mismatch ∈ newMismatches config engine marketplaceId periodStart periodEnd) :
    mismatch.marketplaceId = marketplaceId := by
  rcases List.mem_append.mp member with unmatched | negative
  · rcases List.mem_append.mp unmatched with missing | orphan
    · obtain ⟨event, -, rfl⟩ := List.mem_map.mp missing
      rfl
    · obtain ⟨entry, -, rfl⟩ := List.mem_map.mp orphan
      rfl
  · exact (negativeBalances_spec negative).1

theorem newMismatches_aligned (paired : Paired engine) (aligned : Aligned engine marketplaceId periodStart periodEnd) :
    newMismatches config engine marketplaceId periodStart periodEnd = negativeBalances config engine marketplaceId := by
  rw [newMismatches, missingEntries_nil paired aligned, orphanEntries_nil paired aligned]
  rfl

section

variable {allowed : MismatchType → Prop} {wanted : String}

omit [LinearOrder Time]

theorem recordMismatches_keyed {known : List ReconciliationMismatch} (found : List ReconciliationMismatch)
    (keyed : Keyed ReconciliationMismatch.id known) :
    Keyed ReconciliationMismatch.id (recordMismatches known found) := by
  induction found generalizing known with
  | nil => exact keyed
  | cons mismatch rest ih =>
      rw [recordMismatches]
      split
      · exact ih keyed
      case isFalse absent =>
          apply ih
          rw [← put_absent absent]
          exact keyed.put

/-- The mismatches of the marketplace are of the allowed kinds, and its reports name no others. -/
structure Only (allowed : MismatchType → Prop) (marketplaceId : String) (engine : Engine Time) : Prop where
  keyed : Keyed ReconciliationMismatch.id engine.mismatches
  recorded : ∀ mismatch ∈ engine.mismatches, mismatch.marketplaceId = marketplaceId → allowed mismatch.mismatchType
  reported : ∀ report ∈ engine.reports, report.marketplaceId = marketplaceId →
    (∀ mismatchId ∈ report.mismatchIds,
      ∃ mismatch ∈ engine.mismatches, mismatch.id = mismatchId ∧ mismatch.marketplaceId = marketplaceId) ∧
    (report.failed = true → report.mismatchIds ≠ [])

theorem only_start : Only allowed wanted ({} : Engine Time) where
  keyed := List.nodup_nil
  recorded _ member := absurd member List.not_mem_nil
  reported _ member := absurd member List.not_mem_nil

theorem Only.resolve (only : Only allowed wanted engine) (mismatchId actorId notes : String) :
    Only allowed wanted (resolveMismatch engine mismatchId actorId notes).1 := by
  rw [resolveMismatch]
  cases held : find ReconciliationMismatch.id engine.mismatches mismatchId with
  | none => exact only
  | some mismatch =>
      obtain ⟨member, named⟩ := mem_of_find held
      refine ⟨only.keyed.put, ?_, ?_⟩
      · intro other inside ofMarketplace
        rcases mem_put inside with rfl | old
        · exact only.recorded mismatch member ofMarketplace
        · exact only.recorded other old ofMarketplace
      · intro report made ofMarketplace
        obtain ⟨known, nonempty⟩ := only.reported report made ofMarketplace
        refine ⟨fun reportedId listed => ?_, nonempty⟩
        obtain ⟨found, old, rfl, ofSame⟩ := known reportedId listed
        by_cases same : found.id = mismatch.id
        · rw [only.keyed.unique old member same] at ofSame ⊢
          exact ⟨_, record_mem_put, rfl, ofSame⟩
        · exact ⟨found, mem_put_of_ne old same, rfl, ofSame⟩

end

variable {allowed : MismatchType → Prop} {wanted : String}

theorem Only.reconcile (only : Only allowed wanted engine)
    (found : marketplaceId = wanted → ∀ mismatch ∈ newMismatches config engine marketplaceId periodStart periodEnd,
      allowed mismatch.mismatchType) :
    Only allowed wanted (reconcile config engine marketplaceId periodStart periodEnd).1 := by
  obtain ⟨added, grown, inside⟩ := recordMismatches_grown engine.mismatches
    (newMismatches config engine marketplaceId periodStart periodEnd)
  refine ⟨recordMismatches_keyed _ only.keyed, ?_, ?_⟩
  · intro mismatch member ofMarketplace
    rw [Settlement.reconcile, grown] at member
    rcases List.mem_append.mp member with old | new
    · exact only.recorded mismatch old ofMarketplace
    · have reconciled := newMismatches_marketplace (inside new)
      exact found (reconciled.symm.trans ofMarketplace) mismatch (inside new)
  · intro report member ofMarketplace
    rcases List.mem_append.mp member with old | new
    · obtain ⟨known, nonempty⟩ := only.reported report old ofMarketplace
      refine ⟨fun mismatchId listed => ?_, nonempty⟩
      obtain ⟨mismatch, present, named⟩ := known mismatchId listed
      refine ⟨mismatch, ?_, named⟩
      rw [Settlement.reconcile, grown]
      exact List.mem_append_left _ present
    · cases List.mem_singleton.mp new
      constructor
      · intro mismatchId listed
        obtain ⟨mismatch, opened, rfl⟩ := List.mem_map.mp listed
        obtain ⟨present, ofSame⟩ := List.mem_filter.mp opened
        exact ⟨mismatch, present, rfl, (of_decide_eq_true ofSame).1.trans ofMarketplace⟩
      · intro failed nothing
        rw [List.map_eq_nil_iff] at nothing
        rw [nothing] at failed
        cases failed

/-- Each reconciliation of the marketplace is over a period that separates nothing. -/
def Steady (marketplaceId : String) (engine : Engine Time) (command : Command Time) : Prop :=
  ∀ periodStart periodEnd, command = .reconcile marketplaceId periodStart periodEnd →
    Aligned engine marketplaceId periodStart periodEnd

/-- Each reconciliation of the marketplace sees no negative balance. -/
def Solvent (marketplaceId : String) (engine : Engine Time) (command : Command Time) : Prop :=
  ∀ periodStart periodEnd, command = .reconcile marketplaceId periodStart periodEnd →
    ∀ balance ∈ balancesByTenant engine marketplaceId, 0 ≤ balance.2

/-- What the reconciliations of the marketplace find decides what it ever has. -/
theorem Only.kept (only : Only allowed wanted engine) (effect : Effect config engine command following)
    (found : ∀ periodStart periodEnd, command = .reconcile wanted periodStart periodEnd →
      ∀ mismatch ∈ newMismatches config engine wanted periodStart periodEnd, allowed mismatch.mismatchType) :
    Only allowed wanted following := by
  cases effect with
  | reconciled =>
      refine only.reconcile fun same => ?_
      cases same
      exact found _ _ rfl
  | resolved done =>
      rw [← done]
      exact only.resolve _ _ _
  | settled fresh ready =>
      rw [settle, offset]
      split <;> exact ⟨only.keyed, only.recorded, only.reported⟩
  | _ => exact ⟨only.keyed, only.recorded, only.reported⟩

omit [LinearOrder Time] in
theorem Only.unblocked (only : Only (fun _ => False) marketplaceId engine) :
    hasBlockingMismatches engine marketplaceId = false ∧
      (latestReport engine marketplaceId).any ReconciliationReport.failed = false := by
  constructor
  · rw [hasBlockingMismatches, List.any_eq_false]
    intro mismatch member blocking
    exact only.recorded mismatch member (of_decide_eq_true blocking).1
  · cases latest : latestReport engine marketplaceId with
    | none => rfl
    | some report =>
        have found : (engine.reports.reverse.find? fun report => report.marketplaceId = marketplaceId) = some report :=
          latest
        have made := List.mem_reverse.mp (List.mem_of_find?_eq_some found)
        have ofMarketplace : report.marketplaceId = marketplaceId := by simpa using List.find?_some found
        obtain ⟨known, nonempty⟩ := only.reported report made ofMarketplace
        cases failed : report.failed with
        | false => exact failed
        | true =>
            obtain ⟨mismatchId, listed⟩ := List.exists_mem_of_ne_nil _ (nonempty failed)
            obtain ⟨mismatch, member, -, ofMarketplace⟩ := known mismatchId listed
            exact (only.recorded mismatch member ofMarketplace).elim

/-- A marketplace whose reconciled periods separate nothing is only ever told of negative balances, and one
that has none of these either is not blocked. -/
theorem reconciliation_sound (config : Config) (marketplaceId : String) :
    (∀ engine : Engine Time, Reaches (step config) (Steady marketplaceId) {} engine →
      (∀ mismatch ∈ engine.mismatches, mismatch.marketplaceId = marketplaceId →
        mismatch.mismatchType = .negativeBalance) ∧
      ∀ report ∈ engine.reports, report.marketplaceId = marketplaceId → ∀ mismatchId ∈ report.mismatchIds,
        ∃ mismatch ∈ engine.mismatches, mismatch.id = mismatchId ∧ mismatch.mismatchType = .negativeBalance) ∧
    ∀ engine : Engine Time, Reaches (step config)
        (fun engine command => Steady marketplaceId engine command ∧ Solvent marketplaceId engine command) {} engine →
      hasBlockingMismatches engine marketplaceId = false ∧
        (latestReport engine marketplaceId).any ReconciliationReport.failed = false := by
  constructor
  · intro engine reached
    have strong : Paired engine ∧ Only (· = .negativeBalance) marketplaceId engine := by
      apply reached.invariant ⟨paired_start, only_start⟩
      rintro engine command following ⟨paired, only⟩ steady taken
      have effect := step_effect taken
      refine ⟨paired.kept effect, only.kept effect fun periodStart periodEnd reconciles mismatch member => ?_⟩
      rw [newMismatches_aligned paired (steady _ _ reconciles)] at member
      exact (negativeBalances_spec member).2.1
    refine ⟨strong.2.recorded, fun report made ofMarketplace mismatchId listed => ?_⟩
    obtain ⟨mismatch, member, named, ofSame⟩ := (strong.2.reported report made ofMarketplace).1 mismatchId listed
    exact ⟨mismatch, member, named, strong.2.recorded mismatch member ofSame⟩
  · intro engine reached
    have strong : Paired engine ∧ Only (fun _ => False) marketplaceId engine := by
      apply reached.invariant ⟨paired_start, only_start⟩
      rintro engine command following ⟨paired, only⟩ ⟨steady, solvent⟩ taken
      have effect := step_effect taken
      refine ⟨paired.kept effect, only.kept effect fun periodStart periodEnd reconciles mismatch member => ?_⟩
      rw [newMismatches_aligned paired (steady _ _ reconciles)] at member
      obtain ⟨balance, held, below⟩ := (negativeBalances_spec member).2.2
      exact absurd below (not_lt.mpr (solvent _ _ reconciles balance held))
    exact strong.2.unblocked

def silent : Config := { moneyText := fun _ => "" }

/-- A sale at time 1. -/
def firstSale : FinancialEvent Nat :=
  { id := "sale", idempotencyKey := "key", eventType := .paymentCaptured, marketplaceId := "market",
    tenantId := "tenant", amount := 100, occurredAt := 1 }

def ledgered : Engine Nat := (perform silent {} (.ingest firstSale "entry" 1)).1

def reconciled : Engine Nat := (perform silent ledgered (.reconcile "market" 0 5)).1

theorem sale_reconciled :
    run (step silent) {} [.ingest firstSale "entry" 1, .reconcile "market" 0 5] = some reconciled ∧
      hasBlockingMismatches reconciled "market" = false ∧
      (latestReport reconciled "market").any ReconciliationReport.failed = false := by
  have first : Reaches (step silent) (fun engine command => Steady "market" engine command ∧
      Solvent "market" engine command) {} ledgered := by
    have taken : step silent {} (.ingest firstSale "entry" 1) = some ledgered := by decide
    refine .next .start ⟨fun _ _ other => ?_, fun _ _ other => ?_⟩ taken
    · cases other
    · cases other
  have second : Reaches (step silent) (fun engine command => Steady "market" engine command ∧
      Solvent "market" engine command) {} reconciled := by
    have taken : step silent ledgered (.reconcile "market" 0 5) = some reconciled := by decide +kernel
    refine .next first ⟨fun periodStart periodEnd same => ?_, fun periodStart periodEnd same => ?_⟩ taken
    · cases same
      exact ⟨by decide, by decide, by decide⟩
    · cases same
      decide +kernel
  exact ⟨by decide +kernel, (reconciliation_sound silent "market").2 reconciled second⟩

/-- A settlement is reconciled after it, and a sale that came in late. Each time the ledger has every entry
it should and no balance is negative, and the marketplace is blocked. -/
theorem sound_ledger_blocked :
    (∃ engine, run (step silent) {} [.ingest firstSale "entry" 1, .create "market" "tenant" "USD" 0 5 "batch" 2,
        .approve "batch" none (some { decision := .allow }), .execute "batch" (.ok "transfer") "offset" 3,
        .reconcile "market" 0 5] = some engine ∧
      engine.mismatches.map (fun mismatch => (mismatch.mismatchType, mismatch.entityId)) =
        [(.orphanLedgerEntry, "offset")] ∧
      balancesByTenant engine "market" = [(("tenant", "USD"), 0)] ∧ hasBlockingMismatches engine "market" = true) ∧
    ∃ engine, run (step silent) {} [.ingest firstSale "entry" 6, .reconcile "market" 0 5] = some engine ∧
      engine.mismatches.map (fun mismatch => (mismatch.mismatchType, mismatch.entityId)) =
        [(.missingLedgerEntry, "sale")] ∧
      engine.entries.map LedgerEntry.eventId = [some "sale"] ∧ hasBlockingMismatches engine "market" = true := by
  have settled : (run (step silent) {} [.ingest firstSale "entry" 1,
      .create "market" "tenant" "USD" 0 5 "batch" 2, .approve "batch" none (some { decision := .allow }),
      .execute "batch" (.ok "transfer") "offset" 3, .reconcile "market" 0 5]).map (fun engine =>
        (engine.mismatches.map (fun mismatch => (mismatch.mismatchType, mismatch.entityId)),
          balancesByTenant engine "market", hasBlockingMismatches engine "market")) =
      some ([(.orphanLedgerEntry, "offset")], [(("tenant", "USD"), 0)], true) := by
    decide +kernel
  have late : (run (step silent) {} [.ingest firstSale "entry" 6, .reconcile "market" 0 5]).map (fun engine =>
        (engine.mismatches.map (fun mismatch => (mismatch.mismatchType, mismatch.entityId)),
          engine.entries.map LedgerEntry.eventId, hasBlockingMismatches engine "market")) =
      some ([(.missingLedgerEntry, "sale")], [some "sale"], true) := by
    decide +kernel
  obtain ⟨after, ran, seen⟩ := Option.map_eq_some_iff.mp settled
  obtain ⟨behind, delayed, told⟩ := Option.map_eq_some_iff.mp late
  simp only [Prod.mk.injEq] at seen told
  exact ⟨⟨after, ran, seen⟩, behind, delayed, told⟩

end AutonomousApi.Settlement
