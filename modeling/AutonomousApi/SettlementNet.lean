import AutonomousApi.SettlementLaws

/-! What a batch pays. It should be what came in for its tenant in its currency and period and was not
paid before; the entry that an execution writes against its own payment is one that later batches
pick up. -/

namespace AutonomousApi.Settlement

open Runs

variable {Time : Type} [LinearOrder Time] {config : Config} {engine following : Engine Time}
  {batch other : SettlementBatch Time} {command : Command Time} {entry : LedgerEntry Time}
  {batchId entryId providerRef : String} {now : Time}

section

/-- An entry made for an event that the batch is for, unless a paid batch has it already. -/
def Outstanding (engine : Engine Time) (batch : SettlementBatch Time) (entry : LedgerEntry Time) : Prop :=
  entry.entryType ≠ .settlement ∧ entry.marketplaceId = batch.marketplaceId ∧ entry.tenantId = batch.tenantId ∧
    entry.currency = batch.currency ∧ Within batch.periodStart batch.periodEnd entry.createdAt ∧
    ¬ ∃ paid ∈ engine.batches, paid.status = .settled ∧ entry.id ∈ paid.entryIds

instance : Decidable (Outstanding engine batch entry) := inferInstanceAs (Decidable (_ ∧ _ ∧ _ ∧ _ ∧ _ ∧ ¬ _))

def outstanding (engine : Engine Time) (batch : SettlementBatch Time) (entries : List (LedgerEntry Time)) : Rat :=
  ((entries.filter fun entry => Outstanding engine batch entry).map LedgerEntry.amount).sum

def AtMostOneOpen (engine : Engine Time) : Prop :=
  (engine.batches.filter fun batch => Unfinished batch).length ≤ 1

instance : Decidable (AtMostOneOpen engine) := inferInstanceAs (Decidable (_ ≤ _))

omit [LinearOrder Time] in
theorem AtMostOneOpen.unique (single : AtMostOneOpen engine) (member : batch ∈ engine.batches)
    (unfinished : Unfinished batch) (also : other ∈ engine.batches) (too : Unfinished other) : batch = other := by
  have inside : batch ∈ engine.batches.filter fun batch => Unfinished batch :=
    List.mem_filter.mpr ⟨member, decide_eq_true unfinished⟩
  have beside : other ∈ engine.batches.filter fun batch => Unfinished batch :=
    List.mem_filter.mpr ⟨also, decide_eq_true too⟩
  obtain ⟨only, alone⟩ := List.length_eq_one_iff.mp (Nat.le_antisymm single (List.length_pos_of_mem inside))
  rw [alone, List.mem_singleton] at inside beside
  rw [inside, beside]

end

/-- A batch is made for a tenant that has a name, of entries that no execution wrote and no paid batch has,
and they come to whole cents. -/
def Clear (config : Config) (engine : Engine Time) : Command Time → Prop
  | .create marketplaceId tenantId currency periodStart periodEnd batchId now =>
      (∃ batch,
        (createBatch config engine marketplaceId tenantId currency periodStart periodEnd batchId now).2 = .ok batch) →
      let entries := unsettledEntries engine marketplaceId tenantId currency periodStart periodEnd
      tenantId ≠ "" ∧ Cents (entries.map LedgerEntry.amount).sum ∧ ∀ entry ∈ entries, entry.entryType ≠ .settlement ∧
        ¬ ∃ idle ∈ engine.batches, idle.status = .settled ∧ idle.netAmount = 0 ∧ entry.id ∈ idle.entryIds
  | _ => True

/-- The engine, and for each batch id how many entries the ledger had when the batch was made. -/
structure Session (Time : Type) where
  engine : Engine Time := {}
  opened : String → Nat := fun _ => 0

variable {marketplaceId tenantId currency : String} {periodStart periodEnd : Time} {session : Session Time}

omit [LinearOrder Time] in
theorem newBatch_id {entries : List (LedgerEntry Time)} :
    (newBatch config entries marketplaceId tenantId currency periodStart periodEnd batchId now).id = batchId := rfl

/-- The counts after a step. -/
def counts (session : Session Time) (command : Command Time) : String → Nat :=
  match command with
  | .create _ _ _ _ _ batchId _ =>
      fun wanted => if wanted = batchId then session.engine.entries.length else session.opened wanted
  | _ => session.opened

def follow (config : Config) (session : Session Time) (command : Command Time) : Option (Session Time) :=
  (step config session.engine command).map fun engine => { engine, opened := counts session command }

/-- What a step keeps: every open batch pays what was outstanding when it was made. -/
structure Netted (session : Session Time) : Prop where
  booked : Booked session.engine
  single : AtMostOneOpen session.engine
  opened : ∀ batch ∈ session.engine.batches, Unfinished batch →
    session.opened batch.id ≤ session.engine.entries.length ∧
      batch.netAmount = outstanding session.engine batch (session.engine.entries.take (session.opened batch.id))

theorem netted_start : Netted ({} : Session Time) where
  booked := booked_start
  single := Nat.zero_le 1
  opened _ member := absurd member List.not_mem_nil

theorem outstanding_congr (same : ∀ paid, Settled following paid ↔ Settled engine paid)
    (entries : List (LedgerEntry Time)) : outstanding following batch entries = outstanding engine batch entries := by
  have alike (entry : LedgerEntry Time) : Outstanding following batch entry ↔ Outstanding engine batch entry := by
    have paid : (∃ paid ∈ following.batches, paid.status = .settled ∧ entry.id ∈ paid.entryIds) ↔
        ∃ paid ∈ engine.batches, paid.status = .settled ∧ entry.id ∈ paid.entryIds := by
      simp only [← and_assoc]
      exact exists_congr fun paid => and_congr_left fun _ => same paid
    rw [Outstanding, Outstanding, paid]
  rw [outstanding, outstanding]
  congr 2
  apply List.filter_congr
  intro entry _
  rw [decide_eq_decide]
  exact alike entry

/-- Under the condition a new batch is made of just the outstanding entries. -/
theorem netAmount_newBatch (booked : Booked engine) (made : ∃ batch,
      (createBatch config engine marketplaceId tenantId currency periodStart periodEnd batchId now).2 = .ok batch)
    (clear : Clear config engine (.create marketplaceId tenantId currency periodStart periodEnd batchId now)) :
    let entries := unsettledEntries engine marketplaceId tenantId currency periodStart periodEnd
    let batch := newBatch config entries marketplaceId tenantId currency periodStart periodEnd batchId now
    batch.netAmount = outstanding engine batch engine.entries := by
  obtain ⟨named, whole, clean⟩ := clear made
  dsimp only
  rw [newBatch]
  dsimp only
  rw [round2_cents whole, outstanding]
  congr 2
  rw [unsettledEntries, entriesForPeriod, List.filter_filter]
  apply List.filter_congr
  intro entry member
  rw [Bool.eq_iff_iff, Bool.and_eq_true, decide_eq_true_eq, decide_eq_true_eq, decide_eq_true_eq]
  constructor
  · rintro ⟨⟨unrecorded, inCurrency⟩, ofMarketplace, ofTenant, within⟩
    have inside : entry ∈ unsettledEntries engine marketplaceId tenantId currency periodStart periodEnd :=
      List.mem_filter.mpr ⟨List.mem_filter.mpr ⟨member, decide_eq_true ⟨ofMarketplace, ofTenant, within⟩⟩,
        decide_eq_true ⟨unrecorded, inCurrency⟩⟩
    obtain ⟨written, idle⟩ := clean entry inside
    have tenant := Option.some.inj (ofTenant.resolve_left named)
    refine ⟨written, ofMarketplace, tenant, inCurrency, within, ?_⟩
    rintro ⟨paid, present, settled, listed⟩
    by_cases zero : paid.netAmount = 0
    · exact idle ⟨paid, present, settled, zero, listed⟩
    · exact unrecorded ((booked.recorded entry.id).mpr ⟨paid, ⟨present, settled⟩, zero, listed⟩)
  · rintro ⟨-, ofMarketplace, ofTenant, inCurrency, within, unlisted⟩
    refine ⟨⟨fun recorded => ?_, inCurrency⟩, ofMarketplace, .inr (congrArg some ofTenant), within⟩
    obtain ⟨paid, settled, -, listed⟩ := (booked.recorded entry.id).mp recorded
    exact unlisted ⟨paid, settled.1, settled.2, listed⟩

/-- Entries that are added behind it do not change what was outstanding. -/
theorem take_grown {Entry : Type} {entries : List Entry} {count : Nat} (added : List Entry)
    (bound : count ≤ entries.length) :
    count ≤ (entries ++ added).length ∧ (entries ++ added).take count = entries.take count := by
  constructor
  · exact List.length_append ▸ Nat.le_add_right_of_le bound
  · exact List.take_append_of_le_length bound

/-- The ids of the batches that are there keep the count they had. -/
theorem counts_old {following : Engine Time} (taken : step config session.engine command = some following)
    (member : batch ∈ session.engine.batches) : counts session command batch.id = session.opened batch.id := by
  cases command with
  | create marketplaceId tenantId currency periodStart periodEnd created now =>
      have fresh : created ∉ session.engine.batches.map SettlementBatch.id := by
        rw [step] at taken
        split at taken
        case isTrue fresh => exact fresh
        case isFalse => cases taken
      have differs : batch.id ≠ created := fun same => fresh (same ▸ List.mem_map_of_mem member)
      exact if_neg differs
  | _ => rfl

/-- What is said of an open batch stays true while the paid batches are the same. -/
theorem Netted.carried {session : Session Time} {following : Engine Time} (netted : Netted session)
    (taken : step config session.engine command = some following)
    (same : ∀ paid, Settled following paid ↔ Settled session.engine paid)
    (member : batch ∈ session.engine.batches) (unfinished : Unfinished batch) :
    counts session command batch.id ≤ following.entries.length ∧
      batch.netAmount = outstanding following batch (following.entries.take (counts session command batch.id)) := by
  obtain ⟨bound, net⟩ := netted.opened batch member unfinished
  obtain ⟨added, grown⟩ := (step_effect taken).grown
  obtain ⟨still, unchanged⟩ := take_grown added bound
  rw [counts_old taken member, grown, outstanding_congr same, unchanged]
  exact ⟨still, net⟩

/-- After the step at most one batch is open. -/
def Alone (config : Config) (engine : Engine Time) (command : Command Time) : Prop :=
  ∀ following ∈ step config engine command, AtMostOneOpen following

instance {command : Command Time} : Decidable (Alone config engine command) :=
  inferInstanceAs (Decidable (∀ following ∈ step config engine command, AtMostOneOpen following))

def Careful (config : Config) (session : Session Time) (command : Command Time) : Prop :=
  Alone config session.engine command ∧ Clear config session.engine command

theorem Netted.kept {following : Session Time} (netted : Netted session)
    (alone : Alone config session.engine command) (clear : Clear config session.engine command)
    (taken : follow config session command = some following) : Netted following := by
  obtain ⟨engine, stepped, rfl⟩ := Option.map_eq_some_iff.mp taken
  have effect := step_effect stepped
  refine ⟨netted.booked.kept effect, alone engine stepped, ?_⟩
  intro other member unfinished
  change counts session command other.id ≤ engine.entries.length ∧
    other.netAmount = outstanding engine other (engine.entries.take (counts session command other.id))
  by_cases idle : ∀ batch, ¬ Pays config session.engine batch command
  · have same := netted.booked.settled_same effect idle
    have carried {batch : SettlementBatch Time} (member : batch ∈ session.engine.batches)
        (unfinished : Unfinished batch) := netted.carried stepped same member unfinished
    cases effect with
    | @created marketplaceId tenantId currency periodStart periodEnd batchId now fresh made =>
        rcases netted.booked.keyed.mem_put_iff.mp member with rfl | ⟨member, -⟩
        · have counted : counts session (.create marketplaceId tenantId currency periodStart periodEnd batchId now)
              batchId = session.engine.entries.length := if_pos rfl
          have whole : (withNewBatch config session.engine marketplaceId tenantId currency periodStart periodEnd
              batchId now).entries.take session.engine.entries.length = session.engine.entries := List.take_length
          rw [newBatch_id, counted, whole, outstanding_congr same]
          exact ⟨Nat.le_refl _, netAmount_newBatch netted.booked made clear⟩
        · exact carried member unfinished
    | @marked _ opened _ _ held before unpaid _ =>
        rcases netted.booked.keyed.mem_put_iff.mp member with rfl | ⟨member, -⟩
        · have kept := @carried opened (mem_of_getBatch held).1 before
          exact kept
        · exact carried member unfinished
    | settled fresh ready => exact absurd ready (idle _)
    | _ => exact carried member unfinished
  · -- the batch that was open is paid now, so none is
    obtain ⟨batch, pays⟩ := not_forall_not.mp idle
    obtain ⟨held, approved, providerRef, entryId, at_, rfl⟩ := effect.pays pays
    have open_ := unfinished_of_approved approved
    rw [settle_batches, netted.booked.keyed.mem_put_iff] at member
    rcases member with rfl | ⟨member, differs⟩
    · exact absurd rfl unfinished.unpaid
    · have same := netted.single.unique (mem_of_getBatch held).1 open_ member unfinished
      exact absurd (congrArg SettlementBatch.id same.symm) differs

/-- Where all batches of a run are made under the condition, and one at a time, a batch that is executed pays
what was outstanding when it was made; and what is outstanding now, unless more came in since. -/
theorem net_outstanding {session : Session Time} (reached : Reaches (follow config) (Careful config) {} session)
    (pays : Pays config session.engine batch command) :
    batch.netAmount =
        outstanding session.engine batch (session.engine.entries.take (session.opened batch.id)) ∧
      ((∀ entry ∈ session.engine.entries.drop (session.opened batch.id), ¬ Outstanding session.engine batch entry) →
        batch.netAmount = outstanding session.engine batch session.engine.entries) := by
  have netted : Netted session :=
    reached.invariant netted_start fun netted permitted taken => netted.kept permitted.1 permitted.2 taken
  obtain ⟨ready, approved⟩ : getBatch session.engine batch.id = some batch ∧ batch.status = .approved := by
    cases command with
    | execute batchId adapter entryId now =>
        cases adapter with
        | error reason => cases pays
        | ok providerRef =>
            obtain ⟨held, rfl, approved⟩ := executable_ok pays
            exact ⟨held, approved⟩
    | _ => cases pays
  have net := (netted.opened batch (mem_of_getBatch ready).1 (unfinished_of_approved approved)).2
  refine ⟨net, fun later => ?_⟩
  have split := List.take_append_drop (session.opened batch.id) session.engine.entries
  have none : (session.engine.entries.drop (session.opened batch.id)).filter
      (fun entry => Outstanding session.engine batch entry) = [] := by
    apply List.filter_eq_nil_iff.mpr
    intro entry member
    simpa using later entry member
  rw [net, outstanding, outstanding]
  conv_rhs => rw [← split, List.filter_append, none, List.append_nil]

def saleOf (id : String) (amount : Rat) : FinancialEvent Nat :=
  { id, idempotencyKey := id, eventType := .paymentCaptured, marketplaceId := "market", tenantId := "tenant", amount,
    occurredAt := 1 }

def plain : Config := { moneyText := fun _ => "" }

def after (session : Session Nat) (command : Command Nat) : Session Nat :=
  { engine := (perform plain session.engine command).1, opened := counts session command }

theorem reaches_after {session : Session Nat} (reached : Reaches (follow plain) (Careful plain) {} session)
    (command : Command Nat) (fresh : Fresh session.engine command) (alone : Alone plain session.engine command)
    (clear : Clear plain session.engine command) : Reaches (follow plain) (Careful plain) {}
    (after session command) := by
  refine .next reached ⟨alone, clear⟩ ?_
  rw [follow, step, if_pos fresh]
  rfl

def sold : Session Nat := after {} (.ingest (saleOf "sale" 100) "entry" 1)

def batched : Session Nat := after sold (.create "market" "tenant" "USD" 0 5 "batch" 2)

def saleApproved : Session Nat := after batched (.approve "batch" none (some { decision := .allow }))

theorem saleApproved_reached : Reaches (follow plain) (Careful plain) {} saleApproved := by
  have first : Reaches (follow plain) (Careful plain) {} sold :=
    reaches_after .start _ (by decide) (by decide) trivial
  have second : Reaches (follow plain) (Careful plain) {} batched := by
    refine reaches_after first _ (by decide +kernel) (by decide +kernel) fun _ => ?_
    exact ⟨by decide, ⟨10000, by decide +kernel⟩, by decide +kernel⟩
  exact reaches_after second _ (by decide +kernel) (by decide +kernel) trivial

theorem sale_paid : ∃ batch, Pays plain saleApproved.engine batch (.execute "batch" (.ok "transfer") "offset" 3) ∧
    batch.netAmount = outstanding saleApproved.engine batch
    (saleApproved.engine.entries.take (saleApproved.opened batch.id)) := by
  have amount : (executable plain saleApproved.engine "batch").toOption.map SettlementBatch.netAmount = some 100 := by
    decide +kernel
  cases ready : executable plain saleApproved.engine "batch" with
  | error error =>
      rw [ready] at amount
      cases amount
  | ok batch =>
      have pays : Pays plain saleApproved.engine batch (.execute "batch" (.ok "transfer") "offset" 3) := ready
      exact ⟨batch, pays, (net_outstanding saleApproved_reached pays).1⟩

/-- One sale is paid out; a second one comes in and gets a batch of its own. -/
def twoSales : List (Command Nat) :=
  [.ingest (saleOf "sale" 100) "entry" 1, .create "market" "tenant" "USD" 0 5 "batch" 2,
    .approve "batch" none (some { decision := .allow }), .execute "batch" (.ok "transfer") "offset" 3,
    .ingest (saleOf "further sale" 150) "further" 4, .create "market" "tenant" "USD" 0 5 "last" 5,
    .approve "last" none (some { decision := .allow })]

theorem offset_reduces_batch : ∃ session, run (follow plain) {} twoSales = some session ∧
    (∀ before ∈ twoSales.inits, ∀ middle ∈ run (follow plain) {} before, AtMostOneOpen middle.engine) ∧
    ∃ batch, Pays plain session.engine batch (.execute "last" (.ok "transfer") "second offset" 6) ∧
      batch.netAmount = 50 ∧
      outstanding session.engine batch (session.engine.entries.take (session.opened batch.id)) = 150 := by
  have computed : (run (follow plain) {} twoSales).map (fun session =>
      (executable plain session.engine "last").toOption.map fun batch => (batch.netAmount,
        outstanding session.engine batch (session.engine.entries.take (session.opened batch.id)))) =
        some (some (50, 150)) := by
    decide +kernel
  obtain ⟨session, ran, checked⟩ := Option.map_eq_some_iff.mp computed
  refine ⟨session, ran, by decide +kernel, ?_⟩
  obtain ⟨batch, ready, amounts⟩ := Option.map_eq_some_iff.mp checked
  cases held : executable plain session.engine "last" with
  | error error =>
      rw [held] at ready
      cases ready
  | ok found =>
      rw [held] at ready
      cases ready
      exact ⟨batch, held, congrArg Prod.fst amounts, congrArg Prod.snd amounts⟩

end AutonomousApi.Settlement
