import AutonomousApi.Settlement

/-! What one call does to the settlement engine, said once for the laws that follow. A call that
raises changes nothing, but for the status of the batch it is about. -/

namespace AutonomousApi.Settlement

open RecordTable

variable {Time : Type} [LinearOrder Time] {config : Config} {engine following : Engine Time}
    {batch other : SettlementBatch Time}
  {command : Command Time} {batchId entryId providerRef : String} {now : Time}

section

omit [LinearOrder Time]

theorem getBatch_saveBatch {wanted : String} : getBatch (saveBatch engine batch) wanted =
    if batch.id = wanted then some batch else getBatch engine wanted :=
  find_put

theorem mem_of_getBatch (held : getBatch engine batchId = some batch) : batch ∈ engine.batches ∧ batch.id = batchId :=
  mem_of_find held

theorem settle_batches : (settle engine batch providerRef entryId now).batches =
    put SettlementBatch.id engine.batches (batch.paid providerRef) := by
  rw [settle, saveBatch, offset]
  split <;> rfl

theorem settle_events : (settle engine batch providerRef entryId now).events = engine.events := by
  rw [settle, saveBatch, offset]
  split <;> rfl

theorem settle_payouts :
    (settle engine batch providerRef entryId now).payouts = engine.payouts ++ [payoutFor batch providerRef] := by
  rw [settle, saveBatch, offset]
  split <;> rfl

theorem settle_entries : (settle engine batch providerRef entryId now).entries =
    if batch.netAmount = 0 then engine.entries else engine.entries ++ [settlementEntry batch entryId now] := by
  rw [settle, saveBatch, offset]
  split <;> rfl

theorem getBatch_settle {wanted : String} : getBatch (settle engine batch providerRef entryId now) wanted =
    if batch.id = wanted then some (batch.paid providerRef) else getBatch engine wanted := by
  rw [getBatch, settle_batches]
  exact find_put

end

/-- A batch that may still be paid. -/
def Unfinished (batch : SettlementBatch Time) : Prop :=
  batch.status = .draft ∨ batch.status = .pendingGovernance ∨ batch.status = .approved ∨ batch.status = .settling

instance (batch : SettlementBatch Time) : Decidable (Unfinished batch) := inferInstanceAs (Decidable (_ ∨ _ ∨ _ ∨ _))

/-- The engine with the batch that `create_batch` makes. -/
def withNewBatch (config : Config) (engine : Engine Time) (marketplaceId tenantId currency : String)
    (periodStart periodEnd : Time) (batchId : String) (now : Time) : Engine Time :=
  saveBatch engine (newBatch config
    (unsettledEntries engine marketplaceId tenantId currency periodStart periodEnd)
    marketplaceId tenantId currency periodStart periodEnd batchId now)

/-- The engine with an event it accepted. -/
def withEvent (engine : Engine Time) (event : FinancialEvent Time) (entry : LedgerEntry Time) : Engine Time :=
  { engine with
    events := engine.events ++ [event], entries := engine.entries ++ [entry],
    idempotencyKeys := event.idempotencyKey :: engine.idempotencyKeys }

/-- The call pays this batch. -/
def Pays (config : Config) (engine : Engine Time) (batch : SettlementBatch Time) : Command Time → Prop
  | .execute batchId (.ok _) _ _ => executable config engine batchId = .ok batch
  | _ => False

omit [LinearOrder Time] in
theorem Pays.unique (pays : Pays config engine batch command) (also : Pays config engine other command) :
    batch = other := by
  cases command with
  | execute batchId adapter entryId now =>
      cases adapter with
      | error reason => cases pays
      | ok providerRef => exact Except.ok.inj (pays.symm.trans also)
  | _ => cases pays

/-- All that a call can do. -/
inductive Effect (config : Config) (engine : Engine Time) : Command Time → Engine Time → Prop where
  | same {command : Command Time} (idle : ∀ batch, ¬ Pays config engine batch command) :
      Effect config engine command engine
  | ingested {event : FinancialEvent Time} {entryId : String} {now : Time} {entryType : LedgerEntryType} {amount : Rat}
      (fresh : entryId ∉ engine.entries.map LedgerEntry.id) (new : event.idempotencyKey ∉ engine.idempotencyKeys)
      (typed : entryTypeForEvent event.eventType = some entryType) (signed : signedAmount event = some amount) :
      Effect config engine (.ingest event entryId now)
        (withEvent engine event (entryFor event entryType amount entryId now))
  | created {marketplaceId tenantId currency : String} {periodStart periodEnd : Time} {batchId : String} {now : Time}
      (fresh : batchId ∉ engine.batches.map SettlementBatch.id)
      (made : ∃ batch,
        (createBatch config engine marketplaceId tenantId currency periodStart periodEnd batchId now).2 = .ok batch) :
      Effect config engine (.create marketplaceId tenantId currency periodStart periodEnd batchId now)
        (withNewBatch config engine marketplaceId tenantId currency periodStart periodEnd batchId now)
  /-- An open batch gets another status. -/
  | marked {command : Command Time} {batch : SettlementBatch Time} {status : SettlementStatus}
      {governanceRef : Option String} (held : getBatch engine batch.id = some batch) (unfinished : Unfinished batch)
      (unpaid : status ≠ .settled) (idle : ∀ batch, ¬ Pays config engine batch command) :
      Effect config engine command (saveBatch engine { batch with status, governanceRef })
  | settled {batchId providerRef entryId : String} {now : Time} {batch : SettlementBatch Time}
      (fresh : entryId ∉ engine.entries.map LedgerEntry.id) (ready : executable config engine batchId = .ok batch) :
      Effect config engine (.execute batchId (.ok providerRef) entryId now)
        (settle engine batch providerRef entryId now)
  | reconciled {marketplaceId : String} {periodStart periodEnd : Time} :
      Effect config engine (.reconcile marketplaceId periodStart periodEnd)
        (reconcile config engine marketplaceId periodStart periodEnd).1
  | resolved {mismatchId actorId notes : String} {mismatches : List ReconciliationMismatch}
      (done : (resolveMismatch engine mismatchId actorId notes).1 = { engine with mismatches }) :
      Effect config engine (.resolve mismatchId actorId notes) { engine with mismatches }

omit [LinearOrder Time] in
theorem Unfinished.unpaid (unfinished : Unfinished batch) : batch.status ≠ .settled := by
  rintro settled
  simp [Unfinished, settled] at unfinished

omit [LinearOrder Time] in
theorem unfinished_of_approved (approved : batch.status = .approved) : Unfinished batch := .inr (.inr (.inl approved))

omit [LinearOrder Time] in
/-- What `execute_settlement` has checked when it calls the adapter. -/
theorem executable_ok (ready : executable config engine batchId = .ok batch) :
    getBatch engine batchId = some batch ∧ batch.id = batchId ∧ batch.status = .approved := by
  rw [executable] at ready
  cases held : getBatch engine batchId with
  | none =>
      rw [held] at ready
      cases ready
  | some found =>
      rw [held] at ready
      dsimp only at ready
      split at ready
      · cases ready
      case isFalse approved =>
          split at ready
          · cases ready
          · split at ready
            · cases ready
            · split at ready
              · cases ready
                exact ⟨rfl, (mem_of_getBatch held).2, not_not.mp approved⟩
              · cases ready

theorem ingestEvent_effect {event : FinancialEvent Time} (fresh : entryId ∉ engine.entries.map LedgerEntry.id) :
    Effect config engine (.ingest event entryId now) (ingestEvent engine event entryId now).1 := by
  unfold ingestEvent
  split
  · exact .same fun _ => id
  case isFalse new =>
      cases typed : entryTypeForEvent event.eventType with
      | none => exact .same fun _ => id
      | some entryType =>
          cases signed : signedAmount event with
          | none => exact .same fun _ => id
          | some amount => exact .ingested fresh new typed signed

theorem createBatch_cases {marketplaceId tenantId currency : String} {periodStart periodEnd : Time} :
    (∃ error, createBatch config engine marketplaceId tenantId currency periodStart periodEnd batchId now =
        (engine, .error error)) ∨
      createBatch config engine marketplaceId tenantId currency periodStart periodEnd batchId now =
        (withNewBatch config engine marketplaceId tenantId currency periodStart periodEnd batchId now,
          .ok (newBatch config (unsettledEntries engine marketplaceId tenantId currency periodStart periodEnd)
            marketplaceId tenantId currency periodStart periodEnd batchId now)) := by
  rw [createBatch]
  dsimp only
  split
  · exact .inl ⟨_, rfl⟩
  · split
    · exact .inl ⟨_, rfl⟩
    · split
      · exact .inl ⟨_, rfl⟩
      · exact .inr rfl

theorem createBatch_effect {marketplaceId tenantId currency : String} {periodStart periodEnd : Time}
    (fresh : batchId ∉ engine.batches.map SettlementBatch.id) :
    Effect config engine (.create marketplaceId tenantId currency periodStart periodEnd batchId now)
      (createBatch config engine marketplaceId tenantId currency periodStart periodEnd batchId now).1 := by
  rcases @createBatch_cases _ _ config engine batchId now marketplaceId tenantId currency periodStart periodEnd with
    ⟨error, refused⟩ | made
  · rw [refused]
    exact .same fun _ => id
  · rw [made]
    exact .created fresh ⟨_, congrArg Prod.snd made⟩

theorem approveSettlement_effect {approvalRef : Option String} {answer : Option GovernanceDecision} :
    Effect config engine (.approve batchId approvalRef answer)
      (approveSettlement config engine batchId approvalRef answer).1 := by
  unfold approveSettlement
  cases held : getBatch engine batchId with
  | none => exact .same fun _ => id
  | some batch =>
      have named := (mem_of_getBatch held).2
      dsimp only
      split
      case isFalse => exact .same fun _ => id
      case isTrue awaiting =>
          have unfinished : Unfinished batch := awaiting.imp id .inl
          rw [← named] at held
          split
          case isFalse => exact .marked held unfinished SettlementStatus.noConfusion fun _ => id
          case isTrue =>
              split
              case isFalse => exact .same fun _ => id
              case isTrue =>
                  cases answer with
                  | none => exact .same fun _ => id
                  | some decision =>
                      cases judged : decision.decision with
                      | deny =>
                          dsimp only
                          rw [judged]
                          exact .marked held unfinished SettlementStatus.noConfusion fun _ => id
                      | requireApproval =>
                          dsimp only
                          rw [judged]
                          exact .marked held unfinished SettlementStatus.noConfusion fun _ => id
                      | allow =>
                          dsimp only
                          rw [judged]
                          exact .marked held unfinished SettlementStatus.noConfusion fun _ => id

theorem executeSettlement_effect {adapter : Except String String}
    (fresh : entryId ∉ engine.entries.map LedgerEntry.id) :
    Effect config engine (.execute batchId adapter entryId now)
      (executeSettlement config engine batchId adapter entryId now).1 := by
  unfold executeSettlement
  cases ready : executable config engine batchId with
  | error error =>
      refine .same fun batch pays => ?_
      cases adapter with
      | error reason => exact pays
      | ok providerRef => cases ready.symm.trans pays
  | ok batch =>
      obtain ⟨held, named, approved⟩ := executable_ok ready
      cases adapter with
      | error reason =>
          rw [← named] at held
          exact .marked held (unfinished_of_approved approved) SettlementStatus.noConfusion fun _ => id
      | ok providerRef => exact .settled fresh ready

theorem resolveMismatch_effect {mismatchId actorId notes : String} :
    Effect config engine (.resolve mismatchId actorId notes) (resolveMismatch engine mismatchId actorId notes).1 := by
  obtain ⟨mismatches, done⟩ : ∃ mismatches,
      (resolveMismatch engine mismatchId actorId notes).1 = { engine with mismatches } := by
    rw [resolveMismatch]
    split
    · exact ⟨engine.mismatches, rfl⟩
    · exact ⟨_, rfl⟩
  rw [done]
  exact .resolved done

theorem step_effect (taken : step config engine command = some following) : Effect config engine command following := by
  rw [step] at taken
  split at taken
  case isFalse => cases taken
  case isTrue fresh =>
      cases taken
      cases command with
      | ingest event entryId now => exact ingestEvent_effect fresh
      | create marketplaceId tenantId currency periodStart periodEnd batchId now => exact createBatch_effect fresh
      | approve batchId approvalRef answer => exact approveSettlement_effect
      | execute batchId adapter entryId now => exact executeSettlement_effect fresh
      | reconcile marketplaceId periodStart periodEnd => exact .reconciled
      | resolve mismatchId actorId notes => exact resolveMismatch_effect

section

/-- A batch of the engine that was paid. -/
def Settled (engine : Engine Time) (batch : SettlementBatch Time) : Prop :=
  batch ∈ engine.batches ∧ batch.status = .settled

/-- The batches stand under their ids, and the entries that count as settled are those of the paid
batches that had something to pay. -/
structure Booked (engine : Engine Time) : Prop where
  keyed : Keyed SettlementBatch.id engine.batches
  recorded : ∀ entryId, entryId ∈ engine.settledEntryIds ↔
    ∃ batch, Settled engine batch ∧ batch.netAmount ≠ 0 ∧ entryId ∈ batch.entryIds

omit [LinearOrder Time]

theorem booked_start : Booked ({} : Engine Time) where
  keyed := List.nodup_nil
  recorded entryId := by simp [Settled]

/-- Saving a batch that is not paid under an id no paid batch has changes no paid batch. -/
theorem settled_saveBatch (keyed : Keyed SettlementBatch.id engine.batches) (unpaid : batch.status ≠ .settled)
    (replaced : ∀ old ∈ engine.batches, old.id = batch.id → old.status ≠ .settled) :
    Settled (saveBatch engine batch) other ↔ Settled engine other := by
  rw [Settled, Settled, saveBatch, keyed.mem_put_iff]
  constructor
  · rintro ⟨rfl | ⟨old, -⟩, settled⟩
    · exact absurd settled unpaid
    · exact ⟨old, settled⟩
  · rintro ⟨old, settled⟩
    exact ⟨.inr ⟨old, fun same => replaced other old same settled⟩, settled⟩

theorem Booked.replaced (booked : Booked engine) (held : getBatch engine batch.id = some batch)
    (unpaid : batch.status ≠ .settled) : ∀ old ∈ engine.batches, old.id = batch.id → old.status ≠ .settled := by
  intro old member same
  rw [booked.keyed.unique member (mem_of_getBatch held).1 same]
  exact unpaid

/-- Paying a batch adds it to the paid ones. -/
theorem settled_settle (booked : Booked engine) (held : getBatch engine batch.id = some batch)
    (unpaid : batch.status ≠ .settled) :
    Settled (settle engine batch providerRef entryId now) other ↔ other = batch.paid providerRef ∨
      Settled engine other := by
  rw [Settled, Settled, settle_batches, booked.keyed.mem_put_iff]
  constructor
  · rintro ⟨new | ⟨old, -⟩, settled⟩
    · exact .inl new
    · exact .inr ⟨old, settled⟩
  · rintro (rfl | ⟨old, settled⟩)
    · exact ⟨.inl rfl, rfl⟩
    · exact ⟨.inr ⟨old, fun same => booked.replaced held unpaid other old same settled⟩, settled⟩

theorem Booked.saveBatch (booked : Booked engine) (unpaid : batch.status ≠ .settled)
    (replaced : ∀ old ∈ engine.batches, old.id = batch.id → old.status ≠ .settled) :
    Booked (saveBatch engine batch) where
  keyed := booked.keyed.put
  recorded entryId := by
    simp only [settled_saveBatch booked.keyed unpaid replaced]
    exact booked.recorded entryId

theorem Booked.settle (booked : Booked engine) (held : getBatch engine batch.id = some batch)
    (unpaid : batch.status ≠ .settled) : Booked (settle engine batch providerRef entryId now) where
  keyed := by
    rw [Settlement.settle, offset]
    split <;> exact booked.keyed.put
  recorded wanted := by
    have recorded : wanted ∈ (Settlement.settle engine batch providerRef entryId now).settledEntryIds ↔
        wanted ∈ engine.settledEntryIds ∨ batch.netAmount ≠ 0 ∧ wanted ∈ batch.entryIds := by
      rw [Settlement.settle, offset]
      split
      case isTrue zero => simp [Settlement.saveBatch, zero]
      case isFalse pays => simp [Settlement.saveBatch, pays]
    simp only [recorded, settled_settle booked held unpaid, booked.recorded]
    constructor
    · rintro (⟨old, settled, pays, inside⟩ | ⟨pays, inside⟩)
      · exact ⟨old, .inr settled, pays, inside⟩
      · exact ⟨batch.paid providerRef, .inl rfl, pays, inside⟩
    · rintro ⟨other, rfl | settled, pays, inside⟩
      · exact .inr ⟨pays, inside⟩
      · exact .inl ⟨other, settled, pays, inside⟩

theorem newBatch_unpaid {entries : List (LedgerEntry Time)} {marketplaceId tenantId currency : String}
    {periodStart periodEnd : Time} :
    (newBatch config entries marketplaceId tenantId currency periodStart periodEnd batchId now).status ≠ .settled := by
  rw [newBatch]
  dsimp only
  split <;> exact SettlementStatus.noConfusion

theorem replaced_of_fresh (fresh : batch.id ∉ engine.batches.map SettlementBatch.id) :
    ∀ old ∈ engine.batches, old.id = batch.id → old.status ≠ .settled := by
  intro old member same
  exact absurd (same ▸ List.mem_map_of_mem member) fresh

end

theorem Booked.kept (booked : Booked engine) (effect : Effect config engine command following) : Booked following := by
  cases effect with
  | same _ => exact booked
  | ingested => exact ⟨booked.keyed, booked.recorded⟩
  | created fresh made => exact booked.saveBatch newBatch_unpaid (replaced_of_fresh fresh)
  | marked held unfinished unpaid _ =>
      have replaced := booked.replaced held unfinished.unpaid
      exact booked.saveBatch unpaid replaced
  | settled fresh ready =>
      obtain ⟨held, rfl, approved⟩ := executable_ok ready
      exact booked.settle held (unfinished_of_approved approved).unpaid
  | reconciled => exact ⟨booked.keyed, booked.recorded⟩
  | resolved => exact ⟨booked.keyed, booked.recorded⟩

/-- A call that pays nothing leaves the paid batches as they are. -/
theorem Booked.settled_same (booked : Booked engine) (effect : Effect config engine command following)
    (idle : ∀ batch, ¬ Pays config engine batch command) : ∀ other, Settled following other ↔ Settled engine other := by
  intro other
  cases effect with
  | same _ => rfl
  | ingested => rfl
  | created fresh made => exact settled_saveBatch booked.keyed newBatch_unpaid (replaced_of_fresh fresh)
  | marked held unfinished unpaid _ =>
      have replaced := booked.replaced held unfinished.unpaid
      exact settled_saveBatch booked.keyed unpaid replaced
  | settled fresh ready => exact absurd ready (idle _)
  | reconciled => rfl
  | resolved => rfl

/-- Paying goes through `settle`. -/
theorem Effect.pays (effect : Effect config engine command following) (pays : Pays config engine batch command) :
    getBatch engine batch.id = some batch ∧ batch.status = .approved ∧
      ∃ providerRef entryId now, following = settle engine batch providerRef entryId now := by
  cases effect with
  | same idle => exact absurd pays (idle batch)
  | marked held unfinished unpaid idle => exact absurd pays (idle batch)
  | settled fresh ready =>
      cases ready.symm.trans pays
      obtain ⟨held, rfl, approved⟩ := executable_ok ready
      exact ⟨held, approved, _, _, _, rfl⟩
  | ingested | created | reconciled | resolved => cases pays

/-- The ledger only grows. -/
theorem Effect.grown (effect : Effect config engine command following) :
    ∃ added, following.entries = engine.entries ++ added := by
  cases effect with
  | ingested => exact ⟨_, rfl⟩
  | settled fresh ready =>
      rw [settle_entries]
      split
      · exact ⟨[], (List.append_nil _).symm⟩
      · exact ⟨_, rfl⟩
  | _ => exact ⟨[], (List.append_nil _).symm⟩

end AutonomousApi.Settlement
