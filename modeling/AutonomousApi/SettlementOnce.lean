import AutonomousApi.SettlementLaws

/-! No entry is paid out twice. `create_batch` leaves out the entries that count as settled, but
`execute_settlement` does not look at them again, and a batch with nothing to pay settles its entries
without recording them. -/

namespace AutonomousApi.Settlement

open Runs

variable {Time : Type} [LinearOrder Time] {config : Config} {engine following final : Engine Time}
  {batch other : SettlementBatch Time} {command : Command Time} {entryId providerRef : String} {now : Time}

/-- Two paid batches with an entry in common are one. -/
def Once (engine : Engine Time) : Prop :=
  ∀ first second entryId, Settled engine first → Settled engine second → entryId ∈ first.entryIds →
    entryId ∈ second.entryIds → first = second

/-- A batch is paid only while none of its entries counts as settled or lies in a paid batch that had
nothing to pay. -/
def Unpaid (config : Config) (engine : Engine Time) (command : Command Time) : Prop :=
  ∀ batch, Pays config engine batch command → ∀ entryId ∈ batch.entryIds, entryId ∉ engine.settledEntryIds ∧
    ¬ ∃ idle ∈ engine.batches, idle.status = .settled ∧ idle.netAmount = 0 ∧ entryId ∈ idle.entryIds

section

omit [LinearOrder Time]

theorem Booked.unpaid_iff (booked : Booked engine) : entryId ∉ engine.settledEntryIds ∧
      (¬ ∃ idle ∈ engine.batches, idle.status = .settled ∧ idle.netAmount = 0 ∧ entryId ∈ idle.entryIds) ↔
    ∀ paid, Settled engine paid → entryId ∉ paid.entryIds := by
  rw [booked.recorded]
  constructor
  · rintro ⟨unrecorded, unlisted⟩ paid settled inside
    by_cases zero : paid.netAmount = 0
    · exact unlisted ⟨paid, settled.1, settled.2, zero, inside⟩
    · exact unrecorded ⟨paid, settled, zero, inside⟩
  · intro unpaid
    constructor
    · rintro ⟨paid, settled, -, inside⟩
      exact unpaid paid settled inside
    · rintro ⟨idle, member, settled, -, inside⟩
      exact unpaid idle ⟨member, settled⟩ inside

/-- Paying a batch keeps entries apart exactly when none of its entries was paid before. -/
theorem once_settle_iff (booked : Booked engine) (once : Once engine) (held : getBatch engine batch.id = some batch)
    (unpaid : batch.status ≠ .settled) : Once (settle engine batch providerRef entryId now) ↔
    ∀ entryId ∈ batch.entryIds, ∀ paid, Settled engine paid → entryId ∉ paid.entryIds := by
  simp only [Once, settled_settle booked held unpaid]
  constructor
  · intro apart entryId inside paid settled also
    have same := apart (batch.paid providerRef) paid entryId (.inl rfl) (.inr settled) inside also
    have named : (batch.paid providerRef).id = paid.id := congrArg SettlementBatch.id same
    exact booked.replaced held unpaid paid settled.1 named.symm settled.2
  · intro apart first second entryId
    rintro (rfl | before) (rfl | after) inside also
    · rfl
    · exact absurd also (apart entryId inside second after)
    · exact absurd inside (apart entryId also first before)
    · exact once first second entryId before after inside also

theorem once_congr (same : ∀ batch, Settled following batch ↔ Settled engine batch) : Once following ↔ Once engine := by
  simp only [Once, same]

end

theorem once_step_iff (booked : Booked engine) (once : Once engine)
    (taken : step config engine command = some following) : Once following ↔ Unpaid config engine command := by
  have effect := step_effect taken
  by_cases idle : ∀ batch, ¬ Pays config engine batch command
  · rw [once_congr (booked.settled_same effect idle)]
    exact ⟨fun _ batch pays => absurd pays (idle batch), fun _ => once⟩
  · obtain ⟨batch, pays⟩ := not_forall_not.mp idle
    obtain ⟨held, approved, providerRef, entryId, now, rfl⟩ := effect.pays pays
    have unpaid := (unfinished_of_approved approved).unpaid
    have single : Unpaid config engine command ↔
        ∀ entryId ∈ batch.entryIds, ∀ paid, Settled engine paid → entryId ∉ paid.entryIds := by
      simp only [Unpaid, booked.unpaid_iff]
      exact ⟨fun all => all batch pays, fun here other also => (Pays.unique pays also) ▸ here⟩
    rw [single]
    exact once_settle_iff booked once held unpaid

/-- All along a run no entry lies in two paid batches, exactly when every batch was paid while none of
its entries had been. -/
theorem settled_once {actions : List (Command Time)} (finished : run (step config) {} actions = some final) :
    (∀ before after middle, actions = before ++ after → run (step config) {} before = some middle → Once middle) ↔
      ∀ before command after middle, actions = before ++ command :: after →
        run (step config) {} before = some middle → Unpaid config middle command := by
  refine @holds_along_iff _ _ (step config) (Unpaid config) {} final Booked Once booked_start ?_ ?_ once_step_iff
    actions finished
  · rintro first second entryId ⟨inside, -⟩
    cases inside
  · intro state action following booked taken
    exact booked.kept (step_effect taken)

def payment : FinancialEvent Nat :=
  { id := "event", idempotencyKey := "key", eventType := .paymentCaptured, marketplaceId := "market",
    tenantId := "tenant", amount := 100, occurredAt := 1 }

/-- One payment, two batches over the same period, and both are approved and executed. -/
def overlapping : List (Command Nat) :=
  [.ingest payment "entry" 1,
    .create "market" "tenant" "USD" 0 5 "first" 2,
    .create "market" "tenant" "USD" 0 5 "second" 2,
    .approve "first" none (some { decision := .allow }),
    .approve "second" none (some { decision := .allow }),
    .execute "first" (.ok "transfer") "offset" 6,
    .execute "second" (.ok "transfer") "further" 6]

def overlappingBatch (id : String) : SettlementBatch Nat :=
  { id, marketplaceId := "market", tenantId := "tenant", currency := "USD", periodStart := 0, periodEnd := 5,
    grossAmount := 100, netAmount := 100, entryIds := ["entry"], status := .settled, providerRef := some "transfer",
    createdAt := 2, executedAt := some 2 }

theorem overlapping_settled : ∃ final, run (step { moneyText := fun _ => "" }) {} overlapping = some final ∧
    Settled final (overlappingBatch "first") ∧ Settled final (overlappingBatch "second") := by
  have batches : (run (step { moneyText := fun _ => "" }) {} overlapping).map Engine.batches =
      some [overlappingBatch "first", overlappingBatch "second"] := by
    decide +kernel
  obtain ⟨final, ran, paid⟩ := Option.map_eq_some_iff.mp batches
  exact ⟨final, ran, ⟨by simp [paid], rfl⟩, ⟨by simp [paid], rfl⟩⟩

theorem entry_paid_twice :
    ∃ final, run (step { moneyText := fun _ => "" }) {} overlapping = some final ∧ ¬ Once final := by
  obtain ⟨final, ran, first, second⟩ := overlapping_settled
  refine ⟨final, ran, fun once => ?_⟩
  have same := once _ _ "entry" first second List.mem_cons_self List.mem_cons_self
  exact absurd (congrArg SettlementBatch.id same) (by decide)

/-- The run pays a batch with an entry that was paid before. -/
theorem overlapping_paid_again : ∃ before command after middle, overlapping = before ++ command :: after ∧
    run (step { moneyText := fun _ => "" }) {} before = some middle ∧
    ¬ Unpaid { moneyText := fun _ => "" } middle command := by
  obtain ⟨final, ran, first, second⟩ := overlapping_settled
  by_contra never
  simp only [not_exists, not_and, not_not] at never
  have once := (settled_once ran).mpr never overlapping [] final (List.append_nil _).symm ran
  have same := once _ _ "entry" first second List.mem_cons_self List.mem_cons_self
  exact absurd (congrArg SettlementBatch.id same) (by decide)

end AutonomousApi.Settlement
