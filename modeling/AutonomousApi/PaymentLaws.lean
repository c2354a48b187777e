import AutonomousApi.FinancialHardening

/-! What a call does to the ledger and to the payment events, for the laws about payments and refunds. -/

namespace AutonomousApi.FinancialHardening

open RecordTable

variable {engine : Engine} {event : PaymentEvent}

variable {ledger : Ledger} {entry : FinancialLedgerEntry}

theorem append_entries (fresh : entry.ledgerId ∉ ledger.entries.map FinancialLedgerEntry.ledgerId) :
    (ledger.append entry).1.entries =
      if stated entry.idempotencyKey ∧ entry.idempotencyKey.getD "" ∈ ledger.idempotencyKeys then ledger.entries
      else ledger.entries ++ [entry] := by
  rw [Ledger.append, put_absent fresh]
  by_cases keyed : stated entry.idempotencyKey
  · by_cases taken : entry.idempotencyKey.getD "" ∈ ledger.idempotencyKeys
    · rw [if_pos keyed, if_pos taken, if_pos ⟨keyed, taken⟩]
    · rw [if_pos keyed, if_neg taken, if_neg fun both => taken both.2]
  · rw [if_neg keyed, if_neg fun both => keyed both.1]

theorem append_ledgerIds {ledgerId : String}
    (member : ledgerId ∈ (ledger.append entry).1.entries.map FinancialLedgerEntry.ledgerId) :
    ledgerId ∈ ledger.entries.map FinancialLedgerEntry.ledgerId ∨ ledgerId = entry.ledgerId := by
  obtain ⟨held, inside, rfl⟩ := List.mem_map.mp member
  have grown (put_ : held ∈ put FinancialLedgerEntry.ledgerId ledger.entries entry) :
      held.ledgerId ∈ ledger.entries.map FinancialLedgerEntry.ledgerId ∨ held.ledgerId = entry.ledgerId := by
    rcases mem_put put_ with rfl | before
    · exact .inr rfl
    · exact .inl (List.mem_map_of_mem before)
  rw [Ledger.append] at inside
  split at inside
  · split at inside
    · exact .inl (List.mem_map_of_mem inside)
    · exact grown inside
  · exact grown inside

theorem append_keys {key : String} (member : key ∈ (ledger.append entry).1.idempotencyKeys) :
    key ∈ ledger.idempotencyKeys ∨ some key = entry.idempotencyKey := by
  rw [Ledger.append] at member
  split at member
  case isFalse => exact .inl member
  case isTrue keyed =>
      split at member
      · exact .inl member
      · rcases List.mem_cons.mp member with rfl | before
        · cases held : entry.idempotencyKey with
          | none => exact absurd (held ▸ rfl) keyed
          | some text => exact .inr rfl
        · exact .inl before

/-- The key under which the entry of an event stands. -/
def ledgerKey (event : PaymentEvent) : String :=
  if stated event.idempotencyKey then event.idempotencyKey.getD "" else event.eventId

/-- The engine with an event that is new to it. -/
def withPayment (engine : Engine) (event : PaymentEvent) (ledgerId : String) : Engine :=
  ledgerizePayment (register engine event) event ledgerId

variable {ledgerId : String}

theorem append_paymentEntry {ledger : Ledger} {entryType : LedgerEntryType}
    (named : event.eventId ≠ "") (fresh : ledgerId ∉ ledger.entries.map FinancialLedgerEntry.ledgerId) :
    (ledger.append (paymentEntry event entryType ledgerId)).1 =
      if ledgerKey event ∈ ledger.idempotencyKeys then ledger
      else { entries := ledger.entries ++ [paymentEntry event entryType ledgerId],
             idempotencyKeys := ledgerKey event :: ledger.idempotencyKeys } := by
  have key : stated (paymentEntry event entryType ledgerId).idempotencyKey ∧
      (paymentEntry event entryType ledgerId).idempotencyKey.getD "" = ledgerKey event := by
    rw [paymentEntry, ledgerKey]
    dsimp only
    by_cases keyed : stated event.idempotencyKey
    · rw [if_pos keyed, if_pos keyed]
      exact ⟨keyed, rfl⟩
    · rw [if_neg keyed, if_neg keyed]
      exact ⟨named, rfl⟩
  rw [Ledger.append, if_pos key.1, key.2, put_absent fresh]
  split <;> rfl

theorem withPayment_events (absent : event.providerEventId ∉
      engine.eventsByProviderEventId.map PaymentEvent.providerEventId) {ledgerId : String} :
    (withPayment engine event ledgerId).eventsByProviderEventId =
      engine.eventsByProviderEventId ++ [event] := by
  rw [withPayment, ledgerizePayment]
  split
  · exact put_absent absent
  · exact put_absent absent

theorem withPayment_refunds {ledgerId : String} : (withPayment engine event ledgerId).refunds = engine.refunds := by
  rw [withPayment, ledgerizePayment]
  split <;> rfl

theorem withPayment_byKey : (withPayment engine event ledgerId).eventsByIdempotency =
    (register engine event).eventsByIdempotency := by
  rw [withPayment, ledgerizePayment]
  split <;> rfl

theorem withPayment_ledger (named : event.eventId ≠ "") {ledgerId : String}
    (fresh : ledgerId ∉ engine.ledger.entries.map FinancialLedgerEntry.ledgerId) :
    (withPayment engine event ledgerId).ledger =
      match entryTypeOf event.status with
      | none => engine.ledger
      | some entryType =>
          if ledgerKey event ∈ engine.ledger.idempotencyKeys then engine.ledger
          else { entries := engine.ledger.entries ++ [paymentEntry event entryType ledgerId],
                 idempotencyKeys := ledgerKey event :: engine.ledger.idempotencyKeys } := by
  rw [withPayment, ledgerizePayment]
  cases entryTypeOf event.status with
  | none => rfl
  | some entryType => exact append_paymentEntry named fresh

theorem withPayment_keys (named : event.eventId ≠ "")
    (fresh : ledgerId ∉ engine.ledger.entries.map FinancialLedgerEntry.ledgerId) (key : String) :
    key ∈ (withPayment engine event ledgerId).ledger.idempotencyKeys ↔
      key ∈ engine.ledger.idempotencyKeys ∨ (entryTypeOf event.status).isSome ∧ ledgerKey event = key := by
  rw [withPayment_ledger named fresh]
  cases entryTypeOf event.status with
  | none => simp
  | some entryType =>
      dsimp only
      split
      case isTrue taken =>
          constructor
          · exact .inl
          · rintro (before | ⟨-, rfl⟩)
            · exact before
            · exact taken
      case isFalse => simp [or_comm, eq_comm]

theorem withPayment_entries (named : event.eventId ≠ "")
    (fresh : ledgerId ∉ engine.ledger.entries.map FinancialLedgerEntry.ledgerId) {entry : FinancialLedgerEntry} :
    entry ∈ (withPayment engine event ledgerId).ledger.entries ↔ entry ∈ engine.ledger.entries ∨
      ledgerKey event ∉ engine.ledger.idempotencyKeys ∧
        ∃ entryType ∈ entryTypeOf event.status, entry = paymentEntry event entryType ledgerId := by
  rw [withPayment_ledger named fresh]
  cases entryTypeOf event.status with
  | none => simp
  | some entryType =>
      dsimp only
      split
      case isTrue taken => simp [taken]
      case isFalse free => simp [free]

end AutonomousApi.FinancialHardening
