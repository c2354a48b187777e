import AutonomousApi.Settlement

/-! Deliveries of the same financial events, in any order and any number of times each, leave ledgers with the same
balances. The events that a ledger keeps are a list of distinct keys that only depends on what was delivered, and its
entries say of each of them what the event says. -/

namespace AutonomousApi.Settlement

variable {Time : Type}

/-- A call of `ingest_event`, with the id and the time that the entry would get. -/
structure Delivery (Time : Type) where
  event : FinancialEvent Time
  entryId : String
  now : Time

def ingestAll (engine : Engine Time) (deliveries : List (Delivery Time)) : Engine Time :=
  deliveries.foldl (fun engine delivery => (ingestEvent engine delivery.event delivery.entryId delivery.now).1) engine

/-- The event has an entry type, and `_signed_amount` can read its amount. -/
def Ledgerable (event : FinancialEvent Time) : Prop :=
  (entryTypeForEvent event.eventType).isSome = true ∧ (signedAmount event).isSome = true

instance (event : FinancialEvent Time) : Decidable (Ledgerable event) := inferInstanceAs (Decidable (_ ∧ _))

/-- Each ledgerable event has one entry under its key, and there is no other entry. -/
structure OnePerKey (engine : Engine Time) (events : List (FinancialEvent Time)) : Prop where
  one : ∀ event ∈ events, Ledgerable event →
    (engine.entries.filter fun entry => entry.idempotencyKey = event.idempotencyKey).length = 1
  only : ∀ entry ∈ engine.entries, ∃ event ∈ events, Ledgerable event ∧ event.idempotencyKey = entry.idempotencyKey

/-- Equal keys are keys of equal events. -/
def Consistent (events : List (FinancialEvent Time)) : Prop :=
  ∀ event ∈ events, ∀ other ∈ events, event.idempotencyKey = other.idempotencyKey → event = other

section

/-- What an entry says beside its own id and time. -/
structure LedgerLine where
  idempotencyKey : String
  marketplaceId : String
  tenantId : String
  currency : String
  amount : Rat

def LedgerEntry.line (entry : LedgerEntry Time) : LedgerLine :=
  ⟨entry.idempotencyKey, entry.marketplaceId, entry.tenantId, entry.currency, entry.amount⟩

def FinancialEvent.line (event : FinancialEvent Time) : LedgerLine :=
  ⟨event.idempotencyKey, event.marketplaceId, event.tenantId, event.currency, (signedAmount event).getD 0⟩

/-- What a ledger is after some events were delivered to it. -/
structure Ledgered (engine : Engine Time) (delivered : List (FinancialEvent Time)) : Prop where
  lines : engine.entries.map LedgerEntry.line = engine.events.map FinancialEvent.line
  distinct : (engine.events.map FinancialEvent.idempotencyKey).Nodup
  keys : ∀ key, key ∈ engine.idempotencyKeys ↔ key ∈ engine.events.map FinancialEvent.idempotencyKey
  exact : ∀ event, event ∈ engine.events ↔ event ∈ delivered ∧ Ledgerable event

variable {engine : Engine Time} {delivered : List (FinancialEvent Time)} {event : FinancialEvent Time}
  {entryId : String} {now : Time}

/-- An event that is known already, or that has no entry, changes nothing. -/
theorem Ledgered.skipped (ledgered : Ledgered engine delivered) (known : Ledgerable event → event ∈ engine.events) :
    Ledgered engine (delivered ++ [event]) where
  lines := ledgered.lines
  distinct := ledgered.distinct
  keys := ledgered.keys
  exact other := by
    rw [ledgered.exact, List.mem_append, List.mem_singleton]
    constructor
    · exact And.imp_left .inl
    · rintro ⟨before | rfl, ledgerable⟩
      · exact ⟨before, ledgerable⟩
      · exact (ledgered.exact other).mp (known ledgerable)

theorem Ledgered.ingest (ledgered : Ledgered engine delivered) (consistent : Consistent (delivered ++ [event])) :
    Ledgered (ingestEvent engine event entryId now).1 (delivered ++ [event]) := by
  rw [ingestEvent]
  by_cases known : event.idempotencyKey ∈ engine.idempotencyKeys
  · rw [if_pos known]
    apply ledgered.skipped
    intro _
    obtain ⟨earlier, member, same⟩ := List.mem_map.mp ((ledgered.keys _).mp known)
    have before : earlier ∈ delivered ++ [event] := List.mem_append_left _ ((ledgered.exact earlier).mp member).1
    exact consistent earlier before event (List.mem_append_right _ List.mem_cons_self) same ▸ member
  · rw [if_neg known]
    cases typed : entryTypeForEvent event.eventType with
    | none =>
        apply ledgered.skipped
        rintro ⟨some_, -⟩
        rw [typed] at some_
        cases some_
    | some entryType =>
        dsimp only
        cases signed : signedAmount event with
        | none =>
            apply ledgered.skipped
            rintro ⟨-, some_⟩
            rw [signed] at some_
            cases some_
        | some amount =>
            have ledgerable : Ledgerable event := ⟨typed ▸ rfl, signed ▸ rfl⟩
            rw [ledgered.keys] at known
            refine ⟨?_, ?_, fun key => ?_, fun other => ?_⟩
            · have line : (entryFor event entryType amount entryId now).line = event.line := by
                rw [FinancialEvent.line, signed]
                rfl
              rw [List.map_append, List.map_append, ledgered.lines, List.map_singleton, List.map_singleton, line]
            · rw [List.map_append, List.map_singleton, ← List.concat_eq_append]
              exact ledgered.distinct.concat known
            · rw [List.mem_cons, ledgered.keys, List.map_append, List.mem_append, List.map_singleton,
                List.mem_singleton, or_comm]
            · rw [List.mem_append, ledgered.exact, List.mem_append, List.mem_singleton, or_and_right]
              apply or_congr_right
              exact ⟨fun same => ⟨same, same ▸ ledgerable⟩, And.left⟩

theorem ledgered_all {deliveries : List (Delivery Time)} (consistent : Consistent (deliveries.map Delivery.event)) :
    Ledgered (ingestAll {} deliveries) (deliveries.map Delivery.event) := by
  induction deliveries using List.reverseRecOn with
  | nil => exact ⟨rfl, List.nodup_nil, fun _ => Iff.rfl, fun _ => by simp [ingestAll]⟩
  | append_singleton deliveries last ih =>
      rw [List.map_append, List.map_singleton] at consistent ⊢
      rw [ingestAll, List.foldl_append, List.foldl_cons, List.foldl_nil]
      refine (ih fun event member other also same => ?_).ingest consistent
      exact consistent event (List.mem_append_left _ member) other (List.mem_append_left _ also) same

end

variable {engine other : Engine Time} {delivered : List (FinancialEvent Time)}

/-- The part of a line that counts for a balance. -/
def LedgerLine.counts (marketplaceId tenantId currency : String) (line : LedgerLine) : Bool :=
  line.marketplaceId = marketplaceId ∧ line.tenantId = tenantId ∧ line.currency = currency

theorem ledgerTotal_lines (engine : Engine Time) (marketplaceId tenantId currency : String) :
    ledgerTotal engine marketplaceId tenantId currency =
      (((engine.entries.map LedgerEntry.line).filter
        (LedgerLine.counts marketplaceId tenantId currency)).map LedgerLine.amount).sum := by
  rw [List.filter_map, List.map_map]
  rfl

/-- Two ledgers of the same events have the same balances. -/
theorem Ledgered.balance_eq (ledgered : Ledgered engine delivered) {deliveredToo : List (FinancialEvent Time)}
    (also : Ledgered other deliveredToo) (same : ∀ event, event ∈ delivered ↔ event ∈ deliveredToo)
    (marketplaceId tenantId currency : String) :
    balance engine marketplaceId tenantId currency = balance other marketplaceId tenantId currency := by
  have events : engine.events.Perm other.events := by
    apply (List.perm_ext_iff_of_nodup (List.Nodup.of_map _ ledgered.distinct) (List.Nodup.of_map _ also.distinct)).mpr
    intro event
    rw [ledgered.exact, also.exact, same]
  have lines := ((events.map FinancialEvent.line).filter (LedgerLine.counts marketplaceId tenantId currency)).map
    LedgerLine.amount
  rw [balance, balance, ledgerTotal_lines, ledgerTotal_lines, ledgered.lines, also.lines, lines.sum_eq]

theorem Ledgered.entryKeys (ledgered : Ledgered engine delivered) :
    engine.entries.map LedgerEntry.idempotencyKey = engine.events.map FinancialEvent.idempotencyKey := by
  have keys := congrArg (List.map LedgerLine.idempotencyKey) ledgered.lines
  rwa [List.map_map, List.map_map] at keys

theorem Ledgered.onePerKey (ledgered : Ledgered engine delivered) : OnePerKey engine delivered where
  one event member ledgerable := by
    have held : event.idempotencyKey ∈ engine.entries.map LedgerEntry.idempotencyKey := by
      rw [ledgered.entryKeys]
      exact List.mem_map_of_mem ((ledgered.exact event).mpr ⟨member, ledgerable⟩)
    have once := List.count_eq_one_of_mem (ledgered.entryKeys ▸ ledgered.distinct) held
    rw [List.count_eq_countP, List.countP_map, List.countP_eq_length_filter] at once
    exact once
  only entry member := by
    have held := List.mem_map_of_mem (f := LedgerEntry.idempotencyKey) member
    rw [ledgered.entryKeys] at held
    obtain ⟨event, inside, same⟩ := List.mem_map.mp held
    obtain ⟨before, ledgerable⟩ := (ledgered.exact event).mp inside
    exact ⟨event, before, ledgerable, same⟩

/-- The ledger does not depend on the order of the deliveries, nor on how often one is repeated. -/
theorem ingested_confluent {first second : List (Delivery Time)}
    (same : ∀ event, event ∈ first.map Delivery.event ↔ event ∈ second.map Delivery.event)
    (consistent : Consistent (first.map Delivery.event)) :
    (∀ marketplaceId tenantId currency, balance (ingestAll {} first) marketplaceId tenantId currency =
      balance (ingestAll {} second) marketplaceId tenantId currency) ∧
    OnePerKey (ingestAll {} first) (first.map Delivery.event) ∧
    OnePerKey (ingestAll {} second) (second.map Delivery.event) := by
  have alsoConsistent : Consistent (second.map Delivery.event) := fun event member other inside =>
    consistent event ((same event).mpr member) other ((same other).mpr inside)
  have one := ledgered_all consistent
  have two := ledgered_all alsoConsistent
  exact ⟨one.balance_eq two same, one.onePerKey, two.onePerKey⟩

def saleDelivery (entryId : String) (now : Nat) : Delivery Nat where
  event := { id := "event_1", idempotencyKey := "sale", eventType := .paymentCaptured, marketplaceId := "market",
             tenantId := "tenant", amount := 100, occurredAt := 0 }
  entryId := entryId
  now := now

def refundDelivery (entryId : String) (now : Nat) : Delivery Nat where
  event := { id := "event_2", idempotencyKey := "refund", eventType := .refundIssued, marketplaceId := "market",
             tenantId := "tenant", amount := 30, occurredAt := 0 }
  entryId := entryId
  now := now

theorem redelivered_confluent :
    (∀ marketplaceId tenantId currency,
      balance (ingestAll {} [saleDelivery "one" 1, refundDelivery "two" 2]) marketplaceId tenantId currency =
        balance (ingestAll {} [refundDelivery "one" 1, saleDelivery "two" 2, refundDelivery "three" 3]) marketplaceId
          tenantId currency) ∧
    balance (ingestAll {} [saleDelivery "one" 1, refundDelivery "two" 2]) "market" "tenant" "USD" = 70 := by
  refine ⟨(ingested_confluent ?_ ?_).1, by decide +kernel⟩
  · intro event
    simp only [List.map_cons, List.map_nil, List.mem_cons, List.not_mem_nil, or_false]
    constructor
    · rintro (sale | refund)
      · exact .inr (.inl sale)
      · exact .inl refund
    · rintro (refund | sale | refund)
      · exact .inr refund
      · exact .inl sale
      · exact .inr refund
  · intro event member other also
    simp only [saleDelivery, refundDelivery, List.map_cons, List.map_nil, List.mem_cons, List.not_mem_nil, or_false]
      at member also
    rcases member with rfl | rfl <;> rcases also with rfl | rfl <;> simp

end AutonomousApi.Settlement
