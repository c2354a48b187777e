import AutonomousApi.RunningRounding
import AutonomousApi.Settlement
import Mathlib.Algebra.BigOperators.Ring.List

/-! The balance of a tenant as reconciliation computes it, which rounds after each entry, against that of the ledger,
which rounds their sum. Amounts are counted in cents. -/

namespace AutonomousApi.Settlement

open RecordTable RunningRounding

theorem roundHalfEven_nearest (value : Rat) : NearestEven value (roundHalfEven value) := by
  have low : ((value.floor : Int) : Rat) ≤ value := Rat.floor_le value
  have high : value < ((value.floor : Int) : Rat) + 1 := by
    have above := Rat.lt_floor_add_one value
    rwa [Rat.intCast_add, Rat.intCast_one] at above
  rw [roundHalfEven]
  split
  case isTrue below =>
      refine .inl (abs_lt.mpr ⟨by linarith, below⟩)
  case isFalse notBelow =>
      split
      case isTrue above =>
          refine .inl (abs_lt.mpr ⟨?_, ?_⟩) <;> push_cast <;> linarith
      case isFalse notAbove =>
          have tie : value - value.floor = 1 / 2 := le_antisymm (not_lt.mp notAbove) (not_lt.mp notBelow)
          split
          case isTrue even => exact .inr ⟨by rw [tie]; exact abs_of_nonneg (by norm_num), even⟩
          case isFalse odd =>
              refine .inr ⟨?_, by omega⟩
              have beyond : value - ((value.floor + 1 : Int) : Rat) = -(1 / 2) := by push_cast; linarith
              rw [beyond, abs_neg]
              exact abs_of_nonneg (by norm_num)

/-- What is added to a balance, in cents. -/
def centsOf (amounts : List Rat) : List Rat := amounts.map (· * 100)

theorem foldl_round2 (amounts : List Rat) (start : Int) :
    amounts.foldl (fun total amount => round2 (total + amount)) ((start : Rat) / 100) =
      (running roundHalfEven start (centsOf amounts) : Int) / 100 := by
  induction amounts generalizing start with
  | nil => rfl
  | cons amount rest ih =>
      have scaled : ((start : Rat) / 100 + amount) * 100 = start + amount * 100 := by ring
      rw [List.foldl_cons, round2, scaled, ih]
      rfl

variable {Time : Type} {config : Config} {engine : Engine Time} {marketplaceId tenantId currency : String}

section

/-- The balance that reconciliation goes by. -/
def reconciledBalance (engine : Engine Time) (marketplaceId tenantId currency : String) : Rat :=
  ((find Prod.fst (balancesByTenant engine marketplaceId) (tenantId, currency)).map Prod.snd).getD 0

/-- The amounts of a tenant in a currency, in cents. -/
def centAmounts (entries : List (LedgerEntry Time)) (marketplaceId tenantId currency : String) : List Rat :=
  centsOf ((entries.filter fun entry =>
    entry.marketplaceId = marketplaceId ∧ entry.tenantId = tenantId ∧ entry.currency = currency).map LedgerEntry.amount)

theorem centAmounts_eq (entries : List (LedgerEntry Time)) (marketplaceId tenantId currency : String) :
    centAmounts entries marketplaceId tenantId currency = (entries.filter fun entry =>
      entry.marketplaceId = marketplaceId ∧ entry.tenantId = tenantId ∧ entry.currency = currency).map
        fun entry => entry.amount * 100 :=
  List.map_map

theorem balancesLoop_total (balances : List ((String × String) × Rat)) (entries : List (LedgerEntry Time)) :
    ((find Prod.fst (balancesLoop marketplaceId balances entries) (tenantId, currency)).map Prod.snd).getD 0 =
      ((entries.filter fun entry => entry.marketplaceId = marketplaceId ∧ entry.tenantId = tenantId ∧
        entry.currency = currency).map LedgerEntry.amount).foldl (fun total amount => round2 (total + amount))
          (((find Prod.fst balances (tenantId, currency)).map Prod.snd).getD 0) := by
  induction entries generalizing balances with
  | nil => rfl
  | cons entry rest ih =>
      rw [balancesLoop, List.filter_cons]
      by_cases inside : entry.marketplaceId = marketplaceId
      · rw [if_pos inside]
        dsimp only
        rw [ih, find_put]
        by_cases own : (entry.tenantId, entry.currency) = (tenantId, currency)
        · obtain ⟨tenant, money⟩ := Prod.mk.inj own
          rw [if_pos own, if_pos (decide_eq_true ⟨inside, tenant, money⟩), own]
          rfl
        · rw [if_neg own, if_neg]
          intro counted
          exact own (Prod.ext (of_decide_eq_true counted).2.1 (of_decide_eq_true counted).2.2)
      · rw [if_neg inside, ih, if_neg]
        exact fun counted => inside (of_decide_eq_true counted).1

theorem reconciledBalance_eq : reconciledBalance engine marketplaceId tenantId currency =
    (running roundHalfEven 0 (centAmounts engine.entries marketplaceId tenantId currency) : Int) / 100 := by
  rw [reconciledBalance, balancesByTenant, balancesLoop_total, centAmounts, ← foldl_round2]
  norm_num [find]

theorem balance_eq : balance engine marketplaceId tenantId currency =
    (roundHalfEven (centAmounts engine.entries marketplaceId tenantId currency).sum : Int) / 100 := by
  rw [balance, round2, ledgerTotal, ← List.sum_map_mul_right, centAmounts_eq]

theorem balancesLoop_keyed {balances : List ((String × String) × Rat)} (keyed : Keyed Prod.fst balances)
    {entries : List (LedgerEntry Time)} : Keyed Prod.fst (balancesLoop marketplaceId balances entries) := by
  induction entries generalizing balances with
  | nil => exact keyed
  | cons entry rest ih =>
      rw [balancesLoop]
      split
      · exact ih keyed.put
      · exact ih keyed

variable [LinearOrder Time] {periodStart periodEnd : Time}

/-- The run finds that the balance of the tenant is negative. -/
def NegativeReported (config : Config) (engine : Engine Time) (marketplaceId tenantId currency : String)
    (periodStart periodEnd : Time) : Prop :=
  ∃ mismatch ∈ newMismatches config engine marketplaceId periodStart periodEnd,
    mismatch.mismatchType = .negativeBalance ∧ mismatch.details = [("tenant_id", tenantId), ("currency", currency)]

theorem negativeReported_iff :
    NegativeReported config engine marketplaceId tenantId currency periodStart periodEnd ↔
      reconciledBalance engine marketplaceId tenantId currency < 0 ∧ config.policy.allowNegativeBalances = false := by
  have keyed : Keyed Prod.fst (balancesByTenant engine marketplaceId) := @balancesLoop_keyed _ _ [] List.nodup_nil _
  constructor
  · rintro ⟨mismatch, member, negative, details⟩
    rcases List.mem_append.mp member with unmatched | found
    · rcases List.mem_append.mp unmatched with missing | orphan
      · obtain ⟨event, -, rfl⟩ := List.mem_map.mp missing
        cases negative
      · obtain ⟨entry, -, rfl⟩ := List.mem_map.mp orphan
        cases negative
    · obtain ⟨⟨⟨tenant, money⟩, amount⟩, inside, rfl⟩ := List.mem_map.mp found
      obtain ⟨held, below⟩ := List.mem_filter.mp inside
      have named : [("tenant_id", tenant), ("currency", money)] = [("tenant_id", tenantId), ("currency", currency)] :=
        details
      obtain ⟨rfl, rfl⟩ : tenant = tenantId ∧ money = currency := by simpa using named
      rw [reconciledBalance, keyed.find_of_mem held]
      exact of_decide_eq_true below
  · rintro ⟨below, disallowed⟩
    rw [reconciledBalance] at below
    cases found : find Prod.fst (balancesByTenant engine marketplaceId) (tenantId, currency) with
    | none =>
        rw [found] at below
        exact absurd below (lt_irrefl _)
    | some balance =>
        rw [found] at below
        obtain ⟨held, named⟩ := mem_of_find found
        refine ⟨_, List.mem_append_right _ (List.mem_map_of_mem (List.mem_filter.mpr ⟨held,
          decide_eq_true ⟨below, disallowed⟩⟩)), rfl, ?_⟩
        rw [named]
        rfl

end

variable [LinearOrder Time]

/-- Both balances are one, neither depends on the order of the entries, and a negative one is reported. -/
structure Agreed (config : Config) (engine : Engine Time) (marketplaceId tenantId currency : String) : Prop where
  equal : reconciledBalance engine marketplaceId tenantId currency = balance engine marketplaceId tenantId currency
  ordered : ∀ entries, engine.entries.Perm entries →
    reconciledBalance { engine with entries } marketplaceId tenantId currency =
        reconciledBalance engine marketplaceId tenantId currency ∧
      balance { engine with entries } marketplaceId tenantId currency = balance engine marketplaceId tenantId currency
  reported : ∀ periodStart periodEnd,
    NegativeReported config engine marketplaceId tenantId currency periodStart periodEnd ↔
      balance engine marketplaceId tenantId currency < 0 ∧ config.policy.allowNegativeBalances = false

/-- An order of what some items give is that of an order of the items. -/
theorem exists_reordered {Item Image : Type} {counts : Item → Bool} {image : Item → Image} {items : List Item}
    {images : List Image} (perm : ((items.filter counts).map image).Perm images) :
    ∃ reordered, items.Perm reordered ∧ (reordered.filter counts).map image = images := by
  have along : List.Forall₂ (fun given item => given = image item) ((items.filter counts).map image)
      (items.filter counts) := by
    rw [List.forall₂_map_left_iff, List.forall₂_same]
    exact fun _ _ => rfl
  obtain ⟨counted, listed, same⟩ := List.perm_comp_forall₂ perm.symm along
  have inside : ∀ item ∈ counted, counts item = true :=
    fun item member => (List.mem_filter.mp (same.mem_iff.mp member)).2
  refine ⟨counted ++ items.filter fun item => !counts item, ?_, ?_⟩
  · exact (List.filter_append_perm counts items).symm.trans (same.symm.append_right _)
  · have none : (items.filter fun item => !counts item).filter counts = [] := by
      rw [List.filter_filter]
      exact List.filter_eq_nil_iff.mpr fun item _ => by simp
    rw [List.filter_append, List.filter_eq_self.mpr inside, none, List.append_nil]
    rw [← List.forall₂_eq_eq_eq, List.forall₂_map_left_iff]
    exact listed.flip.imp fun _ _ same => same.symm

/-- The two balances agree, whatever the order, exactly if no amount halfway between two cents comes with one that
rounds to an odd number of cents, and the rounded amounts add up to the rounded sum. -/
theorem balances_agree_iff : Agreed config engine marketplaceId tenantId currency ↔
    Unmixed roundHalfEven (centAmounts engine.entries marketplaceId tenantId currency) ∧
      NearestEven (centAmounts engine.entries marketplaceId tenantId currency).sum
        ((centAmounts engine.entries marketplaceId tenantId currency).map roundHalfEven).sum := by
  have cents {first second : Int} : (first : Rat) / 100 = second / 100 ↔ first = second := by
    rw [div_left_inj' (by decide), Int.cast_inj]
  constructor
  · intro agreed
    have unmixed : Unmixed roundHalfEven (centAmounts engine.entries marketplaceId tenantId currency) := by
      apply (unmixed_iff roundHalfEven_nearest).mp
      intro reordered perm
      rw [centAmounts_eq] at perm
      obtain ⟨entries, same, rfl⟩ := exists_reordered perm
      have ordered := (agreed.ordered entries same).1
      rw [reconciledBalance_eq, reconciledBalance_eq, cents] at ordered
      rw [← centAmounts_eq]
      exact ordered
    have equal := agreed.equal
    rw [reconciledBalance_eq, balance_eq, cents, running_unmixed roundHalfEven_nearest unmixed fun _ => rfl, zero_add]
      at equal
    exact ⟨unmixed, (round_eq_iff roundHalfEven_nearest).mp equal.symm⟩
  · rintro ⟨unmixed, nearest⟩
    have equal : reconciledBalance engine marketplaceId tenantId currency =
        balance engine marketplaceId tenantId currency := by
      rw [reconciledBalance_eq, balance_eq, cents, running_unmixed roundHalfEven_nearest unmixed fun _ => rfl, zero_add]
      exact ((round_eq_iff roundHalfEven_nearest).mpr nearest).symm
    refine ⟨equal, fun entries perm => ?_, fun periodStart periodEnd => by rw [negativeReported_iff, equal]⟩
    have amounts : (centAmounts engine.entries marketplaceId tenantId currency).Perm
        (centAmounts entries marketplaceId tenantId currency) := by
      rw [centAmounts_eq, centAmounts_eq]
      exact (perm.filter _).map _
    rw [reconciledBalance_eq, reconciledBalance_eq, balance_eq, balance_eq, cents, cents]
    exact ⟨(unmixed_iff roundHalfEven_nearest).mpr unmixed _ amounts, congrArg roundHalfEven amounts.sum_eq.symm⟩

/-- A fee of four tenths of a cent. -/
def smallFee (id : String) : LedgerEntry Nat :=
  { id, eventId := some id, idempotencyKey := id, entryType := .fee, marketplaceId := "market", tenantId := "tenant",
    amount := -(4 / 1000), currency := "USD", createdAt := 0 }

def threeFees : Engine Nat := { entries := [smallFee "one", smallFee "two", smallFee "three"] }

/-- Three fees of four tenths of a cent are a cent together, and nothing one by one. -/
theorem fees_vanish :
    balance threeFees "market" "tenant" "USD" = -(1 / 100) ∧
      reconciledBalance threeFees "market" "tenant" "USD" = 0 ∧
      ¬ NegativeReported { moneyText := fun _ => "" } threeFees "market" "tenant" "USD" 0 1 := by
  have none : reconciledBalance threeFees "market" "tenant" "USD" = 0 := by decide +kernel
  refine ⟨by decide +kernel, none, fun reported => ?_⟩
  rw [negativeReported_iff, none] at reported
  exact lt_irrefl _ reported.1

end AutonomousApi.Settlement
