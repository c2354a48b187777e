import AutonomousApi.SettlementReconciliation

/-! Whether a run of the reconciliation notices a mismatch whose id is already known. Runs keep a history of what was
found and of what was resolved; a mismatch is recorded when it is first found, and never opened again. -/

namespace AutonomousApi.Settlement

open RecordTable Runs

structure Watch (Time : Type) where
  engine : Engine Time := {}
  found : List ReconciliationMismatch := []
  resolved : List String := []

section

variable {Time : Type} [LinearOrder Time] (config : Config)

def foundBy (engine : Engine Time) : Command Time → List ReconciliationMismatch
  | .reconcile marketplaceId periodStart periodEnd => newMismatches config engine marketplaceId periodStart periodEnd
  | _ => []

def resolvedBy (engine : Engine Time) : Command Time → List String
  | .resolve mismatchId actorId notes =>
      match (resolveMismatch engine mismatchId actorId notes).2 with
      | .ok mismatch => [mismatch.id]
      | .error _ => []
  | _ => []

def observe (watch : Watch Time) (command : Command Time) : Option (Watch Time) :=
  (step config watch.engine command).map fun engine =>
    { engine, found := watch.found ++ foundBy config watch.engine command,
      resolved := resolvedBy watch.engine command ++ watch.resolved }

/-- A run that finds something fails, and the marketplace is blocked. -/
def Noticed (engine : Engine Time) : Command Time → Prop
  | .reconcile marketplaceId periodStart periodEnd =>
      newMismatches config engine marketplaceId periodStart periodEnd ≠ [] →
        (reconcile config engine marketplaceId periodStart periodEnd).2.failed = true ∧
          hasBlockingMismatches (reconcile config engine marketplaceId periodStart periodEnd).1 marketplaceId = true
  | _ => True

instance (engine : Engine Time) (command : Command Time) : Decidable (Noticed config engine command) :=
  command.casesOn (motive := fun command => Decidable (Noticed config engine command))
    (fun _ _ _ => .isTrue trivial) (fun _ _ _ _ _ _ _ => .isTrue trivial) (fun _ _ _ => .isTrue trivial)
    (fun _ _ _ _ => .isTrue trivial) (fun _ _ _ => inferInstanceAs (Decidable (_ ≠ _ → _ ∧ _)))
    (fun _ _ _ => .isTrue trivial)

/-- Something was found first in this marketplace and has not been resolved. -/
def StillOpen (watch : Watch Time) (marketplaceId : String) : Prop :=
  ∃ mismatch, find ReconciliationMismatch.id watch.found mismatch.id = some mismatch ∧
    mismatch.marketplaceId = marketplaceId ∧ mismatch.id ∉ watch.resolved

/-- A run that finds something finds it for the first time, or something else is still open. -/
def FirstTime (watch : Watch Time) : Command Time → Prop
  | .reconcile marketplaceId periodStart periodEnd =>
      newMismatches config watch.engine marketplaceId periodStart periodEnd ≠ [] →
        (∃ mismatch ∈ newMismatches config watch.engine marketplaceId periodStart periodEnd,
          mismatch.id ∉ watch.found.map ReconciliationMismatch.id) ∨ StillOpen watch marketplaceId
  | _ => True

end

section

variable {Time : Type} {engine : Engine Time} {watch : Watch Time} {marketplaceId : String}

theorem find_recordMismatches (known found : List ReconciliationMismatch) (wanted : String) :
    find ReconciliationMismatch.id (recordMismatches known found) wanted =
      (find ReconciliationMismatch.id known wanted).or (find ReconciliationMismatch.id found wanted) := by
  induction found generalizing known with
  | nil => exact (Option.or_none).symm
  | cons mismatch rest ih =>
      rw [recordMismatches]
      split
      case isTrue present =>
          rw [ih, find, find, find, List.find?_cons]
          by_cases same : mismatch.id = wanted
          · obtain ⟨earlier, member, named⟩ := List.mem_map.mp present
            have held : (known.find? fun earlier => earlier.id = wanted).isSome = true :=
              List.find?_isSome.mpr ⟨earlier, member, by simp [named, same]⟩
            obtain ⟨kept, first⟩ := Option.isSome_iff_exists.mp held
            rw [first, Option.some_or, Option.some_or]
          · rw [decide_eq_false same]
      case isFalse =>
          rw [ih, find, List.find?_append, find, find, Option.or_assoc, ← List.find?_append, List.singleton_append]
          rfl

theorem find_joined (earlier found : List ReconciliationMismatch) (wanted : String) :
    find ReconciliationMismatch.id (earlier ++ found) wanted =
      (find ReconciliationMismatch.id earlier wanted).or (find ReconciliationMismatch.id found wanted) :=
  List.find?_append

/-- What the engine records is what the history says: the first finding under each id, resolved since or not. -/
structure Recorded (watch : Watch Time) : Prop where
  keyed : Keyed ReconciliationMismatch.id watch.engine.mismatches
  standing : ∀ id, (find ReconciliationMismatch.id watch.engine.mismatches id).map (fun mismatch =>
      (mismatch.marketplaceId, mismatch.resolved)) =
    (find ReconciliationMismatch.id watch.found id).map fun mismatch =>
      (mismatch.marketplaceId, decide (id ∈ watch.resolved))
  known : ∀ id ∈ watch.resolved, (find ReconciliationMismatch.id watch.found id).isSome = true

theorem recorded_start : Recorded ({} : Watch Time) where
  keyed := List.nodup_nil
  standing _ := rfl
  known _ member := absurd member List.not_mem_nil

theorem Recorded.blocking_iff (recorded : Recorded watch) :
    hasBlockingMismatches watch.engine marketplaceId = true ↔ StillOpen watch marketplaceId := by
  rw [hasBlockingMismatches, List.any_eq_true]
  constructor
  · rintro ⟨mismatch, member, blocking⟩
    obtain ⟨ofMarketplace, opened⟩ := of_decide_eq_true blocking
    have standing := recorded.standing mismatch.id
    rw [recorded.keyed.find_of_mem member, Option.map_some] at standing
    obtain ⟨first, found, same⟩ := Option.map_eq_some_iff.mp standing.symm
    obtain ⟨marketplace, resolved⟩ := Prod.mk.inj same
    have named := (mem_of_find found).2
    refine ⟨first, named ▸ found, marketplace.trans ofMarketplace, ?_⟩
    rw [named]
    exact of_decide_eq_false (resolved.trans opened)
  · rintro ⟨first, found, ofMarketplace, opened⟩
    have standing := recorded.standing first.id
    rw [found, Option.map_some, decide_eq_false opened] at standing
    obtain ⟨mismatch, held, same⟩ := Option.map_eq_some_iff.mp standing
    obtain ⟨marketplace, resolved⟩ := Prod.mk.inj same
    exact ⟨mismatch, (mem_of_find held).1, decide_eq_true ⟨marketplace.trans ofMarketplace, resolved⟩⟩

theorem Recorded.unchanged (recorded : Recorded watch) (same : engine.mismatches = watch.engine.mismatches) :
    Recorded { watch with engine } where
  keyed := same ▸ recorded.keyed
  standing := same ▸ recorded.standing
  known := recorded.known

/-- A mismatch under a new id is recorded as open. -/
theorem Recorded.extend (recorded : Recorded watch) {found : List ReconciliationMismatch}
    (opened : ∀ mismatch ∈ found, mismatch.resolved = false)
    (grown : engine.mismatches = recordMismatches watch.engine.mismatches found) :
    Recorded { watch with engine, found := watch.found ++ found } where
  keyed := grown ▸ recordMismatches_keyed found recorded.keyed
  standing id := by
    have before := recorded.standing id
    rw [grown, find_recordMismatches, find_joined]
    cases known : find ReconciliationMismatch.id watch.found id with
    | some first =>
        rw [known] at before
        obtain ⟨mismatch, held, same⟩ := Option.map_eq_some_iff.mp before
        rw [held, Option.some_or, Option.some_or, Option.map_some, Option.map_some, same]
    | none =>
        rw [known, Option.map_none, Option.map_eq_none_iff] at before
        have unresolved : id ∉ watch.resolved := by
          intro resolved
          have some_ := recorded.known id resolved
          rw [known] at some_
          cases some_
        rw [before, Option.none_or]
        apply Option.map_congr
        intro mismatch found
        rw [opened mismatch (mem_of_find found).1, decide_eq_false unresolved]
  known id resolved := by
    rw [find_joined]
    obtain ⟨first, held⟩ := Option.isSome_iff_exists.mp (recorded.known id resolved)
    rw [held]
    rfl

/-- What is open after a run: what was so before, and what was found for the first time. -/
theorem Recorded.stillOpen_iff (recorded : Recorded watch) {found : List ReconciliationMismatch}
    (own : ∀ mismatch ∈ found, mismatch.marketplaceId = marketplaceId) :
    StillOpen { watch with engine, found := watch.found ++ found } marketplaceId ↔
      (∃ mismatch ∈ found, mismatch.id ∉ watch.found.map ReconciliationMismatch.id) ∨
        StillOpen watch marketplaceId := by
  constructor
  · rintro ⟨first, held, ofMarketplace, opened⟩
    rw [find_joined] at held
    cases earlier : find ReconciliationMismatch.id watch.found first.id with
    | some known =>
        rw [earlier, Option.some_or] at held
        cases held
        exact .inr ⟨first, earlier, ofMarketplace, opened⟩
    | none =>
        rw [earlier, Option.none_or] at held
        exact .inl ⟨first, (mem_of_find held).1, find_eq_none_iff.mp earlier⟩
  · rintro (⟨mismatch, member, absent⟩ | ⟨first, held, ofMarketplace, opened⟩)
    · have unknown := find_eq_none_iff.mpr absent
      have listed : (find ReconciliationMismatch.id found mismatch.id).isSome = true :=
        List.find?_isSome.mpr ⟨mismatch, member, decide_eq_true rfl⟩
      obtain ⟨first, held⟩ := Option.isSome_iff_exists.mp listed
      obtain ⟨inside, named⟩ := mem_of_find held
      refine ⟨first, ?_, own first inside, fun resolved => ?_⟩
      · rw [find_joined, named, unknown, Option.none_or, held]
      · have known := recorded.known _ resolved
        rw [named, unknown] at known
        cases known
    · exact ⟨first, by rw [find_joined, held, Option.some_or], ofMarketplace, opened⟩

theorem Recorded.resolve (recorded : Recorded watch) (mismatchId actorId notes : String) :
    Recorded { watch with
      engine := (resolveMismatch watch.engine mismatchId actorId notes).1,
      resolved := resolvedBy watch.engine (.resolve mismatchId actorId notes) ++ watch.resolved } := by
  rw [resolvedBy, resolveMismatch]
  cases held : find ReconciliationMismatch.id watch.engine.mismatches mismatchId with
  | none => exact recorded
  | some mismatch =>
      dsimp only
      have named := (mem_of_find held).2
      refine ⟨recorded.keyed.put, fun id => ?_, fun id resolved => ?_⟩
      · have before := recorded.standing id
        rw [find_put]
        dsimp only
        by_cases same : mismatch.id = id
        · rw [if_pos same]
          subst same
          rw [named, held, Option.map_some] at before
          obtain ⟨first, found, equal⟩ := Option.map_eq_some_iff.mp before.symm
          rw [named, found]
          simpa using (Prod.mk.inj equal).1.symm
        · rw [if_neg same, before]
          simp [Ne.symm same]
      · rcases List.mem_cons.mp resolved with rfl | earlier
        · have before := recorded.standing mismatch.id
          rw [named, held, Option.map_some] at before
          obtain ⟨first, found, -⟩ := Option.map_eq_some_iff.mp before.symm
          rw [named, found]
          rfl
        · exact recorded.known id earlier

end

section

variable {Time : Type} [LinearOrder Time] {config : Config} {engine following : Engine Time} {watch later : Watch Time}
  {command : Command Time} {marketplaceId : String} {periodStart periodEnd : Time}

theorem Effect.mismatches (effect : Effect config engine command following)
    (noRun : ∀ marketplaceId periodStart periodEnd, command ≠ .reconcile marketplaceId periodStart periodEnd)
    (noResolution : ∀ mismatchId actorId notes, command ≠ .resolve mismatchId actorId notes) :
    following.mismatches = engine.mismatches := by
  cases effect with
  | reconciled => exact absurd rfl (noRun _ _ _)
  | resolved => exact absurd rfl (noResolution _ _ _)
  | settled =>
      rw [settle, offset]
      split <;> rfl
  | _ => rfl

theorem newMismatches_opened {mismatch : ReconciliationMismatch}
    (member : mismatch ∈ newMismatches config engine marketplaceId periodStart periodEnd) :
    mismatch.resolved = false := by
  rcases List.mem_append.mp member with unmatched | negative
  · rcases List.mem_append.mp unmatched with missing | orphan
    · obtain ⟨event, -, rfl⟩ := List.mem_map.mp missing
      rfl
    · obtain ⟨entry, -, rfl⟩ := List.mem_map.mp orphan
      rfl
  · obtain ⟨balance, -, rfl⟩ := List.mem_map.mp negative
    rfl

theorem Recorded.reconcile (recorded : Recorded watch) (marketplaceId : String) (periodStart periodEnd : Time) :
    Recorded { watch with
      engine := (Settlement.reconcile config watch.engine marketplaceId periodStart periodEnd).1,
      found := watch.found ++ newMismatches config watch.engine marketplaceId periodStart periodEnd } :=
  recorded.extend (fun _ member => newMismatches_opened member) rfl

theorem Recorded.observe (recorded : Recorded watch) (taken : Settlement.observe config watch command = some later) :
    Recorded later := by
  obtain ⟨engine, moved, rfl⟩ := Option.map_eq_some_iff.mp taken
  have effect := step_effect moved
  have performed : (perform config watch.engine command).1 = engine := by
    rw [step] at moved
    split at moved
    · exact Option.some.inj moved
    · cases moved
  cases command with
  | reconcile marketplaceId periodStart periodEnd =>
      rw [← performed]
      exact recorded.reconcile marketplaceId periodStart periodEnd
  | resolve mismatchId actorId notes =>
      have found : watch.found ++ foundBy config watch.engine (.resolve mismatchId actorId notes) = watch.found :=
        List.append_nil _
      rw [← performed, found]
      exact recorded.resolve mismatchId actorId notes
  | _ =>
      change Recorded { watch with engine, found := watch.found ++ [] }
      rw [List.append_nil]
      exact recorded.unchanged (effect.mismatches (by simp) (by simp))

theorem failed_iff : (reconcile config engine marketplaceId periodStart periodEnd).2.failed = true ↔
    hasBlockingMismatches (reconcile config engine marketplaceId periodStart periodEnd).1 marketplaceId = true := by
  rw [reconcile, hasBlockingMismatches, List.any_eq_true]
  dsimp only
  rw [Bool.not_eq_true', List.isEmpty_eq_false_iff_exists_mem]
  simp only [List.mem_filter, decide_eq_true_eq]

/-- A run notices what it finds exactly if it finds something for the first time or something is still open. -/
theorem Recorded.noticed_iff (recorded : Recorded watch) :
    Noticed config watch.engine command ↔ FirstTime config watch command := by
  cases command with
  | reconcile marketplaceId periodStart periodEnd =>
      rw [Noticed, FirstTime]
      apply imp_congr_right
      intro _
      rw [failed_iff, and_self, (recorded.reconcile marketplaceId periodStart periodEnd).blocking_iff]
      exact recorded.stillOpen_iff fun _ member => newMismatches_marketplace member
  | _ => exact Iff.rfl

/-- Over every run, what is found is noticed exactly as long as nothing is found again while nothing is open. -/
theorem recurrences_noticed_iff (config : Config) (actions : List (Command Time)) :
    (∀ before command after watch, actions = before ++ command :: after →
      run (observe config) {} before = some watch → Noticed config watch.engine command) ↔
    ∀ before command after watch, actions = before ++ command :: after →
      run (observe config) {} before = some watch → FirstTime config watch command := by
  have recorded {before : List (Command Time)} {watch : Watch Time}
      (reached : run (observe config) {} before = some watch) : Recorded watch :=
    run_invariant recorded_start (fun recorded taken => recorded.observe taken) reached
  constructor
  · exact fun noticed before command after watch split reached =>
      (recorded reached).noticed_iff.mp (noticed before command after watch split reached)
  · exact fun first before command after watch split reached =>
      (recorded reached).noticed_iff.mpr (first before command after watch split reached)

end

def moneyEvent (id : String) (eventType : FinancialEventType) (amount : Rat) : FinancialEvent Nat :=
  { id, idempotencyKey := id, eventType, marketplaceId := "market", tenantId := "tenant", amount, occurredAt := 1 }

/-- A negative balance is found and resolved, goes away and comes back. -/
def comeback : List (Command Nat) :=
  [.ingest (moneyEvent "refund" .refundIssued 100) "one" 1, .reconcile "market" 0 5,
    .resolve "mismatch:market:NEGATIVE_BALANCE:tenant:USD" "admin" "",
    .ingest (moneyEvent "sale" .paymentCaptured 200) "two" 2, .reconcile "market" 0 5,
    .ingest (moneyEvent "chargeback" .chargebackOpened 300) "three" 3]

theorem comeback_unnoticed : ¬ ∀ before command after watch,
    comeback ++ [.reconcile "market" 0 5] = before ++ command :: after →
      run (observe silent) {} before = some watch → Noticed silent watch.engine command := by
  intro noticed
  have missed : (run (observe silent) {} comeback).map (fun watch =>
      decide (Noticed silent watch.engine (.reconcile "market" 0 5))) = some false := by
    decide +kernel
  obtain ⟨watch, reached, unnoticed⟩ := Option.map_eq_some_iff.mp missed
  exact of_decide_eq_false unnoticed (noticed comeback _ [] watch rfl reached)

end AutonomousApi.Settlement
