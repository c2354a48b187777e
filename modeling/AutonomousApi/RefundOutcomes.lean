import AutonomousApi.RefundReconciliation

/-! Where a refund can stand after `request_refund`, and when it is completed without `approve_refund`, over runs of
the three operations of refunds.py. The runs keep a history of the refunds that were approved. -/

namespace AutonomousApi.FinancialHardening

open RecordTable Runs

inductive RefundCommand where
  | request (refund : RefundRequest) (generated : Generated)
  | approve (refundId approverId : String) (approvalRef : Option String) (generated : Generated)
  | reject (refundId reason : String)

def RefundCommand.command {Payload : Type} : RefundCommand → Command Payload
  | .request refund generated => .request refund generated
  | .approve refundId approverId approvalRef generated => .approve refundId approverId approvalRef generated
  | .reject refundId reason => .reject refundId reason

/-- The engine, and the refunds for which `approve_refund` returned. -/
structure Desk where
  engine : Engine := {}
  approved : List String := []
  deriving DecidableEq

section

variable {Payload : Type} (config : Config Payload)

def approvals (engine : Engine) : RefundCommand → List String
  | .approve refundId approverId approvalRef generated =>
      match (approveRefund config engine refundId approverId approvalRef generated).2 with
      | .ok refund => [refund.refundId]
      | .error _ => []
  | _ => []

def serve (desk : Desk) (command : RefundCommand) : Option Desk :=
  (step config desk.engine command.command).map fun engine =>
    { engine, approved := approvals config desk.engine command ++ desk.approved }

/-- The entries that say that a refund is completed. -/
def completions (ledger : Ledger) (refundId : String) : List FinancialLedgerEntry :=
  ledger.entries.filter fun entry => entry.entryType = .refundCompleted ∧ entry.evidenceRef = some refundId

def withinThreshold (refund : RefundRequest) : Prop :=
  refund.currency = config.policy.autoApproveRefundThresholdCurrency ∧
    refund.amount ≤ config.policy.autoApproveRefundThresholdAmount

/-- No refund is stuck, none is completed uncontrolled, and the ledger says which are completed. -/
structure Controlled (desk : Desk) : Prop where
  decided : ∀ refund ∈ desk.engine.refunds,
    refund.status = .pendingApproval ∨ refund.status = .completed ∨ refund.status = .rejected
  approved : ∀ refund ∈ desk.engine.refunds, refund.status = .completed →
    refund.refundId ∈ desk.approved ∨ withinThreshold config refund
  ledgered : ∀ refund ∈ desk.engine.refunds,
    refund.status = .completed ↔ (completions desk.engine.ledger refund.refundId).length = 1

/-- The refund that a request under the same key made. -/
def knownRefund (engine : Engine) (refund : RefundRequest) : Option RefundRequest :=
  if stated refund.idempotencyKey then
    (find Prod.fst engine.refundsByIdempotency (refund.idempotencyKey.getD "")).bind fun key => getRefund engine key.2
  else none

/-- Above the threshold governance answers; a refund that is approved automatically is in the currency of the
threshold, and governance allows it. -/
def Covered (refund : RefundRequest) (generated : Generated) : Prop :=
  if aboveThreshold config refund.amount refund.currency then
    (governanceDecision config generated.answer generated.auditRef).isSome = true
  else config.policy.autoApproveSmallRefunds = true →
    refund.currency = config.policy.autoApproveRefundThresholdCurrency ∧
      ∃ decision, governanceDecision config generated.answer generated.auditRef = some decision ∧
        decision.allowed = true

/-- A request that makes a new refund is covered. -/
def Governed (engine : Engine) : RefundCommand → Prop
  | .request refund generated => knownRefund engine refund = none → Covered config refund generated
  | _ => True

variable {engine following : Engine} {refund : RefundRequest} {entry : FinancialLedgerEntry} {refundId : String}

theorem keys_injective (first second : String) : ("refapp_" ++ first = "refapp_" ++ second → first = second) ∧
    ("refcomp_" ++ first = "refcomp_" ++ second → first = second) := by
  refine ⟨fun same => ?_, fun same => ?_⟩
  all_goals
    have chars := congrArg String.toList same
    rw [String.toList_append, String.toList_append] at chars
    exact String.toList_injective (List.append_cancel_left chars)

theorem completions_append_other {ledger : Ledger}
    (fresh : entry.ledgerId ∉ ledger.entries.map FinancialLedgerEntry.ledgerId)
    (other : entry.entryType ≠ .refundCompleted) :
    completions (ledger.append entry).1 refundId = completions ledger refundId := by
  rw [completions, completions, append_entries fresh]
  split
  · rfl
  · rw [List.filter_append, List.filter_cons_of_neg (by simp [other]), List.filter_nil, List.append_nil]

/-- The key is one that the ledger takes for a refund. -/
def KeyOf (refund : RefundRequest) (key : String) : Prop :=
  key = "refreq_" ++ refund.refundId ∨
    completed refund = true ∧ (key = "refapp_" ++ refund.refundId ∨ key = "refcomp_" ++ refund.refundId)

/-- The ledger says of a refund once that it is completed, and its keys are those of refunds. -/
structure Filed (engine : Engine) : Prop where
  keyed : Keyed RefundRequest.refundId engine.refunds
  counted : ∀ refund ∈ engine.refunds,
    (completions engine.ledger refund.refundId).length = if completed refund = true then 1 else 0
  known : ∀ refundId, refundId ∉ engine.refunds.map RefundRequest.refundId → completions engine.ledger refundId = []
  keys : ∀ key ∈ engine.ledger.idempotencyKeys, ∃ refund ∈ engine.refunds, KeyOf refund key

theorem filed_start : Filed {} where
  keyed := List.nodup_nil
  counted _ member := absurd member List.not_mem_nil
  known _ _ := rfl
  keys _ member := absurd member List.not_mem_nil

/-- No refund under that id is completed. -/
def Incomplete (engine : Engine) (refundId : String) : Prop :=
  ∀ refund ∈ engine.refunds, refund.refundId = refundId → completed refund = false

theorem Filed.completions_incomplete (filed : Filed engine) (incomplete : Incomplete engine refundId) :
    completions engine.ledger refundId = [] := by
  by_cases held : refundId ∈ engine.refunds.map RefundRequest.refundId
  · obtain ⟨refund, member, rfl⟩ := List.mem_map.mp held
    have none := filed.counted refund member
    rw [if_neg (by simp [incomplete refund member rfl])] at none
    exact List.length_eq_zero_iff.mp none
  · exact filed.known refundId held

theorem Filed.free (filed : Filed engine) (incomplete : Incomplete engine refundId) :
    Free engine.ledger refundId := by
  constructor
  · intro taken
    obtain ⟨refund, member, key⟩ := filed.keys _ taken
    rcases key with requested | ⟨done, approved | complete⟩
    · exact (keys_apart _ _).1 requested
    · exact absurd (incomplete refund member ((keys_injective _ _).1 approved).symm) (by simp [done])
    · exact (keys_apart _ _).2.2 complete.symm
  · intro taken
    obtain ⟨refund, member, key⟩ := filed.keys _ taken
    rcases key with requested | ⟨done, approved | complete⟩
    · exact (keys_apart _ _).2.1 requested
    · exact (keys_apart _ _).2.2 approved
    · exact absurd (incomplete refund member ((keys_injective _ _).2 complete).symm) (by simp [done])

/-- A refund is put in the place of one that was not completed, and the ledger says so if it is now. -/
theorem Filed.put (filed : Filed engine) (incomplete : Incomplete engine refund.refundId)
    (refunds : following.refunds = put RefundRequest.refundId engine.refunds refund)
    (others : ∀ refundId, refund.refundId ≠ refundId →
      completions following.ledger refundId = completions engine.ledger refundId)
    (own : (completions following.ledger refund.refundId).length = if completed refund = true then 1 else 0)
    (keys : ∀ key ∈ following.ledger.idempotencyKeys, key ∈ engine.ledger.idempotencyKeys ∨ KeyOf refund key) :
    Filed following where
  keyed := refunds ▸ filed.keyed.put
  counted other member := by
    rw [refunds, filed.keyed.mem_put_iff] at member
    rcases member with rfl | ⟨before, apart⟩
    · exact own
    · rw [others _ (Ne.symm apart)]
      exact filed.counted other before
  known refundId absent := by
    have outside : refundId ∉ engine.refunds.map RefundRequest.refundId ∧ refund.refundId ≠ refundId := by
      rw [refunds, keys_put] at absent
      split at absent
      case isTrue present => exact ⟨absent, fun same => absent (same ▸ present)⟩
      case isFalse =>
          rw [List.mem_append, List.mem_singleton, not_or] at absent
          exact ⟨absent.1, Ne.symm absent.2⟩
    rw [others refundId outside.2]
    exact filed.known refundId outside.1
  keys key member := by
    rw [refunds]
    rcases keys key member with before | own
    · obtain ⟨old, held, key⟩ := filed.keys key before
      by_cases same : old.refundId = refund.refundId
      · refine ⟨refund, record_mem_put, .inl ?_⟩
        rcases key with requested | ⟨done, -⟩
        · rw [requested, same]
        · exact absurd (incomplete old held same) (by simp [done])
      · exact ⟨old, mem_put_of_ne held same, key⟩
    · exact ⟨refund, record_mem_put, own⟩

theorem Filed.save (filed : Filed engine) (incomplete : Incomplete engine refund.refundId)
    (waiting : completed refund = false) : Filed (saveRefund engine refund) := by
  refine filed.put incomplete rfl (fun _ _ => rfl) ?_ fun key member => .inl member
  rw [waiting]
  exact congrArg List.length (filed.completions_incomplete incomplete)

theorem Filed.complete (filed : Filed engine) {approvedId completedId : String}
    (incomplete : Incomplete engine refund.refundId) (apart : approvedId ≠ completedId)
    (fresh : approvedId ∉ engine.ledger.entries.map FinancialLedgerEntry.ledgerId)
    (also : completedId ∉ engine.ledger.entries.map FinancialLedgerEntry.ledgerId) :
    Filed (completeRefund engine refund approvedId completedId) := by
  have entries := completeRefund_entries apart fresh also (filed.free incomplete)
  have split (refundId : String) : completions (completeRefund engine refund approvedId completedId).ledger refundId =
      completions engine.ledger refundId ++ if refund.refundId = refundId then
        [refundEntry refund .refundCompleted "refcomp_" completedId] else [] := by
    rw [completions, entries, List.filter_append, completions]
    by_cases same : refund.refundId = refundId <;> simp [refundEntry, same]
  refine @Filed.put engine _ refund.done filed incomplete rfl (fun refundId other => ?_) ?_ fun key member => ?_
  · change refund.refundId ≠ refundId at other
    rw [split, if_neg other, List.append_nil]
  · rw [split]
    have none := filed.completions_incomplete incomplete
    rw [RefundRequest.done, none, if_pos rfl]
    rfl
  · rcases append_keys member with first | complete
    · rcases append_keys first with before | approved
      · exact .inl before
      · exact .inr (.inr ⟨rfl, .inl (Option.some.inj approved)⟩)
    · exact .inr (.inr ⟨rfl, .inr (Option.some.inj complete)⟩)

end

section

variable {Payload : Type} {config : Config Payload} {engine : Engine} {refund : RefundRequest} {generated : Generated}

theorem requestRefund_known {earlier : RefundRequest} (known : knownRefund engine refund = some earlier) :
    requestRefund config engine refund generated = (engine, .ok earlier) := by
  rw [knownRefund] at known
  rw [requestRefund]
  dsimp only
  rw [known]

/-- Where a new request leaves its refund. -/
def outcome (config : Config Payload) (refund : RefundRequest) (generated : Generated) : RefundStatus :=
  if aboveThreshold config refund.amount refund.currency then
    match governanceDecision config generated.answer generated.auditRef with
    | none => .requested
    | some decision => if decision.allowed then .pendingApproval else .rejected
  else if config.policy.autoApproveSmallRefunds then
    match governanceDecision config generated.answer generated.auditRef with
    | none => .requested
    | some decision => if decision.allowed then .completed else .requested
  else .pendingApproval

theorem storedRefund_refunds (newId : refund.refundId ∉ engine.refunds.map RefundRequest.refundId) :
    (storedRefund engine refund generated).refunds = engine.refunds ++ [refund] :=
  storeRefund_tables.2.1.trans (put_absent newId)

/-- Saving the new refund again replaces it. -/
theorem saved_refunds {saved : RefundRequest} (newId : refund.refundId ∉ engine.refunds.map RefundRequest.refundId)
    (same : saved.refundId = refund.refundId) :
    put RefundRequest.refundId (storedRefund engine refund generated).refunds saved = engine.refunds ++ [saved] := by
  have stored : (storedRefund engine refund generated).refunds = put RefundRequest.refundId engine.refunds refund :=
    storeRefund_tables.2.1
  rw [stored, put_put same.symm, put_absent (same ▸ newId)]

/-- A refund as it is first stored. -/
def newRefund (refund : RefundRequest) (generated : Generated) : RefundRequest :=
  { refund with refundId := generated.refundId, status := .requested, governanceRef := none, approvalRef := none }

variable (config) in
/-- A new request adds its refund and changes no other. -/
theorem requestRefund_new (unknown : knownRefund engine refund = none)
    (newId : generated.refundId ∉ engine.refunds.map RefundRequest.refundId) :
    ∃ stored, stored.refundId = generated.refundId ∧ stored.amount = refund.amount ∧
      stored.currency = refund.currency ∧ stored.status = outcome config refund generated ∧
      (requestRefund config engine refund generated).1.refunds = engine.refunds ++ [stored] := by
  have requested := @storedRefund_refunds engine (newRefund refund generated) generated newId
  have saved := @saved_refunds engine (newRefund refund generated) generated
  rw [knownRefund] at unknown
  rw [requestRefund]
  dsimp only
  rw [unknown]
  dsimp only
  by_cases above : aboveThreshold config refund.amount refund.currency = true
  · rw [if_neg (by simp [above]), if_pos above]
    cases answer : governanceDecision config generated.answer generated.auditRef with
    | none => exact ⟨newRefund refund generated, rfl, rfl, rfl, by simp [outcome, above, answer, newRefund], requested⟩
    | some decision =>
        dsimp only
        by_cases allowed : decision.allowed = true
        · rw [if_pos allowed]
          refine ⟨_, ?_, ?_, ?_, ?_, saved newId rfl⟩
          on_goal 4 => simp [outcome, above, answer, allowed]
          all_goals rfl
        · rw [if_neg allowed]
          refine ⟨_, ?_, ?_, ?_, ?_, saved newId rfl⟩
          on_goal 4 => simp [outcome, above, answer, allowed]
          all_goals rfl
  · by_cases small : config.policy.autoApproveSmallRefunds = true
    · rw [if_pos ⟨Bool.eq_false_iff.mpr above, small⟩]
      cases answer : governanceDecision config generated.answer generated.auditRef with
      | none =>
          exact ⟨newRefund refund generated, rfl, rfl, rfl, by simp [outcome, above, small, answer, newRefund],
            requested⟩
      | some decision =>
          dsimp only
          by_cases allowed : decision.allowed = true
          · rw [if_pos allowed]
            refine ⟨_, ?_, ?_, ?_, ?_, saved newId rfl⟩
            on_goal 4 => simp [outcome, above, small, answer, allowed]
            all_goals rfl
          · rw [if_neg allowed]
            exact ⟨newRefund refund generated, rfl, rfl, rfl,
              by simp [outcome, above, small, answer, allowed, newRefund], requested⟩
    · rw [if_neg fun both => small both.2, if_neg above]
      refine ⟨_, ?_, ?_, ?_, ?_, saved newId rfl⟩
      on_goal 4 => simp [outcome, above, small]
      all_goals rfl

/-- A new request decides its refund, and completes it within the threshold only, exactly if it is covered. -/
theorem outcome_covered_iff (config : Config Payload) (refund : RefundRequest) (generated : Generated) :
    ((outcome config refund generated = .pendingApproval ∨ outcome config refund generated = .completed ∨
        outcome config refund generated = .rejected) ∧
      (outcome config refund generated = .completed → withinThreshold config refund)) ↔
    Covered config refund generated := by
  rw [outcome, Covered]
  by_cases above : aboveThreshold config refund.amount refund.currency = true
  · rw [if_pos above, if_pos above]
    cases governanceDecision config generated.answer generated.auditRef with
    | none => simp
    | some decision => cases allowed : decision.allowed <;> simp [allowed]
  · rw [if_neg above, if_neg above]
    by_cases small : config.policy.autoApproveSmallRefunds = true
    · rw [if_pos small]
      cases governanceDecision config generated.answer generated.auditRef with
      | none => simp [small]
      | some decision =>
          -- not above the threshold, so it is the currency that decides
          have within : withinThreshold config refund ↔
              refund.currency = config.policy.autoApproveRefundThresholdCurrency := by
            simp only [aboveThreshold, decide_eq_true_eq, not_and, not_lt] at above
            exact ⟨And.left, fun currency => ⟨currency, above currency⟩⟩
          cases allowed : decision.allowed <;> simp [allowed, small, within]
    · rw [if_neg small]
      simp [small]

variable {desk following : Desk} {command : RefundCommand}

theorem Filed.incomplete_held (filed : Filed engine) {old : RefundRequest}
    (held : getRefund engine refund.refundId = some old) (waiting : old.status = .pendingApproval) :
    Incomplete engine refund.refundId := by
  intro other member same
  obtain ⟨inside, named⟩ := mem_of_find held
  rw [filed.keyed.unique member inside (same.trans named.symm)]
  exact completed_waiting waiting

theorem Filed.stored (filed : Filed engine) (waiting : completed refund = false)
    (newId : refund.refundId ∉ engine.refunds.map RefundRequest.refundId)
    (fresh : generated.requestedId ∉ engine.ledger.entries.map FinancialLedgerEntry.ledgerId) :
    Filed (storedRefund engine refund generated) := by
  have incomplete : Incomplete engine refund.refundId :=
    fun old member same => absurd (same ▸ List.mem_map_of_mem member) newId
  have same (refundId : String) : completions (storedRefund engine refund generated).ledger refundId =
      completions engine.ledger refundId := by
    rw [storedRefund_ledger]
    exact completions_append_other fresh LedgerEntryType.noConfusion
  refine filed.put incomplete storeRefund_tables.2.1 (fun refundId _ => same refundId) ?_ fun key member => ?_
  · rw [same, waiting]
    exact congrArg List.length (filed.completions_incomplete incomplete)
  · rw [storedRefund_ledger] at member
    exact (append_keys member).imp id fun same => .inl (Option.some.inj same)

theorem Filed.request (filed : Filed engine)
    (fresh : Fresh engine (.request refund generated : Command Payload)) :
    Filed (requestRefund config engine refund generated).1 := by
  obtain ⟨newId, distinct, newEntries⟩ := fresh
  rcases @requestRefund_cases _ config engine refund generated with same | ⟨stored, named, waiting, outcome⟩
  · rw [same]
    exact filed
  · rw [← named] at newId
    have base : Filed (storedRefund engine stored generated) :=
      filed.stored waiting newId (newEntries _ List.mem_cons_self)
    have incomplete : Incomplete (storedRefund engine stored generated) generated.refundId := by
      intro old member same
      rw [storedRefund_own newId old member (same.trans named.symm)]
      exact waiting
    rcases outcome with left | ⟨saved, alike, open_, left⟩ | ⟨approved, alike, left⟩
    · rw [left]
      exact base
    · rw [left]
      exact base.save (alike ▸ incomplete) open_
    · obtain ⟨apart, unused, also⟩ := storedRefund_unused stored distinct newEntries
      rw [left]
      exact base.complete (alike ▸ incomplete) apart unused also

theorem Filed.serve (filed : Filed desk.engine) (taken : serve config desk command = some following) :
    Filed following.engine := by
  obtain ⟨engine, moved, rfl⟩ := Option.map_eq_some_iff.mp taken
  rw [FinancialHardening.step] at moved
  split at moved
  case isFalse => cases moved
  case isTrue fresh =>
      cases moved
      cases command with
      | request refund generated => exact filed.request fresh
      | approve refundId approverId approvalRef generated =>
          change Filed (approveRefund config desk.engine refundId approverId approvalRef generated).1
          obtain ⟨apart, newEntries⟩ := fresh
          rcases @approveRefund_cases _ config desk.engine generated refundId approverId approvalRef with
            ⟨error, same⟩ | ⟨refund, held, waiting, outcome⟩
          · rw [same]
            exact filed
          · have incomplete := filed.incomplete_held held waiting
            rcases outcome with ⟨error, left⟩ | ⟨approved, alike, left⟩
            · rw [left]
              exact filed.save incomplete rfl
            · rw [left]
              exact filed.complete (alike ▸ incomplete) apart (newEntries _ (by simp)) (newEntries _ (by simp))
      | reject refundId reason =>
          change Filed (rejectRefund desk.engine refundId reason).1
          rcases @rejectRefund_cases desk.engine refundId reason with same | ⟨refund, held, waiting, left⟩
          · rw [same]
            exact filed
          · rw [left]
            exact filed.save (filed.incomplete_held held waiting) rfl

theorem mem_of_getRefund {refundId : String} (held : getRefund engine refundId = some refund) :
    refundId ∈ engine.refunds.map RefundRequest.refundId := by
  obtain ⟨member, rfl⟩ := mem_of_find held
  exact List.mem_map_of_mem member

/-- What one command does to the refunds: nothing, or it adds a new one, or it decides one that is there. -/
theorem serve_cases (taken : FinancialHardening.serve config desk command = some following) :
    (following = desk ∧ Governed config desk.engine command) ∨
    (∃ refund generated stored, command = .request refund generated ∧ knownRefund desk.engine refund = none ∧
      stored.refundId ∉ desk.engine.refunds.map RefundRequest.refundId ∧ stored.amount = refund.amount ∧
      stored.currency = refund.currency ∧ stored.status = outcome config refund generated ∧
      following.engine.refunds = desk.engine.refunds ++ [stored] ∧ following.approved = desk.approved) ∨
    ∃ refund, refund.refundId ∈ desk.engine.refunds.map RefundRequest.refundId ∧
      following.engine.refunds = put RefundRequest.refundId desk.engine.refunds refund ∧
      (refund.status = .completed ∧ following.approved = refund.refundId :: desk.approved ∨
        refund.status = .rejected ∧ following.approved = desk.approved) ∧ Governed config desk.engine command := by
  obtain ⟨engine, moved, rfl⟩ := Option.map_eq_some_iff.mp taken
  rw [FinancialHardening.step] at moved
  split at moved
  case isFalse => cases moved
  case isTrue fresh =>
      cases moved
      cases command with
      | request refund generated =>
          cases known : knownRefund desk.engine refund with
          | none =>
              obtain ⟨stored, named, amount, currency, status, refunds⟩ := requestRefund_new config known fresh.1
              exact .inr (.inl ⟨refund, generated, stored, rfl, known, named ▸ fresh.1, amount, currency, status,
                refunds, rfl⟩)
          | some earlier =>
              refine .inl ⟨?_, fun unknown => by rw [known] at unknown; cases unknown⟩
              change Desk.mk (requestRefund config desk.engine refund generated).1 _ = desk
              rw [requestRefund_known known]
              rfl
      | approve refundId approverId approvalRef generated =>
          rcases @approveRefund_cases _ config desk.engine generated refundId approverId approvalRef with
            ⟨error, same⟩ | ⟨refund, held, -, ⟨error, left⟩ | ⟨approved, alike, left⟩⟩
          · refine .inl ⟨?_, trivial⟩
            rw [approvals, same]
            exact congrArg (Desk.mk · desk.approved) (congrArg Prod.fst same)
          · refine .inr (.inr ⟨{ refund with status := .rejected }, mem_of_getRefund held, ?_, .inr ⟨rfl, ?_⟩, trivial⟩)
            · exact congrArg Engine.refunds (congrArg Prod.fst left)
            · rw [approvals, left]
              rfl
          · refine .inr (.inr ⟨approved.done, ?_, ?_, .inl ⟨rfl, ?_⟩, trivial⟩)
            · exact (alike ▸ mem_of_getRefund held : approved.refundId ∈ _)
            · exact congrArg Engine.refunds (congrArg Prod.fst left)
            · rw [approvals, left]
              rfl
      | reject refundId reason =>
          rcases @rejectRefund_cases desk.engine refundId reason with same | ⟨refund, held, -, left⟩
          · exact .inl ⟨congrArg (Desk.mk · desk.approved) same, trivial⟩
          · refine .inr (.inr ⟨{ refund with status := .rejected, reason }, mem_of_getRefund held, ?_, .inr ⟨rfl, rfl⟩,
              trivial⟩)
            exact congrArg Engine.refunds left

/-- What holds of every desk that a run reaches. -/
structure Orderly (desk : Desk) : Prop where
  filed : Filed desk.engine
  held : ∀ refundId ∈ desk.approved, refundId ∈ desk.engine.refunds.map RefundRequest.refundId

theorem Orderly.serve (orderly : Orderly desk) (taken : serve config desk command = some following) :
    Orderly following := by
  refine ⟨orderly.filed.serve taken, ?_⟩
  rcases serve_cases taken with ⟨rfl, -⟩ | ⟨_, _, stored, -, -, -, -, -, -, refunds, approved⟩ |
    ⟨refund, held, refunds, decided, -⟩
  · exact orderly.held
  · rw [refunds, approved, List.map_append]
    exact fun refundId member => List.mem_append_left _ (orderly.held refundId member)
  · rw [refunds, keys_put, if_pos held]
    rcases decided with ⟨-, approved⟩ | ⟨-, approved⟩
    · rw [approved]
      exact List.forall_mem_cons.mpr ⟨held, orderly.held⟩
    · rw [approved]
      exact orderly.held

theorem Filed.ledgered (filed : Filed engine) (member : refund ∈ engine.refunds) :
    refund.status = .completed ↔ (completions engine.ledger refund.refundId).length = 1 := by
  rw [filed.counted refund member]
  by_cases done : refund.status = .completed
  · simp [completed, done]
  · simp [completed, done]

theorem controlled_iff (orderly : Orderly desk) (controlled : Controlled config desk)
    (taken : FinancialHardening.serve config desk command = some following) :
    Controlled config following ↔ Governed config desk.engine command := by
  have filed := orderly.filed.serve taken
  rcases serve_cases taken with ⟨rfl, governed⟩ |
    ⟨refund, generated, stored, rfl, unknown, newId, amount, currency, status, refunds, approved⟩ |
    ⟨refund, held, refunds, decided, governed⟩
  · exact ⟨fun _ => governed, fun _ => controlled⟩
  · have within : withinThreshold config stored ↔ withinThreshold config refund := by
      rw [withinThreshold, withinThreshold, amount, currency]
    have covered : Governed config desk.engine (.request refund generated) ↔ Covered config refund generated :=
      ⟨fun rule => rule unknown, fun rule _ => rule⟩
    rw [covered, ← outcome_covered_iff, ← status, ← within]
    constructor
    · intro after
      have member : stored ∈ following.engine.refunds := refunds ▸ List.mem_append_right _ List.mem_cons_self
      refine ⟨after.decided stored member, fun done => ?_⟩
      refine (after.approved stored member done).resolve_left fun called => newId ?_
      exact orderly.held _ (approved ▸ called)
    · rintro ⟨decided, small⟩
      refine ⟨fun other member => ?_, fun other member done => ?_, fun other member => filed.ledgered member⟩
      all_goals
        rw [refunds, List.mem_append, List.mem_singleton] at member
      · rcases member with before | rfl
        · exact controlled.decided other before
        · exact decided
      · rcases member with before | rfl
        · rw [approved]
          exact controlled.approved other before done
        · exact .inr (small done)
  · refine ⟨fun _ => governed, fun _ => ⟨fun other member => ?_, fun other member done => ?_,
      fun other member => filed.ledgered member⟩⟩
    all_goals
      rcases mem_put (refunds ▸ member) with rfl | before
    · exact decided.elim (fun done => .inr (.inl done.1)) fun rejected => .inr (.inr rejected.1)
    · exact controlled.decided other before
    · rcases decided with ⟨-, approved⟩ | ⟨rejected, -⟩
      · exact .inl (approved ▸ List.mem_cons_self)
      · cases rejected.symm.trans done
    · refine (controlled.approved other before done).imp_left fun called => ?_
      rcases decided with ⟨-, approved⟩ | ⟨-, approved⟩
      · exact approved ▸ List.mem_cons_of_mem _ called
      · exact approved ▸ called

/-- In a run of the three operations refunds stay controlled exactly as long as every new request is governed. -/
theorem refunds_controlled_iff {actions : List RefundCommand} {final : Desk}
    (finished : run (serve config) {} actions = some final) :
    (∀ before after middle, actions = before ++ after → run (serve config) {} before = some middle →
      Controlled config middle) ↔
    ∀ before action after middle, actions = before ++ action :: after → run (serve config) {} before = some middle →
      Governed config middle.engine action := by
  apply @holds_along_iff _ _ (FinancialHardening.serve config) (fun desk action => Governed config desk.engine action)
    {} final Orderly (Controlled config)
  · exact ⟨filed_start, fun _ member => absurd member List.not_mem_nil⟩
  · exact ⟨fun _ member => absurd member List.not_mem_nil, fun _ member => absurd member List.not_mem_nil,
      fun _ member => absurd member List.not_mem_nil⟩
  · exact fun orderly taken => orderly.serve taken
  · exact fun orderly controlled taken => controlled_iff orderly controlled taken
  · exact finished

end

def refundOf (amount : Rat) (currency : String) (answer : Option GovernanceDecision) : RefundCommand :=
  .request { refundId := "", marketplaceId := "market", orderId := "order", listingId := "listing",
             tenantId := "tenant", amount, currency, requestedBy := "user" }
    { refundId := "refund_1", requestedId := "le_1", approvedId := "le_2", completedId := "le_3",
      auditRef := "gov_audit_1", answer }

def deskOf (config : Config RawEvent) (command : RefundCommand) : Desk :=
  { engine := perform config {} command.command }

/-- With a governance engine, whose answers come with the calls. -/
def governed : Config RawEvent := { normalized with governance := true }

theorem small_refund_controlled :
    run (serve normalized) {} [refundOf 30 "USD" none] = some (deskOf normalized (refundOf 30 "USD" none)) ∧
      Controlled normalized (deskOf normalized (refundOf 30 "USD" none)) := by
  have finished :
      run (serve normalized) {} [refundOf 30 "USD" none] = some (deskOf normalized (refundOf 30 "USD" none)) := by
    decide
  refine ⟨finished, (refunds_controlled_iff finished).mpr ?_ _ [] _ rfl finished⟩
  intro before action after middle split reached
  have alone : before = [] ∧ action = refundOf 30 "USD" none := by
    cases before with
    | nil => exact ⟨rfl, (List.cons.inj split).1.symm⟩
    | cons first rest => exact absurd (List.cons.inj split).2.symm (by simp)
  rw [alone.1] at reached
  cases reached
  rw [alone.2]
  exact fun _ _ => ⟨rfl, _, rfl, rfl⟩

/-- A million in another currency is completed at once, and a small refund that governance denies stays requested. -/
theorem refunds_uncontrolled :
    (∃ desk, run (serve normalized) {} [refundOf 1000000 "EUR" none] = some desk ∧ ¬ Controlled normalized desk) ∧
      ∃ desk, run (serve governed) {} [refundOf 30 "USD" (some { allowed := false, auditRef := "gov_1" })] = some desk ∧
        ¬ Controlled governed desk := by
  refine ⟨⟨deskOf normalized (refundOf 1000000 "EUR" none), by decide, fun controlled => ?_⟩,
    deskOf governed (refundOf 30 "USD" (some { allowed := false, auditRef := "gov_1" })), by decide,
    fun controlled => ?_⟩
  · have approved : ∀ refund ∈ (deskOf normalized (refundOf 1000000 "EUR" none)).engine.refunds,
        refund.status = .completed ∧ refund.currency = "EUR" := by
      decide
    obtain ⟨refund, member⟩ := List.exists_mem_of_ne_nil
      (deskOf normalized (refundOf 1000000 "EUR" none)).engine.refunds (by decide)
    rcases controlled.approved refund member (approved refund member).1 with called | within
    · exact List.not_mem_nil called
    · exact absurd ((approved refund member).2.symm.trans within.1) (by decide)
  · exact absurd controlled.decided (by decide)

end AutonomousApi.FinancialHardening
