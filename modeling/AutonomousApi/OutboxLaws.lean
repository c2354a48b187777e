import AutonomousApi.MaintenanceOutbox

/-! What one transaction can do to the outbox. `Move` lists every change of a row with the
guard under which it happens; the loop of `_claim` is one such change for each row. -/

namespace AutonomousApi.OutboxLaws

open MaintenanceOutbox

/-- The digest is the primary key. -/
def Distinct (rows : List Row) : Prop := (rows.map Row.digest).Nodup

theorem Distinct.eq {rows : List Row} (distinct : Distinct rows) {left right : Row} (isLeft : left ∈ rows)
    (isRight : right ∈ rows) (same : left.digest = right.digest) : left = right :=
  List.inj_on_of_nodup_map distinct isLeft isRight same

theorem Distinct.filter_single {rows : List Row} (distinct : Distinct rows) {row : Row} {wanted : Row → Bool}
    (listed : row ∈ rows) (isWanted : wanted row = true)
    (only : ∀ other, wanted other = true → other.digest = row.digest) : rows.filter wanted = [row] := by
  apply List.perm_singleton.mp
  rw [List.perm_ext_iff_of_nodup (List.Nodup.filter wanted distinct.of_map) (List.nodup_singleton row)]
  intro other
  rw [List.mem_filter, List.mem_singleton]
  constructor
  · rintro ⟨isOther, otherWanted⟩
    exact distinct.eq isOther listed (only other otherWanted)
  · rintro rfl
    exact ⟨listed, isWanted⟩

theorem digest_ne_of_fresh {item row : Row} {rest : List Row} (fresh : item.digest ∉ rest.map Row.digest)
    (same : row.digest = item.digest) : ∀ later ∈ rest, later.digest ≠ row.digest := by
  intro later member equal
  apply fresh
  rw [← same, ← equal]
  exact List.mem_map_of_mem member

theorem sameRow_iff (item row : Row) :
    sameRow item row = true ↔ row.digest = item.digest ∧ row.attempts = item.attempts := by
  rw [sameRow, Bool.and_eq_true, beq_iff_eq, beq_iff_eq]

theorem held_iff (digest : String) (row : Row) :
    held digest row = true ↔ row.digest = digest ∧ row.status = .delivering := by
  rw [held, Bool.and_eq_true, beq_iff_eq, beq_iff_eq]

theorem expired_iff (now : Rat) (row : Row) :
    expired now row = true ↔ row.status = .delivering ∧ ∃ lease, row.leaseUntil = some lease ∧ lease ≤ now := by
  rw [expired, Bool.and_eq_true, beq_iff_eq, Option.any_eq_true]
  simp only [decide_eq_true_eq]

theorem exhausted_iff (config : Config) (now : Rat) (row : Row) :
    exhausted config now row = true ↔ expired now row = true ∧ config.maxAttempts ≤ row.attempts := by
  rw [exhausted, Bool.and_eq_true, decide_eq_true_iff]

theorem due_iff (config : Config) (now : Rat) (row : Row) :
    due config now row = true ↔ row.attempts < config.maxAttempts ∧
      ((row.status = .pending ∧ row.nextAttemptAt ≤ now) ∨ expired now row = true) := by
  rw [due, Bool.and_eq_true, Bool.or_eq_true, Bool.and_eq_true, beq_iff_eq, decide_eq_true_iff, decide_eq_true_iff]

section

variable (config : Config)

/-- What the loop of `_claim` does to one row. -/
def claimedRow (now : Rat) : Nat → List Row → Row → Row
  | _, [], row => row
  | number, item :: rest, row =>
      claimedRow now (number + 1) rest (if sameRow item row then take config number now row else row)

theorem claimRows_rows (now : Rat) (number : Nat) (items rows : List Row) :
    (claimRows config now number items rows).1 = rows.map (claimedRow config now number items) := by
  induction items generalizing number rows with
  | nil => simp [claimRows, claimedRow]
  | cons item rest ih =>
      rw [claimRows]
      simp only [ih, update, List.map_map]
      rfl

variable {items : List Row}

theorem claimedRow_other (now : Rat) (number : Nat) {row : Row}
    (other : ∀ item ∈ items, item.digest ≠ row.digest) : claimedRow config now number items row = row := by
  induction items generalizing number with
  | nil => rfl
  | cons item rest ih =>
      have unmatched : sameRow item row = false := by
        have differs := other item (by simp)
        simp [sameRow, differs.symm]
      rw [claimedRow, unmatched]
      exact ih (number + 1) fun item member => other item (by simp [member])

/-- A row is taken at most once, by the selected item of its digest and attempt. -/
theorem claimedRow_cases (now : Rat) (number : Nat) (distinct : Distinct items) (row : Row) :
    claimedRow config now number items row = row ∨
      ∃ item ∈ items, sameRow item row = true ∧
        ∃ taken, number ≤ taken ∧ claimedRow config now number items row = take config taken now row := by
  induction items generalizing number with
  | nil => exact .inl rfl
  | cons item rest ih =>
      obtain ⟨fresh, distinctRest⟩ := List.nodup_cons.mp distinct
      rw [claimedRow]
      by_cases same : sameRow item row = true
      · rw [if_pos same]
        have others : ∀ later ∈ rest, later.digest ≠ (take config number now row).digest :=
          digest_ne_of_fresh fresh ((sameRow_iff item row).mp same).1
        rw [claimedRow_other config now (number + 1) others]
        exact .inr ⟨item, by simp, same, number, le_refl _, rfl⟩
      · rw [if_neg same]
        rcases ih (number + 1) distinctRest with unchanged | ⟨later, member, matched, taken, bound, final⟩
        · exact .inl unchanged
        · exact .inr ⟨later, by simp [member], matched, taken, by omega, final⟩

/-- The row that a job was claimed on, as the claim leaves it. -/
structure Holds (rows : List Row) (job : Job) (row : Row) : Prop where
  listed : row ∈ rows
  digest : row.digest = job.digest
  delivering : row.status = .delivering
  claim : row.claim = some job.claim
  lease : row.leaseUntil = some job.leaseUntil
  attempts : row.attempts = job.attempts

theorem claimRows_jobs (now : Rat) (number : Nat) (distinct : Distinct items) (rows : List Row) :
    ((claimRows config now number items rows).2.map Job.claim).Nodup ∧
      ∀ job ∈ (claimRows config now number items rows).2,
        number ≤ job.claim ∧ job.claim < number + items.length ∧
          ∃ row, Holds (claimRows config now number items rows).1 job row := by
  induction items generalizing number rows with
  | nil => simp [claimRows]
  | cons item rest ih =>
      obtain ⟨fresh, distinctRest⟩ := List.nodup_cons.mp distinct
      obtain ⟨nodup, later⟩ := ih (number + 1) distinctRest (update rows (sameRow item) (take config number now))
      have shifted : ∀ job ∈ (claimRows config now (number + 1) rest
          (update rows (sameRow item) (take config number now))).2,
          number ≤ job.claim ∧ job.claim < number + (item :: rest).length ∧
            ∃ row, Holds (claimRows config now (number + 1) rest
              (update rows (sameRow item) (take config number now))).1 job row := by
        intro job member
        obtain ⟨low, high, holds⟩ := later job member
        exact ⟨by omega, by simp only [List.length_cons]; omega, holds⟩
      simp only [claimRows]
      split
      · next single =>
          -- the one row that the guarded update changed is not touched by the later ones
          obtain ⟨row, only⟩ := List.length_eq_one_iff.mp single
          have matched : row ∈ rows.filter (sameRow item) := by simp [only]
          obtain ⟨listed, same⟩ := List.mem_filter.mp matched
          rw [sameRow_iff] at same
          have others : ∀ later ∈ rest, later.digest ≠ (take config number now row).digest :=
            digest_ne_of_fresh fresh same.1
          have kept : take config number now row ∈ (claimRows config now (number + 1) rest
              (update rows (sameRow item) (take config number now))).1 := by
            rw [claimRows_rows, List.mem_map]
            refine ⟨take config number now row, ?_, claimedRow_other config now _ others⟩
            rw [update, List.mem_map]
            exact ⟨row, listed, by simp [sameRow, same]⟩
          constructor
          · rw [List.map_cons, List.nodup_cons]
            refine ⟨?_, nodup⟩
            intro member
            obtain ⟨job, isJob, equal⟩ := List.mem_map.mp member
            have low := (later job isJob).1
            simp only at equal
            omega
          · intro job member
            rcases List.mem_cons.mp member with rfl | tail
            · refine ⟨le_refl _, by simp, take config number now row, kept, same.1, rfl, rfl, rfl, ?_⟩
              simp [take, same.2]
            · exact shifted job tail
      · exact ⟨nodup, shifted⟩

/-- Every selected row that is still as it was selected gets a job. -/
theorem claimRows_claims (now : Rat) (number : Nat) (distinct : Distinct items) {rows : List Row}
    (single : ∀ item ∈ items, (rows.filter (sameRow item)).length = 1) :
    ∀ item ∈ items, ∃ job ∈ (claimRows config now number items rows).2, job.digest = item.digest := by
  induction items generalizing number rows with
  | nil => simp
  | cons first rest ih =>
      obtain ⟨fresh, distinctRest⟩ := List.nodup_cons.mp distinct
      -- the update of the first row changes no row of a later digest
      have still : ∀ other ∈ rest,
          ((update rows (sameRow first) (take config number now)).filter (sameRow other)).length = 1 := by
        intro other isOther
        have differs : other.digest ≠ first.digest := by
          intro same
          exact fresh (same ▸ List.mem_map_of_mem isOther)
        rw [update, List.filter_map, List.length_map, ← single other (by simp [isOther])]
        congr 1
        apply List.filter_congr
        intro row _
        by_cases same : sameRow first row = true
        · have digest := ((sameRow_iff first row).mp same).1
          rw [Function.comp_apply, if_pos same]
          simp [sameRow, take, digest, beq_false_of_ne differs.symm]
        · simp [same]
      intro item member
      rw [claimRows, if_pos (single first (by simp))]
      rcases List.mem_cons.mp member with rfl | later
      · exact ⟨_, List.mem_cons_self, rfl⟩
      · obtain ⟨job, isJob, digest⟩ := ih (number + 1) distinctRest still item later
        exact ⟨job, List.mem_cons_of_mem _ isJob, digest⟩

end

variable (config : Config) (outbox : Outbox)

/-- The changes of a row, each with its action and guard. -/
inductive Move : Action → Row → Row → Prop where
  | same {action : Action} {row : Row} : Move action row row
  | buried {limit : Nat} {now : Rat} {row : Row} (guard : exhausted config now row = true) :
      Move (.claim limit now) row (bury now row)
  | taken {limit : Nat} {now : Rat} {row : Row} (number : Nat) (guard : due config now row = true) :
      Move (.claim limit now) row (take config number now row)
  | delivered {index : Nat} {eventId : String} {now : Rat} {row : Row} {job : Job}
      (found : outbox.jobs[index]? = some job) (guard : held job.digest row = true) :
      Move (.succeed index eventId now) row (deliver eventId now row)
  | postponed {index : Nat} {name : String} {now : Rat} {row : Row} {job : Job}
      (found : outbox.jobs[index]? = some job) (guard : held job.digest row = true) :
      Move (.fail index name now) row (postpone config job.attempts ("delivery-failed:" ++ name) now row)
  | requeued {digest : String} {now : Rat} {row : Row}
      (guard : (row.digest == digest && row.status == .deadLetter) = true) :
      Move (.retry digest now) row (requeue now row)

def freshRow (digest payload : String) (now : Rat) : Row :=
  { digest, payload, nextAttemptAt := now, createdAt := now, updatedAt := now }

/-- The rows after a step: each old one moved, and at most one new one. -/
structure Moved (action : Action) (rows : List Row) (moved : Row → Row) (added : List Row) : Prop where
  rows : rows = outbox.rows.map moved ++ added
  moves : ∀ row ∈ outbox.rows, Move config outbox action row (moved row)
  added : added = [] ∨ ∃ digest payload now,
    added = [freshRow digest payload now] ∧ ∀ row ∈ outbox.rows, row.digest ≠ digest

variable {config outbox}

theorem moved_update {action : Action} {wanted : Row → Bool} {change : Row → Row}
    (moves : ∀ row, wanted row = true → Move config outbox action row (change row)) :
    Moved config outbox action (update outbox.rows wanted change)
      (fun row => if wanted row then change row else row) [] where
  rows := by simp [update]
  moves := by
    intro row _
    by_cases isWanted : wanted row = true
    · rw [if_pos isWanted]
      exact moves row isWanted
    · rw [if_neg isWanted]
      exact .same
  added := .inl rfl

variable {rows : List Row} {action : Action}

theorem Distinct.update (distinct : Distinct rows) {wanted : Row → Bool} {change : Row → Row}
    (keeps : ∀ row, (change row).digest = row.digest) : Distinct (MaintenanceOutbox.update rows wanted change) := by
  have digests : (MaintenanceOutbox.update rows wanted change).map Row.digest = rows.map Row.digest := by
    rw [MaintenanceOutbox.update, List.map_map]
    apply List.map_congr_left
    intro row _
    by_cases isWanted : wanted row = true
    · simp [isWanted, keeps]
    · simp [isWanted]
  rw [Distinct, digests]
  exact distinct

theorem selectDue_spec {limit : Nat} {now : Rat} {rows : List Row} (distinct : Distinct rows) :
    Distinct (selectDue config limit now rows) ∧
      ∀ item ∈ selectDue config limit now rows, item ∈ rows ∧ due config now item = true := by
  have permuted := List.perm_insertionSort earlier (rows.filter (due config now))
  have taken : (selectDue config limit now rows).Sublist ((rows.filter (due config now)).insertionSort earlier) :=
    List.take_sublist _ _
  constructor
  · have filtered : ((rows.filter (due config now)).map Row.digest).Nodup :=
      distinct.sublist (List.filter_sublist.map Row.digest)
    exact ((permuted.map Row.digest).nodup_iff.mpr filtered).sublist (taken.map Row.digest)
  · intro item member
    exact List.mem_filter.mp (permuted.mem_iff.mp (taken.subset member))

/-- A claim buries a row at its limit, takes a row that is due, or leaves it. -/
theorem claim_moves (distinct : Distinct outbox.rows) (limit : Nat) (now : Rat) :
    ∃ moved, Moved config outbox (.claim limit now) (claim config limit now outbox).rows moved [] := by
  have sweep := @moved_update config outbox (.claim limit now) (exhausted config now) (bury now)
    fun row guard => .buried guard
  have sweptDistinct : Distinct (update outbox.rows (exhausted config now) (bury now)) := distinct.update fun _ => rfl
  obtain ⟨selectedDistinct, selected⟩ := @selectDue_spec config limit now _ sweptDistinct
  refine ⟨fun row => claimedRow config now outbox.claims
      (selectDue config limit now (update outbox.rows (exhausted config now) (bury now)))
      (if exhausted config now row then bury now row else row), ?_, ?_, .inl rfl⟩
  · simp only [claim]
    rw [claimRows_rows, update, List.map_map, List.append_nil]
    rfl
  · intro row listed
    have isSwept : (if exhausted config now row then bury now row else row) ∈
        update outbox.rows (exhausted config now) (bury now) := by
      rw [update]
      exact List.mem_map_of_mem listed
    rcases claimedRow_cases config now outbox.claims selectedDistinct
        (if exhausted config now row then bury now row else row) with unchanged | ⟨item, isItem, same, number, -, final⟩
    · rw [unchanged]
      exact sweep.moves row listed
    · -- the selected item is the swept row itself, which is then due and so was not buried
      have isItself := sweptDistinct.eq isSwept (selected item isItem).1 ((sameRow_iff item _).mp same).1
      have isDue := (selected item isItem).2
      rw [← isItself] at isDue
      rw [final]
      by_cases atLimit : exhausted config now row = true
      · rw [if_pos atLimit] at isDue
        simp [due, bury, expired] at isDue
      · rw [if_neg atLimit] at isDue ⊢
        exact .taken number isDue

/-- Every step moves every row, and a step that adds a row adds a new digest. -/
theorem step_moves {following : Outbox} (distinct : Distinct outbox.rows)
    (taken : step config outbox action = some following) :
    ∃ moved added, Moved config outbox action following.rows moved added := by
  cases action with
  | enqueue digest payload now =>
      simp only [step, enqueue] at taken
      cases found : outbox.rows.find? fun row => row.digest == digest with
      | some existing =>
          have unchanged : following.rows = outbox.rows := by
            rw [found] at taken
            by_cases same : existing.payload = payload
            · simp only [same, if_true, Option.some.injEq] at taken
              rw [← taken]
            · simp only [same, if_false, Option.some.injEq] at taken
              rw [← taken]
          exact ⟨id, [], by simp [unchanged], fun _ _ => .same, .inl rfl⟩
      | none =>
          rw [found] at taken
          simp only [Option.some.injEq] at taken
          refine ⟨id, [freshRow digest payload now], by simp [← taken, freshRow], fun _ _ => .same,
            .inr ⟨digest, payload, now, rfl, ?_⟩⟩
          intro row listed
          simpa using List.find?_eq_none.mp found row listed
  | claim limit now =>
      cases Option.some.inj taken
      obtain ⟨moved, result⟩ := @claim_moves config outbox distinct limit now
      exact ⟨moved, [], result⟩
  | succeed index eventId now =>
      obtain ⟨job, found, result⟩ := Option.map_eq_some_iff.mp taken
      rw [← result]
      exact ⟨_, [], moved_update fun row guard => .delivered found guard⟩
  | fail index name now =>
      obtain ⟨job, found, result⟩ := Option.map_eq_some_iff.mp taken
      rw [← result]
      exact ⟨_, [], moved_update fun row guard => .postponed found guard⟩
  | retry digest now =>
      cases Option.some.inj taken
      exact ⟨_, [], moved_update fun row guard => .requeued guard⟩

theorem Move.key {row moved : Row} (move : Move config outbox action row moved) :
    moved.digest = row.digest ∧ moved.payload = row.payload := by
  cases move <;> exact ⟨rfl, rfl⟩

theorem Moved.distinct {added : List Row} {moved : Row → Row}
    (result : Moved config outbox action rows moved added) (distinct : Distinct outbox.rows) : Distinct rows := by
  have digests : (outbox.rows.map moved).map Row.digest = outbox.rows.map Row.digest := by
    rw [List.map_map]
    apply List.map_congr_left
    intro row listed
    exact (result.moves row listed).key.1
  rw [result.rows, Distinct, List.map_append, digests]
  rcases result.added with rfl | ⟨digest, payload, now, rfl, fresh⟩
  · rw [List.map_nil, List.append_nil]
    exact distinct
  · rw [List.nodup_append]
    refine ⟨distinct, by simp, ?_⟩
    rintro _ member _ single rfl
    obtain ⟨row, listed, equal⟩ := List.mem_map.mp member
    exact fresh row listed (by simpa [freshRow, equal] using single)

end AutonomousApi.OutboxLaws
