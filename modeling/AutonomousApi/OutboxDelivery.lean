import AutonomousApi.OutboxLaws

/-! Runs of the outbox. A completion is guarded by the digest and the status alone, so it
is right only while the claim it belongs to is the current one. Claims are taken over and
rows are buried only after their lease, hence a completion within its lease is made under
the current claim. -/

namespace AutonomousApi.OutboxDelivery

open Runs MaintenanceOutbox OutboxLaws

variable {config : Config} {outbox following : Outbox} {action : Action}

theorem distinct_kept (distinct : Distinct outbox.rows) (taken : step config outbox action = some following) :
    Distinct following.rows := by
  obtain ⟨moved, added, result⟩ := step_moves distinct taken
  exact result.distinct distinct

variable {allowed : Outbox → Action → Prop}

theorem distinct_reached (reached : Reaches (step config) allowed {} outbox) :
    Distinct outbox.rows := by
  induction reached with
  | start => exact List.nodup_nil
  | next _ _ taken ih => exact distinct_kept ih taken

/-- The bookkeeping of a row that every change of it keeps. -/
structure Sound (config : Config) (row : Row) : Prop where
  attempts : row.attempts ≤ config.maxAttempts
  leased : row.status = .delivering ↔ row.leaseUntil.isSome = true

theorem move_sound {row moved : Row} (move : Move config outbox action row moved) (sound : Sound config row) :
    Sound config moved := by
  cases move with
  | same => exact sound
  | buried guard => exact ⟨sound.attempts, by simp [bury]⟩
  | taken number guard =>
      exact ⟨((due_iff _ _ _).mp guard).1, by simp [take]⟩
  | delivered found guard => exact ⟨sound.attempts, by simp [deliver]⟩
  | postponed found guard =>
      refine ⟨sound.attempts, ?_⟩
      simp only [postpone, MaintenanceOutbox.failure]
      split <;> simp
  | requeued guard => exact ⟨Nat.zero_le _, by simp [requeue]⟩

theorem sound_reached (reached : Reaches (step config) allowed {} outbox) :
    ∀ row ∈ outbox.rows, Sound config row := by
  have both : Distinct outbox.rows ∧ ∀ row ∈ outbox.rows, Sound config row := by
    apply reached.invariant
    · exact ⟨List.nodup_nil, by simp⟩
    · rintro state action next ⟨distinct, sound⟩ _ taken
      refine ⟨distinct_kept distinct taken, ?_⟩
      obtain ⟨moved, added, result⟩ := step_moves distinct taken
      intro row listed
      rw [result.rows] at listed
      rcases List.mem_append.mp listed with old | new
      · obtain ⟨before, isBefore, rfl⟩ := List.mem_map.mp old
        exact move_sound (result.moves before isBefore) (sound before isBefore)
      · rcases result.added with rfl | ⟨digest, payload, now, rfl, -⟩
        · cases new
        · rw [List.mem_singleton] at new
          subst new
          exact ⟨Nat.zero_le _, by simp [freshRow]⟩
  exact both.2

/-- What a later row has in common with an earlier one of its digest. -/
structure Kept (before after : Row) : Prop where
  digest : after.digest = before.digest
  payload : after.payload = before.payload
  delivered : before.status = .delivered → after = before

theorem move_kept {row moved : Row} (move : Move config outbox action row moved) : Kept row moved := by
  refine ⟨move.key.1, move.key.2, ?_⟩
  intro isDelivered
  cases move with
  | same => rfl
  | buried guard => simp [exhausted, expired, isDelivered] at guard
  | taken number guard => simp [due, expired, isDelivered] at guard
  | delivered found guard => simp [held, isDelivered] at guard
  | postponed found guard => simp [held, isDelivered] at guard
  | requeued guard => simp [isDelivered] at guard

theorem Kept.trans {first second third : Row} (early : Kept first second) (late : Kept second third) :
    Kept first third where
  digest := late.digest.trans early.digest
  payload := late.payload.trans early.payload
  delivered := by
    intro isDelivered
    have same := early.delivered isDelivered
    rw [late.delivered (same ▸ isDelivered), same]

theorem kept_reached {later : Outbox} (distinct : Distinct outbox.rows)
    (reached : Reaches (step config) allowed outbox later) :
    ∀ row ∈ outbox.rows, ∃ after ∈ later.rows, Kept row after := by
  have both : Distinct later.rows ∧ ∀ row ∈ outbox.rows, ∃ after ∈ later.rows, Kept row after := by
    apply reached.invariant
    · exact ⟨distinct, fun row listed => ⟨row, listed, rfl, rfl, fun _ => rfl⟩⟩
    · rintro state action next ⟨distinct, kept⟩ _ taken
      refine ⟨distinct_kept distinct taken, ?_⟩
      obtain ⟨moved, added, result⟩ := step_moves distinct taken
      intro row listed
      obtain ⟨middle, isMiddle, early⟩ := kept row listed
      refine ⟨moved middle, ?_, early.trans (move_kept (result.moves middle isMiddle))⟩
      rw [result.rows]
      exact List.mem_append_left _ (List.mem_map_of_mem isMiddle)
  exact both.2

/-- The position of the job that an action completes. -/
def completes : Action → Option Nat
  | .succeed index _ _ | .fail index _ _ => some index
  | _ => none

/-- The clock does not go back, and a completion is made within the lease of its claim. -/
def Timely (outbox : Outbox) (action : Action) : Prop :=
  outbox.time ≤ action.now ∧
    ∀ index job, completes action = some index → outbox.jobs[index]? = some job → action.now < job.leaseUntil

/-- Within its lease, every job has the current claim of its row. -/
structure Claimed (outbox : Outbox) : Prop where
  distinct : Distinct outbox.rows
  numbered : (outbox.jobs.map Job.claim).Nodup
  below : ∀ job ∈ outbox.jobs, job.claim < outbox.claims
  current : ∀ job ∈ outbox.jobs, outbox.time < job.leaseUntil → ∃ row, Holds outbox.rows job row

/-- A row under an unexpired lease is changed by the completion of its digest only. -/
theorem unmoved {row moved : Row} {lease : Rat} (delivering : row.status = .delivering)
    (leased : row.leaseUntil = some lease) (live : action.now < lease)
    (other : ∀ index job, completes action = some index → outbox.jobs[index]? = some job → job.digest ≠ row.digest)
    (move : Move config outbox action row moved) : moved = row := by
  have unexpired (now : Rat) (before : now < lease) : expired now row = false := by
    simp [expired, leased, before]
  cases move with
  | same => rfl
  | @buried limit now _ guard => simp [exhausted, unexpired now live] at guard
  | @taken limit now _ number guard => simp [due, delivering, unexpired now live] at guard
  | @delivered index eventId now _ job found guard =>
      exact absurd ((held_iff _ _).mp guard).1.symm (other index job rfl found)
  | @postponed index name now _ job found guard =>
      exact absurd ((held_iff _ _).mp guard).1.symm (other index job rfl found)
  | requeued guard => simp [delivering] at guard

theorem Claimed.completer {index : Nat} {job : Job} (claimed : Claimed outbox) (timely : Timely outbox action)
    (completing : completes action = some index) (found : outbox.jobs[index]? = some job) :
    ∃ row, Holds outbox.rows job row := by
  have live := timely.2 index job completing found
  exact claimed.current job (List.mem_of_getElem? found) (lt_of_le_of_lt timely.1 live)

/-- A job that stays keeps its row. -/
theorem Claimed.stays {moved : Row → Row} {added : List Row} (claimed : Claimed outbox)
    (timely : Timely outbox action) (result : Moved config outbox action following.rows moved added)
    {job : Job} (isJob : job ∈ outbox.jobs)
    (remains : ∀ index done, completes action = some index → outbox.jobs[index]? = some done →
      done.claim ≠ job.claim)
    (live : action.now < job.leaseUntil) : ∃ row, Holds following.rows job row := by
  obtain ⟨row, holds⟩ := claimed.current job isJob (lt_of_le_of_lt timely.1 live)
  -- an unexpired row can only be taken from this job by a completion, and that is another's
  have other : ∀ index done, completes action = some index → outbox.jobs[index]? = some done →
      done.digest ≠ row.digest := by
    intro index done completing found same
    -- the completed job would hold the same row, under the same claim
    obtain ⟨held, holdsDone⟩ := claimed.completer timely completing found
    have sameRow := claimed.distinct.eq holdsDone.listed holds.listed (holdsDone.digest.trans same)
    apply remains index done completing found
    have claims := holdsDone.claim.symm.trans (sameRow ▸ holds.claim)
    exact Option.some.inj claims
  have unchanged := unmoved holds.delivering holds.lease live other (result.moves row holds.listed)
  refine ⟨row, ?_, holds.digest, holds.delivering, holds.claim, holds.lease, holds.attempts⟩
  rw [result.rows]
  apply List.mem_append_left
  rw [← unchanged]
  exact List.mem_map_of_mem holds.listed

theorem mem_eraseIdx_ne {jobs : List Job} {index : Nat} {job done : Job} (numbered : (jobs.map Job.claim).Nodup)
    (found : jobs[index]? = some done) (member : job ∈ jobs.eraseIdx index) :
    job ∈ jobs ∧ done.claim ≠ job.claim := by
  obtain ⟨place, other, atPlace⟩ := List.mem_eraseIdx_iff_getElem?.mp member
  refine ⟨List.mem_of_getElem? atPlace, ?_⟩
  intro same
  apply other
  have claims : (jobs.map Job.claim)[place]? = (jobs.map Job.claim)[index]? := by
    simp [atPlace, found, same]
  obtain ⟨bound, -⟩ := List.getElem?_eq_some_iff.mp atPlace
  exact (List.getElem?_inj (by simpa using bound) numbered).mp claims

theorem step_time (taken : step config outbox action = some following) : following.time = action.now := by
  cases action with
  | enqueue digest payload now =>
      simp only [step] at taken
      split at taken <;> cases taken <;> rfl
  | claim limit now =>
      cases taken
      rfl
  | succeed index eventId now =>
      obtain ⟨job, -, rfl⟩ := Option.map_eq_some_iff.mp taken
      rfl
  | fail index name now =>
      obtain ⟨job, -, rfl⟩ := Option.map_eq_some_iff.mp taken
      rfl
  | retry digest now =>
      cases taken
      rfl

/-- What a step does to the jobs: a claim adds jobs of new numbers, a completion takes its
own out, the other actions leave them. -/
inductive Jobs (outbox following : Outbox) (action : Action) : Prop where
  | kept (jobs : following.jobs = outbox.jobs) (claims : following.claims = outbox.claims)
      (other : completes action = none)
  | completed (index : Nat) (done : Job) (completing : completes action = some index)
      (found : outbox.jobs[index]? = some done) (jobs : following.jobs = outbox.jobs.eraseIdx index)
      (claims : following.claims = outbox.claims)
  | claimed (added : List Job) (jobs : following.jobs = outbox.jobs ++ added) (other : completes action = none)
      (claims : outbox.claims ≤ following.claims) (numbered : (added.map Job.claim).Nodup)
      (numbers : ∀ job ∈ added, outbox.claims ≤ job.claim ∧ job.claim < following.claims)
      (current : ∀ job ∈ added, ∃ row, Holds following.rows job row)

theorem step_jobs (distinct : Distinct outbox.rows) (taken : step config outbox action = some following) :
    Jobs outbox following action := by
  cases action with
  | enqueue digest payload now =>
      simp only [step] at taken
      split at taken <;> cases taken <;> exact .kept rfl rfl rfl
  | claim limit now =>
      cases taken
      have swept : Distinct (update outbox.rows (exhausted config now) (bury now)) := distinct.update fun _ => rfl
      obtain ⟨selected, -⟩ := @selectDue_spec config limit now _ swept
      obtain ⟨numbered, current⟩ := claimRows_jobs config now outbox.claims selected
        (update outbox.rows (exhausted config now) (bury now))
      refine .claimed _ rfl rfl (Nat.le_add_right _ _) numbered ?_ ?_
      · intro job member
        obtain ⟨low, high, -⟩ := current job member
        exact ⟨low, high⟩
      · intro job member
        obtain ⟨-, -, holds⟩ := current job member
        exact holds
  | succeed index eventId now =>
      obtain ⟨job, found, rfl⟩ := Option.map_eq_some_iff.mp taken
      exact .completed index job rfl found rfl rfl
  | fail index name now =>
      obtain ⟨job, found, rfl⟩ := Option.map_eq_some_iff.mp taken
      exact .completed index job rfl found rfl rfl
  | retry digest now =>
      cases taken
      exact .kept rfl rfl rfl

theorem Claimed.next (claimed : Claimed outbox) (timely : Timely outbox action)
    (taken : step config outbox action = some following) : Claimed following := by
  obtain ⟨moved, added, result⟩ := step_moves claimed.distinct taken
  have distinct := result.distinct claimed.distinct
  have time := step_time taken
  have stays {job : Job} := @Claimed.stays config outbox following action moved added claimed timely result job
  cases step_jobs claimed.distinct taken with
  | kept jobs claims other =>
      refine ⟨distinct, jobs ▸ claimed.numbered, ?_, ?_⟩
      · rw [jobs, claims]
        exact claimed.below
      · intro job member live
        rw [jobs] at member
        rw [time] at live
        apply stays member _ live
        intro index done completing
        rw [other] at completing
        cases completing
  | completed index done completing found jobs claims =>
      refine ⟨distinct, ?_, ?_, ?_⟩
      · rw [jobs]
        exact claimed.numbered.sublist ((List.eraseIdx_sublist _ _).map Job.claim)
      · intro job member
        rw [jobs] at member
        rw [claims]
        exact claimed.below job (List.mem_of_mem_eraseIdx member)
      · intro job member live
        rw [jobs] at member
        rw [time] at live
        obtain ⟨isJob, differs⟩ := mem_eraseIdx_ne claimed.numbered found member
        apply stays isJob _ live
        intro place other isPlace atPlace
        rw [completing] at isPlace
        cases isPlace
        rw [found] at atPlace
        cases atPlace
        exact differs
  | claimed new jobs other claims numbered numbers current =>
      -- the new numbers start where the given ones end
      refine ⟨distinct, ?_, ?_, ?_⟩
      · rw [jobs, List.map_append, List.nodup_append]
        refine ⟨claimed.numbered, numbered, ?_⟩
        rintro _ old _ fresh rfl
        obtain ⟨before, isBefore, same⟩ := List.mem_map.mp old
        obtain ⟨job, isNew, equal⟩ := List.mem_map.mp fresh
        have high := claimed.below before isBefore
        have low := (numbers job isNew).1
        omega
      · intro job member
        rw [jobs] at member
        rcases List.mem_append.mp member with old | fresh
        · exact lt_of_lt_of_le (claimed.below job old) claims
        · exact (numbers job fresh).2
      · intro job member live
        rw [jobs] at member
        rw [time] at live
        rcases List.mem_append.mp member with old | fresh
        · apply stays old _ live
          intro index done completing
          rw [other] at completing
          cases completing
        · exact current job fresh

theorem claimed_reached (reached : Reaches (step config) Timely {} outbox) : Claimed outbox := by
  apply reached.invariant
  · exact ⟨List.nodup_nil, List.nodup_nil, by simp, by simp⟩
  · intro state action next claimed timely taken
    exact claimed.next timely taken

/-- How a step can change a row that is under delivery. -/
inductive Released (config : Config) (outbox : Outbox) : Action → Row → Row → Prop where
  | completed {action : Action} {row after : Row} (index : Nat) (job : Job)
      (completing : completes action = some index) (found : outbox.jobs[index]? = some job)
      (digest : job.digest = row.digest) : Released config outbox action row after
  | swept {limit : Nat} {now lease : Rat} {row : Row} (leased : row.leaseUntil = some lease) (lapsed : lease ≤ now)
      (limited : config.maxAttempts ≤ row.attempts) : Released config outbox (.claim limit now) row (bury now row)
  | reclaimed {limit : Nat} {now lease : Rat} {row : Row} (number : Nat) (leased : row.leaseUntil = some lease)
      (lapsed : lease ≤ now) (below : row.attempts < config.maxAttempts) :
      Released config outbox (.claim limit now) row (take config number now row)

theorem move_released {row after : Row} (delivering : row.status = .delivering)
    (move : Move config outbox action row after) (changed : after ≠ row) : Released config outbox action row after := by
  cases move with
  | same => exact absurd rfl changed
  | buried guard =>
      obtain ⟨isExpired, limited⟩ := (exhausted_iff _ _ _).mp guard
      obtain ⟨-, lease, leased, past⟩ := (expired_iff _ _).mp isExpired
      exact .swept leased past limited
  | @taken limit now _ number guard =>
      obtain ⟨below, ready⟩ := (due_iff _ _ _).mp guard
      -- a row under delivery is not pending, so its lease has run out
      have isExpired : expired now row = true := by
        simpa [delivering] using ready
      obtain ⟨-, lease, leased, past⟩ := (expired_iff _ _).mp isExpired
      exact .reclaimed number leased past below
  | @delivered index eventId now _ job found guard =>
      exact .completed index job rfl found ((held_iff _ _).mp guard).1.symm
  | @postponed index name now _ job found guard =>
      exact .completed index job rfl found ((held_iff _ _).mp guard).1.symm
  | requeued guard => simp [delivering] at guard

/-- A completion changes no row but one of its job's digest that is under delivery. -/
theorem completion_changes {row after : Row} {index : Nat} {job : Job} (completing : completes action = some index)
    (found : outbox.jobs[index]? = some job) (move : Move config outbox action row after) (changed : after ≠ row) :
    row.digest = job.digest ∧ row.status = .delivering := by
  cases move with
  | same => exact absurd rfl changed
  | buried guard => cases completing
  | taken number guard => cases completing
  | delivered isJob guard =>
      cases completing
      rw [found] at isJob
      cases isJob
      exact (held_iff _ _).mp guard
  | postponed isJob guard =>
      cases completing
      rw [found] at isJob
      cases isJob
      exact (held_iff _ _).mp guard
  | requeued guard => cases completing

/-- One row, claimed at 0. -/
def heldRow : Row :=
  { digest := "d", payload := "p", status := .delivering, attempts := 1, nextAttemptAt := 0, leaseUntil := some 30,
    createdAt := 0, updatedAt := 0, claim := some 0 }

def heldOutbox : Outbox := { rows := [heldRow], jobs := [⟨"d", "p", 1, 0, 30⟩], claims := 1 }

theorem heldOutbox_run : run (step {}) {} [.enqueue "d" "p" 0, .claim 20 0] = some heldOutbox := by decide +kernel

theorem heldOutbox_steps :
    step {} {} (.enqueue "d" "p" 0) = some { rows := [freshRow "d" "p" 0] } ∧
      step {} { rows := [freshRow "d" "p" 0] } (.claim 20 0) = some heldOutbox := by
  constructor <;> decide +kernel

/-- The row claimed again at 31, after its lease, by a second worker. -/
def takenOver : Outbox :=
  { rows := [{ heldRow with attempts := 2, leaseUntil := some 61, updatedAt := 31, claim := some 1 }],
    jobs := [⟨"d", "p", 1, 0, 30⟩, ⟨"d", "p", 2, 1, 61⟩], claims := 2, time := 31 }

theorem takenOver_run : run (step {}) {} [.enqueue "d" "p" 0, .claim 20 0, .claim 20 31] = some takenOver := by
  decide +kernel

/-- The row of a completed job is still under delivery. -/
def StillHeld (outbox : Outbox) (action : Action) : Prop :=
  ∀ index job, completes action = some index → outbox.jobs[index]? = some job →
    ∃ row ∈ outbox.rows, held job.digest row = true

theorem filter_held (distinct : Distinct outbox.rows) {row : Row} {digest : String} (listed : row ∈ outbox.rows)
    (isHeld : held digest row = true) : outbox.rows.filter (held digest) = [row] := by
  apply distinct.filter_single listed isHeld
  intro other otherHeld
  exact ((held_iff _ _).mp otherHeld).1.trans ((held_iff _ _).mp isHeld).1.symm

/-- A completion writes the state it reports, provided that its row is under delivery. -/
theorem complete_written {index : Nat} {job : Job} {change : Row → Row} {report : List Status → Report} {now : Rat}
    (status : Status) (distinct : Distinct outbox.rows) (present : ∃ row ∈ outbox.rows, held job.digest row = true)
    (changes : ∀ row, (change row).status = status) (reports : ∀ written, (report written).status = status)
    (writes : ∀ written, (report written).written = written)
    (agreeing : ∀ result ∈ outbox.reports, result.written = [result.status]) :
    ∀ result ∈ (complete index job change report now outbox).reports, result.written = [result.status] := by
  obtain ⟨row, listed, isHeld⟩ := present
  intro result member
  rcases List.mem_append.mp member with old | new
  · exact agreeing result old
  · rw [List.mem_singleton] at new
    rw [new, writes, reports, filter_held distinct listed isHeld, List.map_singleton, List.map_singleton, changes]

theorem step_written (distinct : Distinct outbox.rows) (present : StillHeld outbox action)
    (taken : step config outbox action = some following)
    (agreeing : ∀ result ∈ outbox.reports, result.written = [result.status]) :
    ∀ result ∈ following.reports, result.written = [result.status] := by
  cases action with
  | enqueue digest payload now =>
      simp only [step] at taken
      split at taken <;> cases taken <;> exact agreeing
  | claim limit now =>
      cases taken
      exact agreeing
  | succeed index eventId now =>
      obtain ⟨job, found, rfl⟩ := Option.map_eq_some_iff.mp taken
      exact complete_written .delivered distinct (present index job rfl found) (fun _ => rfl) (fun _ => rfl)
        (fun _ => rfl) agreeing
  | fail index name now =>
      obtain ⟨job, found, rfl⟩ := Option.map_eq_some_iff.mp taken
      exact complete_written (MaintenanceOutbox.failure config job.attempts) distinct
        (present index job rfl found) (fun _ => rfl) (fun _ => rfl) (fun _ => rfl) agreeing
  | retry digest now =>
      cases taken
      exact agreeing

/-- Where every completion finds its row still under delivery, every result of
`deliver_pending` names the state that its own update wrote. -/
theorem reports_written (reached : Reaches (step config) StillHeld {} outbox) :
    ∀ report ∈ outbox.reports, report.written = [report.status] := by
  have both : Distinct outbox.rows ∧ ∀ report ∈ outbox.reports, report.written = [report.status] := by
    apply reached.invariant
    · exact ⟨List.nodup_nil, by simp⟩
    · rintro state action next ⟨distinct, agreeing⟩ present taken
      exact ⟨distinct_kept distinct taken, step_written distinct present taken agreeing⟩
  exact both.2

theorem stillHeld_of_none (other : completes action = none) : StillHeld outbox action := by
  intro index job completing
  rw [other] at completing
  cases completing

theorem heldOutbox_stillHeld : Reaches (step {}) StillHeld {} heldOutbox := by
  obtain ⟨enqueued, claimed⟩ := heldOutbox_steps
  exact .next (.next .start (stillHeld_of_none (by rfl)) enqueued) (stillHeld_of_none (by rfl)) claimed

def deliveredOutbox : Outbox :=
  { rows :=
      [{ heldRow with status := .delivered, leaseUntil := none, observatoryEventId := some "e", updatedAt := 10 }],
    reports := [{ digest := "d", status := .delivered, attempts := 1, observatoryEventId := some "e",
                  written := [.delivered] }],
    claims := 1, time := 10 }

theorem deliveredOutbox_written :
    deliveredOutbox.reports.length = 1 ∧ ∀ report ∈ deliveredOutbox.reports, report.written = [report.status] := by
  have delivered : step {} heldOutbox (.succeed 0 "e" 10) = some deliveredOutbox := by decide
  refine ⟨rfl, reports_written (.next heldOutbox_stillHeld ?_ delivered)⟩
  intro index job completing found
  cases completing
  cases found
  exact ⟨heldRow, by decide, by decide⟩

/-- A worker whose row was claimed again and delivered by another reports a delivery that
no update of its own wrote. -/
theorem late_success_unwritten :
    ∃ outbox, Reaches (step {}) (fun _ _ => True) {} outbox ∧
      ∃ report ∈ outbox.reports, report.status = .delivered ∧ report.written = [] := by
  have final : (run (step {}) takenOver [.succeed 1 "e" 32, .succeed 0 "f" 33]).isSome = true := by decide
  obtain ⟨outbox, finished⟩ := Option.isSome_iff_exists.mp final
  refine ⟨outbox, reaches_of_run (reaches_of_run .start takenOver_run) finished, ?_⟩
  have listed : (run (step {}) takenOver [.succeed 1 "e" 32, .succeed 0 "f" 33]).map Outbox.reports = some
      [{ digest := "d", status := .delivered, attempts := 2, observatoryEventId := some "e", written := [.delivered] },
        { digest := "d", status := .delivered, attempts := 1, observatoryEventId := some "f", written := [] }] := by
    decide
  rw [finished, Option.map_some, Option.some.injEq] at listed
  rw [listed]
  exact ⟨_, List.mem_cons_of_mem _ List.mem_cons_self, rfl, rfl⟩

/-- A row waits for its next attempt below the attempt limit. -/
structure Open (config : Config) (outbox : Outbox) : Prop where
  claimed : Claimed outbox
  below : ∀ row ∈ outbox.rows, row.status = .pending → row.attempts < config.maxAttempts

theorem Open.next (isOpen : Open config outbox) (timely : Timely outbox action)
    (taken : step config outbox action = some following) : Open config following := by
  refine ⟨isOpen.claimed.next timely taken, ?_⟩
  obtain ⟨moved, added, result⟩ := step_moves isOpen.claimed.distinct taken
  intro after listed pending
  rw [result.rows] at listed
  rcases List.mem_append.mp listed with old | new
  · obtain ⟨row, isRow, rfl⟩ := List.mem_map.mp old
    generalize becomes : moved row = after at pending
    have move := becomes ▸ result.moves row isRow
    cases move with
    | same => exact isOpen.below row isRow pending
    | buried guard => simp [bury] at pending
    | taken number guard => simp [take] at pending
    | delivered found guard => simp [deliver] at pending
    | @postponed index name now _ job found guard =>
        -- the failed job holds the row, so its attempt is the row's
        obtain ⟨current, holds⟩ := isOpen.claimed.completer timely rfl found
        have digest := ((held_iff _ _).mp guard).1
        have same := isOpen.claimed.distinct.eq isRow holds.listed (digest.trans holds.digest.symm)
        have attempts : row.attempts = job.attempts := same ▸ holds.attempts
        simp only [postpone, MaintenanceOutbox.failure] at pending ⊢
        split at pending
        · cases pending
        · omega
    | requeued guard => exact config.attemptsValid
  · rcases result.added with rfl | ⟨digest, payload, now, rfl, -⟩
    · cases new
    · rw [List.mem_singleton] at new
      subst new
      exact config.attemptsValid

theorem open_reached (reached : Reaches (step config) Timely {} outbox) : Open config outbox := by
  apply reached.invariant
  · exact ⟨@claimed_reached config {} .start, by simp⟩
  · intro state action next isOpen timely taken
    exact isOpen.next timely taken

/-- A row at its limit is dead-lettered by the next claim after its lease. -/
theorem claim_buries (distinct : Distinct outbox.rows) (limit : Nat) {now : Rat} {row : Row}
    (listed : row ∈ outbox.rows)
    (atLimit : exhausted config now row = true) : bury now row ∈ (claim config limit now outbox).rows := by
  have swept : bury now row ∈ update outbox.rows (exhausted config now) (bury now) := by
    rw [update, List.mem_map]
    exact ⟨row, listed, by rw [if_pos atLimit]⟩
  have sweptDistinct : Distinct (update outbox.rows (exhausted config now) (bury now)) := distinct.update fun _ => rfl
  obtain ⟨selectedDistinct, selected⟩ := @selectDue_spec config limit now _ sweptDistinct
  simp only [claim]
  rw [claimRows_rows, List.mem_map]
  refine ⟨bury now row, swept, ?_⟩
  rcases claimedRow_cases config now outbox.claims selectedDistinct (bury now row) with
    unchanged | ⟨item, isItem, same, -⟩
  · exact unchanged
  · -- a selected row of this digest would be the buried row, which is not due
    have isDue := (selected item isItem).2
    rw [← sweptDistinct.eq swept (selected item isItem).1 ((sameRow_iff item _).mp same).1] at isDue
    simp [due, bury, expired] at isDue

/-- Burying the rows at their limit leaves the due rows as many as they were. -/
theorem swept_due (config : Config) (now : Rat) (rows : List Row) :
    ((update rows (exhausted config now) (bury now)).filter (due config now)).length =
      (rows.filter (due config now)).length := by
  rw [update, List.filter_map, List.length_map]
  congr 1
  apply List.filter_congr
  intro row _
  rw [Function.comp_apply]
  by_cases atLimit : exhausted config now row = true
  · have limited := ((exhausted_iff _ _ _).mp atLimit).2
    have notDue : due config now row = false := by
      simp [due, Nat.not_lt.mpr limited]
    rw [if_pos atLimit, notDue]
    simp [due, bury, expired]
  · rw [if_neg atLimit]

/-- A due row is claimed by a claim whose limit leaves room for the due rows. -/
theorem claim_takes (distinct : Distinct outbox.rows) {limit : Nat} {now : Rat}
    (room : (outbox.rows.filter (due config now)).length ≤ limit) {row : Row} (listed : row ∈ outbox.rows)
    (isDue : due config now row = true) :
    ∃ jobs, (claim config limit now outbox).jobs = outbox.jobs ++ jobs ∧ ∃ job ∈ jobs, job.digest = row.digest := by
  have unburied : exhausted config now row = false := by
    simp [exhausted, ((due_iff _ _ _).mp isDue).1]
  have swept : row ∈ update outbox.rows (exhausted config now) (bury now) := by
    rw [update, List.mem_map]
    exact ⟨row, listed, by simp [unburied]⟩
  have sweptDistinct : Distinct (update outbox.rows (exhausted config now) (bury now)) := distinct.update fun _ => rfl
  obtain ⟨selectedDistinct, selected⟩ := @selectDue_spec config limit now _ sweptDistinct
  refine ⟨_, rfl, ?_⟩
  apply claimRows_claims config now outbox.claims selectedDistinct
  · intro item isItem
    have isRow := (selected item isItem).1
    rw [sweptDistinct.filter_single isRow (by simp [sameRow])]
    · rfl
    · intro other same
      exact ((sameRow_iff item other).mp same).1
  · have wanted : row ∈ (update outbox.rows (exhausted config now) (bury now)).filter (due config now) :=
      List.mem_filter.mpr ⟨swept, isDue⟩
    rw [selectDue, List.take_of_length_le]
    · exact (List.mem_insertionSort earlier).mpr wanted
    · rw [List.length_insertionSort, swept_due]
      exact room

end AutonomousApi.OutboxDelivery
