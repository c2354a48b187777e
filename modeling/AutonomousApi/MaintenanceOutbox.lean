import AutonomousApi.Runs
import Mathlib.Data.List.Sort
import Mathlib.Algebra.Order.Ring.Rat
import Mathlib.Data.String.Basic

/-! The durable outbox of autonomous-api/app/engine/governed_maintenance_outbox.py: a
table of events to deliver, and any number of workers that claim due rows under a lease,
deliver them and write the outcome back. Every SQL transaction is one step. A delivery
itself happens between a claim and its completion, so its outcome is an argument of the
completion. -/

namespace AutonomousApi.MaintenanceOutbox

inductive Status where
  | pending | delivering | delivered | deadLetter
  deriving DecidableEq

/-- A row of the table. `claim` numbers the claim that last took the row; no operation
reads it, it only says whose claim is the current one. -/
structure Row where
  digest : String
  payload : String
  status : Status := .pending
  attempts : Nat := 0
  nextAttemptAt : Rat
  leaseUntil : Option Rat := none
  observatoryEventId : Option String := none
  lastError : Option String := none
  createdAt : Rat
  updatedAt : Rat
  claim : Option Nat := none
  deriving DecidableEq

structure Config where
  maxAttempts : Nat := 8
  baseBackoff : Rat := 2
  maxBackoff : Rat := 300
  lease : Rat := 30
  attemptsValid : 1 ≤ maxAttempts := by decide
  leaseValid : 0 < lease := by decide
  backoffValid : 0 < baseBackoff ∧ baseBackoff ≤ maxBackoff := by decide

/-- A claimed row that a worker has yet to complete, with the number and the lease of the
claim. -/
structure Job where
  digest : String
  payload : String
  attempts : Nat
  claim : Nat
  leaseUntil : Rat
  deriving DecidableEq

/-- A result row of `deliver_pending`. `written` are the states that the call's own
update wrote. -/
structure Report where
  digest : String
  status : Status
  attempts : Nat
  retryIn : Option Rat := none
  observatoryEventId : Option String := none
  error : Option String := none
  written : List Status
  deriving DecidableEq

structure Outbox where
  rows : List Row := []
  jobs : List Job := []
  reports : List Report := []
  claims : Nat := 0
  time : Rat := 0
  deriving DecidableEq

inductive Action where
  | enqueue (digest payload : String) (now : Rat)
  | claim (limit : Nat) (now : Rat)
  | succeed (index : Nat) (eventId : String) (now : Rat)
  | fail (index : Nat) (errorName : String) (now : Rat)
  | retry (digest : String) (now : Rat)

def Action.now : Action → Rat
  | .enqueue _ _ now | .claim _ now | .succeed _ _ now | .fail _ _ now | .retry _ now => now

/-- `UPDATE .. SET .. WHERE ..`. -/
def update (rows : List Row) (wanted : Row → Bool) (change : Row → Row) : List Row :=
  rows.map fun row => if wanted row then change row else row

def enqueue (rows : List Row) (digest payload : String) (now : Rat) : Except String (List Row) :=
  match rows.find? fun row => row.digest == digest with
  | some existing => if existing.payload = payload then .ok rows else .error "outbox-event-digest-collision"
  | none => .ok (rows ++ [{ digest, payload, nextAttemptAt := now, createdAt := now, updatedAt := now }])

variable (config : Config)

def expired (now : Rat) (row : Row) : Bool := row.status == .delivering && row.leaseUntil.any (· ≤ now)

def exhausted (now : Rat) (row : Row) : Bool := expired now row && decide (config.maxAttempts ≤ row.attempts)

def bury (now : Rat) (row : Row) : Row :=
  { row with status := .deadLetter, leaseUntil := none,
             lastError := some "delivery-lease-expired-at-attempt-limit", updatedAt := now }

def due (now : Rat) (row : Row) : Bool :=
  decide (row.attempts < config.maxAttempts) &&
    ((row.status == .pending && decide (row.nextAttemptAt ≤ now)) || expired now row)

/-- `ORDER BY created_at, event_digest`. -/
def earlier (left right : Row) : Prop :=
  left.createdAt < right.createdAt ∨ (left.createdAt = right.createdAt ∧ left.digest ≤ right.digest)

instance : DecidableRel earlier := fun left right =>
  inferInstanceAs (Decidable (left.createdAt < right.createdAt ∨
    (left.createdAt = right.createdAt ∧ left.digest ≤ right.digest)))

def selectDue (limit : Nat) (now : Rat) (rows : List Row) : List Row :=
  ((rows.filter (due config now)).insertionSort earlier).take limit

def take (number : Nat) (now : Rat) (row : Row) : Row :=
  { row with status := .delivering, attempts := row.attempts + 1, leaseUntil := some (now + config.lease),
             updatedAt := now, claim := some number }

def sameRow (item row : Row) : Bool := row.digest == item.digest && row.attempts == item.attempts

/-- The loop of `_claim` over the selected rows: one guarded update each, and a job for
each update that changed one row. -/
def claimRows (now : Rat) : Nat → List Row → List Row → List Row × List Job
  | _, [], rows => (rows, [])
  | number, item :: rest, rows =>
      -- the guard on the attempts is the only one: the status is not looked at again
      let later := claimRows now (number + 1) rest (update rows (sameRow item) (take config number now))
      (later.1,
        if (rows.filter (sameRow item)).length = 1 then
          ⟨item.digest, item.payload, item.attempts + 1, number, now + config.lease⟩ :: later.2
        else later.2)

def claim (limit : Nat) (now : Rat) (outbox : Outbox) : Outbox :=
  -- rows at their limit are dead-lettered by whichever worker claims next
  let swept := update outbox.rows (exhausted config now) (bury now)
  let selected := selectDue config limit now swept
  let claimed := claimRows config now outbox.claims selected swept
  { outbox with rows := claimed.1, jobs := outbox.jobs ++ claimed.2, claims := outbox.claims + selected.length,
                time := now }

def held (digest : String) (row : Row) : Bool := row.digest == digest && row.status == .delivering

def deliver (eventId : String) (now : Rat) (row : Row) : Row :=
  { row with status := .delivered, observatoryEventId := some eventId, leaseUntil := none, lastError := none,
             updatedAt := now }

def delay (attempts : Nat) : Rat := min (config.baseBackoff * 2 ^ (attempts - 1)) config.maxBackoff

def failure (attempts : Nat) : Status := if config.maxAttempts ≤ attempts then .deadLetter else .pending

def postpone (attempts : Nat) (error : String) (now : Rat) (row : Row) : Row :=
  { row with status := failure config attempts,
             nextAttemptAt := if config.maxAttempts ≤ attempts then now else now + delay config attempts,
             leaseUntil := none, lastError := some error, updatedAt := now }

/-- Write an outcome back and report it. The number of rows that the update changed is
not looked at. -/
def complete (index : Nat) (job : Job) (change : Row → Row) (report : List Status → Report) (now : Rat)
    (outbox : Outbox) : Outbox :=
  let changed := (outbox.rows.filter (held job.digest)).map change
  { outbox with rows := update outbox.rows (held job.digest) change, jobs := outbox.jobs.eraseIdx index,
                reports := outbox.reports ++ [report (changed.map Row.status)], time := now }

def requeue (now : Rat) (row : Row) : Row :=
  { row with status := .pending, attempts := 0, nextAttemptAt := now, leaseUntil := none, lastError := none,
             updatedAt := now }

def step (outbox : Outbox) : Action → Option Outbox
  | .enqueue digest payload now =>
      match enqueue outbox.rows digest payload now with
      | .ok rows => some { outbox with rows, time := now }
      -- a collision rolls the transaction back
      | .error _ => some { outbox with time := now }
  | .claim limit now => some (claim config limit now outbox)
  | .succeed index eventId now =>
      (outbox.jobs[index]?).map fun job =>
        complete index job (deliver eventId now)
          (fun written => { digest := job.digest, status := .delivered, attempts := job.attempts,
                            observatoryEventId := some eventId, written }) now outbox
  | .fail index errorName now =>
      (outbox.jobs[index]?).map fun job =>
        complete index job (postpone config job.attempts ("delivery-failed:" ++ errorName) now)
          (fun written => { digest := job.digest, status := failure config job.attempts, attempts := job.attempts,
                            retryIn := if config.maxAttempts ≤ job.attempts then none
                              else some (delay config job.attempts),
                            error := some ("delivery-failed:" ++ errorName), written }) now outbox
  | .retry digest now =>
      some { outbox with
        rows := update outbox.rows (fun row => row.digest == digest && row.status == .deadLetter) (requeue now),
        time := now }

end AutonomousApi.MaintenanceOutbox
