import Mathlib.Data.List.Nodup

/-! The single-flight lease of the control plane (app/storage/lease.py). Each call is one SQL
transaction on the lease table, and reads the clock before it opens the transaction: the
reading is part of the call and is bound to nothing, so any delay between the two and any
clock is covered. Times are microseconds since the epoch; the table stores their ISO texts,
which it only parses back. -/

namespace AutonomousApi.ControlPlaneLease

structure Lease where
  leaseKey : String
  ownerToken : String
  ownerRunId : String
  acquiredAt : Int
  heartbeatAt : Int
  expiresAt : Int
  deriving DecidableEq

abbrev Table := List Lease

def leaseKey : String := "evolution"

def leaseSeconds : Int := 300

/-- The token of a call to `acquire` is the `uuid4` that it draws. -/
inductive Call where
  | acquire (ownerRunId : String) (leaseSeconds : Int) (allowStaleTakeover : Bool) (ownerToken : String) (now : Int)
  | heartbeat (ownerToken : String) (leaseSeconds : Int) (now : Int)
  | release (ownerToken : String)

inductive Outcome where
  | acquired (ownerToken : String)
  | renewed
  | released
  | leaseSecondsNotPositive
  | busy
  | ownershipLost
  deriving DecidableEq

def selectLease (table : Table) : Option Lease := table.find? fun row => row.leaseKey == leaseKey

def expiry (now leaseSeconds : Int) : Int := now + leaseSeconds * 1000000

def acquireControlPlaneLease (table : Table) (ownerRunId : String) (leaseSeconds : Int) (allowStaleTakeover : Bool)
    (ownerToken : String) (now : Int) : Table × Outcome :=
  if leaseSeconds ≤ 0 then (table, .leaseSecondsNotPositive)
  else
    match selectLease table with
    | none =>
        (table ++ [{ leaseKey, ownerToken, ownerRunId, acquiredAt := now, heartbeatAt := now,
                     expiresAt := expiry now leaseSeconds }], .acquired ownerToken)
    | some row =>
        if now < row.expiresAt ∨ allowStaleTakeover = false then (table, .busy)
        else
          (table.map fun row =>
            if row.leaseKey = leaseKey then
              { row with ownerToken, ownerRunId, acquiredAt := now, heartbeatAt := now,
                         expiresAt := expiry now leaseSeconds }
            else row, .acquired ownerToken)

def ownedBy (ownerToken : String) (row : Lease) : Bool := row.leaseKey == leaseKey && row.ownerToken == ownerToken

def heartbeatControlPlaneLease (table : Table) (ownerToken : String) (leaseSeconds now : Int) : Table × Outcome :=
  if (table.filter (ownedBy ownerToken)).length = 1 then
    (table.map fun row =>
      if ownedBy ownerToken row then { row with heartbeatAt := now, expiresAt := expiry now leaseSeconds } else row,
        .renewed)
  else (table, .ownershipLost)

def releaseControlPlaneLease (table : Table) (ownerToken : String) : Table × Outcome :=
  (table.filter fun row => !ownedBy ownerToken row, .released)

def leaseIsLive (table : Table) (now : Int) : Bool := (selectLease table).any fun row => now < row.expiresAt

def execute (table : Table) : Call → Table × Outcome
  | .acquire ownerRunId leaseSeconds allowStaleTakeover ownerToken now =>
      acquireControlPlaneLease table ownerRunId leaseSeconds allowStaleTakeover ownerToken now
  | .heartbeat ownerToken leaseSeconds now => heartbeatControlPlaneLease table ownerToken leaseSeconds now
  | .release ownerToken => releaseControlPlaneLease table ownerToken

/-- The table after a run of calls, in the order in which their transactions commit. -/
def after (table : Table) (calls : List Call) : Table := calls.foldl (fun table call => (execute table call).1) table

theorem after_append (table : Table) (calls more : List Call) :
    after table (calls ++ more) = after (after table calls) more := List.foldl_append

section

variable {table : Table} {call : Call} {calls : List Call} {token : String} {row : Lease}

/-- The tokens recorded for the lease. -/
def recorded (table : Table) : List String := (table.filter fun row => row.leaseKey == leaseKey).map Lease.ownerToken

/-- The primary key of the table. -/
def Keyed (table : Table) : Prop := (table.map Lease.leaseKey).Nodup

/-- The tokens that calls draw. -/
def drawn : List Call → List String
  | [] => []
  | .acquire _ _ _ token _ :: rest => token :: drawn rest
  | _ :: rest => drawn rest

attribute [local simp] drawn

theorem drawn_append (calls more : List Call) : drawn (calls ++ more) = drawn calls ++ drawn more := by
  induction calls with
  | nil => rfl
  | cons call rest ih => cases call <;> simp [ih]

/-- A keyed table has one row for the lease or none. -/
theorem lease_rows (keyed : Keyed table) :
    (selectLease table = none ∧ (table.filter fun row => row.leaseKey == leaseKey) = []) ∨
      ∃ row, selectLease table = some row ∧ (table.filter fun row => row.leaseKey == leaseKey) = [row] := by
  induction table with
  | nil => exact .inl ⟨rfl, rfl⟩
  | cons row rest ih =>
      rw [Keyed, List.map_cons, List.nodup_cons] at keyed
      by_cases hit : row.leaseKey = leaseKey
      · right
        refine ⟨row, by simp [selectLease, hit], ?_⟩
        have apart : (rest.filter fun row => row.leaseKey == leaseKey) = [] := by
          rw [List.filter_eq_nil_iff]
          intro other member
          rw [beq_iff_eq]
          intro same
          exact keyed.1 (hit ▸ same ▸ List.mem_map_of_mem member)
        rw [List.filter_cons_of_pos (by simp [hit]), apart]
      · rcases ih keyed.2 with ⟨missed, empty⟩ | ⟨found, held, only⟩
        · exact .inl ⟨by simpa [selectLease, hit] using missed, by simpa [hit] using empty⟩
        · exact .inr ⟨found, by simpa [selectLease, hit] using held, by simpa [hit] using only⟩

theorem recorded_none (keyed : Keyed table) (missed : selectLease table = none) : recorded table = [] := by
  rcases lease_rows keyed with ⟨-, empty⟩ | ⟨row, held, -⟩
  · rw [recorded, empty]
    rfl
  · rw [missed] at held
    cases held

theorem recorded_some (keyed : Keyed table) (held : selectLease table = some row) :
    recorded table = [row.ownerToken] := by
  rcases lease_rows keyed with ⟨missed, -⟩ | ⟨found, found', only⟩
  · rw [missed] at held
    cases held
  · rw [held] at found'
    rw [recorded, only, ← Option.some.inj found']
    rfl

theorem selectLease_map (change : Lease → Lease) (kept : ∀ row, (change row).leaseKey = row.leaseKey) :
    selectLease (table.map change) = (selectLease table).map change := by
  rw [selectLease, selectLease, List.find?_map]
  simp only [Function.comp_def, kept]

theorem keyed_map (change : Lease → Lease) (kept : ∀ row, (change row).leaseKey = row.leaseKey) :
    Keyed (table.map change) ↔ Keyed table := by
  rw [Keyed, Keyed, List.map_map]
  simp only [Function.comp_def, kept]

theorem selectLease_key (held : selectLease table = some row) : row.leaseKey = leaseKey := by
  have found := List.find?_some held
  exact beq_iff_eq.mp found

/-- The rows that an owner's statements match. -/
theorem owned_rows (keyed : Keyed table) (token : String) :
    table.filter (ownedBy token) = ((selectLease table).filter fun row => row.ownerToken == token).toList := by
  have split : table.filter (ownedBy token) =
      (table.filter fun row => row.leaseKey == leaseKey).filter fun row => row.ownerToken == token := by
    rw [List.filter_filter]
    exact List.filter_congr fun row _ => Bool.and_comm _ _
  rw [split]
  rcases lease_rows keyed with ⟨missed, empty⟩ | ⟨row, held, only⟩
  · rw [empty, missed]
    rfl
  · rw [only, held, List.filter_singleton]
    by_cases owner : row.ownerToken = token
    · simp [owner, Option.filter]
    · have other : (row.ownerToken == token) = false := beq_false_of_ne owner
      simp [other, Option.filter]

/-- When a call may take the lease. -/
def Available (table : Table) (allowStaleTakeover : Bool) (now : Int) : Prop :=
  selectLease table = none ∨ ∃ row, selectLease table = some row ∧ allowStaleTakeover = true ∧ row.expiresAt ≤ now

variable {token : String} {result : Table × Outcome}

/-- A call that acquires finds the lease available and leaves its own token; any other outcome
leaves the table as it is. -/
theorem acquire_cases (keyed : Keyed table) {ownerRunId : String} {leaseSeconds : Int} {allowStaleTakeover : Bool}
    {now : Int}
    (done : acquireControlPlaneLease table ownerRunId leaseSeconds allowStaleTakeover token now = result) :
    (result.2 = .acquired token ∧ 0 < leaseSeconds ∧ Available table allowStaleTakeover now ∧ Keyed result.1 ∧
      ∃ row, selectLease result.1 = some row ∧ row.ownerToken = token ∧ row.expiresAt = expiry now leaseSeconds) ∨
    ((result.2 = .leaseSecondsNotPositive ∨ result.2 = .busy) ∧ result.1 = table ∧
      ¬ (0 < leaseSeconds ∧ Available table allowStaleTakeover now)) := by
  rw [acquireControlPlaneLease] at done
  by_cases positive : 0 < leaseSeconds
  · rw [if_neg (by omega)] at done
    cases held : selectLease table with
    | none =>
        rw [held] at done
        subst done
        have fresh : leaseKey ∉ table.map Lease.leaseKey := by
          intro member
          obtain ⟨row, inside, named⟩ := List.mem_map.mp member
          exact absurd (beq_iff_eq.mpr named) (List.find?_eq_none.mp held row inside)
        have first (row : Lease) (named : row.leaseKey = leaseKey) : selectLease (table ++ [row]) = some row := by
          rw [selectLease, List.find?_append, show table.find? _ = none from held]
          simp [named]
        refine .inl ⟨rfl, positive, .inl held, ?_, _, first _ rfl, rfl, rfl⟩
        rw [Keyed, List.map_append]
        exact keyed.append (by simp) (by simpa using fresh)
    | some row =>
        rw [held] at done
        dsimp only at done
        by_cases refused : now < row.expiresAt ∨ allowStaleTakeover = false
        · rw [if_pos refused] at done
          subst done
          refine .inr ⟨.inr rfl, rfl, ?_⟩
          rintro ⟨-, missed | ⟨found, same, allowed, expired⟩⟩
          · rw [missed] at held
            cases held
          · obtain rfl := Option.some.inj (held.symm.trans same)
            rcases refused with active | forbidden
            · omega
            · rw [allowed] at forbidden
              cases forbidden
        · rw [if_neg refused] at done
          subst done
          simp only [not_or, Int.not_lt, Bool.not_eq_false] at refused
          have kept (row : Lease) : (if row.leaseKey = leaseKey then
              { row with ownerToken := token, ownerRunId, acquiredAt := now, heartbeatAt := now,
                         expiresAt := expiry now leaseSeconds } else row).leaseKey = row.leaseKey := by
            split <;> rfl
          have first := @selectLease_map table _ kept
          rw [held, Option.map_some, if_pos (selectLease_key held)] at first
          exact .inl ⟨rfl, positive, .inr ⟨row, held, refused.2, refused.1⟩, (keyed_map _ kept).mpr keyed, _, first,
              rfl, rfl⟩
  · rw [if_pos (by omega)] at done
    subst done
    exact .inr ⟨.inl rfl, rfl, fun both => positive both.1⟩

/-- A heartbeat renews the lease of the recorded owner; of anyone else it is refused. -/
theorem heartbeat_cases (keyed : Keyed table) {leaseSeconds now : Int}
    (done : heartbeatControlPlaneLease table token leaseSeconds now = result) :
    (∃ row, selectLease table = some row ∧ row.ownerToken = token ∧ result.2 = .renewed ∧ Keyed result.1 ∧
      selectLease result.1 = some { row with heartbeatAt := now, expiresAt := expiry now leaseSeconds }) ∨
    (token ∉ recorded table ∧ result = (table, .ownershipLost)) := by
  rw [heartbeatControlPlaneLease, owned_rows keyed] at done
  cases held : selectLease table with
  | none =>
      rw [held] at done
      exact .inr ⟨by simp [recorded_none keyed held], done.symm⟩
  | some row =>
      rw [held] at done
      by_cases owner : row.ownerToken = token
      · rw [if_pos (by simp [owner, Option.filter])] at done
        subst done
        have kept (row : Lease) : (if ownedBy token row then
            { row with heartbeatAt := now, expiresAt := expiry now leaseSeconds } else row).leaseKey =
            row.leaseKey := by
          split <;> rfl
        refine .inl ⟨row, rfl, owner, rfl, (keyed_map _ kept).mpr keyed, ?_⟩
        rw [selectLease_map _ kept, held, Option.map_some, if_pos]
        rw [ownedBy, selectLease_key held, owner]
        simp
      · have other : (row.ownerToken == token) = false := beq_false_of_ne owner
        rw [if_neg (by simp [other, Option.filter])] at done
        exact .inr ⟨by simpa [recorded_some keyed held] using Ne.symm owner, done.symm⟩

/-- A release removes the lease of the recorded owner; of anyone else it changes nothing. -/
theorem release_cases (keyed : Keyed table) (done : releaseControlPlaneLease table token = result) :
    (∃ row, selectLease table = some row ∧ row.ownerToken = token ∧ Keyed result.1 ∧ selectLease result.1 = none) ∨
    (token ∉ recorded table ∧ result.1 = table) := by
  rw [releaseControlPlaneLease] at done
  subst done
  have unmatched (empty : table.filter (ownedBy token) = []) :
      (table.filter fun row => !ownedBy token row) = table := by
    rw [List.filter_eq_self]
    intro row member
    rw [List.filter_eq_nil_iff] at empty
    simpa using empty row member
  have rows := owned_rows keyed token
  cases held : selectLease table with
  | none => exact .inr ⟨by simp [recorded_none keyed held], unmatched (by rw [rows, held]; rfl)⟩
  | some row =>
      by_cases owner : row.ownerToken = token
      · refine .inl ⟨row, rfl, owner, keyed.sublist (List.filter_sublist.map Lease.leaseKey), ?_⟩
        rw [selectLease, List.find?_eq_none]
        intro other inside
        obtain ⟨member, spared⟩ := List.mem_filter.mp inside
        rw [beq_iff_eq]
        intro named
        have same : other = row := by
          have rest : other ∈ table.filter fun row => row.leaseKey == leaseKey :=
            List.mem_filter.mpr ⟨member, by simp [named]⟩
          rcases lease_rows keyed with ⟨missed, -⟩ | ⟨found, found', only⟩
          · rw [missed] at held
            cases held
          · rw [only, List.mem_singleton] at rest
            exact rest.trans (Option.some.inj (found'.symm.trans held))
        simp [same, ownedBy, owner, selectLease_key held] at spared
      · have other : (row.ownerToken == token) = false := beq_false_of_ne owner
        exact .inr ⟨by simpa [recorded_some keyed held] using Ne.symm owner,
          unmatched (by rw [rows, held]; simp [other, Option.filter])⟩

theorem execute_keyed (keyed : Keyed table) (call : Call) : Keyed (execute table call).1 := by
  cases call with
  | acquire ownerRunId leaseSeconds allowStaleTakeover token now =>
      rcases acquire_cases keyed rfl with ⟨-, -, -, next, -⟩ | ⟨-, same, -⟩
      · exact next
      · rwa [execute, same]
  | heartbeat token leaseSeconds now =>
      rcases heartbeat_cases keyed rfl with ⟨-, -, -, -, next, -⟩ | ⟨-, same⟩
      · exact next
      · rwa [execute, same]
  | release token =>
      rcases release_cases keyed rfl with ⟨-, -, -, next, -⟩ | ⟨-, same⟩
      · exact next
      · rwa [execute, same]

theorem after_keyed (keyed : Keyed table) (calls : List Call) : Keyed (after table calls) := by
  induction calls generalizing table with
  | nil => exact keyed
  | cons call rest ih => exact ih (execute_keyed keyed call)

theorem mem_recorded (keyed : Keyed table) :
    token ∈ recorded table ↔ ∃ row, selectLease table = some row ∧ row.ownerToken = token := by
  cases held : selectLease table with
  | none => simp [recorded_none keyed held]
  | some row => simp [recorded_some keyed held, eq_comm]

/-- A call records no token but the one that it draws. -/
theorem recorded_execute (keyed : Keyed table) (inside : token ∈ recorded (execute table call).1) :
    token ∈ recorded table ∨ token ∈ drawn [call] := by
  obtain ⟨row, held, owner⟩ := (mem_recorded (execute_keyed keyed call)).mp inside
  cases call with
  | acquire ownerRunId leaseSeconds allowStaleTakeover other now =>
      rcases acquire_cases keyed rfl with ⟨-, -, -, -, taken, held', owner', -⟩ | ⟨-, same, -⟩
      · obtain rfl := Option.some.inj (held.symm.trans held')
        exact .inr (by simp [← owner, owner'])
      · rw [execute, same] at inside
        exact .inl inside
  | heartbeat other leaseSeconds now =>
      rcases heartbeat_cases keyed rfl with ⟨before, found, -, -, -, held'⟩ | ⟨-, same⟩
      · obtain rfl := Option.some.inj (held.symm.trans held')
        exact .inl ((mem_recorded keyed).mpr ⟨before, found, owner⟩)
      · rw [execute, same] at inside
        exact .inl inside
  | release other =>
      rcases release_cases keyed rfl with ⟨-, -, -, -, gone⟩ | ⟨-, same⟩
      · rw [execute, gone] at held
        cases held
      · rw [execute, same] at inside
        exact .inl inside

theorem recorded_after (keyed : Keyed table) (inside : token ∈ recorded (after table calls)) :
    token ∈ recorded table ∨ token ∈ drawn calls := by
  induction calls generalizing table with
  | nil => exact .inl inside
  | cons call rest ih =>
      rw [← List.singleton_append, drawn_append]
      rcases ih (execute_keyed keyed call) inside with earlier | later
      · exact (recorded_execute keyed earlier).imp id (List.mem_append_left _)
      · exact .inr (List.mem_append_right _ later)

/-- What takes a lease from its owner: the owner's release, or a takeover that finds it expired. -/
def Ends (row : Lease) (call : Call) : Prop :=
  call = .release row.ownerToken ∨
    ∃ ownerRunId leaseSeconds other now, call = .acquire ownerRunId leaseSeconds true other now ∧ row.expiresAt ≤ now

theorem execute_owner (keyed : Keyed table) (held : selectLease table = some row) (call : Call) :
    row.ownerToken ∈ recorded (execute table call).1 ∨ Ends row call := by
  have still (same : (execute table call).1 = table) : row.ownerToken ∈ recorded (execute table call).1 := by
    rw [same, recorded_some keyed held]
    exact List.mem_singleton_self _
  cases call with
  | acquire ownerRunId leaseSeconds allowStaleTakeover other now =>
      rcases acquire_cases keyed rfl with ⟨-, -, missed | ⟨found, held', allowed, expired⟩, -⟩ | ⟨-, same, -⟩
      · rw [missed] at held
        cases held
      · obtain rfl := Option.some.inj (held.symm.trans held')
        exact .inr (.inr ⟨ownerRunId, leaseSeconds, other, now,
            congrArg (Call.acquire ownerRunId leaseSeconds · other now) allowed, expired⟩)
      · exact .inl (still same)
  | heartbeat other leaseSeconds now =>
      rcases heartbeat_cases keyed rfl with ⟨found, held', -, -, next, renewed⟩ | ⟨-, same⟩
      · obtain rfl := Option.some.inj (held.symm.trans held')
        exact .inl ((mem_recorded next).mpr ⟨_, renewed, rfl⟩)
      · exact .inl (still (congrArg Prod.fst same))
  | release other =>
      rcases release_cases keyed rfl with ⟨found, held', owner, -⟩ | ⟨-, same⟩
      · obtain rfl := Option.some.inj (held.symm.trans held')
        exact .inr (.inl (by rw [owner]))
      · exact .inl (still same)

end

variable {table : Table} {calls : List Call}

/-- What the lease gives along a run, whatever calls of whatever owners it interleaves. -/
structure SingleFlight (table : Table) (calls : List Call) : Prop where
  oneOwner : ∀ before later, calls = before ++ later → (recorded (after table before)).length ≤ 1
  acquires : ∀ before ownerRunId leaseSeconds allowStaleTakeover token now later,
    calls = before ++ .acquire ownerRunId leaseSeconds allowStaleTakeover token now :: later →
      ((execute (after table before) (.acquire ownerRunId leaseSeconds allowStaleTakeover token now)).2 =
        .acquired token ↔
        0 < leaseSeconds ∧ Available (after table before) allowStaleTakeover now)
  stays : ∀ before middle later token, calls = before ++ middle ++ later → token ∈ recorded (after table before) →
    token ∈ recorded (after table (before ++ middle)) ∨
      ∃ earlier call rest row, middle = earlier ++ call :: rest ∧
        selectLease (after table (before ++ earlier)) = some row ∧ row.ownerToken = token ∧ Ends row call
  superseded : ∀ before middle later token, calls = before ++ middle ++ later → token ∈ recorded (after table before) →
    token ∉ recorded (after table (before ++ middle)) →
      (∀ leaseSeconds now, execute (after table calls) (.heartbeat token leaseSeconds now) =
        (after table calls, .ownershipLost)) ∧
        (execute (after table calls) (.release token)).1 = after table calls

/-- An owner keeps its lease through a run that contains no end of it. -/
theorem owner_stays (keyed : Keyed table) {token : String} (owner : token ∈ recorded table) (calls : List Call) :
    token ∈ recorded (after table calls) ∨
      ∃ earlier call rest row, calls = earlier ++ call :: rest ∧ selectLease (after table earlier) = some row ∧
        row.ownerToken = token ∧ Ends row call := by
  induction calls generalizing table with
  | nil => exact .inl owner
  | cons call rest ih =>
      obtain ⟨row, held, rfl⟩ := (mem_recorded keyed).mp owner
      rcases execute_owner keyed held call with kept | ends
      · rcases ih (execute_keyed keyed call) kept with stays | ⟨earlier, last, later, lost, rfl, found, owned, ends⟩
        · exact .inl stays
        · exact .inr ⟨call :: earlier, last, later, lost, rfl, found, owned, ends⟩
      · exact .inr ⟨[], call, rest, row, rfl, held, rfl, ends⟩

/-- A takeover of an expired lease, with the first owner waking up behind it. -/
def takeover : List Call :=
  [.acquire "run-1" 60 false "first" 0, .acquire "run-2" 60 true "second" 60000000, .heartbeat "first" 60 61000000,
    .release "first"]

end AutonomousApi.ControlPlaneLease
