import AutonomousApi.SessionManager

/-! Accounts, second factors and logins (identity/auth/service.py, email_authenticator.py,
mfa_authenticator.py and totp.py over the stores of identity/stores/memory.py). The password hasher
is injected, as in the source; `hotp` is the six-digit code of a secret at a counter. The stores
never suspend, so a call is one step; it carries what it draws and the clock readings that it makes. -/

namespace AutonomousApi.Authentication

open OrderedMap
open SessionManager (Session SessionStore)

structure Principal where
  principalId : String
  email : String
  displayName : String := ""
  deriving DecidableEq

structure StoredUser where
  principal : Principal
  passwordHash : String
  mfaSecretB32 : Option String := none
  mfaConfirmed : Bool := false
  recoveryCodeHashes : List String := []

abbrev UserStore := Dict String StoredUser

structure Hasher where
  hash : (password salt : String) → String
  verify : (password stored : String) → Bool

inductive LoginResult where
  | authenticated (mfaRequired : Bool) (principal : Principal)
  | error (text : String)

inductive LoginOutcome where
  | session (session : Session)
  | mfaRequired (challengeId : String) (principal : Principal)
  | failed (error : String)

section

variable (hasher : Hasher) (hotp : String → Int → String)

def put (users : UserStore) (user : StoredUser) : UserStore := assign users user.principal.email user

/-- Nothing where the principal does not validate, which is before anything is stored. -/
def register (users : UserStore) (email password principalId salt : String) : Option (Principal × UserStore) :=
  if email = "" then none
  else
    let principal : Principal := ⟨principalId, email, String.ofList (email.toList.takeWhile (· ≠ '@'))⟩
    some (principal, put users { principal, passwordHash := hasher.hash password salt })

def emailLogin (users : UserStore) (email password : String) : LoginResult :=
  match get users email with
  | none => .error "user_not_found"
  | some user =>
      if hasher.verify password user.passwordHash then .authenticated user.mfaConfirmed user.principal
      else .error "invalid_password"

/-- Nothing where comparing a text that is not ASCII raises. -/
def verifyTotp (secret code : String) (clock : Int) (window : Nat := 1) : Option Bool :=
  if code.toList.all fun letter => letter.toNat < 128 then
    some ((List.range (2 * window + 1)).any fun step => hotp secret (clock / 30 - window + step) == code)
  else none

def enroll (users : UserStore) (principal : Principal) (secret : String) : UserStore :=
  match get users principal.email with
  | none => users
  | some user => put users { user with mfaSecretB32 := some secret }

/-- The challenge and the code are not looked at. -/
def confirmAndActivate (users : UserStore) (principal : Principal) (_challengeId _code : String)
    (recoveryCodeHashes : List String) : Bool × UserStore :=
  if recoveryCodeHashes.isEmpty then (false, users)
  else
    match get users principal.email with
    | none => (false, users)
    | some user => (true, put users { user with mfaConfirmed := true, recoveryCodeHashes })

/-- Nothing where the time-based check raises. -/
def verify (users : UserStore) (principal : Principal) (_challengeId code : String) (clock : Int) :
    Option (Bool × UserStore) :=
  match get users principal.email with
  | none => some (false, users)
  | some user =>
      match user.mfaSecretB32 with
      | none => some (false, users)
      | some secret =>
          match verifyTotp hotp secret code clock with
          | none => none
          | some true => some (true, users)
          | some false =>
              if code ∈ user.recoveryCodeHashes then
                some (true, put users { user with recoveryCodeHashes := user.recoveryCodeHashes.erase code })
              else some (false, users)

/-- The time to live that the service asks for, in seconds. -/
def ttl : Int := 3600

def login (users : UserStore) (sessions : SessionStore) (email password challengeId sessionId : String)
    (now expires : Int) : LoginOutcome × SessionStore :=
  match emailLogin hasher users email password with
  | .authenticated true principal => (.mfaRequired challengeId principal, sessions)
  | .authenticated false principal =>
      let created := SessionManager.create sessions principal.principalId [] (some ttl) sessionId now expires
      (.session created.1, created.2)
  | .error text => (.failed text, sessions)

def completeMfa (users : UserStore) (sessions : SessionStore) (principal : Principal) (challengeId code : String)
    (clock : Int) (sessionId : String) (now expires : Int) : Option (LoginOutcome × UserStore × SessionStore) :=
  match verify hotp users principal challengeId code clock with
  | none => none
  | some (false, users) => some (.failed "mfa_failed", users, sessions)
  | some (true, users) =>
      let created := SessionManager.create sessions principal.principalId [] (some ttl) sessionId now expires
      some (.session created.1, users, created.2)

inductive Action where
  | register (email password principalId salt : String)
  | login (email password challengeId sessionId : String) (now expires : Int)
  | completeMfa (principal : Principal) (challengeId code : String) (clock : Int) (sessionId : String)
      (now expires : Int)
  | logout (sessionId : String)
  | rotate (sessionId newId : String) (now expires : Int)
  | enroll (principal : Principal) (secret : String) (codes : List String) (challengeId : String)
  | confirmAndActivate (principal : Principal) (challengeId code : String) (recoveryCodeHashes : List String)
  | verify (principal : Principal) (challengeId code : String) (clock : Int)

/-- What a run has shown: the password of an account was accepted, recovery codes were issued to a
principal, a code was accepted for an account (`totp` when it is its time-based code). -/
inductive Event where
  | loggedIn (principal : Principal)
  | issued (principalId : String) (codes : List String)
  | accepted (principalId code : String) (totp : Bool)

/-- The events come with the latest first; no operation reads them. -/
structure State where
  users : UserStore := []
  sessions : SessionStore := []
  events : List Event := []

inductive Outcome where
  | principal (principal : Principal)
  | login (outcome : LoginOutcome)
  | session (session : Session)
  | kit (challengeId secret : String) (codes : List String)
  | verdict (verdict : Bool)
  | done
  | raised

/-- The code is the current one of the secret that the account has. -/
def TotpValid (user : StoredUser) (code : String) (clock : Int) : Prop :=
  ∃ secret, user.mfaSecretB32 = some secret ∧ verifyTotp hotp secret code clock = some true

instance (user : StoredUser) (code : String) (clock : Int) : Decidable (TotpValid hotp user code clock) :=
  match held : user.mfaSecretB32 with
  | none => isFalse (by rintro ⟨secret, same, -⟩; rw [held] at same; cases same)
  | some secret => decidable_of_iff (verifyTotp hotp secret code clock = some true) (by simp [TotpValid, held])

def acceptance (users : UserStore) (principal : Principal) (code : String) (clock : Int) : List Event :=
  match get users principal.email, verify hotp users principal "" code clock with
  | some user, some (true, _) => [.accepted user.principal.principalId code (decide (TotpValid hotp user code clock))]
  | _, _ => []

def seen (users : UserStore) : Action → List Event
  | .login email password .. =>
      match emailLogin hasher users email password with
      | .authenticated _ principal => [.loggedIn principal]
      | .error _ => []
  | .enroll principal _ codes _ => [.issued principal.principalId codes]
  | .completeMfa principal _ code clock .. => acceptance hotp users principal code clock
  | .verify principal _ code clock => acceptance hotp users principal code clock
  | _ => []

def step (state : State) (action : Action) : State × Outcome :=
  let events := seen hasher hotp state.users action ++ state.events
  match action with
  | .register email password principalId salt =>
      match register hasher state.users email password principalId salt with
      | some (principal, users) => ({ state with users, events }, .principal principal)
      | none => ({ state with events }, .raised)
  | .login email password challengeId sessionId now expires =>
      let answer := login hasher state.users state.sessions email password challengeId sessionId now expires
      ({ state with sessions := answer.2, events }, .login answer.1)
  | .completeMfa principal challengeId code clock sessionId now expires =>
      match completeMfa hotp state.users state.sessions principal challengeId code clock sessionId now expires with
      | some (outcome, users, sessions) => (⟨users, sessions, events⟩, .login outcome)
      | none => ({ state with events }, .raised)
  | .logout sessionId => ({ state with sessions := SessionManager.revoke state.sessions sessionId, events }, .done)
  | .rotate sessionId newId now expires =>
      match SessionManager.rotate state.sessions sessionId newId now expires with
      | some (session, sessions) => ({ state with sessions, events }, .session session)
      | none => ({ state with events }, .raised)
  | .enroll principal secret codes challengeId =>
      ({ state with users := enroll state.users principal secret, events }, .kit challengeId secret codes)
  | .confirmAndActivate principal challengeId code recoveryCodeHashes =>
      let answer := confirmAndActivate state.users principal challengeId code recoveryCodeHashes
      ({ state with users := answer.2, events }, .verdict answer.1)
  | .verify principal challengeId code clock =>
      match verify hotp state.users principal challengeId code clock with
      | some (verdict, users) => ({ state with users, events }, .verdict verdict)
      | none => ({ state with events }, .raised)

/-- Something holds at every step of a run. -/
def Along (holds : State → Action → Prop) (state : State) : List Action → Prop
  | [] => True
  | action :: rest => holds state action ∧ Along holds (step hasher hotp state action).1 rest

/-- The principal ids that a run draws. -/
def drawn : List Action → List String
  | [] => []
  | .register _ _ principalId _ :: rest => principalId :: drawn rest
  | _ :: rest => drawn rest

def created : Outcome → Option Session
  | .login (.session session) => some session
  | .session session => some session
  | _ => none

/-- The account that the principal has now was logged in to. -/
def LoggedIn (state : State) (principalId : String) : Prop :=
  ∃ user, get state.users user.principal.email = some user ∧ user.principal.principalId = principalId ∧
    .loggedIn user.principal ∈ state.events

def Confirmed (users : UserStore) (principalId : String) : Prop :=
  ∃ email user, get users email = some user ∧ user.principal.principalId = principalId ∧ user.mfaConfirmed = true

/-- A code was accepted that is time-based, or was issued to the principal and not accepted before. -/
def Verified (events : List Event) (principalId : String) : Prop :=
  ∃ later code totp earlier, events = later ++ .accepted principalId code totp :: earlier ∧
    (totp = true ∨ (∃ codes, .issued principalId codes ∈ earlier ∧ code ∈ codes) ∧
      ∀ again, .accepted principalId code again ∉ earlier)

def RotatesLive (state : State) (action : Action) (principalId : String) : Prop :=
  ∃ sessionId newId now expires old, action = .rotate sessionId newId now expires ∧
    get state.sessions sessionId = some old ∧ old.revoked = false ∧ old.principalId = principalId

/-- The code that an operation checks, for whom and when. -/
def coded : Action → Option (Principal × String × Int)
  | .completeMfa principal _ code clock .. => some (principal, code, clock)
  | .verify principal _ code clock => some (principal, code, clock)
  | _ => none

structure Justified (state : State) (action : Action) : Prop where
  preceded : ∀ session, created (step hasher hotp state action).2 = some session →
    LoggedIn (step hasher hotp state action).1 session.principalId ∨ RotatesLive state action session.principalId
  verified : ∀ session, created (step hasher hotp state action).2 = some session →
    Confirmed (step hasher hotp state action).1.users session.principalId →
      Verified (step hasher hotp state action).1.events session.principalId
  unhashed : ∀ principal code clock user users, coded action = some (principal, code, clock) →
    get state.users principal.email = some user → code ∈ user.recoveryCodeHashes →
      verify hotp state.users principal "" code clock = some (true, users) → TotpValid hotp user code clock
  kept : ∀ email password principalId salt user, action = .register email password principalId salt →
    get state.users email = some user → get (step hasher hotp state action).1.users email = some user

/-- A code that is not time-based is no stored entry of the account. -/
def Unstored (users : UserStore) (principal : Principal) (code : String) (clock : Int) : Prop :=
  ∀ user secret, get users principal.email = some user → user.mfaSecretB32 = some secret →
    verifyTotp hotp secret code clock = some false → code ∉ user.recoveryCodeHashes

/-- Registered emails are new; codes are never stored entries; a second factor is completed with a
principal that a login returned; sessions of a principal whose second factor was confirmed after they
began are not rotated before a code of that principal was accepted. -/
def Permitted (state : State) : Action → Prop
  | .register email .. => get state.users email = none
  | .completeMfa principal _ code clock .. =>
      Unstored hotp state.users principal code clock ∧
        ∀ user, get state.users principal.email = some user → TotpValid hotp user code clock →
          ∃ logged, .loggedIn logged ∈ state.events ∧ logged.principalId = principal.principalId ∧
            logged.email = principal.email
  | .verify principal _ code clock => Unstored hotp state.users principal code clock
  | .rotate sessionId .. =>
      ∀ session, get state.sessions sessionId = some session → Confirmed state.users session.principalId →
        Verified state.events session.principalId
  | _ => True

end

section

variable {hasher : Hasher} {hotp : String → Int → String} {state : State} {users next : UserStore}

theorem get_put (users : UserStore) (user : StoredUser) (wanted : String) :
    get (put users user) wanted = if user.principal.email = wanted then some user else get users wanted :=
  get_assign users user.principal.email wanted user

/-- The same accounts, with the same principals under the same emails. -/
structure Kept (users next : UserStore) : Prop where
  forward : ∀ email user, get users email = some user →
    ∃ later, get next email = some later ∧ later.principal = user.principal
  backward : ∀ email later, get next email = some later →
    ∃ user, get users email = some user ∧ later.principal = user.principal

theorem Kept.refl (users : UserStore) : Kept users users where
  forward _ user held := ⟨user, held, rfl⟩
  backward _ user held := ⟨user, held, rfl⟩

def Keyed (users : UserStore) : Prop := ∀ email user, get users email = some user → user.principal.email = email

/-- An account is written back under its own email. -/
theorem Kept.put {email : String} {user changed : StoredUser} (keyed : Keyed users) (held : get users email = some user)
    (same : changed.principal = user.principal) : Kept users (put users changed) := by
  have own : changed.principal.email = email := by rw [same, keyed email user held]
  refine ⟨fun wanted found stored => ?_, fun wanted found stored => ?_⟩
  · rw [get_put, own]
    by_cases here : email = wanted
    · rw [if_pos here]
      obtain rfl := Option.some.inj (held.symm.trans (here ▸ stored))
      exact ⟨changed, rfl, same⟩
    · exact ⟨found, by rw [if_neg here, stored], rfl⟩
  · rw [get_put, own] at stored
    by_cases here : email = wanted
    · rw [if_pos here] at stored
      obtain rfl := Option.some.inj stored
      exact ⟨user, here ▸ held, same⟩
    · rw [if_neg here] at stored
      exact ⟨found, stored, rfl⟩

theorem enroll_kept (keyed : Keyed users) (principal : Principal) (secret : String) :
    Kept users (enroll users principal secret) := by
  rw [enroll]
  cases held : get users principal.email with
  | none => exact .refl users
  | some user => exact .put keyed held rfl

theorem confirmAndActivate_kept (keyed : Keyed users) (principal : Principal) (challengeId code : String)
    (hashes : List String) : Kept users (confirmAndActivate users principal challengeId code hashes).2 := by
  rw [confirmAndActivate]
  by_cases empty : hashes.isEmpty = true
  · rw [if_pos empty]
    exact .refl users
  · rw [if_neg empty]
    cases held : get users principal.email with
    | none => exact .refl users
    | some user => exact .put keyed held rfl

variable {principal : Principal} {challengeId code email sessionId : String} {clock : Int} {user : StoredUser}
variable {session : Session} {action : Action}

/-- An accepted code is time-based, or an entry of the account that is taken out of it. -/
theorem verify_true (accepted : verify hotp users principal challengeId code clock = some (true, next)) :
    ∃ user secret, get users principal.email = some user ∧ user.mfaSecretB32 = some secret ∧
      (next = users ∧ verifyTotp hotp secret code clock = some true ∨
        verifyTotp hotp secret code clock = some false ∧ code ∈ user.recoveryCodeHashes ∧
          next = put users { user with recoveryCodeHashes := user.recoveryCodeHashes.erase code }) := by
  rw [verify] at accepted
  cases held : get users principal.email with
  | none => simp [held] at accepted
  | some user =>
      cases secretHeld : user.mfaSecretB32 with
      | none => simp [held, secretHeld] at accepted
      | some secret =>
          refine ⟨user, secret, rfl, secretHeld, ?_⟩
          simp only [held, secretHeld] at accepted
          cases checked : verifyTotp hotp secret code clock with
          | none => simp [checked] at accepted
          | some valid =>
              cases valid with
              | true =>
                  simp only [checked, Option.some.injEq, Prod.mk.injEq, true_and] at accepted
                  exact .inl ⟨accepted.symm, rfl⟩
              | false =>
                  simp only [checked] at accepted
                  by_cases stored : code ∈ user.recoveryCodeHashes
                  · simp only [stored, ↓reduceIte, Option.some.injEq, Prod.mk.injEq, true_and] at accepted
                    exact .inr ⟨rfl, stored, by rw [← accepted, secretHeld]⟩
                  · simp [stored] at accepted

theorem verify_false
    (refused : verify hotp users principal challengeId code clock = some (false, next)) : next = users := by
  rw [verify] at refused
  split at refused
  · simpa using refused.symm
  · split at refused
    · simpa using refused.symm
    · split at refused
      · cases refused
      · simp at refused
      · split at refused
        · simp at refused
        · simpa using refused.symm

/-- A code that is not a stored entry is accepted only as a time-based one, and changes nothing. -/
theorem verify_unstored (unstored : Unstored hotp users principal code clock)
    (accepted : verify hotp users principal challengeId code clock = some (true, next)) :
    next = users ∧ ∃ user, get users principal.email = some user ∧ TotpValid hotp user code clock := by
  obtain ⟨user, secret, held, known, ⟨rfl, valid⟩ | ⟨invalid, stored, -⟩⟩ := verify_true accepted
  · exact ⟨rfl, user, held, secret, known, valid⟩
  · exact absurd stored (unstored user secret held known invalid)

theorem emailLogin_authenticated {password : String} {mfaRequired : Bool}
    (accepted : emailLogin hasher users email password = .authenticated mfaRequired principal) :
    ∃ user, get users email = some user ∧ user.principal = principal ∧ user.mfaConfirmed = mfaRequired := by
  rw [emailLogin] at accepted
  cases held : get users email with
  | none => simp [held] at accepted
  | some user =>
      simp only [held] at accepted
      split at accepted
      · cases accepted
        exact ⟨user, rfl, rfl, rfl⟩
      · cases accepted

/-- What the stored accounts, the events and the sessions have to do with each other. -/
structure Consistent (state : State) : Prop where
  keyed : Keyed state.users
  distinct : ∀ email user other another, get state.users email = some user → get state.users other = some another →
    user.principal.principalId = another.principal.principalId → email = other
  current : ∀ principal, .loggedIn principal ∈ state.events →
    ∃ user, get state.users principal.email = some user ∧ user.principal = principal
  logged : ∀ sessionId session, get state.sessions sessionId = some session → LoggedIn state session.principalId

theorem consistent_empty : Consistent {} where
  keyed email user held := by cases held
  distinct email user other another held := by cases held
  current principal member := by cases member
  logged sessionId session held := by cases held

theorem LoggedIn.kept {next : State} {principalId : String} (logged : LoggedIn state principalId)
    (kept : ∀ email user, get state.users email = some user →
      ∃ later, get next.users email = some later ∧ later.principal = user.principal)
    (events : ∀ event ∈ state.events, event ∈ next.events) : LoggedIn next principalId := by
  obtain ⟨user, held, named, event⟩ := logged
  obtain ⟨later, stored, same⟩ := kept _ user held
  exact ⟨later, by rw [same, stored], by rw [same, named], by rw [same]; exact events _ event⟩

/-- A step that keeps the accounts, logs nobody in but holders of an account, and stores sessions
only for principals that were logged in. -/
theorem Consistent.of_kept {next : State} (consistent : Consistent state) (kept : Kept state.users next.users)
    (events : ∀ event ∈ state.events, event ∈ next.events)
    (current : ∀ principal, .loggedIn principal ∈ next.events → .loggedIn principal ∈ state.events ∨
      ∃ user, get state.users principal.email = some user ∧ user.principal = principal)
    (sessions : ∀ sessionId session, get next.sessions sessionId = some session →
      LoggedIn next session.principalId ∨ ∃ old, get state.sessions sessionId = some old ∧
        old.principalId = session.principalId) : Consistent next where
  keyed email later stored := by
    obtain ⟨user, held, same⟩ := kept.backward email later stored
    rw [same, consistent.keyed email user held]
  distinct email later other another stored storedOther shared := by
    obtain ⟨user, held, same⟩ := kept.backward email later stored
    obtain ⟨holder, heldOther, sameOther⟩ := kept.backward other another storedOther
    rw [same, sameOther] at shared
    exact consistent.distinct email user other holder held heldOther shared
  current principal member := by
    have holder : ∃ user, get state.users principal.email = some user ∧ user.principal = principal :=
      (current principal member).elim (consistent.current principal) id
    obtain ⟨user, held, same⟩ := holder
    obtain ⟨later, stored, unchanged⟩ := kept.forward _ user held
    exact ⟨later, stored, unchanged.trans same⟩
  logged sessionId session stored := by
    rcases sessions sessionId session stored with now | ⟨old, held, same⟩
    · exact now
    · rw [← same]
      exact (consistent.logged sessionId old held).kept kept.forward events

/-- An account under a new email with a new principal. -/
theorem Consistent.put_new (consistent : Consistent state) (unknown : get state.users user.principal.email = none)
    (fresh : ∀ email held, get state.users email = some held →
      held.principal.principalId ≠ user.principal.principalId) :
    Consistent { state with users := put state.users user } := by
  have old (email : String) (held : StoredUser) (stored : get state.users email = some held) :
      get (put state.users user) email = some held := by
    rw [get_put]
    by_cases here : user.principal.email = email
    · rw [here, stored] at unknown
      cases unknown
    · rw [if_neg here, stored]
  have split (email : String) (found : StoredUser) (stored : get (put state.users user) email = some found) :
      user.principal.email = email ∧ found = user ∨ get state.users email = some found := by
    rw [get_put] at stored
    by_cases here : user.principal.email = email
    · rw [if_pos here] at stored
      exact .inl ⟨here, (Option.some.inj stored).symm⟩
    · rw [if_neg here] at stored
      exact .inr stored
  refine ⟨fun email found stored => ?_, fun email found other another stored storedOther shared => ?_,
    fun principal member => ?_, fun sessionId session stored => ?_⟩
  · rcases split email found stored with ⟨here, rfl⟩ | held
    · exact here
    · exact consistent.keyed email found held
  · rcases split email found stored with ⟨here, rfl⟩ | held <;>
      rcases split other another storedOther with ⟨there, rfl⟩ | heldOther
    · exact here.symm.trans there
    · exact absurd shared.symm (fresh other another heldOther)
    · exact absurd shared (fresh email found held)
    · exact consistent.distinct email found other another held heldOther shared
  · obtain ⟨found, held, same⟩ := consistent.current principal member
    exact ⟨found, old _ found held, same⟩
  · exact (consistent.logged sessionId session stored).kept (fun email found held => ⟨found, old email found held, rfl⟩)
      fun _ member => member

theorem sessions_revoke {sessions : SessionStore} {wanted : String}
    (stored : get (SessionManager.revoke sessions sessionId) wanted = some session) :
    ∃ old, get sessions wanted = some old ∧ old.principalId = session.principalId := by
  rw [SessionManager.get_revoke] at stored
  by_cases here : sessionId = wanted
  · rw [if_pos here, Option.map_eq_some_iff] at stored
    obtain ⟨old, held, rfl⟩ := stored
    exact ⟨old, held, rfl⟩
  · rw [if_neg here] at stored
    exact ⟨session, stored, rfl⟩

theorem step_events (state : State) (action : Action) :
    (step hasher hotp state action).1.events = seen hasher hotp state.users action ++ state.events := by
  cases action with
  | register email password principalId salt =>
      rw [step]
      cases register hasher state.users email password principalId salt <;> rfl
  | completeMfa principal challengeId code clock sessionId now expires =>
      rw [step]
      cases completeMfa hotp state.users state.sessions principal challengeId code clock sessionId now expires <;> rfl
  | rotate sessionId newId now expires =>
      rw [step]
      cases SessionManager.rotate state.sessions sessionId newId now expires <;> rfl
  | verify principal challengeId code clock =>
      rw [step]
      cases verify hotp state.users principal challengeId code clock <;> rfl
  | login => rfl
  | logout => rfl
  | enroll => rfl
  | confirmAndActivate => rfl

theorem loggedIn_not_accepted {holder : Principal} :
    .loggedIn holder ∉ acceptance hotp users principal code clock := by
  rw [acceptance]
  split <;> simp

/-- Only holders of an account are logged in. -/
theorem seen_loggedIn (keyed : Keyed users) (member : .loggedIn principal ∈ seen hasher hotp users action) :
    ∃ user, get users principal.email = some user ∧ user.principal = principal := by
  cases action with
  | login email password challengeId sessionId now expires =>
      rw [seen] at member
      cases answered : emailLogin hasher users email password with
      | error text => simp [answered] at member
      | authenticated mfaRequired holder =>
          simp only [answered, List.mem_singleton, Event.loggedIn.injEq] at member
          obtain ⟨user, held, same, -⟩ := emailLogin_authenticated answered
          exact ⟨user, by rwa [member, ← same, keyed email user held], same.trans member.symm⟩
  | completeMfa principal challengeId code clock => exact absurd member loggedIn_not_accepted
  | verify principal challengeId code clock => exact absurd member loggedIn_not_accepted
  | enroll => simp [seen] at member
  | register => simp [seen] at member
  | logout => simp [seen] at member
  | rotate => simp [seen] at member
  | confirmAndActivate => simp [seen] at member

/-- A login shows that the account was logged in to. -/
theorem login_loggedIn {password : String} {now expires : Int} {mfaRequired : Bool} (keyed : Keyed state.users)
    (accepted : emailLogin hasher state.users email password = .authenticated mfaRequired principal) :
    LoggedIn (step hasher hotp state (.login email password challengeId sessionId now expires)).1
      principal.principalId := by
  obtain ⟨user, held, same, -⟩ := emailLogin_authenticated accepted
  refine ⟨user, ?_, by rw [same], ?_⟩
  · rw [keyed email user held]
    exact held
  · rw [step_events, seen, accepted, same]
    exact List.mem_append_left _ (List.mem_singleton_self _)

/-- An accepted code of a permitted second step is that of the account which was logged in to. -/
theorem completeMfa_loggedIn {now expires : Int} (consistent : Consistent state)
    (permitted : Permitted hotp state (.completeMfa principal challengeId code clock sessionId now expires))
    (accepted : verify hotp state.users principal challengeId code clock = some (true, next)) :
    ∃ user, get state.users principal.email = some user ∧ user.principal.principalId = principal.principalId ∧
      TotpValid hotp user code clock ∧ .loggedIn user.principal ∈ state.events := by
  obtain ⟨-, user, held, valid⟩ := verify_unstored permitted.1 accepted
  obtain ⟨logged, event, named, addressed⟩ := permitted.2 user held valid
  obtain ⟨holder, stored, rfl⟩ := consistent.current logged event
  obtain rfl := Option.some.inj (held.symm.trans (addressed ▸ stored))
  exact ⟨user, held, named, valid, event⟩

/-- Only a registration adds an account or changes a principal. -/
theorem users_step {action : Action} (keyed : Keyed state.users) (permitted : Permitted hotp state action)
    (undrawn : drawn [action] = []) : Kept state.users (step hasher hotp state action).1.users := by
  have checked {principal : Principal} {challengeId code : String} {clock : Int} {verdict : Bool} {users : UserStore}
      (unstored : Unstored hotp state.users principal code clock)
      (answer : verify hotp state.users principal challengeId code clock = some (verdict, users)) :
      users = state.users := by
    cases verdict with
    | false => exact verify_false answer
    | true => exact (verify_unstored unstored answer).1
  cases action with
  | register => cases undrawn
  | login => exact .refl _
  | logout => exact .refl _
  | rotate sessionId newId now expires =>
      rw [step]
      cases SessionManager.rotate state.sessions sessionId newId now expires <;> exact .refl _
  | enroll principal secret codes challengeId => exact enroll_kept keyed principal secret
  | confirmAndActivate principal challengeId code hashes =>
      exact confirmAndActivate_kept keyed principal challengeId code hashes
  | completeMfa principal challengeId code clock sessionId now expires =>
      rw [step, completeMfa]
      cases answer : verify hotp state.users principal challengeId code clock with
      | none => exact .refl _
      | some answered =>
          obtain ⟨verdict, users⟩ := answered
          obtain rfl := checked permitted.1 answer
          cases verdict <;> exact .refl _
  | verify principal challengeId code clock =>
      rw [step]
      cases answer : verify hotp state.users principal challengeId code clock with
      | none => exact .refl _
      | some answered =>
          obtain ⟨verdict, users⟩ := answered
          obtain rfl := checked permitted answer
          exact .refl _

/-- What a step stores under a session id, seen from before the step. -/
theorem sessions_step {wanted : String}
    (stored : get (step hasher hotp state action).1.sessions wanted = some session) :
    created (step hasher hotp state action).2 = some session ∨
      ∃ old, get state.sessions wanted = some old ∧ old.principalId = session.principalId := by
  have made {sessions : SessionStore} {principalId sessionId : String} {grants : List String} {ttl : Option Int}
      {now expires : Int}
      (held : get (SessionManager.create sessions principalId grants ttl sessionId now expires).2 wanted =
        some session) :
      (SessionManager.create sessions principalId grants ttl sessionId now expires).1 = session ∨
        get sessions wanted = some session := by
    rw [SessionManager.get_create] at held
    by_cases here : sessionId = wanted
    · rw [if_pos here] at held
      exact .inl (Option.some.inj held)
    · rw [if_neg here] at held
      exact .inr held
  cases action with
  | login email password challengeId sessionId now expires =>
      rw [step] at stored ⊢
      cases answered : emailLogin hasher state.users email password with
      | error text =>
          simp only [login, answered] at stored
          exact .inr ⟨session, stored, rfl⟩
      | authenticated mfaRequired principal =>
          cases mfaRequired with
          | true =>
              simp only [login, answered] at stored
              exact .inr ⟨session, stored, rfl⟩
          | false =>
              simp only [login, answered] at stored ⊢
              exact (made stored).imp (congrArg some) fun held => ⟨session, held, rfl⟩
  | completeMfa principal challengeId code clock sessionId now expires =>
      rw [step] at stored ⊢
      cases checked : verify hotp state.users principal challengeId code clock with
      | none =>
          simp only [completeMfa, checked] at stored
          exact .inr ⟨session, stored, rfl⟩
      | some answer =>
          obtain ⟨verdict, users⟩ := answer
          cases verdict with
          | false =>
              simp only [completeMfa, checked] at stored
              exact .inr ⟨session, stored, rfl⟩
          | true =>
              simp only [completeMfa, checked] at stored ⊢
              exact (made stored).imp (congrArg some) fun held => ⟨session, held, rfl⟩
  | rotate sessionId newId now expires =>
      rw [step, SessionManager.rotate] at stored ⊢
      cases held : get state.sessions sessionId with
      | none =>
          simp only [held] at stored
          exact .inr ⟨session, stored, rfl⟩
      | some old =>
          simp only [held] at stored ⊢
          exact (made stored).imp (congrArg some) sessions_revoke
  | logout sessionId => exact .inr (sessions_revoke stored)
  | register email password principalId salt =>
      rw [step] at stored
      split at stored <;> exact .inr ⟨session, stored, rfl⟩
  | verify principal challengeId code clock =>
      rw [step] at stored
      split at stored <;> exact .inr ⟨session, stored, rfl⟩
  | enroll => exact .inr ⟨session, stored, rfl⟩
  | confirmAndActivate => exact .inr ⟨session, stored, rfl⟩

/-- The three ways to a new session. -/
theorem created_cases (made : created (step hasher hotp state action).2 = some session) :
    (∃ email password challengeId sessionId now expires principal,
      action = .login email password challengeId sessionId now expires ∧
        emailLogin hasher state.users email password = .authenticated false principal ∧
          session.principalId = principal.principalId) ∨
    (∃ principal challengeId code clock sessionId now expires users,
      action = .completeMfa principal challengeId code clock sessionId now expires ∧
        verify hotp state.users principal challengeId code clock = some (true, users) ∧
          session.principalId = principal.principalId) ∨
    (∃ sessionId newId now expires old, action = .rotate sessionId newId now expires ∧
      get state.sessions sessionId = some old ∧ session.principalId = old.principalId) := by
  cases action with
  | login email password challengeId sessionId now expires =>
      left
      rw [step] at made
      cases answered : emailLogin hasher state.users email password with
      | error text => simp [login, answered, created] at made
      | authenticated mfaRequired principal =>
          cases mfaRequired with
          | true => simp [login, answered, created] at made
          | false =>
              simp only [login, answered, created, Option.some.injEq] at made
              exact ⟨email, password, challengeId, sessionId, now, expires, principal, rfl,
                  answered, by rw [← made]; rfl⟩
  | completeMfa principal challengeId code clock sessionId now expires =>
      right; left
      rw [step] at made
      cases checked : verify hotp state.users principal challengeId code clock with
      | none => simp [completeMfa, checked, created] at made
      | some answer =>
          obtain ⟨verdict, users⟩ := answer
          cases verdict with
          | false => simp [completeMfa, checked, created] at made
          | true =>
              simp only [completeMfa, checked, created, Option.some.injEq] at made
              exact ⟨principal, challengeId, code, clock, sessionId, now, expires, users, rfl, checked,
                by rw [← made]; rfl⟩
  | rotate sessionId newId now expires =>
      right; right
      rw [step, SessionManager.rotate] at made
      cases held : get state.sessions sessionId with
      | none => simp [held, created] at made
      | some old =>
          simp only [held, created, Option.some.injEq] at made
          exact ⟨sessionId, newId, now, expires, old, rfl, held, by rw [← made]; rfl⟩
  | register email password principalId salt =>
      rw [step] at made
      split at made <;> cases made
  | verify principal challengeId code clock =>
      rw [step] at made
      split at made <;> cases made
  | logout => cases made
  | enroll => cases made
  | confirmAndActivate => cases made

/-- A time-based code that an account's second factor accepts. -/
theorem verified_acceptance
    {events : List Event} (held : get users principal.email = some user) (valid : TotpValid hotp user code clock)
    (accepted : verify hotp users principal challengeId code clock = some (true, next)) :
    Verified (acceptance hotp users principal code clock ++ events) user.principal.principalId := by
  have again : verify hotp users principal "" code clock = some (true, next) := accepted
  refine ⟨[], code, true, events, ?_, .inl rfl⟩
  simp only [acceptance, held, again, valid, decide_true, List.singleton_append, List.nil_append]

theorem Verified.append {events : List Event} {principalId : String} (verified : Verified events principalId)
    (more : List Event) : Verified (more ++ events) principalId := by
  obtain ⟨later, code, totp, earlier, split, proper⟩ := verified
  exact ⟨more ++ later, code, totp, earlier, by rw [split, List.append_assoc], proper⟩

theorem preceded_step (consistent : Consistent state)
    (permitted : Permitted hotp state action) (made : created (step hasher hotp state action).2 = some session) :
    LoggedIn (step hasher hotp state action).1 session.principalId := by
  obtain ⟨email, password, challengeId, sessionId, now, expires, principal, rfl, answered, named⟩ |
    ⟨principal, challengeId, code, clock, sessionId, now, expires, users, rfl, checked, named⟩ |
    ⟨sessionId, newId, now, expires, old, rfl, held, named⟩ := created_cases made
  · rw [named]
    exact login_loggedIn consistent.keyed answered
  · obtain ⟨user, held, same, -, event⟩ := completeMfa_loggedIn consistent permitted checked
    obtain ⟨rfl, -⟩ := verify_unstored permitted.1 checked
    rw [named, ← same]
    simp only [step, completeMfa, checked]
    refine ⟨user, ?_, rfl, List.mem_append_right _ event⟩
    rw [consistent.keyed _ user held]
    exact held
  · rw [named]
    refine (consistent.logged sessionId old held).kept (fun email user stored => ⟨user, ?_, rfl⟩) fun event member => ?_
    · simp only [step, SessionManager.rotate, held]
      exact stored
    · rw [step_events]
      exact List.mem_append_right _ member

theorem consistent_step {action : Action} (consistent : Consistent state) (permitted : Permitted hotp state action)
    (fresh : ∀ principalId ∈ drawn [action], ∀ email held, get state.users email = some held →
      held.principal.principalId ≠ principalId) : Consistent (step hasher hotp state action).1 := by
  by_cases undrawn : drawn [action] = []
  · have kept := @users_step hasher hotp state action consistent.keyed permitted undrawn
    refine consistent.of_kept kept (fun event member => ?_)
        (fun principal member => ?_) fun sessionId session stored => ?_
    · rw [step_events]
      exact List.mem_append_right _ member
    · rw [step_events, List.mem_append] at member
      exact member.symm.imp id (seen_loggedIn consistent.keyed)
    · exact (sessions_step stored).imp (preceded_step consistent permitted) id
  · cases action with
    | register email password principalId salt =>
        rw [step, register]
        by_cases empty : email = ""
        · rw [if_pos empty]
          exact consistent
        · rw [if_neg empty]
          exact consistent.put_new permitted (fresh principalId (List.mem_singleton_self _))
    | _ => exact absurd rfl undrawn

theorem verified_step (consistent : Consistent state)
    (permitted : Permitted hotp state action) (made : created (step hasher hotp state action).2 = some session)
    (confirmed : Confirmed (step hasher hotp state action).1.users session.principalId) :
    Verified (step hasher hotp state action).1.events session.principalId := by
  obtain ⟨email, password, challengeId, sessionId, now, expires, principal, rfl, answered, named⟩ |
    ⟨principal, challengeId, code, clock, sessionId, now, expires, users, rfl, checked, named⟩ |
    ⟨sessionId, newId, now, expires, old, rfl, held, named⟩ := created_cases made
  · -- An account whose second factor is confirmed gets no session from its password alone.
    obtain ⟨user, held, rfl, unlocked⟩ := emailLogin_authenticated answered
    obtain ⟨other, another, stored, shared, closed⟩ := confirmed
    obtain rfl := consistent.distinct other another email user stored held (shared.trans named)
    obtain rfl := Option.some.inj (held.symm.trans stored)
    rw [unlocked] at closed
    cases closed
  · obtain ⟨user, held, same, valid, -⟩ := completeMfa_loggedIn consistent permitted checked
    rw [step_events, named, ← same]
    exact verified_acceptance held valid checked
  · rw [step_events, named]
    refine (permitted old held ?_).append _
    rw [← named]
    simpa only [step, SessionManager.rotate, held] using confirmed

theorem justified_step (consistent : Consistent state) (permitted : Permitted hotp state action) :
    Justified hasher hotp state action where
  preceded session made := .inl (preceded_step consistent permitted made)
  verified session made confirmed := verified_step consistent permitted made confirmed
  unhashed principal code clock user users coded held _ accepted := by
    have unstored : Unstored hotp state.users principal code clock := by
      cases action with
      | completeMfa => cases coded; exact permitted.1
      | verify => cases coded; exact permitted
      | _ => cases coded
    obtain ⟨-, holder, stored, valid⟩ := verify_unstored unstored accepted
    rwa [Option.some.inj (held.symm.trans stored)]
  kept email password principalId salt user registers held := by
    subst registers
    rw [permitted] at held
    cases held

/-- Every account belongs to a principal whose id was drawn. -/
theorem principal_step (keyed : Keyed state.users)
    (permitted : Permitted hotp state action) (held : get (step hasher hotp state action).1.users email = some user) :
    user.principal.principalId ∈ drawn [action] ∨
      ∃ earlier, get state.users email = some earlier ∧ user.principal = earlier.principal := by
  by_cases undrawn : drawn [action] = []
  · exact .inr ((users_step keyed permitted undrawn).backward email user held)
  · cases action with
    | register registered password principalId salt =>
        rw [step, register] at held
        by_cases empty : registered = ""
        · rw [if_pos empty] at held
          exact .inr ⟨user, held, rfl⟩
        · simp only [empty, ↓reduceIte] at held
          rw [get_put] at held
          by_cases here : registered = email
          · rw [if_pos here] at held
            rw [← Option.some.inj held]
            exact .inl (List.mem_singleton_self _)
          · rw [if_neg here] at held
            exact .inr ⟨user, held, rfl⟩
    | _ => exact absurd rfl undrawn

theorem drawn_cons (action : Action) (rest : List Action) : drawn (action :: rest) = drawn [action] ++ drawn rest := by
  cases action <;> rfl

/-- Every step of a permitted run is justified: the accounts, the events and the sessions stay
consistent, by induction on the run. -/
theorem justified_run {actions : List Action} (consistent : Consistent state) (distinct : (drawn actions).Nodup)
    (fresh : ∀ principalId ∈ drawn actions, ∀ email held, get state.users email = some held →
      held.principal.principalId ≠ principalId) (permitted : Along hasher hotp (Permitted hotp) state actions) :
    Along hasher hotp (Justified hasher hotp) state actions := by
  induction actions generalizing state with
  | nil => trivial
  | cons action rest ih =>
      rw [drawn_cons] at distinct fresh
      have next := @consistent_step hasher hotp state action consistent permitted.1
        fun principalId member => fresh principalId (List.mem_append_left _ member)
      refine ⟨justified_step consistent permitted.1, ih next (List.nodup_append.mp distinct).2.1 ?_ permitted.2⟩
      intro principalId member email user held same
      rcases principal_step consistent.keyed permitted.1 held with now | ⟨earlier, stored, kept⟩
      · exact (List.nodup_append.mp distinct).2.2 _ now _ member same
      · exact fresh principalId (List.mem_append_right _ member) email earlier stored (kept ▸ same)

end

variable {hasher : Hasher} {hotp : String → Int → String} {actions : List Action}

theorem authentication_sound (distinct : (drawn actions).Nodup)
    (permitted : Along hasher hotp (Permitted hotp) {} actions) :
    Along hasher hotp (Justified hasher hotp) {} actions :=
  justified_run consistent_empty distinct (fun _ _ _ _ held => by cases held) permitted

/-- A hasher for runs whose salt is always `00`. -/
def saltedHasher : Hasher :=
    ⟨fun password salt => salt ++ "$" ++ password, fun password stored => stored == "00$" ++ password⟩

def ann : Principal := ⟨"p-1", "ann@example.org", "ann"⟩

/-- A login with a password, a second factor, and a login with both. -/
def twoFactor : List Action :=
  [.register "ann@example.org" "pass" "p-1" "00", .login "ann@example.org" "pass" "c-0" "s-0" 0 1,
    .enroll ann "JBSWY3DP" ["0f0f0f0f-1e1e1e1e"] "c-1",
    .confirmAndActivate ann "c-1" "123456" ["446305e06e0383caca80c83bcec219bca672d46d295a58fc621db83bf1ede377"],
    .login "ann@example.org" "pass" "c-2" "s-1" 10 11, .completeMfa ann "c-2" "123456" 60 "s-2" 20 21, .logout "s-2"]

theorem two_factor_justified :
    Along saltedHasher (fun _ _ => "123456") (Justified saltedHasher fun _ _ => "123456") {} twoFactor := by
  refine authentication_sound (by decide) ⟨rfl, trivial, trivial, trivial, trivial, ⟨?_, ?_⟩, trivial, trivial⟩
  · intro user secret held known refused
    obtain rfl := Option.some.inj held
    obtain rfl := Option.some.inj known
    exact absurd refused (by decide)
  · intro user held valid
    exact ⟨⟨"p-1", "ann@example.org", _⟩, .head _, rfl, rfl⟩

/-- A second factor that is completed with the stored hash of a recovery code, without a password. -/
def hashAsCode : List Action :=
  [.register "ann@example.org" "pass" "p-1" "00", .enroll ann "JBSWY3DP" ["0f0f0f0f-1e1e1e1e"] "c-1",
    .confirmAndActivate ann "c-1" "123456" ["446305e06e0383caca80c83bcec219bca672d46d295a58fc621db83bf1ede377"],
    .completeMfa ann "c-2" "446305e06e0383caca80c83bcec219bca672d46d295a58fc621db83bf1ede377" 60 "s-1" 20 21]

theorem hash_as_code_unjustified : (drawn hashAsCode).Nodup ∧
    ¬ Along saltedHasher (fun _ _ => "123456") (Justified saltedHasher fun _ _ => "123456") {} hashAsCode := by
  refine ⟨by decide, fun along => ?_⟩
  obtain ⟨-, -, -, last, -⟩ := along
  obtain ⟨secret, known, valid⟩ := last.unhashed ann _ 60 _ _ rfl rfl (List.mem_singleton_self _) rfl
  obtain rfl := Option.some.inj known
  exact absurd valid (by decide)

end AutonomousApi.Authentication
