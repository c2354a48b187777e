import AutonomousApi.OrderedMap

/-! Sessions (identity/auth/session_manager.py over the store of identity/stores/memory.py).
The store never suspends, so an operation is one step; it carries the `uuid4` that it draws and
the clock readings that it makes. Times are the instants that the ISO texts of a session stand
for, in microseconds. -/

namespace AutonomousApi.SessionManager

open OrderedMap

structure Session where
  sessionId : String
  principalId : String
  activeGrants : List String
  createdAt : Int
  expiresAt : Int
  revoked : Bool := false
  deriving DecidableEq

abbrev SessionStore := Dict String Session

variable (store : SessionStore)

def put (session : Session) : SessionStore := assign store session.sessionId session

def revoke (sessionId : String) : SessionStore :=
  match get store sessionId with
  | some session => assign store sessionId { session with revoked := true }
  | none => store

/-- The second reading of the clock is the expiry; the time to live is not used. -/
def create (principalId : String) (grants : List String) (_ttl : Option Int) (sessionId : String) (now expires : Int) :
    Session × SessionStore :=
  let session : Session := { sessionId, principalId, activeGrants := grants, createdAt := now, expiresAt := expires }
  (session, put store session)

/-- Nothing where the source raises because there is no such session. -/
def rotate (sessionId newId : String) (now expires : Int) : Option (Session × SessionStore) :=
  match get store sessionId with
  | none => none
  | some old => some (create (revoke store sessionId) old.principalId old.activeGrants none newId now expires)

def validate (sessionId : String) : Option Session :=
  match get store sessionId with
  | none => none
  | some session => if session.revoked then none else some session

theorem get_revoke (sessionId wanted : String) :
    get (revoke store sessionId) wanted =
      if sessionId = wanted then (get store wanted).map fun session => { session with revoked := true }
      else get store wanted := by
  rw [revoke]
  cases held : get store sessionId with
  | none =>
      by_cases same : sessionId = wanted
      · simp [← same, held]
      · simp [same]
  | some session =>
      rw [get_assign]
      by_cases same : sessionId = wanted
      · simp [← same, held]
      · simp [same]

theorem get_put (session : Session) (wanted : String) :
    get (put store session) wanted = if session.sessionId = wanted then some session else get store wanted :=
  get_assign store session.sessionId wanted session

theorem validate_iff (sessionId : String) (session : Session) :
    validate store sessionId = some session ↔ get store sessionId = some session ∧ session.revoked = false := by
  rw [validate]
  cases get store sessionId with
  | none => simp
  | some held =>
      by_cases gone : held.revoked = true
      · simp only [gone, ↓reduceIte, Option.some.injEq, reduceCtorEq, false_iff, not_and, Bool.not_eq_false]
        rintro rfl
        exact gone
      · simp only [gone, Bool.false_eq_true, ↓reduceIte, Option.some.injEq]
        constructor
        · rintro rfl
          exact ⟨rfl, by simpa using gone⟩
        · exact And.left

section

inductive Action where
  | create (principalId : String) (grants : List String) (ttl : Option Int) (sessionId : String) (now expires : Int)
  | rotate (sessionId newId : String) (now expires : Int)
  | validate (sessionId : String) (now : Int)
  | logout (sessionId : String)

/-- The sessions, and for each session id the one that its chain of rotations began with. -/
structure State where
  store : SessionStore := []
  origin : Dict String String := []

inductive Outcome where
  | session (session : Session)
  | none
  | sessionNotFound

def step (state : State) : Action → State × Outcome
  | .create principalId grants ttl sessionId now expires =>
      let created := create state.store principalId grants ttl sessionId now expires
      (⟨created.2, assign state.origin sessionId sessionId⟩, .session created.1)
  | .rotate sessionId newId now expires =>
      match rotate state.store sessionId newId now expires with
      | some rotated =>
          (⟨rotated.2, assign state.origin newId ((get state.origin sessionId).getD sessionId)⟩, .session rotated.1)
      | none => (state, .sessionNotFound)
  | .validate sessionId _ =>
      match validate state.store sessionId with
      | some session => (state, .session session)
      | none => (state, .none)
  | .logout sessionId => (⟨revoke state.store sessionId, state.origin⟩, .none)

def after (state : State) (actions : List Action) : State :=
    actions.foldl (fun state action => (step state action).1) state

theorem after_append (state : State) (actions more : List Action) :
    after state (actions ++ more) = after (after state actions) more := List.foldl_append

/-- The session ids that a run draws. -/
def drawn : List Action → List String
  | [] => []
  | .create _ _ _ sessionId _ _ :: rest => sessionId :: drawn rest
  | .rotate _ newId _ _ :: rest => newId :: drawn rest
  | _ :: rest => drawn rest

attribute [local simp] drawn

theorem drawn_append (actions more : List Action) : drawn (actions ++ more) = drawn actions ++ drawn more := by
  induction actions with
  | nil => rfl
  | cons action rest ih => cases action <;> simp [ih]

/-- The id that an operation is given. -/
def given : Action → Option String
  | .create .. => none
  | .rotate sessionId .. => some sessionId
  | .validate sessionId _ => some sessionId
  | .logout sessionId => some sessionId

def Revoked (store : SessionStore) (sessionId : String) : Prop :=
  ∃ session, get store sessionId = some session ∧ session.revoked = true

def Live (store : SessionStore) (sessionId : String) : Prop :=
  ∃ session, get store sessionId = some session ∧ session.revoked = false

/-- The default time to live of the manager, in seconds. -/
def defaultTtl : Int := 3600

/-- The id of the session that an operation asks for, and the time until which it should live. -/
def requested : Action → Option (String × Int)
  | .create _ _ ttl sessionId now _ => some (sessionId, now + ttl.getD defaultTtl * 1000000)
  | .rotate _ newId now _ => some (newId, now + defaultTtl * 1000000)
  | _ => none

/-- What the claims of sessions come to along a run from an empty store. -/
structure Sound (actions : List Action) : Prop where
  terminal : ∀ before action later sessionId, actions = before ++ action :: later → given action = some sessionId →
    Revoked (after {} before).store sessionId →
      (∀ session, (step (after {} before) action).2 ≠ .session session) ∧
        ∀ other, Live (step (after {} before) action).1.store other → Live (after {} before).store other
  stays : ∀ before middle later sessionId, actions = before ++ middle ++ later →
    Revoked (after {} before).store sessionId → Revoked (after {} (before ++ middle)).store sessionId
  honest : ∀ before sessionId now later session, actions = before ++ .validate sessionId now :: later →
    (step (after {} before) (.validate sessionId now)).2 = .session session →
      session.revoked = false ∧ now ≤ session.expiresAt
  lasting : ∀ before action middle sessionId deadline now later created,
      actions = before ++ action :: middle ++ .validate sessionId now :: later →
    requested action = some (sessionId, deadline) → (step (after {} before) action).2 = .session created →
    now < deadline →
    ¬ Revoked (after {} (before ++ action :: middle)).store sessionId →
      ∃ session, (step (after {} (before ++ action :: middle)) (.validate sessionId now)).2 = .session session
  single : ∀ before later, actions = before ++ later → ∀ sessionId other, Live (after {} before).store sessionId →
    Live (after {} before).store other → get (after {} before).origin sessionId = get (after {} before).origin other →
      sessionId = other

/-- Rotations are asked of sessions that are not revoked, and validations of a live session come
before it expires. -/
def Permitted (state : State) : Action → Prop
  | .rotate sessionId _ _ _ => ¬ Revoked state.store sessionId
  | .validate sessionId now =>
      ∀ session, get state.store sessionId = some session → session.revoked = false → now ≤ session.expiresAt
  | _ => True

def AllPermitted (state : State) : List Action → Prop
  | [] => True
  | action :: rest => Permitted state action ∧ AllPermitted (step state action).1 rest

theorem allPermitted_append (state : State) (actions more : List Action) :
    AllPermitted state (actions ++ more) ↔ AllPermitted state actions ∧ AllPermitted (after state actions) more := by
  induction actions generalizing state with
  | nil => simp [AllPermitted, after]
  | cons action rest ih => simp only [List.cons_append, AllPermitted, ih, and_assoc, after, List.foldl_cons]

theorem allPermitted_of_split {state : State} {actions : List Action}
    (permitted : ∀ before action later, actions = before ++ action :: later → Permitted (after state before) action) :
    AllPermitted state actions := by
  induction actions generalizing state with
  | nil => trivial
  | cons action rest ih =>
      refine ⟨permitted [] action rest rfl, ih fun before next later split => ?_⟩
      exact permitted (action :: before) next later (by rw [split, List.cons_append])

end

section

variable {state : State} {action : Action} {actions : List Action} {sessionId other : String}

theorem get_create (store : SessionStore) (principalId : String) (grants : List String) (ttl : Option Int)
    (sessionId : String) (now expires : Int) (wanted : String) :
    get (create store principalId grants ttl sessionId now expires).2 wanted =
      if sessionId = wanted then some ⟨sessionId, principalId, grants, now, expires, false⟩ else get store wanted :=
  get_put store _ wanted

/-- What a step leaves under an id that it does not draw: the session, perhaps revoked. -/
theorem get_step (undrawn : sessionId ∉ drawn [action]) :
    get (step state action).1.store sessionId = get state.store sessionId ∨
      get (step state action).1.store sessionId =
        (get state.store sessionId).map fun session => { session with revoked := true } := by
  cases action with
  | create principalId grants ttl newId now expires =>
      have apart : newId ≠ sessionId := by simpa [drawn, eq_comm] using undrawn
      left
      rw [step, get_create, if_neg apart]
  | rotate oldId newId now expires =>
      have apart : newId ≠ sessionId := by simpa [drawn, eq_comm] using undrawn
      rw [step, rotate]
      cases held : get state.store oldId with
      | none => exact .inl rfl
      | some old =>
          dsimp only
          rw [get_create, if_neg apart, get_revoke]
          by_cases same : oldId = sessionId
          · exact .inr (if_pos same)
          · exact .inl (if_neg same)
  | validate validated now =>
      rw [step]
      cases validate state.store validated <;> exact .inl rfl
  | logout loggedOut =>
      rw [step, get_revoke]
      by_cases same : loggedOut = sessionId
      · exact .inr (if_pos same)
      · exact .inl (if_neg same)

theorem revoked_step (undrawn : sessionId ∉ drawn [action]) (gone : Revoked state.store sessionId) :
    Revoked (step state action).1.store sessionId := by
  obtain ⟨session, held, revoked⟩ := gone
  rcases @get_step state _ _ undrawn with same | marked
  · exact ⟨session, same.trans held, revoked⟩
  · exact ⟨_, by rw [marked, held]; rfl, rfl⟩

theorem stored_step (stored : (get (step state action).1.store sessionId).isSome) :
    (get state.store sessionId).isSome ∨ sessionId ∈ drawn [action] := by
  by_cases fresh : sessionId ∈ drawn [action]
  · exact .inr fresh
  · rcases @get_step state _ _ fresh with same | marked
    · exact .inl (same ▸ stored)
    · rw [marked, Option.isSome_map] at stored
      exact .inl stored

/-- Only ids that were drawn are stored. -/
theorem stored_after (stored : (get (after state actions).store sessionId).isSome) :
    (get state.store sessionId).isSome ∨ sessionId ∈ drawn actions := by
  induction actions generalizing state with
  | nil => exact .inl stored
  | cons action rest ih =>
      rw [← List.singleton_append, drawn_append]
      rcases ih stored with earlier | later
      · exact (stored_step earlier).imp id (List.mem_append_left _)
      · exact .inr (List.mem_append_right _ later)

theorem revoked_after (undrawn : sessionId ∉ drawn actions) (gone : Revoked state.store sessionId) :
    Revoked (after state actions).store sessionId := by
  induction actions generalizing state with
  | nil => exact gone
  | cons action rest ih =>
      rw [← List.singleton_append, drawn_append, List.mem_append, not_or] at undrawn
      exact ih undrawn.2 (revoked_step undrawn.1 gone)

/-- A stored session stays stored until its id is drawn again. -/
theorem present_after (undrawn : sessionId ∉ drawn actions) (stored : (get state.store sessionId).isSome) :
    (get (after state actions).store sessionId).isSome := by
  induction actions generalizing state with
  | nil => exact stored
  | cons action rest ih =>
      rw [← List.singleton_append, drawn_append, List.mem_append, not_or] at undrawn
      apply ih undrawn.2
      rcases @get_step state _ _ undrawn.1 with same | marked
      · rwa [same]
      · rwa [marked, Option.isSome_map]

/-- The session that was asked for is stored, and its id was drawn by the step. -/
theorem requested_step {deadline : Int} {created : Session} (asked : requested action = some (sessionId, deadline))
    (outcome : (step state action).2 = .session created) :
    drawn [action] = [sessionId] ∧ (get (step state action).1.store sessionId).isSome := by
  cases action with
  | create principalId grants ttl newId now expires =>
      cases asked
      refine ⟨rfl, ?_⟩
      rw [step, get_create, if_pos rfl]
      rfl
  | rotate oldId newId now expires =>
      cases asked
      refine ⟨rfl, ?_⟩
      rw [step, rotate] at outcome ⊢
      cases held : get state.store oldId with
      | none => simp [held] at outcome
      | some old =>
          dsimp only
          rw [get_create, if_pos rfl]
          rfl
  | validate validated now => cases asked
  | logout loggedOut => cases asked

/-- Sessions of one origin are revoked but for one; an origin is itself a session. -/
structure Lineage (state : State) : Prop where
  traced : ∀ sessionId, (get state.origin sessionId).isSome ↔ (get state.store sessionId).isSome
  rooted : ∀ sessionId root, get state.origin sessionId = some root → (get state.store root).isSome
  single : ∀ sessionId other, Live state.store sessionId → Live state.store other →
    get state.origin sessionId = get state.origin other → sessionId = other

theorem lineage_empty : Lineage {} where
  traced _ := Iff.rfl
  rooted sessionId root held := by cases held
  single sessionId other live := by
    obtain ⟨session, held, -⟩ := live
    cases held

/-- A session under a new id, with its origin, keeps the lineage if no live session shares it. -/
theorem Lineage.extend {store : SessionStore} {session : Session} {root : String} (lineage : Lineage state)
    (kept : ∀ id, (get store id).isSome = (get state.store id).isSome)
    (revoked : ∀ id, Live store id → Live state.store id)
    (known : root = session.sessionId ∨ (get state.store root).isSome)
    (alone : ∀ id, Live store id → get state.origin id ≠ some root) :
    Lineage ⟨put store session, assign state.origin session.sessionId root⟩ where
  traced id := by
    rw [get_put, get_assign]
    by_cases same : session.sessionId = id
    · simp [same]
    · simp only [same, ↓reduceIte]
      rw [lineage.traced, kept]
  rooted id found held := by
    rw [get_assign] at held
    rw [get_put]
    by_cases same : session.sessionId = found
    · simp [same]
    · rw [if_neg same, kept]
      by_cases new : session.sessionId = id
      · rw [if_pos new] at held
        obtain rfl := Option.some.inj held
        rcases known with rfl | present
        · exact absurd rfl same
        · exact present
      · rw [if_neg new] at held
        exact lineage.rooted id found held
  single id other live liveOther shared := by
    have old (name : String) (apart : session.sessionId ≠ name) (alive : Live (put store session) name) :
        Live store name := by
      rwa [Live, get_put, if_neg apart] at alive
    rw [get_assign, get_assign] at shared
    by_cases first : session.sessionId = id <;> by_cases second : session.sessionId = other
    · exact first.symm.trans second
    · rw [if_pos first, if_neg second] at shared
      exact absurd shared.symm (alone other (old other second liveOther))
    · rw [if_neg first, if_pos second] at shared
      exact absurd shared (alone id (old id first live))
    · rw [if_neg first, if_neg second] at shared
      exact lineage.single id other (revoked id (old id first live)) (revoked other (old other second liveOther)) shared

theorem live_revoke {store : SessionStore} (live : Live (revoke store sessionId) other) :
    Live store other ∧ sessionId ≠ other := by
  obtain ⟨session, held, alive⟩ := live
  rw [get_revoke] at held
  by_cases same : sessionId = other
  · rw [if_pos same, Option.map_eq_some_iff] at held
    obtain ⟨old, -, rfl⟩ := held
    cases alive
  · rw [if_neg same] at held
    exact ⟨⟨session, held, alive⟩, same⟩

theorem isSome_revoke (store : SessionStore) (sessionId wanted : String) :
    (get (revoke store sessionId) wanted).isSome = (get store wanted).isSome := by
  rw [get_revoke]
  by_cases same : sessionId = wanted <;> simp [same]

theorem lineage_step (lineage : Lineage state) (permitted : Permitted state action)
    (fresh : ∀ sessionId ∈ drawn [action], get state.store sessionId = none) : Lineage (step state action).1 := by
  cases action with
  | create principalId grants ttl newId now expires =>
      have new := fresh newId (by simp [drawn])
      refine lineage.extend (fun _ => rfl) (fun _ live => live) (.inl rfl) fun id live shared => ?_
      have stored := lineage.rooted id newId shared
      rw [new] at stored
      cases stored
  | rotate oldId newId now expires =>
      have new := fresh newId (by simp [drawn])
      rw [step, rotate]
      cases held : get state.store oldId with
      | none => exact lineage
      | some old =>
          have live : Live state.store oldId := by
            refine ⟨old, held, ?_⟩
            by_contra gone
            exact permitted ⟨old, held, by simpa using gone⟩
          obtain ⟨root, origin⟩ := Option.isSome_iff_exists.mp ((lineage.traced oldId).mpr (by rw [held]; rfl))
          dsimp only
          rw [origin, Option.getD_some]
          refine lineage.extend (isSome_revoke state.store oldId) (fun _ alive => (live_revoke alive).1)
            (.inr (lineage.rooted oldId root origin)) fun id alive shared => ?_
          obtain ⟨before, apart⟩ := live_revoke alive
          exact apart (lineage.single oldId id live before (origin.trans shared.symm))
  | validate validated now =>
      rw [step]
      cases validate state.store validated <;> exact lineage
  | logout loggedOut =>
      refine ⟨fun id => ?_, fun id root held => ?_, fun id other live liveOther shared => ?_⟩
      · rw [step, isSome_revoke]
        exact lineage.traced id
      · rw [step, isSome_revoke]
        exact lineage.rooted id root held
      · exact lineage.single id other (live_revoke live).1 (live_revoke liveOther).1 shared

theorem lineage_after (lineage : Lineage state) (permitted : AllPermitted state actions)
    (fresh : ∀ sessionId ∈ drawn actions, get state.store sessionId = none) (distinct : (drawn actions).Nodup) :
    Lineage (after state actions) := by
  induction actions generalizing state with
  | nil => exact lineage
  | cons action rest ih =>
      rw [← List.singleton_append, drawn_append] at fresh distinct
      have next := lineage_step lineage permitted.1 fun id member => fresh id (List.mem_append_left _ member)
      refine ih next permitted.2 (fun id member => ?_) (List.nodup_append.mp distinct).2.1
      by_contra stored
      rcases stored_step (Option.isSome_iff_ne_none.mpr stored) with earlier | now
      · rw [fresh id (List.mem_append_right _ member)] at earlier
        cases earlier
      · exact (List.nodup_append.mp distinct).2.2 id now id member rfl

end

variable {actions : List Action}

variable {state : State} {sessionId : String} {now : Int}

theorem rotate_session {newId : String} {expires : Int} (gone : Revoked state.store sessionId) :
    ∃ session, (step state (.rotate sessionId newId now expires)).2 = .session session := by
  obtain ⟨old, held, -⟩ := gone
  rw [step, rotate, held]
  exact ⟨_, rfl⟩

theorem validate_outcome {session : Session} :
    (step state (.validate sessionId now)).2 = .session session ↔ validate state.store sessionId = some session := by
  rw [step]
  cases validate state.store sessionId <;> simp

/-- Sessions behave as claimed along a run exactly when the run never rotates a revoked session
and never validates a live one past its expiry. -/
theorem sessions_sound_iff (fresh : (drawn actions).Nodup) : Sound actions ↔ AllPermitted {} actions := by
  constructor
  · intro sound
    apply allPermitted_of_split
    intro before action later split
    cases action with
    | rotate sessionId newId now expires =>
        intro gone
        obtain ⟨session, outcome⟩ := rotate_session gone
        exact (sound.terminal before _ later sessionId split rfl gone).1 session outcome
    | validate sessionId now =>
        intro session held alive
        have valid := (validate_iff _ _ _).mpr ⟨held, alive⟩
        exact (sound.honest before sessionId now later session split (validate_outcome.mpr valid)).2
    | create => trivial
    | logout => trivial
  · intro permitted
    have next (before : List Action) (action : Action) (later : List Action)
        (split : actions = before ++ action :: later) :
        Permitted (after {} before) action := by
      rw [split, allPermitted_append] at permitted
      exact permitted.2.1
    refine ⟨?_, ?_, ?_, ?_, ?_⟩
    · intro before action later sessionId split named gone
      cases action with
      | create => cases named
      | rotate rotated newId now expires =>
          obtain rfl := Option.some.inj named
          exact absurd gone (next before _ later split)
      | validate validated now =>
          obtain rfl := Option.some.inj named
          obtain ⟨session, held, revoked⟩ := gone
          have missed : validate (after {} before).store validated = none := by rw [validate, held]; simp [revoked]
          exact ⟨fun found outcome => (by rw [validate_outcome, missed] at outcome; cases outcome),
            fun other live => (by rwa [step, missed] at live)⟩
      | logout loggedOut =>
          exact ⟨fun found outcome => (by cases outcome), fun other live => (live_revoke live).1⟩
    · intro before middle later sessionId split gone
      rw [after_append]
      refine revoked_after (fun again => ?_) gone
      obtain ⟨session, held, -⟩ := gone
      rw [split, drawn_append, drawn_append, List.append_assoc] at fresh
      rcases @stored_after {} before sessionId (by rw [held]; rfl) with impossible | earlier
      · cases impossible
      · exact (List.nodup_append.mp fresh).2.2 sessionId earlier sessionId (List.mem_append_left _ again) rfl
    · intro before sessionId now later session split outcome
      obtain ⟨held, alive⟩ := (validate_iff _ _ _).mp (validate_outcome.mp outcome)
      exact ⟨alive, next before _ later split session held alive⟩
    · intro before action middle sessionId deadline now later created split asked outcome _ alive
      obtain ⟨draws, stored⟩ := requested_step asked outcome
      have undrawn : sessionId ∉ drawn middle := by
        intro again
        rw [split, ← List.singleton_append, drawn_append, drawn_append, drawn_append, draws] at fresh
        have apart := (List.nodup_append.mp (List.nodup_append.mp fresh).1).2.1
        exact (List.nodup_append.mp apart).2.2 sessionId (List.mem_singleton_self _) sessionId again rfl
      have reached : after {} (before ++ action :: middle) = after (step (after {} before) action).1 middle := by
        rw [after_append]
        rfl
      obtain ⟨session, held⟩ := Option.isSome_iff_exists.mp (present_after undrawn stored)
      rw [reached] at alive ⊢
      refine ⟨session, validate_outcome.mpr ((validate_iff _ _ _).mpr ⟨held, ?_⟩)⟩
      by_contra gone
      exact alive ⟨session, held, by simpa using gone⟩
    · intro before later split
      rw [split, allPermitted_append] at permitted
      rw [split, drawn_append] at fresh
      exact (lineage_after lineage_empty permitted.1 (fun _ _ => rfl) (List.nodup_append.mp fresh).1).single

/-- A session that is rotated once, validated at once, and then ended. -/
def rotatedOnce : List Action :=
  [.create "alice" [] (some 3600) "first" 100 101, .rotate "first" "second" 200 201, .validate "second" 201,
    .logout "second"]

theorem rotated_once_sound : Sound rotatedOnce := by
  refine (sessions_sound_iff (by decide)).mpr ⟨trivial, ?_, ?_, trivial, trivial⟩
  · rintro ⟨session, held, revoked⟩
    obtain rfl := Option.some.inj held
    cases revoked
  · intro session held _
    obtain rfl := Option.some.inj held
    decide

/-- One login, and its session rotated twice. -/
def rotatedTwice : List Action :=
  [.create "alice" [] (some 3600) "first" 100 101, .rotate "first" "second" 200 201, .rotate "first" "third" 300 301]

/-- The second rotation of a revoked session leaves two live sessions of one login. -/
theorem rotated_twice_unsound : (drawn rotatedTwice).Nodup ∧ ¬ Sound rotatedTwice := by
  refine ⟨by decide, fun sound => ?_⟩
  have same := sound.single rotatedTwice [] rfl "second" "third" ⟨_, rfl, rfl⟩ ⟨_, rfl, rfl⟩ rfl
  exact absurd same (by decide)

end AutonomousApi.SessionManager
