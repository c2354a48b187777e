import AutonomousApi.CompilationPlan
import AutonomousApi.Runs

/-! Effects of a generated service (`apply_effect` and `execute_effect` of the FastAPI and the Axum backend).
An idempotent effect files its result under its kind and the caller's key, and a later call that finds the entry
takes the result from there. The two emissions differ in which keys count as present. An executor is what it
would do if it were run. -/

namespace AutonomousApi.EffectLedger

open JsonValue IsrBehavior CompilationPlan OrderedMap Runs

structure EffectSpec where
  id : String
  behavior : EffectBehavior
  deriving DecidableEq

/-- The table in `execute_effect`; an effect without typed semantics is not emitted. -/
def effectSpecs (service : Service) : Option (List EffectSpec) :=
  service.effects.mapM fun effect => effect.behavior.map fun behavior => ⟨effect.id, behavior⟩

inductive EffectError where
  | unknownEffect
  | keyRequired
  | keyMissing
  | keyedNonIdempotent
  | executor (message : String)
  deriving DecidableEq

def EffectError.text : EffectError → String
  | .unknownEffect => "unknown effect"
  | .keyRequired => "idempotency key required"
  | .keyMissing => "idempotent effect requires a key"
  | .keyedNonIdempotent => "non-idempotent effect cannot claim keyed deduplication"
  | .executor message => message

structure Call where
  effectId : String
  key : Option String
  outcome : Except String Json
  deriving DecidableEq

/-- What a call returns, whether its executor was run, and the ledger behind it. -/
structure Answer where
  result : Except EffectError Json
  executed : Bool
  ledger : Dict String Json
  deriving DecidableEq

def identity (effect : EffectBehavior) (key : String) : String := effect.effectKind ++ ":" ++ key

/-- `apply_effect`, with the keys that an emission takes as present. -/
def applyEffect (present : Option String → Option String) (effect : EffectBehavior) (call : Call)
    (ledger : Dict String Json) : Answer :=
  if effect.idempotencyKeyRequired = true ∧ present call.key = none then ⟨.error .keyRequired, false, ledger⟩
  else if effect.idempotent then
    match present call.key with
    | none => ⟨.error .keyMissing, false, ledger⟩
    | some key =>
        match get ledger (identity effect key), call.outcome with
        | some previous, _ => ⟨.ok previous, false, ledger⟩
        | none, .ok result => ⟨.ok result, true, assign ledger (identity effect key) result⟩
        | none, .error message => ⟨.error (.executor message), true, ledger⟩
  else if (present call.key).isSome then ⟨.error .keyedNonIdempotent, false, ledger⟩
  else
    match call.outcome with
    | .ok result => ⟨.ok result, true, ledger⟩
    | .error message => ⟨.error (.executor message), true, ledger⟩

def specOf (specs : List EffectSpec) (call : Call) : Option EffectBehavior :=
  (specs.find? fun spec => spec.id == call.effectId).map EffectSpec.behavior

def executeEffect (present : Option String → Option String) (specs : List EffectSpec) (call : Call)
    (ledger : Dict String Json) : Answer :=
  match specOf specs call with
  | none => ⟨.error .unknownEffect, false, ledger⟩
  | some effect => applyEffect present effect call ledger

/-- Python asks for a key that is not empty. -/
def executePython : List EffectSpec → Call → Dict String Json → Answer :=
  executeEffect fun key => key.filter (· != "")

/-- Rust asks for a key. -/
def executeRust : List EffectSpec → Call → Dict String Json → Answer := executeEffect id

/-- A call with its answers, and the ledger it found. -/
structure Served where
  call : Call
  found : Dict String Json
  python : Answer
  rust : Answer

/-- The ledgers of both emissions, and what was served over them. -/
structure Session where
  python : Dict String Json := []
  rust : Dict String Json := []
  served : List Served := []

def Session.serve (specs : List EffectSpec) (session : Session) (call : Call) : Session :=
  let python := executePython specs call session.python
  let rust := executeRust specs call session.rust
  ⟨python.ledger, rust.ledger, session.served ++ [⟨call, session.python, python, rust⟩]⟩

def sessionOf (specs : List EffectSpec) (calls : List Call) : Session := calls.foldl (Session.serve specs) {}

def SamePair (left right : Call) : Prop := left.effectId = right.effectId ∧ left.key = right.key

/-- The executor of a call was run and gave a result. -/
def Served.ran (served : Served) (value : Json) : Prop :=
  served.python.executed = true ∧ served.python.result = .ok value

def isIdempotent (specs : List EffectSpec) (call : Call) : Bool := (specOf specs call).any EffectBehavior.idempotent

/-- A call among the calls before it, as idempotency has it. -/
structure Exact (specs : List EffectSpec) (earlier : List Served) (served : Served) : Prop where
  once : isIdempotent specs served.call = true → ∀ other ∈ earlier, SamePair other.call served.call →
    ∀ value, other.ran value → served.python.executed = false
  replayed : isIdempotent specs served.call = true → ∀ other ∈ earlier, SamePair other.call served.call →
    ∀ value, other.ran value → served.python.result = .ok value
  retried : served.python.executed = true → ∀ error, served.python.result = .error error →
    served.python.ledger = served.found
  own : served.python.executed = false → ∀ value, served.python.result = .ok value →
    ∃ other ∈ earlier, SamePair other.call served.call ∧ other.ran value
  agreed : served.rust.result = served.python.result ∧ served.rust.executed = served.python.executed

/-- Idempotency all along a session. -/
def Idempotent (specs : List EffectSpec) (calls : List Call) : Prop :=
  ∀ earlier served later, (sessionOf specs calls).served = earlier ++ served :: later → Exact specs earlier served

/-- The ledger entry of a keyed call of an idempotent effect. -/
def entryOf (specs : List EffectSpec) (call : Call) : Option String :=
  (specOf specs call).bind fun effect => if effect.idempotent then call.key.map (identity effect) else none

/-- The key of a known effect is not the empty text, and a call does not share its entry with one before it
that is of another pair and could fill it. -/
structure Distinguished (specs : List EffectSpec) (earlier : List Call) (call : Call) : Prop where
  named : (specOf specs call).isSome = true → call.key ≠ some ""
  apart : ∀ entry, entryOf specs call = some entry → ∀ other ∈ earlier, entryOf specs other = some entry →
    (∃ value, other.outcome = .ok value) → SamePair other call

def AllDistinguished (specs : List EffectSpec) (calls : List Call) : Prop :=
  ∀ earlier call later, calls = earlier ++ call :: later → Distinguished specs earlier call

section

variable {specs : List EffectSpec} {call other : Call} {ledger : Dict String Json} {entry : String}

theorem entryOf_congr (same : SamePair other call) : entryOf specs other = entryOf specs call := by
  simp only [entryOf, specOf, same.1, same.2]

theorem isIdempotent_congr (same : SamePair other call) : isIdempotent specs other = isIdempotent specs call := by
  simp only [isIdempotent, specOf, same.1]

/-- A call with an entry looks there first. -/
theorem executeRust_keyed (keyed : entryOf specs call = some entry) :
    executeRust specs call ledger = match get ledger entry, call.outcome with
      | some previous, _ => ⟨.ok previous, false, ledger⟩
      | none, .ok result => ⟨.ok result, true, assign ledger entry result⟩
      | none, .error message => ⟨.error (.executor message), true, ledger⟩ := by
  obtain ⟨effect, known, rest⟩ := Option.bind_eq_some_iff.mp keyed
  by_cases idempotent : effect.idempotent = true
  · rw [if_pos idempotent] at rest
    obtain ⟨key, present, rfl⟩ := Option.map_eq_some_iff.mp rest
    simp only [executeRust, executeEffect, known, applyEffect, id, present, idempotent, reduceCtorEq, and_false,
      if_false, if_true]
  · simp [idempotent] at rest

theorem executeRust_filed {previous : Json} (keyed : entryOf specs call = some entry)
    (filed : get ledger entry = some previous) : executeRust specs call ledger = ⟨.ok previous, false, ledger⟩ := by
  rw [executeRust_keyed keyed, filed]

theorem executeRust_fresh (keyed : entryOf specs call = some entry) (fresh : get ledger entry = none) :
    (∃ result, call.outcome = .ok result ∧
      executeRust specs call ledger = ⟨.ok result, true, assign ledger entry result⟩) ∨
    (∃ message, call.outcome = .error message ∧
      executeRust specs call ledger = ⟨.error (.executor message), true, ledger⟩) := by
  rw [executeRust_keyed keyed, fresh]
  cases call.outcome with
  | ok result => exact .inl ⟨result, rfl, rfl⟩
  | error message => exact .inr ⟨message, rfl, rfl⟩

/-- A call without an entry is refused, or its executor decides; the ledger stays as it is. -/
theorem executeRust_unkeyed (unkeyed : entryOf specs call = none) :
    (∃ error, executeRust specs call ledger = ⟨.error error, false, ledger⟩) ∨
      (isIdempotent specs call = false ∧
        executeRust specs call ledger = ⟨call.outcome.mapError .executor, true, ledger⟩) := by
  rw [executeRust, executeEffect, isIdempotent]
  cases known : specOf specs call with
  | none => exact .inl ⟨_, rfl⟩
  | some effect =>
      dsimp only
      rw [applyEffect]
      by_cases required : effect.idempotencyKeyRequired = true ∧ id call.key = none
      · exact .inl ⟨_, if_pos required⟩
      · rw [if_neg required]
        by_cases idempotent : effect.idempotent = true
        · have missing : call.key = none := by simpa [entryOf, known, idempotent] using unkeyed
          rw [if_pos idempotent, missing]
          exact .inl ⟨_, rfl⟩
        · rw [if_neg idempotent]
          by_cases present : (id call.key).isSome = true
          · exact .inl ⟨_, if_pos present⟩
          · rw [if_neg present]
            refine .inr ⟨by simpa using idempotent, ?_⟩
            cases call.outcome <;> rfl

/-- The emissions give one answer for a key that is not the empty text. -/
theorem executePython_eq (named : (specOf specs call).isSome = true → call.key ≠ some "") :
    executePython specs call ledger = executeRust specs call ledger := by
  rw [executePython, executeRust, executeEffect, executeEffect]
  cases known : specOf specs call with
  | none => rfl
  | some effect =>
      have present : call.key.filter (· != "") = id call.key := by
        cases given : call.key with
        | none => rfl
        | some key =>
            have filled : key ≠ "" := fun empty => named (by rw [known]; rfl) (by rw [given, empty])
            simp [Option.filter, filled]
      simp only [applyEffect, present]

/-- The empty key tells them apart on every known effect. -/
theorem executePython_ne (known : (specOf specs call).isSome = true) (empty : call.key = some "") :
    ¬ ((executeRust specs call ledger).result = (executePython specs call ledger).result ∧
      (executeRust specs call ledger).executed = (executePython specs call ledger).executed) := by
  obtain ⟨effect, known⟩ := Option.isSome_iff_exists.mp known
  have absent : (some "").filter (fun key : String => key != "") = none := rfl
  simp only [executePython, executeRust, executeEffect, known, applyEffect, empty, absent, id]
  -- Python sees no key: it refuses an idempotent effect or runs the other, and Rust does neither
  by_cases required : effect.idempotencyKeyRequired = true <;> by_cases idempotent : effect.idempotent = true
  · cases get ledger (identity effect "") <;> cases call.outcome <;> simp [required, idempotent]
  · simp [required, idempotent]
  · cases get ledger (identity effect "") <;> cases call.outcome <;> simp [required, idempotent]
  · cases call.outcome <;> simp [required, idempotent]

end

variable {specs : List EffectSpec} {session : Session} {call : Call}

theorem sessionOf_concat (specs : List EffectSpec) (calls : List Call) (call : Call) :
    sessionOf specs (calls ++ [call]) = (sessionOf specs calls).serve specs call := by
  rw [sessionOf, List.foldl_append]
  rfl

theorem served_serve (specs : List EffectSpec) (session : Session) (call : Call) :
    (session.serve specs call).served = session.served ++ [⟨call, session.python,
      executePython specs call session.python, executeRust specs call session.rust⟩] := rfl

theorem served_calls (specs : List EffectSpec) (calls : List Call) :
    (sessionOf specs calls).served.map Served.call = calls := by
  induction calls using List.reverseRecOn with
  | nil => rfl
  | append_singleton before call ih => rw [sessionOf_concat, served_serve, List.map_append, ih]; rfl

/-- What was served for a call, as a ledger has it. -/
structure Filed (specs : List EffectSpec) (ledger : Dict String Json) (served : Served) : Prop where
  genuine : ∀ value, served.ran value → served.call.outcome = .ok value ∧
    (isIdempotent specs served.call = true → (entryOf specs served.call).isSome = true)
  kept : ∀ entry, entryOf specs served.call = some entry → (∃ value, served.call.outcome = .ok value) →
    (get ledger entry).isSome = true
  replayable : ∀ entry, entryOf specs served.call = some entry → ∀ value, served.ran value →
    get ledger entry = some value

/-- What sessions over distinguished calls are. -/
structure Sound (specs : List EffectSpec) (session : Session) : Prop where
  shared : session.rust = session.python
  filed : ∀ served ∈ session.served, Filed specs session.python served
  stored : ∀ entry value, get session.python entry = some value →
    ∃ served ∈ session.served, entryOf specs served.call = some entry ∧ served.ran value
  apart : ∀ one ∈ session.served, ∀ other ∈ session.served, ∀ entry, entryOf specs one.call = some entry →
    entryOf specs other.call = some entry → (∃ value, one.call.outcome = .ok value) →
      (∃ value, other.call.outcome = .ok value) → SamePair one.call other.call

/-- The answer to a call, over a ledger that both emissions share. -/
theorem served_shared (sound : Sound specs session) (named : (specOf specs call).isSome = true → call.key ≠ some "") :
    (session.serve specs call).served = session.served ++ [⟨call, session.python,
      executeRust specs call session.python, executeRust specs call session.python⟩] := by
  rw [served_serve, executePython_eq named, sound.shared]

variable {ledger : Dict String Json} {value : Json}

/-- A call leaves what is filed. -/
theorem executeRust_onward {entry : String}
    (found : get ledger entry = some value) : get (executeRust specs call ledger).ledger entry = some value := by
  cases keyed : entryOf specs call with
  | none => rcases @executeRust_unkeyed specs call ledger keyed with ⟨_, answer⟩ | ⟨_, answer⟩ <;> rwa [answer]
  | some own =>
      cases filed : get ledger own with
      | some previous => rwa [executeRust_filed keyed filed]
      | none =>
          rcases executeRust_fresh keyed filed with ⟨result, _, answer⟩ | ⟨message, _, answer⟩ <;> rw [answer]
          · have different : own ≠ entry := by
              rintro rfl
              rw [filed] at found
              cases found
            rw [get_assign, if_neg different]
            exact found
          · exact found

/-- What is filed was there or is the result of the call. -/
theorem executeRust_stored {entry : String}
    (found : get (executeRust specs call ledger).ledger entry = some value) : get ledger entry = some value ∨
      (entryOf specs call = some entry ∧ (executeRust specs call ledger).executed = true ∧
        (executeRust specs call ledger).result = .ok value) := by
  cases keyed : entryOf specs call with
  | none =>
      rcases @executeRust_unkeyed specs call ledger keyed with ⟨_, answer⟩ | ⟨_, answer⟩ <;> rw [answer] at found
      · exact .inl found
      · exact .inl found
  | some own =>
      cases filed : get ledger own with
      | some previous =>
          rw [executeRust_filed keyed filed] at found
          exact .inl found
      | none =>
          rcases executeRust_fresh keyed filed with ⟨result, _, answer⟩ | ⟨message, _, answer⟩ <;>
            rw [answer] at found ⊢
          · by_cases same : own = entry
            · subst same
              rw [get_assign, if_pos rfl] at found
              cases found
              exact .inr ⟨rfl, rfl, rfl⟩
            · rw [get_assign, if_neg same] at found
              exact .inl found
          · exact .inl found

theorem filed_answer : Filed specs (executeRust specs call ledger).ledger
    ⟨call, ledger, executeRust specs call ledger, executeRust specs call ledger⟩ := by
  cases keyed : entryOf specs call with
  | none =>
      refine ⟨?_, fun entry found => ?_, fun entry found => ?_⟩
      · rintro value ⟨executed, returned⟩
        dsimp only at executed returned ⊢
        rcases @executeRust_unkeyed specs call ledger keyed with ⟨_, answer⟩ | ⟨plain, answer⟩ <;>
          rw [answer] at executed returned
        · cases executed
        · cases given : call.outcome with
          | ok result =>
              rw [given] at returned
              cases returned
              exact ⟨rfl, fun idempotent => absurd (plain.symm.trans idempotent) (by decide)⟩
          | error message => rw [given] at returned; cases returned
      · rw [keyed] at found; cases found
      · rw [keyed] at found; cases found
  | some own =>
      cases filed : get ledger own with
      | some previous =>
          rw [executeRust_filed keyed filed]
          refine ⟨fun value ran => ?_, fun entry found _ => ?_, fun entry _ value ran => ?_⟩
          · cases ran.1
          · rw [show own = entry from Option.some.inj (keyed.symm.trans found)] at filed
            rw [filed]
            rfl
          · cases ran.1
      | none =>
          rcases executeRust_fresh keyed filed with ⟨result, given, answer⟩ | ⟨message, given, answer⟩ <;> rw [answer]
          · refine ⟨?_, fun entry found _ => ?_, fun entry found value ran => ?_⟩
            · rintro value ⟨_, returned⟩
              cases returned
              exact ⟨given, fun _ => by rw [keyed]; rfl⟩
            · rw [show entry = own from Option.some.inj (found.symm.trans keyed), get_assign, if_pos rfl]
              rfl
            · obtain ⟨_, returned⟩ := ran
              cases returned
              rw [show entry = own from Option.some.inj (found.symm.trans keyed), get_assign, if_pos rfl]
          · refine ⟨fun value ran => ?_, fun entry _ succeeds => ?_, fun entry _ value ran => ?_⟩
            · cases ran.2
            · obtain ⟨value, succeeds⟩ := succeeds
              rw [given] at succeeds
              cases succeeds
            · cases ran.2

/-- What was run for a pair is what a later call of the pair finds. -/
theorem executeRust_again (sound : Sound specs session) (idempotent : isIdempotent specs call = true) {other : Served}
    (member : other ∈ session.served) (same : SamePair other.call call) (ran : other.ran value) :
    executeRust specs call session.python = ⟨.ok value, false, session.python⟩ := by
  have keyed := ((sound.filed other member).genuine value ran).2 (by rw [isIdempotent_congr same]; exact idempotent)
  obtain ⟨entry, keyed⟩ := Option.isSome_iff_exists.mp keyed
  apply executeRust_filed ((entryOf_congr same).symm.trans keyed)
  exact (sound.filed other member).replayable entry keyed value ran

/-- A distinguished call after sound ones is exact. -/
theorem exact_of_distinguished (sound : Sound specs session)
    (distinguished : Distinguished specs (session.served.map Served.call) call) :
    Exact specs session.served ⟨call, session.python, executeRust specs call session.python,
      executeRust specs call session.python⟩ where
  once := by
    intro idempotent other member same value ran
    dsimp only
    rw [executeRust_again sound idempotent member same ran]
  replayed := by
    intro idempotent other member same value ran
    dsimp only
    rw [executeRust_again sound idempotent member same ran]
  retried := by
    intro _ error failed
    dsimp only at failed ⊢
    cases keyed : entryOf specs call with
    | none =>
        rcases @executeRust_unkeyed specs call session.python keyed with ⟨_, answer⟩ | ⟨_, answer⟩ <;> rw [answer]
    | some entry =>
        cases filed : get session.python entry with
        | some previous => rw [executeRust_filed keyed filed]
        | none =>
            rcases executeRust_fresh keyed filed with ⟨result, _, answer⟩ | ⟨message, _, answer⟩ <;>
              rw [answer] at failed ⊢
            cases failed
  own := by
    intro skipped value returned
    dsimp only at skipped returned
    cases keyed : entryOf specs call with
    | none =>
        -- without an entry, a call that returns something was run
        rcases @executeRust_unkeyed specs call session.python keyed with ⟨_, answer⟩ | ⟨_, answer⟩
        · rw [answer] at returned
          cases returned
        · rw [answer] at skipped
          cases skipped
    | some entry =>
        cases filed : get session.python entry with
        | some previous =>
            rw [executeRust_filed keyed filed] at returned
            cases returned
            obtain ⟨other, member, filled, ran⟩ := sound.stored entry value filed
            refine ⟨other, member, ?_, ran⟩
            apply distinguished.apart entry keyed other.call (List.mem_map_of_mem member) filled
            exact ⟨value, ((sound.filed other member).genuine value ran).1⟩
        | none =>
            rcases executeRust_fresh keyed filed with ⟨result, _, answer⟩ | ⟨message, _, answer⟩ <;>
              rw [answer] at skipped
            · cases skipped
            · cases skipped
  agreed := ⟨rfl, rfl⟩

theorem Filed.mono {before after : Dict String Json} {served : Served} (filed : Filed specs before served)
    (onward : ∀ entry value, get before entry = some value → get after entry = some value) :
    Filed specs after served where
  genuine := filed.genuine
  kept := by
    intro entry keyed succeeds
    obtain ⟨value, found⟩ := Option.isSome_iff_exists.mp (filed.kept entry keyed succeeds)
    rw [onward entry value found]
    rfl
  replayable := fun entry keyed value ran => onward entry value (filed.replayable entry keyed value ran)

theorem sound_serve (sound : Sound specs session)
    (distinguished : Distinguished specs (session.served.map Served.call) call) :
    Sound specs (session.serve specs call) := by
  have answered := served_shared sound distinguished.named
  have ledgers : (session.serve specs call).python = (executeRust specs call session.python).ledger := by
    rw [Session.serve, executePython_eq distinguished.named]
  have succeeded {other : Served} (member : other ∈ session.served) {entry : String}
      (keyed : entryOf specs call = some entry) (filled : entryOf specs other.call = some entry)
      (succeeds : ∃ value, other.call.outcome = .ok value) : SamePair other.call call :=
    distinguished.apart entry keyed other.call (List.mem_map_of_mem member) filled succeeds
  exact {
    shared := by rw [ledgers, Session.serve, sound.shared]
    filed := by
      intro served member
      rw [answered] at member
      rw [ledgers]
      rcases List.mem_append.mp member with earlier | here
      · exact (sound.filed served earlier).mono fun entry value => executeRust_onward
      · rw [List.mem_singleton.mp here]
        exact filed_answer
    stored := by
      intro entry value found
      rw [ledgers] at found
      rw [answered]
      rcases executeRust_stored found with old | ⟨keyed, ran⟩
      · obtain ⟨served, member, rest⟩ := sound.stored entry value old
        exact ⟨served, List.mem_append_left _ member, rest⟩
      · exact ⟨_, List.mem_append_right _ (List.mem_singleton_self _), keyed, ran⟩
    apart := by
      intro one first other second entry left right leftOk rightOk
      rw [answered] at first second
      rcases List.mem_append.mp first with first | first <;> rcases List.mem_append.mp second with second | second
      · exact sound.apart one first other second entry left right leftOk rightOk
      · rw [List.mem_singleton.mp second] at right ⊢
        exact succeeded first right left leftOk
      · rw [List.mem_singleton.mp first] at left ⊢
        have same := succeeded second left right rightOk
        exact ⟨same.1.symm, same.2.symm⟩
      · rw [List.mem_singleton.mp first, List.mem_singleton.mp second]
        exact ⟨rfl, rfl⟩ }

/-- A call that is exact after sound ones is distinguished. -/
theorem distinguished_of_exact (sound : Sound specs session)
    (exact : Exact specs session.served ⟨call, session.python, executePython specs call session.python,
      executeRust specs call session.rust⟩) :
    Distinguished specs (session.served.map Served.call) call := by
  have named : (specOf specs call).isSome = true → call.key ≠ some "" := by
    intro known empty
    have agreed := exact.agreed
    rw [sound.shared] at agreed
    exact executePython_ne known empty agreed
  refine ⟨named, ?_⟩
  intro entry keyed other member filled succeeds
  obtain ⟨served, inside, rfl⟩ := List.mem_map.mp member
  -- the entry is there, so the call returns what some call of its own pair returned
  obtain ⟨value, found⟩ := Option.isSome_iff_exists.mp ((sound.filed served inside).kept entry filled succeeds)
  have answer := executeRust_filed keyed found
  have returned := exact.own
  dsimp only at returned
  rw [executePython_eq named, answer] at returned
  obtain ⟨source, earlier, same, ran⟩ := returned rfl value rfl
  have sourceKeyed : entryOf specs source.call = some entry := (entryOf_congr same).trans keyed
  have shared := sound.apart served inside source earlier entry filled sourceKeyed succeeds
    ⟨value, ((sound.filed source earlier).genuine value ran).1⟩
  exact ⟨shared.1.trans same.1, shared.2.trans same.2⟩

theorem sound_sessionOf {calls : List Call} (distinguished : AllDistinguished specs calls) :
    Sound specs (sessionOf specs calls) := by
  induction calls using List.reverseRecOn with
  | nil => exact ⟨rfl, by simp [sessionOf], by simp [sessionOf], by simp [sessionOf]⟩
  | append_singleton before call ih =>
      obtain ⟨earlier, last⟩ := forall_split_concat.mp distinguished
      rw [sessionOf_concat]
      apply sound_serve (ih earlier)
      rw [served_calls]
      exact last

/-- A session is idempotent exactly when its calls are distinguished. -/
theorem idempotent_iff_distinguished (specs : List EffectSpec) (calls : List Call) :
    Idempotent specs calls ↔ AllDistinguished specs calls := by
  induction calls using List.reverseRecOn with
  | nil => simp [Idempotent, AllDistinguished, sessionOf]
  | append_singleton before call ih =>
      have split : Idempotent specs (before ++ [call]) ↔ Idempotent specs before ∧
          Exact specs (sessionOf specs before).served ⟨call, (sessionOf specs before).python,
            executePython specs call (sessionOf specs before).python,
            executeRust specs call (sessionOf specs before).rust⟩ := by
        rw [Idempotent, sessionOf_concat, served_serve]
        exact forall_split_concat
      have splitCalls : AllDistinguished specs (before ++ [call]) ↔ AllDistinguished specs before ∧
          Distinguished specs before call := forall_split_concat
      rw [split, ih, splitCalls]
      apply and_congr_right
      intro distinguished
      have sound := sound_sessionOf distinguished
      constructor
      · intro exact
        simpa only [served_calls] using distinguished_of_exact sound exact
      · intro last
        have last : Distinguished specs ((sessionOf specs before).served.map Served.call) call := by
          rw [served_calls]
          exact last
        rw [executePython_eq last.named, sound.shared]
        exact exact_of_distinguished sound last

/-- Two effects of one kind, called with one key: the second call gets what the first one sent. -/
def payout (id : String) : EffectSpec :=
  ⟨id, { effectKind := "bank_transfer", idempotent := true, idempotencyKeyRequired := true }⟩

def payoutCall (id result : String) : Call := ⟨id, some "order-1", .ok (.str result)⟩

theorem not_idempotent_payouts :
    ¬ Idempotent [payout "effect:pay_rent", payout "effect:pay_salary"]
      [payoutCall "effect:pay_rent" "rent sent", payoutCall "effect:pay_salary" "salary sent"] := by
  intro idempotent
  have second := idempotent [_] _ [] rfl
  obtain ⟨other, member, same, -⟩ := second.own rfl _ rfl
  rw [List.mem_singleton.mp member] at same
  exact absurd same.1 (by decide)

end AutonomousApi.EffectLedger
