import AutonomousApi.CommandDecisions

/-! Two runs of a command whose parameters agree outside of the values under secret keys. The parameters reach the
event through `_redact`, which forgets those values, and through the target id, which is taken as it stands: where it
is an object or a list, its text spells them out. -/

namespace AutonomousApi.CommandSecrecy

open OrderedMap JsonValue ObservatoryEvents CommandBoundary
open EvolutionLedger (truthy)

section

variable (platform : Platform)

mutual
/-- Equal but for the values that are stored under secret keys, at any depth. -/
def Alike : Json → Json → Prop
  | .atom value, .atom other => value = other
  | .list items, .list others => AlikeItems items others
  | .dict entries, .dict others => AlikeEntries entries others
  | _, _ => False

def AlikeItems : List Json → List Json → Prop
  | [], [] => True
  | item :: items, other :: others => Alike item other ∧ AlikeItems items others
  | _, _ => False

def AlikeEntries : List (String × Json) → List (String × Json) → Prop
  | [], [] => True
  | (key, value) :: entries, (otherKey, other) :: others =>
      key = otherKey ∧ (secretKey platform key = false → Alike value other) ∧ AlikeEntries entries others
  | _, _ => False
end

attribute [local simp] Alike AlikeItems AlikeEntries redact redactItems redactEntries

/-- Two documents are alike exactly when they are the same once they are redacted. -/
theorem alike_iff (document other : Json) :
    Alike platform document other ↔ redact platform document = redact platform other := by
  induction document using DataTree.Tree.induct generalizing other with
  | atom value => cases other <;> simp
  | list items ih =>
      cases other with
      | atom value => simp
      | dict entries => simp
      | list others =>
          rw [Alike, redact, redact, DataTree.Tree.list.injEq]
          induction items generalizing others with
          | nil => cases others <;> simp
          | cons item rest tail =>
              cases others with
              | nil => simp
              | cons second others =>
                  simp [ih item (by simp), tail (fun inner member => ih inner (by simp [member]))]
  | dict entries ih =>
      cases other with
      | atom value => simp
      | list items => simp
      | dict others =>
          rw [Alike, redact, redact, DataTree.Tree.dict.injEq]
          induction entries generalizing others with
          | nil => cases others <;> simp
          | cons entry rest tail =>
              obtain ⟨key, value⟩ := entry
              cases others with
              | nil => simp
              | cons second others =>
                  obtain ⟨otherKey, other⟩ := second
                  have here := ih (key, value) (by simp) other
                  have later := tail (fun inner member => ih inner (by simp [member])) others
                  rw [AlikeEntries, redactEntries, redactEntries, List.cons.injEq, Prod.mk.injEq, later, and_assoc]
                  refine and_congr_right fun same => and_congr_left fun _ => ?_
                  subst same
                  cases secretKey platform key with
                  | true => simp
                  | false => simpa using here

end

section

variable (platform : Platform)

/-- `observe` publishes an event unless the store refuses it. -/
def observed (rows : EventStore) (event : Event) : List Event :=
  match append platform.hashing rows event with
  | some _ => [event]
  | none => []

/-- What `_audit_rejection` puts on the bus. -/
def auditPublished (rows : EventStore) (action : String) (params : Record) (actor : Actor) (reason : String)
    (now : Datetime) : List Event :=
  let payload : Record :=
    [("action", Json.str action), ("params", redact platform (.dict params)), ("actor_id", Json.str actor.id)]
  match newGovernanceEvent platform.hashing "observatory_gateway" "command_rejected"
      (targetId platform params "GOVERNANCE") (some reason) payload .warning now with
  | .ok event => observed platform rows event
  | .error _ => []

/-- What `request_command` puts on the bus. -/
def commandPublished (rows : EventStore) (action : String) (params : Record) (actor : Actor) (read now : Datetime) :
    List Event :=
  if action ∉ commandActions then []
  else
    let state := governance platform rows
    if state.safeMode = .enabled ∧ action ≠ "safe_mode_disable" then
      auditPublished platform rows action params actor "safe_mode_enabled" now
    else
      match authorize action actor state.currentAuthority with
      | .error reason => auditPublished platform rows action params actor reason now
      | .ok () =>
          let requestId := generateRequestId platform action params read
          let payload : Record := [("request_id", Json.str requestId), ("action", Json.str action),
            ("params", redact platform (.dict params)), ("actor_id", Json.str actor.id)]
          match newGovernanceEvent platform.hashing "observatory_gateway" "command_requested"
              (targetId platform params requestId) none payload .info now with
          | .ok event => observed platform rows event
          | .error _ => []

/-- Over every store, action and actor, the two parameter objects cannot be told apart by what is returned, stored or
published. Both runs read the same clock, so that nothing differs for the time alone. -/
structure Indistinguishable (params others : Record) : Prop where
  requested : ∀ rows action actor read now,
    requestCommand platform rows action params actor read now =
      requestCommand platform rows action others actor read now
  published : ∀ rows action actor read now,
    commandPublished platform rows action params actor read now =
      commandPublished platform rows action others actor read now
  audited : ∀ rows action actor reason now,
    auditRejection platform rows action params actor reason now =
      auditRejection platform rows action others actor reason now
  auditPublished : ∀ rows action actor reason now,
    auditPublished platform rows action params actor reason now =
      CommandSecrecy.auditPublished platform rows action others actor reason now

/-- The text of a target id that is given. -/
def targetText (params : Record) : Option String :=
  ((get params "target_id").filter truthy).map (pyStr platform)

end

variable {platform : Platform} {params others : Record}

theorem targetId_eq (params : Record) (default : String) :
    targetId platform params default = (targetText platform params).getD default := by
  rw [targetId, targetText]
  cases get params "target_id" with
  | none => rfl
  | some value => cases kept : truthy value <;> simp [kept, Option.filter]

theorem redact_eq (alike : Alike platform (.dict params) (.dict others)) :
    redact platform (.dict params) = redact platform (.dict others) :=
  (alike_iff platform _ _).mp alike

theorem indistinguishable_of_same (alike : Alike platform (.dict params) (.dict others))
    (same : targetText platform params = targetText platform others) : Indistinguishable platform params others := by
  have redacted := redact_eq alike
  have named (default : String) : targetId platform params default = targetId platform others default := by
    rw [targetId_eq, targetId_eq, same]
  have requestId (action : String) (read : Datetime) :
      generateRequestId platform action params read = generateRequestId platform action others read := by
    rw [generateRequestId, redacted, generateRequestId]
  have audited (rows : EventStore) (action : String) (actor : Actor) (reason : String) (now : Datetime) :
      auditRejection platform rows action params actor reason now =
        auditRejection platform rows action others actor reason now := by
    rw [auditRejection, named, redacted, auditRejection]
  have published (rows : EventStore) (action : String) (actor : Actor) (reason : String) (now : Datetime) :
      auditPublished platform rows action params actor reason now =
        auditPublished platform rows action others actor reason now := by
    rw [auditPublished, named, redacted, auditPublished]
  refine ⟨?_, ?_, audited, published⟩
  · intro rows action actor read now
    simp only [requestCommand, audited, requestId, named, redacted]
  · intro rows action actor read now
    simp only [commandPublished, published, requestId, named, redacted]

/-- The ids under which an empty store takes an event about a subject: none without a subject. -/
def filed (subjectId : String) : List String := if subjectId = "" then [] else [subjectId]

theorem filed_injective {subjectId other : String} (same : filed subjectId = filed other) : subjectId = other := by
  unfold filed at same
  split_ifs at same with left right
  · rw [left, right]
  · exact (List.cons.inj same).1

theorem auditPublished_subjects (action : String) (params : Record) (actor : Actor) (now : Datetime) :
    (auditPublished platform [] action params actor "denied" now).map Event.subjectId =
      filed (targetId platform params "GOVERNANCE") := by
  rw [auditPublished, filed, newGovernanceEvent, if_neg (by decide), newEvent, if_neg (by decide), if_neg (by decide)]
  split_ifs with missing
  · rfl
  · rfl

def admin : Actor := ⟨"ada", "admin", none⟩

theorem commandPublished_subjects (params : Record) (now : Datetime) :
    (commandPublished platform [] "safe_mode_enable" params admin now now).map Event.subjectId =
      filed (targetId platform params (generateRequestId platform "safe_mode_enable" params now)) := by
  have empty : governance platform [] = {} := rfl
  have allowed : authorize "safe_mode_enable" admin ({} : GovernanceState).currentAuthority = .ok () := by decide
  rw [commandPublished, if_neg (by decide), empty]
  dsimp only
  rw [if_neg (by decide), allowed]
  dsimp only
  rw [filed, newGovernanceEvent, if_neg (by decide), newEvent, if_neg (by decide), if_neg (by decide)]
  split_ifs with missing
  · rfl
  · rfl

theorem generated_ne (platform : Platform) (action : String) (params : Record) (now : Datetime) :
    generateRequestId platform action params now ≠ "GOVERNANCE" := by
  intro same
  have first := congrArg (fun text => text.toList.head?) same
  simp [generateRequestId] at first

theorem same_of_indistinguishable (alike : Alike platform (.dict params) (.dict others)) (now : Datetime)
    (hidden : Indistinguishable platform params others) : targetText platform params = targetText platform others := by
  have audited := congrArg (List.map Event.subjectId) (hidden.auditPublished [] "trace" admin "denied" now)
  rw [auditPublished_subjects, auditPublished_subjects] at audited
  have requested := congrArg (List.map Event.subjectId) (hidden.published [] "safe_mode_enable" admin now now)
  have requestId : generateRequestId platform "safe_mode_enable" others now =
      generateRequestId platform "safe_mode_enable" params now := by
    rw [generateRequestId, generateRequestId, redact_eq alike]
  rw [commandPublished_subjects, commandPublished_subjects, requestId] at requested
  have byDefault := filed_injective audited
  have byRequest := filed_injective requested
  rw [targetId_eq, targetId_eq] at byDefault byRequest
  have apart := generated_ne platform "safe_mode_enable" params now
  cases left : targetText platform params with
  | none =>
      cases right : targetText platform others with
      | none => rfl
      | some text =>
          rw [left, right, Option.getD_none, Option.getD_some] at byDefault byRequest
          exact absurd (byRequest.trans byDefault.symm) apart
  | some text =>
      cases right : targetText platform others with
      | none =>
          rw [left, right, Option.getD_none, Option.getD_some] at byDefault byRequest
          exact absurd (byRequest.symm.trans byDefault) apart
      | some other =>
          rw [left, right, Option.getD_some, Option.getD_some] at byDefault
          rw [byDefault]

/-- Parameters that are alike cannot be told apart exactly when they name the same target. -/
theorem indistinguishable_iff (alike : Alike platform (.dict params) (.dict others)) :
    Indistinguishable platform params others ↔ targetText platform params = targetText platform others :=
  ⟨same_of_indistinguishable alike ⟨2026, 3, 1, 0, 0, 0, 0, 0⟩, indistinguishable_of_same alike⟩

open CommandDecisions (plainPlatform)

def keyed (key : String) : Record := [("target_id", Json.str "svc-1"), ("api_key", Json.str key)]

theorem keyed_indistinguishable_iff :
    Indistinguishable plainPlatform (keyed "a") (keyed "b") ↔
      targetText plainPlatform (keyed "a") = targetText plainPlatform (keyed "b") :=
  indistinguishable_iff ((alike_iff plainPlatform _ _).mpr (by decide))

def quoting : Platform := { plainPlatform with repr := fun text => "'" ++ text ++ "'" }

/-- A target that is an object with a password. -/
def nested (password : String) : Record := [("target_id", .dict [("password", Json.str password)])]

theorem nested_password_told :
    Alike quoting (.dict (nested "a")) (.dict (nested "b")) ∧
      targetText quoting (nested "a") = some "\x7b'password': 'a'\x7d" ∧
      ¬ Indistinguishable quoting (nested "a") (nested "b") := by
  have alike : Alike quoting (.dict (nested "a")) (.dict (nested "b")) :=
    (alike_iff quoting _ _).mpr (by decide)
  refine ⟨alike, by decide, fun hidden => ?_⟩
  have same := same_of_indistinguishable alike ⟨2026, 3, 1, 0, 0, 0, 0, 0⟩ hidden
  exact absurd same (by decide)

end AutonomousApi.CommandSecrecy
