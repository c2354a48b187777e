import AutonomousApi.EventTable
import AutonomousApi.WorkspaceGuards
import Mathlib.Data.List.DropRight

/-! Creating and updating workspaces, by the service itself and under governance. A full payload is normalized to
what its own validation accepts again; an update validates the fields that it names, without requiring a name, and
looks at `shared_with` only beside a visibility. -/

namespace AutonomousApi.WorkspaceUpdates

open OrderedMap JsonValue PythonText ObservatoryEvents FailFast Workspaces GovernedWorkspaces
open DataTree (keyOrder sortEntries sortKeys)
open CommandBoundary (pyStr)

section

variable {environment : Environment}

theorem strip_strip (table : CharTable) (chars : List Char) : strip table (strip table chars) = strip table chars := by
  have shape (text : List Char) : strip table text = (text.dropWhile table.isSpace).rdropWhile table.isSpace := rfl
  rw [shape, shape]
  cases front : chars.dropWhile table.isSpace with
  | nil => rfl
  | cons first rest =>
      have visible : table.isSpace first = false := by
        have shown := List.head_dropWhile_not table.isSpace (l := chars) (by simp [front])
        simpa [front] using shown
      -- the first visible character is never dropped from behind
      have kept : (List.rdropWhile table.isSpace (first :: rest)).dropWhile table.isSpace =
          List.rdropWhile table.isSpace (first :: rest) := by
        rw [List.dropWhile_eq_self_iff]
        intro long
        have leads : (List.rdropWhile table.isSpace (first :: rest))[0] = first := by
          have start := List.rdropWhile_prefix table.isSpace (l := first :: rest)
          exact start.getElem long
        simp [leads, visible]
      rw [kept, List.rdropWhile_idempotent]

theorem clean_clean (text : String) : clean environment (clean environment text) = clean environment text := by
  rw [clean, clean, String.toList_ofList, strip_strip]

variable {value : Json} {field : String} {maxLength : Nat} {required : Bool}

variable {text key : String} {texts : List String} {kept : Option String} {entries : Record}

/-- A text that is given is the cleaned one, within its length, and empty only where none is required. -/
theorem cleanString_some_iff :
    cleanString environment value field maxLength required = .ok (some text) ↔
      value ≠ .null ∧ clean environment (pyStr environment.platform value) = text ∧
        (text = "" → required = false) ∧ text.length ≤ maxLength := by
  unfold cleanString
  split
  · cases required <;> simp
  · rename_i given
    have present : value ≠ .null := given
    generalize clean environment (pyStr environment.platform value) = cleaned
    by_cases blank : cleaned = ""
    · subst blank
      cases required with
      | true => simp +contextual
      | false => simp +contextual [present, eq_comm]
    · have visible : cleaned.length ≠ 0 := by simpa [String.length_eq_zero_iff] using blank
      by_cases long : cleaned.length > maxLength
      · simp only [visible, long, if_false, if_true]
        constructor
        · intro impossible
          cases impossible
        · rintro ⟨-, rfl, -, short⟩
          omega
      · simp only [visible, long, if_false]
        constructor
        · intro same
          cases same
          exact ⟨present, rfl, fun empty => absurd empty blank, by omega⟩
        · rintro ⟨-, rfl, -⟩
          rfl

theorem cleanString_again {always : Bool}
    (cleaned : cleanString environment value field maxLength required = .ok (some text))
    (visible : text = "" → always = false) :
    cleanString environment (.str text) field maxLength always = .ok (some text) := by
  obtain ⟨-, shape, -, short⟩ := cleanString_some_iff.mp cleaned
  refine cleanString_some_iff.mpr ⟨by simp, ?_, visible, short⟩
  rw [← shape]
  exact clean_clean _

theorem cleanString_none
    (cleaned : cleanString environment value field maxLength required = .ok none) : value = .null := by
  unfold cleanString at cleaned
  split at cleaned
  · rfl
  · dsimp only at cleaned
    split_ifs at cleaned <;> cases cleaned

theorem cleanStringList_again (cleaned : cleanStringList environment value field = .ok texts) :
    cleanStringList environment (.list (texts.map Json.str)) field = .ok texts := by
  unfold cleanStringList at cleaned
  split at cleaned
  · cases cleaned
    rfl
  · rename_i items
    have shape : sortedSet ((items.map fun item => clean environment (pyStr environment.platform item)).filter
        (· ≠ "")) = texts := Except.ok.inj cleaned
    have fixed : ∀ text ∈ texts, clean environment text = text ∧ text ≠ "" := by
      intro text member
      rw [← shape, mem_sortedSet, List.mem_filter, List.mem_map] at member
      obtain ⟨⟨item, -, rfl⟩, visible⟩ := member
      exact ⟨clean_clean _, by simpa using visible⟩
    have cleanAll : (texts.map Json.str).map (fun item => clean environment (pyStr environment.platform item)) =
        texts := by
      rw [List.map_map]
      exact (List.map_congr_left fun text member => (fixed text member).1).trans (List.map_id' texts)
    have visibleAll : texts.filter (· ≠ "") = texts :=
      List.filter_eq_self.mpr fun text member => by simpa using (fixed text member).2
    have sortedAgain : sortedSet texts = texts := by
      rw [← shape]
      exact sortedSet_congr fun text => mem_sortedSet
    rw [cleanStringList, cleanAll, visibleAll, sortedAgain]
  · cases cleaned

theorem validateVisibility_again {wanted : Bool} {visibility : String}
    (validated : validateVisibility environment wanted value = .ok visibility) :
    visibility ∈ allowedVisibilities ∧ validateVisibility environment true (.str visibility) = .ok visibility := by
  obtain ⟨text, cleaned, allowed⟩ := bind_ok validated
  cases text with
  | none => cases allowed
  | some text =>
      simp only at allowed
      split_ifs at allowed with member
      cases allowed
      have nonempty : visibility ≠ "" := by
        rintro rfl
        exact absurd member (by decide)
      refine ⟨member, ?_⟩
      rw [validateVisibility, cleanString_again cleaned (fun empty => absurd empty nonempty)]
      simp [bind, Except.bind, member]

/-- The keys of a validated query, in the order in which they are assigned. -/
def queryRecord (q since till : Option String) (categories severities statuses : List String) (limit : Int) : Record :=
  optionalEntry "q" q ++ [("categories", .list (categories.map Json.str)),
    ("severities", .list (severities.map Json.str)), ("epistemic_statuses", .list (statuses.map Json.str))] ++
    optionalEntry "since" since ++ optionalEntry "until" till ++ [("limit", .int limit)]

/-- A text of a query that is read as itself, or none. -/
def Settled (environment : Environment) (field : String) (maxLength : Nat) (kept : Option String) : Prop :=
  ∀ text, kept = some text → text ≠ "" ∧ cleanString environment (.str text) field maxLength false = .ok (some text)

theorem settled_of_cleaned {found : Option String} (key : String)
    (cleaned : cleanString environment value field maxLength false = .ok found) :
    ∃ kept, Settled environment field maxLength kept ∧ optionalEntry key found = optionalEntry key kept := by
  cases found with
  | none => exact ⟨none, nofun, rfl⟩
  | some text =>
      by_cases empty : text = ""
      · exact ⟨none, nofun, by simp [optionalEntry, empty]⟩
      · refine ⟨some text, ?_, rfl⟩
        intro other same
        cases same
        exact ⟨empty, cleanString_again cleaned fun _ => rfl⟩

theorem get_optionalEntry (settled : Settled environment field maxLength kept) (key wanted : String) :
    get (optionalEntry key kept) wanted = if key = wanted then kept.map Json.str else none := by
  cases kept with
  | none => simp [optionalEntry]
  | some text => simp [optionalEntry, OrderedMap.get, (settled text rfl).1]

theorem lookup_settled
    (settled : Settled environment field maxLength kept) (found : get entries key = kept.map Json.str) :
    cleanString environment (lookup entries key) field maxLength false = .ok kept := by
  rw [lookup, found]
  cases kept with
  | none => rfl
  | some text => exact (settled text rfl).2

theorem lookup_strings (cleaned : cleanStringList environment value field = .ok texts)
    (found : get entries key = some (.list (texts.map Json.str))) :
    cleanStringList environment (lookup entries key) field = .ok texts := by
  rw [lookup, found]
  exact cleanStringList_again cleaned

theorem keys_optionalEntry (key : String) (kept : Option String) : (keys (optionalEntry key kept)).Sublist [key] := by
  cases kept with
  | none => simp [optionalEntry, keys]
  | some text => by_cases empty : text = "" <;> simp [optionalEntry, empty, keys]

theorem queryRecord_keys (q since till : Option String) (categories severities statuses : List String) (limit : Int) :
    (keys (queryRecord q since till categories severities statuses limit)).Nodup := by
  have inside : (keys (queryRecord q since till categories severities statuses limit)).Sublist
      (["q"] ++ ["categories", "severities", "epistemic_statuses"] ++ ["since"] ++ ["until"] ++ ["limit"]) := by
    rw [queryRecord, keys, List.map_append, List.map_append, List.map_append, List.map_append]
    exact ((((keys_optionalEntry "q" q).append (.refl _)).append (keys_optionalEntry "since" since)).append
      (keys_optionalEntry "until" till)).append (.refl _)
  exact inside.nodup (by decide)

/-- A validated query is valid again, also with its keys in order. -/
theorem validateQuery_again {record : Record} (validated : validateQuery environment value = .ok record) :
    validateQuery environment (.dict (sortedRecord record)) = .ok record := by
  unfold validateQuery at validated
  split at validated
  · rename_i fields
    obtain ⟨q, cleanedQ, validated⟩ := bind_ok validated
    obtain ⟨categories, listedCategories, validated⟩ := bind_ok validated
    obtain ⟨severities, listedSeverities, validated⟩ := bind_ok validated
    obtain ⟨statuses, listedStatuses, validated⟩ := bind_ok validated
    obtain ⟨since, cleanedSince, validated⟩ := bind_ok validated
    obtain ⟨till, cleanedTill, validated⟩ := bind_ok validated
    split at validated
    · cases validated
    · rename_i limit read
      split_ifs at validated with outside
      obtain ⟨keptQ, settledQ, sameQ⟩ := settled_of_cleaned "q" cleanedQ
      obtain ⟨keptSince, settledSince, sameSince⟩ := settled_of_cleaned "since" cleanedSince
      obtain ⟨keptTill, settledTill, sameTill⟩ := settled_of_cleaned "until" cleanedTill
      have shape : queryRecord keptQ keptSince keptTill categories severities statuses limit = record := by
        rw [queryRecord, ← sameQ, ← sameSince, ← sameTill]
        exact Except.ok.inj validated
      have found (key : String) : get (sortedRecord record) key =
          (get (queryRecord keptQ keptSince keptTill categories severities statuses limit) key).map sortKeys := by
        rw [← shape]
        exact JsonCodec.get_sorted _ (queryRecord_keys _ _ _ _ _ _ _) key
      have entries (key : String) :
          get (queryRecord keptQ keptSince keptTill categories severities statuses limit) key =
            (((((if "q" = key then keptQ.map Json.str else none) <|>
              get [("categories", .list (categories.map Json.str)), ("severities", .list (severities.map Json.str)),
                ("epistemic_statuses", .list (statuses.map Json.str))] key) <|>
              if "since" = key then keptSince.map Json.str else none) <|>
              if "until" = key then keptTill.map Json.str else none) <|> get [("limit", .int limit)] key) := by
        rw [queryRecord, get_append, get_append, get_append, get_append, get_optionalEntry settledQ,
          get_optionalEntry settledSince, get_optionalEntry settledTill]
      have text (kept : Option String) : (kept.map Json.str).map sortKeys = kept.map Json.str := by
        cases kept <;> rfl
      have textQ : get (sortedRecord record) "q" = keptQ.map Json.str := by
        rw [found, entries]
        simp [OrderedMap.get, text]
      have textSince : get (sortedRecord record) "since" = keptSince.map Json.str := by
        rw [found, entries]
        simp [OrderedMap.get, text]
      have textTill : get (sortedRecord record) "until" = keptTill.map Json.str := by
        rw [found, entries]
        simp [OrderedMap.get, text]
      have listed (key : String) (texts : List String)
          (held : get (queryRecord keptQ keptSince keptTill categories severities statuses limit) key =
            some (.list (texts.map Json.str))) :
          get (sortedRecord record) key = some (.list (texts.map Json.str)) := by
        rw [found, held, Option.map_some, EventTable.sortKeys_strings]
      have heldCategories := listed "categories" categories (by rw [entries]; simp [OrderedMap.get])
      have heldSeverities := listed "severities" severities (by rw [entries]; simp [OrderedMap.get])
      have heldStatuses := listed "epistemic_statuses" statuses (by rw [entries]; simp [OrderedMap.get])
      have heldLimit : get (sortedRecord record) "limit" = some (.int limit) := by
        rw [found, entries]
        simp [OrderedMap.get, sortKeys]
      rw [validateQuery, lookup_settled settledQ textQ, lookup_settled settledSince textSince,
        lookup_settled settledTill textTill, lookup_strings listedCategories heldCategories,
        lookup_strings listedSeverities heldSeverities, lookup_strings listedStatuses heldStatuses, heldLimit, ← shape]
      simp only [bind, Except.bind, Option.getD_some, pyInt, if_neg outside]
      rfl
  · cases validated

end

section

variable (environment : Environment) (scanOther : Json → Option String)

def notAnObject : WorkspaceError := .validation "workspace payload must be an object"

def validatePayload (payload : Json) (isPartial : Bool) : Except WorkspaceError Normalized :=
  match payload with
  | .dict fields => validateWorkspacePayload environment fields isPartial
  | _ => .error notAnObject

/-- A workspace that is to be shared keeps the operators that it is shared with already, unless others are given. -/
def keepShared (stored : List String) (normalized : Normalized) : Except WorkspaceError Normalized :=
  if normalized.visibility = some "shared" then do
    let sharedWith := normalized.sharedWith.getD stored
    requireShared normalized.visibility sharedWith
    return { normalized with sharedWith := some sharedWith }
  else return normalized

/-- The keys of a normalized payload, in order. -/
def updatedFields (normalized : Normalized) : List String :=
  let given (key : String) (present : Bool) := if present then [key] else []
  given "description" normalized.description.isSome ++ given "name" normalized.name.isSome ++
    given "query" normalized.query.isSome ++ given "shared_with" normalized.sharedWith.isSome ++
    given "tags" normalized.tags.isSome ++ given "visibility" normalized.visibility.isSome

/-- `update_workspace` of the store. -/
def storeUpdate (store : WorkspaceStore) (workspaceId ownerId : String) (updates : Normalized) (now : String) :
    Outcome Workspace :=
  match store.find workspaceId with
  | none => (.error (.notFound workspaceId), store)
  | some current =>
      if current.ownerId ≠ ownerId then (.error (.permissionDenied workspaceId), store)
      else applyUpdate store workspaceId updates now

/-- The checks of the service's own `update_workspace`: what it is going to write. -/
def planOwned (store : WorkspaceStore) (actor : Actor) (workspaceId : String) (payload : Json) :
    Except WorkspaceError Normalized :=
  match store.find workspaceId with
  | none => .error (.notFound workspaceId)
  | some existing =>
      if existing.ownerId ≠ actor.id then .error (.permissionDenied workspaceId)
      else do
        let normalized ← validatePayload environment payload true
        keepShared existing.sharedWith normalized

def updateOwned (store : WorkspaceStore) (draw : Draw) (actor : Actor) (workspaceId : String) (payload : Json) :
    Outcome Workspace :=
  match planOwned environment store actor workspaceId payload with
  | .error error => (.error error, store)
  | .ok normalized =>
      match storeUpdate store workspaceId actor.id normalized draw.updatedAt with
      | (.error error, after) => (.error error, after)
      | (.ok updated, after) =>
          let audited := addAudit after draw workspaceId actor.id "workspace_updated"
            [("updated_fields", .list ((updatedFields normalized).map Json.str))]
          (.ok updated, emitEvent audited "updated" updated actor)

def createOwned (store : WorkspaceStore) (draw : Draw) (actor : Actor) (payload : Json) : Outcome Workspace :=
  match payload with
  | .dict fields => Workspaces.createWorkspace environment store draw actor fields
  | _ => (.error notAnObject, store)

/-- What the secret scan and the validation say of a payload that is no object. -/
def refuseOther (payload : Json) : WorkspaceError :=
  match scanOther payload with
  | some pattern => .validation ("secret-shaped material detected: " ++ pattern)
  | none => notAnObject

def planGoverned (system : System) (actor : Actor) (workspaceId : String) (payload : Json) :
    Except WorkspaceError Normalized :=
  match payload with
  | .dict fields => planUpdate environment system actor workspaceId fields
  | payload => do
      let _ ← authorize environment system actor workspaceId "update"
      .error (refuseOther scanOther payload)

def updateGoverned (system : System) (draws : Draws) (actor : Actor) (workspaceId : String) (payload : Json) :
    Answer Workspace :=
  match payload with
  | .dict fields => GovernedWorkspaces.updateWorkspace environment system draws actor workspaceId fields
  | payload =>
      match authorize environment system actor workspaceId "update" with
      | .error error => (.error error, system)
      | .ok _ => (.error (refuseOther scanOther payload), system)

def createGoverned (system : System) (draws : Draws) (actor : Actor) (payload : Json) : Answer Workspace :=
  match payload with
  | .dict fields => GovernedWorkspaces.createWorkspace environment system draws actor fields
  | payload =>
      let decision := WorkspaceGovernance.authorizeCreate (WorkspaceGovernance.fromActor environment actor)
      if decision.allowed then (.error (refuseOther scanOther payload), system)
      else (.error (.permissionDenied decision.reason), system)

inductive Command where
  | createOwned (draw : Draw) (actor : Actor) (payload : Json)
  | updateOwned (draw : Draw) (actor : Actor) (workspaceId : String) (payload : Json)
  | createGoverned (draws : Draws) (actor : Actor) (payload : Json)
  | updateGoverned (draws : Draws) (actor : Actor) (workspaceId : String) (payload : Json)

/-- An operation of the service itself leaves the governance store alone. -/
def owned (system : System) (outcome : Outcome Workspace) : Answer Workspace :=
  (outcome.1, { system with base := outcome.2 })

def perform (system : System) : Command → Answer Workspace
  | .createOwned draw actor payload => owned system (createOwned environment system.base draw actor payload)
  | .updateOwned draw actor workspaceId payload =>
      owned system (updateOwned environment system.base draw actor workspaceId payload)
  | .createGoverned draws actor payload => createGoverned environment scanOther system draws actor payload
  | .updateGoverned draws actor workspaceId payload =>
      updateGoverned environment scanOther system draws actor workspaceId payload

def performAll (system : System) (commands : List Command) : System :=
  commands.foldl (fun system command => (perform environment scanOther system command).2) system

/-- The stored workspace, as a payload. -/
def asPayload (workspace : Workspace) : Record :=
  [("name", .str workspace.name), ("description", .str workspace.description),
    ("visibility", .str workspace.visibility), ("shared_with", .list (workspace.sharedWith.map Json.str)),
    ("tags", .list (workspace.tags.map Json.str)), ("query", .dict workspace.query)]

/-- The full validation passes the stored workspace as it is; a query is stored with its keys in order. -/
structure Creatable (workspace : Workspace) : Prop where
  passes : ∃ query, sortedRecord query = workspace.query ∧
    validateWorkspacePayload environment (asPayload workspace) false =
      .ok { name := some (some workspace.name), description := some workspace.description
            visibility := some workspace.visibility, sharedWith := some workspace.sharedWith
            tags := some workspace.tags, query := some query }
  named : workspace.name ≠ "" ∧ workspace.name.length ≤ 200
  visible : workspace.visibility ∈ allowedVisibilities
  shared : workspace.visibility = "shared" → workspace.sharedWith ≠ []

/-- In every state of a run each stored workspace could be created, and a refusal changes nothing. -/
structure WellKept (commands : List Command) : Prop where
  creatable : ∀ before, before <+: commands →
    ∀ workspace ∈ (performAll environment scanOther {} before).base.workspaces, Creatable environment workspace
  refused : ∀ before command after error, commands = before ++ command :: after →
    (perform environment scanOther (performAll environment scanOther {} before) command).1 = .error error →
      (perform environment scanOther (performAll environment scanOther {} before) command).2 =
        performAll environment scanOther {} before

/-- The update gives a name that is blank, or takes a shared workspace's last operator without naming a visibility. -/
def Empties (workspace : Workspace) (fields : Record) : Prop :=
  (∃ value, get fields "name" = some value ∧ value ≠ .null ∧
    clean environment (pyStr environment.platform value) = "") ∨
  get fields "name" ≠ some .null ∧ get fields "visibility" = none ∧ workspace.visibility = "shared" ∧
    ∃ value, get fields "shared_with" = some value ∧ cleanStringList environment value "shared_with" = .ok []

/-- An update that empties what it may not, and that the checks let through. -/
def Spoils (system : System) : Command → Prop
  | .updateOwned _ actor workspaceId payload =>
      (∃ plan, planOwned environment system.base actor workspaceId payload = .ok plan) ∧
        ∃ workspace fields, system.base.find workspaceId = some workspace ∧ payload = .dict fields ∧
          Empties environment workspace fields
  | .updateGoverned _ actor workspaceId payload =>
      (∃ plan, planGoverned environment scanOther system actor workspaceId payload = .ok plan) ∧
        ∃ workspace fields, system.base.find workspaceId = some workspace ∧ payload = .dict fields ∧
          Empties environment workspace fields
  | _ => False

end

section

variable {environment : Environment} {workspace : Workspace}

/-- `Creatable` field by field. -/
structure Fixed (environment : Environment) (workspace : Workspace) : Prop where
  name : cleanString environment (.str workspace.name) "name" 200 true = .ok (some workspace.name)
  description : cleanString environment (.str workspace.description) "description" 2000 false =
    .ok (some workspace.description)
  visibility : validateVisibility environment true (.str workspace.visibility) = .ok workspace.visibility
  sharedWith : cleanStringList environment (.list (workspace.sharedWith.map Json.str)) "shared_with" =
    .ok workspace.sharedWith
  tags : cleanStringList environment (.list (workspace.tags.map Json.str)) "tags" = .ok workspace.tags
  query : ∃ query, sortedRecord query = workspace.query ∧ validateQuery environment (.dict workspace.query) = .ok query
  shared : workspace.visibility = "shared" → workspace.sharedWith ≠ []

theorem requireShared_ok_iff {visibility : Option String} {sharedWith : List String} :
    requireShared visibility sharedWith = .ok () ↔ (visibility = some "shared" → sharedWith ≠ []) := by
  rw [requireShared, require_ok_iff]
  cases sharedWith <;> simp

variable {Value : Type} {payload fields : Record} {wanted : Bool} {key : String} {found : Option Value}
variable {validate : Json → Except WorkspaceError Value} {normalized : Normalized} {current : Workspace}

theorem field_ok (checked : field payload wanted key validate = .ok found) :
    (found = none ∧ wanted = false ∧ get payload key = none) ∨
      ∃ value, found = some value ∧ validate (lookup payload key) = .ok value := by
  rw [field] at checked
  split_ifs at checked with asked
  · right
    cases validated : validate (lookup payload key) with
    | error error =>
        rw [validated] at checked
        cases checked
    | ok value =>
        rw [validated] at checked
        exact ⟨value, (Except.ok.inj checked).symm, rfl⟩
  · left
    cases checked
    simpa using asked

/-- Each field of a normalized payload, by its own check. -/
structure Checked (environment : Environment) (payload : Record) (wanted : Bool) (normalized : Normalized) : Prop where
  name : field payload wanted "name" (fun value => cleanString environment value "name" 200 wanted) =
    .ok normalized.name
  description : field payload wanted "description" (fun value =>
    (cleanString environment value "description" 2000 false).map fun text => text.getD "") = .ok normalized.description
  visibility : field payload wanted "visibility" (validateVisibility environment wanted) = .ok normalized.visibility
  sharedWith : field payload wanted "shared_with" (fun value => cleanStringList environment value "shared_with") =
    .ok normalized.sharedWith
  tags : field payload wanted "tags" (fun value => cleanStringList environment value "tags") = .ok normalized.tags
  query : field payload wanted "query" (validateQuery environment) = .ok normalized.query
  shared : wanted = true → requireShared normalized.visibility (normalized.sharedWith.getD []) = .ok ()

theorem checked_of_validated {isPartial : Bool}
    (validated : validateWorkspacePayload environment payload isPartial = .ok normalized) :
    Checked environment payload (!isPartial) normalized := by
  rw [validateWorkspacePayload] at validated
  obtain ⟨name, checkedName, validated⟩ := bind_ok validated
  obtain ⟨description, checkedDescription, validated⟩ := bind_ok validated
  obtain ⟨visibility, checkedVisibility, validated⟩ := bind_ok validated
  obtain ⟨sharedWith, checkedShared, validated⟩ := bind_ok validated
  obtain ⟨tags, checkedTags, validated⟩ := bind_ok validated
  obtain ⟨query, checkedQuery, validated⟩ := bind_ok validated
  cases isPartial with
  | true =>
      cases validated
      exact ⟨checkedName, checkedDescription, checkedVisibility, checkedShared, checkedTags, checkedQuery,
        fun wanted => absurd wanted (by decide)⟩
  | false =>
      rw [if_pos (by decide)] at validated
      obtain ⟨⟨⟩, required, validated⟩ := bind_ok validated
      cases validated
      exact ⟨checkedName, checkedDescription, checkedVisibility, checkedShared, checkedTags, checkedQuery,
        fun _ => required⟩

theorem field_given (checked : field payload wanted key validate = .ok found)
    {value : Value} (given : found = some value) : validate (lookup payload key) = .ok value := by
  rcases field_ok checked with ⟨absent, -⟩ | ⟨other, same, validated⟩
  · cases absent.symm.trans given
  · cases same.symm.trans given
    exact validated

theorem Fixed.creatable (fixed : Fixed environment workspace) : Creatable environment workspace := by
  obtain ⟨query, sorted, validated⟩ := fixed.query
  obtain ⟨-, -, visible, short⟩ := cleanString_some_iff.mp fixed.name
  refine ⟨⟨query, sorted, ?_⟩, ⟨fun empty => absurd (visible empty) (by decide), short⟩,
    (validateVisibility_again fixed.visibility).1, fixed.shared⟩
  have shared : requireShared (some workspace.visibility) workspace.sharedWith = .ok () :=
    requireShared_ok_iff.mpr fun same => fixed.shared (Option.some.inj same)
  simp [validateWorkspacePayload, asPayload, field, lookup, OrderedMap.get, fixed.name, fixed.description,
    fixed.visibility, fixed.sharedWith, fixed.tags, validated, shared, bind, Except.bind, Except.map, pure, Except.pure]

/-- A description is its own description, a missing one the empty text. -/
theorem described_again {value : Json} {description : String}
    (described : (cleanString environment value "description" 2000 false).map (fun text => text.getD "") =
      .ok description) :
    cleanString environment (.str description) "description" 2000 false = .ok (some description) := by
  cases cleaned : cleanString environment value "description" 2000 false with
  | error error => simp [cleaned, Except.map] at described
  | ok text =>
      rw [cleaned] at described
      cases text with
      | none =>
          rw [← Except.ok.inj described]
          rfl
      | some text =>
          have same : text = description := Except.ok.inj described
          rw [← same]
          exact cleanString_again cleaned fun _ => rfl

theorem Creatable.fixed (creatable : Creatable environment workspace) : Fixed environment workspace := by
  obtain ⟨query, sorted, validated⟩ := creatable.passes
  have checked := checked_of_validated validated
  rw [Bool.not_false] at checked
  have name := field_given checked.name rfl
  have description := field_given checked.description rfl
  have visibility := field_given checked.visibility rfl
  have sharedWith := field_given checked.sharedWith rfl
  have tags := field_given checked.tags rfl
  have checkedQuery := field_given checked.query rfl
  have entry (key : String) (value : Json) (found : get (asPayload workspace) key = some value) :
      lookup (asPayload workspace) key = value := by
    rw [lookup, found, Option.getD_some]
  rw [entry "name" (.str workspace.name) rfl] at name
  rw [entry "visibility" (.str workspace.visibility) rfl] at visibility
  rw [entry "shared_with" (.list (workspace.sharedWith.map Json.str)) rfl] at sharedWith
  rw [entry "tags" (.list (workspace.tags.map Json.str)) rfl] at tags
  rw [entry "query" (.dict workspace.query) rfl] at checkedQuery
  exact ⟨name, described_again description, visibility, sharedWith, tags, ⟨query, sorted, checkedQuery⟩,
    creatable.shared⟩

/-- What an update leaves of a workspace. -/
def rewritten (current : Workspace) (updates : Normalized) (now : String) : Workspace :=
  { current with
    name := updates.name.join.getD current.name
    description := updates.description.getD current.description
    visibility := updates.visibility.getD current.visibility
    sharedWith := updates.sharedWith.getD current.sharedWith
    tags := updates.tags.getD current.tags
    query := updates.query.getD current.query
    updatedAt := now
    version := current.version + 1 }

theorem applyUpdate_found {store : WorkspaceStore} {workspaceId : String} {updates : Normalized}
    (found : store.find workspaceId = some current) (now : String) :
    applyUpdate store workspaceId updates now =
      if updates.name = some none then (.error (.sqlite "NOT NULL constraint failed: workspaces.name"), store)
      else (.ok (rewritten current updates now), { store with workspaces := store.workspaces.map fun workspace =>
        if workspace.id = workspaceId then (rewritten current updates now).row else workspace }) := by
  rw [applyUpdate, found]
  cases name : updates.name with
  | none => simp [rewritten, name]
  | some given =>
      cases given with
      | none => simp
      | some text => simp [rewritten, name]

theorem sortedRecord_sortedRecord (entries : Record) : sortedRecord (sortedRecord entries) = sortedRecord entries := by
  have again := EventTable.sortKeys_sortedRecord entries
  rw [sortKeys, sortKeys] at again
  exact DataTree.Tree.dict.inj again

/-- Each field that a payload gives is in its normal form, a name only if it is not blank. -/
structure Given (environment : Environment) (normalized : Normalized) : Prop where
  name : ∀ text, normalized.name = some (some text) → text ≠ "" →
    cleanString environment (.str text) "name" 200 true = .ok (some text)
  description : ∀ text, normalized.description = some text →
    cleanString environment (.str text) "description" 2000 false = .ok (some text)
  visibility : ∀ text, normalized.visibility = some text → validateVisibility environment true (.str text) = .ok text
  sharedWith : ∀ texts, normalized.sharedWith = some texts →
    cleanStringList environment (.list (texts.map Json.str)) "shared_with" = .ok texts
  tags : ∀ texts, normalized.tags = some texts →
    cleanStringList environment (.list (texts.map Json.str)) "tags" = .ok texts
  query : ∀ query, normalized.query = some query → validateQuery environment (.dict (sortedRecord query)) = .ok query

theorem Checked.given (checked : Checked environment payload wanted normalized) : Given environment normalized where
  name _ given visible := cleanString_again (field_given checked.name given) fun empty => absurd empty visible
  description _ given := described_again (field_given checked.description given)
  visibility _ given := (validateVisibility_again (field_given checked.visibility given)).2
  sharedWith _ given := cleanStringList_again (field_given checked.sharedWith given)
  tags _ given := cleanStringList_again (field_given checked.tags given)
  query _ given := validateQuery_again (field_given checked.query given)

theorem field_wanted (checked : field payload true key validate = .ok found) :
    ∃ value, found = some value := by
  rcases field_ok checked with ⟨-, impossible, -⟩ | ⟨value, same, -⟩
  · cases impossible
  · exact ⟨value, same⟩

/-- A created workspace is what its own validation passes. -/
theorem created_fixed
    (validated : validateWorkspacePayload environment fields false = .ok normalized) {created : Workspace}
    (name : created.name = normalized.name.join.getD "")
    (description : created.description = normalized.description.getD "")
    (visibility : created.visibility = normalized.visibility.getD "")
    (sharedWith : created.sharedWith = normalized.sharedWith.getD []) (tags : created.tags = normalized.tags.getD [])
    (query : created.query = normalized.query.getD []) : Fixed environment created.row := by
  have checked := checked_of_validated validated
  rw [Bool.not_false] at checked
  have given := checked.given
  obtain ⟨givenName, isName⟩ := field_wanted checked.name
  obtain ⟨givenDescription, isDescription⟩ := field_wanted checked.description
  obtain ⟨givenVisibility, isVisibility⟩ := field_wanted checked.visibility
  obtain ⟨givenShared, isShared⟩ := field_wanted checked.sharedWith
  obtain ⟨givenTags, isTags⟩ := field_wanted checked.tags
  obtain ⟨givenQuery, isQuery⟩ := field_wanted checked.query
  have named := field_given checked.name isName
  rw [isDescription, Option.getD_some] at description
  rw [isVisibility, Option.getD_some] at visibility
  rw [isShared, Option.getD_some] at sharedWith
  rw [isTags, Option.getD_some] at tags
  rw [isQuery, Option.getD_some] at query
  cases givenName with
  | none =>
      rw [cleanString_none named] at named
      simp [cleanString] at named
  | some text =>
      have visible : text ≠ "" := by
        intro empty
        exact absurd ((cleanString_some_iff.mp named).2.2.1 empty) (by decide)
      rw [isName, Option.join_some, Option.getD_some] at name
      refine ⟨?_, ?_, ?_, ?_, ?_, ⟨givenQuery, ?_, ?_⟩, ?_⟩
      · simpa [Workspace.row, name] using given.name text isName visible
      · simpa [Workspace.row, description] using given.description _ isDescription
      · simpa [Workspace.row, visibility] using given.visibility _ isVisibility
      · simpa [Workspace.row, sharedWith] using given.sharedWith _ isShared
      · simpa [Workspace.row, tags] using given.tags _ isTags
      · simp [Workspace.row, query]
      · simpa [Workspace.row, query] using given.query _ isQuery
      · have required := requireShared_ok_iff.mp (checked.shared rfl)
        simpa [Workspace.row, visibility, sharedWith, isVisibility, isShared] using required

/-- A field of a partial update is checked when it is given. -/
theorem partial_field (checked : field payload false key validate = .ok found) :
    (found = none ∧ get payload key = none) ∨
      ∃ given value, get payload key = some given ∧ validate given = .ok value ∧ found = some value := by
  rcases field_ok checked with ⟨absent, -, missing⟩ | ⟨value, same, validated⟩
  · exact .inl ⟨absent, missing⟩
  · cases present : get payload key with
    | none =>
        rw [field, present] at checked
        cases same.symm.trans (Except.ok.inj checked).symm
    | some given =>
        rw [lookup, present, Option.getD_some] at validated
        exact .inr ⟨given, value, rfl, validated, same⟩

theorem empties_iff (checked : Checked environment fields false normalized) :
    Empties environment workspace fields ↔ normalized.name = some (some "") ∨
      normalized.name ≠ some none ∧ normalized.visibility = none ∧ workspace.visibility = "shared" ∧
        normalized.sharedWith = some [] := by
  have blank : normalized.name = some (some "") ↔ ∃ value, get fields "name" = some value ∧ value ≠ .null ∧
      clean environment (pyStr environment.platform value) = "" := by
    rcases partial_field checked.name with ⟨absent, missing⟩ | ⟨given, name, present, cleaned, same⟩
    · simp [absent, missing]
    · cases name with
      | none => simp [same, present, cleanString_none cleaned]
      | some text =>
          obtain ⟨visible, shape, -⟩ := cleanString_some_iff.mp cleaned
          simp [same, present, visible, shape]
  have null : normalized.name = some none ↔ get fields "name" = some .null := by
    rcases partial_field checked.name with ⟨absent, missing⟩ | ⟨given, name, present, cleaned, same⟩
    · simp [absent, missing]
    · cases name with
      | none => simp [same, present, cleanString_none cleaned]
      | some text => simp [same, present, (cleanString_some_iff.mp cleaned).1]
  have hidden : normalized.visibility = none ↔ get fields "visibility" = none := by
    rcases partial_field checked.visibility with ⟨absent, missing⟩ | ⟨given, visibility, present, -, same⟩
    · simp [absent, missing]
    · simp [same, present]
  have alone : normalized.sharedWith = some [] ↔
      ∃ value, get fields "shared_with" = some value ∧ cleanStringList environment value "shared_with" = .ok [] := by
    rcases partial_field checked.sharedWith with ⟨absent, missing⟩ | ⟨given, texts, present, cleaned, same⟩
    · simp [absent, missing]
    · simp [same, present, cleaned]
  rw [Empties, blank, ne_eq, ne_eq, null, hidden, alone]

theorem keepShared_ok {plan : Normalized} (planned : keepShared current.sharedWith normalized = .ok plan) :
    plan.name = normalized.name ∧ (∀ now, rewritten current plan now = rewritten current normalized now) ∧
      (normalized.visibility = some "shared" → normalized.sharedWith.getD current.sharedWith ≠ []) := by
  rw [keepShared] at planned
  split_ifs at planned with shared
  · obtain ⟨⟨⟩, required, planned⟩ := bind_ok planned
    cases planned
    exact ⟨rfl, fun now => rfl, requireShared_ok_iff.mp required⟩
  · cases planned
    exact ⟨rfl, fun now => rfl, fun same => absurd same shared⟩

/-- An update that is written restores the invariant exactly when it empties nothing. -/
theorem rewritten_fixed_iff {plan : Normalized} (fixed : Fixed environment current)
    (validated : validateWorkspacePayload environment fields true = .ok normalized)
    (planned : keepShared current.sharedWith normalized = .ok plan) (named : plan.name ≠ some none) (now : String) :
    Fixed environment (rewritten current plan now).row ↔ ¬ Empties environment current fields := by
  have checked := checked_of_validated validated
  rw [Bool.not_true] at checked
  obtain ⟨sameName, sameRow, required⟩ := keepShared_ok planned
  rw [sameName] at named
  have given := checked.given
  rw [sameRow, empties_iff checked]
  constructor
  · rintro updated (blank | ⟨-, hidden, shared, alone⟩)
    · obtain ⟨-, -, visible, -⟩ := cleanString_some_iff.mp updated.name
      exact absurd (visible (by simp [rewritten, Workspace.row, blank])) (by decide)
    · exact updated.shared (by simp [rewritten, Workspace.row, hidden, shared])
        (by simp [rewritten, Workspace.row, alone])
  · intro spared
    rw [not_or] at spared
    obtain ⟨query, sorted, validQuery⟩ := fixed.query
    refine ⟨?_, ?_, ?_, ?_, ?_, ?_, ?_⟩
    · cases name : normalized.name with
      | none => simpa [rewritten, Workspace.row, name] using fixed.name
      | some text =>
          cases text with
          | none => exact absurd name named
          | some text =>
              have visible : text ≠ "" := fun empty => spared.1 (by rw [name, empty])
              simpa [rewritten, Workspace.row, name] using given.name text name visible
    · cases description : normalized.description with
      | none => simpa [rewritten, Workspace.row, description] using fixed.description
      | some text => simpa [rewritten, Workspace.row, description] using given.description text description
    · cases visibility : normalized.visibility with
      | none => simpa [rewritten, Workspace.row, visibility] using fixed.visibility
      | some text => simpa [rewritten, Workspace.row, visibility] using given.visibility text visibility
    · cases sharedWith : normalized.sharedWith with
      | none => simpa [rewritten, Workspace.row, sharedWith] using fixed.sharedWith
      | some texts => simpa [rewritten, Workspace.row, sharedWith] using given.sharedWith texts sharedWith
    · cases tags : normalized.tags with
      | none => simpa [rewritten, Workspace.row, tags] using fixed.tags
      | some texts => simpa [rewritten, Workspace.row, tags] using given.tags texts tags
    · cases replaced : normalized.query with
      | none =>
          have again : sortedRecord current.query = current.query := by rw [← sorted, sortedRecord_sortedRecord]
          exact ⟨query, by simp [rewritten, Workspace.row, replaced, again, sorted],
            by simpa [rewritten, Workspace.row, replaced, again] using validQuery⟩
      | some entries =>
          exact ⟨entries, by simp [rewritten, Workspace.row, replaced],
            by simpa [rewritten, Workspace.row, replaced] using given.query entries replaced⟩
    · intro shared
      cases visibility : normalized.visibility with
      | some text =>
          have same : text = "shared" := by simpa [rewritten, Workspace.row, visibility] using shared
          exact required (by rw [visibility, same])
      | none =>
          have before : current.visibility = "shared" := by simpa [rewritten, Workspace.row, visibility] using shared
          cases sharedWith : normalized.sharedWith with
          | none => simpa [rewritten, Workspace.row, sharedWith] using fixed.shared before
          | some texts =>
              have kept : texts ≠ [] := by
                rintro rfl
                exact spared.2 ⟨named, visibility, before, sharedWith⟩
              simpa [rewritten, Workspace.row, sharedWith] using kept

end

section

variable {environment : Environment} {scanOther : Json → Option String} {system : System}

/-- What a command does: it refuses and changes nothing, stores a workspace that its own validation passes, or
rewrites the one it names. -/
inductive Effect (environment : Environment) (scanOther : Json → Option String) (system : System) (command : Command) :
    Answer Workspace → Prop where
  | refused (error : WorkspaceError) (spared : ¬ Spoils environment scanOther system command) :
      Effect environment scanOther system command (.error error, system)
  | created (created : Workspace) (after : System) (fixed : Fixed environment created.row)
      (spared : ¬ Spoils environment scanOther system command)
      (workspaces : after.base.workspaces = system.base.workspaces ++ [created.row]) :
      Effect environment scanOther system command (.ok created, after)
  | updated (workspaceId now : String) (current : Workspace) (fields : Record) (normalized plan : Normalized)
      (after : System) (found : system.base.find workspaceId = some current)
      (validated : validateWorkspacePayload environment fields true = .ok normalized)
      (planned : keepShared current.sharedWith normalized = .ok plan) (named : plan.name ≠ some none)
      (spoils : Spoils environment scanOther system command ↔ Empties environment current fields)
      (workspaces : after.base.workspaces = system.base.workspaces.map fun workspace =>
        if workspace.id = workspaceId then (rewritten current plan now).row else workspace) :
      Effect environment scanOther system command (.ok (rewritten current plan now), after)

theorem createWorkspace_cases (environment : Environment) (store : WorkspaceStore) (draw : Draw) (actor : Actor)
    (fields : Record) :
    (∃ error, Workspaces.createWorkspace environment store draw actor fields = (.error error, store)) ∨
      ∃ created after, Workspaces.createWorkspace environment store draw actor fields = (.ok created, after) ∧
        Fixed environment created.row ∧ after.workspaces = store.workspaces ++ [created.row] := by
  rw [Workspaces.createWorkspace]
  cases validated : validateWorkspacePayload environment fields false with
  | error error => exact .inl ⟨error, rfl⟩
  | ok normalized =>
      dsimp only
      rw [insertWorkspace]
      split
      · rename_i error after inserted
        split at inserted
        · cases inserted
          exact .inl ⟨_, rfl⟩
        · cases inserted
      · rename_i created after inserted
        split at inserted
        · cases inserted
        · cases inserted
          exact .inr ⟨_, _, rfl, created_fixed validated rfl rfl rfl rfl rfl rfl, rfl⟩

variable {actor : Actor} {workspaceId : String} {payload : Json} {plan : Normalized}

theorem planOwned_ok {store : WorkspaceStore}
    (planned : planOwned environment store actor workspaceId payload = .ok plan) :
    ∃ current fields normalized, store.find workspaceId = some current ∧ current.ownerId = actor.id ∧
      payload = .dict fields ∧ validateWorkspacePayload environment fields true = .ok normalized ∧
      keepShared current.sharedWith normalized = .ok plan := by
  rw [planOwned] at planned
  split at planned
  · cases planned
  · rename_i current found
    split_ifs at planned with owner
    · obtain ⟨normalized, validated, kept⟩ := bind_ok planned
      unfold validatePayload at validated
      split at validated
      · rename_i fields
        exact ⟨current, fields, normalized, found, not_not.mp owner, rfl, validated, kept⟩
      · cases validated

theorem planGoverned_ok (planned : planGoverned environment scanOther system actor workspaceId payload = .ok plan) :
    ∃ current fields normalized, system.base.find workspaceId = some current ∧ payload = .dict fields ∧
      validateWorkspacePayload environment fields true = .ok normalized ∧
      keepShared current.sharedWith normalized = .ok plan := by
  unfold planGoverned at planned
  split at planned
  · rename_i fields
    obtain ⟨authorized, allowed, planned⟩ := bind_ok planned
    obtain ⟨⟨⟩, -, planned⟩ := bind_ok planned
    obtain ⟨normalized, validated, planned⟩ := bind_ok planned
    exact ⟨authorized.1, fields, normalized, (WorkspaceGuards.authorize_ok allowed).1, rfl, validated, planned⟩
  · obtain ⟨authorized, -, refused⟩ := bind_ok planned
    cases refused

/-- An update that is refused for a null name empties nothing. -/
theorem spared_of_null {current : Workspace} {fields : Record} {normalized : Normalized}
    (validated : validateWorkspacePayload environment fields true = .ok normalized)
    (planned : keepShared current.sharedWith normalized = .ok plan) (null : plan.name = some none) :
    ¬ Empties environment current fields := by
  have checked := checked_of_validated validated
  rw [Bool.not_true] at checked
  rw [(keepShared_ok planned).1] at null
  rw [empties_iff checked, null]
  simp

theorem createOwned_effect (draw : Draw) (actor : Actor) (payload : Json) :
    Effect environment scanOther system (.createOwned draw actor payload)
      (perform environment scanOther system (.createOwned draw actor payload)) := by
  have spared : ¬ Spoils environment scanOther system (.createOwned draw actor payload) := id
  rw [perform]
  unfold createOwned
  split
  · rename_i fields
    rcases createWorkspace_cases environment system.base draw actor fields with
      ⟨error, refused⟩ | ⟨created, after, stored, fixed, workspaces⟩
    · rw [refused]
      exact .refused error spared
    · rw [stored]
      exact .created created _ fixed spared workspaces
  · exact .refused _ spared

theorem updateOwned_effect (draw : Draw) (actor : Actor) (workspaceId : String) (payload : Json) :
    Effect environment scanOther system (.updateOwned draw actor workspaceId payload)
      (perform environment scanOther system (.updateOwned draw actor workspaceId payload)) := by
  rw [perform, updateOwned]
  cases planned : planOwned environment system.base actor workspaceId payload with
  | error error =>
      refine .refused error ?_
      rintro ⟨⟨plan, other⟩, -⟩
      cases planned.symm.trans other
  | ok plan =>
      obtain ⟨current, fields, normalized, found, owner, rfl, validated, kept⟩ := planOwned_ok planned
      have spoils : Spoils environment scanOther system (.updateOwned draw actor workspaceId (.dict fields)) ↔
          Empties environment current fields := by
        constructor
        · rintro ⟨-, other, given, here, same, emptied⟩
          cases found.symm.trans here
          cases same
          exact emptied
        · intro emptied
          exact ⟨⟨plan, planned⟩, current, fields, found, rfl, emptied⟩
      dsimp only
      rw [storeUpdate, found]
      dsimp only
      rw [if_neg (not_not.mpr owner), applyUpdate_found found]
      by_cases null : plan.name = some none
      · rw [if_pos null]
        exact .refused _ (fun spoiled => spared_of_null validated kept null (spoils.mp spoiled))
      · rw [if_neg null]
        exact .updated workspaceId draw.updatedAt current fields normalized plan _ found validated kept null spoils rfl

theorem createGoverned_effect (draws : Draws) (actor : Actor) (payload : Json) :
    Effect environment scanOther system (.createGoverned draws actor payload)
      (perform environment scanOther system (.createGoverned draws actor payload)) := by
  have spared : ¬ Spoils environment scanOther system (.createGoverned draws actor payload) := id
  rw [perform]
  unfold createGoverned
  split
  · rename_i fields
    unfold GovernedWorkspaces.createWorkspace
    dsimp only
    split_ifs with allowed
    · cases scanPayload environment fields with
      | error error => exact .refused error spared
      | ok clear =>
          dsimp only
          rcases createWorkspace_cases environment system.base draws.base actor fields with
            ⟨error, refused⟩ | ⟨created, after, stored, fixed, workspaces⟩
          · rw [refused]
            exact .refused error spared
          · rw [stored]
            exact .created created _ fixed spared workspaces
    · exact .refused _ spared
  · dsimp only
    split_ifs
    · exact .refused _ spared
    · exact .refused _ spared

theorem updateGoverned_effect (draws : Draws) (actor : Actor) (workspaceId : String) (payload : Json) :
    Effect environment scanOther system (.updateGoverned draws actor workspaceId payload)
      (perform environment scanOther system (.updateGoverned draws actor workspaceId payload)) := by
  rw [perform]
  unfold updateGoverned
  split
  · rename_i fields
    unfold GovernedWorkspaces.updateWorkspace
    dsimp only
    cases planned : planUpdate environment system actor workspaceId fields with
    | error error =>
        refine .refused error ?_
        rintro ⟨⟨plan, other⟩, -⟩
        cases planned.symm.trans other
    | ok plan =>
        have governed : planGoverned environment scanOther system actor workspaceId (.dict fields) = .ok plan := planned
        obtain ⟨current, given, normalized, found, same, validated, kept⟩ := planGoverned_ok governed
        cases same
        have spoils : Spoils environment scanOther system (.updateGoverned draws actor workspaceId (.dict fields)) ↔
            Empties environment current fields := by
          constructor
          · rintro ⟨-, other, given, here, same, emptied⟩
            cases found.symm.trans here
            cases same
            exact emptied
          · intro emptied
            exact ⟨⟨plan, governed⟩, current, fields, found, rfl, emptied⟩
        dsimp only
        rw [applyUpdate_found found]
        by_cases null : plan.name = some none
        · rw [if_pos null]
          exact .refused _ (fun spoiled => spared_of_null validated kept null (spoils.mp spoiled))
        · rw [if_neg null]
          exact .updated workspaceId draws.base.updatedAt current fields normalized plan _ found validated kept null
            spoils rfl
  · rename_i other
    have spared : ¬ Spoils environment scanOther system (.updateGoverned draws actor workspaceId payload) := by
      rintro ⟨-, workspace, fields, -, same, -⟩
      exact other fields same
    cases authorize environment system actor workspaceId "update" with
    | error error => exact .refused error spared
    | ok pair => exact .refused _ spared

theorem perform_effect (environment : Environment) (scanOther : Json → Option String) (system : System)
    (command : Command) :
    Effect environment scanOther system command (perform environment scanOther system command) := by
  cases command with
  | createOwned draw actor payload => exact createOwned_effect draw actor payload
  | updateOwned draw actor workspaceId payload => exact updateOwned_effect draw actor workspaceId payload
  | createGoverned draws actor payload => exact createGoverned_effect draws actor payload
  | updateGoverned draws actor workspaceId payload => exact updateGoverned_effect draws actor workspaceId payload

end

section

variable {environment : Environment} {scanOther : Json → Option String} {system : System}

/-- A command keeps every workspace creatable exactly when it spoils none. -/
theorem perform_creatable_iff (command : Command)
    (kept : ∀ workspace ∈ system.base.workspaces, Creatable environment workspace) :
    (∀ workspace ∈ (perform environment scanOther system command).2.base.workspaces, Creatable environment workspace) ↔
      ¬ Spoils environment scanOther system command := by
  have effect := perform_effect environment scanOther system command
  generalize perform environment scanOther system command = answer at effect ⊢
  cases effect with
  | refused error spared => exact iff_of_true kept spared
  | created created after fixed spared workspaces =>
      refine iff_of_true ?_ spared
      rw [workspaces]
      intro workspace member
      rcases List.mem_append.mp member with old | new
      · exact kept workspace old
      · rw [List.mem_singleton.mp new]
        exact fixed.creatable
  | updated workspaceId now current fields normalized plan after found validated planned named spoils workspaces =>
      have stored : current ∈ system.base.workspaces := List.mem_of_find?_eq_some found
      have same : current.id = workspaceId := WorkspaceGuards.find_id found
      rw [spoils, ← rewritten_fixed_iff (kept current stored).fixed validated planned named now, workspaces]
      constructor
      · intro all
        exact (all _ (List.mem_map.mpr ⟨current, stored, if_pos same⟩)).fixed
      · intro fixed workspace member
        obtain ⟨before, inside, rfl⟩ := List.mem_map.mp member
        by_cases here : before.id = workspaceId
        · rw [if_pos here]
          exact fixed.creatable
        · rw [if_neg here]
          exact kept before inside

theorem performAll_concat (before : List Command) (command : Command) :
    performAll environment scanOther {} (before ++ [command]) =
      (perform environment scanOther (performAll environment scanOther {} before) command).2 := by
  rw [performAll, List.foldl_append]
  rfl

theorem performAll_creatable {commands : List Command}
    (spared : ∀ before command after, commands = before ++ command :: after →
      ¬ Spoils environment scanOther (performAll environment scanOther {} before) command) :
    ∀ workspace ∈ (performAll environment scanOther {} commands).base.workspaces, Creatable environment workspace := by
  induction commands using List.reverseRecOn with
  | nil => simp [performAll]
  | append_singleton before command ih =>
      have earlier := ih fun first next rest split =>
        spared first next (rest ++ [command]) (by rw [split]; simp)
      rw [performAll_concat]
      exact (perform_creatable_iff command earlier).mpr (spared before command [] rfl)

variable (environment scanOther)

/-- Over every run: the stored workspaces stay creatable, and refusals change nothing, exactly when no update that
is let through blanks a name or empties the operators of a shared workspace. -/
theorem wellKept_iff (commands : List Command) :
    WellKept environment scanOther commands ↔ ∀ before command after, commands = before ++ command :: after →
      ¬ Spoils environment scanOther (performAll environment scanOther {} before) command := by
  constructor
  · rintro kept before command after rfl
    have first := kept.creatable before (List.prefix_append _ _)
    have second := kept.creatable (before ++ [command]) ⟨after, by simp⟩
    rw [performAll_concat] at second
    exact (perform_creatable_iff command first).mp second
  · intro spared
    constructor
    · rintro before ⟨rest, rfl⟩
      exact performAll_creatable fun first command after split =>
        spared first command (after ++ rest) (by rw [split]; simp)
    · intro before command after error split refused
      have effect := perform_effect environment scanOther (performAll environment scanOther {} before) command
      generalize perform environment scanOther (performAll environment scanOther {} before) command = answer
        at effect refused ⊢
      cases effect with
      | refused => rfl
      | created => cases refused
      | updated => cases refused

end

open WorkspaceGuards (plainEnvironment ada draw)

/-- A private workspace, and an update whose name is one space. -/
def blanked : List Command :=
  [.createOwned (draw "1").base ada (DataTree.Tree.dict [("name", Json.str "Plans"), ("query", DataTree.Tree.dict []),
      ("visibility", Json.str "private")]),
    .updateOwned (draw "2").base ada "ws-1" (DataTree.Tree.dict [("name", Json.str " ")])]

theorem blank_name_stored :
    (performAll plainEnvironment (fun _ => none) {} blanked).base.workspaces.map Workspace.name = [""] ∧
      ¬ WellKept plainEnvironment (fun _ => none) blanked := by
  have names : (performAll plainEnvironment (fun _ => none) {} blanked).base.workspaces.map Workspace.name = [""] := by
    decide
  refine ⟨names, fun kept => ?_⟩
  have blank : "" ∈ (performAll plainEnvironment (fun _ => none) {} blanked).base.workspaces.map Workspace.name := by
    rw [names]
    exact List.mem_singleton_self _
  obtain ⟨workspace, stored, empty⟩ := List.mem_map.mp blank
  exact (kept.creatable blanked List.prefix_rfl workspace stored).named.1 empty

end AutonomousApi.WorkspaceUpdates
