import AutonomousApi.CommandBoundary

/-! What a command is decided on. The gateway folds the rows that a limited query returns, in the
order of their texts; the whole log has a governance state of its own. Both folds leave in each slot
what its last writer wrote, and the two agree when their last writers do. -/

namespace AutonomousApi.CommandDecisions

open OrderedMap ObservatoryEvents CommandBoundary LastWrite

variable (platform : Platform)

section

def safeModeOf (event : Event) : Option SafeMode :=
  if event.type = "safe_mode_enabled" then some .enabled
  else if event.type = "safe_mode_disabled" then some .disabled
  else none

/-- The authority that an event names. -/
def updateOf (event : Event) : Option Record :=
  if event.type = "authority_updated" then
    match (get event.payload "authority").getD (.dict []) with
    | .dict entries => some entries
    | _ => none
  else none

def authorityOf (key : String) (event : Event) : Option String :=
  (updateOf event).bind fun entries => get (normalizedAuthority platform entries) key

variable {platform} {state : GovernanceState} {event : Event}

theorem keys_overwrite {normalized authority : Dict String String} {known : List String}
    (present : ∀ key ∈ known, key ∈ keys authority) : keys (overwrite normalized authority known) = keys authority := by
  induction known generalizing authority with
  | nil => rfl
  | cons key rest ih =>
      have later : ∀ key ∈ rest, key ∈ keys authority :=
          fun other member => present other (List.mem_cons_of_mem _ member)
      rw [overwrite]
      cases get normalized key with
      | none => exact ih later
      | some value =>
          have same : keys (assign authority key value) = keys authority := by
            rw [keys_assign, if_pos (present key List.mem_cons_self)]
          exact (ih (same ▸ later)).trans same

theorem get_overwrite (normalized authority : Dict String String) (known : List String) (wanted : String) :
    get (overwrite normalized authority known) wanted =
      if wanted ∈ known then (get normalized wanted).or (get authority wanted) else get authority wanted := by
  induction known generalizing authority with
  | nil => simp [overwrite]
  | cons key rest ih =>
      rw [overwrite]
      cases found : get normalized key with
      | none =>
          dsimp only
          rw [ih]
          by_cases same : wanted = key
          · simp [same, found]
          · simp [same]
      | some value =>
          dsimp only
          rw [ih, get_assign]
          by_cases same : wanted = key
          · simp [same, found]
          · simp [same, Ne.symm same]

/-- An event writes the safe mode, or leaves it. -/
theorem safeMode_applyEvent (state : GovernanceState) (event : Event) :
    (applyEvent platform state event).safeMode = (safeModeOf event).getD state.safeMode := by
  rw [applyEvent, safeModeOf]
  by_cases authority : event.type = "authority_updated"
  · rw [if_pos authority, authority, if_neg (by decide), if_neg (by decide)]
    split <;> rfl
  rw [if_neg authority]
  by_cases gate : event.type = "gate_updated"
  · rw [if_pos gate, gate, if_neg (by decide), if_neg (by decide)]
    split <;> rfl
  rw [if_neg gate]
  by_cases enabled : event.type = "safe_mode_enabled"
  · rw [if_pos enabled, if_pos enabled, Option.getD_some]
  rw [if_neg enabled, if_neg enabled]
  by_cases disabled : event.type = "safe_mode_disabled"
  · rw [if_pos disabled, if_pos disabled, Option.getD_some]
  rw [if_neg disabled, if_neg disabled, Option.getD_none]
  split_ifs <;> rfl

theorem currentAuthority_applyEvent (state : GovernanceState) (event : Event) :
    (applyEvent platform state event).currentAuthority =
      match updateOf event with
      | some entries => updateAuthority state.currentAuthority (normalizedAuthority platform entries)
      | none => state.currentAuthority := by
  rw [applyEvent, updateOf]
  by_cases authority : event.type = "authority_updated"
  · rw [if_pos authority, if_pos authority]
    cases (get event.payload "authority").getD (.dict []) <;> rfl
  rw [if_neg authority, if_neg authority]
  by_cases gate : event.type = "gate_updated"
  · rw [if_pos gate]
    split <;> rfl
  rw [if_neg gate]
  split_ifs <;> rfl

theorem keys_applyEvent (event : Event) (aligned : keys state.currentAuthority = keys defaultAuthority) :
    keys (applyEvent platform state event).currentAuthority = keys defaultAuthority := by
  rw [currentAuthority_applyEvent]
  cases updateOf event with
  | none => exact aligned
  | some entries => exact (keys_overwrite fun key member => aligned ▸ member).trans aligned

theorem authority_applyEvent (state : GovernanceState) (event : Event) {key : String}
    (known : key ∈ keys defaultAuthority) :
    get (applyEvent platform state event).currentAuthority key =
      (authorityOf platform key event).or (get state.currentAuthority key) := by
  rw [currentAuthority_applyEvent, authorityOf]
  cases updateOf event with
  | none => rfl
  | some entries =>
      dsimp only
      rw [updateAuthority, get_overwrite, if_pos known, Option.bind_some]

/-- The slot of a known key, as its last writer left it. -/
theorem authority_foldl (events : List Event) (state : GovernanceState) {key : String}
    (known : key ∈ keys defaultAuthority) :
    get (events.foldl (applyEvent platform) state).currentAuthority key =
      (lastWrite (authorityOf platform key) events).or (get state.currentAuthority key) :=
  @foldl_entry _ _ _ (fun state => get state.currentAuthority key) _ _
    (fun state event => authority_applyEvent state event known) events state

theorem safeMode_foldl (events : List Event) (state : GovernanceState) :
    (events.foldl (applyEvent platform) state).safeMode = (lastWrite safeModeOf events).getD state.safeMode :=
  foldl_slot safeMode_applyEvent events state

theorem keys_foldl (events : List Event) (state : GovernanceState)
    (aligned : keys state.currentAuthority = keys defaultAuthority) :
    keys (events.foldl (applyEvent platform) state).currentAuthority = keys defaultAuthority := by
  induction events generalizing state with
  | nil => exact aligned
  | cons event rest ih => exact ih _ (keys_applyEvent event aligned)

end

section

variable (rows : EventStore)

/-- All stored governance events in chronological order; those of one instant in the order of the query. -/
def chronology : List Event := sortAsc (categoryEvents rows .governance)

/-- The events that the gateway folds. -/
def window : List Event := sortAsc (eventsByCategory rows .governance 10000)

def complete : GovernanceState := (chronology rows).foldl (applyEvent platform) {}

def lastMode (events : List Event) : SafeMode := (lastWrite safeModeOf events).getD .unknown

def lastGrant (key : String) (events : List Event) : Option String :=
  (lastWrite (authorityOf platform key) events).or (get defaultAuthority key)

/-- A command is decided on the safe mode and the authority of the whole log. -/
structure Governed : Prop where
  safeMode : (governance platform rows).safeMode = (complete platform rows).safeMode
  authority : (governance platform rows).currentAuthority = (complete platform rows).currentAuthority
  accepted : ∀ action params actor read now requestId,
    (requestCommand platform rows action params actor read now).1 = .ok requestId → action ≠ "safe_mode_disable" →
      lastWrite safeModeOf (chronology rows) ≠ some .enabled ∧
        ∃ key allowed granted, needs action = some (key, allowed) ∧
          lastGrant platform key (chronology rows) = some granted ∧ granted ∈ allowed

/-- The last writer among the first ten thousand rows, in the order of their texts, leaves what the
last writer of the whole log leaves, for the safe mode and for each authority. -/
structure Agree : Prop where
  safeMode : lastMode (window rows) = lastMode (chronology rows)
  authority : ∀ key ∈ keys defaultAuthority, lastGrant platform key (window rows) = lastGrant platform key
      (chronology rows)

variable {platform} {rows}

theorem governance_eq : governance platform rows = (window rows).foldl (applyEvent platform) {} := by
  have all : (eventsByCategory rows .governance 10000).filter (fun event => event.category = .governance) =
      eventsByCategory rows .governance 10000 := by
    rw [List.filter_eq_self]
    intro event member
    have inside := (List.mem_insertionSort _).mp (List.mem_of_mem_take member)
    exact (List.mem_filter.mp inside).2
  rw [governance, buildGovernanceState, all, window]

variable {action : String} {actor : Actor}

theorem needs_known {key : String} {allowed : List String} (need : needs action = some (key, allowed)) :
    key ∈ keys defaultAuthority := by
  unfold needs at need
  split at need <;> cases need <;> decide

theorem authorize_ok {authority : Dict String String} (command : action ∈ commandActions)
    (passed : authorize action actor authority = .ok ()) :
    ∃ key allowed granted, needs action = some (key, allowed) ∧ get authority key = some granted ∧
      granted ∈ allowed := by
  have unread : action ∉ readActions := by
    have apart : ∀ command ∈ commandActions, command ∉ readActions := by decide
    exact apart action command
  rw [authorize, if_neg fun both => both.2 command] at passed
  cases checked : checkActor action actor with
  | error reason => simp [checked, bind, Except.bind] at passed
  | ok passing =>
      simp only [checked, bind, Except.bind, if_neg unread, checkAuthority] at passed
      cases need : needs action with
      | none => simp [need] at passed
      | some pair =>
          obtain ⟨key, allowed⟩ := pair
          simp only [need] at passed
          cases held : get authority key with
          | none => simp [authorized, held] at passed
          | some granted =>
              refine ⟨key, allowed, granted, rfl, held, ?_⟩
              by_contra missing
              simp [authorized, held, missing] at passed

/-- What a command was accepted on. -/
theorem accepted_cases {params : Record} {read now : Datetime} {requestId : String}
    (accepted : (requestCommand platform rows action params actor read now).1 = .ok requestId) :
    ((governance platform rows).safeMode ≠ .enabled ∨ action = "safe_mode_disable") ∧
      ∃ key allowed granted, needs action = some (key, allowed) ∧
        get (governance platform rows).currentAuthority key = some granted ∧ granted ∈ allowed := by
  rw [requestCommand] at accepted
  by_cases command : action ∈ commandActions
  · rw [if_neg (not_not_intro command)] at accepted
    by_cases blocked : (governance platform rows).safeMode = .enabled ∧ action ≠ "safe_mode_disable"
    · simp only [if_pos blocked] at accepted
      cases accepted
    · simp only [if_neg blocked] at accepted
      refine ⟨?_, ?_⟩
      · by_cases enabled : (governance platform rows).safeMode = .enabled
        · exact .inr (by_contra fun other => blocked ⟨enabled, other⟩)
        · exact .inl enabled
      · cases passed : authorize action actor (governance platform rows).currentAuthority with
        | error reason => simp [passed] at accepted
        | ok passing => exact authorize_ok command passed
  · simp [if_pos command] at accepted

theorem decisions_iff : Governed platform rows ↔ Agree platform rows := by
  have aligned (events : List Event) := @keys_foldl platform events {} rfl
  constructor
  · intro governed
    refine ⟨?_, fun key known => ?_⟩
    · have same := governed.safeMode
      rwa [governance_eq, complete, safeMode_foldl, safeMode_foldl] at same
    · have same := congrArg (get · key) governed.authority
      simp only [governance_eq, complete] at same
      rwa [authority_foldl _ _ known, authority_foldl _ _ known] at same
  · intro agree
    have safeMode : (governance platform rows).safeMode = (complete platform rows).safeMode := by
      rw [governance_eq, complete, safeMode_foldl, safeMode_foldl]
      exact agree.safeMode
    have authority : (governance platform rows).currentAuthority = (complete platform rows).currentAuthority := by
      rw [governance_eq, complete]
      refine eq_of_keys ?_ ((aligned _).trans (aligned _).symm) fun key member => ?_
      · rw [aligned]
        decide
      · have known : key ∈ keys defaultAuthority := aligned (window rows) ▸ member
        rw [authority_foldl _ _ known, authority_foldl _ _ known]
        exact agree.authority key known
    refine ⟨safeMode, authority, fun action params actor read now requestId accepted other => ?_⟩
    obtain ⟨mode, key, allowed, granted, need, held, member⟩ := accepted_cases accepted
    refine ⟨fun enabled => ?_, key, allowed, granted, need, ?_, member⟩
    · refine (mode.resolve_right other) ?_
      rw [safeMode, complete, safeMode_foldl, enabled]
      rfl
    · rw [authority, complete, authority_foldl _ _ (needs_known need)] at held
      exact held

end

/-- Audited rejections of one instant, told apart by their ids. -/
def rejection (number : Nat) : Event :=
  { id := String.ofList (List.replicate (number + 1) 'r'), timestamp := { year := 2026, month := 1, day := 1 },
    source := "observatory_gateway", category := .governance, type := "command_rejected", subjectId := "GOVERNANCE" }

/-- The operator enables safe mode a day later. -/
def enabling : Event :=
  { id := "enable", timestamp := { year := 2026, month := 1, day := 2 }, source := "operator", category := .governance,
    type := "safe_mode_enabled", subjectId := "GOVERNANCE" }

def flood (count : Nat) : List Event := (List.range count).map rejection ++ [enabling]

def plainPlatform : Platform := ⟨PythonText.asciiTable, id, ⟨JsonText.exactDecimals, id⟩⟩

theorem flood_ids (count : Nat) : ((flood count).map Event.id).Nodup := by
  have ids : (flood count).map Event.id =
      (List.range count).map (fun number => String.ofList (List.replicate (number + 1) 'r')) ++ ["enable"] := by
    simp only [flood, List.map_append, List.map_map, List.map_cons, List.map_nil]
    rfl
  rw [ids, List.nodup_append]
  refine ⟨(List.nodup_map_iff fun left right same => ?_).mpr List.nodup_range, List.nodup_singleton _, ?_⟩
  · simpa using congrArg List.length (String.ofList_injective same)
  · intro name member other last same
    obtain ⟨number, -, rfl⟩ := List.mem_map.mp member
    rw [List.mem_singleton.mp last] at same
    have letters : 'e' ∈ List.replicate (number + 1) 'r' := by
      rw [← @String.toList_ofList (List.replicate (number + 1) 'r'), same]
      decide
    exact absurd (List.eq_of_mem_replicate letters) (by decide)

theorem flood_events (count : Nat) :
    categoryEvents (appendAll plainPlatform.hashing [] (flood count)) .governance =
      ((List.range count).map rejection).insertionSort textOrder ++ [enabling] := by
  have stored : (appendAll plainPlatform.hashing [] (flood count)).map Row.event = flood count := by
    rw [appendAll_fresh _ _ _ (flood_ids count) fun row member => by cases member]
    simp only [List.nil_append, List.map_map, flood, List.map_append, List.map_cons, List.map_nil]
    rfl
  have all : (flood count).filter (fun event => event.category = .governance) = flood count := by
    rw [List.filter_eq_self]
    intro event member
    rcases List.mem_append.mp member with inside | last
    · obtain ⟨number, -, rfl⟩ := List.mem_map.mp inside
      rfl
    · rw [List.mem_singleton.mp last]
      rfl
  rw [categoryEvents, stored, all, flood]
  refine insertionSort_concat fun event member => ?_
  obtain ⟨number, -, rfl⟩ := List.mem_map.mp member
  have earlier : ({ year := 2026, month := 1, day := 1 } : Datetime).isoformat <
      ({ year := 2026, month := 1, day := 2 } : Datetime).isoformat := by decide
  exact .inl earlier

/-- Rejections that come before the safe mode is enabled leave the gateway's window without it as soon
as they fill it. -/
theorem flood_windows {count : Nat} (filled : count = 10000) :
    lastWrite safeModeOf (window (appendAll plainPlatform.hashing [] (flood count))) = none ∧
      lastWrite safeModeOf (chronology (appendAll plainPlatform.hashing [] (flood count))) = some .enabled := by
  have rejected {event : Event} (member : event ∈ ((List.range count).map rejection).insertionSort textOrder) :
      ∃ number, rejection number = event := by
    obtain ⟨number, -, same⟩ := List.mem_map.mp ((List.mem_insertionSort _).mp member)
    exact ⟨number, same⟩
  have length : (((List.range count).map rejection).insertionSort textOrder).length = 10000 := by
    rw [List.length_insertionSort, List.length_map, List.length_range, filled]
  constructor
  · apply lastWrite_eq_none
    intro event member
    rw [window, eventsByCategory, flood_events, List.take_left' length] at member
    obtain ⟨number, rfl⟩ := rejected ((List.mem_insertionSort _).mp member)
    rfl
  · have last : chronology (appendAll plainPlatform.hashing [] (flood count)) =
        sortAsc (((List.range count).map rejection).insertionSort textOrder) ++ [enabling] := by
      rw [chronology, flood_events, sortAsc]
      refine insertionSort_concat fun event member => ?_
      obtain ⟨number, rfl⟩ := rejected member
      have earlier : ({ year := 2026, month := 1, day := 1 } : Datetime).instant ≤
          ({ year := 2026, month := 1, day := 2 } : Datetime).instant := by decide
      exact earlier
    rw [last, lastWrite_append]
    rfl

/-- Ten thousand rejections hide the safe mode that was enabled after them. -/
theorem flood_ungoverned : ¬ Governed plainPlatform (appendAll plainPlatform.hashing [] (flood 10000)) := by
  intro governed
  obtain ⟨hidden, enabled⟩ := @flood_windows 10000 rfl
  have agree := (decisions_iff.mp governed).safeMode
  rw [lastMode, lastMode, hidden, enabled] at agree
  cases agree

end AutonomousApi.CommandDecisions
