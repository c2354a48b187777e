import AutonomousApi.GovernancePayload
import AutonomousApi.GovernanceStoreLaws
import AutonomousApi.RuntimeControl

/-! The kill switch and the candidates share their tables but not their rows, as long as no
candidate has the name of the switch's scope. Then the switch follows its own commands, and
a candidate's history is the one that its governance commands alone would have left. One
governance record under the scope name makes the switch unreadable. -/

namespace AutonomousApi.RuntimeControlLaws

open DataTree JsonValue JsonCodec OrderedMap Governance GovernanceStore GovernanceStoreLaws RuntimeControl

section

def activated (reason actor now : String) : KillSwitchState :=
  { enabled := true, reason := .str reason, activatedBy := .str actor, activatedAt := .str now }

def deactivated (current : KillSwitchState) (actor reason now : String) : KillSwitchState :=
  { enabled := false, reason := orElse reason current.reason, activatedBy := current.activatedBy,
    activatedAt := current.activatedAt, deactivatedBy := .str actor, deactivatedAt := .str now }

variable {Weight : Type}

/-- The kill switch as its commands alone drive it. A repeated command changes nothing. -/
def KillSwitchState.after (state : KillSwitchState) : Command Weight → KillSwitchState
  | .activate reason actor now => if state.enabled then state else activated reason actor now
  | .deactivate actor reason now => if state.enabled then deactivated state actor reason now else state
  | _ => state

def Command.switches : Command Weight → Bool
  | .activate .. | .deactivate .. => true
  | _ => false

/-- Whether the last kill-switch command is an activation. -/
def lastActivates (history : List (Command Weight)) : Bool :=
  match (history.filter Command.switches).getLast? with
  | some (.activate ..) => true
  | _ => false

theorem enabled_after (history : List (Command Weight)) :
    (history.foldl KillSwitchState.after {}).enabled = lastActivates history := by
  induction history using List.reverseRecOn with
  | nil => rfl
  | append_singleton earlier command ih =>
      rw [List.foldl_append, List.foldl_cons, List.foldl_nil, lastActivates, List.filter_append]
      cases command with
      | activate reason actor now =>
          have last : (KillSwitchState.after (earlier.foldl KillSwitchState.after {})
              (.activate reason actor now : Command Weight)).enabled = true := by
            rw [KillSwitchState.after]
            split
            · next on => exact on
            · rfl
          simp [last, Command.switches]
      | deactivate actor reason now =>
          have last : (KillSwitchState.after (earlier.foldl KillSwitchState.after {})
              (.deactivate actor reason now : Command Weight)).enabled = false := by
            rw [KillSwitchState.after]
            split
            · rfl
            · next off => exact Bool.eq_false_iff.mpr off
          simp [last, Command.switches]
      | _ => simpa [KillSwitchState.after, Command.switches, lastActivates] using ih

theorem after_governs (state : KillSwitchState) {command : Command Weight}
    (governs : Command.switches command = false) :
    KillSwitchState.after state command = state := by
  cases command <;> first | rfl | cases governs

/-- Governance commands do not drive the switch. -/
theorem foldl_switches (state : KillSwitchState) (history : List (Command Weight)) :
    (history.filter Command.switches).foldl KillSwitchState.after state =
      history.foldl KillSwitchState.after state := by
  induction history generalizing state with
  | nil => rfl
  | cons command rest ih =>
      cases kind : Command.switches command with
      | true => rw [List.filter_cons_of_pos kind, List.foldl_cons, List.foldl_cons, ih]
      | false =>
          rw [List.filter_cons_of_neg (by simp [kind]), List.foldl_cons, after_governs state kind, ih]

/-- A state whose fields are texts or null, as the commands record them. -/
structure Plain (state : KillSwitchState) : Prop where
  reason : ∃ atom, state.reason = .atom atom
  activatedBy : ∃ atom, state.activatedBy = .atom atom
  activatedAt : ∃ atom, state.activatedAt = .atom atom

theorem Plain.deactivated {state : KillSwitchState} (plain : Plain state) (actor reason now : String) :
    Plain (RuntimeControlLaws.deactivated state actor reason now) := by
  refine ⟨?_, plain.activatedBy, plain.activatedAt⟩
  rw [RuntimeControlLaws.deactivated, orElse]
  split
  · exact plain.reason
  · exact ⟨_, rfl⟩

variable (platform : Platform)

theorem describe_activation (reason actor now : String) :
    describe platform activateEvent (dumps .compact platform.numbers (activation reason actor now)) =
      .ok (activated reason actor now) := by
  obtain ⟨record, read, entry⟩ := loads_record platform.numbers .compact
    [("reason", .str reason), ("actor", .str actor), ("at", .str now)]
    ((distinct_dict_iff _).mpr ⟨by simp, by simp [Distinct]⟩)
  rw [describe, activation, read]
  simp [field, entry, OrderedMap.get, sortKeys, activated]

theorem describe_deactivation {current : KillSwitchState} (plain : Plain current) (actor reason now : String) :
    describe platform deactivateEvent (dumps .compact platform.numbers (deactivation current actor reason now)) =
      .ok (deactivated current actor reason now) := by
  obtain ⟨⟨reasonAtom, reasonIs⟩, ⟨byAtom, byIs⟩, ⟨atAtom, atIs⟩⟩ := plain
  obtain ⟨kept, keptIs⟩ : ∃ atom, orElse reason current.reason = .atom atom := by
    rw [orElse]
    split
    · exact ⟨reasonAtom, reasonIs⟩
    · exact ⟨_, rfl⟩
  obtain ⟨record, read, entry⟩ := loads_record platform.numbers .compact
    [("reason", .atom kept), ("actor", .str actor), ("at", .str now), ("previous_activated_by", .atom byAtom),
      ("previous_activated_at", .atom atAtom)]
    ((distinct_dict_iff _).mpr ⟨by simp, by simp [Distinct]⟩)
  rw [describe, deactivation, keptIs, byIs, atIs, read]
  simp [field, entry, OrderedMap.get, sortKeys, deactivated, deactivateEvent, activateEvent, keptIs, byIs, atIs]

/-- What the kill switch reads where its scope holds the rows of these entries. -/
theorem getKillSwitch_holds {signer : Signer} {database : Database} {entries : List Entry}
    (holds : Holds signer database runtimeScope entries) :
    getKillSwitch signer database =
      match entries.getLast? with
      | none => .ok {}
      | some entry => describe signer.platform entry.1 entry.2 := by
  have verified : verifyChain signer (chainOf signer runtimeScope entries) = .ok () :=
    verifyFrom_signedRows signer runtimeScope 1 "" entries
  have carried := congrArg List.getLast? (signedRows_entries signer runtimeScope 1 "" entries)
  rw [List.getLast?_map] at carried
  simp only [getKillSwitch, holds.records, verified]
  rw [← carried, chainOf]
  cases (signedRows signer runtimeScope 1 "" entries).getLast? <;> rfl

end

section

variable {signer : Signer} {database : Database} {state : KillSwitchState}

/-- The scope of the kill switch holds rows that describe the state. -/
def Switched (signer : Signer) (database : Database) (state : KillSwitchState) : Prop :=
  Plain state ∧ getKillSwitch signer database = .ok state ∧ ∃ entries, Holds signer database runtimeScope entries

/-- The rows of every other scope stay as they are. -/
def OthersKept (signer : Signer) (database next : Database) : Prop :=
  ∀ other more, other ≠ runtimeScope → Holds signer database other more → Holds signer next other more

/-- A control record commits, is what the switch reads next, and touches no other scope. -/
theorem appendControl_switched {entries : List Entry} (holds : Holds signer database runtimeScope entries)
    (eventType : String) (payload : Json) :
    ∃ next, appendControl signer database eventType payload = some next ∧
      getKillSwitch signer next =
        describe signer.platform eventType (dumps .compact signer.platform.numbers payload) ∧
      (∃ more, Holds signer next runtimeScope more) ∧ OthersKept signer database next := by
  obtain ⟨next, inserted, grown⟩ :=
    holds.append (List.cons_ne_nil (eventType, dumps .compact signer.platform.numbers payload) [])
  have own := grown runtimeScope entries holds
  rw [if_pos rfl] at own
  have read := getKillSwitch_holds own
  rw [List.getLast?_append, List.getLast?_singleton, Option.some_or] at read
  refine ⟨next, inserted, read, ⟨_, own⟩, ?_⟩
  intro other more apart held
  simpa [Ne.symm apart] using grown other more held

theorem activate_switched (switched : Switched signer database state) (reason actor now : String) :
    let next := (activateKillSwitch signer database reason actor now).1
    Switched signer next (if state.enabled then state else activated reason actor now) ∧
      OthersKept signer database next := by
  obtain ⟨plain, current, entries, holds⟩ := switched
  simp only [activateKillSwitch, current]
  by_cases on : state.enabled = true
  · simp only [on, if_true]
    exact ⟨⟨plain, current, entries, holds⟩, fun _ _ _ held => held⟩
  · obtain ⟨next, appended, read, own, others⟩ :=
      appendControl_switched holds activateEvent (activation reason actor now)
    rw [describe_activation] at read
    simp only [on, Bool.false_eq_true, if_false, appended]
    exact ⟨⟨⟨⟨_, rfl⟩, ⟨_, rfl⟩, ⟨_, rfl⟩⟩, read, own⟩, others⟩

theorem deactivate_switched (switched : Switched signer database state) (actor reason now : String) :
    let next := (deactivateKillSwitch signer database actor reason now).1
    Switched signer next (if state.enabled then deactivated state actor reason now else state) ∧
      OthersKept signer database next := by
  obtain ⟨plain, current, entries, holds⟩ := switched
  simp only [deactivateKillSwitch, current]
  by_cases on : state.enabled = true
  · obtain ⟨next, appended, read, own, others⟩ :=
      appendControl_switched holds deactivateEvent (deactivation state actor reason now)
    rw [describe_deactivation _ plain] at read
    simp only [on, if_true, Bool.not_true, Bool.false_eq_true, if_false, appended]
    exact ⟨⟨plain.deactivated actor reason now, read, own⟩, others⟩
  · simp only [on, Bool.not_false, Bool.false_eq_true, if_true, if_false]
    exact ⟨⟨plain, current, entries, holds⟩, fun _ _ _ held => held⟩

variable {Weight : Type} {settings : Settings Weight} {world : World Weight} {command : Command Weight}

/-- A kill-switch command drives the switch and leaves all else as it is. -/
theorem execute_switches (switched : Switched settings.signer world.database state)
    (switches : Command.switches command = true) :
    Switched settings.signer (world.execute settings command).database (KillSwitchState.after state command) ∧
      OthersKept settings.signer world.database (world.execute settings command).database ∧
      (world.execute settings command).council = world.council ∧
      (world.execute settings command).gates = world.gates := by
  cases command with
  | activate reason actor now =>
      obtain ⟨kept, others⟩ := activate_switched switched reason actor now
      exact ⟨kept, others, rfl, rfl⟩
  | deactivate actor reason now =>
      obtain ⟨kept, others⟩ := deactivate_switched switched actor reason now
      exact ⟨kept, others, rfl, rfl⟩
  | _ => cases switches

theorem execute_govern (governs : Command.switches command = false) :
    world.execute settings command = world.govern settings command := by
  cases command <;> first | rfl | cases governs

theorem reference_database (world : World Weight) (command : Command Weight) :
    (world.reference command).database = world.database := by
  cases command <;> rfl

/-- A governance command on another scope leaves the kill switch as it is. -/
theorem execute_governs (switched : Switched settings.signer world.database state)
    (governs : Command.switches command = false) (apart : command.scope ≠ some runtimeScope)
    (held : ∀ candidateId, candidateId ≠ runtimeScope →
      ∃ entries, Holds settings.signer world.database candidateId entries) :
    Switched settings.signer (world.execute settings command).database state := by
  obtain ⟨plain, current, entries, holds⟩ := switched
  rw [execute_govern governs, World.govern]
  split
  · next event candidateId found named =>
      have other : candidateId ≠ runtimeScope := fun same => apart (by rw [named, same])
      obtain ⟨own, ownHolds⟩ := held candidateId other
      obtain ⟨next, inserted, grown⟩ :=
        ownHolds.append (List.cons_ne_nil (entryOf settings.codec settings.signer event) [])
      have kept := grown runtimeScope entries holds
      rw [if_neg other, List.append_nil] at kept
      rw [World.append, reference_database, inserted]
      exact ⟨plain, by rw [getKillSwitch_holds kept, ← getKillSwitch_holds holds, current], entries, kept⟩
  · exact ⟨plain, current, entries, holds⟩

end

variable {Weight : Type} {settings : Settings Weight} {world other : World Weight}

/-- Two worlds that no candidate can tell apart. -/
structure Alike (settings : Settings Weight) (world other : World Weight) : Prop where
  council : world.council = other.council
  gates : world.gates = other.gates
  histories : ∀ candidateId, candidateId ≠ runtimeScope → ∃ events : List (Event Weight),
    Holds settings.signer world.database candidateId (events.map (entryOf settings.codec settings.signer)) ∧
      Holds settings.signer other.database candidateId (events.map (entryOf settings.codec settings.signer))

variable {candidateId : String} {command : Command Weight} {state : KillSwitchState}

theorem Alike.materialize (faithful : Faithful settings.codec) (alike : Alike settings world other)
    (apart : candidateId ≠ runtimeScope) :
    world.materialize settings candidateId = other.materialize settings candidateId := by
  obtain ⟨events, left, right⟩ := alike.histories candidateId apart
  rw [World.materialize, World.materialize, left.loaded faithful, right.loaded faithful]

theorem Alike.event (faithful : Faithful settings.codec) (alike : Alike settings world other)
    (apart : command.scope ≠ some runtimeScope) :
    world.event settings command = other.event settings command := by
  cases command with
  | requestDecision request now =>
      have candidate : request.candidateId ≠ runtimeScope := fun same => apart (by rw [Command.scope, same])
      rw [World.event, World.event, alike.materialize faithful candidate, alike.council, alike.gates]
  | _ => rfl

theorem Alike.reference (alike : Alike settings world other) (command : Command Weight) :
    Alike settings (world.reference command) (other.reference command) := by
  cases command with
  | updateCouncil members updatedBy updatedAt => exact ⟨rfl, alike.gates, alike.histories⟩
  | registerGate gate => exact ⟨alike.council, congrArg (assign · gate.gateId gate) alike.gates, alike.histories⟩
  | _ => exact alike

theorem Alike.append (alike : Alike settings world other) (apart : candidateId ≠ runtimeScope)
    (event : Event Weight) :
    Alike settings (world.append settings candidateId event) (other.append settings candidateId event) := by
  obtain ⟨events, left, right⟩ := alike.histories candidateId apart
  have present := List.cons_ne_nil (entryOf settings.codec settings.signer event) []
  obtain ⟨nextLeft, insertedLeft, grownLeft⟩ := left.append present
  obtain ⟨nextRight, insertedRight, grownRight⟩ := right.append present
  rw [World.append, World.append, insertedLeft, insertedRight]
  refine ⟨alike.council, alike.gates, fun wanted named => ?_⟩
  obtain ⟨held, heldLeft, heldRight⟩ := alike.histories wanted named
  refine ⟨held ++ if candidateId = wanted then [event] else [], ?_⟩
  have entries : (held ++ if candidateId = wanted then [event] else []).map (entryOf settings.codec settings.signer) =
      held.map (entryOf settings.codec settings.signer) ++
        if candidateId = wanted then [entryOf settings.codec settings.signer event] else [] := by
    split <;> simp
  rw [entries]
  exact ⟨grownLeft wanted _ heldLeft, grownRight wanted _ heldRight⟩

/-- A governance command does the same to two such worlds. -/
theorem Alike.governs (faithful : Faithful settings.codec) (alike : Alike settings world other)
    (governs : Command.switches command = false)
    (apart : command.scope ≠ some runtimeScope) :
    Alike settings (world.execute settings command) (other.execute settings command) := by
  rw [execute_govern governs, execute_govern governs, World.govern, World.govern, ← alike.event faithful apart]
  split
  · next event candidateId found named =>
      exact (alike.reference command).append (fun same => apart (by rw [named, same])) event
  · exact alike

/-- A kill-switch command keeps a world like another that does not execute it. -/
theorem Alike.switches (alike : Alike settings world other) (switched : Switched settings.signer world.database state)
    (switches : Command.switches command = true) : Alike settings (world.execute settings command) other := by
  obtain ⟨-, others, council, gates⟩ := execute_switches switched switches
  refine ⟨council.trans alike.council, gates.trans alike.gates, fun candidateId apart => ?_⟩
  obtain ⟨events, left, right⟩ := alike.histories candidateId apart
  exact ⟨events, others candidateId _ apart left, right⟩

/-- Along a history that keeps its candidates apart from the scope of the switch, the switch
follows its own commands, and candidates see the governance commands only. -/
theorem run_apart (faithful : Faithful settings.codec) (history : List (Command Weight))
    (apart : ∀ command ∈ history, command.scope ≠ some runtimeScope)
    (switched : Switched settings.signer world.database state) (alike : Alike settings world other) :
    Switched settings.signer (world.run settings history).database (history.foldl KillSwitchState.after state) ∧
      Alike settings (world.run settings history)
        (other.run settings (history.filter fun command => !Command.switches command)) := by
  induction history generalizing world other state with
  | nil => exact ⟨switched, alike⟩
  | cons command rest ih =>
      have later := fun next member => apart next (List.mem_cons_of_mem command member)
      cases kind : Command.switches command with
      | true =>
          rw [List.filter_cons_of_neg (by simp [kind])]
          exact ih later (execute_switches switched kind).1 (alike.switches switched kind)
      | false =>
          have own := apart command List.mem_cons_self
          have kept := execute_governs switched kind own fun candidateId named =>
            (alike.histories candidateId named).imp' _ fun _ both => both.1
          rw [List.filter_cons_of_pos (by simp [kind]), List.foldl_cons, after_governs state kind]
          exact ih later kept (alike.governs faithful kind own)

/-- The kill switch and the candidates do not interfere as long as no governance command
names the scope of the switch and no one asks for a candidate of that name. -/
theorem scopes_isolated (faithful : Faithful settings.codec) (council : Option (List (CouncilMember Weight)))
    (gates : Dict String Gate) (history : List (Command Weight))
    (apart : ∀ command ∈ history, command.scope ≠ some runtimeScope) :
    let start : World Weight := { council, gates }
    (∃ state, getKillSwitch settings.signer (start.run settings history).database = .ok state ∧
      state = (history.filter Command.switches).foldl KillSwitchState.after {} ∧
      state.enabled = lastActivates history) ∧
    ∀ candidateId, candidateId ≠ runtimeScope →
      (start.run settings history).materialize settings candidateId =
        (start.run settings (history.filter fun command => !Command.switches command)).materialize settings
        candidateId := by
  intro start
  have switched : Switched settings.signer start.database {} :=
    ⟨⟨⟨_, rfl⟩, ⟨_, rfl⟩, ⟨_, rfl⟩⟩, rfl, [], ⟨rfl, rfl⟩⟩
  have alike : Alike settings start start := ⟨rfl, rfl, fun _ _ => ⟨[], ⟨rfl, rfl⟩, ⟨rfl, rfl⟩⟩⟩
  obtain ⟨⟨_, read, _⟩, same⟩ := run_apart faithful history apart switched alike
  exact ⟨⟨_, read, (foldl_switches {} history).symm, enabled_after history⟩, fun candidateId named =>
      same.materialize faithful named⟩

/-- An event under the scope of the switch leaves a record that the switch does not know. -/
theorem recorded_event_unreadable (faithful : Faithful settings.codec) {entries : List Entry}
    (holds : Holds settings.signer world.database runtimeScope entries) (event : Event Weight) :
    getKillSwitch settings.signer (world.append settings runtimeScope event).database = .error .unknownEvent := by
  obtain ⟨next, inserted, grown⟩ :=
    holds.append (List.cons_ne_nil (entryOf settings.codec settings.signer event) [])
  have own := grown runtimeScope entries holds
  rw [if_pos rfl] at own
  have known := faithful.known event
  have unlike : settings.codec.name event ≠ activateEvent ∧ settings.codec.name event ≠ deactivateEvent := by
    constructor <;> (intro same; rw [same] at known; exact absurd known (by decide))
  have read : loads settings.signer.platform.numbers (dumpEvent settings.codec settings.signer.platform event) =
      some _ :=
    loads_dumps _ .compact _ ((distinct_dict_iff _).mpr ⟨by simp, by simp [faithful.distinct event, Distinct]⟩)
  rw [World.append, inserted, getKillSwitch_holds own]
  simp [describe, entryOf, read, unlike]

def sampleSettings : Settings JsonFloat where
  quorum := ⟨.finite 1, .finite 1, .finite 0, fun weights => weights.headD (.finite 0), fun _ _ => false⟩
  certifiers := []
  signer := plainSigner
  codec := GovernancePayload.eventCodec

def incident : Command JsonFloat := .activate "incident" "ops" "t0"

/-- A revocation for a candidate with the name of the scope takes the active switch away,
and the activation itself makes that candidate's history unreadable. -/
theorem candidate_takes_switch :
    let start : World JsonFloat := {}
    let after := start.run sampleSettings [incident, .revokeCertification runtimeScope "c-1" "t1" "ada"]
    lastActivates [incident, .revokeCertification runtimeScope "c-1" "t1" "ada"] = true ∧
      getKillSwitch sampleSettings.signer after.database = .error .unknownEvent ∧
      (start.run sampleSettings []).materialize sampleSettings runtimeScope = .ok {} ∧
      (start.run sampleSettings [incident]).materialize sampleSettings runtimeScope = .error (.unknownType none) := by
  intro start after
  have switched : Switched sampleSettings.signer start.database {} :=
    ⟨⟨⟨_, rfl⟩, ⟨_, rfl⟩, ⟨_, rfl⟩⟩, rfl, [], ⟨rfl, rfl⟩⟩
  have holds : Holds sampleSettings.signer (start.run sampleSettings [incident]).database runtimeScope
      [(activateEvent, dumps .compact plainSigner.platform.numbers (activation "incident" "ops" "t0"))] :=
    ⟨rfl, rfl⟩
  refine ⟨rfl, recorded_event_unreadable GovernancePayload.eventCodec_faithful holds _, rfl, ?_⟩
  obtain ⟨record, read, entry⟩ := loads_record plainSigner.platform.numbers .compact
    [("reason", .str "incident"), ("actor", .str "ops"), ("at", .str "t0")]
    ((distinct_dict_iff _).mpr ⟨by simp, by simp [Distinct]⟩)
  have audited : audit sampleSettings.signer (start.run sampleSettings [incident]).database runtimeScope = .ok _ :=
    holds.audited
  rw [World.materialize, load, audited]
  simp only [chainOf, signedRows, loadAll, loadEvent]
  rw [activation]
  simp [sampleSettings, read, entry, OrderedMap.get, Except.map]

/-- A history in which the switch goes off again. -/
theorem switch_follows_commands :
    ∃ state, getKillSwitch sampleSettings.signer (World.run sampleSettings ({} : World JsonFloat)
        [incident, .revokeCertification "api-1" "c-1" "t1" "ada", .deactivate "ops" "" "t2"]).database = .ok state ∧
      state = ([incident, .deactivate "ops" "" "t2"] : List (Command JsonFloat)).foldl KillSwitchState.after {} ∧
      state.enabled = false :=
  (scopes_isolated GovernancePayload.eventCodec_faithful none []
    [incident, .revokeCertification "api-1" "c-1" "t1" "ada", .deactivate "ops" "" "t2"]
    (by decide)).1

end AutonomousApi.RuntimeControlLaws
