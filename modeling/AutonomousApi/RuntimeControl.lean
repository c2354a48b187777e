import AutonomousApi.Governance
import AutonomousApi.GovernanceStore

/-! The kill switch of core/runtime_control.py, and governance commands as they reach the
durable store. The switch keeps its records in the tables of the governance events, under a
scope name that stands where a candidate's id stands. -/

namespace AutonomousApi.RuntimeControl

open OrderedMap JsonValue JsonCodec Governance GovernanceStore

def runtimeScope : String := "__runtime__"

def activateEvent : String := "RuntimeKillSwitchActivated"

def deactivateEvent : String := "RuntimeKillSwitchDeactivated"

/-- `KillSwitchState`; its fields are what the recorded payload holds there. -/
structure KillSwitchState where
  enabled : Bool := false
  reason : Json := .str ""
  activatedBy : Json := .null
  activatedAt : Json := .null
  deactivatedBy : Json := .null
  deactivatedAt : Json := .null

/-- What the kill switch raises. -/
inductive ControlFault where
  | audit (fault : AuditFault)
  | malformed
  | unknownEvent
  | conflict
  deriving DecidableEq

def ControlFault.message : ControlFault → String
  | .audit fault => fault.message
  | .malformed => "malformed runtime kill-switch payload"
  | .unknownEvent => "unknown runtime kill-switch event; refusing to infer state"
  | .conflict => "UNIQUE constraint failed: governance_audit.candidate_id, governance_audit.sequence"

def field (record : List (String × Json)) (key : String) (default : Json) : Json := (get record key).getD default

/-- The state that the latest record describes. -/
def describe (platform : Platform) (eventType payload : String) : Except ControlFault KillSwitchState :=
  match loads platform.numbers payload with
  | none => .error .malformed
  | some latest =>
      if eventType = activateEvent then
        match latest with
        | .dict record => .ok
            { enabled := true, reason := field record "reason" (.str ""), activatedBy := field record "actor" .null,
              activatedAt := field record "at" .null }
        | _ => .error .malformed
      else if eventType = deactivateEvent then
        match latest with
        | .dict record => .ok
            { enabled := false, reason := field record "reason" (.str ""),
              activatedBy := field record "previous_activated_by" .null,
              activatedAt := field record "previous_activated_at" .null,
              deactivatedBy := field record "actor" .null, deactivatedAt := field record "at" .null }
        | _ => .error .malformed
      else .error .unknownEvent

variable (signer : Signer)

def getKillSwitch (database : Database) : Except ControlFault KillSwitchState :=
  let records := database.records runtimeScope
  match verifyChain signer records with
  | .error fault => .error (.audit fault)
  | .ok _ =>
      match records.getLast? with
      | none => .ok {}
      | some last => describe signer.platform last.eventType last.payload

/-- `_append`: one record after the last one of the scope. -/
def appendControl (database : Database) (eventType : String) (payload : Json) : Option Database :=
  database.insert signer runtimeScope (database.tail runtimeScope)
    [(eventType, dumps .compact signer.platform.numbers payload)]

def activation (reason actor now : String) : Json :=
  .obj [("reason", .str reason), ("actor", .str actor), ("at", .str now)]

/-- `reason or current.reason`. -/
def orElse (reason : String) (current : Json) : Json := if reason = "" then current else .str reason

def deactivation (current : KillSwitchState) (actor reason now : String) : Json :=
  .obj [("reason", orElse reason current.reason), ("actor", .str actor), ("at", .str now),
    ("previous_activated_by", current.activatedBy), ("previous_activated_at", current.activatedAt)]

def activateKillSwitch (database : Database) (reason actor now : String) :
    Database × Except ControlFault KillSwitchState :=
  match getKillSwitch signer database with
  | .error fault => (database, .error fault)
  | .ok current =>
      if current.enabled then (database, .ok current)
      else
        match appendControl signer database activateEvent (activation reason actor now) with
        | none => (database, .error .conflict)
        | some next => (next, getKillSwitch signer next)

def deactivateKillSwitch (database : Database) (actor reason now : String) :
    Database × Except ControlFault KillSwitchState :=
  match getKillSwitch signer database with
  | .error fault => (database, .error fault)
  | .ok current =>
      if !current.enabled then (database, .ok current)
      else
        match appendControl signer database deactivateEvent (deactivation current actor reason now) with
        | none => (database, .error .conflict)
        | some next => (next, getKillSwitch signer next)

variable {Weight : Type}

/-- The governance commands, and the two of the kill switch. A command carries the clock
reading of its handler, and the records that the handler has built and validated. -/
inductive Command (Weight : Type) where
  | requestDecision (command : RequestGovernanceDecision) (now : String)
  | recordGateEvaluation (outcome : GateOutcome)
  | grantCertification (certification : Certification)
  | revokeCertification (candidateId certificationId revokedAt revokedBy : String)
  | updateCouncil (members : List (CouncilMember Weight)) (updatedBy updatedAt : String)
  | registerGate (gate : Gate)
  | activate (reason actor now : String)
  | deactivate (actor reason now : String)

/-- The scope under which a governance command appends. -/
def Command.scope : Command Weight → Option String
  | .requestDecision command _ => some command.candidateId
  | .recordGateEvaluation outcome => some outcome.candidateId
  | .grantCertification certification => some certification.candidateId
  | .revokeCertification candidateId .. => some candidateId
  | .updateCouncil .. | .registerGate _ => some registry
  | .activate .. | .deactivate .. => none

/-- The reference store and the tables that governance and the kill switch share. -/
structure World (Weight : Type) where
  council : Option (List (CouncilMember Weight)) := none
  gates : Dict String Gate := []
  database : Database := {}

/-- What the application is configured with. -/
structure Settings (Weight : Type) where
  quorum : Quorum Weight
  certifiers : List String
  signer : Signer
  codec : EventCodec (Event Weight)

variable (settings : Settings Weight)

def World.materialize (world : World Weight) (candidateId : String) : Except StoreFault CandidateState :=
  (load settings.codec settings.signer world.database candidateId).map fold

/-- `append` of one event; a conflict raises, and nothing is stored. -/
def World.append (world : World Weight) (candidateId : String) (event : Event Weight) : World Weight :=
  match world.database.insert settings.signer candidateId (world.database.tail candidateId)
      [entryOf settings.codec settings.signer event] with
  | some database => { world with database }
  | none => world

/-- The event that a governance command appends, unless one of its checks refuses it. -/
def World.event (world : World Weight) : Command Weight → Option (Event Weight)
  | .requestDecision command now =>
      match world.materialize settings command.candidateId with
      | .error _ => none
      | .ok state =>
          match requestDecision settings.quorum (world.council.getD [])
              (world.gates.map Prod.snd) state command now with
          | .ok decision => some (.decisionMade decision)
          | .error _ => none
  | .recordGateEvaluation outcome =>
      match (checkG3 outcome : Except (Violation Weight) Unit) with
      | .ok _ => some (.gateEvaluated outcome)
      | .error _ => none
  | .grantCertification certification =>
      if settings.certifiers ≠ [] ∧ certification.certifiedBy ∉ settings.certifiers then none
      else some (.certificationGranted certification)
  | .revokeCertification _ certificationId revokedAt revokedBy =>
      some (.certificationRevoked certificationId revokedAt revokedBy)
  | .updateCouncil members updatedBy updatedAt => some (.councilUpdated members updatedBy updatedAt)
  | .registerGate gate => some (.gateRegistered gate)
  | .activate .. | .deactivate .. => none

/-- What a command writes to the reference store. -/
def World.reference (world : World Weight) : Command Weight → World Weight
  | .updateCouncil members _ _ => { world with council := some members }
  | .registerGate gate => { world with gates := assign world.gates gate.gateId gate }
  | _ => world

def World.govern (world : World Weight) (command : Command Weight) : World Weight :=
  match world.event settings command, command.scope with
  | some event, some candidateId => (world.reference command).append settings candidateId event
  | _, _ => world

def World.execute (world : World Weight) : Command Weight → World Weight
  | .activate reason actor now =>
      { world with database := (activateKillSwitch settings.signer world.database reason actor now).1 }
  | .deactivate actor reason now =>
      { world with database := (deactivateKillSwitch settings.signer world.database actor reason now).1 }
  | command => world.govern settings command

def World.run (world : World Weight) (history : List (Command Weight)) : World Weight :=
  history.foldl (World.execute settings) world

end AutonomousApi.RuntimeControl
