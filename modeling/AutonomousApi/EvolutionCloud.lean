import AutonomousApi.RecordTable
import AutonomousApi.Runs
import Mathlib.Data.List.Sort
import Mathlib.Algebra.GroupWithZero.Nat

/-! The engine of the distributed evolution cloud: compute nodes, what jobs hold on them, and the
campaigns whose jobs are placed, executed and retried (models.py, resources.py, scheduler.py,
fault.py and engine.py of distributed_evolution). Campaigns, jobs and nodes are tables in the
order of the source's dictionaries. Digests of names and readings of the clock come from outside. -/

namespace AutonomousApi.EvolutionCloud

open RecordTable

inductive JobKind where
  | evolution | simulation | compilation | verification
  deriving DecidableEq

inductive JobStatus where
  | pending | scheduled | running | completed | failed | cancelled
  deriving DecidableEq

inductive CampaignStatus where
  | pending | running | completed | failed
  deriving DecidableEq

inductive NodeStatus where
  | active | draining | failed | suspended
  deriving DecidableEq

inductive AllocationStatus where
  | allocated | released
  deriving DecidableEq

structure ResourceRequirements where
  cpu : Nat
  memoryMb : Nat
  regions : List String
  capabilities : List String
  cpuBound : 1 ≤ cpu
  memoryBound : 64 ≤ memoryMb
  deriving DecidableEq

/-- `ResourceRequirements()`. -/
def defaultRequirements : ResourceRequirements := ⟨1, 512, [], [], Nat.le_refl 1, Nat.le_add_right 64 448⟩

/-- The arguments of `register_node` that the node's own checks let through. -/
structure Registration where
  nodeId : String
  region : String
  capabilities : List String
  cpuCapacity : Nat
  memoryMbCapacity : Nat
  policyVersion : String
  publicKeyRef : String
  cpuBound : 1 ≤ cpuCapacity
  memoryBound : 128 ≤ memoryMbCapacity
  deriving DecidableEq

structure ComputeNode extends Registration where
  status : NodeStatus
  attested : Bool
  lastHeartbeat : Int
  deriving DecidableEq

structure ResourceAllocation where
  jobId : String
  nodeId : String
  cpu : Nat
  memoryMb : Nat
  status : AllocationStatus
  deriving DecidableEq

structure DistributedJob where
  jobId : String
  campaignId : String
  kind : JobKind
  name : String
  requirements : ResourceRequirements
  inputArtifactHashes : List String := []
  policyVersion : String
  attempt : Nat := 0
  status : JobStatus := .pending
  nodeId : Option String := none
  result : Option String := none
  error : Option String := none
  deriving DecidableEq

structure SimulationCampaign where
  campaignId : String
  name : String
  objective : String
  policyVersion : String
  status : CampaignStatus := .pending
  candidateCount : Int
  targetBackends : List String
  deriving DecidableEq

structure FaultRecoveryPlan where
  campaignId : String
  maxJobAttempts : Nat
  attemptsBound : 1 ≤ maxJobAttempts
  deriving DecidableEq

structure ArtifactLocation where
  nodeId : String
  region : String
  uri : String
  deriving DecidableEq

structure ArtifactRecord where
  contentHash : String
  sizeBytes : Nat
  producedByJob : String
  locations : List ArtifactLocation
  deriving DecidableEq

structure ResourceManager where
  clusterPolicyVersion : String
  nodes : List ComputeNode := []
  allocations : List ResourceAllocation := []
  deriving DecidableEq

namespace ResourceManager

variable (manager : ResourceManager)

def node (nodeId : String) : Option ComputeNode := find (·.nodeId) manager.nodes nodeId

def putNode (node : ComputeNode) : ResourceManager := { manager with nodes := put (·.nodeId) manager.nodes node }

/-- The record a registration leaves. A node under another policy is kept, but suspended. -/
def admitNode (registration : Registration) (now : Int) : ComputeNode where
  toRegistration := registration
  status := if registration.policyVersion = manager.clusterPolicyVersion then .active else .suspended
  attested := registration.policyVersion = manager.clusterPolicyVersion
  lastHeartbeat := now

def registerNode (registration : Registration) (now : Int) : ResourceManager :=
  manager.putNode (manager.admitNode registration now)

def detectStaleNodes (timeoutSeconds now : Int) : ResourceManager :=
  { manager with nodes := manager.nodes.map fun node =>
      if node.status = .active ∧ timeoutSeconds * 1000000 < now - node.lastHeartbeat then
        { node with status := .failed }
      else node }

def held (nodeId : String) : List ResourceAllocation :=
  manager.allocations.filter fun allocation => allocation.nodeId = nodeId ∧ allocation.status = .allocated

def allocatedCpu (nodeId : String) : Nat := ((manager.held nodeId).map (·.cpu)).sum

def allocatedMemory (nodeId : String) : Nat := ((manager.held nodeId).map (·.memoryMb)).sum

def availableCapacity (nodeId : String) : Option (Nat × Nat) :=
  (manager.node nodeId).map fun node =>
    (node.cpuCapacity - manager.allocatedCpu nodeId, node.memoryMbCapacity - manager.allocatedMemory nodeId)

def allocate (jobId nodeId : String) (cpu memoryMb : Nat) : Option ResourceManager :=
  match manager.availableCapacity nodeId with
  | none => none
  | some free =>
      if free.1 < cpu ∨ free.2 < memoryMb then none
      else some { manager with allocations := manager.allocations ++ [⟨jobId, nodeId, cpu, memoryMb, .allocated⟩] }

def releaseAllocationsForJob (jobId : String) : ResourceManager :=
  { manager with allocations := manager.allocations.map fun allocation =>
      if allocation.jobId = jobId then { allocation with status := .released } else allocation }

def hosts (requirements : ResourceRequirements) (node : ComputeNode) : Bool :=
  node.status = .active && node.attested &&
    (requirements.regions = [] || node.region ∈ requirements.regions) &&
    requirements.capabilities.all (· ∈ node.capabilities) &&
    match manager.availableCapacity node.nodeId with
    | none => false
    | some free => requirements.cpu ≤ free.1 && requirements.memoryMb ≤ free.2

def nodesMatching (requirements : ResourceRequirements) : List ComputeNode :=
  manager.nodes.filter (manager.hosts requirements)

def autoName (index : Nat) : String := "node_auto_" ++ toString index

def autoRegistration (index : Nat) : Registration where
  nodeId := autoName index
  region := "auto-region"
  capabilities := []
  cpuCapacity := 8
  memoryMbCapacity := 8192
  policyVersion := manager.clusterPolicyVersion
  publicKeyRef := "auto:" ++ autoName index
  cpuBound := Nat.le_add_left 1 7
  memoryBound := Nat.le_add_left 128 8064

/-- A further node, named by their number, when more jobs wait than the threshold. -/
def autoscale (pendingJobsCount threshold : Nat) (now : Int) : Option ResourceManager :=
  if pendingJobsCount ≤ threshold then none
  else some (manager.registerNode (manager.autoRegistration (manager.nodes.length + 1)) now)

end ResourceManager

def Before (left right : ComputeNode) : Prop :=
  left.region < right.region ∨ left.region = right.region ∧ left.nodeId ≤ right.nodeId

instance : DecidableRel Before := fun left right =>
  inferInstanceAs (Decidable (left.region < right.region ∨ left.region = right.region ∧ left.nodeId ≤ right.nodeId))

/-- `Scheduler.schedule_job`: the first matching node by region and name takes the job. -/
def scheduleJob (manager : ResourceManager) (job : DistributedJob) : Option (ResourceManager × DistributedJob) :=
  if job.status ≠ .pending then none
  else
    match (manager.nodesMatching job.requirements).insertionSort Before with
    | [] => none
    | node :: _ =>
        (manager.allocate job.jobId node.nodeId job.requirements.cpu job.requirements.memoryMb).map fun booked =>
          (booked, { job with status := .scheduled, nodeId := some node.nodeId })

/-- What the source raises, with its text. -/
inductive Failure where
  | notFound (text : String)
  | invalid (text : String)
  deriving DecidableEq

inductive JobFault where
  | nodeUnavailable (text : String)
  | policyViolation (text : String)
  | artifactIntegrity (text : String)
  deriving DecidableEq

def JobFault.text : JobFault → String
  | nodeUnavailable text => text
  | policyViolation text => text
  | artifactIntegrity text => text

def JobFault.permanent : JobFault → Bool
  | nodeUnavailable _ => false
  | policyViolation _ => true
  | artifactIntegrity _ => true

/-- SHA-256 of the canonical JSON of what names a campaign, a job and a job's artifact. -/
structure Digests where
  campaign : String → String → String
  job : String → JobKind → String → String
  output : String → String → JobKind → String → String

structure Engine where
  resources : ResourceManager
  artifacts : List ArtifactRecord := []
  plans : List FaultRecoveryPlan := []
  campaigns : List SimulationCampaign := []
  jobs : List DistributedJob := []
  autoscaleThreshold : Nat := 3
  deriving DecidableEq

structure CampaignRequest where
  name : String
  objective : String
  candidateCount : Int := 1
  targetBackends : List String := []
  policyVersion : Option String := none
  requirements : Option ResourceRequirements := none
  maxJobAttempts : Int := 3

namespace Engine

variable (digests : Digests) (engine : Engine)

def campaign (campaignId : String) : Option SimulationCampaign := find (·.campaignId) engine.campaigns campaignId

def job (jobId : String) : Option DistributedJob := find (·.jobId) engine.jobs jobId

def putCampaign (campaign : SimulationCampaign) : Engine :=
  { engine with campaigns := put (·.campaignId) engine.campaigns campaign }

def putJob (job : DistributedJob) : Engine := { engine with jobs := put (·.jobId) engine.jobs job }

def release (jobId : String) : Engine :=
  { engine with resources := engine.resources.releaseAllocationsForJob jobId }

def campaignJobs (campaignId : String) : List DistributedJob :=
  engine.jobs.filter fun job => job.campaignId = campaignId

def campaignStatus (jobs : List DistributedJob) : CampaignStatus :=
  if jobs = [] then .pending
  else if jobs.all (·.status = .completed) then .completed
  else if jobs.all (fun job => job.status = .completed ∨ job.status = .failed ∨ job.status = .cancelled) ∧
      jobs.any (·.status = .failed) then .failed
  else .running

/-- `_update_campaign_status`. Every job's campaign is known, so the lookup never fails. -/
def updateCampaignStatus (campaignId : String) : Engine :=
  match engine.campaign campaignId with
  | none => engine
  | some campaign => engine.putCampaign { campaign with status := campaignStatus (engine.campaignJobs campaignId) }

def getRecoveryPlan (campaignId : String) : Engine × FaultRecoveryPlan :=
  match find (·.campaignId) engine.plans campaignId with
  | some plan => (engine, plan)
  | none =>
      let plan : FaultRecoveryPlan := ⟨campaignId, 3, Nat.le_add_left 1 2⟩
      ({ engine with plans := put (·.campaignId) engine.plans plan }, plan)

def newJob (campaign : SimulationCampaign) (requirements : ResourceRequirements) (kind : JobKind) (name : String) :
    DistributedJob where
  jobId := "job_" ++ String.ofList ((digests.job campaign.campaignId kind name).toList.take 16)
  campaignId := campaign.campaignId
  kind := kind
  name := name
  requirements := requirements
  policyVersion := campaign.policyVersion

/-- A job whose identifier is taken is the job that has it. -/
def createJob (campaign : SimulationCampaign) (requirements : ResourceRequirements) (engine : Engine)
    (named : JobKind × String) : Engine :=
  let job := newJob digests campaign requirements named.1 named.2
  match engine.job job.jobId with
  | some _ => engine
  | none => engine.putJob job

def jobNames (request : CampaignRequest) : List (JobKind × String) :=
  (List.range request.candidateCount.toNat).map
      (fun index => (.simulation, "simulation_candidate_" ++ toString index)) ++
    request.targetBackends.map
        (fun backend => (.compilation, "compile_" ++ backend)) ++ [(.verification, "verification")]

def newCampaign (request : CampaignRequest) : SimulationCampaign where
  campaignId := "campaign_" ++ String.ofList ((digests.campaign request.name request.objective).toList.take 16)
  name := request.name
  objective := request.objective
  policyVersion :=
    match request.policyVersion with
    | some version => if version = "" then engine.resources.clusterPolicyVersion else version
    | none => engine.resources.clusterPolicyVersion
  candidateCount := request.candidateCount
  targetBackends := request.targetBackends

def submitCampaign (request : CampaignRequest) : Engine × Except Failure SimulationCampaign :=
  let campaign := engine.newCampaign digests request
  match engine.campaign campaign.campaignId with
  | some existing => (engine, .ok existing)
  | none =>
      if request.candidateCount < 1 then (engine, .error (.invalid "candidate_count"))
      else
        let stored := engine.putCampaign campaign
        if bound : 1 ≤ request.maxJobAttempts.toNat then
          let plan : FaultRecoveryPlan := ⟨campaign.campaignId, request.maxJobAttempts.toNat, bound⟩
          let planned := { stored with plans := put (·.campaignId) stored.plans plan }
          let requirements := request.requirements.getD defaultRequirements
          ((jobNames request).foldl (createJob digests campaign requirements) planned, .ok campaign)
        -- the plan is built after the campaign is filed
        else (stored, .error (.invalid "max_job_attempts"))

def scheduleJobs : List String → Engine → Engine × List String
  | [], engine => (engine, [])
  | jobId :: rest, engine =>
      match (engine.job jobId).bind (scheduleJob engine.resources) with
      | none => scheduleJobs rest engine
      | some placed =>
          let later := scheduleJobs rest ({ engine with resources := placed.1 }.putJob placed.2)
          -- a node may be called "", and then its job is not reported
          (later.1, if placed.2.nodeId = some "" then later.2 else jobId :: later.2)

def scheduleCampaign (campaignId : String) : Except Failure (Engine × List String) :=
  match engine.campaign campaignId with
  | none => .error (.notFound ("Campaign not found: " ++ campaignId))
  | some campaign =>
      if campaign.status = .completed ∨ campaign.status = .failed then .ok (engine, [])
      else
        let scheduled := scheduleJobs ((engine.campaignJobs campaignId).map (·.jobId)) engine
        if scheduled.2 ≠ [] ∧ campaign.status = .pending then
          .ok (scheduled.1.putCampaign { campaign with status := .running }, scheduled.2)
        else .ok scheduled

def verifyArtifact (contentHash : String) : Bool :=
  match find (·.contentHash) engine.artifacts contentHash with
  | none => false
  | some artifact => artifact.locations ≠ []

def putArtifact (contentHash : String) (sizeBytes : Nat) (producedByJob : String) (location : ArtifactLocation) :
    Engine :=
  let artifact := (find (·.contentHash) engine.artifacts contentHash).getD ⟨contentHash, sizeBytes, producedByJob, []⟩
  let located := { artifact with locations := artifact.locations ++ [location] }
  { engine with artifacts := put (·.contentHash) engine.artifacts located }

def executeJob (job : DistributedJob) : Except JobFault Engine :=
  match engine.resources.node (job.nodeId.getD "") with
  | none => .error (.nodeUnavailable "Assigned node not found.")
  | some node =>
      if node.status ≠ .active then .error (.nodeUnavailable "Assigned node is not active.")
      else if node.attested = false then .error (.policyViolation "Node is not attested.")
      else if node.policyVersion ≠ job.policyVersion then .error (.policyViolation "Node policy version mismatch.")
      else
        match job.inputArtifactHashes.find? fun inputHash => engine.verifyArtifact inputHash = false with
        | some inputHash => .error (.artifactIntegrity ("Input artifact missing or invalid: " ++ inputHash))
        | none =>
            let outputHash := digests.output job.campaignId job.jobId job.kind job.name
            let stored := engine.putArtifact outputHash 128 job.jobId
                ⟨node.nodeId, node.region, "artifact://" ++ outputHash⟩
            .ok ((stored.putJob { job with status := .completed, result := some outputHash }).release job.jobId)

/-- The job after a failure that its campaign's plan answers. -/
def failedJob (job : DistributedJob) (fault : JobFault) (plan : FaultRecoveryPlan) : DistributedJob :=
  if fault.permanent = true ∨ plan.maxJobAttempts ≤ job.attempt then
    { job with error := some fault.text, status := .failed }
  else { job with error := some fault.text, attempt := job.attempt + 1, status := .pending, nodeId := none }

def handleJobFailure (job : DistributedJob) (fault : JobFault) : Engine :=
  let planned := (engine.release job.jobId).getRecoveryPlan job.campaignId
  (planned.1.putJob (failedJob job fault planned.2)).updateCampaignStatus job.campaignId

def executeScheduled (job : DistributedJob) : Engine :=
  let running := { job with status := .running }
  match (engine.putJob running).executeJob digests running with
  | .ok executed => executed
  | .error fault => (engine.putJob running).handleJobFailure running fault

def executeJobs : List String → Engine → Engine × Bool
  | [], engine => (engine, false)
  | jobId :: rest, engine =>
      match (engine.job jobId).filter (·.status = .scheduled) with
      | none => executeJobs rest engine
      | some job => ((executeJobs rest (engine.executeScheduled digests job)).1, true)

def executeReadyJobs (campaignId : String) : Except Failure (Engine × Bool) :=
  match engine.campaign campaignId with
  | none => .error (.notFound ("Campaign not found: " ++ campaignId))
  | some campaign =>
      if campaign.status = .completed ∨ campaign.status = .failed then .ok (engine, false)
      else
        let executed := executeJobs digests ((engine.campaignJobs campaignId).map (·.jobId)) engine
        .ok (executed.1.updateCampaignStatus campaignId, executed.2)

def pendingJobs (campaignId : String) : List DistributedJob :=
  (engine.campaignJobs campaignId).filter fun job => job.status = .pending

/-- The last part of a round: another node when too many jobs wait. -/
def scaleUp (campaignId : String) (now : Int) : Option Engine :=
  (engine.resources.autoscale (engine.pendingJobs campaignId).length engine.autoscaleThreshold now).map fun scaled =>
    { engine with resources := scaled }

/-- One turn of the loop of `run_campaign`, and whether it made progress. -/
def campaignRound (campaignId : String) (now : Int) : Except Failure (Engine × Bool) :=
  match engine.scheduleCampaign campaignId with
  | .error failure => .error failure
  | .ok scheduled =>
      match scheduled.1.executeReadyJobs digests campaignId with
      | .error failure => .error failure
      | .ok executed =>
          match executed.1.scaleUp campaignId now with
          | some scaled => .ok (scaled, true)
          | none => .ok (executed.1, scheduled.2 ≠ [] || executed.2)

/-- `run_campaign` for as many rounds as are granted; `clock` is what the rounds read. -/
def runCampaign (campaignId : String) : Nat → (Nat → Int) → Engine → Option (Except Failure Engine)
  | 0, _, _ => none
  | rounds + 1, clock, engine =>
      match engine.campaignRound digests campaignId (clock 0) with
      | .error failure => some (.error failure)
      | .ok (following, true) => runCampaign campaignId rounds (fun round => clock (round + 1)) following
      | .ok (following, false) => some (.ok (following.updateCampaignStatus campaignId))

def recoverJob (job : DistributedJob) (plan : FaultRecoveryPlan) : DistributedJob × Bool :=
  if plan.maxJobAttempts ≤ job.attempt then ({ job with status := .failed }, false)
  else ({ job with attempt := job.attempt + 1, status := .pending, nodeId := none, error := none }, true)

def failJob (job : DistributedJob) : Engine × Bool :=
  let planned := (engine.release job.jobId).getRecoveryPlan job.campaignId
  let recovered := recoverJob job planned.2
  ((planned.1.putJob recovered.1).updateCampaignStatus job.campaignId, recovered.2)

def failJobs (nodeId : String) : List String → Engine → Engine × List String
  | [], engine => (engine, [])
  | jobId :: rest, engine =>
      match (engine.job jobId).filter fun job =>
          job.nodeId = some nodeId ∧ (job.status = .scheduled ∨ job.status = .running) with
      | none => failJobs nodeId rest engine
      | some job =>
          let failed := engine.failJob job
          let later := failJobs nodeId rest failed.1
          (later.1, if failed.2 then jobId :: later.2 else later.2)

def failNode (nodeId : String) : Except Failure (Engine × List String) :=
  match engine.resources.node nodeId with
  | none => .error (.notFound ("Node not found: " ++ nodeId))
  | some node =>
      let marked := { engine with resources := engine.resources.putNode { node with status := .failed } }
      .ok (failJobs nodeId (marked.jobs.map (·.jobId)) marked)

def heartbeat (nodeId : String) (now : Int) : Except Failure Engine :=
  match engine.resources.node nodeId with
  | none => .error (.notFound ("Node not found: " ++ nodeId))
  | some node =>
      if node.status = .failed then .error (.invalid "Failed nodes must be re-registered.")
      else .ok { engine with resources := engine.resources.putNode { node with lastHeartbeat := now } }

end Engine

inductive Command where
  | registerNode (registration : Registration) (now : Int)
  | heartbeat (nodeId : String) (now : Int)
  | detectStaleNodes (timeoutSeconds now : Int)
  | submitCampaign (request : CampaignRequest)
  | scheduleCampaign (campaignId : String)
  | executeReadyJobs (campaignId : String)
  | runCampaign (campaignId : String) (clock : Nat → Int) (rounds : Nat)
  | failNode (nodeId : String)

/-- A refused command leaves the state it found. -/
def accepted {Result : Type} (engine : Engine) : Except Failure (Engine × Result) → Engine
  | .ok result => result.1
  | .error _ => engine

/-- The state behind a command: none when `run_campaign` is still running after its rounds. -/
def execute (digests : Digests) (engine : Engine) : Command → Option Engine
  | .registerNode registration now => some { engine with resources := engine.resources.registerNode registration now }
  | .heartbeat nodeId now =>
      match engine.heartbeat nodeId now with
      | .ok beaten => some beaten
      | .error _ => some engine
  | .detectStaleNodes timeoutSeconds now =>
      some { engine with resources := engine.resources.detectStaleNodes timeoutSeconds now }
  | .submitCampaign request => some (engine.submitCampaign digests request).1
  | .scheduleCampaign campaignId => some (accepted engine (engine.scheduleCampaign campaignId))
  | .executeReadyJobs campaignId => some (accepted engine (engine.executeReadyJobs digests campaignId))
  | .runCampaign campaignId clock rounds =>
      match Engine.runCampaign digests campaignId rounds clock engine with
      | none => none
      | some (.ok finished) => some finished
      | some (.error _) => some engine
  | .failNode nodeId => some (accepted engine (engine.failNode nodeId))

def opened (clusterPolicyVersion : String) (autoscaleThreshold : Nat) : Engine :=
  { resources := { clusterPolicyVersion := clusterPolicyVersion }, autoscaleThreshold := autoscaleThreshold }

end AutonomousApi.EvolutionCloud
