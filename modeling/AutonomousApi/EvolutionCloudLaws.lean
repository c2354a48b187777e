import AutonomousApi.EvolutionCloud
import Mathlib.Algebra.Order.BigOperators.Group.List
import Mathlib.Algebra.Order.Ring.Nat

/-! What the loops of the evolution cloud do to its four collections, in steps of one job each, and
the invariant that ties allocations, jobs and campaign states together. -/

namespace AutonomousApi.EvolutionCloud

open RecordTable

section

variable {manager other : ResourceManager} {node : ComputeNode} {requirements : ResourceRequirements}
  {jobId nodeId : String}

namespace ResourceManager

/-- The allocations in force. -/
def live (manager : ResourceManager) : List ResourceAllocation :=
  manager.allocations.filter fun allocation => allocation.status = .allocated

def booked (manager : ResourceManager) (jobId : String) : List ResourceAllocation :=
  manager.live.filter fun allocation => allocation.jobId = jobId

def book (manager : ResourceManager) (allocation : ResourceAllocation) : ResourceManager :=
  { manager with allocations := manager.allocations ++ [allocation] }

theorem held_eq : manager.held nodeId = manager.live.filter fun allocation => allocation.nodeId = nodeId := by
  simp [held, live, List.filter_filter, Bool.decide_and]

theorem live_book {allocation : ResourceAllocation} (allocated : allocation.status = .allocated) :
    (manager.book allocation).live = manager.live ++ [allocation] := by
  simp [live, book, List.filter_append, allocated]

theorem live_release : (manager.releaseAllocationsForJob jobId).live =
    manager.live.filter fun allocation => allocation.jobId ≠ jobId := by
  simp only [live, releaseAllocationsForJob]
  induction manager.allocations with
  | nil => rfl
  | cons allocation rest ih =>
      by_cases hit : allocation.jobId = jobId
      · simpa [hit, List.filter_cons, apply_ite] using ih
      · by_cases allocated : allocation.status = .allocated <;> simpa [hit, allocated, List.filter_cons] using ih

/-- With fewer allocations in force every node has at least the room it had. -/
theorem allocated_mono (fewer : List.Sublist other.live manager.live) (nodeId : String) :
    other.allocatedCpu nodeId ≤ manager.allocatedCpu nodeId ∧
      other.allocatedMemory nodeId ≤ manager.allocatedMemory nodeId := by
  have held : List.Sublist (other.held nodeId) (manager.held nodeId) := by
    rw [held_eq, held_eq]
    exact fewer.filter _
  exact ⟨(held.map _).sum_le_sum fun _ _ => Nat.zero_le _, (held.map _).sum_le_sum fun _ _ => Nat.zero_le _⟩

theorem allocatedCpu_congr (same : other.live = manager.live) (nodeId : String) :
    other.allocatedCpu nodeId = manager.allocatedCpu nodeId := by
  rw [allocatedCpu, allocatedCpu, held_eq, held_eq, same]

theorem allocatedMemory_congr (same : other.live = manager.live) (nodeId : String) :
    other.allocatedMemory nodeId = manager.allocatedMemory nodeId := by
  rw [allocatedMemory, allocatedMemory, held_eq, held_eq, same]

/-- What a node must be for a job, its room aside. -/
def Suits (requirements : ResourceRequirements) (node : ComputeNode) : Prop :=
  node.status = .active ∧ node.attested = true ∧ (requirements.regions = [] ∨ node.region ∈ requirements.regions) ∧
    ∀ capability ∈ requirements.capabilities, capability ∈ node.capabilities

theorem hosts_iff (keyed : Keyed (·.nodeId) manager.nodes) (member : node ∈ manager.nodes) :
    manager.hosts requirements node = true ↔ Suits requirements node ∧
      requirements.cpu ≤ node.cpuCapacity - manager.allocatedCpu node.nodeId ∧
      requirements.memoryMb ≤ node.memoryMbCapacity - manager.allocatedMemory node.nodeId := by
  have found : manager.availableCapacity node.nodeId = some (node.cpuCapacity - manager.allocatedCpu node.nodeId,
      node.memoryMbCapacity - manager.allocatedMemory node.nodeId) := by
    rw [availableCapacity, ResourceManager.node, keyed.find_of_mem member]
    rfl
  simp [hosts, found, Suits, and_assoc]

theorem mem_nodesMatching (keyed : Keyed (·.nodeId) manager.nodes) :
    node ∈ manager.nodesMatching requirements ↔ node ∈ manager.nodes ∧ Suits requirements node ∧
      requirements.cpu ≤ node.cpuCapacity - manager.allocatedCpu node.nodeId ∧
      requirements.memoryMb ≤ node.memoryMbCapacity - manager.allocatedMemory node.nodeId := by
  rw [nodesMatching, List.mem_filter]
  exact and_congr_right fun member => hosts_iff keyed member

/-- A node that matches has the room, so booking it never fails. -/
theorem allocate_of_matching (keyed : Keyed (·.nodeId) manager.nodes)
    (matching : node ∈ manager.nodesMatching requirements) (jobId : String) :
    manager.allocate jobId node.nodeId requirements.cpu requirements.memoryMb =
      some (manager.book ⟨jobId, node.nodeId, requirements.cpu, requirements.memoryMb, .allocated⟩) := by
  obtain ⟨member, -, cpu, memory⟩ := (mem_nodesMatching keyed).mp matching
  rw [allocate, availableCapacity, ResourceManager.node, keyed.find_of_mem member, Option.map_some]
  exact if_neg (not_or.mpr ⟨Nat.not_lt.mpr cpu, Nat.not_lt.mpr memory⟩)

end ResourceManager

end

section

variable {engine : Engine} {job settled : DistributedJob} {campaignId nodeId : String}

theorem scheduleJob_eq_some {manager : ResourceManager} {placed : ResourceManager × DistributedJob}
    (keyed : Keyed (·.nodeId) manager.nodes) (taken : scheduleJob manager job = some placed) :
    job.status = .pending ∧ ∃ node ∈ manager.nodesMatching job.requirements,
      placed.1 = manager.book ⟨job.jobId, node.nodeId, job.requirements.cpu, job.requirements.memoryMb, .allocated⟩ ∧
      placed.2 = { job with status := .scheduled, nodeId := some node.nodeId } := by
  unfold scheduleJob at taken
  split at taken
  · cases taken
  case isFalse pending =>
      split at taken
      · cases taken
      case h_2 node rest sorted =>
          have matching : node ∈ manager.nodesMatching job.requirements :=
            (List.mem_insertionSort Before).mp (sorted ▸ List.mem_cons_self)
          rw [ResourceManager.allocate_of_matching keyed matching, Option.map_some, Option.some.injEq] at taken
          subst taken
          exact ⟨not_not.mp pending, node, matching, rfl, rfl⟩

theorem scheduleJob_eq_none {manager : ResourceManager} (keyed : Keyed (·.nodeId) manager.nodes)
    (refused : scheduleJob manager job = none) (pending : job.status = .pending) :
    manager.nodesMatching job.requirements = [] := by
  unfold scheduleJob at refused
  rw [if_neg (not_not.mpr pending)] at refused
  split at refused
  case h_1 sorted => exact List.perm_nil.mp (sorted ▸ (List.perm_insertionSort Before _).symm)
  case h_2 node rest sorted =>
      have matching : node ∈ manager.nodesMatching job.requirements :=
        (List.mem_insertionSort Before).mp (sorted ▸ List.mem_cons_self)
      rw [ResourceManager.allocate_of_matching keyed matching] at refused
      cases refused

/-- A job on its node. -/
def Engine.place (engine : Engine) (job : DistributedJob) (nodeId : String) : Engine :=
  { engine with
    resources := engine.resources.book ⟨job.jobId, nodeId, job.requirements.cpu, job.requirements.memoryMb, .allocated⟩
    jobs := put (·.jobId) engine.jobs { job with status := .scheduled, nodeId := some nodeId } }

/-- A job off its node. -/
def Engine.settle (engine : Engine) (settled : DistributedJob) : Engine :=
  (engine.putJob settled).release settled.jobId

/-- What an execution or a failure may make of a scheduled job. -/
structure Settles (plans : List FaultRecoveryPlan) (job settled : DistributedJob) : Prop where
  jobId : settled.jobId = job.jobId
  campaignId : settled.campaignId = job.campaignId
  requirements : settled.requirements = job.requirements
  status : settled.status = .pending ∨ settled.status = .completed ∨ settled.status = .failed
  attempt : settled.attempt = job.attempt ∨ ∃ plan, find (·.campaignId) plans job.campaignId = some plan ∧
    job.attempt < plan.maxJobAttempts ∧ settled.attempt = job.attempt + 1

/-- The steps the loops of one campaign are made of. -/
inductive Advance (campaignId : String) (engine : Engine) : Engine → Prop where
  | place {job : DistributedJob} {node : ComputeNode} (member : job ∈ engine.jobs) (own : job.campaignId = campaignId)
      (pending : job.status = .pending) (matching : node ∈ engine.resources.nodesMatching job.requirements) :
      Advance campaignId engine (engine.place job node.nodeId)
  | settle {job settled : DistributedJob} (member : job ∈ engine.jobs) (own : job.campaignId = campaignId)
      (scheduled : job.status = .scheduled) (settles : Settles engine.plans job settled) :
      Advance campaignId engine (engine.settle settled)
  | store (artifacts : List ArtifactRecord) : Advance campaignId engine { engine with artifacts := artifacts }
  | assess : Advance campaignId engine (engine.updateCampaignStatus campaignId)
  | start {campaign : SimulationCampaign} (found : engine.campaign campaignId = some campaign)
      (pending : campaign.status = .pending) :
      Advance campaignId engine (engine.putCampaign { campaign with status := .running })

abbrev Advances (campaignId : String) : Engine → Engine → Prop := Relation.ReflTransGen (Advance campaignId)

end

section

/-- What a campaign's verdict says about its jobs. -/
def Judged (status : CampaignStatus) (jobs : List DistributedJob) : Prop :=
  (status = .completed → jobs ≠ [] ∧ ∀ job ∈ jobs, job.status = .completed) ∧
    (status = .failed → ∀ job ∈ jobs, job.status = .completed ∨ job.status = .failed)

structure Sound (engine : Engine) : Prop where
  nodes : Keyed (·.nodeId) engine.resources.nodes
  campaigns : Keyed (·.campaignId) engine.campaigns
  jobs : Keyed (·.jobId) engine.jobs
  filed : ∀ job ∈ engine.jobs, job.campaignId ∈ engine.campaigns.map (·.campaignId)
  planned : ∀ job ∈ engine.jobs, ∃ plan, find (·.campaignId) engine.plans job.campaignId = some plan ∧
    job.attempt ≤ plan.maxJobAttempts
  resting : ∀ job ∈ engine.jobs, job.status = .pending ∨ job.status = .scheduled ∨ job.status = .completed ∨
    job.status = .failed
  placed : ∀ allocation ∈ engine.resources.live, allocation.nodeId ∈ engine.resources.nodes.map (·.nodeId)
  owned : ∀ allocation ∈ engine.resources.live, ∃ job ∈ engine.jobs, job.jobId = allocation.jobId ∧
      job.status = .scheduled
  booking : ∀ job ∈ engine.jobs, job.status = .scheduled → ∃ nodeId, job.nodeId = some nodeId ∧
    engine.resources.booked job.jobId =
      [⟨job.jobId, nodeId, job.requirements.cpu, job.requirements.memoryMb, .allocated⟩]
  judged : ∀ campaign ∈ engine.campaigns, Judged campaign.status (engine.campaignJobs campaign.campaignId)

variable {engine following : Engine} {job settled : DistributedJob} {campaign : SimulationCampaign}
  {campaignId nodeId : String}

/-- A campaign with a job under way has no verdict yet. -/
theorem Sound.unjudged (sound : Sound engine) (member : job ∈ engine.jobs)
    (underway : job.status = .pending ∨ job.status = .scheduled) (filed : campaign ∈ engine.campaigns)
    (own : job.campaignId = campaign.campaignId) : campaign.status ≠ .completed ∧ campaign.status ≠ .failed := by
  have inside : job ∈ engine.campaignJobs campaign.campaignId := List.mem_filter.mpr ⟨member, decide_eq_true own⟩
  have judged := sound.judged campaign filed
  constructor
  · intro completed
    have done := (judged.1 completed).2 job inside
    rw [done] at underway
    rcases underway with same | same <;> cases same
  · intro failed
    rcases judged.2 failed job inside with done | done <;> rw [done] at underway <;>
      rcases underway with same | same <;> cases same

theorem Sound.booked_eq_nil (sound : Sound engine) (member : job ∈ engine.jobs) (idle : job.status ≠ .scheduled) :
    engine.resources.booked job.jobId = [] := by
  rw [ResourceManager.booked, List.filter_eq_nil_iff]
  intro allocation live own
  obtain ⟨owner, owns, same, scheduled⟩ := sound.owned allocation live
  have equal := sound.jobs.unique owns member (same.trans (of_decide_eq_true own))
  exact idle (equal ▸ scheduled)

theorem Sound.judged_put (sound : Sound engine) (member : job ∈ engine.jobs)
    (underway : job.status = .pending ∨ job.status = .scheduled) (sameJob : settled.jobId = job.jobId)
    (sameCampaign : settled.campaignId = job.campaignId) (filed : campaign ∈ engine.campaigns) :
    Judged campaign.status ((engine.putJob settled).campaignJobs campaign.campaignId) := by
  have others : ∀ other ∈ (engine.putJob settled).campaignJobs campaign.campaignId,
      job.campaignId ≠ campaign.campaignId → other ∈ engine.campaignJobs campaign.campaignId := by
    intro other inside elsewhere
    obtain ⟨held, own⟩ := List.mem_filter.mp inside
    rcases mem_put held with rfl | old
    · exact absurd (sameCampaign.symm.trans (of_decide_eq_true own)) elsewhere
    · exact List.mem_filter.mpr ⟨old, own⟩
  by_cases own : job.campaignId = campaign.campaignId
  · have unjudged := sound.unjudged member underway filed own
    exact ⟨fun completed => absurd completed unjudged.1, fun failed => absurd failed unjudged.2⟩
  · have judged := sound.judged campaign filed
    have kept : ∀ other ∈ engine.campaignJobs campaign.campaignId,
        other ∈ (engine.putJob settled).campaignJobs campaign.campaignId := by
      intro other inside
      obtain ⟨held, there⟩ := List.mem_filter.mp inside
      refine List.mem_filter.mpr ⟨mem_put_of_ne held fun same => ?_, there⟩
      have equal := sound.jobs.unique held member (same.trans sameJob)
      exact own (equal ▸ of_decide_eq_true there)
    constructor
    · intro completed
      obtain ⟨present, all⟩ := judged.1 completed
      obtain ⟨first, inside⟩ := List.exists_mem_of_ne_nil _ present
      exact ⟨List.ne_nil_of_mem (kept first inside), fun other inside => all other (others other inside own)⟩
    · intro failed other inside
      exact judged.2 failed other (others other inside own)

theorem Sound.place (sound : Sound engine) {node : ComputeNode} (member : job ∈ engine.jobs)
    (pending : job.status = .pending)
    (matching : node ∈ engine.resources.nodesMatching job.requirements) : Sound (engine.place job node.nodeId) := by
  have known := ((ResourceManager.mem_nodesMatching sound.nodes).mp matching).1
  have idle := sound.booked_eq_nil member fun scheduled => by
    rw [pending] at scheduled
    cases scheduled
  have live : (engine.place job node.nodeId).resources.live = engine.resources.live ++ [_] :=
      ResourceManager.live_book rfl
  -- a job in the new table is the placed one or an old one of another name
  have jobs (other : DistributedJob) (held : other ∈ (engine.place job node.nodeId).jobs) :=
    sound.jobs.mem_put_iff.mp held
  constructor
  · exact sound.nodes
  · exact sound.campaigns
  · exact sound.jobs.put
  · intro other held
    rcases jobs other held with rfl | old
    · exact sound.filed job member
    · exact sound.filed other old.1
  · intro other held
    rcases jobs other held with rfl | old
    · exact sound.planned job member
    · exact sound.planned other old.1
  · intro other held
    rcases jobs other held with rfl | old
    · exact .inr (.inl rfl)
    · exact sound.resting other old.1
  · intro allocation inForce
    rw [live, List.mem_append, List.mem_singleton] at inForce
    rcases inForce with old | rfl
    · exact sound.placed allocation old
    · exact List.mem_map.mpr ⟨node, known, rfl⟩
  · intro allocation inForce
    rw [live, List.mem_append, List.mem_singleton] at inForce
    rcases inForce with old | rfl
    · obtain ⟨owner, owns, same, scheduled⟩ := sound.owned allocation old
      refine ⟨owner, mem_put_of_ne owns fun equal => ?_, same, scheduled⟩
      have same := sound.jobs.unique owns member equal
      rw [same, pending] at scheduled
      cases scheduled
    · exact ⟨_, record_mem_put, rfl, rfl⟩
  · intro other held scheduled
    rw [ResourceManager.booked, live, List.filter_append]
    rcases jobs other held with rfl | ⟨old, differs⟩
    · refine ⟨node.nodeId, rfl, ?_⟩
      rw [ResourceManager.booked] at idle
      rw [idle, List.nil_append]
      exact List.filter_cons_of_pos (decide_eq_true rfl)
    · obtain ⟨nodeId, on, booked⟩ := sound.booking other old scheduled
      refine ⟨nodeId, on, ?_⟩
      rw [← booked, ResourceManager.booked]
      have apart : job.jobId ≠ other.jobId := Ne.symm differs
      simp [apart]
  · intro campaign filed
    exact sound.judged_put member (.inl pending) rfl rfl filed

theorem Sound.settle (sound : Sound engine) (member : job ∈ engine.jobs) (scheduled : job.status = .scheduled)
    (settles : Settles engine.plans job settled) : Sound (engine.settle settled) := by
  have live : (engine.settle settled).resources.live = engine.resources.live.filter _ := ResourceManager.live_release
  have jobs (other : DistributedJob) (held : other ∈ (engine.settle settled).jobs) :=
    sound.jobs.mem_put_iff.mp held
  constructor
  · exact sound.nodes
  · exact sound.campaigns
  · exact sound.jobs.put
  · intro other held
    rcases jobs other held with rfl | old
    · rw [settles.campaignId]
      exact sound.filed job member
    · exact sound.filed other old.1
  · intro other held
    rcases jobs other held with rfl | old
    · obtain ⟨plan, found, within⟩ := sound.planned job member
      rw [settles.campaignId]
      rcases settles.attempt with same | ⟨plan, found, below, more⟩
      · exact ⟨plan, found, same ▸ within⟩
      · exact ⟨plan, found, more ▸ below⟩
    · exact sound.planned other old.1
  · intro other held
    rcases jobs other held with rfl | old
    · exact settles.status.imp id .inr
    · exact sound.resting other old.1
  · intro allocation inForce
    rw [live] at inForce
    exact sound.placed allocation (List.mem_filter.mp inForce).1
  · intro allocation inForce
    rw [live] at inForce
    obtain ⟨old, apart⟩ := List.mem_filter.mp inForce
    obtain ⟨owner, owns, same, scheduled⟩ := sound.owned allocation old
    exact ⟨owner, mem_put_of_ne owns (same ▸ of_decide_eq_true apart), same, scheduled⟩
  · intro other held scheduled
    rcases jobs other held with rfl | ⟨old, differs⟩
    · rcases settles.status with same | same | same <;> rw [same] at scheduled <;> cases scheduled
    · obtain ⟨nodeId, on, booked⟩ := sound.booking other old scheduled
      refine ⟨nodeId, on, ?_⟩
      rw [← booked, ResourceManager.booked, ResourceManager.booked, live, List.filter_filter]
      apply List.filter_congr
      intro allocation _
      rw [← Bool.decide_and, decide_eq_decide]
      exact and_iff_left_of_imp fun same => same ▸ differs
  · intro campaign filed
    exact sound.judged_put member (.inr scheduled) settles.jobId settles.campaignId filed

theorem judged_campaignStatus {jobs : List DistributedJob} (resting : ∀ job ∈ jobs, job.status ≠ .cancelled) :
    Judged (Engine.campaignStatus jobs) jobs := by
  unfold Engine.campaignStatus
  split
  · exact ⟨nofun, nofun⟩
  case isFalse present =>
    split
    case isTrue completed =>
        exact ⟨fun _ => ⟨present, fun job member => of_decide_eq_true (List.all_eq_true.mp completed job member)⟩,
            nofun⟩
    · split
      case isTrue failed =>
          refine ⟨nofun, fun _ job member => ?_⟩
          have terminal := of_decide_eq_true (List.all_eq_true.mp failed.1 job member)
          exact terminal.imp id fun other => other.resolve_right (resting job member)
      · exact ⟨nofun, nofun⟩

theorem Sound.putCampaign (sound : Sound engine)
    (judged : Judged campaign.status (engine.campaignJobs campaign.campaignId)) :
    Sound (engine.putCampaign campaign) where
  nodes := sound.nodes
  campaigns := sound.campaigns.put
  jobs := sound.jobs
  filed job member := by
    have filed := sound.filed job member
    rw [Engine.putCampaign, keys_put]
    split
    · exact filed
    · exact List.mem_append_left _ filed
  planned := sound.planned
  resting := sound.resting
  placed := sound.placed
  owned := sound.owned
  booking := sound.booking
  judged other filed := by
    rcases mem_put filed with rfl | old
    · exact judged
    · exact sound.judged other old

theorem Sound.updateCampaignStatus (sound : Sound engine) : Sound (engine.updateCampaignStatus campaignId) := by
  unfold Engine.updateCampaignStatus
  split
  · exact sound
  case h_2 campaign found =>
      have same : campaign.campaignId = campaignId := (mem_of_find found).2
      subst same
      apply sound.putCampaign
      apply judged_campaignStatus
      intro job inside cancelled
      have resting := sound.resting job (List.mem_filter.mp inside).1
      rw [cancelled] at resting
      rcases resting with same | same | same | same <;> cases same

theorem Sound.advance (sound : Sound engine) (advance : Advance campaignId engine following) : Sound following := by
  cases advance with
  | place member own pending matching => exact sound.place member pending matching
  | settle member own scheduled settles => exact sound.settle member scheduled settles
  | store artifacts => exact ⟨sound.1, sound.2, sound.3, sound.4, sound.5, sound.6, sound.7, sound.8, sound.9, sound.10⟩
  | assess => exact sound.updateCampaignStatus
  | start found pending => exact sound.putCampaign ⟨nofun, nofun⟩

theorem Sound.advances (sound : Sound engine) (advances : Advances campaignId engine following) : Sound following := by
  induction advances with
  | refl => exact sound
  | tail _ advance ih => exact ih.advance advance

end

section

variable {digests : Digests} {engine following : Engine} {job settled : DistributedJob} {campaign : SimulationCampaign}
  {plan : FaultRecoveryPlan} {ids : List String} {campaignId nodeId : String}

/-- The identifiers name jobs of this campaign only. -/
def Owns (engine : Engine) (campaignId : String) (ids : List String) : Prop :=
  ∀ job ∈ engine.jobs, job.jobId ∈ ids → job.campaignId = campaignId

theorem campaignJobs_owned (sound : Sound engine) :
    Owns engine campaignId ((engine.campaignJobs campaignId).map (·.jobId)) := by
  intro job member named
  obtain ⟨other, inside, same⟩ := List.mem_map.mp named
  obtain ⟨held, own⟩ := List.mem_filter.mp inside
  exact sound.jobs.unique held member same ▸ of_decide_eq_true own

theorem Owns.put (owns : Owns engine campaignId ids) (same : job.campaignId = campaignId) :
    Owns (engine.putJob job) campaignId ids := by
  intro other held named
  rcases mem_put held with rfl | old
  · exact same
  · exact owns other old named

theorem Owns.tail {jobId : String} (owns : Owns engine campaignId (jobId :: ids)) : Owns engine campaignId ids :=
  fun job member named => owns job member (List.mem_cons_of_mem _ named)

theorem schedule_advances (sound : Sound engine) (owns : Owns engine campaignId ids) :
    Advances campaignId engine (Engine.scheduleJobs ids engine).1 := by
  induction ids generalizing engine with
  | nil => exact .refl
  | cons jobId rest ih =>
      rw [Engine.scheduleJobs]
      split
      · exact ih sound owns.tail
      case h_2 placed taken =>
          obtain ⟨job, found, taken⟩ := Option.bind_eq_some_iff.mp taken
          obtain ⟨member, named⟩ := mem_of_find found
          obtain ⟨pending, node, matching, booked, onNode⟩ := scheduleJob_eq_some sound.nodes taken
          have own := owns job member (named ▸ List.mem_cons_self)
          have after : { engine with resources := placed.1 }.putJob placed.2 = engine.place job node.nodeId := by
            rw [booked, onNode]
            rfl
          rw [after]
          exact .head (.place member own pending matching)
            (ih (sound.place member pending matching) (Owns.put owns.tail own))

theorem putJob_putJob (same : job.jobId = settled.jobId) : (engine.putJob job).putJob settled = engine.putJob settled :=
  congrArg (fun jobs => { engine with jobs := jobs }) (put_put same)

theorem getRecoveryPlan_found (found : find (·.campaignId) engine.plans campaignId = some plan) :
    engine.getRecoveryPlan campaignId = (engine, plan) := by
  rw [Engine.getRecoveryPlan, found]

/-- The node a job is on, as its execution finds it. -/
def Engine.nodeUp (engine : Engine) (job : DistributedJob) : Bool :=
  match engine.resources.node (job.nodeId.getD "") with
  | some node => node.status = .active
  | none => false

/-- A job that waits for a node once what is scheduled has been executed: it is pending, or its
node is down and it has attempts left. -/
def Engine.waits (engine : Engine) (job : DistributedJob) : Bool :=
  job.status = .pending ||
    (job.status = .scheduled && !engine.nodeUp job && job.attempt <
      (engine.getRecoveryPlan job.campaignId).2.maxJobAttempts)

theorem executeJob_cases (engine : Engine) (job : DistributedJob) :
    (engine.nodeUp job = true ∧ ∃ artifacts output, engine.executeJob digests job = .ok
      (({ engine with artifacts := artifacts }.putJob { job with status := .completed, result := some output }).release
        job.jobId)) ∨
    ∃ fault, engine.executeJob digests job = .error fault ∧ fault.permanent = engine.nodeUp job := by
  unfold Engine.executeJob Engine.nodeUp
  cases engine.resources.node (job.nodeId.getD "") with
  | none => exact .inr ⟨_, rfl, rfl⟩
  | some node =>
      dsimp only
      split
      case isTrue down => exact .inr ⟨_, rfl, (decide_eq_false down).symm⟩
      case isFalse up =>
          have active := decide_eq_true (not_not.mp up)
          split
          · exact .inr ⟨_, rfl, active.symm⟩
          · split
            · exact .inr ⟨_, rfl, active.symm⟩
            · split
              · exact .inr ⟨_, rfl, active.symm⟩
              · exact .inl ⟨active, _, _, rfl⟩

theorem settles_failedJob {fault : JobFault} (found : find (·.campaignId) engine.plans job.campaignId = some plan)
    (status : JobStatus) : Settles engine.plans job (Engine.failedJob { job with status := status } fault plan) := by
  unfold Engine.failedJob
  split
  · exact ⟨rfl, rfl, rfl, .inr (.inr rfl), .inl rfl⟩
  case isFalse again =>
      exact ⟨rfl, rfl, rfl, .inl rfl, .inr ⟨plan, found, Nat.lt_of_not_le (not_or.mp again).2, rfl⟩⟩

/-- An execution takes the job off its node; it waits again exactly when its node was down and it
has attempts left. -/
theorem executeScheduled_cases (sound : Sound engine) (member : job ∈ engine.jobs)
    (scheduled : job.status = .scheduled) :
    ∃ settled, Settles engine.plans job settled ∧ (settled.status = .pending ↔ engine.waits job = true) ∧
      ((∃ artifacts, engine.executeScheduled digests job = { engine with artifacts := artifacts }.settle settled) ∨
        engine.executeScheduled digests job = (engine.settle settled).updateCampaignStatus job.campaignId) := by
  obtain ⟨plan, found, -⟩ := sound.planned job member
  have waits : engine.waits job = true ↔ engine.nodeUp job = false ∧ job.attempt < plan.maxJobAttempts := by
    simp [Engine.waits, scheduled, getRecoveryPlan_found found]
  unfold Engine.executeScheduled
  dsimp only
  rcases @executeJob_cases digests (engine.putJob { job with status := .running }) { job with status := .running } with
    ⟨up, artifacts, output, executed⟩ | ⟨fault, refused, permanent⟩
  · refine ⟨{ job with status := .completed, result := some output }, ⟨rfl, rfl, rfl, .inr (.inl rfl), .inl rfl⟩, ?_,
      .inl ⟨artifacts, ?_⟩⟩
    · rw [waits]
      have up : engine.nodeUp job = true := up
      simp [up]
    · rw [executed]
      have once := @putJob_putJob { engine with artifacts := artifacts } { job with status := .running }
        { job with status := .completed, result := some output } rfl
      exact congrArg (fun engine => Engine.release engine job.jobId) once
  · refine ⟨Engine.failedJob { job with status := .running } fault plan, settles_failedJob found .running, ?_, .inr ?_⟩
    · have permanent : fault.permanent = engine.nodeUp job := permanent
      rw [waits, ← permanent, Engine.failedJob]
      split
      case isTrue stop =>
          refine iff_of_false nofun fun again => ?_
          rw [again.1] at stop
          exact absurd again.2 (Nat.not_lt.mpr (stop.resolve_left nofun))
      case isFalse again =>
          obtain ⟨passing, below⟩ := not_or.mp again
          exact iff_of_true rfl ⟨eq_false_of_ne_true passing, Nat.lt_of_not_le below⟩
    · have known : find (·.campaignId) ((engine.putJob { job with status := .running }).release job.jobId).plans
          job.campaignId = some plan := found
      have same : (Engine.failedJob { job with status := .running } fault plan).jobId = job.jobId :=
        (settles_failedJob found .running).jobId
      rw [refused]
      dsimp only
      rw [Engine.handleJobFailure, getRecoveryPlan_found known, Engine.settle, same]
      have once := @putJob_putJob engine { job with status := .running } _ same.symm
      exact congrArg (fun engine => (Engine.release engine job.jobId).updateCampaignStatus job.campaignId) once

theorem executeScheduled_advances (sound : Sound engine) (member : job ∈ engine.jobs)
    (scheduled : job.status = .scheduled) :
    Advances job.campaignId engine (engine.executeScheduled digests job) := by
  obtain ⟨settled, settles, -, ⟨artifacts, after⟩ | after⟩ := @executeScheduled_cases digests _ _ sound member scheduled
  · rw [after]
    exact .tail (.single (.store artifacts)) (.settle member rfl scheduled settles)
  · rw [after]
    exact .tail (.single (.settle member rfl scheduled settles)) .assess

theorem Advance.owns {ids : List String} (advance : Advance campaignId engine following)
    (owns : Owns engine campaignId ids) : Owns following campaignId ids := by
  cases advance with
  | @place job node member own pending matching =>
      exact @Owns.put engine { job with status := .scheduled, nodeId := some node.nodeId } _ _ owns own
  | @settle job settled member own scheduled settles =>
      exact @Owns.put engine settled _ _ owns (settles.campaignId.trans own)
  | store artifacts => exact owns
  | assess =>
      unfold Engine.updateCampaignStatus
      split
      · exact owns
      · exact owns
  | start found pending => exact owns

theorem Advances.owns (advances : Advances campaignId engine following) (owns : Owns engine campaignId ids) :
    Owns following campaignId ids := by
  induction advances with
  | refl => exact owns
  | tail _ advance ih => exact advance.owns ih

theorem execute_advances (sound : Sound engine) (owns : Owns engine campaignId ids) :
    Advances campaignId engine (Engine.executeJobs digests ids engine).1 := by
  induction ids generalizing engine with
  | nil => exact .refl
  | cons jobId rest ih =>
      rw [Engine.executeJobs]
      split
      · exact ih sound owns.tail
      case h_2 job taken =>
          obtain ⟨found, scheduled⟩ := Option.filter_eq_some_iff.mp taken
          obtain ⟨member, named⟩ := mem_of_find found
          have own := owns job member (named ▸ List.mem_cons_self)
          have advances := @executeScheduled_advances digests _ _ sound member (of_decide_eq_true scheduled)
          rw [own] at advances
          exact advances.trans (ih (sound.advances advances) (Advances.owns advances owns.tail))

theorem scheduleJobs_campaigns (ids : List String) (engine : Engine) :
    (Engine.scheduleJobs ids engine).1.campaigns = engine.campaigns := by
  induction ids generalizing engine with
  | nil => rfl
  | cons jobId rest ih =>
      rw [Engine.scheduleJobs]
      split
      · exact ih engine
      · exact ih _

theorem scheduleCampaign_advances {result : Engine × List String} (sound : Sound engine)
    (scheduled : engine.scheduleCampaign campaignId = .ok result) : Advances campaignId engine result.1 := by
  unfold Engine.scheduleCampaign at scheduled
  split at scheduled
  · cases scheduled
  case h_2 campaign found =>
      split at scheduled
      · cases scheduled
        exact .refl
      · have owns : Owns engine campaignId _ := campaignJobs_owned sound
        have placed := schedule_advances sound owns
        dsimp only at scheduled
        split at scheduled
        case isTrue starts =>
            cases scheduled
            refine placed.tail (.start ?_ starts.2)
            rw [Engine.campaign, scheduleJobs_campaigns]
            exact found
        case isFalse =>
            cases scheduled
            exact placed

theorem executeReadyJobs_advances {result : Engine × Bool} (sound : Sound engine)
    (executed : engine.executeReadyJobs digests campaignId = .ok result) : Advances campaignId engine result.1 := by
  unfold Engine.executeReadyJobs at executed
  split at executed
  · cases executed
  · split at executed
    · cases executed
      exact .refl
    · cases executed
      exact (execute_advances sound (campaignJobs_owned sound)).tail .assess

@[simp] theorem updateCampaignStatus_jobs : (engine.updateCampaignStatus campaignId).jobs = engine.jobs := by
  unfold Engine.updateCampaignStatus
  split <;> rfl

@[simp] theorem updateCampaignStatus_resources :
    (engine.updateCampaignStatus campaignId).resources = engine.resources := by
  unfold Engine.updateCampaignStatus
  split <;> rfl

@[simp] theorem updateCampaignStatus_plans : (engine.updateCampaignStatus campaignId).plans = engine.plans := by
  unfold Engine.updateCampaignStatus
  split <;> rfl

/-- No job of the campaign is on a node. -/
def Clear (engine : Engine) (campaignId : String) : Prop :=
  ∀ job ∈ engine.jobs, job.campaignId = campaignId → job.status ≠ .scheduled

/-- What is still scheduled after the execution of some jobs was scheduled before and is none of them. -/
theorem scheduled_after_execution (sound : Sound engine) (member : job ∈ (Engine.executeJobs digests ids engine).1.jobs)
    (scheduled : job.status = .scheduled) : job ∈ engine.jobs ∧ job.jobId ∉ ids := by
  induction ids generalizing engine with
  | nil => exact ⟨member, List.not_mem_nil⟩
  | cons jobId rest ih =>
      rw [Engine.executeJobs] at member
      split at member
      case h_1 idle =>
          obtain ⟨old, apart⟩ := ih sound member
          refine ⟨old, List.not_mem_cons_of_ne_of_not_mem ?_ apart⟩
          rintro rfl
          rw [Engine.job, sound.jobs.find_of_mem old, Option.filter_some, if_pos (decide_eq_true scheduled)] at idle
          cases idle
      case h_2 first taken =>
          obtain ⟨found, ready⟩ := Option.filter_eq_some_iff.mp taken
          obtain ⟨inside, named⟩ := mem_of_find found
          have ready := of_decide_eq_true ready
          have advances := @executeScheduled_advances digests _ _ sound inside ready
          obtain ⟨held, apart⟩ := ih (sound.advances advances) member
          obtain ⟨settled, settles, -, after⟩ := @executeScheduled_cases digests _ _ sound inside ready
          have put : job ∈ put (·.jobId) engine.jobs settled := by
            rcases after with ⟨artifacts, after⟩ | after
            · rw [after] at held
              exact held
            · rw [after, updateCampaignStatus_jobs] at held
              exact held
          rcases sound.jobs.mem_put_iff.mp put with rfl | ⟨old, differs⟩
          · rcases settles.status with same | same | same <;> rw [same] at scheduled <;> cases scheduled
          · have differs : job.jobId ≠ jobId := fun same => differs (same.trans (named.symm.trans settles.jobId.symm))
            exact ⟨old, List.not_mem_cons_of_ne_of_not_mem differs apart⟩

theorem mem_campaignJobs_ids (member : job ∈ engine.jobs) (own : job.campaignId = campaignId) :
    job.jobId ∈ (engine.campaignJobs campaignId).map (·.jobId) :=
  List.mem_map.mpr ⟨job, List.mem_filter.mpr ⟨member, decide_eq_true own⟩, rfl⟩

theorem executeReadyJobs_clear {result : Engine × Bool} (sound : Sound engine)
    (executed : engine.executeReadyJobs digests campaignId = .ok result) : Clear result.1 campaignId := by
  unfold Engine.executeReadyJobs at executed
  split at executed
  · cases executed
  case h_2 campaign found =>
      split at executed
      case isTrue judged =>
          cases executed
          intro job member own scheduled
          obtain ⟨filed, named⟩ := mem_of_find found
          have unjudged := sound.unjudged member (.inr scheduled) filed (own.trans named.symm)
          exact judged.elim unjudged.1 unjudged.2
      case isFalse =>
          cases executed
          intro job member own scheduled
          rw [updateCampaignStatus_jobs] at member
          obtain ⟨old, apart⟩ := scheduled_after_execution sound member scheduled
          exact apart (mem_campaignJobs_ids old own)

end

variable {engine following : Engine} {job settled : DistributedJob} {campaignId : String}

/-- The allocations in force of the other campaigns. -/
def Engine.foreign (engine : Engine) (campaignId : String) : List ResourceAllocation :=
  engine.resources.live.filter fun allocation => allocation.jobId ∉ (engine.campaignJobs campaignId).map (·.jobId)

theorem ids_related {before after : List DistributedJob}
    (related : List.Forall₂ (fun old new => new.jobId = old.jobId ∧ new.campaignId = old.campaignId) before after) :
    (after.filter fun job => job.campaignId = campaignId).map (·.jobId) =
      (before.filter fun job => job.campaignId = campaignId).map (·.jobId) := by
  induction related with
  | nil => rfl
  | cons same _ ih =>
      rw [List.filter_cons, List.filter_cons, same.2]
      split
      · rw [List.map_cons, List.map_cons, same.1, ih]
      · exact ih

theorem ids_put (sound : Sound engine) (member : job ∈ engine.jobs) (sameJob : settled.jobId = job.jobId)
    (sameCampaign : settled.campaignId = job.campaignId) :
    ((engine.putJob settled).campaignJobs campaignId).map (·.jobId) =
      (engine.campaignJobs campaignId).map (·.jobId) := by
  have related : List.Forall₂ (fun old new : DistributedJob => new.jobId = old.jobId ∧ new.campaignId = old.campaignId)
      engine.jobs (put (·.jobId) engine.jobs settled) :=
    sound.jobs.put_related (fun _ => ⟨rfl, rfl⟩) member sameJob.symm ⟨sameJob, sameCampaign⟩
  exact ids_related related

theorem foreign_advance (sound : Sound engine) (advance : Advance campaignId engine following) :
    following.foreign campaignId = engine.foreign campaignId := by
  cases advance with
  | @place job node member own pending matching =>
      have live : (engine.place job node.nodeId).resources.live = engine.resources.live ++ [_] :=
        ResourceManager.live_book rfl
      have ids : ((engine.place job node.nodeId).campaignJobs campaignId).map (·.jobId) = _ :=
        @ids_put _ job { job with status := .scheduled, nodeId := some node.nodeId } _ sound member rfl rfl
      rw [Engine.foreign, live, ids, List.filter_append, Engine.foreign]
      refine List.append_right_eq_self.mpr (List.filter_eq_nil_iff.mpr fun allocation booked => ?_)
      rw [List.mem_singleton] at booked
      rw [booked, decide_eq_true_iff, not_not]
      exact mem_campaignJobs_ids member own
  | @settle job settled member own scheduled settles =>
      have live : (engine.settle settled).resources.live = engine.resources.live.filter _ :=
          ResourceManager.live_release
      have ids : ((engine.settle settled).campaignJobs campaignId).map (·.jobId) = _ :=
        ids_put sound member settles.jobId settles.campaignId
      rw [Engine.foreign, live, ids, List.filter_filter, Engine.foreign]
      apply List.filter_congr
      intro allocation _
      rw [← Bool.decide_and, decide_eq_decide]
      refine and_iff_left_of_imp fun apart same => apart ?_
      rw [same, settles.jobId]
      exact mem_campaignJobs_ids member own
  | store artifacts => rfl
  | assess => simp [Engine.foreign, Engine.campaignJobs]
  | start found pending => rfl

theorem foreign_advances (sound : Sound engine) (advances : Advances campaignId engine following) :
    following.foreign campaignId = engine.foreign campaignId := by
  induction advances with
  | refl => rfl
  | tail earlier advance ih => exact (foreign_advance (sound.advances earlier) advance).trans ih

/-- A campaign with nothing on a node holds nothing. -/
theorem Clear.live_eq (clear : Clear engine campaignId) (sound : Sound engine) :
    engine.resources.live = engine.foreign campaignId := by
  refine (List.filter_eq_self.mpr fun allocation inForce => ?_).symm
  rw [decide_eq_true_iff]
  intro named
  obtain ⟨owner, owns, same, scheduled⟩ := sound.owned allocation inForce
  obtain ⟨job, inside, also⟩ := List.mem_map.mp named
  obtain ⟨member, own⟩ := List.mem_filter.mp inside
  have equal := sound.jobs.unique member owns (also.trans same.symm)
  exact clear job member (of_decide_eq_true own) (equal ▸ scheduled)

end AutonomousApi.EvolutionCloud
