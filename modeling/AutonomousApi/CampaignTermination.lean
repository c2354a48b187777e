import AutonomousApi.EvolutionCloudInvariants

/-! Whether `run_campaign` ends. Each round moves waiting jobs to nodes that match, and adds a node
while more jobs wait than the threshold; the added nodes are all alike. So the loop ends when at
most so many jobs are left that neither a known node nor an added one can ever host. -/

namespace AutonomousApi.EvolutionCloud

open RecordTable Runs

section

variable {engine following : Engine} {manager other : ResourceManager} {requirements : ResourceRequirements}
  {job settled : DistributedJob} {campaignId : String}

/-- The nodes as they are once the campaign holds nothing. -/
def Engine.bare (engine : Engine) (campaignId : String) : ResourceManager :=
  { engine.resources with allocations := engine.foreign campaignId }

theorem bare_live : (engine.bare campaignId).live = engine.foreign campaignId := by
  simp only [Engine.bare, Engine.foreign, ResourceManager.live, List.filter_filter]
  apply List.filter_congr
  intro allocation _
  cases decide (allocation.status = .allocated) <;> simp

theorem nodesMatching_congr (nodes : other.nodes = manager.nodes) (live : other.live = manager.live) :
    other.nodesMatching requirements = manager.nodesMatching requirements := by
  rw [ResourceManager.nodesMatching, ResourceManager.nodesMatching, nodes]
  apply List.filter_congr
  intro node _
  unfold ResourceManager.hosts ResourceManager.availableCapacity ResourceManager.node
  rw [nodes]
  simp only [ResourceManager.allocatedCpu_congr live, ResourceManager.allocatedMemory_congr live]

theorem nodesMatching_mono {node : ComputeNode} (keyed : Keyed (·.nodeId) manager.nodes)
    (nodes : other.nodes = manager.nodes) (fewer : List.Sublist other.live manager.live)
    (matching : node ∈ manager.nodesMatching requirements) : node ∈ other.nodesMatching requirements := by
  obtain ⟨member, suits, cpu, memory⟩ := (ResourceManager.mem_nodesMatching keyed).mp matching
  have less := ResourceManager.allocated_mono fewer node.nodeId
  have there : Keyed (·.nodeId) other.nodes := nodes ▸ keyed
  refine (ResourceManager.mem_nodesMatching there).mpr ⟨nodes ▸ member, suits, ?_, ?_⟩
  · exact cpu.trans (Nat.sub_le_sub_left less.1 _)
  · exact memory.trans (Nat.sub_le_sub_left less.2 _)

theorem bare_matching {node : ComputeNode} (sound : Sound engine)
    (matching : node ∈ engine.resources.nodesMatching requirements) :
    node ∈ (engine.bare campaignId).nodesMatching requirements := by
  refine nodesMatching_mono sound.nodes rfl ?_ matching
  rw [bare_live]
  exact List.filter_sublist

theorem bare_advances (sound : Sound engine) (advances : Advances campaignId engine following) :
    (following.bare campaignId).nodesMatching requirements = (engine.bare campaignId).nodesMatching requirements := by
  apply nodesMatching_congr
  · exact advances_nodes advances
  · rw [bare_live, bare_live, foreign_advances sound advances]

theorem Clear.bare_eq (clear : Clear engine campaignId) (sound : Sound engine) :
    (engine.bare campaignId).nodesMatching requirements = engine.resources.nodesMatching requirements := by
  apply nodesMatching_congr
  · rfl
  · rw [bare_live, clear.live_eq sound]

/-- What a node added by `autoscale` can host while nothing is on it. -/
def AutoHosts (requirements : ResourceRequirements) : Prop :=
  (requirements.regions = [] ∨ "auto-region" ∈ requirements.regions) ∧ requirements.capabilities = [] ∧
    requirements.cpu ≤ 8 ∧ requirements.memoryMb ≤ 8192

instance (requirements : ResourceRequirements) : Decidable (AutoHosts requirements) :=
  inferInstanceAs (Decidable (_ ∧ _))

/-- No node will ever host these requirements: none of the known ones, were the campaign's own
allocations gone, and none that `autoscale` adds. -/
def Engine.hopeless (engine : Engine) (campaignId : String) (requirements : ResourceRequirements) : Bool :=
  (engine.bare campaignId).nodesMatching requirements = [] && !decide (AutoHosts requirements)

end

section

variable {digests : Digests} {engine following : Engine} {job settled : DistributedJob} {ids : List String}
  {campaignId : String} {counts : ResourceRequirements → Bool}

/-- The campaign's waiting jobs with requirements of a kind. -/
def Engine.waitingOf (engine : Engine) (campaignId : String) (counts : ResourceRequirements → Bool) : Nat :=
  engine.jobs.countP fun job => job.campaignId = campaignId && engine.waits job && counts job.requirements

def Engine.waiting (engine : Engine) (campaignId : String) : Nat := engine.waitingOf campaignId fun _ => true

def Engine.stuck (engine : Engine) (campaignId : String) : Nat :=
  engine.waitingOf campaignId (engine.hopeless campaignId)

theorem waits_congr (nodes : following.resources.nodes = engine.resources.nodes)
    (plans : following.plans = engine.plans)
    (job : DistributedJob) : following.waits job = engine.waits job := by
  unfold Engine.waits Engine.nodeUp ResourceManager.node Engine.getRecoveryPlan
  rw [nodes, plans]
  cases find (·.campaignId) engine.plans job.campaignId <;> rfl

theorem waitingOf_congr (jobs : following.jobs = engine.jobs)
    (nodes : following.resources.nodes = engine.resources.nodes) (plans : following.plans = engine.plans) :
    following.waitingOf campaignId counts = engine.waitingOf campaignId counts := by
  rw [Engine.waitingOf, Engine.waitingOf, jobs]
  simp only [waits_congr nodes plans]

/-- One job of the campaign changes: the count moves by it alone. -/
theorem waitingOf_put (sound : Sound engine) (member : job ∈ engine.jobs) (sameJob : settled.jobId = job.jobId)
    (jobs : following.jobs = put (·.jobId) engine.jobs settled)
    (nodes : following.resources.nodes = engine.resources.nodes) (plans : following.plans = engine.plans) :
    following.waitingOf campaignId counts +
        (if job.campaignId = campaignId && engine.waits job && counts job.requirements then 1 else 0) =
      engine.waitingOf campaignId counts +
        (if settled.campaignId = campaignId && engine.waits settled && counts settled.requirements then 1 else 0) := by
  rw [Engine.waitingOf, Engine.waitingOf, jobs]
  simp only [waits_congr nodes plans]
  exact sound.jobs.countP_put _ member sameJob.symm

theorem waits_scheduled {node : ComputeNode} (sound : Sound engine)
    (matching : node ∈ engine.resources.nodesMatching job.requirements) :
    engine.waits { job with status := .scheduled, nodeId := some node.nodeId } = false := by
  obtain ⟨member, suits, -⟩ := (ResourceManager.mem_nodesMatching sound.nodes).mp matching
  have up : engine.nodeUp { job with status := .scheduled, nodeId := some node.nodeId } = true := by
    rw [Engine.nodeUp, Option.getD_some, ResourceManager.node, sound.nodes.find_of_mem member]
    exact decide_eq_true suits.1
  simp [Engine.waits, up]

theorem waits_settled (settles : Settles engine.plans job settled) :
    engine.waits settled = decide (settled.status = .pending) := by
  rcases settles.status with status | status | status <;> simp [Engine.waits, status]

theorem place_count {node : ComputeNode} (sound : Sound engine) (member : job ∈ engine.jobs)
    (own : job.campaignId = campaignId) (pending : job.status = .pending)
    (matching : node ∈ engine.resources.nodesMatching job.requirements) :
    (engine.place job node.nodeId).waitingOf campaignId counts + (if counts job.requirements then 1 else 0) =
      engine.waitingOf campaignId counts := by
  have moved := @waitingOf_put engine (engine.place job node.nodeId) job
    { job with status := .scheduled, nodeId := some node.nodeId } campaignId counts sound member rfl rfl rfl rfl
  have waits : engine.waits job = true := by simp [Engine.waits, pending]
  rw [waits_scheduled sound matching, waits] at moved
  simpa [own] using moved

theorem executeScheduled_count (sound : Sound engine) (member : job ∈ engine.jobs)
    (scheduled : job.status = .scheduled) :
    (engine.executeScheduled digests job).waitingOf campaignId counts = engine.waitingOf campaignId counts := by
  obtain ⟨settled, settles, again, after⟩ := @executeScheduled_cases digests _ _ sound member scheduled
  have moved (following : Engine) (jobs : following.jobs = put (·.jobId) engine.jobs settled)
      (nodes : following.resources.nodes = engine.resources.nodes) (plans : following.plans = engine.plans) :
      following.waitingOf campaignId counts = engine.waitingOf campaignId counts := by
    have moved := @waitingOf_put engine following job settled campaignId counts sound member settles.jobId jobs nodes
        plans
    have same : engine.waits settled = engine.waits job := by
      rw [waits_settled settles, Bool.eq_iff_iff, decide_eq_true_iff]
      exact again
    rw [settles.campaignId, settles.requirements, same] at moved
    exact Nat.add_right_cancel moved
  rcases after with ⟨artifacts, after⟩ | after
  · rw [after]
    exact moved _ rfl rfl rfl
  · rw [after]
    exact moved _ updateCampaignStatus_jobs (by rw [updateCampaignStatus_resources]; rfl)
      (by rw [updateCampaignStatus_plans]; rfl)

theorem scheduled_stays (sound : Sound engine) (member : job ∈ engine.jobs) (scheduled : job.status = .scheduled) :
    job ∈ (Engine.scheduleJobs ids engine).1.jobs := by
  induction ids generalizing engine with
  | nil => exact member
  | cons jobId rest ih =>
      rw [Engine.scheduleJobs]
      split
      · exact ih sound member
      case h_2 placed taken =>
          obtain ⟨first, found, taken⟩ := Option.bind_eq_some_iff.mp taken
          obtain ⟨inside, -⟩ := mem_of_find found
          obtain ⟨pending, node, matching, booked, onNode⟩ := scheduleJob_eq_some sound.nodes taken
          have after : { engine with resources := placed.1 }.putJob placed.2 = engine.place first node.nodeId := by
            rw [booked, onNode]
            rfl
          rw [after]
          refine ih (sound.place inside pending matching) (mem_put_of_ne member fun same => ?_)
          have equal := sound.jobs.unique member inside same
          rw [equal, pending] at scheduled
          cases scheduled

/-- The scheduling loop places nothing because nothing matches, or some waiting job gets its node.
Jobs without any matching node keep waiting. -/
theorem scheduleJobs_count (sound : Sound engine) (owns : Owns engine campaignId ids) :
    (Engine.scheduleJobs ids engine = (engine, []) ∧ (∀ job ∈ engine.jobs, job.jobId ∈ ids → job.status = .pending →
        engine.resources.nodesMatching job.requirements = []) ∨
      (Engine.scheduleJobs ids engine).1.waiting campaignId < engine.waiting campaignId ∧
        ∃ job ∈ (Engine.scheduleJobs ids engine).1.jobs, job.campaignId = campaignId ∧ job.status = .scheduled) ∧
    ∀ counts : ResourceRequirements → Bool,
      (∀ requirements, counts requirements = true → (engine.bare campaignId).nodesMatching requirements = []) →
      (Engine.scheduleJobs ids engine).1.waitingOf campaignId counts = engine.waitingOf campaignId counts := by
  induction ids generalizing engine with
  | nil => exact ⟨.inl ⟨rfl, fun _ _ named => nomatch named⟩, fun _ _ => rfl⟩
  | cons jobId rest ih =>
      rw [Engine.scheduleJobs]
      cases taken : (engine.job jobId).bind (scheduleJob engine.resources) with
      | none =>
          dsimp only
          obtain ⟨cases, kept⟩ := ih sound owns.tail
          refine ⟨cases.imp (fun idle => ⟨idle.1, fun job member named pending => ?_⟩) id, kept⟩
          rcases List.mem_cons.mp named with rfl | later
          · rw [Engine.job, sound.jobs.find_of_mem member, Option.bind_some] at taken
            exact scheduleJob_eq_none sound.nodes taken pending
          · exact idle.2 job member later pending
      | some placed =>
          dsimp only
          obtain ⟨job, found, taken⟩ := Option.bind_eq_some_iff.mp taken
          obtain ⟨member, named⟩ := mem_of_find found
          obtain ⟨pending, node, matching, booked, onNode⟩ := scheduleJob_eq_some sound.nodes taken
          have own := owns job member (named ▸ List.mem_cons_self)
          have after : { engine with resources := placed.1 }.putJob placed.2 = engine.place job node.nodeId := by
            rw [booked, onNode]
            rfl
          have sound' := sound.place member pending matching
          have owns' : Owns (engine.place job node.nodeId) campaignId rest := by
            exact @Owns.put engine { job with status := .scheduled, nodeId := some node.nodeId } _ _ owns.tail own
          rw [after]
          obtain ⟨cases, kept⟩ := ih sound' owns'
          have counted (counts : ResourceRequirements → Bool) :=
            @place_count engine job campaignId counts node sound member own pending matching
          constructor
          · right
            constructor
            · have one := counted fun _ => true
              simp only [if_true] at one
              rcases cases with idle | fewer
              · rw [idle.1]
                exact Nat.lt_of_succ_le (Nat.le_of_eq one)
              · exact fewer.1.trans (Nat.lt_of_succ_le (Nat.le_of_eq one))
            · exact ⟨_, scheduled_stays sound' record_mem_put rfl, own, rfl⟩
          · intro counts lost
            have bare (requirements : ResourceRequirements) := @bare_advances engine _ requirements campaignId sound
              (.single (.place member own pending matching))
            rw [kept counts fun requirements counted => (bare requirements).trans (lost requirements counted),
              ← counted counts]
            have unmatched : counts job.requirements = false := by
              apply Bool.eq_false_iff.mpr
              intro counted
              exact List.ne_nil_of_mem (bare_matching sound matching) (lost _ counted)
            simp [unmatched]

theorem executeJobs_count (sound : Sound engine) (counts : ResourceRequirements → Bool) :
    (Engine.executeJobs digests ids engine).1.waitingOf campaignId counts = engine.waitingOf campaignId counts := by
  induction ids generalizing engine with
  | nil => rfl
  | cons jobId rest ih =>
      rw [Engine.executeJobs]
      split
      · exact ih sound
      case h_2 job taken =>
          obtain ⟨found, scheduled⟩ := Option.filter_eq_some_iff.mp taken
          have member := (mem_of_find found).1
          have scheduled := of_decide_eq_true scheduled
          have advances := @executeScheduled_advances digests _ _ sound member scheduled
          exact (ih (sound.advances advances)).trans (executeScheduled_count sound member scheduled)

/-- The execution loop reports whether there was anything to execute. -/
theorem executeJobs_idle (idle : (Engine.executeJobs digests ids engine).2 = false) :
    (Engine.executeJobs digests ids engine).1 = engine := by
  induction ids generalizing engine with
  | nil => rfl
  | cons jobId rest ih =>
      rw [Engine.executeJobs] at idle ⊢
      split at idle
      case h_1 => exact ih idle
      case h_2 => cases idle

theorem executeJobs_executed (sound : Sound engine) (member : job ∈ engine.jobs) (scheduled : job.status = .scheduled)
    (named : job.jobId ∈ ids) : (Engine.executeJobs digests ids engine).2 = true := by
  induction ids with
  | nil => cases named
  | cons jobId rest ih =>
      rw [Engine.executeJobs]
      split
      case h_1 unready =>
          rcases List.mem_cons.mp named with rfl | later
          · rw [Engine.job, sound.jobs.find_of_mem member, Option.filter_some,
                if_pos (decide_eq_true scheduled)] at unready
            cases unready
          · exact ih later
      case h_2 => rfl

theorem executeJobs_none (unready : ∀ job ∈ engine.jobs, job.campaignId = campaignId → job.status ≠ .scheduled)
    (owns : Owns engine campaignId ids) : (Engine.executeJobs digests ids engine).2 = false := by
  induction ids with
  | nil => rfl
  | cons jobId rest ih =>
      rw [Engine.executeJobs]
      split
      · exact ih owns.tail
      case h_2 job taken =>
          obtain ⟨found, scheduled⟩ := Option.filter_eq_some_iff.mp taken
          obtain ⟨member, named⟩ := mem_of_find found
          exact absurd (of_decide_eq_true scheduled) (unready job member (owns job member (named ▸ List.mem_cons_self)))

end

section

variable {digests : Digests} {engine following : Engine} {job : DistributedJob} {campaign : SimulationCampaign}
  {campaignId : String} {scheduled : Engine × List String} {executed : Engine × Bool}

/-- A campaign whose verdict is reached. -/
def Closed (campaign : SimulationCampaign) : Prop := campaign.status = .completed ∨ campaign.status = .failed

theorem scheduleCampaign_cases (placed : engine.scheduleCampaign campaignId = .ok scheduled) :
    (∃ campaign, engine.campaign campaignId = some campaign ∧ Closed campaign ∧ scheduled = (engine, [])) ∨
    ∃ campaign, scheduled.1.campaign campaignId = some campaign ∧ ¬ Closed campaign ∧
      scheduled.1.jobs = (Engine.scheduleJobs ((engine.campaignJobs campaignId).map (·.jobId)) engine).1.jobs ∧
      scheduled.1.resources =
      (Engine.scheduleJobs ((engine.campaignJobs campaignId).map (·.jobId)) engine).1.resources ∧
      scheduled.1.plans = (Engine.scheduleJobs ((engine.campaignJobs campaignId).map (·.jobId)) engine).1.plans ∧
      scheduled.2 = (Engine.scheduleJobs ((engine.campaignJobs campaignId).map (·.jobId)) engine).2 := by
  unfold Engine.scheduleCampaign at placed
  cases found : engine.campaign campaignId with
  | none =>
      rw [found] at placed
      cases placed
  | some campaign =>
      simp only [found] at placed
      have known : (Engine.scheduleJobs ((engine.campaignJobs campaignId).map (·.jobId)) engine).1.campaign campaignId =
          some campaign := by
        rw [Engine.campaign, scheduleJobs_campaigns]
        exact found
      split at placed
      case isTrue closed =>
          cases placed
          exact .inl ⟨campaign, rfl, closed, rfl⟩
      case isFalse unclosed =>
          split at placed
          · cases placed
            refine .inr ⟨{ campaign with status := .running }, ?_, ?_, rfl, rfl, rfl, rfl⟩
            · rw [Engine.campaign, Engine.putCampaign, find_put]
              exact if_pos (mem_of_find found).2
            · rintro (same | same) <;> cases same
          · cases placed
            exact .inr ⟨campaign, known, unclosed, rfl, rfl, rfl, rfl⟩

theorem executeReadyJobs_cases (settled : engine.executeReadyJobs digests campaignId = .ok executed)
    (found : engine.campaign campaignId = some campaign) :
    (Closed campaign ∧ executed = (engine, false)) ∨ ¬ Closed campaign ∧
      executed = ((Engine.executeJobs digests
      ((engine.campaignJobs campaignId).map (·.jobId)) engine).1.updateCampaignStatus
        campaignId, (Engine.executeJobs digests ((engine.campaignJobs campaignId).map (·.jobId)) engine).2) := by
  unfold Engine.executeReadyJobs at settled
  simp only [found] at settled
  split at settled
  case isTrue closed =>
      cases settled
      exact .inl ⟨closed, rfl⟩
  case isFalse unclosed =>
      cases settled
      exact .inr ⟨unclosed, rfl⟩

theorem Sound.closed (sound : Sound engine) (found : engine.campaign campaignId = some campaign)
    (closed : Closed campaign)
    (member : job ∈ engine.jobs) (own : job.campaignId = campaignId) : job.status ≠ .pending ∧
    job.status ≠ .scheduled := by
  obtain ⟨filed, named⟩ := mem_of_find found
  constructor
  · intro pending
    have unjudged := sound.unjudged member (.inl pending) filed (own.trans named.symm)
    exact closed.elim unjudged.1 unjudged.2
  · intro scheduled
    have unjudged := sound.unjudged member (.inr scheduled) filed (own.trans named.symm)
    exact closed.elim unjudged.1 unjudged.2

theorem hopeless_advances (sound : Sound engine) (advances : Advances campaignId engine following) :
    following.hopeless campaignId = engine.hopeless campaignId := by
  funext requirements
  rw [Engine.hopeless, Engine.hopeless, bare_advances sound advances]

theorem hopeless_unmatched (requirements : ResourceRequirements)
    (lost : engine.hopeless campaignId requirements = true) :
    (engine.bare campaignId).nodesMatching requirements = [] :=
  of_decide_eq_true (Bool.and_eq_true_iff.mp lost).1

/-- Scheduling and executing: no more jobs wait than before, the stuck ones still do, and either
nothing matches a waiting job or, where the campaign held nothing before, a job less waits. -/
theorem turn_counts (sound : Sound engine) (placed : engine.scheduleCampaign campaignId = .ok scheduled)
    (settled : scheduled.1.executeReadyJobs digests campaignId = .ok executed) :
    executed.1.waiting campaignId ≤ engine.waiting campaignId ∧ executed.1.stuck campaignId = engine.stuck campaignId ∧
      ((decide (scheduled.2 ≠ []) || executed.2) = false ∧ (∀ job ∈ executed.1.jobs, job.campaignId = campaignId →
          job.status = .pending → executed.1.resources.nodesMatching job.requirements = []) ∨
        (decide (scheduled.2 ≠ []) || executed.2) = true ∧
          (Clear engine campaignId → executed.1.waiting campaignId < engine.waiting campaignId)) := by
  have advances := (scheduleCampaign_advances sound placed).trans
    (executeReadyJobs_advances (sound.advances (scheduleCampaign_advances sound placed)) settled)
  have soundMiddle := sound.advances (scheduleCampaign_advances sound placed)
  rcases scheduleCampaign_cases placed with ⟨campaign, found, closed, rfl⟩ | ⟨campaign, found, unclosed, jobs,
      resources, plans, ids⟩
  · rcases executeReadyJobs_cases settled found with ⟨-, rfl⟩ | ⟨unclosed, -⟩
    · refine ⟨Nat.le_refl _, rfl, .inl ⟨rfl, fun job member own pending => ?_⟩⟩
      exact absurd pending (sound.closed found closed member own).1
    · exact absurd closed unclosed
  · rcases executeReadyJobs_cases settled found with ⟨closed, -⟩ | ⟨-, rfl⟩
    · exact absurd closed unclosed
    have owns : Owns engine campaignId ((engine.campaignJobs campaignId).map (·.jobId)) := campaignJobs_owned sound
    obtain ⟨cases, kept⟩ := scheduleJobs_count sound owns
    -- the counts behind the two loops
    have before (counts : ResourceRequirements → Bool) : scheduled.1.waitingOf campaignId counts = _ :=
      waitingOf_congr jobs (congrArg (·.nodes) resources) plans
    have after (counts : ResourceRequirements → Bool) :
        ((Engine.executeJobs digests
          ((scheduled.1.campaignJobs campaignId).map (·.jobId)) scheduled.1).1.updateCampaignStatus
          campaignId).waitingOf campaignId counts = scheduled.1.waitingOf campaignId counts := by
      rw [waitingOf_congr updateCampaignStatus_jobs (by rw [updateCampaignStatus_resources]) updateCampaignStatus_plans]
      exact executeJobs_count soundMiddle counts
    have fewer : scheduled.1.waiting campaignId ≤ engine.waiting campaignId := by
      rw [Engine.waiting, before]
      rcases cases with idle | fewer
      · rw [idle.1]
        exact Nat.le_refl _
      · exact Nat.le_of_lt fewer.1
    refine ⟨(after _).trans_le fewer, ?_, ?_⟩
    · rw [Engine.stuck, Engine.stuck, hopeless_advances sound advances, after, before]
      exact kept _ fun requirements lost => hopeless_unmatched requirements lost
    · rcases cases with ⟨idle, unmatched⟩ | ⟨less, job, member, own, onNode⟩
      · have same : scheduled.1.jobs = engine.jobs ∧ scheduled.1.resources = engine.resources ∧ scheduled.2 = [] := by
          rw [idle] at jobs resources ids
          exact ⟨jobs, resources, ids⟩
        cases ran : (Engine.executeJobs digests ((scheduled.1.campaignJobs campaignId).map (·.jobId)) scheduled.1).2
            with
        | false =>
            refine .inl ⟨by simp [same.2.2], fun job member own pending => ?_⟩
            rw [updateCampaignStatus_jobs, executeJobs_idle ran, same.1] at member
            rw [updateCampaignStatus_resources, executeJobs_idle ran, same.2.1]
            exact unmatched job member (mem_campaignJobs_ids member own) pending
        | true =>
            refine .inr ⟨by simp, fun clear => ?_⟩
            exfalso
            have unready : ∀ job ∈ scheduled.1.jobs, job.campaignId = campaignId → job.status ≠ .scheduled := by
              rw [same.1]
              exact clear
            rw [executeJobs_none unready (campaignJobs_owned soundMiddle)] at ran
            cases ran
      · have scheduledMember : job ∈ scheduled.1.jobs := jobs ▸ member
        have ran := @executeJobs_executed digests _ _ _ soundMiddle scheduledMember onNode
          (mem_campaignJobs_ids scheduledMember own)
        refine .inr ⟨by rw [ran, Bool.or_true], fun _ => ?_⟩
        rw [Engine.waiting, after, before]
        exact less

end

section

variable {engine : Engine} {requirements : ResourceRequirements} {node : ComputeNode} {campaignId : String} {now : Int}

open ResourceManager

theorem autoName_injective {left right : Nat} (same : autoName left = autoName right) : left = right := by
  have digits : Nat.toDigits 10 left = Nat.toDigits 10 right := by
    have texts := congrArg String.toList same
    rw [autoName, autoName, String.toList_append, String.toList_append, List.append_cancel_left_eq,
        Nat.toString_eq_repr, Nat.toString_eq_repr, Nat.toList_repr, Nat.toList_repr] at texts
    exact texts
  have read := congrArg (fun digits => Nat.ofDigitChars 10 digits 0) digits
  rwa [Nat.ofDigitChars_ten_toDigits, Nat.ofDigitChars_ten_toDigits] at read

/-- The next generated name is not taken. -/
def NextFree (engine : Engine) : Prop :=
  autoName (engine.resources.nodes.length + 1) ∉ engine.resources.nodes.map (·.nodeId)

theorem Sound.scaled (sound : Sound engine) (now : Int) : Sound (engine.scaled now) := sound.register _ now

theorem Clear.waitingOf_eq (clear : Clear engine campaignId) (counts : ResourceRequirements → Bool) :
    engine.waitingOf campaignId counts = engine.jobs.countP fun job =>
      job.campaignId = campaignId && job.status = .pending && counts job.requirements := by
  apply List.countP_congr
  intro job member
  by_cases own : job.campaignId = campaignId
  · have idle := clear job member own
    simp [own, Engine.waits, idle]
  · simp [own]

theorem Clear.waiting_eq (clear : Clear engine campaignId) :
    engine.waiting campaignId = (engine.pendingJobs campaignId).length := by
  rw [Engine.waiting, clear.waitingOf_eq, Engine.pendingJobs, Engine.campaignJobs, List.filter_filter,
    List.countP_eq_length_filter]
  congr 1
  apply List.filter_congr
  intro job _
  rw [Bool.and_true, Bool.and_comm]

theorem Clear.scaled (clear : Clear engine campaignId) (now : Int) : Clear (engine.scaled now) campaignId := clear

/-- Another node takes the hope of no job that is beyond it and the known nodes: what it may
replace can only host less afterwards. -/
theorem hopeless_scaled (sound : Sound engine) (clear : Clear engine campaignId)
    (lost : engine.hopeless campaignId requirements = true) :
    (engine.scaled now).hopeless campaignId requirements = true := by
  obtain ⟨unmatched, unhosted⟩ := Bool.and_eq_true_iff.mp lost
  have unmatched := of_decide_eq_true unmatched
  rw [clear.bare_eq sound] at unmatched
  rw [Engine.hopeless, (clear.scaled now).bare_eq (sound.scaled now), unhosted, Bool.and_true, decide_eq_true_iff,
    List.eq_nil_iff_forall_not_mem]
  intro node matching
  obtain ⟨member, suits, cpu, memory⟩ := (mem_nodesMatching (sound.scaled now).nodes).mp matching
  rcases mem_put member with rfl | old
  · have hosts : AutoHosts requirements := by
      refine ⟨suits.2.2.1, ?_, cpu.trans (Nat.sub_le _ _), memory.trans (Nat.sub_le _ _)⟩
      exact List.eq_nil_iff_forall_not_mem.mpr fun capability needed => nomatch suits.2.2.2 capability needed
    rw [decide_eq_true hosts] at unhosted
    cases unhosted
  · have before : node ∈ engine.resources.nodesMatching requirements :=
      (mem_nodesMatching sound.nodes).mpr ⟨old, suits, cpu, memory⟩
    rw [unmatched] at before
    cases before

theorem stuck_scaled (sound : Sound engine) (clear : Clear engine campaignId) :
    engine.stuck campaignId ≤ (engine.scaled now).stuck campaignId := by
  rw [Engine.stuck, Engine.stuck, clear.waitingOf_eq, (clear.scaled now).waitingOf_eq]
  apply List.countP_mono_left
  intro job _ counted
  obtain ⟨waits, lost⟩ := Bool.and_eq_true_iff.mp counted
  exact Bool.and_eq_true_iff.mpr ⟨waits, hopeless_scaled sound clear lost⟩

/-- A node under a fresh name is empty, and it leaves the others as they are. -/
theorem scaled_hosts (sound : Sound engine) (free : NextFree engine) (hosts : AutoHosts requirements) :
    (engine.scaled now).resources.nodesMatching requirements ≠ [] := by
  have empty : (engine.scaled now).resources.held (autoName (engine.resources.nodes.length + 1)) = [] := by
    rw [held_eq, List.filter_eq_nil_iff]
    intro allocation inForce named
    exact free (of_decide_eq_true named ▸ sound.placed allocation inForce)
  refine List.ne_nil_of_mem ((mem_nodesMatching (sound.scaled now).nodes).mpr ⟨record_mem_put, ?_, ?_, ?_⟩)
  · refine ⟨if_pos rfl, decide_eq_true rfl, hosts.1, ?_⟩
    rw [hosts.2.1]
    exact fun capability needed => nomatch needed
  · have none : (engine.scaled now).resources.allocatedCpu (autoName (engine.resources.nodes.length + 1)) = 0 := by
      rw [allocatedCpu, empty, List.map_nil, List.sum_nil]
    exact none ▸ hosts.2.2.1
  · have none : (engine.scaled now).resources.allocatedMemory (autoName (engine.resources.nodes.length + 1)) = 0 := by
      rw [allocatedMemory, empty, List.map_nil, List.sum_nil]
    exact none ▸ hosts.2.2.2

theorem scaled_keeps (sound : Sound engine) (free : NextFree engine)
    (matching : node ∈ engine.resources.nodesMatching requirements) :
    node ∈ (engine.scaled now).resources.nodesMatching requirements := by
  obtain ⟨member, suits, room⟩ := (mem_nodesMatching sound.nodes).mp matching
  refine (mem_nodesMatching (sound.scaled now).nodes).mpr ⟨mem_put_of_ne member fun same => ?_, suits, room⟩
  exact free (List.mem_map.mpr ⟨node, member, same⟩)

theorem stuck_scaled_free (sound : Sound engine) (clear : Clear engine campaignId) (free : NextFree engine) :
    (engine.scaled now).stuck campaignId ≤ engine.stuck campaignId := by
  rw [Engine.stuck, Engine.stuck, clear.waitingOf_eq, (clear.scaled now).waitingOf_eq]
  apply List.countP_mono_left
  intro job _ counted
  obtain ⟨waits, lost⟩ := Bool.and_eq_true_iff.mp counted
  refine Bool.and_eq_true_iff.mpr ⟨waits, ?_⟩
  obtain ⟨unmatched, unhosted⟩ := Bool.and_eq_true_iff.mp lost
  have unmatched := of_decide_eq_true unmatched
  rw [(clear.scaled now).bare_eq (sound.scaled now)] at unmatched
  refine Bool.and_eq_true_iff.mpr ⟨decide_eq_true ?_, unhosted⟩
  rw [clear.bare_eq sound, List.eq_nil_iff_forall_not_mem]
  intro node matching
  have kept := @scaled_keeps _ _ _ now sound free matching
  rw [unmatched] at kept
  cases kept

end

variable {digests : Digests} {engine following : Engine} {campaign : SimulationCampaign} {campaignId : String}
  {clock : Nat → Int} {now : Int}

open ResourceManager (autoName)

/-- The campaign has a record. -/
def Known (engine : Engine) (campaignId : String) : Prop := campaignId ∈ engine.campaigns.map (·.campaignId)

theorem known_put (known : Known engine campaignId) (campaign : SimulationCampaign) :
    Known (engine.putCampaign campaign) campaignId := by
  rw [Known, Engine.putCampaign, keys_put]
  split
  · exact known
  · exact List.mem_append_left _ known

theorem advance_known (advance : Advance campaignId engine following) (known : Known engine campaignId) :
    Known following campaignId ∧ following.autoscaleThreshold = engine.autoscaleThreshold := by
  cases advance with
  | place member own pending matching => exact ⟨known, rfl⟩
  | settle member own scheduled settles => exact ⟨known, rfl⟩
  | store artifacts => exact ⟨known, rfl⟩
  | assess =>
      unfold Engine.updateCampaignStatus
      split
      · exact ⟨known, rfl⟩
      · exact ⟨known_put known _, rfl⟩
  | start found pending => exact ⟨known_put known _, rfl⟩

theorem advances_known (advances : Advances campaignId engine following) (known : Known engine campaignId) :
    Known following campaignId ∧ following.autoscaleThreshold = engine.autoscaleThreshold := by
  induction advances with
  | refl => exact ⟨known, rfl⟩
  | tail _ advance ih =>
      have step := advance_known advance ih.1
      exact ⟨step.1, step.2.trans ih.2⟩

theorem known_iff : Known engine campaignId ↔ ∃ campaign, engine.campaign campaignId = some campaign := by
  rw [Known, Engine.campaign, ← not_iff_not, ← find_eq_none_iff, not_exists, Option.eq_none_iff_forall_ne_some]

theorem round_ok (sound : Sound engine) (known : Known engine campaignId) (now : Int) :
    ∃ turned, engine.campaignRound digests campaignId now = .ok turned := by
  obtain ⟨campaign, found⟩ := known_iff.mp known
  have places : ∃ scheduled, engine.scheduleCampaign campaignId = .ok scheduled := by
    unfold Engine.scheduleCampaign
    rw [found]
    dsimp only
    split
    · exact ⟨_, rfl⟩
    · split <;> exact ⟨_, rfl⟩
  obtain ⟨scheduled, placed⟩ := places
  have later := advances_known (scheduleCampaign_advances sound placed) known
  obtain ⟨campaign, found⟩ := known_iff.mp later.1
  have executes : ∃ executed, scheduled.1.executeReadyJobs digests campaignId = .ok executed := by
    unfold Engine.executeReadyJobs
    rw [found]
    dsimp only
    split <;> exact ⟨_, rfl⟩
  obtain ⟨executed, settled⟩ := executes
  unfold Engine.campaignRound
  simp only [placed, settled]
  split <;> exact ⟨_, rfl⟩

/-- Everything about one round: what it schedules and executes ends in a state where the campaign
holds nothing, and the node that may follow does not change the campaign's jobs. -/
theorem round_spec (sound : Sound engine) (known : Known engine campaignId) (now : Int) :
    ∃ middle progress, Sound middle ∧ Clear middle campaignId ∧ Known middle campaignId ∧
      middle.autoscaleThreshold = engine.autoscaleThreshold ∧ middle.resources.nodes = engine.resources.nodes ∧
      (∀ requirements, (middle.bare campaignId).nodesMatching requirements =
        (engine.bare campaignId).nodesMatching requirements) ∧
      middle.waiting campaignId ≤ engine.waiting campaignId ∧ middle.stuck campaignId = engine.stuck campaignId ∧
      (progress = false ∧ (∀ job ∈ middle.jobs, job.campaignId = campaignId → job.status = .pending →
          middle.resources.nodesMatching job.requirements = []) ∨
        progress = true ∧ (Clear engine campaignId → middle.waiting campaignId < engine.waiting campaignId)) ∧
      (middle.waiting campaignId ≤ engine.autoscaleThreshold ∧
          engine.campaignRound digests campaignId now = .ok (middle, progress) ∨
        engine.autoscaleThreshold < middle.waiting campaignId ∧
          engine.campaignRound digests campaignId now = .ok (middle.scaled now, true)) := by
  obtain ⟨⟨following, progress⟩, turned⟩ := @round_ok digests _ _ sound known now
  obtain ⟨scheduled, executed, placed, settled, advances, clear, outcome⟩ := round_cases sound turned
  have soundAfter := sound.advances advances
  obtain ⟨knownAfter, threshold⟩ := advances_known advances known
  obtain ⟨waiting, stuck, cases⟩ := turn_counts sound placed settled
  refine ⟨executed.1, _, soundAfter, clear, knownAfter, threshold, advances_nodes advances,
    fun requirements => bare_advances sound advances, waiting, stuck, cases, ?_⟩
  rw [turned, clear.waiting_eq, ← threshold]
  rcases outcome with ⟨few, rfl, rfl⟩ | ⟨many, rfl, rfl⟩
  · exact .inl ⟨few, rfl⟩
  · exact .inr ⟨many, rfl⟩

/-- With more stuck jobs than the threshold every round adds a node, and none helps. -/
theorem stuck_never_returns (sound : Sound engine) (known : Known engine campaignId)
    (many : engine.autoscaleThreshold < engine.stuck campaignId) (rounds : Nat) :
    Engine.runCampaign digests campaignId rounds clock engine = none := by
  induction rounds generalizing engine clock with
  | zero => rfl
  | succ rounds ih =>
      obtain ⟨middle, progress, soundMiddle, clear, knownMiddle, threshold, -, -, -, stuck, -, outcome⟩ :=
        @round_spec digests _ _ sound known (clock 0)
      have waits : middle.stuck campaignId ≤ middle.waiting campaignId := by
        apply List.countP_mono_left
        intro job _ counted
        rw [Bool.and_true]
        exact (Bool.and_eq_true_iff.mp counted).1
      rcases outcome with ⟨few, -⟩ | ⟨-, turned⟩
      · omega
      · rw [Engine.runCampaign, turned]
        have more : middle.autoscaleThreshold < (middle.scaled (clock 0)).stuck campaignId := by
          have kept := @stuck_scaled _ _ (clock 0) soundMiddle clear
          omega
        exact ih (soundMiddle.scaled _) knownMiddle more

/-- How `run_campaign` ends: in a state where every job of the campaign is completed, failed, or
pending with no node to host it, with at most so many nodes added. -/
def Ends (digests : Digests) (engine : Engine) (campaignId : String) (added : Nat) (clock : Nat → Int) : Prop :=
  ∃ rounds final, Engine.runCampaign digests campaignId rounds clock engine = some (.ok final) ∧
    final.resources.nodes.length ≤ engine.resources.nodes.length + added ∧
    ∀ job ∈ final.campaignJobs campaignId, job.status = .completed ∨ job.status = .failed ∨
      job.status = .pending ∧ final.resources.nodesMatching job.requirements = []

variable {middle : Engine} {added more count : Nat}

theorem ends_idle (sound : Sound middle) (clear : Clear middle campaignId)
    (nodes : middle.resources.nodes = engine.resources.nodes)
    (unmatched : ∀ job ∈ middle.jobs, job.campaignId = campaignId → job.status = .pending →
      middle.resources.nodesMatching job.requirements = [])
    (turned : engine.campaignRound digests campaignId (clock 0) = .ok (middle, false)) :
    Ends digests engine campaignId added clock := by
  refine ⟨1, middle.updateCampaignStatus campaignId, ?_, ?_, ?_⟩
  · rw [Engine.runCampaign, turned]
  · rw [updateCampaignStatus_resources, nodes]
    exact Nat.le_add_right _ _
  · intro job inside
    obtain ⟨member, own⟩ := List.mem_filter.mp inside
    rw [updateCampaignStatus_jobs] at member
    rw [updateCampaignStatus_resources]
    have own := of_decide_eq_true own
    rcases sound.resting job member with pending | scheduled | completed | failed
    · exact .inr (.inr ⟨pending, unmatched job member own pending⟩)
    · exact absurd scheduled (clear job member own)
    · exact .inl completed
    · exact .inr (.inl failed)

theorem ends_later {following : Engine}
    (turned : engine.campaignRound digests campaignId (clock 0) = .ok (following, true))
    (nodes : following.resources.nodes.length + more ≤ engine.resources.nodes.length + added)
    (ends : Ends digests following campaignId more fun round => clock (round + 1)) :
    Ends digests engine campaignId added clock := by
  obtain ⟨rounds, final, finished, few, resting⟩ := ends
  refine ⟨rounds + 1, final, ?_, few.trans nodes, resting⟩
  rw [Engine.runCampaign, turned]
  exact finished

/-- An empty added node is there, or one like it. -/
def Ready (engine : Engine) : Prop :=
  ∀ requirements, AutoHosts requirements → engine.resources.nodesMatching requirements ≠ []

/-- None of the next generated names is taken. -/
def FreeAhead (engine : Engine) (count : Nat) : Prop :=
  ∀ index, engine.resources.nodes.length < index → index ≤ engine.resources.nodes.length + count →
    autoName index ∉ engine.resources.nodes.map (·.nodeId)

theorem FreeAhead.scaled (free : FreeAhead engine count) (fewer : more + 1 ≤ count) (now : Int) :
    (engine.scaled now).resources.nodes.length = engine.resources.nodes.length + 1 ∧
      FreeAhead (engine.scaled now) more := by
  have next : NextFree engine := free _ (Nat.lt_succ_self _) (by omega)
  have nodes : (engine.scaled now).resources.nodes = engine.resources.nodes ++ [_] := put_absent next
  have length : (engine.scaled now).resources.nodes.length = engine.resources.nodes.length + 1 := by
    rw [nodes, List.length_append, List.length_singleton]
  refine ⟨length, fun index beyond within taken => ?_⟩
  rw [length] at beyond within
  rw [nodes, List.map_append, List.mem_append, List.map_singleton, List.mem_singleton] at taken
  rcases taken with old | new
  · exact free index (by omega) (by omega) old
  · have same := autoName_injective new
    omega

/-- What a node under a fresh name changes: it can host what added nodes host, and one name less
is needed. -/
theorem scaled_spec (sound : Sound engine) (clear : Clear engine campaignId)
    (free : FreeAhead engine (count + 1)) (now : Int) :
    Ready (engine.scaled now) ∧ (engine.scaled now).stuck campaignId ≤ engine.stuck campaignId ∧
      (engine.scaled now).waiting campaignId = engine.waiting campaignId ∧
      (engine.scaled now).resources.nodes.length = engine.resources.nodes.length + 1 ∧
      FreeAhead (engine.scaled now) count := by
  have next : NextFree engine := free _ (Nat.lt_succ_self _) (by omega)
  refine ⟨fun requirements hosts => scaled_hosts sound next hosts, stuck_scaled_free sound clear next, ?_, ?_⟩
  · rw [(clear.scaled now).waiting_eq, clear.waiting_eq]
    rfl
  · exact free.scaled (Nat.le_refl _) now

/-- Some waiting job is not stuck, so with an added node in place something matches it. -/
theorem matched_of_fewer_stuck (sound : Sound engine) (clear : Clear engine campaignId) (ready : Ready engine)
    (fewer : engine.stuck campaignId < engine.waiting campaignId) : ∃ job ∈ engine.jobs, job.campaignId = campaignId ∧
      job.status = .pending ∧ engine.resources.nodesMatching job.requirements ≠ [] := by
  by_contra none
  apply absurd fewer
  rw [Engine.stuck, Engine.waiting, clear.waitingOf_eq, clear.waitingOf_eq, not_lt]
  apply List.countP_mono_left
  intro job member counted
  rw [Bool.and_true] at counted
  obtain ⟨own, pending⟩ := Bool.and_eq_true_iff.mp counted
  have unmatched : engine.resources.nodesMatching job.requirements = [] := by
    by_contra matched
    exact none ⟨job, member, of_decide_eq_true own, of_decide_eq_true pending, matched⟩
  have lost : engine.hopeless campaignId job.requirements = true := by
    rw [Engine.hopeless, clear.bare_eq sound, unmatched]
    exact Bool.and_eq_true_iff.mpr ⟨decide_eq_true rfl, by
      rw [decide_eq_false fun hosts => ready _ hosts unmatched]
      rfl⟩
  rw [counted, lost]
  rfl

theorem Ready.of_bare (sound : Sound engine) (clear : Clear engine campaignId) (ready : Ready engine)
    (soundMiddle : Sound middle) (clearMiddle : Clear middle campaignId)
    (bare : ∀ requirements, (middle.bare campaignId).nodesMatching requirements =
      (engine.bare campaignId).nodesMatching requirements) : Ready middle := by
  intro requirements hosts
  rw [← clearMiddle.bare_eq soundMiddle, bare, clear.bare_eq sound]
  exact ready requirements hosts

/-- From a state where the campaign holds nothing: once a node has been added every further round
that adds one has placed a job before, so the number of waiting jobs bounds them. -/
theorem ends_clear (bound : Nat) (sound : Sound engine) (known : Known engine campaignId)
    (clear : Clear engine campaignId)
    (waiting : engine.waiting campaignId ≤ bound) (few : engine.stuck campaignId ≤ engine.autoscaleThreshold)
    (ready : Ready engine ∨ engine.waiting campaignId ≤ engine.autoscaleThreshold)
    (free : FreeAhead engine (engine.waiting campaignId - engine.autoscaleThreshold - 1)) :
    Ends digests engine campaignId (engine.waiting campaignId - engine.autoscaleThreshold - 1) clock := by
  induction bound generalizing engine clock with
  | zero =>
      obtain ⟨middle, progress, soundMiddle, clearMiddle, -, threshold, nodes, -, fewer, -, cases, outcome⟩ :=
        @round_spec digests _ _ sound known (clock 0)
      rcases outcome with ⟨-, turned⟩ | ⟨many, -⟩
      · rcases cases with ⟨rfl, unmatched⟩ | ⟨-, less⟩
        · exact ends_idle soundMiddle clearMiddle nodes unmatched turned
        · have less := less clear
          omega
      · omega
  | succ bound ih =>
      obtain ⟨middle, progress, soundMiddle, clearMiddle, knownMiddle, threshold, nodes, bare, fewer, stuck, cases,
          outcome⟩ :=
        @round_spec digests _ _ sound known (clock 0)
      rcases cases with ⟨rfl, unmatched⟩ | ⟨rfl, less⟩
      · rcases outcome with ⟨-, turned⟩ | ⟨many, -⟩
        · exact ends_idle soundMiddle clearMiddle nodes unmatched turned
        · -- too many wait, yet nothing matched: an added node would have
          have ready : Ready engine := ready.resolve_right (by omega)
          have readyMiddle := ready.of_bare sound clear soundMiddle clearMiddle bare
          obtain ⟨job, member, own, pending, matched⟩ :=
            matched_of_fewer_stuck soundMiddle clearMiddle readyMiddle (by omega)
          exact absurd (unmatched job member own pending) matched
      · have less := less clear
        rcases outcome with ⟨enough, turned⟩ | ⟨many, turned⟩
        · have none : middle.waiting campaignId - middle.autoscaleThreshold - 1 = 0 := by omega
          have later := @ih middle (fun round => clock (round + 1)) soundMiddle knownMiddle clearMiddle (by omega)
              (by omega)
            (.inr (by omega)) (fun index beyond within => by omega)
          exact ends_later turned (by rw [nodes, none]; omega) later
        · have ahead : FreeAhead middle (engine.waiting campaignId - engine.autoscaleThreshold - 2 + 1) := by
            intro index beyond within
            rw [nodes] at beyond within ⊢
            exact free index beyond (by omega)
          obtain ⟨readyScaled, lost, same, length, aheadScaled⟩ := scaled_spec soundMiddle clearMiddle ahead (clock 0)
          have sameThreshold : (middle.scaled (clock 0)).autoscaleThreshold = middle.autoscaleThreshold := rfl
          have later := @ih (middle.scaled (clock 0)) (fun round => clock (round + 1))
              (soundMiddle.scaled _) knownMiddle
            (clearMiddle.scaled _) (by omega) (by omega) (.inl readyScaled)
            (fun index beyond within => aheadScaled index beyond (by omega))
          refine ends_later turned ?_ later
          rw [length, nodes, same, sameThreshold, threshold]
          omega

theorem ends_of_few_stuck (sound : Sound engine) (known : Known engine campaignId)
    (few : engine.stuck campaignId ≤ engine.autoscaleThreshold)
    (free : FreeAhead engine (engine.waiting campaignId - engine.autoscaleThreshold)) :
    Ends digests engine campaignId (engine.waiting campaignId - engine.autoscaleThreshold) clock := by
  obtain ⟨middle, progress, soundMiddle, clearMiddle, knownMiddle, threshold, nodes, -, fewer, stuck, cases, outcome⟩ :=
    @round_spec digests _ _ sound known (clock 0)
  rcases outcome with ⟨enough, turned⟩ | ⟨many, turned⟩
  · rcases cases with ⟨rfl, unmatched⟩ | ⟨rfl, -⟩
    · exact ends_idle soundMiddle clearMiddle nodes unmatched turned
    · have later := @ends_clear digests middle campaignId (fun round => clock (round + 1)) _ soundMiddle knownMiddle
        clearMiddle (Nat.le_refl _) (by omega) (.inr (by omega)) (fun index beyond within => by omega)
      refine ends_later turned ?_ later
      rw [nodes]
      omega
  · have ahead : FreeAhead middle (engine.waiting campaignId - engine.autoscaleThreshold - 1 + 1) := by
      intro index beyond within
      rw [nodes] at beyond within ⊢
      exact free index beyond (by omega)
    obtain ⟨readyScaled, lost, same, length, aheadScaled⟩ := scaled_spec soundMiddle clearMiddle ahead (clock 0)
    have sameThreshold : (middle.scaled (clock 0)).autoscaleThreshold = middle.autoscaleThreshold := rfl
    have later := @ends_clear digests (middle.scaled (clock 0)) campaignId (fun round => clock (round + 1)) _
      (soundMiddle.scaled _) knownMiddle (clearMiddle.scaled _) (Nat.le_refl _) (by omega) (.inl readyScaled)
      (fun index beyond within => aheadScaled index beyond (by omega))
    refine ends_later turned ?_ later
    rw [length, nodes, same, sameThreshold, threshold]
    omega

def fourJobs (regions : List String) : CampaignRequest where
  name := "pilot"
  objective := "evolve"
  candidateCount := 3
  requirements := some { defaultRequirements with regions := regions }

/-- A campaign of four jobs on a cloud without nodes. -/
def submitted (regions : List String) : Engine :=
  ((opened "constitution.v1" 3).submitCampaign readable (fourJobs regions)).1

theorem submitted_reached (regions : List String) :
    Reaches (execute readable) (fun _ _ => True) (opened "constitution.v1" 3) (submitted regions) := by
  have taken : execute readable (opened "constitution.v1" 3) (.submitCampaign (fourJobs regions)) =
      some (submitted regions) := rfl
  exact .next .start trivial taken

end AutonomousApi.EvolutionCloud
