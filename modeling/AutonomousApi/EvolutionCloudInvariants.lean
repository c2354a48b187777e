import AutonomousApi.EvolutionCloudLaws

/-! What every command of the evolution cloud preserves: the capacity of the nodes as long as a
node is registered with room for what its name already holds, the agreement of allocations with
jobs, the bound on attempts, and the finality of verdicts. -/

namespace AutonomousApi.EvolutionCloud

open RecordTable Runs

section

variable {checked : Prop} {engine middle following : Engine} {job settled : DistributedJob}
  {campaign : SimulationCampaign} {campaignId nodeId : String}

/-- The node offers what is allocated under its name. -/
def HasRoom (engine : Engine) (registration : Registration) : Prop :=
  engine.resources.allocatedCpu registration.nodeId ≤ registration.cpuCapacity ∧
    engine.resources.allocatedMemory registration.nodeId ≤ registration.memoryMbCapacity

/-- The steps that commands are made of. -/
inductive Change (checked : Prop) (engine : Engine) : Engine → Prop where
  | advance {campaignId : String} {following : Engine} (advance : Advance campaignId engine following) :
      Change checked engine following
  | nodes {nodes : List ComputeNode}
      (kept : List.Forall₂ (fun old new => new.toRegistration = old.toRegistration) engine.resources.nodes nodes) :
      Change checked engine { engine with resources := { engine.resources with nodes := nodes } }
  | register (registration : Registration) (now : Int) (room : checked → HasRoom engine registration) :
      Change checked engine { engine with resources := engine.resources.registerNode registration now }
  | file {campaign : SimulationCampaign} (fresh : campaign.campaignId ∉ engine.campaigns.map (·.campaignId))
      (pending : campaign.status = .pending) : Change checked engine (engine.putCampaign campaign)
  | plan (plan : FaultRecoveryPlan) (unused : ∀ job ∈ engine.jobs, job.campaignId ≠ plan.campaignId) :
      Change checked engine { engine with plans := put (·.campaignId) engine.plans plan }
  | create {job : DistributedJob} {campaign : SimulationCampaign} {plan : FaultRecoveryPlan}
      (fresh : job.jobId ∉ engine.jobs.map (·.jobId)) (filed : campaign ∈ engine.campaigns)
      (own : job.campaignId = campaign.campaignId) (unjudged : campaign.status = .pending)
      (planned : find (·.campaignId) engine.plans job.campaignId = some plan) (pending : job.status = .pending)
      (first : job.attempt = 0) : Change checked engine (engine.putJob job)

abbrev Changes (checked : Prop) : Engine → Engine → Prop := Relation.ReflTransGen (Change checked)

theorem Advances.changes (advances : Advances campaignId engine following) : Changes checked engine following := by
  induction advances with
  | refl => exact .refl
  | tail _ advance ih => exact ih.tail (.advance advance)

variable {before after : List ComputeNode}

theorem node_ids (kept : List.Forall₂ (fun old new => new.toRegistration = old.toRegistration) before after) :
    after.map (·.nodeId) = before.map (·.nodeId) := by
  induction kept with
  | nil => rfl
  | cons same _ ih => rw [List.map_cons, List.map_cons, ih, same]

theorem old_node {node : ComputeNode}
    (kept : List.Forall₂ (fun old new => new.toRegistration = old.toRegistration) before after)
    (member : node ∈ after) :
    ∃ old ∈ before, node.toRegistration = old.toRegistration := by
  induction kept with
  | nil => cases member
  | cons same _ ih =>
      rcases List.mem_cons.mp member with rfl | later
      · exact ⟨_, List.mem_cons_self, same⟩
      · obtain ⟨old, held, equal⟩ := ih later
        exact ⟨old, List.mem_cons_of_mem _ held, equal⟩

theorem Sound.register (sound : Sound engine) (registration : Registration) (now : Int) :
    Sound { engine with resources := engine.resources.registerNode registration now } where
  nodes := sound.nodes.put
  campaigns := sound.campaigns
  jobs := sound.jobs
  filed := sound.filed
  planned := sound.planned
  resting := sound.resting
  placed allocation inForce := by
    have placed := sound.placed allocation inForce
    rw [ResourceManager.registerNode, ResourceManager.putNode, keys_put]
    split
    · exact placed
    · exact List.mem_append_left _ placed
  owned := sound.owned
  booking := sound.booking
  judged := sound.judged

theorem Sound.create (sound : Sound engine) {plan : FaultRecoveryPlan}
    (fresh : job.jobId ∉ engine.jobs.map (·.jobId)) (filed : campaign ∈ engine.campaigns)
    (own : job.campaignId = campaign.campaignId) (unjudged : campaign.status = .pending)
    (planned : find (·.campaignId) engine.plans job.campaignId = some plan) (pending : job.status = .pending)
    (first : job.attempt = 0) : Sound (engine.putJob job) := by
  have added : (engine.putJob job).jobs = engine.jobs ++ [job] := put_absent fresh
  -- a job of the new table is old or the new one
  have jobs (other : DistributedJob) (held : other ∈ (engine.putJob job).jobs) : other ∈ engine.jobs ∨ other = job := by
    rw [added, List.mem_append, List.mem_singleton] at held
    exact held
  constructor
  · exact sound.nodes
  · exact sound.campaigns
  · exact sound.jobs.put
  · intro other held
    rcases jobs other held with old | rfl
    · exact sound.filed other old
    · exact List.mem_map.mpr ⟨campaign, filed, own.symm⟩
  · intro other held
    rcases jobs other held with old | rfl
    · exact sound.planned other old
    · exact ⟨plan, planned, first ▸ Nat.zero_le _⟩
  · intro other held
    rcases jobs other held with old | rfl
    · exact sound.resting other old
    · exact .inl pending
  · exact sound.placed
  · intro allocation inForce
    obtain ⟨owner, owns, same, scheduled⟩ := sound.owned allocation inForce
    exact ⟨owner, added ▸ List.mem_append_left _ owns, same, scheduled⟩
  · intro other held scheduled
    rcases jobs other held with old | rfl
    · exact sound.booking other old scheduled
    · rw [pending] at scheduled
      cases scheduled
  · intro other known
    by_cases same : other.campaignId = campaign.campaignId
    · have equal := sound.campaigns.unique known filed same
      rw [equal, unjudged]
      exact ⟨nofun, nofun⟩
    · have apart : [job].filter (fun job => job.campaignId = other.campaignId) = [] :=
        List.filter_eq_nil_iff.mpr (by simpa [own] using Ne.symm same)
      rw [Engine.campaignJobs, added, List.filter_append, apart, List.append_nil]
      exact sound.judged other known

theorem Sound.change (sound : Sound engine) (change : Change checked engine following) : Sound following := by
  cases change with
  | advance advance => exact sound.advance advance
  | nodes kept =>
      have ids := node_ids kept
      exact ⟨(congrArg List.Nodup ids).mpr sound.nodes, sound.campaigns, sound.jobs, sound.filed, sound.planned,
        sound.resting, fun allocation inForce => ids ▸ sound.placed allocation inForce, sound.owned, sound.booking,
        sound.judged⟩
  | register registration now room => exact sound.register registration now
  | file fresh pending => exact sound.putCampaign (pending ▸ ⟨nofun, nofun⟩)
  | plan plan unused =>
      refine ⟨sound.nodes, sound.campaigns, sound.jobs, sound.filed, fun job member => ?_, sound.resting, sound.placed,
        sound.owned, sound.booking, sound.judged⟩
      obtain ⟨known, found, within⟩ := sound.planned job member
      refine ⟨known, ?_, within⟩
      rw [find_put, if_neg (Ne.symm (unused job member))]
      exact found
  | create fresh filed own unjudged planned pending first =>
      exact sound.create fresh filed own unjudged planned pending first

theorem Sound.changes (sound : Sound engine) (changes : Changes checked engine following) : Sound following := by
  induction changes with
  | refl => exact sound
  | tail _ change ih => exact ih.change change

/-- Terminal jobs and reached verdicts are as they were. -/
structure Persists (engine following : Engine) : Prop where
  jobs : ∀ job ∈ engine.jobs, job.status = .completed ∨ job.status = .failed → job ∈ following.jobs
  campaigns : ∀ campaign ∈ engine.campaigns, campaign.status = .completed → campaign ∈ following.campaigns

theorem Persists.refl (engine : Engine) : Persists engine engine :=
  ⟨fun _ member _ => member, fun _ member _ => member⟩

theorem Persists.trans (first : Persists engine middle) (second : Persists middle following) :
    Persists engine following where
  jobs job member terminal := second.jobs job (first.jobs job member terminal) terminal
  campaigns campaign member completed := second.campaigns campaign (first.campaigns campaign member completed) completed

/-- Only jobs under way are replaced. -/
theorem Persists.put (sound : Sound engine) (member : job ∈ engine.jobs)
    (underway : job.status = .pending ∨ job.status = .scheduled) (same : settled.jobId = job.jobId) :
    Persists engine (engine.putJob settled) where
  campaigns _ held _ := held
  jobs other held terminal := by
    refine mem_put_of_ne held fun equal => ?_
    have identical := sound.jobs.unique held member (equal.trans same)
    subst identical
    rcases underway with is | is <;> rw [is] at terminal <;> rcases terminal with other | other <;> cases other

theorem Persists.assess (sound : Sound engine) : Persists engine (engine.updateCampaignStatus campaignId) := by
  unfold Engine.updateCampaignStatus
  split
  · exact .refl engine
  case h_2 found known =>
      obtain ⟨filed, named⟩ := mem_of_find known
      refine ⟨fun _ held _ => held, fun campaign held completed => ?_⟩
      by_cases same : campaign.campaignId = found.campaignId
      · have equal := sound.campaigns.unique held filed same
        subst equal
        subst named
        obtain ⟨present, all⟩ := (sound.judged campaign held).1 completed
        have still : Engine.campaignStatus (engine.campaignJobs campaign.campaignId) = .completed := by
          rw [Engine.campaignStatus, if_neg present, if_pos]
          exact List.all_eq_true.mpr fun job inside => decide_eq_true (all job inside)
        have unchanged : { campaign with status := Engine.campaignStatus (engine.campaignJobs campaign.campaignId) } =
            campaign := by
          rw [still, ← completed]
        rw [unchanged]
        exact record_mem_put
      · exact mem_put_of_ne held same

theorem Persists.change (sound : Sound engine) (change : Change checked engine following) :
    Persists engine following := by
  cases change with
  | advance advance =>
      cases advance with
      | @place job node member own pending matching =>
          have put := @Persists.put engine job { job with status := .scheduled, nodeId := some node.nodeId }
            sound member (.inl pending) rfl
          exact ⟨put.jobs, put.campaigns⟩
      | settle member own scheduled settles =>
          have put := Persists.put sound member (.inr scheduled) settles.jobId
          exact ⟨put.jobs, put.campaigns⟩
      | store artifacts => exact ⟨fun _ held _ => held, fun _ held _ => held⟩
      | assess => exact .assess sound
      | start known pending =>
          obtain ⟨filed, -⟩ := mem_of_find known
          refine ⟨fun _ held _ => held, fun campaign held completed => mem_put_of_ne held fun same => ?_⟩
          have equal := sound.campaigns.unique held filed same
          rw [equal, pending] at completed
          cases completed
  | nodes kept => exact ⟨fun _ held _ => held, fun _ held _ => held⟩
  | register registration now room => exact ⟨fun _ held _ => held, fun _ held _ => held⟩
  | file fresh pending =>
      exact ⟨fun _ held _ => held, fun _ held _ => mem_put_of_ne held fun same =>
        fresh (List.mem_map.mpr ⟨_, held, same⟩)⟩
  | plan plan unused => exact ⟨fun _ held _ => held, fun _ held _ => held⟩
  | create fresh filed own unjudged planned pending first =>
      exact ⟨fun _ held _ => mem_put_of_ne held fun same => fresh (List.mem_map.mpr ⟨_, held, same⟩),
        fun _ held _ => held⟩

theorem Persists.changes (sound : Sound engine) (changes : Changes checked engine following) :
    Persists engine following := by
  induction changes with
  | refl => exact .refl engine
  | tail earlier change ih => exact ih.trans (.change (sound.changes earlier) change)

end

section

variable {engine following : Engine} {job : DistributedJob}

/-- No node has more allocated than it offers. -/
def Fits (engine : Engine) : Prop := ∀ node ∈ engine.resources.nodes, HasRoom engine node.toRegistration

instance (engine : Engine) (registration : Registration) : Decidable (HasRoom engine registration) :=
  inferInstanceAs (Decidable (_ ∧ _))

instance (engine : Engine) : Decidable (Fits engine) :=
  inferInstanceAs (Decidable (∀ node ∈ engine.resources.nodes, HasRoom engine node.toRegistration))

theorem Fits.fewer (fits : Fits engine) (nodes : following.resources.nodes = engine.resources.nodes)
    (live : List.Sublist following.resources.live engine.resources.live) : Fits following := by
  intro node member
  rw [nodes] at member
  have less := ResourceManager.allocated_mono live node.nodeId
  exact ⟨less.1.trans (fits node member).1, less.2.trans (fits node member).2⟩

theorem Fits.place (sound : Sound engine) (fits : Fits engine) {node : ComputeNode}
    (matching : node ∈ engine.resources.nodesMatching job.requirements) : Fits (engine.place job node.nodeId) := by
  obtain ⟨known, -, cpu, memory⟩ := (ResourceManager.mem_nodesMatching sound.nodes).mp matching
  have live : (engine.place job node.nodeId).resources.live = engine.resources.live ++ [_] :=
      ResourceManager.live_book rfl
  intro other member
  have room := fits other member
  have needsCpu := job.requirements.cpuBound
  have needsMemory := job.requirements.memoryBound
  unfold HasRoom ResourceManager.allocatedCpu ResourceManager.allocatedMemory at room ⊢
  unfold ResourceManager.allocatedCpu at cpu
  unfold ResourceManager.allocatedMemory at memory
  rw [ResourceManager.held_eq] at room cpu memory ⊢
  rw [live, List.filter_append]
  by_cases same : node.nodeId = other.nodeId
  · have equal := sound.nodes.unique known member same
    subst equal
    simp only [List.filter_cons, List.filter_nil, List.map_append, List.sum_append, decide_true, if_true, List.map_cons,
      List.map_nil, List.sum_cons, List.sum_nil]
    omega
  · simpa [same] using room

theorem Fits.register (fits : Fits engine) {registration : Registration} (room : HasRoom engine registration)
    (now : Int) :
    Fits { engine with resources := engine.resources.registerNode registration now } := by
  intro node member
  rcases mem_put member with rfl | old
  · exact room
  · exact fits node old

theorem Fits.change (sound : Sound engine) (fits : Fits engine) (change : Change True engine following) :
    Fits following := by
  cases change with
  | advance advance =>
      cases advance with
      | place member own pending matching => exact fits.place sound matching
      | settle member own scheduled settles =>
          refine fits.fewer rfl ?_
          rw [Engine.settle, Engine.release, ResourceManager.live_release]
          exact List.filter_sublist
      | store artifacts => exact fits
      | assess => exact fits.fewer (by simp) (by simp)
      | start known pending => exact fits
  | nodes kept =>
      intro node member
      obtain ⟨old, held, same⟩ := old_node kept member
      rw [same]
      exact fits old held
  | register registration now room => exact fits.register (room trivial) now
  | file fresh pending => exact fits
  | plan plan unused => exact fits
  | create fresh filed own unjudged planned pending first => exact fits

theorem Fits.changes (sound : Sound engine) (fits : Fits engine) (changes : Changes True engine following) :
    Fits following := by
  induction changes with
  | refl => exact fits
  | tail earlier change ih => exact ih.change (sound.changes earlier) change

end

section

variable {checked : Prop} {digests : Digests} {engine middle following : Engine} {job : DistributedJob}
  {campaignId nodeId : String}

/-- Names further autoscaled nodes will get hold nothing such a node could not bear. -/
def RoomAhead (engine : Engine) : Prop :=
  ∀ index, engine.resources.nodes.length < index → HasRoom engine (engine.resources.autoRegistration index)

/-- The condition on a command: a node is registered with room for what its name holds. -/
def Roomy (engine : Engine) : Command → Prop
  | .registerNode registration _ => HasRoom engine registration
  | .runCampaign _ _ _ => RoomAhead engine
  | _ => True

theorem advance_nodes (advance : Advance campaignId engine following) :
    following.resources.nodes = engine.resources.nodes := by
  cases advance with
  | place member own pending matching => rfl
  | settle member own scheduled settles => rfl
  | store artifacts => rfl
  | assess => rw [updateCampaignStatus_resources]
  | start found pending => rfl

theorem advances_nodes (advances : Advances campaignId engine following) :
    following.resources.nodes = engine.resources.nodes := by
  induction advances with
  | refl => rfl
  | tail _ advance ih => exact (advance_nodes advance).trans ih

def Engine.registered (engine : Engine) (registration : Registration) (now : Int) : Engine :=
  { engine with resources := engine.resources.registerNode registration now }

def Engine.scaled (engine : Engine) (now : Int) : Engine :=
  engine.registered (engine.resources.autoRegistration (engine.resources.nodes.length + 1)) now

/-- A round schedules and executes, which leaves nothing of the campaign on a node, and then may
add a node. -/
theorem round_cases {now : Int} {progress : Bool} (sound : Sound engine)
    (turned : engine.campaignRound digests campaignId now = .ok (following, progress)) :
    ∃ scheduled executed, engine.scheduleCampaign campaignId = .ok scheduled ∧
      scheduled.1.executeReadyJobs digests campaignId = .ok executed ∧
      Advances campaignId engine executed.1 ∧ Clear executed.1 campaignId ∧
      ((executed.1.pendingJobs campaignId).length ≤ executed.1.autoscaleThreshold ∧ following = executed.1 ∧
          progress = (decide (scheduled.2 ≠ []) || executed.2) ∨
        executed.1.autoscaleThreshold < (executed.1.pendingJobs campaignId).length ∧ following = executed.1.scaled now ∧
          progress = true) := by
  unfold Engine.campaignRound at turned
  cases first : engine.scheduleCampaign campaignId with
  | error failure =>
      rw [first] at turned
      cases turned
  | ok scheduled =>
      rw [first] at turned
      have placed := scheduleCampaign_advances sound first
      cases second : scheduled.1.executeReadyJobs digests campaignId with
      | error failure =>
          simp only [second] at turned
          cases turned
      | ok executed =>
          have settled := executeReadyJobs_advances (sound.advances placed) second
          refine ⟨scheduled, executed, rfl, second, placed.trans settled,
            executeReadyJobs_clear (sound.advances placed) second, ?_⟩
          simp only [second, Engine.scaleUp, ResourceManager.autoscale] at turned
          by_cases few : (executed.1.pendingJobs campaignId).length ≤ executed.1.autoscaleThreshold
          · rw [if_pos few, Option.map_none] at turned
            cases turned
            exact .inl ⟨few, rfl, rfl⟩
          · rw [if_neg few, Option.map_some] at turned
            cases turned
            exact .inr ⟨Nat.lt_of_not_le few, rfl, rfl⟩

theorem round_live (sound : Sound engine) (advances : Advances campaignId engine middle)
    (clear : Clear middle campaignId) :
    middle.resources.live = engine.foreign campaignId :=
  (clear.live_eq (sound.advances advances)).trans (foreign_advances sound advances)

theorem RoomAhead.fewer (ahead : RoomAhead engine)
    (nodes : engine.resources.nodes.length ≤ following.resources.nodes.length)
    (live : List.Sublist following.resources.live engine.resources.live) : RoomAhead following := by
  intro index beyond
  have room := ahead index (Nat.lt_of_le_of_lt nodes beyond)
  have less := ResourceManager.allocated_mono live (ResourceManager.autoName index)
  exact ⟨less.1.trans room.1, less.2.trans room.2⟩

theorem round_changes {now : Int} {progress : Bool} (sound : Sound engine) (ahead : checked → RoomAhead engine)
    (turned : engine.campaignRound digests campaignId now = .ok (following, progress)) :
    Changes checked engine following ∧ (checked → RoomAhead following) := by
  obtain ⟨scheduled, executed, -, -, advances, clear, outcome⟩ := round_cases sound turned
  have nodes := advances_nodes advances
  have live := round_live sound advances clear
  have fewer : List.Sublist executed.1.resources.live engine.resources.live := live ▸ List.filter_sublist
  have middle (condition : checked) : RoomAhead executed.1 := (ahead condition).fewer (nodes ▸ Nat.le_refl _) fewer
  rcases outcome with ⟨-, rfl, -⟩ | ⟨-, rfl, -⟩
  · exact ⟨advances.changes, middle⟩
  · constructor
    · exact advances.changes.tail (.register _ now fun condition => middle condition _ (Nat.lt_succ_self _))
    · intro condition
      exact (middle condition).fewer (length_le_put) (List.Sublist.refl _)

theorem run_changes {rounds : Nat} {clock : Nat → Int} {final : Engine} (sound : Sound engine)
    (ahead : checked → RoomAhead engine)
    (finished : Engine.runCampaign digests campaignId rounds clock engine = some (.ok final)) :
    Changes checked engine final := by
  induction rounds generalizing engine clock with
  | zero => cases finished
  | succ rounds ih =>
      rw [Engine.runCampaign] at finished
      split at finished
      · cases finished
      case h_2 turned =>
          have turn := round_changes sound ahead turned
          exact turn.1.trans (ih (sound.changes turn.1) turn.2 finished)
      case h_3 turned =>
          have turn := round_changes sound ahead turned
          cases finished
          exact turn.1.tail (.advance .assess)

theorem failJob_changes (sound : Sound engine) (member : job ∈ engine.jobs)
    (underway : job.status = .scheduled ∨ job.status = .running) : Changes checked engine (engine.failJob job).1 := by
  have scheduled : job.status = .scheduled := by
    refine underway.resolve_right fun running => ?_
    have resting := sound.resting job member
    rw [running] at resting
    rcases resting with same | same | same | same <;> cases same
  obtain ⟨plan, found, -⟩ := sound.planned job member
  have known : find (·.campaignId) (engine.release job.jobId).plans job.campaignId = some plan := found
  have settles : Settles engine.plans job (Engine.recoverJob job plan).1 := by
    unfold Engine.recoverJob
    split
    · exact ⟨rfl, rfl, rfl, .inr (.inr rfl), .inl rfl⟩
    case isFalse again =>
        exact ⟨rfl, rfl, rfl, .inl rfl, .inr ⟨plan, found, Nat.lt_of_not_le again, rfl⟩⟩
  have after : (engine.failJob job).1 =
      (engine.settle (Engine.recoverJob job plan).1).updateCampaignStatus job.campaignId := by
    rw [Engine.failJob, getRecoveryPlan_found known, Engine.settle, settles.jobId]
    rfl
  rw [after]
  exact .tail (.single (.advance (.settle member rfl scheduled settles))) (.advance .assess)

theorem failJobs_changes (sound : Sound engine) (ids : List String) :
    Changes checked engine (Engine.failJobs nodeId ids engine).1 := by
  induction ids generalizing engine with
  | nil => exact .refl
  | cons jobId rest ih =>
      rw [Engine.failJobs]
      split
      · exact ih sound
      case h_2 job taken =>
          obtain ⟨found, chosen⟩ := Option.filter_eq_some_iff.mp taken
          have failed := @failJob_changes checked _ _ sound (mem_of_find found).1 (of_decide_eq_true chosen).2
          exact failed.trans (ih (sound.changes failed))

theorem putNode_change {node changed : ComputeNode} (sound : Sound engine)
    (found : engine.resources.node nodeId = some node) (same : changed.toRegistration = node.toRegistration) :
    Change checked engine { engine with resources := engine.resources.putNode changed } :=
  .nodes (sound.nodes.put_related (fun _ => rfl) (mem_of_find found).1 (congrArg (·.nodeId) same).symm same)

theorem createJobs_changes {campaign : SimulationCampaign} {plan : FaultRecoveryPlan}
    (requirements : ResourceRequirements) (names : List (JobKind × String)) (filed : campaign ∈ engine.campaigns)
    (unjudged : campaign.status = .pending)
    (planned : find (·.campaignId) engine.plans campaign.campaignId = some plan) :
    Changes checked engine (names.foldl (Engine.createJob digests campaign requirements) engine) := by
  induction names generalizing engine with
  | nil => exact .refl
  | cons named rest ih =>
      rw [List.foldl_cons]
      cases known : engine.job (Engine.newJob digests campaign requirements named.1 named.2).jobId with
      | some existing =>
          have kept : engine.createJob digests campaign requirements named = engine := by
            rw [Engine.createJob, known]
          rw [kept]
          exact ih filed planned
      | none =>
          have added : engine.createJob digests campaign requirements named =
              engine.putJob (Engine.newJob digests campaign requirements named.1 named.2) := by
            rw [Engine.createJob, known]
          rw [added]
          exact .head (.create (find_eq_none_iff.mp known) filed rfl unjudged planned rfl rfl) (ih filed planned)

theorem submit_changes (sound : Sound engine) (request : CampaignRequest) :
    Changes checked engine (engine.submitCampaign digests request).1 := by
  unfold Engine.submitCampaign
  dsimp only
  cases known : engine.campaign (engine.newCampaign digests request).campaignId with
  | some existing => exact .refl
  | none =>
      have fresh := find_eq_none_iff.mp known
      have filed : Changes checked engine (engine.putCampaign (engine.newCampaign digests request)) :=
        .single (.file fresh rfl)
      dsimp only
      split
      · exact .refl
      · split
        · refine (filed.tail (.plan _ ?_)).trans
              (createJobs_changes _ _ record_mem_put rfl (find_put.trans (if_pos rfl)))
          intro job member same
          have same : job.campaignId = (engine.newCampaign digests request).campaignId := same
          exact fresh (same ▸ sound.filed job member)
        · exact filed

theorem failNode_changes {result : Engine × List String} (sound : Sound engine)
    (failed : engine.failNode nodeId = .ok result) :
    Changes checked engine result.1 := by
  unfold Engine.failNode at failed
  cases found : engine.resources.node nodeId with
  | none =>
      rw [found] at failed
      cases failed
  | some node =>
      rw [found] at failed
      have marked := @putNode_change checked _ _ node { node with status := .failed } sound found rfl
      cases failed
      exact .head marked (failJobs_changes (sound.change marked) _)

theorem heartbeat_changes {now : Int} (sound : Sound engine) (beaten : engine.heartbeat nodeId now = .ok following) :
    Changes checked engine following := by
  unfold Engine.heartbeat at beaten
  cases found : engine.resources.node nodeId with
  | none =>
      rw [found] at beaten
      cases beaten
  | some node =>
      simp only [found] at beaten
      split at beaten
      · cases beaten
      · cases beaten
        exact .single (putNode_change sound found rfl)

theorem accepted_changes {Result : Type} {outcome : Except Failure (Engine × Result)}
    (changes : ∀ result, outcome = .ok result → Changes checked engine result.1) :
    Changes checked engine (accepted engine outcome) := by
  cases outcome with
  | ok result => exact changes result rfl
  | error failure => exact .refl

theorem execute_changes {command : Command} (sound : Sound engine) (permitted : checked → Roomy engine command)
    (taken : execute digests engine command = some following) : Changes checked engine following := by
  cases command with
  | registerNode registration now =>
      cases taken
      exact .single (.register registration now permitted)
  | heartbeat nodeId now =>
      rw [execute] at taken
      cases outcome : engine.heartbeat nodeId now with
      | error failure =>
          rw [outcome] at taken
          cases taken
          exact .refl
      | ok beaten =>
          rw [outcome] at taken
          cases taken
          exact heartbeat_changes sound outcome
  | detectStaleNodes timeoutSeconds now =>
      cases taken
      refine .single (.nodes ?_)
      rw [List.forall₂_map_right_iff, List.forall₂_same]
      intro node _
      split <;> rfl
  | submitCampaign request =>
      cases taken
      exact submit_changes sound request
  | scheduleCampaign campaignId =>
      cases taken
      exact accepted_changes fun result scheduled => (scheduleCampaign_advances sound scheduled).changes
  | executeReadyJobs campaignId =>
      cases taken
      exact accepted_changes fun result executed => (executeReadyJobs_advances sound executed).changes
  | runCampaign campaignId clock rounds =>
      rw [execute] at taken
      cases outcome : Engine.runCampaign digests campaignId rounds clock engine with
      | none =>
          rw [outcome] at taken
          cases taken
      | some finished =>
          rw [outcome] at taken
          cases finished with
          | error failure =>
              cases taken
              exact .refl
          | ok final =>
              cases taken
              exact run_changes sound permitted outcome
  | failNode nodeId =>
      cases taken
      exact accepted_changes fun result failed => failNode_changes sound failed

end

variable {digests : Digests} {engine later : Engine} {policy : String} {threshold : Nat}

theorem sound_opened (policy : String) (threshold : Nat) : Sound (opened policy threshold) where
  nodes := List.nodup_nil
  campaigns := List.nodup_nil
  jobs := List.nodup_nil
  filed := fun _ member => absurd member List.not_mem_nil
  planned := fun _ member => absurd member List.not_mem_nil
  resting := fun _ member => absurd member List.not_mem_nil
  placed := fun _ member => absurd member List.not_mem_nil
  owned := fun _ member => absurd member List.not_mem_nil
  booking := fun _ member => absurd member List.not_mem_nil
  judged := fun _ member => absurd member List.not_mem_nil

theorem Sound.reached {allowed : Engine → Command → Prop} (sound : Sound engine)
    (reached : Reaches (execute digests) allowed engine later) : Sound later := by
  induction reached with
  | start => exact sound
  | next _ _ taken ih => exact ih.changes (@execute_changes False _ _ _ _ ih nofun taken)

theorem Persists.reached {allowed : Engine → Command → Prop} (sound : Sound engine)
    (reached : Reaches (execute digests) allowed engine later) : Persists engine later := by
  induction reached with
  | start => exact .refl engine
  | next earlier _ taken ih =>
      have before := sound.reached earlier
      exact ih.trans (.changes before (@execute_changes False _ _ _ _ before nofun taken))

theorem Fits.reached (sound : Sound engine) (fits : Fits engine)
    (reached : Reaches (execute digests) Roomy engine later) : Fits later := by
  induction reached with
  | start => exact fits
  | next earlier permitted taken ih =>
      have before := sound.reached earlier
      exact ih.changes before (execute_changes before (fun _ => permitted) taken)

/-- What holds of the four collections together. -/
structure CloudInvariant (engine : Engine) : Prop where
  scheduled : ∀ job ∈ engine.jobs, job.status = .scheduled → ∃ allocation,
    engine.resources.booked job.jobId = [allocation] ∧ job.nodeId = some allocation.nodeId
  idle : ∀ job ∈ engine.jobs, job.status ≠ .scheduled → engine.resources.booked job.jobId = []
  attempts : ∀ job ∈ engine.jobs, ∃ plan, find (·.campaignId) engine.plans job.campaignId = some plan ∧
    job.attempt ≤ plan.maxJobAttempts
  verdicts : ∀ campaign ∈ engine.campaigns, campaign.status = .completed →
    ∀ job ∈ engine.campaignJobs campaign.campaignId, job.status = .completed

theorem Sound.invariant (sound : Sound engine) : CloudInvariant engine where
  scheduled job member scheduled := by
    obtain ⟨nodeId, on, booked⟩ := sound.booking job member scheduled
    exact ⟨_, booked, on⟩
  idle _ member idle := sound.booked_eq_nil member idle
  attempts := sound.planned
  verdicts campaign filed completed := ((sound.judged campaign filed).1 completed).2

/-- Allocations, attempts and verdicts are kept by every run; the capacity of the nodes is kept by
the runs that register no node with less room than its name already holds. -/
theorem cloud_invariants (reached : Reaches (execute digests) (fun _ _ => True) (opened policy threshold) engine) :
    CloudInvariant engine ∧
      (∀ later, Reaches (execute digests) (fun _ _ => True) engine later → Persists engine later) ∧
      (Reaches (execute digests) Roomy (opened policy threshold) engine → Fits engine) := by
  have sound := (sound_opened policy threshold).reached reached
  refine ⟨sound.invariant, fun later onward => .reached sound onward, fun roomy => ?_⟩
  exact Fits.reached (sound_opened policy threshold) nofun roomy

/-- Digests that can be read. -/
def readable : Digests where
  campaign name _ := name
  job _ _ name := String.ofList name.toList.reverse
  output _ jobId _ _ := jobId

def smallNode (cpu : Nat) (cpuBound : 1 ≤ cpu) : Registration where
  nodeId := "node-1"
  region := "eu"
  capabilities := []
  cpuCapacity := cpu
  memoryMbCapacity := 4096
  policyVersion := "constitution.v1"
  publicKeyRef := "key-1"
  cpuBound := cpuBound
  memoryBound := Nat.le_add_right 128 3968

/-- Three jobs on a node of four processors. -/
def placing : List Command :=
  [.registerNode (smallNode 4 (Nat.le_add_left 1 3)) 0,
    .submitCampaign { name := "pilot", objective := "evolve", candidateCount := 2 }, .scheduleCampaign "campaign_pilot"]

def placedJobs : Engine := (run (execute readable) (opened "constitution.v1" 3) placing).getD (opened "" 0)

theorem oneProcessor : 1 ≤ 1 := Nat.le_refl 1

/-- The same once the node came back with one processor. -/
def shrunken : Engine := (execute readable placedJobs (.registerNode (smallNode 1 oneProcessor) 1)).getD (opened "" 0)

theorem placing_reaches : Reaches (execute readable) (fun _ _ => True) (opened "constitution.v1" 3) placedJobs := by
  have finished : run (execute readable) (opened "constitution.v1" 3) placing = some placedJobs := by decide
  exact reaches_of_run .start finished

theorem cloud_invariants_placed : (∀ job ∈ placedJobs.jobs, job.status = .scheduled) ∧ CloudInvariant placedJobs ∧
    (∀ later, Reaches (execute readable) (fun _ _ => True) placedJobs later → Persists placedJobs later) ∧
    (Reaches (execute readable) Roomy (opened "constitution.v1" 3) placedJobs → Fits placedJobs) :=
  ⟨by decide, cloud_invariants placing_reaches⟩

/-- A node that is registered again with less than it holds is overbooked. -/
theorem overbooked_after_registration :
    Reaches (execute readable) (fun _ _ => True) (opened "constitution.v1" 3) shrunken ∧ ¬ Fits shrunken := by
  have taken : execute readable placedJobs (.registerNode (smallNode 1 oneProcessor) 1) = some shrunken := by
    decide
  exact ⟨.next placing_reaches trivial taken, by decide⟩

end AutonomousApi.EvolutionCloud
