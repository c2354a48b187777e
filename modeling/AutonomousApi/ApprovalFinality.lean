import AutonomousApi.ApprovalWorkflow

/-! Rejections and timeouts over whole runs of the approval workflow: a record once rejected or
timed out stays so, a record that counts as approved was decided in time, and an evaluation is
allowed by records of its own requirements. -/

namespace AutonomousApi.ApprovalWorkflow

open Compliance OrderedMap RecordTable Runs

variable {Evaluation : Type} [DecidableEq Evaluation] {python : FloatText}

section

/-- What the loop of `approve` checks of one requirement before it goes on. -/
structure Granted (records : List (ApprovalRecord Evaluation)) (requirement : ApprovalRequirement) : Prop where
  created : ∃ record ∈ records, approverKey record.requirement = approverKey requirement
  unrejected : ∀ record ∈ records, approverKey record.requirement = approverKey requirement →
    record.status ≠ .rejected
  undue : ∀ record ∈ records, approverKey record.requirement = approverKey requirement →
    ¬(record.status = .expired ∧ record.requirement.timeoutPolicy = .denyOnTimeout)
  approved : requirement.required = true →
    ∃ record ∈ records, approverKey record.requirement = approverKey requirement ∧ record.status = .approved

def matchingRecords (records : List (ApprovalRecord Evaluation)) (requirement : ApprovalRequirement) :
    List (ApprovalRecord Evaluation) :=
  records.filter fun record => approverKey record.requirement = approverKey requirement

omit [DecidableEq Evaluation] in
theorem granted_iff (records : List (ApprovalRecord Evaluation)) (requirement : ApprovalRequirement) :
    Granted records requirement ↔
      (matchingRecords records requirement).isEmpty = false ∧
      ((matchingRecords records requirement).any fun record => record.status = .rejected) = false ∧
      ((matchingRecords records requirement).any fun record =>
        record.status = .expired ∧ record.requirement.timeoutPolicy = .denyOnTimeout) = false ∧
      (requirement.required && !(matchingRecords records requirement).any fun record => record.status = .approved) =
        false := by
  constructor
  · rintro ⟨created, unrejected, undue, approved⟩
    refine ⟨?_, ?_, ?_, ?_⟩
    · simpa [matchingRecords] using created
    · simpa [matchingRecords] using unrejected
    · simpa [matchingRecords] using undue
    · simpa [matchingRecords] using approved
  · rintro ⟨created, unrejected, undue, approved⟩
    refine ⟨?_, ?_, ?_, ?_⟩
    · simpa [matchingRecords] using created
    · simpa [matchingRecords] using unrejected
    · simpa [matchingRecords] using undue
    · simpa [matchingRecords] using approved

omit [DecidableEq Evaluation] in
theorem judge_allow_iff (records : List (ApprovalRecord Evaluation)) (required : List ApprovalRequirement) :
    judge records required = .allow ↔ ∀ requirement ∈ required, Granted records requirement := by
  induction required with
  | nil => simp [judge]
  | cons requirement rest ih =>
      rw [judge, List.forall_mem_cons, ← ih, granted_iff]
      change (if (matchingRecords records requirement).isEmpty then _ else _) = _ ↔ _
      generalize judge records rest = later
      split_ifs with empty refused overdue unapproved
      · exact iff_of_false nofun fun granted => Bool.noConfusion (empty.symm.trans granted.1.1)
      · exact iff_of_false nofun fun granted => Bool.noConfusion (refused.symm.trans granted.1.2.1)
      · exact iff_of_false nofun fun granted => Bool.noConfusion (overdue.symm.trans granted.1.2.2.1)
      · exact iff_of_false nofun fun granted => Bool.noConfusion (unapproved.symm.trans granted.1.2.2.2)
      · simp only [Bool.not_eq_true] at empty refused overdue unapproved
        exact ⟨fun allowed => ⟨⟨empty, refused, overdue, unapproved⟩, allowed⟩, And.right⟩

end

section

variable {engine following : Workflow Evaluation} {command : Command Evaluation}
  {record later : ApprovalRecord Evaluation} {records : List (ApprovalRecord Evaluation)} {now : Rat}

/-- What a call does to a record that is there: nothing, it times out, or it is decided. -/
inductive Evolves (python : FloatText) (engine : Workflow Evaluation) (command : Command Evaluation) :
    ApprovalRecord Evaluation → ApprovalRecord Evaluation → Prop where
  | kept (record : ApprovalRecord Evaluation) : Evolves python engine command record record
  | timedOut {record : ApprovalRecord Evaluation} (pending : record.status = .pending)
      (late : isExpired python record engine.now = some true) : Evolves python engine command record record.timeOut
  | decided {record : ApprovalRecord Evaluation} {decision : ApprovalDecision} {comments : Option String}
      {approvedConstraints : List Constraint} (pending : record.status = .pending)
      (present : find ApprovalRecord.id engine.approvals record.id = some record)
      (asked : command = .submit record.id decision comments approvedConstraints) :
      Evolves python engine command record (record.decide decision comments approvedConstraints engine.now)

omit [DecidableEq Evaluation] in
/-- The fields that no call changes. -/
theorem Evolves.identity (evolves : Evolves python engine command record later) :
    later.id = record.id ∧ later.evaluationId = record.evaluationId ∧ later.requirement = record.requirement ∧
      later.createdAt = record.createdAt := by
  cases evolves <;> exact ⟨rfl, rfl, rfl, rfl⟩

omit [DecidableEq Evaluation] in
theorem refreshLoop_evolves (records : List (ApprovalRecord Evaluation)) :
    List.Forall₂ (Evolves python engine command) records (refreshLoop python engine.now records).1 := by
  have reflexive (records : List (ApprovalRecord Evaluation)) :
      List.Forall₂ (Evolves python engine command) records records :=
    List.forall₂_same.mpr fun record _ => .kept record
  induction records with
  | nil => exact .nil
  | cons record rest ih =>
      unfold refreshLoop
      by_cases pending : record.status = .pending
      · rw [if_pos pending]
        cases late : isExpired python record engine.now with
        | none => exact reflexive (record :: rest)
        | some late' =>
            cases late' with
            | true => exact .cons (.timedOut pending late) ih
            | false => exact .cons (.kept record) ih
      · rw [if_neg pending]
        exact .cons (.kept record) ih

omit [DecidableEq Evaluation] in
/-- A refresh that came to the end leaves no record pending that is past its timeout. -/
theorem refreshLoop_finished (finished : (refreshLoop python now records).2 = true)
    (member : record ∈ (refreshLoop python now records).1) (pending : record.status = .pending) :
    isExpired python record now ≠ some true := by
  induction records with
  | nil => cases member
  | cons first rest ih =>
      unfold refreshLoop at finished member
      by_cases open' : first.status = .pending
      · rw [if_pos open'] at finished member
        cases late : isExpired python first now with
        | none =>
            rw [late] at finished
            cases finished
        | some late' =>
            rw [late] at finished member
            rcases List.mem_cons.mp member with rfl | inside
            · cases late' with
              | true => cases pending
              | false => simp [late]
            · exact ih finished inside
      · rw [if_neg open'] at finished member
        rcases List.mem_cons.mp member with rfl | inside
        · exact absurd pending open'
        · exact ih finished inside

/-- A record that `command` creates, for one of the requirements it names. -/
def CreatedBy (command : Command Evaluation) (record : ApprovalRecord Evaluation) : Prop :=
  ∃ evaluationId requirements ids createdAt, command = .create evaluationId requirements ids createdAt ∧
    record.evaluationId = evaluationId ∧ record.requirement ∈ requirements

/-- What a call does to the table: the records that are there evolve, new ones are pending. -/
theorem execute_cases (keyed : Keyed ApprovalRecord.id engine.approvals)
    (taken : execute python engine command = some following) :
    engine.now ≤ following.now ∧
    ∃ front added, following.approvals = front ++ added ∧
      List.Forall₂ (Evolves python engine command) engine.approvals front ∧ (added.map ApprovalRecord.id).Nodup ∧
      ∀ record ∈ added, record.status = .pending ∧ record.id ∉ engine.approvals.map ApprovalRecord.id ∧
        CreatedBy command record := by
  have reflexive : List.Forall₂ (Evolves python engine command) engine.approvals engine.approvals :=
    List.forall₂_same.mpr fun record _ => .kept record
  cases command with
  | advance now =>
      rw [execute] at taken
      split at taken
      · next forward =>
          cases taken
          exact ⟨forward, engine.approvals, [], by simp, reflexive, by simp, by simp⟩
      · cases taken
  | create evaluationId requirements ids createdAt =>
      rw [execute] at taken
      split at taken
      · next fresh =>
          cases taken
          obtain ⟨same, distinct, new⟩ := fresh
          refine ⟨le_refl _, engine.approvals, _, rfl, reflexive, ?_, ?_⟩
          · rw [List.map_map]
            change ((requirements.zip ids).map Prod.snd).Nodup
            rwa [List.map_snd_zip same.le]
          · intro record member
            obtain ⟨drawn, inside, rfl⟩ := List.mem_map.mp member
            exact ⟨rfl, new drawn.2 (List.of_mem_zip inside).2, _, _, _, _, rfl, rfl, (List.of_mem_zip inside).1⟩
      · cases taken
  | submit approvalId decision comments approvedConstraints =>
      rw [execute] at taken
      cases taken
      unfold submitDecision
      cases found : find ApprovalRecord.id engine.approvals approvalId with
      | none => exact ⟨le_refl _, engine.approvals, [], by simp, reflexive, by simp, by simp⟩
      | some record =>
          obtain ⟨member, rfl⟩ := mem_of_find found
          by_cases pending : record.status = .pending
          · have same : record.id = (record.decide decision comments approvedConstraints engine.now).id := rfl
            have changed : Evolves python engine (.submit record.id decision comments approvedConstraints) record
                (record.decide decision comments approvedConstraints engine.now) := .decided pending found rfl
            simp only [pending, if_true, Option.getD_some]
            exact ⟨le_refl _, _, [], (List.append_nil _).symm, keyed.put_related .kept member same changed,
              by simp, by simp⟩
          · simp only [pending, if_false, Option.getD_none]
            exact ⟨le_refl _, engine.approvals, [], by simp, reflexive, by simp, by simp⟩
  | refresh =>
      cases taken
      exact ⟨le_refl _, _, [], (List.append_nil _).symm, refreshLoop_evolves _, by simp, by simp⟩
  | approve evaluationId required =>
      cases taken
      exact ⟨le_refl _, _, [], (List.append_nil _).symm, refreshLoop_evolves _, by simp, by simp⟩

end

section

variable {engine following : Workflow Evaluation} {command : Command Evaluation}
  {record later : ApprovalRecord Evaluation} {now : Rat}

/-- No id names two records, and an evaluation's ids name records of its own. -/
structure Sound (engine : Workflow Evaluation) : Prop where
  keyed : Keyed ApprovalRecord.id engine.approvals
  filed : ∀ evaluationId, ∀ id ∈ approvalIds engine evaluationId,
    ∃ record ∈ engine.approvals, record.id = id ∧ record.evaluationId = evaluationId

def opened (now : Rat) : Workflow Evaluation := { now }

theorem sound_opened (now : Rat) : Sound (opened now : Workflow Evaluation) :=
  ⟨List.nodup_nil, fun _ _ member => nomatch member⟩

omit [DecidableEq Evaluation] in
theorem ids_of_evolves {before after : List (ApprovalRecord Evaluation)}
    (evolves : List.Forall₂ (Evolves python engine command) before after) :
    after.map ApprovalRecord.id = before.map ApprovalRecord.id := by
  induction evolves with
  | nil => rfl
  | cons first _ ih => rw [List.map_cons, List.map_cons, ih, first.identity.1]

/-- A call lists new records under their evaluation and leaves the other lists alone. -/
theorem execute_listed (taken : execute python engine command = some following) (evaluationId : Evaluation) :
    approvalIds following evaluationId = approvalIds engine evaluationId ∨
      ∀ id ∈ approvalIds following evaluationId,
        ∃ record ∈ following.approvals, record.id = id ∧ record.evaluationId = evaluationId := by
  cases command with
  | advance now =>
      rw [execute] at taken
      split at taken
      · cases taken
        exact .inl rfl
      · cases taken
  | create other requirements ids createdAt =>
      rw [execute] at taken
      split at taken
      · cases taken
        by_cases same : other = evaluationId
        · right
          intro id member
          rw [approvalIds, createApprovalRequest, get_assign, if_pos same, Option.getD_some] at member
          obtain ⟨record, inside, rfl⟩ := List.mem_map.mp member
          refine ⟨record, List.mem_append_right _ inside, rfl, ?_⟩
          obtain ⟨drawn, -, rfl⟩ := List.mem_map.mp inside
          exact same
        · left
          rw [approvalIds, createApprovalRequest, get_assign, if_neg same]
          rfl
      · cases taken
  | submit approvalId decision comments approvedConstraints =>
      rw [execute] at taken
      cases taken
      left
      unfold submitDecision
      cases find ApprovalRecord.id engine.approvals approvalId with
      | none => rfl
      | some record => by_cases pending : record.status = .pending <;> simp [pending, approvalIds]
  | refresh =>
      cases taken
      exact .inl rfl
  | approve other required =>
      cases taken
      exact .inl rfl

theorem Sound.execute (sound : Sound engine) (taken : execute python engine command = some following) :
    Sound following := by
  obtain ⟨-, front, added, table, evolves, distinct, new⟩ := execute_cases sound.keyed taken
  constructor
  case keyed =>
    rw [Keyed, table, List.map_append, ids_of_evolves evolves, List.nodup_append]
    refine ⟨sound.keyed, distinct, ?_⟩
    rintro id old _ inside rfl
    obtain ⟨record, member, rfl⟩ := List.mem_map.mp inside
    exact (new record member).2.1 old
  case filed =>
    intro evaluationId id member
    rcases execute_listed taken evaluationId with same | own
    · obtain ⟨record, inside, named, filed⟩ := sound.filed evaluationId id (same ▸ member)
      obtain ⟨later, found, evolved⟩ := exists_later evolves inside
      refine ⟨later, table ▸ List.mem_append_left _ found, ?_, ?_⟩
      · rw [evolved.identity.1, named]
      · rw [evolved.identity.2.1, filed]
    · exact own id member

theorem sound_of_reaches {allowed : Workflow Evaluation → Command Evaluation → Prop} {start : Workflow Evaluation}
    (sound : Sound start) (reached : Reaches (execute python) allowed start engine) : Sound engine :=
  reached.invariant sound fun sound _ taken => sound.execute taken

/-- The records `approve` reads are those whose ids are listed under the evaluation. -/
theorem Sound.mem_approvalsFor (sound : Sound engine) {evaluationId : Evaluation} :
    record ∈ approvalsFor engine evaluationId ↔
      record ∈ engine.approvals ∧ record.id ∈ approvalIds engine evaluationId := by
  rw [approvalsFor, List.mem_filterMap]
  constructor
  · rintro ⟨id, listed, found⟩
    obtain ⟨member, rfl⟩ := mem_of_find found
    exact ⟨member, listed⟩
  · rintro ⟨member, listed⟩
    exact ⟨record.id, listed, sound.keyed.find_of_mem member⟩

theorem Sound.evaluation_of_listed (sound : Sound engine) {evaluationId : Evaluation}
    (member : record ∈ engine.approvals) (listed : record.id ∈ approvalIds engine evaluationId) :
    record.evaluationId = evaluationId := by
  obtain ⟨other, inside, named, filed⟩ := sound.filed evaluationId record.id listed
  rw [← sound.keyed.unique inside member named, filed]

theorem Sound.refreshed (sound : Sound engine) : Sound (refreshTimeouts python engine).1 := by
  have taken : ApprovalWorkflow.execute python engine .refresh = some (refreshTimeouts python engine).1 := rfl
  exact sound.execute taken

end

section

variable {engine following start : Workflow Evaluation} {command : Command Evaluation}
  {record later : ApprovalRecord Evaluation} {now : Rat}

/-- Rejected, or out of time under DENY_ON_TIMEOUT before anybody decided it. -/
def Condemned (python : FloatText) (now : Rat) (record : ApprovalRecord Evaluation) : Prop :=
  record.status = .rejected ∨
    record.requirement.timeoutPolicy = .denyOnTimeout ∧
      (record.status = .expired ∨ record.status = .pending ∧ isExpired python record now = some true)

/-- No decision comes after its record's timeout, unless a refresh has noticed the timeout. A late
rejection is harmless, and so is a late abstention where the timeout does not deny. -/
def InTime (python : FloatText) (engine : Workflow Evaluation) : Command Evaluation → Prop
  | .submit approvalId decision _ _ =>
      ∀ record, find ApprovalRecord.id engine.approvals approvalId = some record → record.status = .pending →
        isExpired python record engine.now = some true →
          decision = .rejected ∨ decision ≠ .approved ∧ record.requirement.timeoutPolicy ≠ .denyOnTimeout
  | _ => True

omit [DecidableEq Evaluation] in
theorem isExpired_later (late : isExpired python record now = some true) {further : Rat} (forward : now ≤ further) :
    isExpired python record further = some true := by
  unfold isExpired at late ⊢
  cases read : timeoutOf python record.requirement with
  | none => simp [read] at late
  | some timeout =>
      rw [read, Option.map_some, Option.some_inj, decide_eq_true_eq] at late
      rw [Option.map_some, Option.some_inj, decide_eq_true_eq]
      exact lt_of_lt_of_le late forward

omit [DecidableEq Evaluation] in
theorem Condemned.evolves (permitted : InTime python engine command)
    (condemned : Condemned python engine.now record) (evolves : Evolves python engine command record later)
    (forward : engine.now ≤ now) : Condemned python now later := by
  cases evolves with
  | kept =>
      refine condemned.imp_right fun denied => ⟨denied.1, denied.2.imp_right fun waiting => ?_⟩
      exact ⟨waiting.1, isExpired_later waiting.2 forward⟩
  | timedOut pending late =>
      rcases condemned with rejected | denied
      · rw [pending] at rejected
        cases rejected
      · exact .inr ⟨denied.1, .inl rfl⟩
  | decided pending present asked =>
      rcases condemned with rejected | ⟨denies, expired | waiting⟩
      · rw [pending] at rejected
        cases rejected
      · rw [pending] at expired
        cases expired
      · subst asked
        rcases permitted record present pending waiting.2 with refused | excused
        · subst refused
          exact .inl rfl
        · exact absurd denies excused.2

/-- Once condemned, a record stays condemned wherever the run goes. -/
theorem condemned_stays (sound : Sound engine) (member : record ∈ engine.approvals)
    (condemned : Condemned python engine.now record)
    (reached : Reaches (execute python) (InTime python) engine following) :
    ∃ later ∈ following.approvals, later.id = record.id ∧ later.evaluationId = record.evaluationId ∧
      later.requirement = record.requirement ∧ Condemned python following.now later := by
  induction reached with
  | start => exact ⟨record, member, rfl, rfl, rfl, condemned⟩
  | next reached permitted taken ih =>
      obtain ⟨later, inside, id, evaluation, requirement, still⟩ := ih
      have keyed := (sound_of_reaches sound reached).keyed
      obtain ⟨forward, front, added, table, evolves, -, -⟩ := execute_cases keyed taken
      obtain ⟨last, found, evolved⟩ := exists_later evolves inside
      obtain ⟨id', evaluation', requirement', -⟩ := evolved.identity
      exact ⟨last, table ▸ List.mem_append_left _ found, id'.trans id, evaluation'.trans evaluation,
        requirement'.trans requirement, still.evolves permitted evolved forward⟩

/-- A condemned record that the evaluation lists and the required list asks for blocks the action. -/
theorem approve_condemned (sound : Sound engine) (member : record ∈ engine.approvals)
    (condemned : Condemned python engine.now record)
    (listed : record.id ∈ approvalIds engine record.evaluationId) {required : List ApprovalRequirement}
    {requirement : ApprovalRequirement} (needed : requirement ∈ required)
    (asks : approverKey requirement = approverKey record.requirement) :
    (approve python engine record.evaluationId required).2 ≠ some .allow := by
  intro allowed
  unfold approve at allowed
  dsimp only at allowed
  split at allowed
  · next finished =>
      have granted := (judge_allow_iff _ _).mp (Option.some_inj.mp allowed) requirement needed
      have evolves : List.Forall₂ (Evolves python engine .refresh) engine.approvals
          (refreshLoop python engine.now engine.approvals).1 := refreshLoop_evolves engine.approvals
      have quiet : InTime python engine .refresh := trivial
      obtain ⟨later, found, evolved⟩ := exists_later evolves member
      obtain ⟨id, -, same, -⟩ := evolved.identity
      have read : later ∈ approvalsFor (refreshTimeouts python engine).1 record.evaluationId :=
        sound.refreshed.mem_approvalsFor.mpr ⟨found, id ▸ listed⟩
      have matched : approverKey later.requirement = approverKey requirement := by rw [same, asks]
      have still : Condemned python engine.now later :=
        condemned.evolves quiet evolved (le_refl engine.now)
      rcases still with rejected | ⟨denies, expired | waiting⟩
      · exact granted.unrejected later read matched rejected
      · exact granted.undue later read matched ⟨expired, denies⟩
      · exact refreshLoop_finished finished found waiting.1 waiting.2
  · cases allowed

/-- Approved, and decided before its timeout. -/
def Timely (python : FloatText) (record : ApprovalRecord Evaluation) : Prop :=
  record.status = .approved →
    ∃ decidedAt, record.decidedAt = some decidedAt ∧ isExpired python record decidedAt ≠ some true

omit [DecidableEq Evaluation] in
theorem Timely.evolves (permitted : InTime python engine command) (timely : Timely python record)
    (evolves : Evolves python engine command record later) : Timely python later := by
  cases evolves with
  | kept => exact timely
  | timedOut pending late => exact nofun
  | decided pending present asked =>
      subst asked
      intro approved
      refine ⟨engine.now, rfl, fun late => ?_⟩
      rcases permitted record present pending late with refused | excused
      · subst refused
        cases approved
      · rename_i decision _ _
        cases decision with
        | approved => exact excused.1 rfl
        | rejected | abstained | expired => cases approved

theorem timely_of_reaches (sound : Sound start) (begun : start.approvals = [])
    (reached : Reaches (execute python) (InTime python) start engine) :
    ∀ record ∈ engine.approvals, Timely python record := by
  induction reached with
  | start =>
      intro record member
      rw [begun] at member
      cases member
  | next reached permitted taken ih =>
      obtain ⟨-, front, added, table, evolves, -, new⟩ := execute_cases (sound_of_reaches sound reached).keyed taken
      intro record member
      rw [table, List.mem_append] at member
      rcases member with inside | inside
      · obtain ⟨earlier, found, evolved⟩ := exists_earlier evolves inside
        exact (ih earlier found).evolves permitted evolved
      · intro approved
        rw [(new record inside).1] at approved
        cases approved

end

section

variable {engine : Workflow Evaluation} {evaluationId : Evaluation} {required : List ApprovalRequirement}

def needed (required : List ApprovalRequirement) : List ApprovalRequirement := required.filter (·.required)

/-- Each required requirement has an approved record of the evaluation that was created for it, and no
record serves two of them. -/
def Served (engine : Workflow Evaluation) (evaluationId : Evaluation) (required : List ApprovalRequirement) : Prop :=
  ∃ records, List.Forall₂ (fun requirement record => record ∈ engine.approvals ∧ record.evaluationId = evaluationId ∧
      record.requirement = requirement ∧ record.status = .approved) (needed required) records ∧
    (records.map ApprovalRecord.id).Nodup

/-- The required requirements name different approvers, and the approved records that are read for
them were created for them. -/
def Separate (engine : Workflow Evaluation) (evaluationId : Evaluation) (required : List ApprovalRequirement) : Prop :=
  ((needed required).map approverKey).Nodup ∧
    ∀ record ∈ approvalsFor engine evaluationId, record.status = .approved → ∀ requirement ∈ needed required,
      approverKey record.requirement = approverKey requirement → record.requirement = requirement

theorem exists_forall₂ {Item Choice : Type} {chosen : Item → Choice → Prop} {items : List Item}
    (all : ∀ item ∈ items, ∃ choice, chosen item choice) : ∃ choices, List.Forall₂ chosen items choices := by
  induction items with
  | nil => exact ⟨[], .nil⟩
  | cons item rest ih =>
      obtain ⟨choice, first⟩ := all item List.mem_cons_self
      obtain ⟨choices, others⟩ := ih fun item member => all item (List.mem_cons_of_mem _ member)
      exact ⟨choice :: choices, .cons first others⟩

omit [DecidableEq Evaluation] in
theorem served_keys {requirements : List ApprovalRequirement} {records : List (ApprovalRecord Evaluation)}
    (all : List.Forall₂ (fun requirement record => record ∈ engine.approvals ∧ record.evaluationId = evaluationId ∧
      record.requirement = requirement ∧ record.status = .approved) requirements records) :
    records.map (fun record => approverKey record.requirement) = requirements.map approverKey ∧
      ∀ record ∈ records, record ∈ engine.approvals := by
  induction all with
  | nil =>
      refine ⟨rfl, fun record member => ?_⟩
      cases member
  | cons first _ ih =>
      obtain ⟨inside, -, same, -⟩ := first
      refine ⟨by rw [List.map_cons, List.map_cons, ih.1, same], fun record member => ?_⟩
      rcases List.mem_cons.mp member with rfl | later
      · exact inside
      · exact ih.2 record later

theorem approve_served (sound : Sound engine) (separate : Separate engine evaluationId required)
    (allowed : (approve python engine evaluationId required).2 = some .allow) :
    Served (approve python engine evaluationId required).1 evaluationId required := by
  have refreshed : Sound (approve python engine evaluationId required).1 := sound.refreshed
  have granted : ∀ requirement ∈ required,
      Granted (approvalsFor (approve python engine evaluationId required).1 evaluationId) requirement := by
    unfold approve at allowed
    dsimp only at allowed
    split at allowed
    · exact (judge_allow_iff _ _).mp (Option.some_inj.mp allowed)
    · cases allowed
  have evolves : List.Forall₂ (Evolves python engine .refresh) engine.approvals
      (approve python engine evaluationId required).1.approvals := refreshLoop_evolves engine.approvals
  have serving : ∀ requirement ∈ needed required, ∃ record,
      record ∈ (approve python engine evaluationId required).1.approvals ∧ record.evaluationId = evaluationId ∧
        record.requirement = requirement ∧ record.status = .approved := by
    intro requirement member
    obtain ⟨inside, wanted⟩ := List.mem_filter.mp member
    obtain ⟨record, read, matched, approved⟩ := (granted requirement inside).approved wanted
    obtain ⟨found, listed⟩ := refreshed.mem_approvalsFor.mp read
    obtain ⟨earlier, present, evolved⟩ := exists_earlier evolves found
    refine ⟨record, found, refreshed.evaluation_of_listed found listed, ?_, approved⟩
    -- a refresh approves nothing, so the record was approved before it
    cases evolved with
    | kept =>
        exact separate.2 record (sound.mem_approvalsFor.mpr ⟨present, listed⟩) approved requirement member matched
    | timedOut => cases approved
    | decided _ _ asked => cases asked
  obtain ⟨records, all⟩ := exists_forall₂ serving
  refine ⟨records, all, ?_⟩
  obtain ⟨keys, inside⟩ := served_keys all
  have distinct : (records.map fun record => approverKey record.requirement).Nodup := keys ▸ separate.1
  rw [List.Nodup, List.pairwise_map] at distinct ⊢
  refine distinct.imp_of_mem fun {record other} member also differ same => differ ?_
  rw [refreshed.keyed.unique (inside record member) (inside other also) same]

end

def asciiFloats : FloatText := { PythonText.asciiTable with readFloat := fun _ => none }

def reviewer (approverId : String) : ApprovalRequirement := { approverType := .role, approverId := some approverId }

def asked : List (Command String) := [.create "decision" [reviewer "security"] ["approval-1"] 0]

def after (commands : List (Command String)) : Workflow String :=
  (run (execute asciiFloats) (opened 0) commands).getD (opened 0)

/-- Two days on, nobody has decided. -/
def overdue : Workflow String := after (asked ++ [.advance 172801])

def waiting : ApprovalRecord String where
  id := "approval-1"
  evaluationId := "decision"
  requirement := reviewer "security"
  createdAt := 0

def rejected : Workflow String := after (asked ++ [.submit "approval-1" .rejected none []])

/-- A second request for the evaluation, approved. -/
def asAgain : List (Command String) :=
  [.create "decision" [reviewer "security"] ["approval-2"] 1, .submit "approval-2" .approved none []]

end AutonomousApi.ApprovalWorkflow
