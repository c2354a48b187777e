import AutonomousApi.IsoDatetime
import AutonomousApi.Runs
import AutonomousApi.VersionFile

/-! Runs of proposals and ratifications over both repositories at once. A version's predecessor is fixed
when it is proposed, and its head changes when another one is ratified. -/

namespace AutonomousApi.ConstitutionVersions

open JsonValue OrderedMap PythonText RecordTable Runs
open PythonLiteral (NumberText)

variable {Moment : Type}

inductive Action (Moment : Type) where
  | propose (proposal : Proposal Moment) (generated : String)
  | ratify (command : Ratification Moment) (generated : String)

def perform {Store : Type} (table : CharTable) (int : List Char → Option Nat) (repo : Repository Store Moment)
    (manager : VersionManager Store Moment) : Action Moment → VersionManager Store Moment × Answer Moment
  | .propose proposal generated => propose table int repo manager proposal generated
  | .ratify command generated => ratify repo manager command generated

/-- Two managers given the same commands, the versions that `ratify` returned, newest first, and what
both managers answered. -/
structure Session (Moment : Type) where
  memory : Memory Moment
  file : VersionManager File Moment
  heads : Versions Moment
  answers : List (Answer Moment × Answer Moment)

def start (file : File) : Session Moment where
  memory := { store := [], lineages := [], proposals := [] }
  file := { store := file, lineages := [], proposals := [] }
  heads := []
  answers := []

/-- A generated id was not given out before. -/
def Fresh (manager : Memory Moment) : Action Moment → Prop
  | .propose _ generated => "cv-" ++ generated ∉ versionIds manager.store
  | .ratify _ generated => "cl-" ++ generated ∉ manager.lineages.map ChangeLineageISR.lineageId

instance (manager : Memory Moment) (action : Action Moment) : Decidable (Fresh manager action) :=
  match action with
  | .propose _ generated => inferInstanceAs (Decidable ("cv-" ++ generated ∉ versionIds manager.store))
  | .ratify _ generated =>
      inferInstanceAs (Decidable ("cl-" ++ generated ∉ manager.lineages.map ChangeLineageISR.lineageId))

def newHeads (heads : Versions Moment) : Action Moment → Answer Moment → Versions Moment
  | .ratify _ _, .ok ratified => ratified :: heads
  | _, _ => heads

variable (table : CharTable) (int : List Char → Option Nat) (moments : MomentText Moment)
    (numbers : NumberText JsonFloat)

def step (session : Session Moment) (action : Action Moment) : Option (Session Moment) :=
  if Fresh session.memory action then
    let memory := perform table int inMemory session.memory action
    let file := perform table int (fileBacked moments numbers) session.file action
    some {
      memory := memory.1
      file := file.1
      heads := newHeads session.heads action memory.2
      answers := session.answers ++ [(memory.2, file.2)] }
  else none

/-- Both repositories hold a chain, and all answers were the same. -/
structure Holds (session : Session Moment) : Prop where
  memory : Chained table int session.memory.store session.memory.lineages session.heads
  file : ∃ versions, (fileBacked moments numbers).all session.file.store = .ok versions ∧
    Chained table int versions session.file.lineages session.heads
  same : ∀ pair ∈ session.answers, pair.1 = pair.2

/-- A command that is refused changes nothing. -/
def RefusesCleanly (session : Session Moment) (action : Action Moment) : Prop :=
  ∀ error,
    ((perform table int inMemory session.memory action).2 = .error error →
      (perform table int inMemory session.memory action).1 = session.memory) ∧
    ((perform table int (fileBacked moments numbers) session.file action).2 = .error error →
      (perform table int (fileBacked moments numbers) session.file action).1 = session.file)

/-- The first version whose number is not below a candidate. -/
def firstNotBelow (candidate : Semver) (versions : Versions Moment) : Option (ConstitutionVersionISR Moment) :=
  versions.find? fun existing =>
    match parseSemver table int existing.semver with
    | .ok other => candidate ≤ other
    | .error _ => false

/-- What a step needs: a version that gets ratified has the head of that moment as its predecessor, and the
first version not below a proposed number reads the same in the order of either repository. -/
def Orderly (manager : Memory Moment) : Action Moment → Prop
  | .propose proposal _ => ∀ candidate, parseSemver table int proposal.semver = .ok candidate →
      (firstNotBelow table int candidate manager.store).map ConstitutionVersionISR.semver =
        (firstNotBelow table int candidate (fileOrder manager.store)).map ConstitutionVersionISR.semver
  | .ratify command _ => ∀ version head, Ratifies manager command version head →
      version.predecessorRef = head.map ConstitutionVersionISR.versionId

variable {table int moments numbers}

section

variable {memory : Memory Moment} {file : VersionManager File Moment} {heads : Versions Moment}
  {proposal : Proposal Moment} {command : Ratification Moment} {generated : String}

structure Mirrored (moments : MomentText Moment) (numbers : NumberText JsonFloat) (file : VersionManager File Moment)
    (memory : Memory Moment) : Prop where
  store : Mirrors moments numbers file.store memory.store
  lineages : file.lineages = memory.lineages
  proposals : file.proposals = memory.proposals

theorem proposedVersion_all {Store : Type} {repo : Repository Store Moment} {store : Store} {versions : Versions Moment}
    (all : repo.all store = .ok versions) :
    proposedVersion table int repo store proposal generated =
      proposedVersion table int inMemory versions proposal generated := by
  simp only [proposedVersion, current, all]
  rfl

theorem checkIncreasing_eq {versions : Versions Moment} {candidate : Semver} {semver : String}
    (parsed : ∀ version ∈ versions, ∃ number, parseSemver table int version.semver = .ok number) :
    checkIncreasing table int candidate semver versions =
      match firstNotBelow table int candidate versions with
      | none => .ok ()
      | some existing => .error (.semverMustStrictlyIncrease semver existing.semver) := by
  induction versions with
  | nil => rfl
  | cons first rest ih =>
      obtain ⟨number, read⟩ := parsed first List.mem_cons_self
      have tail := ih fun version member => parsed version (List.mem_cons_of_mem _ member)
      rw [firstNotBelow] at tail
      rw [checkIncreasing, firstNotBelow, List.find?_cons, read]
      by_cases notBelow : candidate ≤ number
      · simp [bind, Except.bind, notBelow]
      · simpa [bind, Except.bind, notBelow] using tail

theorem proposedVersion_eq {versions : Versions Moment} {head : Option (ConstitutionVersionISR Moment)}
    (parsed : ∀ version ∈ versions, ∃ number, parseSemver table int version.semver = .ok number)
    (top : headOf versions = .ok head) :
    proposedVersion table int inMemory versions proposal generated =
      (parseSemver table int proposal.semver).bind fun candidate =>
        match firstNotBelow table int candidate versions with
        | none => .ok (newVersion proposal head generated)
        | some existing => .error (.semverMustStrictlyIncrease proposal.semver existing.semver) := by
  have unfolded : proposedVersion table int inMemory versions proposal generated =
      (parseSemver table int proposal.semver).bind fun candidate =>
        (checkIncreasing table int candidate proposal.semver versions).bind fun _ =>
          (headOf versions).bind fun head => .ok (newVersion proposal head generated) := rfl
  rw [unfolded]
  congr 1
  funext candidate
  rw [checkIncreasing_eq parsed, top]
  cases firstNotBelow table int candidate versions <;> rfl

/-- Whether some version is not below a number does not depend on the order of the versions. -/
theorem firstNotBelow_order (candidate : Semver) (versions : Versions Moment) :
    (firstNotBelow table int candidate versions = none) ↔
      firstNotBelow table int candidate (fileOrder versions) = none := by
  rw [firstNotBelow, firstNotBelow, List.find?_eq_none, List.find?_eq_none]
  exact forall_congr' fun version => imp_congr_left fileOrder_perm.mem_iff.symm

variable {Store : Type} {repo : Repository Store Moment} {manager : VersionManager Store Moment}
  {version : ConstitutionVersionISR Moment} {error : VersioningError}

theorem propose_refused
    (refused : proposedVersion table int repo manager.store proposal generated = .error error) :
    propose table int repo manager proposal generated = (manager, .error error) := by
  rw [propose, refused]

theorem propose_accepted {store : Store}
    (made : proposedVersion table int repo manager.store proposal generated = .ok version)
    (added : repo.add manager.store version = .ok store) :
    propose table int repo manager proposal generated =
      ({ manager with
          store
          proposals := assign manager.proposals version.versionId (proposal.changeKind, proposal.summary) },
        .ok version) := by
  rw [propose, made]
  dsimp only
  rw [added]

theorem Mirrored.propose (mirrored : Mirrored moments numbers file memory) (sound : Sound table int memory.store heads)
    (fresh : "cv-" ++ generated ∉ versionIds memory.store) :
    Mirrored moments numbers (propose table int (fileBacked moments numbers) file proposal generated).1
        (propose table int inMemory memory proposal generated).1 ∧
      ((propose table int inMemory memory proposal generated).2 =
          (propose table int (fileBacked moments numbers) file proposal generated).2 ↔
        Orderly table int memory (.propose proposal generated)) ∧
      ∀ error, (propose table int (fileBacked moments numbers) file proposal generated).2 = .error error →
        (propose table int (fileBacked moments numbers) file proposal generated).1 = file := by
  have inMemoryMade := @proposedVersion_eq _ table int proposal generated _ _ sound.parsed sound.head
  have fileMade := @proposedVersion_all _ table int proposal generated _ _ _ _ mirrored.store.all
  rw [@proposedVersion_eq _ table int proposal generated _ _
    (fun version member => sound.parsed version (fileOrder_perm.mem_iff.mp member))
    (headOf_perm fileOrder_perm.symm sound.head)] at fileMade
  rw [Orderly]
  cases read : parseSemver table int proposal.semver with
  | error error =>
      rw [read] at inMemoryMade fileMade
      rw [propose_refused inMemoryMade, propose_refused fileMade]
      refine ⟨mirrored, ⟨?_, fun _ => rfl⟩, fun _ _ => rfl⟩
      intro _ candidate other
      cases other
  | ok candidate =>
      rw [read, Except.bind] at inMemoryMade fileMade
      have order := @firstNotBelow_order _ table int candidate memory.store
      cases first : firstNotBelow table int candidate memory.store with
      | none =>
          have alsoFirst := order.mp first
          rw [first] at inMemoryMade
          rw [alsoFirst] at fileMade
          have absent : (newVersion proposal heads.head? generated).versionId ∉ versionIds memory.store := fresh
          obtain ⟨later, added, mirrors⟩ := mirrored.store.add absent sound.keyed
          have put : inMemory.add memory.store (newVersion proposal heads.head? generated) =
              .ok (memory.store ++ [newVersion proposal heads.head? generated]) := by
            rw [← @put_absent _ _ _ ConstitutionVersionISR.versionId _ _ absent]
            exact if_neg absent
          rw [propose_accepted inMemoryMade put, propose_accepted fileMade added]
          refine ⟨⟨mirrors, mirrored.lineages, ?_⟩, ⟨?_, fun _ => rfl⟩, ?_⟩
          · rw [mirrored.proposals]
          · rintro _ _ ⟨⟩
            rw [first, alsoFirst]
          · intro error refused
            cases refused
      | some existing =>
          cases alsoFirst : firstNotBelow table int candidate (fileOrder memory.store) with
          | none => exact absurd (order.mpr alsoFirst) (by rw [first]; exact Option.some_ne_none existing)
          | some other =>
              rw [first] at inMemoryMade
              rw [alsoFirst] at fileMade
              rw [propose_refused inMemoryMade, propose_refused fileMade]
              refine ⟨mirrored, ⟨?_, ?_⟩, fun _ _ => rfl⟩
              · rintro same _ ⟨⟩
                have named := VersioningError.semverMustStrictlyIncrease.inj (Except.error.inj same)
                rw [first, alsoFirst]
                exact congrArg some named.2
              · intro orderly
                have named := orderly candidate rfl
                rw [first, alsoFirst] at named
                have text : existing.semver = other.semver := Option.some.inj named
                dsimp only
                rw [text]

theorem ratifiable_mirrored (mirrored : Mirrored moments numbers file memory)
    (sound : Sound table int memory.store heads) :
    ratifiable (fileBacked moments numbers) file.store command = ratifiable inMemory memory.store command := by
  have top : current (fileBacked moments numbers) file.store = current inMemory memory.store := by
    rw [current, mirrored.store.all]
    exact (headOf_perm fileOrder_perm.symm sound.head).trans sound.head.symm
  rw [ratifiable, ratifiable, mirrored.store.get sound.keyed, top]

theorem Mirrored.ratify (mirrored : Mirrored moments numbers file memory) (sound : Sound table int memory.store heads) :
    Mirrored moments numbers (ratify (fileBacked moments numbers) file command generated).1
        (ratify inMemory memory command generated).1 ∧
      (ratify inMemory memory command generated).2 = (ratify (fileBacked moments numbers) file command generated).2 ∧
      ∀ error, (ratify (fileBacked moments numbers) file command generated).2 = .error error →
        (ratify (fileBacked moments numbers) file command generated).1 = file := by
  have eligible := @ratifiable_mirrored _ _ _ _ _ _ _ _ command mirrored sound
  rcases @ratifiable_cases _ memory command with ⟨error, refused⟩ | ⟨version, head, ratifies⟩
  · have fileRefused : ConstitutionVersions.ratify (fileBacked moments numbers) file command generated =
        (file, .error error) := by
      rw [ConstitutionVersions.ratify, eligible, refused]
    have memoryRefused : ConstitutionVersions.ratify inMemory memory command generated = (memory, .error error) := by
      rw [ConstitutionVersions.ratify, refused]
    rw [fileRefused, memoryRefused]
    exact ⟨mirrored, rfl, fun _ _ => rfl⟩
  · have present := @Ratifies.present _ memory command generated version head ratifies
    obtain ⟨store, replaced, mirrors⟩ := mirrored.store.replace present sound.keyed
    rw [ConstitutionVersions.ratify, ConstitutionVersions.ratify, eligible, ratifies.ratifiable]
    dsimp only
    rw [replaced, replace_present present, mirrored.proposals, mirrored.lineages]
    cases head with
    | none =>
        refine ⟨⟨mirrors, rfl, rfl⟩, rfl, ?_⟩
        intro error refused
        cases refused
    | some top =>
        have after : { top with status := VersionStatus.superseded }.versionId ∈
            versionIds (put ConstitutionVersionISR.versionId memory.store
                (ratifiedVersion version command generated)) := by
          rw [versionIds_put present]
          exact List.mem_map.mpr ⟨top, (head_ratified ratifies.head).1, rfl⟩
        obtain ⟨later, superseded, mirrorsLater⟩ := mirrors.replace after sound.keyed.put
        dsimp only
        rw [superseded, replace_present after]
        refine ⟨⟨mirrorsLater, rfl, rfl⟩, rfl, ?_⟩
        intro error refused
        cases refused

variable {session following : Session Moment} {action : Action Moment}

structure SoundSession (table : CharTable) (int : List Char → Option Nat) (moments : MomentText Moment)
    (numbers : NumberText JsonFloat) (session : Session Moment) : Prop where
  sound : Sound table int session.memory.store session.heads
  mirrored : Mirrored moments numbers session.file session.memory

/-- A chain does not depend on the order of its versions. -/
theorem Chained.order {versions heads : Versions Moment} {lineages : List (ChangeLineageISR Moment)}
    (chained : Chained table int versions lineages heads) (sound : Sound table int versions heads) :
    Chained table int (fileOrder versions) lineages heads := by
  have keeps : Keeps versions (fileOrder versions) := by
    intro wanted version found
    rw [← find_perm sound.keyed fileOrder_perm.symm] at found
    exact ⟨version, found, rfl, rfl, fun _ => rfl⟩
  constructor
  case single =>
      rw [(fileOrder_perm.filter _).length_eq]
      exact chained.single
  case ever => exact fun version member => chained.ever version (fileOrder_perm.mem_iff.mp member)
  case increasing => exact chained.increasing
  case named => exact chained.named.keep sound.everFound keeps fun _ listed => listed
  case followed =>
      obtain ⟨head, found, follows⟩ := chained.followed
      exact ⟨head, headOf_perm fileOrder_perm.symm found, follows.keep keeps⟩

theorem SoundSession.holds_iff (sound : SoundSession table int moments numbers session) :
    Holds table int moments numbers session ↔
      Chained table int session.memory.store session.memory.lineages session.heads ∧
        ∀ pair ∈ session.answers, pair.1 = pair.2 := by
  constructor
  · exact fun holds => ⟨holds.memory, holds.same⟩
  · rintro ⟨chained, same⟩
    refine ⟨chained, ⟨_, sound.mirrored.store.all, ?_⟩, same⟩
    rw [sound.mirrored.lineages]
    exact chained.order sound.sound

theorem answers_snoc {answers : List (Answer Moment × Answer Moment)} {now : Answer Moment × Answer Moment}
    (same : ∀ pair ∈ answers, pair.1 = pair.2) : (∀ pair ∈ answers ++ [now], pair.1 = pair.2) ↔ now.1 = now.2 := by
  constructor
  · exact fun all => all now (List.mem_append_right _ (List.mem_singleton_self now))
  · intro equal pair member
    rcases List.mem_append.mp member with old | new
    · exact same pair old
    · exact List.mem_singleton.mp new ▸ equal

theorem step_eq (taken : step table int moments numbers session action = some following) :
    Fresh session.memory action ∧ following = {
      memory := (perform table int inMemory session.memory action).1
      file := (perform table int (fileBacked moments numbers) session.file action).1
      heads := newHeads session.heads action (perform table int inMemory session.memory action).2
      answers := session.answers ++
        [((perform table int inMemory session.memory action).2,
          (perform table int (fileBacked moments numbers) session.file action).2)] } := by
  rw [step] at taken
  split at taken
  case isTrue fresh => exact ⟨fresh, (Option.some.inj taken).symm⟩
  case isFalse => cases taken

theorem SoundSession.next (sound : SoundSession table int moments numbers session)
    (taken : step table int moments numbers session action = some following) :
    SoundSession table int moments numbers following := by
  obtain ⟨fresh, rfl⟩ := step_eq taken
  cases action with
  | propose proposal generated =>
      refine ⟨?_, (sound.mirrored.propose sound.sound fresh).1⟩
      rw [perform]
      rcases @propose_cases _ table int session.memory proposal generated with ⟨error, refused⟩ |
          ⟨head, proposes, -, done⟩
      · rw [refused]
        exact sound.sound
      · rw [done]
        exact sound.sound.propose proposes fresh
  | ratify command generated =>
      refine ⟨?_, (sound.mirrored.ratify sound.sound).1⟩
      rw [perform]
      rcases @ratify_cases _ session.memory command generated with ⟨error, refused⟩ | ⟨version, head, ratifies⟩
      · rw [refused]
        exact sound.sound
      · rw [ratifies.ratify]
        exact sound.sound.ratify generated ratifies

theorem SoundSession.step_holds_iff (sound : SoundSession table int moments numbers session)
    (holds : Holds table int moments numbers session)
    (taken : step table int moments numbers session action = some following) :
    Holds table int moments numbers following ↔ Orderly table int session.memory action := by
  rw [(sound.next taken).holds_iff]
  obtain ⟨chained, same⟩ := sound.holds_iff.mp holds
  obtain ⟨fresh, rfl⟩ := step_eq taken
  dsimp only
  rw [answers_snoc same]
  cases action with
  | propose proposal generated =>
      rw [← (sound.mirrored.propose sound.sound fresh).2.1, perform, perform]
      apply and_iff_right
      rcases @propose_cases _ table int session.memory proposal generated with ⟨error, refused⟩ |
          ⟨head, proposes, -, done⟩
      · rw [refused]
        exact chained
      · rw [done]
        exact chained.propose sound.sound proposes fresh
  | ratify command generated =>
      rw [perform, perform, and_iff_left (sound.mirrored.ratify sound.sound).2.1]
      rcases @ratify_cases _ session.memory command generated with ⟨error, refused⟩ | ⟨version, head, ratifies⟩
      · rw [refused]
        refine ⟨fun _ version head ratifies => ?_, fun _ => chained⟩
        rw [ratifies.ratify] at refused
        cases congrArg Prod.snd refused
      · rw [ratifies.ratify]
        refine (chained.ratify_iff generated sound.sound ratifies fresh).trans ⟨?_, fun orderly => orderly _ _ ratifies⟩
        intro linked other top also
        have version := ratifies.found.symm.trans also.found
        have head := ratifies.head.symm.trans also.head
        cases version
        cases head
        exact linked

theorem SoundSession.refuses (sound : SoundSession table int moments numbers session)
    (fresh : Fresh session.memory action) : RefusesCleanly table int moments numbers session action := by
  intro error
  cases action with
  | propose proposal generated =>
      exact ⟨refused_propose, (sound.mirrored.propose sound.sound fresh).2.2 error⟩
  | ratify command generated =>
      exact ⟨refused_ratify, (sound.mirrored.ratify sound.sound).2.2 error⟩

theorem start_sound {file : File} (empty : read numbers file = []) :
    SoundSession table int moments numbers (start file) := by
  constructor
  case sound =>
      constructor
      case keyed => exact List.nodup_nil
      case head => rfl
      all_goals
        intro version member
        cases member
  case mirrored => exact ⟨empty, rfl, rfl⟩

theorem start_holds {file : File} (empty : read numbers file = []) :
    Holds table int moments numbers (start file) := by
  rw [(start_sound empty).holds_iff]
  refine ⟨⟨Nat.zero_le 1, ?_, List.Pairwise.nil, trivial, none, rfl, .root⟩, ?_⟩
  · intro version member
    cases member
  · intro answers member
    cases member

/-- All along a run both repositories hold one chain, all answers are the same, and refused commands change
nothing. -/
def Unbroken (table : CharTable) (int : List Char → Option Nat) (moments : MomentText Moment)
    (numbers : NumberText JsonFloat) (file : File) (actions : List (Action Moment)) : Prop :=
  (∀ before after middle, actions = before ++ after →
    run (step table int moments numbers) (start file) before = some middle →
    Holds table int moments numbers middle) ∧
  ∀ before action after middle, actions = before ++ action :: after →
    run (step table int moments numbers) (start file) before = some middle →
    RefusesCleanly table int moments numbers middle action

/-- The chain stays unbroken exactly when every version is ratified over the head it was proposed over, and no
proposal is refused where the two orders meet different texts first. -/
theorem unbroken_iff {file : File} (empty : read numbers file = []) {actions : List (Action Moment)}
    {session : Session Moment} (finished : run (step table int moments numbers) (start file) actions = some session) :
    Unbroken table int moments numbers file actions ↔
      ∀ before action after middle, actions = before ++ action :: after →
        run (step table int moments numbers) (start file) before = some middle →
        Orderly table int middle.memory action := by
  have sound {before : List (Action Moment)} {middle : Session Moment}
      (reached : run (step table int moments numbers) (start file) before = some middle) :
      SoundSession table int moments numbers middle :=
    run_invariant (start_sound empty) (fun sound taken => sound.next taken) reached
  have along := holds_along_iff (start_sound empty) (start_holds empty)
    (fun sound taken => SoundSession.next sound taken)
    (fun sound holds taken => SoundSession.step_holds_iff sound holds taken) finished
  rw [← along]
  apply and_iff_left
  intro before action after middle split reached
  obtain ⟨following, taken, -⟩ := run_onward finished split reached
  exact (sound reached).refuses (step_eq taken).1

end

open IsoDatetime ObservatoryEvents

instance (date : Datetime) : Decidable (OnCalendar date) :=
  decidable_of_iff (date.year < 10000 ∧ date.month < 13 ∧ date.day < 32 ∧ date.hour < 24 ∧ date.minute < 60 ∧
      date.second < 60 ∧ date.microsecond < 1000000 ∧ date.offset.natAbs < 1440)
    ⟨fun ⟨year, month, day, hour, minute, second, microsecond, offset⟩ =>
      ⟨year, month, day, hour, minute, second, microsecond, offset⟩,
    fun ⟨year, month, day, hour, minute, second, microsecond, offset⟩ =>
      ⟨year, month, day, hour, minute, second, microsecond, offset⟩⟩

def isoMoments : MomentText { date : Datetime // OnCalendar date } where
  dump date := date.val.isoformat
  validate
    | .str text => (readIso text).bind fun date => if possible : OnCalendar date then some ⟨date, possible⟩ else none
    | _ => none
  readBack date := by
    dsimp only
    rw [readIso_isoformat date.property, Option.bind_some, dif_pos date.property]

/-- Noon an hour ahead of UTC. -/
def noon : { date : Datetime // OnCalendar date } :=
  ⟨{ year := 2026, month := 8, day := 7, hour := 12, offset := 60 }, by decide⟩

def number (digits : List Char) : Option Nat := some (Nat.ofDigitChars 10 digits 0)

def proposal (semver generated : String) : Action { date : Datetime // OnCalendar date } :=
  .propose { semver, policySetRef := "ps-1", proposedBy := "architect", changeKind := .amendment, summary := "s",
             now := noon } generated

def ratification (versionId generated : String) : Action { date : Datetime // OnCalendar date } :=
  .ratify { versionId, outcome := { workflowRef := "wf-1", approved := true, reason := "test" }, now := noon } generated

theorem ratified_over_head : Unbroken asciiTable number isoMoments JsonText.exactDecimals none
    [proposal "1.0.0" "a", ratification "cv-a" "b"] := by
  have ran : (run (step asciiTable number isoMoments JsonText.exactDecimals) (start none)
      [proposal "1.0.0" "a", ratification "cv-a" "b"]).isSome := by
    decide
  obtain ⟨final, finished⟩ := Option.isSome_iff_exists.mp ran
  apply (unbroken_iff rfl finished).mpr
  intro before action after middle split reached
  cases before with
  | nil =>
      cases split
      cases reached
      intro candidate _
      rfl
  | cons first rest =>
      cases rest with
      | nil =>
          cases split
          -- one version without predecessor, and no head
          have versions : (run (step asciiTable number isoMoments JsonText.exactDecimals) (start none)
              [proposal "1.0.0" "a"]).map (fun session =>
                session.memory.store.map fun version => (version.status, version.predecessorRef)) =
              some [(.proposed, none)] := by
            decide
          rw [reached] at versions
          intro version head ratifies
          have listed {other : ConstitutionVersionISR _} (member : other ∈ middle.memory.store) :
              (other.status, other.predecessorRef) = (.proposed, none) :=
            List.mem_singleton.mp (Option.some.inj versions ▸ List.mem_map_of_mem member)
          rw [(Prod.mk.inj (listed (mem_of_find ratifies.found).1)).2]
          cases head with
          | none => rfl
          | some top =>
              have standing := head_ratified ratifies.head
              have opened := (Prod.mk.inj (listed standing.1)).1
              rw [standing.2] at opened
              cases opened
      | cons second more => simp at split

/-- Two open proposals are ratified in the other order: the head goes back to the lower number. -/
theorem head_goes_back : ∃ final, run (step asciiTable number isoMoments JsonText.exactDecimals) (start none)
    [proposal "1.0.0" "a", proposal "1.1.0" "b", ratification "cv-b" "c", ratification "cv-a" "d"] = some final ∧
      ¬ Holds asciiTable number isoMoments JsonText.exactDecimals final := by
  have heads : (run (step asciiTable number isoMoments JsonText.exactDecimals) (start none)
      [proposal "1.0.0" "a", proposal "1.1.0" "b", ratification "cv-b" "c", ratification "cv-a" "d"]).map
        (fun session => session.heads.map ConstitutionVersionISR.semver) = some ["1.0.0", "1.1.0"] := by
    decide
  obtain ⟨final, finished, semvers⟩ := Option.map_eq_some_iff.mp heads
  refine ⟨final, finished, fun holds => ?_⟩
  have increasing : (final.heads.map ConstitutionVersionISR.semver).Pairwise fun later earlier =>
      ∃ less more, parseSemver asciiTable number earlier = .ok less ∧ parseSemver asciiTable number later = .ok more ∧
        less < more :=
    List.pairwise_map.mpr holds.memory.increasing
  rw [semvers] at increasing
  obtain ⟨less, more, first, second, order⟩ := (List.pairwise_cons.mp increasing).1 _ List.mem_cons_self
  have low : parseSemver asciiTable number "1.0.0" = .ok (toLex (1, toLex (0, 0))) := by decide
  have high : parseSemver asciiTable number "1.1.0" = .ok (toLex (1, toLex (1, 0))) := by decide
  cases low.symm.trans second
  cases high.symm.trans first
  exact absurd order (by decide)

end AutonomousApi.ConstitutionVersions
