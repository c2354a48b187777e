import AutonomousApi.ConstitutionVersions

/-! What the commands do to a version chain kept in memory, and what holds of it in whatever order
open proposals are ratified. The versions ever ratified are listed newest first, as `ratify` answered
them. Whether the chain is linked through its predecessors depends on one thing only: that a version
is ratified over the head it was proposed over. -/

namespace AutonomousApi.ConstitutionVersions

open OrderedMap PythonText RecordTable

variable {Moment : Type} {table : CharTable} {int : List Char → Option Nat}

abbrev Memory (Moment : Type) := VersionManager (Versions Moment) Moment

section

variable {versions : Versions Moment} {head : Option (ConstitutionVersionISR Moment)}

theorem headOf_ok_iff :
    headOf versions = .ok head ↔ (versions.filter fun version => version.status = .ratified) = head.toList := by
  rw [headOf]
  split
  case h_1 empty => cases head <;> simp [empty]
  case h_2 only single => cases head <;> simp [single]
  case h_3 several more =>
      constructor
      · intro refused
        cases refused
      · intro listed
        cases head with
        | none => exact absurd listed several
        | some head => exact absurd listed (more head)

variable {top : ConstitutionVersionISR Moment}

theorem head_ratified (found : headOf versions = .ok (some top)) :
    top ∈ versions ∧ top.status = .ratified := by
  have member : top ∈ versions.filter fun version => version.status = .ratified := by
    rw [headOf_ok_iff.mp found]
    exact List.mem_singleton_self top
  exact ⟨List.mem_of_mem_filter member, by simpa using (List.mem_filter.mp member).2⟩

theorem head_unique (found : headOf versions = .ok head) (member : top ∈ versions)
    (ratified : top.status = .ratified) : head = some top := by
  have inside : top ∈ versions.filter fun version => version.status = .ratified :=
    List.mem_filter.mpr ⟨member, by simpa using ratified⟩
  rw [headOf_ok_iff.mp found] at inside
  exact Option.mem_toList.mp inside

/-- The one version of a table that is ratified is its head. -/
theorem headOf_single (keyed : Keyed ConstitutionVersionISR.versionId versions)
    (only : ∀ version ∈ versions, version.status = .ratified ↔ version = top) (member : top ∈ versions) :
    headOf versions = .ok (some top) := by
  rw [headOf_ok_iff]
  apply List.perm_singleton.mp
  have distinct : versions.Nodup := List.Nodup.of_map _ keyed
  rw [List.perm_ext_iff_of_nodup (distinct.filter _) (List.nodup_singleton top)]
  intro version
  rw [List.mem_filter, List.mem_singleton]
  constructor
  · rintro ⟨inside, ratified⟩
    exact (only version inside).mp (by simpa using ratified)
  · rintro rfl
    exact ⟨member, by simpa using (only version member).mpr rfl⟩

end

section

variable {manager : Memory Moment} {proposal : Proposal Moment} {command : Ratification Moment} {generated : String}

/-- One version has a lower number than another. -/
def Below (table : CharTable) (int : List Char → Option Nat) (lower upper : ConstitutionVersionISR Moment) : Prop :=
  ∃ less more, parseSemver table int lower.semver = .ok less ∧ parseSemver table int upper.semver = .ok more ∧
      less < more

variable {versions : Versions Moment} {version : ConstitutionVersionISR Moment}

theorem checkIncreasing_ok_iff {candidate : Semver} {semver : String} :
    checkIncreasing table int candidate semver versions = .ok () ↔
      ∀ existing ∈ versions, ∃ other, parseSemver table int existing.semver = .ok other ∧ other < candidate := by
  induction versions with
  | nil => simp [checkIncreasing]
  | cons first rest ih =>
      rw [checkIncreasing, List.forall_mem_cons, ← ih]
      cases parsed : parseSemver table int first.semver with
      | error error => simp [bind, Except.bind]
      | ok other =>
          by_cases notBelow : candidate ≤ other
          · simp [bind, Except.bind, notBelow]
          · simp [bind, Except.bind, notBelow, not_le.mp notBelow]

/-- When a proposal is accepted over a head. -/
structure Proposes (table : CharTable) (int : List Char → Option Nat) (versions : Versions Moment)
    (proposal : Proposal Moment) (head : Option (ConstitutionVersionISR Moment)) : Prop where
  head : headOf versions = .ok head
  above : ∃ candidate, parseSemver table int proposal.semver = .ok candidate ∧
    ∀ existing ∈ versions, ∃ other, parseSemver table int existing.semver = .ok other ∧ other < candidate

theorem proposedVersion_cases (versions : Versions Moment) :
    (∃ error, proposedVersion table int inMemory versions proposal generated = .error error) ∨
      ∃ head, Proposes table int versions proposal head ∧
        proposedVersion table int inMemory versions proposal generated = .ok (newVersion proposal head generated) := by
  have unfolded : proposedVersion table int inMemory versions proposal generated =
      (parseSemver table int proposal.semver).bind fun candidate =>
        (checkIncreasing table int candidate proposal.semver versions).bind fun _ =>
          (headOf versions).bind fun head => .ok (newVersion proposal head generated) := rfl
  rw [unfolded]
  cases parsed : parseSemver table int proposal.semver with
  | error error => exact .inl ⟨error, rfl⟩
  | ok candidate =>
      rw [Except.bind]
      cases checked : checkIncreasing table int candidate proposal.semver versions with
      | error error => exact .inl ⟨error, rfl⟩
      | ok done =>
          rw [Except.bind]
          cases top : headOf versions with
          | error error => exact .inl ⟨error, rfl⟩
          | ok head => exact .inr ⟨head, ⟨top, candidate, parsed, checkIncreasing_ok_iff.mp checked⟩, rfl⟩

theorem propose_cases :
    (∃ error, propose table int inMemory manager proposal generated = (manager, .error error)) ∨
      ∃ head, Proposes table int manager.store proposal head ∧ "cv-" ++ generated ∉ versionIds manager.store ∧
        propose table int inMemory manager proposal generated =
          ({ manager with
              store := manager.store ++ [newVersion proposal head generated]
              proposals := assign manager.proposals ("cv-" ++ generated) (proposal.changeKind, proposal.summary) },
            .ok (newVersion proposal head generated)) := by
  rcases @proposedVersion_cases _ table int proposal generated manager.store with
    ⟨error, refused⟩ | ⟨head, proposes, made⟩
  · exact .inl ⟨error, by rw [propose, refused]⟩
  · by_cases present : "cv-" ++ generated ∈ versionIds manager.store
    · have refused : inMemory.add manager.store (newVersion proposal head generated) = .error _ := if_pos present
      exact .inl ⟨_, by rw [propose, made]; dsimp only; rw [refused]⟩
    · refine .inr ⟨head, proposes, present, ?_⟩
      have accepted : inMemory.add manager.store (newVersion proposal head generated) = .ok _ := if_neg present
      have added := @put_absent _ _ _ ConstitutionVersionISR.versionId manager.store
        (newVersion proposal head generated) present
      rw [added] at accepted
      rw [propose, made]
      dsimp only
      rw [accepted]
      rfl

/-- What ratification writes: the ratified version, and the head before it as superseded. -/
def superseding (versions : Versions Moment) (ratified : ConstitutionVersionISR Moment)
    (head : Option (ConstitutionVersionISR Moment)) : Versions Moment :=
  match head with
  | none => put ConstitutionVersionISR.versionId versions ratified
  | some head =>
      put ConstitutionVersionISR.versionId (put ConstitutionVersionISR.versionId versions ratified)
        { head with status := .superseded }

/-- When a command ratifies a version over a head. -/
structure Ratifies (manager : Memory Moment) (command : Ratification Moment) (version : ConstitutionVersionISR Moment)
    (head : Option (ConstitutionVersionISR Moment)) : Prop where
  found : find ConstitutionVersionISR.versionId manager.store command.versionId = some version
  status : version.status = .proposed
  approved : command.outcome.approved = true
  head : headOf manager.store = .ok head

variable {head : Option (ConstitutionVersionISR Moment)} {error : VersioningError}

theorem Ratifies.ratifiable (ratifies : Ratifies manager command version head) :
    ratifiable inMemory manager.store command = .ok (version, head) := by
  obtain ⟨found, open_, approved, top⟩ := ratifies
  simp [ConstitutionVersions.ratifiable, inMemory, found, bind, Except.bind, open_, approved, current, top]

theorem ratifiable_cases :
    (∃ error, ratifiable inMemory manager.store command = .error error) ∨
      ∃ version head, Ratifies manager command version head := by
  cases found : find ConstitutionVersionISR.versionId manager.store command.versionId with
  | none => exact .inl ⟨_, by simp only [ratifiable, inMemory, found, bind, Except.bind]; rfl⟩
  | some version =>
      by_cases open_ : version.status = .proposed
      · cases approved : command.outcome.approved with
        | false => exact .inl ⟨_, by simp [ratifiable, inMemory, found, bind, Except.bind, open_, approved]; rfl⟩
        | true =>
            cases top : headOf manager.store with
            | error error =>
                exact .inl ⟨error, by
                  simp [ratifiable, inMemory, found, bind, Except.bind, open_, approved, current, top]⟩
            | ok head => exact .inr ⟨version, head, found, open_, approved, top⟩
      · exact .inl ⟨_, by simp [ratifiable, inMemory, found, bind, Except.bind, open_]; rfl⟩

theorem replace_present (present : version.versionId ∈ versionIds versions) :
    inMemory.replace versions version = .ok (put ConstitutionVersionISR.versionId versions version) := if_pos present

theorem versionIds_put (present : version.versionId ∈ versionIds versions) :
    versionIds (put ConstitutionVersionISR.versionId versions version) = versionIds versions := by
  exact keys_put.trans (if_pos present)

theorem Ratifies.present {version : ConstitutionVersionISR Moment} {head : Option (ConstitutionVersionISR Moment)}
    (ratifies : Ratifies manager command version head) :
    (ratifiedVersion version command generated).versionId ∈ versionIds manager.store :=
  List.mem_map.mpr ⟨version, (mem_of_find ratifies.found).1, rfl⟩

theorem Ratifies.ratify (ratifies : Ratifies manager command version head) :
    ratify inMemory manager command generated =
      ({ manager with
          store := superseding manager.store (ratifiedVersion version command generated) head
          lineages := manager.lineages ++ [lineageOf manager.proposals version head command generated] },
        .ok (ratifiedVersion version command generated)) := by
  have present := @Ratifies.present _ manager command generated version head ratifies
  rw [ConstitutionVersions.ratify, ratifies.ratifiable]
  dsimp only
  rw [replace_present present]
  cases head with
  | none => rfl
  | some head =>
      have known : head.versionId ∈ versionIds manager.store := List.mem_map_of_mem (head_ratified ratifies.head).1
      have after : { head with status := VersionStatus.superseded }.versionId ∈
          versionIds (put ConstitutionVersionISR.versionId manager.store
              (ratifiedVersion version command generated)) := by
        rw [versionIds_put present]
        exact known
      dsimp only
      rw [replace_present after]
      rfl

theorem ratify_cases :
    (∃ error, ratify inMemory manager command generated = (manager, .error error)) ∨
      ∃ version head, Ratifies manager command version head := by
  rcases @ratifiable_cases _ manager command with ⟨error, refused⟩ | ratifies
  · exact .inl ⟨error, by rw [ratify, refused]⟩
  · exact .inr ratifies

/-- A refused command leaves the manager as it was. -/
theorem refused_propose (refused : (propose table int inMemory manager proposal generated).2 = .error error) :
    (propose table int inMemory manager proposal generated).1 = manager := by
  rcases @propose_cases _ table int manager proposal generated with ⟨other, same⟩ | ⟨head, -, -, done⟩
  · rw [same]
  · rw [done] at refused
    cases refused

theorem refused_ratify (refused : (ratify inMemory manager command generated).2 = .error error) :
    (ratify inMemory manager command generated).1 = manager := by
  rcases @ratify_cases _ manager command generated with ⟨other, same⟩ | ⟨version, head, ratifies⟩
  · rw [same]
  · rw [ratifies.ratify] at refused
    cases refused

end

variable {versions following : Versions Moment} {lineages recorded : List (ChangeLineageISR Moment)}
  {heads : Versions Moment} {proposal : Proposal Moment} {generated : String}

/-- Each version ever ratified names the one ratified before it, by itself and through its lineage. -/
def Named (versions : Versions Moment) (lineages : List (ChangeLineageISR Moment)) : Versions Moment → Prop
  | [] => True
  | head :: earlier =>
      (∃ version, find ConstitutionVersionISR.versionId versions head.versionId = some version ∧
        version.predecessorRef = earlier.head?.map ConstitutionVersionISR.versionId ∧
        ∃ lineage, version.lineageRef = some lineage.lineageId ∧
          find ChangeLineageISR.lineageId lineages lineage.lineageId = some lineage ∧
          lineage.parentVersionRefs = earlier.head?.toList.map ConstitutionVersionISR.versionId) ∧
      Named versions lineages earlier

/-- Following predecessors from a reference visits these versions and ends. -/
inductive Follows (versions : Versions Moment) : Option String → List String → Prop where
  | root : Follows versions none []
  | step {ref : String} {version : ConstitutionVersionISR Moment} {visited : List String}
      (found : find ConstitutionVersionISR.versionId versions ref = some version)
      (further : Follows versions version.predecessorRef visited) : Follows versions (some ref) (ref :: visited)

structure Chained (table : CharTable) (int : List Char → Option Nat) (versions : Versions Moment)
    (lineages : List (ChangeLineageISR Moment)) (heads : Versions Moment) : Prop where
  single : (versions.filter fun version => version.status = .ratified).length ≤ 1
  ever : ∀ version ∈ versions, version.status ≠ .proposed ↔
    version.versionId ∈ heads.map ConstitutionVersionISR.versionId
  increasing : heads.Pairwise fun later earlier => Below table int earlier later
  named : Named versions lineages heads
  followed : ∃ head, headOf versions = .ok head ∧
    Follows versions (head.map ConstitutionVersionISR.versionId) (heads.map ConstitutionVersionISR.versionId)

/-- What holds in whatever order versions are ratified. -/
structure Sound (table : CharTable) (int : List Char → Option Nat) (versions heads : Versions Moment) : Prop where
  keyed : Keyed ConstitutionVersionISR.versionId versions
  parsed : ∀ version ∈ versions, ∃ number, parseSemver table int version.semver = .ok number
  predecessor : ∀ version ∈ versions, ∀ ref, version.predecessorRef = some ref →
    ∃ earlier, find ConstitutionVersionISR.versionId versions ref = some earlier ∧ Below table int earlier version
  head : headOf versions = .ok heads.head?
  ever : ∀ version ∈ versions, version.status ≠ .proposed ↔
    version.versionId ∈ heads.map ConstitutionVersionISR.versionId
  kept : ∀ head ∈ heads, ∃ version, find ConstitutionVersionISR.versionId versions head.versionId = some version ∧
    version.semver = head.semver

/-- Versions stay, with their number and predecessor, and keep the lineage they were ratified with. -/
def Keeps (versions following : Versions Moment) : Prop :=
  ∀ versionId version, find ConstitutionVersionISR.versionId versions versionId = some version →
    ∃ later, find ConstitutionVersionISR.versionId following versionId = some later ∧ later.semver = version.semver ∧
      later.predecessorRef = version.predecessorRef ∧
      (version.status ≠ .proposed → later.lineageRef = version.lineageRef)

variable {low high : ConstitutionVersionISR Moment}

theorem Below.trans {middle : ConstitutionVersionISR Moment} (first : Below table int low middle)
    (second : Below table int middle high) : Below table int low high := by
  obtain ⟨less, between, lowRead, middleRead, below⟩ := first
  obtain ⟨again, more, middleAgain, highRead, above⟩ := second
  rw [middleRead] at middleAgain
  cases middleAgain
  exact ⟨less, more, lowRead, highRead, lt_trans below above⟩

theorem Below.congr {lower higher : ConstitutionVersionISR Moment} (below : Below table int low high)
    (sameLow : lower.semver = low.semver) (sameHigh : higher.semver = high.semver) : Below table int lower higher := by
  obtain ⟨less, more, lowRead, highRead, order⟩ := below
  exact ⟨less, more, sameLow ▸ lowRead, sameHigh ▸ highRead, order⟩

theorem Follows.keep {ref : Option String} {visited : List String} (follows : Follows versions ref visited)
    (keeps : Keeps versions following) : Follows following ref visited := by
  induction follows with
  | root => exact .root
  | step found _ ih =>
      obtain ⟨later, kept, -, predecessor, -⟩ := keeps _ _ found
      rw [← predecessor] at ih
      exact .step kept ih

theorem Named.keep (named : Named versions lineages heads)
    (ever : ∀ head ∈ heads, ∀ version, find ConstitutionVersionISR.versionId versions head.versionId = some version →
      version.status ≠ .proposed)
    (keeps : Keeps versions following)
    (grown : ∀ lineage, find ChangeLineageISR.lineageId lineages lineage.lineageId = some lineage →
      find ChangeLineageISR.lineageId recorded lineage.lineageId = some lineage) :
    Named following recorded heads := by
  induction heads with
  | nil => trivial
  | cons head earlier ih =>
      obtain ⟨⟨version, found, predecessor, lineage, ref, listed, parents⟩, rest⟩ := named
      obtain ⟨later, kept, -, samePredecessor, sameLineage⟩ := keeps _ _ found
      have once := ever head List.mem_cons_self version found
      refine ⟨⟨later, kept, samePredecessor.trans predecessor, lineage, (sameLineage once).trans ref,
          grown lineage listed, parents⟩, ih rest fun head member => ever head (List.mem_cons_of_mem _ member)⟩

theorem Sound.everFound (sound : Sound table int versions heads) :
    ∀ head ∈ heads, ∀ version, find ConstitutionVersionISR.versionId versions head.versionId = some version →
      version.status ≠ .proposed := by
  intro head member version found
  have held := mem_of_find found
  exact (sound.ever version held.1).mpr (held.2 ▸ List.mem_map_of_mem member)

theorem Sound.single (sound : Sound table int versions heads) :
    (versions.filter fun version => version.status = .ratified).length ≤ 1 := by
  rw [headOf_ok_iff.mp sound.head]
  cases heads <;> simp

section

variable {head : Option (ConstitutionVersionISR Moment)}

theorem keeps_propose {version : ConstitutionVersionISR Moment} : Keeps versions (versions ++ [version]) :=
  fun _ _ found => ⟨_, find_append found, rfl, rfl, fun _ => rfl⟩

theorem headOf_propose (found : headOf versions = .ok head) :
    headOf (versions ++ [newVersion proposal head generated]) = .ok head := by
  rw [headOf_ok_iff, List.filter_append, headOf_ok_iff.mp found]
  exact List.append_nil _

theorem Sound.propose (sound : Sound table int versions heads) (proposes : Proposes table int versions proposal head)
    (fresh : "cv-" ++ generated ∉ versionIds versions) :
    Sound table int (versions ++ [newVersion proposal head generated]) heads := by
  obtain ⟨top, candidate, read, above⟩ := proposes
  constructor
  case keyed =>
      have put := @Keyed.put _ _ _ _ _ (newVersion proposal head generated) sound.keyed
      rwa [@put_absent _ _ _ _ _ (newVersion proposal head generated) fresh] at put
  case parsed =>
      intro version member
      rcases List.mem_append.mp member with old | new
      · exact sound.parsed version old
      · rw [List.mem_singleton.mp new]
        exact ⟨candidate, read⟩
  case predecessor =>
      intro version member ref named
      rcases List.mem_append.mp member with old | new
      · obtain ⟨earlier, found, below⟩ := sound.predecessor version old ref named
        exact ⟨earlier, find_append found, below⟩
      · rw [List.mem_singleton.mp new] at named ⊢
        -- its predecessor is the head, and its number is above all there are
        cases head with
        | none => cases named
        | some head =>
            cases named
            have inside := (head_ratified top).1
            obtain ⟨other, known, less⟩ := above head inside
            exact ⟨head, find_append (sound.keyed.find_of_mem inside), other, candidate, known, read, less⟩
  case head =>
      rw [sound.head] at top
      cases top
      exact headOf_propose sound.head
  case ever =>
      intro version member
      rcases List.mem_append.mp member with old | new
      · exact sound.ever version old
      · rw [List.mem_singleton.mp new]
        constructor
        · intro opened
          exact absurd rfl opened
        · intro ratified
          obtain ⟨earlier, listed, same⟩ := List.mem_map.mp ratified
          obtain ⟨stored, found, -⟩ := sound.kept earlier listed
          have known := mem_of_find found
          have clash : "cv-" ++ generated = stored.versionId := same.symm.trans known.2.symm
          exact absurd (clash ▸ List.mem_map_of_mem known.1) fresh
  case kept =>
      intro head member
      obtain ⟨version, found, same⟩ := sound.kept head member
      exact ⟨version, find_append found, same⟩

theorem Chained.propose (chained : Chained table int versions lineages heads) (sound : Sound table int versions heads)
    (proposes : Proposes table int versions proposal head) (fresh : "cv-" ++ generated ∉ versionIds versions) :
    Chained table int (versions ++ [newVersion proposal head generated]) lineages heads := by
  have after := sound.propose proposes fresh
  obtain ⟨top, found, follows⟩ := chained.followed
  rw [proposes.head] at found
  cases found
  exact ⟨after.single, after.ever, chained.increasing,
    chained.named.keep sound.everFound keeps_propose fun _ listed => listed,
    head, headOf_propose proposes.head, follows.keep keeps_propose⟩

end

section

variable {manager : Memory Moment} {command : Ratification Moment} {version : ConstitutionVersionISR Moment}
  {head : Option (ConstitutionVersionISR Moment)}

variable {top other : ConstitutionVersionISR Moment}

/-- The head is another version than the one to be ratified. -/
theorem Ratifies.apart (ratifies : Ratifies manager command version head)
    (sound : Sound table int manager.store heads) (same : head = some top) : top.versionId ≠ version.versionId := by
  intro clash
  have standing := head_ratified (same ▸ ratifies.head)
  have equal := sound.keyed.unique standing.1 (mem_of_find ratifies.found).1 clash
  have opened := ratifies.status
  rw [← equal, standing.2] at opened
  cases opened

theorem find_ratified {ratified : ConstitutionVersionISR Moment}
    (apart : ∀ top, head = some top → top.versionId ≠ ratified.versionId) :
    find ConstitutionVersionISR.versionId (superseding versions ratified head) ratified.versionId = some ratified := by
  cases head with
  | none => rw [superseding, find_put, if_pos rfl]
  | some top => rw [superseding, find_put, if_neg (apart top rfl), find_put, if_pos rfl]

variable {ratified : ConstitutionVersionISR Moment}

theorem find_superseded :
    find ConstitutionVersionISR.versionId (superseding versions ratified (some top)) top.versionId =
      some { top with status := .superseded } := by
  rw [superseding, find_put, if_pos rfl]

theorem find_other {ratified : ConstitutionVersionISR Moment} {wanted : String} (other : ratified.versionId ≠ wanted)
    (below : ∀ top, head = some top → top.versionId ≠ wanted) :
    find ConstitutionVersionISR.versionId (superseding versions ratified head) wanted =
      find ConstitutionVersionISR.versionId versions wanted := by
  cases head with
  | none => rw [superseding, find_put, if_neg other]
  | some top => rw [superseding, find_put, if_neg (below top rfl), find_put, if_neg other]

theorem Sound.keyed_superseding (sound : Sound table int versions heads) :
    Keyed ConstitutionVersionISR.versionId (superseding versions ratified head) := by
  cases head with
  | none => exact sound.keyed.put
  | some top => exact sound.keyed.put.put

/-- The versions after a ratification: the ratified one, the superseded head, and the others as they were. -/
theorem mem_superseding (sound : Sound table int versions heads)
    (member : other ∈ superseding versions ratified head) :
    other = ratified ∨ (∃ top, head = some top ∧ other = { top with status := .superseded }) ∨
      other ∈ versions ∧ other.versionId ≠ ratified.versionId ∧ ∀ top, head = some top →
      top.versionId ≠ other.versionId := by
  cases head with
  | none =>
      rcases sound.keyed.mem_put_iff.mp member with same | ⟨old, differs⟩
      · exact .inl same
      · refine .inr (.inr ⟨old, differs, ?_⟩)
        intro top absent
        cases absent
  | some top =>
      rcases sound.keyed.put.mem_put_iff.mp member with same | ⟨old, below⟩
      · exact .inr (.inl ⟨top, rfl, same⟩)
      · rcases sound.keyed.mem_put_iff.mp old with same | ⟨older, differs⟩
        · exact .inl same
        · refine .inr (.inr ⟨older, differs, ?_⟩)
          rintro _ ⟨⟩
          exact Ne.symm below

theorem Ratifies.head_eq (ratifies : Ratifies manager command version head)
    (sound : Sound table int manager.store heads) :
    head = heads.head? := by
  have top := ratifies.head
  rw [sound.head] at top
  exact (Except.ok.inj top).symm

variable (generated)

theorem Ratifies.keeps (ratifies : Ratifies manager command version head)
    (sound : Sound table int manager.store heads) :
    Keeps manager.store (superseding manager.store (ratifiedVersion version command generated) head) := by
  intro wanted earlier found
  have held := mem_of_find found
  have own := mem_of_find ratifies.found
  by_cases itself : version.versionId = wanted
  · have equal : earlier = version := sound.keyed.unique held.1 own.1 (held.2.trans itself.symm)
    subst equal
    have later := @find_ratified _ manager.store head (ratifiedVersion earlier command generated)
      fun top same => ratifies.apart sound same
    exact ⟨ratifiedVersion earlier command generated, itself ▸ later, rfl, rfl, fun closed =>
        absurd ratifies.status closed⟩
  · by_cases superseded : ∃ top, head = some top ∧ top.versionId = wanted
    · obtain ⟨top, same, identity⟩ := superseded
      have standing := head_ratified (same ▸ ratifies.head)
      have equal : earlier = top := sound.keyed.unique held.1 standing.1 (held.2.trans identity.symm)
      subst equal
      subst same
      exact ⟨{ earlier with status := .superseded }, identity ▸ find_superseded, rfl, rfl, fun _ => rfl⟩
    · have untouched := @find_other _ manager.store head (ratifiedVersion version command generated) wanted itself
        fun top same identity => superseded ⟨top, same, identity⟩
      exact ⟨earlier, untouched.trans found, rfl, rfl, fun _ => rfl⟩

/-- Each version after a ratification was there before, with its number and predecessor. -/
theorem Ratifies.origin (ratifies : Ratifies manager command version head) (sound : Sound table int manager.store heads)
    {later : ConstitutionVersionISR Moment}
    (member : later ∈ superseding manager.store (ratifiedVersion version command generated) head) :
    ∃ earlier ∈ manager.store, earlier.semver = later.semver ∧ earlier.predecessorRef = later.predecessorRef := by
  rcases mem_superseding sound member with rfl | ⟨top, same, rfl⟩ | ⟨old, -, -⟩
  · exact ⟨version, (mem_of_find ratifies.found).1, rfl, rfl⟩
  · exact ⟨top, (head_ratified (same ▸ ratifies.head)).1, rfl, rfl⟩
  · exact ⟨later, old, rfl, rfl⟩

theorem Ratifies.found_after (ratifies : Ratifies manager command version head)
    (sound : Sound table int manager.store heads) :
    find ConstitutionVersionISR.versionId (superseding manager.store (ratifiedVersion version command generated) head)
      version.versionId = some (ratifiedVersion version command generated) :=
  @find_ratified _ manager.store head (ratifiedVersion version command generated) fun _ same =>
      ratifies.apart sound same

theorem Ratifies.head_after (ratifies : Ratifies manager command version head)
    (sound : Sound table int manager.store heads) :
    headOf (superseding manager.store (ratifiedVersion version command generated) head) =
      .ok (some (ratifiedVersion version command generated)) := by
  apply headOf_single sound.keyed_superseding
  · intro other member
    rcases mem_superseding sound member with rfl | ⟨top, -, rfl⟩ | ⟨old, differs, below⟩
    · exact ⟨fun _ => rfl, fun _ => rfl⟩
    · constructor
      · intro ratified
        cases ratified
      · intro equal
        have status : VersionStatus.superseded = .ratified := congrArg ConstitutionVersionISR.status equal
        cases status
    · constructor
      · intro ratified
        exact absurd rfl (below other (head_unique ratifies.head old ratified))
      · intro equal
        exact absurd (congrArg ConstitutionVersionISR.versionId equal) differs
  · exact (mem_of_find (ratifies.found_after generated sound)).1

theorem Ratifies.ever_after (ratifies : Ratifies manager command version head)
    (sound : Sound table int manager.store heads)
    (member : other ∈ superseding manager.store (ratifiedVersion version command generated) head) :
    other.status ≠ .proposed ↔ other.versionId ∈
      (ratifiedVersion version command generated :: heads).map ConstitutionVersionISR.versionId := by
  rw [List.map_cons, List.mem_cons]
  rcases mem_superseding sound member with rfl | ⟨top, same, rfl⟩ | ⟨old, differs, -⟩
  · constructor
    · exact fun _ => .inl rfl
    · intro _ opened
      cases opened
  · constructor
    · intro _
      have standing := head_ratified (same ▸ ratifies.head)
      have closed : top.status ≠ .proposed := by
        rw [standing.2]
        exact VersionStatus.noConfusion
      exact .inr ((sound.ever top standing.1).mp closed)
    · intro _ opened
      cases opened
  · rw [sound.ever other old]
    exact ⟨.inr, fun either => either.resolve_left differs⟩

theorem Sound.ratify (sound : Sound table int manager.store heads) (ratifies : Ratifies manager command version head) :
    Sound table int (superseding manager.store (ratifiedVersion version command generated) head)
      (ratifiedVersion version command generated :: heads) := by
  have keeps := ratifies.keeps generated sound
  constructor
  case keyed => exact sound.keyed_superseding
  case parsed =>
      intro later member
      obtain ⟨earlier, old, number, -⟩ := ratifies.origin generated sound member
      exact number ▸ sound.parsed earlier old
  case predecessor =>
      intro later member ref named
      obtain ⟨earlier, old, number, predecessor⟩ := ratifies.origin generated sound member
      obtain ⟨before, found, below⟩ := sound.predecessor earlier old ref (predecessor.trans named)
      obtain ⟨after, kept, sameNumber, -, -⟩ := keeps _ _ found
      exact ⟨after, kept, below.congr sameNumber number.symm⟩
  case head => exact ratifies.head_after generated sound
  case ever => exact fun other member => ratifies.ever_after generated sound member
  case kept =>
      intro earlier member
      rcases List.mem_cons.mp member with rfl | old
      · exact ⟨_, ratifies.found_after generated sound, rfl⟩
      · obtain ⟨stored, found, number⟩ := sound.kept earlier old
        obtain ⟨after, kept, sameNumber, -, -⟩ := keeps _ _ found
        exact ⟨after, kept, sameNumber.trans number⟩

/-- A ratified version whose predecessor is the head has a number above every one ratified before. -/
theorem Ratifies.increasing (ratifies : Ratifies manager command version head)
    (sound : Sound table int manager.store heads)
    (increasing : heads.Pairwise fun later earlier => Below table int earlier later)
    (linked : version.predecessorRef = head.map ConstitutionVersionISR.versionId) :
    (ratifiedVersion version command generated :: heads).Pairwise fun later earlier =>
      Below table int earlier later := by
  refine List.pairwise_cons.mpr ⟨?_, increasing⟩
  rw [ratifies.head_eq sound] at linked
  cases heads with
  | nil =>
      intro earlier member
      cases member
  | cons top rest =>
      obtain ⟨earlier, found, below⟩ := sound.predecessor version (mem_of_find ratifies.found).1 top.versionId linked
      obtain ⟨stored, same, number⟩ := sound.kept top List.mem_cons_self
      rw [found] at same
      cases same
      have first : Below table int top (ratifiedVersion version command generated) := below.congr number.symm rfl
      intro older member
      rcases List.mem_cons.mp member with rfl | inside
      · exact first
      · exact ((List.pairwise_cons.mp increasing).1 older inside).trans first

theorem Chained.ratify_iff (chained : Chained table int manager.store manager.lineages heads)
    (sound : Sound table int manager.store heads) (ratifies : Ratifies manager command version head)
    (fresh : "cl-" ++ generated ∉ manager.lineages.map ChangeLineageISR.lineageId) :
    Chained table int (superseding manager.store (ratifiedVersion version command generated) head)
        (manager.lineages ++ [lineageOf manager.proposals version head command generated])
        (ratifiedVersion version command generated :: heads) ↔
      version.predecessorRef = head.map ConstitutionVersionISR.versionId := by
  have after := ratifies.found_after generated sound
  have top := ratifies.head_eq sound
  constructor
  · intro following
    obtain ⟨⟨stored, found, predecessor, -⟩, -⟩ := following.named
    cases after.symm.trans found
    exact top ▸ predecessor
  · intro linked
    have next := sound.ratify generated ratifies
    have keeps := ratifies.keeps generated sound
    have listed : find ChangeLineageISR.lineageId
        (manager.lineages ++ [lineageOf manager.proposals version head command generated]) ("cl-" ++ generated) =
          some (lineageOf manager.proposals version head command generated) := by
      rw [find, List.find?_append]
      have absent := find_eq_none_iff.mpr fresh
      rw [find] at absent
      rw [absent]
      simp [lineageOf]
    refine ⟨next.single, next.ever, ratifies.increasing generated sound chained.increasing linked, ⟨?_, ?_⟩, ?_⟩
    · refine ⟨_, after, ?_, lineageOf manager.proposals version head command generated, rfl, listed, ?_⟩
      · exact top ▸ linked
      · rw [← top]
        rfl
    · exact chained.named.keep sound.everFound keeps fun _ listed => find_append listed
    · refine ⟨_, next.head, .step after ?_⟩
      obtain ⟨standing, found, follows⟩ := chained.followed
      rw [ratifies.head] at found
      cases found
      have kept := follows.keep keeps
      rwa [← linked] at kept

end

end AutonomousApi.ConstitutionVersions
