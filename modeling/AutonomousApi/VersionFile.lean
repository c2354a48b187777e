import AutonomousApi.VersionChain

/-! The file-backed repository against the one in memory. A file written with sorted keys holds the same
versions in the order of their ids, and every field of a version is read back from it. So the two
give the same answers, but for one text: a proposal that is refused for its number names the first
version not below it, in the order of the repository. -/

namespace AutonomousApi.ConstitutionVersions

open DataTree JsonValue JsonCodec OrderedMap RecordTable
open PythonLiteral (NumberText)

variable {Moment : Type} {moments : MomentText Moment} {numbers : NumberText JsonFloat}

section

variable {versions others : Versions Moment} {version : ConstitutionVersionISR Moment}

/-- The order of the file. -/
def fileOrder (versions : Versions Moment) : Versions Moment :=
  versions.insertionSort fun left right => left.versionId ≤ right.versionId

theorem fileOrder_perm : (fileOrder versions).Perm versions := List.perm_insertionSort _ _

theorem fileOrder_keyed (keyed : Keyed ConstitutionVersionISR.versionId versions) :
    Keyed ConstitutionVersionISR.versionId (fileOrder versions) :=
  (fileOrder_perm.map ConstitutionVersionISR.versionId).nodup_iff.mpr keyed

theorem fileOrder_congr (keyed : Keyed ConstitutionVersionISR.versionId versions) (same : versions.Perm others) :
    fileOrder versions = fileOrder others := by
  have total : Std.Total fun left right : ConstitutionVersionISR Moment => left.versionId ≤ right.versionId :=
    ⟨fun left right => le_total left.versionId right.versionId⟩
  have trans : IsTrans (ConstitutionVersionISR Moment) fun left right => left.versionId ≤ right.versionId :=
    ⟨fun _ _ _ => le_trans⟩
  have reordered : (fileOrder versions).Perm (fileOrder others) :=
    fileOrder_perm.trans (same.trans fileOrder_perm.symm)
  apply reordered.eq_of_pairwise _ (List.pairwise_insertionSort _ _) (List.pairwise_insertionSort _ _)
  intro left right inLeft inRight before after
  have known := fileOrder_perm.mem_iff.mp inLeft
  have also := same.mem_iff.mpr (fileOrder_perm.mem_iff.mp inRight)
  exact keyed.unique known also (le_antisymm before after)

theorem find_perm (keyed : Keyed ConstitutionVersionISR.versionId versions) (same : versions.Perm others)
    (wanted : String) :
    find ConstitutionVersionISR.versionId others wanted = find ConstitutionVersionISR.versionId versions wanted := by
  have keyedOthers : Keyed ConstitutionVersionISR.versionId others :=
    (same.map ConstitutionVersionISR.versionId).nodup_iff.mp keyed
  cases found : find ConstitutionVersionISR.versionId versions wanted with
  | none =>
      rw [find_eq_none_iff] at found ⊢
      rwa [← (same.map ConstitutionVersionISR.versionId).mem_iff]
  | some version =>
      have held := mem_of_find found
      rw [← held.2]
      exact keyedOthers.find_of_mem (same.mem_iff.mp held.1)

theorem put_perm (keyed : Keyed ConstitutionVersionISR.versionId versions) (same : versions.Perm others) :
    (put ConstitutionVersionISR.versionId versions version).Perm
      (put ConstitutionVersionISR.versionId others version) := by
  have keyedOthers : Keyed ConstitutionVersionISR.versionId others :=
    (same.map ConstitutionVersionISR.versionId).nodup_iff.mp keyed
  apply (List.perm_ext_iff_of_nodup (List.Nodup.of_map _ keyed.put) (List.Nodup.of_map _ keyedOthers.put)).mpr
  intro other
  rw [keyed.mem_put_iff, keyedOthers.mem_put_iff, same.mem_iff]

theorem headOf_perm {head : Option (ConstitutionVersionISR Moment)} (same : versions.Perm others)
    (found : headOf versions = .ok head) : headOf others = .ok head := by
  rw [headOf_ok_iff] at found ⊢
  have filtered := same.filter fun version => version.status = .ratified
  rw [found] at filtered
  cases head with
  | none => exact List.nil_perm.mp filtered
  | some top => exact List.perm_singleton.mp filtered.symm

theorem keys_dumpVersion : keys (dumpVersion moments version) =
    ["version_id", "semver", "status", "policy_set_ref", "proposed_by", "proposed_at", "predecessor_ref",
      "ratification_workflow_ref", "lineage_ref", "effective_at"] := rfl

theorem distinct_dumpText (text : Option String) : Distinct (dumpText text) := by
  cases text <;> trivial

theorem distinct_dumpVersion : Distinct (.dict (dumpVersion moments version) : Json) := by
  rw [distinct_dict_iff]
  constructor
  · have unique : (keys (dumpVersion moments version)).Nodup := by
      rw [keys_dumpVersion]
      decide
    exact unique
  · simp only [dumpVersion, List.forall_mem_cons, distinct_dumpText, true_and]
    exact ⟨trivial, trivial, trivial, trivial, trivial, trivial, fun entry none => absurd none List.not_mem_nil⟩

theorem sortKeys_dumpText (text : Option String) : sortKeys (dumpText text) = dumpText text := by
  cases text <;> rfl

theorem readStatus_value (status : VersionStatus) : readStatus (.str status.value) = some status := by
  cases status <;> rfl

theorem readOptional_text (text : Option String) : readOptional readText (some (dumpText text)) = some text := by
  cases text <;> rfl

theorem readOptional_moment (moment : Option Moment) :
    readOptional moments.validate (some (dumpText (moment.map moments.dump))) = some moment := by
  cases moment with
  | none => rfl
  | some moment =>
      rw [Option.map_some, dumpText, readOptional, moments.readBack]
      · rfl
      · intro clash
        cases clash

/-- Every field of a version comes back from its JSON record, whatever the order of the keys. -/
theorem validateVersion_dump :
    validateVersion moments (sortKeys (.dict (dumpVersion moments version))) = some version := by
  have distinct : (keys (dumpVersion moments version)).Nodup := ((distinct_dict_iff _).mp distinct_dumpVersion).1
  rw [sortKeys, validateVersion]
  simp only [get_sorted _ distinct]
  simp [dumpVersion, OrderedMap.get, sortKeys_dumpText, readOptional_text, readOptional_moment, sortKeys, readText,
    readStatus_value, moments.readBack]

end

variable {versions : Versions Moment} {file : File} {version : ConstitutionVersionISR Moment}

/-- The entry of a version in the file, as it is read. -/
def entryOf (moments : MomentText Moment) (version : ConstitutionVersionISR Moment) : String × Json :=
  (version.versionId, sortKeys (.dict (dumpVersion moments version)))

/-- The file holds these versions and no others. -/
def Mirrors (moments : MomentText Moment) (numbers : NumberText JsonFloat) (file : File) (versions : Versions Moment) :
    Prop := read numbers file = (fileOrder versions).map (entryOf moments)

theorem read_write {data : Dict String Json} (distinct : Distinct (.dict data : Json)) :
    read numbers (write numbers data) = (sortEntries data).insertionSort keyOrder := by
  rw [read, write, Option.bind_some, JsonIndented.loads_fileText numbers _ distinct, sortKeys]

theorem keys_entries : keys (versions.map (entryOf moments)) = versionIds versions := by
  rw [keys, List.map_map]
  rfl

theorem get_entries (wanted : String) : OrderedMap.get (versions.map (entryOf moments)) wanted =
    (find ConstitutionVersionISR.versionId versions wanted).map fun version =>
      sortKeys (.dict (dumpVersion moments version)) := by
  induction versions with
  | nil => rfl
  | cons first rest ih =>
      rw [List.map_cons, entryOf, OrderedMap.get, ih]
      by_cases hit : first.versionId = wanted <;> simp [find, hit]

/-- Item assignment in the data of the file puts the version into the table. -/
theorem sortEntries_assign :
    sortEntries (assign (versions.map (entryOf moments)) version.versionId (.dict (dumpVersion moments version))) =
      (put ConstitutionVersionISR.versionId versions version).map (entryOf moments) := by
  have settled (versions : Versions Moment) :
      sortEntries (versions.map (entryOf moments)) = versions.map (entryOf moments) := by
    rw [sortEntries_eq_map, List.map_map]
    apply List.map_congr_left
    intro version _
    simp [entryOf, sortKeys_sortKeys]
  induction versions with
  | nil => simp [assign, put, sortEntries, entryOf]
  | cons first rest ih =>
      rw [List.map_cons, entryOf, assign, put]
      by_cases same : first.versionId = version.versionId
      · simp [same, sortEntries, entryOf, settled]
      · rw [if_neg same, if_neg same, sortEntries, ih, sortKeys_sortKeys]
        rfl

theorem distinct_assign (keyed : Keyed ConstitutionVersionISR.versionId versions) :
    Distinct (.dict (assign (versions.map (entryOf moments)) version.versionId (.dict (dumpVersion moments version))) :
      Json) := by
  rw [distinct_dict_iff]
  constructor
  · have names := keys_assign (versions.map (entryOf moments)) version.versionId (.dict (dumpVersion moments version))
    rw [keys_entries, versionIds, ← keys_put] at names
    have unique := @Keyed.put _ _ _ _ _ version keyed
    rw [Keyed, ← names] at unique
    exact unique
  · intro entry member
    rcases mem_assign member with old | new
    · obtain ⟨version, -, rfl⟩ := List.mem_map.mp old
      exact distinct_sortKeys _ distinct_dumpVersion
    · rw [new]
      exact distinct_dumpVersion

theorem Mirrors.write (mirrors : Mirrors moments numbers file versions)
    (keyed : Keyed ConstitutionVersionISR.versionId versions) :
    Mirrors moments numbers (write numbers
      (assign (read numbers file) version.versionId (.dict (dumpVersion moments version))))
      (put ConstitutionVersionISR.versionId versions version) := by
  have sorted := fileOrder_keyed keyed
  have later : fileOrder (put ConstitutionVersionISR.versionId (fileOrder versions) version) =
      fileOrder (put ConstitutionVersionISR.versionId versions version) :=
    fileOrder_congr sorted.put (put_perm sorted fileOrder_perm)
  rw [Mirrors, mirrors, read_write (distinct_assign sorted), sortEntries_assign, ← later, fileOrder]
  exact (List.map_insertionSort _ keyOrder _ _ fun _ _ _ _ => Iff.rfl).symm

theorem Mirrors.present_iff (mirrors : Mirrors moments numbers file versions) (wanted : String) :
    wanted ∈ keys (read numbers file) ↔ wanted ∈ versionIds versions := by
  rw [mirrors, keys_entries]
  exact (fileOrder_perm.map ConstitutionVersionISR.versionId).mem_iff

theorem Mirrors.all (mirrors : Mirrors moments numbers file versions) :
    (fileBacked moments numbers).all file = .ok (fileOrder versions) := by
  have each (versions : Versions Moment) :
      (versions.map (entryOf moments)).mapM (fun entry => modelValidate moments entry.2) = .ok versions := by
    induction versions with
    | nil => rfl
    | cons first rest ih =>
        rw [List.map_cons, List.mapM_cons, ih, entryOf, modelValidate, validateVersion_dump]
        rfl
  rw [fileBacked]
  dsimp only
  rw [mirrors, each]

theorem Mirrors.get (mirrors : Mirrors moments numbers file versions)
    (keyed : Keyed ConstitutionVersionISR.versionId versions) (wanted : String) :
    (fileBacked moments numbers).get file wanted = inMemory.get versions wanted := by
  rw [fileBacked, inMemory]
  dsimp only
  rw [mirrors, get_entries, find_perm keyed fileOrder_perm.symm]
  cases found : find ConstitutionVersionISR.versionId versions wanted with
  | none => rfl
  | some version =>
      have reads := @validateVersion_dump _ moments version
      rw [sortKeys] at reads
      rw [Option.map_some, sortKeys]
      dsimp only
      rw [modelValidate, reads]
      rfl

/-- Two repositories answer a write alike, and stay alike. -/
theorem Mirrors.replace (mirrors : Mirrors moments numbers file versions)
    (present : version.versionId ∈ versionIds versions) (keyed : Keyed ConstitutionVersionISR.versionId versions) :
    ∃ later, (fileBacked moments numbers).replace file version = .ok later ∧
      Mirrors moments numbers later (put ConstitutionVersionISR.versionId versions version) :=
  ⟨_, if_pos ((mirrors.present_iff _).mpr present), mirrors.write keyed⟩

theorem Mirrors.add (mirrors : Mirrors moments numbers file versions)
    (absent : version.versionId ∉ versionIds versions) (keyed : Keyed ConstitutionVersionISR.versionId versions) :
    ∃ later, (fileBacked moments numbers).add file version = .ok later ∧
      Mirrors moments numbers later (versions ++ [version]) := by
  have put := @Mirrors.write _ _ _ _ _ version mirrors keyed
  rw [put_absent absent] at put
  exact ⟨_, if_neg fun present => absent ((mirrors.present_iff _).mp present), put⟩

end AutonomousApi.ConstitutionVersions
