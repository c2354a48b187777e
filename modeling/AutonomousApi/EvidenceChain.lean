import AutonomousApi.TransactionEvidence

/-! What an evidence chain accepts, and what its tip binds. A record is valid when it carries a
verification and the digest of its own payload. -/

namespace AutonomousApi.EvidenceChain

open DataTree JsonCodec OrderedMap FailFast HashChain TransactionEvidence

section

variable {hashing : Hashing} {record : TransactionEvidenceRecord} {chain next : TransactionEvidenceChain}

theorem verifyDigest_ok_iff :
    verifyDigest hashing record = .ok true ↔
      record.verification.isSome ∧ record.digest = digestOf hashing record.json := by
  rw [verifyDigest, canonicalPayload]
  cases record.verification with
  | none => simp [bind, Except.bind]
  | some verification => simp [bind, Except.bind]

/-- The two places that write the payload agree, so a record that is made is valid when it
carries a verification. -/
theorem verifyDigest_sealed_iff (payload : Payload) :
    verifyDigest hashing (sealed hashing payload) = .ok true ↔ payload.verification.isSome := by
  rw [verifyDigest_ok_iff]
  exact and_iff_left rfl

theorem append_ok_iff :
    append hashing chain record = .ok next ↔
      record.digest ∉ chain.map TransactionEvidenceRecord.digest ∧ record.parentDigest = tipDigest chain ∧
        verifyDigest hashing record = .ok true ∧ next = chain ++ [record] := by
  have fresh : (!chain.any fun existing => existing.digest == record.digest) = true ↔
      record.digest ∉ chain.map TransactionEvidenceRecord.digest := by simp
  constructor
  · intro appended
    obtain ⟨⟨⟩, unique, rest⟩ := bind_ok appended
    obtain ⟨⟨⟩, parent, rest⟩ := bind_ok rest
    obtain ⟨valid, checked, rest⟩ := bind_ok rest
    obtain ⟨⟨⟩, accepted, rest⟩ := bind_ok rest
    rw [require_ok_iff] at unique parent accepted
    subst accepted
    exact ⟨fresh.mp unique, beq_iff_eq.mp parent, checked, (Except.ok.inj rest).symm⟩
  · rintro ⟨unique, parent, checked, rfl⟩
    rw [append, fresh.mpr unique, beq_iff_eq.mpr parent, checked]
    rfl

end

section

variable {hashing : Hashing} {chain records : List TransactionEvidenceRecord}

def digestKey (record : TransactionEvidenceRecord) : Option String := some record.digest

def parentKey (record : TransactionEvidenceRecord) : Option String := record.parentDigest

theorem tipDigest_eq (chain : TransactionEvidenceChain) : tipDigest chain = tip digestKey none chain := by
  rw [tip_eq_getLast, tipDigest]
  cases chain.getLast? <;> rfl

/-- Each record has its own digest, names the digest before it, and no digest repeats. -/
structure Sound (hashing : Hashing) (records : List TransactionEvidenceRecord) : Prop where
  valid : ∀ record ∈ records, verifyDigest hashing record = .ok true
  linked : Linked parentKey digestKey none records
  distinct : (records.map TransactionEvidenceRecord.digest).Nodup

theorem sound_nil : Sound hashing [] := ⟨by simp, trivial, List.nodup_nil⟩

theorem sound_concat_iff {record : TransactionEvidenceRecord} :
    Sound hashing (chain ++ [record]) ↔
      Sound hashing chain ∧ record.digest ∉ chain.map TransactionEvidenceRecord.digest ∧
        record.parentDigest = tipDigest chain ∧ verifyDigest hashing record = .ok true := by
  have linked : Linked parentKey digestKey none (chain ++ [record]) ↔
      Linked parentKey digestKey none chain ∧ record.parentDigest = tipDigest chain := by
    rw [linked_append, tipDigest_eq]
    exact and_congr_right fun _ => and_iff_left trivial
  have distinct : ((chain ++ [record]).map TransactionEvidenceRecord.digest).Nodup ↔
      (chain.map TransactionEvidenceRecord.digest).Nodup ∧
      record.digest ∉ chain.map TransactionEvidenceRecord.digest := by
    rw [List.map_append, List.map_singleton, List.nodup_append_comm, List.singleton_append, List.nodup_cons, and_comm]
  constructor
  · rintro ⟨valid, chained, unique⟩
    obtain ⟨before, parent⟩ := linked.mp chained
    obtain ⟨others, fresh⟩ := distinct.mp unique
    exact ⟨⟨fun other member => valid other (List.mem_append_left _ member), before, others⟩, fresh, parent,
      valid record (by simp)⟩
  · rintro ⟨sound, fresh, parent, valid⟩
    refine ⟨fun other member => ?_, linked.mpr ⟨sound.linked, parent⟩, distinct.mpr ⟨sound.distinct, fresh⟩⟩
    rcases List.mem_append.mp member with earlier | last
    · exact sound.valid other earlier
    · exact List.mem_singleton.mp last ▸ valid

theorem Sound.restrict (sound : Sound hashing (chain ++ records)) : Sound hashing chain :=
  ⟨fun record member => sound.valid record (List.mem_append_left records member),
    sound.linked.restrict (List.prefix_append chain records),
    sound.distinct.sublist ((List.sublist_append_left chain records).map _)⟩

theorem verifyFrom_iff (expected : Option String) (seen : List String) (records : List TransactionEvidenceRecord) :
    verifyFrom hashing expected seen records = .ok true ↔
      (∀ record ∈ records, verifyDigest hashing record = .ok true ∧ record.digest ∉ seen) ∧
        Linked parentKey digestKey expected records ∧ (records.map TransactionEvidenceRecord.digest).Nodup := by
  induction records generalizing expected seen with
  | nil => simp [verifyFrom, Linked]
  | cons record rest ih =>
      rw [verifyFrom, Linked, List.map_cons, List.nodup_cons, List.forall_mem_cons]
      by_cases repeated : record.digest ∈ seen
      · simp [repeated]
      · by_cases parent : record.parentDigest = expected
        · cases checked : verifyDigest hashing record with
          | error fault => simp [repeated, parent, bind, Except.bind]
          | ok valid =>
              cases valid with
              | false => simp [repeated, parent, bind, Except.bind]
              | true =>
                  have rest_iff := ih (some record.digest) (record.digest :: seen)
                  simp only [List.contains_eq_mem, repeated, decide_false, Bool.false_eq_true, ↓reduceIte, parent,
                      ne_eq,
                    not_true_eq_false, bind, Except.bind, rest_iff, List.mem_cons, not_or, parentKey, digestKey]
                  constructor
                  · rintro ⟨each, linked, distinct⟩
                    refine ⟨⟨⟨trivial, not_false⟩, fun other member =>
                        ⟨(each other member).1, (each other member).2.2⟩⟩,
                      ⟨trivial, linked⟩, fun inside => ?_, distinct⟩
                    obtain ⟨other, member, same⟩ := List.mem_map.mp inside
                    exact (each other member).2.1 same
                  · rintro ⟨⟨-, each⟩, ⟨-, linked⟩, fresh, distinct⟩
                    refine ⟨fun other member => ⟨(each other member).1, fun same => ?_, (each other member).2⟩,
                        linked, distinct⟩
                    exact fresh (same ▸ List.mem_map_of_mem member)
        · simp [repeated, parent, parentKey]

theorem verify_iff : verify hashing records = .ok true ↔ Sound hashing records := by
  rw [verify, genesisParentDigest, verifyFrom_iff]
  simp only [List.not_mem_nil, not_false_eq_true, and_true]
  constructor
  · rintro ⟨valid, linked, distinct⟩
    exact ⟨valid, linked, distinct⟩
  · intro sound
    exact ⟨sound.valid, sound.linked, sound.distinct⟩

/-- Building appends record after record to a sound chain. -/
theorem foldChecked_append_iff (sound : Sound hashing chain) (records : List TransactionEvidenceRecord)
    {built : TransactionEvidenceChain} :
    foldChecked (append hashing) chain records = .ok built ↔ Sound hashing (chain ++ records) ∧
      built = chain ++ records := by
  induction records generalizing chain with
  | nil => simp [foldChecked, sound, eq_comm]
  | cons record rest ih =>
      rw [foldChecked, show chain ++ record :: rest = (chain ++ [record]) ++ rest by simp]
      cases appended : append hashing chain record with
      | error fault =>
          refine ⟨fun impossible => (by cases impossible), ?_⟩
          rintro ⟨both, -⟩
          obtain ⟨-, fresh, parent, valid⟩ := sound_concat_iff.mp both.restrict
          rw [append_ok_iff.mpr ⟨fresh, parent, valid, rfl⟩] at appended
          cases appended
      | ok next =>
          obtain ⟨fresh, parent, valid, rfl⟩ := append_ok_iff.mp appended
          exact ih (sound_concat_iff.mpr ⟨sound, fresh, parent, valid⟩)

theorem buildChain_iff : (∃ built, buildChain hashing records = .ok built) ↔ Sound hashing records := by
  simp only [buildChain, foldChecked_append_iff sound_nil, List.nil_append]
  simp

variable {left right : TransactionEvidenceRecord}

/-- An injective hash fixes the payload of a valid record, up to the order of its keys. -/
theorem payload_of_digest (injective : Function.Injective hashing.sha256)
    (validLeft : verifyDigest hashing left = .ok true) (validRight : verifyDigest hashing right = .ok true)
    (same : left.digest = right.digest) : sortKeys left.json = sortKeys right.json := by
  rw [(verifyDigest_ok_iff.mp validLeft).2, (verifyDigest_ok_iff.mp validRight).2] at same
  exact dumps_injective hashing.numbers .compact left.distinct right.distinct (injective same)

theorem parent_of_payload (same : sortKeys left.json = sortKeys right.json) :
    left.parentDigest = right.parentDigest := by
  have fields (record : TransactionEvidenceRecord) :
      get ((sortEntries record.entries).insertionSort keyOrder) "parent_digest" =
        some (sortKeys (optionalText record.parentDigest)) := by
    rw [get_sorted _ ((distinct_dict_iff _).mp record.distinct).1]
    rfl
  rw [Payload.json, Payload.json, sortKeys, sortKeys] at same
  have texts := (fields left).symm.trans ((congrArg (get · "parent_digest") (Tree.dict.inj same)).trans (fields right))
  cases parentLeft : left.parentDigest <;> cases parentRight : right.parentDigest <;>
    simp_all [optionalText, sortKeys]

/-- The canonical payloads are equal as Python dictionaries. -/
def SamePayload (left right : TransactionEvidenceRecord) : Prop :=
  ∃ leftPayload rightPayload, canonicalPayload left = .ok leftPayload ∧ canonicalPayload right = .ok rightPayload ∧
    sortKeys leftPayload = sortKeys rightPayload

theorem canonicalPayload_ok {record : TransactionEvidenceRecord} (valid : verifyDigest hashing record = .ok true) :
    canonicalPayload record = .ok record.json := by
  obtain ⟨verification, held⟩ := Option.isSome_iff_exists.mp (verifyDigest_ok_iff.mp valid).1
  rw [canonicalPayload, held]

theorem sound_binding (injective : Function.Injective hashing.sha256) {left right : TransactionEvidenceChain}
    (soundLeft : Sound hashing left) (soundRight : Sound hashing right) (sameTip : tipDigest left = tipDigest right) :
    List.Forall₂ SamePayload left right := by
  rw [tipDigest_eq, tipDigest_eq] at sameTip
  refine soundLeft.linked.tip_binding soundRight.linked ?_ ?_ sameTip
  · intro a inLeft b inRight same
    have payloads := payload_of_digest injective (soundLeft.valid a inLeft) (soundRight.valid b inRight)
        (Option.some.inj same)
    exact ⟨⟨_, _, canonicalPayload_ok (soundLeft.valid a inLeft), canonicalPayload_ok (soundRight.valid b inRight),
        payloads⟩, parent_of_payload payloads⟩
  · intro record _ impossible
    cases impossible

end

variable (hashing : Hashing)

/-- What records are made from. -/
inductive Evidence where
  | committed (transaction : Transaction)
  | aborted (record : AbortEvidenceRecord)

def Evidence.record (evidence : Evidence) (parentDigest : Option String) : TransactionEvidenceRecord :=
  match evidence with
  | .committed transaction => materializeTransactionEvidence hashing transaction parentDigest
  | .aborted record => fromAbortRecord hashing record parentDigest

def Evidence.verified : Evidence → Bool
  | .committed transaction => transaction.verification.isSome
  | .aborted _ => true

/-- Makes the next record under the tip of the chain and appends it. -/
def extend (chain : TransactionEvidenceChain) (evidence : Evidence) :
    Except TransactionChainError TransactionEvidenceChain :=
  append hashing chain (evidence.record hashing (tipDigest chain))

def extendAll (history : List Evidence) : Except TransactionChainError TransactionEvidenceChain :=
  foldChecked (extend hashing) [] history

/-- Every step of a history is accepted, and the chain verifies behind it. -/
def Accepted (history : List Evidence) : Prop :=
  ∀ before evidence later, history = before ++ evidence :: later →
    ∃ chain next, extendAll hashing before = .ok chain ∧ extend hashing chain evidence = .ok next ∧
      verify hashing next = .ok true

variable {hashing}

theorem record_parent (evidence : Evidence) (parentDigest : Option String) :
    (evidence.record hashing parentDigest).parentDigest = parentDigest := by
  cases evidence <;> rfl

theorem record_valid_iff (evidence : Evidence) (parentDigest : Option String) :
    verifyDigest hashing (evidence.record hashing parentDigest) = .ok true ↔ evidence.verified = true := by
  cases evidence with
  | committed transaction =>
      rw [Evidence.record, materializeTransactionEvidence, verifyDigest_sealed_iff, Option.isSome_map]
      rfl
  | aborted record =>
      rw [Evidence.record, fromAbortRecord, verifyDigest_sealed_iff]
      exact iff_of_true rfl rfl

variable {chain : TransactionEvidenceChain}

/-- A valid record under the tip of a sound chain is new to it. -/
theorem fresh_under_tip (injective : Function.Injective hashing.sha256)
    (sound : Sound hashing chain) {record : TransactionEvidenceRecord} (valid : verifyDigest hashing record = .ok true)
    (parent : record.parentDigest = tipDigest chain) : record.digest ∉ chain.map TransactionEvidenceRecord.digest := by
  intro inside
  obtain ⟨existing, member, same⟩ := List.mem_map.mp inside
  have payloads := payload_of_digest injective (sound.valid existing member) valid same
  have distinct : (none :: chain.map digestKey).Nodup := by
    rw [List.nodup_cons]
    refine ⟨by simp [digestKey], ?_⟩
    have keyed := sound.distinct.map (Option.some_injective String)
    rwa [List.map_map] at keyed
  refine sound.linked.previous_ne_tip distinct existing member ?_
  rw [← tipDigest_eq, ← parent]
  exact parent_of_payload payloads

theorem extend_ok_iff (injective : Function.Injective hashing.sha256)
    (sound : Sound hashing chain) (evidence : Evidence) :
    (∃ next, extend hashing chain evidence = .ok next) ↔ evidence.verified = true := by
  constructor
  · rintro ⟨next, extended⟩
    exact (record_valid_iff evidence _).mp (append_ok_iff.mp extended).2.2.1
  · intro verified
    have valid : verifyDigest hashing (evidence.record hashing (tipDigest chain)) = .ok true :=
      (record_valid_iff evidence (tipDigest chain)).mpr verified
    have parent : (evidence.record hashing (tipDigest chain)).parentDigest = tipDigest chain := record_parent evidence _
    exact ⟨_, append_ok_iff.mpr ⟨fresh_under_tip injective sound valid parent, parent, valid, rfl⟩⟩

theorem extend_sound {next : TransactionEvidenceChain} {evidence : Evidence} (sound : Sound hashing chain)
    (extended : extend hashing chain evidence = .ok next) : Sound hashing next := by
  obtain ⟨fresh, parent, valid, rfl⟩ := append_ok_iff.mp extended
  exact sound_concat_iff.mpr ⟨sound, fresh, parent, valid⟩

/-- A history of verified evidence builds a sound chain. -/
theorem foldChecked_extend (injective : Function.Injective hashing.sha256)
    (sound : Sound hashing chain) (history : List Evidence) (verified : ∀ evidence ∈ history,
      evidence.verified = true) :
    ∃ built, foldChecked (extend hashing) chain history = .ok built ∧ Sound hashing built := by
  induction history generalizing chain with
  | nil => exact ⟨chain, rfl, sound⟩
  | cons evidence rest ih =>
      obtain ⟨next, extended⟩ := (extend_ok_iff injective sound evidence).mpr (verified evidence List.mem_cons_self)
      rw [foldChecked, extended]
      exact ih (extend_sound sound extended) fun later member => verified later (List.mem_cons_of_mem evidence member)

theorem accepted_iff (injective : Function.Injective hashing.sha256) (history : List Evidence) :
    Accepted hashing history ↔ ∀ evidence ∈ history, evidence.verified = true := by
  constructor
  · intro accepted evidence member
    obtain ⟨before, later, split⟩ := List.append_of_mem member
    obtain ⟨chain, next, -, extended, -⟩ := accepted before evidence later split
    exact (record_valid_iff evidence _).mp (append_ok_iff.mp extended).2.2.1
  · intro verified before evidence later split
    obtain ⟨chain, built, sound⟩ := foldChecked_extend injective sound_nil before fun earlier member =>
      verified earlier (by simp [split, member])
    obtain ⟨next, extended⟩ := (extend_ok_iff injective sound evidence).mpr (verified evidence (by simp [split]))
    exact ⟨chain, next, built, extended, verify_iff.mpr (extend_sound sound extended)⟩

/-- A history is accepted step by step exactly when all its transactions were verified; a record
list builds a chain exactly when it is sound; and the tip of a verified chain binds its length
and its payloads. -/
theorem evidence_chain (injective : Function.Injective hashing.sha256) :
    (∀ history, Accepted hashing history ↔ ∀ evidence ∈ history, evidence.verified = true) ∧
      (∀ records, (∃ built, buildChain hashing records = .ok built) ↔ Sound hashing records) ∧
      ∀ left right, verify hashing left = .ok true → verify hashing right = .ok true →
      tipDigest left = tipDigest right →
        left.length = right.length ∧ List.Forall₂ SamePayload left right := by
  refine ⟨accepted_iff injective, fun records => buildChain_iff, fun left right verifiedLeft verifiedRight sameTip =>
      ?_⟩
  have related := sound_binding injective (verify_iff.mp verifiedLeft) (verify_iff.mp verifiedRight) sameTip
  exact ⟨related.length_eq, related⟩

/-- A hash for examples: the text itself. -/
def transparent : Hashing := ⟨JsonText.exactDecimals, id⟩

/-- A transaction that is materialized without a verification, as the defaults allow. -/
def unverified : Transaction where
  transactionId := "tx-1"
  sourceEventId := "event-0"
  sourceArchitectureId := "arch-0"
  successor := { eventId := "event-1", changes := [], architectureId := "arch-1", evidence := [], passed := true }
  repairs := []
  dependencies := []
  closureResiduals := []
  measurements := []
  score := { architectureId := "arch-1", values := [], evidence := [], distinct := List.nodup_nil }

theorem unverified_refused :
    extend transparent [] (.committed unverified) = .error .typeError ∧
      ¬ Accepted transparent [.committed unverified] := by
  refine ⟨rfl, fun accepted => ?_⟩
  obtain ⟨chain, next, started, extended, -⟩ := accepted [] (.committed unverified) [] rfl
  obtain rfl : [] = chain := Except.ok.inj started
  cases extended

def stopped : AbortEvidenceRecord where
  transactionId := "tx-2"
  sourceArchitectureId := "arch-0"
  candidateArchitectureId := "arch-1"
  reason := "safe boundary"
  attemptedMutations := ["m1"]
  verificationEvidence := ["ev1"]
  residuals := []

theorem stopped_accepted : Accepted transparent [.aborted stopped, .aborted stopped] :=
  ((evidence_chain Function.injective_id).1 [.aborted stopped, .aborted stopped]).mpr (by simp [Evidence.verified])

end AutonomousApi.EvidenceChain
