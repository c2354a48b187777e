import AutonomousApi.GovernanceStore
import AutonomousApi.NumberedLog

/-! The audit rows of a candidate are the signed rows of the events that its committed
appends carried, in commit order, whatever appends were in flight meanwhile: a tail that is
no longer the last one has a number that is taken, so the append that has read it aborts. -/

namespace AutonomousApi.GovernanceStoreLaws

open DataTree JsonValue JsonCodec HashChain NumberedLog GovernanceStore

section

variable (signer : Signer) (candidateId : String)

attribute [local simp] signedRows

theorem verify_signed (sequence : Int) (eventType payload previousHash : String) :
    let signed := signer.sign candidateId sequence eventType payload previousHash
    signer.verify ⟨candidateId, sequence, eventType, payload, previousHash, signed.1, signed.2⟩ = .ok () := by
  simp [Signer.verify]

variable (sequence : Int)

theorem verifyFrom_signedRows (previousHash : String) (entries : List Entry) :
    verifyFrom signer previousHash sequence (signedRows signer candidateId sequence previousHash entries) = .ok () := by
  induction entries generalizing sequence previousHash with
  | nil => rfl
  | cons entry rest ih =>
      obtain ⟨eventType, payload⟩ := entry
      simp only [signedRows, verifyFrom, ne_eq, not_true_eq_false, if_false, verify_signed, ih]

@[simp] theorem signedRows_length (sequence : Int) (previousHash : String) (entries : List Entry) :
    (signedRows signer candidateId sequence previousHash entries).length = entries.length := by
  induction entries generalizing sequence previousHash with
  | nil => rfl
  | cons entry rest ih => simp [ih]

theorem signedRows_numbered (previousHash : String) (entries : List Entry) :
    Numbered AuditRecord.sequence sequence (signedRows signer candidateId sequence previousHash entries) := by
  induction entries generalizing sequence previousHash with
  | nil => trivial
  | cons entry rest ih => exact ⟨rfl, ih _ _⟩

theorem signedRows_candidate (previousHash : String) (entries : List Entry) :
    ∀ row ∈ signedRows signer candidateId sequence previousHash entries, row.candidateId = candidateId := by
  induction entries generalizing sequence previousHash with
  | nil => simp
  | cons entry rest ih =>
      intro row member
      rcases List.mem_cons.mp member with rfl | later
      · rfl
      · exact ih _ _ row later

theorem signedRows_entries (previousHash : String) (entries : List Entry) :
    (signedRows signer candidateId sequence previousHash entries).map (fun row => (row.eventType, row.payload)) =
      entries := by
  induction entries generalizing sequence previousHash with
  | nil => rfl
  | cons entry rest ih => simp [ih]

theorem signedRows_append (previousHash : String) (earlier later : List Entry) :
    signedRows signer candidateId sequence previousHash (earlier ++ later) =
      signedRows signer candidateId sequence previousHash earlier ++
        signedRows signer candidateId (sequence + earlier.length)
          (tip AuditRecord.recordHash previousHash (signedRows signer candidateId sequence previousHash earlier))
          later := by
  induction earlier generalizing sequence previousHash with
  | nil => simp [tip]
  | cons entry rest ih =>
      simp only [List.cons_append, signedRows, ih, tip, List.length_cons]
      rw [show sequence + 1 + (rest.length : Int) = sequence + ((rest.length + 1 : Nat) : Int) by omega]

/-- The rows of a candidate whose appends have carried these entries. -/
def chainOf (entries : List Entry) : List AuditRecord := signedRows signer candidateId 1 "" entries

def tailOf (rows : List AuditRecord) : Option (Int × String) :=
  rows.getLast?.map fun record => (record.sequence, record.recordHash)

/-- An append that has read the last row of a chain continues it. -/
theorem rowsAfter_tail (earlier entries : List Entry) :
    rowsAfter signer candidateId (tailOf (chainOf signer candidateId earlier)) entries =
      signedRows signer candidateId (1 + earlier.length)
        (tip AuditRecord.recordHash "" (chainOf signer candidateId earlier)) entries := by
  have numbered := signedRows_numbered signer candidateId 1 "" earlier
  rw [tip_eq_getLast, tailOf]
  cases last : (chainOf signer candidateId earlier).getLast? with
  | none =>
      have empty : earlier.length = 0 := by
        rw [← signedRows_length signer candidateId 1 "" earlier]
        exact List.length_eq_zero_iff.mpr (List.getLast?_eq_none_iff.mp last)
      simp [rowsAfter, empty]
  | some record =>
      obtain ⟨before, split⟩ := List.getLast?_eq_some_iff.mp last
      rw [chainOf] at split
      rw [split, numbered_append] at numbered
      have size := congrArg List.length split
      rw [signedRows_length, List.length_append, List.length_singleton] at size
      have number := numbered.2.1
      simp only [Option.map_some, Option.getD_some, rowsAfter]
      rw [show record.sequence + 1 = 1 + (earlier.length : Int) by omega]

theorem chainOf_append (earlier later : List Entry) :
    chainOf signer candidateId (earlier ++ later) = chainOf signer candidateId earlier ++
      rowsAfter signer candidateId (tailOf (chainOf signer candidateId earlier)) later := by
  rw [rowsAfter_tail]
  exact signedRows_append signer candidateId 1 "" earlier later

end

section

variable {signer : Signer} {candidateId : String} {database : Database} {entries : List Entry}

/-- The tables hold, for this candidate, the rows of these entries and no others. -/
structure Holds (signer : Signer) (database : Database) (candidateId : String) (entries : List Entry) : Prop where
  audit : database.audit.filter (fun record => record.candidateId == candidateId) = chainOf signer candidateId entries
  events : database.events.filter (fun row => row.candidateId == candidateId) = eventRows candidateId entries

theorem Numbered.pairwise {first : Int} {rows : List AuditRecord}
    (numbered : Numbered AuditRecord.sequence first rows) :
    rows.Pairwise bySequence := by
  induction rows generalizing first with
  | nil => exact .nil
  | cons record rest ih =>
      refine List.pairwise_cons.mpr ⟨fun other member => ?_, ih numbered.2⟩
      have bound := (numbered.2.bounds other member).1
      have head := numbered.1
      change record.sequence ≤ other.sequence
      omega

theorem Holds.records (holds : Holds signer database candidateId entries) :
    database.records candidateId = chainOf signer candidateId entries := by
  rw [Database.records, holds.audit]
  exact (Numbered.pairwise (signedRows_numbered signer candidateId 1 "" entries)).insertionSort_eq

theorem Holds.tail (holds : Holds signer database candidateId entries) :
    database.tail candidateId = tailOf (chainOf signer candidateId entries) := by
  rw [Database.tail, holds.records, tailOf]

theorem Holds.eventCount (holds : Holds signer database candidateId entries) :
    database.eventCount candidateId = entries.length := by
  rw [Database.eventCount, holds.events, eventRows, List.length_map]

/-- The audit of a candidate succeeds. -/
theorem Holds.audited (holds : Holds signer database candidateId entries) :
    GovernanceStore.audit signer database candidateId = .ok (chainOf signer candidateId entries) := by
  have verified : verifyChain signer (chainOf signer candidateId entries) = .ok () :=
    verifyFrom_signedRows signer candidateId 1 "" entries
  have size : (chainOf signer candidateId entries).length = entries.length :=
      signedRows_length signer candidateId 1 "" entries
  simp only [GovernanceStore.audit, Database.checked, holds.records, holds.eventCount, size, ne_eq, not_true_eq_false,
    if_false, verified]

/-- A row that the table holds under a candidate's chain has a number of that chain, and the
other way round. -/
theorem Holds.taken_iff (holds : Holds signer database candidateId entries) (sequence : Int) :
    (database.audit.any fun held => held.candidateId == candidateId && held.sequence == sequence) = true ↔
      1 ≤ sequence ∧ sequence ≤ entries.length := by
  have numbered := signedRows_numbered signer candidateId 1 "" entries
  have inside : ∀ record, record ∈ chainOf signer candidateId entries ↔
      record ∈ database.audit ∧ record.candidateId = candidateId := by
    intro record
    rw [← holds.audit, List.mem_filter, beq_iff_eq]
  constructor
  · intro taken
    obtain ⟨record, member, same⟩ := List.any_eq_true.mp taken
    rw [Bool.and_eq_true, beq_iff_eq, beq_iff_eq] at same
    have bounds := numbered.bounds record ((inside record).mpr ⟨member, same.1⟩)
    rw [signedRows_length] at bounds
    omega
  · rintro ⟨low, high⟩
    have position : (sequence - 1).toNat < (signedRows signer candidateId 1 "" entries).length := by
      rw [signedRows_length]
      omega
    have member := List.getElem_mem position
    have shifted := numbered.drop (sequence - 1).toNat (by omega)
    rw [List.drop_eq_getElem_cons position] at shifted
    have number := shifted.head
    obtain ⟨held, named⟩ := (inside _).mp member
    refine List.any_eq_true.mpr ⟨_, held, ?_⟩
    rw [Bool.and_eq_true, beq_iff_eq, beq_iff_eq]
    exact ⟨named, by omega⟩

variable {earlier added : List Entry}

/-- Whether an append commits is whether its tail is still the last row. -/
theorem Holds.conflicts_iff (holds : Holds signer database candidateId entries) (read : earlier <+: entries)
    (present : added ≠ []) :
    database.conflicts (rowsAfter signer candidateId (tailOf (chainOf signer candidateId earlier)) added) = true ↔
      earlier ≠ entries := by
  have shorter := read.length_le
  have same_iff : earlier = entries ↔ earlier.length = entries.length :=
    ⟨fun same => by rw [same], fun same => read.eq_of_length same⟩
  rw [rowsAfter_tail, Database.conflicts, List.any_eq_true]
  have named := signedRows_candidate signer candidateId (1 + earlier.length)
    (tip AuditRecord.recordHash "" (chainOf signer candidateId earlier)) added
  have numbered := signedRows_numbered signer candidateId (1 + earlier.length)
    (tip AuditRecord.recordHash "" (chainOf signer candidateId earlier)) added
  constructor
  · rintro ⟨row, member, taken⟩ same
    rw [named row member, holds.taken_iff] at taken
    have bounds := numbered.bounds row member
    rw [same] at bounds
    omega
  · intro stale
    obtain ⟨entry, rest, rfl⟩ := List.exists_cons_of_ne_nil present
    refine ⟨_, List.mem_cons_self, ?_⟩
    rw [ne_eq, same_iff] at stale
    exact (holds.taken_iff (1 + earlier.length)).mpr ⟨by omega, by omega⟩

theorem filter_own {Row : Type} (name : Row → String) (rows : List Row) (owner : String)
    (named : ∀ row ∈ rows, name row = owner) (wanted : String) :
    rows.filter (fun row => name row == wanted) = if owner = wanted then rows else [] := by
  split
  · next same => exact List.filter_eq_self.mpr fun row member => by simp [named row member, same]
  · next other => exact List.filter_eq_nil_iff.mpr fun row member => by simp [named row member, other]

/-- What a committed append leaves in the tables for any candidate. -/
theorem Holds.inserted {other : String} {more : List Entry} {next : Database}
    (holdsOwn : Holds signer database candidateId entries) (holds : Holds signer database other more)
    (success : database.insert signer candidateId (tailOf (chainOf signer candidateId entries)) added = some next) :
    Holds signer next other (more ++ if candidateId = other then added else []) := by
  rw [Database.insert] at success
  split at success
  · cases success
  cases success
  have ownRows := filter_own AuditRecord.candidateId
    (rowsAfter signer candidateId (tailOf (chainOf signer candidateId entries)) added) candidateId
    (by
      rw [rowsAfter_tail]
      exact signedRows_candidate signer candidateId _ _ added) other
  have ownEvents := filter_own EventRow.candidateId (eventRows candidateId added) candidateId
    (by
      intro row member
      obtain ⟨entry, -, rfl⟩ := List.mem_map.mp member
      rfl) other
  by_cases same : candidateId = other
  · subst same
    rw [if_pos rfl] at ownRows ownEvents ⊢
    have agree : chainOf signer candidateId entries = chainOf signer candidateId more :=
      holdsOwn.audit.symm.trans holds.audit
    constructor
    · rw [List.filter_append, holds.audit, ownRows, agree, chainOf_append]
    · rw [List.filter_append, holds.events, ownEvents, eventRows, eventRows, eventRows, List.map_append]
  · rw [if_neg same] at ownRows ownEvents ⊢
    constructor
    · rw [List.filter_append, holds.audit, ownRows, List.append_nil, List.append_nil]
    · rw [List.filter_append, holds.events, ownEvents, List.append_nil, List.append_nil]

/-- An append that nothing comes between reads the last row and commits. -/
theorem Holds.append (holds : Holds signer database candidateId entries) (present : added ≠ []) :
    ∃ next, database.insert signer candidateId (database.tail candidateId) added = some next ∧
      ∀ other more, Holds signer database other more →
        Holds signer next other (more ++ if candidateId = other then added else []) := by
  have conflict := holds.conflicts_iff List.prefix_rfl present
  have free : ¬ database.conflicts
      (rowsAfter signer candidateId (tailOf (chainOf signer candidateId entries)) added) = true :=
    fun taken => conflict.mp taken rfl
  rw [holds.tail]
  have inserted : database.insert signer candidateId (tailOf (chainOf signer candidateId entries)) added = some _ :=
    if_neg free
  exact ⟨_, inserted, fun _ _ held => holds.inserted held inserted⟩

end

section

variable {Event : Type} {codec : EventCodec Event} {signer : Signer}

theorem loadEvent_dumpEvent (faithful : Faithful codec) (event : Event) :
    loadEvent codec signer.platform (dumpEvent codec signer.platform event) = .ok event := by
  have distinct : Distinct (.obj [("type", .str (codec.name event)), ("payload", codec.dump event)] : Json) := by
    rw [distinct_dict_iff]
    exact ⟨by simp, by simp [faithful.distinct event, Distinct]⟩
  obtain ⟨record, read, field⟩ := loads_record signer.platform.numbers .compact _ distinct
  rw [dumpEvent, loadEvent, read]
  simp [field, OrderedMap.get, sortKeys, faithful.known event, faithful.roundTrip event]

theorem loadAll_chain (faithful : Faithful codec) (rows : List AuditRecord) (events : List Event)
    (carried : rows.map (fun row => (row.eventType, row.payload)) = events.map (entryOf codec signer)) :
    loadAll codec signer rows = .ok events := by
  induction rows generalizing events with
  | nil =>
      obtain rfl : events = [] := by simpa using carried.symm
      rfl
  | cons row rest ih =>
      cases events with
      | nil => simp at carried
      | cons event later =>
          rw [List.map_cons, List.map_cons] at carried
          obtain ⟨head, tail⟩ := List.cons.inj carried
          have payload : row.payload = dumpEvent codec signer.platform event := (Prod.mk.inj head).2
          rw [loadAll, payload, loadEvent_dumpEvent faithful, ih later tail]
          rfl

theorem Holds.loaded {database : Database} {candidateId : String} {events : List Event} (faithful : Faithful codec)
    (holds : Holds signer database candidateId (events.map (entryOf codec signer))) :
    load codec signer database candidateId = .ok events := by
  rw [load, holds.audited]
  exact loadAll_chain faithful _ events (signedRows_entries signer candidateId 1 "" _)

theorem committedTo_append (committed : List (String × List Event)) (candidateId other : String) (events : List Event) :
    committedTo (committed ++ [(candidateId, events)]) other =
      committedTo committed other ++ if candidateId = other then events else [] := by
  simp [committedTo]

/-- The entries of the committed appends to a candidate. -/
def entriesTo (codec : EventCodec Event) (signer : Signer) (store : Store Event) (candidateId : String) : List Entry :=
  (committedTo store.committed candidateId).map (entryOf codec signer)

/-- The tail that a transaction has read was the last row of its candidate at some time. -/
def ReadTail (codec : EventCodec Event) (signer : Signer) (store : Store Event) (transaction : Transaction Event) :
    Prop :=
  transaction.events ≠ [] ∧ ∃ earlier, earlier <+: entriesTo codec signer store transaction.candidateId ∧
    transaction.tail = tailOf (chainOf signer transaction.candidateId earlier)

structure Sound (codec : EventCodec Event) (signer : Signer) (store : Store Event) : Prop where
  holds : ∀ candidateId, Holds signer store.database candidateId (entriesTo codec signer store candidateId)
  read : ∀ transaction ∈ store.transactions, ReadTail codec signer store transaction

theorem sound_start : Sound codec signer ({} : Store Event) := ⟨fun _ => ⟨rfl, rfl⟩, by simp⟩

variable {store : Store Event}

variable {transaction : Transaction Event} {next : Store Event}

/-- A commit inserts its rows after all that its candidate has, or nothing at all. -/
theorem Sound.commit_cases (sound : Sound codec signer store) (member : transaction ∈ store.transactions) :
    (∃ next, store.database.insert signer transaction.candidateId transaction.tail
        (transaction.events.map (entryOf codec signer)) = some next ∧
      transaction.tail = tailOf (chainOf signer transaction.candidateId
        (entriesTo codec signer store transaction.candidateId))) ∨
    store.database.insert signer transaction.candidateId transaction.tail
      (transaction.events.map (entryOf codec signer)) = none := by
  obtain ⟨present, earlier, before, tail⟩ := sound.read transaction member
  have added : transaction.events.map (entryOf codec signer) ≠ [] := by simpa using present
  have conflict := (sound.holds transaction.candidateId).conflicts_iff before added
  rw [← tail] at conflict
  by_cases same : earlier = entriesTo codec signer store transaction.candidateId
  · left
    have free : store.database.conflicts (rowsAfter signer transaction.candidateId transaction.tail
        (transaction.events.map (entryOf codec signer))) = false :=
      Bool.eq_false_iff.mpr fun taken => conflict.mp taken same
    exact ⟨_, if_neg (Bool.eq_false_iff.mp free), by rw [tail, same]⟩
  · right
    simp [Database.insert, conflict.mpr same]

theorem ReadTail.grown
    (grows : ∀ candidateId, entriesTo codec signer store candidateId <+: entriesTo codec signer next candidateId)
    (read : ReadTail codec signer store transaction) : ReadTail codec signer next transaction :=
  ⟨read.1, read.2.imp fun _ found => ⟨found.1.trans (grows _), found.2⟩⟩

theorem Sound.step {action : GovernanceStore.Action Event}
    (sound : Sound codec signer store) (taken : GovernanceStore.step codec signer store action = some next) :
    Sound codec signer next := by
  cases action with
  | read candidateId events =>
      cases events with
      | nil =>
          cases taken
          exact sound
      | cons event rest =>
          cases taken
          refine ⟨sound.holds, ?_⟩
          intro transaction member
          rcases List.mem_append.mp member with old | new
          · exact sound.read transaction old
          · obtain rfl := List.mem_singleton.mp new
            exact ⟨by simp, entriesTo codec signer store candidateId, List.prefix_rfl,
              (sound.holds candidateId).tail⟩
  | commit index =>
      rw [GovernanceStore.step] at taken
      split at taken
      · cases taken
      next transaction found =>
      have member := List.mem_of_getElem? found
      rcases sound.commit_cases member with ⟨database, inserted, tail⟩ | aborted
      · rw [inserted] at taken
        cases taken
        have grown : ∀ candidateId, entriesTo codec signer
            { database, transactions := store.transactions.eraseIdx index,
              committed := store.committed ++ [(transaction.candidateId, transaction.events)] } candidateId =
            entriesTo codec signer store candidateId ++
              if transaction.candidateId = candidateId then transaction.events.map (entryOf codec signer) else [] := by
          intro candidateId
          rw [entriesTo, committedTo_append, List.map_append, ← entriesTo]
          congr 1
          split <;> rfl
        constructor
        · intro candidateId
          rw [grown]
          rw [tail] at inserted
          exact (sound.holds transaction.candidateId).inserted (sound.holds candidateId) inserted
        · intro other inside
          refine (sound.read other (List.mem_of_mem_eraseIdx inside)).grown ?_
          intro candidateId
          rw [grown]
          exact List.prefix_append _ _
      · rw [aborted] at taken
        cases taken
        exact ⟨sound.holds, fun other inside => sound.read other (List.mem_of_mem_eraseIdx inside)⟩

theorem sound_of_reaches (reached : Runs.Reaches (GovernanceStore.step codec signer) (fun _ _ => True) {} store) :
    Sound codec signer store :=
  reached.invariant sound_start fun sound _ taken => sound.step taken

/-- What an accepted record list is: numbered from its start, linked by the hashes, and
every record as the signer would sign it. -/
theorem verifyFrom_ok {records : List AuditRecord} {previousHash : String} {sequence : Int}
    (accepted : verifyFrom signer previousHash sequence records = .ok ()) :
    Linked AuditRecord.previousHash AuditRecord.recordHash previousHash records ∧
      ∀ record ∈ records, signer.verify record = .ok () := by
  induction records generalizing previousHash sequence with
  | nil => exact ⟨trivial, by simp⟩
  | cons record rest ih =>
      rw [verifyFrom] at accepted
      split_ifs at accepted with number link
      cases verified : signer.verify record with
      | error fault => simp [verified] at accepted
      | ok _ =>
          rw [verified] at accepted
          obtain ⟨linked, intact⟩ := ih accepted
          refine ⟨⟨not_not.mp link, linked⟩, fun other member => ?_⟩
          rcases List.mem_cons.mp member with rfl | later
          · exact verified
          · exact intact other later

def materialOf (record : AuditRecord) : Json :=
  material record.candidateId record.sequence record.eventType record.payload record.previousHash

theorem verify_ok {record : AuditRecord} (verified : signer.verify record = .ok ()) :
    record.recordHash = signer.platform.digests.sha256
      (dumps .compactUnicode signer.platform.numbers (materialOf record)) ∧
      record.signature = signer.platform.digests.hmac signer.key record.recordHash := by
  rw [Signer.verify] at verified
  split_ifs at verified with hash signature
  have intact := not_not.mp hash
  refine ⟨intact, ?_⟩
  rw [intact]
  exact not_not.mp signature

theorem material_injective {a b : AuditRecord} (same : sortKeys (materialOf a) = sortKeys (materialOf b)) :
    a.candidateId = b.candidateId ∧ a.sequence = b.sequence ∧ a.eventType = b.eventType ∧ a.payload = b.payload ∧
      a.previousHash = b.previousHash := by
  have o₁ : "candidate_id" ≤ "sequence" := by decide
  have o₂ : ¬ ("sequence" ≤ "event_type") := by decide
  have o₃ : "candidate_id" ≤ "event_type" := by decide
  have o₄ : "event_type" ≤ "payload" := by decide
  have o₅ : "payload" ≤ "previous_hash" := by decide
  have o₆ : ¬ ("sequence" ≤ "payload") := by decide
  obtain ⟨candidate, eventType, payload, previous, sequence⟩ : a.candidateId = b.candidateId ∧
      a.eventType = b.eventType ∧ a.payload = b.payload ∧ a.previousHash = b.previousHash ∧
      a.sequence = b.sequence := by
    simpa [materialOf, material, sortKeys, sortEntries, keyOrder, o₁, o₂, o₃, o₄, o₅, o₆] using same
  exact ⟨candidate, sequence, eventType, payload, previous⟩

theorem materialOf_distinct (record : AuditRecord) : Distinct (materialOf record) := by
  rw [materialOf, material, distinct_dict_iff]
  exact ⟨by simp, by simp [Distinct]⟩

theorem verified_unique (injective : Function.Injective signer.platform.digests.sha256) {a b : AuditRecord}
    (verifiedA : signer.verify a = .ok ()) (verifiedB : signer.verify b = .ok ())
    (same : a.recordHash = b.recordHash) : a = b := by
  obtain ⟨hashA, signatureA⟩ := verify_ok verifiedA
  obtain ⟨hashB, signatureB⟩ := verify_ok verifiedB
  have texts := injective (hashA.symm.trans (same.trans hashB))
  obtain ⟨candidate, sequence, eventType, payload, previous⟩ :=
    material_injective (dumps_injective _ .compactUnicode (materialOf_distinct a) (materialOf_distinct b) texts)
  have signature : a.signature = b.signature := by rw [signatureA, signatureB, same]
  cases a
  cases b
  exact AuditRecord.mk.injEq .. |>.mpr ⟨candidate, sequence, eventType, payload, previous, same, signature⟩

/-- Accepted lists of one length with one last hash are one list. -/
theorem verifyChain_binding (injective : Function.Injective signer.platform.digests.sha256)
    {left right : List AuditRecord} (acceptedLeft : verifyChain signer left = .ok ())
    (acceptedRight : verifyChain signer right = .ok ()) (sameLength : left.length = right.length)
    (sameLast : left.getLast?.map AuditRecord.recordHash = right.getLast?.map AuditRecord.recordHash) :
    left = right := by
  obtain ⟨linkedLeft, intactLeft⟩ := verifyFrom_ok acceptedLeft
  obtain ⟨linkedRight, intactRight⟩ := verifyFrom_ok acceptedRight
  exact linkedLeft.binding linkedRight sameLength
    (fun a inLeft b inRight => verified_unique injective (intactLeft a inLeft) (intactRight b inRight)) sameLast

end

variable {Event : Type} {codec : EventCodec Event} {signer : Signer}

/-- `CertificationRevoked`. -/
structure Revocation where
  certificationId : String
  revokedAt : String
  revokedBy : String

def revocations : EventCodec Revocation where
  name _ := "CertificationRevoked"
  dump event := .obj [("certificationId", .str event.certificationId), ("revokedAt", .str event.revokedAt),
    ("revokedBy", .str event.revokedBy)]
  validate _ payload :=
    match payload with
    | .dict entries =>
        match OrderedMap.get entries "certificationId", OrderedMap.get entries "revokedAt",
          OrderedMap.get entries "revokedBy" with
        | some (.atom (.str certificationId)), some (.atom (.str revokedAt)), some (.atom (.str revokedBy)) =>
            some ⟨certificationId, revokedAt, revokedBy⟩
        | _, _, _ => none
    | _ => none

theorem revocations_faithful : Faithful revocations where
  known _ := by simp [revocations, eventTypes]
  distinct event := by
    rw [revocations, distinct_dict_iff]
    exact ⟨by simp, by simp [Distinct]⟩
  roundTrip event := by
    simp [revocations, sortKeys, get_sorted, OrderedMap.keys, OrderedMap.get]

def plainSigner : Signer := ⟨⟨JsonText.exactDecimals, id, fun key text => key ++ text⟩, "key", by decide⟩

end AutonomousApi.GovernanceStoreLaws
