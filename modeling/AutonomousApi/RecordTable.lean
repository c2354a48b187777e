import Mathlib.Data.List.Nodup

/-! Tables of records that carry their own key, in the order the keys first came. `put` replaces
the record of a present key where it stands and adds an absent one at the end. The laws say what
`put` does to lookups, to membership and, record by record, to the whole table. -/

namespace AutonomousApi.RecordTable

variable {Record Key : Type} [DecidableEq Key] {key : Record → Key} {records : List Record} {record other : Record}
  {wanted : Key}

def find (key : Record → Key) (records : List Record) (wanted : Key) : Option Record :=
  records.find? fun record => key record = wanted

def put (key : Record → Key) (records : List Record) (record : Record) : List Record :=
  match records with
  | [] => [record]
  | first :: rest => if key first = key record then record :: rest else first :: put key rest record

/-- No key stands in the table twice. -/
def Keyed (key : Record → Key) (records : List Record) : Prop := (records.map key).Nodup

theorem mem_of_find (found : find key records wanted = some record) : record ∈ records ∧ key record = wanted :=
  ⟨List.mem_of_find?_eq_some found, by simpa using List.find?_some found⟩

omit [DecidableEq Key] in
theorem Keyed.unique (keyed : Keyed key records) (member : record ∈ records) (also : other ∈ records)
    (same : key record = key other) : record = other :=
  List.inj_on_of_nodup_map keyed member also same

theorem Keyed.find_of_mem (keyed : Keyed key records) (member : record ∈ records) :
    find key records (key record) = some record := by
  cases found : find key records (key record) with
  | none => exact absurd (decide_eq_true rfl) (List.find?_eq_none.mp found record member)
  | some other =>
      have held := mem_of_find found
      rw [keyed.unique held.1 member held.2]

theorem find_eq_none_iff : find key records wanted = none ↔ wanted ∉ records.map key := by
  simp [find, List.find?_eq_none]

theorem find_append {more : List Record} (found : find key records wanted = some record) :
    find key (records ++ more) wanted = some record := by
  rw [find, List.find?_append]
  rw [find] at found
  rw [found]
  rfl

attribute [local simp] put

theorem find_put : find key (put key records record) wanted =
    if key record = wanted then some record else find key records wanted := by
  induction records with
  | nil => by_cases hit : key record = wanted <;> simp [find, hit]
  | cons first rest ih =>
      rw [put]
      by_cases same : key first = key record
      · by_cases hit : key record = wanted <;> simp [find, same, hit]
      · rw [if_neg same]
        by_cases hit : key first = wanted
        · have differs : key record ≠ wanted := fun equal => same (hit.trans equal.symm)
          simp [find, hit, differs]
        · simpa [find, hit] using ih

theorem mem_put (member : other ∈ put key records record) : other = record ∨ other ∈ records := by
  induction records with
  | nil => exact .inl (List.mem_singleton.mp member)
  | cons first rest ih =>
      rw [put] at member
      split at member
      · rcases List.mem_cons.mp member with equal | later
        · exact .inl equal
        · exact .inr (List.mem_cons_of_mem _ later)
      · rcases List.mem_cons.mp member with equal | later
        · exact .inr (equal ▸ List.mem_cons_self)
        · exact (ih later).imp id (List.mem_cons_of_mem _)

theorem record_mem_put : record ∈ put key records record := by
  induction records with
  | nil => exact List.mem_singleton_self record
  | cons first rest ih =>
      rw [put]
      split
      · exact List.mem_cons_self
      · exact List.mem_cons_of_mem _ ih

theorem mem_put_of_ne (member : other ∈ records) (differs : key other ≠ key record) :
    other ∈ put key records record := by
  induction records with
  | nil => cases member
  | cons first rest ih =>
      rw [put]
      rcases List.mem_cons.mp member with rfl | later
      · rw [if_neg differs]
        exact List.mem_cons_self
      · split
        · exact List.mem_cons_of_mem _ later
        · exact List.mem_cons_of_mem _ (ih later)

theorem keys_put : (put key records record).map key =
    if key record ∈ records.map key then records.map key else records.map key ++ [key record] := by
  induction records with
  | nil => simp
  | cons first rest ih =>
      rw [put]
      by_cases same : key first = key record
      · simp [same]
      · rw [if_neg same, List.map_cons, ih]
        by_cases later : key record ∈ rest.map key
        · have present : key record ∈ (first :: rest).map key := List.mem_cons_of_mem _ later
          rw [if_pos later, if_pos present, List.map_cons]
        · have absent : key record ∉ (first :: rest).map key := by
            rw [List.map_cons, List.mem_cons, not_or]
            exact ⟨Ne.symm same, later⟩
          rw [if_neg later, if_neg absent, List.map_cons, List.cons_append]

theorem Keyed.put (keyed : Keyed key records) : Keyed key (put key records record) := by
  rw [Keyed, keys_put]
  split
  · exact keyed
  case isFalse absent =>
      rw [List.nodup_append]
      refine ⟨keyed, List.nodup_singleton _, ?_⟩
      rintro name old _ new rfl
      rw [List.mem_singleton] at new
      exact absent (new ▸ old)

theorem Keyed.mem_put_iff (keyed : Keyed key records) :
    other ∈ RecordTable.put key records record ↔ other = record ∨ other ∈ records ∧ key other ≠ key record := by
  constructor
  · intro member
    by_cases same : key other = key record
    · exact .inl (keyed.put.unique member record_mem_put same)
    · exact (mem_put member).imp id fun old => ⟨old, same⟩
  · rintro (rfl | ⟨old, differs⟩)
    · exact record_mem_put
    · exact mem_put_of_ne old differs

theorem put_absent (absent : key record ∉ records.map key) : put key records record = records ++ [record] := by
  induction records with
  | nil => rfl
  | cons first rest ih =>
      rw [List.map_cons, List.mem_cons, not_or] at absent
      rw [put, if_neg (Ne.symm absent.1), ih absent.2, List.cons_append]

theorem put_put (same : key other = key record) : put key (put key records other) record = put key records record := by
  induction records with
  | nil => simp [same]
  | cons first rest ih =>
      by_cases hit : key first = key record
      · simp [same, hit]
      · simp [same, hit, ih]

theorem length_le_put : records.length ≤ (put key records record).length := by
  induction records with
  | nil => exact Nat.zero_le _
  | cons first rest ih =>
      rw [put]
      split
      · exact Nat.le_refl _
      · exact Nat.succ_le_succ ih

variable {related : Record → Record → Prop}

/-- Putting a record of a present key changes that record and no other. -/
theorem Keyed.put_related (keyed : Keyed key records)
    (reflexive : ∀ record, related record record) (member : other ∈ records) (same : key other = key record)
    (changed : related other record) : List.Forall₂ related records (RecordTable.put key records record) := by
  induction records with
  | nil => cases member
  | cons first rest ih =>
      rw [RecordTable.put]
      by_cases hit : key first = key record
      · have equal : other = first := keyed.unique member List.mem_cons_self (same.trans hit.symm)
        rw [if_pos hit]
        exact .cons (equal ▸ changed) (List.forall₂_same.mpr fun record _ => reflexive record)
      · have later : other ∈ rest := by
          refine (List.mem_cons.mp member).resolve_left ?_
          rintro rfl
          exact hit same
        rw [if_neg hit]
        exact .cons (reflexive first) (ih (List.nodup_cons.mp keyed).2 later)

omit [DecidableEq Key] in
/-- Of two tables related record by record, each record has its counterpart in the other one. -/
theorem exists_later {following : List Record}
    (all : List.Forall₂ related records following) (member : record ∈ records) :
    ∃ later ∈ following, related record later := by
  induction all with
  | nil => cases member
  | cons first _ ih =>
      rcases List.mem_cons.mp member with rfl | inside
      · exact ⟨_, List.mem_cons_self, first⟩
      · obtain ⟨later, found, kept⟩ := ih inside
        exact ⟨later, List.mem_cons_of_mem _ found, kept⟩

omit [DecidableEq Key] in
theorem exists_earlier {following : List Record}
    (all : List.Forall₂ related records following) (member : record ∈ following) :
    ∃ earlier ∈ records, related earlier record := by
  obtain ⟨earlier, found, kept⟩ := exists_later (List.Forall₂.flip all) member
  exact ⟨earlier, found, kept⟩

/-- A count over the table moves by what the one record counts before and after. -/
theorem Keyed.countP_put (keyed : Keyed key records) (counts : Record → Bool) (member : other ∈ records)
    (same : key other = key record) :
    (RecordTable.put key records record).countP counts + (if counts other then 1 else 0) =
      records.countP counts + (if counts record then 1 else 0) := by
  induction records with
  | nil => cases member
  | cons first rest ih =>
      rw [RecordTable.put]
      by_cases hit : key first = key record
      · have equal : other = first := keyed.unique member List.mem_cons_self (same.trans hit.symm)
        rw [if_pos hit, List.countP_cons, List.countP_cons, equal]
        omega
      · have later : other ∈ rest := by
          refine (List.mem_cons.mp member).resolve_left ?_
          rintro rfl
          exact hit same
        have rest := ih (List.nodup_cons.mp keyed).2 later
        rw [if_neg hit, List.countP_cons, List.countP_cons]
        omega

end AutonomousApi.RecordTable
