import AutonomousApi.HashChain
import AutonomousApi.Runs
import Mathlib.Data.List.Sort

/-! Chains of records that several threads extend. A call reads the latest record, builds a record that
names its digest, and inserts it in a later step; the latest record is the last by time, then by id. The
records of a slot stay one chain exactly while each insertion names the record that is latest when it
happens, and sorts behind it. -/

namespace AutonomousApi.ConcurrentChain

open HashChain
open scoped List

variable {Thread Slot Request Record Digest Time Id : Type}

/-- Records that are built from a request, the digest before them, a time and an id. -/
structure Table (Slot Request Record Digest Time Id : Type) where
  slotOf : Request → Slot
  build : Request → Option Digest → Time → Id → Record
  slot : Record → Slot
  previous : Record → Option Digest
  digest : Record → Digest
  time : Record → Time
  id : Record → Id

def Table.Built (table : Table Slot Request Record Digest Time Id) (record : Record) : Prop :=
  ∃ request previous time id, record = table.build request previous time id

/-- A digest fixes what its record names. -/
def Table.Binding (table : Table Slot Request Record Digest Time Id) : Prop :=
  ∀ left right, table.Built left → table.Built right → table.digest left = table.digest right →
    table.previous left = table.previous right

inductive Call (Request Record : Type) where
  | read (request : Request) (previous : Option Record)
  | ready (record : Record)

structure State (Thread Request Record : Type) where
  records : List Record := []
  calls : Thread → Option (Call Request Record) := fun _ => none

inductive Action (Thread Request Time Id : Type) where
  | read (thread : Thread) (request : Request)
  | prepare (thread : Thread) (time : Time) (id : Id)
  | insert (thread : Thread)

section

variable [LinearOrder Time] [LinearOrder Id] [DecidableEq Slot] [DecidableEq Thread]
  (table : Table Slot Request Record Digest Time Id)

def Behind (left right : Record) : Prop :=
  table.time left < table.time right ∨ table.time left = table.time right ∧ table.id left ≤ table.id right

instance : DecidableRel (Behind table) := fun left right =>
  inferInstanceAs (Decidable (table.time left < table.time right ∨
    table.time left = table.time right ∧ table.id left ≤ table.id right))

def Ahead (left right : Record) : Prop := Behind table right left

instance : DecidableRel (Ahead table) := fun left right => inferInstanceAs (Decidable (Behind table right left))

/-- `WHERE slot = ? ORDER BY timestamp DESC, id DESC`. -/
def newestFirst (records : List Record) (slot : Slot) : List Record :=
  (records.filter fun record => table.slot record = slot).insertionSort (Ahead table)

def latest (records : List Record) (slot : Slot) : Option Record := (newestFirst table records slot).head?

def oldestFirst (records : List Record) (slot : Slot) : List Record := (newestFirst table records slot).reverse

/-- An id that is taken already is no fresh id, and the insertion no step. -/
def step (state : State Thread Request Record) : Action Thread Request Time Id → Option (State Thread Request Record)
  | .read thread request =>
      match state.calls thread with
      | none =>
          some { state with calls := Function.update state.calls thread
                              (some (.read request (latest table state.records (table.slotOf request)))) }
      | some _ => none
  | .prepare thread time id =>
      match state.calls thread with
      | some (.read request previous) =>
          some { state with calls := Function.update state.calls thread
                              (some (.ready (table.build request (previous.map table.digest) time id))) }
      | _ => none
  | .insert thread =>
      match state.calls thread with
      | some (.ready record) =>
          if table.id record ∈ state.records.map table.id then none
          else some { records := state.records ++ [record], calls := Function.update state.calls thread none }
      | _ => none

/-- The records of a slot are one chain, and each is named by one record at most. -/
def Unbroken (records : List Record) (slot : Slot) : Prop :=
  Linked table.previous (fun record => some (table.digest record)) none (oldestFirst table records slot) ∧
    ((oldestFirst table records slot).map table.previous).Nodup

/-- The record to insert names the record that is latest now, and sorts behind it. -/
def Follows (records : List Record) (record : Record) : Prop :=
  table.previous record = (latest table records (table.slot record)).map table.digest ∧
    ∀ last, latest table records (table.slot record) = some last → Behind table last record

/-- The condition on a step: an insertion that is possible follows. -/
def Follow (state : State Thread Request Record) : Action Thread Request Time Id → Prop
  | .insert thread => ∀ record, state.calls thread = some (.ready record) → Follows table state.records record
  | _ => True

end

section

variable [LinearOrder Time] [LinearOrder Id] {table : Table Slot Request Record Digest Time Id}

theorem behind_total (left right : Record) : Behind table left right ∨ Behind table right left := by
  rcases lt_trichotomy (table.time left) (table.time right) with early | same | late
  · exact .inl (.inl early)
  · rcases le_total (table.id left) (table.id right) with low | high
    · exact .inl (.inr ⟨same, low⟩)
    · exact .inr (.inr ⟨same.symm, high⟩)
  · exact .inr (.inl late)

theorem behind_trans {first second third : Record} (one : Behind table first second) (two : Behind table second third) :
    Behind table first third := by
  rcases one with early | ⟨same, low⟩
  · rcases two with later | ⟨equal, high⟩
    · exact .inl (early.trans later)
    · exact .inl (early.trans_eq equal)
  · rcases two with later | ⟨equal, high⟩
    · exact .inl (same.trans_lt later)
    · exact .inr ⟨same.trans equal, low.trans high⟩

theorem behind_antisymm {left right : Record} (one : Behind table left right) (two : Behind table right left) :
    table.id left = table.id right := by
  rcases one with early | ⟨same, low⟩
  · rcases two with later | ⟨equal, high⟩
    · exact absurd later early.not_gt
    · exact absurd equal early.ne'
  · rcases two with later | ⟨equal, high⟩
    · exact absurd same later.ne'
    · exact le_antisymm low high

instance : Std.Total (Ahead table) := ⟨fun left right => behind_total right left⟩

instance : IsTrans Record (Ahead table) := ⟨fun _ _ _ one two => behind_trans two one⟩

end

section

variable [LinearOrder Time] [LinearOrder Id] [DecidableEq Slot] {table : Table Slot Request Record Digest Time Id}
  {records : List Record} {record : Record} {slot : Slot}

theorem mem_oldestFirst {other : Record} :
    other ∈ oldestFirst table records slot ↔ other ∈ records ∧ table.slot other = slot := by
  simp [oldestFirst, newestFirst]

/-- Records of another slot do not count. -/
theorem oldestFirst_other (elsewhere : table.slot record ≠ slot) :
    oldestFirst table (records ++ [record]) slot = oldestFirst table records slot := by
  rw [oldestFirst, oldestFirst, newestFirst, newestFirst, List.filter_append]
  simp [elsewhere]

theorem newestFirst_insert (distinct : (records.map table.id).Nodup) (fresh : table.id record ∉ records.map table.id)
    (here : table.slot record = slot) :
    newestFirst table (records ++ [record]) slot =
      (newestFirst table records slot).orderedInsert (Ahead table) record := by
  have apart : ((records ++ [record]).map table.id).Nodup := by
    rw [List.map_append, List.nodup_append]
    refine ⟨distinct, by simp, ?_⟩
    rintro id old other new rfl
    rw [List.map_singleton, List.mem_singleton] at new
    exact fresh (new ▸ old)
  have filtered : (records ++ [record]).filter (fun other => table.slot other = slot) =
      (records.filter fun other => table.slot other = slot) ++ [record] := by
    rw [List.filter_append]
    simp [here]
  have reordered : newestFirst table (records ++ [record]) slot ~
      (newestFirst table records slot).orderedInsert (Ahead table) record := by
    refine (List.perm_insertionSort _ _).trans ?_
    rw [filtered]
    refine List.perm_append_comm.trans (.trans ?_ (List.perm_orderedInsert _ _ _).symm)
    exact (List.perm_insertionSort _ _).symm.cons record
  refine reordered.eq_of_pairwise ?_ (List.pairwise_insertionSort _ _)
    ((List.pairwise_insertionSort (Ahead table) _).orderedInsert record _)
  -- two rows that tie in time and id are one row
  intro left right inLeft inRight one two
  have stored {other : Record} (member : other ∈ newestFirst table (records ++ [record]) slot) :
      other ∈ records ++ [record] :=
    (List.mem_filter.mp ((List.mem_insertionSort _).mp member)).1
  exact List.inj_on_of_nodup_map apart (stored inLeft) (stored (reordered.mem_iff.mpr inRight))
    (behind_antisymm two one)

/-- A new record goes between the records of its slot that sort before it and those behind. -/
theorem oldestFirst_insert (distinct : (records.map table.id).Nodup) (fresh : table.id record ∉ records.map table.id)
    (here : table.slot record = slot) :
    ∃ older newer, oldestFirst table records slot = older ++ newer ∧
      oldestFirst table (records ++ [record]) slot = older ++ record :: newer ∧
        (∀ other ∈ older, Behind table other record) ∧ ∀ other ∈ newer, Behind table record other := by
  have inserted := newestFirst_insert distinct fresh here
  have sorted : (newestFirst table (records ++ [record]) slot).Pairwise (Ahead table) := List.pairwise_insertionSort _ _
  rw [List.orderedInsert_eq_take_drop] at inserted
  rw [inserted, List.pairwise_append, List.pairwise_cons] at sorted
  refine ⟨((newestFirst table records slot).dropWhile fun other => ¬ Ahead table record other).reverse,
    ((newestFirst table records slot).takeWhile fun other => ¬ Ahead table record other).reverse, ?_, ?_, ?_, ?_⟩
  · rw [← List.reverse_append, List.takeWhile_append_dropWhile, oldestFirst]
  · rw [oldestFirst, inserted, List.reverse_append, List.reverse_cons, List.append_assoc]
    rfl
  · intro other member
    exact sorted.2.1.1 other (List.mem_reverse.mp member)
  · intro other member
    exact sorted.2.2 other (List.mem_reverse.mp member) record List.mem_cons_self

theorem latest_eq_getLast (records : List Record) (slot : Slot) :
    latest table records slot = (oldestFirst table records slot).getLast? := by
  rw [latest, oldestFirst, List.getLast?_reverse]

theorem tip_latest (records : List Record) (slot : Slot) :
    tip (fun record => some (table.digest record)) none (oldestFirst table records slot) =
      (latest table records slot).map table.digest := by
  rw [tip_eq_getLast, ← latest_eq_getLast]
  cases latest table records slot with
  | none => rfl
  | some record => rfl

/-- A chain in which no name occurs twice has no digest twice. -/
theorem Unbroken.digests_nodup (unbroken : Unbroken table records slot) (binding : table.Binding)
    (built : ∀ record ∈ records, table.Built record) :
    (none :: (oldestFirst table records slot).map fun record => some (table.digest record)).Nodup := by
  rw [List.nodup_cons]
  refine ⟨by simp, ?_⟩
  refine List.Nodup.map_on ?_ unbroken.2.of_map
  intro left inLeft right inRight same
  exact List.inj_on_of_nodup_map unbroken.2 inLeft inRight
      (binding left right (built left (mem_oldestFirst.mp inLeft).1)
    (built right (mem_oldestFirst.mp inRight).1) (Option.some.inj same))

/-- The insertion of a record keeps its slot one chain exactly when the record follows the latest one. -/
theorem unbroken_insert_iff (binding : table.Binding) (built : ∀ record ∈ records, table.Built record)
    (distinct : (records.map table.id).Nodup)
    (fresh : table.id record ∉ records.map table.id) (unbroken : Unbroken table records (table.slot record)) :
    Unbroken table (records ++ [record]) (table.slot record) ↔ Follows table records record := by
  obtain ⟨older, newer, before, after, ahead, behind⟩ := oldestFirst_insert distinct fresh rfl
  constructor
  · rintro ⟨linked, once⟩
    rw [after, linked_append] at linked
    cases newer with
    | nil =>
        rw [List.append_nil] at before
        constructor
        · rw [← tip_latest, before]
          exact linked.2.1
        · intro last found
          rw [latest_eq_getLast, before] at found
          exact ahead last (List.mem_of_getLast? found)
    | cons next rest =>
        -- the record behind the new one names what the new one names
        have chain := unbroken.1
        rw [before, linked_append] at chain
        have shared : table.previous next = table.previous record := chain.2.1.trans linked.2.1.symm
        rw [after, List.map_append, List.map_cons, List.map_cons, List.nodup_append, List.nodup_cons] at once
        exact absurd (by simp [shared]) once.2.1.1
  · rintro ⟨named, sorted⟩
    have last : newer = [] := by
      cases found : newer.getLast? with
      | none => exact List.getLast?_eq_none_iff.mp found
      | some last =>
          have newest : latest table records (table.slot record) = some last := by
            rw [latest_eq_getLast, before, List.getLast?_append, found, Option.some_or]
          have tied := behind_antisymm (sorted last newest) (behind last (List.mem_of_getLast? found))
          have stored : last ∈ records :=
              (mem_oldestFirst.mp (before ▸ List.mem_append_right older (List.mem_of_getLast? found))).1
          exact absurd (List.mem_map.mpr ⟨last, stored, tied⟩) fresh
    subst last
    rw [List.append_nil] at before
    rw [← before] at after
    have tip := @tip_latest _ _ _ _ _ _ _ _ _ table records (table.slot record)
    constructor
    · rw [after, linked_append]
      exact ⟨unbroken.1, named.trans tip.symm, trivial⟩
    · rw [after, List.map_append, List.nodup_append]
      refine ⟨unbroken.2, by simp, ?_⟩
      intro name old other new same
      obtain ⟨earlier, member, rfl⟩ := List.mem_map.mp old
      rw [List.map_singleton, List.mem_singleton] at new
      have unnamed := unbroken.1.previous_ne_tip (unbroken.digests_nodup binding built) earlier member
      exact unnamed ((same.trans new).trans (named.trans tip.symm))

end

variable {table : Table Slot Request Record Digest Time Id} {state following : State Thread Request Record}
  {action : Action Thread Request Time Id}

/-- Ids are primary keys, and records come from requests. -/
structure Sound (table : Table Slot Request Record Digest Time Id) (state : State Thread Request Record) : Prop where
  distinct : (state.records.map table.id).Nodup
  built : ∀ record ∈ state.records, table.Built record
  ready : ∀ thread record, state.calls thread = some (.ready record) → table.Built record

theorem sound_start : Sound table ({} : State Thread Request Record) := ⟨List.nodup_nil, nofun, nofun⟩

variable [LinearOrder Time] [LinearOrder Id] [DecidableEq Slot] [DecidableEq Thread]

/-- A thread's own call is the only one that its step changes. -/
theorem ready_update {calls : Thread → Option (Call Request Record)} {thread : Thread}
    {call : Option (Call Request Record)}
    {holds : Record → Prop} (before : ∀ thread record, calls thread = some (.ready record) → holds record)
    (new : ∀ record, call = some (.ready record) → holds record) :
    ∀ other record, Function.update calls thread call other = some (.ready record) → holds record := by
  intro other record found
  by_cases same : other = thread
  · subst other
    rw [Function.update_self] at found
    exact new record found
  · rw [Function.update_of_ne same] at found
    exact before other record found

/-- What a step does: only an insertion changes the records. -/
theorem step_cases (taken : step table state action = some following) :
    (following.records = state.records ∧ Follow table state action ∧
        (Sound table state → Sound table following)) ∨
      ∃ thread record, action = .insert thread ∧ state.calls thread = some (.ready record) ∧
        table.id record ∉ state.records.map table.id ∧ following.records = state.records ++ [record] ∧
          following.calls = Function.update state.calls thread none := by
  cases action with
  | read thread request =>
      left
      cases call : state.calls thread with
      | some busy => simp [step, call] at taken
      | none =>
          simp only [step, call, Option.some.injEq] at taken
          subst taken
          exact ⟨rfl, trivial, fun sound => ⟨sound.distinct, sound.built, ready_update sound.ready (by simp)⟩⟩
  | prepare thread time id =>
      left
      cases call : state.calls thread with
      | none => simp [step, call] at taken
      | some busy =>
          cases busy with
          | ready record => simp [step, call] at taken
          | read request previous =>
              simp only [step, call, Option.some.injEq] at taken
              subst taken
              refine ⟨rfl, trivial, fun sound => ⟨sound.distinct, sound.built, ready_update sound.ready ?_⟩⟩
              intro record built
              cases built
              exact ⟨request, _, time, id, rfl⟩
  | insert thread =>
      right
      cases call : state.calls thread with
      | none => simp [step, call] at taken
      | some busy =>
          cases busy with
          | read request previous => simp [step, call] at taken
          | ready record =>
              by_cases stored : table.id record ∈ state.records.map table.id
              · simp [step, call, stored] at taken
              · simp only [step, call, if_neg stored, Option.some.injEq] at taken
                subst taken
                exact ⟨thread, record, rfl, call, stored, rfl, rfl⟩

theorem Sound.step (sound : Sound table state) (taken : step table state action = some following) :
    Sound table following := by
  rcases step_cases taken with ⟨-, -, kept⟩ | ⟨thread, record, rfl, call, fresh, records, calls⟩
  · exact kept sound
  · constructor
    · rw [records, List.map_append, List.nodup_append]
      refine ⟨sound.distinct, by simp, ?_⟩
      rintro id old other new rfl
      rw [List.map_singleton, List.mem_singleton] at new
      exact fresh (new ▸ old)
    · rw [records]
      intro other member
      rcases List.mem_append.mp member with old | new
      · exact sound.built other old
      · rw [List.mem_singleton.mp new]
        exact sound.ready thread record call
    · rw [calls]
      exact ready_update sound.ready (by simp)

/-- One step keeps every slot one chain exactly when the record it inserts follows the latest one. -/
theorem unbroken_step_iff (binding : table.Binding) (sound : Sound table state)
    (unbroken : ∀ slot, Unbroken table state.records slot) (taken : step table state action = some following) :
    (∀ slot, Unbroken table following.records slot) ↔ Follow table state action := by
  rcases step_cases taken with ⟨same, follow, -⟩ | ⟨thread, record, rfl, call, fresh, records, -⟩
  · rw [same]
    exact iff_of_true unbroken follow
  · rw [records]
    have here := unbroken_insert_iff binding sound.built sound.distinct fresh (unbroken (table.slot record))
    constructor
    · intro all other ready
      cases call.symm.trans ready
      exact here.mp (all (table.slot record))
    · intro follow slot
      by_cases same : table.slot record = slot
      · subst same
        exact here.mpr (follow record call)
      · rw [Unbroken, oldestFirst_other same]
        exact unbroken slot

end AutonomousApi.ConcurrentChain
