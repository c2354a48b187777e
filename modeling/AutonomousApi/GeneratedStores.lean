import AutonomousApi.EvolutionLedger
import AutonomousApi.Runs

/-! The stores of a generated application: `InMemoryRepository` of the FastAPI backend counts the ids it gives
out, `Stores` of the Axum backend takes the length of the store plus one. Both keep the id that a client brings.
No operation writes into a record that is in a store, so records are values. -/

namespace AutonomousApi.GeneratedStores

open JsonValue DataTree OrderedMap Runs
open EvolutionLedger (truthy)

abbrev Record := Dict String Json

inductive Operation (Id : Type) where
  | create (payload : Record)
  | update (itemId : Id) (payload : Record)
  | delete (itemId : Id)

inductive Answer where
  | record (record : Record)
  | missing
  | deleted (found : Bool)
  | unhashable
  deriving DecidableEq

/-- `payload.get("id")` -/
def idOf (record : Record) : Json := (get record "id").getD .null

def hashable : Json → Bool
  | .atom _ => true
  | .list _ => false
  | .dict _ => false

/-- A dict finds an entry by the value of its key, so `1`, `1.0` and `True` are one key. -/
structure InMemoryRepository where
  items : Dict (Tree String PyAtom) Record := []
  seq : Nat := 0

namespace InMemoryRepository

def create (repository : InMemoryRepository) (payload : Record) : InMemoryRepository × Answer :=
  if truthy (idOf payload) then
    if hashable (idOf payload) then
      ({ repository with items := assign repository.items (pyView (idOf payload)) payload }, .record payload)
    else (repository, .unhashable)
  else
    let id : Json := .str (toString (repository.seq + 1))
    let record := assign payload "id" id
    (⟨assign repository.items (pyView id) record, repository.seq + 1⟩, .record record)

def update (repository : InMemoryRepository) (itemId : Json) (payload : Record) : InMemoryRepository × Answer :=
  if hashable itemId then
    if (get repository.items (pyView itemId)).isSome then
      let record := assign payload "id" itemId
      ({ repository with items := assign repository.items (pyView itemId) record }, .record record)
    else (repository, .missing)
  else (repository, .unhashable)

def delete (repository : InMemoryRepository) (itemId : Json) : InMemoryRepository × Answer :=
  if hashable itemId then
    ({ repository with items := repository.items.filter fun entry => entry.1 ≠ pyView itemId },
      .deleted (get repository.items (pyView itemId)).isSome)
  else (repository, .unhashable)

def step (repository : InMemoryRepository) : Operation Json → InMemoryRepository × Answer
  | .create payload => repository.create payload
  | .update itemId payload => repository.update itemId payload
  | .delete itemId => repository.delete itemId

def records (repository : InMemoryRepository) : List Record := repository.items.map Prod.snd

end InMemoryRepository

/-- The store of each entity. -/
abbrev Stores := Dict String (List Record)

namespace Stores

/-- `v.get("id").and_then(as_str) == Some(item_id)` -/
def isNamed (itemId : String) (record : Record) : Bool := decide (get record "id" = some (.str itemId))

def create (stores : Stores) (entity : String) (payload : Record) : Stores × Answer :=
  let store := group stores entity
  let record :=
    if idOf payload = .null then assign payload "id" (.str (toString (store.length + 1))) else payload
  (assign stores entity (store ++ [record]), .record record)

def update (stores : Stores) (entity itemId : String) (payload : Record) : Stores × Answer :=
  match get stores entity with
  | none => (stores, .missing)
  | some store =>
      match store.findIdx? (isNamed itemId) with
      | none => (stores, .missing)
      | some index =>
          let record := assign payload "id" (.str itemId)
          (assign stores entity (store.set index record), .record record)

def delete (stores : Stores) (entity itemId : String) : Stores × Answer :=
  match get stores entity with
  | none => (stores, .deleted false)
  | some store =>
      let kept := store.filter fun record => !isNamed itemId record
      (assign stores entity kept, .deleted (kept.length != store.length))

def step (entity : String) (stores : Stores) : Operation String → Stores × Answer
  | .create payload => stores.create entity payload
  | .update itemId payload => stores.update entity itemId payload
  | .delete itemId => stores.delete entity itemId

end Stores

section

variable {Store Id View : Type}

/-- A store as its operations see it: the records, and ids up to the equality of the language. -/
structure Emission (Store Id View : Type) where
  step : Store → Operation Id → Store × Answer
  records : Store → List Record
  view : Json → View
  named : Id → Json

namespace Emission

variable (emission : Emission Store Id View)

def ids (store : Store) : List View := (emission.records store).map fun record => emission.view (idOf record)

/-- A record with the fields of a payload, but for its id. -/
def Carries (record payload : Record) : Prop := ∀ field, field ≠ "id" → get record field = get payload field

/-- An id names one record, and an operation touches that one; other ids name none. -/
def Touches (before : Store) (itemId : Id) (one : Record → List Record → List Record → Prop) (unchanged : Prop) :
    Prop :=
  (∃ earlier old later, emission.records before = earlier ++ old :: later ∧
    emission.view (idOf old) = emission.view (emission.named itemId) ∧ one old earlier later) ∨
  (emission.view (emission.named itemId) ∉ emission.ids before ∧ unchanged)

/-- What an operation of a store is for. -/
def Serves (before after : Store) (answer : Answer) : Operation Id → Prop
  | .create payload => ∃ record, answer = .record record ∧ Carries record payload ∧
      emission.view (idOf record) ∉ emission.ids before ∧ emission.records after = emission.records before ++ [record]
  | .update itemId payload => emission.Touches before itemId
      (fun _ earlier later => ∃ record, answer = .record record ∧ Carries record payload ∧
        emission.view (idOf record) = emission.view (emission.named itemId) ∧
        emission.records after = earlier ++ record :: later)
      (emission.records after = emission.records before)
  | .delete itemId => emission.Touches before itemId
      (fun _ earlier later => answer = .deleted true ∧ emission.records after = earlier ++ later)
      (emission.records after = emission.records before)

/-- An operation that serves, between stores whose ids are distinct. -/
structure Exact (before : Store) (operation : Operation Id) : Prop where
  distinct : (emission.ids before).Nodup
  onward : (emission.ids (emission.step before operation).1).Nodup
  serves : emission.Serves before (emission.step before operation).1 (emission.step before operation).2 operation

def after (start : Store) (operations : List (Operation Id)) : Store :=
  operations.foldl (fun store operation => (emission.step store operation).1) start

/-- A condition on every operation of a sequence and the store before it. -/
def Along (start : Store) (holds : Store → Operation Id → Prop) (operations : List (Operation Id)) : Prop :=
  ∀ earlier operation later, operations = earlier ++ operation :: later →
    holds (emission.after start earlier) operation

end Emission

def python : Emission InMemoryRepository Json (Tree String PyAtom) where
  step := InMemoryRepository.step
  records := InMemoryRepository.records
  view := pyView
  named := id

def rust (entity : String) : Emission Stores String (Tree String SerdeAtom) where
  step := Stores.step entity
  records := fun stores => group stores entity
  view := serdeView
  named := .str

/-- A new record gets an id that no record has: the payload's, else the text of the counter plus one. -/
def InMemoryRepository.Clear (repository : InMemoryRepository) : Operation Json → Prop
  | .create payload =>
      if truthy (idOf payload) then hashable (idOf payload) = true ∧ pyView (idOf payload) ∉ python.ids repository
      else pyView (.str (toString (repository.seq + 1))) ∉ python.ids repository
  | _ => True

/-- As above, with the text of the number of records plus one. -/
def Stores.Clear (entity : String) (stores : Stores) : Operation String → Prop
  | .create payload =>
      if idOf payload = .null then
        serdeView (.str (toString ((group stores entity).length + 1))) ∉ (rust entity).ids stores
      else serdeView (idOf payload) ∉ (rust entity).ids stores
  | _ => True

end

section

variable {Store Id View : Type} {emission : Emission Store Id View} {before following : Store}

theorem idOf_assign (payload : Record) (itemId : Json) : idOf (assign payload "id" itemId) = itemId := by
  rw [idOf, get_assign, if_pos rfl]
  rfl

theorem carries_assign (payload : Record) (itemId : Json) :
    Emission.Carries (assign payload "id" itemId) payload := by
  intro field other
  rw [get_assign, if_neg (Ne.symm other)]

/-- Serving keeps ids distinct. -/
theorem Emission.Serves.nodup {operation : Operation Id} {answer : Answer} (distinct : (emission.ids before).Nodup)
    (serves : emission.Serves before following answer operation) : (emission.ids following).Nodup := by
  cases operation with
  | create payload =>
      obtain ⟨record, -, -, unused, records⟩ := serves
      rw [Emission.ids, records, List.map_append, List.map_singleton]
      apply List.Nodup.append distinct (List.nodup_singleton _)
      rw [List.disjoint_singleton]
      exact unused
  | update itemId payload =>
      rcases serves with ⟨earlier, old, later, split, here, record, -, -, named, records⟩ | ⟨-, records⟩
      · -- the record written has the id of the one it replaces
        rw [Emission.ids, split, List.map_append, List.map_cons, here] at distinct
        rw [Emission.ids, records, List.map_append, List.map_cons, named]
        exact distinct
      · rw [Emission.ids, records]
        exact distinct
  | delete itemId =>
      rcases serves with ⟨earlier, old, later, split, -, -, records⟩ | ⟨-, records⟩
      · rw [Emission.ids, split] at distinct
        rw [Emission.ids, records]
        exact ((List.Sublist.append_left (List.sublist_cons_self old later) earlier).map _).nodup distinct
      · rw [Emission.ids, records]
        exact distinct

/-- Where keys are distinct, leaving out one key leaves out one item. -/
theorem filter_split {Item Key : Type} [DecidableEq Key] {key : Item → Key} {earlier later : List Item} {item : Item}
    (distinct : ((earlier ++ item :: later).map key).Nodup) :
    (earlier ++ item :: later).filter (fun other => decide (key other ≠ key item)) = earlier ++ later := by
  rw [List.map_append, List.map_cons, List.nodup_middle, List.nodup_cons, List.mem_append, not_or] at distinct
  have kept {items : List Item} (absent : key item ∉ items.map key) :
      items.filter (fun other => decide (key other ≠ key item)) = items := by
    apply List.filter_eq_self.mpr
    intro other member
    exact decide_eq_true fun same => absent (List.mem_map.mpr ⟨other, member, same⟩)
  rw [List.filter_append, List.filter_cons_of_neg (by simp), kept distinct.1.1, kept distinct.1.2]

variable {repository : InMemoryRepository} {operation : Operation Json}

/-- Every record is under the key of its id. -/
structure InMemoryRepository.Keyed (repository : InMemoryRepository) : Prop where
  named : ∀ entry ∈ repository.items, pyView (idOf entry.2) = entry.1
  hashed : ∀ entry ∈ repository.items, hashable (idOf entry.2) = true
  unique : (keys repository.items).Nodup

theorem python_ids (keyed : repository.Keyed) : python.ids repository = keys repository.items := by
  change (repository.items.map Prod.snd).map (fun record => pyView (idOf record)) = _
  rw [List.map_map, keys]
  exact List.map_congr_left fun entry member => keyed.named entry member

theorem hashable_congr {left right : Json} (same : pyView left = pyView right) : hashable left = hashable right := by
  cases left <;> cases right <;> simp [pyView, mapAtoms, sortKeys, hashable] at same ⊢

theorem unhashable_unused (keyed : repository.Keyed) {itemId : Json} (unhashed : ¬ hashable itemId = true) :
    pyView itemId ∉ python.ids repository := by
  intro member
  obtain ⟨record, inside, same⟩ := List.mem_map.mp member
  obtain ⟨entry, held, rfl⟩ := List.mem_map.mp inside
  exact unhashed ((hashable_congr same).symm.trans (keyed.hashed entry held))

/-- Writing a record under its id. -/
theorem InMemoryRepository.Keyed.assign (keyed : repository.Keyed) (record : Record) (seq : Nat)
    (hashed : hashable (idOf record) = true) :
    InMemoryRepository.Keyed ⟨OrderedMap.assign repository.items (pyView (idOf record)) record, seq⟩ where
  named := by
    intro entry member
    rcases mem_assign_entry member with inside | rfl
    · exact keyed.named entry inside
    · rfl
  hashed := by
    intro entry member
    rcases mem_assign_entry member with inside | rfl
    · exact keyed.hashed entry inside
    · exact hashed
  unique := by
    rw [keys_assign]
    split
    · exact keyed.unique
    · rename_i absent
      exact List.Nodup.append keyed.unique (List.nodup_singleton _) (by rwa [List.disjoint_singleton])

theorem InMemoryRepository.Keyed.assignId (keyed : repository.Keyed) (payload : Record) (itemId : Json) (seq : Nat)
    (hashed : hashable itemId = true) :
    InMemoryRepository.Keyed
      ⟨OrderedMap.assign repository.items (pyView itemId) (OrderedMap.assign payload "id" itemId), seq⟩ := by
  have written := keyed.assign (OrderedMap.assign payload "id" itemId) seq (by rwa [idOf_assign])
  rwa [idOf_assign] at written

theorem InMemoryRepository.Keyed.step (keyed : repository.Keyed) (operation : Operation Json) :
    (repository.step operation).1.Keyed := by
  cases operation with
  | create payload =>
      simp only [InMemoryRepository.step, InMemoryRepository.create]
      split
      · split
        · rename_i hashed
          exact keyed.assign _ repository.seq hashed
        · exact keyed
      · exact keyed.assignId payload (.str _) _ rfl
  | update itemId payload =>
      simp only [InMemoryRepository.step, InMemoryRepository.update]
      split
      · split
        · rename_i hashed _
          exact keyed.assignId payload itemId _ hashed
        · exact keyed
      · exact keyed
  | delete itemId =>
      simp only [InMemoryRepository.step, InMemoryRepository.delete]
      split
      · exact ⟨fun entry member => keyed.named entry (List.mem_filter.mp member).1,
          fun entry member => keyed.hashed entry (List.mem_filter.mp member).1,
          (List.filter_sublist.map Prod.fst).nodup keyed.unique⟩
      · exact keyed

/-- The records, with the one under a key singled out. -/
theorem records_split {itemId : Json} (keyed : repository.Keyed) (present : pyView itemId ∈ keys repository.items) :
    ∃ earlier old later, repository.items = earlier ++ (pyView itemId, old) :: later ∧
      (∀ record, assign repository.items (pyView itemId) record = earlier ++ (pyView itemId, record) :: later) ∧
      repository.records = earlier.map Prod.snd ++ old :: later.map Prod.snd ∧ pyView (idOf old) = pyView itemId := by
  obtain ⟨earlier, old, later, split, written⟩ := assign_split present
  refine ⟨earlier, old, later, split, written, ?_, ?_⟩
  · rw [InMemoryRepository.records, split, List.map_append]
    rfl
  · exact keyed.named (pyView itemId, old) (by rw [split]; simp)

theorem python_creates {record : Record} {itemId : Json} (seq : Nat) (keyed : repository.Keyed)
    (unused : pyView itemId ∉ python.ids repository) :
    (InMemoryRepository.mk (assign repository.items (pyView itemId) record) seq).records =
      repository.records ++ [record] := by
  rw [python_ids keyed] at unused
  rw [InMemoryRepository.records, assign_fresh _ _ _ unused, List.map_append]
  rfl

theorem python_serves (keyed : repository.Keyed) (clear : repository.Clear operation) :
    python.Serves repository (repository.step operation).1 (repository.step operation).2 operation := by
  cases operation with
  | create payload =>
      simp only [InMemoryRepository.step, InMemoryRepository.create]
      by_cases given : truthy (idOf payload) = true
      · rw [InMemoryRepository.Clear, if_pos given] at clear
        rw [if_pos given, if_pos clear.1]
        exact ⟨payload, rfl, fun _ _ => rfl, clear.2, python_creates _ keyed clear.2⟩
      · rw [InMemoryRepository.Clear, if_neg given] at clear
        rw [if_neg given]
        exact ⟨_, rfl, carries_assign payload _, by rw [idOf_assign]; exact clear, python_creates _ keyed clear⟩
  | update itemId payload =>
      simp only [InMemoryRepository.step, InMemoryRepository.update]
      by_cases hash : hashable itemId = true
      · rw [if_pos hash]
        by_cases present : (get repository.items (pyView itemId)).isSome = true
        · rw [if_pos present]
          obtain ⟨earlier, old, later, -, written, records, named⟩ :=
            records_split keyed ((get_isSome_iff _ _).mp present)
          refine .inl ⟨_, old, _, records, named, _, rfl, carries_assign payload itemId, ?_, ?_⟩
          · rw [idOf_assign]
            rfl
          · change (InMemoryRepository.mk _ _).records = _
            rw [InMemoryRepository.records, written, List.map_append]
            rfl
        · rw [if_neg present]
          refine .inr ⟨?_, rfl⟩
          rw [python_ids keyed]
          exact fun member => present ((get_isSome_iff _ _).mpr member)
      · rw [if_neg hash]
        exact .inr ⟨unhashable_unused keyed hash, rfl⟩
  | delete itemId =>
      simp only [InMemoryRepository.step, InMemoryRepository.delete]
      by_cases hash : hashable itemId = true
      · rw [if_pos hash]
        by_cases present : pyView itemId ∈ keys repository.items
        · obtain ⟨earlier, old, later, split, -, records, named⟩ := records_split keyed present
          refine .inl ⟨_, old, _, records, named, ?_, ?_⟩
          · rw [(get_isSome_iff _ _).mpr present]
          · have unique := keyed.unique
            rw [split] at unique
            change (InMemoryRepository.mk _ _).records = _
            rw [InMemoryRepository.records, split, filter_split unique, List.map_append]
        · refine .inr ⟨by rw [python_ids keyed]; exact present, ?_⟩
          have kept : repository.items.filter (fun entry => decide (entry.1 ≠ pyView itemId)) = repository.items := by
            apply List.filter_eq_self.mpr
            intro entry member
            exact decide_eq_true fun same => present (List.mem_map.mpr ⟨entry, member, same⟩)
          rw [kept]
      · rw [if_neg hash]
        exact .inr ⟨unhashable_unused keyed hash, rfl⟩

theorem python_clear (serves : python.Serves repository (repository.step operation).1 (repository.step operation).2
    operation) : repository.Clear operation := by
  cases operation with
  | create payload =>
      obtain ⟨record, answered, -, unused, -⟩ := serves
      simp only [InMemoryRepository.step, InMemoryRepository.create] at answered
      rw [InMemoryRepository.Clear]
      by_cases given : truthy (idOf payload) = true
      · rw [if_pos given] at answered ⊢
        by_cases hashed : hashable (idOf payload) = true
        · rw [if_pos hashed] at answered
          cases answered
          exact ⟨hashed, unused⟩
        · rw [if_neg hashed] at answered
          cases answered
      · rw [if_neg given] at answered ⊢
        cases answered
        rw [idOf_assign] at unused
        exact unused
  | update itemId payload => trivial
  | delete itemId => trivial

end

section

variable {entity : String} {stores : Stores} {operation : Operation String}

theorem serdeView_str {value : Json} {text : String} : serdeView value = serdeView (.str text) ↔ value = .str text := by
  constructor
  · intro same
    cases value with
    | atom atom => cases atom <;> simp_all [serdeView, mapAtoms, sortKeys, serdeAtom]
    | list items => simp [serdeView, mapAtoms, sortKeys] at same
    | dict entries => simp [serdeView, mapAtoms, sortKeys] at same
  · rintro rfl
    rfl

theorem isNamed_eq (itemId : String) (record : Record) :
    Stores.isNamed itemId record = decide (serdeView (idOf record) = serdeView (.str itemId)) := by
  rw [Stores.isNamed, decide_eq_decide, serdeView_str, idOf]
  cases get record "id" with
  | none => simp
  | some value => simp

theorem rust_ids : (rust entity).ids stores = (group stores entity).map fun record => serdeView (idOf record) := rfl

theorem group_assign (store : List Record) : group (assign stores entity store) entity = store := by
  rw [group, get_assign, if_pos rfl]
  rfl

theorem rust_creates (payload : Record) : ∃ record, (stores.step entity (.create payload)).2 = .record record ∧
    Emission.Carries record payload ∧
    group (stores.step entity (.create payload)).1 entity = group stores entity ++ [record] ∧
    (Stores.Clear entity stores (.create payload) ↔ serdeView (idOf record) ∉ (rust entity).ids stores) := by
  simp only [Stores.step, Stores.create, Stores.Clear]
  by_cases absent : idOf payload = .null
  · rw [if_pos absent, if_pos absent]
    exact ⟨_, rfl, carries_assign payload _, group_assign _, by rw [idOf_assign]⟩
  · rw [if_neg absent, if_neg absent]
    exact ⟨_, rfl, fun _ _ => rfl, group_assign _, Iff.rfl⟩

/-- The first record of an id stands among the records. -/
theorem findIdx_split {store : List Record} {itemId : String} {index : Nat}
    (found : store.findIdx? (Stores.isNamed itemId) = some index) :
    ∃ earlier old later, store = earlier ++ old :: later ∧ serdeView (idOf old) = serdeView (.str itemId) ∧
      ∀ record, store.set index record = earlier ++ record :: later := by
  obtain ⟨inside, named, -⟩ := List.findIdx?_eq_some_iff_getElem.mp found
  rw [isNamed_eq, decide_eq_true_iff] at named
  refine ⟨store.take index, store[index], store.drop (index + 1), ?_, named, fun record => ?_⟩
  · rw [List.getElem_cons_drop, List.take_append_drop]
  · rw [List.set_eq_take_append_cons_drop, if_pos inside]

theorem rust_serves (distinct : ((rust entity).ids stores).Nodup) (clear : Stores.Clear entity stores operation) :
    (rust entity).Serves stores (stores.step entity operation).1 (stores.step entity operation).2 operation := by
  cases operation with
  | create payload =>
      obtain ⟨record, answered, carries, records, unused⟩ := @rust_creates entity stores payload
      exact ⟨record, answered, carries, unused.mp clear, records⟩
  | update itemId payload =>
      simp only [Stores.step, Stores.update]
      cases stored : get stores entity with
      | none =>
          refine .inr ⟨?_, rfl⟩
          rw [rust_ids, group, stored]
          exact List.not_mem_nil
      | some store =>
          have grouped : group stores entity = store := by rw [group, stored]; rfl
          dsimp only
          cases found : store.findIdx? (Stores.isNamed itemId) with
          | none =>
              refine .inr ⟨?_, rfl⟩
              rw [rust_ids, grouped]
              intro member
              obtain ⟨record, inside, same⟩ := List.mem_map.mp member
              have unnamed := List.findIdx?_eq_none_iff.mp found record inside
              rw [isNamed_eq, decide_eq_false_iff_not] at unnamed
              exact unnamed same
          | some index =>
              obtain ⟨earlier, old, later, split, named, written⟩ := findIdx_split found
              refine .inl ⟨earlier, old, later, grouped.trans split, named, _, rfl, carries_assign payload _, ?_, ?_⟩
              · rw [idOf_assign]
                rfl
              · exact (group_assign _).trans (written _)
  | delete itemId =>
      simp only [Stores.step, Stores.delete]
      cases stored : get stores entity with
      | none =>
          refine .inr ⟨?_, rfl⟩
          rw [rust_ids, group, stored]
          exact List.not_mem_nil
      | some store =>
          have grouped : group stores entity = store := by rw [group, stored]; rfl
          have tested : (fun record => !Stores.isNamed itemId record) =
              fun record => decide (serdeView (idOf record) ≠ serdeView (.str itemId)) := by
            funext record
            rw [isNamed_eq, decide_not]
          dsimp only
          rw [tested]
          rw [rust_ids, grouped] at distinct
          by_cases present : serdeView (.str itemId) ∈ store.map fun record => serdeView (idOf record)
          · obtain ⟨old, inside, named⟩ := List.mem_map.mp present
            obtain ⟨earlier, later, split⟩ := List.append_of_mem inside
            have kept : store.filter (fun record => decide (serdeView (idOf record) ≠ serdeView (.str itemId))) =
                earlier ++ later := by
              rw [split] at distinct ⊢
              rw [← named]
              exact filter_split distinct
            rw [kept]
            refine .inl ⟨earlier, old, later, grouped.trans split, named, ?_, group_assign _⟩
            have shorter : (earlier ++ later).length ≠ store.length := by
              rw [split, List.length_append, List.length_append, List.length_cons]
              omega
            rw [bne_iff_ne.mpr shorter]
          · have kept : store.filter (fun record => decide (serdeView (idOf record) ≠ serdeView (.str itemId))) =
                store := by
              apply List.filter_eq_self.mpr
              intro record member
              exact decide_eq_true fun same => present (List.mem_map.mpr ⟨record, member, same⟩)
            rw [kept]
            refine .inr ⟨?_, (group_assign store).trans grouped.symm⟩
            rw [rust_ids, grouped]
            exact present

theorem rust_clear (serves : (rust entity).Serves stores (stores.step entity operation).1
    (stores.step entity operation).2 operation) : Stores.Clear entity stores operation := by
  cases operation with
  | create payload =>
      obtain ⟨record, answered, -, -, unused⟩ := @rust_creates entity stores payload
      obtain ⟨same, also, -, absent, -⟩ := serves
      cases answered.symm.trans also
      exact unused.mpr absent
  | update itemId payload => trivial
  | delete itemId => trivial

end

/-- Both stores keep their ids apart, and serve every operation, exactly while every new record gets an id
that no record has. -/
theorem exact_iff_clear (entity : String) (operations : List (Operation Json)) (requests : List (Operation String)) :
    (python.Along {} (python.Exact) operations ↔ python.Along {} InMemoryRepository.Clear operations) ∧
      ((rust entity).Along [] (rust entity).Exact requests ↔
        (rust entity).Along [] (Stores.Clear entity) requests) := by
  constructor
  · refine @foldl_along_iff _ _ InMemoryRepository.Clear {} (fun repository operation =>
      (repository.step operation).1) InMemoryRepository.Keyed python.Exact ⟨by simp, by simp, by simp [keys]⟩ ?_ ?_ ?_
      operations
    · intro repository operation keyed clear
      have distinct : (python.ids repository).Nodup := by rw [python_ids keyed]; exact keyed.unique
      have serves := python_serves keyed clear
      exact ⟨distinct, serves.nodup distinct, serves⟩
    · intro repository operation keyed _
      exact keyed.step operation
    · intro repository operation _ exact
      exact python_clear exact.serves
  · refine @foldl_along_iff _ _ (Stores.Clear entity) [] (fun stores operation => (stores.step entity operation).1)
      (fun stores => ((rust entity).ids stores).Nodup) (rust entity).Exact List.nodup_nil ?_ ?_ ?_ requests
    · intro stores operation distinct clear
      have serves := rust_serves distinct clear
      exact ⟨distinct, serves.nodup distinct, serves⟩
    · intro stores operation distinct clear
      exact (rust_serves distinct clear).nodup distinct
    · intro stores operation _ exact
      exact rust_clear exact.serves

/-- A client takes the id that the counter gives out next, and after a deletion the length gives out an id again. -/
theorem ids_reused :
    ¬ python.Along {} python.Exact [.create [("id", .str "1"), ("name", .str "a")], .create [("name", .str "b")]] ∧
      ¬ (rust "item").Along [] (rust "item").Exact
        [.create [("name", .str "a")], .create [("name", .str "b")], .delete "1", .create [("name", .str "c")]] := by
  constructor
  · intro exact
    obtain ⟨record, answered, -, unused, -⟩ := (exact [_] _ [] rfl).serves
    cases answered
    exact unused (by decide)
  · intro exact
    obtain ⟨record, answered, -, unused, -⟩ := (exact [_, _, _] _ [] rfl).serves
    cases answered
    exact unused (by decide)

end AutonomousApi.GeneratedStores
