import AutonomousApi.DepthFirst
import AutonomousApi.StructureValidation
import AutonomousApi.TopologicalOrder

/-! What the check of a module's migrations (semantics/migration.py) says about their order. Its walk over the
dependencies is a depth-first search, its complaints about a circle are the edges that lead back into the path, and a
module without any complaint has an order in which every migration comes after all it depends on. -/

namespace AutonomousApi.MigrationOrder

open DepthFirst GraphWalks OrderedMap StructureValidation SystemModel

section

variable (mod : Module)

def migrationIds : List String := mod.dataMigrations.map (·.migrationId)

def lastDeclared (id : String) : Option DataMigrationIntent :=
  mod.dataMigrations.reverse.find? fun migration => migration.migrationId = id

/-- What a migration depends on among those the module declares. -/
def dependencies (id : String) : List String :=
  (((lastDeclared mod id).map (·.dependsOn)).getD []).filter (· ∈ migrationIds mod)

/-- The dictionary that the validator fills. -/
def byId : Dict String DataMigrationIntent :=
  assignAll [] (mod.dataMigrations.map fun migration => (migration.migrationId, migration))

def circular : String := "circular migration dependency: "

/-- A circular dependency is among the complaints. -/
def ReportsCircle : Prop :=
  ∃ error ∈ validateModuleMigrationConstraints mod, circular.toList <+: error.toList

/-- Each migration comes after everything it depends on. -/
def InOrder (order : List DataMigrationIntent) : Prop :=
  ∀ before migration after, order = before ++ migration :: after →
    ∀ dep ∈ migration.dependsOn, dep ∈ before.map (·.migrationId)

structure Resolved (migration : DataMigrationIntent) : Prop where
  source : migration.sourceSchemaRef ∈ mod.entities.map (·.id)
  target : migration.targetSchemaRef ∈ mod.entities.map (·.id)
  preserved : ∀ ref ∈ migration.preservationRefs, ref ∈ mod.entities.map (·.id)
  depends : ∀ dep ∈ migration.dependsOn, dep ∈ migrationIds mod

variable {mod} {id other : String}

theorem get_byId : get (byId mod) id = lastDeclared mod id := by
  have named (migrations : List DataMigrationIntent) :
      get (migrations.map fun migration => (migration.migrationId, migration)) id =
        migrations.find? fun migration => migration.migrationId = id := by
    induction migrations with
    | nil => rfl
    | cons first rest ih => by_cases hit : first.migrationId = id <;> simp [OrderedMap.get, hit, ih]
  rw [byId, get_assignAll, ← List.map_reverse, named, lastDeclared, get_nil]
  cases mod.dataMigrations.reverse.find? fun migration => migration.migrationId = id <;> rfl

theorem isSome_byId : (get (byId mod) id).isSome ↔ id ∈ migrationIds mod := by
  rw [byId, isSome_assignAll, keys, List.map_map]
  rfl

theorem mem_keys_byId : id ∈ keys (byId mod) ↔ id ∈ migrationIds mod := by rw [← get_isSome_iff, isSome_byId]

/-- A dependency and what depends on it are declared. -/
theorem dependencies_known (edge : Edge (dependencies mod) id other) :
    id ∈ migrationIds mod ∧ other ∈ migrationIds mod := by
  obtain ⟨member, known⟩ := List.mem_filter.mp edge
  refine ⟨?_, of_decide_eq_true known⟩
  rw [← isSome_byId, get_byId]
  cases declared : lastDeclared mod id with
  | none => simp [declared] at member
  | some => rfl

end

section

variable {mod : Module} {stack : List String} {walked : Walked} {search : Search String} {id : String} {depth : Nat}

/-- The complaint about an edge that leads back into the path. -/
def complaint (entry : List String × String) : String :=
  circular ++ String.intercalate " -> " (entry.1 ++ [entry.2])

/-- The marks of the walk say what is opened and what of it is on the path. -/
structure Matches (stack : List String) (walked : Walked) (search : Search String) : Prop where
  marks : ∀ id, get walked.state id =
    if id ∈ stack then some .visiting else if id ∈ search.opened then some .done else none
  errors : walked.errors = search.back.map complaint
  onPath : stack ⊆ search.opened

theorem matches_foldl {step : String → Walked → Walked} {stepped : String → Search String → Search String}
    (nodes : List String) (initial : Matches stack walked search)
    (each : ∀ node walked search, Matches stack walked search →
      Matches stack (step node walked) (stepped node search)) :
    Matches stack (nodes.foldl (fun walked node => step node walked) walked)
      (nodes.foldl (fun search node => stepped node search) search) := by
  induction nodes generalizing walked search with
  | nil => exact initial
  | cons node rest ih => exact ih (each node walked search initial)

theorem followed_eq : ((((get (byId mod) id).map (·.dependsOn)).getD []).filter fun dep =>
    (get (byId mod) dep).isSome) = dependencies mod id := by
  rw [dependencies, get_byId]
  apply List.filter_congr
  intro dep _
  rw [Bool.eq_iff_iff, isSome_byId, decide_eq_true_eq]

/-- The walk is a depth-first search. -/
theorem visit_matches (related : Matches stack walked search) :
    Matches stack (visit (byId mod) depth id stack walked) (enter (dependencies mod) depth stack id search) := by
  induction depth generalizing stack walked search id with
  | zero => exact related
  | succ depth ih =>
      rw [visit, related.marks, enter]
      by_cases inside : id ∈ stack
      · rw [if_pos inside, if_pos (related.onPath inside), if_pos inside]
        exact ⟨related.marks, by simp [related.errors, complaint, circular], related.onPath⟩
      by_cases opened : id ∈ search.opened
      · rw [if_neg inside, if_pos opened, if_pos opened, if_neg inside]
        exact related
      rw [if_neg inside, if_neg opened, if_neg opened]
      have entered : Matches (stack ++ [id]) { walked with state := assign walked.state id .visiting }
          { search with opened := search.opened ++ [id] } := by
        refine ⟨?_, related.errors, ?_⟩
        · intro other
          rw [get_assign, related.marks]
          by_cases same : id = other
          · simp [same]
          · simp [same, Ne.symm same]
        · exact List.append_subset.mpr ⟨fun other member => List.mem_append_left _ (related.onPath member), by simp⟩
      have left := matches_foldl (dependencies mod id) entered fun dep walked search related => @ih _ _ _ dep related
      dsimp only
      rw [followed_eq]
      refine ⟨?_, left.errors, fun other member => left.onPath (List.mem_append_left _ member)⟩
      intro other
      rw [get_assign, left.marks]
      by_cases same : id = other
      · subst same
        rw [if_pos rfl, if_neg inside, if_pos (left.onPath (by simp))]
      · simp [same, Ne.symm same]

variable (mod) in
/-- The search that the check of the module's migrations makes. -/
def circleSearch : Search String :=
  (keys (byId mod)).foldl (fun search id => enter (dependencies mod) ((byId mod).length + 1) [] id search) {}

theorem validateAcyclic_eq : validateAcyclic (byId mod) = (circleSearch mod).back.map complaint := by
  have initial : Matches [] ⟨[], []⟩ ({} : Search String) := ⟨fun _ => rfl, rfl, List.nil_subset _⟩
  have whole := matches_foldl (keys (byId mod)) initial fun id walked search related =>
    (visit_matches related : Matches [] (visit (byId mod) ((byId mod).length + 1) id [] walked) _)
  exact whole.errors

/-- The check is silent exactly where no migration depends on itself through others. -/
theorem validateAcyclic_nil_iff : validateAcyclic (byId mod) = [] ↔ ∀ id, ¬ OnCycle (dependencies mod) id := by
  rw [validateAcyclic_eq, List.map_eq_nil_iff]
  have within : ∀ id other, Edge (dependencies mod) id other → id ∈ keys (byId mod) ∧ other ∈ keys (byId mod) := by
    intro id other edge
    rw [mem_keys_byId, mem_keys_byId]
    exact dependencies_known edge
  refine quiet_iff within (fun _ => Iff.rfl) ?_
  rw [keys, List.length_map]
  exact Nat.lt_succ_self _

/-- A text that begins otherwise is no complaint about a circle. -/
theorem not_circular (first : Char) {text : String} (begins : text.toList.head? = some first) (other : first ≠ 'c') :
    ¬ circular.toList <+: text.toList := by
  rintro ⟨more, whole⟩
  have start : circular.toList.head? = some 'c' := by decide
  rw [← whole, List.head?_append, start, Option.some_or, Option.some.injEq] at begins
  exact other begins.symm

theorem mem_auditFrom {Item : Type} {idOf : Item → String} {duplicate : String → String} {check : Item → List String}
    {seen : List String} {items : List Item} {error : String}
    (member : error ∈ auditFrom idOf duplicate check seen items) :
    (∃ id, error = duplicate id) ∨ ∃ item ∈ items, error ∈ check item := by
  induction items generalizing seen with
  | nil => cases member
  | cons item rest ih =>
      rw [auditFrom, List.append_assoc, List.mem_append, List.mem_append] at member
      rcases member with again | checked | later
      · split_ifs at again
        · exact .inl ⟨_, List.mem_singleton.mp again⟩
        · cases again
      · exact .inr ⟨item, List.mem_cons_self, checked⟩
      · exact (ih later).imp id fun ⟨other, inside, checked⟩ => ⟨other, List.mem_cons_of_mem _ inside, checked⟩

theorem migrationReferences_begin {migration : DataMigrationIntent} {error : String}
    (member : error ∈ migrationReferences mod migration) : error.toList.head? = some 'm' := by
  simp only [migrationReferences, dangling, List.mem_append, List.mem_map] at member
  rcases member with (((⟨_, -, rfl⟩ | ⟨_, -, rfl⟩) | ⟨_, -, rfl⟩) | ⟨_, -, rfl⟩) | ⟨_, -, rfl⟩ <;>
    simp [String.toList_append]

theorem reportsCircle_iff : ReportsCircle mod ↔ validateAcyclic (byId mod) ≠ [] := by
  constructor
  · rintro ⟨error, member, circle⟩ silent
    rw [validateModuleMigrationConstraints, ← byId, silent, List.append_nil] at member
    rcases mem_auditFrom member with ⟨id, rfl⟩ | ⟨migration, -, checked⟩
    · exact not_circular 'd' (by simp [String.toList_append]) (by decide) circle
    · exact not_circular 'm' (migrationReferences_begin checked) (by decide) circle
  · intro noted
    obtain ⟨error, member⟩ := List.exists_mem_of_ne_nil _ noted
    refine ⟨error, List.mem_append_right _ member, ?_⟩
    rw [validateAcyclic_eq] at member
    obtain ⟨entry, -, rfl⟩ := List.mem_map.mp member
    rw [complaint, String.toList_append]
    exact List.prefix_append _ _

end

variable {mod : Module} {id other : String}

theorem nodup_of_auditFrom {Item : Type} {idOf : Item → String} {duplicate : String → String}
    {check : Item → List String} {seen : List String} {items : List Item}
    (silent : auditFrom idOf duplicate check seen items = []) :
    (items.map idOf).Nodup ∧ ∀ id ∈ seen, id ∉ items.map idOf := by
  induction items generalizing seen with
  | nil => simp
  | cons item rest ih =>
      obtain ⟨head, later⟩ := List.append_eq_nil_iff.mp silent
      have fresh : idOf item ∉ seen := by
        intro known
        rw [if_pos known] at head
        simp at head
      obtain ⟨distinct, apart⟩ := ih later
      rw [List.map_cons]
      refine ⟨List.nodup_cons.mpr ⟨apart _ List.mem_cons_self, distinct⟩, fun id known listed => ?_⟩
      rcases List.mem_cons.mp listed with same | further
      · exact fresh (same ▸ known)
      · exact apart id (List.mem_cons_of_mem _ known) further

/-- The migrations that depend on one. -/
def dependents (mod : Module) (id : String) : List String :=
  (migrationIds mod).filter fun other => id ∈ dependencies mod other

theorem edge_dependents : Edge (dependents mod) id other ↔ Edge (dependencies mod) other id := by
  simp only [Edge, dependents, List.mem_filter, decide_eq_true_eq]
  exact ⟨fun both => both.2, fun edge => ⟨(dependencies_known edge).1, edge⟩⟩

theorem dependents_acyclic (acyclic : ∀ id, ¬ OnCycle (dependencies mod) id) (id : String) :
    ¬ OnCycle (dependents mod) id := by
  intro cycle
  apply acyclic id
  have back : Relation.TransGen (Function.swap (Edge (dependencies mod))) id id :=
    Relation.TransGen.mono (fun _ _ edge => edge_dependents.mp edge) _ _ cycle
  exact Relation.transGen_swap.mp back

/-- Under distinct ids the last declaration of an id is the only one. -/
theorem byId_distinct (distinct : (migrationIds mod).Nodup) :
    byId mod = mod.dataMigrations.map fun migration => (migration.migrationId, migration) := by
  rw [byId, assignAll_distinct]
  rwa [keys, List.map_map]

theorem exists_inOrder (distinct : (migrationIds mod).Nodup) (acyclic : ∀ id, ¬ OnCycle (dependencies mod) id)
    (resolved : ∀ migration ∈ mod.dataMigrations, ∀ dep ∈ migration.dependsOn, dep ∈ migrationIds mod) :
    ∃ order : List DataMigrationIntent, order.Perm mod.dataMigrations ∧ InOrder order := by
  have within : ∀ id other, Edge (dependents mod) id other → id ∈ migrationIds mod ∧ other ∈ migrationIds mod :=
    fun id other edge => (dependencies_known (edge_dependents.mp edge)).symm
  obtain ⟨ids, perm, ordered⟩ := TopologicalOrder.exists_ordered distinct within (dependents_acyclic acyclic)
  have same := byId_distinct distinct
  have own : ∀ entry ∈ byId mod, entry.1 = entry.2.migrationId := by
    rw [same]
    simp
  have values : (byId mod).map Prod.snd = mod.dataMigrations := by simp [same, Function.comp_def]
  have listed : keys (byId mod) = migrationIds mod := by rw [keys_eq_map_own own, values, migrationIds]
  have unique : (keys (byId mod)).Nodup := listed.symm ▸ distinct
  have found := map_own_found own fun id member => listed.symm ▸ perm.subset member
  have whole : (ids.filterMap (get (byId mod))).Perm mod.dataMigrations := by
    rw [← values, ← filterMap_keys unique, listed]
    exact perm.filterMap _
  refine ⟨_, whole, ?_⟩
  intro before migration after split dep member
  have inside : migration ∈ mod.dataMigrations := whole.subset (by rw [split]; simp)
  have declared : lastDeclared mod migration.migrationId = some migration := by
    rw [← get_byId]
    exact get_of_mem unique (by rw [same]; exact List.mem_map.mpr ⟨migration, inside, rfl⟩)
  rw [split, List.map_append, List.map_cons] at found
  apply ordered _ _ _ found.symm dep
  rw [edge_dependents, Edge, dependencies, declared]
  exact List.mem_filter.mpr ⟨member, decide_eq_true (resolved migration inside dep member)⟩

/-- What the complaints about a module's migrations say about their dependencies. -/
structure ChecksOrder (mod : Module) : Prop where
  circle_iff : ReportsCircle mod ↔ ∃ id, OnCycle (dependencies mod) id
  silent : validateModuleMigrationConstraints mod = [] →
    (∃ order : List DataMigrationIntent, order.Perm mod.dataMigrations ∧ InOrder order) ∧
      ∀ migration ∈ mod.dataMigrations, Resolved mod migration

theorem checks_order (mod : Module) : ChecksOrder mod := by
  constructor
  · rw [reportsCircle_iff, Ne, validateAcyclic_nil_iff]
    push Not
    rfl
  · intro silent
    obtain ⟨audited, acyclic⟩ := List.append_eq_nil_iff.mp silent
    have resolved : ∀ migration ∈ mod.dataMigrations, Resolved mod migration := by
      intro migration member
      have references := audit_eq_nil audited migration member
      simp only [migrationReferences, List.append_eq_nil_iff, dangling_eq_nil] at references
      obtain ⟨⟨⟨⟨source, target⟩, -⟩, preserved⟩, depends⟩ := references
      exact ⟨source _ (List.mem_singleton_self _), target _ (List.mem_singleton_self _), preserved, depends⟩
    exact ⟨exists_inOrder (nodup_of_auditFrom audited).1 (validateAcyclic_nil_iff.mp acyclic)
      fun migration member => (resolved migration member).depends, resolved⟩

end AutonomousApi.MigrationOrder
