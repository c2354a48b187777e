import AutonomousApi.Layers
import AutonomousApi.ParetoSelection
import Mathlib.Data.List.GetD

/-! The sort into fronts peels the candidates by dominance, whatever the tolerance. Counting down is right because
dominance is never mutual; where it goes round in a circle, the candidates on the circle come to no front. -/

namespace AutonomousApi.ParetoSelection

open OrderedMap Layers

section

variable {Value : Type} [LinearOrder Value] [AddZeroClass Value]

variable {a b : Dict String Value} {epsilon : Value}

theorem dominatesLoop_iff (better : Bool) (objectives : List String) :
    dominatesLoop a b epsilon better objectives = true ↔
      (∀ objective ∈ objectives, ¬ valueOf a objective + epsilon < valueOf b objective) ∧
        (better = true ∨ ∃ objective ∈ objectives, valueOf b objective + epsilon < valueOf a objective) := by
  induction objectives generalizing better with
  | nil => simp [dominatesLoop]
  | cons objective rest ih =>
      by_cases worse : valueOf a objective + epsilon < valueOf b objective
      · simp [dominatesLoop, worse]
      · rw [dominatesLoop, if_neg worse, ih, Bool.or_eq_true, decide_eq_true_eq, List.forall_mem_cons,
          and_iff_right worse, or_assoc]
        simp only [List.mem_cons, exists_eq_or_imp]

theorem dominates_iff {objectives : List String} :
    dominates a b objectives epsilon = true ↔
      (∀ objective ∈ objectives, ¬ valueOf a objective + epsilon < valueOf b objective) ∧
        ∃ objective ∈ objectives, valueOf b objective + epsilon < valueOf a objective := by
  rw [dominates, dominatesLoop_iff]
  simp

/-- Dominance is never mutual, for any tolerance. -/
theorem dominates_asymm {objectives : List String}
    (dominated : dominates a b objectives epsilon = true) : dominates b a objectives epsilon = false := by
  rw [Bool.eq_false_iff]
  intro back
  obtain ⟨-, objective, member, better⟩ := dominates_iff.mp dominated
  exact (dominates_iff.mp back).1 objective member better

def counted (counts : String → Int) (dominated : String) : String → Int :=
  Function.update counts dominated (counts dominated - 1)

variable (counts : String → Int)

theorem counted_self (dominated : String) :
    counted counts dominated dominated = counts dominated - 1 :=
  Function.update_self ..

theorem counted_other {dominated id : String} (other : id ≠ dominated) :
    counted counts dominated id = counts id :=
  Function.update_of_ne other ..

theorem release_cons_fst (dominated : String) (rest : List String) :
    (release counts (dominated :: rest)).1 = (release (counted counts dominated) rest).1 :=
  rfl

theorem release_cons_snd (dominated : String) (rest : List String) :
    (release counts (dominated :: rest)).2 =
      if counts dominated - 1 = 0 then dominated :: (release (counted counts dominated) rest).2
      else (release (counted counts dominated) rest).2 := by
  rw [← counted_self]
  rfl

theorem release_counts (events : List String) (id : String) :
    (release counts events).1 id = counts id - events.count id := by
  induction events generalizing counts with
  | nil => simp [release]
  | cons dominated rest ih =>
      rw [release_cons_fst, ih]
      by_cases same : id = dominated
      · subst same
        rw [counted_self, List.count_cons_self]
        push_cast
        omega
      · rw [counted_other counts same, List.count_cons_of_ne (Ne.symm same)]

/-- Who is released came to zero on the way. -/
theorem mem_release (events : List String) (id : String) :
    id ∈ (release counts events).2 ↔ 1 ≤ counts id ∧ counts id ≤ events.count id := by
  induction events generalizing counts with
  | nil =>
      simp only [release, List.not_mem_nil, List.count_nil, Nat.cast_zero, false_iff, not_and]
      omega
  | cons dominated rest ih =>
      have inside := ih (counted counts dominated)
      rw [release_cons_snd]
      by_cases same : id = dominated
      · subst same
        rw [counted_self] at inside
        rw [List.count_cons_self]
        push_cast
        by_cases zero : counts id - 1 = 0
        · rw [if_pos zero]
          simp only [List.mem_cons, true_or, true_iff]
          omega
        · rw [if_neg zero, inside]
          omega
      · rw [counted_other counts same] at inside
        rw [List.count_cons_of_ne (Ne.symm same), ← inside]
        split
        · rw [List.mem_cons, or_iff_right same]
        · exact Iff.rfl

theorem nodup_release (events : List String) : (release counts events).2.Nodup := by
  induction events generalizing counts with
  | nil => exact List.nodup_nil
  | cons dominated rest ih =>
      rw [release_cons_snd]
      by_cases zero : counts dominated - 1 = 0
      · rw [if_pos zero, List.nodup_cons]
        refine ⟨fun again => ?_, ih _⟩
        have above := ((mem_release _ _ _).mp again).1
        rw [counted_self] at above
        omega
      · rw [if_neg zero]
        exact ih _

end

section

variable {Value : Type} [LinearOrder Value] [AddZeroClass Value] {candidates : Candidates Value}
  {objectives : List String} {epsilon : Value} {id other : String}

/-- The other candidate dominates. -/
def Candidates.Beats (candidates : Candidates Value) (objectives : List String) (epsilon : Value)
    (other id : String) : Prop :=
  candidates.beats objectives epsilon other id = true

instance : Decidable (candidates.Beats objectives epsilon other id) := inferInstanceAs (Decidable (_ = _))

theorem Candidates.Beats.asymm (beats : candidates.Beats objectives epsilon other id) :
    ¬ candidates.Beats objectives epsilon id other := by
  rw [Candidates.Beats, Candidates.beats, dominates_asymm beats]
  exact Bool.false_ne_true

theorem Candidates.Beats.ne (beats : candidates.Beats objectives epsilon other id) : other ≠ id := by
  rintro rfl
  exact beats.asymm beats

omit [LinearOrder Value] [AddZeroClass Value] in
theorem ids_nodup (candidates : Candidates Value) : candidates.ids.Nodup := candidates.distinct

theorem mem_dominatedSet : id ∈ candidates.dominatedSet objectives epsilon other ↔
    id ∈ candidates.ids ∧ candidates.Beats objectives epsilon other id := by
  rw [Candidates.dominatedSet, List.mem_filter, decide_eq_true_eq]
  constructor
  · rintro ⟨member, -, beats⟩
    exact ⟨member, beats⟩
  · rintro ⟨member, beats⟩
    exact ⟨member, beats.ne, beats⟩

theorem nodup_dominatedSet (other : String) : (candidates.dominatedSet objectives epsilon other).Nodup :=
  (ids_nodup candidates).filter _

theorem dominationCount_eq : candidates.dominationCount objectives epsilon id =
    candidates.ids.countP fun other => candidates.Beats objectives epsilon other id := by
  rw [Candidates.dominationCount, List.countP_eq_length_filter]
  congr 2
  apply List.filter_congr
  intro other _
  rw [decide_eq_decide]
  constructor
  · rintro ⟨-, -, beats⟩
    exact beats
  · intro beats
    exact ⟨Ne.symm beats.ne, dominates_asymm beats, beats⟩

/-- The layers by which the candidates are peeled. -/
abbrev Candidates.Front (candidates : Candidates Value) (objectives : List String) (epsilon : Value) (depth : Nat)
    (id : String) : Prop :=
  Layer (candidates.Beats objectives epsilon) candidates.ids depth id

abbrev Candidates.Done (candidates : Candidates Value) (objectives : List String) (epsilon : Value) (depth : Nat)
    (id : String) : Prop :=
  Peeled (candidates.Beats objectives epsilon) candidates.ids depth id

theorem count_flatMap_of_nodup {Source Item : Type} [DecidableEq Item] {image : Source → List Item}
    (distinct : ∀ source, (image source).Nodup) (sources : List Source) (item : Item) :
    (sources.flatMap image).count item = sources.countP fun source => item ∈ image source := by
  induction sources with
  | nil => rfl
  | cons source rest ih =>
      rw [List.flatMap_cons, List.count_append, ih, List.countP_cons]
      by_cases member : item ∈ image source
      · rw [List.count_eq_one_of_mem (distinct source) member, if_pos (decide_eq_true member), Nat.add_comm]
      · rw [List.count_eq_zero_of_not_mem member, decide_eq_false member, if_neg Bool.false_ne_true, Nat.zero_add,
          Nat.add_zero]

theorem countP_either {Item : Type} {items : List Item} {whole left right : Item → Bool}
    (parts : ∀ item ∈ items, whole item = (left item || right item))
    (apart : ∀ item ∈ items, left item = true → right item = false) :
    items.countP whole = items.countP left + items.countP right := by
  induction items with
  | nil => rfl
  | cons item rest ih =>
      have later := ih (fun other member => parts other (List.mem_cons_of_mem _ member)) fun other member =>
        apart other (List.mem_cons_of_mem _ member)
      have here := parts item List.mem_cons_self
      have split := apart item List.mem_cons_self
      rw [List.countP_cons, List.countP_cons, List.countP_cons, later, here]
      cases onLeft : left item
      · cases right item
        · simp
        · simp
          omega
      · simp [split onLeft]
        omega

open Classical in
/-- How many of those that are left dominate a candidate. -/
noncomputable def Candidates.rivals (candidates : Candidates Value) (objectives : List String) (epsilon : Value)
    (depth : Nat) (id : String) : Nat :=
  candidates.ids.countP fun other =>
    candidates.Beats objectives epsilon other id ∧ ¬ candidates.Done objectives epsilon depth other

theorem rivals_pos_iff {depth : Nat} : 1 ≤ candidates.rivals objectives epsilon depth id ↔
    ∃ other ∈ candidates.ids, candidates.Beats objectives epsilon other id ∧
      ¬ candidates.Done objectives epsilon depth other := by
  rw [Candidates.rivals, Nat.one_le_iff_ne_zero, ← Nat.pos_iff_ne_zero, List.countP_pos_iff]
  simp only [decide_eq_true_eq]

/-- Who is done next has no rival left. -/
theorem done_succ_iff {depth : Nat} (member : id ∈ candidates.ids) :
    candidates.Done objectives epsilon (depth + 1) id ↔ candidates.rivals objectives epsilon depth id = 0 := by
  rw [← Nat.lt_one_iff, ← Nat.not_le, rivals_pos_iff]
  constructor
  · rintro ⟨-, behind⟩ ⟨other, inside, beats, left⟩
    exact left (behind other inside beats)
  · intro none
    refine ⟨member, fun other inside beats => ?_⟩
    by_contra left
    exact none ⟨other, inside, beats, left⟩

/-- The loop before a pass: the counts are of what is left, and the current front is the next layer. -/
structure Stage (candidates : Candidates Value) (objectives : List String) (epsilon : Value) (depth : Nat)
    (counts : String → Int) (current : List String) : Prop where
  counts_eq : ∀ id ∈ candidates.ids, counts id = candidates.rivals objectives epsilon depth id
  current_iff : ∀ id, id ∈ current ↔ candidates.Front objectives epsilon depth id
  distinct : current.Nodup

variable {depth : Nat} {counts : String → Int} {current : List String}

/-- The dominators of a candidate in the current front are the rivals that a pass takes away. -/
theorem Stage.rivals_split (stage : Stage candidates objectives epsilon depth counts current) (id : String) :
    candidates.rivals objectives epsilon depth id =
      (current.countP fun other => candidates.Beats objectives epsilon other id) +
        candidates.rivals objectives epsilon (depth + 1) id := by
  classical
  have inFront : current.Perm (candidates.ids.filter fun other => candidates.Front objectives epsilon depth other) := by
    apply (List.perm_ext_iff_of_nodup stage.distinct ((ids_nodup candidates).filter _)).mpr
    intro other
    rw [stage.current_iff, List.mem_filter, decide_eq_true_eq]
    exact ⟨fun front => ⟨front.mem, front⟩, And.right⟩
  rw [inFront.countP_eq, List.countP_filter]
  unfold Candidates.rivals
  apply countP_either
  · intro other _
    rw [Bool.eq_iff_iff]
    simp only [decide_eq_true_eq, Bool.or_eq_true, Bool.and_eq_true]
    constructor
    · rintro ⟨beats, left⟩
      by_cases next : candidates.Done objectives epsilon (depth + 1) other
      · exact .inl ⟨beats, next, left⟩
      · exact .inr ⟨beats, next⟩
    · rintro (⟨beats, front⟩ | ⟨beats, later⟩)
      · exact ⟨beats, front.2⟩
      · exact ⟨beats, fun done => later done.succ⟩
  · intro other _ front
    rw [Bool.and_eq_true, decide_eq_true_eq, decide_eq_true_eq] at front
    exact decide_eq_false fun later => later.2 front.2.1

theorem count_events (current : List String) (member : id ∈ candidates.ids) :
    (current.flatMap (candidates.dominatedSet objectives epsilon)).count id =
      current.countP fun other => candidates.Beats objectives epsilon other id := by
  rw [count_flatMap_of_nodup nodup_dominatedSet]
  apply List.countP_congr
  intro other _
  rw [decide_eq_true_eq, decide_eq_true_eq, mem_dominatedSet]
  exact and_iff_right member

theorem Stage.next (stage : Stage candidates objectives epsilon depth counts current) :
    Stage candidates objectives epsilon (depth + 1)
      (release counts (current.flatMap (candidates.dominatedSet objectives epsilon))).1
      (release counts (current.flatMap (candidates.dominatedSet objectives epsilon))).2 where
  counts_eq id member := by
    have split := stage.rivals_split id
    rw [release_counts, stage.counts_eq id member, count_events current member]
    omega
  current_iff id := by
    rw [mem_release]
    by_cases member : id ∈ candidates.ids
    · have split := stage.rivals_split id
      rw [stage.counts_eq id member, count_events current member]
      have next : candidates.Front objectives epsilon (depth + 1) id ↔
          candidates.rivals objectives epsilon (depth + 1) id = 0 ∧
            ¬ candidates.rivals objectives epsilon depth id = 0 :=
        and_congr (done_succ_iff member) (not_congr (done_succ_iff member))
      rw [next]
      omega
    · -- what is no candidate is never counted down
      have uncounted : (current.flatMap (candidates.dominatedSet objectives epsilon)).count id = 0 := by
        apply List.count_eq_zero_of_not_mem
        intro event
        obtain ⟨other, -, dominated⟩ := List.mem_flatMap.mp event
        exact member (mem_dominatedSet.mp dominated).1
      rw [uncounted]
      refine iff_of_false (fun between => ?_) fun front => member front.mem
      omega
  distinct := nodup_release _ _

/-- The fronts from a number on: the layers, up to an empty one or to the end of the fuel. -/
structure Lists (candidates : Candidates Value) (objectives : List String) (epsilon : Value) (start fuel : Nat)
    (fronts : List (List String)) : Prop where
  each : ∀ front ∈ fronts, front ≠ [] ∧ front.Nodup
  bound : fronts.length ≤ fuel
  listed : ∀ later < fuel, ∀ id, id ∈ fronts.getD later [] ↔ candidates.Front objectives epsilon (start + later) id

theorem lists_nil {start fuel : Nat} (empty : ∀ id, ¬ candidates.Front objectives epsilon start id) :
    Lists candidates objectives epsilon start fuel [] where
  each _ member := absurd member List.not_mem_nil
  bound := Nat.zero_le fuel
  listed later _ id := by
    refine iff_of_false List.not_mem_nil fun front => ?_
    obtain ⟨other, inside⟩ := front.earlier (Nat.le_add_right start later)
    exact empty other inside

theorem Lists.cons {start fuel : Nat} {front : List String} {fronts : List (List String)}
    (first : ∀ id, id ∈ front ↔ candidates.Front objectives epsilon start id) (distinct : front.Nodup)
    (inhabited : front ≠ []) (later : Lists candidates objectives epsilon (start + 1) fuel fronts) :
    Lists candidates objectives epsilon start (fuel + 1) (front :: fronts) where
  each other member := by
    rcases List.mem_cons.mp member with rfl | inside
    · exact ⟨inhabited, distinct⟩
    · exact later.each other inside
  bound := Nat.succ_le_succ later.bound
  listed number below id := by
    cases number with
    | zero => exact first id
    | succ number =>
        rw [List.getD_cons_succ, later.listed number (Nat.lt_of_succ_lt_succ below) id, Nat.add_right_comm]
        exact Iff.rfl

theorem frontsLoop_succ (dominatedSet : String → List String) (fuel : Nat) (counts : String → Int)
    (current : List String) : frontsLoop dominatedSet (fuel + 1) counts current =
      if (release counts (current.flatMap dominatedSet)).2 = [] then []
      else (release counts (current.flatMap dominatedSet)).2 ::
        frontsLoop dominatedSet fuel (release counts (current.flatMap dominatedSet)).1
          (release counts (current.flatMap dominatedSet)).2 :=
  rfl

/-- The loop lists the layers behind the current one. -/
theorem Stage.lists (stage : Stage candidates objectives epsilon depth counts current) (fuel : Nat) :
    Lists candidates objectives epsilon (depth + 1) fuel
      (frontsLoop (candidates.dominatedSet objectives epsilon) fuel counts current) := by
  induction fuel generalizing depth counts current with
  | zero =>
      refine ⟨fun front member => absurd member List.not_mem_nil, Nat.le_refl 0, fun later below => ?_⟩
      exact absurd below (Nat.not_lt_zero later)
  | succ fuel ih =>
      have next := stage.next
      rw [frontsLoop_succ]
      by_cases last : (release counts (current.flatMap (candidates.dominatedSet objectives epsilon))).2 = []
      · rw [if_pos last]
        refine lists_nil fun id front => ?_
        have listed := (next.current_iff id).mpr front
        rw [last] at listed
        exact List.not_mem_nil listed
      · rw [if_neg last]
        exact (ih next).cons next.current_iff next.distinct last

theorem stage_start : Stage candidates objectives epsilon 0 (candidates.dominationCount objectives epsilon)
    (candidates.firstFront objectives epsilon) := by
  have counts (id : String) : candidates.dominationCount objectives epsilon id =
      candidates.rivals objectives epsilon 0 id := by
    rw [dominationCount_eq, Candidates.rivals]
    congr 1
    apply List.countP_congr
    intro other _
    simp only [decide_eq_true_eq]
    exact (and_iff_left not_false).symm
  refine ⟨fun id _ => counts id, fun id => ?_, (ids_nodup candidates).filter _⟩
  rw [Candidates.firstFront, List.mem_filter, decide_eq_true_eq, counts]
  constructor
  · rintro ⟨member, free⟩
    exact ⟨(done_succ_iff member).mpr (Int.ofNat_eq_zero.mp free), not_false⟩
  · intro front
    exact ⟨front.mem, Int.ofNat_eq_zero.mpr ((done_succ_iff front.mem).mp front.1)⟩

/-- The fronts are the layers: all of them, since there are no more layers than candidates. -/
theorem nonDominatedSort_lists : ∃ fuel, candidates.ids.length < fuel ∧
    Lists candidates objectives epsilon 0 fuel (candidates.nonDominatedSort objectives epsilon) := by
  refine ⟨candidates.ids.length + 1, Nat.lt_succ_self _, ?_⟩
  rw [Candidates.nonDominatedSort]
  by_cases none : candidates.firstFront objectives epsilon = []
  · simp only [if_pos none]
    refine lists_nil fun id front => ?_
    have listed := (stage_start.current_iff id).mpr front
    rw [none] at listed
    exact List.not_mem_nil listed
  · simp only [if_neg none]
    exact (stage_start.lists _).cons stage_start.current_iff stage_start.distinct none

theorem mem_front_iff (depth : Nat) (id : String) :
    id ∈ (candidates.nonDominatedSort objectives epsilon).getD depth [] ↔
    candidates.Front objectives epsilon depth id := by
  obtain ⟨fuel, enough, lists⟩ := @nonDominatedSort_lists _ _ _ candidates objectives epsilon
  by_cases below : depth < fuel
  · rw [lists.listed depth below id, Nat.zero_add]
  · have past : (candidates.nonDominatedSort objectives epsilon).length ≤ depth := lists.bound.trans (not_lt.mp below)
    rw [List.getD_eq_default _ _ past]
    refine iff_of_false List.not_mem_nil fun front => ?_
    exact below (front.lt_length.trans enough)

theorem mem_flatten_iff_getD {Item : Type} {lists : List (List Item)} {item : Item} :
    item ∈ lists.flatten ↔ ∃ number < lists.length, item ∈ lists.getD number [] := by
  rw [List.mem_flatten]
  constructor
  · rintro ⟨list, member, inside⟩
    obtain ⟨number, below, rfl⟩ := List.getElem_of_mem member
    exact ⟨number, below, by rwa [List.getD_eq_getElem _ _ below]⟩
  · rintro ⟨number, below, inside⟩
    rw [List.getD_eq_getElem _ _ below] at inside
    exact ⟨lists[number], List.getElem_mem below, inside⟩

theorem mem_fronts_iff : id ∈ (candidates.nonDominatedSort objectives epsilon).flatten ↔
    ∃ depth, candidates.Done objectives epsilon depth id := by
  rw [mem_flatten_iff_getD]
  constructor
  · rintro ⟨depth, -, listed⟩
    exact ⟨depth + 1, ((mem_front_iff depth id).mp listed).1⟩
  · rintro ⟨depth, done⟩
    obtain ⟨round, -, front⟩ := peeled_iff.mp done
    have listed := (mem_front_iff round id).mpr front
    refine ⟨round, ?_, listed⟩
    by_contra past
    rw [List.getD_eq_default _ _ (not_lt.mp past)] at listed
    exact List.not_mem_nil listed

theorem nodup_fronts : (candidates.nonDominatedSort objectives epsilon).flatten.Nodup := by
  obtain ⟨fuel, enough, lists⟩ := @nonDominatedSort_lists _ _ _ candidates objectives epsilon
  rw [List.nodup_flatten]
  refine ⟨fun front member => (lists.each front member).2, ?_⟩
  rw [List.pairwise_iff_getElem]
  intro first second belowFirst belowSecond before id inFirst inSecond
  rw [← List.getD_eq_getElem _ [] belowFirst] at inFirst
  rw [← List.getD_eq_getElem _ [] belowSecond] at inSecond
  exact absurd (((mem_front_iff first id).mp inFirst).unique ((mem_front_iff second id).mp inSecond))
    (Nat.ne_of_lt before)

variable {before after : List (List String)} {front : List String}

theorem getD_split (split : candidates.nonDominatedSort objectives epsilon = before ++ front :: after) :
    (candidates.nonDominatedSort objectives epsilon).getD before.length [] = front := by
  rw [split, List.getD_append_right _ _ _ _ (Nat.le_refl _), Nat.sub_self, List.getD_cons_zero]

theorem front_split (split : candidates.nonDominatedSort objectives epsilon = before ++ front :: after) :
    id ∈ front ↔ candidates.Front objectives epsilon before.length id := by
  rw [← mem_front_iff, getD_split split]

theorem done_split (split : candidates.nonDominatedSort objectives epsilon = before ++ after) :
    id ∈ before.flatten ↔ candidates.Done objectives epsilon before.length id := by
  rw [mem_flatten_iff_getD]
  refine Iff.trans ?_ peeled_iff.symm
  apply exists_congr
  intro depth
  apply and_congr_right
  intro below
  have listed : id ∈ (candidates.nonDominatedSort objectives epsilon).getD depth [] ↔
      candidates.Front objectives epsilon depth id := mem_front_iff depth id
  rw [split, List.getD_append _ _ _ _ below] at listed
  exact listed

end

variable {Value : Type} [LinearOrder Value] [AddZeroClass Value] {candidates : Candidates Value}
  {objectives : List String} {id other : String}

/-- As good in every objective and better in one. -/
def Candidates.Dominates (candidates : Candidates Value) (objectives : List String) (other id : String) : Prop :=
  (∀ objective ∈ objectives,
    valueOf (candidates.valuesOf id) objective ≤ valueOf (candidates.valuesOf other) objective) ∧
    ∃ objective ∈ objectives, valueOf (candidates.valuesOf id) objective < valueOf (candidates.valuesOf other) objective

theorem beats_zero_iff : candidates.Beats objectives 0 other id ↔ candidates.Dominates objectives other id := by
  rw [Candidates.Beats, Candidates.beats, dominates_iff, Candidates.Dominates]
  simp only [add_zero, not_lt]

theorem Candidates.Dominates.trans {middle : String} (first : candidates.Dominates objectives other middle)
    (second : candidates.Dominates objectives middle id) : candidates.Dominates objectives other id := by
  obtain ⟨objective, member, better⟩ := first.2
  refine ⟨fun objective member => (second.1 objective member).trans (first.1 objective member), objective, member, ?_⟩
  exact lt_of_le_of_lt (second.1 objective member) better

theorem dominates_of_chain
    (chain : Relation.TransGen (Within (candidates.Beats objectives 0) candidates.ids) other id) :
    candidates.Dominates objectives other id := by
  induction chain with
  | single within => exact beats_zero_iff.mp within.2
  | tail _ within ih => exact ih.trans (beats_zero_iff.mp within.2)

/-- The fronts are the Pareto peeling. -/
structure ParetoPeeling (candidates : Candidates Value) (objectives : List String) (fronts : List (List String)) :
    Prop where
  partition : fronts.flatten.Perm candidates.ids
  inhabited : [] ∉ fronts
  front_iff : ∀ before front after, fronts = before ++ front :: after → ∀ id, id ∈ front ↔
    id ∈ candidates.ids ∧ id ∉ before.flatten ∧
      ∀ other ∈ candidates.ids, other ∉ before.flatten → ¬ candidates.Dominates objectives other id
  onward : ∀ before front next after, fronts = before ++ front :: next :: after → ∀ id ∈ next,
    ∃ other ∈ front, candidates.Dominates objectives other id

theorem fronts_pareto (candidates : Candidates Value) (objectives : List String) :
    ParetoPeeling candidates objectives (candidates.nonDominatedSort objectives 0) where
  partition := by
    apply (List.perm_ext_iff_of_nodup nodup_fronts (ids_nodup candidates)).mpr
    intro id
    rw [mem_fronts_iff]
    constructor
    · rintro ⟨depth, done⟩
      exact done.mem
    · have acyclic : ∀ id ∈ candidates.ids,
          ¬ Relation.TransGen (Within (candidates.Beats objectives 0) candidates.ids) id id := by
        intro id _ cycle
        obtain ⟨objective, -, better⟩ := (dominates_of_chain cycle).2
        exact lt_irrefl _ better
      exact all_peeled_iff.mpr acyclic id
  inhabited member := by
    obtain ⟨fuel, -, lists⟩ := @nonDominatedSort_lists _ _ _ candidates objectives 0
    exact (lists.each [] member).1 rfl
  front_iff before front after split id := by
    rw [front_split split, done_split split]
    refine layer_iff.trans ?_
    simp only [done_split split, beats_zero_iff]
  onward before front next after split id member := by
    have behind : candidates.nonDominatedSort objectives 0 = (before ++ [front]) ++ next :: after := by simp [split]
    have layer := (front_split behind).mp member
    rw [List.length_append, List.length_singleton] at layer
    obtain ⟨other, inside, beats⟩ := layer.beaten
    exact ⟨other, (front_split split).mpr inside, beats_zero_iff.mp beats⟩

end AutonomousApi.ParetoSelection
