import Mathlib.Data.Set.Finite.Basic

/-! Peeling a finite collection by a relation: the first layer is what nothing beats, and each later one what
nothing beats but what was taken away before. The relation is any; what lies on a cycle, or behind
one, is in no layer. -/

namespace AutonomousApi.Layers

variable {Item : Type} {Beats : Item → Item → Prop} {items : List Item}

section

variable (Beats items)

/-- Taken away within so many rounds. -/
def Peeled : Nat → Item → Prop
  | 0, _ => False
  | depth + 1, item => item ∈ items ∧ ∀ other ∈ items, Beats other item → Peeled depth other

/-- Taken away in the round of that number. -/
def Layer (depth : Nat) (item : Item) : Prop := Peeled Beats items (depth + 1) item ∧ ¬ Peeled Beats items depth item

/-- The relation inside the collection. -/
def Within (other item : Item) : Prop := other ∈ items ∧ Beats other item

end

section

variable {item other : Item} {depth round : Nat}

theorem Peeled.mem (peeled : Peeled Beats items depth item) : item ∈ items := by
  cases depth with
  | zero => exact peeled.elim
  | succ depth => exact peeled.1

theorem Peeled.succ (peeled : Peeled Beats items depth item) : Peeled Beats items (depth + 1) item := by
  induction depth generalizing item with
  | zero => exact peeled.elim
  | succ depth ih => exact ⟨peeled.1, fun other member beats => ih (peeled.2 other member beats)⟩

theorem Peeled.mono (peeled : Peeled Beats items depth item) (later : depth ≤ round) :
    Peeled Beats items round item := by
  induction later with
  | refl => exact peeled
  | step _ ih => exact ih.succ

theorem Layer.mem (layer : Layer Beats items depth item) : item ∈ items := layer.1.1

/-- A layer is what is left and not beaten by anything that is left. -/
theorem layer_iff : Layer Beats items depth item ↔ item ∈ items ∧ ¬ Peeled Beats items depth item ∧
    ∀ other ∈ items, ¬ Peeled Beats items depth other → ¬ Beats other item := by
  constructor
  · rintro ⟨⟨member, behind⟩, left⟩
    exact ⟨member, left, fun other inside rest beats => rest (behind other inside beats)⟩
  · rintro ⟨member, left, free⟩
    refine ⟨⟨member, fun other inside beats => ?_⟩, left⟩
    by_contra rest
    exact free other inside rest beats

theorem Layer.beaten (layer : Layer Beats items (depth + 1) item) :
    ∃ other, Layer Beats items depth other ∧ Beats other item := by
  obtain ⟨⟨member, behind⟩, left⟩ := layer
  by_contra none
  apply left
  refine ⟨member, fun other inside beats => ?_⟩
  by_contra rest
  exact none ⟨other, ⟨behind other inside beats, rest⟩, beats⟩

theorem Layer.unique (layer : Layer Beats items depth item) (also : Layer Beats items round item) : depth = round := by
  by_contra apart
  rcases Nat.lt_or_gt_of_ne apart with before | after
  · exact also.2 (layer.1.mono before)
  · exact layer.2 (also.1.mono after)

theorem peeled_iff : Peeled Beats items depth item ↔ ∃ round < depth, Layer Beats items round item := by
  constructor
  · intro peeled
    induction depth with
    | zero => exact peeled.elim
    | succ depth ih =>
        by_cases earlier : Peeled Beats items depth item
        · obtain ⟨round, before, layer⟩ := ih earlier
          exact ⟨round, Nat.lt_succ_of_lt before, layer⟩
        · exact ⟨depth, Nat.lt_succ_self depth, peeled, earlier⟩
  · rintro ⟨round, before, layer⟩
    exact layer.1.mono before

theorem Layer.earlier (layer : Layer Beats items depth item) (before : round ≤ depth) :
    ∃ other, Layer Beats items round other := by
  induction depth generalizing item with
  | zero =>
      obtain rfl : round = 0 := Nat.le_zero.mp before
      exact ⟨item, layer⟩
  | succ depth ih =>
      rcases Nat.lt_or_eq_of_le before with earlier | rfl
      · obtain ⟨other, inside, -⟩ := layer.beaten
        exact ih inside (Nat.le_of_lt_succ earlier)
      · exact ⟨item, layer⟩

/-- There are no more layers than there are items. -/
theorem Layer.lt_length (layer : Layer Beats items depth item) : depth < items.length := by
  have inhabited : ∀ round : Fin (depth + 1), ∃ other, Layer Beats items round other :=
    fun round => layer.earlier (Nat.le_of_lt_succ round.2)
  choose member chosen using inhabited
  have apart : Function.Injective member := by
    intro round other same
    exact Fin.ext ((chosen round).unique (same ▸ chosen other))
  have distinct : (List.ofFn member).Nodup := List.nodup_ofFn.mpr apart
  have inside : List.ofFn member ⊆ items := by
    intro other listed
    obtain ⟨round, rfl⟩ := List.mem_ofFn.mp listed
    exact (chosen round).mem
  have size := (List.subperm_of_subset distinct inside).length_le
  rw [List.length_ofFn] at size
  exact size

/-- Only what is in the collection matters, not how it is listed. -/
theorem peeled_congr {others : List Item} (same : ∀ item, item ∈ items ↔ item ∈ others) :
    Peeled Beats items depth item ↔ Peeled Beats others depth item := by
  induction depth generalizing item with
  | zero => exact Iff.rfl
  | succ depth ih =>
      apply and_congr (same item)
      apply forall_congr'
      intro other
      exact imp_congr (same other) (imp_congr_right fun _ => ih)

theorem layer_congr {others : List Item} (same : ∀ item, item ∈ items ↔ item ∈ others) :
    Layer Beats items depth item ↔ Layer Beats others depth item :=
  and_congr (peeled_congr same) (not_congr (peeled_congr same))

end

variable {item : Item}

/-- Finitely many items that are all taken away are taken away within a common number of rounds. -/
theorem peeled_together {some : List Item} (each : ∀ item ∈ some, ∃ depth, Peeled Beats items depth item) :
    ∃ depth, ∀ item ∈ some, Peeled Beats items depth item := by
  induction some with
  | nil => exact ⟨0, fun item member => absurd member List.not_mem_nil⟩
  | cons first rest ih =>
      obtain ⟨depth, peeled⟩ := each first List.mem_cons_self
      obtain ⟨common, together⟩ := ih fun item member => each item (List.mem_cons_of_mem _ member)
      refine ⟨max depth common, fun item member => ?_⟩
      rcases List.mem_cons.mp member with rfl | inside
      · exact peeled.mono (le_max_left _ _)
      · exact (together item inside).mono (le_max_right _ _)

/-- What is in a layer is what has no endless chain of beaters. -/
theorem exists_peeled_iff (member : item ∈ items) :
    (∃ depth, Peeled Beats items depth item) ↔ Acc (Within Beats items) item := by
  constructor
  · rintro ⟨depth, peeled⟩
    induction depth generalizing item with
    | zero => exact peeled.elim
    | succ depth ih => exact ⟨item, fun other within => ih within.1 (peeled.2 other within.1 within.2)⟩
  · intro grounded
    induction grounded with
    | intro item _ ih =>
        classical
        have each : ∀ other ∈ items.filter fun other => Beats other item, ∃ depth, Peeled Beats items depth other := by
          intro other chosen
          obtain ⟨inside, beats⟩ := List.mem_filter.mp chosen
          exact ih other ⟨inside, of_decide_eq_true beats⟩ inside
        obtain ⟨depth, together⟩ := peeled_together each
        exact ⟨depth + 1, member, fun other inside beats =>
          together other (List.mem_filter.mpr ⟨inside, decide_eq_true beats⟩)⟩

/-- Everything is in a layer exactly if nothing beats itself through a chain. -/
theorem all_peeled_iff : (∀ item ∈ items, ∃ depth, Peeled Beats items depth item) ↔
    ∀ item ∈ items, ¬ Relation.TransGen (Within Beats items) item item := by
  constructor
  · intro each item member cycle
    obtain ⟨depth, peeled⟩ := each item member
    -- the beater of `item` on the cycle is taken away before it and lies on the cycle too
    induction depth generalizing item with
    | zero => exact peeled.elim
    | succ depth ih =>
        obtain ⟨before, way, within⟩ := Relation.TransGen.tail'_iff.mp cycle
        have around : Relation.TransGen (Within Beats items) before before := Relation.TransGen.head' within way
        exact ih before within.1 around (peeled.2 before within.1 within.2)
  · intro acyclic item member
    have finite : Finite { item // item ∈ items } := (List.finite_toSet items).to_subtype
    let chained (first last : { item // item ∈ items }) : Prop := Relation.TransGen (Within Beats items) first.1 last.1
    have transitive : IsTrans _ chained := ⟨fun _ _ _ first second => first.trans second⟩
    have irreflexive : Std.Irrefl chained := ⟨fun item cycle => acyclic item.1 item.2 cycle⟩
    have founded : WellFounded chained := Finite.wellFounded_of_trans_of_irrefl chained
    apply (exists_peeled_iff member).mpr
    have grounded : ∀ item : { item // item ∈ items }, Acc (Within Beats items) item.1 := by
      intro item
      induction item using founded.induction with
      | _ item ih => exact ⟨item.1, fun other within => ih ⟨other, within.1⟩ (.single within)⟩
    exact grounded ⟨item, member⟩

end AutonomousApi.Layers
