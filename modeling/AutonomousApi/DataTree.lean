import Mathlib.Data.List.Sort
import Mathlib.Data.String.Basic

/-! Finite documents: atoms, ordered lists and keyed records, over arbitrary key
and atom types. Records keep the order in which their entries were written;
`sortKeys` forgets that order at every depth, so two documents are equal as maps
exactly when their sorted forms are equal. Equality and sorting compute. -/

namespace AutonomousApi.DataTree

inductive Tree (Key Atom : Type) where
  | atom (value : Atom)
  | list (items : List (Tree Key Atom))
  | dict (entries : List (Key × Tree Key Atom))
  deriving Inhabited

variable {Key Atom : Type}

/-- Induction with the members of a list or record as the smaller documents. -/
@[elab_as_elim, induction_eliminator]
theorem Tree.induct {motive : Tree Key Atom → Prop}
    (atom : ∀ value, motive (.atom value))
    (list : ∀ items, (∀ item ∈ items, motive item) → motive (.list items))
    (dict : ∀ entries, (∀ entry ∈ entries, motive entry.2) → motive (.dict entries))
    (tree : Tree Key Atom) : motive tree := by
  refine @Tree.rec Key Atom motive (fun items => ∀ item ∈ items, motive item)
    (fun entries => ∀ entry ∈ entries, motive entry.2) (fun entry => motive entry.2)
    atom list dict ?_ ?_ ?_ ?_ ?_ tree
  · simp
  · intro head tail first rest item member
    rcases List.mem_cons.mp member with rfl | inside
    · exact first
    · exact rest item inside
  · simp
  · intro head tail first rest entry member
    rcases List.mem_cons.mp member with rfl | inside
    · exact first
    · exact rest entry inside
  · intro _ _ value
    exact value

section

variable [DecidableEq Key] [DecidableEq Atom]

mutual
def same : Tree Key Atom → Tree Key Atom → Bool
  | .atom left, .atom right => left == right
  | .list left, .list right => sameItems left right
  | .dict left, .dict right => sameEntries left right
  | _, _ => false

def sameItems : List (Tree Key Atom) → List (Tree Key Atom) → Bool
  | [], [] => true
  | left :: lefts, right :: rights => same left right && sameItems lefts rights
  | _, _ => false

def sameEntries : List (Key × Tree Key Atom) → List (Key × Tree Key Atom) → Bool
  | [], [] => true
  | (leftKey, left) :: lefts, (rightKey, right) :: rights =>
      leftKey == rightKey && same left right && sameEntries lefts rights
  | _, _ => false
end

attribute [local simp] same sameItems sameEntries

theorem same_iff (left right : Tree Key Atom) : same left right = true ↔ left = right := by
  induction left generalizing right with
  | atom value => cases right <;> simp
  | list items ih =>
      cases right with
      | atom value => simp
      | dict entries => simp
      | list others =>
          have items_iff : sameItems items others = true ↔ items = others := by
            induction items generalizing others with
            | nil => cases others <;> simp
            | cons item rest tail =>
                cases others with
                | nil => simp
                | cons other remaining =>
                    have head := ih item (by simp) other
                    have later := tail (fun inner member => ih inner (by simp [member])) remaining
                    simp [head, later]
          simp [items_iff]
  | dict entries ih =>
      cases right with
      | atom value => simp
      | list items => simp
      | dict others =>
          have entries_iff : sameEntries entries others = true ↔ entries = others := by
            induction entries generalizing others with
            | nil => cases others <;> simp
            | cons entry rest tail =>
                cases others with
                | nil => simp
                | cons other remaining =>
                    have head := ih entry (by simp) other.2
                    have later := tail (fun inner member => ih inner (by simp [member])) remaining
                    simp [head, later, Prod.ext_iff]
          simp [entries_iff]

instance : DecidableEq (Tree Key Atom) := fun left right =>
  decidable_of_iff (same left right = true) (same_iff left right)

end

mutual
def mapAtoms (image : Atom → Image) : Tree Key Atom → Tree Key Image
  | .atom value => .atom (image value)
  | .list items => .list (mapItems image items)
  | .dict entries => .dict (mapEntries image entries)

def mapItems (image : Atom → Image) : List (Tree Key Atom) → List (Tree Key Image)
  | [] => []
  | item :: rest => mapAtoms image item :: mapItems image rest

def mapEntries (image : Atom → Image) : List (Key × Tree Key Atom) → List (Key × Tree Key Image)
  | [] => []
  | (key, value) :: rest => (key, mapAtoms image value) :: mapEntries image rest
end

section

mutual
/-- Equality as maps: the same atoms, lists item by item, and records of equal
size in which every entry of one has an equal entry under its key in the other. -/
def SameMap : Tree Key Atom → Tree Key Atom → Prop
  | .atom left, .atom right => left = right
  | .list left, .list right => SameItems left right
  | .dict left, .dict right => left.length = right.length ∧ SameEntries left right
  | _, _ => False

def SameItems : List (Tree Key Atom) → List (Tree Key Atom) → Prop
  | [], [] => True
  | left :: lefts, right :: rights => SameMap left right ∧ SameItems lefts rights
  | _, _ => False

def SameEntries : List (Key × Tree Key Atom) → List (Key × Tree Key Atom) → Prop
  | [], _ => True
  | (key, value) :: rest, others =>
      (∃ other, (key, other) ∈ others ∧ SameMap value other) ∧ SameEntries rest others
end

mutual
/-- No record of the document repeats a key. -/
def Distinct : Tree Key Atom → Prop
  | .atom _ => True
  | .list items => DistinctItems items
  | .dict entries => (entries.map Prod.fst).Nodup ∧ DistinctEntries entries

def DistinctItems : List (Tree Key Atom) → Prop
  | [] => True
  | item :: rest => Distinct item ∧ DistinctItems rest

def DistinctEntries : List (Key × Tree Key Atom) → Prop
  | [] => True
  | (_, value) :: rest => Distinct value ∧ DistinctEntries rest
end

attribute [local simp] SameMap SameItems SameEntries Distinct DistinctItems DistinctEntries

theorem sameEntries_iff (left right : List (Key × Tree Key Atom)) :
    SameEntries left right ↔
      ∀ entry ∈ left, ∃ other, (entry.1, other) ∈ right ∧ SameMap entry.2 other := by
  induction left with
  | nil => simp
  | cons entry rest ih => simp [ih]

theorem sameMap_dict_iff (left right : List (Key × Tree Key Atom)) :
    SameMap (.dict left) (.dict right) ↔ left.length = right.length ∧
      ∀ entry ∈ left, ∃ other, (entry.1, other) ∈ right ∧ SameMap entry.2 other := by
  rw [SameMap, sameEntries_iff]

theorem sameMap_atom (value : Atom) : SameMap (.atom value : Tree Key Atom) (.atom value) := by
  rw [SameMap]

theorem distinctEntries_iff (entries : List (Key × Tree Key Atom)) :
    DistinctEntries entries ↔ ∀ entry ∈ entries, Distinct entry.2 := by
  induction entries with
  | nil => simp
  | cons entry rest ih => simp [ih]

theorem distinct_dict_iff (entries : List (Key × Tree Key Atom)) :
    Distinct (.dict entries) ↔ (entries.map Prod.fst).Nodup ∧ ∀ entry ∈ entries, Distinct entry.2 := by
  rw [Distinct, distinctEntries_iff]

theorem distinctItems_iff (items : List (Tree Key Atom)) :
    DistinctItems items ↔ ∀ item ∈ items, Distinct item := by
  induction items with
  | nil => simp
  | cons item rest ih => simp [ih]

section

variable [DecidableEq Key]

mutual
def isDistinct : Tree Key Atom → Bool
  | .atom _ => true
  | .list items => isDistinctItems items
  | .dict entries => decide (entries.map Prod.fst).Nodup && isDistinctEntries entries

def isDistinctItems : List (Tree Key Atom) → Bool
  | [] => true
  | item :: rest => isDistinct item && isDistinctItems rest

def isDistinctEntries : List (Key × Tree Key Atom) → Bool
  | [] => true
  | (_, value) :: rest => isDistinct value && isDistinctEntries rest
end

attribute [local simp] isDistinct isDistinctItems isDistinctEntries

theorem isDistinct_iff (tree : Tree Key Atom) : isDistinct tree = true ↔ Distinct tree := by
  induction tree with
  | atom value => simp [Distinct]
  | list items ih =>
      rw [isDistinct, Distinct]
      induction items with
      | nil => simp [DistinctItems]
      | cons item rest tail =>
          rw [isDistinctItems, DistinctItems, Bool.and_eq_true, ih item (by simp),
            tail fun inner member => ih inner (by simp [member])]
  | dict entries ih =>
      rw [isDistinct, Distinct, Bool.and_eq_true, decide_eq_true_eq]
      refine and_congr_right' ?_
      induction entries with
      | nil => simp [DistinctEntries]
      | cons entry rest tail =>
          rw [isDistinctEntries, DistinctEntries, Bool.and_eq_true, ih entry (by simp),
            tail fun inner member => ih inner (by simp [member])]

instance (tree : Tree Key Atom) : Decidable (Distinct tree) := decidable_of_iff _ (isDistinct_iff tree)

end

end

variable [LinearOrder Key]

def keyOrder (left right : Key × Tree Key Atom) : Prop := left.1 ≤ right.1

instance : DecidableRel (keyOrder : Key × Tree Key Atom → Key × Tree Key Atom → Prop) :=
  fun left right => inferInstanceAs (Decidable (left.1 ≤ right.1))

mutual
def sortKeys : Tree Key Atom → Tree Key Atom
  | .atom value => .atom value
  | .list items => .list (sortItems items)
  | .dict entries => .dict ((sortEntries entries).insertionSort keyOrder)

def sortItems : List (Tree Key Atom) → List (Tree Key Atom)
  | [] => []
  | item :: rest => sortKeys item :: sortItems rest

def sortEntries : List (Key × Tree Key Atom) → List (Key × Tree Key Atom)
  | [] => []
  | (key, value) :: rest => (key, sortKeys value) :: sortEntries rest
end

attribute [local simp] sortKeys sortItems sortEntries

theorem sortEntries_eq_map (entries : List (Key × Tree Key Atom)) :
    sortEntries entries = entries.map fun entry => (entry.1, sortKeys entry.2) := by
  induction entries with
  | nil => simp
  | cons entry rest ih => simp [ih]

theorem sortItems_eq_map (items : List (Tree Key Atom)) :
    sortItems items = items.map sortKeys := by
  induction items with
  | nil => simp
  | cons item rest ih => simp [ih]

/-- Records with distinct keys that agree entry by entry sort to one list. -/
theorem sorted_entries_unique (left right : List (Key × Tree Key Atom))
    (distinctLeft : (left.map Prod.fst).Nodup) (distinctRight : (right.map Prod.fst).Nodup)
    (size : left.length = right.length) (inside : ∀ entry ∈ left, entry ∈ right) :
    left.insertionSort keyOrder = right.insertionSort keyOrder := by
  have total : Std.Total (keyOrder : Key × Tree Key Atom → Key × Tree Key Atom → Prop) :=
    ⟨fun a b => le_total a.1 b.1⟩
  have trans : IsTrans (Key × Tree Key Atom) keyOrder := ⟨fun _ _ _ => le_trans⟩
  have permutation : left.Perm right :=
    (List.subperm_of_subset distinctLeft.of_map inside).perm_of_length_le (by omega)
  have sorted_perm : (left.insertionSort keyOrder).Perm (right.insertionSort keyOrder) :=
    (List.perm_insertionSort keyOrder left).trans
      (permutation.trans (List.perm_insertionSort keyOrder right).symm)
  refine List.Perm.eq_of_pairwise ?_ (List.pairwise_insertionSort keyOrder left)
    (List.pairwise_insertionSort keyOrder right) sorted_perm
  intro a b memberA memberB before after
  have key : a.1 = b.1 := le_antisymm before after
  have inRightA : a ∈ right := inside a ((List.mem_insertionSort keyOrder).mp memberA)
  have inRightB : b ∈ right := (List.mem_insertionSort keyOrder).mp memberB
  exact List.inj_on_of_nodup_map distinctRight inRightA inRightB key

theorem sortKeys_of_sameMap (left right : Tree Key Atom) (same : SameMap left right)
    (distinctLeft : Distinct left) (distinctRight : Distinct right) :
    sortKeys left = sortKeys right := by
  induction left generalizing right with
  | atom value => cases right <;> simp_all [SameMap]
  | list items ih =>
      cases right with
      | atom value => simp [SameMap] at same
      | dict entries => simp [SameMap] at same
      | list others =>
          simp only [SameMap, Distinct, distinctItems_iff] at same distinctLeft distinctRight
          simp only [sortKeys, Tree.list.injEq]
          induction items generalizing others with
          | nil => cases others <;> simp_all [SameItems]
          | cons item rest tail =>
              cases others with
              | nil => simp [SameItems] at same
              | cons other remaining =>
                  simp only [SameItems] at same
                  have head := ih item (by simp) other same.1 (distinctLeft item (by simp))
                    (distinctRight other (by simp))
                  have later := tail (fun inner member => ih inner (by simp [member])) remaining
                    same.2 (fun inner member => distinctLeft inner (by simp [member]))
                    (fun inner member => distinctRight inner (by simp [member]))
                  simp [head, later]
  | dict entries ih =>
      cases right with
      | atom value => simp [SameMap] at same
      | list items => simp [SameMap] at same
      | dict others =>
          simp only [SameMap, sameEntries_iff, Distinct, distinctEntries_iff] at same distinctLeft distinctRight
          simp only [sortKeys, Tree.dict.injEq, sortEntries_eq_map]
          apply sorted_entries_unique
          · simpa [Function.comp_def] using distinctLeft.1
          · simpa [Function.comp_def] using distinctRight.1
          · simpa using same.1
          · intro sorted member
            obtain ⟨entry, inside, rfl⟩ := List.mem_map.mp member
            obtain ⟨other, found, equal⟩ := same.2 entry inside
            have below := ih entry inside other equal (distinctLeft.2 entry inside)
              (distinctRight.2 _ found)
            exact List.mem_map.mpr ⟨(entry.1, other), found, by simp [below]⟩

theorem sortKeys_sortKeys (tree : Tree Key Atom) : sortKeys (sortKeys tree) = sortKeys tree := by
  induction tree with
  | atom value => rfl
  | list items ih =>
      rw [sortKeys, sortKeys, sortItems_eq_map, sortItems_eq_map, List.map_map]
      exact congrArg Tree.list (List.map_congr_left ih)
  | dict entries ih =>
      have : IsTrans (Key × Tree Key Atom) keyOrder := ⟨fun _ _ _ first second => le_trans first second⟩
      have : Std.Total (keyOrder : Key × Tree Key Atom → _ → Prop) := ⟨fun left right => le_total left.1 right.1⟩
      have ordered := List.pairwise_insertionSort (keyOrder : Key × Tree Key Atom → _ → Prop) (sortEntries entries)
      have fixed : sortEntries ((sortEntries entries).insertionSort keyOrder) =
          (sortEntries entries).insertionSort keyOrder := by
        rw [sortEntries_eq_map]
        refine (List.map_congr_left fun entry member => ?_).trans (List.map_id' _)
        rw [List.mem_insertionSort, sortEntries_eq_map, List.mem_map] at member
        obtain ⟨original, inside, rfl⟩ := member
        exact congrArg (Prod.mk original.1) (ih original inside)
      rw [sortKeys, sortKeys, fixed, ordered.insertionSort_eq]

end AutonomousApi.DataTree
