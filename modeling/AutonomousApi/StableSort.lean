import Mathlib.Data.List.Sort

/-! What one more item does to a list sorted by a stable sort: it goes between two parts of the
sorted list and leaves both as they were. -/

namespace AutonomousApi.StableSort

variable {Item : Type} {sooner : Item → Item → Prop} [DecidableRel sooner]

/-- An item inserted next to `added` finds the same place whether `added` is there or not. -/
theorem orderedInsert_around [IsTrans Item sooner] (item added : Item) (ahead behind : List Item)
    (sorted : ∀ later ∈ behind, sooner added later) :
    ∃ ahead' behind', (ahead ++ added :: behind).orderedInsert sooner item = ahead' ++ added :: behind' ∧
      (ahead ++ behind).orderedInsert sooner item = ahead' ++ behind' := by
  induction ahead with
  | nil =>
      by_cases first : sooner item added
      · refine ⟨[item], behind, by simp [first], ?_⟩
        cases behind with
        | nil => rfl
        | cons next rest =>
            have before : sooner item next := IsTrans.trans _ _ _ first (sorted next List.mem_cons_self)
            simp [before]
      · exact ⟨[], behind.orderedInsert sooner item, by simp [first], rfl⟩
  | cons head rest ih =>
      by_cases first : sooner item head
      · exact ⟨item :: head :: rest, behind, by simp [first], by simp [first]⟩
      · cases ih with
        | intro ahead' found =>
            cases found with
            | intro behind' found =>
                exact ⟨head :: ahead', behind', by simp [first, found.1], by simp [first, found.2]⟩

/-- Sorting with one more item: the others keep their order, and the item stands between them. -/
theorem insertionSort_around [Std.Total sooner] [IsTrans Item sooner] (front back : List Item) (added : Item) :
    ∃ ahead behind, (front ++ added :: back).insertionSort sooner = ahead ++ added :: behind ∧
      (front ++ back).insertionSort sooner = ahead ++ behind := by
  induction front with
  | nil =>
      refine ⟨_, _, List.orderedInsert_eq_take_drop sooner added (back.insertionSort sooner), ?_⟩
      exact (List.takeWhile_append_dropWhile ..).symm
  | cons item rest ih =>
      obtain ⟨ahead, behind, withAdded, without⟩ := ih
      have sorted : ∀ later ∈ behind, sooner added later := by
        have ordered := List.pairwise_insertionSort sooner (rest ++ added :: back)
        rw [withAdded] at ordered
        exact (List.pairwise_cons.mp (List.pairwise_append.mp ordered).2.1).1
      simp only [List.cons_append, List.insertionSort_cons, withAdded, without]
      exact orderedInsert_around item added ahead behind sorted

end AutonomousApi.StableSort
