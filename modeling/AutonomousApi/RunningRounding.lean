import Mathlib.Algebra.Order.Field.Basic
import Mathlib.Algebra.BigOperators.Group.List.Basic
import Mathlib.Tactic.Linarith
import Mathlib.Tactic.Ring

/-! Sums that are rounded to whole numbers after every addition, ties going to the even one. Such a sum depends on the
order of its amounts exactly if one of them lies halfway between two whole numbers and another rounds to an odd
one; otherwise it is the sum of the rounded amounts. -/

namespace AutonomousApi.RunningRounding

variable {Amount : Type} [Field Amount] [LinearOrder Amount] [IsStrictOrderedRing Amount] {value : Amount}
  {whole other : Int}

section

/-- The whole number is nearest to the value, or one of two nearest and even. -/
def NearestEven (value : Amount) (whole : Int) : Prop :=
  |value - whole| < 1 / 2 ∨ |value - whole| = 1 / 2 ∧ whole % 2 = 0

def Halfway (value : Amount) : Prop := ∃ whole : Int, |value - whole| = 1 / 2

omit [IsStrictOrderedRing Amount] in
theorem NearestEven.le (nearest : NearestEven value whole) : |value - whole| ≤ 1 / 2 :=
  nearest.elim le_of_lt fun tie => le_of_eq tie.1

/-- Whole numbers at most half away from a value are at most one apart. -/
theorem apart_le (first : |value - whole| ≤ 1 / 2) (second : |value - other| ≤ 1 / 2) :
    other - 1 ≤ whole ∧ whole ≤ other + 1 := by
  obtain ⟨low, high⟩ := abs_le.mp first
  obtain ⟨low', high'⟩ := abs_le.mp second
  constructor
  · have bound : ((other - 1 : Int) : Amount) ≤ (whole : Int) := by push_cast; linarith
    exact_mod_cast bound
  · have bound : ((whole : Int) : Amount) ≤ ((other + 1 : Int) : Amount) := by push_cast; linarith
    exact_mod_cast bound

/-- Nearer than half, there is no other. -/
theorem eq_of_lt (first : |value - whole| < 1 / 2) (second : |value - other| ≤ 1 / 2) : whole = other := by
  obtain ⟨low, high⟩ := abs_lt.mp first
  obtain ⟨low', high'⟩ := abs_le.mp second
  have below : ((whole : Int) : Amount) < ((other + 1 : Int) : Amount) := by push_cast; linarith
  have above : ((other - 1 : Int) : Amount) < (whole : Int) := by push_cast; linarith
  have bounds : whole < other + 1 ∧ other - 1 < whole := ⟨by exact_mod_cast below, by exact_mod_cast above⟩
  omega

theorem NearestEven.unique (first : NearestEven value whole) (second : NearestEven value other) : whole = other := by
  rcases first with near | ⟨tie, even⟩
  · exact eq_of_lt near second.le
  · rcases second with near | ⟨tie', even'⟩
    · exact (eq_of_lt near (le_of_eq tie)).symm
    · have bounds := apart_le (le_of_eq tie) (le_of_eq tie')
      omega

theorem NearestEven.even (nearest : NearestEven value whole) (halfway : Halfway value) : whole % 2 = 0 := by
  obtain ⟨other, tie⟩ := halfway
  rcases nearest with near | ⟨-, even⟩
  · rw [eq_of_lt near (le_of_eq tie), tie] at near
    exact absurd near (lt_irrefl _)
  · exact even

omit [IsStrictOrderedRing Amount] in
theorem halfway_add (shift : Int) : Halfway ((shift : Amount) + value) ↔ Halfway value := by
  constructor
  · rintro ⟨whole, tie⟩
    refine ⟨whole - shift, ?_⟩
    rw [← tie]
    congr 1
    push_cast
    ring
  · rintro ⟨whole, tie⟩
    refine ⟨shift + whole, ?_⟩
    rw [← tie]
    congr 1
    push_cast
    ring

omit [IsStrictOrderedRing Amount] in
/-- Shifting by a whole number shifts what is nearest, unless an odd shift moves a tie. -/
theorem NearestEven.add (nearest : NearestEven value whole) {shift : Int} (stays : Halfway value → shift % 2 = 0) :
    NearestEven ((shift : Amount) + value) (shift + whole) := by
  have same : (shift : Amount) + value - ((shift + whole : Int) : Amount) = value - whole := by push_cast; ring
  rw [NearestEven, same]
  refine nearest.imp id fun tie => ⟨tie.1, ?_⟩
  have even := stays ⟨whole, tie.1⟩
  omega

end

variable {round : Amount → Int} {amounts : List Amount} {start : Int}

/-- A sum that is rounded after every addition. -/
def running (round : Amount → Int) (start : Int) (amounts : List Amount) : Int :=
  amounts.foldl (fun total amount => round (total + amount)) start

def Unmixed (round : Amount → Int) (amounts : List Amount) : Prop :=
  (∃ amount ∈ amounts, Halfway amount) → ∀ amount ∈ amounts, round amount % 2 = 0

variable (nearest : ∀ value, NearestEven value (round value))

include nearest

theorem round_add {shift : Int} {amount : Amount} (stays : Halfway amount → shift % 2 = 0) :
    round (shift + amount) = shift + round amount :=
  (nearest _).unique ((nearest amount).add stays)

theorem running_unmixed (unmixed : Unmixed round amounts)
    (even : (∃ amount ∈ amounts, Halfway amount) → start % 2 = 0) :
    running round start amounts = start + (amounts.map round).sum := by
  induction amounts generalizing start with
  | nil => simp [running]
  | cons amount rest ih =>
      have first := round_add nearest fun halfway => even ⟨amount, List.mem_cons_self, halfway⟩
      rw [running, List.foldl_cons, first, ← running, ih, List.map_cons, List.sum_cons, add_assoc]
      · rintro ⟨other, member, halfway⟩ more inside
        exact unmixed ⟨other, List.mem_cons_of_mem _ member, halfway⟩ more (List.mem_cons_of_mem _ inside)
      · rintro ⟨other, member, halfway⟩
        have own := unmixed ⟨other, List.mem_cons_of_mem _ member, halfway⟩ amount List.mem_cons_self
        have before := even ⟨other, List.mem_cons_of_mem _ member, halfway⟩
        omega

/-- The last amount decides whether the sum is even: one that is halfway makes it so, one that rounds to an odd number
changes it. -/
theorem running_swapped {halfway odd : Amount} (tie : Halfway halfway) (rounds : round odd % 2 = 1) :
    running round start [halfway, odd] ≠ running round start [odd, halfway] := by
  have untied : ¬ Halfway odd := fun tied => by
    have even := (nearest odd).even tied
    omega
  have first : round (start + halfway) % 2 = 0 := (nearest _).even ((halfway_add start).mpr tie)
  have second : round ((round (start + odd) : Int) + halfway) % 2 = 0 := (nearest _).even ((halfway_add _).mpr tie)
  have shifted : round ((round (start + halfway) : Int) + odd) = round (start + halfway) + round odd :=
    round_add nearest fun tied => absurd tied untied
  simp only [running, List.foldl_cons, List.foldl_nil, shifted]
  omega

/-- The order of the amounts does not matter exactly if they are not mixed. -/
theorem unmixed_iff : (∀ reordered, amounts.Perm reordered → running round 0 reordered = running round 0 amounts) ↔
    Unmixed round amounts := by
  constructor
  · rintro ordered ⟨halfway, inside, tie⟩ odd member
    by_contra rounds
    have apart : halfway ≠ odd := by
      rintro rfl
      exact rounds ((nearest halfway).even tie)
    have later : odd ∈ amounts.erase halfway := (List.mem_erase_of_ne (Ne.symm apart)).mpr member
    have perm : amounts.Perm ((amounts.erase halfway).erase odd ++ [halfway, odd]) :=
      ((List.perm_cons_erase inside).trans ((List.perm_cons_erase later).cons halfway)).trans
        (@List.perm_append_comm _ [halfway, odd] _)
    have swapped : amounts.Perm ((amounts.erase halfway).erase odd ++ [odd, halfway]) :=
      perm.trans ((List.Perm.swap odd halfway []).append_left _)
    have same := (ordered _ perm).trans (ordered _ swapped).symm
    rw [running, running, List.foldl_append, List.foldl_append] at same
    exact running_swapped nearest tie (by omega) same
  · intro unmixed reordered perm
    have also : Unmixed round reordered := by
      rintro ⟨amount, member, tie⟩ other inside
      exact unmixed ⟨amount, perm.mem_iff.mpr member, tie⟩ other (perm.mem_iff.mpr inside)
    rw [running_unmixed nearest also fun _ => rfl, running_unmixed nearest unmixed fun _ => rfl,
      (perm.map round).sum_eq]

theorem round_eq_iff : round value = whole ↔ NearestEven value whole :=
  ⟨fun same => same ▸ nearest value, fun near => (nearest value).unique near⟩

end AutonomousApi.RunningRounding
