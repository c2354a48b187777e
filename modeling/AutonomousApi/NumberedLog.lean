/-! Logs whose entries carry consecutive numbers. Reading such a log after a number is
dropping a prefix, also in a window of its last entries that still reaches back so far. -/

namespace AutonomousApi.NumberedLog

variable {Entry : Type} {number : Entry → Int}

def Numbered (number : Entry → Int) : Int → List Entry → Prop
  | _, [] => True
  | first, entry :: rest => number entry = first ∧ Numbered number (first + 1) rest

theorem numbered_append (first : Int) (left right : List Entry) :
    Numbered number first (left ++ right) ↔
      Numbered number first left ∧ Numbered number (first + left.length) right := by
  induction left generalizing first with
  | nil => simp [Numbered]
  | cons entry rest ih =>
      rw [List.cons_append, Numbered, Numbered, ih, and_assoc, List.length_cons]
      rw [show first + 1 + (rest.length : Int) = first + ((rest.length + 1 : Nat) : Int) by omega]

variable {first : Int} {log : List Entry}

theorem Numbered.drop (numbered : Numbered number first log) (count : Nat)
    (within : count ≤ log.length) : Numbered number (first + count) (log.drop count) := by
  have split := numbered
  rw [← List.take_append_drop count log, numbered_append, List.length_take, Nat.min_eq_left within] at split
  exact split.2

theorem Numbered.take (numbered : Numbered number first log) (count : Nat) :
    Numbered number first (log.take count) := by
  have split := numbered
  rw [← List.take_append_drop count log, numbered_append] at split
  exact split.1

theorem Numbered.bounds (numbered : Numbered number first log) :
    ∀ entry ∈ log, first ≤ number entry ∧ number entry < first + log.length := by
  induction log generalizing first with
  | nil => simp
  | cons entry rest ih =>
      intro other member
      rw [List.length_cons]
      rcases List.mem_cons.mp member with rfl | later
      · have head := numbered.1
        omega
      · have tail := ih numbered.2 other later
        omega

theorem Numbered.head {entry : Entry} {rest : List Entry}
    (numbered : Numbered number first (entry :: rest)) : number entry = first := numbered.1

/-- An entry stands at its number. -/
theorem Numbered.getElem? (numbered : Numbered number first log) {entry : Entry}
    (member : entry ∈ log) : log[(number entry - first).toNat]? = some entry := by
  induction log generalizing first with
  | nil => cases member
  | cons head rest ih =>
      rcases List.mem_cons.mp member with rfl | later
      · rw [numbered.1, show (first - first).toNat = 0 by omega, List.getElem?_cons_zero]
      · have bound := (numbered.2.bounds entry later).1
        rw [show (number entry - first).toNat = (number entry - (first + 1)).toNat + 1 by omega,
          List.getElem?_cons_succ]
        exact ih numbered.2 later

/-- The entries after a number are a suffix. -/
theorem Numbered.filter_after (numbered : Numbered number first log) (after : Int) :
    log.filter (fun entry => decide (after < number entry)) = log.drop (after + 1 - first).toNat := by
  induction log generalizing first with
  | nil => simp
  | cons entry rest ih =>
      by_cases later : after < first
      · have all : ∀ other ∈ entry :: rest, decide (after < number other) = true := by
          intro other member
          have bound := (numbered.bounds other member).1
          exact decide_eq_true (by omega)
        rw [List.filter_eq_self.mpr all, show (after + 1 - first).toNat = 0 by omega, List.drop_zero]
      · have early : ¬ after < number entry := by
          rw [numbered.1]
          exact later
        rw [List.filter_cons_of_neg (by simpa using early), ih numbered.2,
          show (after + 1 - first).toNat = (after + 1 - (first + 1)).toNat + 1 by omega, List.drop_succ_cons]

/-- The last entries of a log, as many as a window holds. -/
def keepLast (window : Nat) (log : List Entry) : List Entry := log.drop (log.length - window)

theorem keepLast_append (window : Nat) (log more : List Entry) :
    keepLast window (keepLast window log ++ more) = keepLast window (log ++ more) := by
  rw [keepLast, keepLast, keepLast, ← List.drop_append_of_le_length (by omega), List.drop_drop]
  congr 1
  rw [List.length_drop, List.length_append]
  omega

/-- Where no entry after a number has left the window, the window holds them all. -/
theorem Numbered.window_after (numbered : Numbered number 0 log) {window : Nat} {after : Int}
    (kept : (log.length : Int) ≤ after + 1 + window) :
    (keepLast window log).filter (fun entry => decide (after < number entry)) = log.drop (after + 1).toNat := by
  have shifted := numbered.drop (log.length - window) (by omega)
  rw [keepLast, shifted.filter_after, List.drop_drop]
  congr 1
  omega

end AutonomousApi.NumberedLog
