import Mathlib.Data.List.Infix
import Mathlib.Data.List.Nodup

/-! Records that name the digest of the record before them. Such a list is fixed by its
length and last digest when a digest fixes its record, and whatever is put together from
the records of a chain is itself a chain only as a prefix of it. The records and their
digests are arbitrary. -/

namespace AutonomousApi.HashChain

variable {Record Digest : Type} (previous digest : Record → Digest)

/-- Each record names the digest before it; the first one names `expected`. -/
def Linked : Digest → List Record → Prop
  | _, [] => True
  | expected, record :: rest => previous record = expected ∧ Linked (digest record) rest

/-- The digest a further record has to name. -/
def tip : Digest → List Record → Digest
  | start, [] => start
  | _, record :: rest => tip (digest record) rest

variable {previous digest} {start : Digest}

theorem tip_append (start : Digest) (left right : List Record) :
    tip digest start (left ++ right) = tip digest (tip digest start left) right := by
  induction left generalizing start with
  | nil => rfl
  | cons record rest ih => exact ih (digest record)

theorem tip_eq_getLast (start : Digest) (chain : List Record) :
    tip digest start chain = (chain.getLast?.map digest).getD start := by
  induction chain generalizing start with
  | nil => rfl
  | cons record rest ih =>
      rw [tip, ih]
      cases rest with
      | nil => rfl
      | cons next later => simp [List.getLast?_cons]

theorem linked_append (start : Digest) (left right : List Record) :
    Linked previous digest start (left ++ right) ↔
      Linked previous digest start left ∧ Linked previous digest (tip digest start left) right := by
  induction left generalizing start with
  | nil => simp [Linked, tip]
  | cons record rest ih => simp [Linked, tip, ih, and_assoc]

/-- A loop that compares each record with the digest before it checks the links. -/
theorem linked_iff_zip [DecidableEq Digest] (start : Digest) (chain : List Record) :
    ((chain.map previous).zip (start :: chain.map digest)).all (fun pair => pair.1 == pair.2) = true ↔
      Linked previous digest start chain := by
  induction chain generalizing start with
  | nil => simp [Linked]
  | cons record rest ih => simp [Linked, ← ih, beq_iff_eq]

/-- A digest that fixes its record fixes, with the length, the whole chain behind it. -/
theorem Linked.binding {left right : List Record} {other : Digest} (linkedLeft : Linked previous digest start left)
    (linkedRight : Linked previous digest other right) (sameLength : left.length = right.length)
    (fixes : ∀ a ∈ left, ∀ b ∈ right, digest a = digest b → a = b)
    (sameTip : left.getLast?.map digest = right.getLast?.map digest) : left = right := by
  induction left using List.reverseRecOn generalizing right with
  | nil => exact (List.length_eq_zero_iff.mp sameLength.symm).symm
  | append_singleton earlier record ih =>
      obtain ⟨before, last, rfl⟩ : ∃ before last, right = before ++ [last] := by
        have present : right ≠ [] := by
          rintro rfl
          simp at sameLength
        exact ⟨right.dropLast, right.getLast present, (List.dropLast_append_getLast present).symm⟩
      obtain rfl : record = last := fixes record (by simp) last (by simp) (by simpa using sameTip)
      obtain ⟨chainLeft, nameLeft⟩ := (linked_append start earlier [record]).mp linkedLeft
      obtain ⟨chainRight, nameRight⟩ := (linked_append other before [record]).mp linkedRight
      have shorter : earlier.length = before.length := by simpa using sameLength
      have samePrevious : tip digest start earlier = tip digest other before :=
        nameLeft.1.symm.trans nameRight.1
      have sameLast : earlier.getLast?.map digest = before.getLast?.map digest := by
        rw [tip_eq_getLast, tip_eq_getLast] at samePrevious
        rcases List.eq_nil_or_concat earlier with rfl | ⟨_, a, rfl⟩
        · obtain rfl := List.length_eq_zero_iff.mp shorter.symm
          rfl
        · rcases List.eq_nil_or_concat before with rfl | ⟨_, b, rfl⟩
          · simp at shorter
          · simpa using samePrevious
      rw [ih chainLeft chainRight shorter
        (fun a inLeft b inRight => fixes a (by simp [inLeft]) b (by simp [inRight])) sameLast]

variable {chain : List Record}

/-- A record of a chain names its start or the digest of another record of it. -/
theorem Linked.previous_mem (linked : Linked previous digest start chain) :
    ∀ record ∈ chain, previous record ∈ start :: chain.map digest := by
  induction chain generalizing start with
  | nil => simp
  | cons first rest ih =>
      intro record member
      rcases List.mem_cons.mp member with rfl | later
      · simp [linked.1]
      · exact List.mem_cons_of_mem _ (ih linked.2 record later)

/-- No record of a chain names its tip, so a record that does is new to the chain. -/
theorem Linked.previous_ne_tip (linked : Linked previous digest start chain)
    (distinct : (start :: chain.map digest).Nodup) : ∀ record ∈ chain, previous record ≠ tip digest start chain := by
  induction chain generalizing start with
  | nil => simp
  | cons first rest ih =>
      intro record member
      rw [List.map_cons, List.nodup_cons] at distinct
      rcases List.mem_cons.mp member with rfl | later
      · have inside : tip digest start (record :: rest) ∈ digest record :: rest.map digest := by
          rw [tip, tip_eq_getLast]
          cases last : rest.getLast? with
          | none => simp
          | some final => simp [List.mem_map_of_mem (List.mem_of_getLast? last)]
        intro same
        rw [← same, linked.1] at inside
        exact distinct.1 inside
      · exact ih linked.2 distinct.2 record later

/-- Chains from one start are related record by record when their tips agree and a digest fixes
both the record and what it names; that no digest is the start makes them equally long. -/
theorem Linked.tip_binding {left right : List Record} {same : Record → Record → Prop}
    (linkedLeft : Linked previous digest start left) (linkedRight : Linked previous digest start right)
    (fixes : ∀ a ∈ left, ∀ b ∈ right, digest a = digest b → same a b ∧ previous a = previous b)
    (fresh : ∀ record ∈ left ++ right, digest record ≠ start)
    (sameTip : tip digest start left = tip digest start right) :
    List.Forall₂ same left right := by
  induction left using List.reverseRecOn generalizing right with
  | nil =>
      rcases List.eq_nil_or_concat right with rfl | ⟨before, last, rfl⟩
      · exact .nil
      · rw [List.concat_eq_append, tip_append] at sameTip
        exact absurd sameTip.symm (fresh last (by simp))
  | append_singleton earlier record ih =>
      rcases List.eq_nil_or_concat right with rfl | ⟨before, last, rfl⟩
      · rw [tip_append] at sameTip
        exact absurd sameTip (fresh record (by simp))
      · rw [List.concat_eq_append] at linkedRight sameTip fixes fresh ⊢
        rw [tip_append, tip_append] at sameTip
        obtain ⟨related, samePrevious⟩ := fixes record (by simp) last (by simp) sameTip
        obtain ⟨chainLeft, nameLeft⟩ := (linked_append start earlier [record]).mp linkedLeft
        obtain ⟨chainRight, nameRight⟩ := (linked_append start before [last]).mp linkedRight
        have tips : tip digest start earlier = tip digest start before :=
          nameLeft.1.symm.trans (samePrevious.trans nameRight.1)
        refine List.rel_append (ih chainLeft chainRight ?_ ?_ tips) (.cons related .nil)
        · exact fun a inLeft b inRight => fixes a (by simp [inLeft]) b (by simp [inRight])
        · intro other member
          refine fresh other ?_
          rcases List.mem_append.mp member with inLeft | inRight
          · simp [inLeft]
          · simp [inRight]

/-- What is drawn from a chain, in any order and any number of copies, is linked only as a
prefix of it. -/
theorem Linked.of_drawn {drawn : List Record} (linked : Linked previous digest start chain)
    (distinct : (start :: chain.map digest).Nodup) (members : ∀ record ∈ drawn, record ∈ chain)
    (relinked : Linked previous digest start drawn) : drawn <+: chain := by
  induction chain generalizing start drawn with
  | nil =>
      rw [List.eq_nil_iff_forall_not_mem.mpr fun record inside => List.not_mem_nil (members record inside)]
  | cons first rest ih =>
      cases drawn with
      | nil => exact List.nil_prefix
      | cons head later =>
          rw [List.map_cons, List.nodup_cons] at distinct
          -- only the first record of the chain names its start
          have onlyFirst (record : Record) (member : record ∈ rest) : previous record ≠ start := by
            intro same
            have inside := linked.2.previous_mem record member
            rw [same] at inside
            exact distinct.1 inside
          obtain rfl : head = first := by
            rcases List.mem_cons.mp (members head (by simp)) with same | member
            · exact same
            · exact absurd relinked.1 (onlyFirst head member)
          have laterMembers : ∀ record ∈ later, record ∈ rest := by
            intro record member
            rcases List.mem_cons.mp (members record (by simp [member])) with rfl | inside
            · have named := relinked.2.previous_mem record member
              rw [relinked.1] at named
              have drawnDigests : ∀ value ∈ digest record :: later.map digest,
                  value ∈ digest record :: rest.map digest := by
                intro value inside
                rcases List.mem_cons.mp inside with rfl | tail
                · exact List.mem_cons_self
                · obtain ⟨other, drawnOther, rfl⟩ := List.mem_map.mp tail
                  exact List.mem_map_of_mem (f := digest) (members other (by simp [drawnOther]))
              exact absurd (drawnDigests start named) distinct.1
            · exact inside
          exact List.cons_prefix_cons.mpr ⟨rfl, ih linked.2 distinct.2 laterMembers relinked.2⟩

theorem Linked.restrict {shorter : List Record} (linked : Linked previous digest start chain)
    (kept : shorter <+: chain) : Linked previous digest start shorter := by
  obtain ⟨rest, rfl⟩ := kept
  exact ((linked_append start shorter rest).mp linked).1

end AutonomousApi.HashChain
