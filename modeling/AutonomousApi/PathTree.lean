import AutonomousApi.OrderedMap

/-! Values addressed by paths. A node holds a value and its children under segments: a name,
with an index where the child is an item of a list. `flatten` lists every value under its
path; where the children of a node have different segments no path is listed twice, and
what is found under a path is what one gets by walking down to it. -/

namespace AutonomousApi.PathTree

open OrderedMap

abbrev Segment := String × Option Nat

abbrev Path := List Segment

inductive AddressTree (Value : Type) where
  | node (value : Value) (children : List (Segment × AddressTree Value))

variable {Value : Type}

mutual
def flatten (base : Path) : AddressTree Value → List (Path × Value)
  | .node value children => (base, value) :: flattenChildren base children

def flattenChildren (base : Path) : List (Segment × AddressTree Value) → List (Path × Value)
  | [] => []
  | (segment, child) :: rest => flatten (base ++ [segment]) child ++ flattenChildren base rest
end

def lookup : Path → AddressTree Value → Option Value
  | [], .node value _ => some value
  | segment :: rest, .node _ children => (get children segment).bind (lookup rest)

/-- The items of a list as children under one name. -/
def family (name : String) (items : List Item) (grow : Item → AddressTree Value) : List (Segment × AddressTree Value) :=
  items.zipIdx.map fun entry => ((name, some entry.2), grow entry.1)

inductive Addressed : AddressTree Value → Prop
  | node {value : Value} {children : List (Segment × AddressTree Value)} (distinct : (keys children).Nodup)
      (each : ∀ child ∈ children, Addressed child.2) : Addressed (.node value children)

mutual
theorem flatten_under (base : Path) (tree : AddressTree Value) : ∀ entry ∈ flatten base tree, base <+: entry.1 := by
  cases tree with
  | node value children =>
      intro entry member
      rcases List.mem_cons.mp member with rfl | inside
      · exact List.prefix_refl base
      · obtain ⟨child, _, under⟩ := flattenChildren_under base children entry inside
        exact (List.prefix_append base [child.1]).trans under

theorem flattenChildren_under (base : Path) (children : List (Segment × AddressTree Value)) :
    ∀ entry ∈ flattenChildren base children, ∃ child ∈ children, base ++ [child.1] <+: entry.1 := by
  cases children with
  | nil =>
      intro entry member
      cases member
  | cons child rest =>
      intro entry member
      rcases List.mem_append.mp member with first | later
      · exact ⟨child, List.mem_cons_self, flatten_under (base ++ [child.1]) child.2 entry first⟩
      · obtain ⟨other, inside, under⟩ := flattenChildren_under base rest entry later
        exact ⟨other, List.mem_cons_of_mem child inside, under⟩
end

/-- A path below one child is not below another. -/
theorem segment_unique {base path : Path} {first second : Segment} (underFirst : base ++ [first] <+: path)
    (underSecond : base ++ [second] <+: path) : first = second := by
  have lengths : (base ++ [first]).length = (base ++ [second]).length := by simp
  have same := (List.prefix_of_prefix_length_le underFirst underSecond (Nat.le_of_eq lengths)).eq_of_length lengths
  simpa using same

theorem get_outside {entries : List (Path × Value)} {path : Path} (outside : ∀ entry ∈ entries, entry.1 ≠ path) :
    get entries path = none := by
  cases found : get entries path with
  | none => rfl
  | some value => exact absurd rfl (outside (path, value) (mem_of_get found))

theorem get_flattenChildren {children : List (Segment × AddressTree Value)} (distinct : (keys children).Nodup)
    (base : Path) (segment : Segment) (rest : Path)
    (each : ∀ child ∈ children, get (flatten (base ++ [child.1]) child.2) (base ++ [child.1] ++ rest) =
      lookup rest child.2) :
    get (flattenChildren base children) (base ++ segment :: rest) = (get children segment).bind (lookup rest) := by
  induction children with
  | nil => rfl
  | cons child others ih =>
      obtain ⟨fresh, distinct⟩ := List.nodup_cons.mp distinct
      have later := ih distinct fun other inside => each other (List.mem_cons_of_mem child inside)
      rw [flattenChildren, get_append]
      by_cases hit : child.1 = segment
      · have missing : get others segment = none := by
          rw [← Option.not_isSome_iff_eq_none, get_isSome_iff]
          exact hit ▸ fresh
        have first := each child List.mem_cons_self
        rw [List.append_assoc, List.singleton_append, hit] at first
        rw [later, missing, hit, first, OrderedMap.get, if_pos hit, Option.bind_none, Option.bind_some]
        cases lookup rest child.2 <;> rfl
      · have outside : get (flatten (base ++ [child.1]) child.2) (base ++ segment :: rest) = none := by
          refine get_outside fun entry member same => hit ?_
          refine segment_unique (same ▸ flatten_under (base ++ [child.1]) child.2 entry member) ?_
          exact ⟨rest, by simp⟩
        rw [outside, later, OrderedMap.get, if_neg hit]
        rfl

/-- What a flattened tree holds under a path is found by walking down. -/
theorem get_flatten {tree : AddressTree Value} (addressed : Addressed tree) (base path : Path) :
    get (flatten base tree) (base ++ path) = lookup path tree := by
  induction addressed generalizing base path with
  | node distinct each ih =>
      cases path with
      | nil => simp [flatten, OrderedMap.get, lookup]
      | cons segment rest =>
          have below : base ≠ base ++ segment :: rest := by simp
          rw [flatten, OrderedMap.get, if_neg below, lookup]
          exact get_flattenChildren distinct base segment rest fun child member =>
            ih child member (base ++ [child.1]) rest

theorem keys_flatten_nodup {tree : AddressTree Value} (addressed : Addressed tree) (base : Path) :
    (keys (flatten base tree)).Nodup := by
  induction addressed generalizing base with
  | @node value children distinct each ih =>
      have rooted : ∀ (entries : List (Segment × AddressTree Value)), entries.Sublist children →
          (keys (flattenChildren base entries)).Nodup := by
        intro entries part
        induction entries with
        | nil => exact List.nodup_nil
        | cons child rest later =>
            have fresh := (List.nodup_cons.mp (distinct.sublist (part.map Prod.fst))).1
            refine keys_append_nodup (ih child (part.subset List.mem_cons_self) (base ++ [child.1]))
              (later ((List.sublist_cons_self child rest).trans part)) ?_
            intro entry member inside
            obtain ⟨other, listed, under⟩ := flattenChildren_under base rest entry member
            obtain ⟨source, found, same⟩ := List.mem_map.mp inside
            have first := flatten_under (base ++ [child.1]) child.2 source found
            rw [same] at first
            exact fresh (List.mem_map.mpr ⟨other, listed, segment_unique under first⟩)
      refine List.nodup_cons.mpr ⟨?_, rooted children (List.Sublist.refl _)⟩
      intro inside
      obtain ⟨entry, member, same⟩ := List.mem_map.mp inside
      obtain ⟨child, _, under⟩ := flattenChildren_under base children entry member
      have longer := under.length_le
      rw [same, List.length_append, List.length_singleton] at longer
      exact absurd longer (Nat.not_succ_le_self base.length)

variable {name : String} {items : List Item} {grow : Item → AddressTree Value}

theorem get_family (index : Nat) : get (family name items grow) (name, some index) = items[index]?.map grow := by
  have shifted (start : Nat) :
      get ((items.zipIdx start).map fun entry => ((name, some entry.2), grow entry.1)) (name, some (start + index)) =
        items[index]?.map grow := by
    induction items generalizing start index with
    | nil => rfl
    | cons item rest ih =>
        cases index with
        | zero => simp [List.zipIdx_cons, OrderedMap.get]
        | succ index =>
            have later := ih index (start + 1)
            rw [Nat.add_right_comm, Nat.add_assoc] at later
            simpa [List.zipIdx_cons, OrderedMap.get] using later
  simpa [family] using shifted 0

theorem get_family_other {segment : Segment} (other : name ≠ segment.1) :
    get (family name items grow) segment = none := by
  refine Option.not_isSome_iff_eq_none.mp fun found => ?_
  obtain ⟨child, member, same⟩ := List.mem_map.mp ((get_isSome_iff _ _).mp found)
  obtain ⟨entry, _, rfl⟩ := List.mem_map.mp member
  exact other (congrArg Prod.fst same)

/-- Children under some names, no two of them under one segment. -/
structure Slots (names : List String) (children : List (Segment × AddressTree Value)) : Prop where
  named : ∀ child ∈ children, child.1.1 ∈ names
  distinct : (keys children).Nodup
  addressed : ∀ child ∈ children, Addressed child.2

theorem slots_family (each : ∀ item ∈ items, Addressed (grow item)) : Slots [name] (family name items grow) where
  named child member := by
    obtain ⟨entry, _, rfl⟩ := List.mem_map.mp member
    exact List.mem_singleton_self name
  distinct := by
    have indices : keys (family name items grow) = (items.zipIdx.map Prod.snd).map fun index => (name, some index) := by
      simp only [keys, family, List.map_map, Function.comp_def]
    rw [indices, List.zipIdx_map_snd]
    exact List.Nodup.map (fun _ _ same => by simpa using same) List.nodup_range'
  addressed child member := by
    obtain ⟨entry, inside, rfl⟩ := List.mem_map.mp member
    exact each entry.1 (List.fst_mem_of_mem_zipIdx inside)

theorem slots_single {tree : AddressTree Value} (addressed : Addressed tree) : Slots [name] [((name, none), tree)] where
  named := by simp
  distinct := by simp [keys]
  addressed := by simpa using addressed

theorem slots_nil : Slots [] ([] : List (Segment × AddressTree Value)) where
  named := by simp
  distinct := List.nodup_nil
  addressed := by simp

theorem Slots.append {names others : List String} {left right : List (Segment × AddressTree Value)}
    (slotsLeft : Slots names left) (slotsRight : Slots others right) (apart : ∀ name ∈ names, name ∉ others) :
    Slots (names ++ others) (left ++ right) where
  named child member := by
    rcases List.mem_append.mp member with inLeft | inRight
    · exact List.mem_append_left _ (slotsLeft.named child inLeft)
    · exact List.mem_append_right _ (slotsRight.named child inRight)
  distinct := by
    refine keys_append_nodup slotsLeft.distinct slotsRight.distinct fun child inRight inside => ?_
    obtain ⟨other, inLeft, same⟩ := List.mem_map.mp inside
    exact apart other.1.1 (slotsLeft.named other inLeft) (same ▸ slotsRight.named child inRight)
  addressed child member := by
    rcases List.mem_append.mp member with inLeft | inRight
    · exact slotsLeft.addressed child inLeft
    · exact slotsRight.addressed child inRight

theorem Slots.node {names : List String} {children : List (Segment × AddressTree Value)} (slots : Slots names children)
    (value : Value) : Addressed (.node value children) := .node slots.distinct slots.addressed

end AutonomousApi.PathTree
