import AutonomousApi.SemanticProjection

/-! What the semantic hash sees. Leaving empty values out commutes with settling a value, so
a form is empty exactly when the settled value is vacant; and where two values are alike,
position by position, a form fixes the settled value. Free-form data is where this takes
care: a float and the text of it, a list and a tuple or a mapping and the enumeration member
it imitates have one form. -/

namespace AutonomousApi.SemanticHash

open DataTree JsonValue PythonLiteral OrderedMap DataclassValues SystemModel SemanticProjection

@[simp] theorem pyView_list (items : List Json) : pyView (.arr items) = .list (items.map pyView) := by
  rw [pyView, mapAtoms, sortKeys, sortItems_eq_map]
  congr 1
  induction items with
  | nil => rfl
  | cons item rest ih => simp [mapItems, ih, pyView]

theorem pyView_dict (entries : List (String × Json)) :
    pyView (.obj entries) =
      .dict ((entries.map fun entry => (entry.1, pyView entry.2)).insertionSort DataTree.keyOrder) := by
  have mapped : mapEntries pyAtom entries = entries.map fun entry => (entry.1, mapAtoms pyAtom entry.2) := by
    induction entries with
    | nil => rfl
    | cons entry rest ih => simp [mapEntries, ih]
  rw [pyView, mapAtoms, sortKeys, sortEntries_eq_map, mapped, List.map_map]
  rfl

/-- Records that Python calls equal have the same entries, up to their order. -/
theorem pyView_dict_perm {left right : List (String × Json)} (same : pyView (.obj left) = pyView (.obj right)) :
    (left.map fun entry => (entry.1, pyView entry.2)).Perm (right.map fun entry => (entry.1, pyView entry.2)) := by
  rw [pyView_dict, pyView_dict] at same
  have sorted := Tree.dict.inj same
  exact (List.perm_insertionSort DataTree.keyOrder _).symm.trans
    (sorted ▸ List.perm_insertionSort DataTree.keyOrder _)

section

variable {numbers : NumberText JsonFloat}

/-- The form of a value that has one. -/
def formOf (numbers : NumberText JsonFloat) (value : PyValue) : Json :=
  match canonicalForm numbers value with
  | .ok form => form
  | .error _ => .null

theorem formOf_ok {value : PyValue} {form : Json} (built : canonicalForm numbers value = .ok form) :
    formOf numbers value = form := by
  rw [formOf, built]

theorem canonicalItems_ok {items : List PyValue} {forms : List Json}
    (built : canonicalItems numbers items = .ok forms) :
    (∀ item ∈ items, canonicalForm numbers item = .ok (formOf numbers item)) ∧
      forms = (items.filter fun item => !isEmpty (formOf numbers item)).map (formOf numbers) := by
  induction items generalizing forms with
  | nil => cases built; simp
  | cons item rest ih =>
      rw [canonicalItems] at built
      cases first : canonicalForm numbers item with
      | error fault => simp [first, bind, Except.bind] at built
      | ok form =>
          cases later : canonicalItems numbers rest with
          | error fault => simp [first, later, bind, Except.bind] at built
          | ok others =>
              obtain ⟨each, rfl⟩ := ih later
              simp only [first, later, bind, Except.bind, pure, Except.pure, Except.ok.injEq] at built
              refine ⟨?_, ?_⟩
              · intro other member
                rcases List.mem_cons.mp member with rfl | inside
                · rw [formOf_ok first, first]
                · exact each other inside
              · rw [← built, List.filter_cons, formOf_ok first]
                cases isEmpty form <;> simp [formOf_ok first]

theorem canonicalEntries_ok {entries : List (PyKey × PyValue)} {forms : List (String × Json)}
    (built : canonicalEntries numbers entries = .ok forms) :
    (∀ entry ∈ entries, canonicalForm numbers entry.2 = .ok (formOf numbers entry.2)) ∧
      forms = (entries.filter fun entry => !isEmpty (formOf numbers entry.2)).map
        fun entry => (entry.1.printed, formOf numbers entry.2) := by
  induction entries generalizing forms with
  | nil => cases built; simp
  | cons entry rest ih =>
      rw [canonicalEntries] at built
      cases first : canonicalForm numbers entry.2 with
      | error fault => simp [first, bind, Except.bind] at built
      | ok form =>
          cases later : canonicalEntries numbers rest with
          | error fault => simp [first, later, bind, Except.bind] at built
          | ok others =>
              obtain ⟨each, rfl⟩ := ih later
              simp only [first, later, bind, Except.bind, pure, Except.pure, Except.ok.injEq] at built
              refine ⟨?_, ?_⟩
              · intro other member
                rcases List.mem_cons.mp member with rfl | inside
                · rw [formOf_ok first, first]
                · exact each other inside
              · rw [← built, List.filter_cons, formOf_ok first]
                cases isEmpty form <;> simp [formOf_ok first]

theorem settleItems_eq (items : List PyValue) :
    settleItems items = (items.filter fun item => !vacant (settle item)).map settle := by
  induction items with
  | nil => rfl
  | cons item rest ih => cases empty : vacant (settle item) <;> simp [settleItems, empty, ih]

theorem settleEntries_eq (entries : List (PyKey × PyValue)) :
    settleEntries entries =
      (entries.filter fun entry => !vacant (settle entry.2)).map fun entry => (entry.1, settle entry.2) := by
  induction entries with
  | nil => rfl
  | cons entry rest ih => cases empty : vacant (settle entry.2) <;> simp [settleEntries, empty, ih]

end

section

variable {numbers : NumberText JsonFloat}

attribute [local simp] settle isEmpty

theorem assignAll_isEmpty (entries : List (String × Json)) :
    (assignAll [] entries).isEmpty = entries.isEmpty := by
  cases entries with
  | nil => rfl
  | cons entry rest =>
      have held := (isSome_assignAll (entry :: rest) entry.1).mpr (by simp [keys])
      cases final : assignAll [] (entry :: rest) with
      | nil => simp [final] at held
      | cons first others => rfl

theorem insertionSort_isEmpty {Item : Type} (order : Item → Item → Prop) [DecidableRel order] (items : List Item) :
    (items.insertionSort order).isEmpty = items.isEmpty := by
  have size := (List.perm_insertionSort order items).length_eq
  rw [Bool.eq_iff_iff, List.isEmpty_iff_length_eq_zero, List.isEmpty_iff_length_eq_zero, size]

theorem filter_isEmpty_congr {Item : Type} {items : List Item} {keep kept : Item → Bool}
    (same : ∀ item ∈ items, keep item = kept item) :
    (items.filter keep).isEmpty = (items.filter kept).isEmpty := by
  rw [List.filter_congr same]

theorem float_text (value : JsonFloat) : numbers.text value ≠ [] := by
  obtain ⟨first, rest, split, _⟩ := numbers.headed value
  rw [split]
  exact List.cons_ne_nil first rest

/-- What a container's branch has gathered when it answers. -/
theorem gathered_ok {Gathered : Type} {gathering : Except String Gathered} {wrap : Gathered → Json} {form : Json}
    (built : (do return wrap (← gathering)) = Except.ok form) :
    ∃ gathered, gathering = .ok gathered ∧ form = wrap gathered := by
  cases gathering with
  | error fault => cases built
  | ok gathered => exact ⟨gathered, rfl, (Except.ok.inj built).symm⟩

theorem memberForms_isEmpty {items : List PyValue} {forms : List Json} (built : memberForms numbers items = .ok forms) :
    forms.isEmpty = items.isEmpty := by
  cases items with
  | nil => cases built; rfl
  | cons item rest =>
      rw [memberForms] at built
      cases first : canonicalForm numbers item <;> cases later : memberForms numbers rest <;>
        simp_all [bind, Except.bind, pure, Except.pure]
      simp [← built]

/-- A form is empty exactly when the settled value is vacant. -/
theorem isEmpty_form {value : PyValue} {form : Json} (built : canonicalForm numbers value = .ok form) :
    isEmpty form = vacant (settle value) := by
  induction value generalizing form with
  | scalar value =>
      cases value <;> simp only [canonicalForm, scalarForm, reduceCtorEq, Except.ok.injEq] at built <;>
        subst built <;> simp [settleScalar, vacant, float_text]
  | tuple items ih =>
      obtain ⟨forms, gathered, rfl⟩ := gathered_ok built
      obtain ⟨each, rfl⟩ := canonicalItems_ok gathered
      simp only [isEmpty, settle, settleItems_eq, vacant, List.isEmpty_map]
      exact filter_isEmpty_congr fun item member => congrArg (!·) (ih item member (each item member))
  | list items ih =>
      obtain ⟨forms, gathered, rfl⟩ := gathered_ok built
      obtain ⟨each, rfl⟩ := canonicalItems_ok gathered
      simp only [isEmpty, settle, settleItems_eq, vacant, List.isEmpty_map]
      exact filter_isEmpty_congr fun item member => congrArg (!·) (ih item member (each item member))
  | set items ih =>
      obtain ⟨forms, gathered, rfl⟩ := gathered_ok built
      rw [isEmpty, settle, vacant, ← memberForms_isEmpty gathered, sortedForms, List.isEmpty_map, insertionSort_isEmpty,
        List.isEmpty_map]
  | dict entries ih =>
      obtain ⟨forms, gathered, rfl⟩ := gathered_ok built
      obtain ⟨each, rfl⟩ := canonicalEntries_ok gathered
      rw [isEmpty, assignAll_isEmpty, settle, vacant, insertionSort_isEmpty, settleEntries_eq, List.isEmpty_map,
        List.isEmpty_map]
      exact filter_isEmpty_congr fun entry member => congrArg (!·) (ih entry member (each entry member))
  | record fields ih =>
      obtain ⟨forms, gathered, rfl⟩ := gathered_ok built
      obtain ⟨each, rfl⟩ := canonicalEntries_ok gathered
      simp only [isEmpty, assignAll_isEmpty, settle, settleEntries_eq, vacant, List.isEmpty_map]
      exact filter_isEmpty_congr fun field member => congrArg (!·) (ih field member (each field member))

end

section

variable {numbers : NumberText JsonFloat}

/-- The forms of the two values, where Python calls them equal, settle to one value. -/
def Agree (numbers : NumberText JsonFloat) (left right : PyValue) : Prop :=
  ∀ {form other}, canonicalForm numbers left = .ok form → canonicalForm numbers right = .ok other →
    pyView form = pyView other → settle left = settle right

theorem map_congr_pairs {Item Image Result : Type} {image : Item → Image} {result : Item → Result}
    {left right : List Item} (same : left.map image = right.map image)
    (agree : ∀ item ∈ left, ∀ other ∈ right, image item = image other → result item = result other) :
    left.map result = right.map result := by
  induction left generalizing right with
  | nil => rw [List.map_eq_nil_iff.mp same.symm]
  | cons item rest ih =>
      cases right with
      | nil => cases same
      | cons other others =>
          obtain ⟨head, tail⟩ := List.cons.inj same
          rw [List.map_cons, List.map_cons, agree item List.mem_cons_self other List.mem_cons_self head,
            ih tail fun item member other inside =>
              agree item (List.mem_cons_of_mem _ member) other (List.mem_cons_of_mem _ inside)]

theorem agree_items {left right : List PyValue} {forms others : List Json}
    (each : ∀ item ∈ left, ∀ other ∈ right, Agree numbers item other)
    (builtLeft : canonicalItems numbers left = .ok forms) (builtRight : canonicalItems numbers right = .ok others)
    (same : forms.map pyView = others.map pyView) : settleItems left = settleItems right := by
  obtain ⟨formsLeft, rfl⟩ := canonicalItems_ok builtLeft
  obtain ⟨formsRight, rfl⟩ := canonicalItems_ok builtRight
  have keptLeft := List.filter_congr fun item member => congrArg (!·) (isEmpty_form (formsLeft item member))
  have keptRight := List.filter_congr fun item member => congrArg (!·) (isEmpty_form (formsRight item member))
  rw [keptLeft, keptRight, List.map_map, List.map_map] at same
  rw [settleItems_eq, settleItems_eq]
  refine map_congr_pairs same fun item inLeft other inRight view => ?_
  have memberLeft := List.mem_of_mem_filter inLeft
  have memberRight := List.mem_of_mem_filter inRight
  exact each item memberLeft other memberRight (formsLeft item memberLeft) (formsRight other memberRight) view

/-- Entries under distinct texts. -/
structure Texts (entries : List (PyKey × PyValue)) : Prop where
  named : ∀ entry ∈ entries, ∃ key, entry.1 = .text key
  distinct : (entries.map Prod.fst).Nodup

variable {left right entries : List (PyKey × PyValue)}

variable {entry settled : PyKey × PyValue} {forms : List (String × Json)}

theorem Texts.printed_inj (textsLeft : Texts left) (textsRight : Texts right)
    {other : PyKey × PyValue} (inLeft : entry ∈ left) (inRight : other ∈ right)
    (same : entry.1.printed = other.1.printed) : entry.1 = other.1 := by
  obtain ⟨key, named⟩ := textsLeft.named entry inLeft
  obtain ⟨name, called⟩ := textsRight.named other inRight
  rw [named, called, PyKey.printed, PyKey.printed] at same
  rw [named, called, same]

/-- The entries of the form are those whose value has a form that is not empty. -/
theorem form_entries (texts : Texts entries) (built : canonicalEntries numbers entries = .ok forms) :
    assignAll [] forms = (entries.filter fun entry => !vacant (settle entry.2)).map
      fun entry => (entry.1.printed, formOf numbers entry.2) := by
  obtain ⟨each, rfl⟩ := canonicalEntries_ok built
  have kept := List.filter_congr fun entry member => congrArg (!·) (isEmpty_form (each entry member))
  rw [kept]
  refine assignAll_distinct _ ?_
  rw [keys, List.map_map]
  refine (texts.distinct.of_map.sublist List.filter_sublist).map_on fun entry member other inside same => ?_
  have memberLeft := List.mem_of_mem_filter member
  have memberRight := List.mem_of_mem_filter inside
  exact List.inj_on_of_nodup_map texts.distinct memberLeft memberRight
    (texts.printed_inj texts memberLeft memberRight same)

/-- An entry that counts has its counterpart in a dictionary with an equal form. -/
theorem counterpart {others : List (String × Json)} (textsLeft : Texts left) (textsRight : Texts right)
    (each : ∀ entry ∈ left, ∀ other ∈ right, entry.1 = other.1 → Agree numbers entry.2 other.2)
    (builtLeft : canonicalEntries numbers left = .ok forms) (builtRight : canonicalEntries numbers right = .ok others)
    (same : pyView (.obj (assignAll [] forms)) = pyView (.obj (assignAll [] others)))
    (member : entry ∈ left) (counts : vacant (settle entry.2) = false) :
    ∃ other ∈ right, entry.1 = other.1 ∧ settle entry.2 = settle other.2 := by
  have formLeft := (canonicalEntries_ok builtLeft).1
  have formRight := (canonicalEntries_ok builtRight).1
  have views := pyView_dict_perm same
  rw [form_entries textsLeft builtLeft, form_entries textsRight builtRight, List.map_map, List.map_map] at views
  have kept : entry ∈ left.filter fun entry => !vacant (settle entry.2) :=
    List.mem_filter.mpr ⟨member, by rw [counts]; rfl⟩
  obtain ⟨other, inside, equal⟩ := List.mem_map.mp (views.mem_iff.mp (List.mem_map_of_mem kept))
  simp only [Function.comp_apply, Prod.mk.injEq] at equal
  have held := List.mem_of_mem_filter inside
  have named := textsLeft.printed_inj textsRight member held equal.1.symm
  exact ⟨other, held, named,
    each entry member other held named (formLeft entry member) (formRight other held) equal.2.symm⟩

theorem Agree.symm {left right : PyValue} (agree : Agree numbers left right) : Agree numbers right left :=
  fun builtRight builtLeft same => (agree builtLeft builtRight same.symm).symm

theorem mem_settleEntries :
    settled ∈ settleEntries entries ↔
      ∃ entry ∈ entries, vacant (settle entry.2) = false ∧ (entry.1, settle entry.2) = settled := by
  simp [settleEntries_eq, and_assoc]

theorem settleEntries_distinct (texts : Texts entries) :
    ((settleEntries entries).map Prod.fst).Nodup := by
  rw [settleEntries_eq, List.map_map]
  exact texts.distinct.sublist (List.filter_sublist.map Prod.fst)

theorem settleEntries_subset (found : ∀ {entry}, entry ∈ left → vacant (settle entry.2) = false →
      ∃ other ∈ right, entry.1 = other.1 ∧ settle entry.2 = settle other.2)
    (member : settled ∈ settleEntries left) : settled ∈ settleEntries right := by
  obtain ⟨entry, inLeft, counts, rfl⟩ := mem_settleEntries.mp member
  obtain ⟨other, inRight, named, equal⟩ := found inLeft counts
  exact mem_settleEntries.mpr ⟨other, inRight, equal ▸ counts, by rw [named, equal]⟩

/-- Entries under distinct texts sort to one list, in whatever order they came. -/
theorem sorted_of_perm (reordered : left.Perm right)
    (printed : ∀ entry ∈ left, ∀ other ∈ left, entry.1.printed = other.1.printed → entry = other) :
    left.insertionSort SemanticProjection.keyOrder = right.insertionSort SemanticProjection.keyOrder := by
  have total : Std.Total SemanticProjection.keyOrder := ⟨fun entry other => le_total entry.1.printed other.1.printed⟩
  have trans : IsTrans (PyKey × PyValue) SemanticProjection.keyOrder := ⟨fun _ _ _ => le_trans⟩
  have sorted := (List.perm_insertionSort SemanticProjection.keyOrder left).trans
    (reordered.trans (List.perm_insertionSort SemanticProjection.keyOrder right).symm)
  refine sorted.eq_of_pairwise ?_ (List.pairwise_insertionSort _ left) (List.pairwise_insertionSort _ right)
  intro entry other inLeft inRight before after
  have memberLeft := (List.mem_insertionSort _).mp inLeft
  have memberRight := reordered.mem_iff.mpr ((List.mem_insertionSort _).mp inRight)
  exact printed entry memberLeft other memberRight (le_antisymm before after)

theorem agree_dict (textsLeft : Texts left) (textsRight : Texts right)
    (each : ∀ entry ∈ left, ∀ other ∈ right, entry.1 = other.1 → Agree numbers entry.2 other.2) :
    Agree numbers (.dict left) (.dict right) := by
  intro form other builtLeft builtRight same
  obtain ⟨forms, gatheredLeft, rfl⟩ := gathered_ok builtLeft
  obtain ⟨others, gatheredRight, rfl⟩ := gathered_ok builtRight
  have toRight {settled : PyKey × PyValue} : settled ∈ settleEntries left → settled ∈ settleEntries right :=
    settleEntries_subset (counterpart textsLeft textsRight each gatheredLeft gatheredRight same)
  have toLeft {settled : PyKey × PyValue} : settled ∈ settleEntries right → settled ∈ settleEntries left := by
    refine settleEntries_subset (counterpart textsRight textsLeft ?_ gatheredRight gatheredLeft same.symm)
    intro entry inRight other inLeft named
    exact Agree.symm (each other inLeft entry inRight named.symm)
  have reordered : (settleEntries left).Perm (settleEntries right) :=
    (List.perm_ext_iff_of_nodup (settleEntries_distinct textsLeft).of_map
      (settleEntries_distinct textsRight).of_map).mpr fun _ => ⟨toRight, toLeft⟩
  rw [settle, settle, sorted_of_perm reordered]
  intro entry member other inside printed
  obtain ⟨source, inLeft, _, rfl⟩ := mem_settleEntries.mp member
  obtain ⟨target, alsoLeft, _, rfl⟩ := mem_settleEntries.mp inside
  have named := textsLeft.printed_inj textsLeft inLeft alsoLeft printed
  exact List.inj_on_of_nodup_map (settleEntries_distinct textsLeft) member inside named

/-- Fields that match name by name and settle alike where one of them counts. -/
theorem settleEntries_aligned (aligned : left.map Prod.fst = right.map Prod.fst)
    (distinct : (left.map Prod.fst).Nodup)
    (each : ∀ entry ∈ left, ∀ other ∈ right, entry.1 = other.1 →
      vacant (settle entry.2) = false ∨ vacant (settle other.2) = false → settle entry.2 = settle other.2) :
    settleEntries left = settleEntries right := by
  induction left generalizing right with
  | nil => rw [List.map_eq_nil_iff.mp aligned.symm]
  | cons entry rest ih =>
      cases right with
      | nil => cases aligned
      | cons other others =>
          obtain ⟨named, tail⟩ := List.cons.inj aligned
          have head := each entry List.mem_cons_self other List.mem_cons_self named
          have later := ih tail (List.nodup_cons.mp distinct).2 fun item member counterpart inside =>
            each item (List.mem_cons_of_mem _ member) counterpart (List.mem_cons_of_mem _ inside)
          cases empty : vacant (settle entry.2) <;> cases missing : vacant (settle other.2)
          · simp [settleEntries, later, named, head (Or.inl empty), missing]
          · rw [head (Or.inl empty), missing] at empty
            cases empty
          · rw [head (Or.inr missing), missing] at empty
            cases empty
          · simp [settleEntries, later, empty, missing]

theorem agree_record (textsLeft : Texts left) (aligned : left.map Prod.fst = right.map Prod.fst)
    (each : ∀ field ∈ left, ∀ other ∈ right, field.1 = other.1 → Agree numbers field.2 other.2) :
    Agree numbers (.record left) (.record right) := by
  intro form other builtLeft builtRight same
  obtain ⟨forms, gatheredLeft, rfl⟩ := gathered_ok builtLeft
  obtain ⟨others, gatheredRight, rfl⟩ := gathered_ok builtRight
  have textsRight : Texts right := by
    refine ⟨fun field member => ?_, aligned ▸ textsLeft.distinct⟩
    have name : field.1 ∈ left.map Prod.fst := aligned ▸ List.mem_map_of_mem member
    obtain ⟨namesake, inside, called⟩ := List.mem_map.mp name
    exact called ▸ textsLeft.named namesake inside
  rw [settle, settle, settleEntries_aligned aligned textsLeft.distinct]
  intro field inLeft other inRight named counts
  rcases counts with counts | counts
  · obtain ⟨found, inside, called, equal⟩ :=
      counterpart textsLeft textsRight each gatheredLeft gatheredRight same inLeft counts
    have only : found = other := List.inj_on_of_nodup_map textsRight.distinct inside inRight (called.symm.trans named)
    rw [equal, only]
  · have flipped : ∀ entry ∈ right, ∀ other ∈ left, entry.1 = other.1 → Agree numbers entry.2 other.2 :=
      fun entry member other inside called => Agree.symm (each other inside entry member called.symm)
    obtain ⟨found, inside, called, equal⟩ :=
      counterpart textsRight textsLeft flipped gatheredRight gatheredLeft same.symm inRight counts
    have only : found = field :=
      List.inj_on_of_nodup_map textsLeft.distinct inside inLeft (called.symm.trans named.symm)
    rw [equal, only]

end

section

variable {numbers : NumberText JsonFloat}

theorem pyView_atom (value : JsonAtom) : pyView (.atom value) = .atom (pyAtom value) := rfl

variable {form : Json} {left right : List PyValue}

/-- Only `None` has a form that Python calls equal to `None`. -/
theorem none_of_view {value : PyValue} (built : canonicalForm numbers value = .ok form)
    (view : pyView form = .atom .none) : value = .none := by
  cases value with
  | scalar value =>
      cases value <;> simp only [canonicalForm, scalarForm, reduceCtorEq, Except.ok.injEq] at built <;>
        subst built <;> simp [pyView_atom, pyView_dict, pyAtom] at view
      rfl
  | tuple items =>
      obtain ⟨forms, _, rfl⟩ := gathered_ok built
      simp at view
  | list items =>
      obtain ⟨forms, _, rfl⟩ := gathered_ok built
      simp at view
  | set items =>
      obtain ⟨forms, _, rfl⟩ := gathered_ok built
      simp at view
  | dict entries =>
      obtain ⟨forms, _, rfl⟩ := gathered_ok built
      simp [pyView_dict] at view
  | record fields =>
      obtain ⟨forms, _, rfl⟩ := gathered_ok built
      simp [pyView_dict] at view

theorem absent_agree (value : PyValue) : Agree numbers .none value := by
  intro form other builtLeft builtRight same
  cases builtLeft
  rw [none_of_view builtRight same.symm]

theorem agree_tuple (each : ∀ item ∈ left, ∀ other ∈ right, Agree numbers item other) :
    Agree numbers (.tuple left) (.tuple right) := by
  intro form other builtLeft builtRight same
  obtain ⟨forms, gatheredLeft, rfl⟩ := gathered_ok builtLeft
  obtain ⟨others, gatheredRight, rfl⟩ := gathered_ok builtRight
  rw [pyView_list, pyView_list] at same
  rw [settle, settle, agree_items each gatheredLeft gatheredRight (Tree.list.inj same)]

theorem agree_list (each : ∀ item ∈ left, ∀ other ∈ right, Agree numbers item other) :
    Agree numbers (.list left) (.list right) := by
  intro form other builtLeft builtRight same
  obtain ⟨forms, gatheredLeft, rfl⟩ := gathered_ok builtLeft
  obtain ⟨others, gatheredRight, rfl⟩ := gathered_ok builtRight
  rw [pyView_list, pyView_list] at same
  rw [settle, settle, agree_items each gatheredLeft gatheredRight (Tree.list.inj same)]

/-- Scalars of free-form data: a boolean and an integer may stand for one number. -/
theorem agree_scalars {left right : Scalar} (plainLeft : Plain (.scalar left)) (plainRight : Plain (.scalar right)) :
    Agree numbers (.scalar left) (.scalar right) := by
  intro form other builtLeft builtRight same
  cases plainLeft <;> cases plainRight <;> cases builtLeft <;> cases builtRight <;>
    simp only [pyView_atom, Tree.atom.injEq, pyAtom, PyAtom.number.injEq, PyAtom.text.injEq, reduceCtorEq,
      settle, settleScalar, PyValue.scalar.injEq, Scalar.int.injEq, Scalar.text.injEq] at same ⊢
  case bool.bool left right => cases left <;> cases right <;> simp_all
  case bool.int flag number => cases flag <;> exact_mod_cast same
  case int.bool number flag => cases flag <;> exact_mod_cast same
  case int.int left right => exact_mod_cast same
  case text.text => exact same

variable {value : Scalar} {right : PyValue}

theorem scalar_view (plain : Plain (.scalar value))
    (built : canonicalForm numbers (.scalar value) = .ok form) : ∃ atom, pyView form = .atom atom := by
  cases plain <;> cases built <;> exact ⟨_, rfl⟩

theorem scalar_list_agree (plain : Plain (.scalar value)) (items : List PyValue) :
    Agree numbers (.scalar value) (.list items) := by
  intro form other builtLeft builtRight same
  obtain ⟨atom, view⟩ := scalar_view plain builtLeft
  obtain ⟨forms, _, rfl⟩ := gathered_ok builtRight
  rw [view, pyView_list] at same
  cases same

theorem scalar_dict_agree (plain : Plain (.scalar value)) (entries : List (PyKey × PyValue)) :
    Agree numbers (.scalar value) (.dict entries) := by
  intro form other builtLeft builtRight same
  obtain ⟨atom, view⟩ := scalar_view plain builtLeft
  obtain ⟨forms, _, rfl⟩ := gathered_ok builtRight
  rw [view, pyView_dict] at same
  cases same

theorem list_dict_agree (items : List PyValue) (entries : List (PyKey × PyValue)) :
    Agree numbers (.list items) (.dict entries) := by
  intro form other builtLeft builtRight same
  obtain ⟨forms, _, rfl⟩ := gathered_ok builtLeft
  obtain ⟨others, _, rfl⟩ := gathered_ok builtRight
  rw [pyView_list, pyView_dict] at same
  cases same

theorem plain_scalar_agree (plainLeft : Plain (.scalar value))
    (plainRight : Plain right) : Agree numbers (.scalar value) right := by
  cases right with
  | scalar other => exact agree_scalars plainLeft plainRight
  | list items => exact scalar_list_agree plainLeft items
  | dict entries => exact scalar_dict_agree plainLeft entries
  | tuple items => cases plainRight
  | set items => cases plainRight
  | record fields => cases plainRight

/-- Free-form data: the kind of a plain value shows in its form. -/
theorem plain_agree {left : PyValue} (plainLeft : Plain left) (plainRight : Plain right) :
    Agree numbers left right := by
  induction plainLeft generalizing right with
  | none => exact plain_scalar_agree .none plainRight
  | bool value => exact plain_scalar_agree (.bool value) plainRight
  | int value => exact plain_scalar_agree (.int value) plainRight
  | text value => exact plain_scalar_agree (.text value) plainRight
  | list each ih =>
      cases right with
      | scalar value => exact Agree.symm (plain_scalar_agree plainRight (.list each))
      | list others =>
          cases plainRight with
          | list others => exact agree_list fun item member other inside => ih item member (others other inside)
      | dict entries => exact list_dict_agree _ entries
      | tuple items => cases plainRight
      | set items => cases plainRight
      | record fields => cases plainRight
  | dict texts distinct each ih =>
      cases right with
      | scalar value => exact Agree.symm (plain_scalar_agree plainRight (.dict texts distinct each))
      | list items => exact Agree.symm (list_dict_agree items _)
      | dict others =>
          cases plainRight with
          | dict named unique others =>
              exact agree_dict ⟨texts, distinct⟩ ⟨named, unique⟩ fun entry member other inside _ =>
                ih entry member (others other inside)
      | tuple items => cases plainRight
      | set items => cases plainRight
      | record fields => cases plainRight

theorem float_agree (left right : JsonFloat) : Agree numbers (.float left) (.float right) := by
  intro form other builtLeft builtRight same
  cases builtLeft
  cases builtRight
  simp only [pyView_atom, Tree.atom.injEq, pyAtom, PyAtom.text.injEq] at same
  have read := numbers.readBack left
  rw [String.ofList_injective same, numbers.readBack right] at read
  rw [Option.some.inj read]

/-- Of two values that one annotation admits, equal forms have equal settled values. -/
theorem alike_agree {left : PyValue} (alike : Alike left right) : Agree numbers left right := by
  induction alike with
  | none => exact absent_agree .none
  | absentLeft value => exact absent_agree value
  | absentRight value => exact Agree.symm (absent_agree value)
  | bool left right => exact agree_scalars (.bool left) (.bool right)
  | int left right => exact agree_scalars (.int left) (.int right)
  | float left right => exact float_agree left right
  | text left right => exact agree_scalars (.text left) (.text right)
  | strMember left right =>
      intro form other builtLeft builtRight same
      cases builtLeft
      cases builtRight
      simp only [pyView_atom, Tree.atom.injEq, pyAtom, PyAtom.text.injEq] at same
      rw [same]
  | tuple each ih => exact agree_tuple ih
  | dict texts distinctLeft distinctRight each ih =>
      exact agree_dict ⟨fun entry member => texts entry (List.mem_append_left _ member), distinctLeft⟩
        ⟨fun entry member => texts entry (List.mem_append_right _ member), distinctRight⟩ ih
  | record texts aligned distinct each ih => exact agree_record ⟨texts, distinct⟩ aligned ih
  | free plainLeft plainRight => exact plain_agree plainLeft plainRight

end

section

variable {numbers : NumberText JsonFloat}

variable {items : List PyValue} {entries : List (PyKey × PyValue)}

theorem items_built (each : ∀ item ∈ items, ∃ form, canonicalForm numbers item = .ok form) :
    ∃ forms, canonicalItems numbers items = .ok forms := by
  induction items with
  | nil => exact ⟨[], rfl⟩
  | cons item rest ih =>
      obtain ⟨form, first⟩ := each item List.mem_cons_self
      obtain ⟨others, later⟩ := ih fun other member => each other (List.mem_cons_of_mem _ member)
      exact ⟨_, by rw [canonicalItems, first, later]; rfl⟩

theorem entries_built (each : ∀ entry ∈ entries, ∃ form, canonicalForm numbers entry.2 = .ok form) :
    ∃ forms, canonicalEntries numbers entries = .ok forms := by
  induction entries with
  | nil => exact ⟨[], rfl⟩
  | cons entry rest ih =>
      obtain ⟨form, first⟩ := each entry List.mem_cons_self
      obtain ⟨others, later⟩ := ih fun other member => each other (List.mem_cons_of_mem _ member)
      exact ⟨_, by rw [canonicalEntries, first, later]; rfl⟩

theorem list_built (each : ∀ item ∈ items, ∃ form, canonicalForm numbers item = .ok form) :
    ∃ form, canonicalForm numbers (.list items) = .ok form := by
  obtain ⟨forms, gathered⟩ := items_built each
  exact ⟨_, by rw [canonicalForm, gathered]; rfl⟩

theorem dict_built (each : ∀ entry ∈ entries, ∃ form, canonicalForm numbers entry.2 = .ok form) :
    ∃ form, canonicalForm numbers (.dict entries) = .ok form := by
  obtain ⟨forms, gathered⟩ := entries_built each
  exact ⟨_, by rw [canonicalForm, gathered]; rfl⟩

theorem plain_built {value : PyValue} (plain : Plain value) : ∃ form, canonicalForm numbers value = .ok form := by
  induction plain with
  | none => exact ⟨_, rfl⟩
  | bool value => exact ⟨_, rfl⟩
  | int value => exact ⟨_, rfl⟩
  | text value => exact ⟨_, rfl⟩
  | list each ih => exact list_built ih
  | dict texts distinct each ih => exact dict_built ih

/-- A value that an annotation admits has a form. -/
theorem alike_built {value : PyValue} (admitted : Alike value value) :
    ∃ form, canonicalForm numbers value = .ok form := by
  induction value with
  | scalar value =>
      cases admitted with
      | free plain _ => exact plain_built plain
      | _ => exact ⟨_, rfl⟩
  | tuple items ih =>
      cases admitted with
      | tuple each =>
          obtain ⟨forms, gathered⟩ := items_built fun item member => ih item member (each item member item member)
          exact ⟨_, by rw [canonicalForm, gathered]; rfl⟩
      | free plain _ => exact plain_built plain
  | list items ih =>
      cases admitted with
      | free plain _ => exact plain_built plain
  | set items ih =>
      cases admitted with
      | free plain _ => exact plain_built plain
  | dict entries ih =>
      cases admitted with
      | dict texts distinctLeft distinctRight each =>
          exact dict_built fun entry member => ih entry member (each entry member entry member rfl)
      | free plain _ => exact plain_built plain
  | record fields ih =>
      cases admitted with
      | record texts aligned distinct each =>
          obtain ⟨forms, gathered⟩ := entries_built fun field member =>
            ih field member (each field member field member rfl)
          exact ⟨_, by rw [canonicalForm, gathered]; rfl⟩
      | free plain _ => exact plain_built plain

variable (numbers) in
/-- Where the free-form parameters are plain, the projection succeeds, and what Python calls equal
projections come from systems that are equal up to empty values. -/
theorem projection_sees {left right : ISR} (plainLeft : Reflect.plain left.system)
    (plainRight : Reflect.plain right.system) :
    ∃ form other, projectSemanticArchitecture numbers left = .ok form ∧
      projectSemanticArchitecture numbers right = .ok other ∧
      (pyEqual form other = true → settle (reflect left.system) = settle (reflect right.system)) := by
  obtain ⟨form, builtLeft⟩ := @alike_built numbers _ (Reflect.alike plainLeft plainLeft)
  obtain ⟨other, builtRight⟩ := @alike_built numbers _ (Reflect.alike plainRight plainRight)
  refine ⟨form, other, builtLeft, builtRight, fun same => ?_⟩
  have views : pyView form = pyView other := of_decide_eq_true same
  exact alike_agree (Reflect.alike plainLeft plainRight) builtLeft builtRight views

end

mutual
/-- The value without its empty fields and dictionary entries; every element of a sequence stays. -/
def strip : PyValue → PyValue
  | .scalar value => .scalar (settleScalar value)
  | .tuple items => .tuple (stripItems items)
  | .list items => .list (stripItems items)
  | .set items => .set items
  | .dict entries => .dict ((stripEntries entries).insertionSort SemanticProjection.keyOrder)
  | .record fields => .record (stripEntries fields)

def stripItems : List PyValue → List PyValue
  | [] => []
  | item :: rest => strip item :: stripItems rest

def stripEntries : List (PyKey × PyValue) → List (PyKey × PyValue)
  | [] => []
  | (key, value) :: rest => if vacant (strip value) then stripEntries rest else (key, strip value) :: stripEntries rest
end

def tagged (tags : List String) : ISR where
  system := { id := "shop", name := "Shop", metadata := { tags := tags } }
  provenance := { createdAt := "2026-01-01T00:00:00+00:00" }

def limited (limit : PyValue) : ISR where
  system := {
    id := "shop"
    name := "Shop"
    constraints := [{
      id := "c1", name := "limit", scope := .system
      parameters := ⟨[("limit", limit)], List.nodup_singleton "limit"⟩ }] }
  provenance := { createdAt := "2026-01-01T00:00:00+00:00" }

/-- Two systems whose projections are equal although only the elements of sequences, or only the
floats of free-form data, tell them apart. -/
theorem tags_and_floats_unseen :
    (¬ ∀ (numbers : NumberText JsonFloat) (left right : ISR) (form other : Json),
      projectSemanticArchitecture numbers left = .ok form → projectSemanticArchitecture numbers right = .ok other →
      pyEqual form other = true → strip (reflect left.system) = strip (reflect right.system)) ∧
    ¬ ∀ (numbers : NumberText JsonFloat) (left right : ISR) (form other : Json),
      projectSemanticArchitecture numbers left = .ok form → projectSemanticArchitecture numbers right = .ok other →
      pyEqual form other = true → settle (reflect left.system) = settle (reflect right.system) := by
  constructor
  · intro sees
    have same := sees JsonText.exactDecimals (tagged ["core", ""]) (tagged ["core"])
      (formOf JsonText.exactDecimals (reflect (tagged ["core"]).system))
      (formOf JsonText.exactDecimals (reflect (tagged ["core"]).system))
      (by decide +kernel) (by decide +kernel) (by decide +kernel)
    simp [reflect, tagged, field, strip, stripEntries, stripItems, settleScalar, vacant] at same
  · intro sees
    have same := sees JsonText.exactDecimals (limited (.float .negativeZero)) (limited (.text "-0.0"))
      (formOf JsonText.exactDecimals (reflect (limited (.text "-0.0")).system))
      (formOf JsonText.exactDecimals (reflect (limited (.text "-0.0")).system))
      (by decide +kernel) (by decide +kernel) (by decide +kernel)
    simp [reflect, limited, field, settle, settleEntries, settleItems, settleScalar, vacant, StrEnum.value] at same

theorem renamed_system_seen :
    ∃ form other, projectSemanticArchitecture JsonText.exactDecimals (tagged ["core"]) = .ok form ∧
      projectSemanticArchitecture JsonText.exactDecimals (limited (.int 3)) = .ok other ∧
      (pyEqual form other = true →
        settle (reflect (tagged ["core"]).system) = settle (reflect (limited (.int 3)).system)) := by
  refine projection_sees JsonText.exactDecimals ?_ ?_
  · simp [Reflect.plain, field, tagged]
  · simp [Reflect.plain, field, limited, Plain.int]

end AutonomousApi.SemanticHash
