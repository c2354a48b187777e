import AutonomousApi.FailFast
import Mathlib.Data.List.Nodup

/-! Insertion-ordered dictionaries as association lists. `assign` is item
assignment: a present key keeps its place and takes the new value, an absent key
goes to the end. `push` is the append through a default empty list by which a
loop groups records under a key. `registerAll` fills a dictionary and refuses a key twice. The
laws say what a lookup finds after a whole run of assignments, pushes or registrations; nothing
here depends on what keys or values are. -/

namespace AutonomousApi.OrderedMap

variable {Key Value Item : Type} [DecidableEq Key]

abbrev Dict (Key Value : Type) := List (Key × Value)

def get (dict : Dict Key Value) (key : Key) : Option Value :=
  match dict with
  | [] => none
  | (first, value) :: rest => if first = key then some value else get rest key

def assign (dict : Dict Key Value) (key : Key) (value : Value) : Dict Key Value :=
  match dict with
  | [] => [(key, value)]
  | (first, old) :: rest =>
      if first = key then (first, value) :: rest else (first, old) :: assign rest key value

def assignAll (dict : Dict Key Value) : List (Key × Value) → Dict Key Value
  | [] => dict
  | entry :: rest => assignAll (assign dict entry.1 entry.2) rest

def push (dict : Dict Key (List Value)) (key : Key) (value : Value) : Dict Key (List Value) :=
  match dict with
  | [] => [(key, [value])]
  | (first, values) :: rest =>
      if first = key then (first, values ++ [value]) :: rest
      else (first, values) :: push rest key value

def group (dict : Dict Key (List Value)) (key : Key) : List Value :=
  (get dict key).getD []

def keys (dict : Dict Key Value) : List Key := dict.map Prod.fst

@[simp] theorem get_nil (key : Key) : get ([] : Dict Key Value) key = none := rfl

@[simp] theorem group_nil (key : Key) : group ([] : Dict Key (List Value)) key = [] := rfl

attribute [local simp] get assign

theorem get_assign (dict : Dict Key Value) (key wanted : Key) (value : Value) :
    get (assign dict key value) wanted = if key = wanted then some value else get dict wanted := by
  induction dict with
  | nil => simp
  | cons entry rest ih =>
      obtain ⟨first, old⟩ := entry
      by_cases same : first = key
      · subst same
        by_cases hit : first = wanted <;> simp [hit]
      · by_cases hit : first = wanted
        · subst hit
          simp [same, Ne.symm same]
        · simp [same, hit, ih]

theorem get_append (left right : Dict Key Value) (wanted : Key) :
    get (left ++ right) wanted = (get left wanted <|> get right wanted) := by
  induction left with
  | nil => simp
  | cons entry rest ih =>
      obtain ⟨first, value⟩ := entry
      by_cases hit : first = wanted <;> simp [hit, ih]

/-- The last assignment to a key decides what the dictionary holds there. -/
theorem get_assignAll (entries : List (Key × Value)) (dict : Dict Key Value) (wanted : Key) :
    get (assignAll dict entries) wanted = (get entries.reverse wanted <|> get dict wanted) := by
  induction entries generalizing dict with
  | nil => simp [assignAll]
  | cons entry rest ih =>
      obtain ⟨key, value⟩ := entry
      rw [assignAll, ih, get_assign, List.reverse_cons, get_append]
      by_cases hit : key = wanted <;> simp [hit]

variable {dict : Dict Key Value} {key : Key} {value : Value} {entry : Key × Value}

theorem mem_of_get (found : get dict key = some value) : (key, value) ∈ dict := by
  induction dict with
  | nil => simp at found
  | cons entry rest ih =>
      obtain ⟨first, old⟩ := entry
      by_cases hit : first = key
      · simp only [get, hit, ↓reduceIte, Option.some.injEq] at found
        simp [hit, found]
      · simp only [get, hit, ↓reduceIte] at found
        exact List.mem_cons_of_mem _ (ih found)

variable {entries : List (Key × Value)} {other : Dict Key Value} {seen : List Key}

theorem mem_of_get_assignAll (found : get (assignAll [] entries) key = some value) : (key, value) ∈ entries := by
  rw [get_assignAll] at found
  cases last : get entries.reverse key with
  | none => simp [last] at found
  | some held =>
      simp only [last, Option.orElse_eq_orElse, Option.orElse_some, Option.some.injEq] at found
      exact List.mem_reverse.mp (found ▸ mem_of_get last)

theorem get_of_mem {dict : Dict Key Value} {key : Key} {value : Value}
    (unique : (keys dict).Nodup) (member : (key, value) ∈ dict) : get dict key = some value := by
  induction dict with
  | nil => simp at member
  | cons entry rest ih =>
      obtain ⟨first, old⟩ := entry
      simp only [keys, List.map_cons, List.nodup_cons] at unique
      rcases List.mem_cons.mp member with same | inside
      · obtain ⟨rfl, rfl⟩ := Prod.mk.inj same
        simp
      · have different : first ≠ key := by
          rintro rfl
          exact unique.1 (List.mem_map.mpr ⟨_, inside, rfl⟩)
        simpa [different] using ih unique.2 inside

theorem get_isSome_iff (dict : Dict Key Value) (key : Key) :
    (get dict key).isSome = true ↔ key ∈ keys dict := by
  induction dict with
  | nil => simp [keys]
  | cons entry rest ih =>
      obtain ⟨first, old⟩ := entry
      by_cases hit : first = key
      · simp [keys, hit]
      · simpa [keys, hit, Ne.symm hit] using ih

theorem get_absent (absent : key ∉ keys dict) : get dict key = none := by
  rwa [← get_isSome_iff, Bool.not_eq_true, Option.isSome_eq_false_iff, Option.isNone_iff_eq_none] at absent

/-- Where all entries with a key agree, a lookup finds what they agree on. -/
theorem get_of_agreed (agreed : ∀ entry ∈ dict, entry.1 = key → entry.2 = value) (present : key ∈ keys dict) :
    get dict key = some value := by
  obtain ⟨held, found⟩ := Option.isSome_iff_exists.mp ((get_isSome_iff dict key).mpr present)
  have same : held = value := agreed (key, held) (mem_of_get found) rfl
  rw [found, same]

/-- Where keys do not repeat, the order of the entries does not matter to lookups. -/
theorem get_perm (unique : (keys dict).Nodup) (reordered : dict.Perm other) (key : Key) :
    get dict key = get other key := by
  have uniqueOther : (keys other).Nodup := (reordered.map Prod.fst).nodup_iff.mp unique
  refine Option.ext fun value => ⟨fun found => ?_, fun found => ?_⟩
  · exact get_of_mem uniqueOther (reordered.mem_iff.mp (mem_of_get found))
  · exact get_of_mem unique (reordered.mem_iff.mpr (mem_of_get found))

theorem get_map_values {Image : Type} (image : Value → Image) (dict : Dict Key Value) (key : Key) :
    get (dict.map fun entry => (entry.1, image entry.2)) key = (get dict key).map image := by
  induction dict with
  | nil => rfl
  | cons entry rest ih =>
      by_cases hit : entry.1 = key <;> simp [hit, ih]

theorem assign_fresh (dict : Dict Key Value) (key : Key) (value : Value)
    (fresh : key ∉ keys dict) : assign dict key value = dict ++ [(key, value)] := by
  induction dict with
  | nil => rfl
  | cons entry rest ih =>
      obtain ⟨first, old⟩ := entry
      simp only [keys, List.map_cons, List.mem_cons, not_or] at fresh
      simp [Ne.symm fresh.1, ih fresh.2]

/-- The value behind a key that is there is written in place. -/
theorem assign_split (present : key ∈ keys dict) :
    ∃ earlier old later, dict = earlier ++ (key, old) :: later ∧
      ∀ value, assign dict key value = earlier ++ (key, value) :: later := by
  induction dict with
  | nil => cases present
  | cons entry rest ih =>
      obtain ⟨first, old⟩ := entry
      by_cases hit : first = key
      · subst hit
        exact ⟨[], old, rest, rfl, fun value => by simp⟩
      · rcases List.mem_cons.mp present with same | inside
        · exact absurd same.symm hit
        · obtain ⟨earlier, held, later, split, written⟩ := ih inside
          refine ⟨(first, old) :: earlier, held, later, by rw [split]; rfl, fun value => ?_⟩
          rw [assign, if_neg hit, written]
          rfl

theorem keys_assign (dict : Dict Key Value) (key : Key) (value : Value) :
    keys (assign dict key value) = if key ∈ keys dict then keys dict else keys dict ++ [key] := by
  induction dict with
  | nil => rfl
  | cons entry rest ih =>
      obtain ⟨first, old⟩ := entry
      by_cases hit : first = key
      · simp [keys, hit]
      · rw [keys] at ih
        by_cases inside : key ∈ keys rest <;> simp_all [keys, Ne.symm hit]

theorem keys_assignAll_nodup (entries : List (Key × Value))
    (unique : (keys dict).Nodup) : (keys (assignAll dict entries)).Nodup := by
  induction entries generalizing dict with
  | nil => exact unique
  | cons entry rest ih =>
      refine ih ?_
      rw [keys_assign]
      split
      · exact unique
      next fresh => exact List.nodup_append.mpr ⟨unique, by simp, by grind⟩

/-- A dictionary is its keys, in their order, with what is found under each. -/
theorem eq_of_keys (unique : (keys dict).Nodup) (aligned : keys dict = keys other)
    (found : ∀ key ∈ keys dict, get dict key = get other key) : dict = other := by
  induction dict generalizing other with
  | nil => exact (List.map_eq_nil_iff.mp aligned.symm).symm
  | cons entry rest ih =>
      obtain ⟨key, value⟩ := entry
      cases other with
      | nil => cases aligned
      | cons head tail =>
          obtain ⟨same, later⟩ := List.cons.inj aligned
          have first := found key List.mem_cons_self
          have absent := (List.nodup_cons.mp unique).1
          simp only [get, ↓reduceIte, same.symm, Option.some.injEq] at first
          rw [ih (List.nodup_cons.mp unique).2 later fun wanted member => ?_]
          · exact congrArg (· :: tail) (Prod.ext same first)
          · have apart : key ≠ wanted := fun hit => absent (hit ▸ member)
            have inside := found wanted (List.mem_cons_of_mem _ member)
            simpa only [get, if_neg apart, ← same] using inside

theorem forall_mem_iff_get (unique : (keys dict).Nodup) (good : Key × Value → Prop) :
    (∀ entry ∈ dict, good entry) ↔ ∀ key value, get dict key = some value → good (key, value) :=
  ⟨fun all _ _ found => all _ (mem_of_get found),
    fun all entry member => all entry.1 entry.2 (get_of_mem unique member)⟩

/-- Assigning under new, pairwise distinct keys only appends. -/
theorem assignAll_fresh (entries dict : List (Key × Value)) (distinct : (keys (dict ++ entries)).Nodup) :
    assignAll dict entries = dict ++ entries := by
  induction entries generalizing dict with
  | nil => simp [assignAll]
  | cons entry rest ih =>
      have fresh : entry.1 ∉ keys dict := by
        intro member
        simp only [keys, List.map_append, List.map_cons, List.nodup_append] at distinct
        exact distinct.2.2 _ member _ (by simp) rfl
      rw [assignAll, assign_fresh dict entry.1 entry.2 fresh, ih]
      · simp
      · simpa using distinct

theorem assignAll_distinct (entries : List (Key × Value)) (unique : (keys entries).Nodup) :
    assignAll [] entries = entries := assignAll_fresh entries [] unique

theorem assignAll_append (dict : Dict Key Value) (entries more : List (Key × Value)) :
    assignAll dict (entries ++ more) = assignAll (assignAll dict entries) more := by
  induction entries generalizing dict with
  | nil => rfl
  | cons entry rest ih => exact ih _

theorem mem_assign_entry (member : entry ∈ assign dict key value) : entry ∈ dict ∨ entry = (key, value) := by
  by_cases present : key ∈ keys dict
  · obtain ⟨earlier, old, later, split, written⟩ := assign_split present
    rw [written] at member
    rw [split]
    simp only [List.mem_append, List.mem_cons] at member ⊢
    tauto
  · rw [assign_fresh dict key value present] at member
    exact (List.mem_append.mp member).imp id List.mem_singleton.mp

theorem mem_assign (member : entry ∈ assign dict key value) : entry ∈ dict ∨ entry.2 = value :=
  (mem_assign_entry member).imp id (congrArg Prod.snd)

theorem mem_of_assignAll (member : entry ∈ assignAll [] entries) :
    entry ∈ entries :=
  mem_of_get_assignAll (get_of_mem (keys_assignAll_nodup entries List.nodup_nil) member)

theorem isSome_assignAll (entries : List (Key × Value)) (key : Key) :
    (get (assignAll [] entries) key).isSome = true ↔ key ∈ keys entries := by
  have reversed : (get entries.reverse key).isSome = true ↔ key ∈ keys entries := by
    rw [get_isSome_iff]
    simp [keys]
  rw [get_assignAll, get_nil, ← reversed]
  cases get entries.reverse key <;> rfl

/-- The entries of both dictionaries; the first one wins where they share a key. -/
def merge (first second : Dict Key Value) : Dict Key Value :=
  first ++ second.filter fun entry => (get first entry.1).isNone

theorem get_merge (first second : Dict Key Value) (key : Key) :
    get (merge first second) key = (get first key <|> get second key) := by
  rw [merge, get_append]
  cases held : get first key with
  | some value => simp
  | none =>
      simp only [Option.orElse_eq_orElse, Option.orElse_none]
      induction second with
      | nil => rfl
      | cons entry rest ih =>
          obtain ⟨name, value⟩ := entry
          by_cases hit : name = key
          · simp [hit, held]
          · cases kept : (get first name).isNone <;> simp [hit, kept, ih]

theorem keys_merge_nodup {first second : Dict Key Value} (distinct : (keys first).Nodup)
    (distinct' : (keys second).Nodup) : (keys (merge first second)).Nodup := by
  rw [keys, merge, List.map_append]
  refine distinct.append (distinct'.sublist (List.filter_sublist.map Prod.fst)) ?_
  intro key inFirst inSecond
  obtain ⟨entry, kept, rfl⟩ := List.mem_map.mp inSecond
  have absent := (List.mem_filter.mp kept).2
  have present := (get_isSome_iff first entry.1).mpr inFirst
  simp [Option.isNone_iff_eq_none.mp absent] at present

/-- Adds the entries whose keys are not there yet. -/
def setDefaults (dict : Dict Key Value) : List (Key × Value) → Dict Key Value
  | [] => dict
  | entry :: rest => setDefaults (merge dict [entry]) rest

theorem get_setDefaults (dict : Dict Key Value) (entries : List (Key × Value)) (key : Key) :
    get (setDefaults dict entries) key = (get dict key <|> get entries key) := by
  induction entries generalizing dict with
  | nil => simp [setDefaults]
  | cons entry rest ih =>
      rw [setDefaults, ih, get_merge]
      cases get dict key with
      | some value => simp
      | none => by_cases hit : entry.1 = key <;> simp [hit]

theorem keys_setDefaults_nodup (entries : List (Key × Value)) (distinct : (keys dict).Nodup) :
    (keys (setDefaults dict entries)).Nodup := by
  induction entries generalizing dict with
  | nil => exact distinct
  | cons entry rest ih => exact ih (keys_merge_nodup distinct (by simp [keys]))

/-- What defaults add goes to the end. -/
theorem setDefaults_split (dict : Dict Key Value) (entries : List (Key × Value)) :
    ∃ added, setDefaults dict entries = dict ++ added ∧ ∀ entry ∈ added, entry ∈ entries := by
  induction entries generalizing dict with
  | nil => exact ⟨[], by simp [setDefaults], by simp⟩
  | cons entry rest ih =>
      obtain ⟨added, same, inside⟩ := ih (merge dict [entry])
      refine ⟨[entry].filter (fun entry => (get dict entry.1).isNone) ++ added, ?_, ?_⟩
      · rw [setDefaults, same, merge, List.append_assoc]
      · intro other member
        rcases List.mem_append.mp member with kept | later
        · exact List.mem_cons.mpr (.inl (List.mem_singleton.mp (List.mem_filter.mp kept).1))
        · exact List.mem_cons_of_mem entry (inside other later)

theorem setDefaults_append (dict : Dict Key Value) (entries more : List (Key × Value)) :
    setDefaults dict (entries ++ more) = setDefaults (setDefaults dict entries) more := by
  induction entries generalizing dict with
  | nil => rfl
  | cons entry rest ih => exact ih _

theorem group_push (dict : Dict Key (List Value)) (key wanted : Key) (value : Value) :
    group (push dict key value) wanted =
      if key = wanted then group dict wanted ++ [value] else group dict wanted := by
  induction dict with
  | nil => by_cases hit : key = wanted <;> simp [push, group, hit]
  | cons entry rest ih =>
      obtain ⟨first, values⟩ := entry
      by_cases same : first = key
      · subst same
        by_cases hit : first = wanted <;> simp [push, group, hit]
      · by_cases hit : first = wanted
        · subst hit
          simp [push, group, same, Ne.symm same]
        · simpa [push, group, same, hit] using ih

/-- A loop that files each record under at most one key. -/
def file (place : Item → Option (Key × Value)) (dict : Dict Key (List Value)) (item : Item) :
    Dict Key (List Value) :=
  match place item with
  | some (key, value) => push dict key value
  | none => dict

def placedAt (place : Item → Option (Key × Value)) (wanted : Key) (item : Item) : Option Value :=
  match place item with
  | some (key, value) => if key = wanted then some value else none
  | none => none

/-- A group holds the records filed under its key, in the order the loop met them. -/
theorem group_filed (place : Item → Option (Key × Value)) (items : List Item)
    (dict : Dict Key (List Value)) (wanted : Key) :
    group (items.foldl (file place) dict) wanted =
      group dict wanted ++ items.filterMap (placedAt place wanted) := by
  induction items generalizing dict with
  | nil => simp
  | cons item rest ih =>
      rw [List.foldl_cons, ih, List.filterMap_cons]
      cases placed : place item with
      | none => simp [file, placedAt, placed]
      | some entry =>
          obtain ⟨key, value⟩ := entry
          by_cases hit : key = wanted <;> simp [file, placedAt, placed, group_push, hit]

/-- A loop that keeps the first record under each key; `seen` holds the keys met so far. -/
def keepFirst (key : Item → Key) (seen : List Key) : List Item → List Item
  | [] => []
  | item :: rest =>
      if seen.contains (key item) then keepFirst key seen rest
      else item :: keepFirst key (seen ++ [key item]) rest

theorem mem_of_keepFirst (key : Item → Key) (seen : List Key) (items : List Item) {item : Item}
    (kept : item ∈ keepFirst key seen items) : item ∈ items := by
  induction items generalizing seen with
  | nil => simp [keepFirst] at kept
  | cons first rest ih =>
      unfold keepFirst at kept
      split at kept
      · exact List.mem_cons_of_mem _ (ih _ kept)
      · rcases List.mem_cons.mp kept with rfl | later
        · exact List.mem_cons_self
        · exact List.mem_cons_of_mem _ (ih _ later)

/-- No two of the records that are kept share a key, and none has a key seen before. -/
theorem keepFirst_keys (key : Item → Key) (seen : List Key) (items : List Item) :
    ((keepFirst key seen items).map key).Nodup ∧ ∀ item ∈ keepFirst key seen items, key item ∉ seen := by
  induction items generalizing seen with
  | nil => exact ⟨List.nodup_nil, fun _ member => nomatch member⟩
  | cons first rest ih =>
      unfold keepFirst
      split
      · exact ih seen
      · next fresh =>
          have later := ih (seen ++ [key first])
          constructor
          · rw [List.map_cons, List.nodup_cons]
            refine ⟨fun again => ?_, later.1⟩
            obtain ⟨item, member, same⟩ := List.mem_map.mp again
            exact later.2 item member (by simp [same])
          · intro item member
            rcases List.mem_cons.mp member with rfl | inside
            · simpa using fresh
            · exact fun old => later.2 item inside (List.mem_append_left _ old)

theorem mem_keepFirst_id {items : List Key} {item : Key} :
    item ∈ keepFirst id seen items ↔ item ∈ items ∧ item ∉ seen := by
  constructor
  · exact fun kept => ⟨mem_of_keepFirst id seen items kept, (keepFirst_keys id seen items).2 item kept⟩
  · rintro ⟨member, fresh⟩
    induction items generalizing seen with
    | nil => cases member
    | cons first rest ih =>
        rw [keepFirst, id]
        by_cases known : first ∈ seen
        · rw [if_pos (List.contains_iff_mem.mpr known)]
          exact ih ((List.mem_cons.mp member).resolve_left fun same => fresh (same ▸ known)) fresh
        · rw [if_neg (by simpa using known)]
          by_cases same : item = first
          · exact same ▸ List.mem_cons_self
          · exact List.mem_cons_of_mem _ (ih ((List.mem_cons.mp member).resolve_left same) (by simp [fresh, same]))

theorem keepFirst_append (seen items more : List Key) : keepFirst id seen (items ++ more) =
    keepFirst id seen items ++ keepFirst id (seen ++ keepFirst id seen items) more := by
  induction items generalizing seen with
  | nil => simp [keepFirst]
  | cons first rest ih =>
      by_cases known : seen.contains (id first)
      · rw [List.cons_append, keepFirst, if_pos known, keepFirst, if_pos known, ih]
      · rw [List.cons_append, keepFirst, if_neg known, keepFirst, if_neg known, ih, List.cons_append,
          List.append_assoc, id, List.singleton_append]

/-- Items seen before may be left out beforehand. -/
theorem keepFirst_filter {old : List Key} (known : old ⊆ seen) (items : List Key) :
    keepFirst id seen (items.filter (· ∉ old)) = keepFirst id seen items := by
  induction items generalizing seen with
  | nil => rfl
  | cons first rest ih =>
      by_cases inside : first ∈ old
      · have hit : seen.contains (id first) = true := List.contains_iff_mem.mpr (known inside)
        rw [List.filter_cons_of_neg (by simpa using inside), keepFirst, if_pos hit, ih known]
      · rw [List.filter_cons_of_pos (by simpa using inside), keepFirst, keepFirst]
        split
        · exact ih known
        · rw [ih fun item member => List.mem_append_left _ (known member)]

/-- Under a key not seen before, the record that is kept is the first one. -/
theorem find_keepFirst (key : Item → Key) (seen : List Key) (items : List Item) (wanted : Key)
    (fresh : wanted ∉ seen) :
    (keepFirst key seen items).find? (fun item => key item == wanted) =
      items.find? fun item => key item == wanted := by
  induction items generalizing seen with
  | nil => rfl
  | cons first rest ih =>
      unfold keepFirst
      by_cases hit : key first = wanted
      · simp [hit, fresh]
      · by_cases known : key first ∈ seen
        · simpa [known, hit] using ih seen fresh
        · simpa [known, hit] using ih (seen ++ [key first]) (by simp [fresh, Ne.symm hit])

section

variable {Fault : Type}

/-- One round of a loop that reads an item, refuses a key that is taken, checks the value and
assigns it. -/
def register (read : Item → Except Fault (Key × Value)) (taken : Key → Bool) (clash : Key → Fault)
    (check : Value → Except Fault Unit) (dict : Dict Key Value) (item : Item) : Except Fault (Dict Key Value) := do
  let entry ← read item
  FailFast.require (!(taken entry.1 || (get dict entry.1).isSome)) (clash entry.1)
  check entry.2
  .ok (assign dict entry.1 entry.2)

def registerAll (read : Item → Except Fault (Key × Value)) (taken : Key → Bool) (clash : Key → Fault)
    (check : Value → Except Fault Unit) (dict : Dict Key Value) (items : List Item) : Except Fault (Dict Key Value) :=
  FailFast.foldChecked (register read taken clash check) dict items

variable {read : Item → Except Fault (Key × Value)} {taken : Key → Bool} {clash : Key → Fault}
variable {check : Value → Except Fault Unit} {dict : Dict Key Value}

theorem register_ok {next : Dict Key Value} {item : Item}
    (registered : register read taken clash check dict item = .ok next) :
    ∃ entry, read item = .ok entry ∧ taken entry.1 = false ∧ entry.1 ∉ keys dict ∧ check entry.2 = .ok () ∧
      next = dict ++ [entry] := by
  rw [register] at registered
  obtain ⟨entry, known, rest⟩ := FailFast.bind_ok registered
  obtain ⟨⟨⟩, free, rest⟩ := FailFast.bind_ok rest
  obtain ⟨⟨⟩, admitted, same⟩ := FailFast.bind_ok rest
  simp only [FailFast.require_ok_iff, Bool.not_eq_true', Bool.or_eq_false_iff] at free
  have fresh : entry.1 ∉ keys dict := by
    rw [← get_isSome_iff, free.2]
    exact Bool.false_ne_true
  rw [assign_fresh dict entry.1 entry.2 fresh] at same
  exact ⟨entry, known, free.1, fresh, admitted, (Except.ok.inj same).symm⟩

/-- A loop that ran through has read every item and appended what it read, under keys that are
distinct and free. -/
theorem registerAll_ok {final : Dict Key Value} {items : List Item}
    (run : registerAll read taken clash check dict items = .ok final) :
    ∃ entries, final = dict ++ entries ∧ (∀ item ∈ items, ∃ entry ∈ entries, read item = .ok entry) ∧
      (∀ entry ∈ entries, (∃ item ∈ items, read item = .ok entry) ∧ taken entry.1 = false ∧ entry.1 ∉ keys dict ∧
        check entry.2 = .ok ()) ∧ (keys entries).Nodup := by
  induction items generalizing dict with
  | nil =>
      cases run
      exact ⟨[], by simp, by simp, by simp, by simp [keys]⟩
  | cons item rest ih =>
      rw [registerAll, FailFast.foldChecked] at run
      cases first : register read taken clash check dict item with
      | error fault => simp [first] at run
      | ok next =>
          rw [first] at run
          obtain ⟨entry, known, free, fresh, admitted, rfl⟩ := register_ok first
          obtain ⟨entries, same, all, each, distinct⟩ := ih run
          refine ⟨entry :: entries, by simp [same], ?_, ?_, ?_⟩
          · intro other member
            rcases List.mem_cons.mp member with rfl | later
            · exact ⟨entry, List.mem_cons_self, known⟩
            · obtain ⟨found, inside, read⟩ := all other later
              exact ⟨found, List.mem_cons_of_mem entry inside, read⟩
          · intro other member
            rcases List.mem_cons.mp member with rfl | later
            · exact ⟨⟨item, List.mem_cons_self, known⟩, free, fresh, admitted⟩
            · obtain ⟨⟨source, inside, read⟩, otherFree, otherFresh, otherAdmitted⟩ := each other later
              exact ⟨⟨source, List.mem_cons_of_mem item inside, read⟩, otherFree,
                fun present => otherFresh (by simp_all [keys]), otherAdmitted⟩
          · rw [keys, List.map_cons, List.nodup_cons]
            refine ⟨fun inside => ?_, distinct⟩
            obtain ⟨other, later, same⟩ := List.mem_map.mp inside
            exact (each other later).2.2.1 (by simp [keys, ← same])

omit [DecidableEq Key] in
theorem keys_append_nodup {entries : Dict Key Value} (distinct : (keys dict).Nodup) (distinct' : (keys entries).Nodup)
    (fresh : ∀ entry ∈ entries, entry.1 ∉ keys dict) : (keys (dict ++ entries)).Nodup := by
  rw [keys, List.map_append]
  refine distinct.append distinct' ?_
  intro key inDict inEntries
  obtain ⟨entry, member, rfl⟩ := List.mem_map.mp inEntries
  exact fresh entry member inDict

end

variable {dict : Dict Key Value} {keyOf : Value → Key}

omit [DecidableEq Key] in
/-- What is kept under its own keys. -/
theorem keys_eq_map_own (own : ∀ entry ∈ dict, entry.1 = keyOf entry.2) :
    keys dict = (dict.map Prod.snd).map keyOf := by
  rw [keys, List.map_map]
  exact List.map_congr_left own

theorem map_own_found {wanted : List Key}
    (own : ∀ entry ∈ dict, entry.1 = keyOf entry.2) (known : wanted ⊆ keys dict) :
    (wanted.filterMap (get dict)).map keyOf = wanted := by
  induction wanted with
  | nil => rfl
  | cons key rest ih =>
      obtain ⟨value, held⟩ := Option.isSome_iff_exists.mp ((get_isSome_iff dict key).mpr (known List.mem_cons_self))
      rw [List.filterMap_cons_some held, List.map_cons, ih fun other member => known (List.mem_cons_of_mem _ member),
        ← own _ (mem_of_get held)]

theorem filterMap_keys (distinct : (keys dict).Nodup) :
    (keys dict).filterMap (get dict) = dict.map Prod.snd := by
  rw [keys, List.filterMap_map, ← List.filterMap_eq_map]
  exact List.filterMap_congr fun entry member => get_of_mem distinct member

/-- Taken by their keys, the items come each once. -/
theorem perm_flatMap_filter {keyOf : Item → Key} {keys : List Key} {items : List Item} (distinct : keys.Nodup)
    (known : ∀ item ∈ items, keyOf item ∈ keys) :
    (keys.flatMap fun key => items.filter fun item => keyOf item = key).Perm items := by
  induction keys generalizing items with
  | nil =>
      cases items with
      | nil => exact .refl _
      | cons item rest => exact absurd (known item List.mem_cons_self) (by simp)
  | cons key rest ih =>
      obtain ⟨fresh, distinct⟩ := List.nodup_cons.mp distinct
      have later : (rest.flatMap fun other => items.filter fun item => keyOf item = other) =
          rest.flatMap fun other => (items.filter fun item => ¬ keyOf item = key).filter fun item =>
            keyOf item = other := by
        apply List.flatMap_congr
        intro other member
        rw [List.filter_filter]
        apply List.filter_congr
        intro item _
        by_cases same : keyOf item = other
        · have apart : keyOf item ≠ key := fun again => fresh (again.symm.trans same ▸ member)
          simp [same, same ▸ apart]
        · simp [same]
      rw [List.flatMap_cons, later]
      have known' : ∀ item ∈ items.filter (fun item => ¬ keyOf item = key), keyOf item ∈ rest := by
        intro item member
        obtain ⟨inside, apart⟩ := List.mem_filter.mp member
        exact (List.mem_cons.mp (known item inside)).resolve_left (of_decide_eq_true apart)
      refine ((ih distinct known').append_left _).trans ?_
      simpa using List.filter_append_perm (fun item => decide (keyOf item = key)) items

end AutonomousApi.OrderedMap
