import AutonomousApi.JsonValue
import AutonomousApi.OrderedMap

/-! Python values as reflection sees them: what `dataclasses`, `enum` and `json` tell
apart, with dictionaries keyed by hashable values and records that list their fields
in the order of the class. A class of records is described by its fields, each with
the way it is read off an instance, and that description is all that a generic encoder
of records looks at. Nothing here depends on what the classes are. -/

namespace AutonomousApi.DataclassValues

open JsonValue OrderedMap

/-- A dictionary key: a string, or another hashable known by what `str()` makes of it. -/
inductive PyKey where
  | text (value : String)
  | other (printed : String)
  deriving DecidableEq

def PyKey.printed : PyKey → String
  | .text value => value
  | .other printed => printed

/-- A value that holds no other value. -/
inductive Scalar where
  | none
  | bool (value : Bool)
  | int (value : Int)
  | float (value : JsonFloat)
  | text (value : String)
  -- A member of a class that derives from both `str` and `Enum`.
  | strMember (value : String)
  -- A member of any other enumeration, by the atom it stands for.
  | member (value : JsonAtom)
  | datetime (isoformat : String)
  | other (typeName : String)
  deriving DecidableEq

inductive PyValue where
  | scalar (value : Scalar)
  | tuple (items : List PyValue)
  | list (items : List PyValue)
  | set (items : List PyValue)
  | dict (entries : List (PyKey × PyValue))
  -- An instance of a dataclass, by its fields as `asdict` keys them.
  | record (fields : List (PyKey × PyValue))

namespace PyValue

@[match_pattern] abbrev none : PyValue := .scalar .none
@[match_pattern] abbrev bool (value : Bool) : PyValue := .scalar (.bool value)
@[match_pattern] abbrev int (value : Int) : PyValue := .scalar (.int value)
@[match_pattern] abbrev float (value : JsonFloat) : PyValue := .scalar (.float value)
@[match_pattern] abbrev text (value : String) : PyValue := .scalar (.text value)
@[match_pattern] abbrev strMember (value : String) : PyValue := .scalar (.strMember value)

/-- Induction with the members of a container as the smaller values. -/
@[elab_as_elim, induction_eliminator]
theorem induct {motive : PyValue → Prop} (scalar : ∀ value, motive (.scalar value))
    (tuple : ∀ items, (∀ item ∈ items, motive item) → motive (.tuple items))
    (list : ∀ items, (∀ item ∈ items, motive item) → motive (.list items))
    (set : ∀ items, (∀ item ∈ items, motive item) → motive (.set items))
    (dict : ∀ entries, (∀ entry ∈ entries, motive entry.2) → motive (.dict entries))
    (record : ∀ fields, (∀ field ∈ fields, motive field.2) → motive (.record fields))
    (value : PyValue) : motive value := by
  refine @PyValue.rec motive (fun items => ∀ item ∈ items, motive item)
    (fun entries => ∀ entry ∈ entries, motive entry.2) (fun entry => motive entry.2)
    scalar tuple list set dict record ?_ ?_ ?_ ?_ ?_ value
  · simp
  · intro head tail first rest item member
    rcases List.mem_cons.mp member with rfl | inside
    · exact first
    · exact rest item inside
  · simp
  · intro head tail first rest entry member
    rcases List.mem_cons.mp member with rfl | inside
    · exact first
    · exact rest entry inside
  · exact fun _ _ held => held

end PyValue

/-- A dictionary whose keys are strings. -/
structure StrDict (Value : Type) where
  entries : Dict String Value
  distinct : (keys entries).Nodup

instance {Value : Type} : EmptyCollection (StrDict Value) := ⟨[], List.nodup_nil⟩

@[simp] theorem StrDict.entries_empty {Value : Type} : (∅ : StrDict Value).entries = [] := rfl

@[ext] theorem StrDict.ext {Value : Type} {dict other : StrDict Value} (same : dict.entries = other.entries) :
    dict = other := by
  cases dict
  cases other
  cases same
  rfl

/-- An enumeration whose members are strings, as `class Name(str, Enum)` with `@unique` makes one. -/
class StrEnum (Member : Type) where
  members : List Member
  value : Member → String
  complete : ∀ member, member ∈ members
  distinct : (members.map value).Nodup

variable {Member : Type} [StrEnum Member]

/-- The call of the class on a text. -/
def StrEnum.ofValue (text : String) : Option Member :=
  StrEnum.members.find? fun member : Member => value member == text

@[simp] theorem StrEnum.ofValue_value (member : Member) : ofValue (value member) = some member := by
  cases found : (ofValue (value member) : Option Member) with
  | none =>
      have missed := List.find?_eq_none.mp found member (complete member)
      simp at missed
  | some held =>
      have agrees := List.find?_some found
      have same := List.inj_on_of_nodup_map StrEnum.distinct (complete held) (complete member) (by simpa using agrees)
      rw [same]

/-- Data as JSON holds it, without floats: `None`, booleans, integers, strings, lists and
dictionaries with string keys. -/
inductive Plain : PyValue → Prop
  | none : Plain .none
  | bool (value : Bool) : Plain (.bool value)
  | int (value : Int) : Plain (.int value)
  | text (value : String) : Plain (.text value)
  | list {items : List PyValue} (each : ∀ item ∈ items, Plain item) : Plain (.list items)
  | dict {entries : List (PyKey × PyValue)} (texts : ∀ entry ∈ entries, ∃ key, entry.1 = .text key)
      (distinct : (entries.map Prod.fst).Nodup) (each : ∀ entry ∈ entries, Plain entry.2) : Plain (.dict entries)

/-- Two values that one annotation admits: of one kind at every position, where an optional
value may be missing and free-form data is plain. -/
inductive Alike : PyValue → PyValue → Prop
  | none : Alike .none .none
  | absentLeft (value : PyValue) : Alike .none value
  | absentRight (value : PyValue) : Alike value .none
  | bool (left right : Bool) : Alike (.bool left) (.bool right)
  | int (left right : Int) : Alike (.int left) (.int right)
  | float (left right : JsonFloat) : Alike (.float left) (.float right)
  | text (left right : String) : Alike (.text left) (.text right)
  | strMember (left right : String) : Alike (.strMember left) (.strMember right)
  | tuple {left right : List PyValue} (each : ∀ item ∈ left, ∀ other ∈ right, Alike item other) :
      Alike (.tuple left) (.tuple right)
  | dict {left right : List (PyKey × PyValue)}
      (texts : ∀ entry ∈ left ++ right, ∃ key, entry.1 = .text key)
      (distinctLeft : (left.map Prod.fst).Nodup) (distinctRight : (right.map Prod.fst).Nodup)
      (each : ∀ entry ∈ left, ∀ other ∈ right, entry.1 = other.1 → Alike entry.2 other.2) :
      Alike (.dict left) (.dict right)
  | record {left right : List (PyKey × PyValue)} (texts : ∀ field ∈ left, ∃ name, field.1 = .text name)
      (aligned : left.map Prod.fst = right.map Prod.fst)
      (distinct : (left.map Prod.fst).Nodup)
      (each : ∀ field ∈ left, ∀ other ∈ right, field.1 = other.1 → Alike field.2 other.2) :
      Alike (.record left) (.record right)
  | free {left right : PyValue} (plainLeft : Plain left) (plainRight : Plain right) : Alike left right

/-- How a value of a type looks to reflection. Free-form data inside it may be anything; where
it is plain, two values of the type are alike. -/
class Reflect (Source : Type) where
  reflect : Source → PyValue
  plain : Source → Prop
  alike : ∀ {left right}, plain left → plain right → Alike (reflect left) (reflect right)

export Reflect (reflect)

instance : Reflect Bool := ⟨.bool, fun _ => True, fun _ _ => .bool _ _⟩

instance : Reflect Int := ⟨.int, fun _ => True, fun _ _ => .int _ _⟩

instance : Reflect JsonFloat := ⟨.float, fun _ => True, fun _ _ => .float _ _⟩

instance : Reflect String := ⟨.text, fun _ => True, fun _ _ => .text _ _⟩

instance : Reflect PyValue := ⟨id, Plain, .free⟩

instance {Member : Type} [StrEnum Member] : Reflect Member :=
  ⟨fun member => .strMember (StrEnum.value member), fun _ => True, fun _ _ => .strMember _ _⟩

variable {Source Class : Type} [Reflect Source]

/-- An optional value. -/
instance : Reflect (Option Source) where
  reflect value := (value.map reflect).getD .none
  plain value := ∀ held ∈ value, Reflect.plain held
  alike {left right} plainLeft plainRight := by
    cases left with
    | none => exact .absentLeft _
    | some value =>
        cases right with
        | none => exact .absentRight _
        | some other => exact Reflect.alike (plainLeft value rfl) (plainRight other rfl)

/-- A tuple of any length. -/
instance : Reflect (List Source) where
  reflect items := .tuple (items.map reflect)
  plain items := ∀ item ∈ items, Reflect.plain item
  alike {left right} plainLeft plainRight := by
    refine .tuple fun item inLeft other inRight => ?_
    obtain ⟨source, member, rfl⟩ := List.mem_map.mp inLeft
    obtain ⟨target, inside, rfl⟩ := List.mem_map.mp inRight
    exact Reflect.alike (plainLeft source member) (plainRight target inside)

/-- A tuple of two texts. -/
instance : Reflect (String × String) where
  reflect pair := .tuple [.text pair.1, .text pair.2]
  plain _ := True
  alike _ _ := by
    refine .tuple fun item inLeft other inRight => ?_
    simp only [List.mem_cons, List.not_mem_nil, or_false] at inLeft inRight
    rcases inLeft with rfl | rfl <;> rcases inRight with rfl | rfl <;> exact .text _ _

instance : Reflect (StrDict Source) where
  reflect dict := .dict (dict.entries.map fun entry => (.text entry.1, reflect entry.2))
  plain dict := ∀ entry ∈ dict.entries, Reflect.plain entry.2
  alike {left right} plainLeft plainRight := by
    have keysOf (dict : StrDict Source) :
        ((dict.entries.map fun entry => (PyKey.text entry.1, reflect entry.2)).map Prod.fst).Nodup := by
      rw [List.map_map]
      have named := dict.distinct.map (f := PyKey.text) (fun _ _ same => by cases same; rfl)
      simpa [keys, Function.comp_def] using named
    refine .dict ?_ (keysOf left) (keysOf right) ?_
    · intro entry member
      simp only [List.mem_append, List.mem_map] at member
      rcases member with ⟨source, _, rfl⟩ | ⟨source, _, rfl⟩ <;> exact ⟨_, rfl⟩
    · intro entry inLeft other inRight _
      obtain ⟨source, member, rfl⟩ := List.mem_map.mp inLeft
      obtain ⟨target, inside, rfl⟩ := List.mem_map.mp inRight
      exact Reflect.alike (plainLeft source member) (plainRight target inside)

/-- One field of a class, with the way it is read off an instance. -/
structure FieldOf (Class : Type) where
  name : String
  value : Class → PyValue
  plain : Class → Prop
  alike : ∀ {left right}, plain left → plain right → Alike (value left) (value right)

def field (name : String) (get : Class → Source) : FieldOf Class where
  name := name
  value source := reflect (get source)
  plain source := Reflect.plain (get source)
  alike := Reflect.alike

/-- A class by its fields, in their order. -/
@[reducible] def dataclass (fields : List (FieldOf Class)) (distinct : (fields.map (·.name)).Nodup) :
    Reflect Class where
  reflect source := .record (fields.map fun field => (.text field.name, field.value source))
  plain source := ∀ field ∈ fields, field.plain source
  alike {left right} plainLeft plainRight := by
    have names := distinct.map (f := PyKey.text) (fun _ _ same => by cases same; rfl)
    refine .record (by simp) (by simp) (by simpa [Function.comp_def] using names) ?_
    intro first inLeft second inRight named
    obtain ⟨field, member, rfl⟩ := List.mem_map.mp inLeft
    obtain ⟨other, inside, rfl⟩ := List.mem_map.mp inRight
    have same : field = other := List.inj_on_of_nodup_map distinct member inside (PyKey.text.inj named)
    subst same
    exact field.alike (plainLeft field member) (plainRight field member)

end AutonomousApi.DataclassValues
