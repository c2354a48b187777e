import AutonomousApi.JsonCodec
import AutonomousApi.SystemReflection

/-! The canonical form of a value and the semantic hash of a representation. The form is
JSON in which empty values are left out of every container, floats are texts and the
members of a string enumeration are their texts. `settle` is what an architecture amounts
to when empty values do not count: it drops them at every depth, forgets the order of
dictionary entries and compares booleans with integers as Python does. Of two values of
one type, equal forms have equal settled values. -/

namespace AutonomousApi.SemanticProjection

open DataTree JsonValue PythonLiteral OrderedMap DataclassValues SystemModel

variable (numbers : NumberText JsonFloat)

/-- `_is_empty` of a form. -/
def isEmpty : Json → Bool
  | .null => true
  | .atom (.str text) => text == ""
  | .arr items => items.isEmpty
  | .obj entries => entries.isEmpty
  | _ => false

def scalarForm : Scalar → Except String Json
  | .none => .ok .null
  | .bool value => .ok (.bool value)
  | .int value => .ok (.int value)
  | .text value => .ok (.atom (.str value))
  -- A string enumeration is caught by the branch for strings, before the one for enumerations.
  | .strMember value => .ok (.atom (.str value))
  | .float value => .ok (.atom (.str (String.ofList (numbers.text value))))
  | .member value => .ok (.obj [("__enum__", .atom value)])
  | .datetime isoformat => .ok (.obj [("__datetime__", .atom (.str isoformat))])
  | .other typeName => .error ("no canonical form for " ++ typeName)

/-- `[json.loads(f) for f in sorted(canonicalize(v) for v in value)]`; reading a text back
gives the form with its keys sorted. -/
def sortedForms (forms : List Json) : List Json :=
  ((forms.map fun form => (JsonCodec.dumps .compact numbers form, sortKeys form)).insertionSort
    fun left right => left.1 ≤ right.1).map Prod.snd

mutual
def canonicalForm : PyValue → Except String Json
  | .scalar value => scalarForm numbers value
  | .dict entries => do return .obj (assignAll [] (← canonicalEntries entries))
  | .tuple items => do return .arr (← canonicalItems items)
  | .list items => do return .arr (← canonicalItems items)
  | .set items => do return .arr (sortedForms numbers (← memberForms items))
  -- `asdict` makes a dictionary of a dataclass instance first.
  | .record fields => do return .obj (assignAll [] (← canonicalEntries fields))

def canonicalItems : List PyValue → Except String (List Json)
  | [] => .ok []
  | item :: rest => do
      let canonical ← canonicalForm item
      let others ← canonicalItems rest
      return if isEmpty canonical then others else canonical :: others

def memberForms : List PyValue → Except String (List Json)
  | [] => .ok []
  | item :: rest => do return (← canonicalForm item) :: (← memberForms rest)

def canonicalEntries : List (PyKey × PyValue) → Except String (List (String × Json))
  | [] => .ok []
  | (key, value) :: rest => do
      let canonical ← canonicalForm value
      let others ← canonicalEntries rest
      return if isEmpty canonical then others else (key.printed, canonical) :: others
end

/-- `canonicalize`. -/
def canonicalize (value : PyValue) : Except String String := do
  return JsonCodec.dumps .compact numbers (← canonicalForm numbers value)

def projectSemanticArchitecture (isr : ISR) : Except String Json := canonicalForm numbers (reflect isr.system)

mutual
/-- A form taken for the Python value it is. -/
def formValue : Json → PyValue
  | .atom .null => .none
  | .atom (.bool value) => .bool value
  | .atom (.int value) => .int value
  | .atom (.float value) => .float value
  | .atom (.str value) => .text value
  | .arr items => .list (formValues items)
  | .obj entries => .dict (formEntries entries)

def formValues : List Json → List PyValue
  | [] => []
  | item :: rest => formValue item :: formValues rest

def formEntries : List (String × Json) → List (PyKey × PyValue)
  | [] => []
  | (key, value) :: rest => (.text key, formValue value) :: formEntries rest
end

/-- `semantic_content_hash`, which canonicalizes the projection once more. -/
def semanticContentHash (sha256 : String → String) (isr : ISR) : Except String String := do
  let projection ← projectSemanticArchitecture numbers isr
  return sha256 (← canonicalize numbers (formValue projection))

/-- Whether a settled value carries no architecture. -/
def vacant : PyValue → Bool
  | .none => true
  | .text value => value == ""
  | .strMember value => value == ""
  | .tuple items => items.isEmpty
  | .list items => items.isEmpty
  | .set items => items.isEmpty
  | .dict entries => entries.isEmpty
  | .record fields => fields.isEmpty
  | _ => false

def settleScalar : Scalar → Scalar
  | .bool value => .int (if value then 1 else 0)
  | value => value

def keyOrder (left right : PyKey × PyValue) : Prop := left.1.printed ≤ right.1.printed

instance : DecidableRel keyOrder := fun left right =>
  inferInstanceAs (Decidable (left.1.printed ≤ right.1.printed))

mutual
def settle : PyValue → PyValue
  | .scalar value => .scalar (settleScalar value)
  | .tuple items => .tuple (settleItems items)
  | .list items => .list (settleItems items)
  | .set items => .set items
  | .dict entries => .dict ((settleEntries entries).insertionSort keyOrder)
  | .record fields => .record (settleEntries fields)

def settleItems : List PyValue → List PyValue
  | [] => []
  | item :: rest => if vacant (settle item) then settleItems rest else settle item :: settleItems rest

def settleEntries : List (PyKey × PyValue) → List (PyKey × PyValue)
  | [] => []
  | (key, value) :: rest =>
      if vacant (settle value) then settleEntries rest else (key, settle value) :: settleEntries rest
end

end AutonomousApi.SemanticProjection
