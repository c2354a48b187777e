import AutonomousApi.DataTree
import Mathlib.Data.Rat.Defs

/-! JSON documents as the repository's Python and Rust code hold them. Integers
are unbounded, floats are the finite binary fractions with a separate negative
zero, object entries keep their order. The two languages compare such documents
differently: Python equates numbers across `bool`, `int` and `float`, serde keeps
the three apart. Both ignore the order of object keys. -/

namespace AutonomousApi.JsonValue

open DataTree

inductive JsonFloat where
  | negativeZero
  | finite (value : Dyadic)
  deriving DecidableEq

def JsonFloat.toRat : JsonFloat → Rat
  | .negativeZero => 0
  | .finite value => value.toRat

inductive JsonAtom where
  | null
  | bool (value : Bool)
  | int (value : Int)
  | float (value : JsonFloat)
  | str (value : String)
  deriving DecidableEq

abbrev Json := Tree String JsonAtom

namespace Json

@[match_pattern] abbrev null : Json := .atom .null
@[match_pattern] abbrev bool (value : Bool) : Json := .atom (.bool value)
@[match_pattern] abbrev int (value : Int) : Json := .atom (.int value)
@[match_pattern] abbrev float (value : JsonFloat) : Json := .atom (.float value)
@[match_pattern] abbrev str (value : String) : Json := .atom (.str value)
@[match_pattern] abbrev arr (items : List Json) : Json := .list items
@[match_pattern] abbrev obj (entries : List (String × Json)) : Json := .dict entries

end Json

/-- An atom as Python's `==` sees it: a boolean is the number zero or one. -/
inductive PyAtom where
  | none
  | number (value : Rat)
  | text (value : String)
  deriving DecidableEq

def pyAtom : JsonAtom → PyAtom
  | .null => .none
  | .bool value => .number (if value then 1 else 0)
  | .int value => .number value
  | .float value => .number value.toRat
  | .str value => .text value

def pyView (value : Json) : Tree String PyAtom := sortKeys (mapAtoms pyAtom value)

def pyEqual (left right : Json) : Bool := decide (pyView left = pyView right)

/-- An atom as serde's `PartialEq` sees it: floats compare by value, and an
integer never equals a float. -/
inductive SerdeAtom where
  | null
  | bool (value : Bool)
  | integer (value : Int)
  | float (value : Rat)
  | text (value : String)
  deriving DecidableEq

def serdeAtom : JsonAtom → SerdeAtom
  | .null => .null
  | .bool value => .bool value
  | .int value => .integer value
  | .float value => .float value.toRat
  | .str value => .text value

def serdeView (value : Json) : Tree String SerdeAtom := sortKeys (mapAtoms serdeAtom value)

def serdeEqual (left right : Json) : Bool := decide (serdeView left = serdeView right)

example : pyEqual (.bool true) (.int 1) = true ∧ serdeEqual (.bool true) (.int 1) = false := by
  decide

end AutonomousApi.JsonValue
