import AutonomousApi.ExpressionRuntime
import AutonomousApi.PythonLiteral
import AutonomousApi.PythonText
import Mathlib.Data.List.Infix

/-! The two `validate_fields` functions that the backends emit, over one list of field
specs and one JSON payload. Python reads numbers with `decimal.Decimal` and compares the
raw values with its own operators; Rust reads them with rust_decimal and compares
decimals. Python counts characters and Rust bytes. -/

namespace AutonomousApi.FieldValidation

open JsonValue OrderedMap IsrBehavior FailFast PythonText PythonLiteral ExpressionRuntime

inductive ValidationError where
  | notAnObject
  | unknownFields (names : List String)
  | unknownField (name : String)
  | missing (name : String)
  | null (name : String)
  | invalidType (name : String)
  | notNumeric
  | scale (name : String)
  | precision (name : String)
  | belowMinimum (name : String)
  | aboveMaximum (name : String)
  | tooShort (name : String)
  | tooLong (name : String)
  | pattern (name : String)
  | notAllowed (name : String)
  | unsupported (operator : ConstraintOperator)
  deriving DecidableEq

/-- What Python raises: its validation error, or an exception of another type. -/
inductive PyFault where
  | behavior (error : ValidationError)
  | other
  deriving DecidableEq

section

inductive PyDecimal where
  | finite (negative : Bool) (coefficient : Nat) (exponent : Int)
  | infinite
  | nan
  deriving DecidableEq

structure RustDecimal where
  mantissa : Int
  scale : Nat
  deriving DecidableEq

def RustDecimal.value (number : RustDecimal) : Rat := number.mantissa / 10 ^ number.scale

def PyDecimal.value : PyDecimal → Option Rat
  | .finite negative coefficient exponent =>
      let magnitude : Rat :=
        if 0 ≤ exponent then coefficient * 10 ^ exponent.toNat else coefficient / 10 ^ (-exponent).toNat
      some (if negative then -magnitude else magnitude)
  | .infinite | .nan => none

/-- What the languages bring along: Unicode's characters and digits, both texts of a
float, the text of an integer beyond 64 bits in serde, rust_decimal's parser, and
Python's regular expressions on the texts of a bound and a value. -/
structure Library where
  table : CharTable
  digit : Char → Nat
  pythonFloat : JsonFloat → String
  rustFloat : JsonFloat → String
  rustInteger : Int → String
  rustDecimal : String → Option RustDecimal
  fullmatch : Json → Json → Option Bool

variable (library : Library)

def digitsValue (digits : List Char) : Nat := digits.foldl (fun value c => 10 * value + library.digit c) 0

def splitSign : List Char → Bool × List Char
  | '-' :: rest => (true, rest)
  | '+' :: rest => (false, rest)
  | rest => (false, rest)

def readExponent : List Char → Option Int
  | [] => some 0
  | c :: rest =>
      let (negative, digits) := splitSign rest
      if (c = 'e' ∨ c = 'E') ∧ digits ≠ [] ∧ digits.all library.table.isDecimal then
        some (if negative then -digitsValue library digits else digitsValue library digits)
      else none

def splitFraction : List Char → List Char × List Char
  | '.' :: rest => (rest.takeWhile library.table.isDecimal, rest.dropWhile library.table.isDecimal)
  | rest => ([], rest)

/-- The finite numerals of the `decimal` module, within its exponent limits. -/
def readFinite (negative : Bool) (text : List Char) : Option PyDecimal := do
  let whole := text.takeWhile library.table.isDecimal
  let (fraction, rest) := splitFraction library (text.dropWhile library.table.isDecimal)
  let power ← readExponent library rest
  let coefficient := digitsValue library (whole ++ fraction)
  let exponent := power - fraction.length
  let adjusted := exponent + (Nat.toDigits 10 coefficient).length - 1
  if whole ++ fraction = [] ∨ exponent < -1999999999999999997 ∨ 999999999999999999 < adjusted then none
  else some (.finite negative coefficient exponent)

def isNan (text : List Char) : Bool :=
  ["nan".toList, "snan".toList].any fun word =>
    text.take word.length == word && (text.drop word.length).all library.table.isDecimal

/-- `Decimal(text)`: blanks around the text and all underscores are dropped. -/
def decimalOfText (text : String) : Option PyDecimal :=
  let (negative, rest) := splitSign ((strip library.table text.toList).filter (· != '_'))
  let lower := library.table.lower rest
  if lower = "inf".toList ∨ lower = "infinity".toList then some .infinite
  else if isNan library lower then some .nan
  else readFinite library negative rest

/-- `_number` on a JSON value. -/
def pythonNumber : Json → Option PyDecimal
  | .int value => some (.finite (value < 0) value.natAbs 0)
  | .float value => decimalOfText library (library.pythonFloat value)
  | .str text => decimalOfText library text
  | _ => none

def rustNumber : Json → Option RustDecimal
  | .int value =>
      library.rustDecimal
        (if -2 ^ 63 ≤ value ∧ value < 2 ^ 64 then String.ofList (integerText value) else library.rustInteger value)
  | .float value => library.rustDecimal (library.rustFloat value)
  | .str text => library.rustDecimal text
  | _ => none

/-- The types that Python tests with `isinstance`. -/
def pythonTyped : ValueType → Json → Bool
  | .string, .str _ | .identifier, .str _ | .date, .str _ | .datetime, .str _ => true
  | .boolean, .bool _ => true
  | .integer, .int _ => true
  | .decimal, .int _ | .decimal, .float _ | .decimal, .str _ => true
  | .money, .int _ | .money, .float _ | .money, .str _ => true
  | _, _ => false

def isNumeric : ValueType → Bool
  | .decimal | .money => true
  | _ => false

/-- The declared digits after the point and in all, where they are declared. -/
def fits (spec : FieldSpec) (scale digits : Nat) : Bool :=
  decide (scale ≤ spec.scale.getD scale) && decide (digits ≤ spec.precision.getD digits)

def digitCount (coefficient : Nat) : Nat := (Nat.toDigits 10 coefficient).length

def rustTyped : ValueType → Json → Bool
  | .string, .str _ | .identifier, .str _ | .date, .str _ | .datetime, .str _ => true
  | .boolean, .bool _ => true
  | .integer, .int value => decide (-2 ^ 63 ≤ value ∧ value < 2 ^ 63)
  | .decimal, value | .money, value => (rustNumber library value).isSome
  | _, _ => false

def checkDigits (spec : FieldSpec) (scale digits : Nat) : Except ValidationError Unit := do
  require (decide (scale ≤ spec.scale.getD scale)) (.scale spec.name)
  require (decide (digits ≤ spec.precision.getD digits)) (.precision spec.name)

def pythonDigits (spec : FieldSpec) (value : Json) : Except PyFault Unit :=
  match pythonNumber library value with
  | none => .error (.behavior .notNumeric)
  | some (.finite _ coefficient exponent) =>
      (checkDigits spec (-exponent).toNat (digitCount coefficient)).mapError .behavior
  -- the exponent of a special value is a letter, and negating it is a type error
  | some _ => .error .other

def pythonShape (spec : FieldSpec) (value : Json) : Except PyFault Unit := do
  require (pythonTyped spec.valueType value) (.behavior (.invalidType spec.name))
  if isNumeric spec.valueType then pythonDigits library spec value else .ok ()

def rustDigits (spec : FieldSpec) (value : Json) : Except ValidationError Unit :=
  match rustNumber library value with
  | none => .error .notNumeric
  | some number => checkDigits spec number.scale (digitCount number.mantissa.natAbs)

def rustShape (spec : FieldSpec) (value : Json) : Except ValidationError Unit := do
  require (rustTyped library spec.valueType value) (.invalidType spec.name)
  if isNumeric spec.valueType then rustDigits library spec value else .ok ()

/-- `value < bound` or `value > bound`, which raises on values without an order. -/
def pythonOrdered (value bound : Json) (refused : Ordering) (error : ValidationError) : Except PyFault Unit :=
  match compareJson value bound with
  | none => .error .other
  | some order => require (order != refused) (.behavior error)

/-- `len(value)`: a number of characters, items or keys. -/
def pythonLength : Json → Option Int
  | .str text => some text.length
  | .arr items => some items.length
  | .obj entries => some entries.length
  | _ => none

def pythonLengthOrdered (value bound : Json) (refused : Ordering) (error : ValidationError) : Except PyFault Unit :=
  match pythonLength value with
  | none => .error .other
  | some length => pythonOrdered (.int length) bound refused error

/-- `value in bound`: an item, a part of a text, or a key. -/
def pythonIn (value : Json) : Json → Option Bool
  | .arr choices => some (choices.any (pyEqual value))
  | .str text =>
      match value with
      | .str part => some (decide (part.toList <:+: text.toList))
      | _ => none
  | .obj entries =>
      match value with
      | .arr _ | .obj _ => none
      | .str key => some (get entries key).isSome
      | _ => some false
  | _ => none

def pythonConstraint (name : String) (value : Json) (constraint : FieldConstraint) : Except PyFault Unit :=
  let bound := constraint.value
  match constraint.operator with
  | .min => pythonOrdered value bound .lt (.belowMinimum name)
  | .max => pythonOrdered value bound .gt (.aboveMaximum name)
  | .minLength => pythonLengthOrdered value bound .lt (.tooShort name)
  | .maxLength => pythonLengthOrdered value bound .gt (.tooLong name)
  | .pattern =>
      match library.fullmatch bound value with
      | none => .error .other
      | some found => require found (.behavior (.pattern name))
  | .oneOf =>
      match pythonIn value bound with
      | none => .error .other
      | some found => require found (.behavior (.notAllowed name))
  | .unique | .immutable | .references => .ok ()

def rustOrdered (value bound : Json) (refused : Ordering) (error : ValidationError) : Except ValidationError Unit :=
  match rustNumber library value, rustNumber library bound with
  | some value, some bound => require (compareOfLessAndEq value.value bound.value != refused) error
  | _, _ => .error .notNumeric

/-- `bound.as_u64()`, and `str::len` in bytes. -/
def rustNatural (absent : Nat) : Json → Nat
  | .int value => if 0 ≤ value ∧ value < 2 ^ 64 then value.toNat else absent
  | _ => absent

def rustLength (absent : Nat) : Json → Nat
  | .str text => text.utf8ByteSize
  | _ => absent

def usizeMax : Nat := 2 ^ 64 - 1

def rustConstraint (name : String) (value : Json) (constraint : FieldConstraint) : Except ValidationError Unit :=
  let bound := constraint.value
  match constraint.operator with
  | .min => rustOrdered library value bound .lt (.belowMinimum name)
  | .max => rustOrdered library value bound .gt (.aboveMaximum name)
  | .minLength => require (decide (rustNatural 0 bound ≤ rustLength 0 value)) (.tooShort name)
  | .maxLength => require (decide (rustLength usizeMax value ≤ rustNatural usizeMax bound)) (.tooLong name)
  | .oneOf =>
      match bound with
      | .arr choices => require (choices.any (serdeEqual value)) (.notAllowed name)
      | _ => .error (.notAllowed name)
  | operator => .error (.unsupported operator)

end

variable (library : Library)

def pythonValue (spec : FieldSpec) (value : Json) : Except PyFault Unit := do
  pythonShape library spec value
  checkAll (pythonConstraint library spec.name value) spec.constraints

def rustValue (spec : FieldSpec) (value : Json) : Except ValidationError Unit := do
  rustShape library spec value
  checkAll (rustConstraint library spec.name value) spec.constraints

/-- One declared field of a record, around the check of a value that is there. -/
def checkField {Fault : Type} (fault : ValidationError → Fault) (check : FieldSpec → Json → Except Fault Unit)
    (entries : Dict String Json) (spec : FieldSpec) : Except Fault Unit :=
  match get entries spec.name with
  | none => require (!spec.required) (fault (.missing spec.name))
  | some .null => require spec.nullable (fault (.null spec.name))
  | some value => check spec value

def pythonValidateFields (fields : List FieldSpec) : Json → Except PyFault Unit
  | .obj entries => do
      let declared := assignAll [] (fields.map fun spec => (spec.name, spec))
      let unknown := sortedSet ((keys entries).filter fun key => !(keys declared).contains key)
      require unknown.isEmpty (.behavior (.unknownFields unknown))
      checkAll (checkField .behavior (pythonValue library) entries) (declared.map Prod.snd)
  | _ => .error (.behavior .notAnObject)

def rustValidateFields (fields : List FieldSpec) : Json → Except ValidationError Unit
  | .obj entries => do
      checkAll (fun key => require (fields.any fun spec => spec.name == key) (.unknownField key)) (keys entries)
      checkAll (checkField id (rustValue library) entries) fields
  | _ => .error .notAnObject

end AutonomousApi.FieldValidation
