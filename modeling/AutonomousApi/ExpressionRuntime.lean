import AutonomousApi.IsrBehavior
import Mathlib.Algebra.Order.Ring.Rat

/-! The three evaluators of the expression language: the oracle that writes expected
values into generated tests (compiler/core/behavior_oracle.py), the Python runtime and
the Rust runtime that the backends emit. Decimals, their arithmetic and their parsing
are one exact operation shared by all three. A missing value is a failure, whichever
exception or error it is. -/

namespace AutonomousApi.ExpressionRuntime

open JsonValue OrderedMap IsrBehavior

/-- Decimal texts: what a text or a float denotes, and a text for each value. -/
structure Decimals where
  parse : String → Option Rat
  ofFloat : JsonFloat → Rat
  print : Rat → String
  parsePrint : ∀ value, parse (print value) = some value

/-- Python computes with decimals of its own beside JSON values; Rust writes a decimal
back as a text. -/
inductive PyValue where
  | json (value : Json)
  | decimal (value : Rat)
  deriving DecidableEq

abbrev Context := Dict String Json

def literalJson : Literal → Json
  | .str value => .str value
  | .int value => .int value
  | .float value => .float value
  | .bool value => .bool value

def applyArithmetic (op : ArithmeticOp) (left right : Rat) : Option Rat :=
  match op with
  | .add => some (left + right)
  | .subtract => some (left - right)
  | .multiply => some (left * right)
  | .divide => if right = 0 then none else some (left / right)

/-- A comparison from the two questions the languages answer: equality always, order
only for some operands. -/
def applyComparison (op : ComparisonOp) (equal : Bool) (order : Option Ordering) : Option Bool :=
  match op with
  | .equal => some equal
  | .notEqual => some !equal
  | .lessThan => order.map (· == .lt)
  | .lessOrEqual => order.map (· != .gt)
  | .greaterThan => order.map (· == .gt)
  | .greaterOrEqual => order.map (· != .lt)

section

/-- `bool(value)`. -/
def truthy : PyValue → Bool
  | .decimal value => value ≠ 0
  | .json .null => false
  | .json (.bool value) => value
  | .json (.int value) => value ≠ 0
  | .json (.float value) => value.toRat ≠ 0
  | .json (.str value) => value ≠ ""
  | .json (.arr items) => !items.isEmpty
  | .json (.obj entries) => !entries.isEmpty

def boolean : PyValue → Option Bool
  | .json (.bool value) => some value
  | _ => none

/-- The number Python's own operators see in an atom. -/
def atomNumber : JsonAtom → Option Rat
  | .bool value => some (if value then 1 else 0)
  | .int value => some value
  | .float value => some value.toRat
  | _ => none

def nativeNumber : PyValue → Option Rat
  | .decimal value => some value
  | .json (.atom value) => atomNumber value
  | _ => none

def compareAtoms (left right : JsonAtom) : Option Ordering :=
  match atomNumber left, atomNumber right with
  | some left, some right => some (compareOfLessAndEq left right)
  | _, _ =>
      match left, right with
      | .str left, .str right => some (compareOfLessAndEq left right)
      | _, _ => none

mutual
/-- Python's order on JSON values: numbers, texts, and lists by their first difference. -/
def compareJson : Json → Json → Option Ordering
  | .atom left, .atom right => compareAtoms left right
  | .list left, .list right => compareItems left right
  | _, _ => none

def compareItems : List Json → List Json → Option Ordering
  | [], [] => some .eq
  | [], _ :: _ => some .lt
  | _ :: _, [] => some .gt
  | left :: lefts, right :: rights =>
      if pyEqual left right then compareItems lefts rights else compareJson left right
end

def compareNumbers (left right : PyValue) : Option Ordering :=
  match nativeNumber left, nativeNumber right with
  | some left, some right => some (compareOfLessAndEq left right)
  | _, _ => none

def nativeOrder : PyValue → PyValue → Option Ordering
  | .json left, .json right => compareJson left right
  | left, right => compareNumbers left right

def nativeEqual : PyValue → PyValue → Bool
  | .json left, .json right => pyEqual left right
  | left, right => decide (nativeNumber left = nativeNumber right ∧ (nativeNumber left).isSome)

def nativeCompare (op : ComparisonOp) (left right : PyValue) : Option PyValue :=
  (applyComparison op (nativeEqual left right) (nativeOrder left right)).map fun value => .json (.bool value)

variable (decimals : Decimals)

/-- `Decimal(str(value))`: the texts of booleans, nulls, lists and records are no numbers. -/
def toDecimal : PyValue → Option Rat
  | .decimal value => some value
  | .json (.int value) => some value
  | .json (.float value) => some (decimals.ofFloat value)
  | .json (.str text) => decimals.parse text
  | .json _ => none

variable (context : Context)

def decimalIfNumeric (value : PyValue) : Option Rat :=
  if (boolean value).isSome then none else toDecimal decimals value

def referenceCompare (op : ComparisonOp) (left right : PyValue) : Option PyValue :=
  match decimalIfNumeric decimals left, decimalIfNumeric decimals right with
  | some left, some right => nativeCompare op (.decimal left) (.decimal right)
  | _, _ => nativeCompare op left right

def referenceEvaluate : Expression → Option PyValue
  | .literal value => some (.json (literalJson value))
  | .field fieldRef => (get context fieldRef).map .json
  | .ifElse condition whenTrue whenFalse => do
      let condition ← referenceEvaluate condition
      let whenTrue ← referenceEvaluate whenTrue
      let whenFalse ← referenceEvaluate whenFalse
      some (if truthy condition then whenTrue else whenFalse)
  | .and left right => do
      let left ← referenceEvaluate left
      let right ← referenceEvaluate right
      some (.json (.bool (truthy left && truthy right)))
  | .or left right => do
      let left ← referenceEvaluate left
      let right ← referenceEvaluate right
      some (.json (.bool (truthy left || truthy right)))
  | .not operand => do
      let operand ← referenceEvaluate operand
      some (.json (.bool !truthy operand))
  | .arithmetic op left right => do
      let left ← referenceEvaluate left
      let right ← referenceEvaluate right
      let left ← toDecimal decimals left
      let right ← toDecimal decimals right
      (applyArithmetic op left right).map .decimal
  | .comparison op left right => do
      let left ← referenceEvaluate left
      let right ← referenceEvaluate right
      referenceCompare decimals op left right

def number (value : PyValue) : Option Rat :=
  match value with
  | .json (.bool _) => none
  | .json (.int _) | .json (.float _) | .json (.str _) | .decimal _ => toDecimal decimals value
  | _ => none

def comparisonValues (left right : PyValue) : PyValue × PyValue :=
  if (boolean left).isSome || (boolean right).isSome then (left, right)
  else
    match number decimals left, number decimals right with
    | some left, some right => (.decimal left, .decimal right)
    | _, _ => (left, right)

/-- `_resolve`: a key of the context, or a path through nested records. -/
def resolvePath : List String → Json → Option Json
  | [], current => some current
  | part :: rest, .obj entries => (get entries part).bind (resolvePath rest)
  | _ :: _, _ => none

def splitPath (path : String) : List String := (path.toList.splitOn '.').map String.ofList

def resolve (path : String) : Option Json :=
  match get context path with
  | some value => some value
  | none => resolvePath (splitPath path) (.obj context)

def pythonEvaluate : Expression → Option PyValue
  | .and left right => do
      let left ← boolean (← pythonEvaluate left)
      if left then
        let right ← boolean (← pythonEvaluate right)
        some (.json (.bool right))
      else some (.json (.bool false))
  | .or left right => do
      let left ← boolean (← pythonEvaluate left)
      if left then some (.json (.bool true))
      else
        let right ← boolean (← pythonEvaluate right)
        some (.json (.bool right))
  | .ifElse condition whenTrue whenFalse => do
      let condition ← boolean (← pythonEvaluate condition)
      if condition then pythonEvaluate whenTrue else pythonEvaluate whenFalse
  | .literal value => some (.json (literalJson value))
  | .field fieldRef => (resolve context fieldRef).map .json
  | .arithmetic op left right => do
      let left ← pythonEvaluate left
      let right ← pythonEvaluate right
      let right ← number decimals right
      let left ← number decimals left
      (applyArithmetic op left right).map .decimal
  | .comparison op left right => do
      let left ← pythonEvaluate left
      let right ← pythonEvaluate right
      let (left, right) := comparisonValues decimals left right
      nativeCompare op left right
  | .not operand => do
      let operand ← boolean (← pythonEvaluate operand)
      some (.json (.bool !operand))

end

variable (decimals : Decimals) (context : Context)

def decimal : Json → Option Rat
  | .int value => some value
  | .float value => some (decimals.ofFloat value)
  | .str text => decimals.parse text
  | _ => none

def decimalValue (value : Rat) : Json := .str (decimals.print value)

def equalValues (left right : Json) : Bool :=
  match decimal decimals left, decimal decimals right with
  | some left, some right => decide (left = right)
  | _, _ => serdeEqual left right

def compareValues (left right : Json) : Option Ordering :=
  match decimal decimals left, decimal decimals right with
  | some left, some right => some (compareOfLessAndEq left right)
  | _, _ =>
      match left, right with
      | .str left, .str right => some (compareOfLessAndEq left right)
      | .bool left, .bool right => some (compare left right)
      | _, _ => none

def rustBoolean : Json → Option Bool
  | .bool value => some value
  | _ => none

def rustCompare (op : ComparisonOp) (left right : Json) : Option Json :=
  (applyComparison op (equalValues decimals left right) (compareValues decimals left right)).map .bool

def rustEvaluate : Expression → Option Json
  | .literal value => some (literalJson value)
  | .field fieldRef => resolve context fieldRef
  | .and left right => do
      let left ← rustBoolean (← rustEvaluate left)
      if left then
        let right ← rustBoolean (← rustEvaluate right)
        some (.bool right)
      else some (.bool false)
  | .or left right => do
      let left ← rustBoolean (← rustEvaluate left)
      if left then some (.bool true)
      else
        let right ← rustBoolean (← rustEvaluate right)
        some (.bool right)
  | .ifElse condition whenTrue whenFalse => do
      let condition ← rustBoolean (← rustEvaluate condition)
      if condition then rustEvaluate whenTrue else rustEvaluate whenFalse
  | .arithmetic op left right => do
      let left ← rustEvaluate left
      let right ← rustEvaluate right
      let right ← decimal decimals right
      let left ← decimal decimals left
      (applyArithmetic op left right).map (decimalValue decimals)
  | .comparison op left right => do
      let left ← rustEvaluate left
      let right ← rustEvaluate right
      rustCompare decimals op left right
  | .not operand => do
      let operand ← rustBoolean (← rustEvaluate operand)
      some (.bool !operand)

end AutonomousApi.ExpressionRuntime
