import AutonomousApi.JsonValue
import AutonomousApi.OrderedMap
import AutonomousApi.PathTemplate

/-! Typed behavioral payloads of isr/core/behavior.py. What the schema validators
check is carried by the types: an expression cannot have a wrong arity, and a
field, policy, effect or operation holds the outcome of its own validator. -/

namespace AutonomousApi.IsrBehavior

open JsonValue OrderedMap

inductive ValueType where
  | string | integer | decimal | boolean | date | datetime | money | identifier
  deriving DecidableEq

inductive ConstraintOperator where
  | min | max | minLength | maxLength | pattern | oneOf | unique | immutable | references
  deriving DecidableEq

structure FieldConstraint where
  operator : ConstraintOperator
  value : Json := .null
  deriving DecidableEq

def asciiLetter (c : Char) : Bool := ('a' ≤ c && c ≤ 'z') || ('A' ≤ c && c ≤ 'Z')

def asciiDigit (c : Char) : Bool := '0' ≤ c && c ≤ '9'

/-- The pattern `^[A-Za-z][A-Za-z0-9_]{0,127}$`. -/
def fieldNamePattern (name : String) : Bool :=
  match name.toList with
  | [] => false
  | first :: rest =>
      asciiLetter first && rest.length ≤ 127 &&
        rest.all fun c => asciiLetter c || asciiDigit c || c == '_'

def validateNumericShape (valueType : ValueType) (required nullable : Bool)
    (precision scale : Option Nat) : Bool :=
  !(nullable && required) &&
  (valueType == .decimal || valueType == .money || (precision.isNone && scale.isNone)) &&
  (precision.getD 0 ≤ 18 && scale.getD 0 ≤ 18) &&
  (match scale, precision with
    | some scale, some precision => scale ≤ precision
    | _, _ => true)

structure FieldSpec where
  name : String
  valueType : ValueType
  required : Bool := true
  nullable : Bool := false
  precision : Option Nat := none
  scale : Option Nat := none
  constraints : List FieldConstraint := []
  named : fieldNamePattern name = true := by decide
  shaped : validateNumericShape valueType required nullable precision scale = true := by decide
  deriving DecidableEq

inductive Literal where
  | str (value : String)
  | int (value : Int)
  | float (value : JsonFloat)
  | bool (value : Bool)
  deriving DecidableEq

inductive ArithmeticOp where
  | add | subtract | multiply | divide
  deriving DecidableEq

inductive ComparisonOp where
  | equal | notEqual | lessThan | lessOrEqual | greaterThan | greaterOrEqual
  deriving DecidableEq

/-- The trees `Expression.validate_shape` admits: each operator with its arity,
a value on literals only, a reference on fields only, no null literal. -/
inductive Expression where
  | literal (value : Literal)
  | field (fieldRef : String)
  | arithmetic (op : ArithmeticOp) (left right : Expression)
  | comparison (op : ComparisonOp) (left right : Expression)
  | and (left right : Expression)
  | or (left right : Expression)
  | not (operand : Expression)
  | ifElse (condition whenTrue whenFalse : Expression)
  deriving DecidableEq

def expressionFieldRefs : Expression → List String
  | .literal _ => []
  | .field fieldRef => if fieldRef = "" then [] else [fieldRef]
  | .arithmetic _ left right => expressionFieldRefs left ++ expressionFieldRefs right
  | .comparison _ left right => expressionFieldRefs left ++ expressionFieldRefs right
  | .and left right => expressionFieldRefs left ++ expressionFieldRefs right
  | .or left right => expressionFieldRefs left ++ expressionFieldRefs right
  | .not operand => expressionFieldRefs operand
  | .ifElse condition whenTrue whenFalse =>
      expressionFieldRefs condition ++ expressionFieldRefs whenTrue ++ expressionFieldRefs whenFalse

structure BusinessRule where
  ruleId : String
  description : String
  expression : Expression
  deriving DecidableEq

structure InvariantSpec where
  invariantId : String
  description : String
  expression : Expression
  deriving DecidableEq

structure StateTransition where
  transitionId : String
  sourceState : String
  targetState : String
  guard : Option Expression := none
  deriving DecidableEq

structure FrontendRouteBehavior where
  path : String
  title : String
  requiresAuth : Bool := false
  deriving DecidableEq

inductive InteractionAction where
  | submit | refresh | delete | toggle
  deriving DecidableEq

structure FrontendInteractionBehavior where
  label : String
  action : InteractionAction
  successMessage : Option String := none
  deriving DecidableEq

inductive RuleEffect where
  | allow | deny
  deriving DecidableEq

structure AuthorizationRule where
  ruleId : String
  effect : RuleEffect
  roles : List String
  actions : List String
  resource : String
  conditions : Dict String Json := []
  distinct : (keys conditions).Nodup := by decide
  deriving DecidableEq

structure DataModelBehavior where
  fields : List FieldSpec
  invariants : List InvariantSpec := []
  nonempty : fields ≠ [] := by decide
  deriving DecidableEq

structure EventBehavior where
  fields : List FieldSpec := []
  deriving DecidableEq

structure ServiceBehavior where
  rules : List BusinessRule := []
  transitions : List StateTransition := []
  deriving DecidableEq

inductive Method where
  | get | post | put | patch | delete
  deriving DecidableEq

def validatePathParameters (path : String) (requestFields : List FieldSpec) : Bool :=
  (PathTemplate.holes (PathTemplate.parse path)).all fun name =>
    (requestFields.map FieldSpec.name).contains (String.ofList name)

structure ApiBehavior where
  operationId : String
  method : Method
  path : String
  requestFields : List FieldSpec := []
  responseFields : List FieldSpec := []
  authorizationPolicyIds : List String := []
  rooted : path.toList.head? = some '/' := by decide
  bound : validatePathParameters path requestFields = true := by decide
  deriving DecidableEq

structure EffectBehavior where
  effectKind : String
  idempotent : Bool := false
  idempotencyKeyRequired : Bool := false
  keyed : (idempotencyKeyRequired && !idempotent) = false := by decide
  deriving DecidableEq

def validatePolicyIds (roles : List String) (rules : List AuthorizationRule) : Bool :=
  decide (rules.map AuthorizationRule.ruleId).Nodup &&
    rules.all fun rule => rule.roles.all roles.contains

structure SecurityBehavior where
  roles : List String
  rules : List AuthorizationRule := []
  consistent : validatePolicyIds roles rules = true := by decide
  deriving DecidableEq

end AutonomousApi.IsrBehavior
