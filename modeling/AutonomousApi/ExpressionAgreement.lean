import AutonomousApi.ExpressionRuntime
import AutonomousApi.JsonText
import Mathlib.Data.List.TakeWhile

/-! When the three evaluators agree. `meaning` reads an expression strictly: every
operand is evaluated, and a condition is a boolean or the reading fails. The evaluators
depart from it in different ways (the oracle by truth values of other types, the
runtimes by operands they skip, Rust by its own comparisons), and `clean` says at which
operators none of them does. -/

namespace AutonomousApi.ExpressionAgreement

open JsonValue OrderedMap IsrBehavior DataTree ExpressionRuntime
open PythonLiteral JsonText

variable (decimals : Decimals) (context : Context)

/-- Every field reference of the tree is a key of the context. -/
def Covers : Expression → Prop
  | .literal _ => True
  | .field fieldRef => (get context fieldRef).isSome = true
  | .arithmetic _ left right | .comparison _ left right | .and left right | .or left right =>
      Covers left ∧ Covers right
  | .not operand => Covers operand
  | .ifElse condition whenTrue whenFalse => Covers condition ∧ Covers whenTrue ∧ Covers whenFalse

def jsonNumber : Json → Option Rat
  | .int value => some value
  | .float value => some (decimals.ofFloat value)
  | _ => none

def pyNumber : PyValue → Option Rat
  | .json value => jsonNumber decimals value
  | .decimal value => some value

/-- Equal results in Python, with numbers compared as decimals. -/
def SamePython (left right : PyValue) : Prop :=
  left = right ∨ ∃ value, pyNumber decimals left = some value ∧ pyNumber decimals right = some value

/-- A result in Python and one in Rust, where a decimal is a text. -/
def SameRust : PyValue → Json → Prop
  | .decimal value, other => decimal decimals other = some value
  | .json value, other =>
      value = other ∨ ∃ shared, jsonNumber decimals value = some shared ∧ jsonNumber decimals other = some shared

/-- All three fail, or all three return the same value. -/
def SameOutcome : Option PyValue → Option PyValue → Option Json → Prop
  | none, none, none => True
  | some reference, some python, some rust => SamePython decimals reference python ∧ SameRust decimals python rust
  | _, _, _ => False

def Agree (expression : Expression) : Prop :=
  SameOutcome decimals (referenceEvaluate decimals context expression)
    (pythonEvaluate decimals context expression) (rustEvaluate decimals context expression)

def compareMeaning (op : ComparisonOp) (left right : PyValue) : Option PyValue :=
  match toDecimal decimals left, toDecimal decimals right with
  | some left, some right => nativeCompare op (.decimal left) (.decimal right)
  | _, _ => nativeCompare op left right

/-- `and` with `skips` false, `or` with `skips` true: the first operand decides alone
when it is `skips`, and the second one counts otherwise. -/
def joinMeaning (skips : Bool) (first second : Option PyValue) : Option PyValue := do
  let left ← boolean (← first)
  let right ← second
  if left = skips then some (.json (.bool skips)) else (boolean right).map fun value => .json (.bool value)

def chooseMeaning (condition whenTrue whenFalse : Option PyValue) : Option PyValue := do
  let condition ← boolean (← condition)
  let whenTrue ← whenTrue
  let whenFalse ← whenFalse
  some (if condition then whenTrue else whenFalse)

def meaning : Expression → Option PyValue
  | .literal value => some (.json (literalJson value))
  | .field fieldRef => (get context fieldRef).map .json
  | .arithmetic op left right => do
      let left ← meaning left
      let right ← meaning right
      let left ← toDecimal decimals left
      let right ← toDecimal decimals right
      (applyArithmetic op left right).map .decimal
  | .comparison op left right => do
      let left ← meaning left
      let right ← meaning right
      compareMeaning decimals op left right
  | .and left right => joinMeaning false (meaning left) (meaning right)
  | .or left right => joinMeaning true (meaning left) (meaning right)
  | .not operand => do
      let operand ← boolean (← meaning operand)
      some (.json (.bool !operand))
  | .ifElse condition whenTrue whenFalse => chooseMeaning (meaning condition) (meaning whenTrue) (meaning whenFalse)

/-- A value as Rust holds it. -/
def encode : PyValue → Json
  | .json value => value
  | .decimal value => decimalValue decimals value

/-- Python's operator and Rust's fallback on two values that are not both numbers. -/
def answersAlike (left right : PyValue) : ComparisonOp → Bool
  | .equal | .notEqual => nativeEqual left right == serdeEqual (encode decimals left) (encode decimals right)
  | .lessThan | .lessOrEqual | .greaterThan | .greaterOrEqual =>
      (nativeOrder left right).isSome == (compareValues decimals (encode decimals left) (encode decimals right)).isSome

def comparesAlike (op : ComparisonOp) : Option PyValue → Option PyValue → Bool
  | some left, some right =>
      ((toDecimal decimals left).isSome && (toDecimal decimals right).isSome) || answersAlike decimals left right op
  | _, _ => true

/-- The operand behind the first one of `and` (or of `or`, with `skips` true): it is
evaluated without failing where a runtime skips it, and a boolean where it counts. -/
def joinsAlike (skips : Bool) : Option PyValue → Option PyValue → Bool
  | none, _ => true
  | some left, right =>
      match boolean left with
      | some value => if value = skips then right.isSome else right.all fun right => (boolean right).isSome
      | none => right.isNone

def choosesAlike : Option PyValue → Option PyValue → Option PyValue → Bool
  | none, _, _ => true
  | some condition, whenTrue, whenFalse =>
      match boolean condition with
      | some true => whenTrue.isNone || whenFalse.isSome
      | some false => whenFalse.isNone || whenTrue.isSome
      | none => whenTrue.isNone || whenFalse.isNone

def clean : Expression → Bool
  | .literal _ => true
  | .field _ => true
  | .arithmetic _ left right => clean left && clean right
  | .comparison op left right =>
      clean left && clean right &&
        comparesAlike decimals op (meaning decimals context left) (meaning decimals context right)
  | .and left right =>
      clean left && clean right &&
        joinsAlike false (meaning decimals context left) (meaning decimals context right)
  | .or left right =>
      clean left && clean right &&
        joinsAlike true (meaning decimals context left) (meaning decimals context right)
  | .not operand => clean operand && (meaning decimals context operand).all fun value => (boolean value).isSome
  | .ifElse condition whenTrue whenFalse =>
      clean condition && clean whenTrue && clean whenFalse &&
        choosesAlike (meaning decimals context condition) (meaning decimals context whenTrue)
          (meaning decimals context whenFalse)

section

variable {decimals}

theorem boolean_eq_some {value : PyValue} {flag : Bool} (found : boolean value = some flag) :
    value = .json (.bool flag) := by
  unfold boolean at found
  split at found
  · next other => rw [Option.some.inj found]
  · cases found

theorem truthy_of_boolean {value : PyValue} {flag : Bool} (found : boolean value = some flag) :
    truthy value = flag := by
  rw [boolean_eq_some found]
  rfl

theorem encode_decimal (value : Rat) : encode decimals (.decimal value) = decimalValue decimals value := rfl

theorem encode_json (value : Json) : encode decimals (.json value) = value := rfl

variable (value : PyValue)

theorem rustBoolean_encode : rustBoolean (encode decimals value) = boolean value := by
  cases value with
  | decimal value => rfl
  | json value =>
      cases value with
      | atom value => cases value <;> rfl
      | list items => rfl
      | dict entries => rfl

theorem decimal_encode : decimal decimals (encode decimals value) = toDecimal decimals value := by
  cases value with
  | decimal value => exact decimals.parsePrint value
  | json value =>
      cases value with
      | atom value => cases value <;> rfl
      | list items => rfl
      | dict entries => rfl

theorem number_eq : number decimals value = toDecimal decimals value := by
  cases value with
  | decimal value => rfl
  | json value =>
      cases value with
      | atom value => cases value <;> rfl
      | list items => rfl
      | dict entries => rfl

theorem toDecimal_of_boolean {value : PyValue} (flag : (boolean value).isSome = true) :
    toDecimal decimals value = none := by
  obtain ⟨flag, found⟩ := Option.isSome_iff_exists.mp flag
  rw [boolean_eq_some found]
  rfl

theorem decimalIfNumeric_eq : decimalIfNumeric decimals value = toDecimal decimals value := by
  unfold decimalIfNumeric
  split
  · next flag => rw [toDecimal_of_boolean flag]
  · rfl

theorem referenceCompare_eq (op : ComparisonOp) (left right : PyValue) :
    referenceCompare decimals op left right = compareMeaning decimals op left right := by
  cases isFirst : toDecimal decimals left <;> cases isSecond : toDecimal decimals right <;>
    simp [referenceCompare, compareMeaning, decimalIfNumeric_eq, isFirst, isSecond]

theorem comparisonValues_eq (op : ComparisonOp) (left right : PyValue) :
    nativeCompare op (comparisonValues decimals left right).1 (comparisonValues decimals left right).2 =
      compareMeaning decimals op left right := by
  unfold comparisonValues compareMeaning
  by_cases flagLeft : (boolean left).isSome = true
  · simp [flagLeft, toDecimal_of_boolean flagLeft]
  · by_cases flagRight : (boolean right).isSome = true
    · cases toDecimal decimals left <;> simp [flagRight, toDecimal_of_boolean flagRight]
    · simp only [flagLeft, flagRight, Bool.or_self, Bool.false_eq_true, if_false, number_eq]
      cases toDecimal decimals left <;> cases toDecimal decimals right <;> rfl

theorem same_encode :
    SamePython decimals value value ∧ SameRust decimals value (encode decimals value) := by
  refine ⟨.inl rfl, ?_⟩
  cases value with
  | json value => exact .inl rfl
  | decimal value => exact decimals.parsePrint value

/-- Two booleans are the same result only if they are equal. -/
theorem sameRust_bool (left right : Bool) : SameRust decimals (.json (.bool left)) (.bool right) ↔ left = right := by
  simp [SameRust, jsonNumber]

end

section

/-- All three evaluators return the meaning. -/
structure Exact (expression : Expression) : Prop where
  reference : referenceEvaluate decimals context expression = meaning decimals context expression
  python : pythonEvaluate decimals context expression = meaning decimals context expression
  rust : rustEvaluate decimals context expression = (meaning decimals context expression).map (encode decimals)

variable {decimals context}

theorem Exact.agree {expression : Expression} (exact : Exact decimals context expression) :
    Agree decimals context expression := by
  unfold Agree
  rw [exact.reference, exact.python, exact.rust]
  cases meaning decimals context expression with
  | none => trivial
  | some value => exact same_encode value

theorem SameOutcome.fails_together {reference python : Option PyValue} {rust : Option Json}
    (same : SameOutcome decimals reference python rust) :
    reference.isSome = python.isSome ∧ python.isSome = rust.isSome := by
  unfold SameOutcome at same
  split at same
  · exact ⟨rfl, rfl⟩
  · exact ⟨rfl, rfl⟩
  · exact same.elim

theorem exact_arithmetic (op : ArithmeticOp) {left right : Expression} (exactLeft : Exact decimals context left)
    (exactRight : Exact decimals context right) : Exact decimals context (.arithmetic op left right) := by
  constructor
  · simp only [referenceEvaluate, meaning, exactLeft.reference, exactRight.reference]
  · simp only [pythonEvaluate, meaning, exactLeft.python, exactRight.python, number_eq]
    cases meaning decimals context left with
    | none => rfl
    | some leftValue =>
        cases meaning decimals context right with
        | none => rfl
        | some rightValue =>
            cases leftNumber : toDecimal decimals leftValue <;> cases rightNumber : toDecimal decimals rightValue <;>
              simp [leftNumber, rightNumber]
  · simp only [rustEvaluate, meaning, exactLeft.rust, exactRight.rust]
    cases meaning decimals context left with
    | none => rfl
    | some leftValue =>
        cases meaning decimals context right with
        | none => rfl
        | some rightValue =>
            cases leftNumber : toDecimal decimals leftValue <;> cases rightNumber : toDecimal decimals rightValue <;>
              simp [decimal_encode, leftNumber, rightNumber, Function.comp_def, encode_decimal]

theorem exact_not {operand : Expression} (exactOperand : Exact decimals context operand)
    (strict : (meaning decimals context operand).all (fun value => (boolean value).isSome) = true) :
    Exact decimals context (.not operand) := by
  constructor
  · simp only [referenceEvaluate, meaning, exactOperand.reference]
    cases found : meaning decimals context operand with
    | none => rfl
    | some value =>
        obtain ⟨flag, isFlag⟩ := Option.isSome_iff_exists.mp (by simpa [found] using strict)
        simp [isFlag, truthy_of_boolean isFlag]
  · simp only [pythonEvaluate, meaning, exactOperand.python]
  · simp only [rustEvaluate, meaning, exactOperand.rust]
    cases meaning decimals context operand with
    | none => rfl
    | some value => cases flag : boolean value <;> simp [rustBoolean_encode, flag, encode_json]

theorem not_agree_iff {operand : Expression} (exactOperand : Exact decimals context operand) :
    Agree decimals context (.not operand) ↔
      (meaning decimals context operand).all (fun value => (boolean value).isSome) = true := by
  refine ⟨fun agree => ?_, fun strict => (exact_not exactOperand strict).agree⟩
  unfold Agree at agree
  simp only [referenceEvaluate, pythonEvaluate, exactOperand.reference, exactOperand.python] at agree
  cases found : meaning decimals context operand with
  | none => rfl
  | some value =>
      cases flag : boolean value with
      | none => simpa [found, flag] using agree.fails_together.1
      | some flag => simp [flag]

end

section

/-- The three ways to join two results by `and` or `or`. -/
def joinReference (skips : Bool) (first second : Option PyValue) : Option PyValue := do
  let left ← first
  let right ← second
  some (.json (.bool (if skips then truthy left || truthy right else truthy left && truthy right)))

def joinPython (skips : Bool) (first second : Option PyValue) : Option PyValue := do
  let left ← boolean (← first)
  if left = skips then some (.json (.bool skips))
  else
    let right ← boolean (← second)
    some (.json (.bool right))

def joinRust (skips : Bool) (first second : Option Json) : Option Json := do
  let left ← rustBoolean (← first)
  if left = skips then some (.bool skips)
  else
    let right ← rustBoolean (← second)
    some (.bool right)

variable {decimals context}

variable {skips : Bool} {first second : Option PyValue} {left right : Expression}

theorem joinReference_eq (alike : joinsAlike skips first second = true) :
    joinReference skips first second = joinMeaning skips first second := by
  unfold joinReference joinMeaning
  rcases first with _ | first
  · rfl
  · cases flag : boolean first with
    | none => rcases second with _ | second <;> simp_all [joinsAlike]
    | some value =>
        rcases second with _ | second
        · simp
        · by_cases decides : value = skips
          · subst decides
            cases value <;> simp [truthy_of_boolean flag, flag]
          · obtain ⟨last, isFlag⟩ := Option.isSome_iff_exists.mp (by simpa [joinsAlike, flag, decides] using alike)
            cases value <;> cases skips <;>
              simp_all [truthy_of_boolean flag, truthy_of_boolean isFlag]

theorem joinPython_eq (alike : joinsAlike skips first second = true) :
    joinPython skips first second = joinMeaning skips first second := by
  unfold joinPython joinMeaning
  rcases first with _ | first
  · rfl
  · cases flag : boolean first with
    | none => simp [flag]
    | some value =>
        by_cases decides : value = skips
        · have evaluated : second.isSome = true := by simpa [joinsAlike, flag, decides] using alike
          obtain ⟨second, rfl⟩ := Option.isSome_iff_exists.mp evaluated
          simp [flag, decides]
        · rcases second with _ | second
          · simp [flag, decides]
          · cases isFlag : boolean second <;> simp [flag, decides, isFlag]

theorem joinRust_eq (skips : Bool) (first second : Option PyValue) :
    joinRust skips (first.map (encode decimals)) (second.map (encode decimals)) =
      (joinPython skips first second).map (encode decimals) := by
  unfold joinRust joinPython
  rcases first with _ | first
  · rfl
  · cases flag : boolean first with
    | none => simp [rustBoolean_encode, flag]
    | some value =>
        by_cases decides : value = skips
        · simp [rustBoolean_encode, flag, decides, encode_json]
        · rcases second with _ | second
          · simp [rustBoolean_encode, flag, decides]
          · cases isFlag : boolean second <;> simp [rustBoolean_encode, flag, decides, isFlag, encode_json]

/-- Where the operands are not alike, the oracle fails and Python does not, or the other
way round. -/
theorem join_apart (apart : joinsAlike skips first second = false) :
    (joinReference skips first second).isSome ≠ (joinPython skips first second).isSome := by
  unfold joinReference joinPython
  rcases first with _ | first
  · simp [joinsAlike] at apart
  · cases flag : boolean first with
    | none => rcases second with _ | second <;> simp_all [joinsAlike]
    | some value =>
        by_cases decides : value = skips
        · rcases second with _ | second <;> simp_all [joinsAlike]
        · rcases second with _ | second
          · simp [joinsAlike, flag, decides] at apart
          · cases isFlag : boolean second <;> simp_all [joinsAlike]

attribute [local simp] referenceEvaluate pythonEvaluate rustEvaluate meaning

/-- An expression that joins two operands, in all three evaluators. -/
structure Joined (decimals : Decimals) (context : Context) (skips : Bool) (left right whole : Expression) : Prop where
  reference : referenceEvaluate decimals context whole =
    joinReference skips (referenceEvaluate decimals context left) (referenceEvaluate decimals context right)
  python : pythonEvaluate decimals context whole =
    joinPython skips (pythonEvaluate decimals context left) (pythonEvaluate decimals context right)
  rust : rustEvaluate decimals context whole =
    joinRust skips (rustEvaluate decimals context left) (rustEvaluate decimals context right)
  meaning : meaning decimals context whole =
    joinMeaning skips (meaning decimals context left) (meaning decimals context right)

theorem joined_and (left right : Expression) : Joined decimals context false left right (.and left right) where
  reference := by simp [joinReference]
  python := by
    rw [pythonEvaluate, joinPython]
    congr 1
    funext value
    cases boolean value with
    | none => rfl
    | some flag => cases flag <;> rfl
  rust := by
    rw [rustEvaluate, joinRust]
    congr 1
    funext value
    cases rustBoolean value with
    | none => rfl
    | some flag => cases flag <;> rfl
  meaning := rfl

theorem joined_or (left right : Expression) : Joined decimals context true left right (.or left right) where
  reference := by simp [joinReference]
  python := by rw [pythonEvaluate, joinPython]
  rust := by rw [rustEvaluate, joinRust]
  meaning := rfl

variable {whole : Expression}

theorem Joined.exact (joined : Joined decimals context skips left right whole) (exactLeft : Exact decimals context left)
    (exactRight : Exact decimals context right)
    (alike : joinsAlike skips (ExpressionAgreement.meaning decimals context left)
      (ExpressionAgreement.meaning decimals context right) = true) : Exact decimals context whole where
  reference := by
    rw [joined.reference, exactLeft.reference, exactRight.reference, joinReference_eq alike, joined.meaning]
  python := by rw [joined.python, exactLeft.python, exactRight.python, joinPython_eq alike, joined.meaning]
  rust := by rw [joined.rust, exactLeft.rust, exactRight.rust, joinRust_eq, joinPython_eq alike, joined.meaning]

theorem Joined.agree_iff (joined : Joined decimals context skips left right whole)
    (exactLeft : Exact decimals context left) (exactRight : Exact decimals context right) :
    Agree decimals context whole ↔ joinsAlike skips (ExpressionAgreement.meaning decimals context left)
      (ExpressionAgreement.meaning decimals context right) = true := by
  refine ⟨fun agree => ?_, fun alike => (joined.exact exactLeft exactRight alike).agree⟩
  by_contra apart
  have together := agree.fails_together.1
  rw [joined.reference, joined.python, exactLeft.reference, exactRight.reference, exactLeft.python,
    exactRight.python] at together
  exact join_apart (Bool.eq_false_of_not_eq_true apart) together

end

section

variable {decimals context}

theorem exact_ifElse {condition whenTrue whenFalse : Expression} (exactCondition : Exact decimals context condition)
    (exactTrue : Exact decimals context whenTrue) (exactFalse : Exact decimals context whenFalse)
    (alike : choosesAlike (meaning decimals context condition) (meaning decimals context whenTrue)
      (meaning decimals context whenFalse) = true) :
    Exact decimals context (.ifElse condition whenTrue whenFalse) := by
  constructor
  · rw [referenceEvaluate, meaning, exactCondition.reference, exactTrue.reference, exactFalse.reference, chooseMeaning]
    generalize meaning decimals context condition = chosen at alike ⊢
    generalize meaning decimals context whenTrue = first at alike ⊢
    generalize meaning decimals context whenFalse = second at alike ⊢
    rcases chosen with _ | chosen
    · rfl
    · cases flag : boolean chosen with
      | none => rcases first with _ | first <;> rcases second with _ | second <;> simp_all [choosesAlike]
      | some value => simp [flag, truthy_of_boolean flag]
  · rw [pythonEvaluate, meaning, exactCondition.python, exactTrue.python, exactFalse.python, chooseMeaning]
    generalize meaning decimals context condition = chosen at alike ⊢
    generalize meaning decimals context whenTrue = first at alike ⊢
    generalize meaning decimals context whenFalse = second at alike ⊢
    rcases chosen with _ | chosen
    · rfl
    · cases flag : boolean chosen with
      | none => simp [flag]
      | some value =>
          cases value <;> rcases first with _ | first <;> rcases second with _ | second <;>
            simp_all [choosesAlike]
  · rw [rustEvaluate, meaning, exactCondition.rust, exactTrue.rust, exactFalse.rust, chooseMeaning]
    generalize meaning decimals context condition = chosen at alike ⊢
    generalize meaning decimals context whenTrue = first at alike ⊢
    generalize meaning decimals context whenFalse = second at alike ⊢
    rcases chosen with _ | chosen
    · rfl
    · cases flag : boolean chosen with
      | none => simp [flag, rustBoolean_encode]
      | some value =>
          cases value <;> rcases first with _ | first <;> rcases second with _ | second <;>
            simp_all [choosesAlike, rustBoolean_encode]

theorem ifElse_agree_iff {condition whenTrue whenFalse : Expression}
    (exactCondition : Exact decimals context condition) (exactTrue : Exact decimals context whenTrue)
    (exactFalse : Exact decimals context whenFalse) :
    Agree decimals context (.ifElse condition whenTrue whenFalse) ↔
      choosesAlike (meaning decimals context condition) (meaning decimals context whenTrue)
        (meaning decimals context whenFalse) = true := by
  refine ⟨fun agree => ?_, fun alike => (exact_ifElse exactCondition exactTrue exactFalse alike).agree⟩
  have together := agree.fails_together.1
  rw [referenceEvaluate, pythonEvaluate, exactCondition.reference, exactTrue.reference, exactFalse.reference,
    exactCondition.python, exactTrue.python, exactFalse.python] at together
  generalize meaning decimals context condition = chosen at together ⊢
  generalize meaning decimals context whenTrue = first at together ⊢
  generalize meaning decimals context whenFalse = second at together ⊢
  rcases chosen with _ | chosen
  · rfl
  · cases flag : boolean chosen with
    | none => rcases first with _ | first <;> rcases second with _ | second <;> simp_all [choosesAlike]
    | some value =>
        cases value <;> rcases first with _ | first <;> rcases second with _ | second <;>
          simp_all [choosesAlike]

end

section

variable {decimals context}

variable {left right : PyValue}

variable (op : ComparisonOp)

theorem compareMeaning_numbers {first second : Rat}
    (isFirst : toDecimal decimals left = some first) (isSecond : toDecimal decimals right = some second) :
    compareMeaning decimals op left right =
      (applyComparison op (decide (first = second)) (some (compareOfLessAndEq first second))).map
        fun value => .json (.bool value) := by
  simp [compareMeaning, isFirst, isSecond, nativeCompare, nativeEqual, nativeOrder, compareNumbers, nativeNumber]

theorem compareMeaning_others
    (others : ¬ ((toDecimal decimals left).isSome = true ∧ (toDecimal decimals right).isSome = true)) :
    compareMeaning decimals op left right = nativeCompare op left right := by
  unfold compareMeaning
  cases isFirst : toDecimal decimals left with
  | none => rfl
  | some first =>
      cases isSecond : toDecimal decimals right with
      | none => rfl
      | some second => exact absurd ⟨by simp [isFirst], by simp [isSecond]⟩ others

theorem rustCompare_numbers {first second : Rat}
    (isFirst : toDecimal decimals left = some first) (isSecond : toDecimal decimals right = some second) :
    rustCompare decimals op (encode decimals left) (encode decimals right) =
      (applyComparison op (decide (first = second)) (some (compareOfLessAndEq first second))).map .bool := by
  simp [rustCompare, equalValues, compareValues, decimal_encode, isFirst, isSecond]

theorem equalValues_others
    (others : ¬ ((toDecimal decimals left).isSome = true ∧ (toDecimal decimals right).isSome = true)) :
    equalValues decimals (encode decimals left) (encode decimals right) =
      serdeEqual (encode decimals left) (encode decimals right) := by
  unfold equalValues
  rw [decimal_encode, decimal_encode]
  cases isFirst : toDecimal decimals left with
  | none => rfl
  | some first =>
      cases isSecond : toDecimal decimals right with
      | none => rfl
      | some second => exact absurd ⟨by simp [isFirst], by simp [isSecond]⟩ others

/-- What Rust orders beside two numbers: two texts or two booleans. -/
theorem compareValues_others {order : Ordering}
    (others : ¬ ((toDecimal decimals left).isSome = true ∧ (toDecimal decimals right).isSome = true))
    (found : compareValues decimals (encode decimals left) (encode decimals right) = some order) :
    (∃ first second : String, encode decimals left = .str first ∧ encode decimals right = .str second ∧
        order = compareOfLessAndEq first second) ∨
      ∃ first second : Bool, encode decimals left = .bool first ∧ encode decimals right = .bool second ∧
        order = compare first second := by
  unfold compareValues at found
  rw [decimal_encode, decimal_encode] at found
  split at found
  · next first second isFirst isSecond => exact absurd ⟨by simp [isFirst], by simp [isSecond]⟩ others
  · split at found
    · next first second isText isOther => exact .inl ⟨first, second, isText, isOther, (Option.some.inj found).symm⟩
    · next first second isFlag isOther => exact .inr ⟨first, second, isFlag, isOther, (Option.some.inj found).symm⟩
    · cases found

theorem compareJson_bool (first second : Bool) :
    compareJson (.bool first) (.bool second) = some (compare first second) := by
  cases first <;> cases second <;> decide

theorem encode_bool {value : PyValue} {flag : Bool} (found : encode decimals value = .bool flag) :
    value = .json (.bool flag) := by
  cases value with
  | json value => exact congrArg PyValue.json found
  | decimal value => cases found

/-- Where both languages order two values that are not two numbers, they give one order. -/
theorem orders_coincide {order other : Ordering}
    (others : ¬ ((toDecimal decimals left).isSome = true ∧ (toDecimal decimals right).isSome = true))
    (python : nativeOrder left right = some order)
    (rust : compareValues decimals (encode decimals left) (encode decimals right) = some other) : order = other := by
  obtain ⟨first, second, isFirst, isSecond, rfl⟩ | ⟨first, second, isFirst, isSecond, rfl⟩ :=
    compareValues_others others rust
  · cases left with
    | json left =>
        cases right with
        | json right =>
            rw [encode_json] at isFirst isSecond
            rw [isFirst, isSecond] at python
            simpa [nativeOrder, compareJson, compareAtoms, atomNumber, eq_comm] using python
        | decimal right =>
            rw [encode_json] at isFirst
            rw [isFirst] at python
            simp [nativeOrder, compareNumbers, nativeNumber, atomNumber] at python
    | decimal left =>
        cases right with
        | json right =>
            rw [encode_json] at isSecond
            rw [isSecond] at python
            simp [nativeOrder, compareNumbers, nativeNumber, atomNumber] at python
        | decimal right => exact absurd ⟨rfl, rfl⟩ others
  · rw [encode_bool isFirst, encode_bool isSecond, nativeOrder, compareJson_bool] at python
    exact (Option.some.inj python).symm

theorem rustCompare_eq {op : ComparisonOp} (alike : comparesAlike decimals op (some left) (some right) = true) :
    rustCompare decimals op (encode decimals left) (encode decimals right) =
      (compareMeaning decimals op left right).map (encode decimals) := by
  by_cases numbers : (toDecimal decimals left).isSome = true ∧ (toDecimal decimals right).isSome = true
  · obtain ⟨first, isFirst⟩ := Option.isSome_iff_exists.mp numbers.1
    obtain ⟨second, isSecond⟩ := Option.isSome_iff_exists.mp numbers.2
    rw [rustCompare_numbers op isFirst isSecond, compareMeaning_numbers op isFirst isSecond, Option.map_map]
    rfl
  · rw [compareMeaning_others op numbers, rustCompare, nativeCompare, equalValues_others numbers, Option.map_map]
    have rest : answersAlike decimals left right op = true := by
      rw [comparesAlike, Bool.or_eq_true, Bool.and_eq_true] at alike
      exact alike.resolve_left numbers
    have ordered (same : (nativeOrder left right).isSome =
        (compareValues decimals (encode decimals left) (encode decimals right)).isSome) :
        nativeOrder left right = compareValues decimals (encode decimals left) (encode decimals right) := by
      cases python : nativeOrder left right with
      | none => exact (Option.isNone_iff_eq_none.mp (by simpa [python] using same)).symm
      | some order =>
          obtain ⟨other, rust⟩ := Option.isSome_iff_exists.mp (by simpa [python] using same.symm)
          rw [rust, orders_coincide numbers python rust]
    cases op with
    | equal => simp [applyComparison, eq_of_beq rest, encode_json]
    | notEqual => simp [applyComparison, eq_of_beq rest, encode_json]
    | lessThan => simp [applyComparison, ordered (eq_of_beq rest), Function.comp_def, encode_json]
    | lessOrEqual => simp [applyComparison, ordered (eq_of_beq rest), Function.comp_def, encode_json]
    | greaterThan => simp [applyComparison, ordered (eq_of_beq rest), Function.comp_def, encode_json]
    | greaterOrEqual => simp [applyComparison, ordered (eq_of_beq rest), Function.comp_def, encode_json]

theorem comparesAlike_of_same {op : ComparisonOp}
    (same : SameOutcome decimals (compareMeaning decimals op left right) (compareMeaning decimals op left right)
      (rustCompare decimals op (encode decimals left) (encode decimals right))) :
    comparesAlike decimals op (some left) (some right) = true := by
  by_cases numbers : (toDecimal decimals left).isSome = true ∧ (toDecimal decimals right).isSome = true
  · simp [comparesAlike, numbers.1, numbers.2]
  · rw [compareMeaning_others op numbers, rustCompare, nativeCompare, equalValues_others numbers] at same
    rw [comparesAlike, Bool.or_eq_true]
    right
    have together := same.fails_together.2
    cases op with
    | equal => exact beq_iff_eq.mpr ((sameRust_bool _ _).mp same.2)
    | notEqual => exact beq_iff_eq.mpr (Bool.not_inj ((sameRust_bool _ _).mp same.2))
    | lessThan => simpa [applyComparison, answersAlike] using together
    | lessOrEqual => simpa [applyComparison, answersAlike] using together
    | greaterThan => simpa [applyComparison, answersAlike] using together
    | greaterOrEqual => simpa [applyComparison, answersAlike] using together

theorem referenceEvaluate_comparison {left right : Expression}
    (exactLeft : Exact decimals context left) (exactRight : Exact decimals context right) :
    referenceEvaluate decimals context (.comparison op left right) =
      meaning decimals context (.comparison op left right) := by
  simp only [referenceEvaluate, meaning, exactLeft.reference, exactRight.reference, referenceCompare_eq]

theorem pythonEvaluate_comparison {left right : Expression}
    (exactLeft : Exact decimals context left) (exactRight : Exact decimals context right) :
    pythonEvaluate decimals context (.comparison op left right) =
      meaning decimals context (.comparison op left right) := by
  simp only [pythonEvaluate, meaning, exactLeft.python, exactRight.python, comparisonValues_eq]

theorem comparison_agree_iff {left right : Expression} (exactLeft : Exact decimals context left)
    (exactRight : Exact decimals context right) :
    Agree decimals context (.comparison op left right) ↔
      comparesAlike decimals op (meaning decimals context left) (meaning decimals context right) = true := by
  rw [Agree, referenceEvaluate_comparison op exactLeft exactRight, pythonEvaluate_comparison op exactLeft exactRight,
    rustEvaluate, meaning, exactLeft.rust, exactRight.rust]
  cases meaning decimals context left with
  | none => simp [comparesAlike, SameOutcome]
  | some first =>
      cases meaning decimals context right with
      | none => simp [comparesAlike, SameOutcome]
      | some second =>
          simp only [Option.map_some, Option.bind_eq_bind, Option.bind_some]
          refine ⟨comparesAlike_of_same, fun alike => ?_⟩
          rw [rustCompare_eq alike]
          cases compareMeaning decimals op first second with
          | none => trivial
          | some value => exact same_encode value

theorem exact_comparison {left right : Expression} (exactLeft : Exact decimals context left)
    (exactRight : Exact decimals context right)
    (alike : comparesAlike decimals op (meaning decimals context left) (meaning decimals context right) = true) :
    Exact decimals context (.comparison op left right) where
  reference := referenceEvaluate_comparison op exactLeft exactRight
  python := pythonEvaluate_comparison op exactLeft exactRight
  rust := by
    rw [rustEvaluate, meaning, exactLeft.rust, exactRight.rust]
    cases isFirst : meaning decimals context left with
    | none => rfl
    | some first =>
        cases isSecond : meaning decimals context right with
        | none => rfl
        | some second =>
            rw [isFirst, isSecond] at alike
            simpa using rustCompare_eq alike

end

section

/-- An expression and all its operands, at any depth. -/
def subexpressions : Expression → List Expression
  | .literal value => [.literal value]
  | .field fieldRef => [.field fieldRef]
  | .arithmetic op left right => .arithmetic op left right :: (subexpressions left ++ subexpressions right)
  | .comparison op left right => .comparison op left right :: (subexpressions left ++ subexpressions right)
  | .and left right => .and left right :: (subexpressions left ++ subexpressions right)
  | .or left right => .or left right :: (subexpressions left ++ subexpressions right)
  | .not operand => .not operand :: subexpressions operand
  | .ifElse condition whenTrue whenFalse =>
      .ifElse condition whenTrue whenFalse ::
        (subexpressions condition ++ subexpressions whenTrue ++ subexpressions whenFalse)

variable {decimals context}

theorem exact_field {fieldRef : String} (covered : Covers context (.field fieldRef)) :
    Exact decimals context (.field fieldRef) := by
  obtain ⟨value, found⟩ := Option.isSome_iff_exists.mp covered
  constructor <;> simp [referenceEvaluate, pythonEvaluate, rustEvaluate, meaning, resolve, found, encode_json]

theorem exact_literal (value : Literal) : Exact decimals context (.literal value) := ⟨rfl, rfl, rfl⟩

theorem exact_of_clean {expression : Expression} (covered : Covers context expression)
    (isClean : clean decimals context expression = true) : Exact decimals context expression := by
  induction expression with
  | literal value => exact exact_literal value
  | field fieldRef => exact exact_field covered
  | arithmetic op left right ihLeft ihRight =>
      obtain ⟨cleanLeft, cleanRight⟩ := (Bool.and_eq_true _ _).mp isClean
      exact exact_arithmetic op (ihLeft covered.1 cleanLeft) (ihRight covered.2 cleanRight)
  | comparison op left right ihLeft ihRight =>
      obtain ⟨cleanBoth, alike⟩ := (Bool.and_eq_true _ _).mp isClean
      obtain ⟨cleanLeft, cleanRight⟩ := (Bool.and_eq_true _ _).mp cleanBoth
      exact exact_comparison op (ihLeft covered.1 cleanLeft) (ihRight covered.2 cleanRight) alike
  | and left right ihLeft ihRight =>
      obtain ⟨cleanBoth, alike⟩ := (Bool.and_eq_true _ _).mp isClean
      obtain ⟨cleanLeft, cleanRight⟩ := (Bool.and_eq_true _ _).mp cleanBoth
      exact (joined_and left right).exact (ihLeft covered.1 cleanLeft) (ihRight covered.2 cleanRight) alike
  | or left right ihLeft ihRight =>
      obtain ⟨cleanBoth, alike⟩ := (Bool.and_eq_true _ _).mp isClean
      obtain ⟨cleanLeft, cleanRight⟩ := (Bool.and_eq_true _ _).mp cleanBoth
      exact (joined_or left right).exact (ihLeft covered.1 cleanLeft) (ihRight covered.2 cleanRight) alike
  | not operand ih =>
      obtain ⟨cleanOperand, strict⟩ := (Bool.and_eq_true _ _).mp isClean
      exact exact_not (ih covered cleanOperand) strict
  | ifElse condition whenTrue whenFalse ihCondition ihTrue ihFalse =>
      obtain ⟨cleanAll, alike⟩ := (Bool.and_eq_true _ _).mp isClean
      obtain ⟨cleanBoth, cleanFalse⟩ := (Bool.and_eq_true _ _).mp cleanAll
      obtain ⟨cleanCondition, cleanTrue⟩ := (Bool.and_eq_true _ _).mp cleanBoth
      exact exact_ifElse (ihCondition covered.1 cleanCondition) (ihTrue covered.2.1 cleanTrue)
        (ihFalse covered.2.2 cleanFalse) alike

theorem self_mem_subexpressions (expression : Expression) : expression ∈ subexpressions expression := by
  cases expression <;> simp [subexpressions]

theorem agree_throughout_iff {expression : Expression} (covered : Covers context expression) :
    (∀ part ∈ subexpressions expression, Agree decimals context part) ↔ clean decimals context expression = true := by
  induction expression with
  | literal value => simp [subexpressions, clean, (exact_literal value).agree]
  | field fieldRef => simp [subexpressions, clean, (exact_field covered).agree]
  | arithmetic op left right ihLeft ihRight =>
      rw [subexpressions, List.forall_mem_cons, List.forall_mem_append, ihLeft covered.1, ihRight covered.2, clean,
        Bool.and_eq_true]
      exact and_iff_right_of_imp fun ⟨cleanLeft, cleanRight⟩ =>
        (exact_arithmetic op (exact_of_clean covered.1 cleanLeft) (exact_of_clean covered.2 cleanRight)).agree
  | comparison op left right ihLeft ihRight =>
      rw [subexpressions, List.forall_mem_cons, List.forall_mem_append, ihLeft covered.1, ihRight covered.2, clean,
        Bool.and_eq_true, Bool.and_eq_true, and_comm]
      exact and_congr_right fun ⟨cleanLeft, cleanRight⟩ =>
        comparison_agree_iff op (exact_of_clean covered.1 cleanLeft) (exact_of_clean covered.2 cleanRight)
  | and left right ihLeft ihRight =>
      rw [subexpressions, List.forall_mem_cons, List.forall_mem_append, ihLeft covered.1, ihRight covered.2, clean,
        Bool.and_eq_true, Bool.and_eq_true, and_comm]
      exact and_congr_right fun ⟨cleanLeft, cleanRight⟩ =>
        (joined_and left right).agree_iff (exact_of_clean covered.1 cleanLeft) (exact_of_clean covered.2 cleanRight)
  | or left right ihLeft ihRight =>
      rw [subexpressions, List.forall_mem_cons, List.forall_mem_append, ihLeft covered.1, ihRight covered.2, clean,
        Bool.and_eq_true, Bool.and_eq_true, and_comm]
      exact and_congr_right fun ⟨cleanLeft, cleanRight⟩ =>
        (joined_or left right).agree_iff (exact_of_clean covered.1 cleanLeft) (exact_of_clean covered.2 cleanRight)
  | not operand ih =>
      rw [subexpressions, List.forall_mem_cons, ih covered, clean, Bool.and_eq_true, and_comm]
      exact and_congr_right fun cleanOperand => not_agree_iff (exact_of_clean covered cleanOperand)
  | ifElse condition whenTrue whenFalse ihCondition ihTrue ihFalse =>
      rw [subexpressions, List.forall_mem_cons, List.forall_mem_append, List.forall_mem_append,
        ihCondition covered.1, ihTrue covered.2.1, ihFalse covered.2.2, clean,
        Bool.and_eq_true, Bool.and_eq_true, Bool.and_eq_true, and_comm]
      exact and_congr_right fun ⟨⟨cleanCondition, cleanTrue⟩, cleanFalse⟩ =>
        ifElse_agree_iff (exact_of_clean covered.1 cleanCondition) (exact_of_clean covered.2.1 cleanTrue)
          (exact_of_clean covered.2.2 cleanFalse)

end

theorem integerText_unslashed (value : Int) : ∀ c ∈ integerText value, (c != '/') = true := by
  intro c member
  rw [bne_iff_ne]
  rintro rfl
  exact absurd (integerText_chars value _ member) (by decide)

/-- Integers as both languages write them, and other values as fractions. -/
def fractionDecimals : Decimals where
  parse text :=
    match readInteger (text.toList.takeWhile (· != '/')), text.toList.dropWhile (· != '/') with
    | some numerator, [] => some numerator
    | some numerator, _ :: digits => (readNatural digits).map fun denominator => mkRat numerator denominator
    | none, _ => none
  ofFloat := JsonFloat.toRat
  print value :=
    String.ofList (if value.den = 1 then integerText value.num
      else integerText value.num ++ '/' :: Nat.toDigits 10 value.den)
  parsePrint value := by
    have unslashed := integerText_unslashed value.num
    rw [String.toList_ofList]
    by_cases whole : value.den = 1
    · simp only [whole, if_true, List.takeWhile_eq_self_iff.mpr unslashed, List.dropWhile_eq_nil_iff.mpr unslashed,
        readInteger_integerText]
      exact congrArg some (Rat.coe_int_num_of_den_eq_one whole)
    · simp only [whole, if_false, List.takeWhile_append_of_pos unslashed, List.dropWhile_append_of_pos unslashed]
      simp [readInteger_integerText, readNatural_toDigits, Rat.mkRat_self]

/-- Twice the hours are more than ten, and the shift is the night shift. -/
def nightOvertime : Expression :=
  .and (.comparison .greaterThan (.arithmetic .multiply (.field "hours") (.literal (.int 2))) (.literal (.int 10)))
    (.comparison .equal (.field "shift") (.literal (.str "night")))

end AutonomousApi.ExpressionAgreement
