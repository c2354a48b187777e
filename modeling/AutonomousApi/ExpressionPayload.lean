import AutonomousApi.ExpressionRuntime

/-! Expressions as the generated runtimes receive them: the JSON of `model_dump`, read
by key. Both runtimes walk the same records, so the walk is one fold and each runtime
supplies what it does at a record. On a dumped tree the walk is the evaluation of the
tree. -/

namespace AutonomousApi.ExpressionPayload

open JsonValue OrderedMap IsrBehavior DataTree ExpressionRuntime

def arithmeticOps : Dict String ArithmeticOp :=
  [("add", .add), ("subtract", .subtract), ("multiply", .multiply), ("divide", .divide)]

def comparisonOps : Dict String ComparisonOp :=
  [("equal", .equal), ("not_equal", .notEqual), ("less_than", .lessThan), ("less_or_equal", .lessOrEqual),
    ("greater_than", .greaterThan), ("greater_or_equal", .greaterOrEqual)]

def arithmeticText : ArithmeticOp → String
  | .add => "add"
  | .subtract => "subtract"
  | .multiply => "multiply"
  | .divide => "divide"

def comparisonText : ComparisonOp → String
  | .equal => "equal"
  | .notEqual => "not_equal"
  | .lessThan => "less_than"
  | .lessOrEqual => "less_or_equal"
  | .greaterThan => "greater_than"
  | .greaterOrEqual => "greater_or_equal"

/-- The operators that the runtimes treat before evaluating all operands, or without any. -/
def specialOps : List String := ["and", "or", "if_else", "literal", "field"]

theorem arithmeticText_read (op : ArithmeticOp) :
    get arithmeticOps (arithmeticText op) = some op ∧ arithmeticText op ∉ specialOps := by
  cases op <;> exact ⟨rfl, by decide⟩

theorem comparisonText_read (op : ComparisonOp) :
    get arithmeticOps (comparisonText op) = none ∧ get comparisonOps (comparisonText op) = some op ∧
      comparisonText op ∉ specialOps := by
  cases op <;> exact ⟨rfl, rfl, by decide⟩

theorem not_read : get arithmeticOps "not" = none ∧ get comparisonOps "not" = none := ⟨rfl, rfl⟩

def node (op : String) (value fieldRef : Json) (args : List Json) : Json :=
  .obj [("op", .str op), ("value", value), ("field_ref", fieldRef), ("args", .arr args)]

/-- `model_dump(mode="json")`: every key is written, also those without a value. -/
def expressionPayload : Expression → Json
  | .literal value => node "literal" (literalJson value) .null []
  | .field fieldRef => node "field" .null (.str fieldRef) []
  | .arithmetic op left right =>
      node (arithmeticText op) .null .null [expressionPayload left, expressionPayload right]
  | .comparison op left right =>
      node (comparisonText op) .null .null [expressionPayload left, expressionPayload right]
  | .and left right => node "and" .null .null [expressionPayload left, expressionPayload right]
  | .or left right => node "or" .null .null [expressionPayload left, expressionPayload right]
  | .not operand => node "not" .null .null [expressionPayload operand]
  | .ifElse condition whenTrue whenFalse =>
      node "if_else" .null .null
        [expressionPayload condition, expressionPayload whenTrue, expressionPayload whenFalse]

variable {Value : Type} (operator : Dict String Json → List (Option Value) → Option Value)

mutual
/-- The result at a record from its own entries and the results at its `args`. A result
that the operator does not look at has not been computed by the runtime. -/
def walk : Json → Option Value
  | .dict entries => operator entries (walkArgs entries)
  | _ => none

def walkArgs : List (String × Json) → List (Option Value)
  | [] => []
  | (key, value) :: rest => if key = "args" then walkList value else walkArgs rest

def walkList : Json → List (Option Value)
  | .list items => walkItems items
  | _ => []

def walkItems : List Json → List (Option Value)
  | [] => []
  | item :: rest => walk item :: walkItems rest
end

theorem walkItems_eq (items : List Json) : walkItems operator items = items.map (walk operator) := by
  induction items with
  | nil => rfl
  | cons item rest ih => rw [walkItems, ih, List.map_cons]

theorem walk_node (op : String) (value fieldRef : Json) (args : List Json) :
    walk operator (node op value fieldRef args) =
      operator [("op", .str op), ("value", value), ("field_ref", fieldRef), ("args", .arr args)]
        (args.map (walk operator)) := by
  simp [node, walk, walkArgs, walkList, walkItems_eq]

def argument {Value : Type} (args : List (Option Value)) (index : Nat) : Option Value := (args[index]?).join

def resolveReference (context : Context) : Option Json → Option Json
  | some (.str path) => resolve context path
  | _ => none

variable (decimals : Decimals) (context : Context)

def pythonOperator (entries : Dict String Json) (args : List (Option PyValue)) : Option PyValue :=
  match get entries "op" with
  | some (.str op) =>
      if op = "and" then do
        let left ← boolean (← argument args 0)
        if left then
          let right ← boolean (← argument args 1)
          some (.json (.bool right))
        else some (.json (.bool false))
      else if op = "or" then do
        let left ← boolean (← argument args 0)
        if left then some (.json (.bool true))
        else
          let right ← boolean (← argument args 1)
          some (.json (.bool right))
      else if op = "if_else" then do
        let condition ← boolean (← argument args 0)
        if condition then argument args 1 else argument args 2
      else if args.all Option.isSome then
        if op = "literal" then (get entries "value").map .json
        else if op = "field" then (resolveReference context (get entries "field_ref")).map .json
        else
          match get arithmeticOps op, get comparisonOps op with
          | some arithmetic, _ => do
              let left ← argument args 0
              let right ← argument args 1
              let right ← number decimals right
              let left ← number decimals left
              (applyArithmetic arithmetic left right).map .decimal
          | _, some comparison => do
              let left ← argument args 0
              let right ← argument args 1
              let (left, right) := comparisonValues decimals left right
              nativeCompare comparison left right
          | none, none =>
              if op = "not" then do
                let operand ← boolean (← argument args 0)
                some (.json (.bool !operand))
              else none
      else none
  | _ => none

def rustOperator (entries : Dict String Json) (args : List (Option Json)) : Option Json :=
  match get entries "op" with
  | some (.str op) =>
      if op = "literal" then get entries "value"
      else if op = "field" then resolveReference context (get entries "field_ref")
      else if op = "and" then do
        let left ← rustBoolean (← argument args 0)
        if left then
          let right ← rustBoolean (← argument args 1)
          some (.bool right)
        else some (.bool false)
      else if op = "or" then do
        let left ← rustBoolean (← argument args 0)
        if left then some (.bool true)
        else
          let right ← rustBoolean (← argument args 1)
          some (.bool right)
      else if op = "if_else" then do
        let condition ← rustBoolean (← argument args 0)
        if condition then argument args 1 else argument args 2
      else if args.all Option.isSome then
        match get arithmeticOps op, get comparisonOps op with
        | some arithmetic, _ => do
            let left ← argument args 0
            let right ← argument args 1
            let right ← decimal decimals right
            let left ← decimal decimals left
            (applyArithmetic arithmetic left right).map (decimalValue decimals)
        | _, some comparison => do
            let left ← argument args 0
            let right ← argument args 1
            rustCompare decimals comparison left right
        | none, none =>
            if op = "not" then do
              let operand ← rustBoolean (← argument args 0)
              some (.bool !operand)
            else none
      else none
  | _ => none

def pythonEvaluateExpression : Json → Option PyValue := walk (pythonOperator decimals context)

def rustEvaluateExpression : Json → Option Json := walk (rustOperator decimals context)

/-- A record of `model_dump` has an operator, and the other keys hold what it reads. -/
theorem get_node (op : String) (value fieldRef : Json) (args : List Json) :
    let entries : Dict String Json :=
      [("op", .str op), ("value", value), ("field_ref", fieldRef), ("args", .arr args)]
    get entries "op" = some (.str op) ∧ get entries "value" = some value ∧
      get entries "field_ref" = some fieldRef := by
  simp [OrderedMap.get]

theorem pythonEvaluateExpression_payload (expression : Expression) :
    pythonEvaluateExpression decimals context (expressionPayload expression) =
      pythonEvaluate decimals context expression := by
  unfold pythonEvaluateExpression
  induction expression with
  | literal value => simp [expressionPayload, walk_node, pythonOperator, get_node, pythonEvaluate]
  | field fieldRef =>
      simp [expressionPayload, walk_node, pythonOperator, get_node, pythonEvaluate, resolveReference]
  | arithmetic op left right ihLeft ihRight =>
      obtain ⟨read, strict⟩ := arithmeticText_read op
      simp only [specialOps, List.mem_cons, not_or] at strict
      simp only [expressionPayload, walk_node, pythonOperator, get_node, strict, if_false, pythonEvaluate, read,
        List.map_cons, List.map_nil, ihLeft, ihRight]
      cases pythonEvaluate decimals context left <;> cases pythonEvaluate decimals context right <;>
        simp [argument]
  | comparison op left right ihLeft ihRight =>
      obtain ⟨other, read, strict⟩ := comparisonText_read op
      simp only [specialOps, List.mem_cons, not_or] at strict
      simp only [expressionPayload, walk_node, pythonOperator, get_node, strict, if_false, pythonEvaluate, read,
        other, List.map_cons, List.map_nil, ihLeft, ihRight]
      cases pythonEvaluate decimals context left <;> cases pythonEvaluate decimals context right <;>
        simp [argument]
  | and left right ihLeft ihRight =>
      simp [expressionPayload, walk_node, pythonOperator, get_node, pythonEvaluate, argument, ihLeft, ihRight]
  | or left right ihLeft ihRight =>
      simp [expressionPayload, walk_node, pythonOperator, get_node, pythonEvaluate, argument, ihLeft, ihRight]
  | not operand ih =>
      simp only [expressionPayload, walk_node, pythonOperator, get_node, pythonEvaluate, List.map_cons, List.map_nil,
        ih, not_read]
      cases pythonEvaluate decimals context operand <;> simp [argument]
  | ifElse condition whenTrue whenFalse ihCondition ihTrue ihFalse =>
      simp [expressionPayload, walk_node, pythonOperator, get_node, pythonEvaluate, argument, ihCondition, ihTrue,
        ihFalse]

theorem rustEvaluateExpression_payload (expression : Expression) :
    rustEvaluateExpression decimals context (expressionPayload expression) =
      rustEvaluate decimals context expression := by
  unfold rustEvaluateExpression
  induction expression with
  | literal value => simp [expressionPayload, walk_node, rustOperator, get_node, rustEvaluate]
  | field fieldRef =>
      simp [expressionPayload, walk_node, rustOperator, get_node, rustEvaluate, resolveReference]
  | arithmetic op left right ihLeft ihRight =>
      obtain ⟨read, strict⟩ := arithmeticText_read op
      simp only [specialOps, List.mem_cons, not_or] at strict
      simp only [expressionPayload, walk_node, rustOperator, get_node, strict, if_false, rustEvaluate, read,
        List.map_cons, List.map_nil, ihLeft, ihRight]
      cases rustEvaluate decimals context left <;> cases rustEvaluate decimals context right <;>
        simp [argument]
  | comparison op left right ihLeft ihRight =>
      obtain ⟨other, read, strict⟩ := comparisonText_read op
      simp only [specialOps, List.mem_cons, not_or] at strict
      simp only [expressionPayload, walk_node, rustOperator, get_node, strict, if_false, rustEvaluate, read,
        other, List.map_cons, List.map_nil, ihLeft, ihRight]
      cases rustEvaluate decimals context left <;> cases rustEvaluate decimals context right <;>
        simp [argument]
  | and left right ihLeft ihRight =>
      simp [expressionPayload, walk_node, rustOperator, get_node, rustEvaluate, argument, ihLeft, ihRight]
  | or left right ihLeft ihRight =>
      simp [expressionPayload, walk_node, rustOperator, get_node, rustEvaluate, argument, ihLeft, ihRight]
  | not operand ih =>
      simp only [expressionPayload, walk_node, rustOperator, get_node, rustEvaluate, List.map_cons, List.map_nil,
        ih, not_read]
      cases rustEvaluate decimals context operand <;> simp [argument]
  | ifElse condition whenTrue whenFalse ihCondition ihTrue ihFalse =>
      simp [expressionPayload, walk_node, rustOperator, get_node, rustEvaluate, argument, ihCondition, ihTrue,
        ihFalse]

end AutonomousApi.ExpressionPayload
