import AutonomousApi.FieldValidation

/-! When the two validators accept the same payloads. `satisfies` is the declared meaning
of a field: its type, its digits, and its constraints over exact decimals and characters.
`plain` names, check by check, the values on which both languages give that meaning; the
rest is that two loops of like checks are alike. -/

namespace AutonomousApi.FieldAgreement

open JsonValue OrderedMap IsrBehavior DataTree FailFast PythonText ExpressionRuntime FieldValidation

/-- Python raises nothing but its validation error, and both accept or both reject. -/
def Alike (python : Except PyFault Unit) (rust : Except ValidationError Unit) : Prop :=
  python ≠ .error .other ∧ (python = .ok () ↔ rust = .ok ())

theorem alike_ok : Alike (.ok ()) (.ok ()) := by
  simp [Alike]

theorem alike_errors (error other : ValidationError) : Alike (.error (.behavior error)) (.error other) := by
  simp [Alike]

theorem alike_require_iff (python rust : Bool) (error other : ValidationError) :
    Alike (require python (.behavior error)) (require rust other) ↔ python = rust := by
  cases python <;> cases rust <;> simp [Alike, require]

theorem bind_done {Fault : Type} (outcome : Except Fault Unit) : (outcome >>= fun _ => .ok ()) = outcome := by
  cases outcome <;> rfl

theorem Alike.bind {python : Except PyFault Unit} {rust : Except ValidationError Unit}
    {nextPython : Except PyFault Unit} {nextRust : Except ValidationError Unit} (first : Alike python rust)
    (second : python = .ok () → Alike nextPython nextRust) :
    Alike (python >>= fun _ => nextPython) (rust >>= fun _ => nextRust) := by
  cases python with
  | ok _ =>
      rw [first.2.mp rfl]
      exact second rfl
  | error fault =>
      cases rust with
      | ok _ => exact absurd (first.2.mpr rfl) (by simp)
      | error other =>
          cases fault with
          | behavior error => exact alike_errors error other
          | other => exact absurd rfl first.1

theorem alike_checkAll {Item : Type} {python : Item → Except PyFault Unit}
    {rust : Item → Except ValidationError Unit} {items : List Item}
    (alike : ∀ item ∈ items, Alike (python item) (rust item)) :
    Alike (checkAll python items) (checkAll rust items) := by
  induction items with
  | nil => exact alike_ok
  | cons item rest ih =>
      have first := alike item (by simp)
      have later := ih fun other member => alike other (by simp [member])
      rw [checkAll_cons, checkAll_cons]
      exact first.bind fun _ => later

section

variable (library : Library)

def exactValue (value : Json) : Option Rat := (pythonNumber library value).bind PyDecimal.value

def atMost (low high : Json) : Bool :=
  match exactValue library low, exactValue library high with
  | some low, some high => decide (low ≤ high)
  | _, _ => false

def satisfiesDigits (spec : FieldSpec) (value : Json) : Bool :=
  match pythonNumber library value with
  | some (.finite _ coefficient exponent) => fits spec (-exponent).toNat (digitCount coefficient)
  | _ => false

def satisfiesType (spec : FieldSpec) (value : Json) : Bool :=
  pythonTyped spec.valueType value && (!isNumeric spec.valueType || satisfiesDigits library spec value)

def satisfiesConstraint (value : Json) (constraint : FieldConstraint) : Bool :=
  match constraint.operator, value, constraint.value with
  | .min, value, bound => atMost library bound value
  | .max, value, bound => atMost library value bound
  | .minLength, .str text, .int bound => decide (bound ≤ text.length)
  | .maxLength, .str text, .int bound => decide (text.length ≤ bound)
  | .oneOf, value, .arr choices => choices.any (pyEqual value)
  | .pattern, _, _ | .unique, _, _ | .immutable, _, _ | .references, _, _ => true
  | _, _, _ => false

def satisfies (spec : FieldSpec) (value : Json) : Bool :=
  satisfiesType library spec value && spec.constraints.all (satisfiesConstraint library value)

/-- The values of a record that the declared fields have to account for. -/
def Present (payload : Json) (spec : FieldSpec) (value : Json) : Prop :=
  ∃ entries, payload = .obj entries ∧ get entries spec.name = some value ∧ value ≠ .null

/-- Both validators give one verdict, Python raises nothing else, and every value of an
accepted record has its declared meaning. -/
def Meets (fields : List FieldSpec) (payload : Json) : Prop :=
  Alike (pythonValidateFields library fields payload) (rustValidateFields library fields payload) ∧
    (pythonValidateFields library fields payload = .ok () →
      ∀ spec ∈ fields, ∀ value, Present payload spec value → satisfies library spec value = true)

/-- The two readings of a number are both absent, or fit the declared digits alike; no
reading is a special value. -/
def plainDigits (spec : FieldSpec) (value : Json) : Bool :=
  let rust := match rustNumber library value with
    | some number => fits spec number.scale (digitCount number.mantissa.natAbs)
    | none => false
  match pythonNumber library value with
  | some (.finite _ coefficient exponent) => fits spec (-exponent).toNat (digitCount coefficient) == rust
  | some _ => false
  | none => !rust

def plainShape (spec : FieldSpec) (value : Json) : Bool :=
  match spec.valueType, value with
  | .integer, .int value => decide (-2 ^ 63 ≤ value ∧ value < 2 ^ 63)
  | .decimal, value | .money, value => plainDigits library spec value
  | _, _ => true

/-- A verdict of Python, which is there, is the verdict of Rust and holds exactly. -/
def agrees (python : Option Bool) (rust exact : Bool) : Bool :=
  match python with
  | none => false
  | some accepted => accepted == rust && (!accepted || exact)

def rustOrder (value bound : Json) : Option Ordering :=
  match rustNumber library value, rustNumber library bound with
  | some value, some bound => some (compareOfLessAndEq value.value bound.value)
  | _, _ => none

def pythonLengthOrder (value bound : Json) : Option Ordering :=
  (pythonLength value).bind fun length => compareJson (.int length) bound

def serdeIn (value : Json) : Json → Bool
  | .arr choices => choices.any (serdeEqual value)
  | _ => false

def plainConstraint (value : Json) (constraint : FieldConstraint) : Bool :=
  let bound := constraint.value
  let exact := satisfiesConstraint library value constraint
  match constraint.operator with
  | .min => agrees ((compareJson value bound).map (· != .lt)) ((rustOrder library value bound).any (· != .lt)) exact
  | .max => agrees ((compareJson value bound).map (· != .gt)) ((rustOrder library value bound).any (· != .gt)) exact
  | .minLength =>
      agrees ((pythonLengthOrder value bound).map (· != .lt)) (decide (rustNatural 0 bound ≤ rustLength 0 value)) exact
  | .maxLength =>
      agrees ((pythonLengthOrder value bound).map (· != .gt))
        (decide (rustLength usizeMax value ≤ rustNatural usizeMax bound)) exact
  | .oneOf => agrees (pythonIn value bound) (serdeIn value bound) exact
  | .pattern => agrees (library.fullmatch bound value) false exact
  | .unique | .immutable | .references => false

def plain (spec : FieldSpec) (value : Json) : Bool :=
  plainShape library spec value &&
    (!satisfiesType library spec value || spec.constraints.all (plainConstraint library value))

def Plain (fields : List FieldSpec) (payload : Json) : Prop :=
  ∀ spec ∈ fields, ∀ value, Present payload spec value → plain library spec value = true

end

section

variable {library : Library}

variable (spec : FieldSpec)

theorem checkDigits_ok_iff (scale digits : Nat) :
    checkDigits spec scale digits = .ok () ↔ fits spec scale digits = true := by
  unfold checkDigits fits
  cases decide (scale ≤ spec.scale.getD scale) <;> cases decide (digits ≤ spec.precision.getD digits) <;>
    simp [require, bind, Except.bind]

theorem mapError_behavior_ok_iff (outcome : Except ValidationError Unit) :
    outcome.mapError PyFault.behavior = .ok () ↔ outcome = .ok () := by
  cases outcome <;> simp [Except.mapError]

theorem mapError_behavior_ne_other (outcome : Except ValidationError Unit) :
    outcome.mapError PyFault.behavior ≠ .error .other := by
  cases outcome <;> simp [Except.mapError]

theorem digits_alike_iff (value : Json) :
    Alike (pythonDigits library spec value) (rustDigits library spec value) ↔
      plainDigits library spec value = true := by
  unfold Alike pythonDigits rustDigits plainDigits
  cases pythonNumber library value with
  | none =>
      cases rustNumber library value with
      | none => simp
      | some number => simp [checkDigits_ok_iff]
  | some number =>
      cases number with
      | finite negative coefficient exponent =>
          cases rustNumber library value with
          | none => simp [mapError_behavior_ok_iff, mapError_behavior_ne_other, checkDigits_ok_iff]
          | some number =>
              simp only [mapError_behavior_ok_iff, mapError_behavior_ne_other, checkDigits_ok_iff, ne_eq, not_false_iff,
                true_and, beq_iff_eq]
              exact Bool.eq_iff_iff.symm
      | infinite => simp
      | nan => simp

theorem pythonDigits_ok_iff (value : Json) :
    pythonDigits library spec value = .ok () ↔ satisfiesDigits library spec value = true := by
  unfold pythonDigits satisfiesDigits
  cases pythonNumber library value with
  | none => simp
  | some number => cases number <;> simp [mapError_behavior_ok_iff, checkDigits_ok_iff]

/-- Of a numeric field, the type test alone decides nothing: what it refuses has no
number, and Rust refuses it by that. -/
theorem numeric_shape_alike_iff {spec : FieldSpec} (value : Json)
    (numeric : spec.valueType = .decimal ∨ spec.valueType = .money) :
    Alike (pythonShape library spec value) (rustShape library spec value) ↔
      plainDigits library spec value = true := by
  have isNumber : isNumeric spec.valueType = true := by
    rcases numeric with kind | kind <;> rw [kind] <;> rfl
  have typed : rustTyped library spec.valueType value = (rustNumber library value).isSome := by
    rcases numeric with kind | kind <;> rw [kind] <;> cases value <;> rfl
  have refused : pythonTyped spec.valueType value = false →
      pythonNumber library value = none ∧ rustNumber library value = none := by
    rcases numeric with kind | kind <;> rw [kind] <;> intro untyped <;> cases value with
    | atom atom => cases atom <;> first | exact ⟨rfl, rfl⟩ | cases untyped
    | list items => exact ⟨rfl, rfl⟩
    | dict entries => exact ⟨rfl, rfl⟩
  rw [pythonShape, rustShape, typed, isNumber, if_pos rfl, if_pos rfl, ← digits_alike_iff]
  cases found : pythonTyped spec.valueType value with
  | false =>
      obtain ⟨noPython, noRust⟩ := refused found
      simp [Alike, require, bind, Except.bind, pythonDigits, rustDigits, noPython, noRust]
  | true =>
      cases read : rustNumber library value with
      | none => simp [Alike, require, bind, Except.bind, rustDigits, read]
      | some number => rfl

theorem shape_alike_iff (value : Json) :
    Alike (pythonShape library spec value) (rustShape library spec value) ↔
      plainShape library spec value = true := by
  by_cases numeric : spec.valueType = .decimal ∨ spec.valueType = .money
  · rw [numeric_shape_alike_iff value numeric]
    rcases numeric with kind | kind <;> simp [plainShape, kind]
  · have others : isNumeric spec.valueType = false := by
      cases kind : spec.valueType <;> simp_all [isNumeric]
    have bound {Fault : Type} (holds : Bool) (fault : Fault) (unused : Except Fault Unit) :
        (require holds fault >>= fun _ => if false = true then unused else .ok ()) = require holds fault := by
      cases holds <;> rfl
    rw [pythonShape, rustShape, others, bound, bound, alike_require_iff]
    cases kind : spec.valueType with
    | decimal => simp [kind] at numeric
    | money => simp [kind] at numeric
    | integer =>
        cases value with
        | atom atom => cases atom <;> simp [plainShape, kind, pythonTyped, rustTyped]
        | list items => simp [plainShape, kind, pythonTyped, rustTyped]
        | dict entries => simp [plainShape, kind, pythonTyped, rustTyped]
    | string | identifier | date | datetime | boolean =>
        cases value with
        | atom atom => cases atom <;> simp [plainShape, kind, pythonTyped, rustTyped]
        | list items => simp [plainShape, kind, pythonTyped, rustTyped]
        | dict entries => simp [plainShape, kind, pythonTyped, rustTyped]

theorem pythonShape_ok_iff (value : Json) :
    pythonShape library spec value = .ok () ↔ satisfiesType library spec value = true := by
  rw [pythonShape, satisfiesType]
  cases pythonTyped spec.valueType value <;> cases isNumeric spec.valueType <;>
    simp [require, bind, Except.bind, pythonDigits_ok_iff]

/-- Python's verdict on a constraint as it is reached, or the exception it raises. -/
def fromVerdict (verdict : Option Bool) (error : ValidationError) : Except PyFault Unit :=
  match verdict with
  | none => .error .other
  | some accepted => require accepted (.behavior error)

theorem agrees_iff (verdict : Option Bool) (rust : Except ValidationError Unit) (accepts exact : Bool)
    (error : ValidationError) (decided : rust = .ok () ↔ accepts = true) :
    Alike (fromVerdict verdict error) rust ∧ (fromVerdict verdict error = .ok () → exact = true) ↔
      agrees verdict accepts exact = true := by
  unfold Alike fromVerdict agrees
  cases verdict with
  | none => simp
  | some accepted => cases accepted <;> cases accepts <;> simp [require, decided]

theorem pythonOrdered_eq (value bound : Json) (refused : Ordering) (error : ValidationError) :
    pythonOrdered value bound refused error =
      fromVerdict ((compareJson value bound).map (· != refused)) error := by
  rw [pythonOrdered]
  cases compareJson value bound <;> rfl

theorem pythonLengthOrdered_eq (value bound : Json) (refused : Ordering) (error : ValidationError) :
    pythonLengthOrdered value bound refused error =
      fromVerdict ((pythonLengthOrder value bound).map (· != refused)) error := by
  rw [pythonLengthOrdered, pythonLengthOrder]
  cases pythonLength value with
  | none => rfl
  | some length => exact pythonOrdered_eq _ _ _ _

theorem rustOrdered_ok_iff (value bound : Json) (refused : Ordering) (error : ValidationError) :
    rustOrdered library value bound refused error = .ok () ↔
      (rustOrder library value bound).any (· != refused) = true := by
  rw [rustOrdered, rustOrder]
  cases rustNumber library value <;> cases rustNumber library bound <;> simp

theorem constraint_meets_iff (name : String) (value : Json) (constraint : FieldConstraint) :
    Alike (pythonConstraint library name value constraint) (rustConstraint library name value constraint) ∧
        (pythonConstraint library name value constraint = .ok () →
          satisfiesConstraint library value constraint = true) ↔
      plainConstraint library value constraint = true := by
  unfold pythonConstraint rustConstraint plainConstraint
  generalize satisfiesConstraint library value constraint = exact
  cases constraint.operator with
  | min =>
      simp only [pythonOrdered_eq]
      exact agrees_iff _ _ _ _ _ (rustOrdered_ok_iff _ _ _ _)
  | max =>
      simp only [pythonOrdered_eq]
      exact agrees_iff _ _ _ _ _ (rustOrdered_ok_iff _ _ _ _)
  | minLength =>
      simp only [pythonLengthOrdered_eq]
      exact agrees_iff _ _ _ _ _ (require_ok_iff _ _)
  | maxLength =>
      simp only [pythonLengthOrdered_eq]
      exact agrees_iff _ _ _ _ _ (require_ok_iff _ _)
  | pattern => exact agrees_iff _ _ _ _ _ (by simp)
  | oneOf =>
      refine agrees_iff _ _ _ _ _ ?_
      cases constraint.value <;> simp [serdeIn]
  | unique => simp [Alike]
  | immutable => simp [Alike]
  | references => simp [Alike]

end

section

variable (library : Library)

/-- The claim on one value that is there and not null. -/
def ValueMeets (spec : FieldSpec) (value : Json) : Prop :=
  Alike (pythonValue library spec value) (rustValue library spec value) ∧
    (pythonValue library spec value = .ok () → satisfies library spec value = true)

variable {library}

theorem pythonValue_ok_iff (spec : FieldSpec) (value : Json) :
    pythonValue library spec value = .ok () ↔
      satisfiesType library spec value = true ∧
        ∀ constraint ∈ spec.constraints, pythonConstraint library spec.name value constraint = .ok () := by
  rw [← pythonShape_ok_iff, pythonValue, ← checkAll_ok_iff]
  cases pythonShape library spec value with
  | error fault => simp [bind, Except.bind]
  | ok _ => simp [bind, Except.bind]

theorem valueMeets_of_plain {spec : FieldSpec} {value : Json} (isPlain : plain library spec value = true) :
    ValueMeets library spec value := by
  rw [plain, Bool.and_eq_true, Bool.or_eq_true, List.all_eq_true] at isPlain
  obtain ⟨shape, rest⟩ := isPlain
  have constraints (typed : satisfiesType library spec value = true) :
      ∀ constraint ∈ spec.constraints, plainConstraint library value constraint = true := by
    rcases rest with untyped | constraints
    · simp [typed] at untyped
    · exact constraints
  constructor
  · apply Alike.bind ((shape_alike_iff spec value).mpr shape)
    intro accepted
    apply alike_checkAll
    intro constraint member
    have isPlain := constraints ((pythonShape_ok_iff spec value).mp accepted) constraint member
    exact ((constraint_meets_iff spec.name value constraint).mpr isPlain).1
  · intro accepted
    obtain ⟨typed, passed⟩ := (pythonValue_ok_iff spec value).mp accepted
    rw [satisfies, Bool.and_eq_true, List.all_eq_true]
    refine ⟨typed, ?_⟩
    intro constraint member
    have isPlain := constraints typed constraint member
    exact ((constraint_meets_iff spec.name value constraint).mpr isPlain).2 (passed constraint member)

def unconstrained (spec : FieldSpec) : FieldSpec := { spec with constraints := [] }

def constrainedBy (spec : FieldSpec) (constraint : FieldConstraint) : FieldSpec :=
  { spec with constraints := [constraint] }

theorem valueMeets_unconstrained_iff (spec : FieldSpec) (value : Json) :
    ValueMeets library (unconstrained spec) value ↔ plainShape library spec value = true := by
  have sameShape : plainShape library (unconstrained spec) value = plainShape library spec value := rfl
  constructor
  · intro meets
    have python : pythonValue library (unconstrained spec) value = pythonShape library (unconstrained spec) value :=
      bind_done _
    have rust : rustValue library (unconstrained spec) value = rustShape library (unconstrained spec) value :=
      bind_done _
    rw [ValueMeets, python, rust] at meets
    rw [← sameShape]
    exact (shape_alike_iff _ value).mp meets.1
  · intro shape
    apply valueMeets_of_plain
    rw [plain, sameShape, shape]
    simp [unconstrained]

theorem valueMeets_constrainedBy_iff {spec : FieldSpec} {value : Json} (constraint : FieldConstraint)
    (shape : plainShape library spec value = true) :
    ValueMeets library (constrainedBy spec constraint) value ↔
      (satisfiesType library spec value = true → plainConstraint library value constraint = true) := by
  have sameType : satisfiesType library (constrainedBy spec constraint) value = satisfiesType library spec value := rfl
  constructor
  · intro meets typed
    rw [← sameType] at typed
    have acceptedPython := (pythonShape_ok_iff _ value).mpr typed
    have acceptedRust := ((shape_alike_iff (constrainedBy spec constraint) value).mpr shape).2.mp acceptedPython
    have python : pythonValue library (constrainedBy spec constraint) value =
        pythonConstraint library spec.name value constraint := by
      rw [pythonValue, acceptedPython]
      exact (checkAll_cons _ _ _).trans (bind_done _)
    have rust : rustValue library (constrainedBy spec constraint) value =
        rustConstraint library spec.name value constraint := by
      rw [rustValue, acceptedRust]
      exact (checkAll_cons _ _ _).trans (bind_done _)
    rw [ValueMeets, python, rust] at meets
    refine (constraint_meets_iff spec.name value constraint).mp ⟨meets.1, ?_⟩
    intro accepted
    have satisfied := meets.2 accepted
    rw [satisfies, Bool.and_eq_true] at satisfied
    simpa [constrainedBy] using satisfied.2
  · intro held
    apply valueMeets_of_plain
    rw [plain, show plainShape library (constrainedBy spec constraint) value = true from shape, sameType]
    cases typed : satisfiesType library spec value with
    | false => rfl
    | true => simp [constrainedBy, held typed]

end

section

variable {library : Library}

variable {Fault : Type} {fault : ValidationError → Fault} {check : FieldSpec → Json → Except Fault Unit}
variable {entries : Dict String Json} {spec : FieldSpec} {value : Json} {fields : List FieldSpec}

theorem checkField_present (found : get entries spec.name = some value) (present : value ≠ .null) :
    checkField fault check entries spec = check spec value := by
  unfold checkField
  rw [found]
  split
  · next absent => cases absent
  · next isNull => exact absurd (Option.some.inj isNull) present
  · next other _ same => rw [Option.some.inj same]

theorem checkField_alike (values : ∀ value, get entries spec.name = some value → value ≠ .null →
      Alike (pythonValue library spec value) (rustValue library spec value)) :
    Alike (checkField .behavior (pythonValue library) entries spec)
      (checkField id (rustValue library) entries spec) := by
  cases found : get entries spec.name with
  | none =>
      simp only [checkField, found]
      exact (alike_require_iff _ _ _ _).mpr rfl
  | some value =>
      by_cases isNull : value = .null
      · subst isNull
        simp only [checkField, found]
        exact (alike_require_iff _ _ _ _).mpr rfl
      · rw [checkField_present found isNull, checkField_present found isNull]
        exact values value found isNull

theorem declared_eq (distinct : (fields.map FieldSpec.name).Nodup) :
    assignAll [] (fields.map fun spec => (spec.name, spec)) = fields.map fun spec => (spec.name, spec) := by
  apply assignAll_distinct
  simpa [keys, Function.comp_def] using distinct

/-- The validators look for the same undeclared keys. -/
theorem unknown_alike (fields : List FieldSpec) (entries : Dict String Json) :
    let unknown := sortedSet ((keys entries).filter fun key => !(fields.map FieldSpec.name).contains key)
    Alike (require unknown.isEmpty (.behavior (.unknownFields unknown)))
      (checkAll (fun key => require (fields.any fun spec => spec.name == key) (.unknownField key)) (keys entries)) := by
  intro unknown
  refine ⟨by cases unknown.isEmpty <;> simp [require], ?_⟩
  rw [require_ok_iff, checkAll_ok_iff, sortedSet_isEmpty, List.filter_eq_nil_iff]
  apply forall₂_congr
  intro key member
  rw [require_ok_iff, List.any_eq_true]
  simp

theorem meets_of_plain (distinct : (fields.map FieldSpec.name).Nodup) {payload : Json}
    (isPlain : Plain library fields payload) : Meets library fields payload := by
  cases payload with
  | atom atom => exact ⟨alike_errors _ _, fun accepted => by cases accepted⟩
  | list items => exact ⟨alike_errors _ _, fun accepted => by cases accepted⟩
  | dict entries =>
      have met : ∀ spec ∈ fields, ∀ value, get entries spec.name = some value → value ≠ Json.null →
          ValueMeets library spec value := by
        intro spec member value found present
        exact valueMeets_of_plain (isPlain spec member value ⟨entries, rfl, found, present⟩)
      have fieldsAlike : Alike (checkAll (checkField .behavior (pythonValue library) entries) fields)
          (checkAll (checkField id (rustValue library) entries) fields) := by
        apply alike_checkAll
        intro spec member
        exact checkField_alike fun value found present => (met spec member value found present).1
      have declaredKeys : keys (fields.map fun spec => (spec.name, spec)) = fields.map FieldSpec.name := by
        simp [keys, Function.comp_def]
      have declaredSpecs : (fields.map fun spec => (spec.name, spec)).map Prod.snd = fields := by
        simp [Function.comp_def]
      constructor
      · rw [pythonValidateFields, rustValidateFields, declared_eq distinct, declaredKeys, declaredSpecs]
        exact (unknown_alike fields entries).bind fun _ => fieldsAlike
      · intro accepted spec member value
        rintro ⟨others, same, found, present⟩
        cases same
        rw [pythonValidateFields, declared_eq distinct, declaredSpecs] at accepted
        obtain ⟨_, -, passed⟩ := bind_ok accepted
        have checked := (checkAll_ok_iff _ _).mp passed spec member
        rw [checkField_present found present] at checked
        exact (met spec member value found present).2 checked

variable (spec : FieldSpec)

theorem single_record (present : value ≠ .null) :
    checkAll (checkField fault check [(spec.name, value)]) [spec] = check spec value := by
  have found : get [(spec.name, value)] spec.name = some value := by simp [OrderedMap.get]
  rw [checkAll_cons, checkField_present found present]
  exact bind_done _

theorem meets_single_iff {value : Json} (present : value ≠ .null) :
    Meets library [spec] (.obj [(spec.name, value)]) ↔ ValueMeets library spec value := by
  have python : pythonValidateFields library [spec] (.obj [(spec.name, value)]) = pythonValue library spec value := by
    have known : sortedSet ((keys [(spec.name, value)]).filter fun key =>
        !(keys (assignAll [] [(spec.name, spec)])).contains key) = [] := by
      rw [← List.isEmpty_iff, sortedSet_isEmpty]
      simp [keys, assignAll, assign]
    simp only [pythonValidateFields, List.map_cons, List.map_nil, known]
    exact single_record spec present
  have rust : rustValidateFields library [spec] (.obj [(spec.name, value)]) = rustValue library spec value := by
    have known : checkAll (fun key => require ([spec].any fun spec => spec.name == key)
        (ValidationError.unknownField key)) (keys [(spec.name, value)]) = .ok () := by
      rw [checkAll_ok_iff]
      simp [keys]
    simp only [rustValidateFields, known]
    exact single_record spec present
  rw [Meets, python, rust, ValueMeets]
  apply and_congr_right
  intro alike
  apply imp_congr_right
  intro accepted
  constructor
  · intro satisfied
    exact satisfied spec (by simp) value ⟨_, rfl, by simp [OrderedMap.get], present⟩
  · intro satisfied other member found
    rintro ⟨entries, same, isValue, _⟩
    cases same
    rw [List.mem_singleton] at member
    subst member
    rw [show get [(other.name, value)] other.name = some value by simp [OrderedMap.get]] at isValue
    rwa [← Option.some.inj isValue]

theorem meets_single_null : Meets library [spec] (.obj [(spec.name, .null)]) := by
  apply meets_of_plain (by simp)
  intro other member value
  rintro ⟨entries, same, found, present⟩
  cases same
  rw [List.mem_singleton] at member
  subst member
  rw [show get [(other.name, Json.null)] other.name = some Json.null by simp [OrderedMap.get]] at found
  exact absurd (Option.some.inj found).symm present

/-- The checks of a payload one at a time: each value with its field, without constraints
and with each of them alone. -/
def parts (fields : List FieldSpec) : Json → List (List FieldSpec × Json)
  | .obj entries => fields.flatMap fun spec =>
      match get entries spec.name with
      | none => []
      | some value =>
          ([unconstrained spec], .obj [(spec.name, value)]) ::
            spec.constraints.map fun constraint => ([constrainedBy spec constraint], .obj [(spec.name, value)])
  | _ => []

theorem value_parts_iff (value : Json) :
    (∀ part ∈ ([unconstrained spec], Json.obj [(spec.name, value)]) ::
        spec.constraints.map (fun constraint => ([constrainedBy spec constraint], Json.obj [(spec.name, value)])),
      Meets library part.1 part.2) ↔ (value ≠ .null → plain library spec value = true) := by
  rw [List.forall_mem_cons, List.forall_mem_map]
  by_cases isNull : value = .null
  · subst isNull
    constructor
    · intro _ notNull
      exact absurd rfl notNull
    · intro _
      exact ⟨meets_single_null (unconstrained spec), fun constraint _ => meets_single_null
          (constrainedBy spec constraint)⟩
  · have whole := @meets_single_iff library (unconstrained spec) value isNull
    have each (constraint : FieldConstraint) := @meets_single_iff library (constrainedBy spec constraint) value isNull
    rw [show (unconstrained spec).name = spec.name from rfl] at whole
    simp only [show ∀ constraint, (constrainedBy spec constraint).name = spec.name from fun _ => rfl] at each
    simp only [whole, each, valueMeets_unconstrained_iff, plain, Bool.and_eq_true, Bool.or_eq_true,
      Bool.not_eq_true', List.all_eq_true, isNull, ne_eq, not_false_iff, true_imp_iff]
    apply and_congr_right
    intro shape
    cases typed : satisfiesType library spec value with
    | false => simp [valueMeets_constrainedBy_iff _ shape, typed]
    | true => simp [valueMeets_constrainedBy_iff _ shape, typed]

theorem parts_meet_iff (fields : List FieldSpec) (payload : Json) :
    (∀ part ∈ parts fields payload, Meets library part.1 part.2) ↔ Plain library fields payload := by
  cases payload with
  | atom atom => simp [parts, Plain, Present]
  | list items => simp [parts, Plain, Present]
  | dict entries =>
      rw [parts, List.forall_mem_flatMap, Plain]
      apply forall₂_congr
      intro spec member
      cases found : get entries spec.name with
      | none =>
          constructor
          · rintro - value ⟨others, same, isValue, -⟩
            cases same
            rw [found] at isValue
            cases isValue
          · simp
      | some value =>
          rw [value_parts_iff]
          constructor
          · rintro isPlain other ⟨others, same, isValue, notNull⟩
            cases same
            rw [found] at isValue
            cases isValue
            exact isPlain notNull
          · intro isPlain notNull
            exact isPlain value ⟨entries, rfl, found, notNull⟩

end

/-- ASCII digits and blanks, and the numerals without exponent. -/
def asciiLibrary : Library where
  table := asciiTable
  digit c := c.toNat - '0'.toNat
  pythonFloat _ := "0.5"
  rustFloat _ := "0.5"
  rustInteger _ := "1e20"
  fullmatch _ _ := some false
  rustDecimal text :=
    let (negative, rest) := splitSign text.toList
    let whole := rest.takeWhile Char.isDigit
    let fraction := ((rest.dropWhile Char.isDigit).drop 1).takeWhile Char.isDigit
    let numeral := whole ++ (if fraction = [] then [] else '.' :: fraction)
    let magnitude : Int := Nat.ofDigitChars 10 (whole ++ fraction) 0
    if rest = numeral ∧ numeral ≠ [] then some ⟨if negative then -magnitude else magnitude, fraction.length⟩
    else none

def amount : FieldSpec where
  name := "amount"
  valueType := .money
  precision := some 5
  scale := some 2
  constraints := [{ operator := .min, value := .int 0 }]

def code : FieldSpec where
  name := "code"
  valueType := .string
  constraints := [{ operator := .maxLength, value := .int 4 }]

end AutonomousApi.FieldAgreement
