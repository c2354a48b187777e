import AutonomousApi.GeneratedFiles

/-! Labels inside the string literals of the emitted Python files. A literal denotes its
label when Python reads it as exactly the text around and including the label, and goes
on with the program behind it. -/

namespace AutonomousApi.EmittedLabels

open CompilationPlan OrderedMap PythonText PythonLiteral Naming FastApiBackend GeneratedFiles

section

variable (table : CharTable) (plan : Plan)

def typedModel (mod : String) : Bool :=
  match plan.dataModels.find? fun model => slug table model.entityName == mod with
  | some model => model.behavior.isSome
  | none => false

/-- The literals of a file that contain a label. Declared routes are written with `repr`. -/
def labelLiterals : FilePath → List LabelLiteral
  | .application mod =>
      [serviceDocstring (serviceName table plan mod), catalogName (serviceName table plan mod)]
  | .events mod =>
      [handlerDocstring (eventName table plan mod), wrapDocstring (eventName table plan mod),
        eventType (eventName table plan mod)]
  | .main => [appTitle (title plan)]
  | .tests => (planEvents table plan).map fun event => expectedType event.name
  | .domain mod => [domainDocstring (typedModel table plan mod) (clsName table mod)]
  | _ => []

variable (named : List Char → Option Nat)

/-- Python reads the literal as its own text, whatever program stands behind it. -/
def Denotes (literal : LabelLiteral) : Prop :=
  ∀ rest, stringLiteral named literal.style (literal.body ++ (delimiter literal.style ++ rest)) =
    some (codePoints literal.body, rest)

def LabelsDenoted : Prop :=
  ∀ path ∈ emittedPaths table plan, ∀ literal ∈ labelLiterals table plan path, Denotes named literal

end

variable (named : List Char → Option Nat)

theorem denotes_iff (literal : LabelLiteral) :
    Denotes named literal ↔
      verbatim literal.style (literal.trail ++ delimiter literal.style) literal.label = true := by
  have read (rest : List Char) := readString_verbatim named literal.style literal.body rest
    ((literal.body ++ (delimiter literal.style ++ rest)).length + 1) (by simp only [List.length_append]; omega)
  have parts : verbatim literal.style (delimiter literal.style) literal.body =
      verbatim literal.style (literal.trail ++ delimiter literal.style) literal.label := by
    rw [LabelLiteral.body, verbatim_append, verbatim_append, verbatim_of_inert _ _ _ literal.plainLead,
      verbatim_of_inert _ _ _ literal.plainTrail, Bool.true_and, Bool.and_true]
  rw [← parts]
  exact ⟨fun denotes => (read []).mp (denotes []), fun safe rest => (read rest).mpr safe⟩

/-- A label that a short literal denotes: no quote, line end or null character, no
backslash before an escape character, and none at the end. -/
def shortSafe (style : Style) (label : String) : Bool := verbatim style (delimiter style) label.toList

/-- A label that a docstring denotes: no three quotes, no carriage return or null
character, and no backslash before an escape character. -/
def docSafe (label : String) : Bool := verbatim tripleQuoted [' '] label.toList

/-- Only the next character matters behind a label, unless it is a quote. -/
theorem verbatim_next (style : Style) (c : Char) (other : c ≠ style.quote) (left right label : List Char) :
    verbatim style (c :: left) label = verbatim style (c :: right) label := by
  induction label with
  | nil => rfl
  | cons a rest ih =>
      have same : (closes style (a :: rest ++ c :: left)).isNone = (closes style (a :: rest ++ c :: right)).isNone := by
        unfold closes
        cases style.long with
        | false =>
            simp only [List.cons_append, Bool.false_eq_true, if_false]
            split <;> rfl
        | true =>
            match rest with
            | [] => cases left <;> cases right <;> simp [other]
            | [b] => simp [other]
            | b :: d :: tail =>
                simp only [List.cons_append, if_true]
                split <;> rfl
      have head : (rest ++ c :: left).head? = (rest ++ c :: right).head? := by cases rest <;> rfl
      rw [verbatim, verbatim, ih, same, head]

theorem docSafe_of_shortSafe (label : String) (safe : shortSafe doubleQuoted label = true) :
    docSafe label = true := by
  unfold shortSafe at safe
  unfold docSafe
  generalize label.toList = chars at safe ⊢
  induction chars with
  | nil => rfl
  | cons c rest ih =>
      rw [verbatim] at safe ⊢
      simp only [Bool.and_eq_true] at safe ⊢
      obtain ⟨⟨⟨opened, stands⟩, escape⟩, later⟩ := safe
      have other : c ≠ '"' := by
        rintro rfl
        simp [closes, doubleQuoted] at opened
      refine ⟨⟨⟨?_, ?_⟩, ?_⟩, ih later⟩
      · rw [List.cons_append, closes_of_ne tripleQuoted c _ other]
        rfl
      · simp only [standsForItself, doubleQuoted, tripleQuoted, Bool.and_eq_true] at stands ⊢
        exact ⟨stands.1, rfl⟩
      · cases rest with
        | nil => simp [show startsEscape ' ' = false by decide]
        | cons d tail => exact escape

theorem docstring_denotes_iff (lead label trail : String) (plainLead : lead.toList.all (inert tripleQuoted) = true)
    (plainTrail : trail.toList.all (inert tripleQuoted) = true) (spaced : trail.toList.head? = some ' ') :
    Denotes named (docstring lead label trail plainLead plainTrail) ↔ docSafe label = true := by
  obtain ⟨rest, split⟩ := List.head?_eq_some_iff.mp spaced
  rw [denotes_iff, docSafe, verbatim_next tripleQuoted ' ' (by decide) [] (rest ++ delimiter tripleQuoted)]
  simp only [docstring, split, List.cons_append]

theorem short_denotes_iff (style : Style) (label : String) :
    Denotes named ⟨style, [], label.toList, [], rfl, rfl⟩ ↔ shortSafe style label = true := by
  rw [denotes_iff]
  rfl

/-- The labels that reach a file can stand there as they are. -/
structure SafeLabels (table : CharTable) (plan : Plan) : Prop where
  system : shortSafe doubleQuoted (title plan) = true
  services : ∀ mod, .application mod ∈ emittedPaths table plan →
    shortSafe doubleQuoted (serviceName table plan mod) = true
  events : ∀ mod, .events mod ∈ emittedPaths table plan →
    shortSafe doubleQuoted (eventName table plan mod) = true
  testedEvents : ∀ event ∈ planEvents table plan, shortSafe singleQuoted event.name = true
  classes : ∀ mod, .domain mod ∈ emittedPaths table plan → docSafe (clsName table mod) = true

theorem labelsDenoted_iff (table : CharTable) (plan : Plan) :
    LabelsDenoted table plan named ↔ SafeLabels table plan := by
  have domain (typed : Bool) (cls : String) : Denotes named (domainDocstring typed cls) ↔ docSafe cls = true := by
    cases typed <;> exact docstring_denotes_iff named _ _ _ _ _ rfl
  constructor
  · intro denoted
    have mainFile : FilePath.main ∈ emittedPaths table plan :=
      infra_emitted table plan "infra:main" rfl (by decide)
    have testFile : FilePath.tests ∈ emittedPaths table plan :=
      infra_emitted table plan "infra:test" rfl (by decide)
    refine ⟨?_, fun mod emitted => ?_, fun mod emitted => ?_, fun event listed => ?_, fun mod emitted => ?_⟩
    · exact (short_denotes_iff named _ _).mp (denoted _ mainFile _ (by simp [labelLiterals, appTitle]))
    · exact (short_denotes_iff named _ _).mp (denoted _ emitted _ (by simp [labelLiterals, catalogName]))
    · exact (short_denotes_iff named _ _).mp (denoted _ emitted _ (by simp [labelLiterals, eventType]))
    · exact (short_denotes_iff named _ _).mp (denoted _ testFile _ (List.mem_map_of_mem listed))
    · exact (domain (typedModel table plan mod) _).mp (denoted _ emitted _ (by simp [labelLiterals]))
  · rintro ⟨system, services, events, testedEvents, classes⟩ path emitted literal listed
    cases path with
    | application mod =>
        have safe := services mod emitted
        simp only [labelLiterals, List.mem_cons, List.not_mem_nil, or_false] at listed
        rcases listed with rfl | rfl
        · exact (docstring_denotes_iff named _ _ _ _ _ rfl).mpr (docSafe_of_shortSafe _ safe)
        · exact (short_denotes_iff named _ _).mpr safe
    | events mod =>
        have safe := events mod emitted
        simp only [labelLiterals, List.mem_cons, List.not_mem_nil, or_false] at listed
        rcases listed with rfl | rfl | rfl
        · exact (docstring_denotes_iff named _ _ _ _ _ rfl).mpr (docSafe_of_shortSafe _ safe)
        · exact (docstring_denotes_iff named _ _ _ _ _ rfl).mpr (docSafe_of_shortSafe _ safe)
        · exact (short_denotes_iff named _ _).mpr safe
    | main =>
        obtain rfl : literal = appTitle (title plan) := by simpa [labelLiterals] using listed
        exact (short_denotes_iff named _ _).mpr system
    | tests =>
        obtain ⟨event, member, rfl⟩ := List.mem_map.mp listed
        exact (short_denotes_iff named _ _).mpr (testedEvents event member)
    | domain mod =>
        obtain rfl : literal = domainDocstring (typedModel table plan mod) (clsName table mod) := by
          simpa [labelLiterals] using listed
        exact (domain _ _).mpr (classes mod emitted)
    | _ => simp [labelLiterals] at listed

def quotedPlan : Plan where
  planId := "plan:0"
  isrId := "shop"
  services := [{ id := "service:shop", name := "The \"Best\" Shop" }]

/-- The catalog's literal ends at the first quote of the label. -/
theorem quoted_label_ends_literal :
    Accepts asciiTable quotedPlan ∧ ¬ LabelsDenoted asciiTable quotedPlan fun _ => none := by
  refine ⟨rfl, fun denoted => ?_⟩
  have emitted : FilePath.application "The__Best__Shop" ∈ emittedPaths asciiTable quotedPlan := by decide
  have name : serviceName asciiTable quotedPlan "The__Best__Shop" = "The \"Best\" Shop" := by decide
  have read := denoted _ emitted (catalogName "The \"Best\" Shop") (by simp [labelLiterals, name]) []
  revert read
  decide

end AutonomousApi.EmittedLabels
