import AutonomousApi.JsonValue
import AutonomousApi.OrderedMap

/-! The two folds of the observation stream into the state of the user interface:
observation-client/src/reducer.ts and CompositeObservationReducer in
autonomous-api/app/observation/readmodel/reducer.py. They differ in how an event type is
looked up and in when a promoted candidate replaces an earlier one. -/

namespace AutonomousApi.ObservationReducers

open DataTree JsonValue OrderedMap

structure Envelope where
  eventType : String
  payload : Json
  generation : Int
  occurredAt : String
  deriving DecidableEq

/-- `facets` and, of `meta`, `generation` and `facetUpdatedAt`. -/
structure UiState where
  facets : Dict String Json := []
  generation : Int := 0
  facetUpdatedAt : Dict String String := []
  deriving DecidableEq

def initialUiState : UiState := {}

def facetForEvent : Dict String String :=
  [("isr.updated", "isr"), ("fitness.evaluated", "fitness"), ("candidate.promoted", "candidates"),
    ("governance.decision_made", "governance"), ("evolution.stage_changed", "evolution")]

/-- The list under a facet, or the empty list. -/
def items (facets : Dict String Json) (facet : String) : List Json :=
  match get facets facet with
  | some (.arr list) => list
  | _ => []

/-- Replace the first candidate that the payload matches, else append it. -/
def place (matching : Json → Bool) (payload : Json) : List Json → List Json
  | [] => [payload]
  | candidate :: rest => if matching candidate then payload :: rest else candidate :: place matching payload rest

def applyFacet (matching : Json → Json → Bool) (facets : Dict String Json) (facet : String) (payload : Json) :
    Dict String Json :=
  if facet = "candidates" then
    assign facets "candidates" (.arr (place (matching payload) payload (items facets "candidates")))
  else if facet = "governance" then assign facets "governance" (.arr (items facets "governance" ++ [payload]))
  else assign facets facet payload

def reduce (facetOf : String → Option String) (matching : Json → Json → Bool) (state : UiState) (envelope : Envelope) :
    UiState :=
  match facetOf envelope.eventType with
  -- heartbeats and unknown event types
  | none => state
  | some facet =>
      { facets := applyFacet matching state.facets facet envelope.payload, generation := envelope.generation,
        facetUpdatedAt := assign state.facetUpdatedAt facet envelope.occurredAt }

/-- The own property `candidateId` of an object. -/
def candidateId : Json → Option Json
  | .obj entries => get entries "candidateId"
  | _ => none

def nativeFunction (name : String) : String := "function " ++ name ++ "() \x7b [native code] \x7d"

/-- What a lookup in an object literal finds on `Object.prototype`, as a property key. -/
def objectPrototype : Dict String String :=
  [("constructor", nativeFunction "Object"), ("__proto__", "[object Object]"),
    ("__defineGetter__", nativeFunction "__defineGetter__"), ("__defineSetter__", nativeFunction "__defineSetter__"),
    ("__lookupGetter__", nativeFunction "__lookupGetter__"), ("__lookupSetter__", nativeFunction "__lookupSetter__"),
    ("hasOwnProperty", nativeFunction "hasOwnProperty"), ("isPrototypeOf", nativeFunction "isPrototypeOf"),
    ("propertyIsEnumerable", nativeFunction "propertyIsEnumerable"), ("toString", nativeFunction "toString"),
    ("toLocaleString", nativeFunction "toLocaleString"), ("valueOf", nativeFunction "valueOf")]

/-- `FACET_FOR_EVENT[eventType]`. -/
def scriptFacet (eventType : String) : Option String :=
  (get facetForEvent eventType).or (get objectPrototype eventType)

/-- An atom as `===` sees it. -/
inductive ScriptAtom where
  | null
  | bool (value : Bool)
  | number (value : Rat)
  | text (value : String)
  deriving DecidableEq

def scriptAtom : JsonAtom → ScriptAtom
  | .null => .null
  | .bool value => .bool value
  | .int value => .number value
  | .float value => .number value.toRat
  | .str value => .text value

/-- `===` on parts of different events: objects and arrays are never the same one. -/
def strictEqual : Json → Json → Bool
  | .atom left, .atom right => scriptAtom left == scriptAtom right
  | _, _ => false

/-- The `findIndex` condition, under `cid != null`. -/
def scriptMatches (payload candidate : Json) : Bool :=
  match candidateId payload with
  | none | some .null => false
  | some cid =>
      match candidateId candidate with
      -- `undefined` is strictly equal to no part of a document
      | none => false
      | some other => strictEqual other cid

def observationReducer : UiState → Envelope → UiState := reduce scriptFacet scriptMatches

/-- `payload.get("candidateId")`, and `None` for what is no dict. -/
def pythonId (payload : Json) : Json := (candidateId payload).getD .null

def isDict : Json → Bool
  | .obj _ => true
  | _ => false

def pythonMatches (payload candidate : Json) : Bool :=
  isDict candidate && pyEqual (pythonId candidate) (pythonId payload)

/-- `CompositeObservationReducer.fold`. -/
def compositeFold : UiState → Envelope → UiState := reduce (get facetForEvent) pythonMatches

end AutonomousApi.ObservationReducers
