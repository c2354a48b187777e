import AutonomousApi.ObservationReducers
import Mathlib.Data.List.Induction
import Mathlib.Data.List.Pairwise

/-! When the two folds give the same state. A candidate that TypeScript replaces is one
that Python replaces too, so once Python has replaced one that TypeScript kept, its list
stays the shorter one, whatever comes after. -/

namespace AutonomousApi.ReducerAgreement

open DataTree JsonValue OrderedMap ObservationReducers

theorem pyEqual_iff (left right : Json) : pyEqual left right = true ↔ pyView left = pyView right := decide_eq_true_iff

/-- Only `None` equals `None`. -/
theorem pyView_null {value : Json} (same : pyView value = pyView .null) : value = .null := by
  cases value with
  | atom atom =>
      cases atom with
      | null => rfl
      | bool truth => simp [pyView, mapAtoms, sortKeys, pyAtom] at same
      | int number => simp [pyView, mapAtoms, sortKeys, pyAtom] at same
      | float number => simp [pyView, mapAtoms, sortKeys, pyAtom] at same
      | str text => simp [pyView, mapAtoms, sortKeys, pyAtom] at same
  | list members => simp [pyView, mapAtoms, sortKeys, pyAtom] at same
  | dict entries => simp [pyView, mapAtoms, sortKeys, pyAtom] at same

theorem pyView_of_scriptAtom {left right : JsonAtom} (same : scriptAtom left = scriptAtom right) :
    pyView (.atom left) = pyView (.atom right) := by
  have atoms : pyAtom left = pyAtom right := by
    cases left <;> cases right <;> simp_all [scriptAtom, pyAtom]
  simp [pyView, mapAtoms, sortKeys, atoms]

/-- Both ids are scalars other than null, and strictly equal. -/
def SameScalar (left right : Json) : Prop :=
  ∃ first second, candidateId left = some (.atom first) ∧ candidateId right = some (.atom second) ∧
    first ≠ .null ∧ second ≠ .null ∧ scriptAtom first = scriptAtom second

theorem scriptMatches_iff (payload candidate : Json) :
    scriptMatches payload candidate = true ↔ SameScalar candidate payload := by
  have nullOnly {atom : JsonAtom} (isNull : scriptAtom atom = scriptAtom .null) : atom = .null := by
    cases atom <;> simp_all [scriptAtom]
  constructor
  · intro matched
    rw [scriptMatches] at matched
    split at matched
    · cases matched
    · cases matched
    · next cid notNull isId =>
        split at matched
        · cases matched
        · next other isOther =>
            cases other with
            | atom first =>
                cases cid with
                | atom second =>
                    have same : scriptAtom first = scriptAtom second := eq_of_beq matched
                    have second_ne : second ≠ .null := by
                      rintro rfl
                      exact notNull rfl
                    refine ⟨first, second, isOther, isId, ?_, second_ne, same⟩
                    rintro rfl
                    exact second_ne (nullOnly same.symm)
                | list members => cases matched
                | dict entries => cases matched
            | list members => cases matched
            | dict entries => cases matched
  · rintro ⟨first, second, isOther, isId, _, second_ne, same⟩
    rw [scriptMatches, isId]
    cases second with
    | null => exact absurd rfl second_ne
    | bool truth => simp [isOther, strictEqual, same]
    | int number => simp [isOther, strictEqual, same]
    | float number => simp [isOther, strictEqual, same]
    | str text => simp [isOther, strictEqual, same]

variable {left right : Json}

theorem SameScalar.symm (same : SameScalar left right) : SameScalar right left := by
  obtain ⟨first, second, isFirst, isSecond, firstSome, secondSome, equal⟩ := same
  exact ⟨second, first, isSecond, isFirst, secondSome, firstSome, equal.symm⟩

theorem SameScalar.trans {middle : Json} (early : SameScalar left middle) (late : SameScalar middle right) :
    SameScalar left right := by
  obtain ⟨first, second, isFirst, isSecond, firstSome, -, equal⟩ := early
  obtain ⟨third, fourth, isThird, isFourth, -, fourthSome, equalLate⟩ := late
  rw [isSecond] at isThird
  cases isThird
  exact ⟨first, fourth, isFirst, isFourth, firstSome, fourthSome, equal.trans equalLate⟩

theorem isDict_of_candidateId {payload cid : Json} (isId : candidateId payload = some cid) : isDict payload = true := by
  cases payload with
  | dict entries => rfl
  | atom atom => cases isId
  | list members => cases isId

theorem SameScalar.isDict (same : SameScalar left right) : isDict left = true := by
  obtain ⟨first, second, isFirst, -⟩ := same
  exact isDict_of_candidateId isFirst

/-- A dict with an equal id, for Python. -/
def SameId (left right : Json) : Prop := isDict left = true ∧ pyView (pythonId left) = pyView (pythonId right)

theorem pythonMatches_iff (payload candidate : Json) : pythonMatches payload candidate = true ↔
    SameId candidate payload := by
  rw [pythonMatches, Bool.and_eq_true, pyEqual_iff]
  rfl

theorem SameScalar.sameId (same : SameScalar left right) : SameId left right := by
  refine ⟨same.isDict, ?_⟩
  obtain ⟨first, second, isFirst, isSecond, -, -, equal⟩ := same
  rw [pythonId, pythonId, isFirst, isSecond]
  exact pyView_of_scriptAtom equal

theorem SameId.trans {middle : Json} (early : SameId left middle) (late : SameId middle right) :
    SameId left right :=
  ⟨early.1, early.2.trans late.2⟩

/-- An id that is not null belongs to a dict. -/
theorem isDict_of_pythonId {payload other : Json} (same : pyView (pythonId payload) = pyView other)
    (notNull : other ≠ .null) : isDict payload = true := by
  cases isId : candidateId payload with
  | some cid => exact isDict_of_candidateId isId
  | none =>
      rw [pythonId, isId] at same
      exact absurd (pyView_null same.symm) notNull

section

variable {matching other : Json → Bool} {payload : Json}

attribute [local simp] place

theorem place_congr {list : List Json} (same : ∀ candidate ∈ list, matching candidate = other candidate) :
    place matching payload list = place other payload list := by
  induction list with
  | nil => rfl
  | cons candidate rest ih =>
      rw [place, place, same candidate (by simp), ih fun later member => same later (by simp [member])]

theorem mem_place {list : List Json} {candidate : Json} (member : candidate ∈ place matching payload list) :
    candidate = payload ∨ candidate ∈ list := by
  induction list with
  | nil => exact .inl (List.mem_singleton.mp member)
  | cons first rest ih =>
      rw [place] at member
      split at member
      · rcases List.mem_cons.mp member with same | later
        · exact .inl same
        · exact .inr (by simp [later])
      · rcases List.mem_cons.mp member with same | later
        · exact .inr (by simp [same])
        · rcases ih later with same | known
          · exact .inl same
          · exact .inr (by simp [known])

theorem payload_mem_place (list : List Json) : payload ∈ place matching payload list := by
  induction list with
  | nil => exact List.mem_cons_self
  | cons first rest ih =>
      rw [place]
      split
      · exact List.mem_cons_self
      · exact List.mem_cons_of_mem _ ih

/-- A candidate stays unless the payload matches it. -/
theorem place_keeps {list : List Json} {candidate : Json} (member : candidate ∈ list) :
    candidate ∈ place matching payload list ∨ matching candidate = true := by
  induction list with
  | nil => cases member
  | cons first rest ih =>
      rw [place]
      split
      · next replaced =>
          rcases List.mem_cons.mp member with rfl | later
          · exact .inr replaced
          · exact .inl (by simp [later])
      · rcases List.mem_cons.mp member with rfl | later
        · exact .inl List.mem_cons_self
        · rcases ih later with kept | matched
          · exact .inl (List.mem_cons_of_mem _ kept)
          · exact .inr matched

theorem length_place (list : List Json) :
    (place matching payload list).length = if list.any matching then list.length else list.length + 1 := by
  induction list with
  | nil => rfl
  | cons first rest ih =>
      rw [place, List.any_cons]
      cases matched : matching first with
      | true => simp
      | false =>
          rw [if_neg (by simp), List.length_cons, ih, Bool.false_or]
          split <;> simp

end

/-- The candidates after a sequence of promotions. -/
def scriptList (payloads : List Json) : List Json :=
  payloads.foldl (fun list payload => place (scriptMatches payload) payload list) []

def pythonList (payloads : List Json) : List Json :=
  payloads.foldl (fun list payload => place (pythonMatches payload) payload list) []

theorem scriptList_append (payloads : List Json) (payload : Json) :
    scriptList (payloads ++ [payload]) = place (scriptMatches payload) payload (scriptList payloads) := by
  rw [scriptList, List.foldl_append]
  rfl

theorem pythonList_append (payloads : List Json) (payload : Json) :
    pythonList (payloads ++ [payload]) = place (pythonMatches payload) payload (pythonList payloads) := by
  rw [pythonList, List.foldl_append]
  rfl

/-- No promotion has an id that Python equates with an earlier one's and TypeScript does
not. -/
def Compatible (payloads : List Json) : Prop :=
  payloads.Pairwise fun earlier later => pythonMatches later earlier = true → scriptMatches later earlier = true

/-- An id in TypeScript's list has its equal in Python's. -/
theorem covered (payloads : List Json) :
    ∀ candidate ∈ scriptList payloads, pythonId candidate ≠ .null → ∃ same ∈ pythonList payloads,
      SameId same candidate := by
  induction payloads using List.reverseRecOn with
  | nil => simp [scriptList]
  | append_singleton payloads payload ih =>
      intro candidate member notNull
      rw [scriptList_append] at member
      rw [pythonList_append]
      rcases mem_place member with rfl | old
      · exact ⟨candidate, payload_mem_place _, isDict_of_pythonId rfl notNull, rfl⟩
      · obtain ⟨same, listed, isSame⟩ := ih candidate old notNull
        rcases @place_keeps (pythonMatches payload) payload _ _ listed with kept | matched
        · exact ⟨same, kept, isSame⟩
        · -- the payload takes the place of its equal
          have replaced := (pythonMatches_iff payload same).mp matched
          have equal : pyView (pythonId payload) = pyView (pythonId candidate) := replaced.2.symm.trans isSame.2
          exact ⟨payload, payload_mem_place _, isDict_of_pythonId equal notNull, equal⟩

theorem SameScalar.notNull {left right : Json} (same : SameScalar left right) : pythonId left ≠ .null := by
  obtain ⟨first, second, isFirst, -, firstSome, -⟩ := same
  rw [pythonId, isFirst]
  intro isNull
  cases isNull
  exact firstSome rfl

/-- Where TypeScript replaces, Python does. -/
theorem replaces_both (payloads : List Json) (payload : Json)
    (replaces : (scriptList payloads).any (scriptMatches payload) = true) :
    (pythonList payloads).any (pythonMatches payload) = true := by
  obtain ⟨candidate, member, matched⟩ := List.any_eq_true.mp replaces
  have scalar := (scriptMatches_iff payload candidate).mp matched
  obtain ⟨same, listed, isSame⟩ := covered payloads candidate member scalar.notNull
  exact List.any_eq_true.mpr ⟨same, listed, (pythonMatches_iff payload same).mpr (isSame.trans scalar.sameId)⟩

theorem mem_of_mem_pythonList (payloads : List Json) : ∀ candidate ∈ pythonList payloads, candidate ∈ payloads := by
  induction payloads using List.reverseRecOn with
  | nil => simp [pythonList]
  | append_singleton payloads payload ih =>
      intro candidate member
      rw [pythonList_append] at member
      rcases mem_place member with rfl | old
      · simp
      · simp [ih candidate old]

variable {payloads : List Json}

theorem compatible_append {payload : Json} :
    Compatible (payloads ++ [payload]) ↔
      Compatible payloads ∧ ∀ earlier ∈ payloads, pythonMatches payload earlier = true →
      scriptMatches payload earlier = true := by
  rw [Compatible, List.pairwise_append]
  simp [Compatible]

/-- Of compatible promotions, every dict has its equal in the list. -/
theorem represented (compatible : Compatible payloads) :
    ∀ earlier ∈ payloads, isDict earlier = true → ∃ candidate ∈ pythonList payloads, SameId candidate earlier := by
  induction payloads using List.reverseRecOn with
  | nil => simp
  | append_singleton payloads payload ih =>
      obtain ⟨before, last⟩ := compatible_append.mp compatible
      intro earlier member dict
      rw [pythonList_append]
      rcases List.mem_append.mp member with old | new
      · obtain ⟨candidate, listed, isSame⟩ := ih before earlier old dict
        rcases @place_keeps (pythonMatches payload) payload _ _ listed with kept | matched
        · exact ⟨candidate, kept, isSame⟩
        · have scalar := (scriptMatches_iff payload candidate).mp
            (last candidate (mem_of_mem_pythonList payloads candidate listed) matched)
          exact ⟨payload, payload_mem_place _, scalar.symm.sameId.trans isSame⟩
      · rw [List.mem_singleton] at new
        subst new
        exact ⟨earlier, payload_mem_place _, dict, rfl⟩

/-- Of compatible promotions, two that Python equates are strictly equal, in any order. -/
theorem Compatible.strict (compatible : Compatible payloads) {left right : Json}
    (isLeft : left ∈ payloads) (isRight : right ∈ payloads) (scalar : ∃ other, SameScalar right other)
    (same : SameId left right) (differ : left ≠ right) : SameScalar left right := by
  obtain ⟨other, isOther⟩ := scalar
  have back : SameId right left := ⟨isOther.isDict, same.2.symm⟩
  have symmetric : Std.Symm fun first second =>
      (SameId first second → SameScalar first second) ∨ (SameId second first → SameScalar second first) :=
    ⟨fun _ _ choice => choice.symm⟩
  have either : payloads.Pairwise fun first second =>
      (SameId first second → SameScalar first second) ∨ (SameId second first → SameScalar second first) := by
    apply compatible.imp
    intro first second agree
    refine .inl ?_
    intro equal
    exact (scriptMatches_iff second first).mp (agree ((pythonMatches_iff second first).mpr equal))
  rcases either.forall isLeft isRight differ with forth | backwards
  · exact forth same
  · exact (backwards back).symm

/-- A promotion that is the first incompatible one is appended by TypeScript and takes the
place of another in Python. -/
theorem clash_diverges (compatible : Compatible payloads)
    (same : scriptList payloads = pythonList payloads) {payload earlier : Json} (member : earlier ∈ payloads)
    (equated : SameId earlier payload) (kept : ¬ SameScalar earlier payload) :
    (scriptList payloads).any (scriptMatches payload) = false ∧
      (pythonList payloads).any (pythonMatches payload) = true := by
  constructor
  · rw [Bool.eq_false_iff]
    intro replaces
    obtain ⟨candidate, listed, matched⟩ := List.any_eq_true.mp replaces
    have scalar := (scriptMatches_iff payload candidate).mp matched
    rw [same] at listed
    have isEarlier := mem_of_mem_pythonList payloads candidate listed
    by_cases differ : earlier = candidate
    · exact kept (differ ▸ scalar)
    · have equal : SameId earlier candidate := ⟨equated.1, equated.2.trans scalar.sameId.2.symm⟩
      exact kept ((compatible.strict member isEarlier ⟨payload, scalar⟩ equal differ).trans scalar)
  · obtain ⟨candidate, listed, isSame⟩ := represented compatible earlier member equated.1
    exact List.any_eq_true.mpr ⟨candidate, listed, (pythonMatches_iff payload candidate).mpr (isSame.trans equated)⟩

/-- Compatible promotions give equal lists, and others leave Python's shorter. -/
theorem lists_compare (payloads : List Json) :
    (Compatible payloads → scriptList payloads = pythonList payloads) ∧
      (¬ Compatible payloads → (pythonList payloads).length < (scriptList payloads).length) := by
  induction payloads using List.reverseRecOn with
  | nil => exact ⟨fun _ => rfl, fun incompatible => absurd List.Pairwise.nil incompatible⟩
  | append_singleton payloads payload ih =>
      rw [compatible_append, scriptList_append, pythonList_append]
      -- where TypeScript replaces, Python does not append, so the lead is never made up
      have lengths : (pythonList payloads).length < (scriptList payloads).length →
          (place (pythonMatches payload) payload (pythonList payloads)).length <
            (place (scriptMatches payload) payload (scriptList payloads)).length := by
        intro shorter
        rw [length_place, length_place]
        cases replaces : (scriptList payloads).any (scriptMatches payload) with
        | true =>
            rw [replaces_both payloads payload replaces]
            simpa using shorter
        | false => split <;> simp <;> omega
      by_cases before : Compatible payloads
      · have same := ih.1 before
        constructor
        · rintro ⟨-, last⟩
          rw [same]
          apply place_congr
          intro candidate listed
          have isEarlier := mem_of_mem_pythonList payloads candidate listed
          rw [Bool.eq_iff_iff]
          constructor
          · intro matched
            exact (pythonMatches_iff payload candidate).mpr ((scriptMatches_iff payload candidate).mp matched).sameId
          · exact last candidate isEarlier
        · intro incompatible
          obtain ⟨earlier, member, equated, kept⟩ : ∃ earlier ∈ payloads, pythonMatches payload earlier = true ∧
              ¬ scriptMatches payload earlier = true := by
            by_contra none
            apply incompatible
            refine ⟨before, ?_⟩
            intro earlier member matched
            by_contra unmatched
            exact none ⟨earlier, member, matched, unmatched⟩
          obtain ⟨appends, replaces⟩ :=
              clash_diverges before same member ((pythonMatches_iff payload earlier).mp equated)
            fun scalar => kept ((scriptMatches_iff payload earlier).mpr scalar)
          rw [length_place, length_place, appends, replaces, same]
          simp
      · refine ⟨fun both => absurd both.1 before, ?_⟩
        intro _
        exact lengths (ih.2 before)

theorem lists_agree_iff (payloads : List Json) :
    scriptList payloads = pythonList payloads ↔ Compatible payloads := by
  obtain ⟨same, shorter⟩ := lists_compare payloads
  refine ⟨?_, same⟩
  intro equal
  by_contra incompatible
  have less := shorter incompatible
  rw [equal] at less
  exact Nat.lt_irrefl _ less

/-- The same facets and the same meta, as objects. -/
structure Agree (left right : UiState) : Prop where
  facets : ∀ facet, get left.facets facet = get right.facets facet
  generation : left.generation = right.generation
  facetUpdatedAt : ∀ facet, get left.facetUpdatedAt facet = get right.facetUpdatedAt facet

def promoted (events : List Envelope) : List Json :=
  (events.filter fun envelope => envelope.eventType == "candidate.promoted").map Envelope.payload

variable {facetOf : String → Option String} {matching : Json → Json → Bool}

theorem reduce_append (state : UiState) (events : List Envelope) (envelope : Envelope) :
    (events ++ [envelope]).foldl (reduce facetOf matching) state =
      reduce facetOf matching (events.foldl (reduce facetOf matching) state) envelope := by
  rw [List.foldl_append]
  rfl

/-- A facet has an update time once an event for it was folded. -/
theorem updated_iff (events : List Envelope) (facet : String) :
    (get (events.foldl (reduce facetOf matching) initialUiState).facetUpdatedAt facet).isSome = true ↔
      ∃ envelope ∈ events, facetOf envelope.eventType = some facet := by
  induction events using List.reverseRecOn with
  | nil => simp [initialUiState]
  | append_singleton events envelope ih =>
      rw [reduce_append, reduce]
      cases found : facetOf envelope.eventType with
      | none => simp [ih, found]
      | some updated =>
          simp only [get_assign]
          by_cases same : updated = facet
          · simp [same, found]
          · simp [same, ih, found]

/-- The candidates are the list of the promoted payloads. -/
theorem candidates_folded (only : ∀ eventType, facetOf eventType = some "candidates" ↔ eventType = "candidate.promoted")
    (events : List Envelope) :
    get (events.foldl (reduce facetOf matching) initialUiState).facets "candidates" =
      if promoted events = [] then none
      else some (.arr ((promoted events).foldl (fun list payload => place (matching payload) payload list) [])) := by
  induction events using List.reverseRecOn with
  | nil => rfl
  | append_singleton events envelope ih =>
      have split : promoted (events ++ [envelope]) = promoted events ++ promoted [envelope] := by
        simp [promoted]
      rw [reduce_append, reduce, split]
      by_cases promotes : envelope.eventType = "candidate.promoted"
      · have facet := (only envelope.eventType).mpr promotes
        have last : promoted [envelope] = [envelope.payload] := by simp [promoted, promotes]
        rw [facet, last, if_neg (by simp), List.foldl_append]
        simp only [applyFacet, if_true, get_assign, items, ih]
        by_cases none : promoted events = []
        · simp [none]
        · simp [none]
      · have last : promoted [envelope] = [] := by simp [promoted, promotes]
        rw [last, List.append_nil, ← ih]
        cases found : facetOf envelope.eventType with
        | none => rfl
        | some facet =>
            have other : facet ≠ "candidates" := by
              rintro rfl
              exact promotes ((only _).mp found)
            simp only [applyFacet, if_neg other]
            split
            · next governance => simp [get_assign]
            · simp [get_assign, other]

theorem facetForEvent_candidates (eventType : String) :
    get facetForEvent eventType = some "candidates" ↔ eventType = "candidate.promoted" := by
  constructor
  · intro found
    simpa [facetForEvent] using mem_of_get found
  · rintro rfl
    decide

theorem scriptFacet_candidates (eventType : String) :
    scriptFacet eventType = some "candidates" ↔ eventType = "candidate.promoted" := by
  rw [scriptFacet, Option.or_eq_some_iff, facetForEvent_candidates]
  constructor
  · rintro (promotes | ⟨-, inherited⟩)
    · exact promotes
    · have listed : "candidates" ∈ objectPrototype.map Prod.snd := List.mem_map_of_mem (mem_of_get inherited)
      exact absurd listed (by decide)
  · exact .inl

/-- The facets of the five event types are none of the inherited keys. -/
theorem facet_not_inherited {eventType facet : String} (found : get facetForEvent eventType = some facet) :
    facet ∉ objectPrototype.map Prod.snd := by
  have listed : facet ∈ facetForEvent.map Prod.snd := List.mem_map_of_mem (mem_of_get found)
  simp only [facetForEvent, List.map_cons, List.map_nil, List.mem_cons, List.not_mem_nil, or_false] at listed
  rcases listed with rfl | rfl | rfl | rfl | rfl <;> decide

/-- The states but for their candidates. -/
structure Alike (left right : UiState) : Prop where
  facets : ∀ facet, facet ≠ "candidates" → get left.facets facet = get right.facets facet
  generation : left.generation = right.generation
  facetUpdatedAt : left.facetUpdatedAt = right.facetUpdatedAt

theorem Alike.reduce {left right : UiState} (alike : Alike left right) {other : Json → Json → Bool}
    (envelope : Envelope) : Alike (ObservationReducers.reduce facetOf matching left envelope)
      (ObservationReducers.reduce facetOf other right envelope) := by
  rw [ObservationReducers.reduce, ObservationReducers.reduce]
  cases found : facetOf envelope.eventType with
  | none => exact alike
  | some updated =>
      refine ⟨?_, rfl, by simp only [alike.facetUpdatedAt]⟩
      intro facet notCandidates
      simp only [applyFacet]
      by_cases candidates : updated = "candidates"
      · rw [if_pos candidates, if_pos candidates, get_assign, get_assign, if_neg notCandidates.symm,
          if_neg notCandidates.symm]
        exact alike.facets facet notCandidates
      · rw [if_neg candidates, if_neg candidates]
        split
        · rw [items, items, alike.facets "governance" (by decide), get_assign, get_assign,
            alike.facets facet notCandidates]
        · rw [get_assign, get_assign, alike.facets facet notCandidates]

theorem alike_folded (events : List Envelope)
    (own : ∀ envelope ∈ events, get objectPrototype envelope.eventType = none) :
    Alike (events.foldl observationReducer initialUiState) (events.foldl compositeFold initialUiState) := by
  induction events using List.reverseRecOn with
  | nil => exact ⟨fun _ _ => rfl, rfl, rfl⟩
  | append_singleton events envelope ih =>
      have before := ih fun other member => own other (by simp [member])
      have sameFacet : scriptFacet envelope.eventType = get facetForEvent envelope.eventType := by
        rw [scriptFacet, own envelope (by simp), Option.or_none]
      rw [observationReducer, compositeFold, reduce_append, reduce_append]
      have step := @Alike.reduce (get facetForEvent) scriptMatches _ _ before pythonMatches envelope
      have script : reduce scriptFacet scriptMatches (events.foldl (reduce scriptFacet scriptMatches) initialUiState)
          envelope = reduce (get facetForEvent) scriptMatches
            (events.foldl (reduce scriptFacet scriptMatches) initialUiState) envelope := by
        rw [reduce, reduce, sameFacet]
      rw [script]
      exact step

/-- The two folds agree exactly on the event sequences that name no inherited property of an
object and whose promotions are compatible. -/
theorem reducers_agree_iff (events : List Envelope) :
    Agree (events.foldl observationReducer initialUiState) (events.foldl compositeFold initialUiState) ↔
      (∀ envelope ∈ events, get objectPrototype envelope.eventType = none) ∧ Compatible (promoted events) := by
  have script := @candidates_folded scriptFacet scriptMatches scriptFacet_candidates events
  have python := @candidates_folded (get facetForEvent) pythonMatches facetForEvent_candidates events
  constructor
  · intro agree
    constructor
    · intro envelope member
      by_contra inherits
      obtain ⟨key, inherited⟩ := Option.ne_none_iff_exists'.mp inherits
      have isKey : key ∈ objectPrototype.map Prod.snd := List.mem_map_of_mem (mem_of_get inherited)
      -- TypeScript has stored something under the key, and Python never does
      have unknown : get facetForEvent envelope.eventType = none := by
        by_contra known
        obtain ⟨facet, found⟩ := Option.ne_none_iff_exists'.mp known
        have listed : envelope.eventType ∈ facetForEvent.map Prod.fst := List.mem_map_of_mem (mem_of_get found)
        have name : envelope.eventType ∈ objectPrototype.map Prod.fst := List.mem_map_of_mem (mem_of_get inherited)
        revert listed name
        simp only [facetForEvent, objectPrototype, List.map_cons, List.map_nil, List.mem_cons, List.not_mem_nil,
          or_false]
        rintro (same | same | same | same | same) <;> rw [same] <;> decide
      have stored := (@updated_iff scriptFacet scriptMatches events key).mpr
        ⟨envelope, member, by rw [scriptFacet, unknown, Option.none_or, inherited]⟩
      have equal := agree.facetUpdatedAt key
      rw [observationReducer, compositeFold] at equal
      rw [equal] at stored
      obtain ⟨other, _, found⟩ := (@updated_iff (get facetForEvent) pythonMatches events key).mp stored
      exact facet_not_inherited found isKey
    · have equal := agree.facets "candidates"
      rw [observationReducer, compositeFold, script, python] at equal
      apply (lists_agree_iff _).mp
      by_cases none : promoted events = []
      · rw [none]
        rfl
      · rw [if_neg none, if_neg none] at equal
        simpa [scriptList, pythonList] using equal
  · rintro ⟨own, compatible⟩
    have alike := alike_folded events own
    refine ⟨?_, alike.generation, fun facet => by rw [alike.facetUpdatedAt]⟩
    intro facet
    by_cases candidates : facet = "candidates"
    · rw [candidates, observationReducer, compositeFold, script, python]
      have same := (lists_agree_iff _).mpr compatible
      rw [scriptList, pythonList] at same
      rw [same]
    · exact alike.facets facet candidates

def promotion (payload : Json) : Envelope := ⟨"candidate.promoted", payload, 1, "t"⟩

/-- Of two promotions without a candidateId, TypeScript keeps both and Python the second; an
event type that is a property name of every object is a facet for TypeScript alone. -/
theorem anonymous_candidates_disagree :
    ¬ Agree ([promotion (.obj []), promotion (.obj [])].foldl observationReducer initialUiState)
        ([promotion (.obj []), promotion (.obj [])].foldl compositeFold initialUiState) ∧
      ¬ Agree ([⟨"constructor", .null, 1, "t"⟩].foldl observationReducer initialUiState)
        ([⟨"constructor", .null, 1, "t"⟩].foldl compositeFold initialUiState) := by
  constructor
  · intro agree
    exact absurd (agree.facets "candidates") (by decide)
  · intro agree
    exact absurd agree.generation (by decide)

end AutonomousApi.ReducerAgreement
