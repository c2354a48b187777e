import AutonomousApi.JsonCodec

/-! `json.loads` on the indented texts of `json.dumps(value, indent=2, sort_keys=True)`. Blanks stand
where the one-line texts have none, and the reader skips them there. -/

namespace AutonomousApi.JsonIndented

open DataTree JsonValue JsonText OrderedMap
open PythonLiteral (NumberText)
open JsonCodec (Layout Blanks Reads itemTexts itemTexts_single itemTexts_cons fieldText entryTexts entryTexts_single
  entryTexts_cons reads_atom reads_nil reads_empty reads_list reads_dict loads)

theorem escape_default : JsonCodec.escape Layout.default = escapeChar := by
  funext c
  simp [JsonCodec.escape, Layout.default]

theorem encodeString_default (text : String) : encodeString text = JsonCodec.encodeText Layout.default text := by
  rw [encodeString, JsonCodec.encodeText, escape_default]

theorem blanks_newline (level : Nat) : Blanks (newline level) := by
  intro c member
  rcases List.mem_cons.mp member with rfl | space
  · decide
  · rw [List.eq_of_mem_replicate space]
    decide

variable (numbers : NumberText JsonFloat)

theorem encodeAtom_default (value : JsonAtom) :
    encodeAtom numbers value = JsonCodec.encodeAtom Layout.default numbers value := by
  cases value with
  | bool value => cases value <;> rfl
  | str text => exact encodeString_default text
  | _ => rfl

theorem encodeItems_texts (level : Nat) (items : List Json) :
    encodeItems numbers level items = itemTexts (encode numbers level) (newline level) items := by
  induction items with
  | nil => rfl
  | cons item rest ih =>
      cases rest with
      | nil => rw [encodeItems, itemTexts_single]
      | cons next later => rw [encodeItems, itemTexts_cons, ih]

theorem encodeEntries_texts (level : Nat) (entries : List (String × Json)) : encodeEntries numbers level entries =
    entryTexts Layout.default (encode numbers level) (newline level) [' '] entries := by
  induction entries with
  | nil => rfl
  | cons entry rest ih =>
      cases rest with
      | nil =>
          rw [encodeEntries, entryTexts_single, fieldText, encodeString_default]
          simp
      | cons next later =>
          rw [encodeEntries, entryTexts_cons, ih, fieldText, encodeString_default]
          simp

variable {numbers}

theorem reads_encode (level : Nat) (tree : Json) (distinct : Distinct tree) :
    Reads numbers (encode numbers level tree) tree := by
  induction tree using DataTree.Tree.induct generalizing level with
  | atom value =>
      rw [encode, encodeAtom_default]
      exact reads_atom Layout.default numbers value
  | list items ih =>
      rw [Distinct, distinctItems_iff] at distinct
      cases items with
      | nil =>
          rw [encode]
          exact reads_nil numbers
      | cons item rest =>
          rw [encode, encodeItems_texts]
          exact reads_list (item :: rest) (by simp) (fun inside member => ih inside member _ (distinct inside member))
            (blanks_newline (level + 1)) (blanks_newline (level + 1)) (blanks_newline level)
  | dict entries ih =>
      rw [distinct_dict_iff] at distinct
      cases entries with
      | nil =>
          rw [encode]
          exact reads_empty numbers
      | cons entry rest =>
          rw [encode, encodeEntries_texts]
          exact reads_dict Layout.default (entry :: rest) (by simp) distinct.1
            (fun inside member => ih inside member _ (distinct.2 inside member)) (blanks_newline (level + 1))
            (blanks_newline (level + 1)) (by simp [Blanks, JsonCodec.jsonBlank]) (blanks_newline level)

variable (numbers)

/-- `json.dump(value, file, indent=2, sort_keys=True)` and a line end behind it. -/
def fileText (value : Json) : String := String.ofList (dumps numbers value ++ ['\n'])

/-- What `json.load` makes of such a file: the document, with its keys sorted. -/
theorem loads_fileText (tree : Json) (distinct : Distinct tree) :
    loads numbers (fileText numbers tree) = some (sortKeys tree) := by
  have readsBack : Reads numbers (encode numbers 0 (sortKeys tree)) (sortKeys tree) :=
    reads_encode 0 (sortKeys tree) (JsonCodec.distinct_sortKeys tree distinct)
  have read := readsBack.read ((encode numbers 0 (sortKeys tree) ++ ['\n']).length + 1) ['\n']
    (JsonCodec.ends_cons '\n' _ (by decide)) (by rw [List.length_append]; omega)
  have ended : JsonCodec.skip ['\n'] = [] := by decide
  rw [loads, fileText, String.toList_ofList, dumps, readsBack.headed.skip, read]
  exact if_pos ended

end AutonomousApi.JsonIndented
