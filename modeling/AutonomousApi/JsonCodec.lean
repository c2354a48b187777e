import AutonomousApi.OrderedMap
import AutonomousApi.JsonText

/-! One-line JSON: the texts of `json.dumps(value, sort_keys=True, ...)` without an
indent, and `json.loads`. The separators may carry a space and the escapes may be
restricted to the characters that need them. A text reads back as the document it was
written from, whatever follows it, so the encoder is injective on documents. -/

namespace AutonomousApi.JsonCodec

open DataTree JsonValue PythonLiteral JsonText OrderedMap

section

/-- The arguments of `json.dumps` that change a one-line text: the default separators
are followed by a space, and `ensure_ascii` escapes every character outside ascii. -/
structure Layout where
  spaced : Bool
  ascii : Bool

def Layout.default : Layout := ⟨true, true⟩

def Layout.compact : Layout := ⟨false, true⟩

def Layout.compactUnicode : Layout := ⟨false, false⟩

variable (layout : Layout) (numbers : NumberText JsonFloat)

def gap : List Char := if layout.spaced then [' '] else []

/-- `ESCAPE` and `ESCAPE_ASCII`: both escape quotes, backslashes and control characters. -/
def escape (c : Char) : List Char :=
  if layout.ascii || c == '"' || c == '\\' || decide (c < ' ') then escapeChar c else [c]

def encodeText (text : String) : List Char := '"' :: text.toList.flatMap (escape layout) ++ ['"']

def encodeAtom : JsonAtom → List Char
  | .null => "null".toList
  | .bool true => "true".toList
  | .bool false => "false".toList
  | .int value => integerText value
  | .float value => numbers.text value
  | .str value => encodeText layout value

mutual
def encode : Json → List Char
  | .atom value => encodeAtom layout numbers value
  | .list items => '[' :: encodeItems items ++ [']']
  | .dict entries => '{' :: encodeEntries entries ++ ['}']

def encodeItems : List Json → List Char
  | [] => []
  | [item] => encode item
  | item :: next :: rest => encode item ++ ',' :: gap layout ++ encodeItems (next :: rest)

def encodeEntries : List (String × Json) → List Char
  | [] => []
  | [(key, value)] => encodeText layout key ++ ':' :: gap layout ++ encode value
  | (key, value) :: next :: rest =>
      encodeText layout key ++ ':' :: gap layout ++ encode value ++ ',' :: gap layout ++ encodeEntries (next :: rest)
end

/-- `json.dumps(value, sort_keys=True)` in a layout. -/
def dumps (value : Json) : String := String.ofList (encode layout numbers (sortKeys value))

def jsonBlank (c : Char) : Bool := c == ' ' || c == '\t' || c == '\n' || c == '\r'

def skip (text : List Char) : List Char := text.dropWhile jsonBlank

/-- `BACKSLASH` of the decoder. -/
def letter : Char → Option Char
  | '"' => some '"'
  | '\\' => some '\\'
  | '/' => some '/'
  | 'b' => some '\x08'
  | 'f' => some '\x0c'
  | 'n' => some '\n'
  | 'r' => some '\r'
  | 't' => some '\t'
  | _ => none

/-- The character of an escaped code unit. A high surrogate needs the low one behind it;
a surrogate on its own denotes no character. -/
def unitChar (unit : Nat) (after : List Char) : Option (Char × List Char) :=
  if unit < 0xD800 ∨ 0xE000 ≤ unit then some (Char.ofNat unit, after)
  else
    match after with
    | '\\' :: 'u' :: low =>
        match readHex 4 0 low with
        | some (second, behind) =>
            if unit < 0xDC00 ∧ 0xDC00 ≤ second ∧ second < 0xE000 then
              some (Char.ofNat (0x10000 + (unit - 0xD800) * 1024 + (second - 0xDC00)), behind)
            else none
        | none => none
    | _ => none

/-- The text after a backslash. -/
def unescape : List Char → Option (Char × List Char)
  | [] => none
  | c :: rest =>
      if c = 'u' then
        match readHex 4 0 rest with
        | some (unit, after) => unitChar unit after
        | none => none
      else (letter c).map fun char => (char, rest)

/-- `scanstring`: the characters after an opening quote up to the closing one, and what
follows it. -/
def readChars : Nat → List Char → Option (List Char × List Char)
  | 0, _ => none
  | _ + 1, [] => none
  | fuel + 1, c :: rest =>
      if c = '"' then some ([], rest)
      else if c = '\\' then
        match unescape rest with
        | none => none
        | some (char, after) => (readChars fuel after).map fun read => (char :: read.1, read.2)
      -- strict mode refuses raw control characters
      else if c < ' ' then none
      else (readChars fuel rest).map fun read => (c :: read.1, read.2)

def readText (text : List Char) : Option (String × List Char) :=
  (readChars (text.length + 1) text).map fun read => (String.ofList read.1, read.2)

def numeralChar (c : Char) : Bool := numberChar c || c == 'E'

/-- An integer is written without leading zeros; any other number token is a fraction. -/
def numeral (numbers : NumberText JsonFloat) (token : List Char) : Option JsonAtom :=
  match readInteger token with
  | some value => if integerText value = token ∨ token = ['-', '0'] then some (.int value) else none
  | none => (numbers.read token).map .float

mutual
/-- `scan_once`. -/
def readJson : Nat → List Char → Option (Json × List Char)
  | 0, _ => none
  | fuel + 1, text =>
      match text with
      | [] => none
      | c :: rest =>
          if c = '"' then (readText rest).map fun read => (.str read.1, read.2)
          else if c = '[' then
            match skip rest with
            | ']' :: after => some (.arr [], after)
            | inner => (readItems fuel inner).map fun read => (.arr read.1, read.2)
          else if c = '{' then
            match skip rest with
            | '}' :: after => some (.obj [], after)
            -- a repeated key keeps its place and takes the later value
            | inner => (readEntries fuel inner).map fun read => (.obj (assignAll [] read.1), read.2)
          else if c.isDigit || c == '-' then
            (numeral numbers (text.takeWhile numeralChar)).map fun value =>
              (.atom value, text.dropWhile numeralChar)
          else
            match stripText "null".toList text, stripText "true".toList text, stripText "false".toList text with
            | some after, _, _ => some (.null, after)
            | none, some after, _ => some (.bool true, after)
            | none, none, some after => some (.bool false, after)
            | none, none, none => none

def readItems : Nat → List Char → Option (List Json × List Char)
  | 0, _ => none
  | fuel + 1, text =>
      match readJson fuel text with
      | none => none
      | some (item, rest) =>
          match skip rest with
          | ',' :: more => (readItems fuel (skip more)).map fun read => (item :: read.1, read.2)
          | ']' :: after => some ([item], after)
          | _ => none

def readEntries : Nat → List Char → Option (List (String × Json) × List Char)
  | 0, _ => none
  | fuel + 1, text =>
      match text with
      | '"' :: rest =>
          match readText rest with
          | none => none
          | some (key, afterKey) =>
              match skip afterKey with
              | ':' :: behind =>
                  match readJson fuel (skip behind) with
                  | none => none
                  | some (value, afterValue) =>
                      match skip afterValue with
                      | ',' :: more =>
                          (readEntries fuel (skip more)).map fun read => ((key, value) :: read.1, read.2)
                      | '}' :: after => some ([(key, value)], after)
                      | _ => none
              | _ => none
      | _ => none
end

/-- `json.loads`; one step per character is fuel enough. -/
def loads (text : String) : Option Json :=
  match readJson numbers (text.toList.length + 1) (skip text.toList) with
  | some (value, rest) => if skip rest = [] then some value else none
  | none => none

end

variable (layout : Layout)

theorem readChars_backslash (fuel : Nat) (rest after : List Char) (char : Char)
    (escaped : unescape rest = some (char, after)) :
    readChars (fuel + 1) ('\\' :: rest) = (readChars fuel after).map fun read => (char :: read.1, read.2) := by
  simp [readChars, escaped]

variable (c : Char)

theorem unescape_plane (plane : c.toNat < 0x10000) (rest : List Char) :
    unescape ('u' :: (hex4 c.toNat ++ rest)) = some (c, rest) := by
  have valid := c.valid
  simp only [UInt32.isValidChar, Nat.isValidChar] at valid
  have scalar : c.toNat < 0xD800 ∨ 0xE000 ≤ c.toNat := by
    simp only [Char.toNat] at plane ⊢
    omega
  simp only [unescape, if_true, readHex_hex4 c.toNat plane, unitChar, if_pos scalar, Char.ofNat_toNat]

theorem unescape_surrogates (beyond : ¬ c.toNat < 0x10000) (rest : List Char) :
    unescape ('u' :: (hex4 (highSurrogate c) ++ '\\' :: 'u' :: (hex4 (lowSurrogate c) ++ rest))) =
      some (c, rest) := by
  have bound := char_bound c
  have high : highSurrogate c < 0xDC00 ∧ 0xD800 ≤ highSurrogate c := by unfold highSurrogate; omega
  have low : 0xDC00 ≤ lowSurrogate c ∧ lowSurrogate c < 0xE000 := by unfold lowSurrogate; omega
  have surrogate : ¬ (highSurrogate c < 0xD800 ∨ 0xE000 ≤ highSurrogate c) := by omega
  have point : 0x10000 + (highSurrogate c - 0xD800) * 1024 + (lowSurrogate c - 0xDC00) = c.toNat := by
    unfold highSurrogate lowSurrogate
    omega
  simp only [unescape, if_true, readHex_hex4 (highSurrogate c) (by omega), unitChar, if_neg surrogate,
    readHex_hex4 (lowSurrogate c) (by omega), point, Char.ofNat_toNat]
  rw [if_pos ⟨high.1, low⟩]

theorem readChars_escapeChar (fuel : Nat) (rest : List Char) :
    readChars (fuel + 1) (escapeChar c ++ rest) =
      (readChars fuel rest).map fun read => (c :: read.1, read.2) := by
  obtain ⟨short, listed, escaped⟩ | ⟨⟨quote, backslash, -, -, printable⟩, escaped⟩ | ⟨plane, escaped⟩ |
    ⟨plane, escaped⟩ := escapeChar_cases c <;> rw [escaped]
  · have known : ∀ pair ∈ shortEscapes, pair.2 ≠ 'u' ∧ letter pair.2 = some pair.1 := by decide
    obtain ⟨plain, read⟩ := known _ listed
    exact readChars_backslash fuel _ rest c (by simp [unescape, plain, read])
  · simp [readChars, quote, backslash, not_lt.mpr printable.1]
  · exact readChars_backslash fuel _ rest c (unescape_plane c plane rest)
  · have split := readChars_backslash fuel _ rest c (unescape_surrogates c plane rest)
    simpa using split

theorem readChars_escape (fuel : Nat) (rest : List Char) :
    readChars (fuel + 1) (escape layout c ++ rest) =
      (readChars fuel rest).map fun read => (c :: read.1, read.2) := by
  unfold escape
  split_ifs with escaped
  · exact readChars_escapeChar c fuel rest
  · simp only [Bool.or_eq_true, beq_iff_eq, decide_eq_true_eq, not_or] at escaped
    simp [readChars, escaped]

theorem readChars_escaped (text : List Char) (fuel : Nat) (rest : List Char) :
    readChars (fuel + 1 + text.length) (text.flatMap (escape layout) ++ '"' :: rest) = some (text, rest) := by
  induction text with
  | nil => simp [readChars]
  | cons c later ih =>
      rw [List.flatMap_cons, List.append_assoc, List.length_cons, ← Nat.add_assoc, readChars_escape, ih,
        Option.map_some]

theorem escape_ne_nil : escape layout c ≠ [] := by
  unfold escape
  split_ifs
  · obtain ⟨letter, -, escaped⟩ | ⟨-, escaped⟩ | ⟨-, escaped⟩ | ⟨-, escaped⟩ := escapeChar_cases c <;>
      simp [escaped]
  · simp

theorem length_le_escaped (text : List Char) : text.length ≤ (text.flatMap (escape layout)).length := by
  induction text with
  | nil => simp
  | cons c rest ih =>
      have one := List.length_pos_iff.mpr (escape_ne_nil layout c)
      simp only [List.flatMap_cons, List.length_append, List.length_cons]
      omega

theorem readText_encoded (text : String) (rest : List Char) :
    readText (text.toList.flatMap (escape layout) ++ '"' :: rest) = some (text, rest) := by
  have enough := length_le_escaped layout text.toList
  obtain ⟨spare, size⟩ : ∃ spare,
      (text.toList.flatMap (escape layout) ++ '"' :: rest).length + 1 = spare + 1 + text.toList.length :=
    ⟨(text.toList.flatMap (escape layout)).length - text.toList.length + (rest.length + 1), by
      simp only [List.length_append, List.length_cons]
      omega⟩
  rw [readText, size, readChars_escaped, Option.map_some, String.ofList_toList]

/-- What may follow a number for its token to end there. -/
def Ends (rest : List Char) : Prop := ∀ c ∈ rest.head?, numeralChar c = false

theorem ends_cons (rest : List Char) (outside : numeralChar c = false) : Ends (c :: rest) := by
  simpa [Ends] using outside

theorem token_ends (token rest : List Char) (inside : ∀ c ∈ token, numberChar c = true) (ends : Ends rest) :
    (token ++ rest).takeWhile numeralChar = token ∧ (token ++ rest).dropWhile numeralChar = rest := by
  have numerals : ∀ c ∈ token, numeralChar c = true := fun c member => by simp [numeralChar, inside c member]
  rw [List.takeWhile_append_of_pos numerals, List.dropWhile_append_of_pos numerals]
  cases rest with
  | nil => simp
  | cons c later =>
      have outside := ends c rfl
      simp [outside]

theorem skip_cons (rest : List Char) (visible : jsonBlank c = false) : skip (c :: rest) = c :: rest := by
  simp [skip, visible]

def Blanks (blanks : List Char) : Prop := ∀ c ∈ blanks, jsonBlank c = true

theorem Blanks.skip {blanks : List Char} (white : Blanks blanks) (rest : List Char) :
    skip (blanks ++ rest) = skip rest := List.dropWhile_append_of_pos white

theorem Blanks.ends {blanks : List Char} (white : Blanks blanks) {rest : List Char} (ends : Ends rest) :
    Ends (blanks ++ rest) := by
  cases blanks with
  | nil => exact ends
  | cons c later =>
      have blank := white c (by simp)
      refine ends_cons c _ ?_
      simp only [jsonBlank, Bool.or_eq_true, beq_iff_eq] at blank
      rcases blank with ((rfl | rfl) | rfl) | rfl <;> decide

theorem blanks_gap : Blanks (gap layout) := by
  unfold gap
  split <;> simp [Blanks, jsonBlank]

variable (numbers : NumberText JsonFloat)

theorem numeral_visible (digit : (c.isDigit || c == '-') = true) : jsonBlank c = false ∧ c ≠ ']' := by
  have apart (other : Char) (outside : (other.isDigit || other == '-') = false) : c ≠ other := by
    rintro rfl
    rw [digit] at outside
    cases outside
  refine ⟨?_, apart ']' (by decide)⟩
  simp [jsonBlank, apart ' ' (by decide), apart '\t' (by decide), apart '\n' (by decide), apart '\r' (by decide)]

attribute [local simp] encode encodeItems encodeEntries readJson

/-- A text starts with a visible character and not with a bracket that closes a list. -/
def Headed (text : List Char) : Prop :=
  ∃ first more, text = first :: more ∧ jsonBlank first = false ∧ first ≠ ']'

theorem Headed.append {text : List Char} (headed : Headed text) (rest : List Char) : Headed (text ++ rest) := by
  obtain ⟨first, more, rfl, visible, opened⟩ := headed
  exact ⟨first, more ++ rest, rfl, visible, opened⟩

theorem Headed.skip {text : List Char} (headed : Headed text) (rest : List Char) :
    skip (text ++ rest) = text ++ rest := by
  obtain ⟨first, more, rfl, visible, -⟩ := headed
  exact skip_cons first _ visible

variable (value : JsonAtom)

theorem headed_atom : Headed (encodeAtom layout numbers value) := by
  cases value with
  | null => exact ⟨'n', _, rfl, by decide, by decide⟩
  | bool value =>
      cases value with
      | true => exact ⟨'t', _, rfl, by decide, by decide⟩
      | false => exact ⟨'f', _, rfl, by decide, by decide⟩
  | int value =>
      obtain ⟨first, more, split, digit⟩ := integerText_headed value
      exact ⟨first, more, split, numeral_visible first digit⟩
  | float value =>
      obtain ⟨first, more, split, digit⟩ := numbers.headed value
      exact ⟨first, more, split, numeral_visible first digit⟩
  | str text => exact ⟨'"', _, rfl, by decide, by decide⟩

theorem readJson_numeral (fuel : Nat) (first : Char) (more : List Char)
    (digit : (first.isDigit || first == '-') = true) :
    readJson numbers (fuel + 1) (first :: more) =
      (numeral numbers ((first :: more).takeWhile numeralChar)).map fun value =>
        (.atom value, (first :: more).dropWhile numeralChar) := by
  have apart (c : Char) (other : (c.isDigit || c == '-') = false) : first ≠ c := by
    rintro rfl
    exact absurd digit (by simp [other])
  have notQuote := apart '"' (by decide)
  have notBracket := apart '[' (by decide)
  have notBrace := apart '{' (by decide)
  simp only [readJson, notQuote, notBracket, notBrace, digit, if_false, if_true]

theorem readJson_token (token : List Char) (fuel : Nat) (rest : List Char) (ends : Ends rest)
    (headed : ∃ first more, token = first :: more ∧ (first.isDigit || first == '-') = true)
    (inside : ∀ c ∈ token, numberChar c = true) (read : numeral numbers token = some value) :
    readJson numbers (fuel + 1) (token ++ rest) = some (.atom value, rest) := by
  obtain ⟨taken, dropped⟩ := token_ends token rest inside ends
  obtain ⟨first, more, split, digit⟩ := headed
  rw [split, List.cons_append] at taken dropped ⊢
  rw [readJson_numeral numbers fuel first _ digit, taken, dropped, ← split, read]
  rfl

theorem readJson_atom (fuel : Nat) (rest : List Char) (ends : Ends rest) :
    readJson numbers (fuel + 1) (encodeAtom layout numbers value ++ rest) = some (.atom value, rest) := by
  cases value with
  | null => rfl
  | bool value => cases value <;> rfl
  | int value =>
      exact readJson_token numbers (.int value) (integerText value) fuel rest ends (integerText_headed value)
        (integerText_plain value) (by simp [numeral, readInteger_integerText])
  | float value =>
      exact readJson_token numbers (.float value) (numbers.text value) fuel rest ends (numbers.headed value)
        (List.all_eq_true.mp (numbers.plain value)) (by simp [numeral, numbers.fractional, numbers.readBack])
  | str text =>
      have read := readText_encoded layout text rest
      change readJson numbers (fuel + 1) (encodeText layout text ++ rest) = _
      simp only [encodeText, List.cons_append, List.append_assoc, List.nil_append, readJson, if_true]
      rw [read]
      rfl

/-- A text of a document: the reader takes it apart with any text behind it. -/
structure Reads (text : List Char) (tree : Json) : Prop where
  headed : Headed text
  read : ∀ fuel rest, Ends rest → text.length ≤ fuel → readJson numbers fuel (text ++ rest) = some (tree, rest)

theorem reads_atom : Reads numbers (encodeAtom layout numbers value) (.atom value) where
  headed := headed_atom layout numbers value
  read fuel rest ends enough := by
    obtain ⟨first, more, split, -⟩ := headed_atom layout numbers value
    obtain ⟨fuel, rfl⟩ : ∃ less, fuel = less + 1 := ⟨fuel - 1, by rw [split, List.length_cons] at enough; omega⟩
    exact readJson_atom layout numbers value fuel rest ends

theorem reads_nil : Reads numbers ['[', ']'] (.list []) where
  headed := ⟨'[', _, rfl, by decide, by decide⟩
  read fuel rest _ enough := by
    obtain ⟨fuel, rfl⟩ : ∃ less, fuel = less + 1 := ⟨fuel - 1, by simp at enough; omega⟩
    rfl

theorem reads_empty : Reads numbers ['{', '}'] (.dict []) where
  headed := ⟨'{', _, rfl, by decide, by decide⟩
  read fuel rest _ enough := by
    obtain ⟨fuel, rfl⟩ : ∃ less, fuel = less + 1 := ⟨fuel - 1, by simp at enough; omega⟩
    rfl

section

-- how the values inside are written, and the blanks behind an opening bracket, between and in front of the closing one
variable (written : Json → List Char) (opening between closing : List Char)

def itemTexts (items : List Json) : List Char := List.intercalate (',' :: between) (items.map written)

/-- A field: its name, a colon with blanks behind it, and its value. -/
def fieldText (colon : List Char) (entry : String × Json) : List Char :=
  encodeText layout entry.1 ++ ':' :: colon ++ written entry.2

def entryTexts (colon : List Char) (entries : List (String × Json)) : List Char :=
  List.intercalate (',' :: between) (entries.map (fieldText layout written colon))

theorem itemTexts_single (item : Json) : itemTexts written between [item] = written item := by
  simp [itemTexts]

theorem itemTexts_cons (item next : Json) (rest : List Json) : itemTexts written between (item :: next :: rest) =
    written item ++ ',' :: between ++ itemTexts written between (next :: rest) := by
  simp [itemTexts]

theorem entryTexts_single (colon : List Char) (entry : String × Json) :
    entryTexts layout written between colon [entry] = fieldText layout written colon entry := by
  simp [entryTexts]

theorem entryTexts_cons (colon : List Char) (entry next : String × Json) (rest : List (String × Json)) :
    entryTexts layout written between colon (entry :: next :: rest) = fieldText layout written colon entry ++
      ',' :: between ++ entryTexts layout written between colon (next :: rest) := by
  simp [entryTexts]

theorem itemTexts_headed (item : Json) (rest : List Json) (headed : Headed (written item)) :
    Headed (itemTexts written between (item :: rest)) := by
  cases rest with
  | nil => rwa [itemTexts_single]
  | cons next later =>
      rw [itemTexts_cons, List.append_assoc]
      exact headed.append _

theorem entryTexts_head (colon : List Char) (entry : String × Json) (rest : List (String × Json)) :
    ∃ more, entryTexts layout written between colon (entry :: rest) = '"' :: more := by
  cases rest with
  | nil => exact ⟨_, by rw [entryTexts_single, fieldText, encodeText]; rfl⟩
  | cons next later => exact ⟨_, by rw [entryTexts_cons, fieldText, encodeText]; rfl⟩

variable {numbers written opening between closing}

theorem readItems_texts (items : List Json) (reads : ∀ item ∈ items, Reads numbers (written item) item)
    (white : Blanks between) (last : Blanks closing) (fuel : Nat) (rest : List Char) (present : items ≠ [])
    (enough : (itemTexts written between items).length < fuel) :
    readItems numbers fuel (itemTexts written between items ++ (closing ++ ']' :: rest)) = some (items, rest) := by
  induction items generalizing fuel with
  | nil => exact absurd rfl present
  | cons item later ih =>
      obtain ⟨fuel, rfl⟩ : ∃ less, fuel = less + 1 := ⟨fuel - 1, by omega⟩
      have reading := (reads item (by simp)).read fuel
      cases later with
      | nil =>
          rw [itemTexts_single] at enough ⊢
          have head := reading (closing ++ ']' :: rest) (last.ends (ends_cons ']' _ (by decide))) (by omega)
          rw [readItems, head]
          simp [last.skip, skip_cons ']' rest (by decide)]
      | cons next others =>
          rw [itemTexts_cons] at enough ⊢
          simp only [List.length_append, List.length_cons] at enough
          have tail := ih (fun inside member => reads inside (by simp [member])) fuel (by simp) (by omega)
          have head := reading
            (',' :: (between ++ (itemTexts written between (next :: others) ++ (closing ++ ']' :: rest))))
            (ends_cons ',' _ (by decide)) (by omega)
          have ahead := itemTexts_headed written between next others (reads next (by simp)).headed
          simp only [List.append_assoc, List.cons_append] at head ⊢
          rw [readItems, head]
          simp only [skip_cons ',' _ (by decide : jsonBlank ',' = false), white.skip, ahead.skip, tail,
            Option.map_some]

theorem reads_list (items : List Json) (present : items ≠ [])
    (reads : ∀ item ∈ items, Reads numbers (written item) item) (leading : Blanks opening) (white : Blanks between)
    (last : Blanks closing) :
    Reads numbers ('[' :: opening ++ itemTexts written between items ++ closing ++ [']']) (.list items) where
  headed := ⟨'[', _, rfl, by decide, by decide⟩
  read fuel rest _ enough := by
    simp only [List.length_append, List.length_cons, List.length_nil] at enough
    obtain ⟨fuel, rfl⟩ : ∃ less, fuel = less + 1 := ⟨fuel - 1, by omega⟩
    have inside := readItems_texts items reads white last fuel rest present (by omega)
    obtain ⟨item, later, rfl⟩ := List.exists_cons_of_ne_nil present
    have headed := itemTexts_headed written between item later (reads item (by simp)).headed
    simp only [List.append_assoc, List.cons_append, List.nil_append]
    rw [readJson, if_neg (by decide), if_pos rfl, leading.skip, headed.skip]
    obtain ⟨first, more, split, -, opened⟩ := headed
    rw [split, List.cons_append] at inside ⊢
    split
    · next after closed => exact absurd (List.cons.inj closed).1 opened
    · rw [inside]
      rfl

variable {colon : List Char}

theorem readEntries_texts (entries : List (String × Json))
    (reads : ∀ entry ∈ entries, Reads numbers (written entry.2) entry.2) (white : Blanks between)
    (valued : Blanks colon) (last : Blanks closing) (fuel : Nat) (rest : List Char) (present : entries ≠ [])
    (enough : (entryTexts layout written between colon entries).length < fuel) :
    readEntries numbers fuel (entryTexts layout written between colon entries ++ (closing ++ '}' :: rest)) =
      some (entries, rest) := by
  induction entries generalizing fuel with
  | nil => exact absurd rfl present
  | cons entry later ih =>
      obtain ⟨key, value⟩ := entry
      obtain ⟨fuel, rfl⟩ : ∃ less, fuel = less + 1 := ⟨fuel - 1, by omega⟩
      have reading := reads (key, value) (by simp)
      -- the name and the colon are read alike whatever follows the value
      have field (behind : List Char) (ends : Ends behind)
          (small : (fieldText layout written colon (key, value)).length ≤ fuel + 1) :
          readEntries numbers (fuel + 1) (fieldText layout written colon (key, value) ++ behind) =
            match skip behind with
            | ',' :: more =>
                (readEntries numbers fuel (skip more)).map fun read => ((key, value) :: read.1, read.2)
            | '}' :: after => some ([(key, value)], after)
            | _ => none := by
        simp only [fieldText, encodeText, List.length_append, List.length_cons] at small
        have head := reading.read fuel behind ends (by simp only; omega)
        have name := readText_encoded layout key (':' :: (colon ++ (written value ++ behind)))
        simp only [fieldText, encodeText, List.append_assoc, List.cons_append, List.nil_append] at name ⊢
        rw [readEntries, name]
        simp only [skip_cons ':' _ (by decide : jsonBlank ':' = false), valued.skip, reading.headed.skip, head]
      cases later with
      | nil =>
          rw [entryTexts_single] at enough ⊢
          rw [field _ (last.ends (ends_cons '}' _ (by decide))) (by omega)]
          simp [last.skip, skip_cons '}' rest (by decide)]
      | cons next others =>
          rw [entryTexts_cons] at enough ⊢
          simp only [List.length_append, List.length_cons] at enough
          have tail := ih (fun inside member => reads inside (by simp [member])) fuel (by simp) (by omega)
          have ahead : skip (between ++ (entryTexts layout written between colon (next :: others) ++
              (closing ++ '}' :: rest))) =
              entryTexts layout written between colon (next :: others) ++ (closing ++ '}' :: rest) := by
            obtain ⟨more, split⟩ := entryTexts_head layout written between colon next others
            rw [white.skip, split, List.cons_append, skip_cons '"' _ (by decide)]
          simp only [List.append_assoc, List.cons_append]
          rw [field _ (ends_cons ',' _ (by decide)) (by omega)]
          simp only [skip_cons ',' _ (by decide : jsonBlank ',' = false), ahead, tail, Option.map_some]

theorem reads_dict (entries : List (String × Json)) (present : entries ≠ []) (distinct : (keys entries).Nodup)
    (reads : ∀ entry ∈ entries, Reads numbers (written entry.2) entry.2) (leading : Blanks opening)
    (white : Blanks between) (valued : Blanks colon) (last : Blanks closing) :
    Reads numbers ('{' :: opening ++ entryTexts layout written between colon entries ++ closing ++ ['}'])
      (.dict entries) where
  headed := ⟨'{', _, rfl, by decide, by decide⟩
  read fuel rest _ enough := by
    simp only [List.length_append, List.length_cons, List.length_nil] at enough
    obtain ⟨fuel, rfl⟩ : ∃ less, fuel = less + 1 := ⟨fuel - 1, by omega⟩
    have inside := readEntries_texts layout entries reads white valued last fuel rest present (by omega)
    obtain ⟨entry, later, rfl⟩ := List.exists_cons_of_ne_nil present
    obtain ⟨more, split⟩ := entryTexts_head layout written between colon entry later
    simp only [List.append_assoc, List.cons_append, List.nil_append]
    rw [readJson, if_neg (by decide), if_neg (by decide), if_pos rfl, leading.skip]
    rw [split, List.cons_append] at inside ⊢
    rw [skip_cons '"' _ (by decide)]
    split
    · next after closed => exact absurd (List.cons.inj closed).1 (by decide)
    · rw [inside, Option.map_some, assignAll_distinct _ distinct]

end

theorem encodeItems_texts (items : List Json) :
    encodeItems layout numbers items = itemTexts (encode layout numbers) (gap layout) items := by
  induction items with
  | nil => rfl
  | cons item rest ih =>
      cases rest with
      | nil => rw [encodeItems, itemTexts_single]
      | cons next later => rw [encodeItems, itemTexts_cons, ih]

theorem encodeEntries_texts (entries : List (String × Json)) : encodeEntries layout numbers entries =
    entryTexts layout (encode layout numbers) (gap layout) (gap layout) entries := by
  induction entries with
  | nil => rfl
  | cons entry rest ih =>
      cases rest with
      | nil => rw [encodeEntries, entryTexts_single, fieldText]
      | cons next later => rw [encodeEntries, entryTexts_cons, ih, fieldText]

variable {layout numbers}

/-- Documents are read back when no record repeats a key. -/
theorem reads_encode (tree : Json) (distinct : Distinct tree) : Reads numbers (encode layout numbers tree) tree := by
  have tight : Blanks [] := by simp [Blanks]
  have white := blanks_gap layout
  induction tree using DataTree.Tree.induct with
  | atom value => exact reads_atom layout numbers value
  | list items ih =>
      rw [Distinct, distinctItems_iff] at distinct
      by_cases present : items = []
      · subst present
        exact reads_nil numbers
      · have inside := reads_list items present (fun item member => ih item member (distinct item member)) tight white
          tight
        simpa [encodeItems_texts] using inside
  | dict entries ih =>
      rw [distinct_dict_iff] at distinct
      by_cases present : entries = []
      · subst present
        exact reads_empty numbers
      · have inside := reads_dict layout entries present distinct.1
          (fun entry member => ih entry member (distinct.2 entry member)) tight white white tight
        simpa [encodeEntries_texts] using inside

theorem distinct_sortKeys (tree : Json) (distinct : Distinct tree) : Distinct (sortKeys tree) := by
  induction tree using DataTree.Tree.induct with
  | atom value => trivial
  | list items ih =>
      rw [Distinct, distinctItems_iff] at distinct
      rw [sortKeys, Distinct, distinctItems_iff, sortItems_eq_map]
      intro sorted member
      obtain ⟨item, inside, rfl⟩ := List.mem_map.mp member
      exact ih item inside (distinct item inside)
  | dict entries ih =>
      rw [distinct_dict_iff] at distinct
      rw [sortKeys, distinct_dict_iff, sortEntries_eq_map]
      have reordered := (entries.map fun entry => (entry.1, sortKeys entry.2)).perm_insertionSort keyOrder
      constructor
      · rw [(reordered.map Prod.fst).nodup_iff, List.map_map]
        exact distinct.1
      · intro sorted member
        obtain ⟨entry, inside, rfl⟩ := List.mem_map.mp (reordered.mem_iff.mp member)
        exact ih entry inside (distinct.2 entry inside)

variable (numbers)

/-- What `json.loads` makes of the text of a document: the document, with its keys sorted. -/
theorem loads_dumps (layout : Layout) (tree : Json) (distinct : Distinct tree) :
    loads numbers (dumps layout numbers tree) = some (sortKeys tree) := by
  have readsBack : Reads numbers (encode layout numbers (sortKeys tree)) (sortKeys tree) :=
    reads_encode (sortKeys tree) (distinct_sortKeys tree distinct)
  have unspaced := readsBack.headed.skip []
  have read := readsBack.read ((encode layout numbers (sortKeys tree)).length + 1) [] (by simp [Ends]) (by omega)
  rw [List.append_nil] at unspaced read
  rw [loads, dumps, String.toList_ofList, unspaced, read]
  rfl

/-- Looking a key up in a sorted record. -/
theorem get_sorted (entries : List (String × Json)) (distinct : (keys entries).Nodup) (key : String) :
    get ((sortEntries entries).insertionSort keyOrder) key = (get entries key).map sortKeys := by
  have reordered := (sortEntries entries).perm_insertionSort keyOrder
  have sortedKeys : (keys ((sortEntries entries).insertionSort keyOrder)).Nodup := by
    rw [keys, (reordered.map Prod.fst).nodup_iff, sortEntries_eq_map, List.map_map]
    exact distinct
  rw [get_perm sortedKeys reordered, sortEntries_eq_map, get_map_values]

/-- A record read back from its text, field by field. -/
theorem loads_record (layout : Layout) (entries : List (String × Json)) (distinct : Distinct (.dict entries : Json)) :
    ∃ record, loads numbers (dumps layout numbers (.dict entries)) = some (.dict record) ∧
      ∀ key, get record key = (get entries key).map sortKeys := by
  refine ⟨_, by rw [loads_dumps numbers layout _ distinct, sortKeys], fun key => ?_⟩
  exact get_sorted entries ((distinct_dict_iff entries).mp distinct).1 key

theorem dumps_injective (layout : Layout) {left right : Json} (distinctLeft : Distinct left)
    (distinctRight : Distinct right) (same : dumps layout numbers left = dumps layout numbers right) :
    sortKeys left = sortKeys right := by
  have read := loads_dumps numbers layout left distinctLeft
  rw [same, loads_dumps numbers layout right distinctRight] at read
  exact (Option.some.inj read).symm

end AutonomousApi.JsonCodec
