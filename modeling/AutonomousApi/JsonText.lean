import AutonomousApi.JsonValue
import AutonomousApi.PythonLiteral
import Mathlib.Tactic.IntervalCases

/-! The text of `json.dumps(value, indent=2, sort_keys=True)` and its reading by Python's
literal grammar. The two grammars share numbers, lists, records and most escapes; they
differ on `null`, `true` and `false`, and on characters outside the basic plane, which
the encoder writes as two escaped surrogates. -/

namespace AutonomousApi.JsonText

open DataTree JsonValue PythonLiteral

section

def hexDigit (digit : Nat) : Char :=
  if digit < 10 then Char.ofNat (48 + digit) else Char.ofNat (87 + digit)

def hex4 (value : Nat) : List Char :=
  [hexDigit (value / 4096 % 16), hexDigit (value / 256 % 16), hexDigit (value / 16 % 16),
    hexDigit (value % 16)]

def highSurrogate (c : Char) : Nat := 0xD800 + (c.toNat - 0x10000) / 1024

def lowSurrogate (c : Char) : Nat := 0xDC00 + (c.toNat - 0x10000) % 1024

def escapeChar (c : Char) : List Char :=
  if c = '"' then ['\\', '"']
  else if c = '\\' then ['\\', '\\']
  else if c = '\n' then ['\\', 'n']
  else if c = '\r' then ['\\', 'r']
  else if c = '\t' then ['\\', 't']
  else if c = '\x0c' then ['\\', 'f']
  else if c = '\x08' then ['\\', 'b']
  else if ' ' ≤ c ∧ c ≤ '~' then [c]
  else if c.toNat < 0x10000 then '\\' :: 'u' :: hex4 c.toNat
  else '\\' :: 'u' :: hex4 (highSurrogate c) ++ '\\' :: 'u' :: hex4 (lowSurrogate c)

def encodeString (text : String) : List Char := '"' :: text.toList.flatMap escapeChar ++ ['"']

def newline (level : Nat) : List Char := '\n' :: List.replicate (2 * level) ' '

variable (numbers : NumberText JsonFloat)

def encodeAtom : JsonAtom → List Char
  | .null => "null".toList
  | .bool true => "true".toList
  | .bool false => "false".toList
  | .int value => integerText value
  | .float value => numbers.text value
  | .str value => encodeString value

mutual
def encode (level : Nat) : Json → List Char
  | .atom value => encodeAtom numbers value
  | .list [] => ['[', ']']
  | .list (item :: rest) =>
      '[' :: newline (level + 1) ++ encodeItems (level + 1) (item :: rest) ++ newline level ++ [']']
  | .dict [] => ['{', '}']
  | .dict (entry :: rest) =>
      '{' :: newline (level + 1) ++ encodeEntries (level + 1) (entry :: rest) ++ newline level ++ ['}']

def encodeItems (level : Nat) : List Json → List Char
  | [] => []
  | [item] => encode level item
  | item :: next :: rest => encode level item ++ ',' :: newline level ++ encodeItems level (next :: rest)

def encodeEntries (level : Nat) : List (String × Json) → List Char
  | [] => []
  | [(key, value)] => encodeString key ++ ':' :: ' ' :: encode level value
  | (key, value) :: next :: rest =>
      encodeString key ++ ':' :: ' ' :: encode level value ++ ',' :: newline level ++
        encodeEntries level (next :: rest)
end

def dumps (value : Json) : List Char := encode numbers 0 (sortKeys value)

end

section

/-- The code points Python reads for an escaped character. -/
def readPoints (c : Char) : List Nat :=
  if c.toNat < 0x10000 then [c.toNat] else [highSurrogate c, lowSurrogate c]

def textPoints (text : String) : List Nat := text.toList.flatMap readPoints

def literalAtom : JsonAtom → Option (LiteralAtom JsonFloat)
  | .null => none
  | .bool _ => none
  | .int value => some (.int value)
  | .float value => some (.number value)
  | .str value => some (.str (textPoints value))

mutual
/-- What Python reads from the text of a document, if it can be read. -/
def literalOf : Json → Option (LiteralValue JsonFloat)
  | .atom value => (literalAtom value).map .atom
  | .list items => (literalItems items).map .list
  | .dict entries => (literalEntries entries).map .dict

def literalItems : List Json → Option (List (LiteralValue JsonFloat))
  | [] => some []
  | item :: rest =>
      match literalOf item, literalItems rest with
      | some value, some values => some (value :: values)
      | _, _ => none

def literalEntries : List (String × Json) → Option (List (List Nat × LiteralValue JsonFloat))
  | [] => some []
  | (key, value) :: rest =>
      match literalOf value, literalEntries rest with
      | some value, some values => some ((textPoints key, value) :: values)
      | _, _ => none
end

/-- The Python value that a document is. -/
def pythonAtom : JsonAtom → LiteralAtom JsonFloat
  | .null => .none
  | .bool value => .bool value
  | .int value => .int value
  | .float value => .number value
  | .str value => .str (codePoints value.toList)

mutual
def pythonValue : Json → LiteralValue JsonFloat
  | .atom value => .atom (pythonAtom value)
  | .list items => .list (pythonItems items)
  | .dict entries => .dict (pythonEntries entries)

def pythonItems : List Json → List (LiteralValue JsonFloat)
  | [] => []
  | item :: rest => pythonValue item :: pythonItems rest

def pythonEntries : List (String × Json) → List (List Nat × LiteralValue JsonFloat)
  | [] => []
  | (key, value) :: rest => (codePoints key.toList, pythonValue value) :: pythonEntries rest
end

/-- Only characters of the basic plane. -/
def basic (text : String) : Bool := text.toList.all fun c => c.toNat < 0x10000

def shared : JsonAtom → Bool
  | .null => false
  | .bool _ => false
  | .str value => basic value
  | _ => true

mutual
/-- The documents on which the two grammars agree: no null or boolean, and no character
outside the basic plane in a text or a key. -/
def readable : Json → Bool
  | .atom value => shared value
  | .list items => readableItems items
  | .dict entries => readableEntries entries

def readableItems : List Json → Bool
  | [] => true
  | item :: rest => readable item && readableItems rest

def readableEntries : List (String × Json) → Bool
  | [] => true
  | (key, value) :: rest => basic key && readable value && readableEntries rest
end

attribute [local simp] literalOf literalItems pythonValue pythonItems pythonEntries

attribute [local simp] readable readableItems readableEntries

theorem char_bound (c : Char) : c.toNat < 0x110000 := by
  have valid := c.valid
  simp only [UInt32.isValidChar, Nat.isValidChar] at valid
  simp only [Char.toNat]
  omega

theorem textPoints_of_basic (text : String) (plain : basic text = true) :
    textPoints text = codePoints text.toList := by
  rw [basic, List.all_eq_true] at plain
  calc textPoints text = text.toList.flatMap fun c => [c.toNat] :=
        List.flatMap_congr fun c member => by
          simp [readPoints, show c.toNat < 0x10000 by simpa using plain c member]
    _ = codePoints text.toList := List.map_eq_flatMap.symm

/-- No character is a surrogate, so two surrogates are never the points of a text. -/
theorem basic_of_textPoints (text other : String) (same : textPoints text = codePoints other.toList) :
    basic text = true := by
  rw [basic, List.all_eq_true]
  intro c member
  rw [decide_eq_true_eq]
  by_contra plane
  have surrogate : highSurrogate c ∈ textPoints text :=
    List.mem_flatMap.mpr ⟨c, member, by simp [readPoints, plane]⟩
  rw [same, codePoints, List.mem_map] at surrogate
  obtain ⟨character, -, equal⟩ := surrogate
  have bound := char_bound c
  have valid := character.valid
  simp only [UInt32.isValidChar, Nat.isValidChar] at valid
  simp only [highSurrogate, Char.toNat] at equal bound plane
  omega

theorem literalOf_of_readable (value : Json) (plain : readable value = true) :
    literalOf value = some (pythonValue value) := by
  induction value using DataTree.Tree.induct with
  | atom value =>
      cases value with
      | null => cases plain
      | bool value => cases plain
      | int value => rfl
      | float value => rfl
      | str text =>
          rw [literalOf, literalAtom, textPoints_of_basic text plain]
          rfl
  | list items ih =>
      have all : literalItems items = some (pythonItems items) := by
        rw [readable] at plain
        induction items with
        | nil => rfl
        | cons item rest tail =>
            rw [readableItems, Bool.and_eq_true] at plain
            have head := ih item (by simp) plain.1
            have later := tail (fun inner member => ih inner (by simp [member])) plain.2
            rw [literalItems, head, later, pythonItems]
      rw [literalOf, all, pythonValue]
      rfl
  | dict entries ih =>
      have all : literalEntries entries = some (pythonEntries entries) := by
        rw [readable] at plain
        induction entries with
        | nil => rfl
        | cons entry rest tail =>
            obtain ⟨key, value⟩ := entry
            rw [readableEntries, Bool.and_eq_true, Bool.and_eq_true] at plain
            have head := ih (key, value) (by simp) plain.1.2
            have later := tail (fun inner member => ih inner (by simp [member])) plain.2
            rw [literalEntries, head, later, textPoints_of_basic key plain.1.1, pythonEntries]
      rw [literalOf, all, pythonValue]
      rfl

theorem mem_pythonEntries (entries : List (String × Json)) (key : List Nat) (value : LiteralValue JsonFloat) :
    (key, value) ∈ pythonEntries entries ↔
      ∃ entry ∈ entries, codePoints entry.1.toList = key ∧ pythonValue entry.2 = value := by
  induction entries with
  | nil => simp
  | cons entry rest ih =>
      rw [pythonEntries, List.mem_cons, ih, Prod.mk.injEq]
      simp [eq_comm]

/-- A document whose text reads as some document, as a map, is readable. -/
theorem readable_of_sameMap (value : Json) (literal : LiteralValue JsonFloat)
    (read : literalOf value = some literal) (original : Json)
    (same : SameMap literal (pythonValue original)) : readable value = true := by
  induction value using DataTree.Tree.induct generalizing literal original with
  | atom value =>
      cases value with
      | null => cases read
      | bool value => cases read
      | int value => rfl
      | float value => rfl
      | str text =>
          obtain rfl : .atom (.str (textPoints text)) = literal := by simpa [literalAtom] using read
          cases original with
          | list items => simp [SameMap] at same
          | dict entries => simp [SameMap] at same
          | atom other =>
              cases other with
              | str other =>
                  exact basic_of_textPoints text other (by simpa [pythonAtom, SameMap] using same)
              | _ => simp [pythonAtom, SameMap] at same
  | list items ih =>
      obtain ⟨literals, found, rfl⟩ : ∃ literals, literalItems items = some literals ∧ .list literals = literal := by
        simpa using read
      cases original with
      | atom value => simp [SameMap] at same
      | dict entries => simp [SameMap] at same
      | list others =>
          rw [pythonValue, SameMap] at same
          rw [readable]
          clear read
          induction items generalizing literals others with
          | nil => rfl
          | cons item rest tail =>
              rw [literalItems] at found
              cases head : literalOf item with
              | none => simp [head] at found
              | some first =>
                  cases later : literalItems rest with
                  | none => simp [head, later] at found
                  | some remaining =>
                      obtain rfl : first :: remaining = literals := by simpa [head, later] using found
                      cases others with
                      | nil => simp [SameItems] at same
                      | cons other otherRest =>
                          rw [pythonItems, SameItems] at same
                          have plain := ih item (by simp) first head other same.1
                          have plains := tail (fun inner member => ih inner (by simp [member])) remaining later
                            otherRest same.2
                          rw [readableItems, plain, plains]
                          rfl
  | dict entries ih =>
      obtain ⟨literals, found, rfl⟩ : ∃ literals, literalEntries entries = some literals ∧
          .dict literals = literal := by
        simpa using read
      cases original with
      | atom value => simp [SameMap] at same
      | list items => simp [SameMap] at same
      | dict others =>
          rw [pythonValue, SameMap, sameEntries_iff] at same
          have matched := same.2
          rw [readable]
          clear read same
          induction entries generalizing literals with
          | nil => rfl
          | cons entry rest tail =>
              obtain ⟨key, value⟩ := entry
              rw [literalEntries] at found
              cases head : literalOf value with
              | none => simp [head] at found
              | some first =>
                  cases later : literalEntries rest with
                  | none => simp [head, later] at found
                  | some remaining =>
                      obtain rfl : (textPoints key, first) :: remaining = literals := by
                        simpa [head, later] using found
                      obtain ⟨other, listed, equal⟩ := matched _ List.mem_cons_self
                      obtain ⟨origin, -, name, rfl⟩ := (mem_pythonEntries others _ _).mp listed
                      have plain := ih (key, value) (by simp) first head origin.2 equal
                      have plains := tail (fun inner member => ih inner (by simp [member])) remaining later
                        (fun inner member => matched inner (by simp [member]))
                      rw [readableEntries, basic_of_textPoints key origin.1 name.symm, plain, plains]
                      rfl

theorem readableItems_iff (items : List Json) :
    readableItems items = true ↔ ∀ item ∈ items, readable item = true := by
  induction items with
  | nil => simp
  | cons item rest ih => simp [ih]

theorem readableEntries_iff (entries : List (String × Json)) :
    readableEntries entries = true ↔ ∀ entry ∈ entries, basic entry.1 = true ∧ readable entry.2 = true := by
  induction entries with
  | nil => simp
  | cons entry rest ih => simp [ih, and_assoc]

theorem readable_sortKeys (value : Json) : readable (sortKeys value) = readable value := by
  rw [Bool.eq_iff_iff]
  induction value using DataTree.Tree.induct with
  | atom value => rfl
  | list items ih =>
      rw [sortKeys, readable, readable, readableItems_iff, readableItems_iff, sortItems_eq_map]
      simp only [List.forall_mem_map]
      exact forall₂_congr ih
  | dict entries ih =>
      rw [sortKeys, readable, readable, readableEntries_iff, readableEntries_iff, sortEntries_eq_map]
      simp only [List.mem_insertionSort, List.forall_mem_map]
      exact forall₂_congr fun entry member => and_congr_right' (ih entry member)

theorem pythonValue_sortKeys (value : Json) : SameMap (pythonValue (sortKeys value)) (pythonValue value) := by
  induction value using DataTree.Tree.induct with
  | atom value => rfl
  | list items ih =>
      rw [sortKeys, pythonValue, pythonValue, SameMap, sortItems_eq_map]
      induction items with
      | nil => trivial
      | cons item rest tail =>
          rw [List.map_cons, pythonItems, pythonItems, SameItems]
          exact ⟨ih item (by simp), tail fun inner member => ih inner (by simp [member])⟩
  | dict entries ih =>
      have size (some : List (String × Json)) : (pythonEntries some).length = some.length := by
        induction some with
        | nil => rfl
        | cons entry rest tail => rw [pythonEntries, List.length_cons, tail, List.length_cons]
      rw [sortKeys, pythonValue, pythonValue, SameMap, sameEntries_iff, sortEntries_eq_map]
      refine ⟨by simp [size], ?_⟩
      rintro ⟨key, value⟩ member
      obtain ⟨sorted, listed, rfl, rfl⟩ := (mem_pythonEntries _ _ _).mp member
      obtain ⟨entry, inside, rfl⟩ := List.mem_map.mp ((List.mem_insertionSort keyOrder).mp listed)
      exact ⟨_, (mem_pythonEntries _ _ _).mpr ⟨entry, inside, rfl, rfl⟩, ih entry inside⟩

end

section

variable (named : List Char → Option Nat)

/-- The characters that an escape abbreviates, with the letters that stand for them. -/
def shortEscapes : List (Char × Char) :=
  [('"', '"'), ('\\', '\\'), ('\n', 'n'), ('\r', 'r'), ('\t', 't'), ('\x0c', 'f'), ('\x08', 'b')]

/-- The texts of a character. -/
theorem escapeChar_cases (c : Char) :
    (∃ letter, (c, letter) ∈ shortEscapes ∧ escapeChar c = ['\\', letter]) ∨
      (c ≠ '"' ∧ c ≠ '\\' ∧ c ≠ '\n' ∧ c ≠ '\r' ∧ ' ' ≤ c ∧ c ≤ '~') ∧ escapeChar c = [c] ∨
      c.toNat < 0x10000 ∧ escapeChar c = '\\' :: 'u' :: hex4 c.toNat ∨
      ¬ c.toNat < 0x10000 ∧
        escapeChar c = '\\' :: 'u' :: hex4 (highSurrogate c) ++ '\\' :: 'u' :: hex4 (lowSurrogate c) := by
  by_cases short : ∃ pair ∈ shortEscapes, pair.1 = c
  · obtain ⟨⟨_, letter⟩, listed, rfl⟩ := short
    have escaped : ∀ pair ∈ shortEscapes, escapeChar pair.1 = ['\\', pair.2] := by
      simp [shortEscapes, escapeChar]
    exact .inl ⟨letter, listed, escaped _ listed⟩
  · have apart : c ≠ '"' ∧ c ≠ '\\' ∧ c ≠ '\n' ∧ c ≠ '\r' ∧ c ≠ '\t' ∧ c ≠ '\x0c' ∧ c ≠ '\x08' := by
      simpa [shortEscapes, eq_comm] using short
    obtain ⟨quote, backslash, line, carriage, tab, form, back⟩ := apart
    rw [escapeChar, if_neg quote, if_neg backslash, if_neg line, if_neg carriage, if_neg tab, if_neg form, if_neg back]
    by_cases printable : ' ' ≤ c ∧ c ≤ '~'
    · exact .inr (.inl ⟨⟨quote, backslash, line, carriage, printable⟩, if_pos printable⟩)
    · rw [if_neg printable]
      by_cases plane : c.toNat < 0x10000
      · exact .inr (.inr (.inl ⟨plane, if_pos plane⟩))
      · exact .inr (.inr (.inr ⟨plane, if_neg plane⟩))

theorem hexValue_hexDigit (digit : Nat) (small : digit < 16) :
    hexValue (hexDigit digit) = some digit := by
  interval_cases digit <;> decide

theorem readHex_hex4 (value : Nat) (small : value < 0x10000) (rest : List Char) :
    readHex 4 0 (hex4 value ++ rest) = some (value, rest) := by
  have digit (part : Nat) : hexValue (hexDigit (part % 16)) = some (part % 16) :=
    hexValue_hexDigit _ (by omega)
  simp only [hex4, List.cons_append, List.nil_append, readHex, digit, Option.some.injEq, Prod.mk.injEq,
    and_true]
  omega

theorem readEscape_hex4 (value : Nat) (small : value < 0x10000) (rest : List Char) :
    readEscape named ('u' :: (hex4 value ++ rest)) = some ([value], rest) := by
  simp [readEscape, letterEscape, readHex_hex4 value small]

theorem readString_backslash (fuel : Nat) (rest after : List Char) (points : List Nat)
    (escape : readEscape named rest = some (points, after)) :
    readString named doubleQuoted (fuel + 1) ('\\' :: rest) =
      (readString named doubleQuoted fuel after).map fun read => (points ++ read.1, read.2) := by
  simp [readString, closes, doubleQuoted, escape]

/-- An escaped character is read as its code points, one step for each of them. -/
theorem readString_escapeChar (c : Char) (fuel : Nat) (rest : List Char) :
    readString named doubleQuoted (fuel + (readPoints c).length) (escapeChar c ++ rest) =
      (readString named doubleQuoted fuel rest).map fun read => (readPoints c ++ read.1, read.2) := by
  have bound := char_bound c
  have lone (plane : c.toNat < 0x10000) : readPoints c = [c.toNat] := if_pos plane
  -- only a character that needs surrogates takes two steps
  obtain ⟨letter, short, escaped⟩ | ⟨⟨quote, backslash, line, carriage, printable⟩, escaped⟩ |
    ⟨plane, escaped⟩ | ⟨plane, escaped⟩ := escapeChar_cases c <;> rw [escaped]
  · have known : ∀ pair ∈ shortEscapes, pair.1.toNat < 0x10000 ∧ letterEscape pair.2 = some pair.1.toNat := by decide
    obtain ⟨plane, letter⟩ := known _ short
    rw [lone plane]
    exact readString_backslash named fuel _ rest [c.toNat] (by simp [readEscape, letter])
  · have plane : c.toNat < 0x10000 := by
      have upper : c.toNat ≤ 126 := printable.2
      omega
    have present : c ≠ '\x00' := by
      rintro rfl
      exact absurd printable.1 (by decide)
    simp [readString, readPlain, closes, doubleQuoted, lone plane, quote, backslash, line, carriage, present]
  · rw [lone plane]
    exact readString_backslash named fuel _ rest [c.toNat] (readEscape_hex4 named c.toNat plane rest)
  · have points : readPoints c = [highSurrogate c, lowSurrogate c] := if_neg plane
    have high : highSurrogate c < 0x10000 := by unfold highSurrogate; omega
    have low : lowSurrogate c < 0x10000 := by unfold lowSurrogate; omega
    rw [points]
    have first := readString_backslash named (fuel + 1) _ _ [highSurrogate c]
      (readEscape_hex4 named (highSurrogate c) high ('\\' :: 'u' :: (hex4 (lowSurrogate c) ++ rest)))
    have second := readString_backslash named fuel _ _ [lowSurrogate c]
      (readEscape_hex4 named (lowSurrogate c) low rest)
    rw [second] at first
    simpa [Function.comp_def] using first

theorem readString_escaped (text : List Char) (fuel : Nat) (rest : List Char) :
    readString named doubleQuoted (fuel + 1 + (text.flatMap readPoints).length)
        (text.flatMap escapeChar ++ '"' :: rest) =
      some (text.flatMap readPoints, rest) := by
  induction text with
  | nil => simp [readString, closes, doubleQuoted]
  | cons c later ih =>
      have step := readString_escapeChar named c (fuel + 1 + (later.flatMap readPoints).length)
        (later.flatMap escapeChar ++ '"' :: rest)
      rw [ih, Option.map_some] at step
      rw [List.flatMap_cons, List.flatMap_cons, List.append_assoc, ← step, List.length_append]
      congr 1
      omega

theorem points_le_escaped (text : List Char) :
    (text.flatMap readPoints).length ≤ (text.flatMap escapeChar).length := by
  induction text with
  | nil => simp
  | cons c rest ih =>
      have one : (readPoints c).length ≤ (escapeChar c).length := by
        obtain ⟨letter, -, escaped⟩ | ⟨⟨-, -, -, -, printable⟩, escaped⟩ | ⟨plane, escaped⟩ | ⟨plane, escaped⟩ :=
          escapeChar_cases c
        · rw [escaped]
          unfold readPoints
          split <;> simp
        · have plane : c.toNat < 0x10000 := lt_of_le_of_lt (show c.toNat ≤ 126 from printable.2) (by decide)
          simp [readPoints, plane, escaped]
        · simp [readPoints, plane, escaped]
        · simp [readPoints, plane, escaped, hex4]
      simp only [List.flatMap_cons, List.length_append]
      omega

theorem stringLiteral_escaped (text : List Char) (rest : List Char) :
    stringLiteral named doubleQuoted (text.flatMap escapeChar ++ '"' :: rest) =
      some (text.flatMap readPoints, rest) := by
  have enough := points_le_escaped text
  obtain ⟨spare, size⟩ : ∃ spare, (text.flatMap escapeChar ++ '"' :: rest).length + 1 =
      spare + 1 + (text.flatMap readPoints).length :=
    ⟨(text.flatMap escapeChar).length - (text.flatMap readPoints).length + (rest.length + 1), by
      simp only [List.length_append, List.length_cons]
      omega⟩
  rw [stringLiteral, size]
  exact readString_escaped named text spare rest

/-- What may follow a number for its text to end there. -/
def Stopped (rest : List Char) : Prop := ∀ c ∈ rest.head?, numberChar c = false

theorem takeWhile_stopped (token rest : List Char) (inside : ∀ c ∈ token, numberChar c = true)
    (stopped : Stopped rest) :
    (token ++ rest).takeWhile numberChar = token ∧ (token ++ rest).dropWhile numberChar = rest := by
  rw [List.takeWhile_append_of_pos inside, List.dropWhile_append_of_pos inside]
  cases rest with
  | nil => simp
  | cons c later =>
      have outside : numberChar c = false := stopped c (by simp)
      simp [outside]

theorem readNatural_toDigits (value : Nat) : readNatural (Nat.toDigits 10 value) = some value := by
  have digits : (Nat.toDigits 10 value).all Char.isDigit = true :=
    List.all_eq_true.mpr fun c member => Nat.isDigit_of_mem_toDigits (by decide) (by decide) member
  rw [readNatural, if_pos ⟨Nat.toDigits_ne_nil, digits⟩, Nat.ofDigitChars_toDigits (by decide) (by decide)]

theorem toDigits_headed (value : Nat) :
    ∃ first rest, Nat.toDigits 10 value = first :: rest ∧ first.isDigit = true := by
  obtain ⟨first, rest, split⟩ := List.exists_cons_of_ne_nil (Nat.toDigits_ne_nil (b := 10) (n := value))
  refine ⟨first, rest, split, Nat.isDigit_of_mem_toDigits (b := 10) (n := value) (by decide) (by decide) ?_⟩
  simp [split]

theorem readInteger_integerText (value : Int) : readInteger (integerText value) = some value := by
  cases value with
  | negSucc value =>
      rw [integerText, readInteger, readNatural_toDigits]
      rfl
  | ofNat value =>
      obtain ⟨first, rest, split, digit⟩ := toDigits_headed value
      have read := readNatural_toDigits value
      rw [integerText]
      rw [split] at read ⊢
      have unsigned : first ≠ '-' := by
        rintro rfl
        exact absurd digit (by decide)
      simp [readInteger, unsigned, read]

theorem integerText_chars (value : Int) : ∀ c ∈ integerText value, (c.isDigit || c == '-') = true := by
  have digits (number : Nat) : ∀ c ∈ Nat.toDigits 10 number, (c.isDigit || c == '-') = true :=
    fun c member => by
      have digit := Nat.isDigit_of_mem_toDigits (b := 10) (by decide) (by decide) member
      simp [digit]
  cases value with
  | ofNat value => exact digits value
  | negSucc value =>
      intro c member
      rcases List.mem_cons.mp member with rfl | inside
      · decide
      · exact digits _ c inside

theorem integerText_plain (value : Int) : ∀ c ∈ integerText value, numberChar c = true := by
  intro c member
  rcases Bool.or_eq_true _ _ ▸ integerText_chars value c member with digit | sign
  · simp [numberChar, digit]
  · simp [numberChar, sign]

theorem integerText_headed (value : Int) :
    ∃ first rest, integerText value = first :: rest ∧ (first.isDigit || first == '-') = true := by
  cases value with
  | ofNat value =>
      obtain ⟨first, rest, split, digit⟩ := toDigits_headed value
      exact ⟨first, rest, split, by simp [digit]⟩
  | negSucc value => exact ⟨'-', _, rfl, by decide⟩

variable {Number : Type} (numbers : NumberText Number)

theorem readNumber_integerText (value : Int) (rest : List Char) (stopped : Stopped rest) :
    readNumber numbers (integerText value ++ rest) = some (.int value, rest) := by
  obtain ⟨token, after⟩ := takeWhile_stopped (integerText value) rest (integerText_plain value) stopped
  simp only [readNumber, token, after, readInteger_integerText]

theorem readNumber_text (value : Number) (rest : List Char) (stopped : Stopped rest) :
    readNumber numbers (numbers.text value ++ rest) = some (.number value, rest) := by
  obtain ⟨token, after⟩ := takeWhile_stopped (numbers.text value) rest
    (List.all_eq_true.mp (numbers.plain value)) stopped
  simp only [readNumber, token, after, numbers.fractional, numbers.readBack, Option.map_some]

end

section

variable (named : List Char → Option Nat) (numbers : NumberText JsonFloat)

theorem skipBlank_newline (level : Nat) (rest : List Char) :
    skipBlank (newline level ++ rest) = skipBlank rest := by
  have blanks : ∀ c ∈ newline level, blank c = true := by
    intro c member
    rcases List.mem_cons.mp member with rfl | spaces
    · decide
    · rw [(List.mem_replicate.mp spaces).2]
      decide
  exact List.dropWhile_append_of_pos blanks

theorem skipBlank_cons (c : Char) (rest : List Char) (visible : blank c = false) :
    skipBlank (c :: rest) = c :: rest := by simp [skipBlank, visible]

theorem newline_stopped (level : Nat) (rest : List Char) : Stopped (newline level ++ rest) := by
  intro c first
  obtain rfl : '\n' = c := by simpa [newline] using first
  decide

theorem cons_stopped (c : Char) (rest : List Char) (outside : numberChar c = false) :
    Stopped (c :: rest) := by simpa [Stopped] using outside

theorem numeral_visible (c : Char) (numeral : (c.isDigit || c == '-') = true) :
    blank c = false ∧ c ≠ ']' := by
  refine ⟨Bool.eq_false_iff.mpr ?_, ?_⟩
  · intro white
    rcases Bool.or_eq_true _ _ ▸ white with space | line
    · exact absurd (beq_iff_eq.mp space ▸ numeral) (by decide)
    · exact absurd (beq_iff_eq.mp line ▸ numeral) (by decide)
  · rintro rfl
    exact absurd numeral (by decide)

attribute [local simp] encode encodeItems encodeEntries readValue

/-- The text of a document starts with a visible character and never with a bracket
that closes a list. -/
theorem encode_head (level : Nat) (tree : Json) :
    ∃ first more, encode numbers level tree = first :: more ∧ blank first = false ∧ first ≠ ']' := by
  cases tree with
  | atom value =>
      cases value with
      | null => exact ⟨'n', _, by rw [encode]; rfl, by decide, by decide⟩
      | bool value =>
          cases value with
          | true => exact ⟨'t', _, by rw [encode]; rfl, by decide, by decide⟩
          | false => exact ⟨'f', _, by rw [encode]; rfl, by decide, by decide⟩
      | int value =>
          obtain ⟨first, more, split, numeral⟩ := integerText_headed value
          exact ⟨first, more, by rw [encode]; exact split, numeral_visible first numeral⟩
      | float value =>
          obtain ⟨first, more, split, numeral⟩ := numbers.headed value
          exact ⟨first, more, by rw [encode]; exact split, numeral_visible first numeral⟩
      | str text => exact ⟨'"', _, by rw [encode]; rfl, by decide, by decide⟩
  | list items =>
      cases items with
      | nil => exact ⟨'[', _, by rw [encode], by decide, by decide⟩
      | cons item rest => exact ⟨'[', _, by rw [encode]; rfl, by decide, by decide⟩
  | dict entries =>
      cases entries with
      | nil => exact ⟨'{', _, by rw [encode], by decide, by decide⟩
      | cons entry rest => exact ⟨'{', _, by rw [encode]; rfl, by decide, by decide⟩

theorem encodeItems_head (level : Nat) (item : Json) (rest : List Json) :
    ∃ first more, encodeItems numbers level (item :: rest) = first :: more ∧ blank first = false ∧
      first ≠ ']' := by
  obtain ⟨first, more, split, visible, opened⟩ := encode_head numbers level item
  cases rest with
  | nil => exact ⟨first, more, by rw [encodeItems, split], visible, opened⟩
  | cons next later => exact ⟨first, _, by rw [encodeItems, split]; rfl, visible, opened⟩

theorem encodeEntries_head (level : Nat) (entry : String × Json) (rest : List (String × Json)) :
    ∃ more, encodeEntries numbers level (entry :: rest) = '"' :: more := by
  cases rest <;> exact ⟨_, by rw [encodeEntries, encodeString]; rfl⟩

theorem readValue_numeral (fuel : Nat) (first : Char) (more : List Char)
    (numeral : (first.isDigit || first == '-') = true) :
    readValue named numbers (fuel + 1) (first :: more) =
      (readNumber numbers (first :: more)).map fun read => (.atom read.1, read.2) := by
  have apart (c : Char) (other : (c.isDigit || c == '-') = false) : first ≠ c := by
    rintro rfl
    exact absurd numeral (by simp [other])
  have notQuote := apart '"' (by decide)
  have notBracket := apart '[' (by decide)
  have notBrace := apart '{' (by decide)
  simp only [readValue, notQuote, notBracket, notBrace, numeral, if_false, if_true]

theorem readValue_atom (value : JsonAtom) (fuel : Nat) (rest : List Char) (stopped : Stopped rest) :
    readValue named numbers (fuel + 1) (encodeAtom numbers value ++ rest) =
      (literalAtom value).map fun read => (.atom read, rest) := by
  cases value with
  | null => rfl
  | bool value => cases value <;> rfl
  | int value =>
      have read := readNumber_integerText numbers value rest stopped
      obtain ⟨first, more, split, numeral⟩ := integerText_headed value
      change readValue named numbers (fuel + 1) (integerText value ++ rest) = _
      rw [split, List.cons_append] at read ⊢
      rw [readValue_numeral named numbers fuel first _ numeral, read]
      rfl
  | float value =>
      have read := readNumber_text numbers value rest stopped
      obtain ⟨first, more, split, numeral⟩ := numbers.headed value
      change readValue named numbers (fuel + 1) (numbers.text value ++ rest) = _
      rw [split, List.cons_append] at read ⊢
      rw [readValue_numeral named numbers fuel first _ numeral, read]
      rfl
  | str text =>
      have read := stringLiteral_escaped named text.toList rest
      change readValue named numbers (fuel + 1) (encodeString text ++ rest) = _
      simp only [encodeString, List.cons_append, List.append_assoc, List.nil_append, readValue, if_true]
      rw [read]
      rfl

/-- The reader takes the text of a tree apart at every level and with any text behind it. -/
def ReadsBack (tree : Json) : Prop :=
  ∀ level fuel rest, Stopped rest → (encode numbers level tree).length ≤ fuel →
    readValue named numbers fuel (encode numbers level tree ++ rest) =
      (literalOf tree).map fun read => (read, rest)

theorem readItems_encodeItems (items : List Json) (readsBack : ∀ item ∈ items, ReadsBack named numbers item)
    (inner outer fuel : Nat) (rest : List Char) (present : items ≠ [])
    (enough : (encodeItems numbers inner items).length < fuel) :
    readItems named numbers fuel (encodeItems numbers inner items ++ (newline outer ++ ']' :: rest)) =
      (literalItems items).map fun read => (read, rest) := by
  induction items generalizing fuel with
  | nil => exact absurd rfl present
  | cons item later ih =>
      obtain ⟨fuel, rfl⟩ : ∃ less, fuel = less + 1 := ⟨fuel - 1, by omega⟩
      cases later with
      | nil =>
          rw [encodeItems] at enough ⊢
          have head := readsBack item (by simp) inner fuel (newline outer ++ ']' :: rest)
            (newline_stopped outer _) (by omega)
          rw [readItems, head]
          cases found : literalOf item with
          | none => simp [literalItems, found]
          | some value =>
              simp [literalItems, found, skipBlank_newline, skipBlank_cons ']' rest (by decide)]
      | cons next others =>
          rw [encodeItems] at enough ⊢
          simp only [List.length_append, List.length_cons] at enough
          obtain ⟨first, more, split, visible, -⟩ := encodeItems_head numbers inner next others
          have tail := ih (fun inside member => readsBack inside (by simp [member])) fuel (by simp) (by omega)
          have head := readsBack item (by simp) inner fuel
            (',' :: newline inner ++ (encodeItems numbers inner (next :: others) ++ (newline outer ++ ']' :: rest)))
            (cons_stopped ',' _ (by decide)) (by omega)
          simp only [List.append_assoc, List.cons_append] at head ⊢
          rw [readItems, head, literalItems]
          cases found : literalOf item with
          | none => simp
          | some value =>
              simp only [Option.map_some, skipBlank_cons ',' _ (by decide : blank ',' = false), skipBlank_newline]
              have unblanked : skipBlank
                  (encodeItems numbers inner (next :: others) ++ (newline outer ++ ']' :: rest)) =
                  encodeItems numbers inner (next :: others) ++ (newline outer ++ ']' :: rest) := by
                rw [split, List.cons_append, skipBlank_cons first _ visible]
              rw [unblanked, tail]
              cases literalItems (next :: others) <;> simp

theorem readValue_list (items : List Json) (readsBack : ∀ item ∈ items, ReadsBack named numbers item) :
    ReadsBack named numbers (.list items) := by
  intro level fuel rest _ enough
  cases items with
  | nil =>
      obtain ⟨fuel, rfl⟩ : ∃ less, fuel = less + 1 := ⟨fuel - 1, by simp at enough; omega⟩
      rfl
  | cons item later =>
      rw [encode] at enough ⊢
      simp only [List.length_append, List.length_cons, List.length_nil] at enough
      obtain ⟨fuel, rfl⟩ : ∃ less, fuel = less + 1 := ⟨fuel - 1, by omega⟩
      have inside := readItems_encodeItems named numbers (item :: later) readsBack (level + 1) level fuel rest
        (by simp) (by omega)
      obtain ⟨first, more, split, visible, opened⟩ := encodeItems_head numbers (level + 1) item later
      simp only [List.append_assoc, List.cons_append, List.nil_append]
      rw [readValue, if_neg (by decide), if_pos rfl, skipBlank_newline]
      rw [split, List.cons_append] at inside ⊢
      rw [skipBlank_cons first _ visible, literalOf]
      split
      · next after closed => exact absurd (List.cons.inj closed).1 opened
      · rw [inside]
        cases literalItems (item :: later) <;> simp

theorem readEntries_encodeEntries (entries : List (String × Json))
    (readsBack : ∀ entry ∈ entries, ReadsBack named numbers entry.2)
    (inner outer fuel : Nat) (rest : List Char) (present : entries ≠ [])
    (enough : (encodeEntries numbers inner entries).length < fuel) :
    readEntries named numbers fuel (encodeEntries numbers inner entries ++ (newline outer ++ '}' :: rest)) =
      (literalEntries entries).map fun read => (read, rest) := by
  induction entries generalizing fuel with
  | nil => exact absurd rfl present
  | cons entry later ih =>
      obtain ⟨key, value⟩ := entry
      obtain ⟨fuel, rfl⟩ : ∃ less, fuel = less + 1 := ⟨fuel - 1, by omega⟩
      obtain ⟨first, more, split, visible, -⟩ := encode_head numbers inner value
      have valueAhead (behind : List Char) :
          skipBlank (' ' :: (encode numbers inner value ++ behind)) = encode numbers inner value ++ behind := by
        rw [split, List.cons_append]
        simp [skipBlank, visible, show blank ' ' = true by decide]
      cases later with
      | nil =>
          rw [encodeEntries] at enough ⊢
          simp only [encodeString, List.length_append, List.length_cons, List.length_nil] at enough
          have head := readsBack (key, value) (by simp) inner fuel (newline outer ++ '}' :: rest)
            (newline_stopped outer _) (by simp only; omega)
          have name := stringLiteral_escaped named key.toList
            (':' :: ' ' :: (encode numbers inner value ++ (newline outer ++ '}' :: rest)))
          simp only [encodeString, List.append_assoc, List.cons_append, List.nil_append] at head name ⊢
          rw [readEntries, name, literalEntries]
          simp only [skipBlank_cons ':' _ (by decide : blank ':' = false), valueAhead, head]
          cases literalOf value with
          | none => simp
          | some read =>
              simp [literalEntries, textPoints, skipBlank_newline, skipBlank_cons '}' rest (by decide)]
      | cons next others =>
          rw [encodeEntries] at enough ⊢
          simp only [encodeString, List.length_append, List.length_cons, List.length_nil] at enough
          have tail := ih (fun inside member => readsBack inside (by simp [member])) fuel (by simp) (by omega)
          have head := readsBack (key, value) (by simp) inner fuel
            (',' :: newline inner ++ (encodeEntries numbers inner (next :: others) ++ (newline outer ++ '}' :: rest)))
            (cons_stopped ',' _ (by decide)) (by simp only; omega)
          have name := stringLiteral_escaped named key.toList
            (':' :: ' ' :: (encode numbers inner value ++
              (',' :: newline inner ++
                (encodeEntries numbers inner (next :: others) ++ (newline outer ++ '}' :: rest)))))
          simp only [encodeString, List.append_assoc, List.cons_append, List.nil_append] at head name ⊢
          rw [readEntries, name, literalEntries]
          simp only [skipBlank_cons ':' _ (by decide : blank ':' = false), valueAhead, head]
          cases literalOf value with
          | none => simp
          | some read =>
              have unblanked :
                  skipBlank (encodeEntries numbers inner (next :: others) ++ (newline outer ++ '}' :: rest)) =
                    encodeEntries numbers inner (next :: others) ++ (newline outer ++ '}' :: rest) := by
                obtain ⟨more, split⟩ := encodeEntries_head numbers inner next others
                rw [split, List.cons_append, skipBlank_cons '"' _ (by decide)]
              simp only [Option.map_some, skipBlank_cons ',' _ (by decide : blank ',' = false), skipBlank_newline,
                unblanked, tail]
              cases literalEntries (next :: others) <;> simp [textPoints]

theorem readValue_dict (entries : List (String × Json))
    (readsBack : ∀ entry ∈ entries, ReadsBack named numbers entry.2) :
    ReadsBack named numbers (.dict entries) := by
  intro level fuel rest _ enough
  cases entries with
  | nil =>
      obtain ⟨fuel, rfl⟩ : ∃ less, fuel = less + 1 := ⟨fuel - 1, by simp at enough; omega⟩
      rfl
  | cons entry later =>
      rw [encode] at enough ⊢
      simp only [List.length_append, List.length_cons, List.length_nil] at enough
      obtain ⟨fuel, rfl⟩ : ∃ less, fuel = less + 1 := ⟨fuel - 1, by omega⟩
      have inside := readEntries_encodeEntries named numbers (entry :: later) readsBack (level + 1) level fuel
        rest (by simp) (by omega)
      obtain ⟨more, split⟩ := encodeEntries_head numbers (level + 1) entry later
      simp only [List.append_assoc, List.cons_append, List.nil_append]
      rw [readValue, if_neg (by decide), if_neg (by decide), if_pos rfl, skipBlank_newline]
      rw [split, List.cons_append] at inside ⊢
      rw [skipBlank_cons '"' _ (by decide), literalOf]
      split
      · next after closed => exact absurd (List.cons.inj closed).1 (by decide)
      · rw [inside]
        cases literalEntries (entry :: later) <;> simp

theorem readValue_encode (tree : Json) : ReadsBack named numbers tree := by
  induction tree using DataTree.Tree.induct with
  | atom value =>
      intro level fuel rest stopped enough
      obtain ⟨first, more, split, -⟩ := encode_head numbers level (.atom value)
      obtain ⟨fuel, rfl⟩ : ∃ less, fuel = less + 1 := ⟨fuel - 1, by rw [split, List.length_cons] at enough; omega⟩
      rw [encode, readValue_atom named numbers value fuel rest stopped, literalOf, Option.map_map]
      rfl
  | list items ih => exact readValue_list named numbers items ih
  | dict entries ih => exact readValue_dict named numbers entries ih

end

/-- Exact decimal text of a binary fraction: a power of two below the line is a power of
five above it, over a power of ten. -/
def fractionText (scaled : Int) (places : Nat) : List Char :=
  integerText (scaled * 5 ^ places) ++ 'e' :: '-' :: Nat.toDigits 10 places

def floatText : JsonFloat → List Char
  | .negativeZero => "-0.0".toList
  | .finite .zero => fractionText 0 0
  | .finite (.ofOdd value precision _) => fractionText (value <<< (-precision).toNat) precision.toNat

def readFloat (text : List Char) : Option JsonFloat :=
  if text = "-0.0".toList then some .negativeZero
  else
    match text.dropWhile (· != 'e') with
    | 'e' :: '-' :: digits =>
        match readInteger (text.takeWhile (· != 'e')), readNatural digits with
        | some mantissa, some places =>
            if mantissa % 5 ^ places = 0 then
              some (.finite (.ofIntWithPrec (mantissa / 5 ^ places) places))
            else none
        | _, _ => none
    | _ => none

theorem integerText_unexponented (value : Int) : ∀ c ∈ integerText value, (c != 'e') = true := by
  intro c member
  rw [bne_iff_ne]
  rintro rfl
  exact absurd (integerText_chars value _ member) (by decide)

theorem readFloat_fractionText (scaled : Int) (places : Nat) :
    readFloat (fractionText scaled places) = some (.finite (.ofIntWithPrec scaled places)) := by
  have exponent : fractionText scaled places ≠ "-0.0".toList := by
    intro same
    have inside : 'e' ∈ fractionText scaled places := by simp [fractionText]
    rw [same] at inside
    exact absurd inside (by decide)
  have positive : (5 : Int) ^ places ≠ 0 := pow_ne_zero _ (by decide)
  have unexponented := integerText_unexponented (scaled * 5 ^ places)
  rw [readFloat, if_neg exponent, fractionText, List.takeWhile_append_of_pos unexponented,
    List.dropWhile_append_of_pos unexponented]
  simp [readInteger_integerText, readNatural_toDigits, positive]

theorem readInteger_fractionText (scaled : Int) (places : Nat) :
    readInteger (fractionText scaled places) = none := by
  have exponent (digits : List Char) (inside : 'e' ∈ digits) : readNatural digits = none := by
    have outside : ¬ (digits ≠ [] ∧ digits.all Char.isDigit = true) := fun numeric =>
      absurd (List.all_eq_true.mp numeric.2 'e' inside) (by decide)
    rw [readNatural, if_neg outside]
  have inside : 'e' ∈ fractionText scaled places := by simp [fractionText]
  cases split : fractionText scaled places with
  | nil => rfl
  | cons first rest =>
      rw [split] at inside
      by_cases signed : first = '-'
      · subst signed
        have later : 'e' ∈ rest := by simpa using inside
        simp [readInteger, exponent rest later]
      · simp [readInteger, signed, exponent (first :: rest) inside]

/-- A number text of the kind the encoder is assumed to have, with exact decimals. -/
def exactDecimals : NumberText JsonFloat where
  text := floatText
  read := readFloat
  plain value := by
    have fraction (scaled : Int) (places : Nat) : (fractionText scaled places).all numberChar = true := by
      rw [fractionText, List.all_append, Bool.and_eq_true]
      have digits : ∀ c ∈ Nat.toDigits 10 places, numberChar c = true := integerText_plain (.ofNat places)
      exact ⟨List.all_eq_true.mpr (integerText_plain _), by
        simpa [show numberChar 'e' = true by decide, show numberChar '-' = true by decide] using digits⟩
    match value with
    | .negativeZero => decide
    | .finite .zero => exact fraction 0 0
    | .finite (.ofOdd value precision _) => exact fraction _ _
  headed value := by
    have fraction (scaled : Int) (places : Nat) : ∃ first rest, fractionText scaled places = first :: rest ∧
        (first.isDigit || first == '-') = true := by
      obtain ⟨first, rest, split, numeral⟩ := integerText_headed (scaled * 5 ^ places)
      exact ⟨first, _, by rw [fractionText, split]; rfl, numeral⟩
    match value with
    | .negativeZero => exact ⟨'-', _, rfl, by decide⟩
    | .finite .zero => exact fraction 0 0
    | .finite (.ofOdd value precision _) => exact fraction _ _
  fractional value := by
    match value with
    | .negativeZero => decide
    | .finite .zero => exact readInteger_fractionText 0 0
    | .finite (.ofOdd value precision _) => exact readInteger_fractionText _ _
  readBack value := by
    match value with
    | .negativeZero => decide
    | .finite .zero => exact readFloat_fractionText 0 0
    | .finite (.ofOdd value precision odd) =>
        have places : (precision.toNat : Int) = precision + (-precision).toNat := by omega
        change readFloat (fractionText (value <<< (-precision).toNat) precision.toNat) = _
        rw [readFloat_fractionText, places, Dyadic.ofIntWithPrec_shiftLeft_add,
          Dyadic.ofOdd_eq_ofIntWithPrec]

end AutonomousApi.JsonText
