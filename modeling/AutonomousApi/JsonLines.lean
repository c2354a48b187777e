import AutonomousApi.JsonCodec

/-! Files of JSON lines: `text.splitlines()` and `line.strip()` as Python has them, and the
files that appending one line of ascii JSON after another leaves. Such a file splits into
the lines it was written from. -/

namespace AutonomousApi.JsonLines

open DataTree JsonValue PythonLiteral JsonCodec
open JsonText hiding encode encodeAtom encodeItems encodeEntries dumps

/-- The line boundaries of `str.splitlines`. -/
def lineBreak (c : Char) : Bool :=
  c == '\n' || c == '\r' || c == '\x0b' || c == '\x0c' || c == '\x1c' || c == '\x1d' || c == '\x1e' ||
    c == '\x85' || c == '\u2028' || c == '\u2029'

/-- The lines of a text; `current` is what has been read of the line so far, and after a
carriage return a line feed belongs to the same boundary. A boundary ends a line, so a text
that ends with one has no empty line behind it. -/
def splitFrom (carriage : Bool) (current : List Char) : List Char → List (List Char)
  | [] => if current = [] then [] else [current]
  | c :: rest =>
      if carriage && c == '\n' then splitFrom false current rest
      else if lineBreak c then current :: splitFrom (c == '\r') [] rest
      else splitFrom false (current ++ [c]) rest

def splitLines (text : String) : List String := (splitFrom false [] text.toList).map String.ofList

/-- `str.isspace` for one character. -/
def isSpace (c : Char) : Bool :=
  ('\t' ≤ c && c ≤ '\r') || ('\x1c' ≤ c && c ≤ ' ') || c == '\x85' || c == '\u00a0' || c == '\u1680' ||
    ('\u2000' ≤ c && c ≤ '\u200a') || c == '\u2028' || c == '\u2029' || c == '\u202f' || c == '\u205f' ||
    c == '\u3000'

def strip (text : String) : String :=
  String.ofList ((text.toList.dropWhile isSpace).reverse.dropWhile isSpace).reverse

/-- What a loop over the lines of a file reads: each line stripped, the empty ones skipped. -/
def readLines (text : String) : List String := ((splitLines text).map strip).filter (· ≠ "")

/-- The file that writing these lines one after another leaves. -/
def fileOf (lines : List String) : String := String.ofList (lines.flatMap fun line => line.toList ++ ['\n'])

theorem fileOf_append (lines more : List String) : fileOf (lines ++ more) = fileOf lines ++ fileOf more := by
  rw [fileOf, fileOf, fileOf, List.flatMap_append, String.ofList_append]

theorem splitFrom_line (current line rest : List Char) (unbroken : ∀ c ∈ line, lineBreak c = false) :
    splitFrom false current (line ++ '\n' :: rest) = (current ++ line) :: splitFrom false [] rest := by
  induction line generalizing current with
  | nil => simp [splitFrom, show lineBreak '\n' = true by decide]
  | cons c later ih =>
      have inside := unbroken c List.mem_cons_self
      rw [List.cons_append, splitFrom, Bool.false_and, if_neg (by decide), inside, if_neg (by decide),
        ih (current ++ [c]) fun other member => unbroken other (List.mem_cons_of_mem c member)]
      simp

theorem splitLines_fileOf (lines : List String) (unbroken : ∀ line ∈ lines, ∀ c ∈ line.toList, lineBreak c = false) :
    splitLines (fileOf lines) = lines := by
  rw [splitLines, fileOf, String.toList_ofList]
  induction lines with
  | nil => rfl
  | cons line rest ih =>
      have later := ih fun other member => unbroken other (List.mem_cons_of_mem line member)
      rw [List.flatMap_cons, List.append_assoc, List.singleton_append,
        splitFrom_line [] line.toList _ (unbroken line List.mem_cons_self), List.map_cons, later]
      simp

/-- A line between two visible characters has nothing to strip. -/
theorem strip_enclosed (first last : Char) (middle : List Char) (visibleFirst : isSpace first = false)
    (visibleLast : isSpace last = false) :
    strip (String.ofList (first :: middle ++ [last])) = String.ofList (first :: middle ++ [last]) := by
  rw [strip, String.toList_ofList, List.cons_append, List.dropWhile_cons_of_neg (by simp [visibleFirst])]
  rw [← List.cons_append, List.reverse_append, List.reverse_singleton, List.singleton_append,
    List.dropWhile_cons_of_neg (by simp [visibleLast])]
  simp

def printable (c : Char) : Prop := ' ' ≤ c ∧ c ≤ '~'

theorem printable_hexDigit (digit : Nat) (small : digit < 16) : printable (hexDigit digit) := by
  unfold printable
  interval_cases digit <;> decide

theorem printable_hex4 (value : Nat) : ∀ c ∈ hex4 value, printable c := by
  intro c member
  have digit (part : Nat) : printable (hexDigit (part % 16)) := printable_hexDigit _ (by omega)
  simp only [hex4, List.mem_cons, List.not_mem_nil, or_false] at member
  rcases member with rfl | rfl | rfl | rfl <;> exact digit _

theorem printable_escapeChar (c : Char) : ∀ d ∈ escapeChar c, printable d := by
  have unit (value : Nat) : ∀ d ∈ '\\' :: 'u' :: hex4 value, printable d := by
    intro d member
    rcases List.mem_cons.mp member with rfl | inner
    · exact ⟨by decide, by decide⟩
    · rcases List.mem_cons.mp inner with rfl | digits
      · exact ⟨by decide, by decide⟩
      · exact printable_hex4 value d digits
  obtain ⟨letter, short, escaped⟩ | ⟨⟨-, -, -, -, inside⟩, escaped⟩ | ⟨-, escaped⟩ | ⟨-, escaped⟩ :=
    escapeChar_cases c <;> rw [escaped] <;> intro d member
  · have known : ∀ pair ∈ shortEscapes, ' ' ≤ pair.2 ∧ pair.2 ≤ '~' := by decide
    rcases List.mem_pair.mp member with rfl | rfl
    · exact ⟨by decide, by decide⟩
    · exact known _ short
  · rw [List.mem_singleton.mp member]
    exact inside
  · exact unit c.toNat d member
  · rcases List.mem_append.mp member with high | low
    · exact unit (highSurrogate c) d high
    · exact unit (lowSurrogate c) d low

theorem printable_numberChar (c : Char) (number : numberChar c = true) : printable c := by
  simp only [numberChar, Bool.or_eq_true, beq_iff_eq] at number
  rcases number with (((digit | rfl) | rfl) | rfl) | rfl
  · simp only [Char.isDigit, Bool.and_eq_true, decide_eq_true_eq] at digit
    exact ⟨le_trans (show ' ' ≤ '0' by decide) digit.1, le_trans digit.2 (show '9' ≤ '~' by decide)⟩
  all_goals exact ⟨by decide, by decide⟩

variable (layout : Layout) (numbers : NumberText JsonFloat)

theorem printable_encodeText (ascii : layout.ascii = true) (text : String) :
    ∀ c ∈ encodeText layout text, printable c := by
  intro c member
  rw [encodeText, List.mem_append, List.mem_cons] at member
  rcases member with (rfl | inside) | close
  · exact ⟨by decide, by decide⟩
  · obtain ⟨d, -, escaped⟩ := List.mem_flatMap.mp inside
    rw [escape, ascii, Bool.true_or, Bool.true_or, Bool.true_or, if_pos rfl] at escaped
    exact printable_escapeChar d c escaped
  · rw [List.mem_singleton.mp close]
    exact ⟨by decide, by decide⟩

theorem printable_encodeAtom (ascii : layout.ascii = true) (value : JsonAtom) :
    ∀ c ∈ encodeAtom layout numbers value, printable c := by
  have words : (∀ c ∈ "null".toList, printable c) ∧ (∀ c ∈ "true".toList, printable c) ∧
      ∀ c ∈ "false".toList, printable c := by
    simp [printable]
  cases value with
  | null => exact words.1
  | bool value =>
      cases value with
      | true => exact words.2.1
      | false => exact words.2.2
  | int value => exact fun c member => printable_numberChar c (integerText_plain value c member)
  | float value =>
      exact fun c member => printable_numberChar c (List.all_eq_true.mp (numbers.plain value) c member)
  | str text => exact printable_encodeText layout ascii text

theorem printable_gap : ∀ c ∈ gap layout, printable c := by
  intro c member
  unfold gap at member
  split at member
  · rw [List.mem_singleton.mp member]
    exact ⟨by decide, by decide⟩
  · cases member

theorem printable_texts {separator : List Char} {texts : List (List Char)} (between : ∀ c ∈ separator, printable c)
    (inside : ∀ text ∈ texts, ∀ c ∈ text, printable c) : ∀ c ∈ List.intercalate separator texts, printable c := by
  induction texts with
  | nil => simp
  | cons text rest ih =>
      have head := inside text List.mem_cons_self
      have later := ih fun other member => inside other (List.mem_cons_of_mem text member)
      cases rest with
      | nil => simpa using head
      | cons next others =>
          simp only [List.intercalate_cons_cons, List.forall_mem_append]
          exact ⟨⟨head, between⟩, later⟩

/-- A one-line ascii text has no character outside the printable ones. -/
theorem printable_encode (ascii : layout.ascii = true) (tree : Json) :
    ∀ c ∈ encode layout numbers tree, printable c := by
  have comma : ∀ c ∈ ',' :: gap layout, printable c :=
    List.forall_mem_cons.mpr ⟨⟨by decide, by decide⟩, printable_gap layout⟩
  induction tree using DataTree.Tree.induct with
  | atom value =>
      rw [encode]
      exact printable_encodeAtom layout numbers ascii value
  | list items ih =>
      rw [encode, encodeItems_texts]
      have inside := printable_texts comma (List.forall_mem_map.mpr ih)
      simp only [List.forall_mem_append, List.forall_mem_cons]
      exact ⟨⟨⟨by decide, by decide⟩, inside⟩, ⟨by decide, by decide⟩, nofun⟩
  | dict entries ih =>
      rw [encode, encodeEntries_texts]
      have field : ∀ entry ∈ entries, ∀ c ∈ fieldText layout (encode layout numbers) (gap layout) entry, printable c := by
        intro entry member
        simp only [fieldText, List.forall_mem_append, List.forall_mem_cons]
        exact ⟨⟨printable_encodeText layout ascii entry.1, ⟨by decide, by decide⟩, printable_gap layout⟩,
          ih entry member⟩
      have inside := printable_texts comma (List.forall_mem_map.mpr field)
      simp only [List.forall_mem_append, List.forall_mem_cons]
      exact ⟨⟨⟨by decide, by decide⟩, inside⟩, ⟨by decide, by decide⟩, nofun⟩

theorem lineBreak_printable (c : Char) (inside : printable c) : lineBreak c = false := by
  have apart (other : Char) (outside : ¬ printable other) : c ≠ other := by
    rintro rfl
    exact outside inside
  simp only [lineBreak, Bool.or_eq_false_iff, beq_eq_false_iff_ne]
  refine ⟨⟨⟨⟨⟨⟨⟨⟨⟨?_, ?_⟩, ?_⟩, ?_⟩, ?_⟩, ?_⟩, ?_⟩, ?_⟩, ?_⟩, ?_⟩ <;> exact apart _ (by unfold printable; decide)

/-- A line that a loop over the lines of a file reads as it was written. -/
structure PlainLine (line : String) : Prop where
  unbroken : ∀ c ∈ line.toList, lineBreak c = false
  stripped : strip line = line
  present : line ≠ ""

theorem plainLine_dumps (layout : Layout) (ascii : layout.ascii = true) (numbers : NumberText JsonFloat)
    (record : List (String × Json)) : PlainLine (dumps layout numbers (.dict record)) := by
  have enclosed : ∃ middle, dumps layout numbers (.dict record) = String.ofList ('{' :: middle ++ ['}']) :=
    ⟨_, by rw [dumps, sortKeys, encode]⟩
  obtain ⟨middle, split⟩ := enclosed
  refine ⟨fun c member => ?_, ?_, ?_⟩
  · rw [dumps, String.toList_ofList] at member
    exact lineBreak_printable c (printable_encode layout numbers ascii _ c member)
  · rw [split]
    exact strip_enclosed '{' '}' middle (by decide) (by decide)
  · rw [split]
    intro empty
    have characters := congrArg String.toList empty
    rw [String.toList_ofList] at characters
    cases characters

theorem readLines_fileOf (lines : List String) (plain : ∀ line ∈ lines, PlainLine line) :
    readLines (fileOf lines) = lines := by
  rw [readLines, splitLines_fileOf lines fun line member => (plain line member).unbroken]
  rw [List.map_congr_left fun line member => (plain line member).stripped, List.map_id', List.filter_eq_self.mpr]
  intro line member
  simpa using (plain line member).present

end AutonomousApi.JsonLines
