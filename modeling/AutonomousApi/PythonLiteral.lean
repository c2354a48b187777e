import AutonomousApi.DataTree
import Mathlib.Data.Nat.Digits.Defs

/-! Python's grammar of literals, as far as string, number, list and dictionary displays
go. A string denotes a list of code points, since an escape can name a surrogate that no
character is. Readers take the text after the opening quote and return what follows the
literal. The names behind `\N` and the reading of fractional numbers are parameters. -/

namespace AutonomousApi.PythonLiteral

/-- How a string literal is delimited: by one or by three of the two quote characters. -/
structure Style where
  quote : Char
  long : Bool
  known : quote = '"' ∨ quote = '\x27'

def doubleQuoted : Style := ⟨'"', false, .inl rfl⟩

def singleQuoted : Style := ⟨'\x27', false, .inr rfl⟩

def tripleQuoted : Style := ⟨'"', true, .inl rfl⟩

def delimiter (style : Style) : List Char :=
  if style.long then [style.quote, style.quote, style.quote] else [style.quote]

/-- The text after the closing delimiter, when the text begins with it. -/
def closes (style : Style) (text : List Char) : Option (List Char) :=
  if style.long then
    match text with
    | a :: b :: c :: rest => if a = style.quote ∧ b = style.quote ∧ c = style.quote then some rest else none
    | _ => none
  else
    match text with
    | a :: rest => if a = style.quote then some rest else none
    | [] => none

def hexValue (c : Char) : Option Nat :=
  if '0' ≤ c ∧ c ≤ '9' then some (c.toNat - 48)
  else if 'a' ≤ c ∧ c ≤ 'f' then some (c.toNat - 87)
  else if 'A' ≤ c ∧ c ≤ 'F' then some (c.toNat - 55)
  else none

def readHex : Nat → Nat → List Char → Option (Nat × List Char)
  | 0, value, text => some (value, text)
  | count + 1, value, c :: rest =>
      match hexValue c with
      | some digit => readHex count (value * 16 + digit) rest
      | none => none
  | _ + 1, _, [] => none

def octal (c : Char) : Bool := '0' ≤ c && c ≤ '7'

/-- At most three octal digits. -/
def readOctal (text : List Char) : Nat × List Char :=
  let digits := (text.take 3).takeWhile octal
  (digits.foldl (fun value c => value * 8 + (c.toNat - 48)) 0, text.drop digits.length)

def readName (named : List Char → Option Nat) (text : List Char) : Option (List Nat × List Char) :=
  match text with
  | '{' :: rest =>
      match rest.dropWhile (· != '}') with
      | '}' :: after => (named (rest.takeWhile (· != '}'))).map fun point => ([point], after)
      | _ => none
  | _ => none

/-- One-letter escapes and what they denote. -/
def letterEscape : Char → Option Nat
  | '\\' => some 92
  | '\x27' => some 39
  | '"' => some 34
  | 'a' => some 7
  | 'b' => some 8
  | 'f' => some 12
  | 'n' => some 10
  | 'r' => some 13
  | 't' => some 9
  | 'v' => some 11
  | _ => none

def skipNewline : List Char → List Char
  | '\n' :: rest => rest
  | text => text

/-- The text after a backslash. An escape that Python does not know keeps its backslash. -/
def readEscape (named : List Char → Option Nat) : List Char → Option (List Nat × List Char)
  | [] => none
  | c :: rest =>
      match letterEscape c with
      | some point => some ([point], rest)
      | none =>
          if c = '\n' then some ([], rest)
          else if c = '\r' then some ([], skipNewline rest)
          else if c = 'x' then (readHex 2 0 rest).map fun read => ([read.1], read.2)
          else if c = 'u' then (readHex 4 0 rest).map fun read => ([read.1], read.2)
          else if c = 'U' then
            match readHex 8 0 rest with
            | some (point, after) => if point < 0x110000 then some ([point], after) else none
            | none => none
          else if c = 'N' then readName named rest
          else if octal c then some ([(readOctal (c :: rest)).1], (readOctal (c :: rest)).2)
          else if c = '\x00' then none
          else some ([92, c.toNat], rest)

/-- A character that stands for itself: line ends are one newline, and only a long
string may contain them; the null character is no source text. -/
def readPlain (style : Style) (c : Char) (rest : List Char) : Option (Nat × List Char) :=
  if c = '\x00' then none
  else if c = '\n' then if style.long then some (10, rest) else none
  else if c = '\r' then if style.long then some (10, skipNewline rest) else none
  else some (c.toNat, rest)

def readString (named : List Char → Option Nat) (style : Style) :
    Nat → List Char → Option (List Nat × List Char)
  | 0, _ => none
  | fuel + 1, text =>
      match closes style text with
      | some rest => some ([], rest)
      | none =>
          match text with
          | [] => none
          | c :: rest =>
              if c = '\\' then
                match readEscape named rest with
                | none => none
                | some (points, after) =>
                    (readString named style fuel after).map fun read => (points ++ read.1, read.2)
              else
                match readPlain style c rest with
                | none => none
                | some (point, after) =>
                    (readString named style fuel after).map fun read => (point :: read.1, read.2)

/-- What the literal denotes; one step per character is fuel enough. -/
def stringLiteral (named : List Char → Option Nat) (style : Style) (text : List Char) :
    Option (List Nat × List Char) := readString named style (text.length + 1) text

def codePoints (text : List Char) : List Nat := text.map Char.toNat

section

/-- The characters that make a backslash before them an escape. -/
def startsEscape (c : Char) : Bool :=
  (letterEscape c).isSome || c == '\n' || c == '\r' || c == 'x' || c == 'u' || c == 'U' || c == 'N' || octal c

def standsForItself (style : Style) (c : Char) : Bool :=
  c != '\x00' && c != '\r' && (style.long || c != '\n')

/-- Inside a literal and with `next` behind it, every character of the text stands for
itself: no closing delimiter and no escape starts at any of them. -/
def verbatim (style : Style) (next : List Char) : List Char → Bool
  | [] => true
  | c :: rest =>
      (closes style (c :: rest ++ next)).isNone && standsForItself style c &&
        !(c == '\\' && (rest ++ next).head?.any startsEscape) && verbatim style next rest

theorem verbatim_append (style : Style) (next left right : List Char) :
    verbatim style next (left ++ right) = (verbatim style (right ++ next) left && verbatim style next right) := by
  induction left with
  | nil => simp [verbatim]
  | cons c rest ih => simp [verbatim, ih, Bool.and_assoc]

theorem closes_of_ne (style : Style) (c : Char) (rest : List Char) (other : c ≠ style.quote) :
    closes style (c :: rest) = none := by
  unfold closes
  cases style.long with
  | false => simp [other]
  | true =>
      simp only [if_true]
      split
      · next a b d tail same =>
          obtain ⟨rfl, -⟩ := List.cons.inj same
          simp [other]
      · rfl

/-- Texts without quotes, backslashes and special characters are verbatim anywhere. -/
def inert (style : Style) (c : Char) : Bool := c != style.quote && c != '\\' && standsForItself style c

theorem verbatim_of_inert (style : Style) (next text : List Char) (plain : text.all (inert style) = true) :
    verbatim style next text = true := by
  induction text with
  | nil => rfl
  | cons c rest ih =>
      simp only [List.all_cons, Bool.and_eq_true, inert, bne_iff_ne, ne_eq] at plain
      obtain ⟨⟨⟨quote, backslash⟩, stands⟩, later⟩ := plain
      have opened : closes style (c :: rest ++ next) = none := closes_of_ne style c _ quote
      simp only [verbatim, opened, stands, Option.isNone_none, Bool.true_and, Bool.and_eq_true]
      exact ⟨by simp [backslash], ih later⟩

variable (named : List Char → Option Nat)

variable {text rest : List Char} {style : Style}

theorem readHex_length {count value : Nat} {read : Nat × List Char}
    (success : readHex count value text = some read) : read.2.length + count = text.length := by
  induction count generalizing value text with
  | zero =>
      obtain rfl := Option.some.inj success
      rfl
  | succ count ih =>
      cases text with
      | nil => cases success
      | cons c rest =>
          rw [readHex] at success
          split at success
          · have later := ih success
            simp only [List.length_cons]
            omega
          · cases success

theorem skipNewline_length (text : List Char) : (skipNewline text).length ≤ text.length := by
  unfold skipNewline
  split <;> simp

/-- A backslash either stays, with the character after it, or starts an escape that
denotes at most one code point and takes at least one character more. -/
theorem readEscape_cases {after : List Char} {points : List Nat}
    (success : readEscape named text = some (points, after)) :
    (∃ c, text = c :: after ∧ startsEscape c = false ∧ c ≠ '\x00' ∧ points = [92, c.toNat]) ∨
      ((text.head?.any startsEscape) = true ∧ points.length ≤ 1 ∧ after.length < text.length) := by
  cases text with
  | nil => cases success
  | cons c rest =>
      simp only [readEscape] at success
      split at success
      · next point letter =>
          obtain ⟨rfl, rfl⟩ := Prod.mk.inj (Option.some.inj success)
          exact .inr ⟨by simp [startsEscape, letter], by simp, by simp⟩
      next letter =>
      split_ifs at success with line carriage hex short long name octalDigit null
      · obtain ⟨rfl, rfl⟩ := Prod.mk.inj (Option.some.inj success)
        exact .inr ⟨by simp [startsEscape, line], by simp, by simp⟩
      · obtain ⟨rfl, rfl⟩ := Prod.mk.inj (Option.some.inj success)
        have shorter := skipNewline_length rest
        exact .inr ⟨by simp [startsEscape, carriage], by simp, by simp only [List.length_cons]; omega⟩
      · obtain ⟨read, found, same⟩ := Option.map_eq_some_iff.mp success
        obtain ⟨rfl, rfl⟩ := Prod.mk.inj same
        have shorter := readHex_length found
        exact .inr ⟨by simp [startsEscape, hex], by simp, by simp only [List.length_cons]; omega⟩
      · obtain ⟨read, found, same⟩ := Option.map_eq_some_iff.mp success
        obtain ⟨rfl, rfl⟩ := Prod.mk.inj same
        have shorter := readHex_length found
        exact .inr ⟨by simp [startsEscape, short], by simp, by simp only [List.length_cons]; omega⟩
      · split at success
        · next point behind found =>
            split_ifs at success
            obtain ⟨rfl, rfl⟩ := Prod.mk.inj (Option.some.inj success)
            have shorter := readHex_length found
            exact .inr ⟨by simp [startsEscape, long], by simp, by simp only [List.length_cons] at *; omega⟩
        · cases success
      · unfold readName at success
        split at success
        · next inner =>
            split at success
            · next behind dropped =>
                obtain ⟨point, found, same⟩ := Option.map_eq_some_iff.mp success
                obtain ⟨rfl, rfl⟩ := Prod.mk.inj same
                have shorter := (List.dropWhile_suffix (l := inner) (· != '\x7d')).length_le
                rw [dropped, List.length_cons] at shorter
                exact .inr ⟨by simp [startsEscape, name], by simp, by simp only [List.length_cons]; omega⟩
            · cases success
        · cases success
      · obtain ⟨rfl, rfl⟩ := Prod.mk.inj (Option.some.inj success)
        have positive : 0 < (((c :: rest).take 3).takeWhile octal).length := by simp [octalDigit]
        refine .inr ⟨by simp [startsEscape, octalDigit], by simp, ?_⟩
        simp only [readOctal, List.length_drop, List.length_cons]
        omega
      · obtain ⟨rfl, rfl⟩ := Prod.mk.inj (Option.some.inj success)
        exact .inl ⟨c, rfl, by simp [startsEscape, letter, line, carriage, hex, short, long, name, octalDigit], null,
            rfl⟩

theorem closes_length (closed : closes style text = some rest) :
    (delimiter style).length + rest.length = text.length := by
  unfold closes at closed
  unfold delimiter
  cases long : style.long with
  | false =>
      simp only [long, Bool.false_eq_true, if_false] at closed ⊢
      split at closed
      · split_ifs at closed
        obtain rfl := Option.some.inj closed
        simp only [List.length_cons, List.length_nil]
        omega
      · cases closed
  | true =>
      simp only [long, if_true] at closed ⊢
      split at closed
      · split_ifs at closed
        obtain rfl := Option.some.inj closed
        simp only [List.length_cons, List.length_nil]
        omega
      · cases closed

theorem closes_append (style : Style) (text rest : List Char) (enough : (delimiter style).length ≤ text.length) :
    (closes style (text ++ rest)).isNone = (closes style text).isNone := by
  unfold delimiter at enough
  unfold closes
  cases long : style.long with
  | false =>
      obtain ⟨a, text, rfl⟩ : ∃ a tail, text = a :: tail := by
        cases text <;> simp [long] at enough ⊢
      simp only [List.cons_append, Bool.false_eq_true, if_false]
      split <;> rfl
  | true =>
      obtain ⟨a, b, c, text, rfl⟩ : ∃ a b c tail, text = a :: b :: c :: tail := by
        match text with
        | [] | [_] | [_, _] => simp [long] at enough
        | a :: b :: c :: tail => exact ⟨a, b, c, tail, rfl⟩
      simp only [List.cons_append, if_true]
      split <;> rfl

theorem closes_delimiter (style : Style) (rest : List Char) : closes style (delimiter style ++ rest) = some rest := by
  unfold closes delimiter
  cases style.long <;> simp

theorem readPlain_length {c : Char} {after : List Char} {point : Nat}
    (success : readPlain style c rest = some (point, after)) : after.length ≤ rest.length := by
  have shorter := skipNewline_length rest
  unfold readPlain at success
  split_ifs at success <;> (obtain ⟨rfl, rfl⟩ := Prod.mk.inj (Option.some.inj success); omega)

/-- A literal denotes at most one code point for each of its characters. -/
theorem readString_length {fuel : Nat} {points : List Nat}
    (success : readString named style fuel text = some (points, rest)) :
    points.length + (delimiter style).length + rest.length ≤ text.length := by
  induction fuel generalizing text points with
  | zero => cases success
  | succ fuel ih =>
      unfold readString at success
      split at success
      · next closed =>
          obtain ⟨rfl, rfl⟩ := Prod.mk.inj (Option.some.inj success)
          have length := closes_length closed
          simp only [List.length_nil]
          omega
      · split at success
        · cases success
        · next c tail _ =>
            split_ifs at success
            · split at success
              · cases success
              · next first after escaped =>
                  obtain ⟨read, found, same⟩ := Option.map_eq_some_iff.mp success
                  obtain ⟨rfl, rfl⟩ := Prod.mk.inj same
                  have later := ih found
                  simp only [List.length_append, List.length_cons]
                  rcases readEscape_cases named escaped with ⟨d, rfl, -, -, rfl⟩ | ⟨-, few, fewer⟩
                  · simp only [List.length_cons, List.length_nil]
                    omega
                  · omega
            · split at success
              · cases success
              · next point after plain =>
                  obtain ⟨read, found, same⟩ := Option.map_eq_some_iff.mp success
                  obtain ⟨rfl, rfl⟩ := Prod.mk.inj same
                  have later := ih found
                  have shorter := readPlain_length plain
                  simp only [List.length_cons]
                  omega

theorem readEscape_unknown (c : Char) (rest : List Char) (unknown : startsEscape c = false) :
    readEscape named (c :: rest) = if c = '\x00' then none else some ([92, c.toNat], rest) := by
  simp only [startsEscape, Bool.or_eq_false_iff, beq_eq_false_iff_ne, ne_eq, Option.isSome_eq_false_iff,
    Option.isNone_iff_eq_none] at unknown
  obtain ⟨⟨⟨⟨⟨⟨⟨letter, line⟩, carriage⟩, hex⟩, short⟩, long⟩, name⟩, octalDigit⟩ := unknown
  simp [readEscape, letter, line, carriage, hex, short, long, name, octalDigit]

theorem readPlain_iff (style : Style) (c : Char) (rest after : List Char) :
    readPlain style c rest = some (c.toNat, after) ↔ standsForItself style c = true ∧ rest = after := by
  unfold readPlain standsForItself
  split_ifs with null line long carriage long
  · simp [null]
  · simp [line, long]
  · simp [line, long]
  · simp [carriage]
  · simp [carriage]
  · simp [null, line, carriage]

theorem startsEscape_quote (style : Style) : startsEscape style.quote = true := by
  rcases style.known with quote | quote <;> rw [quote] <;> decide

theorem head_delimited (style : Style) (tail rest : List Char) :
    (tail ++ (delimiter style ++ rest)).head? = (tail ++ delimiter style).head? := by
  unfold delimiter
  cases tail <;> cases style.long <;> rfl

/-- After a backslash before an escape character, too few code points are left. -/
theorem readString_escaped_ne (style : Style) (fuel : Nat) (tail rest : List Char)
    (escape : (tail ++ delimiter style).head?.any startsEscape = true) :
    readString named style (fuel + 1) ('\\' :: (tail ++ (delimiter style ++ rest))) ≠
      some (codePoints ('\\' :: tail), rest) := by
  intro success
  unfold readString at success
  split at success
  · simp [codePoints] at success
  simp only [if_true] at success
  split at success
  · cases success
  · next points after escaped =>
      obtain ⟨read, found, same⟩ := Option.map_eq_some_iff.mp success
      obtain ⟨samePoints, sameRest⟩ := Prod.mk.inj same
      have sizes := congrArg List.length samePoints
      have later := readString_length named found
      rw [sameRest] at later
      simp only [List.length_append, List.length_cons, codePoints, List.length_map] at sizes
      rcases readEscape_cases named escaped with ⟨d, text, known, -⟩ | ⟨-, few, fewer⟩
      · rw [← head_delimited style tail rest, text] at escape
        simp [known] at escape
      · simp only [List.length_append] at fewer
        omega

theorem readString_unescaped (style : Style) (fuel : Nat) (d : Char) (tail rest : List Char)
    (unknown : startsEscape d = false) :
    readString named style (fuel + 1) ('\\' :: d :: (tail ++ (delimiter style ++ rest))) =
        some (codePoints ('\\' :: d :: tail), rest) ↔
      d ≠ '\x00' ∧
        readString named style fuel (tail ++ (delimiter style ++ rest)) = some (codePoints tail, rest) := by
  have opened : closes style ('\\' :: d :: (tail ++ (delimiter style ++ rest))) = none :=
    closes_of_ne style _ _ (by rcases style.known with quote | quote <;> rw [quote] <;> decide)
  simp only [readString, opened, if_true, readEscape_unknown named d _ unknown]
  by_cases null : d = '\x00'
  · simp [null]
  · simp [null, codePoints, Prod.ext_iff]

theorem readString_plain (style : Style) (fuel : Nat) (c : Char) (tail rest : List Char) (backslash : c ≠ '\\')
    (opened : closes style (c :: (tail ++ (delimiter style ++ rest))) = none) :
    readString named style (fuel + 1) (c :: (tail ++ (delimiter style ++ rest))) =
        some (codePoints (c :: tail), rest) ↔
      standsForItself style c = true ∧
        readString named style fuel (tail ++ (delimiter style ++ rest)) = some (codePoints tail, rest) := by
  simp only [readString, opened, backslash, if_false]
  constructor
  · intro success
    split at success
    · cases success
    · next point after plain =>
        obtain ⟨read, found, same⟩ := Option.map_eq_some_iff.mp success
        obtain ⟨samePoints, sameRest⟩ := Prod.mk.inj same
        obtain ⟨rfl, later⟩ := List.cons.inj samePoints
        obtain ⟨stands, rfl⟩ := (readPlain_iff style c _ _).mp plain
        exact ⟨stands, found.trans (congrArg some (Prod.ext later sameRest))⟩
  · rintro ⟨stands, read⟩
    rw [(readPlain_iff style c _ _).mpr ⟨stands, rfl⟩]
    simp [read, codePoints]

/-- A literal denotes its own text, and ends where it should, exactly when the text is
verbatim before the delimiter. -/
theorem readString_verbatim (style : Style) (body rest : List Char) (fuel : Nat) (enough : body.length < fuel) :
    readString named style fuel (body ++ (delimiter style ++ rest)) = some (codePoints body, rest) ↔
      verbatim style (delimiter style) body = true := by
  induction fuel generalizing body with
  | zero => omega
  | succ fuel ih =>
      cases body with
      | nil => simp [readString, closes_delimiter, codePoints, verbatim]
      | cons c tail =>
          simp only [List.length_cons] at enough
          have opened : (closes style (c :: tail ++ (delimiter style ++ rest))).isNone =
              (closes style (c :: tail ++ delimiter style)).isNone := by
            rw [← List.append_assoc]
            exact closes_append style _ rest (by simp only [List.length_append]; omega)
          rw [verbatim, ← opened, List.cons_append]
          cases closed : closes style (c :: (tail ++ (delimiter style ++ rest))) with
          | some early => simp [readString, closed, codePoints]
          | none =>
              by_cases backslash : c = '\\'
              · subst backslash
                cases escape : (tail ++ delimiter style).head?.any startsEscape with
                | true => simpa using readString_escaped_ne named style fuel tail rest escape
                | false =>
                    cases tail with
                    | nil =>
                        have quoted : (delimiter style).head? = some style.quote := by
                          unfold delimiter
                          cases style.long <;> rfl
                        simp [quoted, startsEscape_quote] at escape
                    | cons d tail =>
                        have unknown : startsEscape d = false := by simpa using escape
                        have different (e : Char) (starts : startsEscape e = true) : d ≠ e := by
                          rintro rfl
                          rw [unknown] at starts
                          cases starts
                        have line := different '\n' (by decide)
                        have carriage := different '\r' (by decide)
                        have other := different '\\' (by decide)
                        have quote := different _ (startsEscape_quote style)
                        simp only [List.length_cons] at enough
                        rw [List.cons_append, readString_unescaped named style fuel d tail rest unknown,
                          ih tail (by omega), verbatim, List.cons_append, closes_of_ne style d _ quote]
                        simp [standsForItself, line, carriage, other]
              · rw [readString_plain named style fuel c tail rest backslash closed, ih tail (by omega)]
                simp [backslash]

end

/-- Atoms of literal displays; `Number` stands for the fractional numbers. -/
inductive LiteralAtom (Number : Type) where
  | none
  | bool (value : Bool)
  | int (value : Int)
  | number (value : Number)
  | str (points : List Nat)
  deriving DecidableEq

abbrev LiteralValue (Number : Type) := DataTree.Tree (List Nat) (LiteralAtom Number)

def numberChar (c : Char) : Bool := c.isDigit || c == '.' || c == 'e' || c == '+' || c == '-'

def readNatural (digits : List Char) : Option Nat :=
  if digits ≠ [] ∧ digits.all Char.isDigit then some (Nat.ofDigitChars 10 digits 0) else none

def readInteger : List Char → Option Int
  | '-' :: digits => (readNatural digits).map fun value => -value
  | digits => (readNatural digits).map Int.ofNat

def integerText : Int → List Char
  | .ofNat value => Nat.toDigits 10 value
  | .negSucc value => '-' :: Nat.toDigits 10 (value + 1)

/-- A text form of fractional numbers that reads back: nonempty, made of number
characters, and never an integer. -/
structure NumberText (Number : Type) where
  text : Number → List Char
  read : List Char → Option Number
  plain : ∀ value, (text value).all numberChar = true
  headed : ∀ value, ∃ first rest, text value = first :: rest ∧ (first.isDigit || first == '-') = true
  fractional : ∀ value, readInteger (text value) = none
  readBack : ∀ value, read (text value) = some value

variable {Number : Type}

def readNumber (numbers : NumberText Number) (text : List Char) :
    Option (LiteralAtom Number × List Char) :=
  let token := text.takeWhile numberChar
  let rest := text.dropWhile numberChar
  match readInteger token with
  | some value => some (.int value, rest)
  | none => (numbers.read token).map fun value => (.number value, rest)

def blank (c : Char) : Bool := c == ' ' || c == '\n'

def skipBlank (text : List Char) : List Char := text.dropWhile blank

def stripText : List Char → List Char → Option (List Char)
  | [], text => some text
  | _ :: _, [] => none
  | c :: expected, d :: text => if c = d then stripText expected text else none

theorem stripText_append (expected text : List Char) : stripText expected (expected ++ text) = some text := by
  induction expected with
  | nil => rfl
  | cons c rest ih => simp [stripText, ih]

variable (named : List Char → Option Nat) (numbers : NumberText Number)

mutual
def readValue : Nat → List Char → Option (LiteralValue Number × List Char)
  | 0, _ => none
  | fuel + 1, text =>
      match text with
      | [] => none
      | c :: rest =>
          if c = '"' then
            (stringLiteral named doubleQuoted rest).map fun read => (.atom (.str read.1), read.2)
          else if c = '[' then
            match skipBlank rest with
            | ']' :: after => some (.list [], after)
            | inner => (readItems fuel inner).map fun read => (.list read.1, read.2)
          else if c = '{' then
            match skipBlank rest with
            | '}' :: after => some (.dict [], after)
            | inner => (readEntries fuel inner).map fun read => (.dict read.1, read.2)
          else if c.isDigit || c == '-' then
            (readNumber numbers text).map fun read => (.atom read.1, read.2)
          else
            match stripText "None".toList text, stripText "True".toList text, stripText "False".toList text with
            | some after, _, _ => some (.atom .none, after)
            | none, some after, _ => some (.atom (.bool true), after)
            | none, none, some after => some (.atom (.bool false), after)
            | none, none, none => none

def readItems : Nat → List Char → Option (List (LiteralValue Number) × List Char)
  | 0, _ => none
  | fuel + 1, text =>
      match readValue fuel text with
      | none => none
      | some (item, rest) =>
          match skipBlank rest with
          | ',' :: more => (readItems fuel (skipBlank more)).map fun read => (item :: read.1, read.2)
          | ']' :: after => some ([item], after)
          | _ => none

def readEntries : Nat → List Char → Option (List (List Nat × LiteralValue Number) × List Char)
  | 0, _ => none
  | fuel + 1, text =>
      match text with
      | '"' :: rest =>
          match stringLiteral named doubleQuoted rest with
          | none => none
          | some (key, rest) =>
              match skipBlank rest with
              | ':' :: rest =>
                  match readValue fuel (skipBlank rest) with
                  | none => none
                  | some (value, rest) =>
                      match skipBlank rest with
                      | ',' :: more =>
                          (readEntries fuel (skipBlank more)).map fun read => ((key, value) :: read.1, read.2)
                      | '}' :: after => some ([(key, value)], after)
                      | _ => none
              | _ => none
      | _ => none
end

end AutonomousApi.PythonLiteral
