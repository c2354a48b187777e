import AutonomousApi.ObservatoryEvents

/-! The `isoformat` text of a datetime reads back. Each field stands in a fixed width, so a reader
takes the fields off the front one by one; what the store writes for a moment of the calendar is read
as that moment again. -/

namespace AutonomousApi.IsoDatetime

open ObservatoryEvents

/-- A number written with exactly so many digits, and the text behind it. -/
def readField (width : Nat) (text : List Char) : Option (Nat × List Char) :=
  if (text.take width).length = width ∧ (text.take width).all Char.isDigit then
    some (Nat.ofDigitChars 10 (text.take width) 0, text.drop width)
  else none

def expect (mark : Char) : List Char → Option (List Char)
  | c :: rest => if c = mark then some rest else none
  | [] => none

theorem expect_mark (mark : Char) (rest : List Char) : expect mark (mark :: rest) = some rest := by simp [expect]

theorem ofDigitChars_zeros (count value : Nat) :
    Nat.ofDigitChars 10 (List.replicate count '0' ++ Nat.toDigits 10 value) 0 = value := by
  induction count with
  | zero => exact Nat.ofDigitChars_toDigits (by decide) (by decide)
  | succ count ih =>
      rw [List.replicate_succ, List.cons_append, Nat.ofDigitChars_cons]
      exact ih

theorem padded_length {width value : Nat} (positive : 0 < width) (fits : value < 10 ^ width) :
    (padded width value).length = width := by
  have short := (Nat.length_toDigits_le_iff (b := 10) (by decide) positive).mpr fits
  simp only [padded, List.length_append, List.length_replicate]
  omega

theorem readField_padded {width value : Nat} (positive : 0 < width) (fits : value < 10 ^ width) (rest : List Char) :
    readField width (padded width value ++ rest) = some (value, rest) := by
  have long := padded_length positive fits
  have front : (padded width value ++ rest).take width = padded width value := List.take_left' long
  have behind : (padded width value ++ rest).drop width = rest := List.drop_left' long
  have digits : (padded width value).all Char.isDigit = true := by
    rw [List.all_eq_true]
    intro c member
    rcases List.mem_append.mp member with zero | digit
    · rw [List.eq_of_mem_replicate zero]
      decide
    · exact Nat.isDigit_of_mem_toDigits (by decide) (by decide) digit
  rw [readField, front, behind, if_pos ⟨long, digits⟩, padded, ofDigitChars_zeros]

/-- The moments that a `datetime` with an offset of whole minutes can be. -/
structure OnCalendar (date : Datetime) : Prop where
  year : date.year < 10000
  month : date.month < 13
  day : date.day < 32
  hour : date.hour < 24
  minute : date.minute < 60
  second : date.second < 60
  microsecond : date.microsecond < 1000000
  offset : date.offset.natAbs < 1440

def readFraction : List Char → Option (Nat × List Char)
  | '.' :: rest => readField 6 rest
  | text => some (0, text)

def readOffset : List Char → Option Int
  | sign :: text => do
      let (hours, text) ← readField 2 text
      let text ← expect ':' text
      let (minutes, text) ← readField 2 text
      if text ≠ [] then none
      else if sign = '+' then some (hours * 60 + minutes : Nat)
      else if sign = '-' then some (-(hours * 60 + minutes : Nat))
      else none
  | [] => none

def readIso (text : String) : Option Datetime := do
  let (year, text) ← readField 4 text.toList
  let text ← expect '-' text
  let (month, text) ← readField 2 text
  let text ← expect '-' text
  let (day, text) ← readField 2 text
  let text ← expect 'T' text
  let (hour, text) ← readField 2 text
  let text ← expect ':' text
  let (minute, text) ← readField 2 text
  let text ← expect ':' text
  let (second, text) ← readField 2 text
  let (microsecond, text) ← readFraction text
  let offset ← readOffset text
  return { year, month, day, hour, minute, second, microsecond, offset }

variable {date : Datetime}

theorem readOffset_offsetText (bound : date.offset.natAbs < 1440) : readOffset date.offsetText = some date.offset := by
  have hours (rest : List Char) := @readField_padded 2 (date.offset.natAbs / 60) (by decide) (by omega) rest
  have minutes := @readField_padded 2 (date.offset.natAbs % 60) (by decide) (by omega) []
  rw [List.append_nil] at minutes
  have joined : date.offset.natAbs / 60 * 60 + date.offset.natAbs % 60 = date.offset.natAbs :=
    Nat.div_add_mod' date.offset.natAbs 60
  rw [Datetime.offsetText, readOffset, List.append_assoc, hours]
  simp only [Option.bind_eq_bind, Option.bind_some, List.singleton_append, expect_mark, minutes, joined]
  by_cases west : date.offset < 0
  · rw [if_pos west, if_neg (by simp), if_neg (by decide), if_pos rfl, Option.some.injEq]
    omega
  · rw [if_neg west, if_neg (by simp), if_pos rfl, Option.some.injEq]
    omega

theorem readFraction_text (bound : date.microsecond < 1000000) (rest : List Char) (sign : Char) (other : sign ≠ '.') :
    readFraction ((if date.microsecond = 0 then [] else '.' :: padded 6 date.microsecond) ++ sign :: rest) =
      some (date.microsecond, sign :: rest) := by
  by_cases whole : date.microsecond = 0
  · simp [whole, readFraction, other]
  · rw [if_neg whole, List.cons_append, readFraction]
    exact readField_padded (by decide) (by omega) _

/-- What `isoformat` writes is read as the moment it was written for. -/
theorem readIso_isoformat (possible : OnCalendar date) : readIso date.isoformat = some date := by
  have year (rest : List Char) := @readField_padded 4 date.year (by decide) possible.year rest
  have two (value : Nat) (small : value < 100) (rest : List Char) := @readField_padded 2 value (by decide) small rest
  have sign : ∃ mark rest, date.offsetText = mark :: rest ∧ mark ≠ '.' := by
    refine ⟨_, _, rfl, ?_⟩
    split <;> decide
  obtain ⟨mark, tail, offset, other⟩ := sign
  have fraction := readFraction_text possible.microsecond tail mark other
  have read := readOffset_offsetText possible.offset
  rw [offset] at read
  have month := possible.month
  have day := possible.day
  have hour := possible.hour
  have minute := possible.minute
  have second := possible.second
  rw [readIso, Datetime.isoformat, String.toList_ofList, Datetime.clockText, offset]
  simp only [List.append_assoc, List.cons_append, List.nil_append]
  rw [year]
  simp only [Option.bind_eq_bind, Option.bind_some, expect_mark, two date.month (by omega), two date.day (by omega),
    two date.hour (by omega), two date.minute (by omega), two date.second (by omega), fraction, read]
  rfl

end AutonomousApi.IsoDatetime
