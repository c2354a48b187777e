import Mathlib.Data.List.Dedup
import Mathlib.Data.List.Sort
import Mathlib.Data.String.Basic

/-! Python text operations over the Unicode character data. The database itself
changes between Python releases, so it is a parameter: the classes that `str`
methods and `re` read, with case conversion on whole strings because lowering a
character can depend on its neighbours. `asciiTable` is the ASCII part. -/

namespace AutonomousApi.PythonText

structure CharTable where
  isAlnum : Char → Bool
  isSpace : Char → Bool
  isDigit : Char → Bool
  isDecimal : Char → Bool
  upper : Char → List Char
  lower : List Char → List Char
  sameLetter : Char → Char → Bool

def upperAscii (c : Char) : Char := if 'a' ≤ c ∧ c ≤ 'z' then Char.ofNat (c.toNat - 32) else c

def lowerAscii (c : Char) : Char := if 'A' ≤ c ∧ c ≤ 'Z' then Char.ofNat (c.toNat + 32) else c

def asciiTable : CharTable where
  isAlnum c := ('a' ≤ c && c ≤ 'z') || ('A' ≤ c && c ≤ 'Z') || ('0' ≤ c && c ≤ '9')
  isSpace c := [' ', '\t', '\n', '\r', '\x0b', '\x0c', '\x1c', '\x1d', '\x1e', '\x1f'].contains c
  isDigit c := '0' ≤ c && c ≤ '9'
  isDecimal c := '0' ≤ c && c ≤ '9'
  upper c := [upperAscii c]
  lower chars := chars.map lowerAscii
  sameLetter left right := lowerAscii left == lowerAscii right

/-- `sorted(set(texts))`; strings compare by code point. -/
def sortedSet (texts : List String) : List String := texts.dedup.insertionSort (· ≤ ·)

@[simp] theorem mem_sortedSet {text : String} {texts : List String} : text ∈ sortedSet texts ↔ text ∈ texts := by
  rw [sortedSet, List.mem_insertionSort, List.mem_dedup]

/-- A sorted set depends on its members only. -/
theorem sortedSet_congr {left right : List String} (same : ∀ text, text ∈ left ↔ text ∈ right) :
    sortedSet left = sortedSet right := by
  have members : left.dedup.Perm right.dedup :=
    (List.perm_ext_iff_of_nodup left.nodup_dedup right.nodup_dedup).mpr fun text => by
      rw [List.mem_dedup, List.mem_dedup, same]
  have reordered : (sortedSet left).Perm (sortedSet right) :=
    (List.perm_insertionSort _ _).trans (members.trans (List.perm_insertionSort _ _).symm)
  exact reordered.eq_of_pairwise' (List.pairwise_insertionSort _ _) (List.pairwise_insertionSort _ _)

theorem sortedSet_isEmpty (texts : List String) : (sortedSet texts).isEmpty = true ↔ texts = [] := by
  have length := (List.perm_insertionSort (· ≤ ·) texts.dedup).length_eq
  rw [sortedSet, List.isEmpty_iff, ← List.length_eq_zero_iff, length, List.length_eq_zero_iff, List.dedup_eq_nil]

variable (table : CharTable)

/-- The class `\w`. -/
def isWord (c : Char) : Bool := table.isAlnum c || c == '_'

/-- `str.strip` without argument. -/
def strip (chars : List Char) : List Char :=
  ((chars.dropWhile table.isSpace).reverse.dropWhile table.isSpace).reverse

/-- The text after the first colon, or all of it: `text.split(":", 1)[-1]`. -/
def afterColon (chars : List Char) : List Char :=
  match chars.dropWhile (· != ':') with
  | [] => chars
  | _ :: rest => rest

/-- One alternative of `\b(?:...)\b` with `re.IGNORECASE`, tried at a place with a
word boundary before it; the terms begin and end with word characters. -/
def termAt : List Char → List Char → Bool
  | [], rest => !(rest.head?.any (isWord table))
  | _ :: _, [] => false
  | t :: term, c :: rest => table.sameLetter t c && termAt term rest

def searchTerms (terms : List String) : Bool → List Char → Option String
  | _, [] => none
  | afterWord, c :: rest =>
      match (if afterWord then none else terms.find? fun term => termAt table term.toList (c :: rest)) with
      | some term => some term
      | none => searchTerms terms (isWord table c) rest

end AutonomousApi.PythonText
