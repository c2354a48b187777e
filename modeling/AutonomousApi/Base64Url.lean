import Mathlib.Data.List.Basic

/-! Base64 with the url-safe alphabet: the encoder, and the lenient decoder that passes over what is not in the
alphabet. Decoding undoes encoding, also where the padding was taken off and is put back from the length. -/

namespace AutonomousApi.Base64Url

/-- The symbol of six bits. -/
def symbol (bits : Nat) : Char :=
  if bits < 26 then Char.ofNat (65 + bits)
  else if bits < 52 then Char.ofNat (71 + bits)
  else if bits < 62 then Char.ofNat (bits - 4)
  else if bits = 62 then '-'
  else '_'

def encode64 : List UInt8 → List Char
  | [] => []
  | [a] => [symbol (a.toNat / 4), symbol (a.toNat % 4 * 16), '=', '=']
  | [a, b] => [symbol (a.toNat / 4), symbol (a.toNat % 4 * 16 + b.toNat / 16), symbol (b.toNat % 16 * 4), '=']
  | a :: b :: c :: rest =>
      symbol (a.toNat / 4) :: symbol (a.toNat % 4 * 16 + b.toNat / 16) ::
        symbol (b.toNat % 16 * 4 + c.toNat / 64) :: symbol (c.toNat % 64) :: encode64 rest

/-- The six bits of a symbol; the decoder reads the plain alphabet as well. -/
def bitsOf (c : Char) : Option Nat :=
  if 'A' ≤ c ∧ c ≤ 'Z' then some (c.toNat - 65)
  else if 'a' ≤ c ∧ c ≤ 'z' then some (c.toNat - 71)
  else if '0' ≤ c ∧ c ≤ '9' then some (c.toNat + 4)
  else if c = '-' ∨ c = '+' then some 62
  else if c = '_' ∨ c = '/' then some 63
  else none

/-- The loop of `a2b_base64` without `strict`: the place in the group of four, the bits left over and the padding
met in a row. A group that padding completes ends the text. -/
def decodeLoop : Nat → Nat → Nat → List Char → Option (List UInt8)
  | place, _, _, [] => if place = 0 then some [] else none
  | place, left, pads, c :: rest =>
      if c = '=' then
        if 2 ≤ place then
          if 4 ≤ place + (pads + 1) then some [] else decodeLoop place left (pads + 1) rest
        else decodeLoop place left pads rest
      else
        match bitsOf c, place with
        | none, _ => decodeLoop place left pads rest
        | some bits, 0 => decodeLoop 1 bits 0 rest
        | some bits, 1 => (decodeLoop 2 (bits % 16) 0 rest).map (UInt8.ofNat (left * 4 + bits / 16) :: ·)
        | some bits, 2 => (decodeLoop 3 (bits % 4) 0 rest).map (UInt8.ofNat (left * 16 + bits / 4) :: ·)
        | some bits, _ => (decodeLoop 0 0 0 rest).map (UInt8.ofNat (left * 64 + bits) :: ·)

/-- `urlsafe_b64decode` of a text, which must be ascii. -/
def decode64 (text : List Char) : Option (List UInt8) :=
  if text.all fun c => decide (c.toNat < 128) then decodeLoop 0 0 0 text else none

/-- The encoding without its padding. -/
def b64 (data : List UInt8) : List Char := ((encode64 data).reverse.dropWhile (· == '=')).reverse

/-- Decoding with the padding that the length asks for. -/
def unb64 (text : List Char) : Option (List UInt8) := decode64 (text ++ List.replicate ((4 - text.length % 4) % 4) '=')

theorem bitsOf_symbol {bits : Nat} (small : bits < 64) : bitsOf (symbol bits) = some bits := by
  revert bits
  decide

/-- What symbols are not. -/
theorem symbol_plain (bits : Nat) :
    symbol bits ≠ '=' ∧ symbol bits ≠ '.' ∧ 32 < (symbol bits).toNat ∧ (symbol bits).toNat < 127 := by
  by_cases small : bits < 64
  · revert bits
    decide
  · have last : symbol bits = '_' := by
      unfold symbol
      split_ifs <;> first | rfl | omega
    rw [last]
    decide

section

variable {bits : Nat} (small : bits < 64) (left pads : Nat) (rest : List Char)

include small

attribute [local simp] decodeLoop

theorem decodeLoop_first : decodeLoop 0 left pads (symbol bits :: rest) = decodeLoop 1 bits 0 rest := by
  simp [(symbol_plain bits).1, bitsOf_symbol small]

theorem decodeLoop_second : decodeLoop 1 left pads (symbol bits :: rest) =
    (decodeLoop 2 (bits % 16) 0 rest).map (UInt8.ofNat (left * 4 + bits / 16) :: ·) := by
  simp [(symbol_plain bits).1, bitsOf_symbol small]

theorem decodeLoop_third : decodeLoop 2 left pads (symbol bits :: rest) =
    (decodeLoop 3 (bits % 4) 0 rest).map (UInt8.ofNat (left * 16 + bits / 4) :: ·) := by
  simp [(symbol_plain bits).1, bitsOf_symbol small]

theorem decodeLoop_fourth : decodeLoop 3 left pads (symbol bits :: rest) =
    (decodeLoop 0 0 0 rest).map (UInt8.ofNat (left * 64 + bits) :: ·) := by
  simp [(symbol_plain bits).1, bitsOf_symbol small]

end

theorem ofNat_of_toNat (byte : UInt8) {value : Nat} (same : value = byte.toNat) : UInt8.ofNat value = byte := by
  rw [same, UInt8.ofNat_toNat]

variable (data : List UInt8)

theorem decodeLoop_encode64 : decodeLoop 0 0 0 (encode64 data) = some data := by
  induction data using encode64.induct with
  | case1 => rfl
  | case2 a =>
      have bound := a.toNat_lt
      rw [encode64, decodeLoop_first (by omega), decodeLoop_second (by omega), ofNat_of_toNat a (by omega)]
      rfl
  | case3 a b =>
      have bound := a.toNat_lt
      have boundB := b.toNat_lt
      rw [encode64, decodeLoop_first (by omega), decodeLoop_second (by omega), decodeLoop_third (by omega),
        ofNat_of_toNat a (by omega), ofNat_of_toNat b (by omega)]
      rfl
  | case4 a b c rest ih =>
      have bound := a.toNat_lt
      have boundB := b.toNat_lt
      have boundC := c.toNat_lt
      rw [encode64, decodeLoop_first (by omega), decodeLoop_second (by omega), decodeLoop_third (by omega),
        decodeLoop_fourth (by omega), ih, ofNat_of_toNat a (by omega), ofNat_of_toNat b (by omega),
        ofNat_of_toNat c (by omega)]
      rfl

/-- An encoding is symbols and as many padding marks as its length lacks. -/
theorem encode64_split : ∃ text, encode64 data =
    text ++ List.replicate ((4 - text.length % 4) % 4) '=' ∧ ∀ c ∈ text, ∃ bits, symbol bits = c := by
  induction data using encode64.induct with
  | case1 => exact ⟨[], rfl, by simp⟩
  | case2 a => exact ⟨[symbol (a.toNat / 4), symbol (a.toNat % 4 * 16)], rfl, by simp⟩
  | case3 a b =>
      exact ⟨[symbol (a.toNat / 4), symbol (a.toNat % 4 * 16 + b.toNat / 16), symbol (b.toNat % 16 * 4)], rfl, by simp⟩
  | case4 a b c rest ih =>
      obtain ⟨text, split, symbols⟩ := ih
      refine ⟨[symbol (a.toNat / 4), symbol (a.toNat % 4 * 16 + b.toNat / 16),
        symbol (b.toNat % 16 * 4 + c.toNat / 64), symbol (c.toNat % 64)] ++ text, ?_, ?_⟩
      · rw [encode64, split, List.length_append]
        change _ = _ ++ List.replicate ((4 - (4 + text.length) % 4) % 4) '='
        rw [Nat.add_mod_left]
        rfl
      · intro d member
        rcases List.mem_append.mp member with group | later
        · simp only [List.mem_cons, List.not_mem_nil, or_false] at group
          rcases group with rfl | rfl | rfl | rfl <;> exact ⟨_, rfl⟩
        · exact symbols d later

theorem dropWhile_replicate (marks : Nat) (rest : List Char) (ends : ∀ c ∈ rest.head?, c ≠ '=') :
    (List.replicate marks '=' ++ rest).dropWhile (· == '=') = rest := by
  induction marks with
  | zero =>
      cases rest with
      | nil => rfl
      | cons first more =>
          have visible : (first == '=') = false := by simpa using ends first rfl
          rw [List.replicate_zero, List.nil_append, List.dropWhile_cons, visible]
          rfl
  | succ marks ih => simpa [List.replicate_succ] using ih

/-- Taking the padding off leaves the symbols. -/
theorem encode64_b64 :
    encode64 data = b64 data ++ List.replicate ((4 - (b64 data).length % 4) % 4) '=' ∧
      ∀ c ∈ b64 data, ∃ bits, symbol bits = c := by
  obtain ⟨text, split, symbols⟩ := encode64_split data
  have stripped : b64 data = text := by
    rw [b64, split, List.reverse_append, List.reverse_replicate, dropWhile_replicate, List.reverse_reverse]
    intro c first
    obtain ⟨bits, rfl⟩ := symbols c (List.mem_reverse.mp (List.mem_of_mem_head? first))
    exact (symbol_plain bits).1
  rw [stripped]
  exact ⟨split, symbols⟩

theorem encode64_ascii : (encode64 data).all (fun c => decide (c.toNat < 128)) = true := by
  obtain ⟨split, symbols⟩ := encode64_b64 data
  rw [split, List.all_append, Bool.and_eq_true, List.all_eq_true, List.all_eq_true]
  constructor
  · intro c member
    obtain ⟨bits, rfl⟩ := symbols c member
    have bound := (symbol_plain bits).2.2.2
    exact decide_eq_true (by omega)
  · intro c member
    rw [List.eq_of_mem_replicate member]
    decide

/-- The padding that was taken off is the padding the length asks for. -/
theorem unb64_b64 : unb64 (b64 data) = some data := by
  rw [unb64, ← (encode64_b64 data).1, decode64, if_pos (encode64_ascii data), decodeLoop_encode64]

theorem b64_plain {data : List UInt8} {c : Char} (member : c ∈ b64 data) : c ≠ '.' ∧ 32 < c.toNat ∧ c.toNat < 127 := by
  obtain ⟨bits, rfl⟩ := (encode64_b64 data).2 c member
  exact (symbol_plain bits).2

example : String.ofList (b64 [255, 254, 1, 2]) = "__4BAg" := by decide

end AutonomousApi.Base64Url
