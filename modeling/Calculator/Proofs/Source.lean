import Calculator.Lexer
import Mathlib.Algebra.Group.Nat.Defs
import Mathlib.Data.List.Basic
import Mathlib.Data.List.Induction

namespace Calculator

namespace Numeral

theorem value_append_singleton (ds : List Char) (c : Char) :
    value (ds ++ [c]) = 10 * value ds + Digit.value c := by
  simp [value]

theorem value_lt (ds : List Char) : value ds < 10 ^ ds.length := by
  induction ds using List.reverseRecOn with
  | nil => simp [value]
  | append_singleton ds c ih =>
    have hc := Digit.value_lt c
    rw [value_append_singleton, List.length_append, List.length_singleton, Nat.pow_succ]
    omega

end Numeral

theorem digit_range {c : Char} (h : c.isDigit = true) : 0x30 ≤ c.toNat ∧ c.toNat ≤ 0x39 :=
  Char.isDigit_iff_toNat.mp h

theorem find?_digit {c : Char} (h : c.isDigit = true) :
    Digit.ranges.find? c.toNat = some (0x30, 0x39) := by
  obtain ⟨hl, hu⟩ := digit_range h
  rw [Digit.ranges, Ranges.find?, if_neg (by omega), if_pos hu]

theorem isDigit_of_ascii {c : Char} (h : c.isDigit = true) : isDigit c = true := by
  rw [isDigit, Ranges.contains, find?_digit h]
  rfl

theorem digitValue_of_ascii {c : Char} (h : c.isDigit = true) :
    Digit.value c = c.toNat - '0'.toNat := by
  obtain ⟨hl, hu⟩ := digit_range h
  have h0 : '0'.toNat = 0x30 := rfl
  simp only [Digit.value, find?_digit h, h0]
  omega

theorem value_of_ascii {ds : List Char} (h : ∀ c ∈ ds, c.isDigit = true) :
    Numeral.value ds = Nat.ofDigitChars 10 ds 0 := by
  rw [Numeral.value, Nat.ofDigitChars_eq_foldl]
  apply List.foldl_ext
  intro n c hc
  rw [digitValue_of_ascii (h c hc)]

theorem value_toDigits (n : Nat) : Numeral.value (Nat.toDigits 10 n) = n := by
  rw [value_of_ascii fun c hc => Nat.isDigit_of_mem_toDigits (by decide) (by decide) hc]
  exact Nat.ofDigitChars_ten_toDigits

inductive Source : Lexeme → List Char → Prop
  | number {ds : List Char} (nonempty : ds ≠ []) (digits : ∀ c ∈ ds, isDigit c = true)
      (short : ds.length ≤ Numeral.maxDigits) : Source (.number (Numeral.value ds)) ds
  | identifier {c : Char} {cs : List Char} (letter : isLetter c = true)
      (parts : ∀ d ∈ cs, isWordPart d = true) :
      Source (.identifier (String.ofList (c :: cs))) (c :: cs)
  | symbol {c : Char} (noBlank : isBlank c = false) (noDigit : isDigit c = false)
      (noLetter : isLetter c = false) : Source (.symbol (String.singleton c)) [c]

def Lexeme.Closes : Lexeme → List Char → Prop
  | .number _, rest => ∀ c ∈ rest.head?, isDigit c = false
  | .identifier _, rest => ∀ c ∈ rest.head?, isWordPart c = false
  | _, _ => True

variable {lexeme : Lexeme} {source rest : List Char}

theorem source_digits (n : Nat) (h : n < 10 ^ Numeral.maxDigits) :
    Source (.number n) (Nat.toDigits 10 n) := by
  have hd (c : Char) (hc : c ∈ Nat.toDigits 10 n) : isDigit c = true :=
    isDigit_of_ascii (Nat.isDigit_of_mem_toDigits (by decide) (by decide) hc)
  have hl : (Nat.toDigits 10 n).length ≤ Numeral.maxDigits :=
    (Nat.length_toDigits_le_iff (by decide) (by decide)).mpr h
  have hs := Source.number Nat.toDigits_ne_nil hd hl
  rw [value_toDigits] at hs
  exact hs

theorem Source.text (h : Source lexeme source) : Source lexeme lexeme.text.toList := by
  cases h with
  | number _ _ short =>
    have hv : Numeral.value source < 10 ^ Numeral.maxDigits :=
      Nat.lt_of_lt_of_le (Numeral.value_lt source) (Nat.pow_le_pow_right (by decide) short)
    have ht : (Lexeme.number (Numeral.value source)).text.toList =
        Nat.toDigits 10 (Numeral.value source) := Nat.toList_repr
    rw [ht]
    exact source_digits _ hv
  | identifier letter parts =>
    rw [Lexeme.text, String.toList_ofList]
    exact .identifier letter parts
  | symbol noBlank noDigit noLetter =>
    rw [Lexeme.text, String.toList_singleton]
    exact .symbol noBlank noDigit noLetter

theorem Source.ne_ending (h : Source lexeme source) : lexeme ≠ .ending := by
  cases h <;> simp

theorem Lexeme.closes_of_head (lexeme : Lexeme)
    (h : ∀ c ∈ rest.head?, isWordPart c = false) : lexeme.Closes rest := by
  cases lexeme with
  | number value =>
    intro c hc
    have hp := h c hc
    rw [Bool.eq_false_iff]
    intro hd
    rw [isWordPart_of_isDigit hd] at hp
    cases hp
  | identifier name => exact h
  | symbol text => trivial
  | ending => trivial

end Calculator
