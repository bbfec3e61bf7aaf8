import Calculator.Text.Digit
import Calculator.Text.Quoted

namespace Calculator.Numeral

def maxDigits : Nat := 4300

inductive Error where
  | malformed (text : List Char)
  | tooLong (digits : Nat)
deriving DecidableEq, Repr

def Error.message : Error → String
  | .malformed text =>
    "invalid literal for int() with base 10: " ++ quoted (String.ofList text)
  | .tooLong digits =>
    "Exceeds the limit (" ++ toString maxDigits ++
      " digits) for integer string conversion: value has " ++ toString digits ++
      " digits; use sys.set_int_max_str_digits() to increase the limit"

def value (ds : List Char) : Nat := ds.foldl (fun n c => 10 * n + Digit.value c) 0

def read (ds : List Char) : Except Error Nat :=
  if ds.isEmpty || !ds.all isDigit then .error (.malformed ds)
  else if maxDigits < ds.length then .error (.tooLong ds.length)
  else .ok (value ds)

theorem read_eq_ok_iff {ds : List Char} {n : Nat} :
    read ds = .ok n ↔
      ds ≠ [] ∧ (∀ c ∈ ds, isDigit c = true) ∧ ds.length ≤ maxDigits ∧ value ds = n := by
  unfold read
  split
  · rename_i h
    simp only [reduceCtorEq, false_iff]
    intro ⟨hne, hall, _⟩
    simp [List.isEmpty_iff, hne] at h
    obtain ⟨c, hc, hd⟩ := h
    simp [hall c hc] at hd
  · rename_i h
    simp [List.isEmpty_iff] at h
    split
    · simp only [reduceCtorEq, false_iff]
      omega
    · simp only [Except.ok.injEq]
      exact ⟨fun e => ⟨h.1, h.2, by omega, e⟩, fun e => e.2.2.2⟩

theorem toList_toString (n : Int) : (toString n).toList =
    if n < 0 then '-' :: Nat.toDigits 10 n.natAbs else Nat.toDigits 10 n.natAbs := by
  cases n with
  | ofNat k => exact Nat.toList_repr
  | negSucc k =>
    rw [if_pos (Int.negSucc_lt_zero k)]
    exact String.toList_append.trans (congrArg ('-' :: ·) Nat.toList_repr)

end Calculator.Numeral
