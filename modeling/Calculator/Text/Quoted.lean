import Calculator.Text.Printable

/-!
Quoted text: a string between quotation marks, with escapes for the mark, for the backslash and for
what cannot be shown. The mark is a double one only where the text holds a single and no double one.
-/

namespace Calculator.Quoted

def mark (cs : List Char) : Char :=
  if '\'' ∈ cs ∧ '"' ∉ cs then '"' else '\''

def hex : Nat → Nat → List Char
  | 0, _ => []
  | width + 1, n => hex width (n / 16) ++ [Nat.digitChar (n % 16)]

def escape (printable : Char → Bool) (mark c : Char) : List Char :=
  if c = mark ∨ c = '\\' then ['\\', c]
  else if c = '\n' then ['\\', 'n']
  else if c = '\r' then ['\\', 'r']
  else if c = '\t' then ['\\', 't']
  else if printable c then [c]
  else if c.toNat < 0x100 then '\\' :: 'x' :: hex 2 c.toNat
  else if c.toNat < 0x10000 then '\\' :: 'u' :: hex 4 c.toNat
  else '\\' :: 'U' :: hex 8 c.toNat

def encode (printable : Char → Bool) (cs : List Char) : List Char :=
  mark cs :: cs.flatMap (escape printable (mark cs)) ++ [mark cs]

def text (printable : Char → Bool) (s : String) : String :=
  String.ofList (encode printable s.toList)

theorem hex_length (width n : Nat) : (hex width n).length = width := by
  induction width generalizing n with
  | zero => rfl
  | succ width ih => simp [hex, ih]

end Calculator.Quoted

namespace Calculator

def quoted (s : String) : String := Quoted.text isPrintable s

end Calculator
