import Calculator.Double

/-!
Doubles in decimal with six significant digits, rounded from the exact value, ties to even. Trailing
zeros of the fraction are left out; a value whose decimal exponent is below minus four or above five
is written with an exponent of at least two digits.
-/

namespace Calculator.Significant

def places : Nat := 6

def leastPositional : Int := -4

def leastExponentDigits : Nat := 2

def digits (n : Nat) : List Char := Nat.toDigits 10 n

def decimalExponent (n d : Nat) : Int :=
  if d ≤ n then (digits (n / d)).length - 1
  else -(digits ((d + n - 1) / n - 1)).length

def rounded (n d : Nat) : Nat × Int :=
  let exponent := decimalExponent n d
  let shift := places - 1 - exponent
  let significand := roundDiv (n * Nat.pow 10 shift.toNat) (d * Nat.pow 10 (-shift).toNat)
  if significand = Nat.pow 10 places then (Nat.pow 10 (places - 1), exponent + 1)
  else (significand, exponent)

def dropZeros (ds : List Char) : List Char := (ds.reverse.dropWhile (· == '0')).reverse

def fraction (ds : List Char) : List Char :=
  match dropZeros ds with
  | [] => []
  | ds => '.' :: ds

def positional (ds : List Char) (exponent : Int) : List Char :=
  if exponent < 0 then '0' :: fraction (List.replicate (-exponent - 1).toNat '0' ++ ds)
  else ds.take (exponent.toNat + 1) ++ fraction (ds.drop (exponent.toNat + 1))

def padded (ds : List Char) : List Char :=
  List.replicate (leastExponentDigits - ds.length) '0' ++ ds

def withExponent (ds : List Char) (exponent : Int) : List Char :=
  ds.take 1 ++ fraction (ds.drop 1) ++
    'e' :: (if exponent < 0 then '-' else '+') :: padded (digits exponent.natAbs)

def magnitude (n d : Nat) : List Char :=
  if n = 0 then ['0']
  else
    let (significand, exponent) := rounded n d
    if leastPositional ≤ exponent ∧ exponent < places then positional (digits significand) exponent
    else withExponent (digits significand) exponent

def sign (negative : Bool) : List Char := if negative then ['-'] else []

def ofParts : Double.Parts → List Char
  | .nan => ['n', 'a', 'n']
  | .infinite negative => sign negative ++ ['i', 'n', 'f']
  | .finite negative significand exponent =>
    sign negative ++
      magnitude (significand * Nat.pow 2 exponent.toNat) (Nat.pow 2 (-exponent).toNat)

def text (x : Float) : String := String.ofList (ofParts (Double.parts x))

end Calculator.Significant
