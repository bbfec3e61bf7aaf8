import Calculator.Tree.Evaluate

/-!
Doubles: the arithmetic of IEEE 754 binary64 with numerals rounded to nearest, ties to even. A
numeral past the range of doubles becomes positive infinity, whatever its sign.
-/

namespace Calculator

def roundDiv (n d : Nat) : Nat :=
  let q := n / d
  let r := n % d
  if 2 * r < d then q
  else if d < 2 * r then q + 1
  else if q % 2 = 0 then q
  else q + 1

namespace Double

def fractionBits : Nat := 52

def exponentBias : Nat := 1023

def infinityBits : Nat := 2047 * Nat.pow 2 fractionBits

def bitsOfNat (n : Nat) : Nat :=
  if n = 0 then 0
  else
    let one := Nat.pow 2 fractionBits
    let significand := roundDiv (n * one) (Nat.pow 2 n.log2)
    min infinityBits ((n.log2 + exponentBias) * one + (significand - one))

def ofNat (n : Nat) : Float := Float.ofBits (UInt64.ofNat (bitsOfNat n))

def ofInt (n : Int) : Float :=
  if n < 0 ∧ bitsOfNat n.natAbs ≠ infinityBits then -(ofNat n.natAbs) else ofNat n.natAbs

inductive Parts where
  | nan
  | infinite (negative : Bool)
  | finite (negative : Bool) (significand : Nat) (exponent : Int)
deriving DecidableEq, Repr

def partsOfBits (bits : Nat) : Parts :=
  let one := Nat.pow 2 fractionBits
  let negative := bits / Nat.pow 2 63 = 1
  let exponent := bits / one % 2048
  let fraction := bits % one
  if exponent = 2047 then if fraction = 0 then .infinite negative else .nan
  else if exponent = 0 then .finite negative fraction (-1074)
  else .finite negative (fraction + one) (exponent - 1075)

def parts (x : Float) : Parts := partsOfBits x.toBits.toNat

end Double

def Arithmetic.double : Arithmetic Float where
  ofInt := Double.ofInt
  add := (· + ·)
  sub := (· - ·)
  mul := (· * ·)
  div := (· / ·)
  isZero := (· == 0)

end Calculator
