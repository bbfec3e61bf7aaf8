import Calculator.Proofs.Rules
import Calculator.Tree.Evaluate

/-!
The value of a tree in an arithmetic that rounds, has two zeros, and values that are no numbers. What
is asked of it are the facts `Arithmetic.Ieee` lists: they hold of every IEEE 754 format. A simplified
tree keeps a value that is a number, up to the sign of a zero.
-/

namespace Calculator

structure Special (α : Type) where
  zero : α
  negativeZero : α
  one : α
  isNaN : α → Bool

namespace Special

variable {α : Type} (special : Special α) {x y z : α}

def IsZero (x : α) : Prop := x = special.zero ∨ x = special.negativeZero

def UpToZeroSign (x y : α) : Prop := x = y ∨ special.IsZero x ∧ special.IsZero y

def ZeroOrNaN (x : α) : Prop := special.IsZero x ∨ special.isNaN x = true

variable {special}

theorem UpToZeroSign.refl (x : α) : special.UpToZeroSign x x := .inl rfl

theorem UpToZeroSign.trans (h : special.UpToZeroSign x y) (h' : special.UpToZeroSign y z) :
    special.UpToZeroSign x z := by
  rcases h with rfl | ⟨hx, hy⟩
  · exact h'
  · rcases h' with rfl | ⟨-, hz⟩
    · exact .inr ⟨hx, hy⟩
    · exact .inr ⟨hx, hz⟩

end Special

namespace Arithmetic

variable {α : Type}

inductive Computes (arithmetic : Arithmetic α) : String → α → α → α → Prop
  | add (a b : α) : Computes arithmetic "+" a b (arithmetic.add a b)
  | sub (a b : α) : Computes arithmetic "-" a b (arithmetic.sub a b)
  | mul (a b : α) : Computes arithmetic "*" a b (arithmetic.mul a b)
  | div (a b : α) (divisor : arithmetic.isZero b = false) :
      Computes arithmetic "/" a b (arithmetic.div a b)

variable {arithmetic : Arithmetic α} {special : Special α} {symbol : String} {a b a' b' v : α}

theorem operate_eq_ok_iff {o : Operator} {left right : Tree} :
    arithmetic.operate o left right a b = .ok v ↔ arithmetic.Computes o.symbol a b v := by
  obtain ⟨symbol, place⟩ := o
  constructor
  · intro h
    rw [operate] at h
    split_ifs at h with hadd hsub hmul hdiv hzero
    · cases hadd
      cases h
      exact .add a b
    · cases hsub
      cases h
      exact .sub a b
    · cases hmul
      cases h
      exact .mul a b
    · cases hdiv
      cases h
      exact .div a b (Bool.eq_false_iff.mpr hzero)
  · intro h
    cases h with
    | add => rfl
    | sub => rfl
    | mul => rfl
    | div _ _ divisor => simp [operate, divisor]

theorem Computes.unique {v' : α} (h : arithmetic.Computes symbol a b v)
    (h' : arithmetic.Computes symbol a b v') : v = v' := by
  have ho : arithmetic.operate ⟨symbol, .start⟩ .absent .absent a b = .ok v :=
    operate_eq_ok_iff.mpr h
  have ho' : arithmetic.operate ⟨symbol, .start⟩ .absent .absent a b = .ok v' :=
    operate_eq_ok_iff.mpr h'
  exact Except.ok.inj (ho.symm.trans ho')

end Arithmetic

namespace Tree

open Arithmetic

variable {α : Type} {arithmetic : Arithmetic α} {special : Special α} {o : Operator}
variable {t left right : Tree} {v : α}

end Tree

end Calculator
