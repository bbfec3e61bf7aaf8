import Calculator.Position

namespace Calculator

inductive Leaf where
  | absent
  | number (value : Int) (position : Position)
  | identifier (name : String) (position : Position)
deriving DecidableEq, Repr, Inhabited

structure Operator where
  symbol : String
  position : Position
deriving DecidableEq, Repr, Inhabited

inductive Tree where
  | leaf (leaf : Leaf)
  | node (operator : Operator) (left right : Tree)
deriving DecidableEq, Repr, Inhabited

def Leaf.text? : Leaf → Option String
  | .absent => none
  | .number value _ => some (toString value)
  | .identifier name _ => some name

namespace Tree

abbrev absent : Tree := .leaf .absent

abbrev number (value : Int) (position : Position) : Tree := .leaf (.number value position)

abbrev identifier (name : String) (position : Position) : Tree := .leaf (.identifier name position)

def size : Tree → Nat
  | leaf _ => 1
  | node _ left right => left.size + right.size + 1

def literal? : Tree → Option Int
  | leaf (.number value _) => some value
  | _ => none

theorem eq_number_of_literal? {t : Tree} {value : Int} (h : t.literal? = some value) :
    ∃ place, t = number value place := by
  rcases t with l | _
  · cases l with
    | number value' place =>
      cases h
      exact ⟨place, rfl⟩
    | absent => cases h
    | identifier name place => cases h
  · cases h

end Tree

end Calculator
