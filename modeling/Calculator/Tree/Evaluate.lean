import Calculator.Diagnostic
import Calculator.Tree.Fragments
import Calculator.Tree.Walk

namespace Calculator

structure Arithmetic (α : Type) where
  ofInt : Int → α
  add : α → α → α
  sub : α → α → α
  mul : α → α → α
  div : α → α → α
  isZero : α → Bool

inductive EvaluationError where
  | absentOperand
  | identifierWithoutValue (name : String) (position : Position)
  | zeroDivisor (operator : Operator) (left right : Tree)
  | unknownOperator (operator : Operator)
deriving DecidableEq, Repr

namespace EvaluationError

def diagnostic? : EvaluationError → Option Diagnostic
  | absentOperand => none
  | identifierWithoutValue name position =>
    some ⟨.evaluation, position, Wording.identifierWithoutValue name⟩
  | zeroDivisor o left right =>
    some ⟨.evaluation, o.position, Wording.zeroDivisor (Tree.node o left right).render⟩
  | unknownOperator o => some ⟨.evaluation, o.position, Wording.unknownOperator o.symbol⟩

def text (error : EvaluationError) : String :=
  match error.diagnostic? with
  | some diagnostic => diagnostic.text
  | none => Wording.absentOperand

end EvaluationError

namespace Arithmetic

variable {α : Type} (arithmetic : Arithmetic α)

def leafValue : Leaf → Except EvaluationError α
  | .absent => .error .absentOperand
  | .number value _ => .ok (arithmetic.ofInt value)
  | .identifier name position => .error (.identifierWithoutValue name position)

def operate (o : Operator) (left right : Tree) (a b : α) : Except EvaluationError α :=
  if o.symbol = "+" then .ok (arithmetic.add a b)
  else if o.symbol = "-" then .ok (arithmetic.sub a b)
  else if o.symbol = "*" then .ok (arithmetic.mul a b)
  else if o.symbol = "/" then
    if arithmetic.isZero b then .error (.zeroDivisor o left right) else .ok (arithmetic.div a b)
  else .error (.unknownOperator o)

end Arithmetic

namespace Tree

variable {α : Type} (arithmetic : Arithmetic α)

def evaluate (tree : Tree) : Except EvaluationError α :=
  tree.walkM arithmetic.leafValue arithmetic.operate

def isNumerical (tree : Tree) : Bool :=
  (tree.walkM (fun l => pure (leaf l).literal?.isSome) (fun _ _ _ a b => pure (a && b)) : Id Bool).run

theorem evaluate_leaf (l : Leaf) : (leaf l).evaluate arithmetic = arithmetic.leafValue l := by
  rw [evaluate, walkM_eq_foldM, foldM]

theorem evaluate_node (o : Operator) (left right : Tree) :
    (node o left right).evaluate arithmetic =
      (left.evaluate arithmetic >>= fun a => right.evaluate arithmetic >>= fun b =>
        arithmetic.operate o left right a b) := by
  simp only [evaluate, walkM_eq_foldM, foldM]

theorem isNumerical_leaf (l : Leaf) : (leaf l).isNumerical = (leaf l).literal?.isSome := by
  simp [isNumerical, walkM_eq_foldM, foldM]

theorem isNumerical_node (o : Operator) (left right : Tree) :
    (node o left right).isNumerical = (left.isNumerical && right.isNumerical) := by
  simp [isNumerical, walkM_eq_foldM, foldM]

end Tree

end Calculator
