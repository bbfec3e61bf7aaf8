import Calculator.Double.Significant
import Calculator.Lexer
import Calculator.Parser
import Calculator.Store
import Calculator.Tree.Simplify

/-!
The answer to one line of input: an echo of its tokens, then the expression they make, its value or
a word about why there is none, and its simplified form. A numeral that cannot be read and a divisor
that is zero leave no answer.

The expression lives in a `Workspace`; the answers do not depend on which one it is.
-/

namespace Calculator

structure Workspace (m : Type → Type) (ν : Type) extends Builder m ν where
  view : ν → m Tree
  simplify : ν → m ν

def Tree.workspace : Workspace Id Tree where
  toBuilder := Tree.builder
  view tree := pure tree
  simplify tree := pure tree.simplify

def Store.workspace : Workspace (StateM Store) Link where
  toBuilder := Store.builder
  view link := do return (← get).read link
  simplify link := modifyGet (·.simplify link)

inductive Escape where
  | numeral (error : Numeral.Error)
  | evaluation (error : EvaluationError)
deriving DecidableEq, Repr

def Escape.text : Escape → String
  | .numeral error => error.message
  | .evaluation error => error.text

structure Reply where
  tokens : List Token
  removals : List Removal
  outcome : Except Escape (List String)
  simplified? : Option Tree

namespace Reply

def notAnExpression : String := "this is not an expression"

def notNumerical : String := "this is not a numerical expression"

def writtenLine (tree : Tree) : String := "in infix notation: " ++ tree.render

def valueLine (value : Float) : String := "the value is " ++ Significant.text value

def simplifiedLine (tree : Tree) : String := "simplified: " ++ tree.render

def valueOf (tree simplified : Tree) : Except EvaluationError String :=
  if tree.isNumerical then (simplified.evaluate .double).map valueLine else .ok notNumerical

variable {m : Type → Type} [Monad m] {ν : Type} (workspace : Workspace m ν)

def toExpression (tokens : List Token) (root : ν) : m Reply := do
  let tree ← workspace.view root
  let root ← workspace.simplify root
  let simplified ← workspace.view root
  match valueOf tree simplified with
  | .error error => pure ⟨tokens, tree.removals, .error (.evaluation error), none⟩
  | .ok line =>
    workspace.discard root
    let lines := [Token.echo tokens, writtenLine tree, line, simplifiedLine simplified]
    pure ⟨tokens, tree.removals, .ok lines, some simplified⟩

def toTokens (tokens : List Token) : m Reply := do
  match ← workspace.whole maxNesting tokens with
  | .error _ => pure ⟨tokens, [], .ok [Token.echo tokens, notAnExpression], none⟩
  | .ok root => toExpression workspace tokens root

def toText (text : String) : m Reply :=
  let scan := Scan.ofText text
  match scan.failure with
  | some error => pure ⟨scan.tokens, [], .error (.numeral error), none⟩
  | none => toTokens workspace scan.tokens

end Reply

def reply (text : String) : Reply := (Reply.toText Tree.workspace text).run

def replyInStore (text : String) : Reply × Store :=
  ((Reply.toText Store.workspace text).run .empty).run

end Calculator
