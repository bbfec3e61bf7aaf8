import Calculator.Diagnostic
import Calculator.Token
import Calculator.Tree

/-!
Expressions from tokens: sums of products of factors, both chains associating to the left, a factor
being a number, an identifier or an expression in parentheses. Parentheses nest `maxNesting` deep.

The readers build their result through a `Builder`, in the order in which they find its parts, and
discard what they have built when they fail. With `Tree.builder` the result is a tree.
-/

namespace Calculator

def maxNesting : Nat := 200

inductive Wanted where
  | factor
  | closing
deriving DecidableEq, Repr

def Wanted.text : Wanted → String
  | .factor => "factor"
  | .closing => ")"

inductive Fault where
  | unexpectedToken (found : Lexeme) (wanted : Wanted)
  | unexpectedEnd (wanted : Wanted)
  | trailingToken (found : Lexeme)
  | nestingTooDeep
deriving DecidableEq, Repr

def Fault.message : Fault → String
  | .unexpectedToken found wanted => Wording.unexpectedToken found.text wanted.text
  | .unexpectedEnd wanted => Wording.unexpectedEnd wanted.text
  | .trailingToken found => Wording.trailingToken found.text
  | .nestingTooDeep => Wording.nestingTooDeep (toString maxNesting)

structure Failure where
  fault : Fault
  rest : List Token
  nesting : Nat
deriving DecidableEq, Repr

def endPosition (tokens : List Token) : Position :=
  match tokens.getLast? with
  | none => .start
  | some last => last.position.right last.text.length

def positionAt (tokens rest : List Token) : Position :=
  match rest with
  | [] => endPosition tokens
  | token :: _ => token.position

def Failure.diagnostic (tokens : List Token) (failure : Failure) : Diagnostic :=
  ⟨.parsing, positionAt tokens failure.rest, failure.fault.message⟩

structure Builder (m : Type → Type) (ν : Type) where
  number : Int → Position → m ν
  identifier : String → Position → m ν
  operator : Operator → ν → ν → m ν
  discard : ν → m Unit

def Tree.builder : Builder Id Tree where
  number value position := pure (.number value position)
  identifier name position := pure (.identifier name position)
  operator o left right := pure (.node o left right)
  discard _ := pure ()

structure Parsed (ν : Type) (bound : Nat) where
  value : ν
  rest : List Token
  shorter : rest.length < bound

abbrev Reader (m : Type → Type) (ν : Type) : Type :=
  (tokens : List Token) → m (Except Failure (Parsed ν tokens.length))

namespace Builder

variable {m : Type → Type} [Monad m] {ν : Type} (build : Builder m ν)

def chain (symbols : List String) (operand : Reader m ν) {bound : Nat} (left : ν)
    (tokens : List Token) (h : tokens.length < bound) : m (Except Failure (Parsed ν bound)) :=
  match tokens with
  | [] => pure (.ok ⟨left, [], h⟩)
  | token :: rest =>
    match token.lexeme with
    | .symbol symbol =>
      if symbol ∈ symbols then do
        match ← operand rest with
        | .error failure =>
          build.discard left
          pure (.error failure)
        | .ok right =>
          let whole ← build.operator ⟨symbol, token.position⟩ left right.value
          have := right.shorter
          have hr : right.rest.length < bound := by simp only [List.length_cons] at h; omega
          chain symbols operand whole right.rest hr
      else pure (.ok ⟨left, token :: rest, h⟩)
    | _ => pure (.ok ⟨left, token :: rest, h⟩)
termination_by tokens.length

def leftChain (symbols : List String) (operand : Reader m ν) : Reader m ν := fun tokens => do
  match ← operand tokens with
  | .error failure => pure (.error failure)
  | .ok left => build.chain symbols operand left.value left.rest left.shorter

def factor (nesting : Nat) (inner : Option (Reader m ν)) : Reader m ν
  | [] => pure (.error ⟨.unexpectedEnd .factor, [], nesting⟩)
  | token :: rest =>
    match token.lexeme with
    | .number value => do
      let leaf ← build.number value token.position
      pure (.ok ⟨leaf, rest, by simp⟩)
    | .identifier name => do
      let leaf ← build.identifier name token.position
      pure (.ok ⟨leaf, rest, by simp⟩)
    | lexeme =>
      if lexeme = .symbol "(" then
        match inner with
        | none => pure (.error ⟨.nestingTooDeep, token :: rest, nesting⟩)
        | some read => do
          match ← read rest with
          | .error failure => pure (.error failure)
          | .ok ⟨value, [], _⟩ =>
            build.discard value
            pure (.error ⟨.unexpectedEnd .closing, [], nesting⟩)
          | .ok ⟨value, close :: after, h⟩ =>
            if close.lexeme = .symbol ")" then
              pure (.ok ⟨value, after, by simp only [List.length_cons] at h ⊢; omega⟩)
            else
              build.discard value
              pure (.error ⟨.unexpectedToken close.lexeme .closing, close :: after, nesting⟩)
      else pure (.error ⟨.unexpectedToken lexeme .factor, token :: rest, nesting⟩)

def term (nesting : Nat) (inner : Option (Reader m ν)) : Reader m ν :=
  build.leftChain ["*", "/"] (build.factor nesting inner)

def sum (nesting : Nat) (inner : Option (Reader m ν)) : Reader m ν :=
  build.leftChain ["+", "-"] (build.term nesting inner)

def expression : (depth : Nat) → Reader m ν
  | 0 => build.sum maxNesting none
  | depth + 1 => build.sum (maxNesting - (depth + 1)) (some (expression depth))

def inner? : (depth : Nat) → Option (Reader m ν)
  | 0 => none
  | depth + 1 => some (build.expression depth)

def whole (depth : Nat) (tokens : List Token) : m (Except Failure ν) := do
  match ← build.expression depth tokens with
  | .error failure => pure (.error failure)
  | .ok ⟨value, [], _⟩ => pure (.ok value)
  | .ok ⟨value, token :: rest, _⟩ =>
    build.discard value
    pure (.error ⟨.trailingToken token.lexeme, token :: rest, maxNesting - depth⟩)

theorem expression_eq (depth : Nat) :
    build.expression depth = build.sum (maxNesting - depth) (build.inner? depth) := by
  cases depth <;> rfl

end Builder

namespace Tree

def parseFirst (tokens : List Token) : Except Failure (Tree × List Token) :=
  (Tree.builder.expression maxNesting tokens).run.map fun parsed => (parsed.value, parsed.rest)

def parse (tokens : List Token) : Except Failure Tree := (Tree.builder.whole maxNesting tokens).run

end Tree

end Calculator
