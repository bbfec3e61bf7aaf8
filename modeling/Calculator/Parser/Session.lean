import Calculator.Parser

namespace Calculator

structure Session where
  tokens : List Token
  offset : Nat
  nesting : Nat
deriving Repr

namespace Session

def ofTokens (tokens : List Token) : Session := ⟨tokens, 0, 0⟩

def current? (session : Session) : Option Token := session.tokens[session.offset]?

def remaining (session : Session) : List Token := session.tokens.drop session.offset

def advance (session : Session) : Session := { session with offset := session.offset + 1 }

def endPosition (session : Session) : Position := Calculator.endPosition session.tokens

def isSymbol (session : Session) (symbols : List String) : Bool :=
  session.current?.any (·.isSymbol symbols)

def diagnose (session : Session) (message : String) : Diagnostic :=
  ⟨.parsing, positionAt session.tokens session.remaining, message⟩

def leaving (session : Session) (rest : List Token) (nesting : Nat) : Session :=
  { session with offset := session.offset + (session.remaining.length - rest.length), nesting }

def depth (session : Session) : Nat := maxNesting - session.nesting

def fail {α : Type} (session : Session) (failure : Failure) : Except Diagnostic α × Session :=
  (.error (failure.diagnostic session.tokens), session.leaving failure.rest failure.nesting)

def read (session : Session) (reader : Reader Id Tree) : Except Diagnostic Tree × Session :=
  match (reader session.remaining).run with
  | .ok parsed => (.ok parsed.value, session.leaving parsed.rest session.nesting)
  | .error failure => session.fail failure

def expression (session : Session) : Except Diagnostic Tree × Session :=
  session.read (Tree.builder.expression session.depth)

def term (session : Session) : Except Diagnostic Tree × Session :=
  session.read (Tree.builder.term session.nesting (Tree.builder.inner? session.depth))

def factor (session : Session) : Except Diagnostic Tree × Session :=
  session.read (Tree.builder.factor session.nesting (Tree.builder.inner? session.depth))

def parse (session : Session) : Except Diagnostic Tree × Session :=
  match (Tree.builder.whole session.depth session.remaining).run with
  | .ok tree => (.ok tree, session.leaving [] session.nesting)
  | .error failure => session.fail failure

inductive Command where
  | expression
  | term
  | factor
  | parse
  | advance
  | remaining
  | endPosition
  | isSymbol (symbols : List String)
  | error (message : String)
deriving DecidableEq, Repr

inductive Response where
  | tree (result : Except Diagnostic Tree)
  | nothing
  | tokens (tokens : List Token)
  | position (position : Position)
  | truth (truth : Bool)
  | diagnostic (diagnostic : Diagnostic)

def perform (session : Session) : Command → Response × Session
  | .expression => (.tree session.expression.1, session.expression.2)
  | .term => (.tree session.term.1, session.term.2)
  | .factor => (.tree session.factor.1, session.factor.2)
  | .parse => (.tree session.parse.1, session.parse.2)
  | .advance => (.nothing, session.advance)
  | .remaining => (.tokens session.remaining, session)
  | .endPosition => (.position session.endPosition, session)
  | .isSymbol symbols => (.truth (session.isSymbol symbols), session)
  | .error message => (.diagnostic (session.diagnose message), session)

end Session

end Calculator
