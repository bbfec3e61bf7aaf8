import Calculator.Parser.Session

/-!
The parser as it is stepped: the index of a token, the token there, which is kept beside the index, and
a count of the parentheses that are open. `Runs` says what each reading returns or raises, and where it
leaves the three; the count goes up by one at a parenthesis that is opened, unless it is at the limit, and
down by one where the expression inside has been read.
-/

namespace Calculator

structure Stepper where
  tokens : List Token
  offset : Nat
  current? : Option Token
  nesting : Nat
deriving Repr

namespace Stepper

def ofTokens (tokens : List Token) : Stepper := ⟨tokens, 0, tokens.head?, 0⟩

def advance (stepper : Stepper) : Stepper :=
  let offset := stepper.offset + 1
  { stepper with
    offset
    current? := if h : offset < stepper.tokens.length then some stepper.tokens[offset] else none }

def remaining (stepper : Stepper) : List Token := stepper.tokens.drop stepper.offset

def endPosition (stepper : Stepper) : Position := Calculator.endPosition stepper.tokens

def isSymbol (stepper : Stepper) (symbols : List String) : Bool :=
  stepper.current?.any (·.isSymbol symbols)

def operator? (stepper : Stepper) (symbols : List String) : Option Operator :=
  (stepper.current?.filter (·.isSymbol symbols)).map fun token => ⟨token.text, token.position⟩

def diagnose (stepper : Stepper) (message : String) : Diagnostic :=
  match stepper.current? with
  | none => ⟨.parsing, stepper.endPosition, message⟩
  | some token => ⟨.parsing, token.position, message⟩

abbrev Outcome : Type := Except Diagnostic Tree × Stepper

def fail (stepper : Stepper) (fault : Fault) : Outcome :=
  (.error (stepper.diagnose fault.message), stepper)

inductive Level where
  | sum
  | product

def Level.symbols : Level → List String
  | sum => ["+", "-"]
  | product => ["*", "/"]

inductive Call where
  | chain (level : Level)
  | more (level : Level) (left : Tree)
  | factor

def Level.operand : Level → Call
  | sum => .chain .product
  | product => .factor

inductive Look where
  | read (outcome : Outcome)
  | inside (stepper : Stepper)

def look (stepper : Stepper) : Look :=
  match stepper.current? with
  | none => .read (stepper.fail (.unexpectedEnd .factor))
  | some ⟨.number value, place⟩ => .read (.ok (.number value place), stepper.advance)
  | some ⟨.identifier name, place⟩ => .read (.ok (.identifier name place), stepper.advance)
  | some ⟨lexeme, _⟩ =>
    if stepper.isSymbol ["("] then
      if stepper.nesting = maxNesting then .read (stepper.fail .nestingTooDeep)
      else .inside { stepper.advance with nesting := stepper.nesting + 1 }
    else .read (stepper.fail (.unexpectedToken lexeme .factor))

def leave (stepper : Stepper) : Stepper := { stepper with nesting := stepper.nesting - 1 }

def close (tree : Tree) (stepper : Stepper) : Outcome :=
  if stepper.leave.isSymbol [")"] then (.ok tree, stepper.leave.advance)
  else
    match stepper.leave.current? with
    | none => stepper.leave.fail (.unexpectedEnd .closing)
    | some token => stepper.leave.fail (.unexpectedToken token.lexeme .closing)

inductive Runs : Call → Stepper → Outcome → Prop
  | chainRaised {level : Level} {s s' : Stepper} {diagnostic : Diagnostic}
      (first : Runs level.operand s (.error diagnostic, s')) :
      Runs (.chain level) s (.error diagnostic, s')
  | chain {level : Level} {s s' : Stepper} {left : Tree} {outcome : Outcome}
      (first : Runs level.operand s (.ok left, s')) (more : Runs (.more level left) s' outcome) :
      Runs (.chain level) s outcome
  | stop {level : Level} {s : Stepper} {left : Tree} (other : s.operator? level.symbols = none) :
      Runs (.more level left) s (.ok left, s)
  | nextRaised {level : Level} {s s' : Stepper} {left : Tree} {o : Operator}
      {diagnostic : Diagnostic} (operator : s.operator? level.symbols = some o)
      (next : Runs level.operand s.advance (.error diagnostic, s')) :
      Runs (.more level left) s (.error diagnostic, s')
  | next {level : Level} {s s' : Stepper} {left right : Tree} {o : Operator} {outcome : Outcome}
      (operator : s.operator? level.symbols = some o)
      (next : Runs level.operand s.advance (.ok right, s'))
      (more : Runs (.more level (.node o left right)) s' outcome) :
      Runs (.more level left) s outcome
  | factor {s : Stepper} {outcome : Outcome} (look : s.look = .read outcome) :
      Runs .factor s outcome
  | insideRaised {s s' inner : Stepper} {diagnostic : Diagnostic} (look : s.look = .inside inner)
      (inside : Runs (.chain .sum) inner (.error diagnostic, s')) :
      Runs .factor s (.error diagnostic, s')
  | inside {s s' inner : Stepper} {tree : Tree} (look : s.look = .inside inner)
      (inside : Runs (.chain .sum) inner (.ok tree, s')) : Runs .factor s (s'.close tree)

def finish (tree : Tree) (stepper : Stepper) : Outcome :=
  match stepper.current? with
  | none => (.ok tree, stepper)
  | some token => stepper.fail (.trailingToken token.lexeme)

inductive Performs (s : Stepper) : Session.Command → Session.Response → Stepper → Prop
  | expression {outcome : Outcome} (run : Runs (.chain .sum) s outcome) :
      Performs s .expression (.tree outcome.1) outcome.2
  | term {outcome : Outcome} (run : Runs (.chain .product) s outcome) :
      Performs s .term (.tree outcome.1) outcome.2
  | factor {outcome : Outcome} (run : Runs .factor s outcome) :
      Performs s .factor (.tree outcome.1) outcome.2
  | parseRaised {s' : Stepper} {diagnostic : Diagnostic}
      (run : Runs (.chain .sum) s (.error diagnostic, s')) :
      Performs s .parse (.tree (.error diagnostic)) s'
  | parse {s' : Stepper} {tree : Tree} (run : Runs (.chain .sum) s (.ok tree, s')) :
      Performs s .parse (.tree (s'.finish tree).1) (s'.finish tree).2
  | advance : Performs s .advance .nothing s.advance
  | remaining : Performs s .remaining (.tokens s.remaining) s
  | endPosition : Performs s .endPosition (.position s.endPosition) s
  | isSymbol (symbols : List String) :
      Performs s (.isSymbol symbols) (.truth (s.isSymbol symbols)) s
  | error (message : String) : Performs s (.error message) (.diagnostic (s.diagnose message)) s

inductive After : Stepper → List Session.Command → Stepper → Prop
  | none (s : Stepper) : After s [] s
  | call {s s' last : Stepper} {command : Session.Command} {response : Session.Response}
      {later : List Session.Command} (performs : Performs s command response s')
      (further : After s' later last) : After s (command :: later) last

end Stepper

end Calculator
