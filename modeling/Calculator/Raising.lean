import Calculator.Numeral
import Calculator.Parser
import Calculator.Tree.Chart
import Calculator.Tree.Evaluate
import Calculator.Tree.Simplify

/-!
What cannot be written. A number has a text only up to `Numeral.maxDigits` digits, and what would show
a longer one raises instead: the written form of a tree, the log of a removal, which is composed also
where no log is kept, the report about a zero divisor or about a fault of the parser, and a chart.
-/

namespace Calculator

inductive Raised where
  | unwritable
  | absentOperand
  | diagnostic (diagnostic : Diagnostic)
deriving DecidableEq, Repr

namespace Raised

def text : Raised → String
  | unwritable =>
    "Exceeds the limit (" ++ toString Numeral.maxDigits ++
      " digits) for integer string conversion; use sys.set_int_max_str_digits() to increase the limit"
  | absentOperand => Wording.absentOperand
  | diagnostic report => report.text

def reporting : Except Raised Diagnostic → Raised
  | .ok report => diagnostic report
  | .error raised => raised

end Raised

namespace Numeral

def Short (value : Int) : Prop := (Nat.toDigits 10 value.natAbs).length ≤ maxDigits

instance (value : Int) : Decidable (Short value) :=
  inferInstanceAs (Decidable ((Nat.toDigits 10 value.natAbs).length ≤ maxDigits))

def write (value : Int) : Except Raised String :=
  if Short value then .ok (toString value) else .error .unwritable

end Numeral

def Lexeme.write : Lexeme → Except Raised String
  | number value => Numeral.write value
  | lexeme => .ok lexeme.text

def Leaf.write : Leaf → Except Raised (Option String)
  | number value _ => (Numeral.write value).map some
  | l => .ok l.text?

namespace Piece

def tryNext? : List Piece → Except Raised (Option (String × List Piece))
  | [] => .ok none
  | text s :: rest => .ok (some (s, rest))
  | tree (.node o left right) :: rest =>
    .ok (some ("(", tree left :: text o.spaced :: tree right :: text ")" :: rest))
  | tree (.leaf l) :: rest =>
    match l.write with
    | .error raised => .error raised
    | .ok (some s) => .ok (some (s, rest))
    | .ok none => tryNext? rest

def tryTake : Nat → List Piece → Except Raised (List String)
  | 0, _ => .ok []
  | n + 1, pieces =>
    match tryNext? pieces with
    | .error raised => .error raised
    | .ok none => .ok []
    | .ok (some (s, rest)) => (tryTake n rest).map (s :: ·)

end Piece

theorem Leaf.text?_of_write {l : Leaf} {text? : Option String} (h : l.write = .ok text?) :
    l.text? = text? := by
  cases l with
  | absent =>
    cases h
    rfl
  | identifier name place =>
    cases h
    rfl
  | number value place =>
    rw [write, Numeral.write] at h
    split at h
    · cases h
      rfl
    · cases h

namespace Piece

theorem next?_of_tryNext? {pieces : List Piece} {found : Option (String × List Piece)}
    (h : tryNext? pieces = .ok found) : next? pieces = found := by
  fun_induction tryNext? pieces with
  | case1 =>
    cases h
    rfl
  | case2 s rest =>
    cases h
    rfl
  | case3 o left right rest =>
    cases h
    rfl
  | case4 l rest raised hl => cases h
  | case5 l rest s hl =>
    cases h
    rw [next?, Leaf.text?_of_write hl]
  | case6 l rest hl ih =>
    rw [next?, Leaf.text?_of_write hl]
    exact ih h

def tryDrain (pieces : List Piece) (out : Array String) : Except Raised (Array String) :=
  match h : tryNext? pieces with
  | .error raised => .error raised
  | .ok none => .ok out
  | .ok (some (s, rest)) =>
    have := next?_weight (next?_of_tryNext? h)
    tryDrain rest (out.push s)
termination_by weight pieces

end Piece

namespace Tree

def tryFirstFragments (n : Nat) (t : Tree) : Except Raised (List String) :=
  Piece.tryTake n [.tree t]

def tryRender (t : Tree) : Except Raised String :=
  (Piece.tryDrain [.tree t] #[]).map fun out => String.join out.toList

end Tree

def Removal.tryLog (removal : Removal) : Except Raised String := do
  let before ← removal.before.tryRender
  let after ← removal.after.tryRender
  pure ("remove: " ++ before ++ " -> " ++ after)

def EvaluationError.raised : EvaluationError → Raised
  | absentOperand => .absentOperand
  | identifierWithoutValue name position =>
    .diagnostic ⟨.evaluation, position, Wording.identifierWithoutValue name⟩
  | zeroDivisor o left right =>
    .reporting ((Tree.node o left right).tryRender.map fun quotient =>
      ⟨.evaluation, o.position, Wording.zeroDivisor quotient⟩)
  | unknownOperator o =>
    .diagnostic ⟨.evaluation, o.position, Wording.unknownOperator o.symbol⟩

def Leaf.tryEntry : Leaf → Except Raised Entry
  | absent => .error .absentOperand
  | number value _ => (Numeral.write value).map .leaf
  | identifier name _ => .ok (.leaf name)

namespace Tree

def tryContractM (o : Operator) (_ _ left right : Tree) :
    ExceptT Raised (StateM (Array String)) Tree :=
  match contract o left right with
  | (kept, none) => pure kept
  | (kept, some removal) =>
    match removal.tryLog with
    | .error raised => throw raised
    | .ok line => do
      modify (·.push line)
      pure kept

def trySimplification (t : Tree) : Except Raised Tree × Array String :=
  ((t.walkM (fun l => pure (leaf l)) tryContractM).run.run #[]).run

def trySimplify (t : Tree) : Except Raised Tree := t.trySimplification.1

def trySimplifyLog (t : Tree) : List String := t.trySimplification.2.toList

def tryEvaluate {α : Type} (arithmetic : Arithmetic α) (t : Tree) : Except Raised α :=
  (t.evaluate arithmetic).mapError EvaluationError.raised

def tryChart (t : Tree) : Except Raised Entry :=
  t.walkM Leaf.tryEntry fun o _ _ left right => .ok (.branch o.symbol left right)

end Tree

def Token.tryEcho (tokens : List Token) : Except Raised String :=
  (tokens.mapM fun (token : Token) => token.lexeme.write).map (" ".intercalate ·)

def Fault.tryMessage : Fault → Except Raised String
  | .unexpectedToken found wanted =>
    found.write.map fun text => Wording.unexpectedToken text wanted.text
  | .trailingToken found => found.write.map Wording.trailingToken
  | fault => .ok fault.message

def tryEndPosition (tokens : List Token) : Except Raised Position :=
  match tokens.getLast? with
  | none => .ok .start
  | some last => last.lexeme.write.map fun text => last.position.right text.length

def tryPositionAt (tokens rest : List Token) : Except Raised Position :=
  match rest with
  | [] => tryEndPosition tokens
  | token :: _ => .ok token.position

def Failure.tryDiagnostic (tokens : List Token) (failure : Failure) : Except Raised Diagnostic := do
  let message ← failure.fault.tryMessage
  let position ← tryPositionAt tokens failure.rest
  pure ⟨.parsing, position, message⟩

def Failure.raised (tokens : List Token) (failure : Failure) : Raised :=
  .reporting (failure.tryDiagnostic tokens)

namespace Tree

def tryParseFirst (tokens : List Token) : Except Raised (Tree × List Token) :=
  (parseFirst tokens).mapError (Failure.raised tokens)

def tryParse (tokens : List Token) : Except Raised Tree :=
  (parse tokens).mapError (Failure.raised tokens)

end Tree

end Calculator
