import Calculator.Position

namespace Calculator

namespace Wording

def unexpectedToken (found wanted : String) : String :=
  "token `" ++ found ++ "` is not expected, want `" ++ wanted ++ "`"

def unexpectedEnd (wanted : String) : String := "input ends too early, want `" ++ wanted ++ "`"

def trailingToken (found : String) : String :=
  "token `" ++ found ++ "` is left after the expression"

def nestingTooDeep (limit : String) : String := "parentheses nested deeper than " ++ limit

def identifierWithoutValue (name : String) : String := "identifier `" ++ name ++ "` has no value"

def zeroDivisor (quotient : String) : String := "divisor of `" ++ quotient ++ "` is zero"

def unknownOperator (symbol : String) : String := "op `" ++ symbol ++ "` is not supported"

def absentOperand : String := "No visit_NoneType method"

def noNode (category : String) : String := "no tree node for " ++ category

end Wording

inductive Stage where
  | unspecified
  | parsing
  | evaluation
deriving DecidableEq, Repr

def Stage.heading : Stage → String
  | .unspecified => "Error"
  | .parsing => "ParserError"
  | .evaluation => "InterpreterError"

structure Diagnostic where
  stage : Stage
  position : Position
  message : String
deriving DecidableEq, Repr

def Diagnostic.text (diagnostic : Diagnostic) : String :=
  diagnostic.stage.heading ++ ": <" ++ diagnostic.position.text ++ ">: " ++ diagnostic.message

end Calculator
