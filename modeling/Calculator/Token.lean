import Calculator.Position
import Calculator.Text.Quoted

namespace Calculator

inductive Lexeme where
  | number (value : Int)
  | identifier (name : String)
  | symbol (text : String)
  | ending
deriving DecidableEq, Repr, Inhabited

namespace Lexeme

def category : Lexeme → String
  | number _ => "NUMBER"
  | identifier _ => "IDENTIFIER"
  | symbol _ => "SYMBOL"
  | ending => "EOF"

def text : Lexeme → String
  | number value => toString value
  | identifier name => name
  | symbol text => text
  | ending => "None"

def shown (printable : Char → Bool) : Lexeme → String
  | identifier name => Quoted.text printable name
  | symbol text => Quoted.text printable text
  | lexeme => lexeme.text

def fullCategory (lexeme : Lexeme) : String := "TokenType." ++ lexeme.category

end Lexeme

structure Token where
  lexeme : Lexeme
  position : Position
deriving DecidableEq, Repr, Inhabited

namespace Token

def text (token : Token) : String := token.lexeme.text

def logWith (printable : Char → Bool) (token : Token) : String :=
  "Token(" ++ token.lexeme.fullCategory ++ ", " ++ token.lexeme.shown printable ++
    ", pos=" ++ token.position.text ++ ")"

def log (token : Token) : String := token.logWith isPrintable

def echo (tokens : List Token) : String := " ".intercalate (tokens.map text)

def isSymbol (symbols : List String) (token : Token) : Bool :=
  match token.lexeme with
  | .symbol text => symbols.contains text
  | _ => false

end Token

end Calculator
