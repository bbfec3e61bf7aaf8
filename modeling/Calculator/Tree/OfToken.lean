import Calculator.Diagnostic
import Calculator.Token
import Calculator.Tree

namespace Calculator.Tree

def ofToken? (token : Token) (left right : Tree) : Option Tree :=
  match token.lexeme with
  | .number value => some (.number value token.position)
  | .identifier name => some (.identifier name token.position)
  | .symbol symbol => some (.node ⟨symbol, token.position⟩ left right)
  | .ending => none

end Calculator.Tree
