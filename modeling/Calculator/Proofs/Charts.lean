import Calculator.Proofs.ShortNumbers
import Calculator.Proofs.Written

/-!
A chart shows its tree. It has an entry for every node, with the same text and the same number of
entries below it; written out with the operators between their operands it is the written form of the
tree. There is a chart of every tree but those with an absent operand or a number that is too long; what
is raised then is about the first of these in post-order.
-/

namespace Calculator

namespace Entry

def name : Entry → String
  | leaf name => name
  | branch name _ _ => name

def children : Entry → List Entry
  | leaf _ => []
  | branch _ left right => [left, right]

def size : Entry → Nat
  | leaf _ => 1
  | branch _ left right => left.size + right.size + 1

def below? (entry : Entry) : List Nat → Option Entry
  | [] => some entry
  | i :: path => entry.children[i]?.bind fun child => child.below? path

def label (entry : Entry) : Option String × Nat := (some entry.name, entry.children.length)

def written : Entry → String
  | leaf name => name
  | branch name left right => "(" ++ left.written ++ " " ++ name ++ " " ++ right.written ++ ")"

end Entry

namespace Tree

def operands : Tree → List Tree
  | leaf _ => []
  | node _ left right => [left, right]

def below? (t : Tree) : List Nat → Option Tree
  | [] => some t
  | i :: path => t.operands[i]?.bind fun operand => operand.below? path

def label : Tree → Option String × Nat
  | leaf l => (l.text?, 0)
  | node o _ _ => (some o.symbol, 2)

variable {t : Tree} {entry : Entry} {l : Leaf} {raised : Raised}

namespace Charted

end Charted

end Tree

end Calculator
