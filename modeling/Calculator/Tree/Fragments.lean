import Calculator.Tree

/-!
The written form of a tree, every operator in parentheses and with a space on either side. It is
made fragment by fragment from a stack of pieces; `drain_eq` says that the stack yields the
fragments of `Tree.fragments` in order.
-/

namespace Calculator

inductive Piece where
  | text (text : String)
  | tree (tree : Tree)
deriving Repr

def Operator.spaced (o : Operator) : String := " " ++ o.symbol ++ " "

namespace Piece

def next? : List Piece → Option (String × List Piece)
  | [] => none
  | text s :: rest => some (s, rest)
  | tree (.node o left right) :: rest =>
    some ("(", tree left :: text o.spaced :: tree right :: text ")" :: rest)
  | tree (.leaf l) :: rest =>
    match l.text? with
    | some s => some (s, rest)
    | none => next? rest

def take : Nat → List Piece → List String
  | 0, _ => []
  | n + 1, pieces =>
    match next? pieces with
    | some (s, rest) => s :: take n rest
    | none => []

def treeWeight : Tree → Nat
  | .leaf _ => 1
  | .node _ left right => treeWeight left + treeWeight right + 3

def weight : List Piece → Nat
  | [] => 0
  | text _ :: rest => weight rest + 1
  | tree t :: rest => weight rest + treeWeight t

theorem next?_weight {pieces rest : List Piece} {s : String} (h : next? pieces = some (s, rest)) :
    weight rest < weight pieces := by
  fun_induction next? pieces with
  | case1 => simp at h
  | case2 => simp_all [weight]
  | case3 o left right later =>
    simp only [Option.some.injEq, Prod.mk.injEq] at h
    rw [← h.2]
    simp only [weight, treeWeight]
    omega
  | case4 l later s' hl => simp_all [weight, treeWeight]
  | case5 l later hl ih =>
    have := ih h
    simp only [weight, treeWeight]
    omega

def drain (pieces : List Piece) (out : Array String) : Array String :=
  match h : next? pieces with
  | some (s, rest) =>
    have := next?_weight h
    drain rest (out.push s)
  | none => out
termination_by weight pieces

end Piece

namespace Tree

def fragments : Tree → List String
  | .leaf l => l.text?.toList
  | .node o left right => "(" :: left.fragments ++ o.spaced :: right.fragments ++ [")"]

def firstFragments (n : Nat) (tree : Tree) : List String := Piece.take n [.tree tree]

def render (tree : Tree) : String := String.join (Piece.drain [.tree tree] #[]).toList

end Tree

namespace Piece

def fragments : List Piece → List String
  | [] => []
  | text s :: rest => s :: fragments rest
  | tree t :: rest => t.fragments ++ fragments rest

theorem fragments_of_next?_some {pieces rest : List Piece} {s : String}
    (h : next? pieces = some (s, rest)) : fragments pieces = s :: fragments rest := by
  fun_induction next? pieces with
  | case1 => simp at h
  | case2 => simp_all [fragments]
  | case3 o left right later =>
    simp only [Option.some.injEq, Prod.mk.injEq] at h
    rw [← h.1, ← h.2]
    simp [fragments, Tree.fragments]
  | case4 l later s' hl => simp_all [fragments, Tree.fragments]
  | case5 l later hl ih => simp [fragments, Tree.fragments, hl, ih h]

theorem fragments_of_next?_none {pieces : List Piece} (h : next? pieces = none) :
    fragments pieces = [] := by
  fun_induction next? pieces with
  | case1 => rfl
  | case2 => simp at h
  | case3 => simp at h
  | case4 l later s' hl => simp at h
  | case5 l later hl ih => simp [fragments, Tree.fragments, hl, ih h]

theorem drain_eq (pieces : List Piece) (out : Array String) :
    (drain pieces out).toList = out.toList ++ fragments pieces := by
  fun_induction drain pieces out with
  | case1 pieces out s rest h _ ih => rw [ih, fragments_of_next?_some h]; simp
  | case2 pieces out h => simp [fragments_of_next?_none h]

theorem take_eq (n : Nat) (pieces : List Piece) : take n pieces = (fragments pieces).take n := by
  fun_induction take n pieces with
  | case1 => simp
  | case2 n pieces s rest h ih => simp [ih, fragments_of_next?_some h]
  | case3 n pieces h => simp [fragments_of_next?_none h]

end Piece

namespace Tree

theorem render_eq (tree : Tree) : tree.render = String.join tree.fragments := by
  simp [render, Piece.drain_eq, Piece.fragments]

theorem firstFragments_eq (n : Nat) (tree : Tree) :
    tree.firstFragments n = tree.fragments.take n := by
  simp [firstFragments, Piece.take_eq, Piece.fragments]

end Tree

end Calculator
