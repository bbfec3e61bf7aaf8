import Calculator.Tree.Fragments
import Calculator.Tree.Walk

/-!
Simplification by the rules for zero and one. Going up from the leaves, an operator whose simplified
operands match a rule gives way to one of them; the other is dropped. Every such removal is recorded.
-/

namespace Calculator

inductive Side where
  | left
  | right
deriving DecidableEq, Repr

def keptSide? (symbol : String) (left right : Option Int) : Option Side :=
  if symbol = "*" then
    if left = some 0 ∨ right = some 1 then some .left
    else if right = some 0 ∨ left = some 1 then some .right
    else none
  else if symbol = "/" then
    if left = some 0 ∨ right = some 1 then some .left else none
  else if symbol = "+" then
    if left = some 0 then some .right
    else if right = some 0 then some .left
    else none
  else if symbol = "-" then
    if right = some 0 then some .left else none
  else none

def Side.pick {α : Type} (left right : α) : Side → α
  | .left => left
  | .right => right

def Side.other : Side → Side
  | .left => .right
  | .right => .left

structure Removal where
  before : Tree
  after : Tree
deriving DecidableEq, Repr

def Removal.log (removal : Removal) : String :=
  "remove: " ++ removal.before.render ++ " -> " ++ removal.after.render

namespace Tree

def contract (o : Operator) (left right : Tree) : Tree × Option Removal :=
  match keptSide? o.symbol left.literal? right.literal? with
  | some side => (side.pick left right, some ⟨node o left right, side.pick left right⟩)
  | none => (node o left right, none)

def contractM (o : Operator) (_ _ left right : Tree) : StateM (Array Removal) Tree :=
  modifyGet fun log =>
    match contract o left right with
    | (kept, some removal) => (kept, log.push removal)
    | (kept, none) => (kept, log)

def simplification (tree : Tree) : Tree × Array Removal :=
  ((tree.walkM (fun l => pure (leaf l)) contractM).run #[]).run

def simplify (tree : Tree) : Tree := tree.simplification.1

def removals (tree : Tree) : List Removal := tree.simplification.2.toList

theorem contract_of_some {o : Operator} {left right : Tree} {side : Side}
    (h : keptSide? o.symbol left.literal? right.literal? = some side) :
    (contract o left right).1 = side.pick left right := by
  simp only [contract, h]

theorem contract_of_none {o : Operator} {left right : Tree}
    (h : keptSide? o.symbol left.literal? right.literal? = none) :
    (contract o left right).1 = node o left right := by
  simp only [contract, h]

theorem contractM_run (o : Operator) (l r left right : Tree) (log : Array Removal) :
    (contractM o l r left right).run log =
      pure ((contract o left right).1, log ++ (contract o left right).2.toArray) := by
  unfold contractM
  generalize contract o left right = step
  obtain ⟨kept, removal?⟩ := step
  cases removal? <;> simp

theorem foldM_contractM_appends (tree : Tree) :
    ∃ kept : Tree, ∃ removed : Array Removal, ∀ log : Array Removal,
      (tree.foldM (fun l => pure (leaf l)) contractM).run log = pure (kept, log ++ removed) := by
  induction tree with
  | leaf l => exact ⟨leaf l, #[], fun log => by simp [foldM]⟩
  | node o left right ihl ihr =>
    obtain ⟨l, ls, hl⟩ := ihl
    obtain ⟨r, rs, hr⟩ := ihr
    exact ⟨_, _, fun log => by
      simp only [foldM, StateT.run_bind, hl, hr, contractM_run, pure_bind, Array.append_assoc]
      rfl⟩

theorem foldM_contractM_run (tree : Tree) (log : Array Removal) :
    (tree.foldM (fun l => pure (leaf l)) contractM).run log =
      pure (tree.simplification.1, log ++ tree.simplification.2) := by
  obtain ⟨kept, removed, h⟩ := tree.foldM_contractM_appends
  simp [simplification, walkM_eq_foldM, h]

theorem simplification_node (o : Operator) (left right : Tree) :
    (node o left right).simplification =
      ((contract o left.simplify right.simplify).1,
        left.simplification.2 ++ right.simplification.2 ++
          (contract o left.simplify right.simplify).2.toArray) := by
  rw [simplification, walkM_eq_foldM, foldM]
  simp only [StateT.run_bind, foldM_contractM_run, contractM_run, pure_bind, Id.run_pure,
    Array.empty_append, simplify]

theorem simplify_leaf (l : Leaf) : (leaf l).simplify = leaf l := by
  simp [simplify, simplification, walkM_eq_foldM, foldM]

theorem simplify_node (o : Operator) (left right : Tree) :
    (node o left right).simplify = (contract o left.simplify right.simplify).1 := by
  rw [simplify, simplification_node]

theorem simplify_induction {motive : Tree → Tree → Prop} (leaf : ∀ l, motive (leaf l) (leaf l))
    (keep : ∀ {o left right left' right'}, motive left left' → motive right right' →
      motive (node o left right) (node o left' right'))
    (toLeft : ∀ {o left right left'}, motive left left' → motive (node o left right) left')
    (toRight : ∀ {o left right right'}, motive right right' → motive (node o left right) right')
    (tree : Tree) : motive tree tree.simplify := by
  induction tree with
  | leaf l =>
    rw [simplify_leaf]
    exact leaf l
  | node o left right ihl ihr =>
    rw [simplify_node]
    cases hk : keptSide? o.symbol left.simplify.literal? right.simplify.literal? with
    | none =>
      rw [contract_of_none hk]
      exact keep ihl ihr
    | some side =>
      rw [contract_of_some hk]
      cases side with
      | left => exact toLeft ihl
      | right => exact toRight ihr

theorem removals_leaf (l : Leaf) : (leaf l).removals = [] := by
  simp [removals, simplification, walkM_eq_foldM, foldM]

theorem removals_node (o : Operator) (left right : Tree) :
    (node o left right).removals =
      left.removals ++ right.removals ++
        (contract o left.simplify right.simplify).2.toList := by
  simp [removals, simplification_node]

end Tree

end Calculator
