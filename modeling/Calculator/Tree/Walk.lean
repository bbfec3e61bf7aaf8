import Calculator.Tree

/-!
Walks through a tree that keep their own stack, so that a long chain of operators needs no deep
recursion. `walkM` computes a result for every subtree, the left one first, then the right one, then
the operator; `walkM_eq_foldM` says that it is the structural fold.
-/

namespace Calculator

inductive Agenda : Nat → Type where
  | done : Agenda 1
  | visit {n : Nat} (tree : Tree) (next : Agenda (n + 1)) : Agenda n
  | combine {n : Nat} (operator : Operator) (left right : Tree) (next : Agenda (n + 1)) :
      Agenda (n + 2)

inductive Results (α : Type) : Nat → Type where
  | nil : Results α 0
  | push {n : Nat} (latest : α) (earlier : Results α n) : Results α (n + 1)

namespace Agenda

def weight : {n : Nat} → Agenda n → Nat
  | _, done => 0
  | _, visit tree next => 2 * tree.size + next.weight
  | _, combine _ _ _ next => 1 + next.weight

variable {m : Type → Type} [Monad m] {α : Type}

@[specialize]
def run (leaf : Leaf → m α) (node : Operator → Tree → Tree → α → α → m α) :
    {n : Nat} → Agenda n → Results α n → m α
  | _, done, .push a .nil => pure a
  | _, visit (.leaf l) next, results => do
    let a ← leaf l
    run leaf node next (.push a results)
  | _, visit (.node o left right) next, results =>
    run leaf node (.visit left (.visit right (.combine o left right next))) results
  | _, combine o left right next, .push b (.push a results) => do
    let c ← node o left right a b
    run leaf node next (.push c results)
termination_by n agenda => agenda.weight
decreasing_by all_goals simp only [weight, Tree.size]; omega

end Agenda

namespace Tree

variable {m : Type → Type} [Monad m] {α : Type}

@[inline]
def walkM (leaf : Leaf → m α) (node : Operator → Tree → Tree → α → α → m α) (tree : Tree) : m α :=
  (Agenda.visit tree .done).run leaf node .nil

def foldM (leaf : Leaf → m α) (node : Operator → Tree → Tree → α → α → m α) : Tree → m α
  | .leaf l => leaf l
  | .node o left right => do
    let a ← left.foldM leaf node
    let b ← right.foldM leaf node
    node o left right a b

theorem run_visit [LawfulMonad m] (leaf : Leaf → m α)
    (node : Operator → Tree → Tree → α → α → m α) (tree : Tree) {n : Nat} (next : Agenda (n + 1))
    (results : Results α n) :
    (Agenda.visit tree next).run leaf node results =
      tree.foldM leaf node >>= fun a => next.run leaf node (.push a results) := by
  induction tree generalizing n with
  | leaf l => rw [Agenda.run, foldM]
  | node o left right ihl ihr =>
    rw [Agenda.run, ihl, foldM]
    simp only [bind_assoc]
    congr 1
    funext a
    rw [ihr]
    congr 1
    funext b
    rw [Agenda.run]

theorem walkM_eq_foldM [LawfulMonad m] (leaf : Leaf → m α)
    (node : Operator → Tree → Tree → α → α → m α) (tree : Tree) :
    tree.walkM leaf node = tree.foldM leaf node := by
  rw [walkM, run_visit]
  simp only [Agenda.run, bind_pure]

section Raising

variable {σ ε α β : Type} {part : ExceptT ε (StateM σ) α} {a : α} {e : ε} {s s' : σ}

theorem run_bind_returned (h : (part.run.run s).run = (.ok a, s'))
    (next : α → ExceptT ε (StateM σ) β) :
    ((part >>= next).run.run s).run = ((next a).run.run s').run := by
  rw [ExceptT.run_bind, StateT.run_bind, Id.run_bind, h]

theorem run_bind_raised (h : (part.run.run s).run = (.error e, s'))
    (next : α → ExceptT ε (StateM σ) β) :
    ((part >>= next).run.run s).run = (.error e, s') := by
  rw [ExceptT.run_bind, StateT.run_bind, Id.run_bind, h]
  rfl

end Raising

end Tree

end Calculator
