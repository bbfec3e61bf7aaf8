import Calculator.Dialogue
import Calculator.Proofs.Cells
import Calculator.Proofs.Reading
import Mathlib.Data.Option.Defs

/-!
The answer does not depend on where the expression lives. A reader that builds its result in a store
takes the same tokens as the reader that makes a tree, or fails alike, and what it has built holds the
tree in cells of its own. `replyInStore_eq` is what follows for a whole line.
-/

namespace Calculator

namespace Store

inductive Mirrors (base : Nat) (store : Store) {bound : Nat} :
    Except Failure (Parsed Link bound) × Store → Except Failure (Parsed Tree bound) → Prop
  | ok {i : Nat} {tree : Tree} {rest : List Token} {store' : Store} (shorter : rest.length < bound)
      (grows : Grows store store') (holds : Holds store' base store'.cells.size i tree) :
      Mirrors base store (.ok ⟨some i, rest, shorter⟩, store') (.ok ⟨tree, rest, shorter⟩)
  | error (failure : Failure) (store' : Store) :
      Mirrors base store (.error failure, store') (.error failure)

def Mirrored (inStore : Reader (StateM Store) Link) (read : Reader Id Tree) : Prop :=
  ∀ tokens store, Mirrors store.cells.size store ((inStore tokens).run store).run (read tokens).run

variable {store store' store'' : Store} {base bound nesting i j : Nat} {left right tree : Tree}
variable {tokens : List Token} {symbols : List String} {operand : Reader (StateM Store) Link}
variable {operand' : Reader Id Tree}
variable {outcome : Except Failure (Parsed Link bound) × Store}
variable {outcome' : Except Failure (Parsed Tree bound)}

theorem Grows.confined (h : Grows store store') :
    Confined store store' store.cells.size store'.cells.size := by
  rintro i (hi | hi)
  · exact h.same i hi
  · rw [Array.getElem?_eq_none hi, Array.getElem?_eq_none (Nat.le_trans h.size hi)]

theorem Mirrors.after (h : Mirrors base store' outcome outcome') (hg : Grows store store') :
    Mirrors base store outcome outcome' := by
  cases h with
  | ok shorter grows holds => exact .ok shorter (hg.trans grows) holds
  | error failure store'' => exact .error failure store''

theorem holds_push_leaf (store : Store) (l : Leaf) :
    Holds ⟨store.cells.push (.leaf l)⟩ store.cells.size (store.cells.push (.leaf l)).size
      store.cells.size (.leaf l) :=
  .leaf (Nat.le_refl _) (by simp) Array.getElem?_push_size

theorem holds_push_node (o : Operator) (hl : Holds store base store.cells.size i left)
    (hg : Grows store store') (hr : Holds store' store.cells.size store'.cells.size j right) :
    Holds ⟨store'.cells.push (.node o (some i) (some j))⟩ base
      (store'.cells.push (.node o (some i) (some j))).size store'.cells.size (.node o left right) := by
  have hpush := (grows_push store' (.node o (some i) (some j))).confined
  have lower := (hl.apart hg.confined (.inl (Nat.le_refl _))).apart hpush (.inl hg.size)
  have upper := hr.apart hpush (.inl (Nat.le_refl _))
  exact .node (by simp) Array.getElem?_push_size lower upper

-- What is built of the left operand lies below the cells that are added later, so it stays as it is.
theorem chain_mirrors (h : Mirrored operand operand')
    (hl : Holds store base store.cells.size i left) (shorter : tokens.length < bound) :
    Mirrors base store ((builder.chain symbols operand (some i) tokens shorter).run store).run
      (Tree.builder.chain symbols operand' left tokens shorter).run := by
  induction hn : tokens.length using Nat.strongRecOn generalizing store i left tokens with
  | _ n ih =>
  by_cases hb : Begins symbols tokens
  · obtain ⟨symbol, place, tail, mem, rfl⟩ := hb
    rw [Builder.chain.eq_def, Builder.chain.eq_def]
    simp only [mem, if_true, StateT.run_bind, Id.run_bind]
    have hm := h tail store
    generalize ((operand tail).run store).run = read at hm ⊢
    generalize (operand' tail).run = read' at hm ⊢
    cases hm with
    | error failure store' => exact .error failure _
    | @ok j right rest store' less grows holds =>
      have hn' : rest.length < n := by
        simp only [List.length_cons] at hn
        omega
      have hg := grows.trans (grows_push store' (.node ⟨symbol, place⟩ (some i) (some j)))
      exact (ih _ hn' (holds_push_node ⟨symbol, place⟩ hl grows holds) _ rfl).after hg
  · rw [builder.chain_stop hb, Tree.builder.chain_stop hb]
    exact .ok shorter (.refl store) hl

theorem leftChain_mirrors (symbols : List String) (h : Mirrored operand operand') :
    Mirrored (builder.leftChain symbols operand) (Tree.builder.leftChain symbols operand') := by
  intro tokens store
  have hm := h tokens store
  simp only [Builder.leftChain, StateT.run_bind, Id.run_bind]
  generalize ((operand tokens).run store).run = read at hm ⊢
  generalize (operand' tokens).run = read' at hm ⊢
  cases hm with
  | error failure store' => exact .error failure store'
  | ok shorter grows holds => exact (chain_mirrors h holds shorter).after grows

variable {inner : Option (Reader (StateM Store) Link)} {inner' : Option (Reader Id Tree)}

theorem parentheses_mirrors (h : Mirrored operand operand') (place : Position) :
    Mirrors store.cells.size store
      ((builder.factor nesting (some operand) (⟨.symbol "(", place⟩ :: tokens)).run store).run
      (Tree.builder.factor nesting (some operand') (⟨.symbol "(", place⟩ :: tokens)).run := by
  have hm := h tokens store
  simp only [Builder.factor, if_true, StateT.run_bind, Id.run_bind]
  generalize ((operand tokens).run store).run = read at hm ⊢
  generalize (operand' tokens).run = read' at hm ⊢
  cases hm with
  | error failure store' => exact .error failure store'
  | @ok i tree rest store' shorter grows holds =>
    cases rest with
    | nil => exact .error _ _
    | cons close after =>
      by_cases hclose : close.lexeme = .symbol ")"
      · simp only [hclose, if_true]
        exact .ok _ grows holds
      · simp only [hclose, if_false]
        exact .error _ _

theorem factor_mirrors (nesting : Nat) (h : Option.Rel Mirrored inner inner') :
    Mirrored (builder.factor nesting inner) (Tree.builder.factor nesting inner') := by
  intro tokens store
  cases tokens with
  | nil => exact .error _ _
  | cons token later =>
    obtain ⟨lexeme, place⟩ := token
    cases lexeme with
    | number value =>
      exact .ok _ (grows_push store _) (holds_push_leaf store (.number value place))
    | identifier name =>
      exact .ok _ (grows_push store _) (holds_push_leaf store (.identifier name place))
    | ending => exact .error _ _
    | symbol symbol =>
      by_cases hs : symbol = "("
      · subst hs
        cases h with
        | none => exact .error _ _
        | some h => exact parentheses_mirrors h place
      · have hl : Lexeme.symbol symbol ≠ .symbol "(" := fun he => hs (Lexeme.symbol.inj he)
        simp only [Builder.factor, hl, if_false]
        exact .error _ _

theorem sum_mirrors (nesting : Nat) (h : Option.Rel Mirrored inner inner') :
    Mirrored (builder.sum nesting inner) (Tree.builder.sum nesting inner') :=
  leftChain_mirrors _ (leftChain_mirrors _ (factor_mirrors nesting h))

theorem expression_mirrors (depth : Nat) :
    Mirrored (builder.expression depth) (Tree.builder.expression depth) := by
  induction depth with
  | zero => exact sum_mirrors maxNesting .none
  | succ depth ih => exact sum_mirrors _ (.some ih)

theorem whole_mirrors (depth : Nat) (tokens : List Token) (store : Store) :
    (∃ i tree store', ((workspace.whole depth tokens).run store).run = (.ok (some i), store') ∧
      (Tree.workspace.whole depth tokens).run = .ok tree ∧
      Holds store' store.cells.size store'.cells.size i tree) ∨
    ∃ failure store', ((workspace.whole depth tokens).run store).run = (.error failure, store') ∧
      (Tree.workspace.whole depth tokens).run = .error failure := by
  have hm := expression_mirrors depth tokens store
  simp only [Builder.whole, StateT.run_bind, Id.run_bind]
  have hb : workspace.toBuilder = builder := rfl
  have hb' : Tree.workspace.toBuilder = Tree.builder := rfl
  rw [hb, hb']
  generalize ((builder.expression depth tokens).run store).run = read at hm ⊢
  generalize (Tree.builder.expression depth tokens).run = read' at hm ⊢
  cases hm with
  | error failure store' => exact .inr ⟨failure, store', rfl, rfl⟩
  | @ok i tree rest store' shorter grows holds =>
    cases rest with
    | nil => exact .inl ⟨i, tree, store', rfl, rfl, holds⟩
    | cons token later => exact .inr ⟨_, _, rfl, rfl⟩

end Store

namespace Reply

open Store

variable {store : Store} {low high i : Nat} {tree : Tree}

theorem toExpression_inStore (tokens : List Token) (h : Holds store low high i tree) :
    ((toExpression Store.workspace tokens (some i)).run store).run.1 =
      (toExpression Tree.workspace tokens tree).run := by
  obtain ⟨cells, owns, -⟩ := h.owns
  obtain ⟨kept, reduced⟩ := simplify_reduced owns
  have hv (link : Link) (store : Store) :
      ((Store.workspace.view link).run store).run = (store.read link, store) := rfl
  have hsimplify : ((Store.workspace.simplify (some i)).run store).run =
      store.simplify (some i) := rfl
  have hvTree (tree : Tree) : (Tree.workspace.view tree).run = tree := rfl
  have hsTree : (Tree.workspace.simplify tree).run = tree.simplify := rfl
  simp only [toExpression, StateT.run_bind, Id.run_bind, hv, hsimplify, owns.read_eq,
    reduced.owns.read_eq, hvTree, hsTree]
  cases valueOf tree tree.simplify <;> rfl

theorem toTokens_inStore (tokens : List Token) (store : Store) :
    ((toTokens Store.workspace tokens).run store).run.1 = (toTokens Tree.workspace tokens).run := by
  simp only [toTokens, StateT.run_bind, Id.run_bind]
  rcases whole_mirrors maxNesting tokens store with
    ⟨i, tree, store', hs, ht, holds⟩ | ⟨failure, store', hs, ht⟩
  · rw [hs, ht]
    exact toExpression_inStore tokens holds
  · rw [hs, ht]
    rfl

theorem toText_inStore (text : String) (store : Store) :
    ((toText Store.workspace text).run store).run.1 = reply text := by
  simp only [reply, toText]
  cases (Scan.ofText text).failure with
  | some error => rfl
  | none => exact toTokens_inStore _ store

theorem replyInStore_eq (text : String) : (replyInStore text).1 = reply text :=
  toText_inStore text .empty

end Reply

end Calculator
