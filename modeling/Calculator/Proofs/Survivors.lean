import Calculator.Proofs.Reentry
import Calculator.Proofs.Redexes
import Mathlib.Algebra.GroupWithZero.Nat

/-!
What simplification leaves of a tree. Read from left to right, the leaves and operators that survive
stand in the order in which they stood, each with its own token; the others were dropped, an operator
and all that is left of one operand with each removal. What is left is no higher, and has a value to be
asked for if the tree had.
-/

namespace Calculator

namespace Tree

def inorder : Tree → List (Leaf ⊕ Operator)
  | leaf .absent => []
  | leaf l => [.inl l]
  | node o left right => left.inorder ++ .inr o :: right.inorder

end Tree

def Removal.dropped (removal : Removal) : Tree :=
  match removal.before with
  | .leaf _ => .absent
  | .node o left right =>
    match keptSide? o.symbol left.literal? right.literal? with
    | some side => side.other.pick left right
    | none => .absent

def Removal.dropCount (removal : Removal) : Nat := 1 + removal.dropped.inorder.length

namespace Tree

open Store

variable {o : Operator} {left right : Tree} {side : Side}

theorem inorder_simplify (t : Tree) : t.simplify.inorder.Sublist t.inorder := by
  refine simplify_induction (motive := fun t u => u.inorder.Sublist t.inorder) ?_ ?_ ?_ ?_ t
  · exact fun _ => List.Sublist.refl _
  · exact fun hl hr => hl.append (hr.cons_cons _)
  · exact fun h => h.trans (List.sublist_append_left _ _)
  · exact fun h => (h.cons _).trans (List.sublist_append_right _ _)

theorem dropped_of_keptSide? (h : keptSide? o.symbol left.literal? right.literal? = some side) :
    Removal.dropped ⟨node o left right, side.pick left right⟩ = side.other.pick left right := by
  simp only [Removal.dropped, h]

theorem length_inorder_contract (o : Operator) (left right : Tree) :
    (node o left right).inorder.length = (contract o left right).1.inorder.length +
      ((contract o left right).2.toList.map Removal.dropCount).sum := by
  rw [contract]
  cases hk : keptSide? o.symbol left.literal? right.literal? with
  | none => rfl
  | some side =>
    have hd := dropped_of_keptSide? hk
    simp only [inorder, Option.toList_some, List.map_singleton, List.sum_singleton,
      Removal.dropCount, hd, List.length_append, List.length_cons]
    cases side <;> simp only [Side.pick, Side.other] <;> omega

theorem length_inorder_eq (t : Tree) : t.inorder.length =
    t.simplify.inorder.length + (t.removals.map Removal.dropCount).sum := by
  induction t with
  | leaf l =>
    rw [simplify_leaf, removals_leaf]
    rfl
  | node o left right ihl ihr =>
    have hc := length_inorder_contract o left.simplify right.simplify
    simp only [inorder, List.length_append, List.length_cons] at hc ⊢
    rw [simplify_node, removals_node, List.map_append, List.map_append, List.sum_append,
      List.sum_append]
    omega

theorem exists_of_mem_removals (t : Tree) : ∀ removal ∈ t.removals, ∃ o left right side,
    removal = ⟨node o left right, side.pick left right⟩ ∧
      Keeps o.symbol left.literal? right.literal? side ∧
      removal.dropped = side.other.pick left right := by
  induction t with
  | leaf l =>
    rw [removals_leaf]
    exact List.forall_mem_nil _
  | node o left right ihl ihr =>
    rw [removals_node]
    refine List.forall_mem_append.mpr ⟨List.forall_mem_append.mpr ⟨ihl, ihr⟩, ?_⟩
    rw [contract]
    cases hk : keptSide? o.symbol left.simplify.literal? right.simplify.literal? with
    | none => exact List.forall_mem_nil _
    | some side =>
      exact List.forall_mem_singleton.mpr
        ⟨o, _, _, side, rfl, keeps_of_keptSide? hk, dropped_of_keptSide? hk⟩

theorem simplify_only_deletes (t : Tree) :
    t.simplify.inorder.Sublist t.inorder ∧
    t.inorder.length = t.simplify.inorder.length + (t.removals.map Removal.dropCount).sum ∧
    (∀ removal ∈ t.removals, ∃ o left right side,
      removal = ⟨node o left right, side.pick left right⟩ ∧
        Keeps o.symbol left.literal? right.literal? side ∧
        removal.dropped = side.other.pick left right) ∧
    t.simplify.height ≤ t.height ∧ (t.isNumerical = true → t.simplify.isNumerical = true) ∧
    ∀ store link cells, Owns store link cells t →
      ((store.simplify link).2.read (store.simplify link).1).inorder.Sublist
        (store.read link).inorder ∧
      store.removals link = t.removals := by
  refine ⟨inorder_simplify t, length_inorder_eq t, exists_of_mem_removals t, height_simplify t,
    isNumerical_simplify, fun store link cells h => ?_⟩
  obtain ⟨kept, reduced⟩ := simplify_reduced h
  rw [reduced.owns.read_eq, h.read_eq]
  exact ⟨inorder_simplify t, Store.removals_eq h⟩

def zeroQuotientAndFive : Tree :=
  node ⟨"+", ⟨1, 12⟩⟩
    (node ⟨"/", ⟨1, 2⟩⟩ (number 0 ⟨1, 0⟩)
      (node ⟨"+", ⟨1, 7⟩⟩ (number 2 ⟨1, 5⟩) (number 3 ⟨1, 9⟩)))
    (node ⟨"*", ⟨1, 16⟩⟩ (number 5 ⟨1, 14⟩) (number 1 ⟨1, 18⟩))

theorem zeroQuotientAndFive_leaves_five :
    let loaded := ((load zeroQuotientAndFive).run .empty).run
    let simplified := loaded.2.simplify loaded.1
    zeroQuotientAndFive.simplify.isNumerical = true ∧
      simplified.2.read simplified.1 = number 5 ⟨1, 14⟩ ∧
      (simplified.2.read simplified.1).inorder.Sublist (loaded.2.read loaded.1).inorder ∧
      (loaded.2.removals loaded.1).map Removal.dropCount = [4, 2, 2] ∧
      zeroQuotientAndFive.inorder.length = 1 + 8 := by
  have hs : zeroQuotientAndFive.simplify = number 5 ⟨1, 14⟩ := by decide +kernel
  have hr : zeroQuotientAndFive.removals.map Removal.dropCount = [4, 2, 2] := by decide +kernel
  have hn : zeroQuotientAndFive.isNumerical = true := by decide +kernel
  obtain ⟨cells, owns, -⟩ := load_owns zeroQuotientAndFive .empty
  obtain ⟨-, hcount, -, -, hnumerical, hstore⟩ := simplify_only_deletes zeroQuotientAndFive
  obtain ⟨hsublist, hremovals⟩ := hstore _ _ _ owns
  obtain ⟨kept, reduced⟩ := simplify_reduced owns
  rw [hs, hr] at hcount
  exact ⟨hnumerical hn, reduced.owns.read_eq.trans hs, hsublist, hremovals ▸ hr, hcount⟩

end Tree

end Calculator
