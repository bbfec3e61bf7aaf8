import Calculator.Tree.Simplify
import Mathlib.Tactic.SplitIfs

/-!
The rules for zero and one, each on its own. `keptSide?` tries them in a fixed order; where two of
them apply and keep different operands, both operands are the same literal. A change to a tree after
which the same rules apply to its operators can be made before the tree is simplified or afterwards.
-/

namespace Calculator

inductive Keeps : String → Option Int → Option Int → Side → Prop
  | zero_mul (right : Option Int) : Keeps "*" (some 0) right .left
  | mul_zero (left : Option Int) : Keeps "*" left (some 0) .right
  | zero_div (right : Option Int) : Keeps "/" (some 0) right .left
  | zero_add (right : Option Int) : Keeps "+" (some 0) right .right
  | add_zero (left : Option Int) : Keeps "+" left (some 0) .left
  | sub_zero (left : Option Int) : Keeps "-" left (some 0) .left
  | one_mul (right : Option Int) : Keeps "*" (some 1) right .right
  | mul_one (left : Option Int) : Keeps "*" left (some 1) .left
  | div_one (left : Option Int) : Keeps "/" left (some 1) .left

variable {symbol : String} {left right : Option Int} {side side' : Side}

theorem keeps_of_keptSide? (h : keptSide? symbol left right = some side) :
    Keeps symbol left right side := by
  unfold keptSide? at h
  split_ifs at h with hs hk hk hs hk hs hk hk hs hk
  · subst hs
    cases h
    rcases hk with rfl | rfl
    · exact .zero_mul right
    · exact .mul_one left
  · subst hs
    cases h
    rcases hk with rfl | rfl
    · exact .mul_zero left
    · exact .one_mul right
  · subst hs
    cases h
    rcases hk with rfl | rfl
    · exact .zero_div right
    · exact .div_one left
  · subst hs hk
    cases h
    exact .zero_add right
  · subst hs hk
    cases h
    exact .add_zero left
  · subst hs hk
    cases h
    exact .sub_zero left

theorem keptSide?_of_keeps (h : Keeps symbol left right side) :
    ∃ side', keptSide? symbol left right = some side' := by
  cases hk : keptSide? symbol left right with
  | some side' => exact ⟨side', rfl⟩
  | none =>
    exfalso
    unfold keptSide? at hk
    split_ifs at hk <;> cases h <;> simp_all

theorem Keeps.mono {left' right' : Option Int} (h : Keeps symbol left right side)
    (hl : ∀ {value}, left = some value → left' = some value)
    (hr : ∀ {value}, right = some value → right' = some value) :
    Keeps symbol left' right' side := by
  cases h with
  | zero_mul => exact hl rfl ▸ .zero_mul right'
  | mul_zero => exact hr rfl ▸ .mul_zero left'
  | zero_div => exact hl rfl ▸ .zero_div right'
  | zero_add => exact hl rfl ▸ .zero_add right'
  | add_zero => exact hr rfl ▸ .add_zero left'
  | sub_zero => exact hr rfl ▸ .sub_zero left'
  | one_mul => exact hl rfl ▸ .one_mul right'
  | mul_one => exact hr rfl ▸ .mul_one left'
  | div_one => exact hr rfl ▸ .div_one left'

theorem Keeps.agree (h : Keeps symbol left right side) (h' : Keeps symbol left right side') :
    side = side' ∨ ∃ value, left = some value ∧ right = some value := by
  generalize hs : symbol = symbol' at h'
  cases h <;> cases h' <;> simp_all

theorem keptSide?_congr {left' right' : Option Int}
    (hl : ∀ value, value = 0 ∨ value = 1 → (left = some value ↔ left' = some value))
    (hr : ∀ value, value = 0 ∨ value = 1 → (right = some value ↔ right' = some value)) :
    keptSide? symbol left right = keptSide? symbol left' right' := by
  simp only [keptSide?, hl 0 (.inl rfl), hl 1 (.inr rfl), hr 0 (.inl rfl), hr 1 (.inr rfl)]

theorem Side.map_pick {α β : Type} (f : α → β) (side : Side) (left right : α) :
    f (side.pick left right) = side.pick (f left) (f right) := by
  cases side <;> rfl

def Removal.map (f : Tree → Tree) (removal : Removal) : Removal :=
  ⟨f removal.before, f removal.after⟩

namespace Tree

structure KeepsRules (f : Tree → Tree) (g : Operator → Operator) : Prop where
  node_eq : ∀ o left right, f (node o left right) = node (g o) (f left) (f right)
  rule_eq : ∀ o left right, keptSide? (g o).symbol (f left).literal? (f right).literal? =
    keptSide? o.symbol left.literal? right.literal?

namespace KeepsRules

variable {f f' : Tree → Tree} {g : Operator → Operator}

theorem contract_eq (h : KeepsRules f g) (o : Operator) (left right : Tree) :
    contract (g o) (f left) (f right) =
      (contract o left right).map f (Option.map (Removal.map f)) := by
  simp only [contract, h.rule_eq]
  cases keptSide? o.symbol left.literal? right.literal? with
  | none => simp only [Prod.map_apply, h.node_eq, Option.map_none]
  | some side => simp only [Prod.map_apply, h.node_eq, Option.map_some, Removal.map, side.map_pick f]

theorem simplify_eq (h : KeepsRules f' g)
    (hn : ∀ o left right, f (node o left right) = node (g o) (f left) (f right))
    (hl : ∀ l, (f (leaf l)).simplify = f' (leaf l)) (t : Tree) :
    (f t).simplify = f' t.simplify := by
  induction t with
  | leaf l => rw [hl, simplify_leaf]
  | node o left right ihl ihr =>
    rw [hn, simplify_node, simplify_node, ihl, ihr, h.contract_eq]
    rfl

theorem removals_eq (h : KeepsRules f g) (simplified : ∀ l, (f (leaf l)).simplify = f (leaf l))
    (unchanged : ∀ l, (f (leaf l)).removals = []) (t : Tree) :
    (f t).removals = t.removals.map (Removal.map f) := by
  induction t with
  | leaf l => rw [unchanged, removals_leaf, List.map_nil]
  | node o left right ihl ihr =>
    rw [h.node_eq, removals_node, removals_node, ihl, ihr, h.simplify_eq h.node_eq simplified,
      h.simplify_eq h.node_eq simplified, h.contract_eq, Prod.map_snd, Option.toList_map,
      List.map_append, List.map_append]

end KeepsRules

end Tree

end Calculator
