import Calculator.Proofs.Rules
import Mathlib.Algebra.Field.Rat

/-!
The exact value of a tree in the rational numbers, where identifiers have values assigned to them. It
is undefined where an operand is absent, an operator unknown or a divisor zero. A simplified tree
keeps the value of the tree it was made from, and has no identifiers of its own.
-/

namespace Calculator.Tree

def exactOperate (symbol : String) (a b : ℚ) : Option ℚ :=
  if symbol = "+" then some (a + b)
  else if symbol = "-" then some (a - b)
  else if symbol = "*" then some (a * b)
  else if symbol = "/" then if b = 0 then none else some (a / b)
  else none

def exactValue? (assigned : String → ℚ) : Tree → Option ℚ
  | leaf .absent => none
  | leaf (.number value _) => some value
  | leaf (.identifier name _) => some (assigned name)
  | node o left right => do
    let a ← left.exactValue? assigned
    let b ← right.exactValue? assigned
    exactOperate o.symbol a b

def identifiers : Tree → List String
  | leaf (.identifier name _) => [name]
  | leaf _ => []
  | node _ left right => left.identifiers ++ right.identifiers

variable {assigned : String → ℚ} {left right t : Tree} {o : Operator} {v : ℚ}

theorem exactValue?_node : (node o left right).exactValue? assigned = some v ↔
    ∃ a b, left.exactValue? assigned = some a ∧ right.exactValue? assigned = some b ∧
      exactOperate o.symbol a b = some v := by
  simp only [exactValue?, Option.bind_eq_bind, Option.bind_eq_some_iff]
  constructor
  · rintro ⟨a, ha, b, hb, hv⟩
    exact ⟨a, b, ha, hb, hv⟩
  · rintro ⟨a, b, ha, hb, hv⟩
    exact ⟨a, ha, b, hb, hv⟩

theorem exactValue?_of_literal? {value : Int} (h : t.literal? = some value) :
    t.exactValue? assigned = some (value : ℚ) := by
  obtain ⟨place, rfl⟩ := eq_number_of_literal? h
  rfl

theorem exactOperate_of_keeps {symbol : String} {l r : Option Int} {side : Side} {a b : ℚ}
    (h : Keeps symbol l r side) (hl : ∀ {value : Int}, l = some value → a = value)
    (hr : ∀ {value : Int}, r = some value → b = value) (hv : exactOperate symbol a b = some v) :
    side.pick a b = v := by
  cases h
  case zero_mul | zero_div | zero_add =>
    have ha : a = 0 := by simpa using hl rfl
    simp_all [exactOperate, Side.pick]
  case mul_zero | add_zero | sub_zero =>
    have hb : b = 0 := by simpa using hr rfl
    simp_all [exactOperate, Side.pick]
  case one_mul =>
    have ha : a = 1 := by simpa using hl rfl
    simp_all [exactOperate, Side.pick]
  case mul_one | div_one =>
    have hb : b = 1 := by simpa using hr rfl
    simp_all [exactOperate, Side.pick]

theorem contract_exact (hv : (node o left right).exactValue? assigned = some v) :
    (contract o left right).1.exactValue? assigned = some v := by
  cases hk : keptSide? o.symbol left.literal? right.literal? with
  | none =>
    rw [contract_of_none hk]
    exact hv
  | some side =>
    obtain ⟨a, b, ha, hb, ho⟩ := exactValue?_node.mp hv
    have hl {value : Int} (h : left.literal? = some value) : a = value :=
      Option.some.inj (ha.symm.trans (exactValue?_of_literal? h))
    have hr {value : Int} (h : right.literal? = some value) : b = value :=
      Option.some.inj (hb.symm.trans (exactValue?_of_literal? h))
    have hp : side.pick a b = v := exactOperate_of_keeps (keeps_of_keptSide? hk) hl hr ho
    rw [contract_of_some hk, ← hp]
    cases side with
    | left => exact ha
    | right => exact hb

theorem exactValue?_simplify (hv : t.exactValue? assigned = some v) :
    t.simplify.exactValue? assigned = some v := by
  induction t generalizing v with
  | leaf l =>
    rw [simplify_leaf]
    exact hv
  | node o left right ihl ihr =>
    obtain ⟨a, b, ha, hb, ho⟩ := exactValue?_node.mp hv
    rw [simplify_node]
    apply contract_exact
    exact exactValue?_node.mpr ⟨a, b, ihl ha, ihr hb, ho⟩

theorem identifiers_simplify (t : Tree) : t.simplify.identifiers ⊆ t.identifiers := by
  refine simplify_induction (motive := fun t u => u.identifiers ⊆ t.identifiers) ?_ ?_ ?_ ?_ t
  · exact fun _ => List.Subset.refl _
  · intro o left right left' right' hl hr
    exact List.append_subset.mpr
      ⟨List.subset_append_of_subset_left _ hl, List.subset_append_of_subset_right _ hr⟩
  · exact fun h => List.subset_append_of_subset_left _ h
  · exact fun h => List.subset_append_of_subset_right _ h

theorem simplify_keeps_exact_value (t : Tree) (assigned : String → ℚ) :
    (∀ v, t.exactValue? assigned = some v → t.simplify.exactValue? assigned = some v) ∧
    ∀ name ∈ t.simplify.identifiers, name ∈ t.identifiers :=
  ⟨fun _ hv => exactValue?_simplify hv, fun _ hn => identifiers_simplify t hn⟩

theorem simplify_keeps_seventh :
    (node ⟨"+", .start⟩ (number 0 .start) (identifier "x" .start)).simplify.exactValue?
      (fun _ => 1 / 7) = some (1 / 7) := by
  have h : (node ⟨"+", .start⟩ (number 0 .start) (identifier "x" .start)).exactValue?
      (fun _ => 1 / 7) = some (1 / 7) := by
    simp [exactValue?, exactOperate]
  exact (simplify_keeps_exact_value _ _).1 _ h

end Calculator.Tree
