import Calculator.Proofs.Rules

namespace Calculator

def Leaf.unplaced : Leaf → Leaf
  | .absent => .absent
  | .number value _ => .number value .start
  | .identifier name _ => .identifier name .start

def Operator.unplaced (o : Operator) : Operator := ⟨o.symbol, .start⟩

namespace Tree

variable {t u v left left' right right' : Tree} {o o' : Operator}

def unplaced : Tree → Tree
  | leaf l => leaf l.unplaced
  | node o left right => node o.unplaced left.unplaced right.unplaced

def Alike (t u : Tree) : Prop := t.unplaced = u.unplaced

theorem Alike.refl (t : Tree) : Alike t t := rfl

theorem Alike.symm (h : Alike t u) : Alike u t := Eq.symm h

theorem Alike.trans (h : Alike t u) (h' : Alike u v) : Alike t v := Eq.trans h h'

theorem alike_node (ho : o.symbol = o'.symbol) (hl : Alike left left') (hr : Alike right right') :
    Alike (node o left right) (node o' left' right') := by
  simp only [Alike, unplaced] at hl hr ⊢
  rw [hl, hr, Operator.unplaced, Operator.unplaced, ho]

theorem literal?_unplaced (t : Tree) : t.unplaced.literal? = t.literal? := by
  rcases t with l | _
  · cases l <;> rfl
  · rfl

theorem keepsRules_unplaced : KeepsRules unplaced Operator.unplaced where
  node_eq _ _ _ := rfl
  rule_eq o left right := by rw [literal?_unplaced, literal?_unplaced, Operator.unplaced]

theorem contract_unplaced (o : Operator) (left right : Tree) :
    (contract o.unplaced left.unplaced right.unplaced).1 = (contract o left right).1.unplaced :=
  congrArg Prod.fst (keepsRules_unplaced.contract_eq o left right)

theorem contract_alike (ho : o.symbol = o'.symbol) (hl : Alike left left')
    (hr : Alike right right') : Alike (contract o left right).1 (contract o' left' right').1 := by
  have hs : o.unplaced = o'.unplaced := by rw [Operator.unplaced, Operator.unplaced, ho]
  unfold Alike at hl hr ⊢
  rw [← contract_unplaced, ← contract_unplaced, hl, hr, hs]

theorem simplify_unplaced (t : Tree) : t.unplaced.simplify = t.simplify.unplaced :=
  keepsRules_unplaced.simplify_eq keepsRules_unplaced.node_eq (fun l => simplify_leaf l.unplaced) t

theorem simplify_alike (h : Alike t u) : Alike t.simplify u.simplify := by
  unfold Alike at h ⊢
  rw [← simplify_unplaced, ← simplify_unplaced, h]

theorem fragments_unplaced (t : Tree) : t.unplaced.fragments = t.fragments := by
  induction t with
  | leaf l => cases l <;> rfl
  | node o left right ihl ihr =>
    simp only [unplaced, fragments, ihl, ihr]
    rfl

theorem render_alike (h : Alike t u) : t.render = u.render := by
  rw [render_eq, render_eq, ← fragments_unplaced t, ← fragments_unplaced u, h]

end Tree

end Calculator
