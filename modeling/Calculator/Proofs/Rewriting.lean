import Calculator.Proofs.Alike
import Mathlib.Logic.Relation

/-!
Simplification as rewriting. A step replaces one operator, anywhere in a tree, by the operand that a
rule for zero or one keeps. `simplify_unique_normal_form` says that simplifying a tree finds the one
tree, up to the places of its tokens, in which every sequence of steps comes to its end.
-/

namespace Calculator.Tree

inductive Step : Tree → Tree → Prop
  | rule {o : Operator} {left right : Tree} {side : Side}
      (h : Keeps o.symbol left.literal? right.literal? side) :
      Step (node o left right) (side.pick left right)
  | left (o : Operator) {left left' : Tree} (right : Tree) (h : Step left left') :
      Step (node o left right) (node o left' right)
  | right (o : Operator) (left : Tree) {right right' : Tree} (h : Step right right') :
      Step (node o left right) (node o left right')

abbrev Steps : Tree → Tree → Prop := Relation.ReflTransGen Step

def Normal (t : Tree) : Prop := ∀ u, ¬ Step t u

variable {t u left left' right right' : Tree} {o : Operator} {side : Side}

theorem Step.size_lt (h : Step t u) : u.size < t.size := by
  induction h with
  | @rule o left right side h =>
    cases side <;> simp only [Side.pick, size] <;> omega
  | left o right _ ih =>
    simp only [size]
    omega
  | right o left _ ih =>
    simp only [size]
    omega

theorem steps_end (f : Nat → Tree) : ∃ n, ¬ Step (f n) (f (n + 1)) := by
  apply Classical.byContradiction
  intro hn
  have hstep (n : Nat) : Step (f n) (f (n + 1)) :=
    Classical.byContradiction fun hs => hn ⟨n, hs⟩
  have hsize (n : Nat) : (f n).size + n ≤ (f 0).size := by
    induction n with
    | zero => exact Nat.le_refl _
    | succ n ih =>
      have := (hstep n).size_lt
      omega
  have := hsize ((f 0).size + 1)
  omega

theorem literal?_simplify {value : Int} (h : t.literal? = some value) :
    t.simplify.literal? = some value := by
  obtain ⟨place, rfl⟩ := eq_number_of_literal? h
  rw [simplify_leaf]
  exact h

theorem contract_alike_pick (h : Keeps o.symbol left.literal? right.literal? side) :
    Alike (contract o left right).1 (side.pick left right) := by
  obtain ⟨side', hk⟩ := keptSide?_of_keeps h
  rw [contract_of_some hk]
  rcases (keeps_of_keptSide? hk).agree h with rfl | ⟨value, hl, hr⟩
  · exact .refl _
  · obtain ⟨place, rfl⟩ := eq_number_of_literal? hl
    obtain ⟨place', rfl⟩ := eq_number_of_literal? hr
    cases side' <;> cases side <;> rfl

theorem Step.simplify_alike (h : Step t u) : Alike t.simplify u.simplify := by
  induction h with
  | @rule o left right side h =>
    have hk : Keeps o.symbol left.simplify.literal? right.simplify.literal? side :=
      h.mono literal?_simplify literal?_simplify
    rw [simplify_node, side.map_pick simplify]
    exact contract_alike_pick hk
  | left o right _ ih =>
    rw [simplify_node, simplify_node]
    exact contract_alike rfl ih (.refl _)
  | right o left _ ih =>
    rw [simplify_node, simplify_node]
    exact contract_alike rfl (.refl _) ih

theorem steps_simplify_alike (h : Steps t u) : Alike t.simplify u.simplify := by
  induction h with
  | refl => exact .refl _
  | tail _ hs ih => exact ih.trans hs.simplify_alike

theorem normal_leaf (l : Leaf) : Normal (leaf l) := by
  intro u h
  cases h

theorem normal_node_iff : Normal (node o left right) ↔
    Normal left ∧ Normal right ∧ keptSide? o.symbol left.literal? right.literal? = none := by
  constructor
  · intro h
    refine ⟨fun _ hs => h _ (.left o right hs), fun _ hs => h _ (.right o left hs), ?_⟩
    cases hk : keptSide? o.symbol left.literal? right.literal? with
    | none => rfl
    | some side => exact absurd (Step.rule (keeps_of_keptSide? hk)) (h _)
  · rintro ⟨hl, hr, hk⟩ u h
    cases h with
    | rule h =>
      obtain ⟨side, hs⟩ := keptSide?_of_keeps h
      cases hk.symm.trans hs
    | left _ _ h => exact hl _ h
    | right _ _ h => exact hr _ h

theorem simplify_normal (t : Tree) : Normal t.simplify := by
  induction t with
  | leaf l =>
    rw [simplify_leaf]
    exact normal_leaf l
  | node o left right ihl ihr =>
    rw [simplify_node]
    cases hk : keptSide? o.symbol left.simplify.literal? right.simplify.literal? with
    | none =>
      rw [contract_of_none hk]
      exact normal_node_iff.mpr ⟨ihl, ihr, hk⟩
    | some side =>
      rw [contract_of_some hk]
      cases side with
      | left => exact ihl
      | right => exact ihr

theorem Normal.simplify_eq (h : Normal t) : t.simplify = t := by
  induction t with
  | leaf l => exact simplify_leaf l
  | node o left right ihl ihr =>
    obtain ⟨hl, hr, hk⟩ := normal_node_iff.mp h
    rw [simplify_node, ihl hl, ihr hr]
    exact contract_of_none hk

theorem steps_left (h : Steps left left') : Steps (node o left right) (node o left' right) := by
  induction h with
  | refl => exact .refl
  | tail _ hs ih => exact ih.tail (.left o right hs)

theorem steps_right (h : Steps right right') : Steps (node o left right) (node o left right') := by
  induction h with
  | refl => exact .refl
  | tail _ hs ih => exact ih.tail (.right o left hs)

theorem steps_simplify (t : Tree) : Steps t t.simplify := by
  induction t with
  | leaf l => rw [simplify_leaf]
  | node o left right ihl ihr =>
    have hs : Steps (node o left right) (node o left.simplify right.simplify) :=
      (steps_left ihl).trans (steps_right ihr)
    rw [simplify_node]
    cases hk : keptSide? o.symbol left.simplify.literal? right.simplify.literal? with
    | none =>
      rw [contract_of_none hk]
      exact hs
    | some side =>
      rw [contract_of_some hk]
      exact hs.tail (.rule (keeps_of_keptSide? hk))

theorem simplify_unique_normal_form (t : Tree) :
    (∀ f : Nat → Tree, f 0 = t → ∃ n, ¬ Step (f n) (f (n + 1))) ∧
    Steps t t.simplify ∧ Normal t.simplify ∧
    ∀ u, Steps t u → Normal u → Alike u t.simplify ∧ u.render = t.simplify.render := by
  refine ⟨fun f _ => steps_end f, steps_simplify t, simplify_normal t, ?_⟩
  intro u hs hn
  have ha : Alike t.simplify u.simplify := steps_simplify_alike hs
  rw [hn.simplify_eq] at ha
  exact ⟨ha.symm, render_alike ha.symm⟩

theorem zero_mul_zero_ends_alike :
    Alike (number 0 ⟨1, 5⟩)
      (node ⟨"*", ⟨1, 3⟩⟩ (number 0 ⟨1, 1⟩) (number 0 ⟨1, 5⟩)).simplify := by
  have hs : Steps (node ⟨"*", ⟨1, 3⟩⟩ (number 0 ⟨1, 1⟩) (number 0 ⟨1, 5⟩)) (number 0 ⟨1, 5⟩) :=
    .single (@Step.rule _ (number 0 ⟨1, 1⟩) (number 0 ⟨1, 5⟩) .right (.mul_zero _))
  exact ((simplify_unique_normal_form _).2.2.2 _ hs (normal_leaf _)).1

end Calculator.Tree
