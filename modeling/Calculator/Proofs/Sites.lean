import Calculator.Tree

/-!
The nodes of a tree in post-order: those of the left operand, those of the right operand, then the
operator. Each comes with its surroundings, so that another tree can be put in its place. What is
computed of a tree from its nodes in this order ends at the first one that has a fault.
-/

namespace Calculator

structure Site (whole : Tree) where
  tree : Tree
  put : Tree → Tree
  put_tree : put tree = whole

namespace Site

variable {t : Tree}

def root (t : Tree) : Site t := ⟨t, id, rfl⟩

def inside (surround : Tree → Tree) (site : Site t) : Site (surround t) :=
  ⟨site.tree, fun u => surround (site.put u), congrArg surround site.put_tree⟩

end Site

namespace Tree

def sites : (t : Tree) → List (Site t)
  | leaf l => [.root (leaf l)]
  | node o left right =>
    left.sites.map (.inside fun u => node o u right) ++
      right.sites.map (.inside fun u => node o left u) ++ [.root (node o left right)]

variable {o : Operator} {l : Leaf} {left right : Tree} {β : Type}

theorem forall_sites_node {p : Tree → Prop} : (∀ site ∈ (node o left right).sites, p site.tree) ↔
    (∀ site ∈ left.sites, p site.tree) ∧ (∀ site ∈ right.sites, p site.tree) ∧
      p (node o left right) := by
  simp only [sites, List.forall_mem_append, List.forall_mem_map, List.forall_mem_singleton,
    Site.inside, Site.root, and_assoc]

section Faults

variable {ε α : Type} {fault? : Tree → Option ε} {run : Tree → Except ε α} {t : Tree} {e : ε}

namespace EndsAtFault

end EndsAtFault

end Faults

end Tree

end Calculator
