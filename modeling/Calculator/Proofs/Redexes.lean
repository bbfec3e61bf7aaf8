import Calculator.Proofs.Owned
import Calculator.Proofs.Rewriting
import Calculator.Proofs.Sites

/-!
One pass of simplification is enough, and no pass touches a tree that needs none. A redex is an
operator to which a rule for zero or one applies. A simplified tree has no redex; a tree without one is
left as it is, cell by cell; any other tree becomes smaller.
-/

namespace Calculator

namespace Tree

variable {t u left right : Tree} {o : Operator}

def IsRedex : Tree → Prop
  | leaf _ => False
  | node o left right => ∃ side, Keeps o.symbol left.literal? right.literal? side

theorem not_isRedex_node_iff : ¬ (node o left right).IsRedex ↔
    keptSide? o.symbol left.literal? right.literal? = none := by
  constructor
  · intro h
    cases hk : keptSide? o.symbol left.literal? right.literal? with
    | none => rfl
    | some side => exact absurd ⟨side, keeps_of_keptSide? hk⟩ h
  · rintro hk ⟨side, h⟩
    obtain ⟨side', hs⟩ := keptSide?_of_keeps h
    cases hk.symm.trans hs

theorem normal_iff : Normal t ↔ ∀ site ∈ t.sites, ¬ site.tree.IsRedex := by
  induction t with
  | leaf l => exact iff_of_true (normal_leaf l) (List.forall_mem_singleton.mpr id)
  | node o left right ihl ihr =>
    rw [forall_sites_node (p := fun u => ¬ u.IsRedex), ← ihl, ← ihr, not_isRedex_node_iff]
    exact normal_node_iff

theorem not_normal_iff : ¬ Normal t ↔ ∃ site ∈ t.sites, site.tree.IsRedex := by
  simp only [normal_iff, not_forall, not_not, exists_prop]

theorem removals_eq_nil_iff : t.removals = [] ↔ Normal t := by
  induction t with
  | leaf l => exact iff_of_true (removals_leaf l) (normal_leaf l)
  | node o left right ihl ihr =>
    rw [removals_node, List.append_eq_nil_iff, List.append_eq_nil_iff, ihl, ihr, normal_node_iff,
      and_assoc]
    refine and_congr_right fun hl => and_congr_right fun hr => ?_
    rw [hl.simplify_eq, hr.simplify_eq, contract]
    cases keptSide? o.symbol left.literal? right.literal? <;> simp

theorem Steps.size_le (h : Steps t u) : u = t ∨ u.size < t.size := by
  induction h with
  | refl => exact .inl rfl
  | tail _ hs ih =>
    have := hs.size_lt
    rcases ih with rfl | ih
    · exact .inr this
    · exact .inr (this.trans ih)

theorem size_simplify_lt (h : ¬ Normal t) : t.simplify.size < t.size := by
  rcases (steps_simplify t).size_le with he | hs
  · exact absurd (he ▸ simplify_normal t) h
  · exact hs

end Tree

namespace Store

variable {store : Store} {link : Link} {cells : List Nat} {t : Tree}

theorem simplify_of_normal (h : Owns store link cells t) (hn : t.Normal) :
    store.simplify link = (link, store) := by
  induction h with
  | absent => rfl
  | leaf cell => rw [simplify, simplifyCell, cell]
  | node cell lower upper older _ ihl ihr =>
    obtain ⟨hl, hr⟩ := List.forall_mem_append.mp older
    obtain ⟨nl, nr, hk⟩ := Tree.normal_node_iff.mp hn
    rw [simplify, simplifyCell_node cell, below_eq (lower.root_older hl),
      below_eq (upper.root_older hr)]
    simp only [ihl nl, ihr nr, simplifyNode, set_same cell, lower.literal?_eq, upper.literal?_eq, hk]

theorem simplify_eq_self_iff (h : Owns store link cells t) :
    store.simplify link = (link, store) ↔ t.Normal := by
  refine ⟨fun he => ?_, simplify_of_normal h⟩
  obtain ⟨kept, reduced⟩ := simplify_reduced h
  have hread := reduced.owns.read_eq
  rw [he, h.read_eq] at hread
  exact hread ▸ Tree.simplify_normal t

theorem preorder_simplify_lt (h : Owns store link cells t) (hn : ¬ t.Normal) :
    ((store.simplify link).2.preorder (store.simplify link).1).length <
      (store.preorder link).length := by
  obtain ⟨kept, reduced⟩ := simplify_reduced h
  have hremovals : 0 < t.removals.length :=
    List.length_pos_iff.mpr (mt Tree.removals_eq_nil_iff.mp hn)
  have := reduced.fewer
  rw [reduced.owns.preorder_eq, h.preorder_eq]
  omega

end Store

namespace Tree

open Store

theorem simplified_in_one_pass (t : Tree) :
    (∀ site ∈ t.simplify.sites, ¬ site.tree.IsRedex) ∧
    t.simplify.simplify = t.simplify ∧
    ((∃ site ∈ t.sites, site.tree.IsRedex) → t.simplify.size < t.size) ∧
    (∀ store link cells, Owns store link cells t →
      (store.simplify link = (link, store) ∧ store.removals link = [] ↔
        ∀ site ∈ t.sites, ¬ site.tree.IsRedex) ∧
      (store.simplify link).2.read (store.simplify link).1 = t.simplify ∧
      (store.simplify link).2.simplify (store.simplify link).1 = store.simplify link ∧
      ((∃ site ∈ t.sites, site.tree.IsRedex) →
        ((store.simplify link).2.preorder (store.simplify link).1).length <
          (store.preorder link).length)) ∧
    ∀ store, ∃ cells, Owns ((load t).run store).run.2 ((load t).run store).run.1 cells t := by
  have hnormal := simplify_normal t
  refine ⟨normal_iff.mp hnormal, hnormal.simplify_eq,
    fun hr => size_simplify_lt (not_normal_iff.mpr hr), ?_, ?_⟩
  · intro store link cells h
    obtain ⟨kept, reduced⟩ := simplify_reduced h
    refine ⟨?_, reduced.owns.read_eq, simplify_of_normal reduced.owns hnormal,
      fun hr => preorder_simplify_lt h (not_normal_iff.mpr hr)⟩
    rw [simplify_eq_self_iff h, removals_eq h, removals_eq_nil_iff, and_self, normal_iff]
  · intro store
    obtain ⟨cells, owns, -⟩ := load_owns t store
    exact ⟨cells, owns⟩

def hiddenRedex : Tree :=
  node ⟨"*", ⟨1, 8⟩⟩ (node ⟨"+", ⟨1, 3⟩⟩ (number 0 ⟨1, 1⟩) (number 1 ⟨1, 5⟩)) (identifier "x" ⟨1, 10⟩)

theorem hiddenRedex_goes_in_same_pass :
    let loaded := ((load hiddenRedex).run .empty).run
    let simplified := loaded.2.simplify loaded.1
    ¬ hiddenRedex.IsRedex ∧ simplified.2.read simplified.1 = identifier "x" ⟨1, 10⟩ ∧
      hiddenRedex.simplify.size < hiddenRedex.size ∧
      simplified.2.simplify simplified.1 = simplified ∧
      (simplified.2.preorder simplified.1).length < (loaded.2.preorder loaded.1).length := by
  have hredex : ∃ site ∈ hiddenRedex.sites, site.tree.IsRedex :=
    not_normal_iff.mp fun hn => hn _ (.left _ _ (.rule (.zero_add _)))
  have hsimplify : hiddenRedex.simplify = identifier "x" ⟨1, 10⟩ := by decide +kernel
  obtain ⟨-, -, hsmaller, hstore, hload⟩ := simplified_in_one_pass hiddenRedex
  obtain ⟨cells, owns⟩ := hload .empty
  obtain ⟨-, hread, hagain, hfewer⟩ := hstore _ _ _ owns
  exact ⟨not_isRedex_node_iff.mpr (by decide), hread.trans hsimplify, hsmaller hredex,
    hagain, hfewer hredex⟩

end Tree

end Calculator
