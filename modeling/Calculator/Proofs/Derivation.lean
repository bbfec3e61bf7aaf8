import Calculator.Proofs.History
import Calculator.Proofs.Redexes

/-!
The log of a simplification as a derivation. Every removal contracts the redex that comes first, in
post-order, in the tree that the removals before it have left, and it records the redex and the operand
as they stand in that tree. When the removals are at an end, so are the redexes.
-/

namespace Calculator.Tree

def contracted? : Tree → Option Tree
  | leaf _ => none
  | node o left right => (keptSide? o.symbol left.literal? right.literal?).map (·.pick left right)

def contractFirst? (t : Tree) : Option (Removal × Tree) :=
  t.sites.findSome? fun site => site.tree.contracted?.map fun kept =>
    (⟨site.tree, kept⟩, site.put kept)

inductive FirstContraction (t : Tree) : Removal → Tree → Prop
  | mk {before after : List (Site t)} {site : Site t} {kept : Tree}
      (sites : t.sites = before ++ site :: after)
      (earlier : ∀ site ∈ before, ¬ site.tree.IsRedex)
      (contracted : site.tree.contracted? = some kept) :
      FirstContraction t ⟨site.tree, kept⟩ (site.put kept)

inductive Derives : Tree → List Removal → Tree → Prop
  | refl (t : Tree) : Derives t [] t
  | step {t u v : Tree} {removal : Removal} {removals : List Removal}
      (first : FirstContraction t removal u) (rest : Derives u removals v) :
      Derives t (removal :: removals) v

variable {t u v left left' right right' kept : Tree} {o : Operator} {removal removal' : Removal}
variable {removals removals' : List Removal}

theorem contracted?_eq_none_iff : t.contracted? = none ↔ ¬ t.IsRedex := by
  cases t with
  | leaf l => exact iff_of_true rfl id
  | node o left right => rw [contracted?, Option.map_eq_none_iff, not_isRedex_node_iff]

namespace FirstContraction

theorem not_normal (h : FirstContraction t removal u) : ¬ Normal t := by
  obtain @⟨before, after, site, kept, sites, earlier, contracted⟩ := h
  intro hn
  have hmem : site ∈ t.sites := by
    rw [sites]
    exact List.mem_append_cons_self
  have hnone := contracted?_eq_none_iff.mpr (normal_iff.mp hn site hmem)
  cases hnone.symm.trans contracted

theorem contractFirst?_eq (h : FirstContraction t removal u) :
    t.contractFirst? = some (removal, u) := by
  obtain @⟨before, after, site, kept, sites, earlier, contracted⟩ := h
  refine List.findSome?_eq_some_iff.mpr ⟨before, site, after, sites, ?_, fun s hs => ?_⟩
  · rw [contracted, Option.map_some]
  · rw [contracted?_eq_none_iff.mpr (earlier s hs), Option.map_none]

theorem unique (h : FirstContraction t removal u) (h' : FirstContraction t removal' v) :
    removal = removal' ∧ u = v :=
  Prod.mk.inj (Option.some.inj (h.contractFirst?_eq.symm.trans h'.contractFirst?_eq))

theorem of_left (o : Operator) (right : Tree) (h : FirstContraction left removal left') :
    FirstContraction (node o left right) removal (node o left' right) := by
  obtain @⟨before, after, site, kept, sites, earlier, contracted⟩ := h
  have hsites : (node o left right).sites =
      before.map (.inside fun u => node o u right) ++ site.inside (fun u => node o u right) ::
        (after.map (.inside fun u => node o u right) ++
          right.sites.map (.inside fun u => node o left u) ++ [.root (node o left right)]) := by
    simp only [Tree.sites, sites, List.map_append, List.map_cons, List.append_assoc,
      List.cons_append]
  exact .mk hsites (List.forall_mem_map.mpr earlier) contracted

theorem of_right (o : Operator) (hl : Normal left) (h : FirstContraction right removal right') :
    FirstContraction (node o left right) removal (node o left right') := by
  obtain @⟨before, after, site, kept, sites, earlier, contracted⟩ := h
  have hsites : (node o left right).sites =
      (left.sites.map (.inside fun u => node o u right) ++
        before.map (.inside fun u => node o left u)) ++ site.inside (fun u => node o left u) ::
          (after.map (.inside fun u => node o left u) ++ [.root (node o left right)]) := by
    simp only [Tree.sites, sites, List.map_append, List.map_cons, List.append_assoc,
      List.cons_append]
  refine .mk hsites (List.forall_mem_append.mpr ⟨?_, ?_⟩) contracted
  · exact List.forall_mem_map.mpr (normal_iff.mp hl)
  · exact List.forall_mem_map.mpr earlier

theorem of_root (hl : Normal left) (hr : Normal right)
    (h : (node o left right).contracted? = some kept) :
    FirstContraction (node o left right) ⟨node o left right, kept⟩ kept := by
  have hsites : (node o left right).sites =
      (left.sites.map (.inside fun u => node o u right) ++
        right.sites.map (.inside fun u => node o left u)) ++ .root _ :: [] := rfl
  refine .mk hsites (List.forall_mem_append.mpr ⟨?_, ?_⟩) h
  · exact List.forall_mem_map.mpr (normal_iff.mp hl)
  · exact List.forall_mem_map.mpr (normal_iff.mp hr)

end FirstContraction

namespace Derives

theorem trans (h : Derives t removals u) (h' : Derives u removals' v) :
    Derives t (removals ++ removals') v := by
  induction h with
  | refl => exact h'
  | step first _ ih => exact .step first (ih h')

theorem of_left (o : Operator) (right : Tree) (h : Derives left removals left') :
    Derives (node o left right) removals (node o left' right) := by
  induction h with
  | refl => exact .refl _
  | step first _ ih => exact .step (first.of_left o right) ih

theorem of_right (o : Operator) (hl : Normal left) (h : Derives right removals right') :
    Derives (node o left right) removals (node o left right') := by
  induction h with
  | refl => exact .refl _
  | step first _ ih => exact .step (first.of_right o hl) ih

theorem unique (h : Derives t removals u) (hu : Normal u) (h' : Derives t removals' v)
    (hv : Normal v) : removals = removals' ∧ u = v := by
  induction h generalizing removals' with
  | refl =>
    cases h' with
    | refl => exact ⟨rfl, rfl⟩
    | step first' _ => exact absurd hu first'.not_normal
  | step first _ ih =>
    cases h' with
    | refl => exact absurd hv first.not_normal
    | step first' rest' =>
      obtain ⟨rfl, rfl⟩ := first.unique first'
      obtain ⟨rfl, rfl⟩ := ih hu rest'
      exact ⟨rfl, rfl⟩

end Derives

theorem derives_contract (o : Operator) (hl : Normal left) (hr : Normal right) :
    Derives (node o left right) (contract o left right).2.toList (contract o left right).1 := by
  rw [contract]
  cases hk : keptSide? o.symbol left.literal? right.literal? with
  | none => exact .refl _
  | some side =>
    have hkept : (node o left right).contracted? = some (side.pick left right) := by
      rw [contracted?, hk, Option.map_some]
    exact .step (.of_root hl hr hkept) (.refl _)

-- The left operand has no redex left when the first one of the right operand has its turn, and
-- neither has one when the operator has.
theorem derives_simplify (t : Tree) : Derives t t.removals t.simplify := by
  induction t with
  | leaf l =>
    rw [removals_leaf, simplify_leaf]
    exact .refl _
  | node o left right ihl ihr =>
    have hl := simplify_normal left
    have hr := simplify_normal right
    rw [removals_node, simplify_node]
    exact ((ihl.of_left o right).trans (ihr.of_right o hl)).trans (derives_contract o hl hr)

open Store

theorem log_derives_simplified (t : Tree) :
    (∀ removals u, (Derives t removals u ∧ ∀ site ∈ u.sites, ¬ site.tree.IsRedex) ↔
      removals = t.removals ∧ u = t.simplify) ∧
    (∀ store link cells, Owns store link cells t → store.removals link = t.removals ∧
      (store.simplify link).2.read (store.simplify link).1 = t.simplify) ∧
    ∀ text, Reply.expression? text = some t →
      (reply text).log { Flags.none with simplify := true } = t.removals.map fun removal =>
        "remove: " ++ removal.before.render ++ " -> " ++ removal.after.render := by
  refine ⟨fun removals u => ?_, ?_, ?_⟩
  · constructor
    · rintro ⟨h, hu⟩
      exact h.unique (normal_iff.mpr hu) (derives_simplify t) (simplify_normal t)
    · rintro ⟨rfl, rfl⟩
      exact ⟨derives_simplify t, normal_iff.mp (simplify_normal t)⟩
  · intro store link cells h
    obtain ⟨kept, reduced⟩ := simplify_reduced h
    exact ⟨removals_eq h, reduced.owns.read_eq⟩
  · intro text h
    obtain ⟨-, hr⟩ := Reply.reply_logged text
    rw [h] at hr
    rw [Reply.log, hr]
    rfl

theorem hiddenRedex_log :
    (reply "(0 + 1) * x").log { Flags.none with simplify := true } =
      ["remove: (0 + 1) -> 1", "remove: (1 * x) -> x"] ∧
    (((load hiddenRedex).run .empty).run.2.removals ((load hiddenRedex).run .empty).run.1).map
      Removal.log = ["remove: (0 + 1) -> 1", "remove: (1 * x) -> x"] := by
  have hsum : (node ⟨"+", ⟨1, 3⟩⟩ (number 0 ⟨1, 1⟩) (number 1 ⟨1, 5⟩)).contracted? =
      some (number 1 ⟨1, 5⟩) := by
    decide
  have hproduct :
      (node ⟨"*", ⟨1, 8⟩⟩ (number 1 ⟨1, 5⟩) (identifier "x" ⟨1, 10⟩)).contracted? =
        some (identifier "x" ⟨1, 10⟩) := by
    decide
  have hderives := Derives.step (.of_left _ _ (.of_root (normal_leaf _) (normal_leaf _) hsum))
    (.step (.of_root (normal_leaf _) (normal_leaf _) hproduct) (.refl _))
  have hread : Reply.expression? "(0 + 1) * x" = some hiddenRedex := by decide +kernel
  obtain ⟨cells, owns, -⟩ := load_owns hiddenRedex .empty
  obtain ⟨hunique, hstore, hlog⟩ := log_derives_simplified hiddenRedex
  obtain ⟨hremovals, -⟩ := (hunique _ _).mp ⟨hderives, normal_iff.mp (normal_leaf _)⟩
  rw [hlog _ hread, (hstore _ _ _ owns).1, ← hremovals]
  exact ⟨by decide +kernel, by decide +kernel⟩

end Calculator.Tree
