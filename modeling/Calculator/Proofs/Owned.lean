import Calculator.Store
import Mathlib.Data.List.Lemmas
import Mathlib.Data.List.Nodup

/-!
Trees in a store, wherever their cells are: a tree owns the cells of its nodes, no cell belongs to two
of its nodes, and an absent operand owns none. Every tree can be loaded so. What is done to the cells
that one tree owns leaves all other cells as they are. So the tree simplified in place is the
simplified tree, on some of its own cells, and what is removed on the way is what simplifying the tree
removes.
-/

namespace Calculator.Store

inductive Owns (store : Store) : Link → List Nat → Tree → Prop
  | absent : Owns store none [] .absent
  | leaf {i : Nat} {l : Leaf} (cell : store.cells[i]? = some (.leaf l)) :
      Owns store (some i) [i] (.leaf l)
  | node {i : Nat} {o : Operator} {left right : Link} {lefts rights : List Nat} {t u : Tree}
      (cell : store.cells[i]? = some (.node o left right)) (lower : Owns store left lefts t)
      (upper : Owns store right rights u) (older : ∀ j ∈ lefts ++ rights, j < i)
      (apart : lefts.Disjoint rights) :
      Owns store (some i) (i :: (lefts ++ rights)) (.node o t u)

def SameOutside (store store' : Store) (cells : List Nat) : Prop :=
  ∀ i ∉ cells, store'.cells[i]? = store.cells[i]?

def Unlinked (store : Store) (i : Nat) : Prop :=
  ∀ o left right, store.cells[i]? = some (.node o left right) → left = none ∧ right = none

structure Grows (store store' : Store) : Prop where
  size : store.cells.size ≤ store'.cells.size
  same : ∀ i < store.cells.size, store'.cells[i]? = store.cells[i]?

variable {store store' store'' : Store} {link left right : Link} {i : Nat} {o : Operator}
variable {cells cells' lefts rights lefts' rights' : List Nat} {t u : Tree} {cell : Cell}

section Outside

theorem SameOutside.refl (store : Store) (cells : List Nat) : SameOutside store store cells :=
  fun _ _ => rfl

theorem SameOutside.trans (h : SameOutside store store' cells)
    (h' : SameOutside store' store'' cells) : SameOutside store store'' cells :=
  fun i hi => (h' i hi).trans (h i hi)

theorem SameOutside.mono (h : SameOutside store store' cells) (hc : cells ⊆ cells') :
    SameOutside store store' cells' := fun i hi => h i (mt (hc ·) hi)

theorem sameOutside_set (store : Store) (i : Nat) (cell : Cell) :
    SameOutside store (store.set i cell) [i] := by
  intro j hj
  have hne : i ≠ j := fun he => hj (List.mem_singleton.mpr he.symm)
  rw [set, Array.getElem?_setIfInBounds_ne hne]

theorem sameOutside_unlink (store : Store) (i : Nat) : SameOutside store (store.unlink i) [i] := by
  rw [unlink]
  split
  · exact sameOutside_set store i _
  · exact .refl store [i]

theorem set_eq (h : store.cells[i]? = some cell) (after : Cell) :
    (store.set i after).cells[i]? = some after := by
  obtain ⟨hi, -⟩ := Array.getElem?_eq_some_iff.mp h
  rw [set, Array.getElem?_setIfInBounds_self_of_lt hi]

theorem set_same (h : store.cells[i]? = some cell) : store.set i cell = store := by
  apply congrArg Store.mk
  apply Array.ext_getElem?
  intro j
  by_cases he : i = j
  · subst he
    exact (set_eq h cell).trans h.symm
  · rw [Array.getElem?_setIfInBounds_ne he]

end Outside

section Unlinked

theorem Unlinked.of_same (h : store.Unlinked i) (same : store'.cells[i]? = store.cells[i]?) :
    store'.Unlinked i := by
  intro o left right hc
  exact h o left right (same.symm.trans hc)

theorem unlinked_of_size_le (h : store.cells.size ≤ i) : store.Unlinked i := by
  intro o left right hc
  rw [Array.getElem?_eq_none h] at hc
  cases hc

theorem unlinked_of_leaf {l : Leaf} (h : store.cells[i]? = some (.leaf l)) : store.Unlinked i := by
  intro o left right hc
  cases h.symm.trans hc

theorem unlink_unlinked {left right : Link} (h : store.cells[i]? = some (.node o left right)) :
    (store.unlink i).Unlinked i := by
  intro o' left' right' hc
  simp only [unlink, h] at hc
  cases (set_eq h (.node o none none)).symm.trans hc
  exact ⟨rfl, rfl⟩

end Unlinked

namespace Owns

theorem root_mem (h : Owns store link cells t) : ∀ i ∈ link, i ∈ cells := by
  rintro i ⟨⟩
  cases h with
  | leaf => exact List.mem_singleton.mpr rfl
  | node => exact List.mem_cons_self

theorem root_older (h : Owns store link cells t) (older : ∀ j ∈ cells, j < i) : ∀ j ∈ link, j < i :=
  fun j hj => older j (h.root_mem j hj)

theorem same (h : Owns store link cells t)
    (hs : ∀ j ∈ cells, store'.cells[j]? = store.cells[j]?) : Owns store' link cells t := by
  induction h with
  | absent => exact .absent
  | leaf cell => exact .leaf ((hs _ (List.mem_singleton.mpr rfl)).trans cell)
  | node cell _ _ older apart ihl ihr =>
    have lower := ihl fun j hj => hs j (List.mem_cons_of_mem _ (List.mem_append_left _ hj))
    have upper := ihr fun j hj => hs j (List.mem_cons_of_mem _ (List.mem_append_right _ hj))
    exact .node ((hs _ List.mem_cons_self).trans cell) lower upper older apart

theorem outside (h : Owns store link cells t) (hs : SameOutside store store' cells')
    (hd : cells.Disjoint cells') : Owns store' link cells t :=
  h.same fun j hj => hs j (hd hj)

theorem read_eq (h : Owns store link cells t) : store.read link = t := by
  induction h with
  | absent => rfl
  | leaf cell => rw [read, readCell, cell]
  | node cell lower upper older _ ihl ihr =>
    obtain ⟨hl, hr⟩ := List.forall_mem_append.mp older
    rw [read, readCell_node cell, below_eq (lower.root_older hl), below_eq (upper.root_older hr),
      ihl, ihr]

theorem preorder_eq (h : Owns store link cells t) : store.preorder link = cells := by
  induction h with
  | absent => rfl
  | leaf cell => rw [preorder, preorderCell, cell]
  | node cell lower upper older _ ihl ihr =>
    obtain ⟨hl, hr⟩ := List.forall_mem_append.mp older
    rw [preorder, preorderCell_node cell, below_eq (lower.root_older hl),
      below_eq (upper.root_older hr), ihl, ihr]

theorem literal?_eq (h : Owns store link cells t) : store.literal? link = t.literal? := by
  cases h with
  | absent => rfl
  | leaf cell => simp only [literal?, Option.bind_some, cell]
  | node cell =>
    simp only [literal?, Option.bind_some, cell]
    rfl

theorem release_outside (h : Owns store link cells t) :
    SameOutside store (store.release link) cells := by
  induction t generalizing store link cells with
  | leaf l =>
    cases h with
    | absent => exact .refl store []
    | leaf cell =>
      rw [release, releaseCell, cell]
      exact .refl store _
  | node o t u iht ihu =>
    cases h with
    | @node i o left right lefts rights t u cell lower upper older apart =>
      obtain ⟨hl, hr⟩ := List.forall_mem_append.mp older
      rw [release, releaseCell_node cell, below_eq (lower.root_older hl),
        below_eq (upper.root_older hr)]
      have hleft := iht lower
      have hright := ihu (upper.outside hleft (List.disjoint_symm apart))
      have hunlink := sameOutside_unlink ((store.release left).release right) i
      exact ((hleft.mono (by simp)).trans (hright.mono (by simp))).trans (hunlink.mono (by simp))

theorem release_unlinked (h : Owns store link cells t) :
    ∀ m ∈ cells, (store.release link).Unlinked m := by
  induction t generalizing store link cells with
  | leaf l =>
    cases h with
    | absent => exact List.forall_mem_nil _
    | leaf cell =>
      rw [release, releaseCell, cell]
      exact List.forall_mem_singleton.mpr (unlinked_of_leaf cell)
  | node o t u iht ihu =>
    cases h with
    | @node i o left right lefts rights t u cell lower upper older apart =>
      obtain ⟨hl, hr⟩ := List.forall_mem_append.mp older
      have hleft := lower.release_outside
      have upper' := upper.outside hleft (List.disjoint_symm apart)
      have hright := upper'.release_outside
      have hunlink := sameOutside_unlink ((store.release left).release right) i
      have root {m : Nat} (hm : m < i) : m ∉ [i] := fun he =>
        Nat.ne_of_lt hm (List.mem_singleton.mp he)
      rw [release, releaseCell_node cell, below_eq (lower.root_older hl),
        below_eq (upper.root_older hr)]
      refine List.forall_mem_cons.mpr ⟨?_, List.forall_mem_append.mpr ⟨fun m hm => ?_, fun m hm => ?_⟩⟩
      · have cell' := (hright i fun hi => Nat.lt_irrefl i (hr i hi)).trans
          ((hleft i fun hi => Nat.lt_irrefl i (hl i hi)).trans cell)
        exact unlink_unlinked cell'
      · have hm' := (iht lower m hm).of_same (hright m (apart hm))
        exact hm'.of_same (hunlink m (root (hl m hm)))
      · exact (ihu upper' m hm).of_same (hunlink m (root (hr m hm)))

theorem nodup (h : Owns store link cells t) : cells.Nodup := by
  induction h with
  | absent => exact List.nodup_nil
  | leaf => exact List.nodup_singleton _
  | node _ _ _ older apart ihl ihr =>
    have hroot := fun hi => Nat.lt_irrefl _ (older _ hi)
    exact List.nodup_cons.mpr ⟨hroot, ihl.append ihr apart⟩

end Owns

structure Reduced (store store' : Store) (link : Link) (cells kept : List Nat) (t : Tree)
    (removed : Nat) : Prop where
  owns : Owns store' link kept t
  sublist : kept.Sublist cells
  same : SameOutside store store' cells
  released : ∀ i ∈ cells, i ∉ kept → store'.Unlinked i
  fewer : kept.length + removed ≤ cells.length

theorem Owns.unreduced (h : Owns store' link cells t) (same : SameOutside store store' cells) :
    Reduced store store' link cells cells t 0 :=
  ⟨h, List.Sublist.refl _, same, fun _ hi hk => absurd hi hk, Nat.le_refl _⟩

structure Operands (store : Store) (i : Nat) (left right : Link) (lefts rights : List Nat)
    (t u : Tree) : Prop where
  lower : Owns store left lefts t
  upper : Owns store right rights u
  older : ∀ j ∈ lefts ++ rights, j < i
  apart : lefts.Disjoint rights

namespace Operands

variable {left' right' : Link} {t' u' : Tree} {m n : Nat}

theorem node (h : Operands store i left right lefts rights t u)
    (cell : store.cells[i]? = some (.node o left right)) :
    Owns store (some i) (i :: (lefts ++ rights)) (.node o t u) :=
  .node cell h.lower h.upper h.older h.apart

theorem outside (h : Operands store i left right lefts rights t u)
    (hs : SameOutside store store' [i]) : Operands store' i left right lefts rights t u := by
  have hroot : ∀ j ∈ lefts ++ rights, j ∉ [i] := fun j hj hi =>
    Nat.ne_of_lt (h.older j hj) (List.mem_singleton.mp hi)
  obtain ⟨hl, hr⟩ := List.forall_mem_append.mp hroot
  exact ⟨h.lower.outside hs hl, h.upper.outside hs hr, h.older, h.apart⟩

theorem reduced (h : Operands store i left right lefts rights t u)
    (hl : Reduced store store' left' lefts lefts' t' m)
    (hr : Reduced store' store'' right' rights rights' u' n) :
    Operands store'' i left' right' lefts' rights' t' u' where
  lower := hl.owns.outside hr.same
    (List.disjoint_of_subset_left hl.sublist.subset h.apart)
  upper := hr.owns
  older j hj := h.older j ((hl.sublist.append hr.sublist).subset hj)
  apart := List.disjoint_of_subset_left hl.sublist.subset
    (List.disjoint_of_subset_right hr.sublist.subset h.apart)

theorem same (hl : Reduced store store' left' lefts lefts' t' m)
    (hr : Reduced store' store'' right' rights rights' u' n) :
    SameOutside store store'' (lefts ++ rights) :=
  (hl.same.mono (List.subset_append_left lefts rights)).trans
    (hr.same.mono (List.subset_append_right lefts rights))

theorem released (h : Operands store i left right lefts rights t u)
    (hl : Reduced store store' left' lefts lefts' t' m)
    (hr : Reduced store' store'' right' rights rights' u' n) :
    ∀ j ∈ lefts ++ rights, j ∉ lefts' ++ rights' → store''.Unlinked j := by
  intro j hj hk
  obtain ⟨hk, hk'⟩ := not_or.mp (mt List.mem_append.mpr hk)
  rcases List.mem_append.mp hj with hj | hj
  · exact (hl.released j hj hk).of_same (hr.same j (h.apart hj))
  · exact hr.released j hj hk'

end Operands

theorem removeSubtree_reduced (h : Operands store i left right lefts rights t u)
    (cell : store.cells[i]? = some (.node o left right)) (side : Side) :
    Reduced store (store.removeSubtree i side).2 (store.removeSubtree i side).1
      (i :: (lefts ++ rights)) (side.pick lefts rights) (side.pick t u) 1 := by
  have hunlink := sameOutside_unlink store i
  have hroot := unlink_unlinked cell
  obtain ⟨lower, upper, older, apart⟩ := h.outside hunlink
  have hnot : i ∉ lefts ++ rights := fun hi => Nat.lt_irrefl i (older i hi)
  obtain ⟨hl, hr⟩ := not_or.mp (mt List.mem_append.mpr hnot)
  simp only [removeSubtree, links, cell]
  cases side with
  | left =>
    have hrelease := upper.release_outside
    exact {
      owns := lower.outside hrelease apart
      sublist := (List.sublist_append_left lefts rights).cons i
      same := (hunlink.mono (by simp)).trans (hrelease.mono (by simp))
      released := List.forall_mem_cons.mpr ⟨fun _ => hroot.of_same (hrelease i hr),
        List.forall_mem_append.mpr ⟨fun j hj hk => absurd hj hk,
          fun j hj _ => upper.release_unlinked j hj⟩⟩
      fewer := by simp [Side.pick] }
  | right =>
    have hrelease := lower.release_outside
    exact {
      owns := upper.outside hrelease (List.disjoint_symm apart)
      sublist := (List.sublist_append_right lefts rights).cons i
      same := (hunlink.mono (by simp)).trans (hrelease.mono (by simp))
      released := List.forall_mem_cons.mpr ⟨fun _ => hroot.of_same (hrelease i hl),
        List.forall_mem_append.mpr ⟨fun j hj _ => lower.release_unlinked j hj,
          fun j hj hk => absurd hj hk⟩⟩
      fewer := by simp [Side.pick] }

theorem simplifyNode_reduced (h : Operands store i left right lefts rights t u)
    (hcell : store.cells[i]? = some cell) (o : Operator) :
    ∃ kept, Reduced store (store.simplifyNode i o left right).2
      (store.simplifyNode i o left right).1 (i :: (lefts ++ rights)) kept (Tree.contract o t u).1
      (Tree.contract o t u).2.toList.length := by
  have hset := sameOutside_set store i (.node o left right)
  have h' := h.outside hset
  have cell' := set_eq hcell (.node o left right)
  simp only [simplifyNode, h'.lower.literal?_eq, h'.upper.literal?_eq, Tree.contract]
  cases keptSide? o.symbol t.literal? u.literal? with
  | none => exact ⟨_, (h'.node cell').unreduced (hset.mono (by simp))⟩
  | some side =>
    obtain ⟨owns, sublist, same, released, fewer⟩ := removeSubtree_reduced h' cell' side
    exact ⟨_, owns, sublist, (hset.mono (by simp)).trans same, released, fewer⟩

theorem nodeRemovals_eq (h : Operands store i left right lefts rights t u)
    (hcell : store.cells[i]? = some cell) (o : Operator) :
    store.nodeRemovals i o left right = (Tree.contract o t u).2.toList := by
  have h' := h.outside (sameOutside_set store i (.node o left right))
  have hread := (h'.node (set_eq hcell (.node o left right))).read_eq
  have hl := h'.lower.read_eq
  have hr := h'.upper.read_eq
  simp only [nodeRemovals, h'.lower.literal?_eq, h'.upper.literal?_eq, Tree.contract]
  cases keptSide? o.symbol t.literal? u.literal? with
  | none => rfl
  | some side =>
    rw [read] at hread
    cases side with
    | left => simp only [Side.pick, hread, hl, Option.toList_some]
    | right => simp only [Side.pick, hread, hr, Option.toList_some]

-- The operands of an operator are simplified one after the other, each among its own cells, so that
-- the operator is still there when they are done.
theorem simplify_reduced (h : Owns store link cells t) :
    ∃ kept, Reduced store (store.simplify link).2 (store.simplify link).1 cells kept t.simplify
      t.removals.length := by
  induction t generalizing store link cells with
  | leaf l =>
    rw [Tree.simplify_leaf, Tree.removals_leaf]
    cases h with
    | absent => exact ⟨_, Owns.absent.unreduced (.refl store [])⟩
    | leaf cell =>
      rw [simplify, simplifyCell, cell]
      exact ⟨_, (Owns.leaf cell).unreduced (.refl store _)⟩
  | node o t u iht ihu =>
    cases h with
    | @node i o left right lefts rights t u cell lower upper older apart =>
      obtain ⟨hl, hr⟩ := List.forall_mem_append.mp older
      obtain ⟨lefts', first⟩ := iht lower
      obtain ⟨rights', second⟩ := ihu (upper.outside first.same (List.disjoint_symm apart))
      have before : Operands store i left right lefts rights t u := ⟨lower, upper, older, apart⟩
      have operands := before.reduced first second
      have hsame := Operands.same first second
      have hsub := (first.sublist.append second.sublist).cons_cons i
      have cell' := (hsame i fun hi => Nat.lt_irrefl i (older i hi)).trans cell
      obtain ⟨kept, last⟩ := simplifyNode_reduced operands cell' o
      rw [simplify, simplifyCell_node cell, below_eq (lower.root_older hl),
        below_eq (upper.root_older hr), Tree.simplify_node, Tree.removals_node]
      refine ⟨kept, last.owns, last.sublist.trans hsub, ?_, fun j hj hk => ?_, ?_⟩
      · exact (hsame.mono (List.subset_cons_self _ _)).trans (last.same.mono hsub.subset)
      · by_cases hlast : j ∈ i :: (lefts' ++ rights')
        · exact last.released j hlast hk
        · obtain ⟨hne, hk'⟩ := not_or.mp (mt List.mem_cons.mpr hlast)
          have hj' := (List.mem_cons.mp hj).resolve_left hne
          exact (before.released first second j hj' hk').of_same (last.same j hlast)
      · have := first.fewer
        have := second.fewer
        have := last.fewer
        simp only [List.length_cons, List.length_append] at *
        omega

theorem removals_eq (h : Owns store link cells t) : store.removals link = t.removals := by
  induction t generalizing store link cells with
  | leaf l =>
    rw [Tree.removals_leaf]
    cases h with
    | absent => rfl
    | leaf cell => rw [removals, removalsCell, cell]
  | node o t u iht ihu =>
    cases h with
    | @node i o left right lefts rights t u cell lower upper older apart =>
      obtain ⟨hl, hr⟩ := List.forall_mem_append.mp older
      obtain ⟨lefts', first⟩ := simplify_reduced lower
      have upper' := upper.outside first.same (List.disjoint_symm apart)
      obtain ⟨rights', second⟩ := simplify_reduced upper'
      have operands := Operands.reduced ⟨lower, upper, older, apart⟩ first second
      have cell' :=
        (Operands.same first second i fun hi => Nat.lt_irrefl i (older i hi)).trans cell
      rw [removals, removalsCell_node cell, below_eq (lower.root_older hl),
        below_eq (upper.root_older hr), Tree.removals_node]
      simp only [iht lower, ihu upper', nodeRemovals_eq operands cell' o]

section Load

theorem Grows.refl (store : Store) : Grows store store := ⟨Nat.le_refl _, fun _ _ => rfl⟩

theorem Grows.trans (h : Grows store store') (h' : Grows store' store'') : Grows store store'' where
  size := Nat.le_trans h.size h'.size
  same i hi := (h'.same i (Nat.lt_of_lt_of_le hi h.size)).trans (h.same i hi)

theorem grows_push (store : Store) (cell : Cell) : Grows store ⟨store.cells.push cell⟩ where
  size := by
    rw [Array.size_push]
    exact Nat.le_succ _
  same i hi := by
    rw [Array.getElem?_push, if_neg (Nat.ne_of_lt hi)]

theorem Owns.mem_lt (h : Owns store link cells t) : ∀ i ∈ cells, i < store.cells.size := by
  have lt {i : Nat} {cell : Cell} (hc : store.cells[i]? = some cell) : i < store.cells.size :=
    (Array.getElem?_eq_some_iff.mp hc).1
  induction h with
  | absent => exact List.forall_mem_nil _
  | leaf cell => exact List.forall_mem_singleton.mpr (lt cell)
  | node cell _ _ _ _ ihl ihr =>
    exact List.forall_mem_cons.mpr ⟨lt cell, List.forall_mem_append.mpr ⟨ihl, ihr⟩⟩

theorem Owns.grown (h : Owns store link cells t) (hg : Grows store store') :
    Owns store' link cells t := h.same fun i hi => hg.same i (h.mem_lt i hi)

theorem owns_push_leaf (store : Store) (l : Leaf) :
    Owns ⟨store.cells.push (.leaf l)⟩ (some store.cells.size) [store.cells.size] (.leaf l) :=
  .leaf Array.getElem?_push_size

theorem load_owns (t : Tree) (store : Store) :
    ∃ cells, Owns ((load t).run store).run.2 ((load t).run store).run.1 cells t ∧
      (∀ i ∈ cells, store.cells.size ≤ i) ∧ Grows store ((load t).run store).run.2 := by
  induction t generalizing store with
  | leaf l =>
    rw [load_leaf]
    cases l with
    | absent => exact ⟨[], .absent, List.forall_mem_nil _, .refl store⟩
    | number value place =>
      exact ⟨_, owns_push_leaf store _, List.forall_mem_singleton.mpr (Nat.le_refl _),
        grows_push store _⟩
    | identifier name place =>
      exact ⟨_, owns_push_leaf store _, List.forall_mem_singleton.mpr (Nat.le_refl _),
        grows_push store _⟩
  | node o t u iht ihu =>
    simp only [load_node, StateT.run_bind, Id.run_bind]
    obtain ⟨lefts, lower, newl, growsl⟩ := iht store
    generalize ((load t).run store).run = first at *
    obtain ⟨rights, upper, newr, growsr⟩ := ihu first.2
    generalize ((load u).run first.2).run = second at *
    have hpush := grows_push second.2 (.node o first.1 second.1)
    have lower' := lower.grown growsr
    have older : ∀ i ∈ lefts ++ rights, i < second.2.cells.size :=
      List.forall_mem_append.mpr ⟨lower'.mem_lt, upper.mem_lt⟩
    have apart : lefts.Disjoint rights := fun i hl hr =>
      Nat.not_lt.mpr (newr i hr) (lower.mem_lt i hl)
    have grows := growsl.trans growsr
    refine ⟨_, .node Array.getElem?_push_size (lower'.grown hpush) (upper.grown hpush) older apart,
      ?_, grows.trans hpush⟩
    refine List.forall_mem_cons.mpr ⟨grows.size, List.forall_mem_append.mpr ⟨newl, ?_⟩⟩
    exact fun i hi => growsl.size.trans (newr i hi)

end Load

end Calculator.Store
