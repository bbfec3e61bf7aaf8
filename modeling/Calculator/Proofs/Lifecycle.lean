import Calculator.Proofs.Released

/-!
Every node is kept once or released. Simplifying a tree in place leaves each of its operators in the
simplified tree, where one way leads to it, or without links; no leaf changes and no token. When a line
is answered, the simplified tree is released as well, so that nothing that was made for the answer is
linked any more.
-/

namespace Calculator

def Cell.bare : Cell → Cell
  | .leaf l => .leaf l
  | .node o _ _ => .node o none none

namespace Store

def SameTokens (store store' : Store) : Prop :=
  ∀ i : Nat, store'.cells[i]?.map Cell.bare = store.cells[i]?.map Cell.bare

variable {store store' store'' : Store} {link left right left' right' : Link} {i : Nat}
variable {o : Operator} {cells : List Nat} {t : Tree}

section Tokens

theorem SameTokens.refl (store : Store) : SameTokens store store := fun _ => rfl

theorem SameTokens.trans (h : SameTokens store store') (h' : SameTokens store' store'') :
    SameTokens store store'' := fun i => (h' i).trans (h i)

theorem SameTokens.node (h : SameTokens store store')
    (cell : store.cells[i]? = some (.node o left right)) :
    ∃ left' right', store'.cells[i]? = some (.node o left' right') := by
  have hi := h i
  rw [cell, Option.map_some, Option.map_eq_some_iff] at hi
  obtain ⟨cell', hc, hb⟩ := hi
  cases cell' with
  | leaf l => cases hb
  | node o' left' right' =>
    cases hb
    exact ⟨left', right', hc⟩

theorem sameTokens_set (cell : store.cells[i]? = some (.node o left right)) :
    SameTokens store (store.set i (.node o left' right')) := by
  intro j
  by_cases hj : j = i
  · subst hj
    rw [set_eq cell, cell]
    rfl
  · rw [sameOutside_set store i _ j (mt List.mem_singleton.mp hj)]

theorem sameTokens_unlink (store : Store) (i : Nat) : SameTokens store (store.unlink i) := by
  rw [unlink]
  split
  · rename_i cell
    exact sameTokens_set cell
  · exact .refl store

theorem release_sameTokens (store : Store) (link : Link) :
    SameTokens store (store.release link) := by
  induction store, link using link_induction with
  | absent store => exact .refl store
  | @outside store i hc =>
    rw [release, releaseCell, hc]
    exact .refl store
  | @leaf store i l hc =>
    rw [release, releaseCell, hc]
    exact .refl store
  | @node store i o left right hc ihl ihr =>
    rw [release, releaseCell_node hc]
    exact ((ihl store).trans (ihr _)).trans (sameTokens_unlink _ i)

theorem simplifyNode_sameTokens (cell : store.cells[i]? = some (.node o left right)) :
    SameTokens store (store.simplifyNode i o left' right').2 := by
  have hset : SameTokens store (store.set i (.node o left' right')) := sameTokens_set cell
  rw [simplifyNode]
  split
  · exact (hset.trans (sameTokens_unlink _ i)).trans (release_sameTokens _ _)
  · exact hset

theorem simplify_sameTokens (store : Store) (link : Link) :
    SameTokens store (store.simplify link).2 := by
  induction store, link using link_induction with
  | absent store => exact .refl store
  | @outside store i hc =>
    rw [simplify, simplifyCell, hc]
    exact .refl store
  | @leaf store i l hc =>
    rw [simplify, simplifyCell, hc]
    exact .refl store
  | @node store i o left right hc ihl ihr =>
    have operands := (ihl store).trans (ihr _)
    obtain ⟨_, _, hc'⟩ := operands.node hc
    rw [simplify, simplifyCell_node hc]
    exact operands.trans (simplifyNode_sameTokens hc')

end Tokens

theorem count_preorder_simplify (h : Owns store link cells t) (hi : i ∈ cells) :
    ((store.simplify link).2.preorder (store.simplify link).1).count i = 1 ∨
      (store.simplify link).2.Unlinked i := by
  obtain ⟨kept, reduced⟩ := simplify_reduced h
  rw [reduced.owns.preorder_eq]
  by_cases hk : i ∈ kept
  · exact .inl (List.count_eq_one_of_mem reduced.owns.nodup hk)
  · exact .inr (reduced.released i hi hk)

theorem release_simplify (h : Owns store link cells t) :
    SameOutside store ((store.simplify link).2.release (store.simplify link).1) cells ∧
      ∀ i ∈ cells, ((store.simplify link).2.release (store.simplify link).1).Unlinked i := by
  obtain ⟨kept, reduced⟩ := simplify_reduced h
  have hrelease := reduced.owns.release_outside
  refine ⟨reduced.same.trans (hrelease.mono reduced.sublist.subset), fun i hi => ?_⟩
  by_cases hk : i ∈ kept
  · exact reduced.owns.release_unlinked i hk
  · exact (reduced.released i hi hk).of_same (hrelease i hk)

end Store

namespace Reply

open Store

variable {text : String} {tokens : List Token} {lines : List String} {store store' : Store} {i : Nat}

theorem toExpression_releases (tokens : List Token) (root : Link)
    (h : ((toExpression Store.workspace tokens root).run store).run.1.outcome = .ok lines) :
    ((toExpression Store.workspace tokens root).run store).run.2 =
      (store.simplify root).2.release (store.simplify root).1 := by
  have hv (link : Link) (store : Store) :
      ((Store.workspace.view link).run store).run = (store.read link, store) := rfl
  have hs (link : Link) (store : Store) :
      ((Store.workspace.simplify link).run store).run = store.simplify link := rfl
  simp only [toExpression, StateT.run_bind, Id.run_bind, hv, hs] at h ⊢
  cases hval : valueOf (store.read root)
      ((store.simplify root).2.read (store.simplify root).1) with
  | error error =>
    rw [hval] at h
    cases h
  | ok line => rfl

theorem toTokens_undone
    (h : ((toTokens Store.workspace tokens).run store).run.1.outcome = .ok lines) :
    Undone store.cells.size store ((toTokens Store.workspace tokens).run store).run.2 := by
  have hb : workspace.toBuilder = builder := rfl
  simp only [toTokens, StateT.run_bind, Id.run_bind, hb] at h ⊢
  rcases whole_settles maxNesting tokens store with
    ⟨failure, store', hw, undone⟩ | ⟨i, store', hw, same, fills, last⟩
  · rw [hw]
    exact undone
  · rw [hw] at h ⊢
    rw [toExpression_releases tokens (some i) h]
    have later m (hm : i < m) : store'.Unlinked m := unlinked_of_size_le (by omega)
    exact fills.undone_of same later fun _ _ owns => release_simplify owns

theorem toText_undone
    (h : ((toText Store.workspace text).run store).run.1.outcome = .ok lines) :
    Undone store.cells.size store ((toText Store.workspace text).run store).run.2 := by
  simp only [toText] at h ⊢
  cases hf : (Scan.ofText text).failure with
  | some error =>
    rw [hf] at h
    cases h
  | none =>
    rw [hf] at h
    exact toTokens_undone h

end Reply

namespace Store

theorem nodes_kept_or_released :
    (∀ store link cells t, Owns store link cells t →
      let after := store.simplify link
      (∃ kept, Owns after.2 after.1 kept t.simplify ∧ kept.Sublist cells) ∧
      (∀ i ∈ cells, (after.2.preorder after.1).count i = 1 ∨ after.2.Unlinked i) ∧
      SameTokens store after.2 ∧ SameOutside store after.2 cells) ∧
    ∀ text lines, (reply text).outcome = .ok lines → ∀ store,
      let after := ((Reply.toText workspace text).run store).run
      after.1 = reply text ∧ Undone store.cells.size store after.2 := by
  refine ⟨fun store link cells t h => ?_, fun text lines h store => ?_⟩
  · obtain ⟨kept, reduced⟩ := simplify_reduced h
    exact ⟨⟨kept, reduced.owns, reduced.sublist⟩, fun i hi => count_preorder_simplify h hi,
      simplify_sameTokens store link, reduced.same⟩
  · have hr := Reply.toText_inStore text store
    exact ⟨hr, Reply.toText_undone (hr ▸ h)⟩

def sumBesideProducts : Tree :=
  .node ⟨"-", ⟨1, 12⟩⟩
    (.node ⟨"*", ⟨1, 8⟩⟩
      (.node ⟨"+", ⟨1, 3⟩⟩ (.identifier "x" ⟨1, 1⟩) (.identifier "y" ⟨1, 5⟩)) (.number 1 ⟨1, 10⟩))
    (.node ⟨"*", ⟨1, 16⟩⟩ (.number 0 ⟨1, 14⟩)
      (.node ⟨"/", ⟨1, 21⟩⟩ (.identifier "z" ⟨1, 19⟩) (.number 2 ⟨1, 23⟩)))

theorem sumBesideProducts_leaves_sum :
    let loaded := ((load sumBesideProducts).run .empty).run
    let after := loaded.2.simplify loaded.1
    (∀ i ∈ loaded.2.preorder loaded.1,
      (after.2.preorder after.1).count i = 1 ∨ after.2.Unlinked i) ∧
    after.2.cells = #[.leaf (.identifier "x" ⟨1, 1⟩), .leaf (.identifier "y" ⟨1, 5⟩),
      .node ⟨"+", ⟨1, 3⟩⟩ (some 0) (some 1), .leaf (.number 1 ⟨1, 10⟩),
      .node ⟨"*", ⟨1, 8⟩⟩ none none, .leaf (.number 0 ⟨1, 14⟩), .leaf (.identifier "z" ⟨1, 19⟩),
      .leaf (.number 2 ⟨1, 23⟩), .node ⟨"/", ⟨1, 21⟩⟩ none none, .node ⟨"*", ⟨1, 16⟩⟩ none none,
      .node ⟨"-", ⟨1, 12⟩⟩ none none] ∧
    ∀ store, Undone store.cells.size store
      ((Reply.toText workspace "(x + y) * 1 - 0 * (z / 2)").run store).run.2 := by
  have ho : (reply "(x + y) * 1 - 0 * (z / 2)").outcome = .ok
      ["( x + y ) * 1 - 0 * ( z / 2 )", "in infix notation: (((x + y) * 1) - (0 * (z / 2)))",
        "this is not a numerical expression", "simplified: (x + y)"] := by
    decide +kernel
  obtain ⟨cells, owns, -⟩ := load_owns sumBesideProducts .empty
  obtain ⟨hsimplify, hreply⟩ := nodes_kept_or_released
  obtain ⟨-, hkept, -, -⟩ := hsimplify _ _ _ _ owns
  refine ⟨?_, by decide +kernel, fun store => (hreply _ _ ho store).2⟩
  rw [owns.preorder_eq]
  exact hkept

end Store

end Calculator
