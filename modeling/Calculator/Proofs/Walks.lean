import Calculator.Proofs.Sites
import Calculator.Store
import Mathlib.Algebra.Group.Nat.Defs

namespace Calculator

inductive View (κ β ν : Type) where
  | leaf (leaf : κ)
  | node (operator : β) (left right : ν)

structure Nodes (m : Type → Type) (κ β ν : Type) where
  rank : ν → Nat
  view : (x : ν) → m (View κ β { y : ν // rank y < rank x })

inductive Frame (β ν : Type) where
  | visit (node : ν)
  | combine (operator : β)

namespace Nodes

variable {m : Type → Type} [Monad m] {κ β ν α : Type} (nodes : Nodes m κ β ν)
variable (leaf : κ → m α) (node : β → α → α → m α)

def weight (rank : ν → Nat) : List (Frame β ν) → Nat
  | [] => 0
  | .visit x :: stack => 4 ^ (rank x + 1) + weight rank stack
  | .combine _ :: stack => 1 + weight rank stack

theorem weight_operands {rank : ν → Nat} {x left right : ν} (hl : rank left < rank x)
    (hr : rank right < rank x) (b : β) (stack : List (Frame β ν)) :
    weight rank (.visit left :: .visit right :: .combine b :: stack) <
      weight rank (.visit x :: stack) := by
  have hleft : 4 ^ (rank left + 1) ≤ 4 ^ rank x := Nat.pow_le_pow_right (by decide) hl
  have hright : 4 ^ (rank right + 1) ≤ 4 ^ rank x := Nat.pow_le_pow_right (by decide) hr
  have hpos : 0 < 4 ^ rank x := Nat.pow_pos (by decide)
  simp only [weight, Nat.pow_succ] at *
  omega

def loop : List (Frame β ν) → List α → m (Option (List α))
  | [], results => pure (some results)
  | .visit x :: stack, results => do
    match ← nodes.view x with
    | .leaf l =>
      let a ← leaf l
      loop stack (a :: results)
    | .node b left right => loop (.visit left :: .visit right :: .combine b :: stack) results
  | .combine b :: stack, second :: first :: results => do
    let a ← node b first second
    loop stack (a :: results)
  | .combine _ :: _, _ => pure none
termination_by stack => weight nodes.rank stack
decreasing_by
  · simp only [weight]
    have : 0 < 4 ^ (nodes.rank x + 1) := Nat.pow_pos (by decide)
    omega
  · exact weight_operands left.property right.property b stack
  · simp only [weight]
    omega

def fold (x : ν) : m α := do
  match ← nodes.view x with
  | .leaf l => leaf l
  | .node b left right =>
    let first ← fold left
    let second ← fold right
    node b first second
termination_by nodes.rank x
decreasing_by
  · exact left.property
  · exact right.property

-- With the node on top of the stack gone through, its result lies on those that were there before,
-- and the rest of the stack is as it was. So the operands of a node are done one after the other.
theorem loop_visit [LawfulMonad m] (x : ν) (stack : List (Frame β ν)) (results : List α) :
    nodes.loop leaf node (.visit x :: stack) results =
      nodes.fold leaf node x >>= fun a => nodes.loop leaf node stack (a :: results) := by
  induction hn : nodes.rank x using Nat.strongRecOn generalizing x stack results with
  | _ n ih =>
  subst hn
  rw [loop, fold, bind_assoc]
  congr 1
  funext view
  cases view with
  | leaf l => rfl
  | node b left right =>
    simp only [ih _ left.property _ _ _ rfl, ih _ right.property _ _ _ rfl, loop, bind_assoc]

theorem loop_eq [LawfulMonad m] (x : ν) : nodes.loop leaf node [.visit x] [] =
    (fun a => some [a]) <$> nodes.fold leaf node x := by
  simp only [loop_visit, loop, bind_pure_comp]

end Nodes

namespace Tree

section Recursion

variable {m : Type → Type} [Monad m] {α : Type}

def nodes : Nodes m Leaf (Operator × Tree × Tree) Tree where
  rank := size
  view
    | .leaf l => pure (.leaf l)
    | .node o left right => pure (.node (o, left, right)
        ⟨left, by simp only [size]; omega⟩ ⟨right, by simp only [size]; omega⟩)

theorem fold_nodes [LawfulMonad m] (leaf : Leaf → m α)
    (node : Operator → Tree → Tree → α → α → m α) (t : Tree) :
    nodes.fold leaf (fun (o, left, right) => node o left right) t = t.foldM leaf node := by
  induction t with
  | leaf l =>
    rw [Nodes.fold, nodes, pure_bind, foldM]
  | node o left right ihl ihr =>
    rw [Nodes.fold, foldM, ← ihl, ← ihr]
    simp only [nodes, pure_bind]

end Recursion

section Calls

variable {σ ε α : Type} {t : Tree}

def postorder (t : Tree) : List Tree := t.sites.map Site.tree

theorem postorder_leaf (l : Leaf) : (leaf l).postorder = [leaf l] := rfl

theorem postorder_node (o : Operator) (left right : Tree) :
    (node o left right).postorder = left.postorder ++ (right.postorder ++ [node o left right]) := by
  simp only [postorder, sites, List.map_append, List.map_map, List.map_cons, List.map_nil,
    List.append_assoc]
  rfl

def noted (t : Tree) (call : ExceptT ε (StateM σ) α) : ExceptT ε (StateM (σ × List Tree)) α :=
  ExceptT.mk fun (s, made) =>
    let (outcome, s') := (call.run.run s).run
    (outcome, s', made ++ [t])

variable (leaf : Leaf → ExceptT ε (StateM σ) α)
variable (node : Operator → Tree → Tree → α → α → ExceptT ε (StateM σ) α)

def notedLeaf (l : Leaf) : ExceptT ε (StateM (σ × List Tree)) α := noted (.leaf l) (leaf l)

def notedNode (o : Operator) (left right : Tree) (a b : α) :
    ExceptT ε (StateM (σ × List Tree)) α :=
  noted (.node o left right) (node o left right a b)

inductive Call : Tree → List α → σ → Except ε α × σ → List α → Prop
  | leaf (l : Leaf) (results : List α) (s : σ) :
      Call (.leaf l) results s ((leaf l).run.run s).run results
  | node (o : Operator) (left right : Tree) (a b : α) (results : List α) (s : σ) :
      Call (.node o left right) (b :: a :: results) s ((node o left right a b).run.run s).run results

inductive Calls : List Tree → List α → σ → Except ε (List α) × σ → List Tree → Prop
  | done (results : List α) (s : σ) : Calls [] results s (.ok results, s) []
  | next {t : Tree} {later made : List Tree} {results kept : List α} {s s' : σ} {a : α}
      {outcome : Except ε (List α) × σ} (call : Call leaf node t results s (.ok a, s') kept)
      (further : Calls later (a :: kept) s' outcome made) :
      Calls (t :: later) results s outcome (t :: made)
  | stop {t : Tree} {later : List Tree} {results kept : List α} {s s' : σ} {e : ε}
      (call : Call leaf node t results s (.error e, s') kept) :
      Calls (t :: later) results s (.error e, s') [t]

variable {leaf node} {t : Tree} {here further later made : List Tree} {results kept kept' : List α}
variable {s s' : σ} {outcome : Except ε (List α) × σ}

theorem Calls.made_prefix (h : Calls leaf node later results s outcome made) : made <+: later := by
  induction h with
  | done => exact List.prefix_rfl
  | next _ _ ih => exact List.prefix_cons_iff.mpr (.inr ⟨_, rfl, ih⟩)
  | stop _ => exact ⟨_, rfl⟩

theorem run_noted (t : Tree) (call : ExceptT ε (StateM σ) α) (s : σ) (made : List Tree) :
    ((noted t call).run.run (s, made)).run =
      (((call.run.run s).run).1, ((call.run.run s).run).2, made ++ [t]) := rfl

variable (leaf node)

inductive Makes (part : ExceptT ε (StateM σ) α) (noting : ExceptT ε (StateM (σ × List Tree)) α)
    (here : List Tree) (results kept : List α) (s : σ) (made : List Tree) : Prop
  | returned {a : α} {s' : σ} (run : (part.run.run s).run = (.ok a, s'))
      (note : (noting.run.run (s, made)).run = (.ok a, s', made ++ here))
      (calls : ∀ {later outcome made'}, Calls leaf node later (a :: kept) s' outcome made' →
        Calls leaf node (here ++ later) results s outcome (here ++ made'))
  | raised {e : ε} {s' : σ} {made' : List Tree} (run : (part.run.run s).run = (.error e, s'))
      (note : (noting.run.run (s, made)).run = (.error e, s', made ++ made'))
      (calls : ∀ later, Calls leaf node (here ++ later) results s (.error e, s') made')

variable {leaf node}

theorem Makes.call {call : ExceptT ε (StateM σ) α}
    (h : Call leaf node t results s (call.run.run s).run kept) (made : List Tree) :
    Makes leaf node call (noted t call) [t] results kept s made := by
  have hnote := run_noted t call s made
  rcases hrun : (call.run.run s).run with ⟨e | a, s'⟩
  · rw [hrun] at h hnote
    exact .raised hrun hnote fun _ => .stop h
  · rw [hrun] at h hnote
    exact .returned hrun hnote fun further => .next h further

theorem Makes.bind {part : ExceptT ε (StateM σ) α} {next : α → ExceptT ε (StateM σ) α}
    {noting : ExceptT ε (StateM (σ × List Tree)) α}
    {notingNext : α → ExceptT ε (StateM (σ × List Tree)) α}
    (h : Makes leaf node part noting here results kept s made)
    (h' : ∀ a s made, Makes leaf node (next a) (notingNext a) further (a :: kept) kept' s made) :
    Makes leaf node (part >>= next) (noting >>= notingNext) (here ++ further) results kept' s made := by
  cases h with
  | raised hrun hnote hcalls =>
    refine .raised (run_bind_raised hrun next) (run_bind_raised hnote notingNext) fun later => ?_
    rw [List.append_assoc]
    exact hcalls _
  | @returned a s' hrun hnote hcalls =>
    have hrun' := run_bind_returned hrun next
    have hnote' := run_bind_returned hnote notingNext
    cases h' a s' (made ++ here) with
    | raised hrunNext hnoteNext hcallsNext =>
      refine .raised (hrun'.trans hrunNext)
        (hnote'.trans (by rw [hnoteNext, List.append_assoc])) fun later => ?_
      rw [List.append_assoc]
      exact hcalls (hcallsNext later)
    | returned hrunNext hnoteNext hcallsNext =>
      refine .returned (hrun'.trans hrunNext)
        (hnote'.trans (by rw [hnoteNext, List.append_assoc])) fun h => ?_
      rw [List.append_assoc, List.append_assoc]
      exact hcalls (hcallsNext h)

theorem foldM_makes (t : Tree) (results : List α) (s : σ) (made : List Tree) :
    Makes leaf node (t.foldM leaf node) (t.foldM (notedLeaf leaf) (notedNode node)) t.postorder
      results results s made := by
  induction t generalizing results s made with
  | leaf l =>
    rw [postorder_leaf]
    exact .call (.leaf l results s) made
  | node o left right ihl ihr =>
    rw [postorder_node]
    exact (ihl results s made).bind fun a s made => (ihr (a :: results) s made).bind fun b s made =>
      .call (.node o left right a b results s) made

theorem exists_calls (t : Tree) (s : σ) : ∃ outcome s' made,
    ((t.foldM leaf node).run.run s).run = (outcome, s') ∧
    ((t.foldM (notedLeaf leaf) (notedNode node)).run.run (s, [])).run = (outcome, s', made) ∧
    Calls leaf node t.postorder [] s (outcome.map fun a => [a], s') made ∧
    ∀ a, outcome = .ok a → made = t.postorder := by
  have hmakes : Makes leaf node _ _ t.postorder [] [] s [] := foldM_makes t [] s []
  cases hmakes with
  | @returned a s' hrun hnote hcalls =>
    have h := hcalls (.done [a] s')
    simp only [List.append_nil] at h
    exact ⟨.ok a, s', t.postorder, hrun, hnote, h, fun _ _ => rfl⟩
  | @raised e s' made hrun hnote hcalls =>
    have h := hcalls []
    rw [List.append_nil] at h
    exact ⟨.error e, s', made, hrun, hnote, h, nofun⟩

end Calls

end Tree

namespace Store

def rank : Link → Nat
  | none => 0
  | some i => i + 1

theorem rank_below (i : Nat) (link : Link) : rank ((below i link).map Subtype.val) < i + 1 := by
  cases below i link with
  | none => exact Nat.succ_pos i
  | some j => exact Nat.succ_lt_succ j.property

def look (store : Store) :
    (link : Link) → View Link (Nat × Operator) { y : Link // rank y < rank link }
  | none => .leaf none
  | some i =>
    match store.cells[i]? with
    | some (.node o left right) => .node (i, o)
        ⟨(below i left).map Subtype.val, rank_below i left⟩
        ⟨(below i right).map Subtype.val, rank_below i right⟩
    | _ => .leaf (some i)

def nodes {m : Type → Type} [Monad m] : Nodes (StateT Store m) Link (Nat × Operator) Link where
  rank := rank
  view link := do return (← get).look link

section Fold

variable {m : Type → Type} [Monad m] [LawfulMonad m] {α : Type} {leaf : Link → StateT Store m α}
variable {node : Nat × Operator → α → α → StateT Store m α} {store : Store} {i : Nat} {o : Operator}
variable {link left right : Link}

theorem run_fold_leaf (h : store.look link = .leaf link) :
    (nodes.fold leaf node link).run store = (leaf link).run store := by
  rw [Nodes.fold]
  simp only [nodes, StateT.run_bind, StateT.run_get, pure_bind, StateT.run_pure, h]

theorem run_fold_node (h : store.cells[i]? = some (.node o left right)) :
    (nodes.fold leaf node (some i)).run store =
      (nodes.fold leaf node ((below i left).map Subtype.val) >>= fun a =>
        nodes.fold leaf node ((below i right).map Subtype.val) >>= fun b =>
          node (i, o) a b).run store := by
  have hlook : store.look (some i) = .node (i, o)
      ⟨(below i left).map Subtype.val, rank_below i left⟩
      ⟨(below i right).map Subtype.val, rank_below i right⟩ := by rw [look, h]
  rw [Nodes.fold]
  simp only [nodes, StateT.run_bind, StateT.run_get, pure_bind, StateT.run_pure, hlook]

end Fold

section Walk

variable {α : Type} {leaf : Link → StateM Store α} {node : Nat × Operator → α → α → StateM Store α}
variable {store : Store} {link : Link}

theorem run_fold_eq (walk : Store → Link → α × Store)
    (atLeaf : ∀ {store link}, store.look link = .leaf link →
      walk store link = ((leaf link).run store).run)
    (atNode : ∀ {store : Store} {i o left right}, store.cells[i]? = some (.node o left right) →
      let first := walk store ((below i left).map Subtype.val)
      let second := walk first.2 ((below i right).map Subtype.val)
      walk store (some i) = ((node (i, o) first.1 second.1).run second.2).run)
    (store : Store) (link : Link) :
    ((nodes.fold leaf node link).run store).run = walk store link := by
  induction store, link using link_induction with
  | absent store => rw [run_fold_leaf rfl, atLeaf rfl]
  | @outside store i h =>
    have hlook : store.look (some i) = .leaf (some i) := by rw [look, h]
    rw [run_fold_leaf hlook, atLeaf hlook]
  | @leaf store i l h =>
    have hlook : store.look (some i) = .leaf (some i) := by rw [look, h]
    rw [run_fold_leaf hlook, atLeaf hlook]
  | node h ihl ihr =>
    rw [run_fold_node h, atNode h, StateT.run_bind, Id.run_bind, ihl, StateT.run_bind, Id.run_bind, ihr]

def simplifyAt : Nat × Operator → Link → Link → StateM Store Link
  | (i, o), left, right => modifyGet (·.simplifyNode i o left right)

def unlinkAt : Nat × Operator → Unit → Unit → StateM Store Unit
  | (i, _), _, _ => modify (·.unlink i)

theorem simplify_of_look (h : store.look link = .leaf link) : store.simplify link = (link, store) := by
  cases link with
  | none => rfl
  | some i =>
    rw [look] at h
    rw [simplify, simplifyCell]
    split at h
    · cases h
    · simp only

theorem release_of_look (h : store.look link = .leaf link) : store.release link = store := by
  cases link with
  | none => rfl
  | some i =>
    rw [look] at h
    rw [release, releaseCell]
    split at h
    · cases h
    · simp only

theorem fold_simplifyAt (store : Store) (link : Link) :
    ((nodes.fold pure simplifyAt link).run store).run = store.simplify link :=
  run_fold_eq simplify simplify_of_look simplifyCell_node store link

theorem fold_unlinkAt (store : Store) (link : Link) :
    ((nodes.fold (fun _ => pure ()) unlinkAt link).run store).run = ((), store.release link) := by
  refine run_fold_eq (fun store link => ((), store.release link)) (fun h => ?_) (fun h => ?_)
    store link
  · rw [release_of_look h]
    rfl
  · exact congrArg _ (releaseCell_node h)

theorem loop_simplifyAt (store : Store) (link : Link) :
    ((nodes.loop pure simplifyAt [.visit link] []).run store).run =
      (some [(store.simplify link).1], (store.simplify link).2) := by
  rw [Nodes.loop_eq, StateT.run_map, Id.run_map, fold_simplifyAt]

theorem loop_unlinkAt (store : Store) (link : Link) :
    ((nodes.loop (fun _ => pure ()) unlinkAt [.visit link] []).run store).run =
      (some [()], store.release link) := by
  rw [Nodes.loop_eq, StateT.run_map, Id.run_map, fold_unlinkAt]

end Walk

end Store

namespace Tree

theorem walk_is_recursion (t : Tree) :
    (∀ {m : Type → Type} [Monad m] [LawfulMonad m] {α : Type} (leaf : Leaf → m α)
      (node : Operator → Tree → Tree → α → α → m α),
      t.walkM leaf node = t.foldM leaf node ∧
      nodes.loop leaf (fun (o, left, right) => node o left right) [.visit t] [] =
        (fun a => some [a]) <$> t.foldM leaf node) ∧
    (∀ {σ ε α : Type} (leaf : Leaf → ExceptT ε (StateM σ) α)
      (node : Operator → Tree → Tree → α → α → ExceptT ε (StateM σ) α) (s : σ),
      ∃ outcome s' made,
        ((t.walkM leaf node).run.run s).run = (outcome, s') ∧
        ((t.walkM (notedLeaf leaf) (notedNode node)).run.run (s, [])).run = (outcome, s', made) ∧
        Calls leaf node t.postorder [] s (outcome.map fun a => [a], s') made ∧
        made <+: t.postorder ∧ ∀ a, outcome = .ok a → made = t.postorder) ∧
    (∀ {m : Type → Type} [Monad m] [LawfulMonad m] {α : Type} (leaf : Link → StateT Store m α)
      (node : Nat × Operator → α → α → StateT Store m α) (link : Link),
      Store.nodes.loop leaf node [.visit link] [] =
        (fun a => some [a]) <$> Store.nodes.fold leaf node link) ∧
    ∀ (store : Store) (link : Link),
      ((Store.nodes.loop pure Store.simplifyAt [.visit link] []).run store).run =
        (some [(store.simplify link).1], (store.simplify link).2) ∧
      ((Store.nodes.loop (fun _ => pure ()) Store.unlinkAt [.visit link] []).run store).run =
        (some [()], store.release link) := by
  refine ⟨fun leaf node => ⟨walkM_eq_foldM leaf node t, ?_⟩, fun leaf node s => ?_,
    fun leaf node link => Store.nodes.loop_eq leaf node link,
    fun store link => ⟨store.loop_simplifyAt link, store.loop_unlinkAt link⟩⟩
  · rw [Nodes.loop_eq, fold_nodes]
  · obtain ⟨outcome, s', made, hrun, hnote, hcalls, hmade⟩ := exists_calls t s
    rw [walkM_eq_foldM, walkM_eq_foldM]
    exact ⟨outcome, s', made, hrun, hnote, hcalls, hcalls.made_prefix, hmade⟩

def numberLeaf : Leaf → ExceptT String (StateM Nat) Nat
  | .absent => throw Wording.absentOperand
  | _ => modifyGet fun count => (count, count + 1)

def numberNode (_ : Operator) (_ _ : Tree) (_ _ : Nat) : ExceptT String (StateM Nat) Nat :=
  modifyGet fun count => (count, count + 1)

def openDifference : Tree := node ⟨"-", ⟨1, 3⟩⟩ (identifier "x" ⟨1, 1⟩) absent

theorem openDifference_walk :
    let t := node ⟨"*", ⟨1, 9⟩⟩ openDifference (number 3 ⟨1, 11⟩)
    ((t.walkM (notedLeaf numberLeaf) (notedNode numberNode)).run.run (0, [])).run =
      (.error Wording.absentOperand, 1, [identifier "x" ⟨1, 1⟩, absent]) ∧
    [identifier "x" ⟨1, 1⟩, absent] <+: t.postorder ∧
    Calls numberLeaf numberNode t.postorder [] 0 (.error Wording.absentOperand, 1)
      [identifier "x" ⟨1, 1⟩, absent] := by
  intro t
  obtain ⟨hwalks, hcalls, -, -⟩ := walk_is_recursion t
  have hnoted : ((t.walkM (notedLeaf numberLeaf) (notedNode numberNode)).run.run (0, [])).run =
      (.error Wording.absentOperand, 1, [identifier "x" ⟨1, 1⟩, absent]) := by
    rw [(hwalks (notedLeaf numberLeaf) (notedNode numberNode)).1]
    rfl
  obtain ⟨outcome, s', made, -, hnote, hmade, hprefix, -⟩ := hcalls numberLeaf numberNode 0
  cases hnote.symm.trans hnoted
  exact ⟨hnoted, hprefix, hmade⟩

end Tree

end Calculator
