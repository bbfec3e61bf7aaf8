import Calculator.Lexer
import Calculator.Proofs.InStore
import Mathlib.Control.Monad.Basic

namespace Calculator.Store

inductive Fills (store : Store) : Nat → Nat → Prop
  | leaf {i : Nat} {l : Leaf} (cell : store.cells[i]? = some (.leaf l)) : Fills store i i
  | node {low j k : Nat} {o : Operator} (lower : Fills store low j) (upper : Fills store (j + 1) k)
      (cell : store.cells[k + 1]? = some (.node o (some j) (some k))) : Fills store low (k + 1)

structure Undone (base : Nat) (store store' : Store) : Prop where
  same : ∀ i < base, store'.cells[i]? = store.cells[i]?
  unlinked : ∀ i, base ≤ i → store'.Unlinked i

inductive Settles (base : Nat) (store : Store) {bound : Nat} :
    Except Failure (Parsed Link bound) × Store → Prop
  | ok {i : Nat} {rest : List Token} {store' : Store} (shorter : rest.length < bound)
      (same : ∀ i < base, store'.cells[i]? = store.cells[i]?) (fills : Fills store' base i)
      (last : store'.cells.size = i + 1) : Settles base store (.ok ⟨some i, rest, shorter⟩, store')
  | error (failure : Failure) {store' : Store} (undone : Undone base store store') :
      Settles base store (.error failure, store')

def Settled (read : Reader (StateM Store) Link) : Prop :=
  ∀ tokens store, Settles store.cells.size store ((read tokens).run store).run

variable {store store' store'' : Store} {base low i j k bound nesting : Nat} {tokens : List Token}
variable {o : Operator} {symbols : List String} {operand : Reader (StateM Store) Link}
variable {inner : Option (Reader (StateM Store) Link)}
variable {outcome : Except Failure (Parsed Link bound) × Store}

namespace Fills

theorem le (h : Fills store low i) : low ≤ i := by
  induction h with
  | leaf => exact Nat.le_refl _
  | node _ _ _ ihl ihr => omega

theorem of_same (h : Fills store low i)
    (same : ∀ m, low ≤ m → m ≤ i → store'.cells[m]? = store.cells[m]?) : Fills store' low i := by
  induction h with
  | @leaf i l cell => exact .leaf ((same i (Nat.le_refl _) (Nat.le_refl _)).trans cell)
  | @node low j k o lower upper cell ihl ihr =>
    have hl := lower.le
    have hr := upper.le
    have lower' := ihl fun m hm hm' => same m hm (by omega)
    have upper' := ihr fun m hm hm' => same m (by omega) (by omega)
    exact .node lower' upper' ((same (k + 1) (by omega) (Nat.le_refl _)).trans cell)

theorem owns (h : Fills store low i) :
    ∃ cells tree, Owns store (some i) cells tree ∧ ∀ m, m ∈ cells ↔ low ≤ m ∧ m ≤ i := by
  induction h with
  | leaf cell => exact ⟨_, _, .leaf cell, fun m => by rw [List.mem_singleton]; omega⟩
  | @node low j k o lower upper cell ihl ihr =>
    obtain ⟨lefts, _, ownsl, hlefts⟩ := ihl
    obtain ⟨rights, _, ownsr, hrights⟩ := ihr
    have hl := lower.le
    have hr := upper.le
    have older : ∀ m ∈ lefts ++ rights, m < k + 1 := by
      intro m hm
      rw [List.mem_append, hlefts, hrights] at hm
      omega
    have apart : lefts.Disjoint rights := by
      intro m hm hm'
      rw [hlefts] at hm
      rw [hrights] at hm'
      omega
    refine ⟨_, _, .node cell ownsl ownsr older apart, fun m => ?_⟩
    rw [List.mem_cons, List.mem_append, hlefts, hrights]
    omega

theorem push (o : Operator) (h : Fills store low i) (upper : Fills store' (i + 1) j)
    (last : store'.cells.size = j + 1) (same : ∀ m < i + 1, store'.cells[m]? = store.cells[m]?) :
    Fills ⟨store'.cells.push (.node o (some i) (some j))⟩ low store'.cells.size := by
  have hpush := (grows_push store' (.node o (some i) (some j))).same
  have hr := upper.le
  have lower' := h.of_same fun m _ hm => (hpush m (by omega)).trans (same m (by omega))
  have upper' := upper.of_same fun m _ hm => hpush m (by omega)
  have cell : (store'.cells.push (.node o (some i) (some j)))[store'.cells.size]? =
      some (.node o (some i) (some j)) :=
    Array.getElem?_push_size
  rw [last] at cell ⊢
  exact .node lower' upper' cell

theorem undone_of (h : Fills store' base i) (same : ∀ m < base, store'.cells[m]? = store.cells[m]?)
    (later : ∀ m, i < m → store'.Unlinked m) (done : ∀ cells tree, Owns store' (some i) cells tree →
      SameOutside store' store'' cells ∧ ∀ m ∈ cells, store''.Unlinked m) :
    Undone base store store'' := by
  obtain ⟨cells, tree, owns, hcells⟩ := h.owns
  obtain ⟨outside, released⟩ := done cells tree owns
  constructor
  · intro m hm
    have hnot : m ∉ cells := by
      rw [hcells]
      omega
    exact (outside m hnot).trans (same m hm)
  · intro m hm
    by_cases hc : m ∈ cells
    · exact released m hc
    · have hi : i < m := by
        rw [hcells] at hc
        omega
      exact (later m hi).of_same (outside m hc)

theorem undone (h : Fills store' base i) (same : ∀ m < base, store'.cells[m]? = store.cells[m]?)
    (later : ∀ m, i < m → store'.Unlinked m) : Undone base store (store'.releaseCell i) :=
  h.undone_of same later fun _ _ owns => ⟨owns.release_outside, owns.release_unlinked⟩

end Fills

theorem undone_refl (store : Store) : Undone store.cells.size store store where
  same _ _ := rfl
  unlinked _ hi := unlinked_of_size_le hi

theorem Settles.after (h : Settles base store' outcome)
    (same : ∀ m < base, store'.cells[m]? = store.cells[m]?) : Settles base store outcome := by
  cases h with
  | ok shorter same' fills last =>
    exact .ok shorter (fun m hm => (same' m hm).trans (same m hm)) fills last
  | error failure undone =>
    exact .error failure ⟨fun m hm => (undone.same m hm).trans (same m hm), undone.unlinked⟩

section Chain

theorem chain_settles (h : Settled operand) (fills : Fills store base i)
    (last : store.cells.size = i + 1) (shorter : tokens.length < bound) :
    Settles base store
      ((builder.chain symbols operand (some i) tokens shorter).run store).run := by
  induction hn : tokens.length using Nat.strongRecOn generalizing store i tokens with
  | _ n ih =>
  by_cases hb : Begins symbols tokens
  · obtain ⟨symbol, place, tail, mem, rfl⟩ := hb
    rw [Builder.chain.eq_def]
    simp only [mem, if_true, StateT.run_bind, Id.run_bind]
    have hs := h tail store
    generalize ((operand tail).run store).run = read at hs ⊢
    rw [last] at hs
    have hbase := fills.le
    cases hs with
    | @error failure store' undone =>
      have fills' := fills.of_same fun m _ hm => undone.same m (Nat.lt_succ_of_le hm)
      have same m (hm : m < base) := undone.same m (by omega)
      exact .error failure (fills'.undone same fun m hm => undone.unlinked m hm)
    | @ok j rest store' less same upper last' =>
      have hn' : rest.length < n := by
        simp only [List.length_cons] at hn
        omega
      have whole := fills.push ⟨symbol, place⟩ upper last' same
      have hupper := upper.le
      have same' m (hm : m < base) :
          (store'.cells.push (.node ⟨symbol, place⟩ (some i) (some j)))[m]? = store.cells[m]? :=
        ((grows_push store' _).same m (by omega)).trans (same m (by omega))
      exact (ih _ hn' whole (by simp) _ rfl).after same'
  · rw [builder.chain_stop hb]
    exact .ok shorter (fun _ _ => rfl) fills last

theorem leftChain_settled (symbols : List String) (h : Settled operand) :
    Settled (builder.leftChain symbols operand) := by
  intro tokens store
  have hs := h tokens store
  simp only [Builder.leftChain, StateT.run_bind, Id.run_bind]
  generalize ((operand tokens).run store).run = read at hs ⊢
  cases hs with
  | error failure undone => exact .error failure undone
  | ok shorter same fills last => exact (chain_settles h fills last shorter).after same

end Chain

section Factor

theorem fills_push_leaf (store : Store) (l : Leaf) :
    Fills ⟨store.cells.push (.leaf l)⟩ store.cells.size store.cells.size :=
  .leaf Array.getElem?_push_size

theorem leaf_settles (l : Leaf) {rest : List Token} (shorter : rest.length < bound) :
    Settles store.cells.size store
      (.ok ⟨some store.cells.size, rest, shorter⟩, ⟨store.cells.push (.leaf l)⟩) :=
  .ok shorter (grows_push store _).same (fills_push_leaf store l) (by simp)

theorem parentheses_settles (h : Settled operand) (place : Position) :
    Settles store.cells.size store
      ((builder.factor nesting (some operand) (⟨.symbol "(", place⟩ :: tokens)).run store).run := by
  have hs := h tokens store
  simp only [Builder.factor, if_true, StateT.run_bind, Id.run_bind]
  generalize ((operand tokens).run store).run = read at hs ⊢
  cases hs with
  | error failure undone => exact .error failure undone
  | @ok i rest store' shorter same fills last =>
    have undone : Undone store.cells.size store (store'.releaseCell i) :=
      fills.undone same fun m hm => unlinked_of_size_le (by omega)
    cases rest with
    | nil => exact .error _ undone
    | cons close after =>
      by_cases hclose : close.lexeme = .symbol ")"
      · simp only [hclose, if_true]
        exact .ok _ same fills last
      · simp only [hclose, if_false]
        exact .error _ undone

theorem factor_settled (nesting : Nat) (h : ∀ read ∈ inner, Settled read) :
    Settled (builder.factor nesting inner) := by
  intro tokens store
  cases tokens with
  | nil => exact .error _ (undone_refl store)
  | cons token later =>
    obtain ⟨lexeme, place⟩ := token
    cases lexeme with
    | number value => exact leaf_settles (.number value place) _
    | identifier name => exact leaf_settles (.identifier name place) _
    | ending => exact .error _ (undone_refl store)
    | symbol symbol =>
      by_cases hs : symbol = "("
      · subst hs
        cases inner with
        | none => exact .error _ (undone_refl store)
        | some read => exact parentheses_settles (h read rfl) place
      · have hl : Lexeme.symbol symbol ≠ .symbol "(" := fun he => hs (Lexeme.symbol.inj he)
        simp only [Builder.factor, hl, if_false]
        exact .error _ (undone_refl store)

end Factor

theorem term_settled (nesting : Nat) (h : ∀ read ∈ inner, Settled read) :
    Settled (builder.term nesting inner) :=
  leftChain_settled _ (factor_settled nesting h)

theorem sum_settled (nesting : Nat) (inner : Option (Reader (StateM Store) Link))
    (h : ∀ read ∈ inner, Settled read) : Settled (builder.sum nesting inner) :=
  leftChain_settled _ (term_settled nesting h)

theorem expression_settled (depth : Nat) : Settled (builder.expression depth) :=
  builder.expression_induction sum_settled depth

theorem inner?_settled (depth : Nat) : ∀ read ∈ builder.inner? depth, Settled read :=
  builder.inner?_of_expression expression_settled depth

theorem undone_of_settled {read : Reader (StateM Store) Link} {failure : Failure}
    (h : Settled read) (hf : ((read tokens).run store).run = (.error failure, store')) :
    Undone store.cells.size store store' := by
  have hs := h tokens store
  rw [hf] at hs
  cases hs with
  | error _ undone => exact undone

theorem whole_settles (depth : Nat) (tokens : List Token) (store : Store) :
    (∃ failure store', ((builder.whole depth tokens).run store).run = (.error failure, store') ∧
      Undone store.cells.size store store') ∨
    ∃ i store', ((builder.whole depth tokens).run store).run = (.ok (some i), store') ∧
      (∀ m < store.cells.size, store'.cells[m]? = store.cells[m]?) ∧
      Fills store' store.cells.size i ∧ store'.cells.size = i + 1 := by
  have hs := expression_settled depth tokens store
  simp only [Builder.whole, StateT.run_bind, Id.run_bind]
  generalize ((builder.expression depth tokens).run store).run = read at hs ⊢
  cases hs with
  | error failure undone => exact .inl ⟨failure, _, rfl, undone⟩
  | @ok i rest store' shorter same fills last =>
    cases rest with
    | nil => exact .inr ⟨i, store', rfl, same, fills, last⟩
    | cons token later =>
      exact .inl ⟨_, _, rfl, fills.undone same fun m hm => unlinked_of_size_le (by omega)⟩

theorem whole_undone {depth : Nat} {failure : Failure}
    (hf : ((builder.whole depth tokens).run store).run = (.error failure, store')) :
    Undone store.cells.size store store' := by
  rcases whole_settles depth tokens store with ⟨_, _, h, undone⟩ | ⟨_, _, h, -⟩
  · cases hf.symm.trans h
    exact undone
  · cases hf.symm.trans h

section Parse

variable {failure : Failure}

theorem parse_error_iff :
    (parse tokens).1 = .error failure ↔ Tree.parse tokens = .error failure := by
  rcases whole_mirrors maxNesting tokens empty with
    ⟨i, tree, store, hs, ht, -⟩ | ⟨failure', store, hs, ht⟩
  · rw [show parse tokens = _ from hs, show Tree.parse tokens = _ from ht]
    constructor <;> intro h <;> cases h
  · rw [show parse tokens = _ from hs, show Tree.parse tokens = _ from ht]
    constructor <;> intro h <;> cases h <;> rfl

theorem parse_unlinked (h : (parse tokens).1 = .error failure) (i : Nat) :
    (parse tokens).2.Unlinked i :=
  (whole_undone (Prod.ext h rfl)).unlinked i (Nat.zero_le i)

theorem parseFirst_error_iff :
    (parseFirst tokens).1 = .error failure ↔ Tree.parseFirst tokens = .error failure := by
  have hm := expression_mirrors maxNesting tokens empty
  simp only [parseFirst, Tree.parseFirst]
  generalize ((builder.expression maxNesting tokens).run empty).run = read at hm ⊢
  generalize (Tree.builder.expression maxNesting tokens).run = read' at hm ⊢
  cases hm with
  | ok shorter grows holds => constructor <;> intro h <;> cases h
  | error failure' store => constructor <;> intro h <;> cases h <;> rfl

theorem parseFirst_unlinked (h : (parseFirst tokens).1 = .error failure) (i : Nat) :
    (parseFirst tokens).2.Unlinked i := by
  have hs := expression_settled maxNesting tokens empty
  simp only [parseFirst] at h ⊢
  generalize ((builder.expression maxNesting tokens).run empty).run = read at hs h ⊢
  cases hs with
  | ok shorter same fills last => cases h
  | error failure' undone => exact undone.unlinked i (Nat.zero_le i)

end Parse

theorem failure_leaves_nothing_linked (tokens : List Token) :
    (∀ failure, ((parse tokens).1 = .error failure ↔ Tree.parse tokens = .error failure) ∧
      (Tree.parse tokens = .error failure → ∀ i, (parse tokens).2.Unlinked i)) ∧
    (∀ failure, ((parseFirst tokens).1 = .error failure ↔
        Tree.parseFirst tokens = .error failure) ∧
      (Tree.parseFirst tokens = .error failure → ∀ i, (parseFirst tokens).2.Unlinked i)) ∧
    ∀ depth, ∀ read ∈ [builder.expression depth,
        builder.term (maxNesting - depth) (builder.inner? depth),
        builder.factor (maxNesting - depth) (builder.inner? depth)],
      ∀ store failure store', ((read tokens).run store).run = (.error failure, store') →
        Undone store.cells.size store store' := by
  refine ⟨fun failure => ⟨parse_error_iff, fun h => parse_unlinked (parse_error_iff.mpr h)⟩,
    fun failure => ⟨parseFirst_error_iff, fun h => parseFirst_unlinked (parseFirst_error_iff.mpr h)⟩,
    ?_⟩
  intro depth read hread store failure store' hf
  simp only [List.mem_cons, List.not_mem_nil, or_false] at hread
  rcases hread with rfl | rfl | rfl
  · exact undone_of_settled (expression_settled depth) hf
  · exact undone_of_settled (term_settled _ (inner?_settled depth)) hf
  · exact undone_of_settled (factor_settled _ (inner?_settled depth)) hf

theorem pending_operands_unlinked :
    Tree.parse (Scan.ofText "a * b + (c - 1 - (2 * d - ))").tokens =
      .error ⟨.unexpectedToken (.symbol ")") .factor,
        [⟨.symbol ")", ⟨1, 26⟩⟩, ⟨.symbol ")", ⟨1, 27⟩⟩], 2⟩ ∧
    ((parse (Scan.ofText "a * b + (c - 1 - (2 * d - ))").tokens).2.cells.filter fun
      | .node _ _ _ => true
      | .leaf _ => false) = #[.node ⟨"*", ⟨1, 2⟩⟩ none none, .node ⟨"-", ⟨1, 11⟩⟩ none none,
        .node ⟨"*", ⟨1, 20⟩⟩ none none] ∧
    ∀ i, (parse (Scan.ofText "a * b + (c - 1 - (2 * d - ))").tokens).2.Unlinked i := by
  have hf : Tree.parse (Scan.ofText "a * b + (c - 1 - (2 * d - ))").tokens =
      .error ⟨.unexpectedToken (.symbol ")") .factor,
        [⟨.symbol ")", ⟨1, 26⟩⟩, ⟨.symbol ")", ⟨1, 27⟩⟩], 2⟩ := by
    decide +kernel
  obtain ⟨hparse, -, -⟩ := failure_leaves_nothing_linked
    (Scan.ofText "a * b + (c - 1 - (2 * d - ))").tokens
  exact ⟨hf, by decide +kernel, (hparse _).2 hf⟩

end Calculator.Store
