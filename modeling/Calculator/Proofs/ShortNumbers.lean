import Calculator.Proofs.Sites
import Calculator.Raising
import Mathlib.Algebra.Group.Int.Defs
import Mathlib.Algebra.Group.Nat.Defs
import Mathlib.Tactic.SplitIfs

/-!
Trees with short numbers. Where no number has more than `Numeral.maxDigits` digits, whatever is written
can be written, and what may raise otherwise does as the texts say that are had of all numbers. Where one
is longer, the written form of the tree cannot be had, and there is no simplified tree if the number
would show in the log.
-/

namespace Calculator

namespace Numeral

variable {value : Int} {text : String}

theorem write_of_short (h : Short value) : write value = .ok (toString value) := if_pos h

theorem write_of_long (h : ¬ Short value) : write value = .error .unwritable := if_neg h

end Numeral

def Lexeme.Short : Lexeme → Prop
  | number value => Numeral.Short value
  | _ => True

theorem Lexeme.write_of_short {lexeme : Lexeme} (h : lexeme.Short) :
    lexeme.write = .ok lexeme.text := by
  cases lexeme with
  | number value => exact Numeral.write_of_short h
  | identifier name => rfl
  | symbol text => rfl
  | ending => rfl

namespace Tree

def numbers : Tree → List Int
  | leaf l => (leaf l).literal?.toList
  | node _ left right => left.numbers ++ right.numbers

def Short (t : Tree) : Prop := ∀ value ∈ t.numbers, Numeral.Short value

instance (t : Tree) : Decidable t.Short :=
  inferInstanceAs (Decidable (∀ value ∈ t.numbers, Numeral.Short value))

variable {t u left right : Tree} {o : Operator} {value : Int} {place : Position} {name : String}

@[simp] theorem short_absent : absent.Short := List.forall_mem_nil _

@[simp] theorem short_identifier : (identifier name place).Short := List.forall_mem_nil _

@[simp] theorem short_number_iff : (number value place).Short ↔ Numeral.Short value :=
  List.forall_mem_singleton

@[simp] theorem short_node_iff : (node o left right).Short ↔ left.Short ∧ right.Short :=
  List.forall_mem_append

theorem Short.mono (h : t.Short) (hu : u.numbers ⊆ t.numbers) : u.Short :=
  fun value hv => h value (hu hv)

theorem numbers_simplify (t : Tree) : t.simplify.numbers ⊆ t.numbers := by
  refine simplify_induction (motive := fun t u => u.numbers ⊆ t.numbers) ?_ ?_ ?_ ?_ t
  · exact fun _ => List.Subset.refl _
  · intro o left right left' right' hl hr
    apply List.append_subset.mpr
    exact ⟨List.subset_append_of_subset_left _ hl, List.subset_append_of_subset_right _ hr⟩
  · exact fun h => List.subset_append_of_subset_left _ h
  · exact fun h => List.subset_append_of_subset_right _ h

end Tree

namespace Piece

def numbers : List Piece → List Int
  | [] => []
  | text _ :: rest => numbers rest
  | tree t :: rest => t.numbers ++ numbers rest

def Short (pieces : List Piece) : Prop := ∀ value ∈ numbers pieces, Numeral.Short value

instance (pieces : List Piece) : Decidable (Short pieces) :=
  inferInstanceAs (Decidable (∀ value ∈ numbers pieces, Numeral.Short value))

variable {pieces rest : List Piece} {s : String} {raised : Raised} {t : Tree} {l : Leaf}

theorem short_nil : Short [] := List.forall_mem_nil _

theorem short_text_iff : Short (text s :: rest) ↔ Short rest := Iff.rfl

theorem short_tree_iff : Short (tree t :: rest) ↔ t.Short ∧ Short rest := List.forall_mem_append

theorem leaf_short_of_write {text? : Option String} (h : l.write = .ok text?) :
    (Tree.leaf l).Short := by
  cases l with
  | absent => exact Tree.short_absent
  | identifier name place => exact Tree.short_identifier
  | number value place =>
    apply Tree.short_number_iff.mpr
    apply Classical.byContradiction
    intro hl
    rw [Leaf.write, Numeral.write_of_long hl] at h
    cases h

theorem leaf_long_of_write (h : l.write = .error raised) :
    raised = .unwritable ∧ ¬ (Tree.leaf l).Short := by
  cases l with
  | absent => cases h
  | identifier name place => cases h
  | number value place =>
    rw [Tree.short_number_iff]
    by_cases hl : Numeral.Short value
    · rw [Leaf.write, Numeral.write_of_short hl] at h
      cases h
    · rw [Leaf.write, Numeral.write_of_long hl] at h
      cases h
      exact ⟨rfl, hl⟩

theorem short_of_tryNext?_some (h : tryNext? pieces = .ok (some (s, rest))) :
    Short pieces ↔ Short rest := by
  fun_induction tryNext? pieces with
  | case1 => cases h
  | case2 s rest =>
    cases h
    exact Iff.rfl
  | case3 o left right later =>
    cases h
    simp only [short_tree_iff, short_text_iff, Tree.short_node_iff, and_assoc]
  | case4 l later raised hl => cases h
  | case5 l later s hl =>
    cases h
    rw [short_tree_iff, and_iff_right (leaf_short_of_write hl)]
  | case6 l later hl ih => rw [short_tree_iff, and_iff_right (leaf_short_of_write hl), ih h]

theorem short_of_tryNext?_none (h : tryNext? pieces = .ok none) : Short pieces := by
  fun_induction tryNext? pieces with
  | case1 => exact short_nil
  | case2 s rest => cases h
  | case3 o left right later => cases h
  | case4 l later raised hl => cases h
  | case5 l later s hl => cases h
  | case6 l later hl ih => exact short_tree_iff.mpr ⟨leaf_short_of_write hl, ih h⟩

theorem long_of_tryNext?_error (h : tryNext? pieces = .error raised) :
    raised = .unwritable ∧ ¬ Short pieces := by
  fun_induction tryNext? pieces with
  | case1 => cases h
  | case2 s rest => cases h
  | case3 o left right later => cases h
  | case4 l later raised' hl =>
    cases h
    obtain ⟨hr, hn⟩ := leaf_long_of_write hl
    exact ⟨hr, fun hs => hn (short_tree_iff.mp hs).1⟩
  | case5 l later s hl => cases h
  | case6 l later hl ih =>
    obtain ⟨hr, hn⟩ := ih h
    exact ⟨hr, fun hs => hn (short_tree_iff.mp hs).2⟩

theorem tryDrain_eq (pieces : List Piece) (out : Array String) : tryDrain pieces out =
    if Short pieces then .ok (out ++ (fragments pieces).toArray) else .error .unwritable := by
  fun_induction tryDrain pieces out with
  | case1 pieces out raised h =>
    obtain ⟨rfl, hn⟩ := long_of_tryNext?_error h
    rw [if_neg hn]
  | case2 pieces out h =>
    rw [if_pos (short_of_tryNext?_none h), fragments_of_next?_none (next?_of_tryNext? h)]
    simp
  | case3 pieces out s rest h _ ih =>
    rw [ih, fragments_of_next?_some (next?_of_tryNext? h)]
    simp [short_of_tryNext?_some h]

theorem tryTake_of_short (n : Nat) (h : Short pieces) : tryTake n pieces = .ok (take n pieces) := by
  induction n generalizing pieces with
  | zero => rfl
  | succ n ih =>
    rw [tryTake, take]
    cases hnext : tryNext? pieces with
    | error raised => exact absurd h (long_of_tryNext?_error hnext).2
    | ok found =>
      rw [next?_of_tryNext? hnext]
      cases found with
      | none => rfl
      | some taken =>
        obtain ⟨s, rest⟩ := taken
        simp only [ih ((short_of_tryNext?_some hnext).mp h)]
        rfl

end Piece

namespace Tree

variable {t u : Tree} {text : String}

theorem short_pieces_iff : Piece.Short [.tree t] ↔ t.Short := by
  rw [Piece.short_tree_iff, and_iff_left Piece.short_nil]

theorem tryRender_eq (t : Tree) :
    t.tryRender = if t.Short then .ok t.render else .error .unwritable := by
  rw [tryRender, Piece.tryDrain_eq, render_eq]
  by_cases h : t.Short
  · rw [if_pos h, if_pos (short_pieces_iff.mpr h)]
    simp [Except.map, Piece.fragments]
  · rw [if_neg h, if_neg (mt short_pieces_iff.mp h)]
    rfl

theorem tryRender_of_short (h : t.Short) : t.tryRender = .ok t.render := by
  rw [tryRender_eq, if_pos h]

theorem tryRender_of_long (h : ¬ t.Short) : t.tryRender = .error .unwritable := by
  rw [tryRender_eq, if_neg h]

theorem tryFirstFragments_of_short (n : Nat) (h : t.Short) :
    t.tryFirstFragments n = .ok (t.firstFragments n) :=
  Piece.tryTake_of_short n (short_pieces_iff.mpr h)

end Tree

def Removal.Short (removal : Removal) : Prop := removal.before.Short ∧ removal.after.Short

instance (removal : Removal) : Decidable removal.Short :=
  inferInstanceAs (Decidable (removal.before.Short ∧ removal.after.Short))

namespace Removal

variable {removal : Removal}

theorem tryLog_of_short (h : removal.Short) : removal.tryLog = .ok removal.log := by
  rw [tryLog, Tree.tryRender_of_short h.1, Tree.tryRender_of_short h.2]
  rfl

theorem tryLog_of_long (h : ¬ removal.Short) : removal.tryLog = .error .unwritable := by
  rw [tryLog]
  by_cases hb : removal.before.Short
  · rw [Tree.tryRender_of_short hb, Tree.tryRender_of_long fun ha => h ⟨hb, ha⟩]
    rfl
  · rw [Tree.tryRender_of_long hb]
    rfl

end Removal

namespace Tree

section Logging

variable {α β : Type} {removals removals' : List Removal} {a : α} {b : β} {t u : Tree}
variable {part : ExceptT Raised (StateM (Array String)) α}
variable {next : α → ExceptT Raised (StateM (Array String)) β}

inductive Logs (removals : List Removal) (part : ExceptT Raised (StateM (Array String)) α) (a : α)
    (log : Array String) : Prop
  | returned (short : ∀ removal ∈ removals, removal.Short)
      (run : (part.run.run log).run = (.ok a, log ++ (removals.map Removal.log).toArray))
  | raised {before after : List Removal} {removal : Removal}
      (split : removals = before ++ removal :: after) (short : ∀ earlier ∈ before, earlier.Short)
      (long : ¬ removal.Short)
      (run : (part.run.run log).run = (.error .unwritable, log ++ (before.map Removal.log).toArray))

theorem logs_pure (a : α) (log : Array String) : Logs [] (pure a) a log :=
  .returned (List.forall_mem_nil _) (by simp)

theorem Logs.bind {log : Array String} (h : Logs removals part a log)
    (h' : ∀ log, Logs removals' (next a) b log) : Logs (removals ++ removals') (part >>= next) b log := by
  cases h with
  | @raised before after removal split short long run =>
    have hsplit : removals ++ removals' = before ++ removal :: (after ++ removals') := by
      rw [split, List.append_assoc, List.cons_append]
    exact .raised hsplit short long (run_bind_raised run next)
  | returned short run =>
    have hnext := run_bind_returned run next
    cases h' (log ++ (removals.map Removal.log).toArray) with
    | returned short' run' =>
      apply Logs.returned (List.forall_mem_append.mpr ⟨short, short'⟩)
      rw [hnext, run', List.map_append, ← List.append_toArray, Array.append_assoc]
    | @raised before after removal split short' long run' =>
      have hsplit : removals ++ removals' = (removals ++ before) ++ removal :: after := by
        rw [split, List.append_assoc]
      apply Logs.raised hsplit (List.forall_mem_append.mpr ⟨short, short'⟩) long
      rw [hnext, run', List.map_append, ← List.append_toArray, Array.append_assoc]

theorem logs_tryContractM (o : Operator) (l r left right : Tree) (log : Array String) :
    Logs (contract o left right).2.toList (tryContractM o l r left right)
      (contract o left right).1 log := by
  rw [tryContractM]
  obtain ⟨kept, removal?⟩ := contract o left right
  cases removal? with
  | none => exact logs_pure kept log
  | some removal =>
    by_cases h : removal.Short
    · apply Logs.returned (List.forall_mem_singleton.mpr h)
      have hpush : log ++ (List.map Removal.log [removal]).toArray = log.push removal.log := by simp
      rw [hpush]
      simp only [Removal.tryLog_of_short h]
      rfl
    · refine .raised (List.nil_append _).symm (List.forall_mem_nil _) h ?_
      simp only [Removal.tryLog_of_long h]
      simp

theorem logs_foldM (t : Tree) (log : Array String) :
    Logs t.removals (t.foldM (fun l => pure (leaf l)) tryContractM) t.simplify log := by
  induction t generalizing log with
  | leaf l =>
    rw [removals_leaf, simplify_leaf, foldM]
    exact logs_pure _ log
  | node o left right ihl ihr =>
    rw [removals_node, simplify_node, foldM, List.append_assoc]
    apply (ihl log).bind
    intro log
    apply (ihr log).bind
    intro log
    exact logs_tryContractM ..

theorem trySimplification_eq (t : Tree) : t.trySimplification =
    if ∀ removal ∈ t.removals, removal.Short then
      (.ok t.simplify, (t.removals.map Removal.log).toArray)
    else
      (.error .unwritable, ((t.removals.takeWhile (·.Short)).map Removal.log).toArray) := by
  rw [trySimplification, walkM_eq_foldM]
  cases logs_foldM t #[] with
  | returned short run =>
    rw [run, if_pos short, Array.empty_append]
  | @raised before after removal split short long run =>
    have hm : removal ∈ t.removals := by
      rw [split]
      exact List.mem_append_right _ List.mem_cons_self
    have hlong : ¬ ∀ removal ∈ t.removals, removal.Short := fun hs => long (hs removal hm)
    have htaken : t.removals.takeWhile (·.Short) = before := by
      rw [split, List.takeWhile_append_of_pos (by simpa using short),
        List.takeWhile_cons_of_neg (by simpa using long), List.append_nil]
    rw [run, if_neg hlong, htaken, Array.empty_append]

theorem short_of_contract {o : Operator} {left right : Tree} {removal : Removal}
    (h : (contract o left right).2 = some removal) (hl : left.Short) (hr : right.Short) :
    removal.Short := by
  rw [contract] at h
  split at h
  · rename_i side _
    cases h
    refine ⟨short_node_iff.mpr ⟨hl, hr⟩, ?_⟩
    cases side with
    | left => exact hl
    | right => exact hr
  · cases h

theorem short_of_mem_removals (h : t.Short) : ∀ removal ∈ t.removals, removal.Short := by
  induction t with
  | leaf l =>
    rw [removals_leaf]
    exact List.forall_mem_nil _
  | node o left right ihl ihr =>
    obtain ⟨hl, hr⟩ := short_node_iff.mp h
    rw [removals_node]
    refine List.forall_mem_append.mpr
      ⟨List.forall_mem_append.mpr ⟨ihl hl, ihr hr⟩, fun removal hm => ?_⟩
    exact short_of_contract (Option.mem_toList.mp hm) (hl.mono (numbers_simplify left))
      (hr.mono (numbers_simplify right))

theorem trySimplification_of_short (h : t.Short) :
    t.trySimplification = (.ok t.simplify, (t.removals.map Removal.log).toArray) := by
  rw [trySimplification_eq, if_pos (short_of_mem_removals h)]

end Logging

end Tree

namespace EvaluationError

def reported (error : EvaluationError) : Raised :=
  match error.diagnostic? with
  | some diagnostic => .diagnostic diagnostic
  | none => .absentOperand

def Short : EvaluationError → Prop
  | zeroDivisor o left right => (Tree.node o left right).Short
  | _ => True

theorem text_reported (error : EvaluationError) : error.reported.text = error.text := by
  rw [reported, text]
  cases error.diagnostic? with
  | some diagnostic => rfl
  | none => rfl

theorem raised_of_short {error : EvaluationError} (h : error.Short) :
    error.raised = error.reported := by
  cases error with
  | zeroDivisor o left right =>
    have hr : (Tree.node o left right).tryRender = _ := Tree.tryRender_of_short h
    rw [raised, hr]
    rfl
  | absentOperand => rfl
  | identifierWithoutValue name place => rfl
  | unknownOperator o => rfl

end EvaluationError

namespace Tree

section Evaluation

variable {α : Type} {arithmetic : Arithmetic α} {t : Tree} {value : α} {error : EvaluationError}
variable {raised : Raised}

theorem short_of_leafValue {l : Leaf} (h : arithmetic.leafValue l = .error error) : error.Short := by
  cases l with
  | absent =>
    cases h
    trivial
  | number value place => cases h
  | identifier name place =>
    cases h
    trivial

theorem short_of_operate {o : Operator} {left right : Tree} {a b : α}
    (hs : (node o left right).Short) (h : arithmetic.operate o left right a b = .error error) :
    error.Short := by
  rw [Arithmetic.operate] at h
  split_ifs at h
  · cases h
    exact hs
  · cases h
    trivial

-- The quotient that is reported stands in the tree, so it has no other numbers.
theorem short_of_evaluate (hs : t.Short) (h : t.evaluate arithmetic = .error error) :
    error.Short := by
  induction t with
  | leaf l =>
    rw [evaluate_leaf] at h
    exact short_of_leafValue h
  | node o left right ihl ihr =>
    obtain ⟨hl, hr⟩ := short_node_iff.mp hs
    rw [evaluate_node] at h
    cases ha : left.evaluate arithmetic with
    | error error' =>
      rw [ha] at h
      cases h
      exact ihl hl ha
    | ok a =>
      cases hb : right.evaluate arithmetic with
      | error error' =>
        rw [ha, hb] at h
        cases h
        exact ihr hr hb
      | ok b =>
        rw [ha, hb] at h
        exact short_of_operate hs h

theorem tryEvaluate_of_short (h : t.Short) :
    t.tryEvaluate arithmetic = (t.evaluate arithmetic).mapError EvaluationError.reported := by
  rw [tryEvaluate]
  cases he : t.evaluate arithmetic with
  | ok value => rfl
  | error error =>
    exact congrArg Except.error (EvaluationError.raised_of_short (short_of_evaluate h he))

end Evaluation

section Charts

variable {t : Tree} {entry : Entry} {raised : Raised}

theorem tryChart_leaf (l : Leaf) : (leaf l).tryChart = l.tryEntry := by
  rw [tryChart, walkM_eq_foldM, foldM]

theorem tryChart_node (o : Operator) (left right : Tree) :
    (node o left right).tryChart =
      left.tryChart >>= fun a => right.tryChart >>= fun b => .ok (.branch o.symbol a b) := by
  simp only [tryChart, walkM_eq_foldM, foldM]

theorem tryChart_of_short (h : t.Short) :
    t.tryChart = match t.chart? with
      | some entry => .ok entry
      | none => .error .absentOperand := by
  induction t with
  | leaf l =>
    rw [tryChart_leaf, chart?_leaf]
    cases l with
    | absent => rfl
    | number value place =>
      rw [Leaf.tryEntry, Numeral.write_of_short (short_number_iff.mp h)]
      rfl
    | identifier name place => rfl
  | node o left right ihl ihr =>
    obtain ⟨hl, hr⟩ := short_node_iff.mp h
    rw [tryChart_node, chart?_node, ihl hl, ihr hr]
    cases left.chart? with
    | none => rfl
    | some a =>
      cases right.chart? with
      | none => rfl
      | some b => rfl

theorem short_of_tryChart (h : t.tryChart = .ok entry) : t.Short := by
  induction t generalizing entry with
  | leaf l =>
    cases l with
    | absent => exact short_absent
    | identifier name place => exact short_identifier
    | number value place =>
      apply short_number_iff.mpr
      apply Classical.byContradiction
      intro hl
      rw [tryChart_leaf, Leaf.tryEntry, Numeral.write_of_long hl] at h
      cases h
  | node o left right ihl ihr =>
    rw [tryChart_node] at h
    cases ha : left.tryChart with
    | error raised =>
      rw [ha] at h
      cases h
    | ok a =>
      cases hb : right.tryChart with
      | error raised =>
        rw [ha, hb] at h
        cases h
      | ok b => exact short_node_iff.mpr ⟨ihl ha, ihr hb⟩

theorem tryChart_eq_ok_iff : t.tryChart = .ok entry ↔ t.Short ∧ t.chart? = some entry := by
  constructor
  · intro h
    have hs := short_of_tryChart h
    rw [tryChart_of_short hs] at h
    cases hc : t.chart? with
    | none =>
      rw [hc] at h
      cases h
    | some entry' =>
      rw [hc] at h
      cases h
      exact ⟨hs, rfl⟩
  · rintro ⟨hs, hc⟩
    rw [tryChart_of_short hs, hc]

end Charts

end Tree

end Calculator
