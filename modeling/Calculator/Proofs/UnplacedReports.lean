import Calculator.Proofs.Answer
import Calculator.Proofs.ShortNumbers

namespace Calculator

def Removal.unplaced (removal : Removal) : Removal :=
  ⟨removal.before.unplaced, removal.after.unplaced⟩

theorem Removal.log_unplaced (removal : Removal) : removal.unplaced.log = removal.log := by
  rw [log, log, unplaced, Tree.render_unplaced, Tree.render_unplaced]

def EvaluationError.report? (error : EvaluationError) : Option (Stage × String) :=
  error.diagnostic?.map fun diagnostic => (diagnostic.stage, diagnostic.message)

theorem EvaluationError.report?_unplaced (error : EvaluationError) :
    error.unplaced.report? = error.report? := by
  have hm (error : EvaluationError) :
      error.report? = error.message?.map fun message => (.evaluation, message) := by
    cases error <;> rfl
  rw [hm, hm, message?_unplaced]

def Raised.unplaced : Raised → Raised
  | diagnostic report => diagnostic ⟨report.stage, .start, report.message⟩
  | raised => raised

namespace Tree

variable {t u : Tree}

theorem Alike.same {β : Sort*} (h : Alike t u) (f : Tree → β) (hf : ∀ t, f t.unplaced = f t) :
    f t = f u := by
  rw [← hf t, h, hf]

theorem removals_unplaced (t : Tree) : t.unplaced.removals = t.removals.map Removal.unplaced :=
  keepsRules_unplaced.removals_eq (fun l => simplify_leaf l.unplaced)
    (fun l => removals_leaf l.unplaced) t

theorem log_unplaced (t : Tree) :
    t.unplaced.removals.map Removal.log = t.removals.map Removal.log := by
  rw [removals_unplaced, List.map_map]
  exact List.map_congr_left fun removal _ => removal.log_unplaced

theorem chart?_unplaced (t : Tree) : t.unplaced.chart? = t.chart? := by
  induction t with
  | leaf l =>
    rw [unplaced, chart?_leaf, chart?_leaf]
    cases l <;> rfl
  | node o left right ihl ihr =>
    rw [unplaced, chart?_node, chart?_node, ihl, ihr]
    rfl

theorem report_unplaced {α : Type} (arithmetic : Arithmetic α) (t : Tree) :
    (t.unplaced.evaluate arithmetic).mapError EvaluationError.report? =
      (t.evaluate arithmetic).mapError EvaluationError.report? := by
  rw [evaluate_unplaced]
  cases t.evaluate arithmetic with
  | ok value => rfl
  | error error => exact congrArg Except.error error.report?_unplaced

theorem numbers_unplaced (t : Tree) : t.unplaced.numbers = t.numbers := by
  induction t with
  | leaf l => exact congrArg Option.toList (literal?_unplaced (leaf l))
  | node o left right ihl ihr => rw [unplaced, numbers, numbers, ihl, ihr]

theorem short_unplaced_iff : t.unplaced.Short ↔ t.Short := by
  rw [Short, Short, numbers_unplaced]

theorem tryRender_unplaced (t : Tree) : t.unplaced.tryRender = t.tryRender := by
  rw [tryRender_eq, tryRender_eq, render_unplaced]
  simp only [short_unplaced_iff]

theorem tryChart_unplaced (t : Tree) : t.unplaced.tryChart = t.tryChart := by
  induction t with
  | leaf l =>
    rw [unplaced, tryChart_leaf, tryChart_leaf]
    cases l <;> rfl
  | node o left right ihl ihr =>
    rw [unplaced, tryChart_node, tryChart_node, ihl, ihr]
    rfl

end Tree

theorem Removal.short_unplaced_iff {removal : Removal} : removal.unplaced.Short ↔ removal.Short :=
  and_congr Tree.short_unplaced_iff Tree.short_unplaced_iff

theorem EvaluationError.raised_unplaced (error : EvaluationError) :
    error.unplaced.raised.unplaced = error.raised.unplaced := by
  cases error with
  | zeroDivisor o left right =>
    have hr := Tree.tryRender_unplaced (.node o left right)
    rw [Tree.unplaced] at hr
    rw [unplaced, raised, raised, hr]
    cases (Tree.node o left right).tryRender with
    | ok quotient => rfl
    | error raised => rfl
  | absentOperand => rfl
  | identifierWithoutValue name place => rfl
  | unknownOperator o => rfl

namespace Tree

variable {t u : Tree}

theorem tryEvaluate_unplaced {α : Type} (arithmetic : Arithmetic α) (t : Tree) :
    (t.unplaced.tryEvaluate arithmetic).mapError Raised.unplaced =
      (t.tryEvaluate arithmetic).mapError Raised.unplaced := by
  rw [tryEvaluate, tryEvaluate, evaluate_unplaced]
  cases t.evaluate arithmetic with
  | ok value => rfl
  | error error => exact congrArg Except.error error.raised_unplaced

theorem trySimplification_unplaced (t : Tree) : t.unplaced.trySimplification =
    (t.trySimplification.1.map unplaced, t.trySimplification.2) := by
  have hlog : Removal.log ∘ Removal.unplaced = Removal.log := funext Removal.log_unplaced
  have hshort : (fun removal : Removal => decide removal.Short) ∘ Removal.unplaced =
      fun removal => decide removal.Short :=
    funext fun removal => decide_eq_decide.mpr Removal.short_unplaced_iff
  rw [trySimplification_eq, trySimplification_eq, removals_unplaced, simplify_unplaced]
  simp only [List.forall_mem_map, Removal.short_unplaced_iff]
  split_ifs with h
  · rw [List.map_map, hlog]
    rfl
  · rw [List.takeWhile_map, hshort, List.map_map, hlog]
    rfl

structure RaisesAlike (t u : Tree) : Prop where
  written : t.tryRender = u.tryRender
  charted : t.tryChart = u.tryChart
  simplified : t.trySimplify.map unplaced = u.trySimplify.map unplaced
  logged : t.trySimplifyLog = u.trySimplifyLog
  evaluated : ∀ (α : Type) (arithmetic : Arithmetic α),
    (t.tryEvaluate arithmetic).mapError Raised.unplaced =
      (u.tryEvaluate arithmetic).mapError Raised.unplaced

theorem Alike.raisesAlike (h : Alike t u) : RaisesAlike t u := by
  have hs : (t.trySimplification.1.map unplaced, t.trySimplification.2) =
      (u.trySimplification.1.map unplaced, u.trySimplification.2) := by
    rw [← trySimplification_unplaced, ← trySimplification_unplaced, h]
  obtain ⟨hsimplified, hlogged⟩ := Prod.mk.inj hs
  exact {
    written := h.same tryRender tryRender_unplaced
    charted := h.same tryChart tryChart_unplaced
    simplified := hsimplified
    logged := congrArg Array.toList hlogged
    evaluated := fun α arithmetic =>
      h.same (fun t => (t.tryEvaluate arithmetic).mapError Raised.unplaced)
        (tryEvaluate_unplaced arithmetic) }

end Tree

theorem tryPositionAt_withoutPlaces (tokens rest : List Token) :
    (tryPositionAt (withoutPlaces tokens) (withoutPlaces rest)).map (fun _ => ()) =
      (tryPositionAt tokens rest).map fun _ => () := by
  cases rest with
  | cons token later => rfl
  | nil =>
    have hn : withoutPlaces [] = [] := rfl
    have hl : (withoutPlaces tokens).getLast? = tokens.getLast?.map Token.unplaced :=
      List.getLast?_map
    rw [hn, tryPositionAt, tryPositionAt, tryEndPosition, tryEndPosition, hl]
    cases tokens.getLast? with
    | none => rfl
    | some last =>
      simp only [Option.map_some, Token.unplaced]
      cases last.lexeme.write with
      | ok text => rfl
      | error raised => rfl

theorem Failure.raised_unplaced (tokens : List Token) (failure : Failure) :
    (failure.unplaced.raised (withoutPlaces tokens)).unplaced = (failure.raised tokens).unplaced := by
  have hp := tryPositionAt_withoutPlaces tokens failure.rest
  rw [raised, raised, tryDiagnostic, tryDiagnostic, unplaced]
  cases failure.fault.tryMessage with
  | error raised => rfl
  | ok message =>
    generalize tryPositionAt (withoutPlaces tokens) (withoutPlaces failure.rest) = found at hp ⊢
    generalize tryPositionAt tokens failure.rest = found' at hp ⊢
    cases found with
    | ok position =>
      cases found' with
      | ok position' => rfl
      | error raised => cases hp
    | error raised =>
      cases found' with
      | ok position' => cases hp
      | error raised' =>
        cases hp
        rfl

namespace Tree

theorem tryParse_withoutPlaces (tokens : List Token) :
    (tryParse (withoutPlaces tokens)).mapError Raised.unplaced =
      ((tryParse tokens).map unplaced).mapError Raised.unplaced := by
  rw [tryParse, tryParse, parse_withoutPlaces]
  cases parse tokens with
  | ok tree => rfl
  | error failure => exact congrArg Except.error (failure.raised_unplaced tokens)

theorem tryParseFirst_withoutPlaces (tokens : List Token) :
    (tryParseFirst (withoutPlaces tokens)).mapError Raised.unplaced =
      ((tryParseFirst tokens).map (Prod.map unplaced withoutPlaces)).mapError Raised.unplaced := by
  have hp : parseFirst (withoutPlaces tokens) = Reader.unplacedResult (parseFirst tokens) :=
    expression_placeless maxNesting tokens
  rw [tryParseFirst, tryParseFirst, hp]
  cases parseFirst tokens with
  | ok parsed => rfl
  | error failure => exact congrArg Except.error (failure.raised_unplaced tokens)

end Tree

end Calculator
