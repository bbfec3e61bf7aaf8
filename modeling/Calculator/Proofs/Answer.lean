import Calculator.Dialogue
import Calculator.Proofs.Places
import Mathlib.Tactic.SplitIfs

namespace Calculator

namespace EvaluationError

def unplaced : EvaluationError → EvaluationError
  | absentOperand => absentOperand
  | identifierWithoutValue name _ => identifierWithoutValue name .start
  | zeroDivisor o left right => zeroDivisor o.unplaced left.unplaced right.unplaced
  | unknownOperator o => unknownOperator o.unplaced

def message? (error : EvaluationError) : Option String := error.diagnostic?.map Diagnostic.message

end EvaluationError

section Value

variable {α : Type} (arithmetic : Arithmetic α)

theorem leafValue_unplaced (l : Leaf) : arithmetic.leafValue l.unplaced =
    (arithmetic.leafValue l).mapError EvaluationError.unplaced := by
  cases l <;> rfl

theorem operate_unplaced (o : Operator) (left right : Tree) (a b : α) :
    arithmetic.operate o.unplaced left.unplaced right.unplaced a b =
      (arithmetic.operate o left right a b).mapError EvaluationError.unplaced := by
  have hs : o.unplaced.symbol = o.symbol := rfl
  rw [Arithmetic.operate, Arithmetic.operate, hs]
  split_ifs <;> rfl

end Value

namespace Tree

variable {α : Type} (arithmetic : Arithmetic α)

theorem evaluate_unplaced (t : Tree) : t.unplaced.evaluate arithmetic =
    (t.evaluate arithmetic).mapError EvaluationError.unplaced := by
  induction t with
  | leaf l =>
    rw [unplaced, evaluate_leaf, evaluate_leaf]
    exact leafValue_unplaced arithmetic l
  | node o left right ihl ihr =>
    rw [unplaced, evaluate_node, evaluate_node, ihl, ihr]
    cases left.evaluate arithmetic with
    | error error => rfl
    | ok a =>
      cases right.evaluate arithmetic with
      | error error => rfl
      | ok b => exact operate_unplaced arithmetic o left right a b

theorem isNumerical_unplaced (t : Tree) : t.unplaced.isNumerical = t.isNumerical := by
  induction t with
  | leaf l =>
    rw [unplaced, isNumerical_leaf, isNumerical_leaf]
    cases l <;> rfl
  | node o left right ihl ihr => rw [unplaced, isNumerical_node, isNumerical_node, ihl, ihr]

theorem render_unplaced (t : Tree) : t.unplaced.render = t.render := by
  rw [render_eq, render_eq, fragments_unplaced]

end Tree

theorem message?_unplaced (error : EvaluationError) : error.unplaced.message? = error.message? := by
  cases error with
  | zeroDivisor o left right =>
    have hr := Tree.render_unplaced (.node o left right)
    simp only [EvaluationError.message?, EvaluationError.unplaced, EvaluationError.diagnostic?]
    rw [← hr]
    rfl
  | absentOperand => rfl
  | identifierWithoutValue name place => rfl
  | unknownOperator o => rfl

theorem echo_withoutPlaces (tokens : List Token) :
    Token.echo (withoutPlaces tokens) = Token.echo tokens := by
  rw [Token.echo, withoutPlaces, List.map_map]
  rfl

namespace Reply

def answer (tokens : List Token) : Except EvaluationError (List String) :=
  match Tree.parse tokens with
  | .error _ => .ok [Token.echo tokens, notAnExpression]
  | .ok tree => (valueOf tree tree.simplify).map fun line =>
      [Token.echo tokens, writtenLine tree, line, simplifiedLine tree.simplify]

variable {text : String} {tokens tokens' : List Token}

theorem answer_of_failure {failure : Failure} (h : Tree.parse tokens = .error failure) :
    answer tokens = .ok [Token.echo tokens, notAnExpression] := by
  rw [answer, h]

theorem answer_of_line {tree : Tree} {line : String} (h : Tree.parse tokens = .ok tree)
    (hv : valueOf tree tree.simplify = .ok line) : answer tokens =
      .ok [Token.echo tokens, writtenLine tree, line, simplifiedLine tree.simplify] := by
  simp only [answer, h, hv]
  rfl

theorem answer_of_no_value {tree : Tree} {error : EvaluationError}
    (h : Tree.parse tokens = .ok tree) (hv : valueOf tree tree.simplify = .error error) :
    answer tokens = .error error := by
  simp only [answer, h, hv]
  rfl

theorem toTokens_run (tokens : List Token) : (toTokens Tree.workspace tokens).run =
    match Tree.parse tokens with
    | .error _ => ⟨tokens, [], .ok [Token.echo tokens, notAnExpression], none⟩
    | .ok tree =>
      match valueOf tree tree.simplify with
      | .error error => ⟨tokens, tree.removals, .error (.evaluation error), none⟩
      | .ok line => ⟨tokens, tree.removals, .ok [Token.echo tokens, writtenLine tree, line,
          simplifiedLine tree.simplify], some tree.simplify⟩ := by
  have hw : Tree.workspace.whole maxNesting tokens = pure (Tree.parse tokens) := rfl
  simp only [toTokens, hw, pure_bind]
  cases Tree.parse tokens with
  | error failure => rfl
  | ok tree =>
    have hs : Tree.workspace.simplify tree = pure tree.simplify := rfl
    have hv (tree : Tree) : Tree.workspace.view tree = pure tree := rfl
    simp only [toExpression, hv, hs, pure_bind]
    cases valueOf tree tree.simplify <;> rfl

theorem toTokens_outcome (tokens : List Token) :
    (toTokens Tree.workspace tokens).run.outcome = (answer tokens).mapError .evaluation := by
  rw [toTokens_run, answer]
  cases Tree.parse tokens with
  | error failure => rfl
  | ok tree =>
    dsimp only
    cases valueOf tree tree.simplify <;> rfl

theorem outcome_of_error {error : Numeral.Error}
    (h : (Scan.ofText text).result = .error error) :
    (reply text).outcome = .error (.numeral error) := by
  rw [reply, toText]
  cases hf : (Scan.ofText text).failure with
  | none =>
    rw [Scan.result, hf] at h
    cases h
  | some error' =>
    rw [Scan.result, hf] at h
    cases h
    rfl

theorem outcome_of_ok (h : (Scan.ofText text).result = .ok tokens) :
    (reply text).outcome = (answer tokens).mapError .evaluation := by
  rw [reply, toText]
  cases hf : (Scan.ofText text).failure with
  | none =>
    rw [Scan.result, hf] at h
    cases h
    exact toTokens_outcome _
  | some error =>
    rw [Scan.result, hf] at h
    cases h

theorem outcome_eq_ok_iff {lines : List String} (h : (Scan.ofText text).result = .ok tokens) :
    (reply text).outcome = .ok lines ↔ answer tokens = .ok lines := by
  rw [outcome_of_ok h]
  cases answer tokens with
  | ok found => constructor <;> intro he <;> cases he <;> rfl
  | error error => constructor <;> intro he <;> cases he

theorem outcome_of_answer_error {error : EvaluationError}
    (h : (Scan.ofText text).result = .ok tokens) (ha : answer tokens = .error error) :
    (reply text).outcome = .error (.evaluation error) := by
  rw [outcome_of_ok h, ha]
  rfl

theorem valueOf_numerical {tree : Tree} (hn : tree.isNumerical = true) (simplified : Tree) :
    valueOf tree simplified = (simplified.evaluate .double).map valueLine := by
  rw [valueOf, hn]
  rfl

theorem valueOf_not_numerical {tree : Tree} (hn : tree.isNumerical = false) (simplified : Tree) :
    valueOf tree simplified = .ok notNumerical := by
  rw [valueOf, hn]
  rfl

theorem value_ne_notNumerical (shown : String) : "the value is " ++ shown ≠ notNumerical := by
  intro h
  have hl : "the value is ".toList ++ shown.toList = notNumerical.toList := by
    rw [← String.toList_append]
    exact congrArg String.toList h
  have ht := congrArg (List.take 3) hl
  rw [List.take_append_of_le_length (by decide)] at ht
  exact absurd ht (by decide)

theorem isNumerical_of_value {tree simplified : Tree} {shown : String}
    (h : valueOf tree simplified = .ok ("the value is " ++ shown)) : tree.isNumerical = true := by
  cases hn : tree.isNumerical with
  | true => rfl
  | false =>
    rw [valueOf_not_numerical hn] at h
    exact absurd (Except.ok.inj h).symm (value_ne_notNumerical shown)

theorem valueOf_unplaced (tree simplified : Tree) : valueOf tree.unplaced simplified.unplaced =
    (valueOf tree simplified).mapError EvaluationError.unplaced := by
  rw [valueOf, valueOf, Tree.isNumerical_unplaced, Tree.evaluate_unplaced]
  cases tree.isNumerical with
  | false => rfl
  | true => cases simplified.evaluate .double <;> rfl

theorem answer_withoutPlaces (tokens : List Token) :
    answer (withoutPlaces tokens) = (answer tokens).mapError EvaluationError.unplaced := by
  rw [answer, answer, Tree.parse_withoutPlaces, echo_withoutPlaces]
  cases Tree.parse tokens with
  | error failure => rfl
  | ok tree =>
    have hw : writtenLine tree.unplaced = writtenLine tree :=
      congrArg ("in infix notation: " ++ ·) (Tree.render_unplaced tree)
    have hs : simplifiedLine tree.simplify.unplaced = simplifiedLine tree.simplify :=
      congrArg ("simplified: " ++ ·) (Tree.render_unplaced tree.simplify)
    simp only [Tree.simplify_unplaced, valueOf_unplaced, hw, hs]
    cases valueOf tree tree.simplify <;> rfl

theorem answer_of_lexemes (h : tokens.map Token.lexeme = tokens'.map Token.lexeme) :
    (answer tokens).mapError EvaluationError.message? =
      (answer tokens').mapError EvaluationError.message? := by
  have hm (tokens : List Token) : (answer tokens).mapError EvaluationError.message? =
      (answer (withoutPlaces tokens)).mapError EvaluationError.message? := by
    rw [answer_withoutPlaces]
    cases answer tokens with
    | ok lines => rfl
    | error error => exact congrArg Except.error (message?_unplaced error).symm
  rw [hm, hm tokens', withoutPlaces_eq_of_lexemes h]

end Reply

end Calculator
