import Calculator.Proofs.Endings
import Calculator.Proofs.Failures
import Calculator.Proofs.ShortNumbers

namespace Calculator

open Grammar

variable {tokens rest : List Token} {failure : Failure} {opened : Nat}

def Token.Short (tokens : List Token) : Prop := ∀ token ∈ tokens, token.lexeme.Short

theorem Token.tryEcho_of_short (h : Token.Short tokens) : tryEcho tokens = .ok (echo tokens) := by
  have hm : (tokens.mapM fun (token : Token) => token.lexeme.write) = .ok (tokens.map Token.text) := by
    induction tokens with
    | nil => rfl
    | cons token later ih =>
      obtain ⟨ht, hl⟩ := List.forall_mem_cons.mp h
      rw [List.mapM_cons, Lexeme.write_of_short ht, ih hl]
      rfl
  rw [tryEcho, hm]
  rfl

theorem Fault.tryMessage_of_short {fault : Fault} (h : ∀ lexeme ∈ fault.found?, lexeme.Short) :
    fault.tryMessage = .ok fault.message := by
  cases fault with
  | unexpectedToken found wanted =>
    rw [tryMessage, Lexeme.write_of_short (h found rfl)]
    rfl
  | trailingToken found =>
    rw [tryMessage, Lexeme.write_of_short (h found rfl)]
    rfl
  | unexpectedEnd wanted => rfl
  | nestingTooDeep => rfl

theorem tryPositionAt_of_short (h : Token.Short tokens) (rest : List Token) :
    tryPositionAt tokens rest = .ok (positionAt tokens rest) := by
  cases rest with
  | cons token later => rfl
  | nil =>
    rw [tryPositionAt, tryEndPosition, positionAt, endPosition]
    cases hl : tokens.getLast? with
    | none => rfl
    | some last =>
      have hs := h last (List.mem_of_getLast? hl)
      simp only [Lexeme.write_of_short hs]
      rfl

namespace Failure

def reported (tokens : List Token) (failure : Failure) : Raised :=
  .diagnostic (failure.diagnostic tokens)

-- The token that is named is one of those that the reader was given.
theorem raised_of_short (h : Token.Short tokens) (hw : failure.Within opened rest)
    (hrest : rest <:+ tokens) : failure.raised tokens = failure.reported tokens := by
  have hfault : failure.fault.tryMessage = .ok failure.fault.message := by
    apply Fault.tryMessage_of_short
    intro lexeme hl
    obtain ⟨place, later, hr⟩ := hw.named lexeme hl
    apply h ⟨lexeme, place⟩
    apply (hw.behind.trans hrest).subset
    rw [hr]
    exact List.mem_cons_self
  rw [raised, tryDiagnostic, hfault, tryPositionAt_of_short h]
  rfl

end Failure

namespace Tree

variable {t : Tree} {depth : Nat}

theorem tryParse_of_short (h : Token.Short tokens) :
    tryParse tokens = (parse tokens).mapError (Failure.reported tokens) := by
  rw [tryParse]
  cases hp : parse tokens with
  | ok tree => rfl
  | error failure =>
    have hw : failure.Within 0 tokens := whole_failsWithin (Nat.zero_add _) hp
    exact congrArg Except.error (Failure.raised_of_short h hw List.suffix_rfl)

theorem tryParseFirst_of_short (h : Token.Short tokens) :
    tryParseFirst tokens = (parseFirst tokens).mapError (Failure.reported tokens) := by
  rw [tryParseFirst, parseFirst]
  cases hp : (builder.expression maxNesting tokens).run with
  | ok parsed => rfl
  | error failure =>
    have hw : failure.Within 0 tokens := expression_failsWithin (Nat.zero_add _) tokens failure hp
    exact congrArg Except.error (Failure.raised_of_short h hw List.suffix_rfl)

theorem short_of_inside (h : Inside depth tokens t) : Token.Short tokens → t.Short := by
  refine inside_induction (motive := fun tokens t => Token.Short tokens → t.Short) ?_ ?_ ?_ ?_ h
  · intro value place hs
    exact short_number_iff.mpr (hs _ (List.mem_singleton.mpr rfl))
  · intro name place _
    exact short_identifier
  · intro tokens t opening closing ih hs
    exact ih fun token hm => hs token (List.mem_append_left _ (List.mem_cons_of_mem _ hm))
  · intro before after left right symbol place _ ihl ihr hs
    apply short_node_iff.mpr
    constructor
    · exact ihl fun token hm => hs token (List.mem_append_left _ hm)
    · exact ihr fun token hm => hs token (List.mem_append_right _ (List.mem_cons_of_mem _ hm))

theorem short_of_parse (h : Token.Short tokens) (hp : parse tokens = .ok t) : t.Short :=
  short_of_inside (inside_of_parse hp) h

end Tree

theorem Numeral.short_of_length {value : Int} (h : (toString value).length ≤ maxDigits) :
    Short value := by
  rw [← String.length_toList, toList_toString] at h
  split at h
  · exact Nat.le_of_succ_le h
  · exact h

theorem short_of_scan {text : String} (h : (Scan.ofText text).result = .ok tokens) :
    Token.Short tokens := by
  rintro ⟨lexeme, place⟩ hm
  cases lexeme with
  | number value =>
    exact Numeral.short_of_length (writable_of_scan h value place hm)
  | identifier name => trivial
  | symbol symbol => trivial
  | ending => trivial

theorem line_written {text : String} (h : (Scan.ofText text).result = .ok tokens) :
    Token.tryEcho tokens = .ok (Token.echo tokens) ∧
    Tree.tryParse tokens = (Tree.parse tokens).mapError (Failure.reported tokens) ∧
    ∀ tree, Tree.parse tokens = .ok tree →
      tree.tryRender = .ok tree.render ∧
      tree.trySimplification = (.ok tree.simplify, (tree.removals.map Removal.log).toArray) ∧
      tree.simplify.tryRender = .ok tree.simplify.render ∧
      tree.simplify.tryEvaluate .double =
        (tree.simplify.evaluate .double).mapError EvaluationError.reported ∧
      ∀ entry, tree.simplify.tryChart = .ok entry ↔ tree.simplify.chart? = some entry := by
  have hs := short_of_scan h
  refine ⟨Token.tryEcho_of_short hs, Tree.tryParse_of_short hs, fun tree hp => ?_⟩
  have ht := Tree.short_of_parse hs hp
  have hsimplified := ht.mono (Tree.numbers_simplify tree)
  refine ⟨Tree.tryRender_of_short ht, Tree.trySimplification_of_short ht,
    Tree.tryRender_of_short hsimplified, Tree.tryEvaluate_of_short hsimplified, fun entry => ?_⟩
  rw [Tree.tryChart_eq_ok_iff, and_iff_right hsimplified]

end Calculator
