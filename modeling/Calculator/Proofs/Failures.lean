import Calculator.Proofs.ViablePrefix

namespace Calculator

def Fault.found? : Fault → Option Lexeme
  | .unexpectedToken found _ => some found
  | .trailingToken found => some found
  | _ => none

structure Failure.Within (opened : Nat) (tokens : List Token) (failure : Failure) : Prop where
  raised : opened ≤ failure.nesting
  limited : failure.nesting ≤ maxNesting
  behind : failure.rest <:+ tokens
  atEnd : failure.rest = [] ↔ ∃ wanted, failure.fault = .unexpectedEnd wanted
  named : ∀ lexeme ∈ failure.fault.found?, ∃ place later, failure.rest = ⟨lexeme, place⟩ :: later

def Reader.FailsWithin (read : Reader Id Tree) (opened : Nat) : Prop :=
  ∀ tokens failure, read.Fails tokens failure → failure.Within opened tokens

namespace Failure

variable {opened opened' : Nat} {tokens tokens' : List Token} {failure : Failure} {fault : Fault}

theorem Within.mono (h : failure.Within opened' tokens') (ho : opened ≤ opened')
    (ht : tokens' <:+ tokens) : failure.Within opened tokens :=
  ⟨Nat.le_trans ho h.raised, h.limited, h.behind.trans ht, h.atEnd, h.named⟩

theorem within_at_end (ho : opened ≤ maxNesting) (wanted : Wanted) (tokens : List Token) :
    (⟨.unexpectedEnd wanted, [], opened⟩ : Failure).Within opened tokens :=
  ⟨Nat.le_refl _, ho, List.nil_suffix, by simp, by simp [Fault.found?]⟩

theorem within_at_token (ho : opened ≤ maxNesting) (hf : ∀ wanted, fault ≠ .unexpectedEnd wanted)
    {token : Token} (hn : ∀ lexeme ∈ fault.found?, lexeme = token.lexeme) (rest : List Token) :
    (⟨fault, token :: rest, opened⟩ : Failure).Within opened (token :: rest) where
  raised := Nat.le_refl _
  limited := ho
  behind := List.suffix_rfl
  atEnd := by simp [hf]
  named := by
    intro lexeme hl
    cases hn lexeme hl
    exact ⟨token.position, rest, rfl⟩

end Failure

namespace Tree

open Reader Failure Grammar

variable {opened depth : Nat} {tokens rest : List Token} {failure : Failure}

theorem leftChain_failsWithin (symbols : List String) {follow : List String}
    {operand : Reader Id Tree} {phrase : Phrase} (h : operand.Recognizes follow phrase)
    (hw : operand.FailsWithin opened) : FailsWithin (builder.leftChain symbols operand) opened := by
  intro tokens failure hf
  rcases leftChain_fails_cases h hf with hf | ⟨taken, tree, symbol, place, rest, rfl, -, -, hf⟩
  · exact hw _ _ hf
  · exact (hw _ _ hf).mono (Nat.le_refl _) ((List.suffix_cons _ _).trans (List.suffix_append _ _))

theorem unclosed_within (ho : opened ≤ maxNesting) (rest : List Token) :
    (unclosed opened rest).Within opened rest := by
  cases rest with
  | nil => exact within_at_end ho .closing []
  | cons close after => exact within_at_token ho (by simp) (by simp [Fault.found?]) after

theorem parentheses_failsWithin {place : Position} (ho : opened ≤ maxNesting)
    (hw : FailsWithin (builder.expression depth) (opened + 1))
    (hf : Fails (builder.factor opened (some (builder.expression depth)))
      (⟨.symbol "(", place⟩ :: tokens) failure) :
    failure.Within opened (⟨.symbol "(", place⟩ :: tokens) := by
  have hbehind : tokens <:+ ⟨.symbol "(", place⟩ :: tokens := List.suffix_cons _ _
  rcases (builder.expression depth).reads_or_fails tokens with ⟨tree, tail, hr⟩ | ⟨failure', hi⟩
  · by_cases hb : Begins [")"] tail
    · obtain ⟨symbol, closing, after, mem, rfl⟩ := hb
      cases List.mem_singleton.mp mem
      exact absurd hf (factor_parentheses opened place hr).not_fails
    · cases (factor_unclosed opened place hr hb).symm.trans hf
      obtain ⟨taken, rfl, -, -⟩ := (expression_recognizes_expression depth).sound hr
      exact (unclosed_within ho tail).mono (Nat.le_refl _) ((List.suffix_append _ _).trans hbehind)
  · cases (factor_inner_fails opened place hi).symm.trans hf
    exact (hw _ _ hi).mono (Nat.le_succ _) hbehind

theorem factor_failsWithin (ho : opened ≤ maxNesting)
    (hw : ∀ read ∈ builder.inner? depth, read.FailsWithin (opened + 1)) :
    FailsWithin (builder.factor opened (builder.inner? depth)) opened := by
  intro tokens failure hf
  cases tokens with
  | nil =>
    cases hf
    exact within_at_end ho .factor []
  | cons token later =>
    obtain ⟨lexeme, place⟩ := token
    cases lexeme with
    | number value => exact absurd hf (factor_number value).not_fails
    | identifier name => exact absurd hf (factor_identifier name).not_fails
    | ending =>
      cases hf
      exact within_at_token ho (by simp) (by simp [Fault.found?]) later
    | symbol symbol =>
      by_cases hs : symbol = "("
      · subst hs
        cases depth with
        | zero =>
          cases (factor_too_deep opened place later).symm.trans hf
          exact within_at_token ho (by simp) (by simp [Fault.found?]) later
        | succ depth => exact parentheses_failsWithin ho (hw _ rfl) hf
      · cases (factor_symbol opened _ place later hs).symm.trans hf
        exact within_at_token ho (by simp) (by simp [Fault.found?]) later

theorem term_failsWithin (ho : opened ≤ maxNesting)
    (hw : ∀ read ∈ builder.inner? depth, read.FailsWithin (opened + 1)) :
    FailsWithin (builder.term opened (builder.inner? depth)) opened :=
  leftChain_failsWithin products (factor_recognizes_factor opened depth) (factor_failsWithin ho hw)

theorem expression_failsWithin_over (h : opened + depth = maxNesting)
    (hw : ∀ read ∈ builder.inner? depth, read.FailsWithin (opened + 1)) :
    FailsWithin (builder.expression depth) opened := by
  have hnesting : maxNesting - depth = opened := by omega
  rw [Builder.expression_eq, hnesting]
  exact leftChain_failsWithin sums (term_recognizes_term opened depth)
    (term_failsWithin (by omega) hw)

theorem inner?_failsWithin (h : opened + depth = maxNesting) :
    ∀ read ∈ builder.inner? depth, read.FailsWithin (opened + 1) := by
  induction depth generalizing opened with
  | zero =>
    intro read hr
    cases hr
  | succ depth ih =>
    intro read hr
    cases hr
    have hdepth : opened + 1 + depth = maxNesting := by omega
    exact expression_failsWithin_over hdepth (ih hdepth)

theorem expression_failsWithin (h : opened + depth = maxNesting) :
    FailsWithin (builder.expression depth) opened :=
  expression_failsWithin_over h (inner?_failsWithin h)

theorem whole_failsWithin (h : opened + depth = maxNesting)
    (hf : (builder.whole depth tokens).run = .error failure) : failure.Within opened tokens := by
  rcases (builder.expression depth).reads_or_fails tokens with ⟨tree, rest, hr⟩ | ⟨failure', hf'⟩
  · cases rest with
    | nil => cases (whole_reads hr).symm.trans hf
    | cons token rest =>
      cases (whole_trailing hr).symm.trans hf
      obtain ⟨taken, rfl, -, -⟩ := (expression_recognizes_expression depth).sound hr
      have hnesting : maxNesting - depth = opened := by omega
      rw [hnesting]
      exact (within_at_token (by omega) (by simp) (by simp [Fault.found?]) rest).mono
        (Nat.le_refl _) (List.suffix_append _ _)
  · cases (whole_fails hf').symm.trans hf
    exact expression_failsWithin h _ _ hf'

end Tree

end Calculator
