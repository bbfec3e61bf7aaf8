import Calculator.Proofs.Grammar
import Calculator.Proofs.Reading
import Mathlib.Data.Set.Subsingleton

/-!
The readers of the parser against the grammar. A reader recognizes a phrase when it takes exactly the
beginnings that are such a phrase and are not followed by a symbol that would continue it.
`parse_exactly_expressions` is the case of a whole token list.
-/

namespace Calculator

open Grammar

namespace Reader

structure Recognizes (read : Reader Id Tree) (follow : List String) (phrase : Phrase) : Prop where
  sound : ∀ {tokens tree rest}, read.Reads tokens tree rest →
    ∃ taken, tokens = taken ++ rest ∧ phrase taken tree ∧ ¬ Begins follow rest
  complete : ∀ {taken tree rest}, phrase taken tree → ¬ Begins follow rest →
    read.Reads (taken ++ rest) tree rest

end Reader

namespace Tree

open Reader

section Chain

variable {symbols follow : List String} {operand : Reader Id Tree} {phrase : Phrase}
variable {tokens rest : List Token} {left tree : Tree} {bound : Nat}

-- The chain has read `taken` so far; the invariant is that it is a chain that makes `left`.
theorem chain_sound (h : operand.Recognizes follow phrase) {taken : List Token}
    (hleft : LeftFold symbols phrase taken left) (hfollow : ¬ Begins follow tokens)
    {shorter : tokens.length < bound} {shorter' : rest.length < bound}
    (hc : (builder.chain symbols operand left tokens shorter).run = .ok ⟨tree, rest, shorter'⟩) :
    ∃ more, tokens = more ++ rest ∧ LeftFold symbols phrase (taken ++ more) tree ∧
      ¬ Begins (symbols ++ follow) rest := by
  induction hn : tokens.length using Nat.strongRecOn generalizing taken left tokens with
  | _ n ih =>
  by_cases hb : Begins symbols tokens
  · obtain ⟨symbol, place, tail, mem, rfl⟩ := hb
    rcases operand.reads_or_fails tail with ⟨right, tail', hr⟩ | ⟨failure, hf⟩
    · obtain ⟨next, rfl, hright, hfollow'⟩ := h.sound hr
      obtain ⟨shorter'', he⟩ := chain_next left mem hr shorter
      rw [he] at hc
      have hless : tail'.length < n := by
        simp only [List.length_cons, List.length_append] at hn
        omega
      obtain ⟨more, rfl, hfold, hrest⟩ :=
        ih _ hless (.snoc hleft mem hright) hfollow' hc rfl
      refine ⟨⟨.symbol symbol, place⟩ :: next ++ more, by simp, ?_, hrest⟩
      simpa using hfold
    · rw [chain_fails mem hf] at hc
      cases hc
  · rw [chain_stop hb] at hc
    cases hc
    refine ⟨[], rfl, by simpa using hleft, ?_⟩
    rw [begins_append_iff]
    rintro (hs | hs)
    · exact hb hs
    · exact hfollow hs

theorem leftChain_append (h : operand.Recognizes follow phrase)
    (apart : ∀ symbol ∈ symbols, symbol ∉ follow) {taken : List Token}
    (hfold : LeftFold symbols phrase taken tree) :
    ∀ {rest : List Token}, ¬ Begins follow rest →
      ∃ shorter, builder.leftChain symbols operand (taken ++ rest) =
        builder.chain symbols operand tree rest shorter := by
  induction hfold with
  | single only =>
    intro rest hrest
    exact leftChain_next _ (h.complete only hrest)
  | @snoc before after left right symbol place _ mem last ih =>
    intro rest hrest
    have hsymbol : ¬ Begins follow (⟨.symbol symbol, place⟩ :: (after ++ rest)) :=
      fun hb => apart symbol mem (begins_cons_iff.mp hb)
    obtain ⟨shorter, hi⟩ := ih hsymbol
    obtain ⟨shorter', hn⟩ := chain_next left mem (h.complete last hrest) shorter
    rw [List.append_assoc, List.cons_append]
    exact ⟨shorter', hi.trans hn⟩

theorem leftChain_recognizes (symbols : List String) (h : operand.Recognizes follow phrase)
    (apart : ∀ symbol ∈ symbols, symbol ∉ follow) :
    Recognizes (builder.leftChain symbols operand) (symbols ++ follow)
      (LeftFold symbols phrase) where
  sound := by
    rintro tokens tree rest ⟨shorter, hc⟩
    rcases operand.reads_or_fails tokens with ⟨left, tail, hr⟩ | ⟨failure, hf⟩
    · obtain ⟨first, rfl, hleft, hfollow⟩ := h.sound hr
      obtain ⟨_, he⟩ := leftChain_next symbols hr
      rw [he] at hc
      obtain ⟨more, rfl, hfold, hrest⟩ := chain_sound h (.single hleft) hfollow hc
      exact ⟨first ++ more, by simp, hfold, hrest⟩
    · exact absurd (leftChain_fails symbols hf) (Reads.not_fails ⟨shorter, hc⟩)
  complete := by
    intro taken tree rest hfold hrest
    rw [begins_append_iff, not_or] at hrest
    obtain ⟨shorter, he⟩ := leftChain_append h apart hfold hrest.2
    exact ⟨shorter, by rw [he, chain_stop hrest.1]⟩

end Chain

section Factor

variable {nesting : Nat} {inner : Option (Reader Id Tree)} {follow : List String} {phrase : Phrase}
variable {tokens rest : List Token} {tree : Tree} {place : Position}

def RecognizesInside (inner : Option (Reader Id Tree)) (follow : List String) (phrase : Phrase) :
    Prop :=
  match inner with
  | none => ∀ taken tree, ¬ phrase taken tree
  | some read => read.Recognizes follow phrase

theorem parentheses_sound (h : RecognizesInside inner follow phrase)
    (hr : Reads (builder.factor nesting inner) (⟨.symbol "(", place⟩ :: tokens) tree rest) :
    ∃ taken, ⟨.symbol "(", place⟩ :: tokens = taken ++ rest ∧ FactorOver phrase taken tree := by
  cases inner with
  | none => exact absurd (factor_too_deep nesting place tokens) hr.not_fails
  | some read =>
    rcases read.reads_or_fails tokens with ⟨tree', tail, hi⟩ | ⟨failure, hf⟩
    · by_cases hb : Begins [")"] tail
      · obtain ⟨symbol, closing, after, mem, rfl⟩ := hb
        cases List.mem_singleton.mp mem
        obtain ⟨rfl, rfl⟩ := (factor_parentheses nesting place hi).unique hr
        obtain ⟨taken, rfl, hphrase, -⟩ := Recognizes.sound h hi
        exact ⟨_, by simp, .parentheses place closing hphrase⟩
      · exact absurd (factor_unclosed nesting place hi hb) hr.not_fails
    · exact absurd (factor_inner_fails nesting place hf) hr.not_fails

theorem factor_sound (h : RecognizesInside inner follow phrase)
    (hr : Reads (builder.factor nesting inner) tokens tree rest) :
    ∃ taken, tokens = taken ++ rest ∧ FactorOver phrase taken tree := by
  cases tokens with
  | nil =>
    obtain ⟨_, hr⟩ := hr
    cases hr
  | cons token later =>
    obtain ⟨lexeme, place⟩ := token
    cases lexeme with
    | number value =>
      obtain ⟨rfl, rfl⟩ := (factor_number value).unique hr
      exact ⟨_, rfl, .number value place⟩
    | identifier name =>
      obtain ⟨rfl, rfl⟩ := (factor_identifier name).unique hr
      exact ⟨_, rfl, .identifier name place⟩
    | ending =>
      obtain ⟨_, hr⟩ := hr
      cases hr
    | symbol symbol =>
      by_cases hs : symbol = "("
      · subst hs
        exact parentheses_sound h hr
      · exact absurd (factor_symbol nesting inner place later hs) hr.not_fails

theorem factor_recognizes (h : RecognizesInside inner follow phrase) (closes : ")" ∉ follow) :
    Recognizes (builder.factor nesting inner) [] (FactorOver phrase) where
  sound := by
    intro tokens tree rest hr
    obtain ⟨taken, rfl, hf⟩ := factor_sound h hr
    exact ⟨taken, rfl, hf, by simp [Begins]⟩
  complete := by
    intro taken tree rest hf _
    cases hf with
    | number value place => exact factor_number value
    | identifier name place => exact factor_identifier name
    | @parentheses tokens tree opening closing hp =>
      cases inner with
      | none => exact absurd hp (h _ _)
      | some read =>
        have hb : ¬ Begins follow (⟨.symbol ")", closing⟩ :: rest) :=
          fun hb => closes (begins_cons_iff.mp hb)
        have hi := Recognizes.complete h hp hb
        simpa using factor_parentheses nesting opening hi

end Factor

section Expression

variable {nesting : Nat} {inner : Option (Reader Id Tree)} {phrase : Phrase}

theorem term_recognizes (h : RecognizesInside inner (sums ++ products) phrase) :
    Recognizes (builder.term nesting inner) products (LeftFold products (FactorOver phrase)) :=
  leftChain_recognizes products (factor_recognizes h (by decide)) (by simp)

theorem sum_recognizes (h : RecognizesInside inner (sums ++ products) phrase) :
    Recognizes (builder.sum nesting inner) (sums ++ products)
      (LeftFold sums (LeftFold products (FactorOver phrase))) :=
  leftChain_recognizes sums (term_recognizes h) sums_apart

theorem inside_recognizes (depth : Nat) :
    RecognizesInside (builder.inner? depth) (sums ++ products) (Inside depth) := by
  induction depth with
  | zero => exact not_inside_zero
  | succ depth ih =>
    change Recognizes (builder.expression depth) (sums ++ products) (Expression depth)
    rw [Builder.expression_eq]
    exact sum_recognizes ih

theorem factor_recognizes_factor (nesting depth : Nat) :
    Recognizes (builder.factor nesting (builder.inner? depth)) [] (Factor depth) :=
  factor_recognizes (inside_recognizes depth) (by decide)

theorem term_recognizes_term (nesting depth : Nat) :
    Recognizes (builder.term nesting (builder.inner? depth)) products (Term depth) :=
  term_recognizes (inside_recognizes depth)

theorem expression_recognizes_expression (depth : Nat) :
    Recognizes (builder.expression depth) (sums ++ products) (Expression depth) :=
  inside_recognizes (depth + 1)

theorem whole_iff_expression {depth : Nat} {tokens : List Token} {tree : Tree} :
    (builder.whole depth tokens).run = .ok tree ↔ Expression depth tokens tree := by
  rw [whole_eq_ok_iff]
  constructor
  · intro hr
    obtain ⟨taken, rfl, he, -⟩ := (expression_recognizes_expression depth).sound hr
    simpa using he
  · intro he
    simpa using (expression_recognizes_expression depth).complete he (not_begins_nil _)

theorem inside_of_parse {tokens : List Token} {tree : Tree} (h : parse tokens = .ok tree) :
    Inside (maxNesting + 1) tokens tree := whole_iff_expression.mp h

theorem parse_exactly_expressions (tokens : List Token) :
    (∀ tree, parse tokens = .ok tree ↔ Expression maxNesting tokens tree) ∧
    Set.Subsingleton {tree | Expression maxNesting tokens tree} ∧
    ((∃ failure, parse tokens = .error failure ∧
        (failure.diagnostic tokens).stage = .parsing) ↔
      ¬ ∃ tree, Expression maxNesting tokens tree) := by
  have hp (tree : Tree) : parse tokens = .ok tree ↔ Expression maxNesting tokens tree :=
    whole_iff_expression
  refine ⟨hp, ?_, ?_⟩
  · intro tree ht tree' ht'
    have he : (Except.ok tree : Except Failure Tree) = .ok tree' :=
      ((hp tree).mpr ht).symm.trans ((hp tree').mpr ht')
    exact Except.ok.inj he
  · constructor
    · rintro ⟨failure, hf, -⟩ ⟨tree, ht⟩
      cases hf.symm.trans ((hp tree).mpr ht)
    · intro hn
      cases hr : parse tokens with
      | ok tree => exact absurd ⟨tree, (hp tree).mp hr⟩ hn
      | error failure => exact ⟨failure, rfl, rfl⟩

end Expression

end Tree

end Calculator
