import Calculator.Proofs.LongestReading
import Mathlib.Control.Monad.Basic
import Mathlib.Order.Bounds.Basic

/-!
Where parsing fails. Every reader fails at the first token that cannot be right: what it has taken by
then is the beginning of a phrase, and it fails on all that goes on from there with the same token.
-/

namespace Calculator

open Grammar

namespace Reader

structure Stuck (read : Reader Id Tree) (phrase : Phrase) (taken rest : List Token) : Prop where
  completes : ∃ more tree, phrase (taken ++ more) tree
  refuses : ∀ bad ∈ rest.head?, ∀ more, ∃ failure, read.Fails (taken ++ bad :: more) failure

def Pinpoints (read : Reader Id Tree) (phrase : Phrase) : Prop :=
  ∀ tokens failure, read.Fails tokens failure →
    ∃ taken, tokens = taken ++ failure.rest ∧ read.Stuck phrase taken failure.rest

end Reader

namespace Tree

open Reader

section Chain

variable {symbols follow : List String} {operand : Reader Id Tree} {phrase : Phrase}
variable {tokens : List Token} {left : Tree} {bound : Nat} {failure : Failure}

-- As long as operands are read, the chain has read a chain; so it fails in an operand behind one.
theorem chain_fails_behind (h : operand.Recognizes follow phrase) {taken : List Token}
    (hleft : LeftFold symbols phrase taken left) {shorter : tokens.length < bound}
    (hc : (builder.chain symbols operand left tokens shorter).run = .error failure) :
    ∃ more tree symbol place rest, tokens = more ++ ⟨.symbol symbol, place⟩ :: rest ∧
      LeftFold symbols phrase (taken ++ more) tree ∧ symbol ∈ symbols ∧
      operand.Fails rest failure := by
  induction hn : tokens.length using Nat.strongRecOn generalizing taken left tokens with
  | _ n ih =>
  by_cases hb : Begins symbols tokens
  · obtain ⟨symbol, place, tail, mem, rfl⟩ := hb
    rcases operand.reads_or_fails tail with ⟨right, tail', hr⟩ | ⟨failure', hf⟩
    · obtain ⟨next, rfl, hright, -⟩ := h.sound hr
      obtain ⟨shorter', he⟩ := chain_next left mem hr shorter
      rw [he] at hc
      have hless : tail'.length < n := by
        simp only [List.length_cons, List.length_append] at hn
        omega
      obtain ⟨more, tree, symbol', place', rest, rfl, hfold, mem', hf⟩ :=
        ih _ hless (.snoc hleft mem hright) hc rfl
      refine ⟨⟨.symbol symbol, place⟩ :: next ++ more, tree, symbol', place', rest, by simp, ?_,
        mem', hf⟩
      simpa using hfold
    · rw [chain_fails mem hf] at hc
      cases hc
      exact ⟨[], left, symbol, place, tail, rfl, by simpa using hleft, mem, hf⟩
  · rw [chain_stop hb] at hc
    cases hc

theorem leftChain_fails_cases (h : operand.Recognizes follow phrase)
    (hf : Fails (builder.leftChain symbols operand) tokens failure) :
    operand.Fails tokens failure ∨
      ∃ taken tree symbol place rest, tokens = taken ++ ⟨.symbol symbol, place⟩ :: rest ∧
        LeftFold symbols phrase taken tree ∧ symbol ∈ symbols ∧ operand.Fails rest failure := by
  rcases operand.reads_or_fails tokens with ⟨left, tail, hr⟩ | ⟨failure', hf'⟩
  · obtain ⟨first, rfl, hleft, -⟩ := h.sound hr
    obtain ⟨_, he⟩ := leftChain_next symbols hr
    rw [Fails, he] at hf
    obtain ⟨more, tree, symbol, place, rest, rfl, hfold, mem, hrest⟩ :=
      chain_fails_behind h (.single hleft) hf
    exact .inr ⟨first ++ more, tree, symbol, place, rest, by simp, hfold, mem, hrest⟩
  · cases (leftChain_fails symbols hf').symm.trans hf
    exact .inl hf'

theorem leftChain_pinpoints (symbols : List String) (h : operand.Recognizes follow phrase)
    (hp : operand.Pinpoints phrase) (apart : ∀ symbol ∈ symbols, symbol ∉ follow) :
    Pinpoints (builder.leftChain symbols operand) (LeftFold symbols phrase) := by
  intro tokens failure hf
  rcases leftChain_fails_cases h hf with hf | ⟨taken, tree, symbol, place, rest, rfl, hfold, mem, hf⟩
  · obtain ⟨taken, he, ⟨more, tree, hphrase⟩, hrefuses⟩ := hp _ _ hf
    refine ⟨taken, he, ⟨more, tree, .single hphrase⟩, fun bad hbad more => ?_⟩
    obtain ⟨failure', hf'⟩ := hrefuses bad hbad more
    exact ⟨failure', leftChain_fails symbols hf'⟩
  · obtain ⟨begun, he, ⟨more, right, hphrase⟩, hrefuses⟩ := hp _ _ hf
    refine ⟨taken ++ ⟨.symbol symbol, place⟩ :: begun, ?_,
      ⟨more, .node ⟨symbol, place⟩ tree right, ?_⟩, fun bad hbad more => ?_⟩
    · rw [List.append_assoc, List.cons_append, ← he]
    · rw [List.append_assoc, List.cons_append]
      exact .snoc hfold mem hphrase
    · obtain ⟨failure', hf'⟩ := hrefuses bad hbad more
      rw [List.append_assoc, List.cons_append]
      exact ⟨failure', leftChain_fails_behind h apart hfold mem hf'⟩

end Chain

section Factor

variable {nesting : Nat} {inner : Option (Reader Id Tree)} {read : Reader Id Tree}
variable {follow : List String} {phrase : Phrase} {tokens : List Token} {failure : Failure}
variable {place : Position}

theorem not_begins_of_head {symbols : List String} {bad : Token} {rest : List Token}
    (h : ¬ Begins symbols rest) (hbad : bad ∈ rest.head?) (more : List Token) :
    ¬ Begins symbols (bad :: more) := by
  rintro ⟨symbol, place, later, mem, he⟩
  cases he
  obtain ⟨later, rfl⟩ := List.head?_eq_some_iff.mp hbad
  exact h ⟨symbol, place, later, mem, rfl⟩

theorem stuck_at_once {reader : Reader Id Tree} {bad : Token} {rest : List Token}
    (h : ∀ more, ∃ failure, reader.Fails (bad :: more) failure) :
    reader.Stuck (FactorOver phrase) [] (bad :: rest) where
  completes := ⟨_, _, .number 0 .start⟩
  refuses := by
    rintro _ ⟨⟩ more
    exact h more

theorem unclosed_rest (nesting : Nat) (rest : List Token) : (unclosed nesting rest).rest = rest := by
  cases rest <;> rfl

theorem stuck_within (nesting : Nat) (place : Position) {taken rest : List Token}
    (hs : read.Stuck phrase taken rest) :
    Stuck (builder.factor nesting (some read)) (FactorOver phrase)
      (⟨.symbol "(", place⟩ :: taken) rest where
  completes := by
    obtain ⟨more, tree, hphrase⟩ := hs.completes
    have hf : FactorOver phrase _ tree := .parentheses place .start hphrase
    exact ⟨more ++ [⟨.symbol ")", .start⟩], tree, by simpa using hf⟩
  refuses := by
    intro bad hbad more
    obtain ⟨failure, hf⟩ := hs.refuses bad hbad more
    exact ⟨failure, factor_inner_fails nesting place hf⟩

theorem stuck_unclosed (h : read.Recognizes follow phrase) (nesting : Nat) (place : Position)
    {taken rest : List Token} {tree : Tree} (hphrase : phrase taken tree)
    (hfollow : ¬ Begins follow rest) (hopen : ¬ Begins [")"] rest) :
    Stuck (builder.factor nesting (some read)) (FactorOver phrase)
      (⟨.symbol "(", place⟩ :: taken) rest where
  completes := ⟨[⟨.symbol ")", .start⟩], tree, .parentheses place .start hphrase⟩
  refuses := by
    intro bad hbad more
    have hr := h.complete hphrase (not_begins_of_head hfollow hbad more)
    exact ⟨_, factor_unclosed nesting place hr (not_begins_of_head hopen hbad more)⟩

theorem parentheses_pinpoint (h : read.Recognizes follow phrase) (hp : read.Pinpoints phrase)
    (hf : Fails (builder.factor nesting (some read)) (⟨.symbol "(", place⟩ :: tokens) failure) :
    ∃ taken, ⟨.symbol "(", place⟩ :: tokens = taken ++ failure.rest ∧
      Stuck (builder.factor nesting (some read)) (FactorOver phrase) taken failure.rest := by
  rcases read.reads_or_fails tokens with ⟨tree, tail, hr⟩ | ⟨failure', hi⟩
  · by_cases hb : Begins [")"] tail
    · obtain ⟨symbol, closing, after, mem, rfl⟩ := hb
      cases List.mem_singleton.mp mem
      exact absurd hf (factor_parentheses nesting place hr).not_fails
    · cases (factor_unclosed nesting place hr hb).symm.trans hf
      obtain ⟨taken, rfl, hphrase, hfollow⟩ := h.sound hr
      rw [unclosed_rest]
      exact ⟨_, rfl, stuck_unclosed h nesting place hphrase hfollow hb⟩
  · cases (factor_inner_fails nesting place hi).symm.trans hf
    obtain ⟨taken, he, hs⟩ := hp _ _ hi
    refine ⟨_, ?_, stuck_within nesting place hs⟩
    rw [List.cons_append, ← he]

theorem factor_pinpoints (nesting : Nat) (h : RecognizesInside inner follow phrase)
    (hp : ∀ read ∈ inner, read.Pinpoints phrase) :
    Pinpoints (builder.factor nesting inner) (FactorOver phrase) := by
  intro tokens failure hf
  cases tokens with
  | nil =>
    cases hf
    exact ⟨[], rfl, ⟨[⟨.number 0, .start⟩], _, .number 0 .start⟩, by rintro _ ⟨⟩⟩
  | cons token later =>
    obtain ⟨lexeme, place⟩ := token
    cases lexeme with
    | number value => exact absurd hf (factor_number value).not_fails
    | identifier name => exact absurd hf (factor_identifier name).not_fails
    | ending =>
      cases hf
      exact ⟨[], rfl, stuck_at_once fun more => ⟨_, rfl⟩⟩
    | symbol symbol =>
      by_cases hs : symbol = "("
      · subst hs
        cases inner with
        | none =>
          cases (factor_too_deep nesting place later).symm.trans hf
          exact ⟨[], rfl, stuck_at_once fun more => ⟨_, factor_too_deep nesting place more⟩⟩
        | some read => exact parentheses_pinpoint h (hp read rfl) hf
      · cases (factor_symbol nesting inner place later hs).symm.trans hf
        exact ⟨[], rfl, stuck_at_once fun more => ⟨_, factor_symbol nesting inner place more hs⟩⟩

end Factor

section Expression

variable {depth : Nat} {tokens : List Token} {failure : Failure}

theorem inside_pinpoints (depth : Nat) :
    ∀ read ∈ builder.inner? depth, read.Pinpoints (Inside depth) := by
  induction depth with
  | zero =>
    intro read hr
    cases hr
  | succ depth ih =>
    intro read hr
    cases hr
    have hinside := inside_recognizes depth
    have hfactor := factor_pinpoints (maxNesting - depth) hinside ih
    have hterm := leftChain_pinpoints products (factor_recognizes_factor _ depth) hfactor (by simp)
    rw [Builder.expression_eq]
    exact leftChain_pinpoints sums (term_recognizes_term _ depth) hterm sums_apart

theorem expression_pinpoints (depth : Nat) :
    Pinpoints (builder.expression depth) (Expression depth) :=
  inside_pinpoints (depth + 1) _ rfl

theorem whole_pinpoints (h : (builder.whole depth tokens).run = .error failure) :
    ∃ taken, tokens = taken ++ failure.rest ∧
      (∃ more tree, Expression depth (taken ++ more) tree) ∧
      ∀ bad ∈ failure.rest.head?, ∀ more tree, ¬ Expression depth (taken ++ bad :: more) tree := by
  have hrec := expression_recognizes_expression depth
  rcases (builder.expression depth).reads_or_fails tokens with ⟨tree, rest, hr⟩ | ⟨failure', hf⟩
  · obtain ⟨taken, rfl, he, hstops⟩ := hrec.sound hr
    cases rest with
    | nil => cases (whole_reads hr).symm.trans h
    | cons token rest =>
      cases (whole_trailing hr).symm.trans h
      refine ⟨taken, rfl, ⟨[], tree, by simpa using he⟩, ?_⟩
      rintro _ ⟨⟩ more tree' he'
      have hlonger := hrec.not_longer he he' (not_begins_of_head hstops rfl more)
      cases hlonger
  · cases (whole_fails hf).symm.trans h
    obtain ⟨taken, hsplit, hs⟩ := expression_pinpoints depth _ _ hf
    refine ⟨taken, hsplit, hs.completes, ?_⟩
    intro bad hbad more tree he
    obtain ⟨failure', hf'⟩ := hs.refuses bad hbad more
    have hread := hrec.complete he (not_begins_nil _)
    rw [List.append_nil] at hread
    exact hread.not_fails hf'

def Viable (tokens : List Token) : Prop := ∃ more tree, parse (tokens ++ more) = .ok tree

theorem viable_iff : Viable tokens ↔ ∃ more tree, Expression maxNesting (tokens ++ more) tree :=
  exists_congr fun _ => exists_congr fun _ => whole_iff_expression

theorem longest_viable {taken rest : List Token} (completes : Viable taken)
    (refuses : ∀ bad ∈ rest.head?, ∀ more tree,
      ¬ Expression maxNesting (taken ++ bad :: more) tree) :
    IsGreatest {k | k ≤ (taken ++ rest).length ∧ Viable ((taken ++ rest).take k)} taken.length := by
  constructor
  · refine ⟨?_, ?_⟩
    · rw [List.length_append]
      exact Nat.le_add_right _ _
    · rwa [List.take_left]
  · rintro k ⟨hk, hv⟩
    apply Nat.le_of_not_lt
    intro hlt
    obtain ⟨further, rfl⟩ := Nat.exists_eq_add_of_lt hlt
    rw [Nat.add_assoc, List.take_length_add_append] at hv
    obtain ⟨more, tree, he⟩ := viable_iff.mp hv
    cases rest with
    | nil =>
      rw [List.append_nil] at hk
      omega
    | cons bad later =>
      rw [List.take_succ_cons, List.append_assoc, List.cons_append] at he
      exact refuses bad rfl _ tree he

theorem positionAt_append (taken rest : List Token) : positionAt (taken ++ rest) rest =
    ((taken ++ rest)[taken.length]?).elim (endPosition (taken ++ rest)) Token.position := by
  cases rest with
  | nil => simp [positionAt]
  | cons token later => simp [positionAt]

theorem session_reads {tree : Tree} (h : parse tokens = .ok tree) :
    (Session.ofTokens tokens).parse = (.ok tree, ⟨tokens, tokens.length, 0⟩) := by
  have hw : (builder.whole (Session.ofTokens tokens).depth
    (Session.ofTokens tokens).remaining).run = .ok tree := h
  rw [Session.parse, hw]
  simp [Session.leaving, Session.ofTokens, Session.remaining]

theorem session_fails {taken rest : List Token} {fault : Fault} {nesting : Nat}
    (h : parse (taken ++ rest) = .error ⟨fault, rest, nesting⟩) :
    (Session.ofTokens (taken ++ rest)).parse =
      (.error ((⟨fault, rest, nesting⟩ : Failure).diagnostic (taken ++ rest)),
        ⟨taken ++ rest, taken.length, nesting⟩) := by
  have hw : (builder.whole (Session.ofTokens (taken ++ rest)).depth
    (Session.ofTokens (taken ++ rest)).remaining).run = .error ⟨fault, rest, nesting⟩ := h
  rw [Session.parse, hw]
  simp [Session.fail, Session.leaving, Session.ofTokens, Session.remaining]

theorem session_stops (h : parse tokens = .error failure) :
    ∃ offset, (Session.ofTokens tokens).parse =
        (.error (failure.diagnostic tokens), ⟨tokens, offset, failure.nesting⟩) ∧
      IsGreatest {k | k ≤ tokens.length ∧ Viable (tokens.take k)} offset ∧
      (failure.diagnostic tokens).position =
        (tokens[offset]?).elim (endPosition tokens) Token.position := by
  obtain ⟨taken, rfl, completes, refuses⟩ := whole_pinpoints h
  exact ⟨taken.length, session_fails h, longest_viable (viable_iff.mpr completes) refuses,
    positionAt_append taken failure.rest⟩

theorem error_behind_longest_viable (tokens : List Token) :
    (Session.ofTokens tokens).parse.1 = (parse tokens).mapError (·.diagnostic tokens) ∧
    (∀ diagnostic session, (Session.ofTokens tokens).parse = (.error diagnostic, session) →
      diagnostic.stage = .parsing ∧ session.tokens = tokens ∧
      IsGreatest {k | k ≤ tokens.length ∧ Viable (tokens.take k)} session.offset ∧
      diagnostic.position =
        (tokens[session.offset]?).elim (endPosition tokens) Token.position) ∧
    ((∃ diagnostic session, (Session.ofTokens tokens).parse = (.error diagnostic, session) ∧
        session.offset = tokens.length) ↔
      Viable tokens ∧ ¬ ∃ tree, parse tokens = .ok tree) := by
  cases hp : parse tokens with
  | ok tree =>
    rw [session_reads hp]
    refine ⟨rfl, ?_, ?_⟩
    · rintro _ _ ⟨⟩
    · constructor
      · rintro ⟨_, _, ⟨⟩, -⟩
      · rintro ⟨-, hnone⟩
        exact absurd ⟨tree, rfl⟩ hnone
  | error failure =>
    obtain ⟨offset, hs, hgreatest, hposition⟩ := session_stops hp
    rw [hs]
    refine ⟨rfl, ?_, ?_⟩
    · rintro _ _ ⟨⟩
      exact ⟨rfl, rfl, hgreatest, hposition⟩
    · have hlast : offset = tokens.length ↔ Viable tokens := by
        constructor
        · rintro rfl
          simpa only [List.take_length] using hgreatest.1.2
        · intro hv
          refine Nat.le_antisymm hgreatest.1.1 (hgreatest.2 ⟨Nat.le_refl _, ?_⟩)
          rwa [List.take_length]
      constructor
      · rintro ⟨_, _, ⟨⟩, hend⟩
        refine ⟨hlast.mp hend, ?_⟩
        rintro ⟨_, ⟨⟩⟩
      · rintro ⟨hv, -⟩
        exact ⟨_, _, rfl, hlast.mpr hv⟩

theorem sum_cut_by_closing :
    IsGreatest {k | k ≤ 4 ∧ Viable (([⟨.symbol "(", ⟨1, 0⟩⟩, ⟨.identifier "x", ⟨1, 1⟩⟩,
      ⟨.symbol "+", ⟨1, 3⟩⟩, ⟨.symbol ")", ⟨1, 5⟩⟩] : List Token).take k)} 3 := by
  have hp : parse ([⟨.symbol "(", ⟨1, 0⟩⟩, ⟨.identifier "x", ⟨1, 1⟩⟩, ⟨.symbol "+", ⟨1, 3⟩⟩] ++
      [⟨.symbol ")", ⟨1, 5⟩⟩]) = .error ⟨.unexpectedToken (.symbol ")") .factor,
        [⟨.symbol ")", ⟨1, 5⟩⟩], 1⟩ := by decide +kernel
  exact ((error_behind_longest_viable _).2.1 _ _ (session_fails hp)).2.2.1

end Expression

end Tree

end Calculator
