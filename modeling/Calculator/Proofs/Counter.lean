import Calculator.Lexer
import Calculator.Proofs.ViablePrefix

/-!
Expressions by counting. A scan that knows whether an operand or an operator comes next, and how many
parentheses are open, takes the tokens one by one. It accepts what the parser reads, and where it
stops the parser stops, with the same message and as many parentheses open as its count tells.
-/

namespace Calculator

open Grammar

inductive Mode where
  | operand
  | operator
deriving DecidableEq, Repr

structure Counter where
  mode : Mode
  opened : Nat
deriving DecidableEq, Repr

def Lexeme.isOperator : Lexeme → Bool
  | symbol text => ["+", "-", "*", "/"].contains text
  | _ => false

namespace Counter

def start : Counter := ⟨.operand, 0⟩

def step : Counter → Lexeme → Except String Counter
  | ⟨.operand, opened⟩, .number _ => .ok ⟨.operator, opened⟩
  | ⟨.operand, opened⟩, .identifier _ => .ok ⟨.operator, opened⟩
  | ⟨.operand, opened⟩, lexeme =>
    if lexeme = .symbol "(" then
      if opened = maxNesting then .error (Wording.nestingTooDeep (toString maxNesting))
      else .ok ⟨.operand, opened + 1⟩
    else .error (Wording.unexpectedToken lexeme.text "factor")
  | ⟨.operator, 0⟩, lexeme =>
    if lexeme.isOperator then .ok ⟨.operand, 0⟩ else .error (Wording.trailingToken lexeme.text)
  | ⟨.operator, opened + 1⟩, lexeme =>
    if lexeme.isOperator then .ok ⟨.operand, opened + 1⟩
    else if lexeme = .symbol ")" then .ok ⟨.operator, opened⟩
    else .error (Wording.unexpectedToken lexeme.text ")")

def missing? : Counter → Option String
  | ⟨.operand, _⟩ => some (Wording.unexpectedEnd "factor")
  | ⟨.operator, 0⟩ => none
  | ⟨.operator, _ + 1⟩ => some (Wording.unexpectedEnd ")")

structure Halt where
  message : String
  index : Nat
  counter : Counter
deriving DecidableEq, Repr

def run (counter : Counter) (index : Nat) : List Token → Except Halt Unit
  | [] =>
    match counter.missing? with
    | none => .ok ()
    | some message => .error ⟨message, index, counter⟩
  | token :: rest =>
    match counter.step token.lexeme with
    | .ok next => next.run (index + 1) rest
    | .error message => .error ⟨message, index, counter⟩

def nesting : Counter → Nat
  | ⟨.operand, opened⟩ => opened
  | ⟨.operator, 0⟩ => 0
  | ⟨.operator, opened + 1⟩ => opened

variable {counter counter' counter'' : Counter} {taken taken' rest tokens : List Token}
variable {message : String} {opened depth : Nat} {tree : Tree} {place : Position} {symbol : String}

def Passes (counter : Counter) (taken : List Token) (counter' : Counter) : Prop :=
  ∀ index rest, counter.run index (taken ++ rest) = counter'.run (index + taken.length) rest

def Refuses (counter : Counter) (message : String) : List Token → Prop
  | [] => counter.missing? = some message
  | token :: _ => counter.step token.lexeme = .error message

theorem Passes.refl (counter : Counter) : counter.Passes [] counter := fun _ _ => rfl

theorem Passes.trans (h : counter.Passes taken counter') (h' : counter'.Passes taken' counter'') :
    counter.Passes (taken ++ taken') counter'' := by
  intro index rest
  rw [List.append_assoc, h, h', List.length_append, Nat.add_assoc]

theorem passes_token {token : Token} (h : counter.step token.lexeme = .ok counter') :
    counter.Passes [token] counter' := by
  intro index rest
  rw [List.singleton_append, run, h]
  rfl

theorem run_of_refuses (h : counter.Refuses message rest) (index : Nat) :
    counter.run index rest = .error ⟨message, index, counter⟩ := by
  cases rest with
  | nil =>
    have hm : counter.missing? = some message := h
    rw [run, hm]
  | cons token later =>
    have hs : counter.step token.lexeme = .error message := h
    rw [run, hs]

theorem isOperator_iff {lexeme : Lexeme} :
    lexeme.isOperator = true ↔ ∃ symbol ∈ sums ++ products, lexeme = .symbol symbol := by
  cases lexeme with
  | symbol text => simp [Lexeme.isOperator, sums, products]
  | number value => simp [Lexeme.isOperator]
  | identifier name => simp [Lexeme.isOperator]
  | ending => simp [Lexeme.isOperator]

theorem passes_operator (opened : Nat) (place : Position) (mem : symbol ∈ sums ++ products) :
    Passes ⟨.operator, opened⟩ [⟨.symbol symbol, place⟩] ⟨.operand, opened⟩ := by
  have ho : (Lexeme.symbol symbol).isOperator = true := isOperator_iff.mpr ⟨symbol, mem, rfl⟩
  apply passes_token
  cases opened <;> simp only [step, ho, if_true]

theorem passes_opening (place : Position) (h : opened < maxNesting) :
    Passes ⟨.operand, opened⟩ [⟨.symbol "(", place⟩] ⟨.operand, opened + 1⟩ := by
  apply passes_token
  have hne : opened ≠ maxNesting := Nat.ne_of_lt h
  simp only [step, if_true, hne, if_false]

theorem passes_closing (opened : Nat) (place : Position) :
    Passes ⟨.operator, opened + 1⟩ [⟨.symbol ")", place⟩] ⟨.operator, opened⟩ :=
  passes_token rfl

section Phrases

variable {symbols : List String} {phrase : Phrase}

def Balances (opened : Nat) (phrase : Phrase) : Prop :=
  ∀ tokens tree, phrase tokens tree → Passes ⟨.operand, opened⟩ tokens ⟨.operator, opened⟩

theorem Balances.leftFold (h : Balances opened phrase) (hs : symbols ⊆ sums ++ products) :
    Balances opened (LeftFold symbols phrase) := by
  intro tokens tree hf
  refine leftFold_induction
    (motive := fun tokens _ => Passes ⟨.operand, opened⟩ tokens ⟨.operator, opened⟩) (h _ _) ?_ hf
  intro before after left right symbol place mem hl hr
  exact hl.trans ((passes_operator opened place (hs mem)).trans hr)

theorem balances_inside (hd : opened + depth ≤ maxNesting + 1) :
    Balances opened (Inside depth) := by
  induction depth generalizing opened with
  | zero => exact fun tokens tree h => h.elim
  | succ depth ih =>
    have factor : Balances opened (FactorOver (Inside depth)) := by
      intro tokens tree hf
      cases hf with
      | number value place => exact passes_token rfl
      | identifier name place => exact passes_token rfl
      | parentheses opening closing inner =>
        have hpositive : depth ≠ 0 := by
          rintro rfl
          exact inner
        have hopening : Passes ⟨.operand, opened⟩ [⟨.symbol "(", opening⟩] ⟨.operand, opened + 1⟩ :=
          passes_opening opening (by omega)
        exact (hopening.trans (ih (by omega) _ _ inner)).trans (passes_closing opened closing)
    have term : Balances opened (LeftFold products (FactorOver (Inside depth))) :=
      factor.leftFold (List.subset_append_right sums products)
    exact term.leftFold (List.subset_append_left sums products)

end Phrases

def Halts (opened : Nat) (tokens : List Token) (failure : Failure) : Prop :=
  ∃ taken counter, tokens = taken ++ failure.rest ∧ Passes ⟨.operand, opened⟩ taken counter ∧
    counter.Refuses failure.fault.message failure.rest ∧ counter.nesting = failure.nesting

theorem Halts.behind {failure : Failure} {opened' : Nat} (h : Halts opened' tokens failure)
    (hp : Passes ⟨.operand, opened⟩ taken ⟨.operand, opened'⟩) :
    Halts opened (taken ++ tokens) failure := by
  obtain ⟨taken', counter, rfl, hp', hr, hn⟩ := h
  exact ⟨taken ++ taken', counter, (List.append_assoc ..).symm, hp.trans hp', hr, hn⟩

theorem halts_at_once (fault : Fault) (h : Refuses ⟨.operand, opened⟩ fault.message rest) :
    Halts opened rest ⟨fault, rest, opened⟩ :=
  ⟨[], ⟨.operand, opened⟩, rfl, .refl _, h, rfl⟩

end Counter

namespace Reader

def Counted (read : Reader Id Tree) (opened : Nat) : Prop :=
  ∀ tokens failure, read.Fails tokens failure → Counter.Halts opened tokens failure

end Reader

namespace Tree

open Reader Counter

variable {opened depth : Nat} {tokens rest : List Token} {failure : Failure}

theorem leftChain_counted {symbols follow : List String} {operand : Reader Id Tree}
    {phrase : Phrase} (h : operand.Recognizes follow phrase)
    (hp : Balances opened phrase) (hs : symbols ⊆ sums ++ products)
    (hc : operand.Counted opened) :
    Counted (builder.leftChain symbols operand) opened := by
  intro tokens failure hf
  rcases leftChain_fails_cases h hf with hf | ⟨taken, tree, symbol, place, rest, rfl, hfold, mem, hf⟩
  · exact hc _ _ hf
  · have htaken := hp.leftFold hs _ _ hfold
    have hsymbol := passes_operator opened place (hs mem)
    have hb := (hc _ _ hf).behind (htaken.trans hsymbol)
    simpa using hb

theorem refuses_too_deep (place : Position) (rest : List Token) :
    Refuses ⟨.operand, maxNesting⟩ (Fault.message .nestingTooDeep)
      (⟨.symbol "(", place⟩ :: rest) := by
  simp only [Refuses, step, if_true]
  rfl

theorem refuses_symbol (opened : Nat) {symbol : String} (place : Position) (rest : List Token)
    (hs : symbol ≠ "(") : Refuses ⟨.operand, opened⟩
      (Fault.message (.unexpectedToken (.symbol symbol) .factor))
      (⟨.symbol symbol, place⟩ :: rest) := by
  have hl : Lexeme.symbol symbol ≠ .symbol "(" := fun he => hs (Lexeme.symbol.inj he)
  simp only [Refuses, step, hl, if_false]
  rfl

theorem not_isOperator {token : Token} (h : ¬ Begins (sums ++ products) (token :: rest)) :
    token.lexeme.isOperator = false := by
  rw [← Bool.not_eq_true, isOperator_iff]
  obtain ⟨lexeme, place⟩ := token
  rintro ⟨symbol, mem, rfl⟩
  exact h (begins_cons_iff.mpr mem)

theorem refuses_unclosed (opened : Nat) (ho : ¬ Begins (sums ++ products) rest)
    (hc : ¬ Begins [")"] rest) :
    Refuses ⟨.operator, opened + 1⟩ (unclosed opened rest).fault.message rest := by
  cases rest with
  | nil => rfl
  | cons token later =>
    have hclose : token.lexeme ≠ .symbol ")" := by
      intro he
      obtain ⟨lexeme, place⟩ := token
      cases he
      exact hc (begins_cons_iff.mpr (by simp))
    simp only [Refuses, step, not_isOperator ho, hclose, if_false, Bool.false_eq_true]
    rfl

theorem parentheses_counted {place : Position} (hlimit : opened < maxNesting)
    (hopened : opened + 1 + depth = maxNesting)
    (hc : Counted (builder.expression depth) (opened + 1))
    (hf : Fails (builder.factor opened (some (builder.expression depth)))
      (⟨.symbol "(", place⟩ :: tokens) failure) :
    Halts opened (⟨.symbol "(", place⟩ :: tokens) failure := by
  have hopening := passes_opening place hlimit
  rcases (builder.expression depth).reads_or_fails tokens with ⟨tree, tail, hr⟩ | ⟨failure', hi⟩
  · by_cases hb : Begins [")"] tail
    · obtain ⟨symbol, closing, after, mem, rfl⟩ := hb
      cases List.mem_singleton.mp mem
      exact absurd hf (factor_parentheses opened place hr).not_fails
    · cases (factor_unclosed opened place hr hb).symm.trans hf
      obtain ⟨taken, rfl, hphrase, hfollow⟩ := (expression_recognizes_expression depth).sound hr
      have hinside : Balances (opened + 1) (Inside (depth + 1)) := balances_inside (by omega)
      have hpasses := hopening.trans (hinside _ _ hphrase)
      refine ⟨_, _, ?_, hpasses, ?_, ?_⟩
      · rw [unclosed_rest]
        rfl
      · rw [unclosed_rest]
        exact refuses_unclosed opened hfollow hb
      · cases tail <;> rfl
  · cases (factor_inner_fails opened place hi).symm.trans hf
    exact (hc _ _ hi).behind hopening

theorem factor_counted (hopened : opened + depth = maxNesting)
    (hc : ∀ read ∈ builder.inner? depth, read.Counted (opened + 1)) :
    Counted (builder.factor opened (builder.inner? depth)) opened := by
  intro tokens failure hf
  cases tokens with
  | nil =>
    cases hf
    exact halts_at_once (.unexpectedEnd .factor) rfl
  | cons token later =>
    obtain ⟨lexeme, place⟩ := token
    cases lexeme with
    | number value => exact absurd hf (factor_number value).not_fails
    | identifier name => exact absurd hf (factor_identifier name).not_fails
    | ending =>
      cases hf
      exact halts_at_once (.unexpectedToken .ending .factor) rfl
    | symbol symbol =>
      by_cases hs : symbol = "("
      · subst hs
        cases depth with
        | zero =>
          cases (factor_too_deep opened place later).symm.trans hf
          obtain rfl : opened = maxNesting := hopened
          exact halts_at_once _ (refuses_too_deep place later)
        | succ depth => exact parentheses_counted (by omega) (by omega) (hc _ rfl) hf
      · cases (factor_symbol opened _ place later hs).symm.trans hf
        exact halts_at_once _ (refuses_symbol opened place later hs)

theorem expression_counted_over (hopened : opened + depth = maxNesting)
    (hc : ∀ read ∈ builder.inner? depth, read.Counted (opened + 1)) :
    Counted (builder.expression depth) opened := by
  have hnesting : maxNesting - depth = opened := by omega
  have hexpression : Balances opened (Inside (depth + 1)) := balances_inside (by omega)
  have hfactor := factor_counted hopened hc
  have hterm := leftChain_counted (factor_recognizes_factor _ depth)
    (fun _ _ hf => hexpression _ _ (expression_of_factor hf))
    (List.subset_append_right sums products) hfactor
  rw [Builder.expression_eq, hnesting]
  exact leftChain_counted (term_recognizes_term _ depth) (fun _ _ ht => hexpression _ _ (.single ht))
    (List.subset_append_left sums products) hterm

theorem expression_counted (hopened : opened + depth = maxNesting) :
    Counted (builder.expression depth) opened := by
  induction depth generalizing opened with
  | zero =>
    refine expression_counted_over hopened fun read hr => ?_
    cases hr
  | succ depth ih =>
    refine expression_counted_over hopened fun read hr => ?_
    cases hr
    exact ih (by omega)

theorem parse_halts (h : parse tokens = .error failure) : Halts 0 tokens failure := by
  have hrec := expression_recognizes_expression maxNesting
  rcases (builder.expression maxNesting).reads_or_fails tokens with
    ⟨tree, rest, hr⟩ | ⟨failure', hf⟩
  · obtain ⟨taken, rfl, he, hstops⟩ := hrec.sound hr
    have hwhole : Balances 0 (Inside (maxNesting + 1)) := balances_inside (by omega)
    have hpasses : Passes start taken ⟨.operator, 0⟩ := hwhole _ _ he
    cases rest with
    | nil => cases (whole_reads hr).symm.trans h
    | cons token rest =>
      cases (whole_trailing hr).symm.trans h
      refine ⟨taken, ⟨.operator, 0⟩, rfl, hpasses, ?_, rfl⟩
      simp only [Refuses, step, not_isOperator hstops, if_false, Bool.false_eq_true]
      rfl
  · cases (whole_fails hf).symm.trans h
    exact expression_counted (Nat.zero_add _) _ _ hf

theorem run_of_parse {tree : Tree} (h : parse tokens = .ok tree) : start.run 0 tokens = .ok () := by
  have hwhole : Balances 0 (Inside (maxNesting + 1)) := balances_inside (by omega)
  have hp : Passes start tokens ⟨.operator, 0⟩ := hwhole _ _ (inside_of_parse h)
  have hr := hp 0 []
  rwa [List.append_nil] at hr

theorem session_halts (h : parse tokens = .error failure) : ∃ halt,
    start.run 0 tokens = .error halt ∧ (failure.diagnostic tokens).message = halt.message ∧
    (Session.ofTokens tokens).parse =
      (.error (failure.diagnostic tokens), ⟨tokens, halt.index, halt.counter.nesting⟩) := by
  obtain ⟨taken, counter, rfl, hp, hr, hn⟩ := parse_halts h
  refine ⟨⟨failure.fault.message, taken.length, counter⟩, ?_, rfl, ?_⟩
  · have hrun := (hp 0 failure.rest).trans (run_of_refuses hr _)
    rwa [Nat.zero_add] at hrun
  · rw [hn]
    exact session_fails h

theorem parser_counts_parentheses (tokens : List Token) :
    ((∃ tree, parse tokens = .ok tree) ↔ start.run 0 tokens = .ok ()) ∧
    ∀ halt, start.run 0 tokens = .error halt → ∃ failure, parse tokens = .error failure ∧
      (failure.diagnostic tokens).message = halt.message ∧
      (Session.ofTokens tokens).parse =
        (.error (failure.diagnostic tokens), ⟨tokens, halt.index, halt.counter.nesting⟩) := by
  cases hp : parse tokens with
  | ok tree =>
    have hrun := run_of_parse hp
    refine ⟨⟨fun _ => hrun, fun _ => ⟨tree, rfl⟩⟩, ?_⟩
    intro halt hhalt
    cases hrun.symm.trans hhalt
  | error failure =>
    obtain ⟨halt, hrun, hmessage, hsession⟩ := session_halts hp
    constructor
    · constructor
      · rintro ⟨_, ⟨⟩⟩
      · intro haccepts
        cases hrun.symm.trans haccepts
    · intro halt' hhalt
      cases hrun.symm.trans hhalt
      exact ⟨failure, rfl, hmessage, hsession⟩

theorem second_name_stops_count :
    ∃ failure, parse (Scan.ofText "(a+(b c").tokens = .error failure ∧
      (failure.diagnostic (Scan.ofText "(a+(b c").tokens).message =
        "token `c` is not expected, want `)`" ∧
      (Session.ofTokens (Scan.ofText "(a+(b c").tokens).parse =
        (.error (failure.diagnostic (Scan.ofText "(a+(b c").tokens),
          ⟨(Scan.ofText "(a+(b c").tokens, 5, 1⟩) := by
  have hrun : start.run 0 (Scan.ofText "(a+(b c").tokens =
      .error ⟨"token `c` is not expected, want `)`", 5, ⟨.operator, 2⟩⟩ := by
    decide +kernel
  exact (parser_counts_parentheses _).2 _ hrun

end Tree

end Calculator
