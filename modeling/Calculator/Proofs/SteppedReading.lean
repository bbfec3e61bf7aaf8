import Calculator.Proofs.Stepping
import Calculator.Proofs.Failures

namespace Calculator

namespace Session

open Stepper

variable {session : Session} {tokens rest : List Token} {token : Token} {opened : Nat}
variable {symbols : List String} {symbol : String} {place : Position}

def stepper (session : Session) : Stepper :=
  ⟨session.tokens, session.offset, session.current?, session.nesting⟩

def leftAt (session : Session) (rest : List Token) (opened : Nat) : Stepper :=
  (session.leaving rest opened).stepper

theorem advance_stepper (session : Session) : session.stepper.advance = session.advance.stepper := by
  have hc := session.stepper.advance_current?
  rw [Stepper.advance] at hc ⊢
  simp only [stepper] at hc ⊢
  rw [hc]
  rfl

theorem leaving_remaining (session : Session) :
    session.leaving session.remaining session.nesting = session := by
  rw [leaving, Nat.sub_self, Nat.add_zero]

theorem current?_eq_head? (session : Session) : session.current? = session.remaining.head? := by
  rw [current?, remaining, List.head?_drop]

theorem current?_leftAt (h : rest <:+ session.remaining) (opened : Nat) :
    (session.leftAt rest opened).current? = rest.head? := by
  obtain ⟨taken, hsplit⟩ := h
  have hc := current?_eq_head? (session.leaving rest opened)
  rw [remaining_leaving hsplit.symm] at hc
  exact hc

theorem advance_leftAt (h : token :: rest <:+ session.remaining) (opened : Nat) :
    (session.leftAt (token :: rest) opened).advance = session.leftAt rest opened := by
  have hl := h.length_le
  have he : (session.leaving (token :: rest) opened).advance = session.leaving rest opened := by
    simp only [Session.advance, leaving, List.length_cons, Session.mk.injEq, true_and, and_true] at hl ⊢
    omega
  rw [leftAt, advance_stepper, he]
  rfl

theorem fail_leftAt (h : rest <:+ session.remaining) (fault : Fault) (opened : Nat) :
    (session.leftAt rest opened).fail fault =
      (.error ((⟨fault, rest, opened⟩ : Failure).diagnostic session.tokens),
        session.leftAt rest opened) := by
  rw [Stepper.fail, Stepper.diagnose, current?_leftAt h]
  cases rest with
  | nil => rfl
  | cons token rest => rfl

theorem isSymbol_iff_begins {token : Token} :
    token.isSymbol symbols = true ↔ Begins symbols (token :: rest) := by
  obtain ⟨lexeme, place⟩ := token
  cases lexeme with
  | symbol symbol => rw [begins_cons_iff, Token.isSymbol, List.contains_iff_mem]
  | number value => simp [Token.isSymbol, Begins]
  | identifier name => simp [Token.isSymbol, Begins]
  | ending => simp [Token.isSymbol, Begins]

theorem isSymbol_leftAt (h : rest <:+ session.remaining) (opened : Nat) :
    (session.leftAt rest opened).isSymbol symbols = true ↔ Begins symbols rest := by
  rw [Stepper.isSymbol, current?_leftAt h]
  cases rest with
  | nil => simp [not_begins_nil]
  | cons token later => exact isSymbol_iff_begins

theorem operator?_of_begins (h : ⟨.symbol symbol, place⟩ :: rest <:+ session.remaining)
    (mem : symbol ∈ symbols) (opened : Nat) :
    (session.leftAt (⟨.symbol symbol, place⟩ :: rest) opened).operator? symbols =
      some ⟨symbol, place⟩ := by
  rw [operator?, current?_leftAt h]
  simp [Token.isSymbol, mem, Token.text, Lexeme.text]

theorem operator?_of_not_begins (h : rest <:+ session.remaining) (hb : ¬ Begins symbols rest)
    (opened : Nat) : (session.leftAt rest opened).operator? symbols = none := by
  rw [operator?, current?_leftAt h]
  cases rest with
  | nil => rfl
  | cons token later =>
    have hn := Bool.eq_false_of_not_eq_true (mt isSymbol_iff_begins.mp hb)
    rw [List.head?_cons, Option.filter_some_neg hn]
    rfl

def settle {bound : Nat} (session : Session) (opened : Nat) :
    Except Failure (Parsed Tree bound) → Outcome
  | .ok parsed => (.ok parsed.value, session.leftAt parsed.rest opened)
  | .error failure =>
    (.error (failure.diagnostic session.tokens), session.leftAt failure.rest failure.nesting)

theorem settle_reads {read : Reader Id Tree} {tree : Tree} (session : Session) (opened : Nat)
    (h : read.Reads tokens tree rest) :
    session.settle opened (read tokens).run = (.ok tree, session.leftAt rest opened) := by
  obtain ⟨shorter, he⟩ := h
  rw [he]
  rfl

theorem settle_fails {read : Reader Id Tree} {failure : Failure} (session : Session) (opened : Nat)
    (h : read.Fails tokens failure) : session.settle opened (read tokens).run =
      (.error (failure.diagnostic session.tokens),
        session.leftAt failure.rest failure.nesting) := by
  have he : (read tokens).run = .error failure := h
  rw [he]
  rfl

end Session

namespace Tree

open Reader Stepper

variable {level : Level} {operand : Reader Id Tree} {call : Call} {opened depth bound : Nat}
variable {session : Session} {tokens rest : List Token} {left tree : Tree} {follow : List String}
variable {phrase : Grammar.Phrase} {read : Reader Id Tree} {failure : Failure}

def Follows (call : Call) (read : Reader Id Tree) (opened : Nat) : Prop :=
  ∀ (session : Session) (tokens : List Token), tokens <:+ session.remaining →
    Runs call (session.leftAt tokens opened) (session.settle opened (read tokens).run)

theorem Follows.reads (h : Follows call read opened) (hs : tokens <:+ session.remaining)
    (hr : read.Reads tokens tree rest) :
    Runs call (session.leftAt tokens opened) (.ok tree, session.leftAt rest opened) := by
  have hrun := h session tokens hs
  rw [Session.settle_reads session opened hr] at hrun
  exact hrun

theorem Follows.fails (h : Follows call read opened) (hs : tokens <:+ session.remaining)
    (hf : read.Fails tokens failure) : Runs call (session.leftAt tokens opened)
      (.error (failure.diagnostic session.tokens), session.leftAt failure.rest failure.nesting) := by
  have hrun := h session tokens hs
  rw [Session.settle_fails session opened hf] at hrun
  exact hrun

-- The tokens get fewer with each operator, as its operand takes some of them.
theorem chain_follows (h : Follows level.operand operand opened)
    (hr : operand.Recognizes follow phrase) (hs : tokens <:+ session.remaining)
    (shorter : tokens.length < bound) :
    Runs (.more level left) (session.leftAt tokens opened)
      (session.settle opened (builder.chain level.symbols operand left tokens shorter).run) := by
  induction hn : tokens.length using Nat.strongRecOn generalizing left tokens with
  | _ n ih =>
  by_cases hb : Begins level.symbols tokens
  · obtain ⟨symbol, place, tail, mem, rfl⟩ := hb
    have ho := Session.operator?_of_begins hs mem opened
    have hadvance := Session.advance_leftAt hs opened
    have htail : tail <:+ session.remaining := (List.suffix_cons _ _).trans hs
    rcases operand.reads_or_fails tail with ⟨right, later, hread⟩ | ⟨failure, hf⟩
    · obtain ⟨hlater, he⟩ := chain_next left mem hread shorter
      obtain ⟨taken, rfl, -, -⟩ := hr.sound hread
      have hless : later.length < n := by
        simp only [List.length_cons, List.length_append] at hn
        omega
      rw [he]
      apply Runs.next ho
      · rw [hadvance]
        exact h.reads htail hread
      · exact ih _ hless ((List.suffix_append _ _).trans htail) hlater rfl
    · rw [chain_fails mem hf]
      apply Runs.nextRaised ho
      rw [hadvance]
      exact h.fails htail hf
  · rw [chain_stop hb]
    exact .stop (Session.operator?_of_not_begins hs hb opened)

theorem leftChain_follows (h : Follows level.operand operand opened)
    (hr : operand.Recognizes follow phrase) :
    Follows (.chain level) (builder.leftChain level.symbols operand) opened := by
  intro session tokens hs
  rcases operand.reads_or_fails tokens with ⟨left, later, hread⟩ | ⟨failure, hf⟩
  · obtain ⟨shorter, he⟩ := leftChain_next level.symbols hread
    obtain ⟨taken, rfl, -, -⟩ := hr.sound hread
    rw [he]
    apply Runs.chain (h.reads hs hread)
    exact chain_follows h hr ((List.suffix_append _ _).trans hs) shorter
  · rw [Session.settle_fails session opened (leftChain_fails level.symbols hf)]
    exact .chainRaised (h.fails hs hf)

theorem leave_leftAt (rest : List Token) (opened : Nat) :
    (session.leftAt rest (opened + 1)).leave = session.leftAt rest opened := rfl

theorem close_closing {place : Position} (hs : ⟨.symbol ")", place⟩ :: rest <:+ session.remaining) :
    (session.leftAt (⟨.symbol ")", place⟩ :: rest) (opened + 1)).close tree =
      (.ok tree, session.leftAt rest opened) := by
  have hc := (Session.isSymbol_leftAt hs opened).mpr (begins_cons_iff.mpr (List.mem_singleton.mpr rfl))
  rw [close, leave_leftAt, if_pos hc, Session.advance_leftAt hs]

theorem close_unclosed (hs : rest <:+ session.remaining) (hb : ¬ Begins [")"] rest) :
    (session.leftAt rest (opened + 1)).close tree =
      (.error ((unclosed opened rest).diagnostic session.tokens),
        session.leftAt (unclosed opened rest).rest opened) := by
  have hc := mt (Session.isSymbol_leftAt hs opened).mp hb
  rw [close, leave_leftAt, if_neg hc, Session.current?_leftAt hs]
  cases rest with
  | nil => exact Session.fail_leftAt hs _ opened
  | cons token later => exact Session.fail_leftAt hs _ opened

theorem look_opening {place : Position} (hlimit : opened ≠ maxNesting)
    (hs : ⟨.symbol "(", place⟩ :: tokens <:+ session.remaining) :
    (session.leftAt (⟨.symbol "(", place⟩ :: tokens) opened).look =
      .inside (session.leftAt tokens (opened + 1)) := by
  have hc := (Session.isSymbol_leftAt hs opened).mpr (begins_cons_iff.mpr (List.mem_singleton.mpr rfl))
  have hn : ¬ (session.leftAt (⟨.symbol "(", place⟩ :: tokens) opened).nesting = maxNesting := hlimit
  rw [look, Session.current?_leftAt hs, List.head?_cons]
  simp only [hc, hn, if_true, if_false, Session.advance_leftAt hs]
  rfl

theorem parentheses_follows {place : Position} (hlimit : opened ≠ maxNesting)
    (h : Follows (.chain .sum) read (opened + 1)) (hr : read.Recognizes follow phrase)
    (hs : ⟨.symbol "(", place⟩ :: tokens <:+ session.remaining) :
    Runs .factor (session.leftAt (⟨.symbol "(", place⟩ :: tokens) opened) (session.settle opened
      (builder.factor opened (some read) (⟨.symbol "(", place⟩ :: tokens)).run) := by
  have hl := look_opening hlimit hs
  have htail : tokens <:+ session.remaining := (List.suffix_cons _ _).trans hs
  rcases read.reads_or_fails tokens with ⟨tree, later, hread⟩ | ⟨failure, hf⟩
  · have hrun := Runs.inside hl (h.reads htail hread)
    obtain ⟨taken, rfl, -, -⟩ := hr.sound hread
    have hlater : later <:+ session.remaining := (List.suffix_append _ _).trans htail
    by_cases hb : Begins [")"] later
    · obtain ⟨symbol, closing, after, mem, rfl⟩ := hb
      cases List.mem_singleton.mp mem
      rw [close_closing hlater] at hrun
      rw [Session.settle_reads session opened (factor_parentheses opened place hread)]
      exact hrun
    · have hnesting : (unclosed opened later).nesting = opened := by
        cases later <;> rfl
      rw [close_unclosed hlater hb] at hrun
      rw [Session.settle_fails session opened (factor_unclosed opened place hread hb), hnesting]
      exact hrun
  · rw [Session.settle_fails session opened (factor_inner_fails opened place hf)]
    exact .insideRaised hl (h.fails htail hf)

theorem look_other {token : Token} (hs : token :: rest <:+ session.remaining)
    (hn : ∀ value, token.lexeme ≠ .number value) (hi : ∀ name, token.lexeme ≠ .identifier name)
    (ho : token.lexeme ≠ .symbol "(") : (session.leftAt (token :: rest) opened).look =
      .read ((session.leftAt (token :: rest) opened).fail (.unexpectedToken token.lexeme .factor)) := by
  have hb : ¬ Begins ["("] (token :: rest) := by
    rintro ⟨symbol, place, later, mem, he⟩
    cases List.mem_singleton.mp mem
    cases he
    exact ho rfl
  have hc := mt (Session.isSymbol_leftAt hs opened).mp hb
  obtain ⟨lexeme, place⟩ := token
  rw [look, Session.current?_leftAt hs, List.head?_cons]
  cases lexeme with
  | number value => exact absurd rfl (hn value)
  | identifier name => exact absurd rfl (hi name)
  | symbol symbol => exact if_neg hc
  | ending => exact if_neg hc

theorem look_too_deep {place : Position} (hs : ⟨.symbol "(", place⟩ :: rest <:+ session.remaining) :
    (session.leftAt (⟨.symbol "(", place⟩ :: rest) maxNesting).look =
      .read ((session.leftAt (⟨.symbol "(", place⟩ :: rest) maxNesting).fail .nestingTooDeep) := by
  have hc := (Session.isSymbol_leftAt hs maxNesting).mpr
    (begins_cons_iff.mpr (List.mem_singleton.mpr rfl))
  have hn : (session.leftAt (⟨.symbol "(", place⟩ :: rest) maxNesting).nesting = maxNesting := rfl
  rw [look, Session.current?_leftAt hs, List.head?_cons]
  simp only [hc, hn, if_true]

theorem factor_follows (ho : opened + depth = maxNesting)
    (h : ∀ read ∈ builder.inner? depth, Follows (.chain .sum) read (opened + 1)) :
    Follows .factor (builder.factor opened (builder.inner? depth)) opened := by
  intro session tokens hs
  cases tokens with
  | nil =>
    apply Runs.factor
    rw [look, Session.current?_leftAt hs]
    exact congrArg Look.read (Session.fail_leftAt hs (.unexpectedEnd .factor) opened)
  | cons token later =>
    obtain ⟨lexeme, place⟩ := token
    have hc := Session.current?_leftAt hs opened
    have hadvance := Session.advance_leftAt hs opened
    cases lexeme with
    | number value =>
      apply Runs.factor
      rw [look, hc, List.head?_cons, hadvance]
      rfl
    | identifier name =>
      apply Runs.factor
      rw [look, hc, List.head?_cons, hadvance]
      rfl
    | ending =>
      apply Runs.factor
      rw [look_other hs (by simp) (by simp) (by simp), Session.fail_leftAt hs]
      rfl
    | symbol symbol =>
      by_cases hsymbol : symbol = "("
      · subst hsymbol
        cases depth with
        | zero =>
          apply Runs.factor
          obtain rfl : opened = maxNesting := ho
          rw [look_too_deep hs, Session.fail_leftAt hs]
          rfl
        | succ depth =>
          exact parentheses_follows (by omega) (h _ rfl) (expression_recognizes_expression depth) hs
      · apply Runs.factor
        rw [look_other hs (by simp) (by simp) (by simpa using hsymbol), Session.fail_leftAt hs,
          Session.settle_fails session opened (factor_symbol opened _ place later hsymbol)]

theorem expression_follows_over (ho : opened + depth = maxNesting)
    (h : ∀ read ∈ builder.inner? depth, Follows (.chain .sum) read (opened + 1)) :
    Follows (.chain .product) (builder.term opened (builder.inner? depth)) opened ∧
      Follows (.chain .sum) (builder.expression depth) opened := by
  have hnesting : maxNesting - depth = opened := by omega
  have hterm : Follows (.chain .product) (builder.term opened (builder.inner? depth)) opened :=
    leftChain_follows (factor_follows ho h) (factor_recognizes_factor opened depth)
  refine ⟨hterm, ?_⟩
  rw [Builder.expression_eq, hnesting]
  exact leftChain_follows hterm (term_recognizes_term opened depth)

theorem inner?_follows (ho : opened + depth = maxNesting) :
    ∀ read ∈ builder.inner? depth, Follows (.chain .sum) read (opened + 1) := by
  induction depth generalizing opened with
  | zero =>
    intro read hr
    cases hr
  | succ depth ih =>
    intro read hr
    cases hr
    have hdepth : opened + 1 + depth = maxNesting := by omega
    exact (expression_follows_over hdepth (ih hdepth)).2

end Tree

namespace Session

open Stepper Calculator.Tree

variable {session : Session} {call : Stepper.Call} {read : Reader Id Tree} {command : Command}
variable {response : Response} {next : Stepper} {token : Token} {rest : List Token}

theorem read_runs (h : Follows call read session.nesting) :
    Runs call session.stepper ((session.read read).1, (session.read read).2.stepper) := by
  have hrun := h session session.remaining List.suffix_rfl
  rw [leftAt, leaving_remaining] at hrun
  rw [Session.read]
  cases hr : (read session.remaining).run with
  | ok parsed =>
    rw [hr] at hrun
    exact hrun
  | error failure =>
    rw [hr] at hrun
    exact hrun

theorem diagnose_stepper (session : Session) (message : String) :
    session.stepper.diagnose message = session.diagnose message := by
  rw [Stepper.diagnose, Session.diagnose, stepper, current?_eq_head?]
  cases session.remaining with
  | nil => rfl
  | cons token later => rfl

theorem finish_end (tree : Tree) (opened : Nat) :
    (session.leftAt [] opened).finish tree = (.ok tree, session.leftAt [] opened) := by
  rw [finish, current?_leftAt List.nil_suffix]
  rfl

theorem finish_trailing (h : token :: rest <:+ session.remaining) (tree : Tree) (opened : Nat) :
    (session.leftAt (token :: rest) opened).finish tree =
      (.error ((⟨.trailingToken token.lexeme, token :: rest, opened⟩ : Failure).diagnostic
        session.tokens), session.leftAt (token :: rest) opened) := by
  rw [finish, current?_leftAt h]
  exact fail_leftAt h _ opened

theorem parse_performs (h : session.nesting + session.depth = maxNesting) :
    Performs session.stepper .parse (.tree session.parse.1) session.parse.2.stepper := by
  obtain ⟨-, hf⟩ := expression_follows_over h (inner?_follows h)
  have hstart : session.leftAt session.remaining session.nesting = session.stepper := by
    rw [leftAt, leaving_remaining]
  rw [Session.parse]
  rcases (builder.expression session.depth).reads_or_fails session.remaining with
    ⟨tree, rest, hr⟩ | ⟨failure, hfails⟩
  · have hrun := hf.reads List.suffix_rfl hr
    rw [hstart] at hrun
    have hp := Performs.parse hrun
    obtain ⟨taken, hsplit, -, -⟩ := (expression_recognizes_expression session.depth).sound hr
    cases rest with
    | nil =>
      rw [finish_end] at hp
      rw [whole_reads hr]
      exact hp
    | cons token later =>
      have hnesting : maxNesting - session.depth = session.nesting := by omega
      rw [finish_trailing ⟨taken, hsplit.symm⟩] at hp
      rw [whole_trailing hr, hnesting]
      exact hp
  · have hrun := hf.fails List.suffix_rfl hfails
    rw [hstart] at hrun
    rw [whole_fails hfails]
    exact .parseRaised hrun

theorem perform_performs (h : session.nesting ≤ maxNesting) (command : Command) :
    Performs session.stepper command (session.perform command).1
      (session.perform command).2.stepper := by
  have hdepth : session.nesting + session.depth = maxNesting := by
    rw [depth]
    omega
  have hinner := inner?_follows hdepth
  obtain ⟨hterm, hexpression⟩ := expression_follows_over hdepth hinner
  cases command with
  | expression => exact .expression (read_runs hexpression)
  | term => exact .term (read_runs hterm)
  | factor => exact .factor (read_runs (factor_follows hdepth hinner))
  | parse => exact parse_performs hdepth
  | advance =>
    rw [perform, ← advance_stepper]
    exact .advance
  | remaining => exact .remaining
  | endPosition => exact .endPosition
  | isSymbol symbols => exact .isSymbol symbols
  | error message =>
    rw [perform, ← diagnose_stepper]
    exact .error message

theorem performs_iff (h : session.nesting ≤ maxNesting) :
    Performs session.stepper command response next ↔
      response = (session.perform command).1 ∧ next = (session.perform command).2.stepper := by
  have hp := perform_performs h command
  constructor
  · exact fun hn => hn.unique hp
  · rintro ⟨rfl, rfl⟩
    exact hp

end Session

end Calculator
