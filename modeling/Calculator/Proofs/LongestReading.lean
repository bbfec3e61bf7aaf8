import Calculator.Parser.Session
import Calculator.Proofs.Recognition

/-!
How much a reading takes, from any state of a session. It takes the longest phrase at which the tokens
left begin, and there is no result at all where an operator of the phrase follows that none of its
operands follows in turn.
-/

namespace Calculator

open Grammar

structure Beginning (phrase : Phrase) (follow : List String) (tokens taken : List Token)
    (tree : Tree) (rest : List Token) : Prop where
  split : tokens = taken ++ rest
  phrase : phrase taken tree
  stops : ¬ Begins follow rest

structure TakesLongest (phrase : Nat → Phrase) (follow : List String) (depth : Nat)
    (tokens : List Token) (outcome : Except Diagnostic (Tree × List Token)) : Prop where
  returns_iff : ∀ tree rest, outcome = .ok (tree, rest) ↔
    ∃ taken, Beginning (phrase depth) follow tokens taken tree rest
  unique : ∀ {taken taken' tree tree' rest rest'},
    Beginning (phrase depth) follow tokens taken tree rest →
    Beginning (phrase depth) follow tokens taken' tree' rest' → taken = taken' ∧ tree = tree'
  longest : ∀ {taken tree rest}, Beginning (phrase depth) follow tokens taken tree rest →
    ∀ {deeper longer tree'}, longer <+: tokens → phrase deeper longer tree' →
      longer.length ≤ taken.length
  fails : (¬ ∃ taken tree rest, Beginning (phrase depth) follow tokens taken tree rest) →
    ∃ diagnostic, outcome = .error diagnostic ∧ diagnostic.stage = .parsing

def Session.outcome (response : Except Diagnostic Tree × Session) :
    Except Diagnostic (Tree × List Token) :=
  response.1.map fun tree => (tree, response.2.remaining)

namespace Reader

variable {read : Reader Id Tree} {follow : List String} {phrase : Phrase}
variable {tokens taken taken' rest rest' more longer : List Token} {tree tree' : Tree}

theorem Recognizes.reads_iff (h : read.Recognizes follow phrase) :
    read.Reads tokens tree rest ↔ ∃ taken, Beginning phrase follow tokens taken tree rest := by
  constructor
  · intro hr
    obtain ⟨taken, hsplit, hphrase, hstops⟩ := h.sound hr
    exact ⟨taken, hsplit, hphrase, hstops⟩
  · rintro ⟨taken, rfl, hphrase, hstops⟩
    exact h.complete hphrase hstops

theorem Recognizes.beginning_unique (h : read.Recognizes follow phrase)
    (hb : Beginning phrase follow tokens taken tree rest)
    (hb' : Beginning phrase follow tokens taken' tree' rest') : taken = taken' ∧ tree = tree' := by
  obtain ⟨rfl, rfl⟩ := (h.reads_iff.mpr ⟨taken, hb⟩).unique (h.reads_iff.mpr ⟨taken', hb'⟩)
  exact ⟨List.append_cancel_right (hb.split.symm.trans hb'.split), rfl⟩

theorem not_begins_of_append (h : ¬ Begins follow (more ++ rest)) (hne : more ≠ []) :
    ¬ Begins follow more := by
  rintro ⟨symbol, place, later, mem, rfl⟩
  exact h ⟨symbol, place, later ++ rest, mem, rfl⟩

-- Read on its own, the longer phrase would have to end where the shorter one does.
theorem Recognizes.not_longer (h : read.Recognizes follow phrase) (ht : phrase taken tree)
    (hl : phrase (taken ++ more) tree') (hstops : ¬ Begins follow more) : more = [] := by
  have hshort : read.Reads (taken ++ more) tree more := h.complete ht hstops
  have hlong : read.Reads (taken ++ more ++ []) tree' [] := h.complete hl (not_begins_nil follow)
  rw [List.append_nil] at hlong
  exact (hshort.unique hlong).2

def outcome (read : Reader Id Tree) (all tokens : List Token) :
    Except Diagnostic (Tree × List Token) :=
  (read.result tokens).mapError (·.diagnostic all)

theorem outcome_of_reads (all : List Token) (h : read.Reads tokens tree rest) :
    read.outcome all tokens = .ok (tree, rest) := by
  rw [outcome, result_eq_ok_iff.mpr h]
  rfl

theorem outcome_of_fails (all : List Token) {failure : Failure} (h : read.Fails tokens failure) :
    read.outcome all tokens = .error (failure.diagnostic all) := by
  rw [outcome, result_eq_error_iff.mpr h]
  rfl

theorem outcome_eq_ok_iff (all : List Token) :
    read.outcome all tokens = .ok (tree, rest) ↔ read.Reads tokens tree rest := by
  rw [outcome, ← result_eq_ok_iff]
  cases read.result tokens with
  | ok found => constructor <;> intro h <;> cases h <;> rfl
  | error failure => constructor <;> intro h <;> cases h

theorem takesLongest {phrase : Nat → Phrase} {reader : Nat → Reader Id Tree}
    (h : ∀ depth, (reader depth).Recognizes follow (phrase depth))
    (mono : ∀ {depth deeper tokens tree}, depth ≤ deeper → phrase depth tokens tree →
      phrase deeper tokens tree) (depth : Nat) (all tokens : List Token) :
    TakesLongest phrase follow depth tokens ((reader depth).outcome all tokens) where
  returns_iff := fun tree rest => (outcome_eq_ok_iff all).trans (h depth).reads_iff
  unique := fun hb hb' => (h depth).beginning_unique hb hb'
  longest := by
    intro taken tree rest hb deeper longer tree' hlonger hphrase
    apply Nat.le_of_not_lt
    intro hlt
    have htaken : taken <+: tokens := ⟨rest, hb.split.symm⟩
    obtain ⟨more, rfl⟩ := List.prefix_of_prefix_length_le htaken hlonger (Nat.le_of_lt hlt)
    obtain ⟨later, hlater⟩ := hlonger
    have hne : more ≠ [] := by
      rintro rfl
      simp at hlt
    have hrest : rest = more ++ later := by
      rw [hb.split, List.append_assoc] at hlater
      exact (List.append_cancel_left hlater).symm
    have hstops : ¬ Begins follow more := not_begins_of_append (hrest ▸ hb.stops) hne
    have ht := mono (Nat.le_max_left depth deeper) hb.phrase
    have hl := mono (Nat.le_max_right depth deeper) hphrase
    exact hne ((h _).not_longer ht hl hstops)
  fails := by
    intro hnone
    rcases (reader depth).reads_or_fails tokens with ⟨tree, rest, hr⟩ | ⟨failure, hf⟩
    · obtain ⟨taken, hb⟩ := (h depth).reads_iff.mp hr
      exact absurd ⟨taken, tree, rest, hb⟩ hnone
    · exact ⟨_, outcome_of_fails all hf, rfl⟩

end Reader

namespace Session

open Reader

variable {read : Reader Id Tree} {follow : List String} {phrase : Phrase} {session : Session}

theorem remaining_leaving {taken rest : List Token} (h : session.remaining = taken ++ rest)
    (nesting : Nat) : (session.leaving rest nesting).remaining = rest := by
  have hl : session.remaining.length - rest.length = taken.length := by
    rw [h, List.length_append]
    omega
  have hd : session.tokens.drop session.offset = taken ++ rest := h
  rw [remaining, leaving, hl, ← List.drop_drop, hd, List.drop_left]

theorem outcome_read (h : read.Recognizes follow phrase) :
    outcome (session.read read) = read.outcome session.tokens session.remaining := by
  rcases read.reads_or_fails session.remaining with ⟨tree, rest, hr⟩ | ⟨failure, hf⟩
  · obtain ⟨taken, hb⟩ := h.reads_iff.mp hr
    rw [outcome_of_reads _ hr]
    obtain ⟨_, hr⟩ := hr
    simp only [outcome, Session.read, hr, Except.map, remaining_leaving hb.split]
  · rw [outcome_of_fails _ hf]
    have hr : (read session.remaining).run = .error failure := hf
    simp only [outcome, Session.read, hr, Session.fail, Except.map]

end Session

namespace Tree

open Reader

section Dangling

variable {symbols follow : List String} {operand : Reader Id Tree} {phrase : Phrase} {depth : Nat}
variable {taken rest : List Token} {tree : Tree} {failure : Failure} {symbol : String}
variable {place : Position}

theorem leftChain_fails_behind (h : operand.Recognizes follow phrase)
    (apart : ∀ symbol ∈ symbols, symbol ∉ follow) (hfold : LeftFold symbols phrase taken tree)
    (mem : symbol ∈ symbols) (hf : operand.Fails rest failure) :
    Fails (builder.leftChain symbols operand) (taken ++ ⟨.symbol symbol, place⟩ :: rest) failure := by
  have hb : ¬ Begins follow (⟨.symbol symbol, place⟩ :: rest) :=
    fun hb => apart symbol mem (begins_cons_iff.mp hb)
  obtain ⟨shorter, he⟩ := leftChain_append h apart hfold hb
  rw [Fails, he]
  exact chain_fails mem hf shorter

theorem term_fails_behind (nesting : Nat) (h : Term depth taken tree) (mem : symbol ∈ products)
    (hf : Fails (builder.factor nesting (builder.inner? depth)) rest failure) :
    Fails (builder.term nesting (builder.inner? depth)) (taken ++ ⟨.symbol symbol, place⟩ :: rest)
      failure :=
  leftChain_fails_behind (factor_recognizes_factor nesting depth) (by simp) h mem hf

theorem expression_fails_behind (h : Expression depth taken tree)
    (mem : symbol ∈ sums ++ products)
    (hf : Fails (builder.factor (maxNesting - depth) (builder.inner? depth)) rest failure) :
    Fails (builder.expression depth) (taken ++ ⟨.symbol symbol, place⟩ :: rest) failure := by
  have hterm := term_recognizes_term (maxNesting - depth) depth
  rw [Builder.expression_eq]
  rcases List.mem_append.mp mem with hs | hp
  · exact leftChain_fails_behind hterm sums_apart h hs (leftChain_fails products hf)
  · cases h with
    | single only => exact leftChain_fails sums (term_fails_behind _ only hp hf)
    | snoc initial mem' last =>
      rw [List.append_assoc, List.cons_append]
      exact leftChain_fails_behind hterm sums_apart initial mem' (term_fails_behind _ last hp hf)

theorem factor_fails_of_none (nesting : Nat)
    (h : ∀ begun operand, begun <+: rest → ¬ Factor depth begun operand) :
    ∃ failure, Fails (builder.factor nesting (builder.inner? depth)) rest failure := by
  rcases reads_or_fails (builder.factor nesting (builder.inner? depth)) rest with
    ⟨operand, later, hr⟩ | hf
  · obtain ⟨begun, hb⟩ := (factor_recognizes_factor nesting depth).reads_iff.mp hr
    exact absurd hb.phrase (h begun operand ⟨later, hb.split.symm⟩)
  · exact hf

end Dangling

theorem readers_take_longest :
    (∀ (session : Session) (depth : Nat), session.nesting + depth = maxNesting →
      TakesLongest Expression (sums ++ products) depth session.remaining
        (Session.outcome session.expression) ∧
      TakesLongest Term products depth session.remaining (Session.outcome session.term) ∧
      TakesLongest Factor [] depth session.remaining (Session.outcome session.factor)) ∧
    (∀ tokens, (parseFirst tokens).mapError (·.diagnostic tokens) =
      Session.outcome (Session.ofTokens tokens).expression) ∧
    ∀ taken tree symbol place rest, Expression maxNesting taken tree →
      symbol ∈ sums ++ products →
      (∀ begun operand, begun <+: rest → ¬ Factor maxNesting begun operand) →
      ∃ failure, parseFirst (taken ++ ⟨.symbol symbol, place⟩ :: rest) = .error failure := by
  refine ⟨?_, ?_, ?_⟩
  · intro session depth hdepth
    obtain rfl : session.depth = depth := by
      rw [Session.depth]
      omega
    refine ⟨?_, ?_, ?_⟩
    · rw [Session.expression, Session.outcome_read (expression_recognizes_expression _)]
      exact takesLongest expression_recognizes_expression expression_mono _ _ _
    · rw [Session.term, Session.outcome_read (term_recognizes_term _ _)]
      exact takesLongest (term_recognizes_term session.nesting) term_mono _ _ _
    · rw [Session.factor, Session.outcome_read (factor_recognizes_factor _ _)]
      exact takesLongest (factor_recognizes_factor session.nesting) factor_mono _ _ _
  · intro tokens
    rw [Session.expression, Session.outcome_read (expression_recognizes_expression _)]
    rfl
  · intro taken tree symbol place rest he mem hnone
    obtain ⟨failure, hf⟩ := factor_fails_of_none (maxNesting - maxNesting) hnone
    have hr : Fails (builder.expression maxNesting) (taken ++ ⟨.symbol symbol, place⟩ :: rest)
        failure := expression_fails_behind he mem hf
    exact ⟨failure, by rw [parseFirst, show _ = _ from hr]; rfl⟩

theorem sum_taken_up_to_closing :
    Session.outcome (Session.expression ⟨[⟨.symbol "(", ⟨1, 0⟩⟩, ⟨.identifier "x", ⟨1, 1⟩⟩,
      ⟨.symbol "+", ⟨1, 2⟩⟩, ⟨.number 7, ⟨1, 3⟩⟩, ⟨.symbol ")", ⟨1, 4⟩⟩], 1, 150⟩) =
        .ok (.node ⟨"+", ⟨1, 2⟩⟩ (.identifier "x" ⟨1, 1⟩) (.number 7 ⟨1, 3⟩),
          [⟨.symbol ")", ⟨1, 4⟩⟩]) ∧
    ∃ failure, parseFirst [⟨.identifier "x", ⟨1, 0⟩⟩, ⟨.symbol "+", ⟨1, 1⟩⟩] = .error failure := by
  have hx {depth : Nat} (place : Position) : Expression depth [⟨.identifier "x", place⟩] _ :=
    expression_of_factor (.identifier "x" place)
  constructor
  · have he : Expression 50 ([⟨.identifier "x", ⟨1, 1⟩⟩] ++ ⟨.symbol "+", ⟨1, 2⟩⟩ ::
        [⟨.number 7, ⟨1, 3⟩⟩]) _ :=
      expression_of_operation ⟨1, 2⟩ (by decide) (.identifier "x" ⟨1, 1⟩) (.number 7 ⟨1, 3⟩)
    have hstops : ¬ Begins (sums ++ products) [⟨.symbol ")", ⟨1, 4⟩⟩] := by
      rw [begins_cons_iff]
      decide
    apply ((readers_take_longest.1 _ 50 rfl).1.returns_iff _ _).mpr
    exact ⟨_, rfl, he, hstops⟩
  · refine readers_take_longest.2.2 [_] _ "+" _ [] (hx ⟨1, 0⟩) (by decide) ?_
    intro begun operand hb hf
    rw [List.prefix_nil.mp hb] at hf
    cases hf

end Tree

end Calculator
