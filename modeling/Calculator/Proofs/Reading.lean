import Calculator.Parser

namespace Calculator

def Begins (symbols : List String) (tokens : List Token) : Prop :=
  ∃ symbol place rest, symbol ∈ symbols ∧ tokens = ⟨.symbol symbol, place⟩ :: rest

theorem not_begins_nil (symbols : List String) : ¬ Begins symbols [] := by
  rintro ⟨_, _, _, _, h⟩
  cases h

theorem begins_cons_iff {symbols : List String} {symbol : String} {place : Position}
    {rest : List Token} : Begins symbols (⟨.symbol symbol, place⟩ :: rest) ↔ symbol ∈ symbols := by
  constructor
  · rintro ⟨_, _, _, mem, h⟩
    cases h
    exact mem
  · intro mem
    exact ⟨symbol, place, rest, mem, rfl⟩

theorem begins_append_iff {symbols later : List String} {tokens : List Token} :
    Begins (symbols ++ later) tokens ↔ Begins symbols tokens ∨ Begins later tokens := by
  constructor
  · rintro ⟨symbol, place, rest, mem, rfl⟩
    simpa only [begins_cons_iff, List.mem_append] using mem
  · rintro (⟨symbol, place, rest, mem, rfl⟩ | ⟨symbol, place, rest, mem, rfl⟩)
    · exact begins_cons_iff.mpr (List.mem_append_left _ mem)
    · exact begins_cons_iff.mpr (List.mem_append_right _ mem)

namespace Builder

variable {m : Type → Type} [Monad m] {ν : Type} (build : Builder m ν)

theorem chain_stop {symbols : List String} {operand : Reader m ν} {left : ν} {tokens : List Token}
    {bound : Nat} (h : ¬ Begins symbols tokens) (shorter : tokens.length < bound) :
    build.chain symbols operand left tokens shorter = pure (.ok ⟨left, tokens, shorter⟩) := by
  rw [Builder.chain.eq_def]
  cases tokens with
  | nil => rfl
  | cons token rest =>
    obtain ⟨lexeme, place⟩ := token
    cases lexeme with
    | number value => rfl
    | identifier name => rfl
    | ending => rfl
    | symbol symbol =>
      have hm : symbol ∉ symbols := fun mem => h (begins_cons_iff.mpr mem)
      simp only [hm, if_false]

theorem expression_induction {motive : Reader m ν → Prop}
    (sum : ∀ nesting inner, (∀ read ∈ inner, motive read) → motive (build.sum nesting inner))
    (depth : Nat) : motive (build.expression depth) := by
  induction depth with
  | zero => exact sum maxNesting none fun read hr => by cases hr
  | succ depth ih =>
    refine sum _ (some (build.expression depth)) fun read hr => ?_
    cases hr
    exact ih

theorem inner?_of_expression {motive : Reader m ν → Prop}
    (h : ∀ depth, motive (build.expression depth)) (depth : Nat) :
    ∀ read ∈ build.inner? depth, motive read := by
  intro read hr
  cases depth with
  | zero => cases hr
  | succ depth =>
    cases hr
    exact h depth

end Builder

namespace Reader

variable {read : Reader Id Tree} {tokens rest : List Token} {tree : Tree}

def Reads (read : Reader Id Tree) (tokens : List Token) (tree : Tree) (rest : List Token) : Prop :=
  ∃ shorter, (read tokens).run = .ok ⟨tree, rest, shorter⟩

def Fails (read : Reader Id Tree) (tokens : List Token) (failure : Failure) : Prop :=
  (read tokens).run = .error failure

theorem reads_or_fails (read : Reader Id Tree) (tokens : List Token) :
    (∃ tree rest, read.Reads tokens tree rest) ∨ ∃ failure, read.Fails tokens failure := by
  cases h : (read tokens).run with
  | ok parsed => exact .inl ⟨parsed.value, parsed.rest, parsed.shorter, h⟩
  | error failure => exact .inr ⟨failure, h⟩

def bare {bound : Nat} (outcome : Except Failure (Parsed Tree bound)) :
    Except Failure (Tree × List Token) :=
  outcome.map fun parsed => (parsed.value, parsed.rest)

def result (read : Reader Id Tree) (tokens : List Token) : Except Failure (Tree × List Token) :=
  bare (read tokens).run

theorem result_eq_ok_iff : read.result tokens = .ok (tree, rest) ↔ read.Reads tokens tree rest := by
  rw [result]
  constructor
  · intro h
    cases hr : (read tokens).run with
    | ok parsed =>
      rw [hr] at h
      cases h
      exact ⟨parsed.shorter, hr⟩
    | error failure =>
      rw [hr] at h
      cases h
  · rintro ⟨_, hr⟩
    rw [hr]
    rfl

theorem result_eq_error_iff {failure : Failure} :
    read.result tokens = .error failure ↔ read.Fails tokens failure := by
  rw [result, Fails]
  cases (read tokens).run with
  | ok parsed =>
    constructor <;> intro h <;> cases h
  | error failure =>
    constructor <;> intro h <;> cases h <;> rfl

theorem Reads.eq_pure (h : read.Reads tokens tree rest) :
    ∃ shorter, read tokens = pure (.ok ⟨tree, rest, shorter⟩) := h

theorem Fails.eq_pure {failure : Failure} (h : read.Fails tokens failure) :
    read tokens = pure (.error failure) := h

theorem Reads.unique {tree' : Tree} {rest' : List Token} (h : read.Reads tokens tree rest)
    (h' : read.Reads tokens tree' rest') : tree = tree' ∧ rest = rest' := by
  obtain ⟨_, h⟩ := h
  obtain ⟨_, h'⟩ := h'
  cases h.symm.trans h'
  exact ⟨rfl, rfl⟩

theorem Reads.not_fails {failure : Failure} (h : read.Reads tokens tree rest) :
    ¬ read.Fails tokens failure := by
  obtain ⟨_, h⟩ := h
  intro hf
  cases h.symm.trans hf

end Reader

namespace Tree

open Reader

section Chain

variable {symbols : List String} {operand : Reader Id Tree} {tokens rest : List Token}
variable {left right : Tree} {symbol : String} {place : Position} {bound : Nat}

theorem chain_stop (h : ¬ Begins symbols tokens) (shorter : tokens.length < bound) :
    (builder.chain symbols operand left tokens shorter).run = .ok ⟨left, tokens, shorter⟩ :=
  congrArg Id.run (builder.chain_stop h shorter)

theorem chain_next (left : Tree) (mem : symbol ∈ symbols) (h : operand.Reads tokens right rest)
    (shorter : (⟨.symbol symbol, place⟩ :: tokens : List Token).length < bound) :
    ∃ shorter', builder.chain symbols operand left (⟨.symbol symbol, place⟩ :: tokens) shorter =
      builder.chain symbols operand (.node ⟨symbol, place⟩ left right) rest shorter' := by
  obtain ⟨hl, hr⟩ := h.eq_pure
  refine ⟨by simp only [List.length_cons] at shorter; omega, ?_⟩
  rw [Builder.chain.eq_def]
  simp only [mem, if_true, hr, pure_bind]
  rfl

theorem chain_fails {failure : Failure} (mem : symbol ∈ symbols)
    (h : operand.Fails tokens failure)
    (shorter : (⟨.symbol symbol, place⟩ :: tokens : List Token).length < bound) :
    (builder.chain symbols operand left (⟨.symbol symbol, place⟩ :: tokens) shorter).run =
      .error failure := by
  have hr := h.eq_pure
  rw [Builder.chain.eq_def]
  simp only [mem, if_true, hr, pure_bind]
  rfl

theorem leftChain_next (symbols : List String) (h : operand.Reads tokens left rest) :
    ∃ shorter, builder.leftChain symbols operand tokens =
      builder.chain symbols operand left rest shorter := by
  obtain ⟨hl, hr⟩ := h.eq_pure
  refine ⟨hl, ?_⟩
  simp only [Builder.leftChain, hr, pure_bind]

theorem leftChain_fails (symbols : List String) {failure : Failure}
    (h : operand.Fails tokens failure) :
    Fails (builder.leftChain symbols operand) tokens failure := by
  have hr := h.eq_pure
  simp only [Fails, Builder.leftChain, hr, pure_bind]
  rfl

theorem leftChain_fails_later {failure : Failure}
    (h : operand.Reads tokens left (⟨.symbol symbol, place⟩ :: rest)) (mem : symbol ∈ symbols)
    (hf : operand.Fails rest failure) :
    Fails (builder.leftChain symbols operand) tokens failure := by
  obtain ⟨shorter, he⟩ := leftChain_next symbols h
  rw [Fails, he]
  exact chain_fails mem hf shorter

end Chain

section Factor

variable {read : Reader Id Tree} {nesting : Nat} {inner : Option (Reader Id Tree)}
variable {tokens rest : List Token} {tree : Tree} {place : Position} {failure : Failure}

theorem factor_number (value : Int) :
    Reads (builder.factor nesting inner) (⟨.number value, place⟩ :: rest) (.number value place)
      rest :=
  ⟨by simp, rfl⟩

theorem factor_identifier (name : String) :
    Reads (builder.factor nesting inner) (⟨.identifier name, place⟩ :: rest)
      (.identifier name place) rest :=
  ⟨by simp, rfl⟩

theorem factor_parentheses (nesting : Nat) (place : Position) {closing : Position}
    (h : read.Reads tokens tree (⟨.symbol ")", closing⟩ :: rest)) :
    Reads (builder.factor nesting (some read)) (⟨.symbol "(", place⟩ :: tokens) tree rest := by
  obtain ⟨hl, hr⟩ := h.eq_pure
  refine ⟨by simp only [List.length_cons] at hl ⊢; omega, ?_⟩
  simp only [Builder.factor, if_true, hr, pure_bind]
  rfl

theorem factor_inner_fails (nesting : Nat) (place : Position) (h : read.Fails tokens failure) :
    Fails (builder.factor nesting (some read)) (⟨.symbol "(", place⟩ :: tokens) failure := by
  have hr := h.eq_pure
  simp only [Fails, Builder.factor, if_true, hr, pure_bind]
  rfl

theorem factor_too_deep (nesting : Nat) (place : Position) (tokens : List Token) :
    Fails (builder.factor nesting none) (⟨.symbol "(", place⟩ :: tokens)
      ⟨.nestingTooDeep, ⟨.symbol "(", place⟩ :: tokens, nesting⟩ :=
  rfl

def unclosed (nesting : Nat) : List Token → Failure
  | [] => ⟨.unexpectedEnd .closing, [], nesting⟩
  | close :: after => ⟨.unexpectedToken close.lexeme .closing, close :: after, nesting⟩

theorem factor_unclosed (nesting : Nat) (place : Position) (h : read.Reads tokens tree rest)
    (hrest : ¬ Begins [")"] rest) :
    Fails (builder.factor nesting (some read)) (⟨.symbol "(", place⟩ :: tokens)
      (unclosed nesting rest) := by
  obtain ⟨hl, hr⟩ := h.eq_pure
  cases rest with
  | nil =>
    simp only [Fails, Builder.factor, if_true, hr, pure_bind]
    rfl
  | cons close after =>
    have hclose : close.lexeme ≠ .symbol ")" := by
      intro he
      obtain ⟨lexeme, place⟩ := close
      cases he
      exact hrest (begins_cons_iff.mpr (by simp))
    simp only [Fails, Builder.factor, if_true, hr, pure_bind, hclose, if_false]
    rfl

theorem factor_symbol (nesting : Nat) (inner : Option (Reader Id Tree)) (place : Position)
    (rest : List Token) {symbol : String} (hs : symbol ≠ "(") :
    Fails (builder.factor nesting inner) (⟨.symbol symbol, place⟩ :: rest)
      ⟨.unexpectedToken (.symbol symbol) .factor, ⟨.symbol symbol, place⟩ :: rest, nesting⟩ := by
  have hl : Lexeme.symbol symbol ≠ .symbol "(" := fun he => hs (Lexeme.symbol.inj he)
  simp only [Fails, Builder.factor, hl, if_false]
  rfl

end Factor

section Whole

variable {depth : Nat} {tokens rest : List Token} {token : Token} {tree : Tree} {failure : Failure}

theorem whole_fails (h : Fails (builder.expression depth) tokens failure) :
    (builder.whole depth tokens).run = .error failure := by
  have hr := h.eq_pure
  simp only [Builder.whole, hr, pure_bind]
  rfl

theorem whole_reads (h : Reads (builder.expression depth) tokens tree []) :
    (builder.whole depth tokens).run = .ok tree := by
  obtain ⟨hl, hr⟩ := h.eq_pure
  simp only [Builder.whole, hr, pure_bind]
  rfl

theorem whole_trailing (h : Reads (builder.expression depth) tokens tree (token :: rest)) :
    (builder.whole depth tokens).run =
      .error ⟨.trailingToken token.lexeme, token :: rest, maxNesting - depth⟩ := by
  obtain ⟨hl, hr⟩ := h.eq_pure
  simp only [Builder.whole, hr, pure_bind]
  rfl

theorem whole_eq_ok_iff : (builder.whole depth tokens).run = .ok tree ↔
    Reads (builder.expression depth) tokens tree [] := by
  constructor
  · intro ht
    rcases (builder.expression depth).reads_or_fails tokens with
      ⟨found, rest, hr⟩ | ⟨failure, hf⟩
    · cases rest with
      | nil =>
        cases (whole_reads hr).symm.trans ht
        exact hr
      | cons token rest => cases (whole_trailing hr).symm.trans ht
    · cases (whole_fails hf).symm.trans ht
  · exact whole_reads

end Whole

end Tree

end Calculator
