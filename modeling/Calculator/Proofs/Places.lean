import Calculator.Proofs.Alike
import Calculator.Proofs.Reading

namespace Calculator

def Token.unplaced (token : Token) : Token := ⟨token.lexeme, .start⟩

def withoutPlaces (tokens : List Token) : List Token := tokens.map Token.unplaced

def Failure.unplaced (failure : Failure) : Failure :=
  ⟨failure.fault, withoutPlaces failure.rest, failure.nesting⟩

variable {tokens tokens' rest : List Token} {tree left : Tree} {failure : Failure}

theorem withoutPlaces_eq_of_lexemes (h : tokens.map Token.lexeme = tokens'.map Token.lexeme) :
    withoutPlaces tokens = withoutPlaces tokens' := by
  have hu (tokens : List Token) : withoutPlaces tokens =
      (tokens.map Token.lexeme).map fun lexeme => ⟨lexeme, .start⟩ := by
    rw [List.map_map]
    rfl
  rw [hu, hu, h]

theorem begins_withoutPlaces_iff {symbols : List String} :
    Begins symbols (withoutPlaces tokens) ↔ Begins symbols tokens := by
  constructor
  · rintro ⟨symbol, place, rest, mem, he⟩
    obtain ⟨⟨lexeme, place'⟩, tail, rfl, hl, -⟩ := List.map_eq_cons_iff.mp he
    cases hl
    exact ⟨symbol, place', tail, mem, rfl⟩
  · rintro ⟨symbol, place, rest, mem, rfl⟩
    exact ⟨symbol, .start, withoutPlaces rest, mem, rfl⟩

namespace Reader

def unplacedResult : Except Failure (Tree × List Token) → Except Failure (Tree × List Token)
  | .ok (tree, rest) => .ok (tree.unplaced, withoutPlaces rest)
  | .error failure => .error failure.unplaced

def Placeless (read : Reader Id Tree) : Prop :=
  ∀ tokens, read.result (withoutPlaces tokens) = unplacedResult (read.result tokens)

variable {read : Reader Id Tree}

theorem Placeless.reads (h : read.Placeless) (hr : read.Reads tokens tree rest) :
    read.Reads (withoutPlaces tokens) tree.unplaced (withoutPlaces rest) := by
  rw [← result_eq_ok_iff, h, result_eq_ok_iff.mpr hr]
  rfl

theorem Placeless.fails (h : read.Placeless) (hf : read.Fails tokens failure) :
    read.Fails (withoutPlaces tokens) failure.unplaced := by
  rw [← result_eq_error_iff, h, result_eq_error_iff.mpr hf]
  rfl

end Reader

namespace Tree

open Reader

variable {symbols : List String} {operand : Reader Id Tree} {bound bound' : Nat}
variable {nesting : Nat} {inner : Option (Reader Id Tree)}

theorem chain_placeless (h : operand.Placeless) (shorter : tokens.length < bound)
    (shorter' : (withoutPlaces tokens).length < bound') :
    bare (builder.chain symbols operand left.unplaced (withoutPlaces tokens) shorter').run =
      unplacedResult (bare (builder.chain symbols operand left tokens shorter).run) := by
  induction hn : tokens.length using Nat.strongRecOn generalizing left tokens with
  | _ n ih =>
  by_cases hb : Begins symbols tokens
  · obtain ⟨symbol, place, tail, mem, rfl⟩ := hb
    rcases operand.reads_or_fails tail with ⟨right, later, hr⟩ | ⟨failure, hf⟩
    · obtain ⟨hlater, he⟩ := chain_next left mem hr shorter
      obtain ⟨hlater', he'⟩ := chain_next left.unplaced mem (h.reads hr) shorter'
      obtain ⟨hless, -⟩ := hr
      have hn' : later.length < n := by
        simp only [List.length_cons] at hn
        omega
      rw [he]
      have hi : bare (builder.chain symbols operand (node ⟨symbol, place⟩ left right).unplaced
          (withoutPlaces later) hlater').run = unplacedResult
            (bare (builder.chain symbols operand (node ⟨symbol, place⟩ left right) later hlater).run) :=
        ih _ hn' hlater hlater' rfl
      exact (congrArg (bare ·.run) he').trans hi
    · rw [chain_fails mem hf shorter]
      exact congrArg bare (chain_fails mem (h.fails hf) shorter')
  · rw [chain_stop hb, chain_stop (mt begins_withoutPlaces_iff.mp hb)]
    rfl

theorem leftChain_placeless (symbols : List String) (h : operand.Placeless) :
    Placeless (builder.leftChain symbols operand) := by
  intro tokens
  rcases operand.reads_or_fails tokens with ⟨left, later, hr⟩ | ⟨failure, hf⟩
  · obtain ⟨shorter, he⟩ := leftChain_next symbols hr
    obtain ⟨shorter', he'⟩ := leftChain_next symbols (h.reads hr)
    rw [result, result, he, he']
    exact chain_placeless h shorter shorter'
  · rw [result_eq_error_iff.mpr (leftChain_fails symbols hf)]
    exact result_eq_error_iff.mpr (leftChain_fails symbols (h.fails hf))

theorem parentheses_placeless {read : Reader Id Tree} (h : read.Placeless) (place : Position)
    (tokens : List Token) :
    (builder.factor nesting (some read)).result (⟨.symbol "(", .start⟩ :: withoutPlaces tokens) =
      unplacedResult
        ((builder.factor nesting (some read)).result (⟨.symbol "(", place⟩ :: tokens)) := by
  rcases read.reads_or_fails tokens with ⟨tree, later, hr⟩ | ⟨failure, hf⟩
  · by_cases hb : Begins [")"] later
    · obtain ⟨symbol, closing, rest, mem, rfl⟩ := hb
      cases List.mem_singleton.mp mem
      rw [result_eq_ok_iff.mpr (factor_parentheses nesting place hr)]
      exact result_eq_ok_iff.mpr (factor_parentheses nesting .start (h.reads hr))
    · have hb' := mt begins_withoutPlaces_iff.mp hb
      rw [result_eq_error_iff.mpr (factor_unclosed nesting place hr hb)]
      rw [result_eq_error_iff.mpr (factor_unclosed nesting .start (h.reads hr) hb')]
      cases later <;> rfl
  · rw [result_eq_error_iff.mpr (factor_inner_fails nesting place hf)]
    exact result_eq_error_iff.mpr (factor_inner_fails nesting .start (h.fails hf))

theorem factor_placeless (h : ∀ read ∈ inner, Placeless read) :
    Placeless (builder.factor nesting inner) := by
  intro tokens
  cases tokens with
  | nil => rfl
  | cons token later =>
    obtain ⟨lexeme, place⟩ := token
    cases lexeme with
    | number value => rfl
    | identifier name => rfl
    | ending => rfl
    | symbol symbol =>
      by_cases hs : symbol = "("
      · subst hs
        cases inner with
        | none => rfl
        | some read => exact parentheses_placeless (h read rfl) place later
      · rw [result_eq_error_iff.mpr (factor_symbol nesting inner place later hs)]
        exact result_eq_error_iff.mpr (factor_symbol nesting inner .start _ hs)

theorem term_placeless (h : ∀ read ∈ inner, Placeless read) :
    Placeless (builder.term nesting inner) :=
  leftChain_placeless _ (factor_placeless h)

theorem sum_placeless (nesting : Nat) (inner : Option (Reader Id Tree))
    (h : ∀ read ∈ inner, Placeless read) : Placeless (builder.sum nesting inner) :=
  leftChain_placeless _ (term_placeless h)

theorem expression_placeless (depth : Nat) : Placeless (builder.expression depth) :=
  builder.expression_induction sum_placeless depth

theorem inner?_placeless (depth : Nat) : ∀ read ∈ builder.inner? depth, Placeless read :=
  builder.inner?_of_expression expression_placeless depth

theorem whole_withoutPlaces (depth : Nat) (tokens : List Token) :
    (builder.whole depth (withoutPlaces tokens)).run =
      match (builder.whole depth tokens).run with
      | .ok tree => .ok tree.unplaced
      | .error failure => .error failure.unplaced := by
  have hp := expression_placeless depth
  rcases (builder.expression depth).reads_or_fails tokens with
    ⟨tree, rest, hr⟩ | ⟨failure, hf⟩
  · cases rest with
    | nil =>
      rw [whole_reads hr]
      exact whole_reads (hp.reads hr)
    | cons token rest =>
      rw [whole_trailing hr]
      exact whole_trailing (hp.reads hr)
  · rw [whole_fails hf]
    exact whole_fails (hp.fails hf)

theorem parse_withoutPlaces (tokens : List Token) : parse (withoutPlaces tokens) =
    match parse tokens with
    | .ok tree => .ok tree.unplaced
    | .error failure => .error failure.unplaced :=
  whole_withoutPlaces maxNesting tokens

end Tree

end Calculator
