import Calculator.Proofs.Alike
import Calculator.Proofs.Recognition
import Calculator.Proofs.Written

/-!
Reading back what is written of a tree. Its operators take one pair of parentheses each, so that the
nesting of the written form is the height of the tree: up to the limit the tree comes back, and above
it the parser says that the nesting is too deep.
-/

namespace Calculator.Tree

open Grammar Reader

def height : Tree → Nat
  | leaf _ => 0
  | node _ left right => max left.height right.height + 1

variable {t left right : Tree} {o : Operator} {tokens rest : List Token} {depth : Nat}

theorem split_lexemes (h : tokens.map Token.lexeme = (node o left right).lexemes) :
    ∃ opening place closing before after,
      tokens = ⟨.symbol "(", opening⟩ :: (before ++ ⟨.symbol o.symbol, place⟩ :: after) ++
        [⟨.symbol ")", closing⟩] ∧
      before.map Token.lexeme = left.lexemes ∧ after.map Token.lexeme = right.lexemes := by
  obtain ⟨inside, last, rfl, hi, hlast⟩ := List.map_eq_append_iff.mp h
  obtain ⟨before, inner, rfl, hb, hinner⟩ := List.map_eq_append_iff.mp hi
  obtain ⟨⟨_, opening⟩, before', rfl, rfl, hb'⟩ := List.map_eq_cons_iff.mp hb
  obtain ⟨⟨_, place⟩, after, rfl, rfl, ha⟩ := List.map_eq_cons_iff.mp hinner
  obtain ⟨⟨_, closing⟩, rfl, rfl⟩ := List.map_eq_singleton_iff.mp hlast
  exact ⟨opening, place, closing, before', after, rfl, hb', ha⟩

-- One pair of parentheses for every operator on the way down: the induction gives up one level of
-- nesting at each node.
theorem factor_of_lexemes (hr : t.Readable) (hd : t.height ≤ depth)
    (h : tokens.map Token.lexeme = t.lexemes) : ∃ u, Alike u t ∧ Factor depth tokens u := by
  induction t generalizing tokens depth with
  | leaf l =>
    cases l with
    | absent => exact hr.elim
    | number value place =>
      obtain ⟨⟨_, place'⟩, rfl, rfl⟩ := List.map_eq_singleton_iff.mp h
      exact ⟨number value place', rfl, .number value place'⟩
    | identifier name place =>
      obtain ⟨⟨_, place'⟩, rfl, rfl⟩ := List.map_eq_singleton_iff.mp h
      exact ⟨identifier name place', rfl, .identifier name place'⟩
  | node o left right ihl ihr =>
    obtain ⟨ho, hl, hr⟩ := hr
    obtain ⟨opening, place, closing, before, after, rfl, hb, ha⟩ := split_lexemes h
    simp only [height] at hd
    obtain ⟨inner, rfl⟩ : ∃ inner, depth = inner + 1 := ⟨depth - 1, by omega⟩
    have hleft : left.height ≤ inner := by omega
    have hright : right.height ≤ inner := by omega
    obtain ⟨u, hu, hfu⟩ := ihl hl hleft hb
    obtain ⟨v, hv, hfv⟩ := ihr hr hright ha
    have he : Expression inner (before ++ ⟨.symbol o.symbol, place⟩ :: after) _ :=
      expression_of_operation place ho hfu hfv
    exact ⟨node ⟨o.symbol, place⟩ u v, alike_node rfl hu hv, .parentheses opening closing he⟩

def TooDeep (read : Reader Id Tree) (tokens : List Token) : Prop :=
  ∃ failure, failure.fault = .nestingTooDeep ∧ read.Fails tokens failure

def FactorTooDeep (depth : Nat) (tokens : List Token) : Prop :=
  ∀ nesting, TooDeep (builder.factor nesting (builder.inner? depth)) tokens

theorem expression_too_deep (h : FactorTooDeep depth tokens) :
    TooDeep (builder.expression depth) tokens := by
  obtain ⟨failure, hf, hr⟩ := h (maxNesting - depth)
  rw [Builder.expression_eq]
  exact ⟨failure, hf, leftChain_fails _ (leftChain_fails _ hr)⟩

theorem operation_too_deep {symbol : String} {place : Position} {before after : List Token}
    (mem : symbol ∈ sums ++ products) (hl : Factor depth before left)
    (h : FactorTooDeep depth after) :
    TooDeep (builder.expression depth) (before ++ ⟨.symbol symbol, place⟩ :: after) := by
  obtain ⟨failure, hf, hr⟩ := h (maxNesting - depth)
  rw [Builder.expression_eq]
  refine ⟨failure, hf, ?_⟩
  rcases List.mem_append.mp mem with hs | hp
  · have hb : ¬ Begins products (⟨.symbol symbol, place⟩ :: after) :=
      fun hb => sums_apart symbol hs (begins_cons_iff.mp hb)
    have ht := (term_recognizes_term (maxNesting - depth) depth).complete (.single hl) hb
    exact leftChain_fails_later ht hs (leftChain_fails _ hr)
  · have hb : ¬ Begins [] (⟨.symbol symbol, place⟩ :: after) := by simp [begins_cons_iff]
    have ht := (factor_recognizes_factor (maxNesting - depth) depth).complete hl hb
    exact leftChain_fails _ (leftChain_fails_later ht hp hr)

theorem factor_too_deep_of_lexemes (hr : t.Readable) (hd : depth < t.height)
    (h : tokens.map Token.lexeme = t.lexemes) (rest : List Token) :
    FactorTooDeep depth (tokens ++ rest) := by
  induction t generalizing tokens depth rest with
  | leaf l => exact absurd hd (Nat.not_lt_zero depth)
  | node o left right ihl ihr =>
    obtain ⟨ho, hl, hr⟩ := hr
    obtain ⟨opening, place, closing, before, after, rfl, hb, ha⟩ := split_lexemes h
    intro nesting
    simp only [List.cons_append, List.append_assoc]
    cases depth with
    | zero => exact ⟨_, rfl, factor_too_deep nesting opening _⟩
    | succ depth =>
      simp only [height] at hd
      have hinner (later : List Token) : TooDeep (builder.expression depth)
          (before ++ ⟨.symbol o.symbol, place⟩ :: (after ++ later)) := by
        by_cases hlow : left.height ≤ depth
        · obtain ⟨u, _, hu⟩ := factor_of_lexemes hl hlow hb
          have hhigh : depth < right.height := by omega
          exact operation_too_deep ho hu (ihr hr hhigh ha later)
        · exact expression_too_deep (ihl hl (by omega) hb _)
      obtain ⟨failure, hf, hfail⟩ := hinner _
      exact ⟨failure, hf, factor_inner_fails nesting opening hfail⟩

theorem readable_inside (h : Inside depth tokens t)
    (hl : ∀ token ∈ tokens, Lexed token.lexeme) : t.Readable := by
  revert hl
  refine inside_induction (motive := fun tokens t =>
    (∀ token ∈ tokens, Lexed token.lexeme) → t.Readable) ?_ ?_ ?_ ?_ h
  · intro value place hl
    exact hl _ List.mem_cons_self
  · intro name place hl
    exact hl _ List.mem_cons_self
  · intro tokens t opening closing ih hl
    refine ih fun token ht => hl token ?_
    exact List.mem_append_left _ (List.mem_cons_of_mem _ ht)
  · intro before after left right symbol place mem ihl ihr hl
    refine ⟨mem, ihl fun token ht => ?_, ihr fun token ht => ?_⟩
    · exact hl token (List.mem_append_left _ ht)
    · exact hl token (List.mem_append_right _ (List.mem_cons_of_mem _ ht))

theorem readable_of_parse {text : String} (hs : (Scan.ofText text).result = .ok tokens)
    (hp : parse tokens = .ok t) : t.Readable := by
  refine readable_inside (inside_of_parse hp) fun token ht => ?_
  exact ⟨text, tokens, hs, List.mem_map_of_mem ht⟩

theorem readable_simplify : t.Readable → t.simplify.Readable := by
  refine simplify_induction (motive := fun t u => t.Readable → u.Readable) ?_ ?_ ?_ ?_ t
  · exact fun _ h => h
  · exact fun ihl ihr h => ⟨h.1, ihl h.2.1, ihr h.2.2⟩
  · exact fun ih h => ih h.2.1
  · exact fun ih h => ih h.2.2

theorem render_reads_back :
    (∀ t : Tree, t.Readable → ∃ tokens, (Scan.ofText t.render).result = .ok tokens ∧
      (t.height ≤ maxNesting → ∃ u, parse tokens = .ok u ∧ Alike u t) ∧
      (maxNesting < t.height → ∃ failure, parse tokens = .error failure ∧
        (failure.diagnostic tokens).stage = .parsing ∧
        (failure.diagnostic tokens).message = "parentheses nested deeper than 200")) ∧
    ∀ (text : String) (tokens : List Token) (t : Tree),
      (Scan.ofText text).result = .ok tokens → parse tokens = .ok t →
      t.Readable ∧ t.simplify.Readable := by
  constructor
  · intro t h
    have hs : Spells t.render.toList t.lexemes [] := spells_render h (by simp)
    obtain ⟨tokens, hscan, hl⟩ := hs.scan
    refine ⟨tokens, hscan, ?_, ?_⟩
    · intro hd
      obtain ⟨u, hu, hf⟩ := factor_of_lexemes h hd hl
      exact ⟨u, whole_iff_expression.mpr (expression_of_factor hf), hu⟩
    · intro hd
      have hdeep := factor_too_deep_of_lexemes h hd hl []
      rw [List.append_nil] at hdeep
      obtain ⟨failure, hf, hfail⟩ := expression_too_deep hdeep
      refine ⟨failure, whole_fails hfail, rfl, ?_⟩
      simp only [Failure.diagnostic, hf]
      decide
  · intro text tokens t hscan hp
    have hr : t.Readable := readable_of_parse hscan hp
    exact ⟨hr, readable_simplify hr⟩

def additions : Nat → Tree
  | 0 => number 7 .start
  | n + 1 => node ⟨"+", .start⟩ (additions n) (number 7 .start)

theorem readable_additions (n : Nat) : (additions n).Readable := by
  have hlt : 7 < 10 ^ Numeral.maxDigits :=
    Nat.lt_of_lt_of_le (by decide : 7 < 10 ^ 1) (Nat.pow_le_pow_right (by decide) (by decide))
  have h7 : Lexed (.number (7 : Nat)) := lexed_number hlt
  induction n with
  | zero => exact h7
  | succ n ih => exact ⟨by decide, ih, h7⟩

theorem height_additions (n : Nat) : (additions n).height = n := by
  induction n with
  | zero => rfl
  | succ n ih => simp [additions, height, ih]

theorem additions_read_back_to_limit :
    (∃ tokens u, (Scan.ofText (additions 200).render).result = .ok tokens ∧
      parse tokens = .ok u ∧ Alike u (additions 200)) ∧
    ∃ tokens failure, (Scan.ofText (additions 201).render).result = .ok tokens ∧
      parse tokens = .error failure ∧
      (failure.diagnostic tokens).message = "parentheses nested deeper than 200" := by
  have hle : (additions 200).height ≤ maxNesting := Nat.le_of_eq (height_additions 200)
  have hlt : maxNesting < (additions 201).height :=
    Nat.lt_of_lt_of_eq (Nat.lt_succ_self 200) (height_additions 201).symm
  obtain ⟨tokens, hs, hback, -⟩ := render_reads_back.1 _ (readable_additions 200)
  obtain ⟨tokens', hs', -, hdeep⟩ := render_reads_back.1 _ (readable_additions 201)
  obtain ⟨u, hu, ha⟩ := hback hle
  obtain ⟨failure, hf, -, hm⟩ := hdeep hlt
  exact ⟨⟨tokens, u, hs, hu, ha⟩, tokens', failure, hs', hf, hm⟩

end Calculator.Tree
