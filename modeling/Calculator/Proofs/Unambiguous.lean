import Calculator.Proofs.RoundTrip

/-!
The written form tells trees apart, however high they are. Its lexemes are those of the tree in
parentheses, so that where a tree ends can be told from what stands before, and what is written alike
is alike.
-/

namespace Calculator.Tree

variable {t u : Tree} {l l' : Leaf} {rest rest' : List Lexeme}

theorem leaf_alike_of_lexemes (h : (leaf l).lexemes = (leaf l').lexemes) :
    Alike (leaf l) (leaf l') := by
  cases l <;> cases l' <;> simp_all [lexemes, Alike, unplaced, Leaf.unplaced]

theorem lexemes_leaf (h : (leaf l).Readable) :
    ∃ lexeme, (leaf l).lexemes = [lexeme] ∧ ∀ symbol, lexeme ≠ .symbol symbol := by
  cases l with
  | absent => exact h.elim
  | number value place => exact ⟨_, rfl, nofun⟩
  | identifier name place => exact ⟨_, rfl, nofun⟩

theorem leaf_lexemes_ne_node {o : Operator} {left right : Tree} (h : (leaf l).Readable) :
    (leaf l).lexemes ++ rest ≠ (node o left right).lexemes ++ rest' := by
  obtain ⟨lexeme, hl, hs⟩ := lexemes_leaf h
  rw [hl]
  exact fun he => hs "(" (List.cons.inj he).1

-- The left operand determines where the operator stands, and the right one where the closing
-- parenthesis does.
theorem alike_of_lexemes_append (ht : t.Readable) (hu : u.Readable)
    (h : t.lexemes ++ rest = u.lexemes ++ rest') : Alike t u ∧ rest = rest' := by
  induction t generalizing u rest rest' with
  | leaf l =>
    cases u with
    | leaf l' =>
      obtain ⟨lexeme, hl, -⟩ := lexemes_leaf ht
      obtain ⟨lexeme', hl', -⟩ := lexemes_leaf hu
      rw [hl, hl'] at h
      obtain ⟨rfl, hrest⟩ := List.cons.inj h
      exact ⟨leaf_alike_of_lexemes (hl.trans hl'.symm), hrest⟩
    | node o left right => exact absurd h (leaf_lexemes_ne_node ht)
  | node o left right ihl ihr =>
    cases u with
    | leaf l => exact absurd h.symm (leaf_lexemes_ne_node hu)
    | node o' left' right' =>
      obtain ⟨-, hl, hr⟩ := ht
      obtain ⟨-, hl', hr'⟩ := hu
      simp only [lexemes, List.cons_append, List.append_assoc, List.cons.injEq, true_and] at h
      obtain ⟨hleft, h⟩ := ihl hl hl' h
      obtain ⟨ho, h⟩ := List.cons.inj h
      obtain ⟨hright, h⟩ := ihr hr hr' h
      exact ⟨alike_node (Lexeme.symbol.inj ho) hleft hright, (List.cons.inj h).2⟩

theorem lexemes_of_render (ht : t.Readable) (hu : u.Readable) (h : t.render = u.render) :
    t.lexemes = u.lexemes := by
  obtain ⟨tokens, hs, hl⟩ := scan_render ht
  obtain ⟨tokens', hs', hl'⟩ := scan_render hu
  rw [h] at hs
  cases hs.symm.trans hs'
  exact hl.symm.trans hl'

theorem render_eq_iff_alike (ht : t.Readable) (hu : u.Readable) :
    t.render = u.render ↔ Alike t u := by
  refine ⟨fun h => ?_, render_alike⟩
  have hl := lexemes_of_render ht hu h
  exact (alike_of_lexemes_append ht hu (congrArg (· ++ []) hl)).1

theorem leaning_additions_written_apart :
    let leaning := node ⟨"+", .start⟩ (number 7 .start) (additions 200)
    (additions 201).render ≠ leaning.render ∧
      (additions 201).render = (node ⟨"+", ⟨1, 2⟩⟩ (additions 200) (number 7 ⟨1, 4⟩)).render := by
  have hleft : (additions 201).Readable := readable_additions 201
  constructor
  · intro h
    have hright : (node ⟨"+", .start⟩ (number 7 .start) (additions 200)).Readable :=
      ⟨by decide, readable_additions 0, readable_additions 200⟩
    have ha := (render_eq_iff_alike hleft hright).mp h
    cases (Tree.node.inj ha).2.1
  · have hplaced : (node ⟨"+", ⟨1, 2⟩⟩ (additions 200) (number 7 ⟨1, 4⟩)).Readable :=
      ⟨by decide, readable_additions 200, readable_additions 0⟩
    exact (render_eq_iff_alike hleft hplaced).mpr rfl

end Calculator.Tree
