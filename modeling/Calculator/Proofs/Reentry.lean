import Calculator.Proofs.Echo
import Calculator.Proofs.Endings
import Calculator.Proofs.Rewriting
import Mathlib.Control.Monad.Basic

namespace Calculator

namespace Tree

variable {t u : Tree} {tokens : List Token}

theorem simplify_simplify (t : Tree) : t.simplify.simplify = t.simplify :=
  (simplify_normal t).simplify_eq

theorem height_simplify (t : Tree) : t.simplify.height ≤ t.height := by
  refine simplify_induction (motive := fun t u => u.height ≤ t.height) ?_ ?_ ?_ ?_ t
  · exact fun _ => Nat.le_refl _
  · intro o left right left' right' hl hr
    simp only [height]
    omega
  · intro o left right left' h
    simp only [height]
    omega
  · intro o left right right' h
    simp only [height]
    omega

theorem parse_of_lexemes (h : t.Readable) (hd : t.height ≤ maxNesting)
    (hl : tokens.map Token.lexeme = t.lexemes) : ∃ u, parse tokens = .ok u ∧ Alike u t := by
  obtain ⟨u, hu, hf⟩ := factor_of_lexemes h hd hl
  exact ⟨u, whole_iff_expression.mpr (Grammar.expression_of_factor hf), hu⟩

theorem parse_of_lexemes_too_deep (h : t.Readable) (hd : maxNesting < t.height)
    (hl : tokens.map Token.lexeme = t.lexemes) : ∃ failure, parse tokens = .error failure := by
  have hdeep := factor_too_deep_of_lexemes h hd hl []
  rw [List.append_nil] at hdeep
  obtain ⟨failure, -, hfail⟩ := expression_too_deep hdeep
  exact ⟨failure, whole_fails hfail⟩

end Tree

namespace Reply

variable {t u : Tree} {text line : String} {tokens : List Token}

theorem valueOf_alike (h : Tree.Alike u t) {s s' : Tree} (hs : Tree.Alike s' s)
    (hv : valueOf t s = .ok line) : valueOf u s' = .ok line := by
  have hu := valueOf_unplaced u s'
  rw [h, hs, valueOf_unplaced, hv] at hu
  cases hv' : valueOf u s' with
  | ok line' =>
    rw [hv'] at hu
    exact congrArg Except.ok (Except.ok.inj hu).symm
  | error error =>
    rw [hv'] at hu
    cases hu

theorem valueOf_simplify (h : t.isNumerical = true) :
    valueOf t.simplify t.simplify.simplify = valueOf t t.simplify := by
  rw [Tree.simplify_simplify, valueOf_numerical h,
    valueOf_numerical (Tree.isNumerical_simplify h)]

theorem reply_render (h : t.Readable) (hd : t.height ≤ maxNesting)
    (hv : valueOf t t.simplify = .ok line) : ∃ echo, (reply t.render).outcome =
      .ok [echo, writtenLine t, line, simplifiedLine t.simplify] := by
  obtain ⟨tokens, hs, hl⟩ := Tree.scan_render h
  obtain ⟨u, hu, ha⟩ := Tree.parse_of_lexemes h hd hl
  have has := Tree.simplify_alike ha
  have hw : writtenLine u = writtenLine t :=
    congrArg ("in infix notation: " ++ ·) (Tree.render_alike ha)
  have hsl : simplifiedLine u.simplify = simplifiedLine t.simplify :=
    congrArg ("simplified: " ++ ·) (Tree.render_alike has)
  have hanswer := answer_of_line hu (valueOf_alike ha has hv)
  rw [hw, hsl] at hanswer
  exact ⟨_, (outcome_eq_ok_iff hs).mpr hanswer⟩

theorem reply_render_too_deep (h : t.Readable) (hd : maxNesting < t.height) :
    ∃ echo, (reply t.render).outcome = .ok [echo, notAnExpression] := by
  obtain ⟨tokens, hs, hl⟩ := Tree.scan_render h
  obtain ⟨failure, hf⟩ := Tree.parse_of_lexemes_too_deep h hd hl
  exact ⟨_, (outcome_eq_ok_iff hs).mpr (answer_of_failure hf)⟩

theorem answer_of_four {echo written last : String}
    (h : answer tokens = .ok [echo, written, line, last]) :
    ∃ tree, Tree.parse tokens = .ok tree ∧ valueOf tree tree.simplify = .ok line ∧
      written = writtenLine tree ∧ last = simplifiedLine tree.simplify := by
  cases hp : Tree.parse tokens with
  | error failure => cases (answer_of_failure hp).symm.trans h
  | ok tree =>
    cases hv : valueOf tree tree.simplify with
    | error error => cases (answer_of_no_value hp hv).symm.trans h
    | ok line' =>
      cases (answer_of_line hp hv).symm.trans h
      exact ⟨tree, rfl, hv, rfl, rfl⟩

theorem lines_entered_again {echo written line last : String}
    (h : (reply text).outcome = .ok [echo, written, line, last]) :
    ∃ tokens tree, (Scan.ofText text).result = .ok tokens ∧ Tree.parse tokens = .ok tree ∧
      written = "in infix notation: " ++ tree.render ∧
      last = "simplified: " ++ tree.simplify.render ∧
      (tree.height ≤ maxNesting →
        (∃ again, (reply tree.render).outcome = .ok [again, written, line, last]) ∧
        ((∃ shown, line = "the value is " ++ shown) →
          ∃ again, (reply tree.simplify.render).outcome =
            .ok [again, "in infix notation: " ++ tree.simplify.render, line,
              "simplified: " ++ tree.simplify.render])) ∧
      (maxNesting < tree.height →
        ∃ again, (reply tree.render).outcome = .ok [again, "this is not an expression"]) := by
  obtain ⟨tokens, hs⟩ := scan_of_lines h
  obtain ⟨tree, hp, hv, rfl, rfl⟩ := answer_of_four ((outcome_eq_ok_iff hs).mp h)
  have hr := Tree.readable_of_parse hs hp
  refine ⟨tokens, tree, hs, hp, rfl, rfl, ?_, reply_render_too_deep hr⟩
  intro hd
  refine ⟨reply_render hr hd hv, ?_⟩
  rintro ⟨shown, rfl⟩
  have hds : tree.simplify.height ≤ maxNesting := Nat.le_trans (Tree.height_simplify tree) hd
  have hvs := (valueOf_simplify (isNumerical_of_value hv)).trans hv
  have hagain := reply_render (Tree.readable_simplify hr) hds hvs
  rw [Tree.simplify_simplify] at hagain
  exact hagain

theorem quotient_entered_again :
    (∃ again, (reply "((3 - 1) * 1) / (2 + 0)").outcome = .ok [again,
      "in infix notation: (((3 - 1) * 1) / (2 + 0))", "the value is 1",
      "simplified: ((3 - 1) / 2)"]) ∧
    (∃ again, (reply "(((3 - 1) * 1) / (2 + 0))").outcome = .ok [again,
      "in infix notation: (((3 - 1) * 1) / (2 + 0))", "the value is 1",
      "simplified: ((3 - 1) / 2)"]) ∧
    ∃ again, (reply "((3 - 1) / 2)").outcome = .ok [again,
      "in infix notation: ((3 - 1) / 2)", "the value is 1", "simplified: ((3 - 1) / 2)"] := by
  have ho : (reply "((3 - 1) * 1) / (2 + 0)").outcome = .ok
      ["( ( 3 - 1 ) * 1 ) / ( 2 + 0 )", "in infix notation: (((3 - 1) * 1) / (2 + 0))",
        "the value is 1", "simplified: ((3 - 1) / 2)"] := by
    decide +kernel
  obtain ⟨tokens, tree, hs, hp, -, -, hback, -⟩ := lines_entered_again ho
  have ht : (Tree.parse (Scan.ofText "((3 - 1) * 1) / (2 + 0)").tokens).toOption.map
      (fun tree => (tree.height, tree.render, tree.simplify.render)) =
        some (3, "(((3 - 1) * 1) / (2 + 0))", "((3 - 1) / 2)") := by
    decide +kernel
  have htokens : (Scan.ofText "((3 - 1) * 1) / (2 + 0)").tokens = tokens :=
    (tokens_of_result hs).symm
  rw [htokens, hp] at ht
  simp only [Except.toOption, Option.map_some, Option.some.injEq, Prod.mk.injEq] at ht
  obtain ⟨hheight, hrender, hsimplify⟩ := ht
  rw [hrender, hsimplify] at hback
  obtain ⟨hwritten, hvalue⟩ := hback (by rw [hheight]; decide)
  exact ⟨⟨_, ho⟩, hwritten, hvalue ⟨"1", rfl⟩⟩

end Reply

end Calculator
