import Calculator.Proofs.LongestCut
import Calculator.Proofs.Quoting
import Calculator.Shell

/-!
The token log can be read back. A line of it tells its token, and where the line ends, whatever the
token's text looks like; no line holds a line break, so the whole log tells the tokens that were read.
-/

namespace Calculator

def lineBreaks : List Char :=
  ['\n', '\x0b', '\x0c', '\r', '\x1c', '\x1d', '\x1e', '\u0085', '\u2028', '\u2029']

variable {printable printable' : Char → Bool} {c : Char} {rest rest' : List Char}
variable {lexeme lexeme' : Lexeme} {token token' : Token} {p p' : Position} {m n : Int}

section Number

theorem isDigit_of_mem_digits {k : Nat} (h : c ∈ Nat.toDigits 10 k) : c.isDigit = true :=
  Nat.isDigit_of_mem_toDigits (by decide) (by decide) h

theorem mem_toString (h : c ∈ (toString n).toList) : c = '-' ∨ c.isDigit = true := by
  rw [Numeral.toList_toString] at h
  split at h
  · exact (List.mem_cons.mp h).imp_right isDigit_of_mem_digits
  · exact .inr (isDigit_of_mem_digits h)

theorem digits_ne_minus {k l : Nat} : Nat.toDigits 10 k ≠ '-' :: Nat.toDigits 10 l := by
  intro h
  have hminus : '-' ∈ Nat.toDigits 10 k := h ▸ List.mem_cons_self
  exact absurd (isDigit_of_mem_digits hminus) (by decide)

theorem toString_inj (h : (toString m).toList = (toString n).toList) : m = n := by
  have hdigits {k l : Nat} (h : Nat.toDigits 10 k = Nat.toDigits 10 l) : k = l := by
    rw [← value_toDigits k, h, value_toDigits]
  rw [Numeral.toList_toString, Numeral.toList_toString] at h
  split_ifs at h with hm hn hn
  · have := hdigits (List.cons.inj h).2
    omega
  · exact absurd h.symm digits_ne_minus
  · exact absurd h digits_ne_minus
  · have := hdigits h
    omega

theorem toString_append_inj (hc : c ≠ '-') (hd : c.isDigit = false)
    (h : (toString m).toList ++ c :: rest = (toString n).toList ++ c :: rest') :
    m = n ∧ rest = rest' := by
  have hrun (k : Int) : ∀ d ∈ (toString k).toList, decide (d ≠ c) = true := by
    intro d hm
    apply decide_eq_true
    rintro rfl
    rcases mem_toString hm with h | h
    · exact hc h
    · cases hd.symm.trans h
  have hbehind (rest : List Char) : ∀ d ∈ (c :: rest).head?, decide (d ≠ c) = false := by
    simp
  have htext := (takeWhile_run (hrun m) (hbehind rest)).symm.trans
    ((congrArg _ h).trans (takeWhile_run (hrun n) (hbehind rest')))
  rw [htext] at h
  exact ⟨toString_inj htext, (List.cons.inj (List.append_cancel_left h)).2⟩

end Number

section Line

theorem category_append_inj (h : lexeme.category.toList ++ rest = lexeme'.category.toList ++ rest') :
    lexeme.category = lexeme'.category ∧ rest = rest' := by
  cases lexeme <;> cases lexeme' <;> simp_all [Lexeme.category]

theorem quoted_append_inj {s t : String} (h : (Quoted.text printable s).toList ++ rest =
    (Quoted.text printable' t).toList ++ rest') : s = t ∧ rest = rest' := by
  rw [Quoted.text, Quoted.text, String.toList_ofList, String.toList_ofList] at h
  exact (Quoted.encode_append_inj h).imp_left String.toList_inj.mp

theorem shown_append_inj (hc : lexeme.category = lexeme'.category)
    (h : (lexeme.shown printable).toList ++ ',' :: rest =
      (lexeme'.shown printable').toList ++ ',' :: rest') : lexeme = lexeme' ∧ rest = rest' := by
  have hcomma {s t : String} (h : (Quoted.text printable s).toList ++ ',' :: rest =
      (Quoted.text printable' t).toList ++ ',' :: rest') : s = t ∧ rest = rest' :=
    (quoted_append_inj h).imp_right fun h => (List.cons.inj h).2
  cases lexeme <;> cases lexeme' <;> simp only [Lexeme.category, String.reduceEq] at hc
  case number.number => exact (toString_append_inj (by decide) (by decide) h).imp_left (congrArg _)
  case identifier.identifier => exact (hcomma h).imp_left (congrArg _)
  case symbol.symbol => exact (hcomma h).imp_left (congrArg _)
  case ending.ending => exact ⟨rfl, (List.cons.inj (List.append_cancel_left h)).2⟩

theorem position_append_inj (h : p.text.toList ++ ')' :: rest = p'.text.toList ++ ')' :: rest') :
    p = p' ∧ rest = rest' := by
  have hcolon : ":".toList = [':'] := rfl
  simp only [Position.text, String.toList_append, List.append_assoc, hcolon,
    List.singleton_append] at h
  obtain ⟨hline, h⟩ := toString_append_inj (by decide) (by decide) h
  obtain ⟨hcolumn, h⟩ := toString_append_inj (by decide) (by decide) h
  exact ⟨by rw [Position.mk.injEq]; exact ⟨hline, hcolumn⟩, h⟩

theorem toList_logWith (printable : Char → Bool) (token : Token) :
    (token.logWith printable).toList = "Token(TokenType.".toList ++ (token.lexeme.category.toList ++
      (',' :: ' ' :: ((token.lexeme.shown printable).toList ++
        (',' :: (" pos=".toList ++ (token.position.text.toList ++ [')'])))))) := by
  simp [Token.logWith, Lexeme.fullCategory]

theorem logWith_append_inj (h : (token.logWith printable).toList ++ rest =
    (token'.logWith printable').toList ++ rest') : token = token' ∧ rest = rest' := by
  simp only [toList_logWith, List.append_assoc, List.cons_append] at h
  obtain ⟨hcategory, h⟩ := category_append_inj (List.append_cancel_left h)
  simp only [List.cons.injEq, true_and] at h
  obtain ⟨hlexeme, h⟩ := shown_append_inj hcategory h
  obtain ⟨hposition, h⟩ := position_append_inj (List.append_cancel_left h)
  exact ⟨by rw [Token.mk.injEq]; exact ⟨hlexeme, hposition⟩, h⟩

end Line

section Breaks

theorem shows_toString (printable : Char → Bool) (n : Int) :
    Shows printable (toString n).toList := by
  refine fun c hc => .inr ?_
  rcases mem_toString hc with rfl | h
  · decide
  · obtain ⟨hl, hu⟩ := digit_range h
    simp only [isPlain, Bool.and_eq_true, decide_eq_true_eq]
    omega

theorem shows_position (printable : Char → Bool) (p : Position) :
    Shows printable p.text.toList := by
  simp only [Position.text, String.toList_append]
  exact ((shows_toString printable p.line).append (shows_plain printable (by decide))).append
    (shows_toString printable p.column)

theorem shows_category (printable : Char → Bool) (lexeme : Lexeme) :
    Shows printable lexeme.category.toList := by
  cases lexeme <;> rw [Lexeme.category] <;> exact shows_plain printable (by decide)

theorem shows_shown (printable : Char → Bool) (lexeme : Lexeme) :
    Shows printable (lexeme.shown printable).toList := by
  have hquoted (s : String) : Shows printable (Quoted.text printable s).toList := by
    rw [Quoted.text, String.toList_ofList]
    exact Quoted.shows_encode printable s.toList
  cases lexeme with
  | number value => exact shows_toString printable value
  | identifier name => exact hquoted name
  | symbol text => exact hquoted text
  | ending =>
    have hnone : Lexeme.ending.shown printable = "None" := rfl
    rw [hnone]
    exact shows_plain printable (by decide)

theorem shows_logWith (printable : Char → Bool) (token : Token) :
    Shows printable (token.logWith printable).toList := by
  have hframe : Shows printable "Token(TokenType.".toList := shows_plain printable rfl
  have hcomma : Shows printable [',', ' '] := shows_plain printable rfl
  have hplace : Shows printable (',' :: " pos=".toList) := shows_plain printable rfl
  have hclose : Shows printable [')'] := shows_plain printable rfl
  rw [toList_logWith]
  exact hframe.append ((shows_category printable _).append (hcomma.append
    ((shows_shown printable _).append (hplace.append ((shows_position printable _).append hclose)))))

theorem unlines_cons_ne_nil (line : String) (later : List String) :
    unlines (line :: later) ≠ unlines [] := by
  intro h
  have hnil := congrArg String.toList h
  rw [toList_unlines_cons] at hnil
  exact absurd hnil (by simp [unlines])

theorem unlines_logWith_inj {tokens tokens' : List Token}
    (h : unlines (tokens.map (·.logWith printable)) =
      unlines (tokens'.map (·.logWith printable'))) : tokens = tokens' := by
  induction tokens generalizing tokens' with
  | nil =>
    cases tokens' with
    | nil => rfl
    | cons token' tokens' => exact absurd h.symm (unlines_cons_ne_nil _ _)
  | cons token tokens ih =>
    cases tokens' with
    | nil => exact absurd h (unlines_cons_ne_nil _ _)
    | cons token' tokens' =>
      have hlines := congrArg String.toList h
      simp only [List.map_cons, toList_unlines_cons] at hlines
      obtain ⟨rfl, hlater⟩ := logWith_append_inj hlines
      rw [ih (String.toList_inj.mp (List.cons.inj hlater).2)]

end Breaks

theorem not_isPlain_of_lineBreak (h : c ∈ lineBreaks) : isPlain c = false := by
  have hall : (lineBreaks.all fun c => !isPlain c) = true := by decide
  simpa using List.all_eq_true.mp hall c h

theorem log_tells_token (printable : Char → Bool) :
    Function.Injective (Token.logWith printable) ∧
    Function.Injective (fun tokens : List Token => unlines (tokens.map (·.logWith printable))) ∧
    ((∀ c ∈ lineBreaks, printable c = false) →
      ∀ token : Token, ∀ c ∈ lineBreaks, c ∉ (token.logWith printable).toList) := by
  refine ⟨fun token token' h => ?_, fun tokens tokens' => unlines_logWith_inj, ?_⟩
  · exact (logWith_append_inj (congrArg (·.toList ++ []) h)).1
  · intro hbreaks token c hc hm
    rcases shows_logWith printable token c hm with h | h
    · cases (hbreaks c hc).symm.trans h
    · cases (not_isPlain_of_lineBreak hc).symm.trans h

theorem breaking_symbol_stays_in_line :
    let token : Token := ⟨.symbol "\n', pos=1:0)", ⟨2, 1⟩⟩
    (∀ c ∈ lineBreaks, isPrintable c = false) ∧
      token.log = "Token(TokenType.SYMBOL, \"\\n', pos=1:0)\", pos=2:1)" ∧
      ∀ c ∈ lineBreaks, c ∉ token.log.toList := by
  intro token
  have hall : (lineBreaks.all fun c => !isPrintable c) = true := by decide +kernel
  have hbreaks : ∀ c ∈ lineBreaks, isPrintable c = false := fun c hc => by
    simpa using List.all_eq_true.mp hall c hc
  have hlog : token.log = "Token(TokenType.SYMBOL, \"\\n', pos=1:0)\", pos=2:1)" := by
    decide +kernel
  exact ⟨hbreaks, hlog, (log_tells_token isPrintable).2.2 hbreaks token⟩

end Calculator
