import Calculator.Proofs.Answer
import Calculator.Proofs.Recognition
import Calculator.Proofs.Written

namespace Calculator

open Grammar

variable {text message : String} {tokens : List Token} {lines : List String}

theorem echo_cons_cons (token next : Token) (later : List Token) :
    (Token.echo (token :: next :: later)).toList =
      token.text.toList ++ ([' '] ++ (Token.echo (next :: later)).toList) := by
  simp [Token.echo, String.intercalate_cons_cons, String.toList_append]

theorem spells_echo (h : ∀ token ∈ tokens, Lexed token.lexeme) :
    Spells (Token.echo tokens).toList (tokens.map Token.lexeme) [] := by
  induction tokens with
  | nil => exact spells_blanks (by simp [Token.echo])
  | cons token later ih =>
    obtain ⟨htoken, hlater⟩ := List.forall_mem_cons.mp h
    cases later with
    | nil =>
      have he : Token.echo [token] = token.text := String.intercalate_singleton
      rw [he]
      exact spells_lexed htoken (by simp)
    | cons next later =>
      have hspace (cs : List Char) : ∀ c ∈ (' ' :: cs).head?, isWordPart c = false :=
        not_isWordPart_head (by decide +kernel) cs
      rw [echo_cons_cons]
      exact (spells_lexed htoken (hspace _)).append ((spells_space _).append (ih hlater))

theorem lexed_of_scan (h : (Scan.ofText text).result = .ok tokens) :
    ∀ token ∈ tokens, Lexed token.lexeme :=
  fun _ hm => ⟨text, tokens, h, List.mem_map_of_mem hm⟩

theorem echo_of_lexemes {tokens' : List Token}
    (h : tokens.map Token.lexeme = tokens'.map Token.lexeme) :
    Token.echo tokens = Token.echo tokens' := by
  rw [← echo_withoutPlaces, withoutPlaces_eq_of_lexemes h, echo_withoutPlaces]

theorem scan_echo (h : (Scan.ofText text).result = .ok tokens) :
    ∃ again, (Scan.ofText (Token.echo tokens)).result = .ok again ∧
      again.map Token.lexeme = tokens.map Token.lexeme :=
  (spells_echo (lexed_of_scan h)).scan

namespace Reply

def Raises (reply : Reply) (message : String) : Prop :=
  ∃ error diagnostic, reply.outcome = .error (.evaluation error) ∧
    error.diagnostic? = some diagnostic ∧ diagnostic.stage = .evaluation ∧
    diagnostic.message = message

theorem stage_of_diagnostic? {error : EvaluationError} {diagnostic : Diagnostic}
    (h : error.diagnostic? = some diagnostic) : diagnostic.stage = .evaluation := by
  cases error with
  | absentOperand => cases h
  | identifierWithoutValue name place => cases h; rfl
  | zeroDivisor o left right => cases h; rfl
  | unknownOperator o => cases h; rfl

theorem raises_iff (h : (Scan.ofText text).result = .ok tokens) :
    (reply text).Raises message ↔
      (answer tokens).mapError EvaluationError.message? = .error (some message) := by
  rw [Raises, outcome_of_ok h]
  cases answer tokens with
  | ok lines =>
    constructor
    · rintro ⟨_, _, he, -⟩
      cases he
    · intro he
      cases he
  | error error =>
    constructor
    · rintro ⟨_, diagnostic, he, hd, -, rfl⟩
      cases he
      exact congrArg Except.error (congrArg (Option.map Diagnostic.message) hd)
    · intro he
      obtain ⟨diagnostic, hd, hm⟩ := Option.map_eq_some_iff.mp (Except.error.inj he)
      exact ⟨error, diagnostic, rfl, hd, stage_of_diagnostic? hd, hm⟩

theorem head_of_answer (h : answer tokens = .ok lines) :
    ∃ later, lines = Token.echo tokens :: later := by
  cases hp : Tree.parse tokens with
  | error failure =>
    cases (answer_of_failure hp).symm.trans h
    exact ⟨_, rfl⟩
  | ok tree =>
    cases hv : valueOf tree tree.simplify with
    | error error => cases (answer_of_no_value hp hv).symm.trans h
    | ok line =>
      cases (answer_of_line hp hv).symm.trans h
      exact ⟨_, rfl⟩

theorem outcome_of_lexemes {text' : String} {tokens' : List Token}
    (h : (Scan.ofText text).result = .ok tokens) (h' : (Scan.ofText text').result = .ok tokens')
    (hl : tokens.map Token.lexeme = tokens'.map Token.lexeme)
    (ho : (reply text).outcome = .ok lines) : (reply text').outcome = .ok lines := by
  have hm := answer_of_lexemes hl
  rw [(outcome_eq_ok_iff h).mp ho] at hm
  rw [outcome_eq_ok_iff h']
  cases ha : answer tokens' with
  | ok found =>
    rw [ha] at hm
    exact congrArg Except.ok (Except.ok.inj hm).symm
  | error error =>
    rw [ha] at hm
    cases hm

theorem scan_of_lines (h : (reply text).outcome = .ok lines) :
    ∃ tokens, (Scan.ofText text).result = .ok tokens := by
  cases hs : (Scan.ofText text).result with
  | ok tokens => exact ⟨tokens, rfl⟩
  | error error => cases (outcome_of_error hs).symm.trans h

theorem echo_read_again (text : String) :
    (∀ tokens, (Scan.ofText text).result = .ok tokens →
      ∃ again, (Scan.ofText (Token.echo tokens)).result = .ok again ∧
        again.map Token.lexeme = tokens.map Token.lexeme ∧
        Token.echo again = Token.echo tokens ∧
        ∀ message, (reply text).Raises message ↔ (reply (Token.echo tokens)).Raises message) ∧
    ∀ lines, (reply text).outcome = .ok lines →
      ∃ first later, lines = first :: later ∧ (reply first).outcome = .ok lines := by
  constructor
  · intro tokens h
    obtain ⟨again, hs, hl⟩ := scan_echo h
    refine ⟨again, hs, hl, echo_of_lexemes hl, fun message => ?_⟩
    rw [raises_iff h, raises_iff hs, answer_of_lexemes hl]
  · intro lines ho
    obtain ⟨tokens, h⟩ := scan_of_lines ho
    obtain ⟨again, hs, hl⟩ := scan_echo h
    obtain ⟨later, he⟩ := head_of_answer ((outcome_eq_ok_iff h).mp ho)
    exact ⟨_, later, he, outcome_of_lexemes h hs hl.symm ho⟩

theorem number_before_name_read_again :
    (∃ again, (Scan.ofText "7 abc").result = .ok again ∧
      again.map Token.lexeme = [.number 7, .identifier "abc"]) ∧
    (reply "007abc").outcome = .ok ["7 abc", "this is not an expression"] ∧
    (reply "7 abc").outcome = .ok ["7 abc", "this is not an expression"] := by
  have hvalue : Numeral.value ['0', '0', '7'] = 7 := by decide +kernel
  have hdigits : ['0', '0', '7'].all isDigit = true := by decide +kernel
  have hnumber : Source (.number (7 : Nat)) ['0', '0', '7'] :=
    hvalue ▸ .number (by decide) (List.all_eq_true.mp hdigits) (by decide)
  have hparts : ['b', 'c'].all isWordPart = true := by decide +kernel
  have hname : Source (.identifier "abc") ['a', 'b', 'c'] :=
    .identifier (by decide +kernel) (List.all_eq_true.mp hparts)
  have hapart : (Lexeme.number (7 : Nat)).Closes ['a', 'b', 'c'] := by
    intro c hc
    cases hc
    decide +kernel
  have hspells : Spells "007abc".toList [.number 7, .identifier "abc"] [] :=
    (spells_source hnumber hapart).append (spells_source hname (by simp [Lexeme.Closes]))
  obtain ⟨tokens, hs, hl⟩ := hspells.scan
  obtain ⟨⟨_, place⟩, later, rfl, rfl, hl'⟩ := List.map_eq_cons_iff.mp hl
  obtain ⟨⟨_, place'⟩, rfl, rfl⟩ := List.map_eq_singleton_iff.mp hl'
  have hreads : (Tree.builder.expression maxNesting).Reads
      [⟨.number 7, place⟩, ⟨.identifier "abc", place'⟩] (.number 7 place)
      [⟨.identifier "abc", place'⟩] :=
    (Tree.expression_recognizes_expression maxNesting).complete
      (expression_of_factor (.number 7 place)) (by simp [Begins])
  have ho : (reply "007abc").outcome = .ok ["7 abc", "this is not an expression"] := by
    rw [outcome_eq_ok_iff hs, answer, show Tree.parse _ = _ from Tree.whole_trailing hreads]
    rfl
  obtain ⟨hscan, hlines⟩ := echo_read_again "007abc"
  obtain ⟨again, hagain, hlexemes, -⟩ := hscan _ hs
  obtain ⟨first, later, he, hfirst⟩ := hlines _ ho
  cases he
  exact ⟨⟨again, hagain, hlexemes⟩, ho, hfirst⟩

end Reply

end Calculator
