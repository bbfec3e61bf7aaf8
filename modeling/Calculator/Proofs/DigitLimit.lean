import Calculator.Proofs.Answer
import Calculator.Proofs.LongestCut
import Calculator.Proofs.LongestReading
import Calculator.Proofs.Transcript

/-!
What the limit on the digits of a numeral does to a text. The lexer is to refuse nothing, and a numeral
beyond the limit is all that it refuses; but such a numeral leaves its line without an answer, also
where the line is no expression, and ends the conversation.
-/

namespace Calculator

open Grammar

section Text

variable {text : String} {digits : Nat} {stretches : List Stretch} {tail : List Char}

def Overlong (text : String) (digits : Nat) : Prop :=
  ∃ stretches tail s, Cuts text.toList stretches tail ∧ stretches.find? (·.oversized) = some s ∧
    s.source.length = digits

theorem overlong_iff :
    Overlong text digits ↔ (Scan.ofText text).result = .error (.tooLong digits) := by
  constructor
  · rintro ⟨stretches, tail, s, hc, hf, rfl⟩
    exact result_of_oversized hc hf
  · intro hr
    obtain ⟨stretches, tail, hc⟩ := exists_cuts text.toList
    cases hf : stretches.find? (·.oversized) with
    | none =>
      obtain ⟨s, hm, hs⟩ := (result_fails_iff hc).mp ⟨_, hr⟩
      exact absurd hs (List.find?_eq_none.mp hf s hm)
    | some s =>
      cases (result_of_oversized hc hf).symm.trans hr
      exact ⟨stretches, tail, s, hc, hf, rfl⟩

theorem Overlong.long (h : Overlong text digits) : Numeral.maxDigits < digits := by
  obtain ⟨stretches, tail, s, -, hf, rfl⟩ := h
  have hs : s.oversized = true := List.find?_some hf
  exact Lexeme.long_of_oversized hs

theorem overlong_of_run {run rest : List Char} (hrun : ∀ c ∈ run, isDigit c = true)
    (long : Numeral.maxDigits < run.length) (hrest : ∀ c ∈ rest.head?, isDigit c = false) :
    Overlong (String.ofList (run ++ rest)) run.length := by
  have hne : run ≠ [] := by
    rintro rfl
    exact Nat.not_lt_zero _ long
  obtain ⟨later, tail, hlater⟩ := exists_cuts rest
  have hc := Cuts.stretch (s := ⟨[], run, .number (Numeral.value run)⟩) (by simp)
    (.number hne hrun) hrest hlater
  refine ⟨_, tail, ⟨[], run, .number (Numeral.value run)⟩, by simpa using hc, ?_, rfl⟩
  exact List.find?_cons_of_pos (decide_eq_true long)

theorem digits_replicate {c : Char} (hc : isDigit c = true) (n : Nat) :
    ∀ d ∈ List.replicate n c, isDigit d = true := by
  intro d hd
  rwa [List.eq_of_mem_replicate hd]

theorem overlong_replicate {c : Char} {n : Nat} (hc : isDigit c = true)
    (long : Numeral.maxDigits < n) (rest : List Char) (hrest : ∀ d ∈ rest.head?, isDigit d = false) :
    Overlong (String.ofList (List.replicate n c ++ rest)) n := by
  have h := overlong_of_run (digits_replicate hc n) (by rwa [List.length_replicate]) hrest
  rwa [List.length_replicate] at h

theorem result_ok_iff (h : Cuts text.toList stretches tail) (tokens : List Token) :
    (Scan.ofText text).result = .ok tokens ↔ (¬ ∃ digits, Overlong text digits) ∧
      tokens = (Cursor.ofText text.toList).tokensOver stretches := by
  cases hf : stretches.find? (·.oversized) with
  | none =>
    have hr := result_of_fits h fun s hm => by simpa using List.find?_eq_none.mp hf s hm
    constructor
    · intro ht
      cases hr.symm.trans ht
      refine ⟨?_, rfl⟩
      rintro ⟨digits, hd⟩
      cases hr.symm.trans (overlong_iff.mp hd)
    · rintro ⟨-, rfl⟩
      exact hr
  | some s =>
    have hr := result_of_oversized h hf
    constructor
    · intro ht
      cases hr.symm.trans ht
    · rintro ⟨hnone, -⟩
      exact absurd ⟨_, overlong_iff.mpr hr⟩ hnone

end Text

namespace Reply

variable {text : String} {tokens : List Token} {digits : Nat}

theorem outcome_numeral_iff {error : Numeral.Error} :
    (reply text).outcome = .error (.numeral error) ↔
      (Scan.ofText text).result = .error error := by
  constructor
  · intro ho
    cases hr : (Scan.ofText text).result with
    | error error' =>
      cases (outcome_of_error hr).symm.trans ho
      rfl
    | ok tokens =>
      rw [outcome_of_ok hr] at ho
      cases ha : answer tokens <;> rw [ha] at ho <;> cases ho
  · exact outcome_of_error

theorem outcome_noExpression_iff (h : (Scan.ofText text).result = .ok tokens) :
    (reply text).outcome = .ok [Token.echo tokens, notAnExpression] ↔
      ¬ ∃ tree, Expression maxNesting tokens tree := by
  rw [outcome_eq_ok_iff h]
  constructor
  · rintro ha ⟨tree, he⟩
    have hp : Tree.parse tokens = .ok tree := Tree.whole_iff_expression.mpr he
    cases hv : valueOf tree tree.simplify with
    | error error => cases (answer_of_no_value hp hv).symm.trans ha
    | ok line =>
      have hl := Except.ok.inj ((answer_of_line hp hv).symm.trans ha)
      exact absurd (congrArg List.length hl) (by simp)
  · intro hnone
    cases hp : Tree.parse tokens with
    | error failure => exact answer_of_failure hp
    | ok tree => exact absurd ⟨tree, Tree.whole_iff_expression.mp hp⟩ hnone

end Reply

namespace Shell

open Conversation

theorem ending_iff (shell : Shell) (ast : Bool) (input : String) (cause : Escape) :
    (shell.converse ast input).1.ending = .escaped cause ↔
      ∃ (es : List Exchange) (line : String) (later : List String),
      heard (lines input) = es.map Exchange.line ++ line :: later ∧
      (∀ e ∈ es, (reply e.line).outcome = .ok e.answer) ∧
      (reply line).outcome = .error cause := by
  obtain ⟨es, close, hcourse, hrun⟩ := run_course shell.flags ast (lines input)
  rw [converse_eq, (hrun shell.page?).2]
  constructor
  · intro he
    cases close with
    | farewell => cases he
    | cut line cause' =>
      cases he
      obtain - | ⟨hl, ha, ho⟩ := (hcourse _ _).mpr ⟨rfl, rfl⟩
      exact ⟨es, line, _, hl, ha, ho⟩
  · rintro ⟨es', line, later, hl, ha, ho⟩
    obtain ⟨-, rfl⟩ := (hcourse _ _).mp (.cut hl ha ho)
    rfl

theorem long_numerals_only_refused (shell : Shell) (ast : Bool) :
    (∀ text stretches tail, Cuts text.toList stretches tail → ∀ tokens,
      (Scan.ofText text).result = .ok tokens ↔ (¬ ∃ digits, Overlong text digits) ∧
        tokens = (Cursor.ofText text.toList).tokensOver stretches) ∧
    (∀ text digits, Overlong text digits → 4300 < digits ∧
      (Scan.ofText text).result = .error (.tooLong digits) ∧
      (reply text).outcome = .error (.numeral (.tooLong digits))) ∧
    (∀ text tokens, (Scan.ofText text).result = .ok tokens →
      ((reply text).outcome = .ok [Token.echo tokens, "this is not an expression"] ↔
        ¬ ∃ tree, Expression maxNesting tokens tree)) ∧
    ∀ input digits,
      (shell.converse ast input).1.ending = .escaped (.numeral (.tooLong digits)) ↔
        ∃ (es : List Exchange) (line : String) (later : List String),
          heard (lines input) = es.map Exchange.line ++ line :: later ∧
          (∀ e ∈ es, (reply e.line).outcome = .ok e.answer) ∧ Overlong line digits := by
  refine ⟨fun _ _ _ h => result_ok_iff h, ?_, fun _ _ h => Reply.outcome_noExpression_iff h, ?_⟩
  · intro text digits h
    have hr := overlong_iff.mp h
    exact ⟨h.long, hr, Reply.outcome_of_error hr⟩
  · intro input digits
    simp only [ending_iff, Reply.outcome_numeral_iff, overlong_iff]

theorem heard_sevens (n : Nat) :
    heard (lines (String.ofList (['2', '*', 'y'] ++ (['\n'] ++ List.replicate (n + 1) '7')))) =
      ["2*y", String.ofList (List.replicate (n + 1) '7')] := by
  have hplain : Line.Plain (List.replicate (n + 1) '7') := by
    intro c hc
    rw [List.eq_of_mem_replicate hc]
    decide
  have hbroken : Line.Broken (['2', '*', 'y'] ++ (['\n'] ++ List.replicate (n + 1) '7'))
      [['2', '*', 'y'], List.replicate (n + 1) '7'] :=
    .line (by simp [Line.Plain]) (.feed _) (.last (by simp) hplain)
  have hlines : lines (String.ofList (['2', '*', 'y'] ++ (['\n'] ++ List.replicate (n + 1) '7'))) =
      ["2*y", String.ofList (List.replicate (n + 1) '7')] := by
    rw [lines_eq_iff, String.toList_ofList]
    simpa using hbroken
  rw [hlines, heard_next (by decide), heard_next (by simp [stops, List.replicate_succ])]
  rfl

theorem sevens_end_dialogue :
    (initial.converse false (String.ofList (['2', '*', 'y'] ++ (['\n'] ++
      List.replicate 4301 '7')))).1.ending = .escaped (.numeral (.tooLong 4301)) := by
  have hlong := overlong_replicate (c := '7') (n := 4301) (by decide) (by decide) [] (by simp)
  rw [List.append_nil] at hlong
  refine ((long_numerals_only_refused initial false).2.2.2 _ _).mpr
    ⟨[⟨"2*y", ["2 * y", "in infix notation: (2 * y)", "this is not a numerical expression",
      "simplified: (2 * y)"]⟩], _, [], heard_sevens 4300, ?_, hlong⟩
  rw [List.forall_mem_singleton]
  decide +kernel

end Shell

theorem value_zeros (n : Nat) : Numeral.value (List.replicate n '0') = 0 := by
  induction n with
  | zero => rfl
  | succ n ih => exact ih

theorem cuts_zeros (n : Nat) : Cuts (List.replicate (n + 1) '0' ++ [' ', 'x'])
    [⟨[], List.replicate (n + 1) '0', .number 0⟩, ⟨[' '], ['x'], .identifier "x"⟩] [] := by
  have hx : Cuts [' ', 'x'] [⟨[' '], ['x'], .identifier "x"⟩] [] :=
    .stretch (s := ⟨[' '], ['x'], .identifier "x"⟩) (List.forall_mem_singleton.mpr (by decide))
      (.identifier (c := 'x') (by decide) (by simp)) (by simp [Lexeme.Closes]) (.tail (by simp))
  have hzeros : Spelt (.number (Numeral.value (List.replicate (n + 1) '0')))
      (List.replicate (n + 1) '0') := .number (by simp) (digits_replicate (by decide) _)
  rw [value_zeros] at hzeros
  have hc := Cuts.stretch (s := ⟨[], List.replicate (n + 1) '0', .number 0⟩) (by simp) hzeros
    (by simp [Lexeme.Closes]; decide) hx
  simpa using hc

theorem no_number_before_name {depth : Nat} (value : Int) (name : String)
    (place place' : Position) :
    ¬ ∃ tree, Expression depth [⟨.number value, place⟩, ⟨.identifier name, place'⟩] tree := by
  rintro ⟨tree, he⟩
  have hn : Expression depth [⟨.number value, place⟩] (.number value place) :=
    expression_of_factor (.number value place)
  have hstops : ¬ Begins (sums ++ products) [⟨.identifier name, place'⟩] := by
    rintro ⟨_, _, _, _, h⟩
    cases h
  cases (Tree.expression_recognizes_expression depth).not_longer hn he hstops

theorem zeros_before_name_refused : ∃ text : String,
    text.toList = List.replicate 4301 '0' ++ [' ', 'x'] ∧
    (∃ stretches tail, Cuts text.toList stretches tail ∧
      stretches.map Stretch.lexeme = [.number 0, .identifier "x"] ∧
      ¬ ∃ tree, Expression maxNesting ((Cursor.ofText text.toList).tokensOver stretches) tree) ∧
    (¬ ∃ tokens, (Scan.ofText text).result = .ok tokens) ∧
    (reply text).outcome = .error (.numeral (.tooLong 4301)) := by
  have hblank : ∀ d ∈ [' ', 'x'].head?, isDigit d = false := by
    rintro _ ⟨⟩
    decide
  have hr := overlong_iff.mp (overlong_replicate (c := '0') (n := 4301) (by decide) (by decide)
    [' ', 'x'] hblank)
  have hc := cuts_zeros 4300
  rw [← String.toList_ofList (l := List.replicate (4300 + 1) '0' ++ [' ', 'x'])] at hc
  refine ⟨_, String.toList_ofList, ⟨_, _, hc, rfl, no_number_before_name _ _ _ _⟩, ?_, ?_⟩
  · rintro ⟨tokens, ht⟩
    cases hr.symm.trans ht
  · exact Reply.outcome_of_error hr

end Calculator
