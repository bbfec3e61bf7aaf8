import Calculator.Proofs.LineBreaks
import Calculator.Shell
import Mathlib.Control.Monad.Basic

/-!
The transcript of a conversation. It is put together line by line from what each line is answered, up
to the first line that stops it or leaves no answer; what was said before shows in nothing behind.
-/

namespace Calculator

open Line

namespace Conversation

structure Exchange where
  line : String
  answer : List String

def Exchange.text (flags : Flags) (e : Exchange) : String :=
  prompt ++ unlines ((reply e.line).log flags) ++ unlines e.answer ++ "\n"

inductive Close where
  | farewell
  | cut (line : String) (cause : Escape)

namespace Close

def text (flags : Flags) : Close → String
  | farewell => prompt ++ "good bye\n"
  | cut line _ => prompt ++ unlines ((reply line).log flags)

def escape? : Close → Option Escape
  | farewell => none
  | cut _ cause => some cause

def ending : Close → Ending
  | farewell => .finished
  | cut _ cause => .escaped cause

end Close

def heard (ls : List String) : List String := ls.takeWhile fun line => !stops line

inductive Course (ls : List String) : List Exchange → Close → Prop
  | closed {es : List Exchange} (lines : heard ls = es.map Exchange.line)
      (answered : ∀ e ∈ es, (reply e.line).outcome = .ok e.answer) : Course ls es .farewell
  | cut {es : List Exchange} {line : String} {later : List String} {cause : Escape}
      (lines : heard ls = es.map Exchange.line ++ line :: later)
      (answered : ∀ e ∈ es, (reply e.line).outcome = .ok e.answer)
      (escapes : (reply line).outcome = .error cause) : Course ls es (.cut line cause)

variable {flags : Flags} {ast : Bool} {page? : Option Page} {line : String}
variable {ls later answer : List String} {cause : Escape} {es : List Exchange} {close : Close}

section Step

theorem run_stop (h : stops line = true) :
    run flags ast page? (line :: later) = ⟨prompt ++ farewell, page?, none⟩ := by
  rw [run, if_pos h]

theorem run_escape (h : stops line = false) (he : (reply line).outcome = .error cause) :
    run flags ast page? (line :: later) =
      ⟨prompt ++ unlines ((reply line).log flags), page?, some cause⟩ := by
  simp only [run, h, he]
  rfl

theorem run_exchange (h : stops line = false) (ha : (reply line).outcome = .ok answer) :
    run flags ast page? (line :: later) =
      let rest := run flags ast (pageAfter ast flags page? (reply line)) later
      { rest with output := Exchange.text flags ⟨line, answer⟩ ++ rest.output } := by
  simp only [run, h, ha]
  rfl

theorem heard_stop (h : stops line = true) : heard (line :: later) = [] := by
  rw [heard, List.takeWhile_cons, h]
  rfl

theorem heard_next (h : stops line = false) : heard (line :: later) = line :: heard later := by
  rw [heard, List.takeWhile_cons, h]
  rfl

theorem course_of_silence (h : heard ls = []) :
    Course ls es close ↔ es = [] ∧ close = .farewell := by
  constructor
  · rintro (⟨hl, -⟩ | ⟨hl, -, -⟩)
    · rw [h] at hl
      exact ⟨List.map_eq_nil_iff.mp hl.symm, rfl⟩
    · simp [h] at hl
  · rintro ⟨rfl, rfl⟩
    exact .closed h (by simp)

theorem course_escape (h : stops line = false) (he : (reply line).outcome = .error cause) :
    Course (line :: later) es close ↔ es = [] ∧ close = .cut line cause := by
  have hh : heard (line :: later) = line :: heard later := heard_next h
  constructor
  · intro hc
    cases es with
    | nil =>
      rcases hc with ⟨hl, -⟩ | ⟨hl, -, he'⟩ <;> rw [hh] at hl
      · cases hl
      · obtain ⟨rfl, -⟩ := List.cons.inj hl
        cases he.symm.trans he'
        exact ⟨rfl, rfl⟩
    | cons e es =>
      rcases hc with ⟨hl, ha⟩ | ⟨hl, ha, -⟩ <;> rw [hh] at hl
      all_goals
        obtain ⟨rfl, -⟩ := List.cons.inj hl
        cases he.symm.trans (ha e List.mem_cons_self)
  · rintro ⟨rfl, rfl⟩
    exact .cut hh (by simp) he

theorem course_exchange (h : stops line = false) (ha : (reply line).outcome = .ok answer) :
    Course (line :: later) es close ↔
      ∃ es', es = ⟨line, answer⟩ :: es' ∧ Course later es' close := by
  have hh : heard (line :: later) = line :: heard later := heard_next h
  constructor
  · intro hc
    cases es with
    | nil =>
      rcases hc with ⟨hl, -⟩ | ⟨hl, -, he⟩ <;> rw [hh] at hl
      · cases hl
      · obtain ⟨rfl, -⟩ := List.cons.inj hl
        cases ha.symm.trans he
    | cons e es =>
      obtain ⟨line', answer'⟩ := e
      rcases hc with ⟨hl, ha'⟩ | ⟨hl, ha', he⟩ <;> rw [hh] at hl
      all_goals
        obtain ⟨rfl, hrest⟩ := List.cons.inj hl
        obtain ⟨hfirst, hlater⟩ := List.forall_mem_cons.mp ha'
        cases ha.symm.trans hfirst
      · exact ⟨es, rfl, .closed hrest hlater⟩
      · exact ⟨es, rfl, .cut hrest hlater he⟩
  · rintro ⟨es', rfl, ⟨hl, ha'⟩ | ⟨hl, ha', he⟩⟩
    · exact .closed (by rw [hh, hl]; rfl) (List.forall_mem_cons.mpr ⟨ha, ha'⟩)
    · exact .cut (by rw [hh, hl]; rfl) (List.forall_mem_cons.mpr ⟨ha, ha'⟩) he

end Step

section Run

theorem run_course (flags : Flags) (ast : Bool) (ls : List String) : ∃ es close,
    (∀ es' close', Course ls es' close' ↔ es' = es ∧ close' = close) ∧
    ∀ page?, (run flags ast page? ls).output =
        String.join (es.map (Exchange.text flags)) ++ close.text flags ∧
      (run flags ast page? ls).escape? = close.escape? := by
  induction ls with
  | nil =>
    refine ⟨[], .farewell, fun _ _ => course_of_silence rfl, fun page? => ⟨rfl, rfl⟩⟩
  | cons line later ih =>
    cases h : stops line with
    | true =>
      refine ⟨[], .farewell, fun _ _ => course_of_silence (heard_stop h), fun page? => ?_⟩
      rw [run_stop h]
      exact ⟨rfl, rfl⟩
    | false =>
      cases ho : (reply line).outcome with
      | error cause =>
        refine ⟨[], .cut line cause, fun _ _ => course_escape h ho, fun page? => ?_⟩
        rw [run_escape h ho]
        exact ⟨rfl, rfl⟩
      | ok answer =>
        obtain ⟨es, close, hcourse, hrun⟩ := ih
        refine ⟨⟨line, answer⟩ :: es, close, fun es' close' => ?_, fun page? => ?_⟩
        · rw [course_exchange h ho]
          constructor
          · rintro ⟨es', rfl, hc⟩
            obtain ⟨rfl, rfl⟩ := (hcourse _ _).mp hc
            exact ⟨rfl, rfl⟩
          · rintro ⟨rfl, rfl⟩
            exact ⟨es, rfl, (hcourse _ _).mpr ⟨rfl, rfl⟩⟩
        · obtain ⟨houtput, hescape⟩ := hrun (pageAfter ast flags page? (reply line))
          rw [run_exchange h ho]
          refine ⟨?_, hescape⟩
          rw [List.map_cons, String.join_cons, String.append_assoc, ← houtput]

theorem run_whatever_page (flags : Flags) (ast : Bool) (ls : List String)
    (page? page?' : Option Page) :
    (run flags ast page? ls).output = (run flags ast page?' ls).output ∧
      (run flags ast page? ls).escape? = (run flags ast page?' ls).escape? := by
  obtain ⟨es, close, -, hrun⟩ := run_course flags ast ls
  obtain ⟨houtput, hescape⟩ := hrun page?
  obtain ⟨houtput', hescape'⟩ := hrun page?'
  exact ⟨houtput.trans houtput'.symm, hescape.trans hescape'.symm⟩

theorem run_until_stop (h : stops line = true) (ls : List String) :
    run flags ast page? (ls ++ line :: later) = run flags ast page? ls := by
  induction ls generalizing page? with
  | nil => exact run_stop h
  | cons first ls ih =>
    cases hf : stops first with
    | true => rw [List.cons_append, run_stop hf, run_stop hf]
    | false =>
      cases ho : (reply first).outcome with
      | error cause => rw [List.cons_append, run_escape hf ho, run_escape hf ho]
      | ok answer => rw [List.cons_append, run_exchange hf ho, run_exchange hf ho, ih]

def Answered (line : String) : Prop :=
  stops line = false ∧ ∃ answer, (reply line).outcome = .ok answer

theorem run_append (flags : Flags) (ast : Bool) (h : ∀ line ∈ ls, Answered line) :
    ∃ body, ∀ page?,
    run flags ast page? ls = ⟨body ++ (prompt ++ farewell), (run flags ast page? ls).page?, none⟩ ∧
    ∀ later, run flags ast page? (ls ++ later) =
      let rest := run flags ast (run flags ast page? ls).page? later
      { rest with output := body ++ rest.output } := by
  induction ls with
  | nil =>
    refine ⟨"", fun page? => ⟨?_, fun later => ?_⟩⟩
    · rw [String.empty_append]
      rfl
    · simp only [List.nil_append, String.empty_append]
      rfl
  | cons line ls ih =>
    obtain ⟨⟨hl, answer, ho⟩, hls⟩ := List.forall_mem_cons.mp h
    obtain ⟨body, hbody⟩ := ih hls
    refine ⟨Exchange.text flags ⟨line, answer⟩ ++ body, fun page? => ⟨?_, fun later => ?_⟩⟩
    · rw [run_exchange hl ho, (hbody _).1, String.append_assoc]
    · rw [List.cons_append, run_exchange hl ho, run_exchange hl ho, (hbody _).2]
      simp only [String.append_assoc]

end Run

end Conversation

section Text

variable {head tail : String}

theorem lines_append (h : Parted head.toList tail.toList) :
    lines (head ++ tail) = lines head ++ lines tail := by
  rw [lines, String.toList_append, split_append h, List.map_append]
  rfl

theorem lines_eq_iff {ls : List String} :
    lines head = ls ↔ Broken head.toList (ls.map String.toList) := by
  have hback (css : List (List Char)) : (css.map String.ofList).map String.toList = css := by
    simp
  rw [broken_iff, lines]
  constructor
  · rintro rfl
    exact hback _
  · intro h
    rw [← h]
    simp

theorem parted_unlines (ls : List String) (rest : List Char) :
    Parted (unlines ls).toList rest := by
  induction ls with
  | nil => exact .inl rfl
  | cons line ls ih =>
    rw [toList_unlines_cons, Parted, List.getLast?_append, List.getLast?_cons]
    rcases ih with h | h | ⟨h, hrest⟩
    · exact .inr (.inl (by simp [h]))
    · exact .inr (.inl (by simp [h]))
    · exact .inr (.inr ⟨by simp [h], hrest⟩)

theorem lines_of_stop (tail : String) :
    ∃ line later, lines ("!" ++ tail) = line :: later ∧ Conversation.stops line = true := by
  obtain ⟨line, ls, hs⟩ := split_plain (c := '!') (by decide) tail.toList
  refine ⟨String.ofList ('!' :: line), ls.map String.ofList, ?_, ?_⟩
  · rw [lines, String.toList_append]
    exact congrArg (List.map String.ofList) hs
  · simp [Conversation.stops]

end Text

namespace Shell

open Conversation

variable (shell : Shell) (ast : Bool)

theorem converse_eq (input : String) : (shell.converse ast input).1 =
    ⟨(run shell.flags ast shell.page? (lines input)).escape?.elim .finished .escaped,
      (run shell.flags ast shell.page? (lines input)).output, ""⟩ := by
  rw [converse]
  cases (run shell.flags ast shell.page? (lines input)).escape? <;> rfl

theorem transcript_line_by_line :
    (∀ input ls, lines input = ls ↔ Broken input.toList (ls.map String.toList)) ∧
    (∀ input, ∃ es close,
      (∀ es' close', Course (lines input) es' close' ↔ es' = es ∧ close' = close) ∧
      (shell.converse ast input).1 = ⟨close.ending,
        String.join (es.map (Exchange.text shell.flags)) ++ close.text shell.flags, ""⟩) ∧
    (∀ head tail, Parted head.toList ['!'] →
      shell.converse ast (head ++ ("!" ++ tail)) = shell.converse ast head) ∧
    ∀ ls later, (∀ line ∈ lines (unlines ls), Answered line) → ∃ body,
      (shell.converse ast (unlines ls)).1 = ⟨.finished, body ++ (prompt ++ "good bye\n"), ""⟩ ∧
      (shell.converse ast (unlines ls ++ later)).1 =
        ⟨(shell.converse ast later).1.ending, body ++ (shell.converse ast later).1.stdout, ""⟩ ∧
      (shell.converse ast (unlines ls ++ later)).2 =
        ((shell.converse ast (unlines ls)).2.converse ast later).2 := by
  refine ⟨fun _ _ => lines_eq_iff, ?_, ?_, ?_⟩
  · intro input
    obtain ⟨es, close, hcourse, hrun⟩ := run_course shell.flags ast (lines input)
    obtain ⟨houtput, hescape⟩ := hrun shell.page?
    refine ⟨es, close, hcourse, ?_⟩
    rw [converse_eq, houtput, hescape]
    cases close <;> rfl
  · intro head tail hparted
    obtain ⟨line, later, hl, hstop⟩ := lines_of_stop tail
    have hparted' : Parted head.toList ("!" ++ tail).toList := by
      rw [String.toList_append]
      simpa [Parted] using hparted
    simp only [converse, lines_append hparted', hl, run_until_stop hstop]
  · intro ls later hls
    obtain ⟨body, hbody⟩ := run_append shell.flags ast hls
    obtain ⟨hfirst, hboth⟩ := hbody shell.page?
    have hlines := lines_append (parted_unlines ls later.toList)
    refine ⟨body, ?_, ?_, ?_⟩
    · rw [converse_eq, hfirst]
      rfl
    · obtain ⟨houtput, hescape⟩ := run_whatever_page shell.flags ast (lines later)
        (run shell.flags ast shell.page? (lines (unlines ls))).page? shell.page?
      rw [converse_eq, converse_eq, hlines, hboth, ← houtput, ← hescape]
    · simp only [converse, hlines, hboth]

theorem quotient_cuts_transcript :
    converse ⟨⟨false, true, false⟩, none⟩ true ("0*x\r" ++ ("!" ++ " stop\n1/0")) =
      converse ⟨⟨false, true, false⟩, none⟩ true "0*x\r" ∧
    ∃ body,
      (converse ⟨⟨false, true, false⟩, none⟩ true (unlines ["2*1", "x"])).1 =
        ⟨.finished, body ++ (prompt ++ "good bye\n"), ""⟩ ∧
      (converse ⟨⟨false, true, false⟩, none⟩ true (unlines ["2*1", "x"] ++ "1/0\r\n7")).1 =
        ⟨.escaped (.evaluation (.zeroDivisor ⟨"/", ⟨1, 1⟩⟩ (.number 1 ⟨1, 0⟩) (.number 0 ⟨1, 2⟩))),
          body ++ prompt, ""⟩ := by
  obtain ⟨-, -, hstop, happend⟩ := transcript_line_by_line ⟨⟨false, true, false⟩, none⟩ true
  have hlines : lines (unlines ["2*1", "x"]) = ["2*1", "x"] := by decide +kernel
  have hanswered : ∀ line ∈ lines (unlines ["2*1", "x"]), Answered line := by
    rw [hlines]
    refine List.forall_mem_cons.mpr ⟨⟨by decide, ?_⟩, List.forall_mem_singleton.mpr ⟨by decide, ?_⟩⟩
    · exact ⟨["2 * 1", "in infix notation: (2 * 1)", "the value is 2", "simplified: 2"],
        by decide +kernel⟩
    · exact ⟨["x", "in infix notation: x", "this is not a numerical expression", "simplified: x"],
        by decide +kernel⟩
  obtain ⟨body, hfirst, hboth, -⟩ := happend _ "1/0\r\n7" hanswered
  refine ⟨hstop "0*x\r" " stop\n1/0" (.inr (.inr ⟨by decide, by decide⟩)), body, hfirst, ?_⟩
  have hcut : (converse ⟨⟨false, true, false⟩, none⟩ true "1/0\r\n7").1.ending =
      .escaped (.evaluation (.zeroDivisor ⟨"/", ⟨1, 1⟩⟩ (.number 1 ⟨1, 0⟩) (.number 0 ⟨1, 2⟩))) ∧
      (converse ⟨⟨false, true, false⟩, none⟩ true "1/0\r\n7").1.stdout = prompt := by
    decide +kernel
  rw [hboth, hcut.1, hcut.2]

end Shell

end Calculator
