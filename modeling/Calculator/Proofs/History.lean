import Calculator.Proofs.Answer
import Calculator.Proofs.LongestCut
import Calculator.Proofs.Transcript

/-!
Calls in a row. What was called before shows in a call only through the flags, which are those of the
last launch that was accepted, and the flags show only in the logs and in the script of a chart.
-/

namespace Calculator

namespace Reply

variable {text : String} {stretches : List Stretch} {tail : List Char}

def expression? (text : String) : Option Tree :=
  (Scan.ofText text).result.toOption.bind fun tokens => (Tree.parse tokens).toOption

theorem toTokens_logged (tokens : List Token) :
    (toTokens Tree.workspace tokens).run.tokens = tokens ∧
    (toTokens Tree.workspace tokens).run.removals =
      (Tree.parse tokens).toOption.elim [] Tree.removals := by
  rw [toTokens_run]
  cases Tree.parse tokens with
  | error failure => exact ⟨rfl, rfl⟩
  | ok tree =>
    dsimp only
    cases valueOf tree tree.simplify <;> exact ⟨rfl, rfl⟩

theorem toTokens_simplified? {tokens : List Token} {cause : Escape}
    (h : (toTokens Tree.workspace tokens).run.outcome = .error cause) :
    (toTokens Tree.workspace tokens).run.simplified? = none := by
  rw [toTokens_run] at h ⊢
  cases hp : Tree.parse tokens with
  | error failure => rfl
  | ok tree =>
    cases hv : valueOf tree tree.simplify with
    | error error => simp only [hv]
    | ok line => simp [hp, hv] at h

theorem simplified?_of_error {cause : Escape} (h : (reply text).outcome = .error cause) :
    (reply text).simplified? = none := by
  rw [reply, toText] at h ⊢
  cases hf : (Scan.ofText text).failure with
  | some error => rfl
  | none =>
    simp only [hf] at h
    exact toTokens_simplified? h

theorem reply_logged (text : String) : (reply text).tokens = (Scan.ofText text).tokens ∧
    (reply text).removals = (expression? text).elim [] Tree.removals := by
  rw [reply, toText, expression?, Scan.result]
  cases (Scan.ofText text).failure with
  | some error => exact ⟨rfl, rfl⟩
  | none => exact toTokens_logged _

theorem exists_entry (text : String) : ∃ shown? : Option Entry, ∀ flags : Flags,
    (reply text).page? flags = shown?.map fun entry => ⟨entry, flags.localScript⟩ := by
  refine ⟨(reply text).simplified?.bind Tree.chart?, fun flags => ?_⟩
  rw [page?]
  cases (reply text).simplified? with
  | none => rfl
  | some tree => exact (Option.map_eq_bind ..).symm

theorem log_cuts (flags : Flags) (h : Cuts text.toList stretches tail) :
    (reply text).log flags =
      (if flags.tokens then ((Cursor.ofText text.toList).tokensOver
        (stretches.takeWhile (!·.oversized))).map Token.log else []) ++
      (if flags.simplify then ((expression? text).elim [] Tree.removals).map Removal.log
        else []) := by
  obtain ⟨ht, hr⟩ := reply_logged text
  rw [log, ht, hr, scan_cuts h]

end Reply

namespace Conversation

theorem run_without_chart (flags : Flags) (page? : Option Page) (ls : List String) :
    (run flags false page? ls).page? = page? := by
  induction ls with
  | nil => rfl
  | cons line later ih =>
    cases h : stops line with
    | true => rw [run_stop h]
    | false =>
      cases ho : (reply line).outcome with
      | error cause => rw [run_escape h ho]
      | ok answer =>
        rw [run_exchange h ho]
        exact ih

theorem escape_whatever_flags (flags flags' : Flags) (ast : Bool) (page? page?' : Option Page)
    (ls : List String) :
    (run flags ast page? ls).escape? = (run flags' ast page?' ls).escape? := by
  obtain ⟨es, close, hcourse, hrun⟩ := run_course flags ast ls
  obtain ⟨es', close', hcourse', hrun'⟩ := run_course flags' ast ls
  obtain ⟨-, rfl⟩ := (hcourse _ _).mp ((hcourse' _ _).mpr ⟨rfl, rfl⟩)
  rw [(hrun page?).2, (hrun' page?').2]

end Conversation

namespace Shell

open Conversation

namespace Command

def flags? : Command → Option Flags
  | launch arguments _ => (Options.parse arguments).toOption.map Flags.ofOptions
  | converse _ _ => none
  | answer _ _ => none

def charts : Command → Bool
  | launch arguments _ => (Options.parse arguments).toOption.any Options.ast
  | converse ast _ => ast
  | answer ast _ => ast

end Command

def after (shell : Shell) (history : List Command) : Shell :=
  history.foldl (fun shell command => (shell.perform command).2) shell

def endingOf (text : String) : Ending :=
  match (reply text).outcome with
  | .error cause => .escaped cause
  | .ok answer => .answered answer

def reports (shell : Shell) : List Command → List Report
  | [] => []
  | command :: later => (shell.perform command).1 :: (shell.perform command).2.reports later

variable {shell shell' : Shell} {command : Command} {arguments : List String} {stop : Stop}

section Step

theorem launch_refused (h : Options.parse arguments = .error stop) (input : String) :
    shell.launch arguments input = (⟨.exited stop.code, stop.stdout, stop.stderr⟩, shell) := by
  rw [launch, h]

theorem launch_accepted {options : Options} (h : Options.parse arguments = .ok options)
    (input : String) : shell.launch arguments input =
      { shell with flags := .ofOptions options }.converse options.ast input := by
  rw [launch, h]

theorem answer_eq (shell : Shell) (ast : Bool) (text : String) : (shell.answer ast text).1 =
    ⟨endingOf text, unlines ((reply text).log shell.flags), ""⟩ := by
  rw [answer, endingOf]
  cases (reply text).outcome <;> rfl

theorem flags_perform (shell : Shell) (command : Command) :
    (shell.perform command).2.flags = command.flags?.getD shell.flags := by
  cases command with
  | converse ast input => rfl
  | answer ast text =>
    simp only [perform, answer, Command.flags?]
    cases (reply text).outcome <;> rfl
  | launch arguments input =>
    simp only [perform, Command.flags?]
    cases h : Options.parse arguments with
    | error stop => rw [launch_refused h]; rfl
    | ok options => rw [launch_accepted h]; rfl

theorem converse_whatever_page (h : shell.flags = shell'.flags) (ast : Bool) (input : String) :
    (shell.converse ast input).1 = (shell'.converse ast input).1 := by
  rw [converse_eq, converse_eq, h]
  obtain ⟨ho, he⟩ := run_whatever_page shell'.flags ast (lines input) shell.page? shell'.page?
  rw [ho, he]

theorem report_perform (h : shell.flags = shell'.flags) (command : Command) :
    (shell.perform command).1 = (shell'.perform command).1 := by
  cases command with
  | converse ast input => exact converse_whatever_page h ast input
  | answer ast text =>
    simp only [perform]
    rw [answer_eq, answer_eq, h]
  | launch arguments input =>
    simp only [perform]
    cases hp : Options.parse arguments with
    | error stop => rw [launch_refused hp, launch_refused hp]
    | ok options =>
      have hf : (Shell.mk (.ofOptions options) shell.page?).flags =
          (Shell.mk (.ofOptions options) shell'.page?).flags := rfl
      rw [launch_accepted hp, launch_accepted hp]
      exact converse_whatever_page hf _ _

theorem page_perform (shell : Shell) (h : command.charts = false) :
    (shell.perform command).2.page? = shell.page? := by
  cases command with
  | converse ast input =>
    cases ast with
    | true => cases h
    | false => exact run_without_chart _ _ _
  | answer ast text =>
    cases ast with
    | true => cases h
    | false =>
      simp only [perform, answer]
      cases (reply text).outcome <;> rfl
  | launch arguments input =>
    simp only [perform]
    cases hp : Options.parse arguments with
    | error stop => rw [launch_refused hp]
    | ok options =>
      have hast : options.ast = false := by
        rw [Command.charts, hp] at h
        exact h
      rw [launch_accepted hp, hast]
      exact run_without_chart _ _ _

theorem page_answer (shell : Shell) (text : String) : (shell.answer true text).2.page? =
    ((reply text).page? shell.flags <|> shell.page?) := by
  simp only [answer]
  cases ho : (reply text).outcome with
  | error cause =>
    rw [Reply.page?, Reply.simplified?_of_error ho]
    rfl
  | ok answer => rfl

end Step

section Run

theorem flags_after (shell : Shell) (history : List Command) : (shell.after history).flags =
    (history.filterMap Command.flags?).getLast?.getD shell.flags := by
  induction history generalizing shell with
  | nil => rfl
  | cons command later ih =>
    have hs : shell.after (command :: later) = (shell.perform command).2.after later := rfl
    rw [hs, ih, flags_perform]
    cases hc : command.flags? with
    | none => rw [List.filterMap_cons_none hc]; rfl
    | some flags =>
      rw [List.filterMap_cons_some hc, List.getLast?_cons]
      cases (later.filterMap Command.flags?).getLast? <;> rfl

theorem reports_eq (h : shell.flags = shell'.flags) (later : List Command) :
    shell.reports later = shell'.reports later := by
  induction later generalizing shell shell' with
  | nil => rfl
  | cons command later ih =>
    have hf : (shell.perform command).2.flags = (shell'.perform command).2.flags := by
      rw [flags_perform, flags_perform, h]
    rw [reports, reports, report_perform h, ih hf]

end Run

theorem history_shows_in_flags_only :
    (∀ history, (initial.after history).flags =
      (history.filterMap Command.flags?).getLast?.getD ⟨false, false, false⟩) ∧
    (∀ (shell : Shell) arguments stop, Options.parse arguments = .error stop → ∀ input,
      shell.perform (.launch arguments input) =
        (⟨.exited stop.code, stop.stdout, stop.stderr⟩, shell)) ∧
    (∀ (shell : Shell) command, command.charts = false →
      (shell.perform command).2.page? = shell.page?) ∧
    (∀ history history', (initial.after history).flags = (initial.after history').flags →
      ∀ later, (initial.after history).reports later = (initial.after history').reports later) ∧
    (∀ text, ∃ stretches tail, ∃ shown? : Option Entry,
      Cuts text.toList stretches tail ∧ ∀ (shell : Shell) ast,
      (shell.answer ast text).1 = ⟨endingOf text, unlines (
        (if shell.flags.tokens then ((Cursor.ofText text.toList).tokensOver
          (stretches.takeWhile (!·.oversized))).map Token.log else []) ++
        (if shell.flags.simplify then ((Reply.expression? text).elim [] Tree.removals).map
          Removal.log else [])), ""⟩ ∧
      (shell.answer true text).2.page? =
        ((shown?.map fun entry => ⟨entry, shell.flags.localScript⟩) <|> shell.page?)) ∧
    ∀ (shell shell' : Shell) ast input,
      (shell.converse ast input).1.ending = (shell'.converse ast input).1.ending := by
  refine ⟨flags_after initial, fun shell _ _ h => launch_refused h, fun shell _ => page_perform shell,
    fun _ _ => reports_eq, ?_, ?_⟩
  · intro text
    obtain ⟨stretches, tail, hc⟩ := exists_cuts text.toList
    obtain ⟨shown?, he⟩ := Reply.exists_entry text
    refine ⟨stretches, tail, shown?, hc, fun shell ast => ⟨?_, ?_⟩⟩
    · rw [answer_eq, Reply.log_cuts shell.flags hc]
    · rw [page_answer, he]
  · intro shell shell' ast input
    have he := escape_whatever_flags shell.flags shell'.flags ast shell.page? shell'.page?
      (lines input)
    rw [converse_eq, converse_eq, he]

theorem escape_and_refusals_keep_flags :
    (initial.after [.launch ["--tokens", "--ast"] "1/0", .launch ["--nonsense"] "x",
      .launch ["--help"] "", .answer false "2"]).flags = ⟨true, false, false⟩ ∧
    (initial.after [.launch ["--tokens", "--ast"] "1/0", .launch ["--nonsense"] "x",
      .launch ["--help"] "", .answer false "2"]).reports [.converse false "0*x\n1/0"] =
      (initial.after [.launch ["--simplify"] "", .launch ["--tok"] "!"]).reports
        [.converse false "0*x\n1/0"] ∧
    initial.perform (.launch ["--nonsense"] "x") = (⟨.exited 2, "",
      "usage: infixexp [-h] [--tokens] [--simplify] [--ast] [--local-echarts]\n" ++
      "infixexp: error: unrecognized arguments: --nonsense\n"⟩, initial) ∧
    ((initial.after [.launch ["--ast"] "7"]).perform (.answer false "8")).2.page? =
      (initial.after [.launch ["--ast"] "7"]).page? := by
  obtain ⟨hflags, hrefused, hpage, hreports, -⟩ := history_shows_in_flags_only
  have hlong : (initial.after [.launch ["--tokens", "--ast"] "1/0", .launch ["--nonsense"] "x",
      .launch ["--help"] "", .answer false "2"]).flags = ⟨true, false, false⟩ := by
    rw [hflags]
    decide +kernel
  have hshort : (initial.after [.launch ["--simplify"] "", .launch ["--tok"] "!"]).flags =
      ⟨true, false, false⟩ := by
    rw [hflags]
    decide +kernel
  have hnonsense : Options.parse ["--nonsense"] = .error (.unrecognized ["--nonsense"]) := by
    decide +kernel
  refine ⟨hlong, hreports _ _ (hlong.trans hshort.symm) _, ?_, hpage _ _ rfl⟩
  exact hrefused initial _ _ hnonsense "x"

end Shell

end Calculator
