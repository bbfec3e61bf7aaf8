import Calculator.Dialogue
import Calculator.Options
import Calculator.Text.Line
import Calculator.Tree.Chart

/-!
The shell: a conversation that answers line after line, and the program that runs one after setting
its flags from the command line. Between runs only the flags and the page of the last chart stay.
-/

namespace Calculator

structure Flags where
  tokens : Bool
  simplify : Bool
  localScript : Bool
deriving DecidableEq, Repr

def Flags.none : Flags := ⟨false, false, false⟩

def Flags.ofOptions (options : Options) : Flags :=
  ⟨options.tokens, options.simplify, options.localScript⟩

namespace Reply

def log (flags : Flags) (reply : Reply) : List String :=
  (if flags.tokens then reply.tokens.map Token.log else []) ++
    (if flags.simplify then reply.removals.map Removal.log else [])

def page? (flags : Flags) (reply : Reply) : Option Page := do
  let tree ← reply.simplified?
  let entry ← tree.chart?
  pure ⟨entry, flags.localScript⟩

end Reply

def unlines (ls : List String) : String := String.join (ls.map (· ++ "\n"))

theorem toList_unlines_cons (line : String) (later : List String) :
    (unlines (line :: later)).toList = line.toList ++ '\n' :: (unlines later).toList := by
  simp [unlines]

structure Transcript where
  output : String
  page? : Option Page
  escape? : Option Escape

namespace Conversation

def prompt : String := "give an expression: "

def farewell : String := "good bye\n"

def stops (line : String) : Bool := line.toList.head? = some '!'

def pageAfter (ast : Bool) (flags : Flags) (page? : Option Page) (reply : Reply) : Option Page :=
  if ast then reply.page? flags <|> page? else page?

def run (flags : Flags) (ast : Bool) (page? : Option Page) : List String → Transcript
  | [] => ⟨prompt ++ farewell, page?, none⟩
  | line :: later =>
    if stops line then ⟨prompt ++ farewell, page?, none⟩
    else
      let answer := reply line
      let log := unlines (answer.log flags)
      match answer.outcome with
      | .error escape => ⟨prompt ++ log, page?, some escape⟩
      | .ok answerLines =>
        let rest := run flags ast (pageAfter ast flags page? answer) later
        { rest with output := prompt ++ log ++ unlines answerLines ++ "\n" ++ rest.output }

end Conversation

inductive Ending where
  | finished
  | answered (answer : List String)
  | escaped (escape : Escape)
  | exited (code : Nat)
deriving DecidableEq, Repr

structure Report where
  ending : Ending
  stdout : String
  stderr : String
deriving Repr

structure Shell where
  flags : Flags
  page? : Option Page
deriving Repr

namespace Shell

def initial : Shell := ⟨.none, none⟩

def converse (shell : Shell) (ast : Bool) (input : String) : Report × Shell :=
  let transcript := Conversation.run shell.flags ast shell.page? (lines input)
  let ending := match transcript.escape? with
    | some escape => .escaped escape
    | none => .finished
  (⟨ending, transcript.output, ""⟩, { shell with page? := transcript.page? })

def answer (shell : Shell) (ast : Bool) (line : String) : Report × Shell :=
  let answer := reply line
  let log := unlines (answer.log shell.flags)
  match answer.outcome with
  | .error escape => (⟨.escaped escape, log, ""⟩, shell)
  | .ok answerLines =>
    (⟨.answered answerLines, log, ""⟩,
      { shell with page? := Conversation.pageAfter ast shell.flags shell.page? answer })

def launch (shell : Shell) (arguments : List String) (input : String) : Report × Shell :=
  match Options.parse arguments with
  | .error stop => (⟨.exited stop.code, stop.stdout, stop.stderr⟩, shell)
  | .ok options => { shell with flags := .ofOptions options }.converse options.ast input

inductive Command where
  | launch (arguments : List String) (input : String)
  | converse (ast : Bool) (input : String)
  | answer (ast : Bool) (line : String)
deriving DecidableEq, Repr

def perform (shell : Shell) : Command → Report × Shell
  | .launch arguments input => shell.launch arguments input
  | .converse ast input => shell.converse ast input
  | .answer ast line => shell.answer ast line

end Shell

end Calculator
