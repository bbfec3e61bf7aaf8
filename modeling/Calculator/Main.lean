import Calculator.Shell
import Calculator.Tree.Markup

namespace Calculator.Main

def scriptHost : String := "https://assets.pyecharts.org/assets/v6/"

def answer (flags : Flags) (ast : Bool) (line : String) : IO Bool := do
  let answer := reply line
  IO.print (unlines (answer.log flags))
  match answer.outcome with
  | .error escape =>
    IO.eprintln escape.text
    pure false
  | .ok answerLines =>
    if ast then
      if let some page := answer.page? flags then
        IO.FS.writeFile Page.defaultName (page.markup scriptHost)
    IO.println (unlines answerLines)
    pure true

partial def converse (flags : Flags) (ast : Bool) (input : IO.FS.Stream)
    (pending : List String) : IO UInt32 := do
  IO.print Conversation.prompt
  (← IO.getStdout).flush
  let ready ← if pending.isEmpty then lines <$> input.getLine else pure pending
  match ready with
  | [] =>
    IO.print Conversation.farewell
    pure 0
  | line :: later =>
    if Conversation.stops line then
      IO.print Conversation.farewell
      pure 0
    else if ← answer flags ast line then converse flags ast input later
    else pure 1

end Calculator.Main

def main (arguments : List String) : IO UInt32 := do
  match Calculator.Options.parse arguments with
  | .error stop =>
    IO.print stop.stdout
    IO.eprint stop.stderr
    return stop.code.toUInt32
  | .ok options =>
    Calculator.Main.converse (.ofOptions options) options.ast (← IO.getStdin) []
