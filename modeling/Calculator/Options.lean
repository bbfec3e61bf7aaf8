import Calculator.Text.Quoted

/-!
The command line: four switches and the request for help. A long name may be cut short as long as it
stays the beginning of one name only, and the short name of help may be repeated in one word. Words
that are no switch are collected and refused together; what stands behind a bare double dash is never
a switch.
-/

namespace Calculator

inductive Switch where
  | help
  | tokens
  | simplify
  | ast
  | localScript
deriving DecidableEq, Repr

namespace Switch

def longNames : List (String × Switch) :=
  [("--help", help), ("--tokens", tokens), ("--simplify", simplify), ("--ast", ast),
    ("--local-echarts", localScript)]

def title : Switch → String
  | help => "-h/--help"
  | tokens => "--tokens"
  | simplify => "--simplify"
  | ast => "--ast"
  | localScript => "--local-echarts"

end Switch

structure Options where
  tokens : Bool
  simplify : Bool
  ast : Bool
  localScript : Bool
deriving DecidableEq, Repr

inductive Stop where
  | help
  | ambiguous (word : String) (names : List String)
  | superfluousValue (switch : Switch) (value : String)
  | unrecognized (words : List String)
deriving DecidableEq, Repr

namespace Stop

def program : String := "infixexp"

def usage : String :=
  "usage: " ++ program ++ " [-h] [--tokens] [--simplify] [--ast] [--local-echarts]\n"

def helpText : String :=
  usage ++ "\n" ++
  program ++ " - infix expression interpreter\n" ++ "\n" ++
  "options:\n" ++
  "  -h, --help       show this help message and exit\n" ++
  "  --tokens         Print every token read\n" ++
  "  --simplify       Print every simplification step\n" ++
  "  --ast            Render the simplified tree to Tree.html\n" ++
  "  --local-echarts  Load echarts.min.js next to Tree.html\n"

def complaint (message : String) : String := usage ++ program ++ ": error: " ++ message ++ "\n"

def stdout : Stop → String
  | help => helpText
  | _ => ""

def stderr : Stop → String
  | help => ""
  | ambiguous word names =>
    complaint ("ambiguous option: " ++ word ++ " could match " ++ ", ".intercalate names)
  | superfluousValue switch value =>
    complaint ("argument " ++ switch.title ++ ": ignored explicit argument " ++ quoted value)
  | unrecognized words => complaint ("unrecognized arguments: " ++ " ".intercalate words)

def code : Stop → Nat
  | help => 0
  | _ => 2

end Stop

inductive Word where
  | switch (switch : Switch) (value? : Option String)
  | stray (text : String)
deriving DecidableEq, Repr

namespace Word

def cut (cs : List Char) : List Char × Option (List Char) :=
  match cs.dropWhile (· ≠ '=') with
  | [] => (cs, none)
  | _ :: value => (cs.takeWhile (· ≠ '='), some value)

def clusterValue? (cs : List Char) : Option (List Char) :=
  match cs.dropWhile (· = 'h') with
  | [] => none
  | value => some value

def shortValue? : List Char → Option (List Char)
  | ['='] => some []
  | '=' :: cs => clusterValue? cs
  | cs => clusterValue? cs

def ofLong (text : String) : Except Stop Word :=
  let (name, value?) := cut text.toList
  match Switch.longNames.filter fun entry => name.isPrefixOf entry.1.toList with
  | [] => .ok (.stray text)
  | [(_, found)] => .ok (.switch found (value?.map String.ofList))
  | entries => .error (.ambiguous text (entries.map Prod.fst))

def classify (text : String) : Except Stop Word :=
  match text.toList with
  | '-' :: '-' :: _ => ofLong text
  | '-' :: 'h' :: cs => .ok (.switch .help ((shortValue? cs).map String.ofList))
  | _ => .ok (.stray text)

def classifyAll : List String → Except Stop (List Word)
  | [] => .ok []
  | text :: texts =>
    if text = "--" then .ok ((text :: texts).map .stray)
    else do
      let word ← classify text
      let words ← classifyAll texts
      pure (word :: words)

end Word

namespace Options

def none : Options := ⟨false, false, false, false⟩

def set (options : Options) : Switch → Except Stop Options
  | .help => .error .help
  | .tokens => .ok { options with tokens := true }
  | .simplify => .ok { options with simplify := true }
  | .ast => .ok { options with ast := true }
  | .localScript => .ok { options with localScript := true }

def ofWords : Options → List String → List Word → Except Stop Options
  | options, [], [] => .ok options
  | _, strays, [] => .error (.unrecognized strays)
  | options, strays, .stray text :: words => ofWords options (strays ++ [text]) words
  | _, _, .switch found (some value) :: _ => .error (.superfluousValue found value)
  | options, strays, .switch found .none :: words => do
    let options ← options.set found
    ofWords options strays words

def parse (arguments : List String) : Except Stop Options := do
  ofWords none [] (← Word.classifyAll arguments)

end Options

end Calculator
