namespace Calculator.Line

def split : List Char → List (List Char)
  | [] => []
  | '\r' :: '\n' :: cs => [] :: split cs
  | c :: cs =>
    if c = '\n' ∨ c = '\r' then [] :: split cs
    else
      match split cs with
      | [] => [[c]]
      | line :: lines => (c :: line) :: lines

end Calculator.Line

namespace Calculator

def lines (text : String) : List String := (Line.split text.toList).map String.ofList

end Calculator
