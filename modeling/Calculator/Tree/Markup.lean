import Calculator.Tree.Chart

namespace Calculator

namespace Entry

def escape (c : Char) : List Char :=
  if c = '"' ∨ c = '\\' then ['\\', c]
  else if c.toNat < 0x20 ∨ c = '<' ∨ c = '>' ∨ c = '&' then
    '\\' :: 'u' :: (Nat.toDigits 16 (0x10000 + c.toNat)).drop 1
  else [c]

def string (s : String) : String := "\"" ++ String.ofList (s.toList.flatMap escape) ++ "\""

def markup : Entry → String
  | leaf name => "\x7b\"name\": " ++ string name ++ "\x7d"
  | branch name left right =>
    "\x7b\"name\": " ++ string name ++ ", \"children\": [" ++ left.markup ++ ", " ++ right.markup ++
      "]\x7d"

end Entry

namespace Page

def option (host : String) (page : Page) : String :=
  "\x7b\"title\": \x7b\"text\": " ++ Entry.string chartTitle ++ "\x7d, \"series\": [\x7b" ++
    "\"type\": " ++ Entry.string seriesType ++
    ", \"orient\": " ++ Entry.string orientation ++
    ", \"initialTreeDepth\": " ++ toString initialDepth ++
    ", \"label\": \x7b\"position\": " ++ Entry.string labelPosition ++
    ", \"verticalAlign\": " ++ Entry.string labelAlignment ++ "\x7d" ++
    ", \"data\": [" ++ (page.shownEntry host).markup ++ "]\x7d]\x7d"

def markup (host : String) (page : Page) : String :=
  "<!DOCTYPE html>\n<html>\n<head>\n<meta charset=\"UTF-8\">\n<title>" ++ title ++ "</title>\n" ++
  "<script src=\"" ++ page.script host ++ "\"></script>\n</head>\n<body>\n" ++
  "<div id=\"chart\" style=\"width:900px; height:500px;\"></div>\n<script>\n" ++
  "echarts.init(document.getElementById(\"chart\")).setOption(" ++ page.option host ++ ");\n" ++
  "</script>\n</body>\n</html>\n"

end Page

end Calculator
