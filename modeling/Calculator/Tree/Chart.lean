import Calculator.Tree.Walk

/-!
Charts of trees: entries with a name, and a pair of entries below that of an operator. The page that
shows a chart has a fixed title and layout and one script, loaded from a given host. A local page
loads it from its own directory, and the host is struck from the whole of its text, the chart included.
-/

namespace Calculator

inductive Entry where
  | leaf (name : String)
  | branch (name : String) (left right : Entry)
deriving DecidableEq, Repr, Inhabited

namespace Entry

def mapNames (f : String → String) : Entry → Entry
  | leaf name => leaf (f name)
  | branch name left right => branch (f name) (left.mapNames f) (right.mapNames f)

end Entry

namespace Tree

def chart? (tree : Tree) : Option Entry :=
  tree.walkM (fun l => l.text?.map .leaf) (fun o _ _ left right => some (.branch o.symbol left right))

theorem chart?_leaf (l : Leaf) : (leaf l).chart? = l.text?.map .leaf := by
  rw [chart?, walkM_eq_foldM, foldM]

theorem chart?_node (o : Operator) (left right : Tree) :
    (node o left right).chart? =
      left.chart? >>= fun a => right.chart? >>= fun b => some (.branch o.symbol a b) := by
  simp only [chart?, walkM_eq_foldM, foldM]

end Tree

structure Page where
  entry : Entry
  isLocal : Bool
deriving DecidableEq, Repr

namespace Page

def defaultName : String := "Tree.html"

def title : String := "Tree"

def chartTitle : String := "Tree"

def seriesType : String := "tree"

def orientation : String := "TB"

def initialDepth : Int := -1

def labelPosition : String := "top"

def labelAlignment : String := "middle"

def scriptName : String := "echarts.min.js"

def script (host : String) (page : Page) : String :=
  if page.isLocal then scriptName else host ++ scriptName

def shownEntry (host : String) (page : Page) : Entry :=
  if page.isLocal then page.entry.mapNames fun name => name.replace host "" else page.entry

end Page

end Calculator
