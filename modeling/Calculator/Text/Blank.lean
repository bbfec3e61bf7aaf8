import Calculator.Text.Ranges

/-!
The blanks that separate tokens: the space separators, the line and paragraph separators, the tab
and line controls, and the four information separators.
-/

namespace Calculator.Blank

def ranges : Ranges :=
  [(0x9, 0xd), (0x1c, 0x20), (0x85, 0x85), (0xa0, 0xa0), (0x1680, 0x1680), (0x2000, 0x200a),
   (0x2028, 0x2029), (0x202f, 0x202f), (0x205f, 0x205f), (0x3000, 0x3000)]

theorem ranges_ordered : ranges.ordered = true := by decide +kernel

end Calculator.Blank

namespace Calculator

def isBlank (c : Char) : Bool := Blank.ranges.contains c.toNat

end Calculator
