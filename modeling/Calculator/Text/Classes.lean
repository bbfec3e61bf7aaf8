import Calculator.Text.Blank
import Calculator.Text.Digit
import Calculator.Text.Letter

namespace Calculator

def isWordPart (c : Char) : Bool := isLetter c || isNumeric c

theorem isWordPart_of_isLetter {c : Char} (h : isLetter c = true) : isWordPart c = true := by
  simp [isWordPart, h]

theorem isWordPart_of_isDigit {c : Char} (h : isDigit c = true) : isWordPart c = true := by
  simp [isWordPart, isNumeric, h]

theorem not_isDigit_of_isLetter {c : Char} (h : isLetter c = true) : isDigit c = false :=
  Ranges.not_contains_of_apart Letter.ranges_ordered Digit.ranges_ordered (by decide +kernel) h

theorem not_isLetter_of_isBlank {c : Char} (h : isBlank c = true) : isLetter c = false :=
  Ranges.not_contains_of_apart Blank.ranges_ordered Letter.ranges_ordered (by decide +kernel) h

theorem not_isDigit_of_isBlank {c : Char} (h : isBlank c = true) : isDigit c = false :=
  Ranges.not_contains_of_apart Blank.ranges_ordered Digit.ranges_ordered (by decide +kernel) h

theorem not_isNumeric_of_isBlank {c : Char} (h : isBlank c = true) : isNumeric c = false := by
  rw [isNumeric, not_isDigit_of_isBlank h, Bool.false_or]
  exact Ranges.not_contains_of_apart Blank.ranges_ordered Digit.numerics_ordered
    (by decide +kernel) h

theorem not_isWordPart_of_isBlank {c : Char} (h : isBlank c = true) : isWordPart c = false := by
  rw [isWordPart, not_isLetter_of_isBlank h, not_isNumeric_of_isBlank h, Bool.or_self]

end Calculator
