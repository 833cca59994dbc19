import PatternAlgebra.Pattern

/-!
# Constants

Patterns for common pieces of text, each written as one literal.
-/

namespace PatternAlgebra

/-- A pattern that is ready made. -/
inductive Constant where
  | whitespace
  | nonWhitespace
  /-- An ASCII letter of lower case. -/
  | lowercase
  /-- An ASCII letter of upper case. -/
  | uppercase
  /-- An ASCII letter. -/
  | letter
  | digit
  | nonDigit
  | word
  | nonWord
  /-- Any character but a line break. -/
  | any
  /-- Any number of characters that are no line breaks. -/
  | anything
  | anyWhitespace
  /-- One line break of any platform. -/
  | newline
  /-- Any number of line breaks. -/
  | anyNewlines
  | startOfLine
  | endOfLine
  | startOfText
  | endOfText
  | wordBoundary
  | period
  | plus
  | asterisk
  | questionMark
  | dollar
  deriving DecidableEq, Repr

namespace Constant

/-- The pattern text of a constant. -/
def text : Constant → String
  | whitespace => "\\s"
  | nonWhitespace => "\\S"
  | lowercase => "[a-z]"
  | uppercase => "[A-Z]"
  | letter => "[a-zA-Z]"
  | digit => "\\d"
  | nonDigit => "\\D"
  | word => "\\w"
  | nonWord => "\\W"
  | any => "."
  | anything => ".*"
  | anyWhitespace => "\\s*"
  | newline => "(?:\\n|\\r\\n?)"
  | anyNewlines => "(?:\\n|\\r\\n?)*"
  | startOfLine => "^"
  | endOfLine => "$"
  | startOfText => "\\A"
  | endOfText => "\\z"
  | wordBoundary => "\\b"
  | period => "\\."
  | plus => "\\+"
  | asterisk => "\\*"
  | questionMark => "\\?"
  | dollar => "\\$"

/-- A constant as a pattern. -/
def pattern (constant : Constant) : Pattern :=
  .literal constant.text

end Constant

end PatternAlgebra
