import PatternAlgebra.Text.Blank
import PatternAlgebra.StandIn.Word

/-!
# Tests of one character

What a pattern can ask of a single character: that it is a given one, that it
is any one at all, or that it belongs to a class.  A test may ignore case, by
which only the ASCII letters come in pairs.
-/

namespace PatternAlgebra.StandIn.Syntax

/-- The sets of characters that are named by a letter. -/
inductive CharKind where
  | digit
  | blank
  | word
  deriving DecidableEq, Repr

/-- The character is of this kind. -/
def CharKind.has : CharKind → Char → Bool
  | digit, c => Text.isDigit c
  | blank, c => Text.isBlank c
  | word, c => Text.isWord c

/-- One item of a class. -/
inductive ClassItem where
  /-- The characters from one code point to another. -/
  | range (first last : Char)
  /-- The characters of a kind, or those that are not of it. -/
  | kind (members : CharKind) (negated : Bool)
  deriving DecidableEq, Repr

/-- A test of one character. -/
inductive CharTest where
  | literal (c : Char)
  /-- Any character at all. -/
  | any
  /-- Any character but a line break. -/
  | anyButNewline
  /-- A character of a kind, or one that is not of it. -/
  | kind (members : CharKind) (negated : Bool)
  /-- A character of one of the items, or of none of them. -/
  | oneOf (negated : Bool) (items : List ClassItem)
  deriving DecidableEq, Repr

/-- The same letter in the other case; other characters have no case. -/
def otherCase (c : Char) : Char :=
  if c.isLower then c.toUpper else c.toLower

/-- Two characters are the same, or differ only in case where that is ignored. -/
def sameChar (fold : Bool) (c d : Char) : Bool :=
  c == d || (fold && otherCase c == d)

namespace ClassItem

/-- The item holds the character. -/
def accepts (fold : Bool) : ClassItem → Char → Bool
  | range first last, c =>
      (first ≤ c && c ≤ last) || (fold && first ≤ otherCase c && otherCase c ≤ last)
  | kind members negated, c => members.has c != negated

end ClassItem

namespace CharTest

/-- The character passes the test. -/
def accepts (fold : Bool) : CharTest → Char → Bool
  | literal d, c => sameChar fold c d
  | any, _ => true
  | anyButNewline, c => c != '\n'
  | kind members negated, c => members.has c != negated
  | oneOf negated items, c => (items.any fun item => item.accepts fold c) != negated

end CharTest

end PatternAlgebra.StandIn.Syntax
