/-!
# Metacharacters

The characters that can mean something other than themselves somewhere in a
pattern.  A backslash before one of them makes it stand for itself in every
position and under every flag.
-/

namespace PatternAlgebra.Text

/-- The characters with a meaning of their own. -/
def metacharacters : List Char :=
  ['\\', '.', '+', '*', '?', '(', ')', '|', '[', ']', '{', '}', '^', '$', '#', '&', '-', '~']

/-- The character has a meaning of its own. -/
def isMetacharacter (c : Char) : Bool :=
  metacharacters.contains c

/-- The characters with a meaning of their own inside a class. -/
def classMetacharacters : List Char :=
  ['[', ']', '^', '-', '\\', '&', '~']

/-- The character has a meaning of its own inside a class. -/
def isClassMetacharacter (c : Char) : Bool :=
  classMetacharacters.contains c

/-- A character with a backslash before it if it has a meaning of its own. -/
def escapeChar (c : Char) : List Char :=
  if isMetacharacter c then ['\\', c] else [c]

/-- The pattern text that stands for exactly the given text. -/
def escape (text : List Char) : List Char :=
  text.flatMap escapeChar

end PatternAlgebra.Text
