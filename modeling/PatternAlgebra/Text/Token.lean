/-!
# Tokens of pattern text

Pattern text is read from left to right in tokens: a backslash together with
the character after it is one token, every other character is a token of its
own, and a backslash that ends the text has nothing to escape.  Whatever
nesting or repetition a text shows is a property of its plain tokens; an
escaped delimiter never opens or closes anything.

The texts of the tokens, put end to end, give back the text they were read
from, so the token list is a view of the text and loses nothing.
-/

namespace PatternAlgebra.Text

/-- One token of pattern text. -/
inductive Token where
  /-- A character that no backslash precedes. -/
  | plain (c : Char)
  /-- A backslash and the character it escapes. -/
  | escape (c : Char)
  /-- A backslash at the end of the text. -/
  | dangling
  deriving DecidableEq, Repr

namespace Token

/-- The characters a token was read from. -/
def chars : Token → List Char
  | plain c => [c]
  | escape c => ['\\', c]
  | dangling => ['\\']

/-- The tokens of a text, from left to right. -/
def lex : List Char → List Token
  | [] => []
  | ['\\'] => [dangling]
  | '\\' :: c :: rest => escape c :: lex rest
  | c :: rest => plain c :: lex rest

@[simp]
theorem lex_nil : lex [] = [] :=
  rfl

@[simp]
theorem lex_dangling : lex ['\\'] = [dangling] :=
  rfl

@[simp]
theorem lex_escape (c : Char) (rest : List Char) :
    lex ('\\' :: c :: rest) = escape c :: lex rest :=
  rfl

theorem lex_plain {c : Char} (notBackslash : c ≠ '\\') (rest : List Char) :
    lex (c :: rest) = plain c :: lex rest := by
  rw [lex]
  · rintro rfl
    exact absurd rfl notBackslash
  · rintro d tail rfl
    exact absurd rfl notBackslash

/-- Reading a text in tokens loses nothing. -/
theorem flatMap_chars_lex (text : List Char) : (lex text).flatMap chars = text := by
  fun_induction lex text with
  | case1 => rfl
  | case2 => rfl
  | case3 c rest inductionHypothesis => simp [chars, inductionHypothesis]
  | case4 c rest _ _ inductionHypothesis => simp [chars, inductionHypothesis]

end Token

end PatternAlgebra.Text
