/-!
# Repetition suffixes at the end of a text

Whether a text ends in a repetition is decided by looking back from its last
character.  A `?`, `*` or `+` repeats unless it is escaped, that is, unless an
odd number of backslashes stands before it.  A closing brace repeats when the
last opening brace before it starts a pair of bounds and belongs neither to an
escaped brace nor to an escape that takes an argument in braces.

Texts are taken in reversed order throughout this module, so that looking back
is a recursion on the list; `isRepeating` and `isLazy` turn the text around.
-/

namespace PatternAlgebra.Repetition

/-- The character that follows this reversed text would be escaped: the text
ends in an odd number of backslashes. -/
def isEscaped (reversed : List Char) : Bool :=
  (reversed.takeWhile (· == '\\')).length % 2 == 1

/-- The reversed text ends in an escape that takes an argument in braces, such
as the one of a code point or of a property. -/
def isBraceEscape : List Char → Bool
  | letter :: before =>
      ['x', 'u', 'U', 'p', 'P'].contains letter && isEscaped before
  | [] => false

/-- A decimal digit of the bounds of a repetition. -/
def isDigit (c : Char) : Bool :=
  '0' ≤ c && c ≤ '9'

/-- Bounds as they stand between braces: a lower bound, which is never empty,
and after a comma an upper bound, which may be. -/
def isBounds (inner : List Char) : Bool :=
  let lower := inner.takeWhile (· ≠ ',')
  let upper := (inner.dropWhile (· ≠ ',')).drop 1
  !lower.isEmpty && lower.all isDigit && upper.all isDigit

/-- The reversed text ends in a repetition suffix. -/
def endsInSuffix : List Char → Bool
  | [] => false
  | last :: body =>
      if ['?', '*', '+'].contains last then !isEscaped body
      else if last = '}' then
        match body.dropWhile (· ≠ '{') with
        | [] => false
        | _ :: before =>
            isBounds (body.takeWhile (· ≠ '{')).reverse &&
              !isEscaped before && !isBraceEscape before
      else false

/-- The reversed text ends in a repetition suffix that was made lazy. -/
def endsInLazySuffix : List Char → Bool
  | '?' :: body => !isEscaped body && endsInSuffix body
  | _ => false

end Repetition

/-- The text ends in one of the suffixes `?`, `*`, `+`, or in bounds in
braces. -/
def isRepeating (text : String) : Bool :=
  Repetition.endsInSuffix text.toList.reverse

/-- The text ends in a repetition suffix that is already lazy. -/
def isLazy (text : String) : Bool :=
  Repetition.endsInLazySuffix text.toList.reverse

end PatternAlgebra
