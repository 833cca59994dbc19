import PatternAlgebra.Text.Nesting

/-!
# The outer shape of pattern text

Grouping and repetition decide what to write by looking at the outside of a
text: is it one character, one class, one whole group of some sort, or
something that still has to be enclosed?  `Shape.of` answers that from the
text alone.  The classification is first-match, in the order of the
constructors' conditions below, and a group or class counts only when its
opening delimiter is closed by the last character of the text.
-/

namespace PatternAlgebra

/-- The outer syntactic shape of a pattern text. -/
inductive Shape where
  /-- One character, or a backslash and one character. -/
  | singleChar
  /-- One whole class in brackets. -/
  | charClass
  /-- One whole group that captures under a name. -/
  | namedCaptureGroup
  /-- One whole group that captures nothing. -/
  | nonCaptureGroup
  /-- One whole assertion about the text ahead or behind. -/
  | lookaround
  /-- One whole group that captures under a number. -/
  | captureGroup
  /-- Everything else, the empty text included. -/
  | other
  deriving DecidableEq, Repr

/-- One character, or an escape of two characters. -/
def isSingleChar : List Char → Bool
  | [_] => true
  | ['\\', _] => true
  | _ => false

namespace Shape

/-- The sort of a text that is known to be one whole group.  An opening of
`(?<` names a group only when a name can follow it; the third character keeps
lookbehind apart. -/
def ofGroup (text : List Char) : Shape :=
  match text with
  | '(' :: '?' :: '<' :: mark :: _ =>
      if 5 ≤ text.length ∧ mark ≠ '=' ∧ mark ≠ '!' then .namedCaptureGroup
      else if mark = '=' ∨ mark = '!' then .lookaround
      else .other
  | '(' :: '?' :: mark :: _ =>
      if mark = ':' then .nonCaptureGroup
      else if mark = '=' ∨ mark = '!' then .lookaround
      else .other
  | '(' :: '?' :: _ => .other
  | _ => .captureGroup

/-- The shape of a text given as characters. -/
def ofChars (text : List Char) : Shape :=
  if isSingleChar text then .singleChar
  else if text.head? = some '[' ∧ text.getLast? = some ']' then
    if Text.closesAtEnd text then .charClass else .other
  else if text.head? = some '(' ∧ text.getLast? = some ')' ∧
      Text.closesAtEnd text then
    ofGroup text
  else .other

/-- The shape of a text. -/
def of (text : String) : Shape :=
  ofChars text.toList

/-- The shapes that a repetition suffix binds to as a whole. -/
def isAtom : Shape → Bool
  | singleChar | charClass | nonCaptureGroup => true
  | _ => false

end Shape

end PatternAlgebra
