import PatternAlgebra.StandIn.Syntax.Node

/-!
# Positions in a haystack

A match runs over a haystack that is split at the current position: the
characters already passed, the latest first, and the characters still to come.
Moving on takes a character from one list to the other, and the two together
always make up the same haystack.
-/

namespace PatternAlgebra.StandIn.Matching

/-- A position in a haystack. -/
structure Cursor where
  /-- The number of characters before the position. -/
  position : Nat
  /-- The characters before the position, the latest first. -/
  past : List Char
  /-- The characters from the position on. -/
  next : List Char
  deriving DecidableEq, Repr

namespace Cursor

/-- The start of a haystack. -/
def start (haystack : List Char) : Cursor :=
  ⟨0, [], haystack⟩

/-- Move over one character that passes a test. -/
def accept? (cursor : Cursor) (test : Syntax.CharTest) (fold : Bool) : Option Cursor :=
  match cursor.next with
  | [] => none
  | c :: rest =>
      if test.accepts fold c then some ⟨cursor.position + 1, c :: cursor.past, rest⟩ else none

/-- Move over a text. -/
def acceptText? : List Char → Cursor → Option Cursor
  | [], cursor => some cursor
  | c :: rest, cursor =>
      match cursor.accept? (.literal c) false with
      | none => none
      | some after => acceptText? rest after

/-- Move back over as many characters. -/
def rewind? : Nat → Cursor → Option Cursor
  | 0, cursor => some cursor
  | n + 1, cursor =>
      match cursor.past with
      | [] => none
      | c :: rest => rewind? n ⟨cursor.position - 1, rest, c :: cursor.next⟩

/-- The character before the position belongs to a word. -/
def isAfterWord (cursor : Cursor) : Bool :=
  cursor.past.head?.any Text.isWord

/-- The character after the position belongs to a word. -/
def isBeforeWord (cursor : Cursor) : Bool :=
  cursor.next.head?.any Text.isWord

/-- An assertion holds at the position. -/
def satisfies (cursor : Cursor) : Syntax.Assertion → Bool
  | .textStart => cursor.past.isEmpty
  | .textEnd => cursor.next.isEmpty
  | .lineStart => cursor.past.isEmpty || cursor.past.head? == some '\n'
  | .lineEnd => cursor.next.isEmpty || cursor.next.head? == some '\n'
  | .wordBoundary => cursor.isAfterWord != cursor.isBeforeWord
  | .noWordBoundary => cursor.isAfterWord == cursor.isBeforeWord
  | .wordStart => !cursor.isAfterWord && cursor.isBeforeWord
  | .wordEnd => cursor.isAfterWord && !cursor.isBeforeWord

/-- The characters between an earlier position and this one. -/
def textSince (cursor earlier : Cursor) : List Char :=
  earlier.next.take (cursor.position - earlier.position)

/-- The position as a number of bytes of UTF-8. -/
def byteOffset (cursor : Cursor) : Nat :=
  (String.ofList cursor.past.reverse).utf8ByteSize

end Cursor

end PatternAlgebra.StandIn.Matching
