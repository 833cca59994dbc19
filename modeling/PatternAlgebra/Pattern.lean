import PatternAlgebra.Json
import PatternAlgebra.Rope
import PatternAlgebra.Shape
import PatternAlgebra.Text.Metacharacter

/-!
# Patterns

A pattern is a rope of pattern text together with the names of the capture
groups that were given names while it was built, in the order in which they
were given.  No operation reads names back out of the text: raw text that
names a group brings no name with it.

Two patterns are equal when their texts are, whatever the pieces are and
whatever names are known.
-/

namespace PatternAlgebra

/-- A pattern under construction. -/
structure Pattern where
  /-- The pieces of the pattern text. -/
  rope : Rope
  /-- The names of the named groups, without repetition. -/
  names : List String

namespace Pattern

/-- The empty pattern. -/
def empty : Pattern :=
  ⟨Rope.empty, []⟩

/-- Raw pattern text. -/
def literal (text : String) : Pattern :=
  ⟨Rope.single text, []⟩

/-- The pattern of exactly this text. -/
def escaped (text : String) : Pattern :=
  literal (String.ofList (Text.escape text.toList))

/-- The pattern text. -/
def text (pattern : Pattern) : String :=
  pattern.rope.text

/-- The outer shape of the pattern text. -/
def shape (pattern : Pattern) : Shape :=
  Shape.of pattern.text

/-- There is no text. -/
def isEmpty (pattern : Pattern) : Bool :=
  pattern.rope.isEmpty

/-- A group of this name was made while the pattern was built. -/
def hasName (pattern : Pattern) (name : String) : Bool :=
  pattern.names.contains name

/-- Change the text and keep the names. -/
def mapRope (pattern : Pattern) (change : Rope → Rope) : Pattern :=
  { pattern with rope := change pattern.rope }

/-- The pattern as it is shown in diagnostics. -/
def debugText (pattern : Pattern) : String :=
  "Regex(r\"" ++ pattern.text ++ "\")"

/-- The pattern as JSON. -/
def toJson (pattern : Pattern) : Json :=
  .string pattern.text

/-- Texts of different lengths are told apart without being put together. -/
instance : BEq Pattern where
  beq first second :=
    first.rope.byteLength == second.rope.byteLength && first.text == second.text

instance : Hashable Pattern where
  hash pattern := hash pattern.text

end Pattern

end PatternAlgebra
