import PatternAlgebra.Operand
import PatternAlgebra.Pattern.Constant
import PatternAlgebra.Pattern.Grouping

/-!
# Combining patterns

Concatenation puts one text after another and one list of names after another;
a name may not occur on both sides.  Alternation encloses both sides in one
plain group, and a side that is such a group already gives up its own
delimiters, so that nested alternations come out flat.  Its sides may not hold
named groups, of which only some would capture in a match.
-/

namespace PatternAlgebra

namespace Pattern

/-- One pattern after another. -/
def concat (pattern : Pattern) (other : Operand) : Except BuildError Pattern :=
  let second := other.toPattern
  match pattern.names.find? second.hasName with
  | some name => .error (.nameCollision name)
  | none => .ok ⟨pattern.rope.join second.rope, pattern.names ++ second.names⟩

/-- The text to put on one side of a bar: a plain group loses its
delimiters. -/
def branch (pattern : Pattern) : Rope :=
  if pattern.shape = .nonCaptureGroup then
    Rope.single (inside pattern.text 3)
  else pattern.rope

/-- One pattern or another. -/
def alternate (pattern : Pattern) (other : Operand) : Except BuildError Pattern :=
  let second := other.toPattern
  let names := pattern.names ++ second.names
  if names.isEmpty then
    .ok ⟨((pattern.branch.push "|").join second.branch).surround "(?:" ")", []⟩
  else
    .error (.nonEmptyCaptureGroups names)

/-- Put a constant after the pattern. -/
def append (pattern : Pattern) (tail : Constant) : Pattern :=
  pattern.mapRope fun rope => rope.join tail.pattern.rope

end Pattern

namespace Operand

/-- One operand after another. -/
def concatenate (first second : Operand) : Except BuildError Pattern :=
  first.toPattern.concat second

/-- One operand or another. -/
def alternate (first second : Operand) : Except BuildError Pattern :=
  first.toPattern.alternate second

instance : HAdd Operand Operand (Except BuildError Pattern) := ⟨concatenate⟩

instance : HOr Operand Operand (Except BuildError Pattern) := ⟨alternate⟩

end Operand

end PatternAlgebra
