import PatternAlgebra.Engine
import PatternAlgebra.Text.Blank

/-!
# The dialects of the stand-in

The standard dialect has no lookaround and no backreferences and is strict
about braces and escapes.  The backtracking dialect has both, reads a brace
that starts no bounds as itself, and does not repeat what matches no text by
its form.
-/

namespace PatternAlgebra.Dialect

/-- Lookaround and backreferences belong to the dialect. -/
def isExtended : Dialect → Bool
  | standard => false
  | backtracking => true

/-- A verbose pattern may be laid out with this character.  The backtracking
dialect knows only the blanks that a keyboard makes. -/
def isLayout : Dialect → Char → Bool
  | standard, c => Text.isBlank c
  | backtracking, c => c = ' ' || c = '\t' || c = '\r' || c = '\n'

end PatternAlgebra.Dialect
