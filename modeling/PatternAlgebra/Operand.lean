import PatternAlgebra.BuildError
import PatternAlgebra.Pattern
import PatternAlgebra.Text.Quoted

/-!
# Operands

Wherever patterns are combined, raw text does as well as a pattern that was
built; an operand is either.  A value whose type is known only when it is
given becomes an operand if it is a text, a character or a pattern.
-/

namespace PatternAlgebra

/-- What patterns are combined from. -/
inductive Operand where
  /-- Raw pattern text. -/
  | literal (text : String)
  | built (pattern : Pattern)

/-- A value of a type known only when it is given. -/
inductive AnyValue where
  | pattern (value : Pattern)
  | text (value : String)
  | char (value : Char)
  /-- A value of any other type. -/
  | other

namespace Operand

/-- The pattern an operand stands for. -/
def toPattern : Operand → Pattern
  | literal text => .literal text
  | built pattern => pattern

/-- The operand as it is shown in diagnostics. -/
def debugText : Operand → String
  | literal text => "Literal(" ++ Text.quoted text ++ ")"
  | built pattern => "Built(" ++ pattern.debugText ++ ")"

/-- The operand that a value stands for. -/
def ofAny : AnyValue → Except BuildError Operand
  | .pattern value => .ok (built value)
  | .text value => .ok (literal value)
  | .char value => .ok (literal value.toString)
  | .other => .error .unsupportedOperandType

instance : Coe String Operand := ⟨literal⟩

instance : Coe Pattern Operand := ⟨built⟩

instance : Coe Char Operand := ⟨fun c => literal c.toString⟩

end Operand

end PatternAlgebra
