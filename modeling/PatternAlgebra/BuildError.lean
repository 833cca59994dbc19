import PatternAlgebra.Text.Numeral
import PatternAlgebra.Text.Quoted

/-!
# Errors of the builder

Every error is reported at the call that causes it and carries what the caller
needs to see: the offending text, name or bounds.  The wording of each error
stands in one function per type.
-/

namespace PatternAlgebra

/-- Why an argument is refused. -/
inductive ArgumentFault where
  /-- A group cannot have this name. -/
  | groupName (name : String)
  /-- The lower bound of a repetition exceeds the upper one. -/
  | reversedBounds (lower upper : Nat)
  /-- A lookaround matches no text that could be repeated. -/
  | repeatedLookaround (text : String)
  /-- Only a greedy repetition can be made lazy. -/
  | notGreedy (text : String)
  /-- A character set needs a member. -/
  | emptyCharacterSet
  deriving DecidableEq, Repr

/-- Why the builder refuses a call. -/
inductive BuildError where
  /-- The text ends in a repetition and cannot be repeated as it stands. -/
  | alreadyRepeating (text : String)
  /-- The text is a named group and cannot be grouped again. -/
  | alreadyCaptured (text : String)
  /-- A member of a character set is not one character. -/
  | notACharacter (text : String)
  /-- A group name occurs on both sides. -/
  | nameCollision (name : String)
  /-- Alternatives may not hold named groups. -/
  | nonEmptyCaptureGroups (names : List String)
  | invalidArgument (fault : ArgumentFault)
  /-- A value is neither a text nor a pattern. -/
  | unsupportedOperandType
  deriving DecidableEq, Repr

namespace ArgumentFault

/-- The wording of a fault. -/
def message : ArgumentFault → String
  | groupName name => "`" ++ name ++ "` is not a valid capture group name"
  | reversedBounds lower upper =>
      "lower bound " ++ Text.decimal lower ++ " exceeds upper bound " ++ Text.decimal upper
  | repeatedLookaround text => "lookaround `" ++ text ++ "` cannot be repeated"
  | notGreedy text => "`" ++ text ++ "` does not end in a greedy repetition"
  | emptyCharacterSet => "empty character set"

end ArgumentFault

namespace BuildError

/-- The wording of an error. -/
def message : BuildError → String
  | alreadyRepeating text => "`" ++ text ++ "` is already repeating"
  | alreadyCaptured text => "`" ++ text ++ "` is already a named capture group"
  | notACharacter text => "`" ++ text ++ "` is not a single character"
  | nameCollision name => "capture group name `" ++ name ++ "` is used more than once"
  | nonEmptyCaptureGroups names =>
      "alternation operands may not contain named capture groups; found " ++
        Text.quotedList names
  | invalidArgument fault => "invalid argument: " ++ fault.message
  | unsupportedOperandType => "unsupported operand type; expected a string or a regex"

end BuildError

end PatternAlgebra
