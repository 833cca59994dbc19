import PatternAlgebra.Flags

/-!
# Modes

A flag is in force or not at each position of a pattern.  The flags of a set
are in force from the start; a directive inside the pattern switches single
ones on and off, up to the end of the innermost group.
-/

namespace PatternAlgebra

/-- The flags in force at a position of pattern text. -/
structure Modes where
  fold : Bool
  multiLine : Bool
  dotAll : Bool
  verbose : Bool
  deriving DecidableEq, Repr

namespace Modes

/-- No flag is in force. -/
def plain : Modes :=
  ⟨false, false, false, false⟩

/-- The flags of a set are in force. -/
def ofFlags (flags : Flags) : Modes :=
  ⟨flags.has .caseInsensitive, flags.has .multiLine, flags.has .dotMatchesNewLine,
    flags.has .ignoreWhitespace⟩

/-- Switch one flag on or off. -/
def set (modes : Modes) (flag : Flag) (value : Bool) : Modes :=
  match flag with
  | .caseInsensitive => { modes with fold := value }
  | .multiLine => { modes with multiLine := value }
  | .dotMatchesNewLine => { modes with dotAll := value }
  | .ignoreWhitespace => { modes with verbose := value }

/-- Switch several flags, in order. -/
def edit (modes : Modes) (edits : List (Flag × Bool)) : Modes :=
  edits.foldl (fun modes change => modes.set change.1 change.2) modes

end Modes

end PatternAlgebra
