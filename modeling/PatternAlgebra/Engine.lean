import PatternAlgebra.Modes

/-!
# Engines

Patterns are matched by two engines that are no part of this library.  Nothing
is said here about how they read a pattern or search for it: an engine is a way
to compile a text and the questions that may be put to what it has compiled.
Everything that hands a pattern to an engine is written for any two engines,
and what is known about them stands as a hypothesis where it is used.

The standard engine takes the flags beside the text, tells a text that it cannot
read from one that is too big, and always has an answer.  The backtracking
engine takes no flags, and may give up a search.
-/

namespace PatternAlgebra

/-- The two engines, and with them the two dialects of pattern text. -/
inductive Dialect where
  | standard
  | backtracking
  deriving DecidableEq, Repr

/-- The name of an engine. -/
def Dialect.name : Dialect → String
  | standard => "standard"
  | backtracking => "backtracking"

/-- An engine: how it compiles a text, and what it answers. -/
structure Engine (Settings Refusal Failure : Type) where
  /-- What the engine makes of a text that it accepts. -/
  Handle : Type
  compile : Settings → String → Except Refusal Handle
  /-- The text as the engine received it. -/
  text : Handle → String
  /-- The names of the named groups, in the order of their openings. -/
  names : Handle → List String
  /-- The pattern matches somewhere in a haystack. -/
  isMatch : Handle → String → Except Failure Bool
  /-- The range of the leftmost match in a haystack, in bytes of UTF-8. -/
  find : Handle → String → Except Failure (Option (Nat × Nat))
  /-- The text that the group of a name captures in the leftmost match. -/
  captured : Handle → String → String → Except Failure (Option String)

/-- What the standard engine is told beside the text. -/
structure StandardSettings where
  modes : Modes
  sizeLimit : Option UInt64

/-- Why the standard engine refuses a text. -/
inductive StandardRefusal where
  /-- It cannot read the text. -/
  | malformed
  /-- What it would make of the text is larger than this number of bytes. -/
  | tooBig (limit : Nat)
  deriving DecidableEq, Repr

/-- What the backtracking engine is told beside the text. -/
structure BacktrackingSettings where
  backtrackLimit : Option UInt64
  sizeLimit : Option UInt64

/-- Why a search has no answer. -/
inductive MatchError where
  | backtrackLimitExceeded
  deriving DecidableEq, Repr

namespace MatchError

/-- The wording of an error. -/
def message : MatchError → String
  | backtrackLimitExceeded =>
      "match failed: Error executing regex: Max limit for backtracking count exceeded"

end MatchError

/-- The two engines that patterns are compiled with. -/
class Engines where
  standard : Engine StandardSettings StandardRefusal Empty
  backtracking : Engine BacktrackingSettings Unit MatchError

end PatternAlgebra
