import PatternAlgebra.Engine
import PatternAlgebra.Options
import PatternAlgebra.Pattern

/-!
# Compiling patterns

A finished pattern is handed to one of two engines.  The standard engine takes
the flags beside the pattern and never gives up a search.  The backtracking
engine takes the flags as a directive in front of the pattern, and may give up
a search.  By default the backtracking engine is asked when the standard one
refuses the syntax of a pattern, and only then.

An anchored pattern is enclosed between the two assertions of the ends of the
haystack.  When comments are ignored in the pattern a line break stands before
the closing delimiter, which a comment at the end would swallow otherwise.
-/

namespace PatternAlgebra

/-- Why a pattern does not compile. -/
inductive CompileError where
  /-- The standard engine refuses the syntax. -/
  | standardSyntax
  /-- The compiled pattern would be larger than this number of bytes. -/
  | standardTooBig (limit : Nat)
  /-- The backtracking engine refuses the pattern. -/
  | backtracking
  deriving DecidableEq, Repr

namespace CompileError

/-- The wording of an error, where the engine that reports it has no wording
of its own. -/
def message? : CompileError → Option String
  | standardTooBig limit =>
      some ("Compiled regex exceeds size limit of " ++ Text.decimal limit ++ " bytes.")
  | _ => none

/-- What the standard engine has refused a text for. -/
def ofRefusal : StandardRefusal → CompileError
  | .malformed => standardSyntax
  | .tooBig limit => standardTooBig limit

end CompileError

/-! ## Compiling -/

/-- The text of a pattern, enclosed if only the whole haystack may match. -/
def anchoredText (text : String) (options : Options) : String :=
  if options.anchored then
    if options.flags.has .ignoreWhitespace then "\\A(?:" ++ text ++ "\n)\\z"
    else "\\A(?:" ++ text ++ ")\\z"
  else text

variable [Engines]

/-- A pattern that an engine has accepted. -/
inductive Compiled where
  | standard (handle : Engines.standard.Handle)
  | backtracking (handle : Engines.backtracking.Handle)

/-- Compile with the standard engine. -/
def compileStandard (text : String) (options : Options) : Except CompileError Compiled :=
  match Engines.standard.compile ⟨.ofFlags options.flags, options.sizeLimit⟩ text with
  | .ok handle => .ok (.standard handle)
  | .error refusal => .error (.ofRefusal refusal)

/-- Compile with the backtracking engine. -/
def compileBacktracking (text : String) (options : Options) : Except CompileError Compiled :=
  let directed := options.flags.directive ++ text
  match Engines.backtracking.compile ⟨options.backtrackLimit, options.sizeLimit⟩ directed with
  | .ok handle => .ok (.backtracking handle)
  | .error _ => .error .backtracking

/-- Compile a text as it is given, with the engine of the options. -/
def compileEnclosed (enclosed : String) (options : Options) : Except CompileError Compiled :=
  match options.engine with
  | .standard => compileStandard enclosed options
  | .backtracking => compileBacktracking enclosed options
  | .auto =>
      match compileStandard enclosed options with
      | .error .standardSyntax => compileBacktracking enclosed options
      | result => result

/-- Compile pattern text. -/
def compileText (text : String) (options : Options) : Except CompileError Compiled :=
  compileEnclosed (anchoredText text options) options

namespace Pattern

/-- Compile a pattern with the given options. -/
def compileWith (pattern : Pattern) (options : Options) : Except CompileError Compiled :=
  compileText pattern.text options

/-- Compile a pattern with the default options. -/
def compile (pattern : Pattern) : Except CompileError Compiled :=
  pattern.compileWith {}

end Pattern

/-! ## Searching -/

namespace Compiled

/-- An answer of an engine that never gives up. -/
def certain {α : Type} : Except Empty α → α
  | .ok answer => answer

/-- The engine that compiled the pattern. -/
def engine : Compiled → Dialect
  | standard _ => .standard
  | backtracking _ => .backtracking

/-- The pattern as the engine received it. -/
def pattern : Compiled → String
  | standard handle => Engines.standard.text handle
  | backtracking handle => Engines.backtracking.text handle

/-- The names of the named groups, in the order of their openings. -/
def captureNames : Compiled → List String
  | standard handle => Engines.standard.names handle
  | backtracking handle => Engines.backtracking.names handle

/-- The pattern matches somewhere in the haystack. -/
def isMatch (compiled : Compiled) (haystack : String) : Except MatchError Bool :=
  match compiled with
  | standard handle => .ok (certain (Engines.standard.isMatch handle haystack))
  | backtracking handle => Engines.backtracking.isMatch handle haystack

/-- The range of the leftmost match, in bytes of UTF-8. -/
def find (compiled : Compiled) (haystack : String) : Except MatchError (Option (Nat × Nat)) :=
  match compiled with
  | standard handle => .ok (certain (Engines.standard.find handle haystack))
  | backtracking handle => Engines.backtracking.find handle haystack

/-- The text that a named group captures in the leftmost match. -/
def captured (compiled : Compiled) (haystack name : String) :
    Except MatchError (Option String) :=
  match compiled with
  | standard handle => .ok (certain (Engines.standard.captured handle haystack name))
  | backtracking handle => Engines.backtracking.captured handle haystack name

end Compiled

end PatternAlgebra
