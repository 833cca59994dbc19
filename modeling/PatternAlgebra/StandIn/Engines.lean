import PatternAlgebra.Engine
import PatternAlgebra.StandIn.Matching.Backtracking
import PatternAlgebra.StandIn.Syntax.Reader

/-!
# Engines to run with

The two engines are no part of this library, but it has to be run.  The
stand-in is a pair of small engines that answer where no others are given, and
agree with the real ones on the patterns that the builder is made for.  Nothing
is proved about them, and no theorem of this library depends on them.

They cover a part of the engines' syntax only.  Left out are the escapes by
code point and by property, nested classes, set operations and classes that
have a name, the flags for swapped greediness, for Unicode and for line breaks,
comments in groups, conditionals, the escapes that move the start of a match,
and the names of boundaries in braces.  Letters are alike in either case only
within ASCII, and whether a pattern is too big is judged by an estimate of the
bytes that it takes.
-/

namespace PatternAlgebra.StandIn

open Matching (Automaton Match Plan Purpose)
open Syntax (Node Tree)

/-- How a pattern is searched for. -/
inductive Matcher where
  /-- With an automaton, which always has an answer. -/
  | scan (automaton : Automaton)
  /-- By backtracking within a budget. -/
  | backtrack (plan : Plan) (budget : Nat)
  deriving DecidableEq, Repr

/-- A pattern that has been accepted. -/
structure Accepted (Matcher : Type) where
  text : String
  /-- The named groups, in the order of their openings. -/
  names : List (String × Nat)
  matcher : Matcher
  deriving DecidableEq, Repr

/-- The size limit where none is given. -/
def defaultSizeLimit : Nat :=
  10485760

/-- The backtrack limit where none is given. -/
def defaultBacktrackLimit : Nat :=
  1000000

/-- The limit that is in force. -/
def bound (default : Nat) (limit : Option UInt64) : Nat :=
  (limit.map UInt64.toNat).getD default

/-- The text that the group of a name captures in a match. -/
def capturedText (names : List (String × Nat)) (name : String) (found : Match) : Option String :=
  (names.lookup name).bind fun index => (found.captures.text? index).map String.ofList

/-! ## The standard engine -/

/-- Compile a text.  A group that is repeated no times is left out of the
pattern, and its name with it. -/
def compileStandard (settings : StandardSettings) (text : String) :
    Except StandardRefusal (Accepted Automaton) :=
  match Tree.read? .standard settings.modes text.toList with
  | none => .error .malformed
  | some tree =>
      match tree.body.regular? with
      | none => .error .malformed
      | some regular =>
          let limit := bound defaultSizeLimit settings.sizeLimit
          if regular.fits limit then
            .ok ⟨text, tree.names.filter fun entry => regular.groups.contains entry.2,
              .ofRegular regular⟩
          else .error (.tooBig limit)

/-- The engine that never gives up. -/
def standard : Engine StandardSettings StandardRefusal Empty where
  Handle := Accepted Automaton
  compile := compileStandard
  text := Accepted.text
  names handle := handle.names.map Prod.fst
  isMatch handle haystack := .ok (handle.matcher.search haystack.toList).isSome
  find handle haystack := .ok ((handle.matcher.search haystack.toList).map Match.byteRange)
  captured handle haystack name :=
    .ok ((handle.matcher.search haystack.toList).bind (capturedText handle.names name))

/-! ## The backtracking engine -/

/-- How the backtracking engine searches for a pattern: as the standard engine
would, if nothing in the pattern needs backtracking. -/
def matcher? (settings : BacktrackingSettings) (body : Node) : Option Matcher :=
  let limit := bound defaultSizeLimit settings.sizeLimit
  let purpose : Purpose := ⟨body.references, limit⟩
  if Matching.isHard body.references body then
    (Plan.ofNode? purpose body true .whole).map fun plan =>
      .backtrack plan (bound defaultBacktrackLimit settings.backtrackLimit)
  else
    match body.regular? with
    | none => none
    | some regular =>
        if regular.fits limit then some (.scan (.ofRegular regular)) else none

/-- Compile a text. -/
def compileBacktracking (settings : BacktrackingSettings) (text : String) :
    Except Unit (Accepted Matcher) :=
  match Tree.read? .backtracking Modes.plain text.toList with
  | none => .error ()
  | some tree =>
      match matcher? settings tree.body with
      | none => .error ()
      | some matcher => .ok ⟨text, tree.names, matcher⟩

/-- The leftmost match. -/
def search (handle : Accepted Matcher) (haystack : String) : Except MatchError (Option Match) :=
  match handle.matcher with
  | .scan automaton => .ok (automaton.search haystack.toList)
  | .backtrack plan budget =>
      match Matching.boundedSearch plan haystack.toList budget with
      | none => .error .backtrackLimitExceeded
      | some result => .ok result

/-- The engine with lookaround and backreferences. -/
def backtracking : Engine BacktrackingSettings Unit MatchError where
  Handle := Accepted Matcher
  compile := compileBacktracking
  text := Accepted.text
  names handle := handle.names.map Prod.fst
  isMatch handle haystack := (search handle haystack).map Option.isSome
  find handle haystack := (search handle haystack).map fun found => found.map Match.byteRange
  captured handle haystack name :=
    (search handle haystack).map fun found => found.bind (capturedText handle.names name)

/-- The engines that answer where no others are given. -/
instance engines : Engines where
  standard := standard
  backtracking := backtracking

end PatternAlgebra.StandIn
