import PatternAlgebra.Pattern.Grouping
import PatternAlgebra.Repetition.Quantifier
import PatternAlgebra.Repetition.Suffix

/-!
# Repeating a pattern

A quantifier binds to the whole pattern, so the text is grouped first unless
it is an atom.  A text that already ends in a repetition is refused rather
than grouped, because a second suffix is more often a slip than a wish; who
means it groups the pattern first.
-/

namespace PatternAlgebra.Pattern

/-- The error that a quantifier reports before the text is looked at as a
group: first a repetition at the end, then bounds the wrong way round, then a
lookaround. -/
def quantifierFault? (pattern : Pattern) (quantifier : Quantifier) : Option BuildError :=
  if isRepeating pattern.text then
    some (.alreadyRepeating pattern.text)
  else
    match quantifier with
    | .between lower upper =>
        if upper < lower then some (.invalidArgument (.reversedBounds lower upper))
        else if pattern.shape = .lookaround then
          some (.invalidArgument (.repeatedLookaround pattern.text))
        else none
    | _ =>
        if pattern.shape = .lookaround then
          some (.invalidArgument (.repeatedLookaround pattern.text))
        else none

/-- Repeat the pattern. -/
def quantify (pattern : Pattern) (quantifier : Quantifier) : Except BuildError Pattern :=
  match pattern.quantifierFault? quantifier with
  | some error => .error error
  | none =>
      match pattern.toNonCaptureGroup with
      | .error error => .error error
      | .ok grouped => .ok (grouped.mapRope fun rope => rope.push quantifier.suffix)

/-- Make the repetition at the end of the pattern take as little as it can. -/
def lazily (pattern : Pattern) : Except BuildError Pattern :=
  if !isRepeating pattern.text || isLazy pattern.text then
    .error (.invalidArgument (.notGreedy pattern.text))
  else
    .ok (pattern.mapRope fun rope => rope.push "?")

end PatternAlgebra.Pattern
