import PatternAlgebra.Text.Numeral

/-!
# Quantifiers

A quantifier says how often a pattern may repeat.  Each interval of counts has
one suffix: the bounds that have a sign of their own are written with it, and
equal bounds are written once.
-/

namespace PatternAlgebra

/-- How often a pattern may repeat. -/
inductive Quantifier where
  | zeroOrMore
  | oneOrMore
  | optional
  | exactly (count : Nat)
  | atLeast (lower : Nat)
  /-- From a lower to an upper bound, both included. -/
  | between (lower upper : Nat)
  deriving DecidableEq, Repr

namespace Quantifier

/-- The suffix that stands for a quantifier. -/
def suffix : Quantifier → String
  | zeroOrMore => "*"
  | oneOrMore => "+"
  | optional => "?"
  | exactly count => "\x7b" ++ Text.decimal count ++ "\x7d"
  | atLeast lower =>
      if lower = 0 then "*"
      else if lower = 1 then "+"
      else "\x7b" ++ Text.decimal lower ++ ",\x7d"
  | between lower upper =>
      if lower = 0 ∧ upper = 1 then "?"
      else if lower = upper then "\x7b" ++ Text.decimal lower ++ "\x7d"
      else "\x7b" ++ Text.decimal lower ++ "," ++ Text.decimal upper ++ "\x7d"

end Quantifier

end PatternAlgebra
