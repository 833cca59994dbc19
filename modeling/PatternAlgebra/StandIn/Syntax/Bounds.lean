import PatternAlgebra.StandIn.Syntax.Dialect
import PatternAlgebra.Text.Numeral

/-!
# Bounds in braces

A repetition may be followed by its bounds in braces: one number, or a lower
and an upper number with a comma between them, where the upper number may be
left out.  The two dialects lay the numbers out differently.

In the standard dialect any blank may stand before a number or after it, but a
blank after the comma promises a number.  In a verbose pattern blanks never
matter, not even between two digits.

In the backtracking dialect only a verbose pattern has blanks, and they end a
number.  The lower number may be left out before a comma.
-/

namespace PatternAlgebra.StandIn.Syntax

/-- The largest bound of a repetition in a pattern without lookaround and
backreferences. -/
def maxBound : Nat :=
  4294967295

/-- The number that stands for no upper bound. -/
def noBound : Nat :=
  18446744073709551615

/-- Bounds that are being read.  Digits are kept with the latest first. -/
structure BoundsDraft where
  lower : List Char
  /-- The digits after the comma, if there has been one. -/
  upper : Option (List Char)
  /-- A blank has ended the number that was being read. -/
  ended : Bool
  /-- A blank after the comma has promised a number. -/
  promised : Bool
  deriving DecidableEq, Repr

namespace BoundsDraft

/-- The bounds after the opening brace. -/
def start : BoundsDraft :=
  ⟨[], none, false, false⟩

/-- The characters that have been read, blanks apart. -/
def text (draft : BoundsDraft) : List Char :=
  match draft.upper with
  | none => draft.lower.reverse
  | some upper => draft.lower.reverse ++ ',' :: upper.reverse

/-- The digits of the number that is being read. -/
def current (draft : BoundsDraft) : List Char :=
  draft.upper.getD draft.lower

/-- Add a digit. -/
def addDigit (draft : BoundsDraft) (c : Char) : BoundsDraft :=
  match draft.upper with
  | none => { draft with lower := c :: draft.lower }
  | some upper => { draft with upper := some (c :: upper) }

/-- A blank that counts. -/
def addBlank (draft : BoundsDraft) : BoundsDraft :=
  if draft.current.isEmpty then { draft with promised := draft.upper.isSome }
  else { draft with ended := true }

/-- The bounds of the standard dialect at the closing brace. -/
def standard? (draft : BoundsDraft) : Option (Nat × Option Nat) :=
  match Text.decimal? draft.lower.reverse, draft.upper with
  | none, _ => none
  | some lower, none => if lower ≤ maxBound then some (lower, some lower) else none
  | some lower, some [] => if draft.promised ∨ maxBound < lower then none else some (lower, none)
  | some lower, some digits =>
      match Text.decimal? digits.reverse with
      | none => none
      | some upper => if lower ≤ upper ∧ upper ≤ maxBound then some (lower, some upper) else none

/-- An upper bound, where the largest number stands for none. -/
def upperBound (upper : Nat) : Option Nat :=
  if upper = noBound then none else some upper

/-- The bounds of the backtracking dialect at the closing brace. -/
def extended? (draft : BoundsDraft) : Option (Nat × Option Nat) :=
  let lower? :=
    if draft.lower.isEmpty && draft.upper.isSome then some 0
    else Text.decimal? draft.lower.reverse
  match lower?, draft.upper with
  | none, _ => none
  | some lower, none => if lower ≤ noBound then some (lower, upperBound lower) else none
  | some lower, some [] => if lower ≤ noBound then some (lower, none) else none
  | some lower, some digits =>
      match Text.decimal? digits.reverse with
      | none => none
      | some upper =>
          if lower ≤ noBound ∧ upper ≤ noBound then some (lower, upperBound upper) else none

/-- The bounds at the closing brace. -/
def bounds? (dialect : Dialect) (draft : BoundsDraft) : Option (Nat × Option Nat) :=
  match dialect with
  | .standard => draft.standard?
  | .backtracking => draft.extended?

/-- Read a character other than the closing brace.  Nothing is answered where
the braces do not hold bounds. -/
def read? (dialect : Dialect) (verbose : Bool) (draft : BoundsDraft) (c : Char) :
    Option BoundsDraft :=
  if verbose && dialect.isLayout c then
    some (if dialect.isExtended then draft.addBlank else draft)
  else if !dialect.isExtended && Text.isBlank c then some draft.addBlank
  else if c.isDigit then if draft.ended then none else some (draft.addDigit c)
  else if c = ',' then
    if draft.upper.isSome || (draft.lower.isEmpty && !dialect.isExtended) then none
    else some { draft with upper := some [], ended := false }
  else none

end BoundsDraft

end PatternAlgebra.StandIn.Syntax
