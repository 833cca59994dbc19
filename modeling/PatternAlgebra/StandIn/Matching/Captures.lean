import PatternAlgebra.StandIn.Matching.Cursor

/-!
# Captures

While a pattern is matched, each group notes where it was last entered and
where it was last left.  The two are kept apart, because a group that has been
entered again may be asked for its text before it is left.
-/

namespace PatternAlgebra.StandIn.Matching

/-- Where groups were last entered and left, by their numbers. -/
structure Captures where
  starts : List (Nat × Cursor)
  stops : List (Nat × Cursor)
  deriving DecidableEq, Repr

namespace Captures

/-- No group has been entered. -/
def none : Captures :=
  ⟨[], []⟩

/-- A note under a number, in place of an earlier one. -/
def note (notes : List (Nat × Cursor)) (index : Nat) (cursor : Cursor) : List (Nat × Cursor) :=
  (index, cursor) :: notes.filter fun entry => entry.1 != index

/-- A group is entered. -/
def enter (captures : Captures) (index : Nat) (cursor : Cursor) : Captures :=
  { captures with starts := note captures.starts index cursor }

/-- A group is left. -/
def leave (captures : Captures) (index : Nat) (cursor : Cursor) : Captures :=
  { captures with stops := note captures.stops index cursor }

/-- Replace the notes about some groups by those of other captures. -/
def replace (captures : Captures) (groups : List Nat) (others : Captures) : Captures :=
  ⟨others.starts ++ captures.starts.filter fun entry => !groups.contains entry.1,
    others.stops ++ captures.stops.filter fun entry => !groups.contains entry.1⟩

/-- The text from where a group was last entered to where it was last left.  A
group that was last left further back has none. -/
def text? (captures : Captures) (index : Nat) : Option (List Char) :=
  match captures.starts.lookup index, captures.stops.lookup index with
  | some start, some stop =>
      if start.position ≤ stop.position then some (stop.textSince start) else Option.none
  | _, _ => Option.none

end Captures

/-- A match: where it starts and stops, and what its groups captured. -/
structure Match where
  start : Cursor
  stop : Cursor
  captures : Captures
  deriving DecidableEq, Repr

/-- The range of a match in bytes of UTF-8. -/
def Match.byteRange (found : Match) : Nat × Nat :=
  (found.start.byteOffset, found.stop.byteOffset)

end PatternAlgebra.StandIn.Matching
