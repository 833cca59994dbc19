import PatternAlgebra.StandIn.Matching.Captures
import PatternAlgebra.StandIn.Syntax.Regular

/-!
# Automata

A regular pattern is compiled to an automaton: a list of instructions, each of
which says in which state it goes on.  The states are the positions in the
list, and the position after the last instruction is the accepting state.

The code of a tree is laid out from a given position on.  How long it is
depends on the tree alone, so every position in it can be computed before any
of it is written.
-/

namespace PatternAlgebra.StandIn.Matching

open Syntax (Regular)

/-- What an automaton does in a state. -/
inductive Instruction where
  /-- Move over one character. -/
  | char (test : Syntax.CharTest) (fold : Bool) (next : Nat)
  /-- Go on where an assertion holds. -/
  | assertion (kind : Syntax.Assertion) (next : Nat)
  | enter (group next : Nat)
  | leave (group next : Nat)
  /-- Go on in one of two states, the first one preferred. -/
  | split (first second : Nat)
  | jump (next : Nat)
  deriving DecidableEq, Repr

namespace Instruction

/-- A choice between going into a body and leaving it out. -/
def choose (greedy : Bool) (body exit : Nat) : Instruction :=
  if greedy then split body exit else split exit body

end Instruction

/-! ## Layout -/

/-- The number of instructions for a tree. -/
def codeLength : Regular → Nat
  | .empty => 1
  | .char _ _ => 1
  | .assertion _ => 1
  | .seq first second => codeLength first + codeLength second
  | .alt first second => codeLength first + codeLength second + 1
  | .repeated body lower (some upper) _ =>
      lower * codeLength body + (upper - lower) * (codeLength body + 1) + 1
  | .repeated body lower none _ =>
      (if lower = 0 then 1 else 0) + max 1 lower * codeLength body + 1
  | .group _ body => codeLength body + 2

/-- Some pieces of code of one length, laid out one after another. -/
def layOut (length count base : Nat) (piece : Nat → List Instruction) : List Instruction :=
  (List.range count).flatMap fun i => piece (base + i * length)

/-- The code of a tree from a position on, which goes on in a given state. -/
def code : Regular → (base next : Nat) → List Instruction
  | .empty, _, next => [.jump next]
  | .char test fold, _, next => [.char test fold next]
  | .assertion kind, _, next => [.assertion kind next]
  | .seq first second, base, next =>
      let middle := base + codeLength first
      code first base middle ++ code second middle next
  | .alt first second, base, next =>
      let middle := base + 1 + codeLength first
      .split (base + 1) middle :: (code first (base + 1) next ++ code second middle next)
  | .repeated body lower (some upper) greedy, base, next =>
      let length := codeLength body
      let middle := base + lower * length
      let exit := middle + (upper - lower) * (length + 1)
      layOut length lower base (fun here => code body here (here + length)) ++
        layOut (length + 1) (upper - lower) middle
          (fun here =>
            .choose greedy (here + 1) exit :: code body (here + 1) (here + 1 + length)) ++
        [.jump next]
  | .repeated body lower none greedy, base, next =>
      let length := codeLength body
      let first := base + if lower = 0 then 1 else 0
      let again := first + max 1 lower * length
      (if lower = 0 then [.choose greedy first next] else []) ++
        layOut length (max 1 lower) first (fun here => code body here (here + length)) ++
        [.choose greedy (again - length) next]
  | .group index body, base, next =>
      let last := base + 1 + codeLength body
      .enter index (base + 1) :: (code body (base + 1) last ++ [.leave index next])

/-- A compiled regular pattern. -/
structure Automaton where
  instructions : Array Instruction
  deriving DecidableEq, Repr

/-- Compile a regular pattern. -/
def Automaton.ofRegular (tree : Regular) : Automaton :=
  ⟨(code tree 0 (codeLength tree)).toArray⟩

end PatternAlgebra.StandIn.Matching
