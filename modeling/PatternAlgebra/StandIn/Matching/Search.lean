import PatternAlgebra.StandIn.Matching.Automaton

/-!
# Searching with an automaton

All ways to match are followed at once.  A thread is one way: where its match
starts, what it has captured, and the state it is in.  The threads are kept in
the order of preference, and move over the characters of the haystack together.

Between two characters each thread is followed through the states that consume
nothing.  A state is visited once at a position, by the thread that is preferred
most; whatever follows depends on the state alone, so a later thread could lead
nowhere new.  When a thread is accepted, those that are preferred less are given
up, and the others go on, because they may still find a match that is preferred.

The time of a search is thus bounded by the length of the haystack times the
number of states.
-/

namespace PatternAlgebra.StandIn.Matching

/-- One way to match. -/
structure Thread where
  state : Nat
  start : Cursor
  captures : Captures
  deriving DecidableEq, Repr

/-- A set of states, as a mark on each state of an automaton. -/
structure StateSet where
  marks : Array Bool
  deriving DecidableEq, Repr

namespace StateSet

/-- None of the states up to a number. -/
def empty (size : Nat) : StateSet :=
  ⟨.replicate size false⟩

/-- The state belongs to the set. -/
def contains (states : StateSet) (state : Nat) : Bool :=
  states.marks.getD state false

/-- Add a state. -/
def insert (states : StateSet) (state : Nat) : StateSet :=
  ⟨states.marks.setIfInBounds state true⟩

end StateSet

/-- What has been found at a position. -/
structure Frontier where
  visited : StateSet
  /-- The threads that wait for a character, the least preferred first. -/
  waiting : List Thread
  /-- The thread that has been accepted. -/
  accepted : Option Thread
  deriving DecidableEq, Repr

namespace Frontier

/-- Nothing has been found in an automaton of so many states. -/
def empty (size : Nat) : Frontier :=
  ⟨.empty size, [], none⟩

/-- A state is visited. -/
def visit (frontier : Frontier) (state : Nat) : Frontier :=
  { frontier with visited := frontier.visited.insert state }

/-- A thread waits for a character in the state it visits. -/
def wait (frontier : Frontier) (thread : Thread) : Frontier :=
  { frontier with
    visited := frontier.visited.insert thread.state
    waiting := thread :: frontier.waiting }

/-- A thread is accepted. -/
def accept (frontier : Frontier) (thread : Thread) : Frontier :=
  { frontier with accepted := some thread }

end Frontier

namespace Automaton

/-- Follow threads to where they wait or are accepted.  The number bounds the
steps. -/
def close (automaton : Automaton) (cursor : Cursor) : Nat → List Thread → Frontier → Frontier
  | 0, _, frontier => frontier
  | _, [], frontier => frontier
  | steps + 1, ⟨state, start, captures⟩ :: rest, frontier =>
      if frontier.visited.contains state then close automaton cursor steps rest frontier
      else
        match automaton.instructions[state]? with
        | none => frontier.accept ⟨state, start, captures⟩
        | some (.char _ _ _) =>
            close automaton cursor steps rest (frontier.wait ⟨state, start, captures⟩)
        | some (.assertion kind next) =>
            close automaton cursor steps
              (if cursor.satisfies kind then ⟨next, start, captures⟩ :: rest else rest)
              (frontier.visit state)
        | some (.enter group next) =>
            close automaton cursor steps
              (⟨next, start, captures.enter group cursor⟩ :: rest) (frontier.visit state)
        | some (.leave group next) =>
            close automaton cursor steps
              (⟨next, start, captures.leave group cursor⟩ :: rest) (frontier.visit state)
        | some (.split first second) =>
            close automaton cursor steps
              (⟨first, start, captures⟩ :: ⟨second, start, captures⟩ :: rest)
              (frontier.visit state)
        | some (.jump next) =>
            close automaton cursor steps (⟨next, start, captures⟩ :: rest) (frontier.visit state)

/-- More steps than following threads can take: a visited state adds two
threads at most. -/
def stepBound (automaton : Automaton) (threads : List Thread) : Nat :=
  2 * automaton.instructions.size + threads.length + 2

/-- The frontier of some threads. -/
def frontier (automaton : Automaton) (cursor : Cursor) (threads : List Thread) : Frontier :=
  automaton.close cursor (automaton.stepBound threads) threads
    (.empty automaton.instructions.size)

/-- Waiting threads, the least preferred first, move over a character and stand
before other threads.  Those that do not accept it are given up. -/
def advance (automaton : Automaton) (c : Char) : List Thread → List Thread → List Thread
  | [], threads => threads
  | ⟨state, start, captures⟩ :: rest, threads =>
      match automaton.instructions[state]? with
      | some (.char test fold next) =>
          advance automaton c rest
            (if test.accepts fold c then ⟨next, start, captures⟩ :: threads else threads)
      | _ => advance automaton c rest threads

/-- The match of an accepted thread. -/
def matchAt (cursor : Cursor) (thread : Thread) : Match :=
  ⟨thread.start, cursor, thread.captures⟩

/-- Move threads over the rest of a haystack.  While there is no match, and
if matches may start anywhere, a new thread starts at each position. -/
def sweep (automaton : Automaton) (anywhere : Bool) :
    (position : Nat) → (past next : List Char) → List Thread → Option Match → Option Match
  | position, past, next, threads, found =>
      let cursor : Cursor := ⟨position, past, next⟩
      let frontier := automaton.frontier cursor threads
      let found :=
        match frontier.accepted with
        | some thread => some (matchAt cursor thread)
        | none => found
      match next with
      | [] => found
      | c :: rest =>
          let fresh : List Thread :=
            if anywhere && found.isNone then [⟨0, ⟨position + 1, c :: past, rest⟩, .none⟩] else []
          match automaton.advance c frontier.waiting fresh with
          | [] => found
          | threads => sweep automaton anywhere (position + 1) (c :: past) rest threads found

/-- The match that is preferred among those that start at a position. -/
def matchFrom (automaton : Automaton) (cursor : Cursor) : Option Match :=
  automaton.sweep false cursor.position cursor.past cursor.next [⟨0, cursor, .none⟩] none

/-- The leftmost match in a haystack. -/
def search (automaton : Automaton) (haystack : List Char) : Option Match :=
  let cursor := Cursor.start haystack
  automaton.sweep true cursor.position cursor.past cursor.next [⟨0, cursor, .none⟩] none

end Automaton

end PatternAlgebra.StandIn.Matching
