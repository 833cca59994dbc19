import PatternAlgebra.StandIn.Matching.Plan
import PatternAlgebra.StandIn.Matching.Search

/-!
# Matching with a budget

A backtracking search follows one way through a plan at a time.  Where it has
a choice it takes the preferred way first, and when that fails it returns to
try the other; every return is paid for, and a search that cannot pay is given
up.  What an automaton does inside the plan costs nothing.

The search is written with continuations: `attempt plan resume` matches the
plan and hands each state it reaches to `resume`, which says whether the rest
of the pattern matches from there.
-/

namespace PatternAlgebra.StandIn.Matching

/-- A position and the captures made on the way to it. -/
structure State where
  cursor : Cursor
  captures : Captures
  deriving DecidableEq, Repr

/-- How an attempt ends.  A number is the budget that is left. -/
inductive Attempt where
  | matched (state : State) (budget : Nat)
  | failed (budget : Nat)
  /-- The budget was used up before the attempt ended. -/
  | exhausted
  deriving DecidableEq, Repr

/-- What is to be matched after a plan. -/
abbrev Continuation := State → Nat → Attempt

namespace Attempt

/-- Return from a failed attempt to another one, for one unit of budget. -/
def orElse (first : Attempt) (second : Nat → Attempt) : Attempt :=
  match first with
  | failed 0 => exhausted
  | failed (budget + 1) => second budget
  | other => other

/-- The attempt must fail, and that is paid for as a return is. -/
def orNot (first : Attempt) (second : Nat → Attempt) : Attempt :=
  match first with
  | matched _ budget => failed budget
  | failed 0 => exhausted
  | failed (budget + 1) => second budget
  | exhausted => exhausted

/-- Go on from the state that an attempt has reached, without a way back into
it. -/
def commit (first : Attempt) (resume : Continuation) : Attempt :=
  match first with
  | matched state budget => resume state budget
  | other => other

end Attempt

/-- The end of a pattern: whatever state is reached matches. -/
def accept : Continuation :=
  Attempt.matched

/-! ## Repetition -/

/-- Repeat a body a fixed number of times. -/
def attemptTimes (body : Continuation → Continuation) : Nat → Continuation → Continuation
  | 0, resume, state, budget => resume state budget
  | n + 1, resume, state, budget => body (attemptTimes body n resume) state budget

/-- Repeat a body as often as a number says, or less often. -/
def attemptUpTo (body : Continuation → Continuation) (greedy : Bool) (resume : Continuation) :
    Nat → Continuation
  | 0, state, budget => resume state budget
  | n + 1, state, budget =>
      if greedy then
        (body (attemptUpTo body greedy resume n) state budget).orElse fun budget =>
          resume state budget
      else
        (resume state budget).orElse fun budget =>
          body (attemptUpTo body greedy resume n) state budget

/-- Repeat a body any number of times.  A repetition that consumes nothing
fails, so the characters that are left bound the number of repetitions. -/
def attemptMore (body : Continuation → Continuation) (greedy : Bool) (resume : Continuation) :
    (bound : Nat) → Continuation
  | 0, _, budget => .failed budget
  | bound + 1, state, budget =>
      let again : Continuation := fun after budget =>
        if state.cursor.position < after.cursor.position then
          attemptMore body greedy resume bound after budget
        else .failed budget
      if greedy then
        (body again state budget).orElse fun budget => resume state budget
      else
        (resume state budget).orElse fun budget => body again state budget

/-- Repeat a body between two bounds. -/
def attemptRepeated (body : Continuation → Continuation) (lower : Nat) (upper : Option Nat)
    (greedy : Bool) (resume : Continuation) : Continuation :=
  match upper with
  | some upper => attemptTimes body (min lower upper) (attemptUpTo body greedy resume (upper - lower))
  | none =>
      attemptTimes body lower fun state budget =>
        attemptMore body greedy resume (state.cursor.next.length + 1) state budget

/-! ## Plans -/

/-- Match a body before a position. -/
def attemptBefore (width : Nat) (body : State → Nat → Attempt) (state : State) (budget : Nat) :
    Attempt :=
  match state.cursor.rewind? width with
  | none => .failed budget
  | some cursor => body { state with cursor } budget

/-- Match a plan and then what follows it. -/
def attempt : Plan → Continuation → Continuation
  | .empty, resume => resume
  | .char test fold, resume => fun state budget =>
      match state.cursor.accept? test fold with
      | none => .failed budget
      | some cursor => resume { state with cursor } budget
  | .assertion kind, resume => fun state budget =>
      if state.cursor.satisfies kind then resume state budget else .failed budget
  | .delegate automaton groups, resume => fun state budget =>
      match automaton.matchFrom state.cursor with
      | none => .failed budget
      | some found =>
          resume ⟨found.stop, state.captures.replace groups found.captures⟩ budget
  | .seq first second, resume => attempt first (attempt second resume)
  | .alt first second, resume => fun state budget =>
      (attempt first resume state budget).orElse fun budget =>
        attempt second resume state budget
  | .repeated body lower upper greedy, resume =>
      attemptRepeated (attempt body) lower upper greedy resume
  | .group index body, resume => fun state budget =>
      attempt body
        (fun after budget =>
          resume { after with captures := after.captures.leave index after.cursor } budget)
        { state with captures := state.captures.enter index state.cursor } budget
  | .atomic body, resume => fun state budget =>
      (attempt body accept state budget).commit resume
  | .ahead negated body, resume => fun state budget =>
      if negated then
        (attempt body accept state budget).orNot fun budget => resume state budget
      else
        attempt body (fun after budget => resume { after with cursor := state.cursor } budget)
          state budget
  | .behind negated width body, resume => fun state budget =>
      if negated then
        (attemptBefore width (attempt body accept) state budget).orNot fun budget =>
          resume state budget
      else
        attemptBefore width
          (attempt body fun after budget => resume { after with cursor := state.cursor } budget)
          state budget
  | .backreference index, resume => fun state budget =>
      match state.captures.text? index with
      | none => .failed budget
      | some text =>
          match state.cursor.acceptText? text with
          | none => .failed budget
          | some cursor => resume { state with cursor } budget

/-! ## Searching -/

/-- The leftmost match that can be found within a budget, from the position at
which a haystack is split.  Moving on to the next position is paid for as well,
and so is giving up at the end.  Nothing at all is answered when the budget is
used up. -/
def boundedSearchFrom (plan : Plan) :
    (position : Nat) → (past next : List Char) → Nat → Option (Option Match)
  | position, past, next, budget =>
      let cursor : Cursor := ⟨position, past, next⟩
      match attempt plan accept ⟨cursor, .none⟩ budget, next with
      | .matched state _, _ => some (some ⟨cursor, state.cursor, state.captures⟩)
      | .exhausted, _ => none
      | .failed 0, _ => none
      | .failed (_ + 1), [] => some none
      | .failed (left + 1), c :: rest => boundedSearchFrom plan (position + 1) (c :: past) rest left

/-- The leftmost match that can be found within a budget. -/
def boundedSearch (plan : Plan) (haystack : List Char) (budget : Nat) :
    Option (Option Match) :=
  boundedSearchFrom plan 0 [] haystack budget

end PatternAlgebra.StandIn.Matching
