import PatternAlgebra.Proofs.Engines.Reader

/-!
# A sample of a reader

A small reader for each dialect, which is read from left to right with a stack of
open groups.  It knows letters, escapes, groups, bars, directives and the two
assertions of the ends, and the backtracking dialect has a group that looks ahead
as well.  Every other character with a meaning is refused.

What the reader makes of a text does not depend on what lies below in the stack,
up to the parenthesis that closes the lowest group.  So a text that can be read in
a group is one that can be read by itself.
-/

namespace PatternAlgebra.Sample

open Text (isMetacharacter)

/-! ## Matchers -/

/-- Where the matches from a position of a haystack stop, the preferred ones first. -/
abbrev Matcher :=
  List Char → Nat → List Nat

namespace Matcher

/-- Match nothing. -/
def nothing : Matcher :=
  fun _ position => [position]

/-- Match one character. -/
def character (test : Char → Bool) : Matcher :=
  fun haystack position => if (haystack[position]?).any test then [position + 1] else []

/-- Assert the start of the haystack. -/
def start : Matcher :=
  fun _ position => if position = 0 then [position] else []

/-- Assert the end of the haystack. -/
def stop : Matcher :=
  fun haystack position => if position = haystack.length then [position] else []

/-- Assert that a match begins here. -/
def ahead (inside : Matcher) : Matcher :=
  fun haystack position => if (inside haystack position).isEmpty then [] else [position]

/-- Match one after the other. -/
def seq (first second : Matcher) : Matcher :=
  fun haystack position => (first haystack position).flatMap (second haystack)

/-- Match one or the other, the first one preferred. -/
def alt (first second : Matcher) : Matcher :=
  fun haystack position => first haystack position ++ second haystack position

/-- The matcher as a reading: no match moves its start. -/
def reading (matcher : Matcher) (groups : Nat) (modes : Modes) : Reading where
  spans haystack position := (matcher haystack position).map fun stop => (position, stop)
  groups := groups
  names := []
  modes := modes

variable {matcher first second third : Matcher} {groups : Nat} {modes : Modes}

theorem nothing_seq : nothing.seq matcher = matcher := by
  funext haystack position
  exact List.flatMap_singleton ..

theorem alt_assoc : (first.alt second).alt third = first.alt (second.alt third) := by
  funext haystack position
  exact List.append_assoc ..

theorem reading_seq_character (test : Char → Bool) :
    (matcher.seq (character test)).reading groups modes =
      (matcher.reading groups modes).followedBy test := by
  refine Reading.ext ?_ rfl rfl rfl
  funext haystack position
  simp only [reading, seq, Reading.followedBy]
  rw [List.map_flatMap, List.filterMap_map, List.filterMap_eq_flatMap_toList]
  congr 1
  funext here
  dsimp only [Function.comp_apply, character]
  split <;> rfl

theorem reading_alt {others : Nat} {after : Modes} :
    (first.alt second).reading (groups + others) after =
      (first.reading groups modes).or (second.reading others after) := by
  simp only [reading, alt, Reading.or, List.map_append, List.append_nil]

theorem reading_start_seq :
    (start.seq matcher).reading groups modes = (matcher.reading groups modes).fromStart := by
  refine Reading.ext ?_ rfl rfl rfl
  funext haystack position
  by_cases first : position = 0
  · have begin : start.seq matcher haystack 0 = matcher haystack 0 := List.flatMap_singleton ..
    simp only [reading, Reading.fromStart, first, if_true, begin]
  · simp [reading, seq, start, Reading.fromStart, if_neg first]

theorem reading_seq_stop :
    (matcher.seq stop).reading groups modes = (matcher.reading groups modes).toEnd := by
  refine Reading.ext ?_ rfl rfl rfl
  funext haystack position
  simp only [reading, seq, Reading.toEnd, List.filter_map]
  rw [← List.filterMap_eq_filter, List.filterMap_eq_flatMap_toList]
  congr 2
  funext here
  simp only [stop, Option.guard, Function.comp_apply, decide_eq_true_eq]
  split <;> rfl

end Matcher

/-! ## States -/

/-- What stands open below the branch that is read. -/
inductive Frame where
  /-- A group, with what stands before it and the flags to go on with after it. -/
  | group (looksAhead : Bool) (before : Matcher) (modes : Modes)
  /-- A bar, with what stands before it. -/
  | branch (before : Matcher)

/-- What has been read of a construct of several characters. -/
inductive Phase where
  | ready
  | escape
  | opened
  | mark
  | directive (modes : Modes)
  | comment

/-- How far a text has been read. -/
structure State where
  phase : Phase
  modes : Modes
  /-- The number of capturing groups so far. -/
  groups : Nat
  /-- The branch that is read. -/
  matcher : Matcher
  frames : List Frame

/-- All branches of the innermost group, and what stands open below them. -/
def branches : Matcher → List Frame → Matcher × List Frame
  | matcher, [] => (matcher, [])
  | matcher, .branch before :: frames => branches (before.alt matcher) frames
  | matcher, .group looksAhead before modes :: frames =>
      (matcher, .group looksAhead before modes :: frames)

namespace State

/-- Nothing has been read. -/
def start (modes : Modes) : State :=
  ⟨.ready, modes, 0, .nothing, []⟩

/-- Match something more. -/
def extend (state : State) (matcher : Matcher) : State :=
  { state with phase := .ready, matcher := state.matcher.seq matcher }

/-- Match one more character. -/
def letter (alike : Char → Char → Bool) (state : State) (c : Char) : State :=
  state.extend (.character (if state.modes.fold then alike c else (· == c)))

/-- Open a group. -/
def enter (state : State) (looksAhead captures : Bool) : State :=
  { state with
    phase := .ready
    groups := state.groups + captures.toNat
    matcher := .nothing
    frames := .group looksAhead state.matcher state.modes :: state.frames }

/-- Close the innermost group. -/
def leave (state : State) : Option State :=
  match branches state.matcher state.frames with
  | (inside, .group looksAhead before modes :: frames) =>
      let group := if looksAhead then inside.ahead else inside
      some { state with modes, matcher := before.seq group, frames }
  | _ => none

/-- Begin another branch. -/
def bar (state : State) : State :=
  { state with matcher := .nothing, frames := .branch state.matcher :: state.frames }

/-- Read one more letter of a directive. -/
def flag (state : State) (modes : Modes) (c : Char) : Option State :=
  (Flag.all.find? (·.letter == c)).map fun flag =>
    { state with phase := .directive (modes.set flag true) }

/-- Everything that has been read, if nothing stands open. -/
def finish (state : State) : Option Reading :=
  match state.phase, branches state.matcher state.frames with
  | .ready, (matcher, []) | .comment, (matcher, []) =>
      some (matcher.reading state.groups state.modes)
  | _, _ => none

end State

/-! ## Reading -/

/-- Where case is ignored, characters are alike if they are the same letter of
ASCII. -/
def alike (c d : Char) : Bool :=
  c.toLower == d.toLower

/-- Read a character at which something begins. -/
def stepReady (state : State) (c : Char) : Option State :=
  if c = '\\' then some { state with phase := .escape }
  else if c = '(' then some { state with phase := .opened }
  else if c = ')' then state.leave
  else if c = '|' then some state.bar
  else if c == '#' && state.modes.verbose then some { state with phase := .comment }
  else if isMetacharacter c then none
  else if c.isWhitespace && state.modes.verbose then some state
  else some (state.letter alike c)

/-- Read one character. -/
def step (dialect : Dialect) (state : State) (c : Char) : Option State :=
  match state.phase with
  | .ready => stepReady state c
  | .escape =>
      if c = 'A' then some (state.extend .start)
      else if c = 'z' then some (state.extend .stop)
      else if isMetacharacter c then some (state.letter alike c)
      else none
  | .opened =>
      if c = '?' then some { state with phase := .mark } else stepReady (state.enter false true) c
  | .mark =>
      if c = ':' then some (state.enter false false)
      else if c = '=' && dialect = .backtracking then some (state.enter true false)
      else state.flag state.modes c
  | .directive modes =>
      if c = ')' then some { state with phase := .ready, modes } else state.flag modes c
  | .comment => some (if c = '\n' then { state with phase := .ready } else state)

/-- Read a text from some state. -/
def run (dialect : Dialect) (state : State) (text : List Char) : Option State :=
  text.foldlM (step dialect) state

/-- The reader of a dialect. -/
def reader (dialect : Dialect) : Reader where
  read modes _ text := (run dialect (.start modes) text).bind State.finish
  alike := alike
  isLayout := Char.isWhitespace

variable {dialect : Dialect} {state top final : State} {text rest : List Char} {c : Char}

@[simp]
theorem run_nil : run dialect state [] = some state :=
  rfl

@[simp]
theorem run_cons : run dialect state (c :: text) =
    (step dialect state c).bind fun next => run dialect next text :=
  List.foldlM_cons

theorem run_append : run dialect state (text ++ rest) =
    (run dialect state text).bind fun next => run dialect next rest :=
  List.foldlM_append

/-! ## What lies below -/

namespace State

/-- The state with more below, which has been read before. -/
def above (state : State) (groups : Nat) (frames : List Frame) : State :=
  { state with groups := groups + state.groups, frames := state.frames ++ frames }

/-- The text so far is a pattern that does not end in a comment. -/
structure IsComplete (state : State) : Prop where
  ready : state.phase = .ready
  closed : (branches state.matcher state.frames).2 = []

/-- What has been read where nothing stands open. -/
def reading (state : State) : Reading :=
  (branches state.matcher state.frames).1.reading state.groups state.modes

end State

theorem branches_cases (matcher : Matcher) (frames : List Frame) :
    (branches matcher frames).2 = [] ∨ ∃ looksAhead before modes rest,
      (branches matcher frames).2 = .group looksAhead before modes :: rest := by
  induction frames generalizing matcher with
  | nil => exact .inl rfl
  | cons frame frames inductionHypothesis =>
      cases frame with
      | group looksAhead before modes => exact .inr ⟨looksAhead, before, modes, frames, rfl⟩
      | branch before => exact inductionHypothesis (before.alt matcher)

/-- Branches go on below where no group stands open. -/
theorem branches_append_of_nil {matcher : Matcher} {frames : List Frame}
    (closed : (branches matcher frames).2 = []) (below : List Frame) :
    branches matcher (frames ++ below) = branches (branches matcher frames).1 below := by
  induction frames generalizing matcher with
  | nil => rfl
  | cons frame frames inductionHypothesis =>
      cases frame with
      | group looksAhead before modes => cases closed
      | branch before => exact inductionHypothesis closed

theorem branches_append_of_cons {matcher : Matcher} {frames rest : List Frame} {frame : Frame}
    (isOpen : (branches matcher frames).2 = frame :: rest) (below : List Frame) :
    branches matcher (frames ++ below) =
      ((branches matcher frames).1, frame :: (rest ++ below)) := by
  induction frames generalizing matcher with
  | nil => cases isOpen
  | cons other frames inductionHypothesis =>
      cases other with
      | group looksAhead before modes =>
          obtain ⟨rfl, rfl⟩ := List.cons.inj isOpen
          rfl
      | branch before => exact inductionHypothesis isOpen

/-- What stands before a bar comes before all branches after it. -/
theorem branches_alt {matcher before : Matcher} {frames : List Frame}
    (closed : (branches matcher frames).2 = []) :
    branches (matcher.alt before) frames = ((branches matcher frames).1.alt before, []) := by
  induction frames generalizing matcher with
  | nil => rfl
  | cons frame frames inductionHypothesis =>
      cases frame with
      | group looksAhead inner modes => cases closed
      | branch first =>
          rw [branches, ← Matcher.alt_assoc]
          exact inductionHypothesis closed

variable {groups : Nat} {below : List Frame}

theorem leave_eq_none (closed : (branches state.matcher state.frames).2 = []) :
    state.leave = none := by
  rw [State.leave]
  split
  next found => simp [found] at closed
  next => rfl

theorem leave_above (isOpen : (branches state.matcher state.frames).2 ≠ []) :
    (state.above groups below).leave = state.leave.map (·.above groups below) := by
  obtain ⟨looksAhead, before, modes, rest, found⟩ := (branches_cases _ _).resolve_left isOpen
  have inside : branches state.matcher state.frames =
      (_, .group looksAhead before modes :: rest) := Prod.ext rfl found
  rw [State.leave, State.leave, inside]
  simp only [State.above, branches_append_of_cons found]
  rfl

/-- A character is read above other frames as it is by itself, unless it is the
parenthesis that closes the lowest of them. -/
theorem stepReady_above (state : State) (c : Char) :
    stepReady (state.above groups below) c = (stepReady state c).map (·.above groups below) ∨
      c = ')' ∧ (branches state.matcher state.frames).2 = [] := by
  by_cases closing : c = ')'
  · by_cases closed : (branches state.matcher state.frames).2 = []
    · exact .inr ⟨closing, closed⟩
    · subst closing
      exact .inl (leave_above closed)
  · refine .inl ?_
    have modes : (state.above groups below).modes = state.modes := rfl
    simp only [stepReady, if_neg closing, modes]
    split_ifs <;> rfl

theorem flag_above (modes : Modes) (c : Char) :
    (state.above groups below).flag modes c = (state.flag modes c).map (·.above groups below) := by
  rw [State.flag, State.flag, Option.map_map]
  rfl

theorem step_above (dialect : Dialect) (groups : Nat) (below : List Frame) (state : State)
    (c : Char) :
    step dialect (state.above groups below) c =
        (step dialect state c).map (·.above groups below) ∨
      c = ')' ∧ state.IsComplete := by
  have phase : (state.above groups below).phase = state.phase := rfl
  rw [step, step, phase]
  cases found : state.phase with
  | ready => exact (stepReady_above state c).imp_right (And.imp_right (State.IsComplete.mk found))
  | opened =>
      dsimp only
      split
      · exact .inl rfl
      · -- A group that has just been opened is not the lowest one.
        refine .inl ((stepReady_above (state.enter false true) c).resolve_right ?_)
        rintro ⟨-, closed⟩
        cases closed
  | escape =>
      refine .inl ?_
      dsimp only
      split_ifs <;> rfl
  | mark =>
      refine .inl ?_
      have modes : (state.above groups below).modes = state.modes := rfl
      dsimp only
      rw [modes, flag_above]
      split_ifs <;> rfl
  | directive modes =>
      refine .inl ?_
      dsimp only
      rw [flag_above]
      split_ifs <;> rfl
  | comment =>
      refine .inl ?_
      dsimp only
      split_ifs <;> rfl

/-- No parenthesis can be read where nothing stands open. -/
theorem step_closing (complete : state.IsComplete) : step dialect state ')' = none := by
  rw [step, complete.ready]
  exact leave_eq_none complete.closed

/-- A text that is read by itself is read above other frames. -/
theorem run_above (ran : run dialect state text = some final) :
    run dialect (state.above groups below) text = some (final.above groups below) := by
  induction text generalizing state with
  | nil =>
      cases ran
      rfl
  | cons c text inductionHypothesis =>
      rw [run_cons] at ran ⊢
      obtain ⟨next, stepped, ran⟩ := Option.bind_eq_some_iff.mp ran
      rcases step_above dialect groups below state c with same | ⟨rfl, complete⟩
      · rw [same, stepped]
        exact inductionHypothesis ran
      · cases (step_closing complete).symm.trans stepped

/-- What is read above other frames is read by itself, at least up to a parenthesis
after which they are no longer below. -/
theorem exists_of_run_above (ran : run dialect (state.above groups below) text = some final) :
    (∃ top, run dialect state text = some top ∧ final = top.above groups below) ∨
      ∃ front rest top, text = front ++ ')' :: rest ∧
        run dialect state front = some top ∧ top.IsComplete := by
  induction text generalizing state with
  | nil =>
      cases ran
      exact .inl ⟨state, rfl, rfl⟩
  | cons c text inductionHypothesis =>
      rw [run_cons] at ran
      obtain ⟨next, stepped, ran⟩ := Option.bind_eq_some_iff.mp ran
      rcases step_above dialect groups below state c with same | ⟨rfl, complete⟩
      · rw [stepped] at same
        obtain ⟨middle, here, rfl⟩ := Option.map_eq_some_iff.mp same.symm
        rcases inductionHypothesis ran with ⟨top, ranTop, above⟩ | ⟨front, rest, top, split, ranTop⟩
        · exact .inl ⟨top, by rw [run_cons, here]; exact ranTop, above⟩
        · refine .inr ⟨c :: front, rest, top, by rw [split]; rfl, ?_, ranTop.2⟩
          rw [run_cons, here]
          exact ranTop.1
      · exact .inr ⟨[], text, state, rfl, rfl, complete⟩

end PatternAlgebra.Sample
