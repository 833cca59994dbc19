import PatternAlgebra.Proofs.Engines.Sample

/-!
# The laws of the sample

The sample readers obey all laws that are stated for readers, so the laws can hold
together.  Nearly all of them come down to one fact: a text is alone if it can be
read to the end and leaves nothing open.
-/

namespace PatternAlgebra.Sample

open Text (escape escapeChar isMetacharacter metacharacters)

variable {dialect : Dialect} {state top final : State} {text rest : List Char} {groups : Nat}
  {below : List Frame}

/-! ## Texts by themselves -/

theorem finish_of_isComplete (complete : state.IsComplete) : state.finish = some state.reading := by
  have inside : branches state.matcher state.frames = (_, []) := Prod.ext rfl complete.closed
  rw [State.finish, complete.ready, inside]
  rfl

/-- What can be finished is complete, up to a comment that is open. -/
theorem of_finish {reading : Reading} (finished : state.finish = some reading) :
    { state with phase := .ready }.IsComplete ∧ reading = state.reading ∧
      (state.phase = .ready ∨ state.phase = .comment) := by
  rw [State.finish] at finished
  split at finished
  next phase found =>
    cases finished
    exact ⟨⟨rfl, by rw [found]⟩, by rw [State.reading, found], .inl phase⟩
  next phase found =>
    cases finished
    exact ⟨⟨rfl, by rw [found]⟩, by rw [State.reading, found], .inr phase⟩
  next => cases finished

/-- A text is alone if it can be read to the end and leaves nothing open. -/
theorem alone_iff {modes : Modes} {opened : Nat} {reading : Reading} :
    (reader dialect).Alone modes opened text reading ↔
      ∃ final, run dialect (.start modes) text = some final ∧ final.IsComplete ∧
        reading = final.reading := by
  constructor
  · intro alone
    obtain ⟨final, ran, finished⟩ := Option.bind_eq_some_iff.mp alone.read
    obtain ⟨complete, same, phase⟩ := of_finish finished
    refine ⟨final, ran, ⟨phase.resolve_right fun comment => ?_, complete.closed⟩, same⟩
    have refuses : (run dialect (.start modes) (text ++ [')'])).bind State.finish = none :=
      alone.refuses
    rw [run_append, ran, Option.bind_some, run_cons, step, comment] at refuses
    cases refuses.symm.trans finished
  · rintro ⟨final, ran, complete, rfl⟩
    constructor
    · exact (congrArg (·.bind State.finish) ran).trans (finish_of_isComplete complete)
    · have refused : run dialect (.start modes) (text ++ [')']) = none := by
        rw [run_append, ran, Option.bind_some, run_cons, step_closing complete, Option.bind_none]
      exact congrArg (·.bind State.finish) refused

/-! ## Groups -/

variable {looksAhead captures : Bool}

/-- What is read in a group is read above it. -/
theorem enter_eq_above : state.enter looksAhead captures = (State.start state.modes).above
    (state.groups + captures.toNat) (.group looksAhead state.matcher state.modes :: state.frames) :=
  rfl

/-- A complete text is closed by a parenthesis, and is one item in what stands
before the group. -/
theorem step_above_group (complete : top.IsComplete) (before : Matcher) (modes : Modes) :
    step dialect (top.above groups (.group false before modes :: below)) ')' =
      some ⟨.ready, modes, groups + top.groups,
        before.seq (branches top.matcher top.frames).1, below⟩ := by
  have phase : (top.above groups (.group false before modes :: below)).phase = .ready :=
    complete.ready
  have closing (state : State) : stepReady state ')' = state.leave := rfl
  rw [step, phase]
  simp only [closing, State.leave, State.above, branches_append_of_nil complete.closed, branches,
    complete.ready, Bool.false_eq_true, if_false]

/-- A text that is alone is read in parentheses as one item. -/
theorem run_enter (state : State) (captures : Bool)
    (ran : run dialect (.start state.modes) text = some top)
    (complete : top.IsComplete) :
    run dialect (state.enter false captures) (text ++ [')']) =
      some ⟨.ready, state.modes, state.groups + captures.toNat + top.groups,
        state.matcher.seq (branches top.matcher top.frames).1, state.frames⟩ := by
  rw [enter_eq_above, run_append, run_above ran, Option.bind_some, run_cons,
    step_above_group complete, Option.bind_some, run_nil]

/-- Nothing is finished while a group stands open. -/
theorem finish_above_group (top : State) (looksAhead : Bool) (before : Matcher) (modes : Modes) :
    (top.above groups (.group looksAhead before modes :: below)).finish = none := by
  rw [Option.eq_none_iff_forall_ne_some]
  intro reading finished
  have closed := (of_finish finished).1.closed
  simp only [State.above] at closed
  rcases branches_cases top.matcher top.frames with nothing | ⟨_, _, _, _, isOpen⟩
  · rw [branches_append_of_nil nothing] at closed
    cases closed
  · rw [branches_append_of_cons isOpen] at closed
    cases closed

/-- What can be read after the opening of a group begins with a text that is alone,
and the parenthesis that closes the group. -/
theorem exists_alone_of_enter (state : State) (looksAhead captures : Bool) {whole : Reading}
    (read : (run dialect (state.enter looksAhead captures) text).bind State.finish = some whole) :
    ∃ front rest reading, text = front ++ ')' :: rest ∧
      ∀ opened, (reader dialect).Alone state.modes opened front reading := by
  obtain ⟨final, ran, finished⟩ := Option.bind_eq_some_iff.mp read
  rw [enter_eq_above] at ran
  rcases exists_of_run_above ran with ⟨top, -, rfl⟩ | ⟨front, rest, top, split, ranTop, complete⟩
  · cases (finish_above_group _ _ _ _).symm.trans finished
  · exact ⟨front, rest, top.reading, split, fun _ => alone_iff.mpr ⟨top, ranTop, complete, rfl⟩⟩

/-- After a parenthesis and no question mark a group that captures is open. -/
theorem run_opened (noMark : text.head? ≠ some '?') (some : text ≠ []) :
    run dialect { state with phase := .opened } text =
      run dialect (state.enter false true) text := by
  cases text with
  | nil => exact absurd rfl some
  | cons c text =>
      have other : c ≠ '?' := fun mark => noMark (congrArg Option.some mark)
      rw [run_cons, run_cons, step, step, if_neg other]
      rfl

/-! ## Groups, ends and bars -/

/-- No text that is alone begins with a question mark. -/
theorem head?_ne_of_alone {modes : Modes} {opened : Nat} {reading : Reading}
    (alone : (reader dialect).Alone modes opened text reading) : text.head? ≠ some '?' := by
  intro mark
  obtain ⟨rest, rfl⟩ := List.head?_eq_some_iff.mp mark
  have refused : (reader dialect).read modes opened ('?' :: rest) = none := rfl
  cases refused.symm.trans alone.read

theorem readsGroups (dialect : Dialect) : (reader dialect).ReadsGroups where
  mark := rfl
  plain := by
    intro modes opened text reading alone _
    obtain ⟨top, ran, complete, rfl⟩ := alone_iff.mp alone
    have whole : run dialect (.start modes) (Reader.plainGroup text) = some _ :=
      run_enter (.start modes) false ran complete
    refine alone_iff.mpr ⟨_, whole, ⟨rfl, rfl⟩, ?_⟩
    simp only [State.reading, State.start, branches, Matcher.nothing_seq, Matcher.reading,
      Bool.toNat_false, Nat.zero_add]
  capture := by
    intro modes opened text reading alone _
    obtain ⟨top, ran, complete, rfl⟩ := alone_iff.mp alone
    have noMark : (text ++ [')']).head? ≠ some '?' := by
      cases text with
      | nil => decide
      | cons c text => exact (head?_ne_of_alone alone :)
    have whole : run dialect (.start modes) (Reader.group text) = some _ :=
      (run_opened noMark (by simp)).trans
        (run_enter (.start modes) true ran complete)
    refine ⟨modes, (congrArg (·.bind State.finish) whole).trans ?_⟩
    rw [Option.bind_some, finish_of_isComplete ⟨rfl, rfl⟩]
    simp only [State.reading, State.start, branches, Matcher.nothing_seq, Matcher.reading,
      Bool.toNat_true, Nat.zero_add, Nat.add_comm 1]
  of_plain := by
    intro modes opened text whole read
    obtain ⟨front, rest, reading, split, alone⟩ :=
      exists_alone_of_enter (.start modes) false false read
    exact ⟨front, rest, reading, split, alone opened⟩
  of_capture := by
    intro modes opened text whole _ noMark _ read
    have some : text ≠ [] := by
      rintro rfl
      cases read
    have read : (run dialect { State.start modes with phase := .opened } text).bind State.finish =
      _ := read
    rw [run_opened noMark some] at read
    obtain ⟨front, rest, reading, split, alone⟩ := exists_alone_of_enter _ _ _ read
    exact ⟨front, rest, reading, split, alone (opened + 1)⟩

/-- A text that is alone is one item in its group behind the start of the haystack. -/
theorem run_start {modes : Modes} (ran : run dialect (.start modes) text = some top)
    (complete : top.IsComplete) :
    run dialect (.start modes) ('\\' :: 'A' :: Reader.plainGroup text) =
      some ⟨.ready, modes, top.groups,
        Matcher.start.seq (branches top.matcher top.frames).1, []⟩ := by
  have whole : run dialect (.start modes) ('\\' :: 'A' :: Reader.plainGroup text) = some _ :=
    run_enter ((State.start modes).extend .start) false ran complete
  rw [whole]
  simp only [State.extend, State.start, Matcher.nothing_seq, Bool.toNat_false, Nat.zero_add]

/-- Behind one item the end of the haystack is asserted for all of it. -/
theorem finish_stop (ready : state.phase = .ready) (flat : state.frames = []) :
    (run dialect state ['\\', 'z']).bind State.finish = some state.reading.toEnd := by
  have ran : run dialect state ['\\', 'z'] = some (state.extend .stop) := by
    rw [run_cons, step, ready]
    rfl
  have complete : (state.extend .stop).IsComplete := ⟨rfl, by simp [State.extend, flat, branches]⟩
  rw [ran, Option.bind_some, finish_of_isComplete complete]
  simp only [State.reading, State.extend, flat, branches, Matcher.reading_seq_stop]

theorem readsAssertions (dialect : Dialect) : (reader dialect).ReadsAssertions where
  start := by
    intro modes opened text reading grouped alone aloneGroup
    obtain ⟨top, ran, complete, rfl⟩ := alone_iff.mp alone
    have same := ((readsGroups dialect).plain alone (.inr rfl)).read.symm.trans aloneGroup.read
    refine alone_iff.mpr ⟨_, run_start ran complete, ⟨rfl, rfl⟩, ?_⟩
    rw [← Option.some.inj same]
    exact Matcher.reading_start_seq.symm
  stop := by
    intro modes opened text reading whole alone aloneWhole
    obtain ⟨top, ran, complete, rfl⟩ := alone_iff.mp alone
    obtain ⟨other, ranOther, _, rfl⟩ := alone_iff.mp aloneWhole
    obtain rfl := Option.some.inj ((run_start ran complete).symm.trans ranOther)
    have read : (reader dialect).read modes opened (Reader.betweenEnds text) =
        ((run dialect (.start modes) ('\\' :: 'A' :: Reader.plainGroup text)).bind
          fun closed => run dialect closed ['\\', 'z']).bind State.finish :=
      congrArg (·.bind State.finish) run_append
    rw [read, ranOther, Option.bind_some, finish_stop rfl rfl]
  of_start := by
    intro modes opened text whole read
    obtain ⟨front, rest, reading, split, alone⟩ :=
      exists_alone_of_enter ((State.start modes).extend .start) false false read
    exact ⟨front, rest, reading, split, alone opened⟩

/-- After a bar, everything before it lies below. -/
theorem step_bar (ready : state.phase = .ready) : step dialect state '|' =
    some ((State.start state.modes).above state.groups
      (.branch state.matcher :: state.frames)) := by
  obtain ⟨phase, modes, groups, matcher, frames⟩ := state
  obtain rfl : phase = .ready := ready
  rfl

theorem readsBars (dialect : Dialect) : (reader dialect).ReadsBars where
  bar := by
    intro modes opened first second one two aloneFirst aloneSecond _ _
    obtain ⟨left, ranLeft, completeLeft, rfl⟩ := alone_iff.mp aloneFirst
    obtain ⟨right, ranRight, completeRight, rfl⟩ := alone_iff.mp aloneSecond
    have whole : run dialect (.start modes) (first ++ '|' :: second) =
        some (right.above left.groups (.branch left.matcher :: left.frames)) := by
      rw [run_append, ranLeft, Option.bind_some, run_cons, step_bar completeLeft.ready,
        Option.bind_some]
      exact run_above ranRight
    have inside : branches right.matcher (right.frames ++ .branch left.matcher :: left.frames) =
        ((branches left.matcher left.frames).1.alt
          (branches right.matcher right.frames).1, []) := by
      rw [branches_append_of_nil completeRight.closed, branches, branches_alt completeLeft.closed]
    refine alone_iff.mpr ⟨_, whole, ⟨completeRight.ready, congrArg Prod.snd inside⟩, ?_⟩
    simp only [State.reading, State.above, inside]
    exact Matcher.reading_alt.symm

/-! ## Layout and directives -/

/-- In a verbose pattern a line break ends a comment and nothing else. -/
theorem step_lineBreak (verbose : state.modes.verbose = true)
    (between : state.phase = .ready ∨ state.phase = .comment) :
    step dialect state '\n' = some { state with phase := .ready } := by
  obtain ⟨phase, modes, groups, matcher, frames⟩ := state
  have blank (state : State) : stepReady state '\n' =
      if state.modes.verbose then some state else some (state.letter alike '\n') := rfl
  rcases between with ready | comment
  · obtain rfl : phase = .ready := ready
    exact (blank _).trans (if_pos verbose)
  · obtain rfl : phase = .comment := comment
    rfl

theorem ignoresLayout (dialect : Dialect) : (reader dialect).IgnoresLayout where
  lineBreak := by
    intro modes opened text reading read verbose
    obtain ⟨final, ran, finished⟩ := Option.bind_eq_some_iff.mp read
    obtain ⟨complete, rfl, between⟩ := of_finish finished
    refine alone_iff.mpr ⟨_, ?_, complete, rfl⟩
    rw [run_append, ran, Option.bind_some, run_cons, step_lineBreak verbose between,
      Option.bind_some, run_nil]
  isMetacharacter := by
    have noBlank : metacharacters.all (fun c => !c.isWhitespace) = true := by decide
    intro c meaning
    change c.isWhitespace = false
    simpa using List.all_eq_true.mp noBlank c (List.contains_iff_mem.mp meaning)

/-- The letters of a directive switch flags on, one after another. -/
theorem run_letters (flags : List Flag) (modes : Modes) :
    run dialect { state with phase := .directive modes } (flags.map Flag.letter) =
      some { state with phase := .directive (modes.edit (flags.map (·, true))) } := by
  induction flags generalizing modes with
  | nil => rfl
  | cons flag flags inductionHypothesis =>
      have switched : step dialect { state with phase := .directive modes } flag.letter =
          some { state with phase := .directive (modes.set flag true) } := by
        cases flag <;> rfl
      rw [List.map_cons, run_cons, switched, Option.bind_some, inductionHypothesis]
      rfl

/-- The first letter after a mark begins a directive. -/
theorem run_mark {flags : List Flag} (some : flags ≠ []) (rest : List Char) :
    run dialect { state with phase := .mark } (flags.map Flag.letter ++ rest) =
      run dialect { state with phase := .directive state.modes }
        (flags.map Flag.letter ++ rest) := by
  obtain ⟨flag, flags, rfl⟩ := List.exists_cons_of_ne_nil some
  have begins : step dialect { state with phase := .mark } flag.letter =
      step dialect { state with phase := .directive state.modes } flag.letter := by
    cases flag <;> rfl
  rw [List.map_cons, List.cons_append, run_cons, run_cons, begins]

theorem readsDirectives (dialect : Dialect) : (reader dialect).ReadsDirectives where
  directive := by
    intro flags text some _ _
    have opened : run dialect (.start .plain)
        ('(' :: '?' :: (flags.map Flag.letter ++ ')' :: text)) =
          run dialect { State.start .plain with phase := .mark }
            (flags.map Flag.letter ++ ')' :: text) := rfl
    rw [run_mark some, run_append, run_letters, Option.bind_some, run_cons] at opened
    exact congrArg (·.bind State.finish) opened
  empty := rfl

/-! ## References -/

theorem countsGroups : Reader.CountsGroups reader where
  standard _ _ _ := rfl
  backtracking _ _ _ := rfl

/-! ## Letters -/

/-- A character without a meaning of its own is a letter. -/
theorem step_of_not_isMetacharacter (ready : state.phase = .ready) {c : Char}
    (meaning : isMetacharacter c = false) : step dialect state c =
      some (if state.modes.verbose && c.isWhitespace then state else state.letter alike c) := by
  have other : ∀ special ∈ metacharacters, c ≠ special := by
    rintro special member rfl
    cases meaning.symm.trans (List.contains_iff_mem.mpr member)
  rw [step, ready]
  simp only [stepReady, if_neg (other '\\' (by decide)), if_neg (other '(' (by decide)),
    if_neg (other ')' (by decide)), if_neg (other '|' (by decide)), meaning,
    beq_eq_false_iff_ne.mpr (other '#' (by decide)), Bool.false_and, Bool.false_eq_true, if_false,
    Bool.and_comm c.isWhitespace]
  split <;> rfl

/-- After a backslash, so is one with a meaning. -/
theorem run_escaped (ready : state.phase = .ready) {c : Char} (meaning : isMetacharacter c = true) :
    run dialect state ['\\', c] = some (state.letter alike c) := by
  have other : c ≠ 'A' ∧ c ≠ 'z' := by
    constructor <;> rintro rfl <;> cases meaning
  have escape : step dialect state '\\' = some { state with phase := .escape } := by
    rw [step, ready]
    rfl
  rw [run_cons, escape, Option.bind_some, run_cons, step]
  simp only [if_neg other.1, if_neg other.2, meaning, if_true, Option.bind_some, run_nil]
  rfl

/-- Reading an escaped text extends the branch that is read, and nothing else. -/
theorem exists_run_escape (dialect : Dialect) (modes : Modes) (text : List Char)
    (before : Matcher) :
    ∃ matcher, run dialect { State.start modes with matcher := before } (escape text) =
      some { State.start modes with matcher } := by
  induction text generalizing before with
  | nil => exact ⟨before, rfl⟩
  | cons c text inductionHypothesis =>
      obtain ⟨next, here⟩ : ∃ next,
          run dialect { State.start modes with matcher := before } (escapeChar c) =
            some { State.start modes with matcher := next } := by
        rw [escapeChar]
        cases meaning : isMetacharacter c with
        | true => exact ⟨_, run_escaped rfl meaning⟩
        | false =>
            rw [if_neg Bool.false_ne_true, run_cons, step_of_not_isMetacharacter rfl meaning,
              Option.bind_some, run_nil]
            split
            · exact ⟨before, rfl⟩
            · exact ⟨_, rfl⟩
      obtain ⟨matcher, later⟩ := inductionHypothesis next
      refine ⟨matcher, ?_⟩
      rw [escape, List.flatMap_cons, run_append, here, Option.bind_some]
      exact later

/-- What follows an escaped text is read with nothing open. -/
theorem exists_read_escape (dialect : Dialect) (modes : Modes) (text : List Char) :
    ∃ matcher : Matcher,
      (∀ opened, (reader dialect).read modes opened (escape text) =
        some (matcher.reading 0 modes)) ∧
      ∀ opened rest, (reader dialect).read modes opened (escape text ++ rest) =
        (run dialect { State.start modes with matcher } rest).bind State.finish := by
  obtain ⟨matcher, ran⟩ := exists_run_escape dialect modes text .nothing
  refine ⟨matcher, fun opened => congrArg (·.bind State.finish) ran, fun opened rest => ?_⟩
  have split : run dialect (.start modes) (escape text ++ rest) = _ := run_append
  rw [show run dialect (.start modes) (escape text) = _ from ran, Option.bind_some] at split
  exact congrArg (·.bind State.finish) split

theorem readsLiterals (dialect : Dialect) : (reader dialect).ReadsLiterals where
  nothing := rfl
  character := by
    intro modes opened text c meaning
    obtain ⟨matcher, bare, read⟩ := exists_read_escape dialect modes text
    rw [bare, read, run_cons, step_of_not_isMetacharacter rfl meaning, Option.bind_some, run_nil,
      Option.bind_some, Option.map_some]
    cases layout : modes.verbose && c.isWhitespace with
    | true =>
        simp only [State.start, reader, layout, if_true]
        rfl
    | false =>
        simp only [State.start, reader, layout, Bool.false_eq_true, if_false,
          ← Matcher.reading_seq_character]
        rfl
  escaped := by
    intro modes opened text c meaning
    obtain ⟨matcher, bare, read⟩ := exists_read_escape dialect modes text
    rw [bare, read, run_escaped (by rfl) meaning, Option.bind_some, Option.map_some,
      ← Matcher.reading_seq_character]
    rfl
  closing := by
    intro modes opened text
    obtain ⟨matcher, -, read⟩ := exists_read_escape dialect modes text
    rw [read]
    rfl

theorem foldsCase (dialect : Dialect) : (reader dialect).FoldsCase where
  itself _ := beq_self_eq_true _
  ascii _ _ _ _ := beq_iff_eq

end PatternAlgebra.Sample
