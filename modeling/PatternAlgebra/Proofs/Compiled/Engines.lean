import PatternAlgebra.Compiled
import PatternAlgebra.Proofs.Construction.SameFate
import PatternAlgebra.Proofs.Engines.Reader

/-!
# Engines that follow a reader

What is assumed of an engine is that it follows a reader: it accepts only what
can be read, answers as what it has read, and refuses as malformed what cannot
be read.  That it accepts everything that can be read is not assumed.  An engine
has limits, and where an argument needs a pattern to be accepted it asks for room
for this pattern.

Where there is room, the engine of a compiled pattern is the first one in turn
that can read the text, so two texts that every engine reads alike are compiled
alike.
-/

namespace PatternAlgebra

/-! ## One engine -/

namespace Engine

variable {Settings Refusal Failure : Type}

/-- What the engine has compiled is searched for as a reading is, as far as it
gives answers. -/
structure Answers (engine : Engine Settings Refusal Failure) (handle : engine.Handle)
    (reading : Reading) : Prop where
  isMatch : ∀ haystack answer, engine.isMatch handle haystack = .ok answer →
    answer = (reading.search haystack.toList).isSome
  find : ∀ haystack found, engine.find handle haystack = .ok found →
    found = reading.find haystack.toList

/-- The engine accepts only what can be read under the flags of its settings, and
refuses as malformed what cannot. -/
structure Follows (engine : Engine Settings Refusal Failure) (reader : Reader)
    (modes : Settings → Modes) (malformed : Refusal) : Prop where
  reads : ∀ {settings text handle}, engine.compile settings text = .ok handle →
    ∃ reading, reader.read (modes settings) 0 text.toList = some reading ∧
      engine.Answers handle reading
  refuses : ∀ {settings text}, reader.read (modes settings) 0 text.toList = none →
    engine.compile settings text = .error malformed

end Engine

/-! ## Both engines -/

/-- Each engine follows the reader of its dialect. -/
structure Engines.Follow [Engines] (readers : Dialect → Reader) : Prop where
  standard : Engines.standard.Follows (readers .standard) StandardSettings.modes .malformed
  backtracking : Engines.backtracking.Follows (readers .backtracking) (fun _ => .plain) ()

/-- The engines that are asked, one after the other. -/
def Options.dialects (options : Options) : List Dialect :=
  match options.engine with
  | .auto => [.standard, .backtracking]
  | .standard => [.standard]
  | .backtracking => [.backtracking]

theorem Options.dialects_cases (options : Options) : options.dialects = [.standard] ∨
    options.dialects = [.backtracking] ∨ options.dialects = [.standard, .backtracking] := by
  rw [dialects]
  cases options.engine <;> simp

/-- What an engine reads in a text that it is handed under some options. -/
def reading? (readers : Dialect → Reader) (options : Options) (dialect : Dialect)
    (text : List Char) : Option Reading :=
  match dialect with
  | .standard => (readers .standard).read (.ofFlags options.flags) 0 text
  | .backtracking => (readers .backtracking).read .plain 0 (options.flags.directive.toList ++ text)

/-- How an engine refuses a text that it cannot read. -/
def Dialect.refusal : Dialect → CompileError
  | standard => .standardSyntax
  | backtracking => .backtracking

/-- What one engine after another reads: the first of them that can read the text
has it, and if none can, the last one has refused it. -/
def readInTurn (readers : Dialect → Reader) (options : Options) (text : List Char)
    (refusal : CompileError) : List Dialect → Except CompileError (Dialect × Reading)
  | [] => .error refusal
  | dialect :: rest =>
      match reading? readers options dialect text with
      | some reading => .ok (dialect, reading)
      | none => readInTurn readers options text dialect.refusal rest

/-- What the engines of the options read. -/
def expectedReading (readers : Dialect → Reader) (options : Options) (text : List Char) :
    Except CompileError (Dialect × Reading) :=
  readInTurn readers options text .standardSyntax options.dialects

/-- The engine is the first of those that are asked that can read the text. -/
structure ReadsFirst (readers : Dialect → Reader) (options : Options) (text : List Char)
    (dialect : Dialect) (reading : Reading) : Prop where
  asked : dialect ∈ options.dialects
  read : reading? readers options dialect text = some reading
  standardUnread : dialect = .backtracking → .standard ∈ options.dialects →
    reading? readers options .standard text = none

section

variable {readers : Dialect → Reader} {options : Options} {text : List Char} {dialect : Dialect}
  {reading : Reading}

theorem readsFirst_of_expectedReading {found : Dialect × Reading}
    (expected : expectedReading readers options text = .ok found) :
    ReadsFirst readers options text found.1 found.2 := by
  rw [expectedReading] at expected
  rcases options.dialects_cases with only | only | both
  · rw [only, readInTurn, readInTurn] at expected
    split at expected <;> cases expected
    next read => exact ⟨by simp [only], read, nofun⟩
  · rw [only, readInTurn, readInTurn] at expected
    split at expected <;> cases expected
    next read => exact ⟨by simp [only], read, fun _ standard => by simp [only] at standard⟩
  · rw [both, readInTurn, readInTurn, readInTurn] at expected
    split at expected
    next read =>
      cases expected
      exact ⟨by simp [both], read, nofun⟩
    next unread =>
      split at expected <;> cases expected
      next read => exact ⟨by simp [both], read, fun _ _ => unread⟩

theorem ReadsFirst.expectedReading_eq (first : ReadsFirst readers options text dialect reading) :
    expectedReading readers options text = .ok (dialect, reading) := by
  obtain ⟨asked, read, unread⟩ := first
  rw [expectedReading]
  rcases options.dialects_cases with only | only | both
  · obtain rfl : dialect = .standard := by simpa [only] using asked
    simp only [only, readInTurn, read]
  · obtain rfl : dialect = .backtracking := by simpa [only] using asked
    simp only [only, readInTurn, read]
  · cases dialect with
    | standard => simp only [both, readInTurn, read]
    | backtracking => simp only [both, readInTurn, unread rfl (by simp [both]), read]

/-- What the first engine can read is read by no other one. -/
theorem ReadsFirst.of_head? (first : options.dialects.head? = some dialect)
    (read : reading? readers options dialect text = some reading) :
    ReadsFirst readers options text dialect reading where
  asked := List.mem_of_mem_head? first
  read := read
  standardUnread := by
    rintro rfl standard
    rcases options.dialects_cases with only | only | both
    · simp [only] at first
    · simp [only] at standard
    · simp [both] at first

end

/-- The same engine reads both, and what it reads is related. -/
def AlikeBy (related : Reading → Reading → Prop) (one two : Dialect × Reading) : Prop :=
  one.1 = two.1 ∧ related one.2 two.2

/-- Where every engine that is asked reads two texts alike, the same engine is the
first one to read them. -/
theorem sameFate_expectedReading {readers : Dialect → Reader} {options : Options}
    {one two : List Char} {related : Reading → Reading → Prop}
    (alike : ∀ dialect ∈ options.dialects, Option.Rel related
      (reading? readers options dialect one) (reading? readers options dialect two)) :
    SameFate (AlikeBy related) (expectedReading readers options one)
      (expectedReading readers options two) := by
  rw [expectedReading, expectedReading]
  generalize options.dialects = dialects, CompileError.standardSyntax = refusal at alike ⊢
  induction dialects generalizing refusal with
  | nil => exact .error refusal
  | cons dialect rest inductionHypothesis =>
      obtain ⟨here, later⟩ := List.forall_mem_cons.mp alike
      rw [readInTurn, readInTurn]
      generalize reading? readers options dialect one = first,
        reading? readers options dialect two = second at here
      cases here with
      | some belong => exact .ok ⟨rfl, belong⟩
      | none => exact inductionHypothesis _ later

section

variable [engines : Engines] {readers : Dialect → Reader} {options : Options} {text : String}
  {compiled : Compiled} {dialect : Dialect}

/-- What an engine makes of a text. -/
def compileFor : Dialect → String → Options → Except CompileError Compiled
  | .standard => compileStandard
  | .backtracking => compileBacktracking

/-- Every engine that is asked accepts the text if it can read it: the text
exceeds no limit. -/
def HasRoom (readers : Dialect → Reader) (options : Options) (text : String) : Prop :=
  ∀ dialect ∈ options.dialects, (reading? readers options dialect text.toList).isSome →
    ∃ compiled, compileFor dialect text options = .ok compiled

/-- The pattern is searched for as a reading is, as far as there are answers. -/
structure Compiled.Answers (compiled : Compiled) (reading : Reading) : Prop where
  isMatch : ∀ haystack answer, compiled.isMatch haystack = .ok answer →
    answer = (reading.search haystack.toList).isSome
  find : ∀ haystack found, compiled.find haystack = .ok found →
    found = reading.find haystack.toList

theorem Compiled.answers_standard {handle : Engines.standard.Handle} {reading : Reading}
    (answers : Engines.standard.Answers handle reading) :
    (Compiled.standard handle).Answers reading := by
  have certain_eq {α : Type} {result : Except Empty α} :
      result = .ok (Compiled.certain result) := by
    cases result with
    | ok _ => rfl
    | error failure => exact failure.elim
  constructor
  · rintro haystack answer ⟨⟩
    exact answers.isMatch haystack _ certain_eq
  · rintro haystack found ⟨⟩
    exact answers.find haystack _ certain_eq

theorem Compiled.answers_backtracking {handle : Engines.backtracking.Handle} {reading : Reading}
    (answers : Engines.backtracking.Answers handle reading) :
    (Compiled.backtracking handle).Answers reading :=
  ⟨answers.isMatch, answers.find⟩

namespace Engines.Follow

variable (follow : engines.Follow readers)

include follow

/-- What an engine accepts it reads, and answers as it reads it. -/
theorem reading?_of_compileFor (made : compileFor dialect text options = .ok compiled) :
    compiled.engine = dialect ∧ ∃ reading,
      reading? readers options dialect text.toList = some reading ∧ compiled.Answers reading := by
  cases dialect with
  | standard =>
      rw [compileFor, compileStandard] at made
      split at made
      next handle accepted =>
        cases made
        obtain ⟨reading, read, answers⟩ := follow.standard.reads accepted
        exact ⟨rfl, reading, read, Compiled.answers_standard answers⟩
      next => cases made
  | backtracking =>
      simp only [compileFor, compileBacktracking] at made
      split at made
      next handle accepted =>
        cases made
        obtain ⟨reading, read, answers⟩ := follow.backtracking.reads accepted
        rw [String.toList_append] at read
        exact ⟨rfl, reading, read, Compiled.answers_backtracking answers⟩
      next => cases made

theorem compileFor_of_none (unread : reading? readers options dialect text.toList = none) :
    compileFor dialect text options = .error dialect.refusal := by
  cases dialect with
  | standard =>
      have refused : Engines.standard.compile ⟨.ofFlags options.flags, options.sizeLimit⟩ text =
          .error .malformed := follow.standard.refuses unread
      rw [compileFor, compileStandard, refused]
      rfl
  | backtracking =>
      rw [reading?, ← String.toList_append] at unread
      simp only [compileFor, compileBacktracking, follow.backtracking.refuses unread]
      rfl

/-- Where there is room, an engine accepts what it can read. -/
theorem exists_compileFor (room : HasRoom readers options text) (asked : dialect ∈ options.dialects)
    {reading : Reading} (read : reading? readers options dialect text.toList = some reading) :
    ∃ compiled, compileFor dialect text options = .ok compiled ∧ compiled.engine = dialect ∧
      compiled.Answers reading := by
  obtain ⟨compiled, made⟩ := room dialect asked (by simp [read])
  obtain ⟨engine, other, same, answers⟩ := follow.reading?_of_compileFor made
  obtain rfl := Option.some.inj (read.symm.trans same)
  exact ⟨compiled, made, engine, answers⟩

/-- One engine by itself: compiling comes to reading. -/
theorem sameFate_compileFor (room : HasRoom readers options text)
    (asked : dialect ∈ options.dialects) (refusal : CompileError) :
    SameFate (fun compiled read => compiled.engine = read.1 ∧ compiled.Answers read.2)
      (compileFor dialect text options)
      (readInTurn readers options text.toList refusal [dialect]) := by
  rw [readInTurn, readInTurn]
  cases read : reading? readers options dialect text.toList with
  | some reading =>
      obtain ⟨compiled, made, belong⟩ := follow.exists_compileFor room asked read
      rw [made]
      exact .ok belong
  | none =>
      rw [follow.compileFor_of_none read]
      exact .error _

/-- Where there is room, compiling a text comes to reading it. -/
theorem sameFate_compileEnclosed (room : HasRoom readers options text) :
    SameFate (fun compiled read => compiled.engine = read.1 ∧ compiled.Answers read.2)
      (compileEnclosed text options) (expectedReading readers options text.toList) := by
  have alone (dialect : Dialect) (only : options.dialects = [dialect]) :
      SameFate (fun compiled read => compiled.engine = read.1 ∧ compiled.Answers read.2)
        (compileFor dialect text options) (expectedReading readers options text.toList) := by
    rw [expectedReading, only]
    exact follow.sameFate_compileFor room (by simp [only]) _
  cases chosen : options.engine with
  | standard =>
      rw [compileEnclosed, chosen]
      exact alone .standard (by rw [Options.dialects, chosen])
  | backtracking =>
      rw [compileEnclosed, chosen]
      exact alone .backtracking (by rw [Options.dialects, chosen])
  | auto =>
      have both : options.dialects = [.standard, .backtracking] := by
        rw [Options.dialects, chosen]
      rw [compileEnclosed, chosen, expectedReading, both, readInTurn]
      cases read : reading? readers options .standard text.toList with
      | some reading =>
          obtain ⟨compiled, made, belong⟩ := follow.exists_compileFor room (by simp [both]) read
          have standard : compileStandard text options = .ok compiled := made
          simp only [standard]
          exact .ok belong
      | none =>
          have refused : compileStandard text options = .error .standardSyntax :=
            follow.compileFor_of_none read
          have asked : .backtracking ∈ options.dialects := by simp [both]
          simp only [refused]
          exact follow.sameFate_compileFor room asked _

/-- A pattern that is compiled is compiled by the first engine that can read it. -/
theorem exists_readsFirst (room : HasRoom readers options text)
    (made : compileEnclosed text options = .ok compiled) :
    ∃ reading, ReadsFirst readers options text.toList compiled.engine reading ∧
      compiled.Answers reading := by
  have fate := follow.sameFate_compileEnclosed room
  rw [made] at fate
  obtain ⟨⟨dialect, reading⟩, expected, rfl, answers⟩ := fate.exists_right
  exact ⟨reading, readsFirst_of_expectedReading expected, answers⟩

/-- The first engine that can read a text compiles it, where there is room. -/
theorem exists_compileEnclosed {reading : Reading} (room : HasRoom readers options text)
    (first : ReadsFirst readers options text.toList dialect reading) :
    ∃ compiled, compileEnclosed text options = .ok compiled ∧ compiled.engine = dialect ∧
      compiled.Answers reading := by
  have fate := follow.sameFate_compileEnclosed room
  rw [first.expectedReading_eq] at fate
  exact fate.exists_left

/-- Where every engine that is asked reads two texts alike and has room for both,
they are compiled alike. -/
theorem sameFate_of_readings {other : String} (room : HasRoom readers options text)
    (otherRoom : HasRoom readers options other) {related : Reading → Reading → Prop}
    (alike : ∀ dialect ∈ options.dialects, Option.Rel related
      (reading? readers options dialect text.toList)
      (reading? readers options dialect other.toList)) :
    SameFate (fun one two => one.engine = two.engine ∧ ∃ first second, related first second ∧
        reading? readers options one.engine text.toList = some first ∧ one.Answers first ∧
        reading? readers options two.engine other.toList = some second ∧ two.Answers second)
      (compileEnclosed text options) (compileEnclosed other options) := by
  have first := follow.sameFate_compileEnclosed room
  have second := follow.sameFate_compileEnclosed otherRoom
  have readings := sameFate_expectedReading alike
  generalize oneRead : expectedReading readers options text.toList = oneRead,
    twoRead : expectedReading readers options other.toList = twoRead at first second readings
  generalize compileEnclosed text options = one, compileEnclosed other options = two at first second
  cases readings with
  | error reason =>
      cases first
      cases second
      exact .error reason
  | ok alike =>
      obtain ⟨compiled, rfl, engine, answers⟩ := first.exists_left
      obtain ⟨compiledOther, rfl, engineOther, answersOther⟩ := second.exists_left
      obtain ⟨same, belong⟩ := alike
      refine .ok ⟨by rw [engine, engineOther, same], _, _, belong, ?_, answers, ?_, answersOther⟩
      · rw [engine]
        exact (readsFirst_of_expectedReading oneRead).read
      · rw [engineOther]
        exact (readsFirst_of_expectedReading twoRead).read

end Engines.Follow

end

end PatternAlgebra
