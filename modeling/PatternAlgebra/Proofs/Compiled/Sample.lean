import PatternAlgebra.Proofs.Compiled.Engines
import PatternAlgebra.Proofs.Engines.SampleLaws

/-!
# The sample engines

A pair of engines that accept whatever the sample readers can read and always have
an answer.  What is proved of all engines that follow a reader is so proved of
these, where it can be seen at work.
-/

namespace PatternAlgebra.Sample

open Reader

/-! ## Engines -/

/-- The engine of a dialect: it keeps the text and what has been read. -/
def engine {Settings Refusal Failure : Type} (dialect : Dialect) (modes : Settings → Modes)
    (malformed : Refusal) : Engine Settings Refusal Failure where
  Handle := String × Reading
  compile settings text :=
    match (reader dialect).read (modes settings) 0 text.toList with
    | some reading => .ok (text, reading)
    | none => .error malformed
  text handle := handle.1
  names _ := []
  isMatch handle haystack := .ok (handle.2.search haystack.toList).isSome
  find handle haystack := .ok (handle.2.find haystack.toList)
  captured _ _ _ := .ok none

/-- The sample of a pair of engines. -/
abbrev engines : Engines where
  standard := engine .standard StandardSettings.modes .malformed
  backtracking := engine .backtracking (fun _ => .plain) ()

theorem follows_engine {Settings Refusal Failure : Type} (dialect : Dialect)
    (modes : Settings → Modes) (malformed : Refusal) :
    (engine dialect modes malformed : Engine Settings Refusal Failure).Follows (reader dialect)
      modes malformed where
  reads := by
    intro settings text handle accepted
    simp only [engine] at accepted
    split at accepted
    next reading read =>
      cases accepted
      refine ⟨reading, read, ?_, ?_⟩
      · rintro haystack answer ⟨⟩
        rfl
      · rintro haystack found ⟨⟩
        rfl
    next => cases accepted
  refuses := by
    intro settings text unread
    simp only [engine, unread]

theorem follow : @Engines.Follow engines reader := by
  let := engines
  exact ⟨follows_engine .., follows_engine ..⟩

/-- What can be read is accepted. -/
theorem exists_compile {Settings Refusal Failure : Type} {dialect : Dialect}
    {modes : Settings → Modes} {malformed : Refusal} {settings : Settings} {text : String}
    (readable : ((reader dialect).read (modes settings) 0 text.toList).isSome) :
    ∃ handle, (engine dialect modes malformed : Engine Settings Refusal Failure).compile settings
      text = .ok handle := by
  obtain ⟨reading, read⟩ := Option.isSome_iff_exists.mp readable
  exact ⟨(text, reading), by simp only [engine, read]⟩

/-- There is always room. -/
theorem hasRoom (options : Options) (text : String) : @HasRoom engines reader options text := by
  let := engines
  intro dialect _ readable
  cases dialect with
  | standard =>
      obtain ⟨handle, accepted⟩ : ∃ handle,
          Engines.standard.compile ⟨.ofFlags options.flags, options.sizeLimit⟩ text = .ok handle :=
        exists_compile readable
      exact ⟨.standard handle, by rw [compileFor, compileStandard, accepted]⟩
  | backtracking =>
      rw [reading?, ← String.toList_append] at readable
      obtain ⟨handle, accepted⟩ : ∃ handle,
          Engines.backtracking.compile ⟨options.backtrackLimit, options.sizeLimit⟩
            (options.flags.directive ++ text) = .ok handle :=
        exists_compile readable
      exact ⟨.backtracking handle, by simp only [compileFor, compileBacktracking, accepted]⟩

/-- A result that has an engine is a pattern compiled with it. -/
theorem exists_of_map_engine [Engines] {result : Except CompileError Compiled} {dialect : Dialect}
    (found : result.map Compiled.engine = .ok dialect) :
    ∃ compiled, result = .ok compiled ∧ compiled.engine = dialect := by
  cases result with
  | error _ => cases found
  | ok compiled => exact ⟨compiled, rfl, Except.ok.inj found⟩

/-- A search always has an answer. -/
theorem exists_find (compiled : @Compiled engines) (haystack : String) :
    ∃ found, @Compiled.find engines compiled haystack = .ok found := by
  cases compiled <;> exact ⟨_, rfl⟩

theorem exists_isMatch (compiled : @Compiled engines) (haystack : String) :
    ∃ answer, @Compiled.isMatch engines compiled haystack = .ok answer := by
  cases compiled <;> exact ⟨_, rfl⟩

/-! ## Texts that keep to themselves -/

variable {dialect : Dialect} {modes : Modes} {front text rest : List Char}

/-- A text that can be read closes nothing. -/
theorem closesNothing_of_read (readable : ((reader dialect).read modes 0 text).isSome) :
    (reader dialect).ClosesNothing modes text := by
  rintro opened front rest reading rfl alone
  obtain ⟨top, ran, complete, -⟩ := alone_iff.mp alone
  have refused : run dialect (.start modes) (front ++ ')' :: rest) = none := by
    rw [run_append, ran, Option.bind_some, run_cons, step_closing complete, Option.bind_none]
  have unread : (reader dialect).read modes 0 (front ++ ')' :: rest) = none :=
    congrArg (·.bind State.finish) refused
  rw [unread] at readable
  cases readable

/-- No match moves its start, and no group has a name. -/
theorem keepsStart_and_names {opened : Nat} {reading : Reading}
    (read : (reader dialect).read modes opened text = some reading) :
    reading.KeepsStart ∧ reading.names = [] := by
  obtain ⟨final, -, finished⟩ := Option.bind_eq_some_iff.mp read
  obtain ⟨-, rfl, -⟩ := of_finish finished
  refine ⟨?_, rfl⟩
  rintro haystack position span found
  obtain ⟨stop, -, rfl⟩ := List.mem_map.mp found
  rfl

/-- So does a text that cannot be read as far as its first parenthesis that closes. -/
theorem closesNothing_of_run_eq_none (refused : run dialect (.start modes) front = none)
    (noParenthesis : ')' ∉ front) : (reader dialect).ClosesNothing modes (front ++ rest) := by
  rintro opened before after reading split alone
  obtain ⟨top, ran, -, -⟩ := alone_iff.mp alone
  rcases List.append_eq_append_iff.mp split with ⟨between, rfl, -⟩ | ⟨between, rfl, right⟩
  · rw [run_append, refused] at ran
    cases ran
  · cases between with
    | nil =>
        rw [List.append_nil, ran] at refused
        cases refused
    | cons c between =>
        obtain ⟨rfl, -⟩ := List.cons.inj right
        simp at noParenthesis

/-- A text keeps to itself if a parenthesis after it closes nothing. -/
theorem isSelfContained (notVerbose : modes.verbose = false)
    (closesNothing : (reader dialect).ClosesNothing modes text)
    (refuses : (reader dialect).read modes 0 (text ++ [')']) = none) :
    (reader dialect).IsSelfContained modes text where
  closesNothing := closesNothing
  unmixed _ _ read := .inr (keepsStart_and_names read).2
  endsOutside _ _ _ _ := refuses
  endsVerbose verbose := absurd verbose (Bool.eq_false_iff.mp notVerbose)
  isComplete verbose := absurd verbose (Bool.eq_false_iff.mp notVerbose)

/-- A text that can be read without a parenthesis after it, and not with one, is
alone. -/
theorem exists_alone (readable : ((reader dialect).read modes 0 text).isSome)
    (refuses : ((reader dialect).read modes 0 (text ++ [')'])).isNone) :
    ∃ reading, (reader dialect).Alone modes 0 text reading := by
  obtain ⟨reading, read⟩ := Option.isSome_iff_exists.mp readable
  exact ⟨reading, read, Option.isNone_iff_eq_none.mp refuses⟩

theorem step_backtracking {state next : State} {c : Char}
    (stepped : step .standard state c = some next) : step .backtracking state c = some next := by
  rw [step] at stepped ⊢
  cases phase : state.phase with
  | mark =>
      rw [phase] at stepped
      -- Only the group that looks ahead is in one dialect and not in the other.
      by_cases ahead : c = '='
      · rw [ahead] at stepped
        cases stepped
      · simpa [ahead] using stepped
  | _ => simpa only [phase] using stepped

/-- The backtracking dialect reads what the standard one reads, and as it does. -/
theorem run_backtracking {state final : State} (ran : run .standard state text = some final) :
    run .backtracking state text = some final := by
  induction text generalizing state with
  | nil => exact ran
  | cons c text inductionHypothesis =>
      rw [run_cons] at ran ⊢
      obtain ⟨next, stepped, ran⟩ := Option.bind_eq_some_iff.mp ran
      rw [step_backtracking stepped]
      exact inductionHypothesis ran

theorem alone_backtracking {opened : Nat} {reading : Reading}
    (alone : (reader .standard).Alone modes opened text reading) :
    (reader .backtracking).Alone modes opened text reading := by
  obtain ⟨top, ran, complete, same⟩ := alone_iff.mp alone
  exact alone_iff.mpr ⟨top, run_backtracking ran, complete, same⟩

end PatternAlgebra.Sample
