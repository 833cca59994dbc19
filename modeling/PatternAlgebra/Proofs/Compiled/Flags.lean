import PatternAlgebra.Proofs.Compiled.Directive
import PatternAlgebra.Proofs.Compiled.Sample

/-!
# Flag bits without a meaning

The two engines take the flags by different ways: the standard one beside the
text, the backtracking one as a directive in front of it.  Neither way carries a
bit without a meaning, so patterns are compiled alike with such bits and without
them, whatever the engines are.

There is one exception.  Where bits are set but none of them has a meaning, the
directive has no letters, and the backtracking engine refuses every text after
it.
-/

namespace PatternAlgebra

/-! ## Compiling -/

/-- The options are the same but for flag bits without a meaning. -/
structure Options.SameButUnknownBits (first second : Options) : Prop where
  known : first.flags.known = second.flags.known
  rest : { first with flags := second.flags } = second

namespace Options.SameButUnknownBits

variable {first second : Options} (same : first.SameButUnknownBits second) (text : String)

include same

theorem symm : second.SameButUnknownBits first where
  known := same.known.symm
  rest := by rw [← same.rest]

theorem engine : first.engine = second.engine :=
  (congrArg Options.engine same.rest :)

theorem anchoredText : anchoredText text first = anchoredText text second := by
  rw [PatternAlgebra.anchoredText, Flags.has_eq_of_known_eq same.known]
  exact congrArg (PatternAlgebra.anchoredText text) same.rest

theorem compileStandard [Engines] :
    compileStandard text first = compileStandard text second := by
  rw [PatternAlgebra.compileStandard, Flags.ofFlags_eq_of_known_eq same.known]
  exact congrArg (PatternAlgebra.compileStandard text) same.rest

theorem compileBacktracking [Engines]
    (alike : first.flags.IsMeaningless ↔ second.flags.IsMeaningless) :
    compileBacktracking text first = compileBacktracking text second := by
  rw [PatternAlgebra.compileBacktracking, Flags.directive_eq_of_known_eq same.known alike]
  exact congrArg (PatternAlgebra.compileBacktracking text) same.rest

end Options.SameButUnknownBits

/-! ## Without the backtracking engine -/

section

variable [engines : Engines]

/-- The backtracking engine refuses a directive without letters, whatever
follows. -/
def Engines.RefusesEmptyDirective (engines : Engines) : Prop :=
  ∀ settings text, engines.backtracking.compile settings ("(?)" ++ text) = .error ()

/-- No text is accepted after the directive of bits without a meaning. -/
theorem compileBacktracking_of_isMeaningless (refuses : engines.RefusesEmptyDirective)
    {options : Options} (meaningless : options.flags.IsMeaningless) (text : String) :
    compileBacktracking text options = .error .backtracking := by
  simp only [compileBacktracking, Flags.directive_of_isMeaningless meaningless, refuses _ text]

/-- What is left of a result without the backtracking engine. -/
def withoutBacktracking : Except CompileError Compiled → Except CompileError Compiled
  | .ok (.backtracking _) => .error .backtracking
  | result => result

theorem withoutBacktracking_eq_self_iff {result : Except CompileError Compiled} :
    withoutBacktracking result = result ↔
      ∀ compiled, result = .ok compiled → compiled.engine = .standard := by
  constructor
  · rintro unchanged compiled rfl
    cases compiled with
    | standard _ => rfl
    | backtracking _ => cases unchanged
  · intro standard
    cases result with
    | error _ => rfl
    | ok compiled =>
        cases compiled with
        | standard _ => rfl
        | backtracking _ => cases standard _ rfl

theorem withoutBacktracking_compileStandard (text : String) (options : Options) :
    withoutBacktracking (compileStandard text options) = compileStandard text options := by
  rw [compileStandard]
  split <;> rfl

theorem withoutBacktracking_compileBacktracking (text : String) (options : Options) :
    withoutBacktracking (compileBacktracking text options) = .error .backtracking := by
  simp only [compileBacktracking]
  split <;> rfl

namespace Pattern

variable (pattern : Pattern) {first second : Options}

/-- Where both sets of flags have a directive with letters, or both none, the
pattern is compiled alike. -/
theorem compileWith_eq_of_sameButUnknownBits (same : first.SameButUnknownBits second)
    (alike : first.flags.IsMeaningless ↔ second.flags.IsMeaningless) :
    pattern.compileWith first = pattern.compileWith second := by
  simp only [compileWith, compileText, compileEnclosed, same.engine, same.anchoredText,
    same.compileStandard, same.compileBacktracking _ alike]

/-- Where the first flags are bits without a meaning and the second ones are
not, the first options leave out what the backtracking engine makes. -/
theorem compileWith_eq_withoutBacktracking (refuses : engines.RefusesEmptyDirective)
    (same : first.SameButUnknownBits second) (meaningless : first.flags.IsMeaningless) :
    pattern.compileWith first = withoutBacktracking (pattern.compileWith second) := by
  simp only [compileWith, compileText, compileEnclosed, same.engine, same.anchoredText,
    same.compileStandard, compileBacktracking_of_isMeaningless refuses meaningless]
  generalize anchoredText pattern.text second = text
  cases second.engine with
  | standard => exact (withoutBacktracking_compileStandard text second).symm
  | backtracking => exact (withoutBacktracking_compileBacktracking text second).symm
  | auto =>
      dsimp only
      split
      next => exact (withoutBacktracking_compileBacktracking text second).symm
      next => exact (withoutBacktracking_compileStandard text second).symm

theorem compileWith_eq_iff_of_isMeaningless (refuses : engines.RefusesEmptyDirective)
    (same : first.SameButUnknownBits second) (meaningless : first.flags.IsMeaningless) :
    pattern.compileWith first = pattern.compileWith second ↔
      ∀ compiled, pattern.compileWith first = .ok compiled ∨
        pattern.compileWith second = .ok compiled → compiled.engine = .standard := by
  have refused := pattern.compileWith_eq_withoutBacktracking refuses same meaningless
  constructor
  · intro equal compiled made
    rw [equal, or_self] at made
    exact withoutBacktracking_eq_self_iff.mp (refused.symm.trans equal) compiled made
  · intro standard
    rw [refused]
    exact withoutBacktracking_eq_self_iff.mpr fun compiled made => standard compiled (.inr made)

/-- Options that are the same but for flag bits without a meaning compile a
pattern alike, unless one set of flags is nothing but such bits, the other one
is not, and the pattern is one for the backtracking engine.  That engine refuses
the pattern under the first of the two. -/
theorem compileWith_eq_iff_of_sameButUnknownBits (refuses : engines.RefusesEmptyDirective)
    (same : first.SameButUnknownBits second) :
    (pattern.compileWith first = pattern.compileWith second ↔
      ((first.flags.IsMeaningless ↔ second.flags.IsMeaningless) ∨
        ∀ compiled, pattern.compileWith first = .ok compiled ∨
          pattern.compileWith second = .ok compiled → compiled.engine = .standard)) ∧
    (first.flags.IsMeaningless →
      pattern.compileWith first = withoutBacktracking (pattern.compileWith second)) := by
  refine ⟨?_, pattern.compileWith_eq_withoutBacktracking refuses same⟩
  by_cases alike : first.flags.IsMeaningless ↔ second.flags.IsMeaningless
  · exact iff_of_true (pattern.compileWith_eq_of_sameButUnknownBits same alike) (.inl alike)
  rw [or_iff_right alike]
  by_cases meaningless : first.flags.IsMeaningless
  · exact pattern.compileWith_eq_iff_of_isMeaningless refuses same meaningless
  · have other : second.flags.IsMeaningless := (Classical.not_iff.mp alike).mp meaningless
    rw [eq_comm, pattern.compileWith_eq_iff_of_isMeaningless refuses same.symm other]
    simp only [or_comm]

end Pattern

end

/-- A bit without a meaning makes the directive `(?)`, and a pattern that looks
ahead no longer compiles. -/
theorem Pattern.compileWith_eq_iff_of_lookahead :
    let engines : Engines := Sample.engines
    let marked : Options := { flags := ⟨16⟩ }
    engines.RefusesEmptyDirective ∧ marked.SameButUnknownBits {} ∧ ∃ compiled,
      (Pattern.literal "a(?=b)").compileWith {} = .ok compiled ∧
      (Pattern.literal "a(?=b)").compileWith marked ≠ (Pattern.literal "a(?=b)").compileWith {} ∧
      (Pattern.literal "a(?=b)").compileWith marked = .error .backtracking := by
  intro engines marked
  have refuses : engines.RefusesEmptyDirective := by
    intro settings text
    apply (Sample.follows_engine .backtracking _ _).refuses
    rw [String.toList_append]
    rfl
  have same : marked.SameButUnknownBits {} := ⟨by decide, rfl⟩
  have meaningless : marked.flags.IsMeaningless := by decide
  obtain ⟨compiled, made, backtracking⟩ := Sample.exists_of_map_engine
    (show ((Pattern.literal "a(?=b)").compileWith {}).map Compiled.engine = .ok .backtracking
      from rfl)
  obtain ⟨equal_iff, refused⟩ :=
    (Pattern.literal "a(?=b)").compileWith_eq_iff_of_sameButUnknownBits refuses same
  refine ⟨refuses, same, compiled, made, fun equal => ?_, ?_⟩
  · rcases equal_iff.mp equal with alike | standard
    · exact absurd (alike.mp meaningless) (by decide)
    · cases backtracking.symm.trans (standard compiled (.inr made))
  · rw [refused meaningless, made]
    cases compiled with
    | standard _ => cases backtracking
    | backtracking _ => rfl

end PatternAlgebra
