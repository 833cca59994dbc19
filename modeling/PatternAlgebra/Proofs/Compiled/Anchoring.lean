import PatternAlgebra.Proofs.Compiled.Directive
import PatternAlgebra.Proofs.Compiled.Sample
import PatternAlgebra.Proofs.Pattern.Grouping

/-!
# Anchored patterns

An anchored pattern is the same pattern between the two ends of the haystack, as
long as its text keeps to itself: it closes nothing that it has not opened, it
does not hide the closing delimiter in a comment, and the line break that guards
against this is layout where it stands.
-/

namespace PatternAlgebra

variable {readers : Dialect → Reader} {options : Options} {text : String}

theorem toList_anchoredText (anchored : options.anchored = true) :
    (anchoredText text options).toList =
      Reader.betweenEnds (text.toList ++ Reader.guard (.ofFlags options.flags)) := by
  have guard : Reader.guard (.ofFlags options.flags) =
      if options.flags.has .ignoreWhitespace then ['\n'] else [] := rfl
  rw [anchoredText, if_pos anchored, guard]
  split <;> simp [Reader.betweenEnds, Reader.plainGroup, Reader.group]

/-- A text between the two ends does not begin with a brace. -/
theorem Reader.IgnoresLayout.not_beginsWithBrace {reader : Reader} (layout : reader.IgnoresLayout)
    (modes : Modes) (inside : List Char) :
    ¬ reader.BeginsWithBrace modes (Reader.betweenEnds inside) := by
  have backslash : reader.isLayout '\\' = false := layout.isMetacharacter (by decide)
  simp [Reader.BeginsWithBrace, Reader.betweenEnds, Reader.afterLayout, backslash]

/-- What an engine reads in an anchored text is what it reads in the text, between
the two ends. -/
theorem reading?_betweenEnds (groups : ∀ dialect, (readers dialect).ReadsGroups)
    (assertions : ∀ dialect, (readers dialect).ReadsAssertions)
    (layout : ∀ dialect, (readers dialect).IgnoresLayout)
    (directives : (readers .backtracking).ReadsDirectives) {dialect : Dialect} {inside : List Char}
    (contained : (readers dialect).IsSelfContained (.ofFlags options.flags) inside)
    (noBrace : dialect = .backtracking → options.flags ≠ .none →
      ¬ (readers .backtracking).BeginsWithBrace (.ofFlags options.flags) inside) :
    reading? readers options dialect
        (Reader.betweenEnds (inside ++ Reader.guard (.ofFlags options.flags))) =
      (reading? readers options dialect inside).map
        (·.betweenEnds (.ofFlags options.flags)) := by
  cases dialect with
  | standard =>
      exact contained.read_betweenEnds (groups .standard) (assertions .standard) (layout .standard)
  | backtracking =>
      by_cases meaningless : options.flags.IsMeaningless
      · rw [reading?_of_isMeaningless directives meaningless,
          reading?_of_isMeaningless directives meaningless]
        rfl
      · rw [reading?_backtracking directives meaningless (noBrace rfl),
          reading?_backtracking directives meaningless
            fun _ => (layout .backtracking).not_beginsWithBrace _ _]
        exact contained.read_betweenEnds (groups .backtracking) (assertions .backtracking)
          (layout .backtracking)

/-- Where the text of a pattern keeps to itself and no limit is in the way, the
pattern compiles anchored just when it compiles, with the same engine.  An
anchored search that is not given up finds the whole haystack where a match of
the pattern goes from one end to the other, and nothing elsewhere, unless the
pattern moves the start of its matches. -/
theorem Pattern.find_compileWith_anchored [engines : Engines] (follow : engines.Follow readers)
    (groups : ∀ dialect, (readers dialect).ReadsGroups)
    (assertions : ∀ dialect, (readers dialect).ReadsAssertions)
    (layout : ∀ dialect, (readers dialect).IgnoresLayout)
    (directives : (readers .backtracking).ReadsDirectives) (pattern : Pattern) (options : Options)
    (contained : ∀ dialect ∈ options.dialects,
      (readers dialect).IsSelfContained (.ofFlags options.flags) pattern.chars)
    (noBrace : .backtracking ∈ options.dialects → options.flags ≠ .none →
      ¬ (readers .backtracking).BeginsWithBrace (.ofFlags options.flags) pattern.chars)
    (room : ∀ anchored : Bool,
      HasRoom readers options (anchoredText pattern.text { options with anchored })) :
    ((∃ whole, pattern.compileWith { options with anchored := true } = .ok whole) ↔
      ∃ plain, pattern.compileWith { options with anchored := false } = .ok plain) ∧
    ∀ whole plain, pattern.compileWith { options with anchored := true } = .ok whole →
      pattern.compileWith { options with anchored := false } = .ok plain →
      whole.engine = plain.engine ∧ ∃ reading,
        reading? readers options plain.engine pattern.chars = some reading ∧
        plain.Answers reading ∧ (reading.KeepsStart → ∀ haystack found,
          whole.find haystack = .ok found →
          found = if reading.MatchesWhole haystack.toList then some (0, haystack.utf8ByteSize)
            else none) := by
  have alike : ∀ dialect ∈ options.dialects,
      Option.Rel (fun whole plain => whole = plain.betweenEnds (.ofFlags options.flags))
        (reading? readers options dialect
          (anchoredText pattern.text { options with anchored := true }).toList)
        (reading? readers options dialect pattern.chars) := by
    intro dialect asked
    rw [toList_anchoredText rfl]
    have read := reading?_betweenEnds groups assertions layout directives (contained dialect asked)
      fun backtracking => noBrace (backtracking ▸ asked)
    rw [show (Pattern.text pattern).toList = pattern.chars from rfl, read]
    cases reading? readers options dialect pattern.chars with
    | none => exact .none
    | some reading => exact .some rfl
  have fate := follow.sameFate_of_readings (room true) (room false) alike
  -- Beyond the text that is enclosed, compiling does not ask for the ends.
  have whole : pattern.compileWith { options with anchored := true } =
      compileEnclosed (anchoredText pattern.text { options with anchored := true }) options := rfl
  have plain : pattern.compileWith { options with anchored := false } =
      compileEnclosed (anchoredText pattern.text { options with anchored := false }) options := rfl
  rw [whole, plain]
  generalize compileEnclosed (anchoredText _ { options with anchored := true }) options = one,
    compileEnclosed (anchoredText _ { options with anchored := false }) options = two at fate ⊢
  cases fate with
  | error reason => exact ⟨⟨nofun, nofun⟩, nofun⟩
  | ok alike =>
      refine ⟨⟨fun _ => ⟨_, rfl⟩, fun _ => ⟨_, rfl⟩⟩, ?_⟩
      rintro whole plain ⟨⟩ ⟨⟩
      obtain ⟨engine, _, reading, rfl, -, wholeAnswers, read, plainAnswers⟩ := alike
      refine ⟨engine, reading, read, plainAnswers, fun keepsStart haystack found answered => ?_⟩
      rw [wholeAnswers.find haystack found answered, Reading.find_betweenEnds keepsStart,
        String.ofList_toList]

/-- Only between the ends a shorter branch does not come before a longer one. -/
theorem Pattern.find_anchored_of_shorter_branch :
    let engines : Engines := Sample.engines
    engines.Follow Sample.reader ∧ ∃ whole plain,
      (literal "a|ab").compileWith { anchored := true } = .ok whole ∧
      (literal "a|ab").compileWith { anchored := false } = .ok plain ∧
      plain.find "ab" = .ok (some (0, 1)) ∧ whole.find "ab" = .ok (some (0, 2)) := by
  intro engines
  have contained (dialect : Dialect) :
      (Sample.reader dialect).IsSelfContained .plain (literal "a|ab").chars := by
    cases dialect <;>
      exact Sample.isSelfContained rfl (Sample.closesNothing_of_read (by decide)) (by rfl)
  obtain ⟨compiles, law⟩ := find_compileWith_anchored Sample.follow Sample.readsGroups
    Sample.readsAssertions Sample.ignoresLayout (Sample.readsDirectives _) (literal "a|ab") {}
    (fun dialect _ => contained dialect) (fun _ flagged => absurd rfl flagged)
    fun _ => Sample.hasRoom _ _
  obtain ⟨plain, made, standard⟩ := Sample.exists_of_map_engine
    (show ((literal "a|ab").compileWith { anchored := false }).map Compiled.engine = .ok .standard
      from rfl)
  obtain ⟨whole, wholeMade⟩ := compiles.mpr ⟨plain, made⟩
  obtain ⟨engine, reading, read, answers, finds⟩ := law whole plain wholeMade made
  obtain ⟨first, plainFound⟩ := Sample.exists_find plain "ab"
  obtain ⟨second, wholeFound⟩ := Sample.exists_find whole "ab"
  have evaluated : (reading? Sample.reader {} .standard (literal "a|ab").chars).map
      (fun reading => (decide (reading.MatchesWhole "ab".toList), reading.find "ab".toList)) =
        some (true, some (0, 1)) := by decide
  rw [standard] at read
  rw [read, Option.map_some, Option.some_inj, Prod.mk.injEq, decide_eq_true_eq] at evaluated
  refine ⟨Sample.follow, whole, plain, wholeMade, made, ?_, ?_⟩
  · rw [plainFound, answers.find _ _ plainFound, evaluated.2]
  · rw [wholeFound, finds (Sample.keepsStart_and_names read).1 _ _ wholeFound, if_pos evaluated.1]
    rfl

end PatternAlgebra
