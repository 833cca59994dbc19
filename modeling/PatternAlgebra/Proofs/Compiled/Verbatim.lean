import PatternAlgebra.Proofs.Compiled.Anchoring
import PatternAlgebra.Proofs.Compiled.Sample
import PatternAlgebra.Proofs.Pattern.Escaped

/-!
# Escaped patterns

An escaped text stands for its characters one after another, under any flags that
have a meaning, and with any engine.  Under the flag that ignores layout it stands
for fewer of them: a blank has no meaning of its own, so it is not escaped and is
no longer part of what is matched.
-/

namespace PatternAlgebra

open Reader Text

/-! ## Words -/

namespace Reader

variable {reader : Reader} {modes : Modes} {opened : Nat} {text letters haystack : List Char}

/-- What a text comes to in a pattern. -/
def word (reader : Reader) (modes : Modes) (text : List Char) : List Char :=
  text.filter fun c => !(modes.verbose && reader.isLayout c)

theorem word_concat (text : List Char) (c : Char) : reader.word modes (text ++ [c]) =
    if modes.verbose && reader.isLayout c then reader.word modes text
    else reader.word modes text ++ [c] := by
  rw [word, List.filter_append, List.filter_singleton, ← word]
  cases modes.verbose && reader.isLayout c <;> simp

theorem word_eq_self_iff : reader.word modes text = text ↔
    (modes.verbose = true → ∀ c ∈ text, reader.isLayout c = false) := by
  rw [word, List.filter_eq_self]
  cases modes.verbose <;> simp

/-- The haystack has these letters, up to case if it is ignored. -/
def Spells (reader : Reader) (modes : Modes) (letters haystack : List Char) : Prop :=
  List.Forall₂ (fun c d => reader.test modes c d = true) letters haystack

theorem spells_iff_eq (exact : modes.fold = false) :
    reader.Spells modes letters haystack ↔ haystack = letters := by
  have test (c d : Char) : reader.test modes c d = true ↔ c = d := by
    rw [Reader.test, exact, if_neg Bool.false_ne_true, beq_iff_eq, eq_comm]
  simp only [Spells, test, List.forall₂_eq_eq_eq, eq_comm]

theorem test_of_fold (folds : modes.fold = true) (c : Char) :
    reader.test modes c = reader.alike c :=
  if_pos folds

theorem spells_iff_toLower (folds : modes.fold = true) (foldsCase : reader.FoldsCase)
    (ascii : ∀ c ∈ letters ++ haystack, c.toNat < 128) :
    reader.Spells modes letters haystack ↔
      haystack.map Char.toLower = letters.map Char.toLower := by
  have lower : reader.Spells modes letters haystack ↔
      List.Forall₂ (fun c d => c.toLower = d.toLower) letters haystack := by
    rw [Spells]
    simp only [test_of_fold folds]
    induction letters generalizing haystack with
    | nil => simp only [List.forall₂_nil_left_iff]
    | cons c letters inductionHypothesis =>
        cases haystack with
        | nil => simp
        | cons d haystack =>
            have others : ∀ e ∈ letters ++ haystack, e.toNat < 128 := fun e member =>
              ascii e (by simp only [List.mem_append, List.mem_cons] at member ⊢; tauto)
            rw [List.forall₂_cons, List.forall₂_cons, inductionHypothesis others,
              foldsCase.ascii c d (ascii c (by simp)) (ascii d (by simp))]
  rw [lower, eq_comm, ← List.forall₂_eq_eq_eq, List.forall₂_map_left_iff,
    List.forall₂_map_right_iff]

theorem FoldsCase.test_itself (foldsCase : reader.FoldsCase) (c : Char) :
    reader.test modes c c = true := by
  rw [Reader.test]
  split
  · exact foldsCase.itself c
  · exact beq_self_eq_true c

/-- A text is spelled by itself if nothing of it is layout. -/
theorem FoldsCase.spells_word_iff (foldsCase : reader.FoldsCase) :
    reader.Spells modes (reader.word modes text) text ↔
      (modes.verbose = true → ∀ c ∈ text, reader.isLayout c = false) := by
  rw [← word_eq_self_iff]
  constructor
  · exact fun spells =>
      List.filter_eq_self.mpr (List.length_filter_eq_length_iff.mp spells.length_eq)
  · intro same
    rw [same]
    exact List.forall₂_same.mpr fun c _ => foldsCase.test_itself c

/-! ## What is read -/

/-- The letters of a text in a pattern, one after another. -/
def spelling (reader : Reader) (modes : Modes) (text : List Char) : Reading :=
  .spell modes ((reader.word modes text).map (reader.test modes))

/-- Letters name nothing, and leave the flags as they are. -/
theorem names_and_modes_spelling :
    (reader.spelling modes text).names = [] ∧ (reader.spelling modes text).modes = modes := by
  rw [spelling]
  induction (reader.word modes text).map (reader.test modes) using List.reverseRecOn with
  | nil => exact ⟨rfl, rfl⟩
  | append_singleton tests test inductionHypothesis =>
      rw [Reading.spell_concat]
      exact inductionHypothesis

theorem matchesWhole_spelling_iff : (reader.spelling modes text).MatchesWhole haystack ↔
    reader.Spells modes (reader.word modes text) haystack := by
  rw [spelling, Reading.matchesWhole_spell_iff, Reading.Passes, List.forall₂_map_left_iff, Spells]

theorem escape_concat (text : List Char) (c : Char) :
    escape (text ++ [c]) = escape text ++ escapeChar c := by
  rw [escape, List.flatMap_append, List.flatMap_singleton, ← escape]

/-- An escaped text is read as its word, letter by letter. -/
theorem ReadsLiterals.read_escape (literals : reader.ReadsLiterals) (layout : reader.IgnoresLayout)
    (text : List Char) :
    reader.read modes opened (escape text) = some (reader.spelling modes text) := by
  induction text using List.reverseRecOn with
  | nil => exact literals.nothing
  | append_singleton text c inductionHypothesis =>
      rw [spelling, escape_concat, word_concat, escapeChar]
      cases meaning : isMetacharacter c with
      | true =>
          rw [if_pos rfl, literals.escaped meaning, inductionHypothesis, Option.map_some,
            layout.isMetacharacter meaning, Bool.and_false, if_neg Bool.false_ne_true,
            List.map_append, List.map_singleton, Reading.spell_concat, spelling]
      | false =>
          rw [if_neg Bool.false_ne_true, literals.character meaning, inductionHypothesis,
            Option.map_some]
          split
          · rfl
          · rw [List.map_append, List.map_singleton, Reading.spell_concat, spelling]

/-- Whatever the flags, an escaped text is alone. -/
theorem ReadsLiterals.alone_escape (literals : reader.ReadsLiterals) (layout : reader.IgnoresLayout)
    (text : List Char) :
    reader.Alone modes opened (escape text ++ guard modes) (reader.spelling modes text) := by
  have read : reader.read modes opened (escape text) = _ := literals.read_escape layout text
  rw [guard]
  split
  next verbose => exact layout.lineBreak read (names_and_modes_spelling.2 ▸ verbose)
  next =>
    rw [List.append_nil]
    exact ⟨read, literals.closing⟩

/-! ## Answers -/

/-- An answer to the question whether the haystack is the text, given by what is
left of the text in a pattern: the word as it is, or the word up to case, which for
letters of ASCII comes to the same letters.  The text itself is such a haystack if
nothing of it is layout. -/
structure AnswersVerbatim (reader : Reader) (modes : Modes) (text haystack : List Char)
    (answer : Bool) : Prop where
  exact : modes.fold = false → (answer = true ↔ haystack = reader.word modes text)
  folded : modes.fold = true → (answer = true ↔
    List.Forall₂ (fun c d => reader.alike c d = true) (reader.word modes text) haystack)
  ascii : modes.fold = true → (∀ c ∈ text ++ haystack, c.toNat < 128) →
    (answer = true ↔ haystack.map Char.toLower = (reader.word modes text).map Char.toLower)
  itself : haystack = text →
    (answer = true ↔ (modes.verbose = true → ∀ c ∈ text, reader.isLayout c = false))

theorem FoldsCase.answersVerbatim (foldsCase : reader.FoldsCase) {answer : Bool}
    (spells : answer = true ↔ reader.Spells modes (reader.word modes text) haystack) :
    reader.AnswersVerbatim modes text haystack answer where
  exact unfolded := spells.trans (spells_iff_eq unfolded)
  folded folds := by
    rw [spells, Spells]
    simp only [test_of_fold folds]
  ascii folds small := by
    refine spells.trans (spells_iff_toLower folds foldsCase fun c member => small c ?_)
    simp only [List.mem_append] at member ⊢
    exact member.imp_left fun kept => List.mem_of_mem_filter kept
  itself same := by
    rw [spells, same]
    exact foldsCase.spells_word_iff

end Reader

/-! ## Compiling -/

namespace Pattern

variable {readers : Dialect → Reader}

/-- An escaped text that is anchored compiles under all flags with a meaning, where
no limit is in the way, with the first engine that is asked.  It matches the text,
up to case if that is ignored, without what lays a verbose pattern out.  So it
matches the text as it stands exactly if the pattern is not verbose or the text has
no layout. -/
theorem compileWith_escaped_anchored [engines : Engines] (follow : engines.Follow readers)
    (groups : ∀ dialect, (readers dialect).ReadsGroups)
    (assertions : ∀ dialect, (readers dialect).ReadsAssertions)
    (layout : ∀ dialect, (readers dialect).IgnoresLayout)
    (directives : (readers .backtracking).ReadsDirectives)
    (literals : ∀ dialect, (readers dialect).ReadsLiterals)
    (foldsCase : ∀ dialect, (readers dialect).FoldsCase) (text : String) {options : Options}
    (anchored : options.anchored = true) (meaningful : ¬ options.flags.IsMeaningless)
    (room : HasRoom readers options (anchoredText (escaped text).text options)) :
    ∃ compiled, (escaped text).compileWith options = .ok compiled ∧
      options.dialects.head? = some compiled.engine ∧
      ∀ haystack answer, compiled.isMatch haystack = .ok answer →
        (readers compiled.engine).AnswersVerbatim (.ofFlags options.flags) text.toList
          haystack.toList answer := by
  have inside : (anchoredText (escaped text).text options).toList =
      betweenEnds (escape text.toList ++ guard (.ofFlags options.flags)) := by
    rw [toList_anchoredText anchored, show (escaped text).text.toList = _ from chars_escaped text]
  have read (dialect : Dialect) :
      reading? readers options dialect (anchoredText (escaped text).text options).toList =
        some (((readers dialect).spelling (.ofFlags options.flags) text.toList).betweenEnds
          (.ofFlags options.flags)) := by
    rw [inside]
    have whole : (readers dialect).read (.ofFlags options.flags) 0 _ = _ :=
      (assertions dialect).read_betweenEnds (groups dialect)
        ((literals dialect).alone_escape (layout dialect) text.toList)
        (.inr names_and_modes_spelling.1)
    cases dialect with
    | standard => exact whole
    | backtracking =>
        rw [reading?_backtracking directives meaningful
          fun _ => (layout .backtracking).not_beginsWithBrace _ _]
        exact whole
  obtain ⟨dialect, first⟩ : ∃ dialect, options.dialects.head? = some dialect := by
    rcases options.dialects_cases with only | only | both
    · exact ⟨_, congrArg List.head? only⟩
    · exact ⟨_, congrArg List.head? only⟩
    · exact ⟨_, congrArg List.head? both⟩
  obtain ⟨compiled, made, rfl, answers⟩ :=
    follow.exists_compileEnclosed room (.of_head? first (read dialect))
  refine ⟨compiled, made, first, fun haystack answer answered => ?_⟩
  apply (foldsCase _).answersVerbatim
  rw [answers.isMatch haystack answer answered, Reading.isSome_search_betweenEnds,
    matchesWhole_spelling_iff]

/-- A blank of the text is lost in a verbose pattern. -/
theorem compileWith_escaped_anchored_of_blank :
    let engines : Engines := Sample.engines
    let options : Options := { flags := ⟨9⟩, anchored := true }
    engines.Follow Sample.reader ∧ ¬ options.flags.IsMeaningless ∧ ∃ compiled,
      (escaped "a b#").compileWith options = .ok compiled ∧
      compiled.isMatch "AB#" = .ok true ∧ compiled.isMatch "a b#" = .ok false := by
  intro engines options
  have meaningful : ¬ options.flags.IsMeaningless := by decide
  obtain ⟨compiled, made, first, law⟩ := compileWith_escaped_anchored Sample.follow
    Sample.readsGroups Sample.readsAssertions Sample.ignoresLayout (Sample.readsDirectives _)
    Sample.readsLiterals Sample.foldsCase "a b#" (show options.anchored = true from rfl)
    meaningful (Sample.hasRoom _ _)
  obtain ⟨folded, foldedAnswer⟩ := Sample.exists_isMatch compiled "AB#"
  obtain ⟨itself, itselfAnswer⟩ := Sample.exists_isMatch compiled "a b#"
  obtain standard : .standard = compiled.engine := Option.some.inj first
  rw [← standard] at law
  have spelled : folded = true := by
    refine ((law _ _ foldedAnswer).ascii (by decide) ?_).mpr (by decide)
    rw [← List.forall_iff_forall_mem]
    decide
  have lost : ¬ itself = true := by
    rw [(law _ _ itselfAnswer).itself rfl]
    intro noLayout
    cases noLayout (by decide) ' ' (by decide)
  refine ⟨Sample.follow, meaningful, compiled, made, ?_, ?_⟩
  · rw [foldedAnswer, spelled]
  · rw [itselfAnswer, Bool.eq_false_iff.mpr lost]

end Pattern

end PatternAlgebra
