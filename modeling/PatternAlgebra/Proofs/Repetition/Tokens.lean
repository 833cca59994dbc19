import PatternAlgebra.Proofs.Repetition.Suffix

/-!
# Suffixes among the tokens

A repetition suffix shows at the end of the token list of a text: a plain sign,
or the plain characters of bounds in braces that are no argument of the escape
before them.  A token list can be cut between any two tokens, and both parts are
token lists again, so the suffixes that are found by looking back over the
characters are those that reading from the left leaves at the end.
-/

namespace PatternAlgebra.Text

open Token

/-! ## Cutting a token list -/

/-- A text is known from its tokens. -/
theorem eq_flatMap_of_lex {text : List Char} {tokens : List Token} (read : lex text = tokens) :
    text = tokens.flatMap chars :=
  read ▸ (flatMap_chars_lex text).symm

/-- Where the tokens of a text are cut in two, so is the text, and no backslash
dangles at a cut that something follows. -/
theorem exists_of_lex_eq_append {text : List Char} {first second : List Token}
    (cut : lex text = first ++ second) (some : second ≠ []) :
    ∃ before, lex before = first ∧ IsComplete before ∧
      text = before ++ second.flatMap chars := by
  induction text using lex_induction generalizing first with
  | nil => exact absurd (List.append_eq_nil_iff.mp cut.symm).2 some
  | dangling =>
      cases first with
      | nil => exact ⟨[], rfl, isComplete_nil, eq_flatMap_of_lex cut⟩
      | cons token first =>
          have rest := (List.cons.inj cut).2
          exact absurd (List.append_eq_nil_iff.mp rest.symm).2 some
  | escape c rest inductionHypothesis =>
      cases first with
      | nil => exact ⟨[], rfl, isComplete_nil, eq_flatMap_of_lex cut⟩
      | cons token first =>
          obtain ⟨rfl, rest⟩ := List.cons.inj cut
          obtain ⟨before, rfl, complete, rfl⟩ := inductionHypothesis rest
          exact ⟨'\\' :: c :: before, rfl, isComplete_escape.mpr complete, rfl⟩
  | plain c rest notBackslash inductionHypothesis =>
      cases first with
      | nil => exact ⟨[], rfl, isComplete_nil, eq_flatMap_of_lex cut⟩
      | cons token first =>
          rw [lex_plain notBackslash] at cut
          obtain ⟨rfl, rest⟩ := List.cons.inj cut
          obtain ⟨before, rfl, complete, rfl⟩ := inductionHypothesis rest
          exact ⟨c :: before, lex_plain notBackslash before,
            (isComplete_plain notBackslash).mpr complete, rfl⟩

/-- One plain token at the end is one character at the end of a complete
text. -/
theorem exists_lex_eq_concat_iff {text : List Char} {c : Char} (notBackslash : c ≠ '\\')
    {property : List Token → Prop} :
    (∃ before, lex text = before ++ [plain c] ∧ property before) ↔
      ∃ before, text = before ++ [c] ∧ IsComplete before ∧ property (lex before) := by
  constructor
  · rintro ⟨_, cut, holds⟩
    obtain ⟨before, rfl, complete, rfl⟩ := exists_of_lex_eq_append cut (List.cons_ne_nil _ _)
    exact ⟨before, rfl, complete, holds⟩
  · rintro ⟨before, rfl, complete, holds⟩
    exact ⟨lex before, lex_append_plain complete notBackslash, holds⟩

/-- An escape that takes an argument is the last token. -/
theorem endsInArgumentEscape_iff_getLast? {text : List Char} :
    EndsInArgumentEscape text ↔
      ∃ letter ∈ argumentLetters, (lex text).getLast? = some (.escape letter) := by
  constructor
  · rintro ⟨before, letter, isLetter, complete, rfl⟩
    refine ⟨letter, isLetter, ?_⟩
    rw [lex_append complete]
    simp
  · rintro ⟨letter, isLetter, last⟩
    obtain ⟨first, cut⟩ := List.getLast?_eq_some_iff.mp last
    obtain ⟨before, -, complete, rfl⟩ := exists_of_lex_eq_append cut (List.cons_ne_nil _ _)
    exact ⟨before, letter, isLetter, complete, rfl⟩

/-! ## Suffixes -/

/-- Bounds in braces, each character a token of its own. -/
def bracedTokens (inner : List Char) : List Token :=
  plain '{' :: (inner.map plain ++ [plain '}'])

theorem flatMap_chars_bracedTokens (inner : List Char) :
    (bracedTokens inner).flatMap chars = '{' :: (inner ++ ['}']) := by
  simp [bracedTokens, chars, List.flatMap_map]

theorem lex_braced {inner : List Char} (bounds : IsBounds inner) :
    lex ('{' :: (inner ++ ['}'])) = bracedTokens inner := by
  have noBackslash : '\\' ∉ '{' :: (inner ++ ['}']) := by
    have inside := bounds.not_mem (c := '\\') rfl (by decide)
    simp [inside]
  rw [lex_eq_map_plain noBackslash]
  simp [bracedTokens]

/-- The tokens end in a repetition suffix: a sign, or bounds in braces that are
not the argument of an escape. -/
inductive RepetitionTokens : List Token → Prop where
  | sign {before : List Token} {c : Char} : c ∈ ['?', '*', '+'] →
      RepetitionTokens (before ++ [plain c])
  | bounds {before : List Token} {inner : List Char} : IsBounds inner →
      (∀ letter ∈ argumentLetters, before.getLast? ≠ some (.escape letter)) →
      RepetitionTokens (before ++ bracedTokens inner)

/-- A text ends in a repetition suffix if its tokens do. -/
theorem repetitionTokens_lex_iff {text : List Char} :
    RepetitionTokens (lex text) ↔ EndsInRepetition text := by
  constructor
  · intro suffix
    generalize cut : lex text = tokens at suffix
    cases suffix with
    | sign isSign =>
        obtain ⟨before, -, complete, rfl⟩ :=
          exists_of_lex_eq_append cut (List.cons_ne_nil _ _)
        exact .sign isSign complete
    | bounds isBounds noArgument =>
        obtain ⟨before, rfl, complete, rfl⟩ :=
          exists_of_lex_eq_append cut (List.cons_ne_nil _ _)
        rw [flatMap_chars_bracedTokens]
        refine .bounds complete (fun argument => ?_) isBounds
        obtain ⟨letter, isLetter, last⟩ := endsInArgumentEscape_iff_getLast?.mp argument
        exact noArgument letter isLetter last
  · intro suffix
    cases suffix with
    | @sign before c isSign complete =>
        have notBackslash : c ≠ '\\' := by
          rintro rfl
          simp at isSign
        rw [lex_append_plain complete notBackslash]
        exact .sign isSign
    | @bounds before inner complete noArgument isBounds =>
        rw [lex_append complete, lex_braced isBounds]
        refine .bounds isBounds fun letter isLetter last => noArgument ?_
        exact endsInArgumentEscape_iff_getLast?.mpr ⟨letter, isLetter, last⟩

/-- Looking back over the characters of a text finds a repetition suffix if its
last tokens are one, and a lazy one if the last token is a question mark and the
tokens before it are those of a repetition. -/
theorem isRepeating_iff_and_isLazy_iff_lex (text : String) :
    (isRepeating text = true ↔ RepetitionTokens (lex text.toList)) ∧
      (isLazy text = true ↔ ∃ before, lex text.toList = before ++ [plain '?'] ∧
        isRepeating (String.ofList (before.flatMap chars)) = true) := by
  constructor
  · rw [isRepeating_iff, repetitionTokens_lex_iff]
  · rw [isLazy_iff, exists_lex_eq_concat_iff (by decide)]
    simp only [flatMap_chars_lex, isRepeating_iff, String.toList_ofList]
    rfl

/-- The backslash before the letter is itself escaped, or it is not. -/
example : isRepeating "\\\\x{3}" = true ∧ isRepeating "\\x{3}" = false := by decide

end PatternAlgebra.Text
