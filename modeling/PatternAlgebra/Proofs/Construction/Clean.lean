import PatternAlgebra.Proofs.Construction.Run
import PatternAlgebra.Proofs.Construction.Transform
import PatternAlgebra.Proofs.Nesting.Clean
import PatternAlgebra.Proofs.Pattern.CharacterSet

/-!
# Constructions of clean texts

From clean raw texts every construction produces clean texts, and each call
produces a text of the shape that belongs to it.  Escaped texts and the
members of sets need not be clean.
-/

namespace PatternAlgebra

open Text

/-! ## Cleanliness of the parts -/

namespace Text

/-- A text that neither opens nor closes anything can follow a clean text. -/
theorem clean_append_noDelimiter {text suffix : List Char} (clean : Clean text)
    (nonempty : text ≠ []) (noDelimiter : ∀ c ∈ suffix, isDelimiter c = false) :
    Clean (text ++ suffix) := by
  apply clean.append_suffix nonempty (balanced_of_noDelimiter noDelimiter)
  exact hasFreshGroups_of_groupTails_eq_nil (groupTails_of_noDelimiter noDelimiter)

theorem clean_escape_pair (c : Char) : Clean ['\\', c] :=
  clean_of_groupTails_eq_nil (balanced_escape c) (by simp) (groupTails_escape c [])

theorem groupTails_escapeChar (c : Char) : groupTails (escapeChar c) = [] := by
  unfold escapeChar
  split_ifs with metacharacter
  · exact groupTails_escape c []
  · apply groupTails_of_not_mem
    rw [List.mem_singleton]
    rintro rfl
    exact metacharacter rfl

theorem clean_escapeChar (c : Char) : Clean (escapeChar c) := by
  have noTails := groupTails_escapeChar c
  unfold escapeChar at noTails ⊢
  split_ifs at noTails ⊢ with metacharacter
  · exact clean_escape_pair c
  · have noDelimiter : isDelimiter c = false :=
      isDelimiter_eq_false_of (fun d => ¬ isMetacharacter d = true) metacharacter (by decide)
    have noQuestion : c ≠ '?' := by
      rintro rfl
      exact metacharacter rfl
    have balanced : Balanced [c] := balanced_of_noDelimiter (by simpa using noDelimiter)
    exact clean_of_groupTails_eq_nil balanced (by simpa using noQuestion) noTails

/-- An escaped text opens no group. -/
theorem groupTails_escape_text (text : List Char) : groupTails (escape text) = [] := by
  induction text with
  | nil => exact groupTails_nil
  | cons c rest inductionHypothesis =>
      change groupTails (escapeChar c ++ escape rest) = []
      rw [groupTails_append (clean_escapeChar c).balanced, groupTails_escapeChar,
        inductionHypothesis]
      rfl

theorem clean_escape (text : List Char) : Clean (escape text) := by
  induction text with
  | nil => exact clean_nil
  | cons c rest inductionHypothesis => exact (clean_escapeChar c).append inductionHypothesis

theorem peels_clean : Peels Clean := by
  intro opening body _ fits balanced enclosed
  exact enclosed.of_enclose balanced fits

theorem clean_atom {text : List Char} (clean : Clean text) : Clean (atom text) := by
  unfold atom
  split_ifs
  · exact clean
  · exact (peels_clean.core clean).enclose Opening.isValid_plain

/-- An atom is not empty. -/
theorem atom_ne_nil (text : List Char) : atom text ≠ [] := by
  unfold atom
  split_ifs with isAtom
  · rintro rfl
    cases isAtom
  · simp [Opening.enclose, parenthesized]

/-- A bar between two clean arms is no question mark. -/
theorem clean_arms {first second : List Char} (firstClean : Clean first)
    (secondClean : Clean second) : Clean (arm first ++ '|' :: arm second) := by
  have bar : Clean ['|'] := by decide
  exact (peels_clean.arm firstClean).append (bar.append (peels_clean.arm secondClean))

end Text

theorem Constant.clean_text (constant : Constant) : Clean constant.text.toList := by
  cases constant <;> decide

/-! ## Cleanliness of results -/

/-- The text of the pattern is clean. -/
def Pattern.IsClean (pattern : Pattern) : Prop :=
  Clean pattern.chars

theorem Pattern.isClean_literal {text : String} (clean : Clean text.toList) :
    (Pattern.literal text).IsClean := by
  rwa [IsClean, chars_literal]

theorem Pattern.clean_atomText {member : List Char} (single : isSingleChar member = true) :
    Clean (atomText member) := by
  cases Shape.covers_of_isSingleChar single with
  | character c => exact clean_escapeChar c
  | escape c => exact clean_escape_pair c

theorem Pattern.groupTails_atomText {member : List Char} (single : isSingleChar member = true) :
    groupTails (atomText member) = [] := by
  cases Shape.covers_of_isSingleChar single with
  | character c => exact groupTails_escapeChar c
  | escape c => exact groupTails_escape c []

theorem Pattern.isClean_anyOf {items : List Operand} {set : Pattern}
    (result : anyOf items = .ok set) : set.IsClean := by
  obtain ⟨_, ⟨item, _, _, single, setChars⟩ | ⟨_, isClass⟩⟩ := anyOf_eq_ok result
  · rw [IsClean, setChars]
    exact clean_atomText single
  · exact isClass.clean

/-- Every operation on one pattern keeps its text clean. -/
theorem Transform.Rewrites.clean {operation : Transform} {text after : List Char}
    {names afterNames : List String} (rewrites : operation.Rewrites text names after afterNames)
    (clean : Clean text) : Clean after := by
  cases rewrites with
  | toCaptureGroup => exact (peels_clean.core clean).enclose Opening.isValid_capture
  | toNonCaptureGroup => exact clean_atom clean
  | toNamedCaptureGroup isName _ =>
      exact (peels_clean.core clean).enclose (Opening.isValid_named isName)
  | toLookaround side => exact clean.enclose (Opening.isValid_look side)
  | quantify _ ordered =>
      have suffix := Quantifier.isQuantifier_suffix ordered
      exact clean_append_noDelimiter (clean_atom clean) (atom_ne_nil text)
        suffix.isDelimiter_eq_false
  | lazily repeating _ =>
      exact clean_append_noDelimiter clean repeating.ne_nil
        IsQuantifier.optional.isDelimiter_eq_false
  | append tail => exact clean.append tail.clean_text

/-- Every call keeps all texts clean. -/
theorem Call.isClean_run {results : Results} {call : Call} {pattern : Pattern}
    (clean : results.All Pattern.IsClean) (raw : call.HasTexts Clean fun _ => True)
    (result : call.run results = .ok pattern) : pattern.IsClean := by
  have literal : ∀ text : String, Clean text.toList → (Pattern.literal text).IsClean :=
    fun _ => Pattern.isClean_literal
  cases makes_of_run result with
  | empty => exact clean_nil
  | literal text => exact literal text raw
  | escaped text => exact Pattern.isClean_literal (by simpa using clean_escape text.toList)
  | constant value => exact literal value.text value.clean_text
  | operand found => exact clean.operand raw literal found
  | anyOf _ made => exact Pattern.isClean_anyOf made
  | noneOf _ made => exact (Pattern.noneOf_eq_ok made).1.clean
  | transform found made => exact (Transform.rewrites_of_apply made).clean (clean.pattern found)
  | concatenate leftFound rightFound made =>
      have leftClean := clean.operand raw.1 literal leftFound
      have rightClean := clean.operand raw.2 literal rightFound
      rw [Pattern.IsClean, (Pattern.concat_eq_ok made).1]
      exact Clean.append leftClean rightClean
  | alternate leftFound rightFound made =>
      have leftClean := clean.operand raw.1 literal leftFound
      have rightClean := clean.operand raw.2 literal rightFound
      rw [Pattern.IsClean, (Pattern.alternate_eq_ok made).1]
      exact (clean_arms leftClean rightClean).enclose Opening.isValid_plain

end PatternAlgebra
