import PatternAlgebra.Proofs.Construction.Run
import PatternAlgebra.Proofs.Construction.Transform
import PatternAlgebra.Proofs.Grammar.LastItem
import PatternAlgebra.Proofs.Pattern.CharacterSet

/-!
# Constructions of patterns of the grammar

From raw texts of the grammar a construction produces texts of the grammar,
with one exception: a lone bar counts as one character, so a quantifier repeats
it without a group, and there is no atom for the suffix to repeat.
-/

namespace PatternAlgebra

open Text

/-! ## Texts that are written without raw text -/

namespace Text

theorem isPattern_character {c : Char} (ordinary : c ∉ operators) : IsPattern [c] :=
  isPattern_of_atom (.character ordinary) .none

theorem isPattern_escaped {c : Char} (notLetter : c ∉ argumentLetters) : IsPattern ['\\', c] :=
  isPattern_of_atom (.escape notLetter) .none

theorem isPattern_class {text : List Char} (grammar : IsClass text) : IsPattern text := by
  have isPattern := isPattern_of_atom (.charClass grammar) .none
  rwa [List.append_nil] at isPattern

theorem isPattern_escapeChar (c : Char) : IsPattern (escapeChar c) := by
  unfold escapeChar
  split_ifs with metacharacter
  · apply isPattern_escaped
    have disjoint : ∀ d ∈ argumentLetters, ¬ isMetacharacter d = true := by
      simp [argumentLetters, isMetacharacter, metacharacters]
    exact fun isLetter => disjoint c isLetter metacharacter
  · apply isPattern_character
    have operatorsAmong : ∀ d ∈ operators, isMetacharacter d = true := by
      simp [operators, isMetacharacter, metacharacters]
    exact fun isOperator => metacharacter (operatorsAmong c isOperator)

theorem isPattern_escape (text : List Char) : IsPattern (escape text) := by
  induction text with
  | nil => exact isPattern_nil
  | cons c rest inductionHypothesis => exact (isPattern_escapeChar c).append inductionHypothesis

end Text

namespace Constant

theorem generates_newline : Generates .atom newline.text.toList := by
  have feed : IsPattern ['\\', 'n'] := isPattern_escaped (by decide)
  have carriage : IsPattern ['\\', 'r'] := isPattern_escaped (by decide)
  have optionalFeed : IsPattern ['\\', 'n', '?'] :=
    isPattern_of_atom (.escape (by decide)) (.greedy .optional)
  exact .group Opening.isValid_plain (feed.append_bar (carriage.append optionalFeed))

theorem isPattern_text (constant : Constant) : IsPattern constant.text.toList := by
  cases constant with
  | lowercase | uppercase | letter => exact isPattern_class (by decide)
  | any | startOfLine | endOfLine => exact isPattern_character (by decide)
  | anything => exact isPattern_of_atom (.character (by decide)) (.greedy .zeroOrMore)
  | anyWhitespace => exact isPattern_of_atom (.escape (by decide)) (.greedy .zeroOrMore)
  | newline => exact isPattern_of_atom generates_newline .none
  | anyNewlines => exact isPattern_of_atom generates_newline (.greedy .zeroOrMore)
  | _ => exact isPattern_escaped (by decide)

end Constant

/-! ## Results -/

namespace Text

/-- A raw member of a set that does not wait for an argument. -/
def IsMember (text : List Char) : Prop :=
  ∀ letter ∈ argumentLetters, text ≠ ['\\', letter]

theorem IsPattern.isMember {text : List Char} (isPattern : IsPattern text) : IsMember text := by
  rintro letter isLetter rfl
  exact not_mem_argumentLetters isPattern isLetter

theorem IsQuantifier.exists_sign {suffix : List Char} (grammar : IsQuantifier suffix) :
    ∃ sign rest, suffix = sign :: rest ∧ sign ∈ signs := by
  cases grammar <;> exact ⟨_, _, rfl, by decide⟩

/-- A suffix needs an atom to repeat. -/
theorem not_isPattern_bar {suffix : List Char} (grammar : IsQuantifier suffix) :
    ¬ IsPattern ('|' :: suffix) := by
  intro isPattern
  obtain ⟨sign, rest, rfl, isSign⟩ := grammar.exists_sign
  rcases isPattern.start_cases with empty | ⟨after, isAfter, equal⟩ | ⟨atom, after, isAtom, equal⟩
  · cases empty
  · cases equal
    exact isAfter.head?_ne isSign rfl
  · obtain ⟨c, inner, rfl, _, notBar⟩ := isAtom.exists_head_of_atom
    exact notBar (List.cons.inj equal).1.symm

/-- What a suffix is put behind is an atom exactly when the text is no lone bar. -/
theorem isPattern_atom_append_iff {text suffix : List Char} (isPattern : IsPattern text)
    (grammar : IsQuantifier suffix) : IsPattern (atom text ++ suffix) ↔ text ≠ ['|'] := by
  constructor
  · rintro repeated rfl
    exact not_isPattern_bar grammar repeated
  · intro notBar
    exact isPattern_of_atom ((bindsAs_atom text).generates isPattern notBar) (.greedy grammar)

theorem isPattern_atom {text : List Char} (isPattern : IsPattern text) : IsPattern (atom text) := by
  by_cases isBar : text = ['|']
  · subst isBar
    exact isPattern
  · have isAtom := (bindsAs_atom text).generates isPattern isBar
    simpa using isPattern_of_atom isAtom .none

end Text

namespace Pattern

/-- The text of the pattern is a pattern of the grammar. -/
def IsValid (pattern : Pattern) : Prop :=
  IsPattern pattern.chars

theorem isValid_literal {text : String} (isPattern : IsPattern text.toList) :
    (literal text).IsValid := by
  rwa [IsValid, chars_literal]

theorem isPattern_atomText {member : List Char} (single : isSingleChar member = true)
    (isMember : IsMember member) : IsPattern (atomText member) := by
  cases Shape.covers_of_isSingleChar single with
  | character c => exact isPattern_escapeChar c
  | escape c => exact isPattern_escaped fun isLetter => isMember c isLetter rfl

theorem isValid_anyOf {items : List Operand} {set : Pattern}
    (members : ∀ item ∈ items, IsMember item.toPattern.chars) (result : anyOf items = .ok set) :
    set.IsValid := by
  obtain ⟨_, ⟨item, inItems, _, single, setChars⟩ | ⟨_, isClass⟩⟩ := anyOf_eq_ok result
  · rw [IsValid, setChars]
    exact isPattern_atomText single (members item inItems)
  · exact isPattern_class isClass

/-- A quantifier does not refuse a lone bar. -/
theorem exists_quantify_bar {bar : Pattern} (isBar : bar.chars = ['|']) {quantifier : Quantifier}
    (ordered : quantifier.IsOrdered) : ∃ pattern, bar.quantify quantifier = .ok pattern := by
  have notRepeating : ¬ EndsInRepetition bar.chars := by
    rw [isBar]
    decide
  have shape : bar.shape = .singleChar := by
    rw [shape_eq, isBar]
    rfl
  apply exists_quantify notRepeating ordered
  · rw [shape]
    decide
  · rw [shape]
    decide

end Pattern

/-- Every operation on one pattern but the repetition of a lone bar stays in
the grammar. -/
theorem Transform.Rewrites.isPattern {operation : Transform} {text after : List Char}
    {names afterNames : List String} (rewrites : operation.Rewrites text names after afterNames)
    (isPattern : IsPattern text)
    (notBar : ∀ quantifier : Quantifier, operation = .quantify quantifier →
      quantifier.IsOrdered → text ≠ ['|']) :
    IsPattern after := by
  cases rewrites with
  | toCaptureGroup => exact (peels_isPattern.core isPattern).enclose Opening.isValid_capture
  | toNonCaptureGroup => exact isPattern_atom isPattern
  | toNamedCaptureGroup isName _ =>
      exact (peels_isPattern.core isPattern).enclose (Opening.isValid_named isName)
  | toLookaround side => exact isPattern.enclose (Opening.isValid_look side)
  | quantify _ ordered =>
      have suffix := Quantifier.isQuantifier_suffix ordered
      exact (isPattern_atom_append_iff isPattern suffix).mpr (notBar _ rfl ordered)
  | lazily repeating notLazy => exact isPattern.append_lazy repeating notLazy
  | append tail => exact isPattern.append tail.isPattern_text

/-! ## Lone bars that are repeated -/

/-- The call repeats a lone bar. -/
def Call.RepeatsBar (results : Results) : Call → Prop
  | transform (.quantify quantifier) index =>
      quantifier.IsOrdered ∧ ∃ bar, results.pattern index = .ok bar ∧ bar.chars = ['|']
  | _ => False

/-- Some call of the construction repeats a lone bar. -/
def RepeatsBar (calls : List Call) : Prop :=
  ∃ earlier call, earlier ++ [call] <+: calls ∧ call.RepeatsBar (Results.after [] earlier)

/-- Every call that repeats no lone bar stays in the grammar. -/
theorem Call.isValid_run {results : Results} {call : Call} {pattern : Pattern}
    (valid : results.All Pattern.IsValid) (raw : call.HasTexts IsPattern IsMember)
    (noBar : ¬ call.RepeatsBar results) (result : call.run results = .ok pattern) :
    pattern.IsValid := by
  have literal : ∀ text : String, IsPattern text.toList → (Pattern.literal text).IsValid :=
    fun _ => Pattern.isValid_literal
  cases makes_of_run result with
  | empty => exact isPattern_nil
  | literal text => exact literal text raw
  | escaped text => exact literal _ (by simpa using isPattern_escape text.toList)
  | constant value => exact literal value.text value.isPattern_text
  | operand found => exact valid.operand raw literal found
  | @anyOf members operands _ found made =>
      apply Pattern.isValid_anyOf _ made
      intro item inItems
      obtain ⟨source, inMembers, itemFound⟩ := Results.exists_source_of_mem_operands found inItems
      have isMember : results.All fun pattern => IsMember pattern.chars :=
        fun pattern inResults => (valid pattern inResults).isMember
      exact isMember.operand (raw source inMembers) (fun text => by simp) itemFound
  | noneOf _ made => exact isPattern_class (Pattern.noneOf_eq_ok made).1
  | @transform operation index before _ found made =>
      apply (Transform.rewrites_of_apply made).isPattern (valid.pattern found)
      rintro quantifier rfl ordered isBar
      exact noBar ⟨ordered, before, found, isBar⟩
  | concatenate leftFound rightFound made =>
      have leftValid := valid.operand raw.1 literal leftFound
      have rightValid := valid.operand raw.2 literal rightFound
      rw [Pattern.IsValid, (Pattern.concat_eq_ok made).1]
      exact IsPattern.append leftValid rightValid
  | alternate leftFound rightFound made =>
      have leftValid := valid.operand raw.1 literal leftFound
      have rightValid := valid.operand raw.2 literal rightFound
      have leftArm := peels_isPattern.arm leftValid
      have rightArm := peels_isPattern.arm rightValid
      rw [Pattern.IsValid, (Pattern.alternate_eq_ok made).1]
      exact (leftArm.append_bar rightArm).enclose Opening.isValid_plain

/-- A call that repeats a lone bar has a result outside the grammar. -/
theorem Call.exists_result_of_repeatsBar {results : Results} {call : Call}
    (repeats : call.RepeatsBar results) :
    ∃ pattern, call.run results = .ok pattern ∧ ¬ pattern.IsValid := by
  unfold Call.RepeatsBar at repeats
  split at repeats
  · rename_i quantifier index
    obtain ⟨ordered, bar, found, isBar⟩ := repeats
    obtain ⟨pattern, accepted⟩ := Pattern.exists_quantify_bar isBar ordered
    use pattern
    constructor
    · rw [Call.run, found]
      change (bar.quantify quantifier).mapError CallError.refused = .ok pattern
      rw [accepted]
      rfl
    · obtain ⟨_, _, charsEq, _⟩ := Pattern.quantify_eq_ok accepted
      rw [Pattern.IsValid, charsEq, isBar]
      exact not_isPattern_bar (Quantifier.isQuantifier_suffix ordered)
  · cases repeats

/-- A construction from raw texts of the grammar stays in the grammar exactly
when no call of it repeats a lone bar. -/
theorem isPattern_of_produces_iff {calls : List Call}
    (raw : ∀ call ∈ calls, call.HasTexts IsPattern IsMember) :
    (∀ call pattern, Produces calls call pattern → IsPattern pattern.chars) ↔
      ¬ RepeatsBar calls := by
  constructor
  · rintro allValid ⟨earlier, call, isPrefix, repeats⟩
    obtain ⟨pattern, result, invalid⟩ := Call.exists_result_of_repeatsBar repeats
    exact invalid (allValid call pattern ⟨earlier, isPrefix, result⟩)
  · intro noBar call pattern produced
    have step : ∀ (results : Results) (call : Call) (pattern : Pattern),
        results.All Pattern.IsValid →
        call.HasTexts IsPattern IsMember ∧ ¬ call.RepeatsBar results →
        call.run results = .ok pattern → pattern.IsValid := by
      intro results call pattern valid allowed result
      exact Call.isValid_run valid allowed.1 allowed.2 result
    have allowed : ∀ earlier call, earlier ++ [call] <+: calls →
        call.HasTexts IsPattern IsMember ∧ ¬ call.RepeatsBar (Results.after [] earlier) := by
      intro earlier call isPrefix
      constructor
      · exact raw call (mem_of_isPrefix isPrefix)
      · intro repeats
        exact noBar ⟨earlier, call, isPrefix, repeats⟩
    obtain ⟨results, valid, callAllowed, result⟩ := produced.exists_results step allowed
    exact step results call pattern valid callAllowed result

/-- A lone bar is of the grammar, and its repetition is not. -/
theorem not_isPattern_of_repeated_bar :
    ¬ ∀ call pattern,
      Produces [.literal "|", .transform (.quantify .zeroOrMore) 0] call pattern →
        IsPattern pattern.chars := by
  intro allValid
  have bar : IsPattern ['|'] := .bar .nil isPattern_nil
  have raw : ∀ call ∈ [Call.literal "|", .transform (.quantify .zeroOrMore) 0],
      call.HasTexts IsPattern IsMember := by
    rw [List.forall_mem_cons, List.forall_mem_singleton]
    exact ⟨bar, trivial⟩
  apply (isPattern_of_produces_iff raw).mp allValid
  exact ⟨[.literal "|"], .transform (.quantify .zeroOrMore) 0, by decide, trivial, _, rfl, rfl⟩

end PatternAlgebra
