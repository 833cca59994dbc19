import PatternAlgebra.Proofs.Construction.Shape
import PatternAlgebra.Proofs.Grammar.LastItem

/-!
# The states of a repetition

With respect to repetition a pattern is in one of three states: it can be
repeated, it repeats greedily, or it repeats lazily.  Nothing but the end of
its text tells the state, so each operation that changes the state has to
leave an end that is read as the new one.  A quantifier leads from the first
state to the second and a lazy mark from the second to the third, where both
have to stop; grouping leads back.

Only a text that takes up the suffix as a part of itself escapes this: a lone
backslash, and the start of an escape with an argument in braces.
-/

namespace PatternAlgebra

open Text

namespace Text

open Token

/-! ## Texts that take up a suffix -/

/-- The suffix would become a part of the text before it: what a lone backslash
escapes, or the argument of an escape. -/
inductive Absorbs : List Char → List Char → Prop where
  | backslash (suffix : List Char) : Absorbs ['\\'] suffix
  | argument {letter : Char} {rest : List Char} : letter ∈ argumentLetters →
      Absorbs ['\\', letter] ('{' :: rest)

/-- As an atom, a text is one character or escape as before, or it is closed by
a bracket or a parenthesis. -/
theorem atom_cases (text : List Char) :
    (∃ c, text = [c] ∧ atom text = [c]) ∨ (∃ c, text = ['\\', c] ∧ atom text = ['\\', c]) ∨
      ∃ front last, last ∈ [']', ')'] ∧ atom text = front ++ [last] := by
  have binds := bindsAs_atom text
  have closed (body : List Char) :
      ∃ front last, last ∈ [']', ')'] ∧ Opening.plain.enclose body = front ++ [last] :=
    ⟨'(' :: (Opening.plain.mark ++ body), ')', by decide, rfl⟩
  generalize atom text = item at binds
  cases binds with
  | character c => exact .inl ⟨c, rfl, rfl⟩
  | escape c => exact .inr (.inl ⟨c, rfl, rfl⟩)
  | charClass grammar =>
      obtain ⟨front, rfl⟩ := grammar.exists_concat
      exact .inr (.inr ⟨front, ']', by decide, rfl⟩)
  | plain _ | capture _ _ | other _ => exact .inr (.inr (closed _))

theorem not_endsInArgumentEscape_closed {last : Char} (closing : last ∈ [']', ')'])
    (front : List Char) : ¬ EndsInArgumentEscape (front ++ [last]) := by
  rw [endsInArgumentEscape_concat]
  rintro ⟨isLetter, _⟩
  have disjoint : ∀ c ∈ [']', ')'], c ∉ argumentLetters := by simp [argumentLetters]
  exact disjoint last closing isLetter

theorem endsInArgumentEscape_escape_iff {c : Char} :
    EndsInArgumentEscape ['\\', c] ↔ c ∈ argumentLetters := by
  have split : ['\\', c] = ['\\'] ++ [c] := rfl
  rw [split, endsInArgumentEscape_concat]
  simp

theorem not_endsInArgumentEscape_character (c : Char) : ¬ EndsInArgumentEscape [c] := by
  have split : [c] = [] ++ [c] := rfl
  rw [split, endsInArgumentEscape_concat]
  simp

theorem absorbs_escape_iff {c : Char} {suffix : List Char} :
    Absorbs ['\\', c] suffix ↔ c ∈ argumentLetters ∧ suffix.head? = some '{' := by
  constructor
  · rintro ⟨⟩
    exact ⟨‹_›, rfl⟩
  · rintro ⟨isLetter, brace⟩
    obtain ⟨rest, rfl⟩ := List.head?_eq_some_iff.mp brace
    exact .argument isLetter

theorem absorbs_character_iff {c : Char} {suffix : List Char} :
    Absorbs [c] suffix ↔ c = '\\' := by
  constructor
  · rintro ⟨⟩
    rfl
  · rintro rfl
    exact .backslash suffix

/-- A suffix behind the atom of a text is found again, unless the text absorbs
it. -/
theorem IsQuantifier.endsInRepetition_atom_iff {text suffix : List Char}
    (grammar : IsQuantifier suffix) :
    EndsInRepetition (atom text ++ suffix) ↔ ¬ Absorbs text suffix := by
  rw [grammar.endsInRepetition_iff]
  rcases atom_cases text with ⟨c, rfl, atomEq⟩ | ⟨c, rfl, atomEq⟩ | ⟨front, last, closing, atomEq⟩
  · have complete : IsComplete [c] ↔ c ≠ '\\' := by
      constructor
      · rintro complete rfl
        exact not_isComplete_dangling complete
      · intro notBackslash
        exact (isComplete_plain notBackslash).mpr isComplete_nil
    rw [atomEq, complete, absorbs_character_iff]
    simp [not_endsInArgumentEscape_character]
  · rw [atomEq, endsInArgumentEscape_escape_iff, absorbs_escape_iff]
    simp [imp_not_comm]
  · have notBackslash : last ≠ '\\' := by
      rintro rfl
      exact absurd closing (by decide)
    have notAbsorbed : ¬ Absorbs text suffix := by
      have closes : (atom text).getLast? = some last := by simp [atomEq]
      rintro ⟨⟩
      · exact notBackslash (Option.some.inj closes).symm
      · rename_i isLetter
        cases closes
        exact not_endsInArgumentEscape_closed closing ['\\']
          (endsInArgumentEscape_escape_iff.mpr isLetter)
    rw [atomEq]
    constructor
    · intro _
      exact notAbsorbed
    · intro _
      exact ⟨isComplete_concat notBackslash front,
        fun _ => not_endsInArgumentEscape_closed closing front⟩

/-! ## Ends of texts -/

theorem EndsInRepetition.isComplete {text : List Char} (repeating : EndsInRepetition text) :
    IsComplete text := by
  cases repeating with
  | @sign before c isSign complete =>
      apply isComplete_concat
      rintro rfl
      exact absurd isSign (by decide)
  | @bounds before inner complete notArgument isBounds =>
      have split : before ++ '{' :: (inner ++ ['}']) = (before ++ '{' :: inner) ++ ['}'] := by simp
      rw [split]
      exact isComplete_concat (by decide) _

/-- A mark behind a suffix makes it lazy. -/
theorem endsInLazyMark_concat_iff {text : List Char} :
    EndsInLazyMark (text ++ ['?']) ↔ EndsInRepetition text := by
  constructor
  · rintro ⟨before, equal, _, repeating⟩
    rwa [List.append_cancel_right equal]
  · intro repeating
    exact ⟨text, rfl, repeating.isComplete, repeating⟩

/-- An atom does not end in a repetition when the text does not. -/
theorem not_endsInRepetition_atom_of {text : List Char} (notRepeating : ¬ EndsInRepetition text) :
    ¬ EndsInRepetition (atom text) := by
  rcases atom_cases text with ⟨c, rfl, atomEq⟩ | ⟨c, rfl, atomEq⟩ | ⟨front, last, closing, atomEq⟩
  · rwa [atomEq]
  · rwa [atomEq]
  · rw [atomEq]
    exact not_endsInRepetition_closed closing front

/-- The suffix of a quantifier is greedy. -/
theorem IsQuantifier.not_endsInLazyMark {text suffix : List Char} (grammar : IsQuantifier suffix)
    (notRepeating : ¬ EndsInRepetition text) : ¬ EndsInLazyMark (atom text ++ suffix) := by
  rcases grammar.sign_or_bounds with ⟨sign, isSign, rfl⟩ | ⟨inner, _, rfl⟩
  · rintro ⟨before, equal, _, repeating⟩
    obtain ⟨rfl, _⟩ := List.append_inj' equal rfl
    exact not_endsInRepetition_atom_of notRepeating repeating
  · have split : atom text ++ '{' :: (inner ++ ['}']) = (atom text ++ '{' :: inner) ++ ['}'] := by
      simp
    rw [split]
    rintro ⟨before, equal, _, _⟩
    cases List.append_inj' equal rfl |>.2

end Text

/-- A text of several characters that ends in a repetition is neither an atom
nor a group. -/
theorem Shape.ofChars_of_endsInRepetition {text : List Char} (repeating : EndsInRepetition text)
    (several : 2 ≤ text.length) : ofChars text = .other := by
  cases repeating with
  | @sign before c isSign complete =>
      have nonempty : before ≠ [] := by
        rintro rfl
        exact absurd several (by simp)
      apply ofChars_concat nonempty complete
      · rintro rfl
        exact absurd isSign (by decide)
      · rintro rfl
        exact absurd isSign (by decide)
  | @bounds before inner complete notArgument isBounds =>
      have noBackslash : '\\' ∉ '{' :: inner := by
        rw [List.mem_cons, not_or]
        exact ⟨by decide, isBounds.not_mem rfl (by decide)⟩
      have split : before ++ '{' :: (inner ++ ['}']) = (before ++ '{' :: inner) ++ ['}'] := by simp
      rw [split]
      exact ofChars_concat (by simp)
        ((Token.isComplete_append complete).mpr (Token.isComplete_of_not_mem noBackslash))
        (by decide) (by decide)

namespace Pattern

/-! ## States -/

/-- The pattern repeats greedily: no quantifier accepts it. -/
structure IsGreedy (pattern : Pattern) : Prop where
  isRepeating : isRepeating pattern.text = true
  isLazy : isLazy pattern.text = false
  shape : pattern.shape = .other
  quantify : ∀ quantifier : Quantifier,
    pattern.quantify quantifier = .error (.alreadyRepeating pattern.text)

/-- The pattern repeats lazily: no quantifier accepts it and no lazy mark. -/
structure IsReluctant (pattern : Pattern) : Prop where
  isRepeating : isRepeating pattern.text = true
  isLazy : isLazy pattern.text = true
  shape : pattern.shape = .other
  quantify : ∀ quantifier : Quantifier,
    pattern.quantify quantifier = .error (.alreadyRepeating pattern.text)
  lazily : pattern.lazily = .error (.invalidArgument (.notGreedy pattern.text))

/-- In a plain group, the pattern can be repeated. -/
def IsRepeatableInGroup (pattern : Pattern) : Prop :=
  ∃ grouped, pattern.toNonCaptureGroup = .ok grouped ∧
    ∀ quantifier : Quantifier, quantifier.IsOrdered →
      ∃ repeated, grouped.quantify quantifier = .ok repeated

variable {pattern result : Pattern}

theorem isGreedy_of_endsIn (repeating : EndsInRepetition pattern.chars)
    (notLazy : ¬ EndsInLazyMark pattern.chars) (several : 2 ≤ pattern.chars.length) :
    pattern.IsGreedy := by
  constructor
  · exact (isRepeating_iff pattern.text).mpr repeating
  · rw [← Bool.not_eq_true, isLazy_iff]
    exact notLazy
  · exact Shape.ofChars_of_endsInRepetition repeating several
  · exact quantify_of_endsInRepetition repeating

theorem lazily_of_endsInLazyMark (marked : EndsInLazyMark pattern.chars) :
    pattern.lazily = .error (.invalidArgument (.notGreedy pattern.text)) := by
  have test : isLazy pattern.text = true := (isLazy_iff pattern.text).mpr marked
  rw [Pattern.lazily, test, Bool.or_true, if_pos rfl]

theorem isReluctant_of_endsIn (repeating : EndsInRepetition pattern.chars)
    (marked : EndsInLazyMark pattern.chars) (several : 2 ≤ pattern.chars.length) :
    pattern.IsReluctant := by
  constructor
  · exact (isRepeating_iff pattern.text).mpr repeating
  · exact (isLazy_iff pattern.text).mpr marked
  · exact Shape.ofChars_of_endsInRepetition repeating several
  · exact quantify_of_endsInRepetition repeating
  · exact lazily_of_endsInLazyMark marked

/-- A greedy repetition takes a lazy mark, and then it repeats lazily. -/
theorem IsGreedy.exists_lazily (greedy : pattern.IsGreedy) :
    ∃ reluctant, pattern.lazily = .ok reluctant ∧ reluctant.text = pattern.text ++ "?" ∧
      reluctant.names = pattern.names ∧ reluctant.IsReluctant := by
  have accepted : pattern.lazily = .ok (pattern.mapRope fun rope => rope.push "?") := by
    rw [Pattern.lazily, greedy.isRepeating, greedy.isLazy]
    rfl
  have repeating := (isRepeating_iff pattern.text).mp greedy.isRepeating
  have complete : Token.IsComplete pattern.chars := repeating.isComplete
  have marked := chars_push pattern "?"
  have nonempty := List.length_pos_iff.mpr repeating.ne_nil
  refine ⟨_, accepted, Rope.text_push pattern.rope "?", rfl, ?_⟩
  apply isReluctant_of_endsIn
  · rw [marked]
    exact (endsInRepetition_sign_iff (by decide)).mpr complete
  · rw [marked]
    exact endsInLazyMark_concat_iff.mpr repeating
  · rw [marked, List.length_append]
    exact Nat.succ_le_succ nonempty

/-- A balanced text of the last shape can be repeated in a plain group. -/
theorem isRepeatableInGroup_of_balanced (balanced : Balanced pattern.chars)
    (shape : pattern.shape = .other) : pattern.IsRepeatableInGroup := by
  have notNamed : pattern.shape ≠ .namedCaptureGroup := by
    rw [shape]
    decide
  rcases toNonCaptureGroup_eq pattern with ⟨named, _⟩ | ⟨_, grouped, grouping, charsEq, _⟩
  · exact absurd named notNamed
  have enclosed : grouped.chars = Opening.plain.enclose pattern.chars := by
    rw [shape_eq] at shape
    rw [charsEq, atom_eq_enclose (by rw [shape]; rfl), core_eq_self (by simp [shape])
      (by simp [shape])]
  have groupShape : grouped.shape = .nonCaptureGroup := by
    rw [shape_eq, enclosed]
    exact Shape.ofChars_of_covers (.plain balanced)
  refine ⟨grouped, grouping, ?_⟩
  intro quantifier ordered
  apply exists_quantify _ ordered
  · rw [groupShape]
    decide
  · rw [groupShape]
    decide
  · rw [enclosed]
    exact not_endsInRepetition_closed (by decide) ('(' :: (Opening.plain.mark ++ pattern.chars))

/-! ## The steps between the states -/

/-- What a quantifier makes of a pattern that does not absorb its suffix: a
greedy repetition, which a lazy mark turns into a lazy one.  Either can be
repeated again in a group if the pattern was balanced. -/
theorem isGreedy_of_quantify {quantifier : Quantifier}
    (accepted : pattern.quantify quantifier = .ok result)
    (notAbsorbed : ¬ Absorbs pattern.chars quantifier.suffix.toList) :
    result.IsGreedy ∧ result.names = pattern.names ∧
      ∃ reluctant, result.lazily = .ok reluctant ∧ reluctant.text = result.text ++ "?" ∧
        reluctant.names = pattern.names ∧ reluctant.IsReluctant ∧
        (Balanced pattern.chars →
          result.IsRepeatableInGroup ∧ reluctant.IsRepeatableInGroup) := by
  obtain ⟨notRepeating, ordered, charsEq, namesEq⟩ := quantify_eq_ok accepted
  have grammar := Quantifier.isQuantifier_suffix ordered
  have greedy : result.IsGreedy := by
    apply isGreedy_of_endsIn
    · rw [charsEq]
      exact grammar.endsInRepetition_atom_iff.mpr notAbsorbed
    · rw [charsEq]
      exact grammar.not_endsInLazyMark notRepeating
    · have atomNonempty := List.length_pos_iff.mpr (atom_ne_nil pattern.chars)
      have suffixNonempty := List.length_pos_iff.mpr grammar.ne_nil
      rw [charsEq, List.length_append]
      omega
  obtain ⟨reluctant, marking, textEq, reluctantNames, isReluctant⟩ := greedy.exists_lazily
  refine ⟨greedy, namesEq, reluctant, marking, textEq, reluctantNames.trans namesEq,
    isReluctant, ?_⟩
  intro balanced
  have resultBalanced : Balanced result.chars := by
    rw [charsEq]
    exact (balanced_atom balanced).append grammar.balanced
  have reluctantBalanced : Balanced reluctant.chars := by
    rw [(lazily_eq_ok marking).2.2.1]
    exact resultBalanced.append IsQuantifier.optional.balanced
  constructor
  · exact isRepeatableInGroup_of_balanced resultBalanced greedy.shape
  · exact isRepeatableInGroup_of_balanced reluctantBalanced isReluctant.shape

/-- A class that holds a parenthesis, and a letter. -/
theorem isGreedy_of_quantify_of_class_and_letter :
    Balanced (literal "[)]a").chars ∧
      ¬ Absorbs (literal "[)]a").chars (Quantifier.between 2 3).suffix.toList ∧
      ∃ result, (literal "[)]a").quantify (.between 2 3) = .ok result ∧
        result.IsGreedy ∧ result.IsRepeatableInGroup := by
  have balanced : Balanced (literal "[)]a").chars := by decide
  have notAbsorbed :
      ¬ Absorbs (literal "[)]a").chars (Quantifier.between 2 3).suffix.toList := nofun
  have notRepeating : ¬ EndsInRepetition (literal "[)]a").chars :=
    mt (isRepeating_iff "[)]a").mpr (by decide)
  obtain ⟨result, accepted⟩ := exists_quantify notRepeating
    (show (Quantifier.between 2 3).IsOrdered by decide) (by decide) (by decide)
  obtain ⟨greedy, _, _, _, _, _, _, grouped⟩ := isGreedy_of_quantify accepted notAbsorbed
  exact ⟨balanced, notAbsorbed, result, accepted, greedy, (grouped balanced).1⟩

end Pattern

end PatternAlgebra
