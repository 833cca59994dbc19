import Mathlib.Data.List.TakeWhile
import PatternAlgebra.Proofs.Text.Lexing
import PatternAlgebra.Repetition.Suffix

/-!
# Suffixes found from the end

Looking back from the end of a text and counting backslashes finds the same
repetition suffixes as reading the text from the left: a sign or an opening
brace counts exactly when the text before it is complete.
-/

namespace PatternAlgebra.Text

open Token

/-- Bounds as they stand between braces. -/
inductive IsBounds : List Char → Prop where
  | count {digits : List Char} : digits ≠ [] → (∀ c ∈ digits, c.isDigit = true) → IsBounds digits
  | range {lower upper : List Char} : lower ≠ [] → (∀ c ∈ lower, c.isDigit = true) →
      (∀ c ∈ upper, c.isDigit = true) → IsBounds (lower ++ ',' :: upper)

/-- The letters of the escapes that take an argument in braces. -/
def argumentLetters : List Char :=
  ['x', 'u', 'U', 'p', 'P']

/-- The last token of the text is an escape that takes an argument in braces. -/
def EndsInArgumentEscape (text : List Char) : Prop :=
  ∃ before letter, letter ∈ argumentLetters ∧ IsComplete before ∧ text = before ++ ['\\', letter]

/-- The text ends in a repetition suffix: a sign, or bounds in braces that are
not the argument of an escape. -/
inductive EndsInRepetition : List Char → Prop where
  | sign {before : List Char} {c : Char} : c ∈ ['?', '*', '+'] → IsComplete before →
      EndsInRepetition (before ++ [c])
  | bounds {before inner : List Char} : IsComplete before → ¬ EndsInArgumentEscape before →
      IsBounds inner → EndsInRepetition (before ++ '{' :: (inner ++ ['}']))

/-- The text ends in a question mark that makes the suffix before it lazy. -/
def EndsInLazyMark (text : List Char) : Prop :=
  ∃ before, text = before ++ ['?'] ∧ IsComplete before ∧ EndsInRepetition before

theorem EndsInRepetition.ne_nil {text : List Char} (repeating : EndsInRepetition text) :
    text ≠ [] := by
  cases repeating <;> simp

/-! ## Counting backslashes -/

/-- A backslash is escaped or escapes what comes next. -/
theorem isComplete_concat_backslash (text : List Char) :
    IsComplete (text ++ ['\\']) ↔ ¬ IsComplete text := by
  induction text using lex_induction with
  | nil => simp
  | dangling => simp
  | escape c rest inductionHypothesis => simpa using inductionHypothesis
  | plain c rest notBackslash inductionHypothesis =>
      rw [List.cons_append, isComplete_plain notBackslash, isComplete_plain notBackslash]
      exact inductionHypothesis

theorem isComplete_concat {c : Char} (notBackslash : c ≠ '\\') (text : List Char) :
    IsComplete (text ++ [c]) := by
  induction text using lex_induction with
  | nil => exact (isComplete_plain notBackslash).mpr isComplete_nil
  | dangling => simp
  | escape d rest inductionHypothesis => simpa using inductionHypothesis
  | plain d rest plainNotBackslash inductionHypothesis =>
      exact (isComplete_plain plainNotBackslash).mpr inductionHypothesis

theorem isEscaped_backslash (reversed : List Char) :
    Repetition.isEscaped ('\\' :: reversed) = !Repetition.isEscaped reversed := by
  simp only [Repetition.isEscaped, List.takeWhile_cons, beq_self_eq_true, if_true,
    List.length_cons]
  rcases Nat.mod_two_eq_zero_or_one (reversed.takeWhile (· == '\\')).length with even | odd
  · rw [even, Nat.add_mod, even]
    rfl
  · rw [odd, Nat.add_mod, odd]
    rfl

/-- An odd number of backslashes at the end is one that dangles. -/
theorem isEscaped_iff (reversed : List Char) :
    Repetition.isEscaped reversed = true ↔ ¬ IsComplete reversed.reverse := by
  induction reversed with
  | nil => simp [Repetition.isEscaped]
  | cons c before inductionHypothesis =>
      rw [List.reverse_cons]
      by_cases backslash : c = '\\'
      · subst backslash
        rw [isEscaped_backslash, isComplete_concat_backslash, ← inductionHypothesis]
        simp
      · simp [Repetition.isEscaped, backslash, isComplete_concat backslash before.reverse]

theorem isEscaped_eq_false_iff (reversed : List Char) :
    Repetition.isEscaped reversed = false ↔ IsComplete reversed.reverse := by
  rw [← Bool.not_eq_true, isEscaped_iff, Classical.not_not]

theorem exists_of_not_isComplete {text : List Char} (incomplete : ¬ IsComplete text) :
    ∃ before, IsComplete before ∧ text = before ++ ['\\'] := by
  induction text using lex_induction with
  | nil => exact absurd isComplete_nil incomplete
  | dangling => exact ⟨[], isComplete_nil, rfl⟩
  | escape c rest inductionHypothesis =>
      rw [isComplete_escape] at incomplete
      obtain ⟨before, complete, rfl⟩ := inductionHypothesis incomplete
      exact ⟨'\\' :: c :: before, isComplete_escape.mpr complete, rfl⟩
  | plain c rest notBackslash inductionHypothesis =>
      rw [isComplete_plain notBackslash] at incomplete
      obtain ⟨before, complete, rfl⟩ := inductionHypothesis incomplete
      exact ⟨c :: before, (isComplete_plain notBackslash).mpr complete, rfl⟩

theorem endsInArgumentEscape_concat {text : List Char} {letter : Char} :
    EndsInArgumentEscape (text ++ [letter]) ↔ letter ∈ argumentLetters ∧ ¬ IsComplete text := by
  constructor
  · rintro ⟨before, escaped, isLetter, complete, equal⟩
    have equal : text ++ [letter] = (before ++ ['\\']) ++ [escaped] := by simpa using equal
    obtain ⟨rfl, last⟩ := List.append_inj' equal rfl
    cases last
    rw [isComplete_concat_backslash, Classical.not_not]
    exact ⟨isLetter, complete⟩
  · rintro ⟨isLetter, incomplete⟩
    obtain ⟨before, complete, rfl⟩ := exists_of_not_isComplete incomplete
    exact ⟨before, letter, isLetter, complete, by simp⟩

theorem not_endsInArgumentEscape_nil : ¬ EndsInArgumentEscape [] := by
  rintro ⟨before, letter, _, _, equal⟩
  simp at equal

theorem isBraceEscape_iff (reversed : List Char) :
    Repetition.isBraceEscape reversed = true ↔ EndsInArgumentEscape reversed.reverse := by
  cases reversed with
  | nil => simp [Repetition.isBraceEscape, not_endsInArgumentEscape_nil]
  | cons letter before =>
      rw [List.reverse_cons, endsInArgumentEscape_concat, ← isEscaped_iff]
      simp [Repetition.isBraceEscape, argumentLetters]

/-! ## Splitting at a character -/

theorem ne_of_mem_of_not_mem {stop : Char} {text : List Char} (absent : stop ∉ text) :
    ∀ c ∈ text, decide (c ≠ stop) = true := by
  intro c member
  simp only [ne_eq, decide_not, Bool.not_eq_true', decide_eq_false_iff_not]
  rintro rfl
  exact absent member

theorem span_ne_of_not_mem {stop : Char} {text : List Char} (absent : stop ∉ text) :
    text.takeWhile (· ≠ stop) = text ∧ text.dropWhile (· ≠ stop) = [] := by
  have passed := ne_of_mem_of_not_mem absent
  exact ⟨List.takeWhile_eq_self_iff.mpr passed, List.dropWhile_eq_nil_iff.mpr passed⟩

theorem span_ne_append {stop : Char} {before : List Char} (absent : stop ∉ before)
    (rest : List Char) :
    (before ++ stop :: rest).takeWhile (· ≠ stop) = before ∧
      (before ++ stop :: rest).dropWhile (· ≠ stop) = stop :: rest := by
  have passed := ne_of_mem_of_not_mem absent
  rw [List.takeWhile_append_of_pos passed, List.dropWhile_append_of_pos passed]
  simp

/-- There is one way to split a text at the first occurrence of a character. -/
theorem append_cons_inj {stop : Char} {first second firstRest secondRest : List Char}
    (firstAbsent : stop ∉ first) (secondAbsent : stop ∉ second)
    (equal : first ++ stop :: firstRest = second ++ stop :: secondRest) :
    first = second ∧ firstRest = secondRest := by
  have firstSpan := span_ne_append firstAbsent firstRest
  have secondSpan := span_ne_append secondAbsent secondRest
  rw [equal, secondSpan.1, secondSpan.2] at firstSpan
  exact ⟨firstSpan.1.symm, (List.cons.inj firstSpan.2).2.symm⟩

/-- There is one way to split a text at the last occurrence of a character. -/
theorem append_cons_inj_last {stop : Char} {first second firstRest secondRest : List Char}
    (firstAbsent : stop ∉ firstRest) (secondAbsent : stop ∉ secondRest)
    (equal : first ++ stop :: firstRest = second ++ stop :: secondRest) :
    first = second ∧ firstRest = secondRest := by
  have flipped : firstRest.reverse ++ stop :: first.reverse =
      secondRest.reverse ++ stop :: second.reverse := by
    simpa using congrArg List.reverse equal
  have same := append_cons_inj (by simpa using firstAbsent) (by simpa using secondAbsent) flipped
  exact ⟨List.reverse_inj.mp same.2, List.reverse_inj.mp same.1⟩

/-! ## Bounds -/

theorem not_mem_of_isDigit {digits : List Char} (allDigits : ∀ c ∈ digits, c.isDigit = true)
    {c : Char} (notDigit : c.isDigit = false) : c ∉ digits := by
  intro member
  rw [allDigits c member] at notDigit
  cases notDigit

/-- Bounds hold digits and a comma. -/
theorem IsBounds.not_mem {inner : List Char} (bounds : IsBounds inner) {c : Char}
    (notDigit : c.isDigit = false) (notComma : c ≠ ',') : c ∉ inner := by
  cases bounds with
  | count _ allDigits => exact not_mem_of_isDigit allDigits notDigit
  | range _ lowerDigits upperDigits =>
      simp only [List.mem_append, List.mem_cons, not_or]
      exact ⟨not_mem_of_isDigit lowerDigits notDigit, notComma,
        not_mem_of_isDigit upperDigits notDigit⟩

/-- The check splits the bounds at their first comma. -/
theorem isBounds_iff (inner : List Char) :
    Repetition.isBounds inner = true ↔ IsBounds inner := by
  constructor
  · intro checked
    by_cases comma : ',' ∈ inner
    · obtain ⟨lower, upper, rfl, absent⟩ := List.eq_append_cons_of_mem comma
      have span := span_ne_append absent upper
      simp only [Repetition.isBounds, span.1, span.2, Bool.and_eq_true, List.all_eq_true] at checked
      exact .range (by simpa using checked.1.1) checked.1.2 checked.2
    · have span := span_ne_of_not_mem comma
      simp only [Repetition.isBounds, span.1, span.2, Bool.and_eq_true, List.all_eq_true] at checked
      exact .count (by simpa using checked.1.1) checked.1.2
  · intro bounds
    cases bounds with
    | count nonempty allDigits =>
        have span := span_ne_of_not_mem (not_mem_of_isDigit allDigits (c := ',') rfl)
        simp only [Repetition.isBounds, span.1, span.2, Bool.and_eq_true, List.all_eq_true]
        exact ⟨⟨by simpa using nonempty, allDigits⟩, by simp⟩
    | @range lower upper nonempty lowerDigits upperDigits =>
        have span := span_ne_append (not_mem_of_isDigit lowerDigits (c := ',') rfl) upper
        simp only [Repetition.isBounds, span.1, span.2, Bool.and_eq_true, List.all_eq_true]
        exact ⟨⟨by simpa using nonempty, lowerDigits⟩, upperDigits⟩

/-! ## Suffixes -/

/-- What a suffix is, told from the last character. -/
theorem endsInRepetition_concat {text : List Char} {c : Char} :
    EndsInRepetition (text ++ [c]) ↔ c ∈ ['?', '*', '+'] ∧ IsComplete text ∨
      c = '}' ∧ ∃ before inner, text = before ++ '{' :: inner ∧ IsComplete before ∧
        ¬ EndsInArgumentEscape before ∧ IsBounds inner := by
  constructor
  · intro suffix
    generalize equal : text ++ [c] = whole at suffix
    cases suffix with
    | sign isSign complete =>
        obtain ⟨rfl, last⟩ := List.append_inj' equal rfl
        cases last
        exact .inl ⟨isSign, complete⟩
    | @bounds before inner complete notArgument isBounds =>
        have equal : text ++ [c] = (before ++ '{' :: inner) ++ ['}'] := by simpa using equal
        obtain ⟨rfl, last⟩ := List.append_inj' equal rfl
        cases last
        exact .inr ⟨rfl, before, inner, rfl, complete, notArgument, isBounds⟩
  · rintro (⟨isSign, complete⟩ | ⟨rfl, before, inner, rfl, complete, notArgument, isBounds⟩)
    · exact .sign isSign complete
    · have suffix := EndsInRepetition.bounds complete notArgument isBounds
      simpa using suffix

/-- A closing brace repeats with the last opening brace before it. -/
theorem endsInSuffix_closeBrace (body : List Char) :
    Repetition.endsInSuffix ('}' :: body) = true ↔
      ∃ before inner, body.reverse = before ++ '{' :: inner ∧ IsComplete before ∧
        ¬ EndsInArgumentEscape before ∧ IsBounds inner := by
  rw [Repetition.endsInSuffix, if_neg (by decide), if_pos rfl]
  by_cases present : '{' ∈ body
  · obtain ⟨inner, before, rfl, absent⟩ := List.eq_append_cons_of_mem present
    have span := span_ne_append absent before
    rw [span.1, span.2]
    rw [Bool.and_eq_true, Bool.and_eq_true, isBounds_iff, Bool.not_eq_true',
      isEscaped_eq_false_iff, Bool.not_eq_true', ← Bool.not_eq_true, isBraceEscape_iff]
    have turned : (inner ++ '{' :: before).reverse = before.reverse ++ '{' :: inner.reverse := by
      simp
    rw [turned]
    constructor
    · rintro ⟨⟨bounds, complete⟩, notArgument⟩
      exact ⟨before.reverse, inner.reverse, rfl, complete, notArgument, bounds⟩
    · rintro ⟨front, bounds, equal, complete, notArgument, isBounds⟩
      obtain ⟨rfl, rfl⟩ := append_cons_inj_last (by simpa using absent)
        (isBounds.not_mem rfl (by decide)) equal
      exact ⟨⟨isBounds, complete⟩, notArgument⟩
  · rw [(span_ne_of_not_mem present).2]
    constructor
    · nofun
    · rintro ⟨before, inner, equal, _⟩
      have member : '{' ∈ body.reverse := by simp [equal]
      exact absurd (List.mem_reverse.mp member) present

/-- Looking back finds the suffixes that reading from the left finds. -/
theorem endsInSuffix_iff (reversed : List Char) :
    Repetition.endsInSuffix reversed = true ↔ EndsInRepetition reversed.reverse := by
  cases reversed with
  | nil =>
      constructor
      · nofun
      · intro suffix
        generalize equal : ([] : List Char).reverse = text at suffix
        cases suffix <;> simp at equal
  | cons last body =>
      rw [List.reverse_cons, endsInRepetition_concat]
      by_cases isBrace : last = '}'
      · subst isBrace
        simp [endsInSuffix_closeBrace]
      rw [Repetition.endsInSuffix, if_neg isBrace]
      by_cases isSign : ['?', '*', '+'].contains last = true
      · rw [if_pos isSign, Bool.not_eq_true', isEscaped_eq_false_iff]
        simp [List.contains_iff_mem.mp isSign, isBrace]
      · rw [if_neg isSign]
        rw [List.contains_iff_mem] at isSign
        simp [isSign, isBrace]

/-- The test on texts is the test for a repetition suffix. -/
theorem isRepeating_iff (text : String) :
    isRepeating text = true ↔ EndsInRepetition text.toList := by
  rw [isRepeating, endsInSuffix_iff, List.reverse_reverse]

theorem isRepeating_eq_false_iff (text : String) :
    isRepeating text = false ↔ ¬ EndsInRepetition text.toList := by
  rw [← Bool.not_eq_true, isRepeating_iff]

instance (text : List Char) : Decidable (EndsInRepetition text) :=
  decidable_of_iff (Repetition.endsInSuffix text.reverse = true) <| by
    rw [endsInSuffix_iff, List.reverse_reverse]

/-- The test on texts is the test for a lazy mark. -/
theorem isLazy_iff (text : String) : isLazy text = true ↔ EndsInLazyMark text.toList := by
  rw [isLazy]
  constructor
  · intro isLazy
    unfold Repetition.endsInLazySuffix at isLazy
    split at isLazy
    · rename_i body reversedEq
      rw [Bool.and_eq_true, Bool.not_eq_true', isEscaped_eq_false_iff,
        endsInSuffix_iff] at isLazy
      have textEq : text.toList = body.reverse ++ ['?'] := by
        rw [← List.reverse_cons, ← reversedEq, List.reverse_reverse]
      exact ⟨body.reverse, textEq, isLazy⟩
    · cases isLazy
  · rintro ⟨before, textEq, complete, suffix⟩
    rw [textEq, List.reverse_append, List.reverse_singleton, List.singleton_append,
      Repetition.endsInLazySuffix, Bool.and_eq_true, Bool.not_eq_true', isEscaped_eq_false_iff,
      endsInSuffix_iff, List.reverse_reverse]
    exact ⟨complete, suffix⟩

end PatternAlgebra.Text
