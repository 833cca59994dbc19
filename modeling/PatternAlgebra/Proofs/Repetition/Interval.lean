import PatternAlgebra.Proofs.Pattern.Quantified

/-!
# Intervals of counts

What a quantifier asks for is an interval of counts, and several calls can ask
for the same one.  The suffix depends on the interval alone and is read back as
that interval, so it is a normal form: a pattern that is repeated twice over is
written in the same way exactly when the same interval was asked for.
-/

namespace PatternAlgebra

open Text

/-- The counts from a lower bound up to an upper one, or without end. -/
structure Interval where
  lower : Nat
  upper : Option Nat
  deriving DecidableEq, Repr

namespace Interval

/-- The interval whose bounds stand between braces. -/
def ofBounds? (inner : List Char) : Option Interval := do
  let lower ← decimal? (inner.takeWhile (· ≠ ','))
  match inner.dropWhile (· ≠ ',') with
  | [] => return ⟨lower, some lower⟩
  | [_] => return ⟨lower, none⟩
  | _ :: digits =>
      let upper ← decimal? digits
      return ⟨lower, some upper⟩

/-- The interval that a suffix stands for. -/
def ofSuffix? : List Char → Option Interval
  | ['?'] => some ⟨0, some 1⟩
  | ['*'] => some ⟨0, none⟩
  | ['+'] => some ⟨1, none⟩
  | '{' :: rest => if rest.getLast? = some '}' then ofBounds? rest.dropLast else none
  | _ => none

/-- The quantifier that asks for any interval. -/
def quantifier : Interval → Quantifier
  | ⟨lower, none⟩ => .atLeast lower
  | ⟨lower, some upper⟩ => .between lower upper

theorem ofSuffix?_braces (inner : List Char) :
    ofSuffix? ('{' :: (inner ++ ['}'])) = ofBounds? inner := by
  simp [ofSuffix?]

section Bounds

variable {lowerDigits upperDigits : List Char} {lower upper : Nat}

theorem comma_not_mem_of_decimal? (read : decimal? lowerDigits = some lower) :
    ',' ∉ lowerDigits :=
  not_mem_of_isDigit (isDigit_of_decimal? read).2 rfl

theorem ofBounds?_count (read : decimal? lowerDigits = some lower) :
    ofBounds? lowerDigits = some ⟨lower, some lower⟩ := by
  have span := span_ne_of_not_mem (comma_not_mem_of_decimal? read)
  rw [ofBounds?, span.1, span.2, read]
  rfl

theorem ofBounds?_atLeast (read : decimal? lowerDigits = some lower) :
    ofBounds? (lowerDigits ++ [',']) = some ⟨lower, none⟩ := by
  have span := span_ne_append (comma_not_mem_of_decimal? read) []
  rw [ofBounds?, span.1, span.2, read]
  rfl

theorem ofBounds?_between (lowerRead : decimal? lowerDigits = some lower)
    (upperRead : decimal? upperDigits = some upper) :
    ofBounds? (lowerDigits ++ ',' :: upperDigits) = some ⟨lower, some upper⟩ := by
  have span := span_ne_append (comma_not_mem_of_decimal? lowerRead) upperDigits
  obtain ⟨c, rest, rfl⟩ := List.exists_cons_of_ne_nil (isDigit_of_decimal? upperRead).1
  rw [ofBounds?, span.1, span.2, lowerRead]
  simp [upperRead]

end Bounds

end Interval

namespace Quantifier

/-- The interval that a quantifier asks for. -/
def interval : Quantifier → Interval
  | zeroOrMore => ⟨0, none⟩
  | oneOrMore => ⟨1, none⟩
  | optional => ⟨0, some 1⟩
  | exactly count => ⟨count, some count⟩
  | atLeast lower => ⟨lower, none⟩
  | between lower upper => ⟨lower, some upper⟩

theorem suffix_exactly (count : Nat) : (exactly count).suffix = (between count count).suffix := by
  have notOptional : ¬ (count = 0 ∧ count = 1) := by omega
  simp [suffix, notOptional]

/-- The suffix depends on the interval alone. -/
theorem suffix_eq_of_interval (quantifier : Quantifier) :
    quantifier.suffix = quantifier.interval.quantifier.suffix := by
  cases quantifier with
  | exactly count => exact suffix_exactly count
  | zeroOrMore | oneOrMore | optional | atLeast lower | between lower upper => rfl

/-- A suffix is read back as the interval that was asked for. -/
theorem ofSuffix?_suffix (quantifier : Quantifier) :
    Interval.ofSuffix? quantifier.suffix.toList = some quantifier.interval := by
  have counted (count : Nat) :
      Interval.ofSuffix? (exactly count).suffix.toList = some ⟨count, some count⟩ := by
    have written : (exactly count).suffix.toList = '{' :: ((decimal count).toList ++ ['}']) := by
      simp [suffix]
    rw [written, Interval.ofSuffix?_braces]
    exact Interval.ofBounds?_count (decimal?_decimal count)
  cases quantifier with
  | zeroOrMore | oneOrMore | optional => rfl
  | exactly count => exact counted count
  | atLeast lower =>
      by_cases zero : lower = 0
      · subst zero
        rfl
      by_cases one : lower = 1
      · subst one
        rfl
      have written : (atLeast lower).suffix.toList =
          '{' :: (((decimal lower).toList ++ [',']) ++ ['}']) := by
        simp [suffix, zero, one]
      rw [written, Interval.ofSuffix?_braces]
      exact Interval.ofBounds?_atLeast (decimal?_decimal lower)
  | between lower upper =>
      by_cases optional : lower = 0 ∧ upper = 1
      · obtain ⟨rfl, rfl⟩ := optional
        rfl
      by_cases equal : lower = upper
      · subst equal
        rw [← suffix_exactly]
        exact counted lower
      have written : (between lower upper).suffix.toList =
          '{' :: (((decimal lower).toList ++ ',' :: (decimal upper).toList) ++ ['}']) := by
        simp [suffix, optional, equal]
      rw [written, Interval.ofSuffix?_braces]
      exact Interval.ofBounds?_between (decimal?_decimal lower) (decimal?_decimal upper)

/-- Suffixes are a normal form of intervals. -/
theorem suffix_eq_iff {first second : Quantifier} :
    first.suffix = second.suffix ↔ first.interval = second.interval := by
  constructor
  · intro same
    have firstRead := ofSuffix?_suffix first
    rw [same, ofSuffix?_suffix second] at firstRead
    exact (Option.some.inj firstRead).symm
  · intro same
    rw [suffix_eq_of_interval first, same, ← suffix_eq_of_interval second]

/-- The bounds parser of the suffix detector accepts what stands between the
braces of a suffix. -/
theorem isBounds_of_suffix {quantifier : Quantifier} (ordered : quantifier.IsOrdered)
    {inner : List Char} (written : quantifier.suffix.toList = '{' :: (inner ++ ['}'])) :
    Repetition.isBounds inner = true := by
  rcases (isQuantifier_suffix ordered).sign_or_bounds with
    ⟨sign, _, equal⟩ | ⟨bounds, isBounds, equal⟩
  · rw [written] at equal
    simp at equal
  · rw [written] at equal
    obtain rfl := List.append_cancel_right (List.cons.inj equal).2
    exact (isBounds_iff inner).mpr isBounds

end Quantifier

namespace Pattern

variable {pattern : Pattern}

theorem quantifierFault?_interval (pattern : Pattern) (quantifier : Quantifier) :
    pattern.quantifierFault? quantifier =
      pattern.quantifierFault? quantifier.interval.quantifier := by
  cases quantifier with
  | exactly count => simp [quantifierFault?, Quantifier.interval, Interval.quantifier]
  | zeroOrMore | oneOrMore | optional | atLeast lower | between lower upper => rfl

/-- What a quantifier does to a pattern depends on the interval alone. -/
theorem quantify_interval (pattern : Pattern) (quantifier : Quantifier) :
    pattern.quantify quantifier = pattern.quantify quantifier.interval.quantifier := by
  rw [quantify, quantify, quantifierFault?_interval, Quantifier.suffix_eq_of_interval]

theorem exists_grouped_of_quantify {quantifier : Quantifier} {repeated : Pattern}
    (accepted : pattern.quantify quantifier = .ok repeated) :
    ∃ grouped, pattern.toNonCaptureGroup = .ok grouped ∧
      repeated.text = grouped.text ++ quantifier.suffix ∧ repeated.names = grouped.names := by
  unfold quantify at accepted
  split at accepted
  · cases accepted
  · split at accepted
    · cases accepted
    · cases accepted
      exact ⟨_, ‹_›, Rope.text_push _ _, rfl⟩

/-- The pattern is put into one item and repeated as often as the interval
says, where the suffix that says so is one that the builder finds again. -/
structure RepeatsWithin (pattern : Pattern) (interval : Interval) (repeated : Pattern) :
    Prop where
  isOrdered : ∀ upper, interval.upper = some upper → interval.lower ≤ upper
  text : ∃ (grouped : Pattern) (suffix : String), pattern.toNonCaptureGroup = .ok grouped ∧
    repeated.text = grouped.text ++ suffix ∧ repeated.names = grouped.names ∧
    Interval.ofSuffix? suffix.toList = some interval ∧
    ∀ inner, suffix.toList = '{' :: (inner ++ ['}']) → Repetition.isBounds inner = true

theorem repeatsWithin_of_quantify {quantifier : Quantifier} {repeated : Pattern}
    (accepted : pattern.quantify quantifier = .ok repeated) :
    pattern.RepeatsWithin quantifier.interval repeated := by
  obtain ⟨_, ordered, _⟩ := quantify_eq_ok accepted
  obtain ⟨grouped, grouping, textEq, namesEq⟩ := exists_grouped_of_quantify accepted
  constructor
  · intro upper bounded
    cases quantifier <;> cases bounded
    · exact Nat.zero_le 1
    · exact Nat.le_refl _
    · exact ordered
  · exact ⟨grouped, quantifier.suffix, grouping, textEq, namesEq,
      quantifier.ofSuffix?_suffix, fun _ => Quantifier.isBounds_of_suffix ordered⟩

/-- A quantifier that is accepted repeats the pattern within the interval it
asks for.  Two quantifiers for one interval have the same outcome, be it a
result or an error, and quantifiers for different intervals never write the
same text. -/
theorem quantify_normal_form (pattern : Pattern) (first second : Quantifier) :
    (∀ repeated, pattern.quantify first = .ok repeated →
        pattern.RepeatsWithin first.interval repeated) ∧
      (first.interval = second.interval → pattern.quantify first = pattern.quantify second) ∧
      ∀ one other, pattern.quantify first = .ok one → pattern.quantify second = .ok other →
        (one.text = other.text ↔ first.interval = second.interval) := by
  refine ⟨fun repeated => repeatsWithin_of_quantify, ?_, ?_⟩
  · intro same
    rw [quantify_interval pattern first, same, ← quantify_interval]
  · intro one other oneAccepted otherAccepted
    obtain ⟨grouped, grouping, oneText, _⟩ := exists_grouped_of_quantify oneAccepted
    obtain ⟨same, sameGrouping, otherText, _⟩ := exists_grouped_of_quantify otherAccepted
    rw [grouping] at sameGrouping
    cases sameGrouping
    rw [oneText, otherText, ← Quantifier.suffix_eq_iff]
    exact String.append_right_inj grouped.text

/-- Two letters, repeated exactly twice and from twice to twice. -/
theorem quantify_normal_form_of_two_letters :
    ∃ repeated same, (literal "ab").quantify (.exactly 2) = .ok repeated ∧
      (literal "ab").quantify (.between 2 2) = .ok same ∧
      (literal "ab").RepeatsWithin ⟨2, some 2⟩ repeated ∧ repeated.text = same.text := by
  have normalForm := quantify_normal_form (literal "ab") (.exactly 2) (.between 2 2)
  exact ⟨_, _, rfl, rfl, normalForm.1 _ rfl, (normalForm.2.2 _ _ rfl rfl).mpr rfl⟩

end Pattern

end PatternAlgebra
