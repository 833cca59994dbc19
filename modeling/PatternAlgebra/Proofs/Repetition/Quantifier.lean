import PatternAlgebra.Proofs.Nesting.Balanced
import PatternAlgebra.Proofs.Repetition.Suffix
import PatternAlgebra.Proofs.Text.Numeral
import PatternAlgebra.Repetition.Quantifier

/-!
# The grammar of suffixes

A quantifier with ordered bounds is written as a suffix of the grammar: a sign,
or bounds in braces that are decimal numerals, the lower not above the upper.
-/

namespace PatternAlgebra

namespace Text

open Token

/-! ## Suffixes -/

/-- The suffixes that repeat an item. -/
inductive IsQuantifier : List Char → Prop where
  | zeroOrMore : IsQuantifier ['*']
  | oneOrMore : IsQuantifier ['+']
  | optional : IsQuantifier ['?']
  | exactly {digits : List Char} {count : Nat} : decimal? digits = some count →
      IsQuantifier ('{' :: (digits ++ ['}']))
  | atLeast {digits : List Char} {lower : Nat} : decimal? digits = some lower →
      IsQuantifier ('{' :: (digits ++ [',', '}']))
  | between {lowerDigits upperDigits : List Char} {lower upper : Nat} :
      decimal? lowerDigits = some lower → decimal? upperDigits = some upper → lower ≤ upper →
      IsQuantifier ('{' :: (lowerDigits ++ ',' :: (upperDigits ++ ['}'])))

theorem IsQuantifier.isDelimiter_eq_false {suffix : List Char} (grammar : IsQuantifier suffix) :
    ∀ c ∈ suffix, isDelimiter c = false := by
  have digit {digits : List Char} {number : Nat} (read : decimal? digits = some number) :
      ∀ c ∈ digits, isDelimiter c = false := by
    intro c member
    have isDigit : c.isDigit = true := (isDigit_of_decimal? read).2 c member
    exact isDelimiter_eq_false_of (fun d => d.isDigit = true) isDigit (by decide)
  cases grammar with
  | zeroOrMore | oneOrMore | optional => simp [isDelimiter]
  | exactly read =>
      simp only [List.forall_mem_cons, List.forall_mem_append]
      exact ⟨rfl, digit read, by simp [isDelimiter]⟩
  | atLeast read =>
      simp only [List.forall_mem_cons, List.forall_mem_append]
      exact ⟨rfl, digit read, by simp [isDelimiter]⟩
  | between lowerRead upperRead _ =>
      simp only [List.forall_mem_cons, List.forall_mem_append]
      exact ⟨rfl, digit lowerRead, rfl, digit upperRead, by simp [isDelimiter]⟩

/-- A suffix is a sign, or bounds in braces. -/
theorem IsQuantifier.sign_or_bounds {suffix : List Char} (grammar : IsQuantifier suffix) :
    (∃ sign ∈ ['?', '*', '+'], suffix = [sign]) ∨
      ∃ inner, IsBounds inner ∧ suffix = '{' :: (inner ++ ['}']) := by
  cases grammar with
  | zeroOrMore | oneOrMore | optional => exact .inl ⟨_, by decide, rfl⟩
  | @exactly digits count read =>
      obtain ⟨nonempty, allDigits⟩ := isDigit_of_decimal? read
      exact .inr ⟨digits, .count nonempty allDigits, rfl⟩
  | @atLeast digits lower read =>
      obtain ⟨nonempty, allDigits⟩ := isDigit_of_decimal? read
      exact .inr ⟨digits ++ ',' :: [], .range nonempty allDigits nofun, by simp⟩
  | @between lowerDigits upperDigits lower upper lowerRead upperRead ordered =>
      obtain ⟨nonempty, allDigits⟩ := isDigit_of_decimal? lowerRead
      have bounds : IsBounds (lowerDigits ++ ',' :: upperDigits) :=
        .range nonempty allDigits (isDigit_of_decimal? upperRead).2
      exact .inr ⟨lowerDigits ++ ',' :: upperDigits, bounds, by simp⟩

theorem endsInRepetition_sign_iff {before : List Char} {sign : Char}
    (isSign : sign ∈ ['?', '*', '+']) :
    EndsInRepetition (before ++ [sign]) ↔ IsComplete before := by
  rw [endsInRepetition_concat]
  constructor
  · rintro (⟨_, complete⟩ | ⟨rfl, _⟩)
    · exact complete
    · exact absurd isSign (by decide)
  · intro complete
    exact .inl ⟨isSign, complete⟩

theorem endsInRepetition_bounds_iff {before inner : List Char} (bounds : IsBounds inner) :
    EndsInRepetition (before ++ '{' :: (inner ++ ['}'])) ↔
      IsComplete before ∧ ¬ EndsInArgumentEscape before := by
  constructor
  · intro repeating
    have split : before ++ '{' :: (inner ++ ['}']) = (before ++ '{' :: inner) ++ ['}'] := by simp
    rw [split, endsInRepetition_concat] at repeating
    rcases repeating with ⟨isSign, _⟩ | ⟨_, front, found, equal, complete, notArgument, isBounds⟩
    · exact absurd isSign (by decide)
    · obtain ⟨rfl, _⟩ := append_cons_inj_last (bounds.not_mem rfl (by decide))
        (isBounds.not_mem rfl (by decide)) equal
      exact ⟨complete, notArgument⟩
  · rintro ⟨complete, notArgument⟩
    exact .bounds complete notArgument bounds

/-- A suffix is found again behind a text exactly when no backslash at the end
of the text escapes it and no escape takes it for its argument. -/
theorem IsQuantifier.endsInRepetition_iff {before suffix : List Char}
    (grammar : IsQuantifier suffix) :
    EndsInRepetition (before ++ suffix) ↔
      IsComplete before ∧ (suffix.head? = some '{' → ¬ EndsInArgumentEscape before) := by
  rcases grammar.sign_or_bounds with ⟨sign, isSign, rfl⟩ | ⟨inner, bounds, rfl⟩
  · rw [endsInRepetition_sign_iff isSign]
    have notBrace : sign ≠ '{' := by
      rintro rfl
      exact absurd isSign (by decide)
    simp [notBrace]
  · rw [endsInRepetition_bounds_iff bounds]
    simp

/-- A suffix behind an item is found again, unless the item is an escape that
takes it for its argument. -/
theorem IsQuantifier.endsInRepetition {before suffix : List Char} (grammar : IsQuantifier suffix)
    (complete : IsComplete before) (notArgument : ¬ EndsInArgumentEscape before) :
    EndsInRepetition (before ++ suffix) :=
  grammar.endsInRepetition_iff.mpr ⟨complete, fun _ => notArgument⟩

theorem IsQuantifier.ne_nil {suffix : List Char} (grammar : IsQuantifier suffix) : suffix ≠ [] := by
  cases grammar <;> nofun

theorem IsQuantifier.exists_last {suffix : List Char} (grammar : IsQuantifier suffix) :
    ∃ front last, suffix = front ++ [last] ∧ last ∈ ['*', '+', '?', '}'] := by
  rcases grammar.sign_or_bounds with ⟨sign, isSign, rfl⟩ | ⟨inner, _, rfl⟩
  · have signsAmong : ∀ c ∈ ['?', '*', '+'], c ∈ ['*', '+', '?', '}'] := by simp
    exact ⟨[], sign, rfl, signsAmong sign isSign⟩
  · exact ⟨'{' :: inner, '}', by simp, by decide⟩

end Text

/-- The lower bound does not exceed the upper one. -/
def Quantifier.IsOrdered : Quantifier → Prop
  | between lower upper => lower ≤ upper
  | _ => True

instance : (quantifier : Quantifier) → Decidable quantifier.IsOrdered
  | .between lower upper => inferInstanceAs (Decidable (lower ≤ upper))
  | .zeroOrMore | .oneOrMore | .optional | .exactly _ | .atLeast _ =>
      inferInstanceAs (Decidable True)

theorem Quantifier.exists_reversed_of_not_isOrdered {quantifier : Quantifier}
    (notOrdered : ¬ quantifier.IsOrdered) :
    ∃ lower upper, quantifier = .between lower upper ∧ upper < lower := by
  cases quantifier with
  | between lower upper => exact ⟨lower, upper, rfl, Nat.not_le.mp notOrdered⟩
  | _ => exact absurd trivial notOrdered

/-- Ordered bounds are written as a suffix of the grammar. -/
theorem Quantifier.isQuantifier_suffix {quantifier : Quantifier} (ordered : quantifier.IsOrdered) :
    Text.IsQuantifier quantifier.suffix.toList := by
  have counted (count : Nat) :
      Text.IsQuantifier ("\x7b" ++ Text.decimal count ++ "\x7d").toList := by
    simpa using Text.IsQuantifier.exactly (Text.decimal?_decimal count)
  cases quantifier with
  | zeroOrMore => exact .zeroOrMore
  | oneOrMore => exact .oneOrMore
  | optional => exact .optional
  | exactly count => exact counted count
  | atLeast lower =>
      simp only [suffix]
      split_ifs
      · exact .zeroOrMore
      · exact .oneOrMore
      · simpa using Text.IsQuantifier.atLeast (Text.decimal?_decimal lower)
  | between lower upper =>
      simp only [suffix]
      split_ifs
      · exact .optional
      · exact counted lower
      · simpa using Text.IsQuantifier.between (Text.decimal?_decimal lower)
          (Text.decimal?_decimal upper) ordered

end PatternAlgebra
