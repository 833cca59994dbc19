import Mathlib.Tactic.SplitIfs
import PatternAlgebra.Text.Numeral

/-!
# Numerals are read back

What is written as a numeral, decimal or hexadecimal, is read as the same
number.  Both follow from one induction on the number: all but its last digit
are the numeral of the number divided by the base.
-/

namespace PatternAlgebra.Text

/-! ## Reading -/

/-- A numeral that is read has digits and nothing else. -/
theorem exists_digit_of_readDigits {base : Nat} {digit? : Char → Option Nat} {digits : List Char}
    {value number : Nat} (read : readDigits base digit? value digits = some number) :
    ∀ c ∈ digits, ∃ digit, digit? c = some digit := by
  induction digits generalizing value with
  | nil => nofun
  | cons first rest inductionHypothesis =>
      rw [readDigits] at read
      split at read
      · cases read
      · rename_i digit firstRead
        rw [List.forall_mem_cons]
        exact ⟨⟨digit, firstRead⟩, inductionHypothesis read⟩

theorem readDigits_append (base : Nat) (digit? : Char → Option Nat) (value : Nat)
    (first second : List Char) :
    readDigits base digit? value (first ++ second) =
      (readDigits base digit? value first).bind fun read => readDigits base digit? read second := by
  induction first generalizing value with
  | nil => rfl
  | cons c rest inductionHypothesis =>
      rw [List.cons_append, readDigits, readDigits]
      split
      · rfl
      · exact inductionHypothesis _

/-- Digits that stand for the remainders by the base give a numeral that is
read back. -/
theorem readDigits_toDigits {base : Nat} (positional : 1 < base) {digit? : Char → Option Nat}
    (digits : ∀ digit < base, digit? digit.digitChar = some digit) (number : Nat) :
    readDigits base digit? 0 (Nat.toDigits base number) = some number := by
  induction number using Nat.strongRecOn with
  | ind number inductionHypothesis =>
      have last {digit : Nat} (small : digit < base) (value : Nat) :
          readDigits base digit? value [digit.digitChar] = some (value * base + digit) := by
        simp [readDigits, digits digit small]
      by_cases small : number < base
      · rw [Nat.toDigits_of_lt_base small, last small]
        simp
      · rw [Nat.not_lt] at small
        have positive : 0 < number := by omega
        rw [Nat.toDigits_of_base_le positional small, readDigits_append,
          inductionHypothesis _ (Nat.div_lt_self positive positional), Option.bind_some,
          last (Nat.mod_lt number (by omega)), Nat.div_add_mod']

/-! ## Decimal numerals -/

theorem decimalDigit?_eq_some {c : Char} {digit : Nat} (read : decimalDigit? c = some digit) :
    c.isDigit = true := by
  unfold decimalDigit? at read
  split_ifs at read with isDigit
  simpa [Char.isDigit, Char.le_def] using isDigit

/-- A numeral has digits and nothing else. -/
theorem isDigit_of_decimal? {digits : List Char} {number : Nat}
    (read : decimal? digits = some number) :
    digits ≠ [] ∧ ∀ c ∈ digits, c.isDigit = true := by
  unfold decimal? at read
  split_ifs at read with empty
  constructor
  · simpa using empty
  · intro c member
    obtain ⟨digit, digitRead⟩ := exists_digit_of_readDigits read c member
    exact decimalDigit?_eq_some digitRead

theorem decimalDigit?_digitChar : ∀ digit < 10, decimalDigit? digit.digitChar = some digit := by
  decide

/-- What is written as a decimal numeral is read again. -/
theorem decimal?_decimal (number : Nat) : decimal? (decimal number).toList = some number := by
  have nonempty : (Nat.toDigits 10 number).isEmpty = false := by
    simp [Nat.toDigits_ne_nil]
  rw [decimal, String.toList_ofList, decimal?, nonempty, if_neg (by decide)]
  exact readDigits_toDigits (by decide) decimalDigit?_digitChar number

/-- A decimal numeral starts with zero only when it is that of zero. -/
theorem head?_toDigits_ne {number : Nat} (positive : 0 < number) :
    (Nat.toDigits 10 number).head? ≠ some '0' := by
  induction number using Nat.strongRecOn with
  | ind number inductionHypothesis =>
      by_cases small : number < 10
      · rw [Nat.toDigits_of_lt_base small]
        have noZero : ∀ digit < 10, 0 < digit → [digit.digitChar].head? ≠ some '0' := by decide
        exact noZero number small positive
      · rw [Nat.not_lt] at small
        have lead := inductionHypothesis (number / 10) (Nat.div_lt_self positive (by decide))
          (Nat.div_pos small (by decide))
        rw [Nat.toDigits_of_base_le (by decide) small]
        cases digits : Nat.toDigits 10 (number / 10) with
        | nil => exact absurd digits Nat.toDigits_ne_nil
        | cons first rest =>
            rw [digits] at lead
            exact lead

/-! ## Hexadecimal numerals -/

theorem hexDigit?_digitChar : ∀ digit < 16, hexDigit? digit.digitChar = some digit := by
  decide

theorem readDigits_hexadecimal (number : Nat) :
    readDigits 16 hexDigit? 0 (Nat.toDigits 16 number) = some number :=
  readDigits_toDigits (by decide) hexDigit?_digitChar number

theorem exists_digit_of_mem_hexadecimal (number : Nat) :
    ∀ c ∈ (hexadecimal number).toList, ∃ digit, hexDigit? c = some digit := by
  rw [hexadecimal, String.toList_ofList]
  exact exists_digit_of_readDigits (readDigits_hexadecimal number)

/-- What is written as a hexadecimal numeral is read again. -/
theorem hexadecimal?_hexadecimal (number : Nat) :
    hexadecimal? (hexadecimal number).toList = some number := by
  have nonempty : (Nat.toDigits 16 number).isEmpty = false := by
    simp [Nat.toDigits_ne_nil]
  rw [hexadecimal, String.toList_ofList, hexadecimal?, nonempty, if_neg (by decide)]
  exact readDigits_hexadecimal number

end PatternAlgebra.Text
