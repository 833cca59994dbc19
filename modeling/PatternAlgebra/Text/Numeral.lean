/-!
# Numerals

Natural numbers are written without leading zeros, in decimal or in lower-case
hexadecimal digits.  Reading is more generous than writing: leading zeros and
upper-case hexadecimal digits are understood.
-/

namespace PatternAlgebra.Text

/-- The value of a decimal digit. -/
def decimalDigit? (c : Char) : Option Nat :=
  if '0' ≤ c ∧ c ≤ '9' then some (c.toNat - 48) else none

/-- The value of a hexadecimal digit of either case. -/
def hexDigit? (c : Char) : Option Nat :=
  if '0' ≤ c ∧ c ≤ '9' then some (c.toNat - 48)
  else if 'a' ≤ c ∧ c ≤ 'f' then some (c.toNat - 87)
  else if 'A' ≤ c ∧ c ≤ 'F' then some (c.toNat - 55)
  else none

/-- Continue to read a numeral whose leading digits have the given value. -/
def readDigits (base : Nat) (digit? : Char → Option Nat) : Nat → List Char → Option Nat
  | value, [] => some value
  | value, c :: rest =>
      match digit? c with
      | none => none
      | some digit => readDigits base digit? (value * base + digit) rest

/-- Read a decimal numeral of at least one digit. -/
def decimal? (digits : List Char) : Option Nat :=
  if digits.isEmpty then none else readDigits 10 decimalDigit? 0 digits

/-- Read a hexadecimal numeral of at least one digit. -/
def hexadecimal? (digits : List Char) : Option Nat :=
  if digits.isEmpty then none else readDigits 16 hexDigit? 0 digits

/-- Write a natural number in decimal digits. -/
def decimal (n : Nat) : String :=
  String.ofList (Nat.toDigits 10 n)

/-- Write a natural number in lower-case hexadecimal digits. -/
def hexadecimal (n : Nat) : String :=
  String.ofList (Nat.toDigits 16 n)

end PatternAlgebra.Text
