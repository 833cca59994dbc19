import PatternAlgebra.Text.Numeral

/-!
# Quoted texts

Diagnostics show texts between double quotes.  A quote and a backslash are
escaped, the usual control characters have letter escapes, and every other
control character is written as its code point in braces.  A single quote and
characters outside ASCII stand for themselves.
-/

namespace PatternAlgebra.Text

/-- A character as it is written between double quotes. -/
def quotedChar (c : Char) : String :=
  if c = '"' then "\\\""
  else if c = '\\' then "\\\\"
  else if c = '\n' then "\\n"
  else if c = '\t' then "\\t"
  else if c = '\r' then "\\r"
  else if c.toNat = 0 then "\\0"
  else if c.toNat < 0x20 ∨ (0x7F ≤ c.toNat ∧ c.toNat < 0xA0) then
    "\\u\x7b" ++ hexadecimal c.toNat ++ "\x7d"
  else c.toString

/-- A text between double quotes. -/
def quoted (text : String) : String :=
  "\"" ++ String.join (text.toList.map quotedChar) ++ "\""

/-- A list of quoted texts in brackets. -/
def quotedList (texts : List String) : String :=
  "[" ++ ", ".intercalate (texts.map quoted) ++ "]"

end PatternAlgebra.Text
